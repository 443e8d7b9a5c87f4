import Panelli.WifiHal.Commands
import Panelli.Blocks
import Panelli.Runs

open panelli.blocks panelli.runs

namespace panelli.wifi_hal.ledger

/-- What decides how far a call comes, message by message: whether there is room for
it, what the puts into it return, and what the kernel answers to it. -/
structure Answers where
  granted : Nat → Bool
  put : Nat → Int
  reply : Nat → Int
  put_le : ∀ i, put i ≤ 0
  reply_le : ∀ i, reply i ≤ 0

/-- The result of `WifiRequest::create` and the puts that follow it. -/
def Answers.built (a : Answers) (i : Nat) : Int :=
  if a.granted i then a.put i else WIFI_ERROR_OUT_OF_MEMORY

theorem Answers.built_le (a : Answers) (i : Nat) : a.built i ≤ 0 := by
  rw [Answers.built]
  split
  · exact a.put_le i
  · decide

/-- The results the handler calls depend on. -/
def Answers.kernel (a : Answers) : Kernel := ⟨a.built, a.reply, a.built_le, a.reply_le⟩

theorem success_le (_ : Nat) : WIFI_SUCCESS ≤ 0 := Int.le_refl 0

/-- There is room for every message, and no step of the call fails. -/
def Answers.ok : Answers := ⟨fun _ => true, fun _ => WIFI_SUCCESS, fun _ => WIFI_SUCCESS, success_le, success_le⟩

/-- The size of a message that `nlmsg_alloc` makes. -/
def pageSize : Nat := 4096

/-- A request and the heap its messages are in. -/
structure WifiRequest where
  mMsg : Option Address
  heap : Blocks

/-- Sets `mMsg` to the new message, or to `NULL`. The message there was is not freed. -/
def WifiRequest.create (request : WifiRequest) (granted : Bool) : WifiRequest where
  mMsg := (request.heap.malloc granted pageSize).1
  heap := (request.heap.malloc granted pageSize).2

def WifiRequest.destroy (request : WifiRequest) : WifiRequest where
  mMsg := none
  heap := request.heap.free request.mMsg

/-- The puts and `requestResponse` go through what `getMessage` returns. -/
def WifiRequest.access (request : WifiRequest) : WifiRequest :=
  match request.mMsg with
  | some msg => { request with heap := request.heap.access msg 0 pageSize }
  | none => { request with heap := { request.heap with misused := true } }

/-- What a command method does with its `request`. One class overwrites the result of
`WifiRequest::create` by that of the first put, and so puts into the message in any case. -/
inductive RequestStep where
  | create (i : Nat)
  | createUnchecked (i : Nat)
  | requestResponse (i : Nat)
  | destroy

open RequestStep

/-- What a put into `NULL` returns does not matter: by then the heap is misused. -/
def RequestStep.exec (a : Answers) : RequestStep → WifiRequest → Int × WifiRequest
  | create i, request => (a.built i, request.create (a.granted i))
  | createUnchecked i, request => (a.built i, (request.create (a.granted i)).access)
  | requestResponse i, request => (a.reply i, request.access)
  | destroy, request => (WIFI_SUCCESS, request.destroy)

/-- A method returns at its first step that fails. -/
def execAll (a : Answers) : List RequestStep → WifiRequest → Int × WifiRequest
  | [], request => (WIFI_SUCCESS, request)
  | step :: steps, request =>
    let (result, request) := step.exec a request
    if result < 0 then (result, request) else execAll a steps request

/-- The messages of `start`. Only `ScanCommand` destroys one before it makes the next. -/
def startRequests : CommandClass → List RequestStep
  | .ScanCommand =>
    [create 0, requestResponse 0, destroy, create 1, requestResponse 1, create 2, requestResponse 2]
  | .BssidHotlistCommand => [create 0, requestResponse 0, create 1, requestResponse 1]
  | .SignificantWifiChangeCommand => [create 0, requestResponse 0, create 1, requestResponse 1]
  | .FullScanResultsCommand => [create 0, requestResponse 0]
  | .ePNOCommand => [create 0, requestResponse 0]
  | .BssidBlacklistCommand => [create 0, requestResponse 0]
  | .AnqpoConfigureCommand => [createUnchecked 0, requestResponse 0]
  | .SetRSSIMonitorCommand => [create 0, requestResponse 0]
  | .RttCommand => [create 0, requestResponse 0]

/-- The messages of `cancel`, which `BssidBlacklistCommand` does not override. -/
def cancelRequests : CommandClass → List RequestStep
  | .BssidBlacklistCommand => []
  | .AnqpoConfigureCommand => [createUnchecked 0, requestResponse 0]
  | _ => [create 0, requestResponse 0]

/-- One call of a command method. -/
inductive Call where
  | start (cls : CommandClass) (a : Answers)
  | cancel (cls : CommandClass) (a : Answers)

def Call.answers : Call → Answers
  | start _ a => a
  | cancel _ a => a

def Call.requests : Call → List RequestStep
  | start cls _ => startRequests cls
  | cancel cls _ => cancelRequests cls

/-- The heap after a call: its local `request` is made, used and destroyed. -/
def Call.exec (heap : Blocks) (call : Call) : Blocks :=
  (execAll call.answers call.requests ⟨none, heap⟩).2.destroy.heap

/-- The call makes a message while it still has another. -/
def Call.Leaks : Call → Prop
  | start .ScanCommand a => a.built 0 = 0 ∧ a.reply 0 = 0 ∧ a.built 1 = 0 ∧ a.reply 1 = 0
  | start .BssidHotlistCommand a => a.built 0 = 0 ∧ a.reply 0 = 0
  | start .SignificantWifiChangeCommand a => a.built 0 = 0 ∧ a.reply 0 = 0
  | _ => False

instance : DecidablePred Call.Leaks := fun call => by
  unfold Call.Leaks
  split <;> infer_instance

/-- The call puts into a message that could not be made. -/
def Call.Crashes : Call → Prop
  | start .AnqpoConfigureCommand a | cancel .AnqpoConfigureCommand a => a.granted 0 = false
  | _ => False

/-! The ledger of one method: which messages it loses, and that it sends none it does not have. -/

/-- How many messages the steps overwrite, if there is one or not. -/
def lostBy (a : Answers) : Bool → List RequestStep → Nat
  | _, [] => 0
  | held, create i :: steps | held, createUnchecked i :: steps =>
    held.toNat + if a.built i < 0 then 0 else lostBy a true steps
  | held, requestResponse i :: steps => if a.reply i < 0 then 0 else lostBy a held steps
  | _, destroy :: steps => lostBy a false steps

/-- Every message that is sent was made before. -/
def Ordered : Bool → List RequestStep → Prop
  | _, [] => True
  | _, create _ :: steps | _, createUnchecked _ :: steps => Ordered true steps
  | held, requestResponse _ :: steps => held = true ∧ Ordered held steps
  | _, destroy :: steps => Ordered false steps

/-- The request has its message, beside those that were lost. -/
structure Holding (base : Address → Option Nat) (lost : List Address) (request : WifiRequest) : Prop where
  owns : Owns base (request.mMsg.toList ++ lost) request.heap
  whole : ∀ msg ∈ request.mMsg, request.heap.size msg = some pageSize

section

variable {a : Answers} {base : Address → Option Nat} {lost : List Address} {request : WifiRequest}

theorem Holding.create (hold : Holding base lost request) (granted : Bool) :
    Holding base (request.mMsg.toList ++ lost) (request.create granted) where
  owns := hold.owns.malloc granted pageSize
  whole := Blocks.malloc_size request.heap granted pageSize

theorem Holding.destroy (hold : Holding base lost request) : Holding base lost request.destroy where
  owns := hold.owns.free_toList
  whole := by simp [WifiRequest.destroy]

theorem Holding.access (hold : Holding base lost request) (hheld : request.mMsg.isSome = true) :
    request.access = request := by
  obtain ⟨msg, hmsg⟩ := Option.isSome_iff_exists.mp hheld
  have hsize := hold.whole msg hmsg
  have hholds : request.heap.Holds msg 0 pageSize := ⟨pageSize, hsize, by omega⟩
  rw [WifiRequest.access, hmsg]
  simp only [Blocks.access_of_holds hholds]
  cases request
  cases hmsg
  rfl

theorem create_isSome (request : WifiRequest) (i : Nat) (hbuilt : ¬ a.built i < 0) :
    (request.create (a.granted i)).mMsg.isSome = true := by
  cases hgranted : a.granted i with
  | true => rfl
  | false =>
    have hfailed : a.built i < 0 := by
      simp [Answers.built, hgranted]
    exact absurd hfailed hbuilt

/-- The messages a method loses are as many as it overwrites. -/
theorem execAll_holding {held : Bool} (steps : List RequestStep) (hold : Holding base lost request)
    (hheld : request.mMsg.isSome = held) (hordered : Ordered held steps)
    (hmade : ∀ i, createUnchecked i ∈ steps → a.granted i = true) :
    ∃ more : List Address, more.length = lostBy a held steps ∧
      Holding base (more ++ lost) (execAll a steps request).2 := by
  induction steps generalizing request held lost with
  | nil => exact ⟨[], rfl, hold⟩
  | cons step steps ih =>
    have hmade' : ∀ i, createUnchecked i ∈ steps → a.granted i = true :=
      fun i hmem => hmade i (List.mem_cons_of_mem step hmem)
    have hcreate : ∀ i, Ordered true steps → ∃ more : List Address,
        more.length = lostBy a held (create i :: steps) ∧
          Holding base (more ++ lost) (execAll a (create i :: steps) request).2 := by
      intro i hordered
      have hlength : request.mMsg.toList.length = held.toNat := by
        subst hheld
        cases request.mMsg
        · rfl
        · rfl
      have hnew := hold.create (a.granted i)
      by_cases hfailed : a.built i < 0
      · refine ⟨request.mMsg.toList, ?_, ?_⟩
        · simp [lostBy, hfailed, hlength]
        · simpa [execAll, RequestStep.exec, hfailed] using hnew
      · obtain ⟨more, hmore, hrest⟩ := ih hnew (create_isSome request i hfailed) hordered hmade'
        refine ⟨more ++ request.mMsg.toList, ?_, ?_⟩
        · rw [List.length_append, hmore, hlength, lostBy, if_neg hfailed]
          omega
        · rw [List.append_assoc]
          simpa [execAll, RequestStep.exec, hfailed] using hrest
    cases step with
    | create i => exact hcreate i hordered
    | createUnchecked i =>
      -- a message that was made is put into, as behind a check
      have hgranted : a.granted i = true := hmade i List.mem_cons_self
      have hexec : RequestStep.exec a (createUnchecked i) request = RequestStep.exec a (create i) request := by
        have hsome : (request.create (a.granted i)).mMsg.isSome = true := by
          rw [hgranted]
          rfl
        exact congrArg (Prod.mk (a.built i)) ((hold.create (a.granted i)).access hsome)
      obtain ⟨more, hmore, hrest⟩ := hcreate i hordered
      refine ⟨more, hmore, ?_⟩
      rw [execAll, hexec]
      exact hrest
    | requestResponse i =>
      obtain ⟨rfl, hordered⟩ := hordered
      have hsent := hold.access hheld
      by_cases hfailed : a.reply i < 0
      · refine ⟨[], ?_, ?_⟩
        · simp [lostBy, hfailed]
        · simpa [execAll, RequestStep.exec, hfailed, hsent] using hold
      · obtain ⟨more, hmore, hrest⟩ := ih hold hheld hordered hmade'
        refine ⟨more, ?_, ?_⟩
        · rw [hmore, lostBy, if_neg hfailed]
        · simpa [execAll, RequestStep.exec, hfailed, hsent] using hrest
    | destroy =>
      obtain ⟨more, hmore, hrest⟩ := ih hold.destroy rfl hordered hmade'
      refine ⟨more, hmore, ?_⟩
      simpa [execAll, RequestStep.exec] using hrest

/-- A misuse stays one. -/
theorem misused_access (hmisused : request.heap.misused = true) : request.access.heap.misused = true := by
  unfold WifiRequest.access
  split
  · exact Blocks.misused_access hmisused _ _ _
  · rfl

theorem misused_exec (step : RequestStep) (hmisused : request.heap.misused = true) :
    (step.exec a request).2.heap.misused = true := by
  have hcreate : ∀ granted, (request.create granted).heap.misused = true :=
    fun granted => (Blocks.malloc_misused _ granted pageSize).trans hmisused
  cases step with
  | create i => exact hcreate (a.granted i)
  | createUnchecked i => exact misused_access (hcreate (a.granted i))
  | requestResponse i => exact misused_access hmisused
  | destroy => exact Blocks.misused_free hmisused _

theorem misused_execAll (steps : List RequestStep) (hmisused : request.heap.misused = true) :
    (execAll a steps request).2.heap.misused = true := by
  induction steps generalizing request with
  | nil => exact hmisused
  | cons step steps ih =>
    have hstep := misused_exec (a := a) step hmisused
    rw [execAll]
    dsimp only
    split
    · exact hstep
    · exact ih hstep

end

/-! The methods of the command classes. -/

theorem Call.requests_ordered (call : Call) : Ordered false call.requests := by
  cases call with
  | start cls a => cases cls <;> simp [Call.requests, startRequests, Ordered]
  | cancel cls a => cases cls <;> simp [Call.requests, cancelRequests, Ordered]

/-- No result of a call is positive, so what has not failed has succeeded. -/
theorem ite_neg {result : Int} (hle : result ≤ 0) (x y : Nat) :
    (if result < 0 then x else y) = if result = 0 then y else x := by
  split_ifs
  · omega
  · rfl
  · rfl
  · omega

theorem Call.lostBy_requests (call : Call) :
    lostBy call.answers false call.requests = if call.Leaks then 1 else 0 := by
  cases call with
  | start cls a =>
    cases cls <;> simp only [Call.requests, startRequests, lostBy, Call.Leaks, Call.answers,
      ite_neg (a.built_le _), ite_neg (a.reply_le _), Bool.toNat_false, Bool.toNat_true]
    all_goals split_ifs <;> simp_all
  | cancel cls a => cases cls <;> simp [Call.requests, cancelRequests, lostBy, Call.Leaks]

theorem Call.made_of_not_crashes {call : Call} (hcrashes : ¬ call.Crashes) {i : Nat}
    (hmem : createUnchecked i ∈ call.requests) : call.answers.granted i = true := by
  cases call with
  | start cls a =>
    cases cls with
    | AnqpoConfigureCommand =>
      obtain rfl : i = 0 := by simpa [Call.requests, startRequests] using hmem
      exact Bool.eq_true_of_not_eq_false hcrashes
    | _ => simp [Call.requests, startRequests] at hmem
  | cancel cls a =>
    cases cls with
    | AnqpoConfigureCommand =>
      obtain rfl : i = 0 := by simpa [Call.requests, cancelRequests] using hmem
      exact Bool.eq_true_of_not_eq_false hcrashes
    | _ => simp [Call.requests, cancelRequests] at hmem

/-- One call loses at most one message, and gives all others back. -/
theorem Call.exec_owns {base : Address → Option Nat} {lost : List Address} {heap : Blocks}
    (howns : Owns base lost heap) {call : Call} (hcrashes : ¬ call.Crashes) :
    ∃ more : List Address, more.length = (if call.Leaks then 1 else 0) ∧
      Owns base (more ++ lost) (call.exec heap) := by
  have hold : Holding base lost ⟨none, heap⟩ := ⟨howns, by simp⟩
  have hheld : (⟨none, heap⟩ : WifiRequest).mMsg.isSome = false := rfl
  obtain ⟨more, hmore, hrest⟩ := execAll_holding (a := call.answers) call.requests hold hheld call.requests_ordered
    fun i hmem => call.made_of_not_crashes hcrashes hmem
  refine ⟨more, ?_, ?_⟩
  · rw [hmore, call.lostBy_requests]
  · exact hrest.destroy.owns

theorem Call.misused_exec (call : Call) {heap : Blocks} (hmisused : heap.misused = true) :
    (call.exec heap).misused = true :=
  Blocks.misused_free (misused_execAll call.requests hmisused) _

/-- A put into a message that could not be made is a misuse. -/
theorem Call.misused_of_crashes {call : Call} (hcrashes : call.Crashes) (heap : Blocks) :
    (call.exec heap).misused = true := by
  have hput : ∀ (a : Answers), a.granted 0 = false →
      ((execAll a [createUnchecked 0, requestResponse 0] ⟨none, heap⟩).2.destroy.heap).misused = true := by
    intro a hrefused
    refine Blocks.misused_free ?_ _
    simp [execAll, RequestStep.exec, hrefused, WifiRequest.create, WifiRequest.access, Answers.built]
  cases call with
  | start cls a =>
    cases cls with
    | AnqpoConfigureCommand => exact hput a hcrashes
    | _ => exact absurd hcrashes id
  | cancel cls a =>
    cases cls with
    | AnqpoConfigureCommand => exact hput a hcrashes
    | _ => exact absurd hcrashes id

theorem execAll_cons_result (a : Answers) (step next : RequestStep) (steps : List RequestStep)
    (request : WifiRequest) : (execAll a (step :: next :: steps) request).1 =
      if (step.exec a request).1 < 0 then (step.exec a request).1
      else (execAll a (next :: steps) (step.exec a request).2).1 := by
  conv_lhs => rw [execAll]
  simp only []
  split_ifs
  · rfl
  · rfl

/-- The last reply decides the result. -/
theorem execAll_last_result (a : Answers) (i : Nat) (request : WifiRequest) :
    (execAll a [requestResponse i] request).1 = a.reply i := by
  by_cases hfailed : a.reply i < 0
  · simp [execAll, RequestStep.exec, hfailed]
  · have hzero : a.reply i = WIFI_SUCCESS := le_antisymm (a.reply_le i) (not_lt.mp hfailed)
    simp [execAll, RequestStep.exec, hzero]

theorem lt_iff_ne_success {result : Int} (hle : result ≤ 0) : result ≠ WIFI_SUCCESS ↔ result < 0 :=
  ⟨fun hne => lt_of_le_of_ne hle hne, ne_of_lt⟩

/-- A method returns what the model of its handler calls returns. -/
theorem start_result (cls : CommandClass) (a : Answers) (heap : Blocks) :
    (execAll a (startRequests cls) ⟨none, heap⟩).1 = (cls.start a.kernel).1 := by
  have hbuilt (i : Nat) : a.built i ≠ WIFI_SUCCESS ↔ a.built i < 0 := lt_iff_ne_success (a.built_le i)
  have hreply (i : Nat) : a.reply i ≠ WIFI_SUCCESS ↔ a.reply i < 0 := lt_iff_ne_success (a.reply_le i)
  cases cls <;> simp only [startRequests, execAll_cons_result, RequestStep.exec, execAll_last_result,
    CommandClass.start, ScanCommand.start, FullScanResultsCommand.start, registerThenRequest, BssidHotlistCommand.start,
    ePNOCommand.start, SignificantWifiChangeCommand.start, BssidBlacklistCommand.start,
    AnqpoConfigureCommand.start, SetRSSIMonitorCommand.start, RttCommand.start, Answers.kernel, hbuilt, hreply,
    lt_irrefl, if_false]
  all_goals grind

theorem misused_run (calls : List Call) {heap : Blocks} (hmisused : heap.misused = true) :
    (run Call.exec heap calls).misused = true :=
  run_induction (I := fun heap : Blocks => heap.misused = true)
    (fun _ call hheap => call.misused_exec hheap) hmisused calls

theorem misused_run_of_crashes {calls : List Call} {call : Call} (hmem : call ∈ calls) (hcrashes : call.Crashes)
    (heap : Blocks) : (run Call.exec heap calls).misused = true := by
  induction calls generalizing heap with
  | nil => cases hmem
  | cons first calls ih =>
    rw [run_cons]
    obtain rfl | hmem := List.mem_cons.mp hmem
    · exact misused_run calls (Call.misused_of_crashes hcrashes heap)
    · exact ih hmem (first.exec heap)

theorem run_owns {base : Address → Option Nat} {before : List Address} {heap : Blocks}
    (howns : Owns base before heap) {calls : List Call} (hmade : ∀ call ∈ calls, ¬ call.Crashes) :
    ∃ lost : List Address, lost.length = calls.countP (fun call => decide call.Leaks) + before.length ∧
      Owns base lost (run Call.exec heap calls) := by
  induction calls generalizing heap before with
  | nil => exact ⟨before, by simp, howns⟩
  | cons call calls ih =>
    obtain ⟨hfirst, hrest⟩ := List.forall_mem_cons.mp hmade
    obtain ⟨more, hmore, hnow⟩ := Call.exec_owns howns hfirst
    obtain ⟨lost, hlost, hrun⟩ := ih hnow hrest
    refine ⟨lost, ?_, hrun⟩
    rw [hlost, List.length_append, hmore, List.countP_cons]
    by_cases hleaks : call.Leaks
    · simp [hleaks]
      omega
    · simp [hleaks]

/-- Over every sequence of starts and cancels with any answers the heap is used well exactly if no call
puts into a message that could not be made, and the messages that are never freed are then one for
each start that makes its last message over another. -/
theorem run_loses_messages (heap : Blocks) (hused : heap.misused = false) (calls : List Call) :
    ((run Call.exec heap calls).misused = false ↔ ∀ call ∈ calls, ¬ call.Crashes) ∧
      ((∀ call ∈ calls, ¬ call.Crashes) → ∃ lost : List Address,
        lost.length = calls.countP (fun call => decide call.Leaks) ∧
          Owns heap.size lost (run Call.exec heap calls)) := by
  have howned : (∀ call ∈ calls, ¬ call.Crashes) → ∃ lost : List Address,
      lost.length = calls.countP (fun call => decide call.Leaks) ∧
        Owns heap.size lost (run Call.exec heap calls) :=
    fun hmade => run_owns (Owns.start hused) hmade
  refine ⟨⟨fun hwell call hmem hcrashes => ?_, fun hmade => ?_⟩, howned⟩
  · rw [misused_run_of_crashes hmem hcrashes heap] at hwell
    cases hwell
  · obtain ⟨_, _, howns⟩ := howned hmade
    exact howns.well_used

/-- Two starts that leak, one that does not, and a stop: two messages are never freed. -/
theorem run_loses_messages_two : ∃ lost : List Address, lost.length = 2 ∧
    Owns Blocks.empty.size lost (run Call.exec Blocks.empty [.start .ScanCommand .ok, .start .AnqpoConfigureCommand .ok,
      .start .BssidHotlistCommand .ok, .cancel .ScanCommand .ok]) := by
  obtain ⟨_, hloses⟩ := run_loses_messages Blocks.empty rfl [.start .ScanCommand .ok,
    .start .AnqpoConfigureCommand .ok, .start .BssidHotlistCommand .ok, .cancel .ScanCommand .ok]
  obtain ⟨lost, hlost, howns⟩ := hloses (by simp [Call.Crashes, Answers.ok])
  refine ⟨lost, ?_, howns⟩
  rw [hlost]
  decide

end panelli.wifi_hal.ledger
