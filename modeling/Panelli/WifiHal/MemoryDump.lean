import Panelli.Blocks
import Panelli.Runs
import Panelli.WifiHal.Registry

open panelli.blocks panelli.runs

namespace panelli.wifi_hal

/-- What becomes of a request for a dump: it is not created, its attributes do not
fit, or it is sent. -/
inductive DumpRequest where
  | notCreated
  | notPut
  | sent
deriving DecidableEq

/-- The fields of a command that collects a dump, the heap, and what its handler was
called with so far. -/
structure DumpFields where
  mHandler : Bool
  mBuffSize : UInt32
  mBuff : Option Address
  blocks : Blocks
  calls : List (Option Address × UInt32)

namespace DumpFields

def new (mHandler : Bool) (blocks : Blocks) : DumpFields where
  mHandler := mHandler
  mBuffSize := 0
  mBuff := none
  blocks := blocks
  calls := []

/-- The handler uses the buffer, which is freed afterwards. -/
def deliver (c : DumpFields) : DumpFields :=
  let c :=
    if c.mHandler then
      { c with
        blocks := c.mBuff.elim c.blocks fun p => c.blocks.access p 0 c.mBuffSize.toNat
        calls := c.calls ++ [(c.mBuff, c.mBuffSize)] }
    else c
  { c with blocks := c.blocks.free c.mBuff, mBuff := none }

/-- The command owns the buffer it points to, which has the size it keeps at least. -/
structure Sound (base : Address → Option Nat) (c : DumpFields) : Prop where
  owns : Owns base c.mBuff.toList c.blocks
  sized : ∀ p ∈ c.mBuff, c.blocks.Holds p 0 c.mBuffSize.toNat

/-- The size of the buffer, if there is one. -/
def held (c : DumpFields) : Option UInt32 := c.mBuff.map fun _ => c.mBuffSize

/-- What the handler got, by size, if it got a buffer. -/
def delivered (c : DumpFields) : List (Option UInt32) := c.calls.map fun call => call.1.map fun _ => call.2

section

variable {base : Address → Option Nat} {c : DumpFields}

theorem sound_new (mHandler : Bool) {blocks : Blocks} (hused : blocks.misused = false) :
    (new mHandler blocks).Sound blocks.size :=
  ⟨Owns.start hused, by simp [new]⟩

/-- When the buffer is freed, nothing is owned any more. -/
theorem Sound.freed (hsound : c.Sound base) : Owns base [] (c.blocks.free c.mBuff) := by
  apply Owns.free_toList
  rw [List.append_nil]
  exact hsound.owns

/-- A buffer that is granted replaces the one before. -/
theorem Sound.renewed (hsound : c.Sound base) (bytes : Nat) :
    ∃ p blocks, (c.blocks.free c.mBuff).malloc true bytes = (some p, blocks) ∧ Owns base [p] blocks ∧
      blocks.size p = some bytes := by
  refine ⟨_, _, rfl, hsound.freed.malloc true bytes, ?_⟩
  exact Blocks.malloc_size _ true bytes _ rfl

theorem sound_deliver (hsound : c.Sound base) : c.deliver.Sound base ∧ c.deliver.held = none := by
  refine ⟨⟨?_, by simp [deliver]⟩, rfl⟩
  obtain ⟨howns, hsized⟩ := hsound
  have hused : Owns base c.mBuff.toList
      (c.mBuff.elim c.blocks fun p => c.blocks.access p 0 c.mBuffSize.toNat) := by
    cases hbuff : c.mBuff with
    | none => simpa [hbuff] using howns
    | some p =>
      rw [hbuff] at howns hsized
      exact howns.access (hsized p rfl)
  unfold deliver
  cases c.mHandler with
  | false => exact Owns.free_toList (by simpa using howns)
  | true => exact Owns.free_toList (by simpa using hused)

/-- A misuse by freeing the buffer is not avoided by using it before. -/
theorem misused_deliver (hmisused : (c.blocks.free c.mBuff).misused = true) :
    c.deliver.blocks.misused = true := by
  unfold deliver
  cases c.mHandler with
  | false => exact hmisused
  | true =>
    cases hbuff : c.mBuff with
    | none =>
      rw [hbuff] at hmisused
      exact hmisused
    | some p =>
      rw [hbuff] at hmisused
      exact Blocks.misused_free_access hmisused _ _ _

theorem deliver_delivered (hhandler : c.mHandler = true) :
    c.deliver.delivered = c.delivered ++ [c.held] ∧ c.deliver.mHandler = true := by
  simp [deliver, delivered, held, hhandler]

end

end DumpFields

mutual

/-- A reply with the attributes of its vendor data, which are none if it has no data. -/
inductive DumpReply where
  | reply (cmd : Int) (vendor_data : List DumpAttr)

/-- An attribute of a reply. To the length of a dump belong the answers of the system:
whether there is memory, what becomes of the request, and the replies that arrive
before `requestResponse` returns. -/
inductive DumpAttr where
  | FW_DUMP_LEN (len : UInt32) (granted : Bool) (request : DumpRequest) (replies : List DumpReply)
  | FW_DUMP_DATA
  | invalid

end

namespace MemoryDumpCommand

/-- The branch for a length up to `requestResponse`, where the kernel is told to write
the dump into the buffer. -/
def announce (c : DumpFields) (len : UInt32) (granted : Bool) (request : DumpRequest) : DumpFields :=
  let (mBuff, blocks) := (c.blocks.free c.mBuff).malloc granted len.toNat
  let c := { c with mBuffSize := len, mBuff := mBuff, blocks := blocks }
  match mBuff with
  | none => c
  | some p =>
    match request with
    | .notCreated => { c with blocks := blocks.free (some p) }
    | .notPut => c
    | .sent => { c with blocks := blocks.access p 0 len.toNat }

mutual

/-- `MemoryDumpCommand::handleResponse`. -/
def handleResponse : DumpReply → DumpFields → DumpFields
  | .reply cmd vendor_data, c => if cmd ≠ NL80211_CMD_VENDOR then c else handleAttrs vendor_data c

/-- The loop over the attributes. It returns at a failure, and after the others. -/
def handleAttrs : List DumpAttr → DumpFields → DumpFields
  | [], c => c
  | .FW_DUMP_LEN len granted request replies :: rest, c =>
    let c := announce c len granted request
    if granted ∧ request = .sent then handleAttrs rest (handleReplies replies c) else c
  | .FW_DUMP_DATA :: rest, c => handleAttrs rest c.deliver
  | .invalid :: rest, c => handleAttrs rest c

/-- The replies that `requestResponse` hands over. -/
def handleReplies : List DumpReply → DumpFields → DumpFields
  | [], c => c
  | reply :: replies, c => handleReplies replies (handleResponse reply c)

end

/-- `MemoryDumpCommand::start`, with the replies to the trigger if it can be created. -/
def start (created : Bool) (replies : List DumpReply) (c : DumpFields) : DumpFields :=
  if created then handleReplies replies c else c

/-- An attribute that the command acts on, in whatever reply it is. -/
inductive Step where
  | announced (len : UInt32) (granted : Bool) (request : DumpRequest)
  | completed
deriving DecidableEq

def step (c : DumpFields) : Step → DumpFields
  | .announced len granted request => announce c len granted request
  | .completed => c.deliver

mutual

/-- What the command acts on in a reply and in the replies it brings, in order. -/
def replySteps : DumpReply → List Step
  | .reply cmd vendor_data => if cmd ≠ NL80211_CMD_VENDOR then [] else attrSteps vendor_data

def attrSteps : List DumpAttr → List Step
  | [] => []
  | .FW_DUMP_LEN len granted request replies :: rest =>
    .announced len granted request ::
      if granted ∧ request = .sent then steps replies ++ attrSteps rest else []
  | .FW_DUMP_DATA :: rest => .completed :: attrSteps rest
  | .invalid :: rest => attrSteps rest

def steps : List DumpReply → List Step
  | [] => []
  | reply :: replies => replySteps reply ++ steps replies

end

/-- The buffer is freed, but `mBuff` still points to it. -/
def Step.Dangles (s : Step) : Prop := ∃ len, s = .announced len true .notCreated

instance : DecidablePred Step.Dangles
  | .announced len true .notCreated => isTrue ⟨len, rfl⟩
  | .announced _ true .notPut => isFalse (by simp [Step.Dangles])
  | .announced _ true .sent => isFalse (by simp [Step.Dangles])
  | .announced _ false _ => isFalse (by simp [Step.Dangles])
  | .completed => isFalse (by simp [Step.Dangles])

/-- What the handler gets, when a dump of the size that is held was announced last: the end of a dump
hands over the one that was announced last, or nothing if that was not granted or has been handed
over. One that is announced before another is never handed over. -/
def deliveries : Option UInt32 → List Step → List (Option UInt32)
  | _, [] => []
  | _, .announced len granted _ :: rest => deliveries (if granted then some len else none) rest
  | held, .completed :: rest => held :: deliveries none rest

section

variable {base : Address → Option Nat} {c : DumpFields} {s : Step} {acts : List Step}
  {len : UInt32} {granted : Bool} {request : DumpRequest}

mutual

/-- A reply has the effect of what the command acts on in it. -/
theorem handleResponse_eq_run (reply : DumpReply) (c : DumpFields) :
    handleResponse reply c = run step c (replySteps reply) := by
  match reply with
  | .reply cmd vendor_data =>
    rw [handleResponse, replySteps]
    split
    · rfl
    · exact handleAttrs_eq_run vendor_data c

theorem handleAttrs_eq_run (as : List DumpAttr) (c : DumpFields) :
    handleAttrs as c = run step c (attrSteps as) := by
  match as with
  | [] => rfl
  | .FW_DUMP_LEN len granted request replies :: rest =>
    rw [handleAttrs, attrSteps, run_cons]
    split
    · rw [run_append, handleReplies_eq_run replies, handleAttrs_eq_run rest]
      rfl
    · rfl
  | .FW_DUMP_DATA :: rest =>
    rw [handleAttrs, attrSteps, run_cons, handleAttrs_eq_run rest]
    rfl
  | .invalid :: rest => rw [handleAttrs, attrSteps, handleAttrs_eq_run rest]

theorem handleReplies_eq_run (replies : List DumpReply) (c : DumpFields) :
    handleReplies replies c = run step c (steps replies) := by
  match replies with
  | [] => rfl
  | reply :: replies =>
    rw [handleReplies, steps, run_append, handleResponse_eq_run reply, handleReplies_eq_run replies]

end

/-- A command that is started has the effect of what it acts on in the replies. -/
theorem start_eq_run (replies : List DumpReply) (c : DumpFields) :
    start true replies c = run step c (steps replies) := by
  rw [start, if_pos rfl, handleReplies_eq_run]

/-- The buffer that is there after an announcement is the one that was announced. -/
theorem sound_announce (hsound : c.Sound base) (hkept : ¬ (Step.announced len granted request).Dangles) :
    (announce c len granted request).Sound base ∧
      (announce c len granted request).held = if granted then some len else none := by
  cases granted with
  | false => exact ⟨⟨hsound.freed, by simp [announce]⟩, rfl⟩
  | true =>
    obtain ⟨p, blocks, hmalloc, howns, hsize⟩ := hsound.renewed len.toNat
    have hholds : blocks.Holds p 0 len.toNat := ⟨_, hsize, Nat.le_of_eq (Nat.zero_add _)⟩
    have hsized : ∀ q ∈ some p, blocks.Holds q 0 len.toNat := by
      rintro q ⟨⟩
      exact hholds
    cases request with
    | notCreated => exact absurd ⟨len, rfl⟩ hkept
    | notPut =>
      simp only [announce, hmalloc]
      exact ⟨⟨howns, hsized⟩, rfl⟩
    | sent =>
      simp only [announce, hmalloc]
      rw [Blocks.access_of_holds hholds]
      exact ⟨⟨howns, hsized⟩, rfl⟩

/-- A step that does not leave the pointer behind keeps the command sound. -/
theorem sound_step (hsound : c.Sound base) (hkept : ¬ s.Dangles) : (step c s).Sound base := by
  cases s with
  | announced len granted request => exact (sound_announce hsound hkept).1
  | completed => exact (DumpFields.sound_deliver hsound).1

/-- One that does frees the buffer, as it may. -/
theorem dangling_of_dangles (hsound : c.Sound base) (hdangles : s.Dangles) :
    (step c s).blocks.misused = false ∧ ∃ p, (step c s).mBuff = some p ∧ (step c s).blocks.size p = none := by
  obtain ⟨len, rfl⟩ := hdangles
  obtain ⟨p, blocks, hmalloc, howns, _⟩ := hsound.renewed len.toNat
  simp only [step, announce, hmalloc]
  exact ⟨(Owns.free howns).well_used, p, rfl, by simp [Blocks.free]⟩

/-- Every step frees the buffer there is, and a misuse of it stays. -/
theorem misused_of_free (hmisused : (c.blocks.free c.mBuff).misused = true) (s : Step) :
    (step c s).blocks.misused = true := by
  cases s with
  | announced len granted request =>
    rw [← Blocks.malloc_misused _ granted len.toNat] at hmisused
    cases hmalloc : (c.blocks.free c.mBuff).malloc granted len.toNat with
    | mk mBuff blocks =>
      rw [hmalloc] at hmisused
      simp only [step, announce, hmalloc]
      cases mBuff with
      | none => exact hmisused
      | some p =>
        cases request with
        | notCreated => exact Blocks.misused_free hmisused _
        | notPut => exact hmisused
        | sent => exact Blocks.misused_access hmisused _ _ _
  | completed => exact DumpFields.misused_deliver hmisused

/-- Once a buffer was freed and not forgotten, a further step misuses it. -/
theorem misused_run {p : Address} (hbuff : c.mBuff = some p) (hgone : c.blocks.size p = none) (s : Step)
    (acts : List Step) : (run step c (s :: acts)).blocks.misused = true := by
  have hkeep : ∀ (c : DumpFields) (s : Step), c.blocks.misused = true → (step c s).blocks.misused = true :=
    fun c s hmisused => misused_of_free (Blocks.misused_free hmisused _) s
  have hfree : (c.blocks.free c.mBuff).misused = true := by
    rw [hbuff]
    exact Blocks.misused_free_of_gone hgone
  exact run_induction hkeep (misused_of_free hfree s) acts

/-- A run misuses no block if no step but the last leaves the pointer behind. -/
theorem run_well_used_iff (hsound : c.Sound base) :
    (run step c acts).blocks.misused = false ↔ ∀ s ∈ acts.dropLast, ¬ s.Dangles := by
  induction acts generalizing c with
  | nil => simpa using hsound.owns.well_used
  | cons s rest ih =>
    by_cases hdangles : s.Dangles
    · obtain ⟨hused, p, hbuff, hgone⟩ := dangling_of_dangles hsound hdangles
      cases rest with
      | nil => simpa using hused
      | cons t rest =>
        have hmisused := misused_run hbuff hgone t rest
        rw [run_cons, hmisused]
        simp [hdangles]
    · rw [run_cons, ih (sound_step hsound hdangles)]
      cases rest with
      | nil => simp
      | cons t rest => simp [hdangles]

theorem announce_frame (c : DumpFields) (len : UInt32) (granted : Bool) (request : DumpRequest) :
    (announce c len granted request).calls = c.calls ∧
      (announce c len granted request).mHandler = c.mHandler := by
  unfold announce
  cases granted with
  | false => exact ⟨rfl, rfl⟩
  | true =>
    cases request with
    | notCreated => exact ⟨rfl, rfl⟩
    | notPut => exact ⟨rfl, rfl⟩
    | sent => exact ⟨rfl, rfl⟩

/-- Without such a step, each end of a dump delivers what is held then. -/
theorem run_delivered (hsound : c.Sound base) (hhandler : c.mHandler = true) (hkept : ∀ s ∈ acts, ¬ s.Dangles) :
    (run step c acts).Sound base ∧
      (run step c acts).delivered = c.delivered ++ deliveries c.held acts := by
  induction acts generalizing c with
  | nil => exact ⟨hsound, by simp [deliveries]⟩
  | cons s rest ih =>
    obtain ⟨hs, hrest⟩ := List.forall_mem_cons.mp hkept
    cases s with
    | announced len granted request =>
      obtain ⟨hcalls, hhandler'⟩ := announce_frame c len granted request
      obtain ⟨hnext, hheld⟩ := sound_announce hsound hs
      obtain ⟨hfinal, hdelivered⟩ := ih hnext (hhandler'.trans hhandler) hrest
      refine ⟨hfinal, hdelivered.trans ?_⟩
      rw [DumpFields.delivered, hcalls, hheld]
      rfl
    | completed =>
      obtain ⟨hcalls, hhandler'⟩ := DumpFields.deliver_delivered hhandler
      obtain ⟨hnext, hheld⟩ := DumpFields.sound_deliver hsound
      obtain ⟨hfinal, hdelivered⟩ := ih hnext hhandler' hrest
      refine ⟨hfinal, hdelivered.trans ?_⟩
      rw [hcalls, hheld, List.append_assoc]
      rfl

/-- Whatever the replies and the replies that they bring, no block is freed twice or
used after it was freed, unless a request for a dump cannot be created and the command
acts on a further attribute after that. -/
theorem memoryDump_well_used_iff {blocks : Blocks} (hused : blocks.misused = false) (mHandler : Bool)
    (replies : List DumpReply) :
    (start true replies (.new mHandler blocks)).blocks.misused = false ↔
      ∀ s ∈ (steps replies).dropLast, ¬ s.Dangles := by
  rw [start_eq_run]
  exact run_well_used_iff (DumpFields.sound_new mHandler hused)

/-- If every request can be created, each end of a dump hands over, in its size, the dump that was
announced last, or nothing if that was not granted or has been handed over, and at the end only the
buffer that `mBuff` points to is left. -/
theorem memoryDump_delivers {blocks : Blocks} (hused : blocks.misused = false) {replies : List DumpReply}
    (hkept : ∀ s ∈ steps replies, ¬ s.Dangles) :
    (start true replies (.new true blocks)).delivered = deliveries none (steps replies) ∧
      Owns blocks.size (start true replies (.new true blocks)).mBuff.toList
        (start true replies (.new true blocks)).blocks := by
  rw [start_eq_run]
  obtain ⟨hsound, hdelivered⟩ := run_delivered (DumpFields.sound_new true hused) rfl hkept
  exact ⟨hdelivered, hsound.owns⟩

end

/-- A dump is announced, and a smaller one in the reply to the request for it, which also
ends there. -/
def dumpInDump : List DumpReply :=
  [.reply NL80211_CMD_VENDOR
    [.FW_DUMP_LEN 64 true .sent
      [.reply NL80211_CMD_VENDOR [.FW_DUMP_LEN 16 true .sent [], .invalid, .FW_DUMP_DATA]],
    .FW_DUMP_DATA]]

theorem memoryDump_well_used_nested : (start true dumpInDump (.new true Blocks.empty)).blocks.misused = false :=
  (memoryDump_well_used_iff rfl true dumpInDump).mpr (by decide)

theorem memoryDump_delivers_nested :
    (start true dumpInDump (.new true Blocks.empty)).delivered = [some 16, none] :=
  (memoryDump_delivers rfl (by decide)).1

/-- A request that cannot be created, with the end of the dump in a further reply. -/
example : (start true
    [.reply NL80211_CMD_VENDOR [.FW_DUMP_LEN 64 true .notCreated []],
      .reply NL80211_CMD_VENDOR [.FW_DUMP_DATA]] (.new true Blocks.empty)).blocks.misused = true := by
  decide

end MemoryDumpCommand

end panelli.wifi_hal
