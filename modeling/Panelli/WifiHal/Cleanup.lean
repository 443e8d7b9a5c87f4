import Panelli.Runs
import Mathlib.Tactic.SplitIfs

open panelli.runs

namespace panelli.wifi_hal

/-- What `poll` reports to the event loop. -/
inductive PollResult where
  | failed (interrupted : Bool)
  | exitReadable
  | eventReadable
  | unknown
deriving DecidableEq

/-- What the event loop gets from the exit socket. -/
inductive ReadResult where
  | failed
  | sig (char : Char)
deriving DecidableEq

/-- The answers of the operating system to one step of the event loop. -/
structure Syscalls where
  socketpair : Bool
  poll : PollResult
  read : ReadResult

/-- Where the first thread is inside `wifi_event_loop`: at the test of
`in_event_loop`, before `socketpair`, before `in_event_loop` is set, before the
descriptors are filled in, in `poll`, at the read of the exit socket, in
`internal_event_handler`, at the test of the loop, before `in_event_loop` is
cleared, at the test after the loop, in `wifi_internal_cleanup`, or out. -/
inductive LoopThread where
  | entered
  | creating
  | setting
  | preparing
  | polling
  | reading
  | handling
  | testing
  | clearing
  | deciding
  | cleaning
  | done
deriving DecidableEq

/-- Where the second thread is inside `wifi_cleanup`. -/
inductive CleanupThread where
  | settingHandler
  | settingCleanUp
  | testingLoop
  | testingSocket
  | sending
  | cleaning
  | done
deriving DecidableEq

/-- The part of `hal_info` both threads use, whether it was freed, how often
`wifi_internal_cleanup` ran, and whether a freed one was read or written. The
exit sockets hold the bytes written and not yet read. -/
structure CleanupMachine where
  in_event_loop : Bool
  clean_up : Bool
  cleaned_up_handler : Option Nat
  exit_sockets : Option (List Char)
  freed : Bool
  cleanups : Nat
  touchedFreed : Bool
  handlerCalls : List Nat
  loop : LoopThread
  cleanup : CleanupThread
deriving DecidableEq

/-- An initialised handle, an event loop about to run and a call of `wifi_cleanup`. -/
def CleanupMachine.initial : CleanupMachine where
  in_event_loop := false
  clean_up := false
  cleaned_up_handler := none
  exit_sockets := none
  freed := false
  cleanups := 0
  touchedFreed := false
  handlerCalls := []
  loop := .entered
  cleanup := .settingHandler

/-- A read or a write of `hal_info`. -/
def CleanupMachine.touch (m : CleanupMachine) : CleanupMachine :=
  { m with touchedFreed := m.touchedFreed || m.freed }

def wifi_internal_cleanup (m : CleanupMachine) : CleanupMachine :=
  { m.touch with
    freed := true
    cleanups := m.cleanups + 1
    exit_sockets := none
    handlerCalls := m.handlerCalls ++ m.cleaned_up_handler.toList }

/-- The next step of `wifi_event_loop`. A poll for the exit socket blocks until
there is something to read or the socket is closed. -/
def wifi_event_loop (os : Syscalls) (m : CleanupMachine) : CleanupMachine :=
  match m.loop with
  | .entered => { m.touch with loop := if m.in_event_loop then .done else .creating }
  | .creating =>
    if os.socketpair then { m with exit_sockets := some [], loop := .setting } else { m with loop := .done }
  | .setting => { m.touch with in_event_loop := true, loop := .preparing }
  | .preparing => { m.touch with loop := .polling }
  | .polling =>
    match os.poll with
    | .failed interrupted => { m with loop := if interrupted then .testing else .clearing }
    | .exitReadable => { m with loop := if m.exit_sockets = some [] then .polling else .reading }
    | .eventReadable => { m with loop := .handling }
    | .unknown => { m with loop := .testing }
  | .reading =>
    match os.read with
    | .failed => { m with loop := .clearing }
    | .sig char =>
      { m with
        exit_sockets := m.exit_sockets.map List.tail
        loop := if char = 'T' then .clearing else .testing }
  | .handling => { m.touch with loop := .testing }
  | .testing => { m.touch with loop := if m.clean_up then .clearing else .preparing }
  | .clearing => { m.touch with in_event_loop := false, loop := .deciding }
  | .deciding => { m.touch with loop := if m.clean_up then .cleaning else .done }
  | .cleaning => { wifi_internal_cleanup m with loop := .done }
  | .done => m

/-- The next step of `wifi_cleanup`. A write to a closed socket fails. -/
def wifi_cleanup (handler : Option Nat) (m : CleanupMachine) : CleanupMachine :=
  match m.cleanup with
  | .settingHandler => { m.touch with cleaned_up_handler := handler, cleanup := .settingCleanUp }
  | .settingCleanUp => { m.touch with clean_up := true, cleanup := .testingLoop }
  | .testingLoop => { m.touch with cleanup := if m.in_event_loop then .testingSocket else .cleaning }
  | .testingSocket => { m with cleanup := if m.exit_sockets.isSome then .sending else .cleaning }
  | .sending => { m with exit_sockets := m.exit_sockets.map (· ++ ['T']), cleanup := .done }
  | .cleaning => { wifi_internal_cleanup m with cleanup := .done }
  | .done => m

/-- One step of one of the threads. -/
inductive CleanupAction where
  | loop (os : Syscalls)
  | cleanup

/-- The order in which the threads step is the order of the actions. -/
def CleanupMachine.step (handler : Option Nat) (m : CleanupMachine) : CleanupAction → CleanupMachine
  | .loop os => wifi_event_loop os m
  | .cleanup => wifi_cleanup handler m

/-- The handle is cleaned up at most once and not used after it was freed. -/
structure CleanupSafe (m : CleanupMachine) : Prop where
  cleaned_once : m.cleanups ≤ 1
  untouched : m.touchedFreed = false

/-- The event loop uses the handle no more, unless a socket pair is still made for it. -/
def LoopThread.finished (loop : LoopThread) : Prop := loop = .creating ∨ loop = .done

/-- `wifi_cleanup` uses the handle no more: it made its tests and leaves the
handle to the event loop, or returned. -/
def CleanupThread.finished (cleanup : CleanupThread) : Prop := cleanup = .sending ∨ cleanup = .done

instance (loop : LoopThread) : Decidable loop.finished := inferInstanceAs (Decidable (_ ∨ _))

instance (cleanup : CleanupThread) : Decidable cleanup.finished := inferInstanceAs (Decidable (_ ∨ _))

/-- A thread cleans up only when the other uses the handle no more, and the
event loop makes a socket pair for a handle that is still there. -/
def OtherFinished (m : CleanupMachine) : CleanupAction → Prop
  | .loop os =>
    (m.loop = .cleaning → m.cleanup.finished) ∧ (m.loop = .creating → os.socketpair = true → m.freed = false)
  | .cleanup => m.cleanup = .cleaning → m.loop.finished

instance (m : CleanupMachine) : ∀ act, Decidable (OtherFinished m act)
  | .loop _ => inferInstanceAs (Decidable (_ ∧ _))
  | .cleanup => inferInstanceAs (Decidable (_ → _))

/-- The invariant of runs in which the other thread has finished: a freed handle
was cleaned up once, and neither thread will use it. -/
structure Settled (m : CleanupMachine) : Prop where
  untouched : m.touchedFreed = false
  cleanups_eq : m.cleanups = m.freed.toNat
  loop_finished : m.freed = true → m.loop.finished
  cleanup_finished : m.freed = true → m.cleanup.finished

/-- A freed handle one of the threads will still use. When that thread is
`wifi_cleanup`, the sockets it tests are closed. -/
def Doomed (m : CleanupMachine) : Prop :=
  m.touchedFreed = true ∨ (m.freed = true ∧ ¬ m.loop.finished) ∨
    (m.freed = true ∧ ¬ m.cleanup.finished ∧ m.loop = .done ∧ m.exit_sockets = none)

section

variable {m : CleanupMachine} {os : Syscalls} {handler : Option Nat} {act : CleanupAction}

theorem CleanupSafe.of_settled (hsettled : Settled m) : CleanupSafe m := by
  refine ⟨?_, hsettled.untouched⟩
  rw [hsettled.cleanups_eq]
  exact Bool.toNat_le m.freed

/-- A thread that still uses the handle finds it there. -/
theorem Settled.not_freed_of_loop (hsettled : Settled m) (hloop : ¬ m.loop.finished) : m.freed = false :=
  Bool.eq_false_iff.mpr fun hfreed => hloop (hsettled.loop_finished hfreed)

theorem Settled.not_freed_of_cleanup (hsettled : Settled m) (hcleanup : ¬ m.cleanup.finished) :
    m.freed = false :=
  Bool.eq_false_iff.mpr fun hfreed => hcleanup (hsettled.cleanup_finished hfreed)

theorem Settled.of_not_freed (huntouched : m.touchedFreed = false) (hcleanups : m.cleanups = 0)
    (hfreed : m.freed = false) : Settled m where
  untouched := huntouched
  cleanups_eq := by rw [hcleanups, hfreed]; rfl
  loop_finished hfreed' := by rw [hfreed] at hfreed'; cases hfreed'
  cleanup_finished hfreed' := by rw [hfreed] at hfreed'; cases hfreed'

/-- The first clean-up, when the other thread has finished. -/
theorem wifi_internal_cleanup_settled (hsettled : Settled m) (hfreed : m.freed = false) :
    (wifi_internal_cleanup m).touchedFreed = false ∧ (wifi_internal_cleanup m).cleanups = 1 := by
  have hcleanups := hsettled.cleanups_eq
  simp [wifi_internal_cleanup, CleanupMachine.touch, hsettled.untouched, hfreed, hcleanups]

/-- What a step of the event loop can do: clean up, use the handle and go on,
go on without it, make the socket pair or return, or nothing. -/
theorem wifi_event_loop_cases (os : Syscalls) (m : CleanupMachine) :
    (m.loop = .cleaning ∧ wifi_event_loop os m = { wifi_internal_cleanup m with loop := .done }) ∨
      (¬ m.loop.finished ∧ ∃ active loop,
        wifi_event_loop os m = { m.touch with in_event_loop := active, loop := loop }) ∨
      (¬ m.loop.finished ∧ ∃ sockets loop, ¬ loop.finished ∧
        wifi_event_loop os m = { m with exit_sockets := sockets, loop := loop }) ∨
      (m.loop = .creating ∧ wifi_event_loop os m =
        if os.socketpair then { m with exit_sockets := some [], loop := .setting } else { m with loop := .done }) ∨
      (m.loop = .done ∧ wifi_event_loop os m = m) := by
  unfold wifi_event_loop
  cases hloop : m.loop with
  | cleaning => exact Or.inl ⟨rfl, rfl⟩
  | entered => exact Or.inr (Or.inl ⟨by decide, m.touch.in_event_loop, _, rfl⟩)
  | setting => exact Or.inr (Or.inl ⟨by decide, true, _, rfl⟩)
  | preparing => exact Or.inr (Or.inl ⟨by decide, m.touch.in_event_loop, _, rfl⟩)
  | handling => exact Or.inr (Or.inl ⟨by decide, m.touch.in_event_loop, _, rfl⟩)
  | testing => exact Or.inr (Or.inl ⟨by decide, m.touch.in_event_loop, _, rfl⟩)
  | clearing => exact Or.inr (Or.inl ⟨by decide, false, _, rfl⟩)
  | deciding => exact Or.inr (Or.inl ⟨by decide, m.touch.in_event_loop, _, rfl⟩)
  | polling =>
    refine Or.inr (Or.inr (Or.inl ⟨by decide, m.exit_sockets, ?_⟩))
    cases os.poll with
    | failed interrupted => exact ⟨_, by cases interrupted <;> decide, rfl⟩
    | exitReadable => exact ⟨_, by split_ifs <;> decide, rfl⟩
    | eventReadable => exact ⟨.handling, by decide, rfl⟩
    | unknown => exact ⟨.testing, by decide, rfl⟩
  | reading =>
    refine Or.inr (Or.inr (Or.inl ⟨by decide, ?_⟩))
    cases os.read with
    | failed => exact ⟨m.exit_sockets, .clearing, by decide, rfl⟩
    | sig char => exact ⟨_, _, by split_ifs <;> decide, rfl⟩
  | creating => exact Or.inr (Or.inr (Or.inr (Or.inl ⟨rfl, rfl⟩)))
  | done => exact Or.inr (Or.inr (Or.inr (Or.inr ⟨rfl, rfl⟩)))

/-- What a step of `wifi_cleanup` can do: clean up, use the handle and go on,
test the socket, or finish without the handle. -/
theorem wifi_cleanup_cases (handler : Option Nat) (m : CleanupMachine) :
    (m.cleanup = .cleaning ∧ wifi_cleanup handler m = { wifi_internal_cleanup m with cleanup := .done }) ∨
      (¬ m.cleanup.finished ∧ ∃ cleaned stop cleanup, wifi_cleanup handler m =
        { m.touch with cleaned_up_handler := cleaned, clean_up := stop, cleanup := cleanup }) ∨
      (m.cleanup = .testingSocket ∧ wifi_cleanup handler m =
        { m with cleanup := if m.exit_sockets.isSome then .sending else .cleaning }) ∨
      (m.cleanup.finished ∧ ∃ sockets,
        wifi_cleanup handler m = { m with exit_sockets := sockets, cleanup := .done }) := by
  unfold wifi_cleanup
  cases hcleanup : m.cleanup with
  | cleaning => exact Or.inl ⟨rfl, rfl⟩
  | settingHandler => exact Or.inr (Or.inl ⟨by decide, handler, m.touch.clean_up, _, rfl⟩)
  | settingCleanUp => exact Or.inr (Or.inl ⟨by decide, m.touch.cleaned_up_handler, true, _, rfl⟩)
  | testingLoop =>
    exact Or.inr (Or.inl ⟨by decide, m.touch.cleaned_up_handler, m.touch.clean_up, _, rfl⟩)
  | testingSocket => exact Or.inr (Or.inr (Or.inl ⟨rfl, rfl⟩))
  | sending => exact Or.inr (Or.inr (Or.inr ⟨by decide, _, rfl⟩))
  | done =>
    refine Or.inr (Or.inr (Or.inr ⟨by decide, m.exit_sockets, ?_⟩))
    simp only [← hcleanup]

/-- A use of a handle that is there keeps the invariant. -/
theorem CleanupMachine.touch_of_not_freed (hfreed : m.freed = false) : m.touch = m := by
  have htouched : (m.touchedFreed || m.freed) = m.touchedFreed := by rw [hfreed, Bool.or_false]
  rw [CleanupMachine.touch, htouched]

theorem CleanupMachine.touch_of_freed (hfreed : m.freed = true) : m.touch.touchedFreed = true := by
  simp only [CleanupMachine.touch, hfreed, Bool.or_true]

theorem Settled.cleanups_of_not_freed (hsettled : Settled m) (hfreed : m.freed = false) : m.cleanups = 0 := by
  rw [hsettled.cleanups_eq, hfreed]
  rfl

/-- A step of the event loop keeps the invariant. -/
theorem wifi_event_loop_settled (hsettled : Settled m) (hother : OtherFinished m (.loop os)) :
    Settled (wifi_event_loop os m) := by
  obtain ⟨hcleaning, hstep⟩ | ⟨hloop, active, loop, hstep⟩ | ⟨hloop, sockets, loop, _, hstep⟩ |
    ⟨hcreating, hstep⟩ | ⟨_, hstep⟩ := wifi_event_loop_cases os m
  · have hfreed := hsettled.not_freed_of_loop (by rw [hcleaning]; decide)
    obtain ⟨huntouched, hcleanups⟩ := wifi_internal_cleanup_settled hsettled hfreed
    rw [hstep]
    exact ⟨huntouched, hcleanups, fun _ => Or.inr rfl, fun _ => hother.1 hcleaning⟩
  · have hfreed := hsettled.not_freed_of_loop hloop
    rw [hstep, CleanupMachine.touch_of_not_freed hfreed]
    exact .of_not_freed hsettled.untouched (hsettled.cleanups_of_not_freed hfreed) hfreed
  · have hfreed := hsettled.not_freed_of_loop hloop
    rw [hstep]
    exact .of_not_freed hsettled.untouched (hsettled.cleanups_of_not_freed hfreed) hfreed
  · rw [hstep]
    split_ifs with hmade
    · have hfreed := hother.2 hcreating hmade
      exact .of_not_freed hsettled.untouched (hsettled.cleanups_of_not_freed hfreed) hfreed
    · exact ⟨hsettled.untouched, hsettled.cleanups_eq, fun _ => Or.inr rfl, hsettled.cleanup_finished⟩
  · rw [hstep]
    exact hsettled

/-- A step of `wifi_cleanup` keeps the invariant. -/
theorem wifi_cleanup_settled (hsettled : Settled m) (hother : OtherFinished m .cleanup) :
    Settled (wifi_cleanup handler m) := by
  obtain ⟨hcleaning, hstep⟩ | ⟨hcleanup, cleaned, stop, cleanup, hstep⟩ | ⟨htesting, hstep⟩ |
    ⟨_, sockets, hstep⟩ := wifi_cleanup_cases handler m
  · have hfreed := hsettled.not_freed_of_cleanup (by rw [hcleaning]; decide)
    obtain ⟨huntouched, hcleanups⟩ := wifi_internal_cleanup_settled hsettled hfreed
    rw [hstep]
    exact ⟨huntouched, hcleanups, fun _ => hother hcleaning, fun _ => Or.inr rfl⟩
  · have hfreed := hsettled.not_freed_of_cleanup hcleanup
    rw [hstep, CleanupMachine.touch_of_not_freed hfreed]
    exact .of_not_freed hsettled.untouched (hsettled.cleanups_of_not_freed hfreed) hfreed
  · have hfreed := hsettled.not_freed_of_cleanup (by rw [htesting]; decide)
    rw [hstep]
    exact .of_not_freed hsettled.untouched (hsettled.cleanups_of_not_freed hfreed) hfreed
  · rw [hstep]
    exact ⟨hsettled.untouched, hsettled.cleanups_eq, hsettled.loop_finished, fun _ => Or.inr rfl⟩

/-- A forbidden step dooms the handle. -/
theorem doomed_of_not_otherFinished (hnot : ¬ OtherFinished m act) : Doomed (m.step handler act) := by
  cases act with
  | loop os =>
    rw [OtherFinished, Classical.not_and_iff_not_or_not] at hnot
    obtain hcleaning | hcreating := hnot
    · obtain ⟨hcleaning, hcleanup⟩ := Classical.not_imp.mp hcleaning
      exact Or.inr (Or.inr (by simpa [CleanupMachine.step, wifi_event_loop, hcleaning, wifi_internal_cleanup]))
    · obtain ⟨hcreating, hmade⟩ := Classical.not_imp.mp hcreating
      obtain ⟨hmade, hfreed⟩ := Classical.not_imp.mp hmade
      refine Or.inr (Or.inl ?_)
      simp only [CleanupMachine.step, wifi_event_loop, hcreating, hmade, if_true]
      exact ⟨Bool.of_not_eq_false hfreed, by decide⟩
  | cleanup =>
    obtain ⟨hcleaning, hloop⟩ := Classical.not_imp.mp hnot
    exact Or.inr (Or.inl (by simpa [CleanupMachine.step, wifi_cleanup, hcleaning, wifi_internal_cleanup]))

/-- Once used after it was freed, it stays so. -/
theorem touchedFreed_step (htouched : m.touchedFreed = true) : (m.step handler act).touchedFreed = true := by
  have htouch : m.touch.touchedFreed = true := by simp only [CleanupMachine.touch, htouched, Bool.true_or]
  cases act with
  | loop os =>
    obtain ⟨_, hstep⟩ | ⟨_, _, _, hstep⟩ | ⟨_, _, _, _, hstep⟩ | ⟨_, hstep⟩ | ⟨_, hstep⟩ :=
      wifi_event_loop_cases os m
    all_goals rw [CleanupMachine.step, hstep]
    · exact htouch
    · exact htouch
    · exact htouched
    · split_ifs <;> exact htouched
    · exact htouched
  | cleanup =>
    obtain ⟨_, hstep⟩ | ⟨_, _, _, _, hstep⟩ | ⟨_, hstep⟩ | ⟨_, _, hstep⟩ := wifi_cleanup_cases handler m
    all_goals rw [CleanupMachine.step, hstep]
    · exact htouch
    · exact htouch
    · exact htouched
    · exact htouched

/-- An event loop that still uses a freed handle does so, or goes on to. -/
theorem wifi_event_loop_doomed (hfreed : m.freed = true) (hloop : ¬ m.loop.finished) :
    Doomed (wifi_event_loop os m) := by
  obtain ⟨_, hstep⟩ | ⟨_, _, _, hstep⟩ | ⟨_, _, _, hnot, hstep⟩ | ⟨hcreating, _⟩ | ⟨hdone, _⟩ :=
    wifi_event_loop_cases os m
  · rw [hstep]
    exact Or.inl (CleanupMachine.touch_of_freed hfreed)
  · rw [hstep]
    exact Or.inl (CleanupMachine.touch_of_freed hfreed)
  · rw [hstep]
    exact Or.inr (Or.inl ⟨hfreed, hnot⟩)
  · exact absurd (Or.inl hcreating) hloop
  · exact absurd (Or.inr hdone) hloop

/-- A step of `wifi_cleanup` leaves the event loop and a freed handle as they are. -/
theorem wifi_cleanup_frame (hfreed : m.freed = true) :
    (wifi_cleanup handler m).freed = true ∧ (wifi_cleanup handler m).loop = m.loop := by
  obtain ⟨_, hstep⟩ | ⟨_, _, _, _, hstep⟩ | ⟨_, hstep⟩ | ⟨_, _, hstep⟩ := wifi_cleanup_cases handler m
  all_goals rw [hstep]
  · exact ⟨rfl, rfl⟩
  all_goals exact ⟨hfreed, rfl⟩

/-- So does `wifi_cleanup`, which finds the sockets closed. -/
theorem wifi_cleanup_doomed (hfreed : m.freed = true) (hcleanup : ¬ m.cleanup.finished)
    (hdone : m.loop = .done) (hsockets : m.exit_sockets = none) : Doomed (wifi_cleanup handler m) := by
  obtain ⟨_, hstep⟩ | ⟨_, _, _, _, hstep⟩ | ⟨_, hstep⟩ | ⟨hfinished, _⟩ := wifi_cleanup_cases handler m
  · rw [hstep]
    exact Or.inl (CleanupMachine.touch_of_freed hfreed)
  · rw [hstep]
    exact Or.inl (CleanupMachine.touch_of_freed hfreed)
  · rw [hstep, hsockets]
    have hcleaning : ¬ CleanupThread.cleaning.finished := by decide
    exact Or.inr (Or.inr ⟨hfreed, hcleaning, hdone, rfl⟩)
  · exact absurd hfinished hcleanup

/-- No later step repairs a doomed handle. -/
theorem doomed_step (hdoomed : Doomed m) : Doomed (m.step handler act) := by
  obtain htouched | ⟨hfreed, hloop⟩ | ⟨hfreed, hcleanup, hdone, hsockets⟩ := hdoomed
  · exact Or.inl (touchedFreed_step htouched)
  · cases act with
    | loop os => exact wifi_event_loop_doomed hfreed hloop
    | cleanup =>
      obtain ⟨hkept, hsame⟩ : (wifi_cleanup handler m).freed = true ∧ _ := wifi_cleanup_frame hfreed
      refine Or.inr (Or.inl ⟨hkept, ?_⟩)
      rwa [CleanupMachine.step, hsame]
  · cases act with
    | loop os =>
      have hstep : wifi_event_loop os m = m := by rw [wifi_event_loop, hdone]
      rw [CleanupMachine.step, hstep]
      exact Or.inr (Or.inr ⟨hfreed, hcleanup, hdone, hsockets⟩)
    | cleanup => exact wifi_cleanup_doomed hfreed hcleanup hdone hsockets

/-- A doomed handle was used after it was freed once both threads have returned. -/
theorem Doomed.not_safe (hdoomed : Doomed m) (hloop : m.loop = .done) (hcleanup : m.cleanup = .done) :
    ¬ CleanupSafe m := by
  intro hsafe
  obtain htouched | ⟨_, hnot⟩ | ⟨_, hnot, _⟩ := hdoomed
  · rw [hsafe.untouched] at htouched
    cases htouched
  · exact hnot (Or.inr hloop)
  · exact hnot (Or.inr hcleanup)

/-- Whatever the order of the steps, a handle that each thread only cleans up
once the other has finished with it is cleaned up at most once and not used
after that; and of the runs that end with both threads returned, no others are
safe. -/
theorem wifi_cleanup_safe_iff (handler : Option Nat) (acts : List CleanupAction) :
    (StepsHold (CleanupMachine.step handler) OtherFinished .initial acts →
        StatesHold (CleanupMachine.step handler) CleanupSafe .initial acts) ∧
      ((run (CleanupMachine.step handler) .initial acts).loop = .done →
        (run (CleanupMachine.step handler) .initial acts).cleanup = .done →
        StatesHold (CleanupMachine.step handler) CleanupSafe .initial acts →
          StepsHold (CleanupMachine.step handler) OtherFinished .initial acts) := by
  constructor
  · intro hsteps
    have hsettled := statesHold_of_stepsHold (I := Settled) (fun m act hsettled hother => ?_)
      (Settled.of_not_freed rfl rfl rfl) hsteps
    · exact hsettled.mono fun _ => CleanupSafe.of_settled
    · cases act with
      | loop os => exact wifi_event_loop_settled hsettled hother
      | cleanup => exact wifi_cleanup_settled hsettled hother
  · intro hloop hcleanup hsafe
    apply stepsHold_of_final (D := Doomed) (fun _ _ => doomed_of_not_otherFinished) fun _ _ => doomed_step
    exact fun hdoomed => hdoomed.not_safe hloop hcleanup hsafe.final

end

/-- The event loop as it runs when nothing fails and events keep coming. -/
def busy : CleanupAction := .loop ⟨true, .eventReadable, .failed⟩

/-- An event is handled between the two writes and the tests of `wifi_cleanup`.
The loop sees `clean_up` set and frees the handle; the other thread then finds
`in_event_loop` cleared in the freed handle and frees it again. -/
def cleanedTwice : List CleanupAction :=
  [busy, busy, busy, busy, busy, .cleanup, .cleanup, busy, busy, busy, busy, busy, .cleanup, .cleanup]

theorem wifi_cleanup_cleans_twice :
    let m := run (CleanupMachine.step (some 1)) .initial cleanedTwice
    m.cleanups = 2 ∧ m.touchedFreed = true ∧ m.handlerCalls = [1, 1] ∧
      ¬ StatesHold (CleanupMachine.step (some 1)) CleanupSafe .initial cleanedTwice := by
  refine ⟨by decide, by decide, by decide, fun hsafe => ?_⟩
  exact absurd hsafe.final.untouched (by decide)

end panelli.wifi_hal
