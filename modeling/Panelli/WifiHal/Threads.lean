import Panelli.WifiHal.WellFormed

open panelli.table panelli.runs

namespace panelli.wifi_hal

open WIFI_VENDOR_EVENT HandlerCall

/-- Where the API thread is inside `wifi_cancel_cmd`. -/
inductive ApiThread where
  | idle
  | unregistered (cmd : Ptr)
  | cancelled (cmd : Ptr)
deriving DecidableEq

/-- Where the event thread is inside `internal_valid_message_handler`: it holds
a reference to the command until it releases it. -/
inductive EventThread where
  | idle
  | held (cmd : Ptr) (msg : EventMsg)
  | handled (cmd : Ptr)
deriving DecidableEq

/-- The command the API thread has taken out of the command table. -/
def ApiThread.cmd : ApiThread → Option Ptr
  | .idle => none
  | .unregistered cmd | .cancelled cmd => some cmd

/-- The command the event thread took a reference to. -/
def EventThread.cmd : EventThread → Option Ptr
  | .idle => none
  | .held cmd _ | .handled cmd => some cmd

/-- The HAL with the two threads that use it. -/
structure Machine where
  hal : Hal
  api : ApiThread
  event : EventThread

def Machine.initial : Machine := ⟨Hal.initial, .idle, .idle⟩

/-- The atomic steps. A start and a stop through a temporary command publish no
object another step could free, so each is one step. -/
inductive ThreadAction where
  | start (api : StartApi) (id : Int) (k : Kernel)
  | stopTemporary (api : StopApi) (id : Int) (k : Kernel)
  | unregister (id : Int)
  | cancel (k : Kernel)
  | release
  | lookup (msg : EventMsg)
  | handle
  | releaseDispatched

/-- A step its thread is not ready for does nothing. -/
def Machine.step (m : Machine) : ThreadAction → Machine
  | .start api id k =>
    match m.api with
    | .idle => { m with hal := (api.call id k m.hal).2 }
    | _ => m
  | .stopTemporary api id k =>
    match m.api with
    | .idle => if api.usesTemporary id then { m with hal := (api.call id k m.hal).2 } else m
    | _ => m
  | .unregister id =>
    match m.api, wifi_unregister_cmd m.hal.info id with
    | .idle, (some cmd, info) => { m with hal := { m.hal with info := info }, api := .unregistered cmd }
    | _, _ => m
  | .cancel k =>
    match m.api with
    | .unregistered cmd => { m with hal := m.hal.cancel cmd k, api := .cancelled cmd }
    | _ => m
  | .release =>
    match m.api with
    | .cancelled cmd => { m with hal := m.hal.releaseRef cmd, api := .idle }
    | _ => m
  | .lookup msg =>
    match m.event, m.hal.handlerFor msg with
    | .idle, some cmd => { m with hal := m.hal.addRef cmd, event := .held cmd msg }
    | _, _ => m
  | .handle =>
    match m.event with
    | .held cmd msg => { m with hal := m.hal.handleEvent cmd msg, event := .handled cmd }
    | _ => m
  | .releaseDispatched =>
    match m.event with
    | .handled cmd => { m with hal := m.hal.releaseRef cmd, event := .idle }
    | _ => m

/-- The steps of one `wifi_cancel_cmd`, run without interference, are the function. -/
theorem run_cancel_steps (h : Hal) (event : EventThread) (id : Int) (k : Kernel) :
    run Machine.step ⟨h, .idle, event⟩ [.unregister id, .cancel k, .release] =
      ⟨(wifi_cancel_cmd id k h).2, .idle, event⟩ := by
  simp only [run_cons, run_nil, Machine.step, wifi_cancel_cmd]
  have hsnd := wifi_unregister_cmd_snd h.info id
  rcases hunregister : wifi_unregister_cmd h.info id with ⟨_ | cmd, info⟩
  · have hnone : wifi_get_cmd h.info id = none := by rw [← wifi_unregister_cmd_fst, hunregister]
    have hsame : info = h.info := by
      have hfind : h.info.cmd.entries.find? (·.id == id) = none := by simpa [wifi_get_cmd] using hnone
      rw [wifi_unregister_cmd, hfind] at hunregister
      exact (congrArg Prod.snd hunregister).symm
    subst hsame
    rfl
  · rfl

/-- The steps of one dispatch, run without interference, are the handler function. -/
theorem run_dispatch_steps (h : Hal) (api : ApiThread) (msg : EventMsg) :
    run Machine.step ⟨h, api, .idle⟩ [.lookup msg, .handle, .releaseDispatched] =
      ⟨internal_valid_message_handler msg h, api, .idle⟩ := by
  simp only [run_cons, run_nil, Machine.step, internal_valid_message_handler]
  cases hfor : h.handlerFor msg with
  | none => rfl
  | some cmd => rfl

/-- A request is registered while either table has an entry of it. -/
def Machine.RegisteredCmd (m : Machine) (cmd : Ptr) : Prop :=
  (∃ entry ∈ m.hal.info.cmd.entries, entry.cmd = cmd) ∨
    ∃ entry ∈ m.hal.info.event_cb.entries, entry.cb_arg = some cmd

/-- A request is only started with an id and with vendor events that no
registered request has. -/
def Admissible (m : Machine) : ThreadAction → Prop
  | .start api id _ => ∀ cmd, m.RegisteredCmd cmd →
    (m.hal.obj cmd).mId ≠ id ∧ ∀ event ∈ api.cls.events, event ∉ (m.hal.obj cmd).cls.events
  | _ => True

/-- What the property asks of a state. The last two fields are about the
objects the next dispatch step touches. -/
structure Safe (m : Machine) : Prop where
  deleted_once : ∀ cmd < m.hal.next, (m.hal.obj cmd).deletes ≤ 1
  held_alive : ∀ cmd, m.event.cmd = some cmd → (m.hal.obj cmd).deletes = 0
  lookup_alive : ∀ msg cmd, m.hal.handlerFor msg = some cmd → (m.hal.obj cmd).deletes = 0
  target_alive : ∀ cmd msg found, m.event = .held cmd msg →
    m.hal.completionTarget cmd msg = some found → (m.hal.obj found).deletes = 0

/-- When a dispatched measurement completes, the command found under its id is
itself or has no handler but the one the completion removes. -/
def CompletesItself (m : Machine) : ThreadAction → Prop
  | .handle => ∀ cmd msg, m.event = .held cmd msg →
    ∀ found, m.hal.completionTarget cmd msg = some found → found ≠ cmd →
      ∀ entry ∈ m.hal.info.event_cb.entries, entry.cb_arg = some found →
        m.hal.info.event_cb.entries.find? (isHandlerOf RTT_EVENT_COMPLETE) = some entry
  | _ => True

end panelli.wifi_hal
