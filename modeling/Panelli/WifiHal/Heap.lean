import Panelli.WifiHal.Handlers

open panelli.table

namespace panelli.wifi_hal

open WIFI_VENDOR_EVENT HandlerCall

variable (h : Hal) (cmd p : Ptr)

@[simp] theorem Hal.new_fst (cls : CommandClass) (id : Int) : (h.new cls id).1 = h.next := rfl
@[simp] theorem Hal.new_info (cls : CommandClass) (id : Int) : (h.new cls id).2.info = h.info := rfl
@[simp] theorem Hal.new_next (cls : CommandClass) (id : Int) : (h.new cls id).2.next = h.next + 1 := rfl

@[simp] theorem Hal.new_obj_self (cls : CommandClass) (id : Int) :
    (h.new cls id).2.obj h.next = ⟨cls, id, 1, 0, 0⟩ := by
  simp [Hal.new]

theorem Hal.new_obj_of_lt (cls : CommandClass) (id : Int) {p : Ptr} (hp : p < h.next) :
    (h.new cls id).2.obj p = h.obj p := by
  simp [Hal.new, Function.update_of_ne (Nat.ne_of_lt hp)]

@[simp] theorem Hal.addRef_info : (h.addRef cmd).info = h.info := rfl
@[simp] theorem Hal.addRef_next : (h.addRef cmd).next = h.next := rfl

@[simp] theorem Hal.addRef_cls : ((h.addRef cmd).obj p).cls = (h.obj p).cls := by
  by_cases hp : p = cmd <;> simp [Hal.addRef, hp]

@[simp] theorem Hal.addRef_mId : ((h.addRef cmd).obj p).mId = (h.obj p).mId := by
  by_cases hp : p = cmd <;> simp [Hal.addRef, hp]

@[simp] theorem Hal.addRef_mCompleted :
    ((h.addRef cmd).obj p).mCompleted = (h.obj p).mCompleted := by
  by_cases hp : p = cmd <;> simp [Hal.addRef, hp]

@[simp] theorem Hal.addRef_deletes : ((h.addRef cmd).obj p).deletes = (h.obj p).deletes := by
  by_cases hp : p = cmd <;> simp [Hal.addRef, hp]

@[simp] theorem Hal.addRef_mRefs :
    ((h.addRef cmd).obj p).mRefs = if p = cmd then (h.obj p).mRefs + 1 else (h.obj p).mRefs := by
  by_cases hp : p = cmd <;> simp [Hal.addRef, hp]

@[simp] theorem Hal.releaseRef_info : (h.releaseRef cmd).info = h.info := rfl
@[simp] theorem Hal.releaseRef_next : (h.releaseRef cmd).next = h.next := rfl

@[simp] theorem Hal.releaseRef_cls : ((h.releaseRef cmd).obj p).cls = (h.obj p).cls := by
  by_cases hp : p = cmd <;> simp [Hal.releaseRef, hp]

@[simp] theorem Hal.releaseRef_mId : ((h.releaseRef cmd).obj p).mId = (h.obj p).mId := by
  by_cases hp : p = cmd <;> simp [Hal.releaseRef, hp]

@[simp] theorem Hal.releaseRef_mRefs :
    ((h.releaseRef cmd).obj p).mRefs = if p = cmd then (h.obj p).mRefs - 1 else (h.obj p).mRefs := by
  by_cases hp : p = cmd <;> simp [Hal.releaseRef, hp]

/-- A release deletes the object exactly when it drops the last reference. -/
@[simp] theorem Hal.releaseRef_deletes : ((h.releaseRef cmd).obj p).deletes =
    if p = cmd ∧ (h.obj p).mRefs = 1 then (h.obj p).deletes + 1 else (h.obj p).deletes := by
  by_cases hp : p = cmd
  · subst p
    by_cases hone : (h.obj cmd).mRefs = 1
    · simp [Hal.releaseRef, hone]
    · have hzero : (h.obj cmd).mRefs - 1 ≠ 0 := by omega
      simp [Hal.releaseRef, hone, hzero]
  · simp [Hal.releaseRef, hp]

/-- The event ends a measurement of the command at `cmd`. -/
def Hal.Completes (cmd : Ptr) (msg : EventMsg) : Prop :=
  (h.obj cmd).cls = .RttCommand ∧ h.completedAfter cmd msg ≠ 0

instance (msg : EventMsg) : Decidable (h.Completes cmd msg) :=
  inferInstanceAs (Decidable (_ ∧ _))

/-- The command a completing handler finds under its id and releases. -/
def Hal.completionTarget (cmd : Ptr) (msg : EventMsg) : Option Ptr :=
  if h.Completes cmd msg then wifi_get_cmd h.info (h.obj cmd).mId else none

@[simp] theorem Hal.addRef_completes (q : Ptr) (msg : EventMsg) :
    (h.addRef cmd).Completes q msg ↔ h.Completes q msg := by
  simp [Hal.Completes, Hal.completedAfter]

@[simp] theorem Hal.addRef_completionTarget (q : Ptr) (msg : EventMsg) :
    (h.addRef cmd).completionTarget q msg = h.completionTarget q msg := by
  unfold Hal.completionTarget
  exact if_congr (h.addRef_completes cmd q msg) (by simp) rfl

/-- The object after the walk of the payload stored `mCompleted`. -/
private def storeCompleted (msg : EventMsg) : Hal :=
  let completed := h.completedAfter cmd msg
  { h with obj := Function.update h.obj cmd { h.obj cmd with mCompleted := completed } }

private theorem storeCompleted_fields (msg : EventMsg) :
    ((storeCompleted h cmd msg).obj p).cls = (h.obj p).cls ∧
      ((storeCompleted h cmd msg).obj p).mId = (h.obj p).mId ∧
      ((storeCompleted h cmd msg).obj p).mRefs = (h.obj p).mRefs ∧
      ((storeCompleted h cmd msg).obj p).deletes = (h.obj p).deletes := by
  by_cases hp : p = cmd <;> simp [storeCompleted, hp]

private theorem handleEvent_of_other {msg : EventMsg} (hcls : (h.obj cmd).cls ≠ .RttCommand) :
    h.handleEvent cmd msg = h := by
  unfold Hal.handleEvent
  split
  · exact absurd ‹_› hcls
  · rfl

/-- A handler that does not complete a measurement at most stores `mCompleted`. -/
private theorem handleEvent_of_not_completes {msg : EventMsg} (hnot : ¬ h.Completes cmd msg) :
    h.handleEvent cmd msg = h ∨ h.handleEvent cmd msg = storeCompleted h cmd msg := by
  by_cases hcls : (h.obj cmd).cls = .RttCommand
  · have hzero : h.completedAfter cmd msg = 0 := by
      by_contra hne
      exact hnot ⟨hcls, hne⟩
    right
    simp [Hal.handleEvent, hcls, RttCommand.handleEvent, hzero, storeCompleted]
  · exact Or.inl (handleEvent_of_other h cmd hcls)

/-- The registries after a completing handler removed the first RTT handler and
the first command with its id. -/
private def removeCompleted (msg : EventMsg) : Hal :=
  { storeCompleted h cmd msg with info := ⟨h.info.event_cb.remove (isHandlerOf RTT_EVENT_COMPLETE),
    h.info.cmd.remove (·.id == (h.obj cmd).mId)⟩ }

/-- A completing handler releases the command it removed. -/
private theorem handleEvent_of_completes {msg : EventMsg} (hcompletes : h.Completes cmd msg) :
    h.handleEvent cmd msg =
      (wifi_get_cmd h.info (h.obj cmd).mId).elim (removeCompleted h cmd msg)
        (removeCompleted h cmd msg).releaseRef := by
  obtain ⟨hcls, hne⟩ := hcompletes
  have hid : ((storeCompleted h cmd msg).obj cmd).mId = (h.obj cmd).mId :=
    (storeCompleted_fields h cmd cmd msg).2.1
  set info := wifi_unregister_vendor_handler h.info GOOGLE_OUI RTT_EVENT_COMPLETE.toInt with hinfo
  have hunregister : wifi_unregister_cmd info ((storeCompleted h cmd msg).obj cmd).mId =
      (wifi_get_cmd h.info (h.obj cmd).mId, (removeCompleted h cmd msg).info) := by
    rw [hid]
    exact Prod.ext (wifi_unregister_cmd_fst info _) (wifi_unregister_cmd_snd info _)
  have hrtt : h.handleEvent cmd msg = RttCommand.handleEvent h cmd msg := by
    unfold Hal.handleEvent
    rw [hcls]
  rw [hrtt]
  simp only [RttCommand.handleEvent, if_pos hne]
  split
  · rename_i found rest hfound
    obtain ⟨hget, hrest⟩ := Prod.ext_iff.mp (hunregister.symm.trans hfound)
    dsimp only at hget hrest
    rw [hget, ← hrest]
    rfl
  · rename_i rest hfound
    obtain ⟨hget, hrest⟩ := Prod.ext_iff.mp (hunregister.symm.trans hfound)
    dsimp only at hget hrest
    rw [hget, ← hrest]
    rfl

@[simp] theorem Hal.handleEvent_next (msg : EventMsg) : (h.handleEvent cmd msg).next = h.next := by
  by_cases hcompletes : h.Completes cmd msg
  · rw [handleEvent_of_completes h cmd hcompletes]
    cases wifi_get_cmd h.info (h.obj cmd).mId <;> rfl
  · obtain heq | heq := handleEvent_of_not_completes h cmd hcompletes <;> rw [heq]
    rfl

/-- Only a handler that completes a measurement changes the registries. -/
private theorem handleEvent_info (msg : EventMsg) : (h.handleEvent cmd msg).info =
    if h.Completes cmd msg then ⟨h.info.event_cb.remove (isHandlerOf RTT_EVENT_COMPLETE),
      h.info.cmd.remove (·.id == (h.obj cmd).mId)⟩
    else h.info := by
  by_cases hcompletes : h.Completes cmd msg
  · rw [handleEvent_of_completes h cmd hcompletes, if_pos hcompletes]
    cases wifi_get_cmd h.info (h.obj cmd).mId <;> rfl
  · rw [if_neg hcompletes]
    obtain heq | heq := handleEvent_of_not_completes h cmd hcompletes <;> rw [heq]
    rfl

@[simp] theorem Hal.handleEvent_event_cb (msg : EventMsg) : (h.handleEvent cmd msg).info.event_cb =
    if h.Completes cmd msg then h.info.event_cb.remove (isHandlerOf RTT_EVENT_COMPLETE)
    else h.info.event_cb := by
  rw [handleEvent_info]
  split
  · rfl
  · rfl

@[simp] theorem Hal.handleEvent_cmd (msg : EventMsg) : (h.handleEvent cmd msg).info.cmd =
    if h.Completes cmd msg then h.info.cmd.remove (·.id == (h.obj cmd).mId) else h.info.cmd := by
  rw [handleEvent_info]
  split
  · rfl
  · rfl

theorem Hal.handleEvent_event_cb_sublist (msg : EventMsg) :
    (h.handleEvent cmd msg).info.event_cb.entries.Sublist h.info.event_cb.entries := by
  rw [Hal.handleEvent_event_cb]
  split
  · exact List.eraseP_sublist
  · exact List.Sublist.refl _

theorem Hal.handleEvent_cmd_sublist (msg : EventMsg) :
    (h.handleEvent cmd msg).info.cmd.entries.Sublist h.info.cmd.entries := by
  rw [Hal.handleEvent_cmd]
  split
  · exact List.eraseP_sublist
  · exact List.Sublist.refl _

/-- The handler keeps every object's class and id, and releases at most the
completion target. -/
private theorem handleEvent_obj (msg : EventMsg) :
    ((h.handleEvent cmd msg).obj p).cls = (h.obj p).cls ∧
      ((h.handleEvent cmd msg).obj p).mId = (h.obj p).mId ∧
      ((h.handleEvent cmd msg).obj p).mRefs =
        (if h.completionTarget cmd msg = some p then (h.obj p).mRefs - 1 else (h.obj p).mRefs) ∧
      ((h.handleEvent cmd msg).obj p).deletes =
        (if h.completionTarget cmd msg = some p ∧ (h.obj p).mRefs = 1
          then (h.obj p).deletes + 1 else (h.obj p).deletes) := by
  obtain ⟨hcls, hid, hrefs, hdeletes⟩ := storeCompleted_fields h cmd p msg
  by_cases hcompletes : h.Completes cmd msg
  · rw [handleEvent_of_completes h cmd hcompletes, Hal.completionTarget, if_pos hcompletes]
    cases hget : wifi_get_cmd h.info (h.obj cmd).mId with
    | none => simp [removeCompleted, hcls, hid, hrefs, hdeletes]
    | some found =>
      simp only [Option.elim_some, removeCompleted, Hal.releaseRef_cls, Hal.releaseRef_mId,
        Hal.releaseRef_mRefs, Hal.releaseRef_deletes, hcls, hid, hrefs, hdeletes, Option.some.injEq,
        eq_comm, and_self]
  · rw [Hal.completionTarget, if_neg hcompletes]
    obtain heq | heq := handleEvent_of_not_completes h cmd hcompletes <;> rw [heq]
    · simp
    · simp [hcls, hid, hrefs, hdeletes]

@[simp] theorem Hal.handleEvent_cls (msg : EventMsg) :
    ((h.handleEvent cmd msg).obj p).cls = (h.obj p).cls := (handleEvent_obj h cmd p msg).1

@[simp] theorem Hal.handleEvent_mId (msg : EventMsg) :
    ((h.handleEvent cmd msg).obj p).mId = (h.obj p).mId := (handleEvent_obj h cmd p msg).2.1

theorem Hal.handleEvent_mRefs (msg : EventMsg) : ((h.handleEvent cmd msg).obj p).mRefs =
    if h.completionTarget cmd msg = some p then (h.obj p).mRefs - 1 else (h.obj p).mRefs :=
  (handleEvent_obj h cmd p msg).2.2.1

theorem Hal.handleEvent_deletes (msg : EventMsg) : ((h.handleEvent cmd msg).obj p).deletes =
    if h.completionTarget cmd msg = some p ∧ (h.obj p).mRefs = 1
      then (h.obj p).deletes + 1 else (h.obj p).deletes :=
  (handleEvent_obj h cmd p msg).2.2.2

end panelli.wifi_hal
