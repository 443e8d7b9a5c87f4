import Panelli.WifiHal.WellFormed

open panelli.table panelli.runs

namespace panelli.wifi_hal

open WIFI_VENDOR_EVENT HandlerCall

/-- The object at `cmd` still has a reference and was never deleted. -/
def Hal.Live (h : Hal) (cmd : Ptr) : Prop := 1 ≤ (h.obj cmd).mRefs ∧ (h.obj cmd).deletes = 0

/-- Every handler entry names a live command, and so does every dispatch. -/
structure NoDangling (h : Hal) : Prop where
  entry_live : ∀ entry ∈ h.info.event_cb.entries, ∀ cmd, entry.cb_arg = some cmd → h.Live cmd
  dispatch_live : ∀ msg cmd, h.handlerFor msg = some cmd → h.Live cmd

theorem NoDangling.of_entry_live {h : Hal}
    (hentry : ∀ entry ∈ h.info.event_cb.entries, ∀ cmd, entry.cb_arg = some cmd → h.Live cmd) :
    NoDangling h := by
  refine ⟨hentry, fun msg cmd hfor => ?_⟩
  obtain ⟨entry, hmem, _, harg⟩ := Hal.handlerFor_eq_some hfor
  exact hentry entry hmem cmd harg

/-- Between two actions a command holds its first reference or is deleted, and
the commands of the command table hold theirs. -/
structure RefsOk (h : Hal) : Prop where
  counted : ∀ cmd < h.next, ((h.obj cmd).mRefs = 1 ∧ (h.obj cmd).deletes = 0) ∨
    ((h.obj cmd).mRefs = 0 ∧ (h.obj cmd).deletes = 1)
  registered : ∀ entry ∈ h.info.cmd.entries, (h.obj entry.cmd).mRefs = 1

theorem RefsOk.initial : RefsOk Hal.initial := by
  constructor <;> simp [Hal.initial, hal_info.initial, Table.empty]

theorem RefsOk.live_iff {h : Hal} (hrefs : RefsOk h) {cmd : Ptr} (hlt : cmd < h.next) :
    h.Live cmd ↔ (h.obj cmd).mRefs = 1 := by
  unfold Hal.Live
  have := hrefs.counted cmd hlt
  omega

/-- Only the references of `target` are affected, and it loses one. -/
structure Releases (h h' : Hal) (target : Option Ptr) : Prop where
  next : h'.next = h.next
  mRefs : ∀ p, (h'.obj p).mRefs = if target = some p then (h.obj p).mRefs - 1 else (h.obj p).mRefs
  deletes : ∀ p, (h'.obj p).deletes =
    if target = some p ∧ (h.obj p).mRefs = 1 then (h.obj p).deletes + 1 else (h.obj p).deletes

/-- Releasing a counted command that leaves the command table keeps the counts in order. -/
theorem RefsOk.of_releases {h h' : Hal} {target : Option Ptr} (hrefs : RefsOk h)
    (hreleases : Releases h h' target) (hone : ∀ cmd, target = some cmd → (h.obj cmd).mRefs = 1)
    (hcmd : ∀ entry ∈ h'.info.cmd.entries, entry ∈ h.info.cmd.entries ∧ target ≠ some entry.cmd) :
    RefsOk h' := by
  refine ⟨fun cmd hlt => ?_, fun entry hentry => ?_⟩
  · rw [hreleases.mRefs, hreleases.deletes]
    have hcounted := hrefs.counted cmd (hreleases.next ▸ hlt)
    by_cases htarget : target = some cmd
    · have hrefs1 : (h.obj cmd).mRefs = 1 := hone cmd htarget
      simp only [htarget, hrefs1, and_self, if_true]
      omega
    · simpa only [htarget, false_and, if_false] using hcounted
  · obtain ⟨hmem, hother⟩ := hcmd entry hentry
    rw [hreleases.mRefs, if_neg hother]
    exact hrefs.registered entry hmem

/-- After such a release, handlers dangle exactly when one still names the target. -/
theorem noDangling_releases_iff {h h' : Hal} {target : Option Ptr} (hlive : NoDangling h)
    (hreleases : Releases h h' target) (hone : ∀ cmd, target = some cmd → (h.obj cmd).mRefs = 1)
    (hcb : h'.info.event_cb.entries ⊆ h.info.event_cb.entries) :
    NoDangling h' ↔ ∀ cmd, target = some cmd →
      ∀ entry ∈ h'.info.event_cb.entries, entry.cb_arg ≠ some cmd := by
  constructor
  · intro hlive' cmd htarget entry hentry harg
    obtain ⟨hrefs, _⟩ := hlive'.entry_live entry hentry cmd harg
    rw [hreleases.mRefs, if_pos htarget, hone cmd htarget] at hrefs
    omega
  · intro hnone
    refine .of_entry_live fun entry hentry cmd harg => ?_
    have hother : target ≠ some cmd := fun htarget => hnone cmd htarget entry hentry harg
    have hbefore := hlive.entry_live entry (hcb hentry) cmd harg
    simpa only [Hal.Live, hreleases.mRefs, hreleases.deletes, hother, false_and, if_false] using hbefore

/-- A fresh command is counted, and nothing else is affected by its creation. -/
theorem StartApi.call_keeps_live {h : Hal} (hok : RegistryOk h) (hrefs : RefsOk h)
    (hlive : NoDangling h) (api : StartApi) (id : Int) (k : Kernel) :
    RefsOk (api.call id k h).2 ∧ NoDangling (api.call id k h).2 := by
  have hobj := api.call_obj id k h
  have hold : ∀ p < h.next, (api.call id k h).2.obj p = h.obj p := fun p hp => by
    rw [hobj, h.new_obj_of_lt api.cls id hp]
  have hnew : (api.call id k h).2.obj h.next = ⟨api.cls, id, 1, 0, 0⟩ := by
    rw [hobj, h.new_obj_self api.cls id]
  refine ⟨⟨fun cmd hlt => ?_, fun entry hentry => ?_⟩, .of_entry_live fun entry hentry cmd harg => ?_⟩
  · rw [StartApi.call_next] at hlt
    obtain hlt | rfl := Nat.lt_succ_iff_lt_or_eq.mp hlt
    · rw [hold cmd hlt]
      exact hrefs.counted cmd hlt
    · simp [hnew]
  · obtain hmem | rfl := StartApi.mem_of_mem_call_cmd hentry
    · rw [hold entry.cmd (hok.cmd_lt entry hmem)]
      exact hrefs.registered entry hmem
    · simp [hnew]
  · rw [StartApi.call_event_cb] at hentry
    obtain hmem | ⟨event, _, rfl⟩ := mem_runCalls_start hentry
    · rw [Hal.Live, hold cmd (hok.handler_of_cb_arg hmem harg).1]
      exact hlive.entry_live _ hmem cmd harg
    · obtain rfl : h.next = cmd := Option.some.inj harg
      simp [Hal.Live, hnew]

/-- A temporary command is deleted again, and no entry ever names it. -/
theorem cancelTemporary_keeps_live {h : Hal} (hok : RegistryOk h) (hrefs : RefsOk h)
    (hlive : NoDangling h) (cls : CommandClass) (id : Int) (order : List WIFI_VENDOR_EVENT) :
    RefsOk (cancelTemporary cls id (unregisterCalls order) h).2 ∧
      NoDangling (cancelTemporary cls id (unregisterCalls order) h).2 := by
  have hold : ∀ p < h.next,
      ((cancelTemporary cls id (unregisterCalls order) h).2.obj p).mRefs = (h.obj p).mRefs ∧
      ((cancelTemporary cls id (unregisterCalls order) h).2.obj p).deletes = (h.obj p).deletes := by
    intro p hp
    have hne : p ≠ h.next := Nat.ne_of_lt hp
    simp [cancelTemporary, hne, h.new_obj_of_lt cls id hp]
  refine ⟨⟨fun cmd hlt => ?_, fun entry hentry => ?_⟩, .of_entry_live fun entry hentry cmd harg => ?_⟩
  · obtain hlt | rfl := Nat.lt_succ_iff_lt_or_eq.mp hlt
    · rw [(hold cmd hlt).1, (hold cmd hlt).2]
      exact hrefs.counted cmd hlt
    · simp [cancelTemporary]
  · have hmem : entry ∈ h.info.cmd.entries := by simpa [cancelTemporary] using hentry
    rw [(hold entry.cmd (hok.cmd_lt entry hmem)).1]
    exact hrefs.registered entry hmem
  · have hmem : entry ∈ h.info.event_cb.entries := (unregister_sublist h.next h.info order).subset hentry
    have hlt : cmd < h.next := (hok.handler_of_cb_arg hmem harg).1
    rw [Hal.Live, (hold cmd hlt).1, (hold cmd hlt).2]
    exact hlive.entry_live _ hmem cmd harg

/-- Unregistering the events of a command removes all its handlers exactly when
each of them is the first handler of its event. -/
theorem no_handler_left_iff {h : Hal} (hok : RegistryOk h) {cmd : Ptr} {order : List WIFI_VENDOR_EVENT}
    (horder : order.Perm (h.obj cmd).cls.events) :
    (∀ entry ∈ (runCalls cmd h.info (unregisterCalls order)).event_cb.entries, entry.cb_arg ≠ some cmd) ↔
      ∀ entry ∈ h.info.event_cb.entries, entry.cb_arg = some cmd →
        h.info.event_cb.entries.find? (cb_info.isVendorHandler entry.vendor_id entry.vendor_subcmd) =
          some entry := by
  have hnodup : order.Nodup := horder.nodup_iff.mpr (h.obj cmd).cls.events_nodup
  constructor
  · intro hnone entry hentry harg
    obtain ⟨_, event, _, rfl⟩ := hok.handler_of_cb_arg hentry harg
    by_contra hfirst
    refine hnone _ ((mem_unregister_entries hok.cb_nodup hnodup).mpr ⟨hentry, ?_⟩) harg
    intro event' _ hfind
    have hsame : event = event' := isHandlerOf_handler.mp (List.find?_some hfind)
    exact hfirst (hsame ▸ hfind)
  · intro hfirst entry hentry harg
    obtain ⟨hmem, hkept⟩ := (mem_unregister_entries hok.cb_nodup hnodup).mp hentry
    obtain ⟨_, event, hevent, rfl⟩ := hok.handler_of_cb_arg hmem harg
    exact hkept event (horder.mem_iff.mpr hevent) (hfirst _ hmem harg)

theorem RefsOk.get_cmd {h : Hal} (hrefs : RefsOk h) {id : Int} {cmd : Ptr}
    (hget : wifi_get_cmd h.info id = some cmd) : (h.obj cmd).mRefs = 1 :=
  hrefs.registered _ (List.mem_of_find?_eq_some (wifi_get_cmd_eq_some.mp hget))

/-- The handlers of the command a cancel deletes are the ones it unregisters. -/
def CancelsOwn (h : Hal) (id : Int) : Prop :=
  ∀ cmd, wifi_get_cmd h.info id = some cmd → ∀ entry ∈ h.info.event_cb.entries, entry.cb_arg = some cmd →
    h.info.event_cb.entries.find? (cb_info.isVendorHandler entry.vendor_id entry.vendor_subcmd) = some entry

theorem wifi_cancel_cmd_live_iff {h : Hal} (hok : RegistryOk h) (hrefs : RefsOk h) (hlive : NoDangling h)
    (id : Int) (k : Kernel) : RefsOk (wifi_cancel_cmd id k h).2 ∧
      (NoDangling (wifi_cancel_cmd id k h).2 ↔ CancelsOwn h id) := by
  cases hget : wifi_get_cmd h.info id with
  | none =>
    rw [wifi_cancel_cmd_of_none hget]
    exact ⟨hrefs, iff_of_true hlive fun cmd hcmd => by cases hget.symm.trans hcmd⟩
  | some cmd =>
    obtain ⟨order, horder, heq⟩ := wifi_cancel_cmd_of_some hget k
    have hone : ∀ p, some cmd = some p → (h.obj p).mRefs = 1 := by
      rintro p ⟨⟩
      exact hrefs.get_cmd hget
    have hreleases : Releases h (wifi_cancel_cmd id k h).2 (some cmd) := by
      rw [heq]
      constructor <;> simp [eq_comm]
    have hcmd : ∀ entry ∈ (wifi_cancel_cmd id k h).2.info.cmd.entries,
        entry ∈ h.info.cmd.entries ∧ some cmd ≠ some entry.cmd := by
      rw [heq, ← hget]
      exact fun entry hentry => hok.mem_remove_cmd.mp hentry
    refine ⟨hrefs.of_releases hreleases hone hcmd, ?_⟩
    have hcb : (wifi_cancel_cmd id k h).2.info.event_cb.entries ⊆ h.info.event_cb.entries := by
      rw [heq]
      exact (unregister_sublist cmd h.info order).subset
    rw [noDangling_releases_iff hlive hreleases hone hcb]
    simp only [CancelsOwn, hget, Option.some.injEq, forall_eq']
    rw [heq]
    exact no_handler_left_iff hok horder

/-- A dispatch to a live command amounts to the release of its completion
target: the dispatcher's own reference is taken and given back. -/
theorem event_releases {h : Hal} {msg : EventMsg} {cmd : Ptr} (hfor : h.handlerFor msg = some cmd)
    (hone : (h.obj cmd).mRefs = 1) :
    Releases h (internal_valid_message_handler msg h) (h.completionTarget cmd msg) := by
  unfold internal_valid_message_handler
  rw [hfor]
  refine ⟨by simp, fun p => ?_, fun p => ?_⟩
  · simp only [Hal.releaseRef_mRefs, Hal.handleEvent_mRefs, Hal.addRef_mRefs,
      Hal.addRef_completionTarget]
    split_ifs <;> omega
  · simp only [Hal.releaseRef_deletes, Hal.handleEvent_deletes, Hal.handleEvent_mRefs, Hal.addRef_mRefs,
      Hal.addRef_deletes, Hal.addRef_completionTarget]
    by_cases hp : p = cmd
    · subst hp
      by_cases htgt : h.completionTarget p msg = some p <;> simp [htgt, hone]
    · simp [hp]

/-- A completing handler that releases another command than its own leaves no
handler of that command. -/
def CompletesOwn (h : Hal) (msg : EventMsg) : Prop :=
  ∀ cmd, h.handlerFor msg = some cmd → ∀ found, h.completionTarget cmd msg = some found →
    found ≠ cmd → ∀ entry ∈ h.info.event_cb.entries, entry.cb_arg ≠ some found

/-- The handler a completing dispatch removes is the one it was dispatched to. -/
theorem find_handler_of_completes {h : Hal} (hok : RegistryOk h) {msg : EventMsg} {cmd : Ptr}
    (hfor : h.handlerFor msg = some cmd) (hcompletes : h.Completes cmd msg) :
    h.info.event_cb.entries.find? (isHandlerOf RTT_EVENT_COMPLETE) =
      some (handler cmd RTT_EVENT_COMPLETE) := by
  obtain ⟨entry, hmem, hfind, harg⟩ := Hal.handlerFor_eq_some hfor
  obtain rfl := hok.eq_rtt_handler hcompletes hmem harg
  rwa [accepts_eq_isHandlerOf (List.find?_some hfind)] at hfind

/-- After a completing dispatch, handlers of its target are left exactly when the
target is another command that had one. -/
theorem completion_leaves_none_iff {h : Hal} (hok : RegistryOk h) {msg : EventMsg} {cmd : Ptr}
    (hfor : h.handlerFor msg = some cmd) (hcompletes : h.Completes cmd msg) :
    (∀ found, h.completionTarget cmd msg = some found →
      ∀ entry ∈ (h.info.event_cb.remove (isHandlerOf RTT_EVENT_COMPLETE)).entries, entry.cb_arg ≠ some found) ↔
      CompletesOwn h msg := by
  have hkept : ∀ entry, entry ∈ (h.info.event_cb.remove (isHandlerOf RTT_EVENT_COMPLETE)).entries ↔
      entry ∈ h.info.event_cb.entries ∧ entry ≠ handler cmd RTT_EVENT_COMPLETE := by
    intro entry
    rw [Table.remove_entries, mem_eraseP_iff hok.cb_nodup, find_handler_of_completes hok hfor hcompletes]
    simp only [ne_eq, Option.some.injEq, eq_comm]
  constructor
  · intro hnone owner howner found hfound hne entry hentry harg
    obtain rfl : cmd = owner := Option.some.inj (hfor.symm.trans howner)
    refine hnone found hfound entry ((hkept entry).mpr ⟨hentry, ?_⟩) harg
    rintro rfl
    exact hne (Option.some.inj harg).symm
  · intro hown found hfound entry hentry harg
    obtain ⟨hmem, hne⟩ := (hkept entry).mp hentry
    by_cases hself : found = cmd
    · subst hself
      exact hne (hok.eq_rtt_handler hcompletes hmem harg)
    · exact hown cmd hfor found hfound hself entry hmem harg

theorem event_live_iff {h : Hal} (hok : RegistryOk h) (hrefs : RefsOk h) (hlive : NoDangling h)
    (msg : EventMsg) : RefsOk (internal_valid_message_handler msg h) ∧
      (NoDangling (internal_valid_message_handler msg h) ↔ CompletesOwn h msg) := by
  cases hfor : h.handlerFor msg with
  | none =>
    rw [event_of_none hfor]
    exact ⟨hrefs, iff_of_true hlive fun cmd hcmd => by cases hfor.symm.trans hcmd⟩
  | some cmd =>
    obtain ⟨entry, hmem, _, harg⟩ := Hal.handlerFor_eq_some hfor
    have hlt : cmd < h.next := (hok.handler_of_cb_arg hmem harg).1
    have hcmdOne : (h.obj cmd).mRefs = 1 := (hrefs.live_iff hlt).mp (hlive.dispatch_live msg cmd hfor)
    have hreleases := event_releases hfor hcmdOne
    have hcb := event_event_cb hfor
    have htable := event_cmd hfor
    by_cases hcompletes : h.Completes cmd msg
    · have htarget : h.completionTarget cmd msg = wifi_get_cmd h.info (h.obj cmd).mId := if_pos hcompletes
      rw [if_pos hcompletes] at hcb htable
      have hone : ∀ p, h.completionTarget cmd msg = some p → (h.obj p).mRefs = 1 :=
        fun p hp => hrefs.get_cmd (htarget.symm.trans hp)
      refine ⟨hrefs.of_releases hreleases hone ?_, ?_⟩
      · rw [htable, htarget]
        exact fun entry hentry => hok.mem_remove_cmd.mp hentry
      · rw [noDangling_releases_iff hlive hreleases hone (by rw [hcb]; exact List.eraseP_subset), hcb]
        exact completion_leaves_none_iff hok hfor hcompletes
    · have htarget : h.completionTarget cmd msg = none := if_neg hcompletes
      rw [if_neg hcompletes] at hcb htable
      rw [htarget] at hreleases
      refine ⟨hrefs.of_releases hreleases (by simp) (by rw [htable]; simp), iff_of_true ?_ ?_⟩
      · exact (noDangling_releases_iff hlive hreleases (by simp) (by rw [hcb]; exact fun _ => id)).mpr (by simp)
      · intro owner howner found hfound
        obtain rfl : cmd = owner := Option.some.inj (hfor.symm.trans howner)
        cases htarget.symm.trans hfound

/-- The action leaves no handler behind of a command it deletes. -/
def FreesUnnamed (h : Hal) : Action → Prop
  | .start _ _ _ => True
  | .stop api id _ => api.usesTemporary id ∨ CancelsOwn h id
  | .event msg => CompletesOwn h msg

/-- What one action does to the counts, and when it leaves a dangling handler. -/
theorem step_live_iff {h : Hal} (hok : RegistryOk h) (hrefs : RefsOk h) (hlive : NoDangling h) (act : Action) :
    RefsOk (step h act) ∧ (NoDangling (step h act) ↔ FreesUnnamed h act) := by
  cases act with
  | start api id k =>
    obtain ⟨hrefs', hlive'⟩ := api.call_keeps_live hok hrefs hlive id k
    exact ⟨hrefs', iff_of_true hlive' trivial⟩
  | stop api id k =>
    change RefsOk (api.call id k h).2 ∧
      (NoDangling (api.call id k h).2 ↔ api.usesTemporary id ∨ CancelsOwn h id)
    by_cases hid : api.usesTemporary id
    · obtain ⟨tempId, order, _, heq⟩ := StopApi.call_of_temporary hid k h
      obtain ⟨hrefs', hlive'⟩ := cancelTemporary_keeps_live hok hrefs hlive api.cls tempId order
      rw [heq]
      exact ⟨hrefs', iff_of_true hlive' (Or.inl hid)⟩
    · rw [StopApi.call_of_not_temporary hid, or_iff_right hid]
      exact wifi_cancel_cmd_live_iff hok hrefs hlive id k
  | event msg => exact event_live_iff hok hrefs hlive msg

/-- Handlers stay live throughout a run exactly when no cancel and no completion
of it deletes a command with a handler left. -/
theorem run_noDangling_iff (acts : List Action) :
    StatesHold step NoDangling Hal.initial acts ↔ StepsHold step FreesUnnamed Hal.initial acts := by
  refine statesHold_iff_stepsHold (I := fun h => RegistryOk h ∧ RefsOk h) ?_ ?_ ?_ ?_ acts
  · rintro h act ⟨hok, hrefs⟩ hlive
    exact (step_live_iff hok hrefs hlive act).2
  · rintro h act ⟨hok, hrefs⟩ hlive _
    exact ⟨hok.step act, (step_live_iff hok hrefs hlive act).1⟩
  · exact ⟨RegistryOk.initial, RefsOk.initial⟩
  · exact .of_entry_live (by simp [Hal.initial, hal_info.initial, Table.empty])

/-- Stopping the second of two scans removes the handlers of the first and
deletes the second. -/
theorem stop_second_scan_dangles : ¬ ∀ acts, StatesHold step NoDangling Hal.initial acts := by
  intro hall
  have hlive := (hall [.start .wifi_start_gscan 1 .ok, .start .wifi_start_gscan 2 .ok,
    .stop .wifi_stop_gscan 2 .ok]).final
  have hrefs := (hlive.entry_live (handler 1 GSCAN_EVENT_COMPLETE_SCAN) (by decide +kernel) 1 rfl).1
  revert hrefs
  decide +kernel

end panelli.wifi_hal
