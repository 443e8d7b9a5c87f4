import Panelli.WifiHal.Api

open panelli.table

namespace panelli.wifi_hal

open WIFI_VENDOR_EVENT HandlerCall

/-- The entry a command at `cmd` registers for one of its events. -/
def handler (cmd : Ptr) (event : WIFI_VENDOR_EVENT) : cb_info :=
  ⟨NL80211_CMD_VENDOR, GOOGLE_OUI, event.toInt, some cmd⟩

theorem handler_inj {cmd cmd' : Ptr} {event event' : WIFI_VENDOR_EVENT} :
    handler cmd event = handler cmd' event' ↔ cmd = cmd' ∧ event = event' := by
  simp [handler, WIFI_VENDOR_EVENT.toInt_inj, and_comm]

@[simp] theorem handler_cb_arg (cmd : Ptr) (event : WIFI_VENDOR_EVENT) :
    (handler cmd event).cb_arg = some cmd := rfl

/-- The entries a handler call for `event` looks for. -/
def isHandlerOf (event : WIFI_VENDOR_EVENT) : cb_info → Bool :=
  cb_info.isVendorHandler GOOGLE_OUI event.toInt

@[simp] theorem isHandlerOf_handler {event event' : WIFI_VENDOR_EVENT} {cmd : Ptr} :
    isHandlerOf event (handler cmd event') = true ↔ event' = event := by
  simp [isHandlerOf, handler, cb_info.isVendorHandler, WIFI_VENDOR_EVENT.toInt_inj]

/-- A message a command's handler accepts is accepted by the handlers of its event. -/
theorem accepts_eq_isHandlerOf {msg : EventMsg} {cmd : Ptr} {event : WIFI_VENDOR_EVENT}
    (haccepts : cb_info.accepts msg (handler cmd event) = true) :
    cb_info.accepts msg = isHandlerOf event := by
  have hmsg : msg.cmd = NL80211_CMD_VENDOR ∧ msg.vendor_id = GOOGLE_OUI ∧ msg.subcmd = event.toInt := by
    simp only [cb_info.accepts, handler, Bool.and_eq_true, beq_iff_eq, Bool.not_eq_true',
      Bool.and_eq_false_iff, beq_eq_false_iff_ne, Bool.or_eq_false_iff, bne_eq_false_iff_eq] at haccepts
    obtain ⟨hcmd, hne | hvendor⟩ := haccepts
    · exact absurd hcmd hne
    · exact ⟨hcmd, hvendor⟩
  funext entry
  rw [Bool.eq_iff_iff]
  unfold isHandlerOf
  rw [cb_info.isVendorHandler_iff]
  simp only [cb_info.accepts, hmsg.1, hmsg.2.1, hmsg.2.2, beq_self_eq_true, Bool.true_and, Bool.and_eq_true,
    beq_iff_eq, Bool.not_eq_true', Bool.or_eq_false_iff, bne_eq_false_iff_eq]
  exact ⟨fun ⟨hcmd, hvendor, hsub⟩ => ⟨hcmd.symm, hvendor.symm, hsub.symm⟩,
    fun ⟨hcmd, hvendor, hsub⟩ => ⟨hcmd.symm, hvendor.symm, hsub.symm⟩⟩

theorem isHandlerOf_disjoint {events : List WIFI_VENDOR_EVENT} (hnodup : events.Nodup) :
    Disjoint (events.map isHandlerOf) := by
  refine List.pairwise_map.mpr (hnodup.imp ?_)
  intro event event' hne entry hentry hentry'
  obtain ⟨_, _, hsubcmd⟩ := cb_info.isVendorHandler_iff.mp hentry
  obtain ⟨_, _, hsubcmd'⟩ := cb_info.isVendorHandler_iff.mp hentry'
  exact hne (WIFI_VENDOR_EVENT.toInt_inj.mp (hsubcmd.symm.trans hsubcmd'))

@[simp] theorem runCalls_append (cmd : Ptr) (info : hal_info) (before after : List HandlerCall) :
    runCalls cmd info (before ++ after) = runCalls cmd (runCalls cmd info before) after :=
  List.foldl_append

@[simp] theorem runCalls_nil (cmd : Ptr) (info : hal_info) : runCalls cmd info [] = info := rfl

theorem runCalls_register (cmd : Ptr) (info : hal_info) (events : List WIFI_VENDOR_EVENT) :
    runCalls cmd info (registerCalls events) =
      { info with event_cb := (events.map (handler cmd)).foldl Table.push info.event_cb } := by
  induction events generalizing info with
  | nil => rfl
  | cons event events ih =>
    have hstep : runCalls cmd info (registerCalls (event :: events)) =
        runCalls cmd (wifi_register_vendor_handler info GOOGLE_OUI event.toInt (some cmd)).2
          (registerCalls events) := rfl
    rw [hstep, ih, wifi_register_vendor_handler_snd]
    rfl

theorem runCalls_unregister (cmd : Ptr) (info : hal_info) (events : List WIFI_VENDOR_EVENT) :
    runCalls cmd info (unregisterCalls events) =
      { info with event_cb := (events.map isHandlerOf).foldl Table.remove info.event_cb } := by
  induction events generalizing info with
  | nil => rfl
  | cons event events ih =>
    have hstep : runCalls cmd info (unregisterCalls (event :: events)) =
        runCalls cmd (wifi_unregister_vendor_handler info GOOGLE_OUI event.toInt)
          (unregisterCalls events) := rfl
    rw [hstep, ih]
    rfl

/-- Handler calls neither read nor write the command table. -/
theorem runCalls_with_cmd (cmd : Ptr) (info : hal_info) (table : Table cmd_info)
    (calls : List HandlerCall) :
    runCalls cmd { info with cmd := table } calls = { runCalls cmd info calls with cmd := table } := by
  induction calls generalizing info with
  | nil => rfl
  | cons call calls ih =>
    have hcall : runCall cmd { info with cmd := table } call =
        { runCall cmd info call with cmd := table } := by
      cases call with
      | registerVendorHandler id event => simp only [runCall, wifi_register_vendor_handler_snd]
      | unregisterVendorHandler id event => rfl
    change runCalls cmd (runCall cmd { info with cmd := table } call) calls = _
    rw [hcall, ih]
    rfl

@[simp] theorem runCalls_cmd (cmd : Ptr) (info : hal_info) (calls : List HandlerCall) :
    (runCalls cmd info calls).cmd = info.cmd :=
  (hal_info.ext_iff.mp (runCalls_with_cmd cmd info info.cmd calls)).2

@[simp] theorem runCalls_event_cb_alloc (cmd : Ptr) (info : hal_info) (calls : List HandlerCall) :
    (runCalls cmd info calls).event_cb.alloc = info.event_cb.alloc := by
  induction calls generalizing info with
  | nil => rfl
  | cons call calls ih =>
    apply (ih (runCall cmd info call)).trans
    cases call with
    | registerVendorHandler id event => simp only [runCall, wifi_register_vendor_handler_snd, Table.push_alloc]
    | unregisterVendorHandler id event => rfl

/-- Registering appends the handlers that fit. -/
theorem register_entries (cmd : Ptr) (info : hal_info) (events : List WIFI_VENDOR_EVENT) :
    (runCalls cmd info (registerCalls events)).event_cb.entries =
      info.event_cb.entries ++
        (events.map (handler cmd)).take (info.event_cb.alloc - info.event_cb.entries.length) := by
  rw [runCalls_register, Table.foldl_push_entries]

theorem unregister_entries (cmd : Ptr) (info : hal_info) (events : List WIFI_VENDOR_EVENT) :
    (runCalls cmd info (unregisterCalls events)).event_cb.entries =
      eraseEach info.event_cb.entries (events.map isHandlerOf) := by
  rw [runCalls_unregister, Table.foldl_remove_entries]

/-- Unregistering some events removes exactly the first handler of each. -/
theorem mem_unregister_entries {cmd : Ptr} {info : hal_info} {events : List WIFI_VENDOR_EVENT}
    (hnodup : info.event_cb.entries.Nodup) (hevents : events.Nodup) {entry : cb_info} :
    entry ∈ (runCalls cmd info (unregisterCalls events)).event_cb.entries ↔
      entry ∈ info.event_cb.entries ∧
        ∀ event ∈ events, info.event_cb.entries.find? (isHandlerOf event) ≠ some entry := by
  rw [unregister_entries, mem_eraseEach_iff hnodup (isHandlerOf_disjoint hevents)]
  simp only [List.forall_mem_map]

theorem unregister_sublist (cmd : Ptr) (info : hal_info) (events : List WIFI_VENDOR_EVENT) :
    (runCalls cmd info (unregisterCalls events)).event_cb.entries.Sublist info.event_cb.entries := by
  rw [unregister_entries]
  exact eraseEach_sublist _ _

/-- Registering and then unregistering the same events is a detour when nobody
else handles them. -/
theorem register_unregister_entries {cmd : Ptr} {info : hal_info}
    {events order : List WIFI_VENDOR_EVENT} (hevents : events.Nodup) (horder : order.Perm events)
    (hnone : ∀ entry ∈ info.event_cb.entries, ∀ event ∈ events, ¬ isHandlerOf event entry) :
    (runCalls cmd info (registerCalls events ++ unregisterCalls order)).event_cb.entries =
      info.event_cb.entries := by
  rw [runCalls_append, unregister_entries, register_entries, eraseEach_append_of_forall_not]
  · apply List.append_right_eq_self.mpr
    set registered := (events.map (handler cmd)).take _ with hregistered
    have hsub : registered.Sublist (events.map (handler cmd)) := List.take_sublist _ _
    have hall : (events.map (handler cmd)).Nodup :=
      hevents.map fun event event' heq => (handler_inj.mp heq).2
    refine List.eq_nil_iff_forall_not_mem.mpr fun entry hentry => ?_
    obtain ⟨hmem, hkept⟩ := (mem_eraseEach_iff (hall.sublist hsub)
      (isHandlerOf_disjoint (horder.nodup_iff.mpr hevents))).mp hentry
    obtain ⟨event, hevent, rfl⟩ := List.mem_map.mp (hsub.subset hmem)
    apply hkept (isHandlerOf event) (List.mem_map_of_mem (horder.mem_iff.mpr hevent))
    cases hfind : registered.find? (isHandlerOf event) with
    | none => exact absurd (isHandlerOf_handler.mpr rfl) (List.find?_eq_none.mp hfind _ hmem)
    | some found =>
      obtain ⟨event', _, rfl⟩ := List.mem_map.mp (hsub.subset (List.mem_of_find?_eq_some hfind))
      rw [isHandlerOf_handler.mp (List.find?_some hfind)]
  · intro entry hentry p hp
    obtain ⟨event, hevent, rfl⟩ := List.mem_map.mp hp
    exact hnone entry hentry event (horder.mem_iff.mp hevent)

end panelli.wifi_hal
