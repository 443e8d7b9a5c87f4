import Panelli.WifiHal.WellFormed

open panelli.table panelli.runs

namespace panelli.wifi_hal

open WIFI_VENDOR_EVENT HandlerCall

/-- The steps of `start` at which the class unregisters its events before it
reports the error. Every other failure leaves the handlers alone. -/
def CommandClass.unregistersOn : CommandClass → Kernel → Prop
  | .ScanCommand, k => k.create 0 = WIFI_SUCCESS ∧ k.reply 0 = WIFI_SUCCESS ∧
      k.create 1 = WIFI_SUCCESS ∧ k.reply 1 = WIFI_SUCCESS ∧
      k.create 2 = WIFI_SUCCESS ∧ k.reply 2 ≠ WIFI_SUCCESS
  | .FullScanResultsCommand, k => k.create 0 = WIFI_SUCCESS ∧ k.reply 0 ≠ WIFI_SUCCESS
  | .BssidHotlistCommand, k => ¬ k.create 0 < 0 ∧ (k.reply 0 < 0 ∨ ¬ k.create 1 < 0 ∧ k.reply 1 < 0)
  | .ePNOCommand, k => ¬ k.create 0 < 0 ∧ k.reply 0 < 0
  | .SignificantWifiChangeCommand, k =>
    ¬ k.create 0 < 0 ∧ ¬ k.reply 0 < 0 ∧ ¬ k.create 1 < 0 ∧ k.reply 1 < 0
  | .AnqpoConfigureCommand, k => k.create 0 = WIFI_SUCCESS ∧ k.reply 0 ≠ WIFI_SUCCESS
  | .BssidBlacklistCommand, _ | .SetRSSIMonitorCommand, _ | .RttCommand, _ => False

def HandlerCall.unregisters : HandlerCall → Bool
  | registerVendorHandler _ _ => false
  | unregisterVendorHandler _ _ => true

theorem CommandClass.unregistersOn_iff (cls : CommandClass) (k : Kernel) :
    cls.unregistersOn k ↔ (cls.start k).2.any HandlerCall.unregisters = true := by
  cases cls with
  | ScanCommand =>
    simp only [unregistersOn, start, ScanCommand.start]
    split_ifs <;> simp_all [HandlerCall.unregisters]
  | FullScanResultsCommand =>
    simp only [unregistersOn, start, FullScanResultsCommand.start, registerThenRequest]
    split_ifs <;> simp_all [HandlerCall.unregisters]
  | BssidHotlistCommand =>
    simp only [unregistersOn, start, BssidHotlistCommand.start]
    split_ifs <;> simp_all [HandlerCall.unregisters]
  | ePNOCommand =>
    simp only [unregistersOn, start, ePNOCommand.start]
    split_ifs <;> simp_all [HandlerCall.unregisters]
  | SignificantWifiChangeCommand =>
    simp only [unregistersOn, start, SignificantWifiChangeCommand.start]
    split_ifs <;> simp_all [HandlerCall.unregisters]
  | BssidBlacklistCommand =>
    simp only [unregistersOn, start, BssidBlacklistCommand.start]
    split_ifs <;> simp
  | AnqpoConfigureCommand =>
    simp only [unregistersOn, start, AnqpoConfigureCommand.start, registerThenRequest]
    split_ifs <;> simp_all [HandlerCall.unregisters]
  | SetRSSIMonitorCommand =>
    simp only [unregistersOn, start, SetRSSIMonitorCommand.start]
    split_ifs <;> simp [HandlerCall.unregisters]
  | RttCommand =>
    simp only [unregistersOn, start, RttCommand.start]
    split_ifs <;> simp [HandlerCall.unregisters]

theorem unregisterCalls_any {events : List WIFI_VENDOR_EVENT} (hne : events ≠ []) :
    (unregisterCalls events).any HandlerCall.unregisters = true := by
  obtain ⟨event, rest, rfl⟩ := List.exists_cons_of_ne_nil hne
  rfl

/-- Some handler entry is for one of the events. -/
def hal_info.Handles (info : hal_info) (events : List WIFI_VENDOR_EVENT) : Prop :=
  ∃ entry ∈ info.event_cb.entries, ∃ event ∈ events, isHandlerOf event entry

/-- Unregistering is without effect exactly when nothing handles the events. -/
theorem unregister_entries_eq_iff {cmd : Ptr} {info : hal_info} {events : List WIFI_VENDOR_EVENT}
    (hnodup : info.event_cb.entries.Nodup) (hevents : events.Nodup) :
    (runCalls cmd info (unregisterCalls events)).event_cb.entries = info.event_cb.entries ↔
      ¬ info.Handles events := by
  constructor
  · rintro heq ⟨entry, hentry, event, hevent, hhandles⟩
    cases hfind : info.event_cb.entries.find? (isHandlerOf event) with
    | none => exact List.find?_eq_none.mp hfind entry hentry hhandles
    | some first =>
      have hfirst := List.mem_of_find?_eq_some hfind
      rw [← heq] at hfirst
      exact ((mem_unregister_entries hnodup hevents).mp hfirst).2 event hevent hfind
  · intro hnone
    have hall : ∀ entry ∈ info.event_cb.entries, ∀ p ∈ events.map isHandlerOf, ¬ p entry := by
      intro entry hentry p hp hhandles
      obtain ⟨event, hevent, rfl⟩ := List.mem_map.mp hp
      exact hnone ⟨entry, hentry, event, hevent, hhandles⟩
    have hkeep := eraseEach_append_of_forall_not hall []
    rw [List.append_nil] at hkeep
    rw [unregister_entries, hkeep, List.append_right_eq_self]
    exact List.sublist_nil.mp (eraseEach_sublist [] _)

/-- So is registering first and then unregistering, for a command new to the registry. -/
theorem register_unregister_entries_eq_iff {cmd : Ptr} {info : hal_info}
    {events order : List WIFI_VENDOR_EVENT} (hnodup : info.event_cb.entries.Nodup)
    (hfresh : ∀ entry ∈ info.event_cb.entries, entry.cb_arg ≠ some cmd) (hevents : events.Nodup)
    (horder : order.Perm events) :
    (runCalls cmd info (registerCalls events ++ unregisterCalls order)).event_cb.entries =
      info.event_cb.entries ↔ ¬ info.Handles events := by
  constructor
  · rintro heq ⟨entry, hentry, event, hevent, hhandles⟩
    have hregistered := nodup_register_entries hnodup hfresh hevents
    cases hfind : info.event_cb.entries.find? (isHandlerOf event) with
    | none => exact List.find?_eq_none.mp hfind entry hentry hhandles
    | some first =>
      have hfirst := List.mem_of_find?_eq_some hfind
      have hfind' : (runCalls cmd info (registerCalls events)).event_cb.entries.find? (isHandlerOf event) =
          some first := by
        rw [register_entries, List.find?_append, hfind, Option.some_or]
      rw [← heq, runCalls_append] at hfirst
      exact ((mem_unregister_entries hregistered (horder.nodup_iff.mpr hevents)).mp hfirst).2 event
        (horder.mem_iff.mpr hevent) hfind'
  · intro hnone
    refine register_unregister_entries hevents horder fun entry hentry event hevent hhandles => ?_
    exact hnone ⟨entry, hentry, event, hevent, hhandles⟩

/-- The command table is restored exactly when nobody else had the id. -/
theorem push_remove_cmd_eq_iff {h : Hal} (hok : RegistryOk h) (id : Int) :
    (h.info.cmd.push ⟨id, h.next⟩).remove (·.id == id) = h.info.cmd ↔ wifi_get_cmd h.info id = none := by
  rw [wifi_get_cmd_eq_none]
  constructor
  · intro heq entry hentry hid
    have hentries := congrArg Table.entries heq
    rw [Table.remove_entries, Table.push_entries] at hentries
    have hmatch : (entry.id == id) = true := beq_iff_eq.mpr hid
    split at hentries
    · rw [List.eraseP_append_left (p := fun e : cmd_info => e.id == id) hmatch _ hentry] at hentries
      have hnew : ⟨id, h.next⟩ ∈ h.info.cmd.entries := hentries ▸ by simp
      exact hok.next_not_mem_cmd _ hnew rfl
    · have hlength := congrArg List.length hentries
      rw [List.length_eraseP_of_mem hentry hmatch] at hlength
      have := List.length_pos_of_mem hentry
      omega
  · intro hnone
    have hnot : ∀ entry ∈ h.info.cmd.entries, ¬ (entry.id == id) = true :=
      fun entry hentry hmatch => hnone entry hentry (beq_iff_eq.mp hmatch)
    refine Table.ext ?_ (Table.push_alloc _ _)
    rw [Table.remove_entries, Table.push_entries]
    split
    · rw [List.eraseP_append_right _ hnot]
      simp
    · exact List.eraseP_of_forall_not hnot

/-- What a failed start does to the handlers, in a state where the registries
are in order. -/
theorem start_event_cb_eq_iff {h : Hal} (hok : RegistryOk h) {cls : CommandClass} {k : Kernel}
    (hfail : (cls.start k).1 ≠ WIFI_SUCCESS) :
    (runCalls h.next h.info (cls.start k).2).event_cb.entries = h.info.event_cb.entries ↔
      (cls.unregistersOn k → ¬ h.info.Handles cls.events) := by
  rw [CommandClass.unregistersOn_iff]
  have houtcome := cls.start_outcome k
  generalize cls.start k = outcome at hfail houtcome
  cases houtcome with
  | started => exact absurd rfl hfail
  | failed _ => simp
  | @unregistered _ order _ horder hne =>
    have hperm : h.info.Handles order ↔ h.info.Handles cls.events := by
      simp only [hal_info.Handles, horder.mem_iff]
    rw [unregister_entries_eq_iff hok.cb_nodup (horder.nodup_iff.mpr cls.events_nodup), hperm]
    exact ⟨fun hnone _ => hnone, fun himp => himp (unregisterCalls_any hne)⟩
  | rolledBack _ horder hne =>
    rw [register_unregister_entries_eq_iff hok.cb_nodup hok.next_not_mem_event_cb cls.events_nodup horder]
    refine ⟨fun hnone _ => hnone, fun himp => himp ?_⟩
    rw [List.any_append, unregisterCalls_any hne, Bool.or_true]

/-- A failed start restores the registries exactly when its id was unused and,
where it unregisters its events, nobody handled them. -/
theorem StartApi.failed_restores_iff {h : Hal} (hok : RegistryOk h) {api : StartApi}
    (hapi : api.rollsBack) {id : Int} {k : Kernel} (hfail : (api.call id k h).1 ≠ WIFI_SUCCESS) :
    (api.call id k h).2.info = h.info ↔ wifi_get_cmd h.info id = none ∧
      (api.cls.unregistersOn k → ¬ h.info.Handles api.cls.events) := by
  have hcall : api.call id k h = startOrUnregister api.cls id k h := by
    rw [StartApi.call_eq, if_pos hapi]
  rw [hcall, startOrUnregister_eq] at hfail ⊢
  rw [if_neg hfail, startCommand_eq, wifi_unregister_cmd_snd]
  rw [← push_remove_cmd_eq_iff hok id, ← start_event_cb_eq_iff hok hfail]
  constructor
  · intro hinfo
    obtain ⟨hcb, hcmd⟩ := hal_info.ext_iff.mp hinfo
    exact ⟨hcmd, congrArg Table.entries hcb⟩
  · rintro ⟨hcmd, hcb⟩
    exact hal_info.ext (Table.ext hcb (runCalls_event_cb_alloc h.next h.info _)) hcmd

/-- The same, for the state any run reaches. -/
theorem run_failed_start_restores_iff (acts : List Action) {api : StartApi} (hapi : api.rollsBack)
    {id : Int} {k : Kernel} (hfail : (api.call id k (run step Hal.initial acts)).1 ≠ WIFI_SUCCESS) :
    (api.call id k (run step Hal.initial acts)).2.info = (run step Hal.initial acts).info ↔
      wifi_get_cmd (run step Hal.initial acts).info id = none ∧
        (api.cls.unregistersOn k → ¬ (run step Hal.initial acts).info.Handles api.cls.events) :=
  StartApi.failed_restores_iff (RegistryOk.run acts) hapi hfail

/-- Refusing the first request of a hotlist is harmless while there is no other. -/
theorem first_hotlist_refused_restores :
    (StartApi.wifi_set_bssid_hotlist.call 1 (.refusing 0) Hal.initial).2.info = Hal.initial.info :=
  (@run_failed_start_restores_iff [] .wifi_set_bssid_hotlist rfl 1 (.refusing 0) (by decide +kernel)).mpr
    ⟨rfl, fun _ => by simp [hal_info.Handles, Hal.initial, hal_info.initial, Table.empty]⟩

/-- Refusing a second hotlist unregisters the handlers of the first. -/
theorem second_hotlist_refused_unregisters_first : ¬ ∀ acts (api : StartApi) id k, api.rollsBack →
    (api.call id k (run step Hal.initial acts)).1 ≠ WIFI_SUCCESS →
      (api.call id k (run step Hal.initial acts)).2.info = (run step Hal.initial acts).info := by
  intro hall
  have hinfo := hall [.start .wifi_set_bssid_hotlist 1 .ok] .wifi_set_bssid_hotlist 2 (.refusing 0) rfl
    (by decide +kernel)
  have hlength := congrArg (fun info => info.event_cb.entries.length) hinfo
  revert hlength
  decide +kernel

end panelli.wifi_hal
