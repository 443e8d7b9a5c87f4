import Panelli.WifiHal.WellFormed

open panelli.table panelli.runs

namespace panelli.wifi_hal

open WIFI_VENDOR_EVENT HandlerCall

/-- The stop function for what a start function began. A blacklist has none. -/
def StartApi.stop : StartApi → Option StopApi
  | wifi_start_gscan => some .wifi_stop_gscan
  | wifi_enable_full_scan_results => some .wifi_disable_full_scan_results
  | wifi_set_bssid_hotlist => some .wifi_reset_bssid_hotlist
  | wifi_set_significant_change_handler => some .wifi_reset_significant_change_handler
  | wifi_set_epno_list => some .wifi_reset_epno_list
  | wifi_set_passpoint_list => some .wifi_reset_passpoint_list
  | wifi_set_bssid_blacklist => none
  | wifi_start_rssi_monitoring => some .wifi_stop_rssi_monitoring
  | wifi_rtt_range_request => some .wifi_rtt_range_cancel

/-- The registries list the command under its id and for each of its events, and
the stop function for it, given the id, takes its entry out whatever the kernel answers. -/
structure Registered (h : Hal) (api : StartApi) (id : Int) (cmd : Ptr) : Prop where
  in_cmd : ⟨id, cmd⟩ ∈ h.info.cmd.entries
  in_event_cb : ∀ event ∈ api.cls.events, handler cmd event ∈ h.info.event_cb.entries
  found : ∀ stop ∈ api.stop, ∀ k, ⟨id, cmd⟩ ∉ (stop.call id k h).2.info.cmd.entries

theorem startCommand_of_success {h : Hal} {cls : CommandClass} {id : Int} {k : Kernel}
    (hsuccess : (startCommand cls id k h).1 = WIFI_SUCCESS) :
    startCommand cls id k h = (WIFI_SUCCESS, { (h.new cls id).2 with
      info := ⟨(runCalls h.next h.info (registerCalls cls.events)).event_cb, h.info.cmd.push ⟨id, h.next⟩⟩ }) := by
  rw [startCommand_eq] at hsuccess ⊢
  have houtcome := cls.start_outcome k
  generalize cls.start k = outcome at hsuccess houtcome ⊢
  cases houtcome with
  | started => rfl
  | failed hresult => exact absurd hsuccess hresult
  | unregistered hresult _ _ => exact absurd hsuccess hresult
  | rolledBack hresult _ _ => exact absurd hsuccess hresult

/-- A start that succeeds keeps what the shared part of the start functions did. -/
theorem StartApi.call_of_success {h : Hal} {api : StartApi} {id : Int} {k : Kernel}
    (hsuccess : (api.call id k h).1 = WIFI_SUCCESS) :
    (startCommand api.cls id k h).1 = WIFI_SUCCESS ∧ api.call id k h = startCommand api.cls id k h := by
  have hresult : (startCommand api.cls id k h).1 = (api.cls.start k).1 := by rw [startCommand_eq]
  rw [StartApi.call_fst] at hsuccess
  refine ⟨hresult.trans hsuccess, ?_⟩
  rw [StartApi.call_eq]
  split
  · rw [startOrUnregister_eq, if_pos hsuccess, ← hresult]
  · rfl

/-- Registering some events registers all of them exactly when they all fit. -/
theorem all_registered_iff {cmd : Ptr} {info : hal_info} {events : List WIFI_VENDOR_EVENT}
    (hevents : events.Nodup) (hfresh : ∀ entry ∈ info.event_cb.entries, entry.cb_arg ≠ some cmd) :
    (∀ event ∈ events, handler cmd event ∈ (runCalls cmd info (registerCalls events)).event_cb.entries) ↔
      info.event_cb.entries.length + events.length ≤ info.event_cb.alloc := by
  rw [register_entries]
  have hle := info.event_cb.entries_le
  constructor
  · intro hall
    have hsubset : events.map (handler cmd) ⊆
        (events.map (handler cmd)).take (info.event_cb.alloc - info.event_cb.entries.length) := by
      intro entry hentry
      obtain ⟨event, hevent, rfl⟩ := List.mem_map.mp hentry
      exact (List.mem_append.mp (hall event hevent)).resolve_left fun hold => hfresh _ hold rfl
    have hnodup : (events.map (handler cmd)).Nodup :=
      hevents.map fun event event' heq => (handler_inj.mp heq).2
    have hlength := (List.subperm_of_subset hnodup hsubset).length_le
    rw [List.length_take, List.length_map] at hlength
    omega
  · intro hroom event hevent
    rw [List.take_of_length_le (by rw [List.length_map]; omega)]
    exact List.mem_append_right _ (List.mem_map_of_mem hevent)

theorem mem_push_cmd_iff {h : Hal} (hok : RegistryOk h) (id : Int) :
    ⟨id, h.next⟩ ∈ (h.info.cmd.push ⟨id, h.next⟩).entries ↔ h.info.cmd.HasRoom := by
  rw [Table.push_entries]
  split
  · exact iff_of_true (by simp) ‹_›
  · exact iff_of_false (fun hmem => hok.next_not_mem_cmd _ hmem rfl) ‹_›

/-- A command pushed under an id is found under it exactly when no other was. -/
theorem get_pushed_cmd_iff {h : Hal} (hok : RegistryOk h) (id : Int) (hroom : h.info.cmd.HasRoom)
    (event_cb : Table cb_info) :
    wifi_get_cmd ⟨event_cb, h.info.cmd.push ⟨id, h.next⟩⟩ id = some h.next ↔
      wifi_get_cmd h.info id = none := by
  unfold wifi_get_cmd
  rw [Table.push_of_room hroom, List.find?_append]
  cases hfind : h.info.cmd.entries.find? (·.id == id) with
  | none => simp
  | some entry =>
    have hne := hok.next_not_mem_cmd entry (List.mem_of_find?_eq_some hfind)
    simp [hne]

/-- A stop function takes out the entry of a command exactly when it looks the id
up and finds that command. -/
theorem StopApi.takes_out_iff {h : Hal} (hok : RegistryOk h) (stop : StopApi) {id : Int} {cmd : Ptr}
    (hmem : ⟨id, cmd⟩ ∈ h.info.cmd.entries) :
    (∀ k, ⟨id, cmd⟩ ∉ (stop.call id k h).2.info.cmd.entries) ↔
      ¬ stop.usesTemporary id ∧ wifi_get_cmd h.info id = some cmd := by
  by_cases hid : stop.usesTemporary id
  · refine iff_of_false (fun hall => hall .ok ?_) fun h => h.1 hid
    rwa [StopApi.call_cmd, if_pos hid]
  · have hcall : ∀ k, (⟨id, cmd⟩ ∉ (stop.call id k h).2.info.cmd.entries ↔ wifi_get_cmd h.info id = some cmd) := by
      intro k
      rw [StopApi.call_cmd, if_neg hid, hok.mem_remove_cmd, not_and, not_not]
      exact forall_prop_of_true hmem
    exact ⟨fun hall => ⟨hid, (hcall .ok).mp (hall .ok)⟩, fun h k => (hcall k).mpr h.2⟩

/-- A start that reports success has registered its command exactly when both
tables had room, its id was unused and the stop function looks that id up. -/
theorem StartApi.success_registers_iff {h : Hal} (hok : RegistryOk h) {api : StartApi} {stop : StopApi} {id : Int}
    {k : Kernel} (hstop : api.stop = some stop) (hsuccess : (api.call id k h).1 = WIFI_SUCCESS) :
    Registered (api.call id k h).2 api id h.next ↔
      h.info.cmd.HasRoom ∧
        h.info.event_cb.entries.length + api.cls.events.length ≤ h.info.event_cb.alloc ∧
        wifi_get_cmd h.info id = none ∧ ¬ stop.usesTemporary id := by
  obtain ⟨hstart, hcall⟩ := StartApi.call_of_success hsuccess
  have hafter : RegistryOk (api.call id k h).2 := by
    rw [hcall]
    exact hok.startCommand api.cls id k
  rw [hcall, startCommand_of_success hstart] at hafter ⊢
  have hcb := all_registered_iff api.cls.events_nodup hok.next_not_mem_event_cb
  constructor
  · rintro ⟨hin_cmd, hin_cb, hfound⟩
    obtain ⟨hlooks, hget⟩ := (stop.takes_out_iff hafter hin_cmd).mp (hfound stop hstop)
    have hroom := (mem_push_cmd_iff hok id).mp hin_cmd
    exact ⟨hroom, hcb.mp hin_cb, (get_pushed_cmd_iff hok id hroom _).mp hget, hlooks⟩
  · rintro ⟨hroom, hfits, hunused, hlooks⟩
    have hin_cmd := (mem_push_cmd_iff hok id).mpr hroom
    refine ⟨hin_cmd, hcb.mpr hfits, fun other hother => ?_⟩
    obtain rfl : stop = other := Option.some.inj (hstop.symm.trans hother)
    exact (stop.takes_out_iff hafter hin_cmd).mpr ⟨hlooks, (get_pushed_cmd_iff hok id hroom _).mpr hunused⟩

/-- The same, for the state any run reaches. -/
theorem run_start_registers_iff (acts : List Action) {api : StartApi} {stop : StopApi} {id : Int} {k : Kernel}
    (hstop : api.stop = some stop) (hsuccess : (api.call id k (run step Hal.initial acts)).1 = WIFI_SUCCESS) :
    Registered (api.call id k (run step Hal.initial acts)).2 api id (run step Hal.initial acts).next ↔
      (run step Hal.initial acts).info.cmd.HasRoom ∧
        (run step Hal.initial acts).info.event_cb.entries.length + api.cls.events.length ≤
          (run step Hal.initial acts).info.event_cb.alloc ∧
        wifi_get_cmd (run step Hal.initial acts).info id = none ∧ ¬ stop.usesTemporary id :=
  StartApi.success_registers_iff (RegistryOk.run acts) hstop hsuccess

theorem first_scan_registers :
    Registered (StartApi.wifi_start_gscan.call 1 .ok Hal.initial).2 .wifi_start_gscan 1 0 :=
  (@run_start_registers_iff [] .wifi_start_gscan .wifi_stop_gscan 1 .ok rfl (by decide +kernel)).mpr
    (by decide +kernel)

/-- Twenty-one scans leave room for one more handler, so the next one is
reported as started without its other two. -/
theorem scan_without_handlers : ¬ ∀ acts (api : StartApi) id k, api.stop.isSome →
    (api.call id k (run step Hal.initial acts)).1 = WIFI_SUCCESS →
      Registered (api.call id k (run step Hal.initial acts)).2 api id (run step Hal.initial acts).next := by
  intro hall
  have hregistered := hall ((List.range 21).map fun i => .start .wifi_start_gscan i .ok)
    .wifi_start_gscan 21 .ok rfl (by decide +kernel)
  have hcomplete := hregistered.in_event_cb GSCAN_EVENT_COMPLETE_SCAN (by decide)
  revert hcomplete
  decide +kernel

end panelli.wifi_hal
