import Panelli.Runs
import Panelli.WifiHal.Heap

open panelli.table

namespace panelli.wifi_hal

open WIFI_VENDOR_EVENT HandlerCall

/-- What every reachable state keeps, whatever was freed: registry entries name
allocated commands, the command table lists each command once under its own id,
and each handler entry is one a command registers for its class. -/
structure RegistryOk (h : Hal) : Prop where
  cmd_lt : ∀ entry ∈ h.info.cmd.entries, entry.cmd < h.next
  cmd_nodup : (h.info.cmd.entries.map cmd_info.cmd).Nodup
  cmd_id : ∀ entry ∈ h.info.cmd.entries, (h.obj entry.cmd).mId = entry.id
  cb_handler : ∀ entry ∈ h.info.event_cb.entries,
    ∃ cmd < h.next, ∃ event ∈ (h.obj cmd).cls.events, entry = handler cmd event
  cb_nodup : h.info.event_cb.entries.Nodup

theorem RegistryOk.initial : RegistryOk Hal.initial := by
  constructor <;> simp [Hal.initial, hal_info.initial, Table.empty]

/-- Removing entries and counting references keeps the registries in order. -/
theorem RegistryOk.of_sublist {h h' : Hal} (hok : RegistryOk h) (hnext : h'.next = h.next)
    (hcmd : h'.info.cmd.entries.Sublist h.info.cmd.entries)
    (hcb : h'.info.event_cb.entries.Sublist h.info.event_cb.entries)
    (hcls : ∀ p, (h'.obj p).cls = (h.obj p).cls) (hid : ∀ p, (h'.obj p).mId = (h.obj p).mId) :
    RegistryOk h' where
  cmd_lt entry hentry := hnext ▸ hok.cmd_lt entry (hcmd.subset hentry)
  cmd_nodup := hok.cmd_nodup.sublist (hcmd.map cmd_info.cmd)
  cmd_id entry hentry := (hid entry.cmd).trans (hok.cmd_id entry (hcmd.subset hentry))
  cb_handler entry hentry := by
    obtain ⟨cmd, hlt, event, hevent, heq⟩ := hok.cb_handler entry (hcb.subset hentry)
    exact ⟨cmd, hnext ▸ hlt, event, (hcls cmd).symm ▸ hevent, heq⟩
  cb_nodup := hok.cb_nodup.sublist hcb

/-- A fresh address is named by no registry. -/
theorem RegistryOk.next_not_mem_cmd {h : Hal} (hok : RegistryOk h) :
    ∀ entry ∈ h.info.cmd.entries, entry.cmd ≠ h.next :=
  fun entry hentry => Nat.ne_of_lt (hok.cmd_lt entry hentry)

/-- The handler entry of a command is one the command registers. -/
theorem RegistryOk.handler_of_cb_arg {h : Hal} (hok : RegistryOk h) {entry : cb_info} {cmd : Ptr}
    (hentry : entry ∈ h.info.event_cb.entries) (harg : entry.cb_arg = some cmd) :
    cmd < h.next ∧ ∃ event ∈ (h.obj cmd).cls.events, entry = handler cmd event := by
  obtain ⟨owner, hlt, event, hevent, rfl⟩ := hok.cb_handler entry hentry
  obtain rfl : owner = cmd := Option.some.inj harg
  exact ⟨hlt, event, hevent, rfl⟩

theorem RegistryOk.next_not_mem_event_cb {h : Hal} (hok : RegistryOk h) :
    ∀ entry ∈ h.info.event_cb.entries, entry.cb_arg ≠ some h.next := by
  intro entry hentry harg
  exact Nat.lt_irrefl _ (hok.handler_of_cb_arg hentry harg).1

/-- A command whose measurement completes has no handlers for other events. -/
theorem RegistryOk.eq_rtt_handler {h : Hal} (hok : RegistryOk h) {entry : cb_info} {cmd : Ptr} {msg : EventMsg}
    (hcompletes : h.Completes cmd msg) (hentry : entry ∈ h.info.event_cb.entries)
    (harg : entry.cb_arg = some cmd) : entry = handler cmd RTT_EVENT_COMPLETE := by
  obtain ⟨_, event, hevent, rfl⟩ := hok.handler_of_cb_arg hentry harg
  rw [hcompletes.1] at hevent
  rw [List.mem_singleton.mp hevent]

/-- Removing the first entry with an id removes the command found under it. -/
theorem RegistryOk.mem_remove_cmd {h : Hal} (hok : RegistryOk h) {id : Int} {entry : cmd_info} :
    entry ∈ (h.info.cmd.remove (·.id == id)).entries ↔
      entry ∈ h.info.cmd.entries ∧ wifi_get_cmd h.info id ≠ some entry.cmd := by
  rw [Table.remove_entries, mem_eraseP_iff (hok.cmd_nodup.of_map _)]
  refine and_congr_right fun hmem => not_congr ⟨fun hfind => ?_, fun hget => ?_⟩
  · rw [wifi_get_cmd, hfind, Option.map_some]
  · have hfind := wifi_get_cmd_eq_some.mp hget
    have heq := List.inj_on_of_nodup_map hok.cmd_nodup (List.mem_of_find?_eq_some hfind) hmem rfl
    exact heq ▸ hfind

theorem RegistryOk.new {h : Hal} (hok : RegistryOk h) (cls : CommandClass) (id : Int) :
    RegistryOk (h.new cls id).2 where
  cmd_lt entry hentry := Nat.lt_succ_of_lt (hok.cmd_lt entry hentry)
  cmd_nodup := hok.cmd_nodup
  cmd_id entry hentry := by
    rw [h.new_obj_of_lt cls id (hok.cmd_lt entry hentry)]
    exact hok.cmd_id entry hentry
  cb_handler entry hentry := by
    obtain ⟨cmd, hlt, event, hevent, heq⟩ := hok.cb_handler entry hentry
    refine ⟨cmd, Nat.lt_succ_of_lt hlt, event, ?_, heq⟩
    rw [h.new_obj_of_lt cls id hlt]
    exact hevent
  cb_nodup := hok.cb_nodup

/-- Every handler a start leaves behind was there before or is its own. -/
theorem mem_runCalls_start {cls : CommandClass} {k : Kernel} {cmd : Ptr} {info : hal_info}
    {entry : cb_info} (hentry : entry ∈ (runCalls cmd info (cls.start k).2).event_cb.entries) :
    entry ∈ info.event_cb.entries ∨ ∃ event ∈ cls.events, entry = handler cmd event := by
  have hregister : entry ∈ (runCalls cmd info (registerCalls cls.events)).event_cb.entries →
      entry ∈ info.event_cb.entries ∨ ∃ event ∈ cls.events, entry = handler cmd event := by
    intro hmem
    rw [register_entries, List.mem_append] at hmem
    refine hmem.imp id fun htake => ?_
    obtain ⟨event, hevent, heq⟩ := List.mem_map.mp (List.mem_of_mem_take htake)
    exact ⟨event, hevent, heq.symm⟩
  have houtcome := cls.start_outcome k
  generalize cls.start k = outcome at hentry houtcome
  cases houtcome with
  | started => exact hregister hentry
  | failed _ => exact Or.inl hentry
  | unregistered _ _ _ => exact Or.inl ((unregister_sublist cmd info _).subset hentry)
  | rolledBack _ _ _ =>
    rw [runCalls_append] at hentry
    exact hregister ((unregister_sublist cmd _ _).subset hentry)

/-- A fresh command never registers an entry twice. -/
theorem nodup_register_entries {cmd : Ptr} {info : hal_info} {events : List WIFI_VENDOR_EVENT}
    (hnodup : info.event_cb.entries.Nodup)
    (hfresh : ∀ entry ∈ info.event_cb.entries, entry.cb_arg ≠ some cmd) (hevents : events.Nodup) :
    (runCalls cmd info (registerCalls events)).event_cb.entries.Nodup := by
  rw [register_entries]
  have hall : (events.map (handler cmd)).Nodup := hevents.map fun event event' heq => (handler_inj.mp heq).2
  apply hnodup.append (hall.sublist (List.take_sublist _ _))
  intro entry hentry htake
  obtain ⟨event, _, rfl⟩ := List.mem_map.mp (List.mem_of_mem_take htake)
  exact hfresh _ hentry rfl

theorem nodup_runCalls_start {cls : CommandClass} {k : Kernel} {cmd : Ptr} {info : hal_info}
    (hnodup : info.event_cb.entries.Nodup)
    (hfresh : ∀ entry ∈ info.event_cb.entries, entry.cb_arg ≠ some cmd) :
    (runCalls cmd info (cls.start k).2).event_cb.entries.Nodup := by
  have hregister := nodup_register_entries hnodup hfresh cls.events_nodup
  have houtcome := cls.start_outcome k
  generalize cls.start k = outcome at houtcome
  cases houtcome with
  | started => exact hregister
  | failed _ => exact hnodup
  | unregistered _ _ _ => exact hnodup.sublist (unregister_sublist cmd info _)
  | rolledBack _ _ _ =>
    rw [runCalls_append]
    exact hregister.sublist (unregister_sublist cmd _ _)

/-- What the shared part of the start functions does to the state. -/
theorem startCommand_eq (cls : CommandClass) (id : Int) (k : Kernel) (h : Hal) :
    startCommand cls id k h = ((cls.start k).1, { (h.new cls id).2 with
      info := ⟨(runCalls h.next h.info (cls.start k).2).event_cb, h.info.cmd.push ⟨id, h.next⟩⟩ }) := by
  unfold startCommand
  simp only [wifi_register_cmd_snd, Hal.new_info, Hal.new_fst, runCalls_with_cmd]

theorem RegistryOk.startCommand {h : Hal} (hok : RegistryOk h) (cls : CommandClass) (id : Int)
    (k : Kernel) : RegistryOk (wifi_hal.startCommand cls id k h).2 := by
  rw [startCommand_eq]
  have hnew := hok.new cls id
  refine ⟨?_, ?_, ?_, ?_, ?_⟩
  · intro entry hentry
    obtain hold | rfl := Table.mem_push hentry
    · exact hnew.cmd_lt entry hold
    · exact Nat.lt_succ_self h.next
  · dsimp only
    rw [Table.push_entries]
    split
    · rw [List.map_append, List.map_singleton]
      apply hok.cmd_nodup.append (List.nodup_singleton _)
      intro cmd hcmd hnext
      obtain ⟨entry, hentry, rfl⟩ := List.mem_map.mp hcmd
      exact hok.next_not_mem_cmd entry hentry (List.mem_singleton.mp hnext)
    · exact hok.cmd_nodup
  · intro entry hentry
    obtain hold | rfl := Table.mem_push hentry
    · exact hnew.cmd_id entry hold
    · simp
  · intro entry hentry
    obtain hold | ⟨event, hevent, rfl⟩ := mem_runCalls_start hentry
    · exact hnew.cb_handler entry hold
    · exact ⟨h.next, Nat.lt_succ_self h.next, event, by simpa using hevent, rfl⟩
  · exact nodup_runCalls_start hok.cb_nodup hok.next_not_mem_event_cb

theorem startOrUnregister_eq (cls : CommandClass) (id : Int) (k : Kernel) (h : Hal) :
    startOrUnregister cls id k h = ((cls.start k).1,
      if (cls.start k).1 = WIFI_SUCCESS then (startCommand cls id k h).2
      else { (startCommand cls id k h).2 with
        info := (wifi_unregister_cmd (startCommand cls id k h).2.info id).2 }) := by
  have hfst : (startCommand cls id k h).1 = (cls.start k).1 := by rw [startCommand_eq]
  unfold startOrUnregister
  rcases hstart : startCommand cls id k h with ⟨result, h'⟩
  rw [hstart] at hfst
  dsimp only at hfst ⊢
  subst result
  split_ifs <;> simp_all

theorem RegistryOk.unregister_cmd {h : Hal} (hok : RegistryOk h) (id : Int) :
    RegistryOk { h with info := (wifi_unregister_cmd h.info id).2 } := by
  rw [wifi_unregister_cmd_snd]
  exact hok.of_sublist rfl List.eraseP_sublist (List.Sublist.refl _) (fun _ => rfl) fun _ => rfl

theorem RegistryOk.startOrUnregister {h : Hal} (hok : RegistryOk h) (cls : CommandClass) (id : Int)
    (k : Kernel) : RegistryOk (wifi_hal.startOrUnregister cls id k h).2 := by
  rw [startOrUnregister_eq]
  split_ifs
  · exact hok.startCommand cls id k
  · exact (hok.startCommand cls id k).unregister_cmd id

/-- The class of the command a start function creates. -/
def StartApi.cls : StartApi → CommandClass
  | wifi_start_gscan => .ScanCommand
  | wifi_enable_full_scan_results => .FullScanResultsCommand
  | wifi_set_bssid_hotlist => .BssidHotlistCommand
  | wifi_set_significant_change_handler => .SignificantWifiChangeCommand
  | wifi_set_epno_list => .ePNOCommand
  | wifi_set_passpoint_list => .AnqpoConfigureCommand
  | wifi_set_bssid_blacklist => .BssidBlacklistCommand
  | wifi_start_rssi_monitoring => .SetRSSIMonitorCommand
  | wifi_rtt_range_request => .RttCommand

/-- The start functions that unregister their id when `start` fails. -/
def StartApi.rollsBack : StartApi → Bool
  | wifi_set_bssid_blacklist | wifi_start_rssi_monitoring | wifi_rtt_range_request => false
  | _ => true

theorem StartApi.call_eq (api : StartApi) : api.call =
    if api.rollsBack then startOrUnregister api.cls else startCommand api.cls := by
  cases api <;> rfl

/-- The class of the requests a stop function is meant for. -/
def StopApi.cls : StopApi → CommandClass
  | wifi_stop_gscan => .ScanCommand
  | wifi_disable_full_scan_results => .FullScanResultsCommand
  | wifi_reset_bssid_hotlist => .BssidHotlistCommand
  | wifi_reset_significant_change_handler => .SignificantWifiChangeCommand
  | wifi_reset_epno_list => .ePNOCommand
  | wifi_reset_passpoint_list => .AnqpoConfigureCommand
  | wifi_stop_rssi_monitoring => .SetRSSIMonitorCommand
  | wifi_rtt_range_cancel => .RttCommand

/-- The calls that work through a temporary command: the id `-1` where the
function knows it, and every RTT cancel. -/
def StopApi.usesTemporary : StopApi → Int → Bool
  | wifi_rtt_range_cancel, _ => true
  | wifi_stop_gscan, id => id == -1
  | wifi_disable_full_scan_results, id => id == -1
  | wifi_reset_epno_list, id => id == -1
  | wifi_stop_rssi_monitoring, id => id == -1
  | _, _ => false

theorem StopApi.call_of_not_temporary {api : StopApi} {id : Int}
    (hid : ¬ api.usesTemporary id) (k : Kernel) (h : Hal) : api.call id k h = wifi_cancel_cmd id k h := by
  cases api with
  | wifi_rtt_range_cancel => exact absurd rfl hid
  | wifi_reset_bssid_hotlist => rfl
  | wifi_reset_significant_change_handler => rfl
  | wifi_reset_passpoint_list => rfl
  | _ => exact if_neg fun heq => hid (beq_iff_eq.mpr heq)

theorem StopApi.call_of_temporary {api : StopApi} {id : Int} (hid : api.usesTemporary id)
    (k : Kernel) (h : Hal) : ∃ tempId order, order.Perm api.cls.events ∧
      api.call id k h = cancelTemporary api.cls tempId (unregisterCalls order) h := by
  obtain ⟨order, horder, hcalls⟩ := api.cls.cancel_calls k
  cases api with
  | wifi_stop_gscan =>
    exact ⟨id, order, horder, (if_pos (beq_iff_eq.mp hid)).trans (congrArg (cancelTemporary _ _ · h) hcalls)⟩
  | wifi_disable_full_scan_results =>
    exact ⟨0, order, horder, (if_pos (beq_iff_eq.mp hid)).trans (congrArg (cancelTemporary _ _ · h) hcalls)⟩
  | wifi_reset_epno_list =>
    exact ⟨id, order, horder, (if_pos (beq_iff_eq.mp hid)).trans (congrArg (cancelTemporary _ _ · h) hcalls)⟩
  | wifi_stop_rssi_monitoring =>
    exact ⟨id, order, horder, (if_pos (beq_iff_eq.mp hid)).trans (congrArg (cancelTemporary _ _ · h) hcalls)⟩
  | wifi_rtt_range_cancel => exact ⟨id, order, horder, congrArg (cancelTemporary _ _ · h) hcalls⟩
  | wifi_reset_bssid_hotlist => simp [StopApi.usesTemporary] at hid
  | wifi_reset_significant_change_handler => simp [StopApi.usesTemporary] at hid
  | wifi_reset_passpoint_list => simp [StopApi.usesTemporary] at hid

theorem wifi_cancel_cmd_of_none {h : Hal} {id : Int} (hget : wifi_get_cmd h.info id = none)
    (k : Kernel) : wifi_cancel_cmd id k h = (WIFI_ERROR_INVALID_ARGS, h) := by
  have hfind : h.info.cmd.entries.find? (·.id == id) = none := by
    simpa [wifi_get_cmd] using hget
  simp [wifi_cancel_cmd, wifi_unregister_cmd, hfind]

/-- Cancelling removes the found command and the first handlers of its events,
and releases it. -/
theorem wifi_cancel_cmd_of_some {h : Hal} {id : Int} {cmd : Ptr}
    (hget : wifi_get_cmd h.info id = some cmd) (k : Kernel) :
    ∃ order, order.Perm (h.obj cmd).cls.events ∧ wifi_cancel_cmd id k h = (WIFI_SUCCESS,
      Hal.releaseRef { h with info := ⟨(runCalls cmd h.info (unregisterCalls order)).event_cb,
        h.info.cmd.remove (·.id == id)⟩ } cmd) := by
  obtain ⟨order, horder, hcalls⟩ := (h.obj cmd).cls.cancel_calls k
  refine ⟨order, horder, ?_⟩
  have hunregister : wifi_unregister_cmd h.info id =
      (some cmd, { h.info with cmd := h.info.cmd.remove (·.id == id) }) :=
    Prod.ext ((wifi_unregister_cmd_fst h.info id).trans hget) (wifi_unregister_cmd_snd h.info id)
  unfold wifi_cancel_cmd
  rw [hunregister]
  simp only [Hal.cancel, hcalls, runCalls_with_cmd]

/-- A start function, field by field: the result of `start`, the objects after
`new`, the handlers after its calls, and the command table after its undo. -/
theorem StartApi.call_fst (api : StartApi) (id : Int) (k : Kernel) (h : Hal) :
    (api.call id k h).1 = (api.cls.start k).1 := by
  rw [StartApi.call_eq]
  split
  · rw [startOrUnregister_eq]
  · rw [startCommand_eq]

theorem StartApi.call_next (api : StartApi) (id : Int) (k : Kernel) (h : Hal) :
    (api.call id k h).2.next = h.next + 1 := by
  rw [StartApi.call_eq]
  split
  · rw [startOrUnregister_eq, startCommand_eq]
    split <;> rfl
  · rw [startCommand_eq]
    rfl

theorem StartApi.call_obj (api : StartApi) (id : Int) (k : Kernel) (h : Hal) :
    (api.call id k h).2.obj = (h.new api.cls id).2.obj := by
  rw [StartApi.call_eq]
  split
  · rw [startOrUnregister_eq, startCommand_eq]
    split <;> rfl
  · rw [startCommand_eq]

theorem StartApi.call_event_cb (api : StartApi) (id : Int) (k : Kernel) (h : Hal) :
    (api.call id k h).2.info.event_cb = (runCalls h.next h.info (api.cls.start k).2).event_cb := by
  rw [StartApi.call_eq]
  split
  · rw [startOrUnregister_eq, startCommand_eq, wifi_unregister_cmd_snd]
    split <;> rfl
  · rw [startCommand_eq]

theorem StartApi.call_cmd (api : StartApi) (id : Int) (k : Kernel) (h : Hal) :
    (api.call id k h).2.info.cmd = if api.rollsBack ∧ (api.cls.start k).1 ≠ WIFI_SUCCESS
      then (h.info.cmd.push ⟨id, h.next⟩).remove (·.id == id) else h.info.cmd.push ⟨id, h.next⟩ := by
  rw [StartApi.call_eq]
  by_cases hapi : api.rollsBack
  · rw [if_pos hapi, startOrUnregister_eq, startCommand_eq, wifi_unregister_cmd_snd]
    by_cases hsuccess : (api.cls.start k).1 = WIFI_SUCCESS <;> simp [hapi, hsuccess]
  · rw [if_neg hapi, if_neg fun hboth => hapi hboth.1, startCommand_eq]

theorem StartApi.mem_of_mem_call_cmd {h : Hal} {api : StartApi} {id : Int} {k : Kernel} {entry : cmd_info}
    (hentry : entry ∈ (api.call id k h).2.info.cmd.entries) :
    entry ∈ h.info.cmd.entries ∨ entry = ⟨id, h.next⟩ := by
  rw [StartApi.call_cmd] at hentry
  split at hentry
  · exact Table.mem_push (List.eraseP_subset hentry)
  · exact Table.mem_push hentry

theorem StopApi.call_cmd (api : StopApi) (id : Int) (k : Kernel) (h : Hal) :
    (api.call id k h).2.info.cmd =
      if api.usesTemporary id then h.info.cmd else h.info.cmd.remove (·.id == id) := by
  by_cases hid : api.usesTemporary id
  · obtain ⟨tempId, order, _, heq⟩ := StopApi.call_of_temporary hid k h
    rw [if_pos hid, heq]
    exact runCalls_cmd h.next h.info _
  · rw [if_neg hid, StopApi.call_of_not_temporary hid]
    cases hget : wifi_get_cmd h.info id with
    | none =>
      have hkeep := wifi_unregister_cmd_snd h.info id
      have hfind : h.info.cmd.entries.find? (·.id == id) = none := by simpa [wifi_get_cmd] using hget
      rw [wifi_unregister_cmd, hfind] at hkeep
      rw [wifi_cancel_cmd_of_none hget]
      exact congrArg hal_info.cmd hkeep
    | some cmd =>
      obtain ⟨order, _, heq⟩ := wifi_cancel_cmd_of_some hget k
      rw [heq]
      rfl

/-- The dispatcher takes its command from a handler entry that accepts the message. -/
theorem Hal.handlerFor_eq_some {h : Hal} {msg : EventMsg} {cmd : Ptr} (hfor : h.handlerFor msg = some cmd) :
    ∃ entry ∈ h.info.event_cb.entries, h.info.event_cb.entries.find? (cb_info.accepts msg) = some entry ∧
      entry.cb_arg = some cmd := by
  obtain ⟨entry, hfind, harg⟩ := Option.bind_eq_some_iff.mp hfor
  exact ⟨entry, List.mem_of_find?_eq_some hfind, hfind, harg⟩

/-- Only a completing handler touches the registries. -/
theorem event_cmd {h : Hal} {msg : EventMsg} {cmd : Ptr} (hfor : h.handlerFor msg = some cmd) :
    (internal_valid_message_handler msg h).info.cmd =
      if h.Completes cmd msg then h.info.cmd.remove (·.id == (h.obj cmd).mId) else h.info.cmd := by
  simp [internal_valid_message_handler, hfor]

theorem event_event_cb {h : Hal} {msg : EventMsg} {cmd : Ptr} (hfor : h.handlerFor msg = some cmd) :
    (internal_valid_message_handler msg h).info.event_cb = if h.Completes cmd msg
      then h.info.event_cb.remove (isHandlerOf RTT_EVENT_COMPLETE) else h.info.event_cb := by
  simp [internal_valid_message_handler, hfor]

theorem event_of_none {h : Hal} {msg : EventMsg} (hfor : h.handlerFor msg = none) :
    internal_valid_message_handler msg h = h := by
  simp only [internal_valid_message_handler, hfor]

theorem RegistryOk.cancelTemporary {h : Hal} (hok : RegistryOk h) (cls : CommandClass) (id : Int)
    (order : List WIFI_VENDOR_EVENT) :
    RegistryOk (wifi_hal.cancelTemporary cls id (unregisterCalls order) h).2 := by
  refine (hok.new cls id).of_sublist rfl ?_ (unregister_sublist h.next h.info order) ?_ ?_
  · simp [wifi_hal.cancelTemporary]
  · intro p
    simp [wifi_hal.cancelTemporary]
  · intro p
    simp [wifi_hal.cancelTemporary]

theorem RegistryOk.wifi_cancel_cmd {h : Hal} (hok : RegistryOk h) (id : Int) (k : Kernel) :
    RegistryOk (wifi_hal.wifi_cancel_cmd id k h).2 := by
  cases hget : wifi_get_cmd h.info id with
  | none => simpa only [wifi_cancel_cmd_of_none hget k] using hok
  | some cmd =>
    obtain ⟨order, _, heq⟩ := wifi_cancel_cmd_of_some hget k
    rw [heq]
    exact hok.of_sublist rfl List.eraseP_sublist (unregister_sublist cmd h.info order)
      (by simp) (by simp)

theorem RegistryOk.event {h : Hal} (hok : RegistryOk h) (msg : EventMsg) :
    RegistryOk (internal_valid_message_handler msg h) := by
  unfold internal_valid_message_handler
  split
  · rename_i cmd _
    exact hok.of_sublist (by simp) ((h.addRef cmd).handleEvent_cmd_sublist cmd msg)
      ((h.addRef cmd).handleEvent_event_cb_sublist cmd msg) (by simp) (by simp)
  · exact hok

/-- Every action keeps the registries in order, including those that leave
handlers of deleted commands behind. -/
theorem RegistryOk.step {h : Hal} (hok : RegistryOk h) (act : Action) :
    RegistryOk (wifi_hal.step h act) := by
  cases act with
  | start api id k =>
    change RegistryOk (api.call id k h).2
    rw [StartApi.call_eq]
    split
    · exact hok.startOrUnregister api.cls id k
    · exact hok.startCommand api.cls id k
  | stop api id k =>
    change RegistryOk (api.call id k h).2
    by_cases hid : api.usesTemporary id
    · obtain ⟨tempId, order, _, heq⟩ := StopApi.call_of_temporary hid k h
      rw [heq]
      exact hok.cancelTemporary api.cls tempId order
    · rw [StopApi.call_of_not_temporary hid]
      exact hok.wifi_cancel_cmd id k
  | event msg => exact hok.event msg

/-- The registries are in order in every state a run reaches. -/
theorem RegistryOk.run (acts : List Action) : RegistryOk (runs.run wifi_hal.step Hal.initial acts) :=
  runs.run_induction (fun _ act hok => hok.step act) RegistryOk.initial acts

end panelli.wifi_hal
