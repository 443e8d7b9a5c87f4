import Panelli.WifiHal.Commands
import Mathlib.Logic.Function.Basic

open panelli.table

namespace panelli.wifi_hal

open WIFI_VENDOR_EVENT HandlerCall

/-- A command object. `deletes` counts how often its destructor has run, which
is how the model sees a use or a release after it. -/
structure WifiCommand where
  cls : CommandClass
  mId : Int
  mRefs : Int
  mCompleted : Int
  deletes : Nat

/-- The registries and the command objects allocated so far, at the addresses
below `next`. -/
structure Hal where
  info : hal_info
  obj : Ptr → WifiCommand
  next : Ptr

/-- The state `wifi_initialize` leaves. -/
def Hal.initial : Hal := ⟨hal_info.initial, fun _ => ⟨.ScanCommand, 0, 0, 0, 0⟩, 0⟩

/-- `new` runs the `WifiCommand` constructor on a fresh address. -/
def Hal.new (h : Hal) (cls : CommandClass) (id : Int) : Ptr × Hal :=
  (h.next, { h with obj := Function.update h.obj h.next ⟨cls, id, 1, 0, 0⟩, next := h.next + 1 })

def Hal.addRef (h : Hal) (cmd : Ptr) : Hal :=
  { h with obj := Function.update h.obj cmd { h.obj cmd with mRefs := (h.obj cmd).mRefs + 1 } }

/-- Drops a reference and deletes the object when the count reaches zero. -/
def Hal.releaseRef (h : Hal) (cmd : Ptr) : Hal :=
  let refs := (h.obj cmd).mRefs - 1
  let deletes := if refs = 0 then (h.obj cmd).deletes + 1 else (h.obj cmd).deletes
  { h with obj := Function.update h.obj cmd { h.obj cmd with mRefs := refs, deletes := deletes } }

/-- One handler call of the command at `cmd`. -/
def runCall (cmd : Ptr) (info : hal_info) : HandlerCall → hal_info
  | registerVendorHandler id event => (wifi_register_vendor_handler info id event.toInt (some cmd)).2
  | unregisterVendorHandler id event => wifi_unregister_vendor_handler info id event.toInt

def runCalls (cmd : Ptr) (info : hal_info) (calls : List HandlerCall) : hal_info :=
  calls.foldl (runCall cmd) info

/-- The part all start functions share. The result of `wifi_register_cmd` is ignored. -/
def startCommand (cls : CommandClass) (id : Int) (k : Kernel) (h : Hal) : wifi_error × Hal :=
  let (cmd, h) := h.new cls id
  let info := (wifi_register_cmd h.info id cmd).2
  let (result, calls) := cls.start k
  (result, { h with info := runCalls cmd info calls })

/-- A start function that unregisters the id again when `start` fails. -/
def startOrUnregister (cls : CommandClass) (id : Int) (k : Kernel) (h : Hal) : wifi_error × Hal :=
  let (result, h) := startCommand cls id k h
  if result ≠ WIFI_SUCCESS then
    (result, { h with info := (wifi_unregister_cmd h.info id).2 })
  else
    (result, h)

def wifi_start_gscan : Int → Kernel → Hal → wifi_error × Hal := startOrUnregister .ScanCommand

def wifi_enable_full_scan_results : Int → Kernel → Hal → wifi_error × Hal :=
  startOrUnregister .FullScanResultsCommand

def wifi_set_bssid_hotlist : Int → Kernel → Hal → wifi_error × Hal :=
  startOrUnregister .BssidHotlistCommand

def wifi_set_significant_change_handler : Int → Kernel → Hal → wifi_error × Hal :=
  startOrUnregister .SignificantWifiChangeCommand

def wifi_set_epno_list : Int → Kernel → Hal → wifi_error × Hal := startOrUnregister .ePNOCommand

def wifi_set_passpoint_list : Int → Kernel → Hal → wifi_error × Hal :=
  startOrUnregister .AnqpoConfigureCommand

def wifi_set_bssid_blacklist : Int → Kernel → Hal → wifi_error × Hal :=
  startCommand .BssidBlacklistCommand

def wifi_start_rssi_monitoring : Int → Kernel → Hal → wifi_error × Hal :=
  startCommand .SetRSSIMonitorCommand

def wifi_rtt_range_request : Int → Kernel → Hal → wifi_error × Hal := startCommand .RttCommand

/-- The middle of `wifi_cancel_cmd`: the virtual `cancel` of the command removed. -/
def Hal.cancel (h : Hal) (cmd : Ptr) (k : Kernel) : Hal :=
  { h with info := runCalls cmd h.info ((h.obj cmd).cls.cancel k).2 }

def wifi_cancel_cmd (id : Int) (k : Kernel) (h : Hal) : wifi_error × Hal :=
  match wifi_unregister_cmd h.info id with
  | (some cmd, info) => (WIFI_SUCCESS, (Hal.cancel { h with info := info } cmd k).releaseRef cmd)
  | (none, info) => (WIFI_ERROR_INVALID_ARGS, { h with info := info })

/-- The stop-all path: a temporary command makes the calls and is released. -/
def cancelTemporary (cls : CommandClass) (id : Int) (calls : List HandlerCall) (h : Hal) :
    wifi_error × Hal :=
  let (cmd, h) := h.new cls id
  (WIFI_SUCCESS, Hal.releaseRef { h with info := runCalls cmd h.info calls } cmd)

def wifi_stop_gscan (id : Int) (k : Kernel) (h : Hal) : wifi_error × Hal :=
  if id = -1 then cancelTemporary .ScanCommand id (ScanCommand.cancel k).2 h
  else wifi_cancel_cmd id k h

/-- The body repeats `wifi_cancel_cmd`, and its temporary command has id 0. -/
def wifi_disable_full_scan_results (id : Int) (k : Kernel) (h : Hal) : wifi_error × Hal :=
  if id = -1 then cancelTemporary .FullScanResultsCommand 0 (FullScanResultsCommand.cancel k).2 h
  else wifi_cancel_cmd id k h

def wifi_reset_bssid_hotlist : Int → Kernel → Hal → wifi_error × Hal := wifi_cancel_cmd

def wifi_reset_significant_change_handler : Int → Kernel → Hal → wifi_error × Hal := wifi_cancel_cmd

def wifi_reset_epno_list (id : Int) (k : Kernel) (h : Hal) : wifi_error × Hal :=
  if id = -1 then cancelTemporary .ePNOCommand id (ePNOCommand.cancel k).2 h
  else wifi_cancel_cmd id k h

def wifi_reset_passpoint_list : Int → Kernel → Hal → wifi_error × Hal := wifi_cancel_cmd

def wifi_stop_rssi_monitoring (id : Int) (k : Kernel) (h : Hal) : wifi_error × Hal :=
  if id = -1 then cancelTemporary .SetRSSIMonitorCommand id (SetRSSIMonitorCommand.cancel k).2 h
  else wifi_cancel_cmd id k h

/-- Only a temporary command is cancelled; the request stays in the command table. -/
def wifi_rtt_range_cancel (id : Int) (k : Kernel) (h : Hal) : wifi_error × Hal :=
  cancelTemporary .RttCommand id (RttCommand.cancel_specific k).2 h

/-- An event message as the event thread reads it. `completed` is the value the
attributes of its payload leave in `mCompleted`, if they assign one. -/
structure EventMsg where
  cmd : Int
  vendor_id : Nat
  subcmd : Int
  completed : Option Int
deriving DecidableEq

/-- A Google vendor event. -/
def EventMsg.vendor (event : WIFI_VENDOR_EVENT) (completed : Option Int) : EventMsg :=
  ⟨NL80211_CMD_VENDOR, GOOGLE_OUI, event.toInt, completed⟩

/-- The entries the dispatcher accepts for a message. -/
def cb_info.accepts (msg : EventMsg) (entry : cb_info) : Bool :=
  msg.cmd == entry.nl_cmd && !(msg.cmd == NL80211_CMD_VENDOR &&
    (msg.vendor_id != entry.vendor_id || msg.subcmd != entry.vendor_subcmd))

/-- The value `mCompleted` has after the payload was walked. -/
def Hal.completedAfter (h : Hal) (cmd : Ptr) (msg : EventMsg) : Int :=
  msg.completed.getD (h.obj cmd).mCompleted

/-- A completed measurement drops its handler and releases the command found
under its own id. -/
def RttCommand.handleEvent (h : Hal) (cmd : Ptr) (msg : EventMsg) : Hal :=
  let completed := h.completedAfter cmd msg
  let h := { h with obj := Function.update h.obj cmd { h.obj cmd with mCompleted := completed } }
  if completed ≠ 0 then
    let info := wifi_unregister_vendor_handler h.info GOOGLE_OUI RTT_EVENT_COMPLETE.toInt
    match wifi_unregister_cmd info (h.obj cmd).mId with
    | (some found, info) => Hal.releaseRef { h with info := info } found
    | (none, info) => { h with info := info }
  else h

/-- The virtual `handleEvent`. The other classes only report to their callbacks. -/
def Hal.handleEvent (h : Hal) (cmd : Ptr) (msg : EventMsg) : Hal :=
  match (h.obj cmd).cls with
  | .RttCommand => RttCommand.handleEvent h cmd msg
  | _ => h

/-- The command the dispatcher finds for a message. -/
def Hal.handlerFor (h : Hal) (msg : EventMsg) : Option Ptr :=
  (h.info.event_cb.entries.find? (cb_info.accepts msg)).bind cb_info.cb_arg

def internal_valid_message_handler (msg : EventMsg) (h : Hal) : Hal :=
  match h.handlerFor msg with
  | some cmd => ((h.addRef cmd).handleEvent cmd msg).releaseRef cmd
  | none => h

inductive StartApi where
  | wifi_start_gscan
  | wifi_enable_full_scan_results
  | wifi_set_bssid_hotlist
  | wifi_set_significant_change_handler
  | wifi_set_epno_list
  | wifi_set_passpoint_list
  | wifi_set_bssid_blacklist
  | wifi_start_rssi_monitoring
  | wifi_rtt_range_request
deriving DecidableEq

def StartApi.call : StartApi → Int → Kernel → Hal → wifi_error × Hal
  | wifi_start_gscan => wifi_hal.wifi_start_gscan
  | wifi_enable_full_scan_results => wifi_hal.wifi_enable_full_scan_results
  | wifi_set_bssid_hotlist => wifi_hal.wifi_set_bssid_hotlist
  | wifi_set_significant_change_handler => wifi_hal.wifi_set_significant_change_handler
  | wifi_set_epno_list => wifi_hal.wifi_set_epno_list
  | wifi_set_passpoint_list => wifi_hal.wifi_set_passpoint_list
  | wifi_set_bssid_blacklist => wifi_hal.wifi_set_bssid_blacklist
  | wifi_start_rssi_monitoring => wifi_hal.wifi_start_rssi_monitoring
  | wifi_rtt_range_request => wifi_hal.wifi_rtt_range_request

inductive StopApi where
  | wifi_stop_gscan
  | wifi_disable_full_scan_results
  | wifi_reset_bssid_hotlist
  | wifi_reset_significant_change_handler
  | wifi_reset_epno_list
  | wifi_reset_passpoint_list
  | wifi_stop_rssi_monitoring
  | wifi_rtt_range_cancel
deriving DecidableEq

def StopApi.call : StopApi → Int → Kernel → Hal → wifi_error × Hal
  | wifi_stop_gscan => wifi_hal.wifi_stop_gscan
  | wifi_disable_full_scan_results => wifi_hal.wifi_disable_full_scan_results
  | wifi_reset_bssid_hotlist => wifi_hal.wifi_reset_bssid_hotlist
  | wifi_reset_significant_change_handler => wifi_hal.wifi_reset_significant_change_handler
  | wifi_reset_epno_list => wifi_hal.wifi_reset_epno_list
  | wifi_reset_passpoint_list => wifi_hal.wifi_reset_passpoint_list
  | wifi_stop_rssi_monitoring => wifi_hal.wifi_stop_rssi_monitoring
  | wifi_rtt_range_cancel => wifi_hal.wifi_rtt_range_cancel

/-- One API call with its kernel answers, or one event. -/
inductive Action where
  | start (api : StartApi) (id : Int) (k : Kernel)
  | stop (api : StopApi) (id : Int) (k : Kernel)
  | event (msg : EventMsg)

def step (h : Hal) : Action → Hal
  | .start api id k => (api.call id k h).2
  | .stop api id k => (api.call id k h).2
  | .event msg => internal_valid_message_handler msg h

end panelli.wifi_hal
