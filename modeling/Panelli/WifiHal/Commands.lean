import Panelli.WifiHal.Registry
import Mathlib.Data.List.Perm.Basic
import Mathlib.Tactic.SplitIfs
import Mathlib.Order.Basic
import Mathlib.Algebra.Order.Ring.Int

open panelli.table

namespace panelli.wifi_hal

/-- Vendor events in the order `WIFI_VENDOR_EVENT` numbers them. -/
inductive WIFI_VENDOR_EVENT where
  | GSCAN_EVENT_SIGNIFICANT_CHANGE_RESULTS
  | GSCAN_EVENT_HOTLIST_RESULTS_FOUND
  | GSCAN_EVENT_SCAN_RESULTS_AVAILABLE
  | GSCAN_EVENT_FULL_SCAN_RESULTS
  | RTT_EVENT_COMPLETE
  | GSCAN_EVENT_COMPLETE_SCAN
  | GSCAN_EVENT_HOTLIST_RESULTS_LOST
  | WIFI_EVENT_RSSI_MONITOR
  | GSCAN_EVENT_EPNO_EVENT
  | GSCAN_EVENT_ANQPO_HOTSPOT_MATCH
deriving DecidableEq

open WIFI_VENDOR_EVENT

def WIFI_VENDOR_EVENT.toInt : WIFI_VENDOR_EVENT → Int
  | GSCAN_EVENT_SIGNIFICANT_CHANGE_RESULTS => 0
  | GSCAN_EVENT_HOTLIST_RESULTS_FOUND => 1
  | GSCAN_EVENT_SCAN_RESULTS_AVAILABLE => 2
  | GSCAN_EVENT_FULL_SCAN_RESULTS => 3
  | RTT_EVENT_COMPLETE => 4
  | GSCAN_EVENT_COMPLETE_SCAN => 5
  | GSCAN_EVENT_HOTLIST_RESULTS_LOST => 6
  | WIFI_EVENT_RSSI_MONITOR => 7
  | GSCAN_EVENT_EPNO_EVENT => 8
  | GSCAN_EVENT_ANQPO_HOTSPOT_MATCH => 9

theorem WIFI_VENDOR_EVENT.toInt_inj {a b : WIFI_VENDOR_EVENT} : a.toInt = b.toInt ↔ a = b := by
  constructor
  · intro h
    cases a <;> cases b <;> first | rfl | simp [toInt] at h
  · rintro rfl
    rfl

/-- The results of the fallible steps of one API call: its message builders and
its `requestResponse` calls, each numbered in the order the call makes them.
Netlink puts fail with negative codes, and `requestResponse` only leaves its
loop `while (err > 0)` with zero or a negative code. -/
structure Kernel where
  create : Nat → Int
  reply : Nat → Int
  create_le : ∀ i, create i ≤ 0
  reply_le : ∀ i, reply i ≤ 0

/-- Every step of the call succeeds. -/
def Kernel.ok : Kernel := ⟨fun _ => 0, fun _ => 0, by simp, by simp⟩

/-- Message building succeeds and the numbered request is refused with `-1`. -/
def Kernel.refusing (n : Nat) : Kernel :=
  ⟨fun _ => 0, fun i => if i = n then -1 else 0, by simp, fun i => by split <;> omega⟩

/-- A call a command method makes on the handler registry. The arguments are
the vendor id and the event; the command passes itself as `cb_arg`. -/
inductive HandlerCall where
  | registerVendorHandler (id : Nat) (event : WIFI_VENDOR_EVENT)
  | unregisterVendorHandler (id : Nat) (event : WIFI_VENDOR_EVENT)
deriving DecidableEq

open HandlerCall

/-! The `start` and `cancel` methods never read a registry, so each is its
result together with the handler calls it makes, in order. -/

def ScanCommand.start (k : Kernel) : Int × List HandlerCall :=
  let registered := [registerVendorHandler GOOGLE_OUI GSCAN_EVENT_SCAN_RESULTS_AVAILABLE,
    registerVendorHandler GOOGLE_OUI GSCAN_EVENT_COMPLETE_SCAN,
    registerVendorHandler GOOGLE_OUI GSCAN_EVENT_FULL_SCAN_RESULTS]
  if k.create 0 ≠ WIFI_SUCCESS then (k.create 0, [])
  else if k.reply 0 ≠ WIFI_SUCCESS then (k.reply 0, [])
  else if k.create 1 ≠ WIFI_SUCCESS then (k.create 1, [])
  else if k.reply 1 ≠ WIFI_SUCCESS then (k.reply 1, [])
  else if k.create 2 ≠ WIFI_SUCCESS then (k.create 2, [])
  else if k.reply 2 ≠ WIFI_SUCCESS then
    (k.reply 2, registered ++ [unregisterVendorHandler GOOGLE_OUI GSCAN_EVENT_COMPLETE_SCAN,
      unregisterVendorHandler GOOGLE_OUI GSCAN_EVENT_SCAN_RESULTS_AVAILABLE,
      unregisterVendorHandler GOOGLE_OUI GSCAN_EVENT_FULL_SCAN_RESULTS])
  else (k.reply 2, registered)

/-- The kernel's answers to the stop request are only logged. -/
def ScanCommand.cancel (_ : Kernel) : Int × List HandlerCall :=
  (WIFI_SUCCESS, [unregisterVendorHandler GOOGLE_OUI GSCAN_EVENT_COMPLETE_SCAN,
    unregisterVendorHandler GOOGLE_OUI GSCAN_EVENT_SCAN_RESULTS_AVAILABLE,
    unregisterVendorHandler GOOGLE_OUI GSCAN_EVENT_FULL_SCAN_RESULTS])

/-- One message, with the handler registered before the request is sent. -/
def registerThenRequest (event : WIFI_VENDOR_EVENT) (k : Kernel) : Int × List HandlerCall :=
  if k.create 0 ≠ WIFI_SUCCESS then (k.create 0, [])
  else if k.reply 0 ≠ WIFI_SUCCESS then
    (k.reply 0, [registerVendorHandler GOOGLE_OUI event, unregisterVendorHandler GOOGLE_OUI event])
  else (k.reply 0, [registerVendorHandler GOOGLE_OUI event])

/-- The handler is unregistered whatever the kernel answers, and success reported. -/
def requestThenUnregister (event : WIFI_VENDOR_EVENT) (_ : Kernel) : Int × List HandlerCall :=
  (WIFI_SUCCESS, [unregisterVendorHandler GOOGLE_OUI event])

def FullScanResultsCommand.start : Kernel → Int × List HandlerCall :=
  registerThenRequest GSCAN_EVENT_FULL_SCAN_RESULTS

def FullScanResultsCommand.cancel : Kernel → Int × List HandlerCall :=
  requestThenUnregister GSCAN_EVENT_FULL_SCAN_RESULTS

/-- The handlers are unregistered first; the teardown message decides the result. -/
def unregisterThenTeardown (calls : List HandlerCall) (k : Kernel) : Int × List HandlerCall :=
  (if k.create 0 < 0 then k.create 0 else k.reply 0, calls)

/-- A refused setup request unregisters both handlers before any was registered. -/
def BssidHotlistCommand.start (k : Kernel) : Int × List HandlerCall :=
  let registered := [registerVendorHandler GOOGLE_OUI GSCAN_EVENT_HOTLIST_RESULTS_FOUND,
    registerVendorHandler GOOGLE_OUI GSCAN_EVENT_HOTLIST_RESULTS_LOST]
  let unregistered := [unregisterVendorHandler GOOGLE_OUI GSCAN_EVENT_HOTLIST_RESULTS_FOUND,
    unregisterVendorHandler GOOGLE_OUI GSCAN_EVENT_HOTLIST_RESULTS_LOST]
  if k.create 0 < 0 then (k.create 0, [])
  else if k.reply 0 < 0 then (k.reply 0, unregistered)
  else if k.create 1 < 0 then (k.create 1, [])
  else if k.reply 1 < 0 then (k.reply 1, registered ++ unregistered)
  else (k.reply 1, registered)

def BssidHotlistCommand.cancel : Kernel → Int × List HandlerCall :=
  unregisterThenTeardown [unregisterVendorHandler GOOGLE_OUI GSCAN_EVENT_HOTLIST_RESULTS_FOUND,
    unregisterVendorHandler GOOGLE_OUI GSCAN_EVENT_HOTLIST_RESULTS_LOST]

/-- A refused setup request unregisters the handler, which is registered last. -/
def ePNOCommand.start (k : Kernel) : Int × List HandlerCall :=
  if k.create 0 < 0 then (k.create 0, [])
  else if k.reply 0 < 0 then (k.reply 0, [unregisterVendorHandler GOOGLE_OUI GSCAN_EVENT_EPNO_EVENT])
  else (k.reply 0, [registerVendorHandler GOOGLE_OUI GSCAN_EVENT_EPNO_EVENT])

def ePNOCommand.cancel : Kernel → Int × List HandlerCall :=
  unregisterThenTeardown [unregisterVendorHandler GOOGLE_OUI GSCAN_EVENT_EPNO_EVENT]

def SignificantWifiChangeCommand.start (k : Kernel) : Int × List HandlerCall :=
  if k.create 0 < 0 then (k.create 0, [])
  else if k.reply 0 < 0 then (k.reply 0, [])
  else if k.create 1 < 0 then (k.create 1, [])
  else if k.reply 1 < 0 then
    (k.reply 1, [registerVendorHandler GOOGLE_OUI GSCAN_EVENT_SIGNIFICANT_CHANGE_RESULTS,
      unregisterVendorHandler GOOGLE_OUI GSCAN_EVENT_SIGNIFICANT_CHANGE_RESULTS])
  else (k.reply 1, [registerVendorHandler GOOGLE_OUI GSCAN_EVENT_SIGNIFICANT_CHANGE_RESULTS])

def SignificantWifiChangeCommand.cancel : Kernel → Int × List HandlerCall :=
  unregisterThenTeardown [unregisterVendorHandler GOOGLE_OUI GSCAN_EVENT_SIGNIFICANT_CHANGE_RESULTS]

def BssidBlacklistCommand.start (k : Kernel) : Int × List HandlerCall :=
  if k.create 0 < 0 then (k.create 0, []) else (k.reply 0, [])

/-- The class does not override `WifiCommand::cancel`. -/
def BssidBlacklistCommand.cancel (_ : Kernel) : Int × List HandlerCall :=
  (WIFI_ERROR_NOT_SUPPORTED, [])

def AnqpoConfigureCommand.start : Kernel → Int × List HandlerCall :=
  registerThenRequest GSCAN_EVENT_ANQPO_HOTSPOT_MATCH

def AnqpoConfigureCommand.cancel : Kernel → Int × List HandlerCall :=
  requestThenUnregister GSCAN_EVENT_ANQPO_HOTSPOT_MATCH

def SetRSSIMonitorCommand.start (k : Kernel) : Int × List HandlerCall :=
  if k.create 0 < 0 then (k.create 0, [])
  else if k.reply 0 < 0 then (k.reply 0, [])
  else (k.reply 0, [registerVendorHandler GOOGLE_OUI WIFI_EVENT_RSSI_MONITOR])

def SetRSSIMonitorCommand.cancel : Kernel → Int × List HandlerCall :=
  requestThenUnregister WIFI_EVENT_RSSI_MONITOR

def RttCommand.start (k : Kernel) : Int × List HandlerCall :=
  if k.create 0 ≠ WIFI_SUCCESS then (k.create 0, [])
  else if k.reply 0 ≠ WIFI_SUCCESS then (k.reply 0, [])
  else (k.reply 0, [registerVendorHandler GOOGLE_OUI RTT_EVENT_COMPLETE])

def RttCommand.cancel : Kernel → Int × List HandlerCall := requestThenUnregister RTT_EVENT_COMPLETE

def RttCommand.cancel_specific : Kernel → Int × List HandlerCall :=
  requestThenUnregister RTT_EVENT_COMPLETE

/-- The command classes that enter the command table. -/
inductive CommandClass where
  | ScanCommand
  | FullScanResultsCommand
  | BssidHotlistCommand
  | ePNOCommand
  | SignificantWifiChangeCommand
  | BssidBlacklistCommand
  | AnqpoConfigureCommand
  | SetRSSIMonitorCommand
  | RttCommand
deriving DecidableEq

def CommandClass.start : CommandClass → Kernel → Int × List HandlerCall
  | .ScanCommand => ScanCommand.start
  | .FullScanResultsCommand => FullScanResultsCommand.start
  | .BssidHotlistCommand => BssidHotlistCommand.start
  | .ePNOCommand => ePNOCommand.start
  | .SignificantWifiChangeCommand => SignificantWifiChangeCommand.start
  | .BssidBlacklistCommand => BssidBlacklistCommand.start
  | .AnqpoConfigureCommand => AnqpoConfigureCommand.start
  | .SetRSSIMonitorCommand => SetRSSIMonitorCommand.start
  | .RttCommand => RttCommand.start

/-- The virtual method `WifiCommand::cancel`. -/
def CommandClass.cancel : CommandClass → Kernel → Int × List HandlerCall
  | .ScanCommand => ScanCommand.cancel
  | .FullScanResultsCommand => FullScanResultsCommand.cancel
  | .BssidHotlistCommand => BssidHotlistCommand.cancel
  | .ePNOCommand => ePNOCommand.cancel
  | .SignificantWifiChangeCommand => SignificantWifiChangeCommand.cancel
  | .BssidBlacklistCommand => BssidBlacklistCommand.cancel
  | .AnqpoConfigureCommand => AnqpoConfigureCommand.cancel
  | .SetRSSIMonitorCommand => SetRSSIMonitorCommand.cancel
  | .RttCommand => RttCommand.cancel

/-- The vendor events a feature subscribes to, in the order it registers them. -/
def CommandClass.events : CommandClass → List WIFI_VENDOR_EVENT
  | .ScanCommand =>
    [GSCAN_EVENT_SCAN_RESULTS_AVAILABLE, GSCAN_EVENT_COMPLETE_SCAN, GSCAN_EVENT_FULL_SCAN_RESULTS]
  | .FullScanResultsCommand => [GSCAN_EVENT_FULL_SCAN_RESULTS]
  | .BssidHotlistCommand => [GSCAN_EVENT_HOTLIST_RESULTS_FOUND, GSCAN_EVENT_HOTLIST_RESULTS_LOST]
  | .ePNOCommand => [GSCAN_EVENT_EPNO_EVENT]
  | .SignificantWifiChangeCommand => [GSCAN_EVENT_SIGNIFICANT_CHANGE_RESULTS]
  | .BssidBlacklistCommand => []
  | .AnqpoConfigureCommand => [GSCAN_EVENT_ANQPO_HOTSPOT_MATCH]
  | .SetRSSIMonitorCommand => [WIFI_EVENT_RSSI_MONITOR]
  | .RttCommand => [RTT_EVENT_COMPLETE]

theorem CommandClass.events_nodup (cls : CommandClass) : cls.events.Nodup := by
  cases cls <;> decide

/-- The calls registering a list of Google vendor events. -/
def registerCalls (events : List WIFI_VENDOR_EVENT) : List HandlerCall :=
  events.map (registerVendorHandler GOOGLE_OUI)

/-- The calls unregistering a list of Google vendor events. -/
def unregisterCalls (events : List WIFI_VENDOR_EVENT) : List HandlerCall :=
  events.map (unregisterVendorHandler GOOGLE_OUI)

/-- Everything a `start` subscribing to `events` can do: succeed having
registered them, fail before touching the registry, or fail unregistering them,
with or without having registered them first. -/
inductive StartOutcome (events : List WIFI_VENDOR_EVENT) : Int × List HandlerCall → Prop where
  | started : StartOutcome events (WIFI_SUCCESS, registerCalls events)
  | failed {result : Int} (hresult : result ≠ WIFI_SUCCESS) : StartOutcome events (result, [])
  | unregistered {result : Int} {order : List WIFI_VENDOR_EVENT} (hresult : result ≠ WIFI_SUCCESS)
      (horder : order.Perm events) (hne : order ≠ []) :
      StartOutcome events (result, unregisterCalls order)
  | rolledBack {result : Int} {order : List WIFI_VENDOR_EVENT} (hresult : result ≠ WIFI_SUCCESS)
      (horder : order.Perm events) (hne : order ≠ []) :
      StartOutcome events (result, registerCalls events ++ unregisterCalls order)

/-- A result the method checked not to be negative is a success. -/
theorem StartOutcome.of_nonneg {events : List WIFI_VENDOR_EVENT} {result : Int}
    (hle : result ≤ 0) (hnonneg : ¬ result < 0) :
    StartOutcome events (result, registerCalls events) := by
  have hzero : result = WIFI_SUCCESS := le_antisymm hle (not_lt.mp hnonneg)
  rw [hzero]
  exact .started

theorem StartOutcome.of_not_ne {events : List WIFI_VENDOR_EVENT} {result : Int}
    (hresult : ¬ result ≠ WIFI_SUCCESS) : StartOutcome events (result, registerCalls events) := by
  rw [not_not.mp hresult]
  exact .started

theorem registerThenRequest_outcome (event : WIFI_VENDOR_EVENT) (k : Kernel) :
    StartOutcome [event] (registerThenRequest event k) := by
  unfold registerThenRequest
  split_ifs with hcreate hreply
  · exact .failed hcreate
  · exact .rolledBack hreply (List.Perm.refl [event]) (by simp)
  · exact .of_not_ne hreply

theorem ScanCommand.start_outcome (k : Kernel) :
    StartOutcome CommandClass.ScanCommand.events (ScanCommand.start k) := by
  unfold ScanCommand.start
  split_ifs with hsetup hsetupReply hconfig hconfigReply hstart hstartReply
  · exact .failed hsetup
  · exact .failed hsetupReply
  · exact .failed hconfig
  · exact .failed hconfigReply
  · exact .failed hstart
  · have horder : [GSCAN_EVENT_COMPLETE_SCAN, GSCAN_EVENT_SCAN_RESULTS_AVAILABLE,
        GSCAN_EVENT_FULL_SCAN_RESULTS].Perm CommandClass.ScanCommand.events := List.Perm.swap _ _ _
    exact .rolledBack hstartReply horder (by simp)
  · exact .of_not_ne hstartReply

theorem BssidHotlistCommand.start_outcome (k : Kernel) :
    StartOutcome CommandClass.BssidHotlistCommand.events (BssidHotlistCommand.start k) := by
  unfold BssidHotlistCommand.start
  split_ifs with hsetup hsetupReply henable henableReply
  · exact .failed hsetup.ne
  · exact .unregistered hsetupReply.ne (List.Perm.refl CommandClass.BssidHotlistCommand.events)
      (by simp [CommandClass.events])
  · exact .failed henable.ne
  · exact .rolledBack henableReply.ne (List.Perm.refl CommandClass.BssidHotlistCommand.events)
      (by simp [CommandClass.events])
  · exact .of_nonneg (k.reply_le 1) henableReply

theorem ePNOCommand.start_outcome (k : Kernel) :
    StartOutcome CommandClass.ePNOCommand.events (ePNOCommand.start k) := by
  unfold ePNOCommand.start
  split_ifs with hsetup hsetupReply
  · exact .failed hsetup.ne
  · exact .unregistered hsetupReply.ne (List.Perm.refl CommandClass.ePNOCommand.events)
      (by simp [CommandClass.events])
  · exact .of_nonneg (k.reply_le 0) hsetupReply

theorem SignificantWifiChangeCommand.start_outcome (k : Kernel) :
    StartOutcome CommandClass.SignificantWifiChangeCommand.events
      (SignificantWifiChangeCommand.start k) := by
  unfold SignificantWifiChangeCommand.start
  split_ifs with hsetup hsetupReply henable henableReply
  · exact .failed hsetup.ne
  · exact .failed hsetupReply.ne
  · exact .failed henable.ne
  · exact .rolledBack henableReply.ne
      (List.Perm.refl CommandClass.SignificantWifiChangeCommand.events) (by simp [CommandClass.events])
  · exact .of_nonneg (k.reply_le 1) henableReply

theorem BssidBlacklistCommand.start_outcome (k : Kernel) :
    StartOutcome CommandClass.BssidBlacklistCommand.events (BssidBlacklistCommand.start k) := by
  unfold BssidBlacklistCommand.start
  split_ifs with hcreate
  · exact .failed hcreate.ne
  · by_cases hreply : k.reply 0 = WIFI_SUCCESS
    · rw [hreply]
      exact .started
    · exact .failed hreply

theorem SetRSSIMonitorCommand.start_outcome (k : Kernel) :
    StartOutcome CommandClass.SetRSSIMonitorCommand.events (SetRSSIMonitorCommand.start k) := by
  unfold SetRSSIMonitorCommand.start
  split_ifs with hcreate hreply
  · exact .failed hcreate.ne
  · exact .failed hreply.ne
  · exact .of_nonneg (k.reply_le 0) hreply

theorem RttCommand.start_outcome (k : Kernel) :
    StartOutcome CommandClass.RttCommand.events (RttCommand.start k) := by
  unfold RttCommand.start
  split_ifs with hcreate hreply
  · exact .failed hcreate
  · exact .failed hreply
  · exact .of_not_ne hreply

theorem CommandClass.start_outcome (cls : CommandClass) (k : Kernel) :
    StartOutcome cls.events (cls.start k) := by
  cases cls with
  | ScanCommand => exact ScanCommand.start_outcome k
  | FullScanResultsCommand => exact registerThenRequest_outcome _ k
  | BssidHotlistCommand => exact BssidHotlistCommand.start_outcome k
  | ePNOCommand => exact ePNOCommand.start_outcome k
  | SignificantWifiChangeCommand => exact SignificantWifiChangeCommand.start_outcome k
  | BssidBlacklistCommand => exact BssidBlacklistCommand.start_outcome k
  | AnqpoConfigureCommand => exact registerThenRequest_outcome _ k
  | SetRSSIMonitorCommand => exact SetRSSIMonitorCommand.start_outcome k
  | RttCommand => exact RttCommand.start_outcome k

/-- Every `cancel` unregisters exactly the events of its class. -/
theorem CommandClass.cancel_calls (cls : CommandClass) (k : Kernel) :
    ∃ order, order.Perm cls.events ∧ (cls.cancel k).2 = unregisterCalls order := by
  cases cls with
  | ScanCommand =>
    exact ⟨[GSCAN_EVENT_COMPLETE_SCAN, GSCAN_EVENT_SCAN_RESULTS_AVAILABLE,
      GSCAN_EVENT_FULL_SCAN_RESULTS], List.Perm.swap _ _ _, rfl⟩
  | _ => exact ⟨_, List.Perm.refl _, rfl⟩

end panelli.wifi_hal
