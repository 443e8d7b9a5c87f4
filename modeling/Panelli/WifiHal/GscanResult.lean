import Panelli.Netlink.Iterator

open panelli.netlink

namespace panelli.wifi_hal

def DOT11_MAX_SSID_LEN : Nat := 32

/-- A scan result as the driver sends it. -/
structure GscanResult where
  ts : UInt64
  ssid : List UInt8
  bssid : List UInt8
  channel : UInt32
  rssi : UInt32
  rtt : UInt64
  rtt_sd : UInt64
  beacon_period : UInt16
  capability : UInt16
  ie_length : UInt32
deriving DecidableEq

/-- The size of a scan result of the driver. -/
def SIZEOF_GSCAN_RESULT : Nat := 88

/-- The scan result at a place, by the layout of the structure. -/
def GscanResult.read (p : Place) : GscanResult where
  ts := UInt64.ofNat (p.number 0 8)
  ssid := (p.drop 8).take (DOT11_MAX_SSID_LEN + 1)
  bssid := (p.drop 41).take 6
  channel := UInt32.ofNat (p.number 48 4)
  rssi := UInt32.ofNat (p.number 52 4)
  rtt := UInt64.ofNat (p.number 56 8)
  rtt_sd := UInt64.ofNat (p.number 64 8)
  beacon_period := UInt16.ofNat (p.number 72 2)
  capability := UInt16.ofNat (p.number 74 2)
  ie_length := UInt32.ofNat (p.number 76 4)

/-- A scan result as it is handed to the framework. -/
structure WifiScanResult where
  ts : UInt64
  ssid : List UInt8
  bssid : List UInt8
  channel : UInt32
  rssi : UInt32
  rtt : UInt64
  rtt_sd : UInt64
  beacon_period : UInt16
  capability : UInt16
  ie_length : UInt32
deriving DecidableEq

/-- All but the length of the information elements. -/
def convert_to_hal_result (dst : WifiScanResult) (src : GscanResult) : WifiScanResult :=
  { dst with
    ts := src.ts
    channel := src.channel
    rssi := src.rssi
    rtt := src.rtt
    rtt_sd := src.rtt_sd
    beacon_period := src.beacon_period
    capability := src.capability
    ssid := src.ssid
    bssid := src.bssid }

/-- The result that is handed on with a length of its information elements. -/
def GscanResult.toHal (src : GscanResult) (ie_length : UInt32) : WifiScanResult where
  ts := src.ts
  ssid := src.ssid
  bssid := src.bssid
  channel := src.channel
  rssi := src.rssi
  rtt := src.rtt
  rtt_sd := src.rtt_sd
  beacon_period := src.beacon_period
  capability := src.capability
  ie_length := ie_length

/-- The conversion overwrites all fields but the length. -/
theorem convert_to_hal_result_eq (dst : WifiScanResult) (src : GscanResult) :
    convert_to_hal_result dst src = src.toHal dst.ie_length := rfl

end panelli.wifi_hal
