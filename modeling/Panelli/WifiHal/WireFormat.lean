import Panelli.WifiHal.EpnoList
import Panelli.CString

open panelli.bytes panelli.netlink
open panelli.cstring (CString)
open panelli.rtt (MacAddr put_addr findU8 u8Attr findU8_cons u8Attr_encode_length)

namespace panelli.wifi_hal

def WIFI_SUBCMD_GET_CHANNEL_LIST : UInt32 := 0x0001
def WIFI_SUBCMD_GET_FEATURE_SET_MATRIX : UInt32 := 0x0003
def WIFI_SUBCMD_SET_COUNTRY_CODE : UInt32 := 0x0006
def WIFI_SUBCMD_SET_RSSI_MONITOR : UInt32 := 0x0007
def GSCAN_SUBCMD_GET_CAPABILITIES : UInt32 := 0x1000
def GSCAN_SUBCMD_SET_SCAN_CONFIG : UInt32 := 0x1002
def GSCAN_SUBCMD_ENABLE_GSCAN : UInt32 := 0x1003
def GSCAN_SUBCMD_ENABLE_FULL_SCAN_RESULTS : UInt32 := 0x1008
def RTT_SUBCMD_GETCAPABILITY : UInt32 := 0x1102
def RTT_SUBCMD_GETAVAILCHANNEL : UInt32 := 0x1103
def RTT_SUBCMD_SET_RESPONDER : UInt32 := 0x1104
def RTT_SUBCMD_CANCEL_RESPONDER : UInt32 := 0x1105
def WIFI_OFFLOAD_START_MKEEP_ALIVE : UInt32 := 0x1600
def WIFI_OFFLOAD_STOP_MKEEP_ALIVE : UInt32 := 0x1601

def WIFI_ATTRIBUTE_BAND : UInt16 := 1
def WIFI_ATTRIBUTE_COUNTRY_CODE : UInt16 := 8
def WIFI_ATTRIBUTE_MAX_RSSI : UInt16 := 9
def WIFI_ATTRIBUTE_MIN_RSSI : UInt16 := 10
def WIFI_ATTRIBUTE_RSSI_MONITOR_START : UInt16 := 11
def GSCAN_ATTRIBUTE_NUM_AP_PER_SCAN : UInt16 := 17
def GSCAN_ATTRIBUTE_REPORT_THRESHOLD : UInt16 := 18
def GSCAN_ATTRIBUTE_NUM_SCANS_TO_CACHE : UInt16 := 19
def GSCAN_ATTRIBUTE_ENABLE_FEATURE : UInt16 := 20
def GSCAN_ENABLE_FULL_SCAN_RESULTS : UInt16 := 23
def MKEEP_ALIVE_ATTRIBUTE_ID : UInt16 := 1
def MKEEP_ALIVE_ATTRIBUTE_IP_PKT_LEN : UInt16 := 2
def MKEEP_ALIVE_ATTRIBUTE_IP_PKT : UInt16 := 3
def MKEEP_ALIVE_ATTRIBUTE_SRC_MAC_ADDR : UInt16 := 4
def MKEEP_ALIVE_ATTRIBUTE_DST_MAC_ADDR : UInt16 := 5
def MKEEP_ALIVE_ATTRIBUTE_PERIOD_MSEC : UInt16 := 6

/-- A packet that is sent again and again. Its buffer holds as many bytes as are counted. -/
structure MKeepAliveCommand where
  mIndex : UInt8
  mIpPkt : List UInt8
  mIpPktLen : UInt16
  mSrcMacAddr : MacAddr
  mDstMacAddr : MacAddr
  mPeriodMsec : UInt32
  mIpPkt_fits : mIpPktLen.toNat ≤ mIpPkt.length

/-- What a responder is to be enabled with: a channel, of a type of the platform's, and a duration. -/
structure EnableResponderCommand where
  mChannelInfo : List UInt8
  m_max_duration_sec : UInt32

/-- A request that puts these attributes into the vendor data, one after the other. -/
def flatRequest (mIface : Int32) (subcmd : UInt32) (as : List Attr) : Assembly Unit := do
  WifiRequest.create mIface GOOGLE_OUI subcmd
  nested NL80211_ATTR_VENDOR_DATA (as.forM fun a => nla_put a.nla_type a.data)

/-- A threshold that is no percentage is replaced by the default. -/
def validThreshold (percent : Int32) : Int32 := if percent < 0 ∨ percent > 100 then 100 else percent

def GetCapabilitiesCommand.create (mIface : Int32) : Assembly Unit :=
  WifiRequest.create mIface GOOGLE_OUI GSCAN_SUBCMD_GET_CAPABILITIES

def ScanCommand.createScanConfigRequest (mIface max_ap_per_scan report_threshold_percent
    report_threshold_num_scans : Int32) : Assembly Unit :=
  flatRequest mIface GSCAN_SUBCMD_SET_SCAN_CONFIG [
    u32Attr GSCAN_ATTRIBUTE_NUM_AP_PER_SCAN max_ap_per_scan.toUInt32,
    u32Attr GSCAN_ATTRIBUTE_REPORT_THRESHOLD (validThreshold report_threshold_percent).toUInt32,
    u32Attr GSCAN_ATTRIBUTE_NUM_SCANS_TO_CACHE report_threshold_num_scans.toUInt32]

def createFeatureRequest (mIface : Int32) (subcmd : UInt32) (enable : Int32) : Assembly Unit :=
  flatRequest mIface subcmd [u32Attr GSCAN_ATTRIBUTE_ENABLE_FEATURE enable.toUInt32]

def FullScanResultsCommand.createRequest (mIface : Int32) (subcmd : UInt32) (enable : Int32) : Assembly Unit :=
  flatRequest mIface subcmd [u32Attr GSCAN_ENABLE_FULL_SCAN_RESULTS enable.toUInt32]

/-- The list of access points is started and ended, and is not there then. -/
def BssidHotlistCommand.createTeardownRequest (mIface : Int32) : Assembly Unit := do
  WifiRequest.create mIface GOOGLE_OUI GSCAN_SUBCMD_SET_HOTLIST
  nested NL80211_ATTR_VENDOR_DATA do
    put_u8 GSCAN_ATTRIBUTE_HOTLIST_FLUSH 1
    nested GSCAN_ATTRIBUTE_HOTLIST_BSSIDS (pure ())

def SignificantWifiChangeCommand.createTeardownRequest (mIface : Int32) : Assembly Unit :=
  flatRequest mIface GSCAN_SUBCMD_SET_SIGNIFICANT_CHANGE_CONFIG
    [u16Attr GSCAN_ATTRIBUTE_SIGNIFICANT_CHANGE_FLUSH 1]

def ePNOCommand.createTeardownRequest (mIface : Int32) : Assembly Unit :=
  flatRequest mIface GSCAN_SUBCMD_SET_EPNO_SSID [u8Attr GSCAN_ATTRIBUTE_EPNO_FLUSH 1]

def GetChannelListCommand.create (mIface mBand : Int32) : Assembly Unit :=
  flatRequest mIface WIFI_SUBCMD_GET_CHANNEL_LIST [u32Attr WIFI_ATTRIBUTE_BAND mBand.toUInt32]

/-- The message of `wifi_get_concurrency_matrix`. -/
def GetFeatureSetCommand.create (mIface : Int32) : Assembly Unit :=
  WifiRequest.create mIface GOOGLE_OUI WIFI_SUBCMD_GET_FEATURE_SET_MATRIX

/-- `put_string` puts the terminator, too. -/
def SetCountryCodeCommand.create (mIface : Int32) (mCountryCode : CString) : Assembly Unit :=
  flatRequest mIface WIFI_SUBCMD_SET_COUNTRY_CODE [⟨WIFI_ATTRIBUTE_COUNTRY_CODE, mCountryCode.bytes ++ [0]⟩]

def SetRSSIMonitorCommand.createRequest (mIface : Int32) (mMax_rssi mMin_rssi : Int8) (enable : Int32) :
    Assembly Unit :=
  flatRequest mIface WIFI_SUBCMD_SET_RSSI_MONITOR [
    u32Attr WIFI_ATTRIBUTE_MAX_RSSI (if enable ≠ 0 then mMax_rssi.toInt32 else 0).toUInt32,
    u32Attr WIFI_ATTRIBUTE_MIN_RSSI (if enable ≠ 0 then mMin_rssi.toInt32 else 0).toUInt32,
    u32Attr WIFI_ATTRIBUTE_RSSI_MONITOR_START enable.toUInt32]

def GetRttCapabilitiesCommand.create (mIface : Int32) : Assembly Unit :=
  WifiRequest.create mIface GOOGLE_OUI RTT_SUBCMD_GETCAPABILITY

def GetRttAvailableChannelCommand.create (mIface : Int32) : Assembly Unit :=
  WifiRequest.create mIface GOOGLE_OUI RTT_SUBCMD_GETAVAILCHANNEL

/-- The channel and the duration that the command was given are not put. -/
def EnableResponderCommand.create (mIface : Int32) (_ : EnableResponderCommand) : Assembly Unit :=
  WifiRequest.create mIface GOOGLE_OUI RTT_SUBCMD_SET_RESPONDER

def CancelResponderCommand.create (mIface : Int32) : Assembly Unit :=
  WifiRequest.create mIface GOOGLE_OUI RTT_SUBCMD_CANCEL_RESPONDER

/-- `MKeepAliveCommand::createRequest` of the type `START_MKEEP_ALIVE`. -/
def MKeepAliveCommand.createStartRequest (mIface : Int32) (c : MKeepAliveCommand) : Assembly Unit :=
  flatRequest mIface WIFI_OFFLOAD_START_MKEEP_ALIVE [
    u8Attr MKEEP_ALIVE_ATTRIBUTE_ID c.mIndex,
    u16Attr MKEEP_ALIVE_ATTRIBUTE_IP_PKT_LEN c.mIpPktLen,
    ⟨MKEEP_ALIVE_ATTRIBUTE_IP_PKT, c.mIpPkt.take c.mIpPktLen.toNat⟩,
    ⟨MKEEP_ALIVE_ATTRIBUTE_SRC_MAC_ADDR, c.mSrcMacAddr.toList⟩,
    ⟨MKEEP_ALIVE_ATTRIBUTE_DST_MAC_ADDR, c.mDstMacAddr.toList⟩,
    u32Attr MKEEP_ALIVE_ATTRIBUTE_PERIOD_MSEC c.mPeriodMsec]

/-- `MKeepAliveCommand::createRequest` of the type `STOP_MKEEP_ALIVE`. -/
def MKeepAliveCommand.createStopRequest (mIface : Int32) (mIndex : UInt8) : Assembly Unit :=
  flatRequest mIface WIFI_OFFLOAD_STOP_MKEEP_ALIVE [u8Attr MKEEP_ALIVE_ATTRIBUTE_ID mIndex]

/-- What the commands are asked to send. -/
inductive Request where
  | getCapabilities
  | scanConfig (max_ap_per_scan report_threshold_percent report_threshold_num_scans : Int32)
  | enableGscan (enable : Int32)
  | enableFullScanResults (enable : Int32)
  | getScanResults (num : Nat) (flush : UInt8)
  | hotlist (p : WifiBssidHotlistParams)
  | hotlistTeardown
  | significantChange (p : WifiSignificantChangeParams)
  | significantChangeTeardown
  | epno (p : WifiEpnoParams)
  | epnoTeardown
  | blacklist (p : WifiBssidParams)
  | getChannelList (band : Int32)
  | getFeatureSetMatrix
  | setCountryCode (country_code : CString)
  | setRssiMonitor (max_rssi min_rssi : Int8) (enable : Int32)
  | getRttCapabilities
  | getRttAvailableChannel
  | enableResponder (c : EnableResponderCommand)
  | cancelResponder
  | startKeepAlive (c : MKeepAliveCommand)
  | stopKeepAlive (index : UInt8)

def Request.message (mIface : Int32) : Request → Assembly Unit
  | getCapabilities => GetCapabilitiesCommand.create mIface
  | scanConfig max_ap percent num_scans => ScanCommand.createScanConfigRequest mIface max_ap percent num_scans
  | enableGscan enable => createFeatureRequest mIface GSCAN_SUBCMD_ENABLE_GSCAN enable
  | enableFullScanResults enable =>
    FullScanResultsCommand.createRequest mIface GSCAN_SUBCMD_ENABLE_FULL_SCAN_RESULTS enable
  | getScanResults num flush => GetScanResultsCommand.createRequest mIface num flush
  | hotlist p => BssidHotlistCommand.createSetupRequest mIface p
  | hotlistTeardown => BssidHotlistCommand.createTeardownRequest mIface
  | significantChange p => SignificantWifiChangeCommand.createSetupRequest mIface p
  | significantChangeTeardown => SignificantWifiChangeCommand.createTeardownRequest mIface
  | epno p => ePNOCommand.createSetupRequest mIface p
  | epnoTeardown => ePNOCommand.createTeardownRequest mIface
  | blacklist p => BssidBlacklistCommand.createRequest mIface p
  | getChannelList band => GetChannelListCommand.create mIface band
  | getFeatureSetMatrix => GetFeatureSetCommand.create mIface
  | setCountryCode code => SetCountryCodeCommand.create mIface code
  | setRssiMonitor max_rssi min_rssi enable => SetRSSIMonitorCommand.createRequest mIface max_rssi min_rssi enable
  | getRttCapabilities => GetRttCapabilitiesCommand.create mIface
  | getRttAvailableChannel => GetRttAvailableChannelCommand.create mIface
  | enableResponder c => EnableResponderCommand.create mIface c
  | cancelResponder => CancelResponderCommand.create mIface
  | startKeepAlive c => MKeepAliveCommand.createStartRequest mIface c
  | stopKeepAlive index => MKeepAliveCommand.createStopRequest mIface index

/-- What the driver reads from a message. -/
inductive Sent where
  | getCapabilities
  | scanConfig (num_ap_per_scan report_threshold num_scans_to_cache : Int32)
  | enableGscan (enable : Int32)
  | enableFullScanResults (enable : Int32)
  | getScanResults (num : UInt32) (flush : UInt8)
  | hotlist (lost_ap_sample_size : UInt32) (num_ap : UInt16) (aps : List ApThreshold)
  | hotlistTeardown
  | significantChange (rssi_sample_size lost_ap_sample_size min_breaching num_ap : UInt16) (aps : List ApThreshold)
  | significantChangeTeardown
  | epno (numbers : EpnoNumbers) (networks : List EpnoElement)
  | epnoTeardown
  | blacklist (num_bssid : UInt32) (flush : Option UInt32) (bssids : List (List UInt8))
  | getChannelList (band : Int32)
  | getFeatureSetMatrix
  | setCountryCode (country_code : List UInt8)
  | setRssiMonitor (max_rssi min_rssi start : Int32)
  | getRttCapabilities
  | getRttAvailableChannel
  | enableResponder
  | cancelResponder
  | startKeepAlive (id : UInt8) (ip_pkt_len : UInt16) (ip_pkt src_mac_addr dst_mac_addr : List UInt8)
    (period_msec : UInt32)
  | stopKeepAlive (id : UInt8)
deriving DecidableEq

def readScanConfig (as : List Attr) : Option Sent := do
  return .scanConfig (← findU32 GSCAN_ATTRIBUTE_NUM_AP_PER_SCAN as).toInt32
    (← findU32 GSCAN_ATTRIBUTE_REPORT_THRESHOLD as).toInt32 (← findU32 GSCAN_ATTRIBUTE_NUM_SCANS_TO_CACHE as).toInt32

def readGetScanResults (as : List Attr) : Option Sent := do
  return .getScanResults (← findU32 GSCAN_ATTRIBUTE_NUM_OF_RESULTS as) (← findU8 GSCAN_ATTRIBUTE_FLUSH_RESULTS as)

/-- A teardown has no count. -/
def readHotlist (as : List Attr) : Option Sent :=
  match findU16 GSCAN_ATTRIBUTE_NUM_AP as with
  | none => some .hotlistTeardown
  | some num_ap => do
    return .hotlist (← findU32 GSCAN_ATTRIBUTE_LOST_AP_SAMPLE_SIZE as) num_ap
      (← readAps GSCAN_ATTRIBUTE_HOTLIST_BSSIDS as)

def readSignificantChange (as : List Attr) : Option Sent :=
  match findU16 GSCAN_ATTRIBUTE_NUM_AP as with
  | none => some .significantChangeTeardown
  | some num_ap => do
    return .significantChange (← findU16 GSCAN_ATTRIBUTE_RSSI_SAMPLE_SIZE as)
      (← findU16 GSCAN_ATTRIBUTE_LOST_AP_SAMPLE_SIZE as) (← findU16 GSCAN_ATTRIBUTE_MIN_BREACHING as) num_ap
      (← readAps GSCAN_ATTRIBUTE_SIGNIFICANT_CHANGE_BSSIDS as)

def readEpno (as : List Attr) : Option Sent :=
  match findU8 GSCAN_ATTRIBUTE_EPNO_SSID_NUM as with
  | none => some .epnoTeardown
  | some _ => do
    return .epno (← readEpnoNumbers as) (← (readNest GSCAN_ATTRIBUTE_EPNO_SSID_LIST as).mapM fun elem =>
      readEpnoNetwork (attrs elem.data))

def readSetBlacklist (as : List Attr) : Option Sent := do
  return .blacklist (← findU32 GSCAN_ATTRIBUTE_NUM_BSSID as) (findU32 GSCAN_ATTRIBUTE_BSSID_BLACKLIST_FLUSH as)
    (readBlacklist as)

def readRssiMonitor (as : List Attr) : Option Sent := do
  return .setRssiMonitor (← findU32 WIFI_ATTRIBUTE_MAX_RSSI as).toInt32 (← findU32 WIFI_ATTRIBUTE_MIN_RSSI as).toInt32
    (← findU32 WIFI_ATTRIBUTE_RSSI_MONITOR_START as).toInt32

def readStartKeepAlive (as : List Attr) : Option Sent := do
  return .startKeepAlive (← findU8 MKEEP_ALIVE_ATTRIBUTE_ID as) (← findU16 MKEEP_ALIVE_ATTRIBUTE_IP_PKT_LEN as)
    (← findData MKEEP_ALIVE_ATTRIBUTE_IP_PKT as) (← findData MKEEP_ALIVE_ATTRIBUTE_SRC_MAC_ADDR as)
    (← findData MKEEP_ALIVE_ATTRIBUTE_DST_MAC_ADDR as) (← findU32 MKEEP_ALIVE_ATTRIBUTE_PERIOD_MSEC as)

/-- The vendor data is read by its subcommand. -/
def readData (subcmd : UInt32) (as : List Attr) : Option Sent :=
  if subcmd = GSCAN_SUBCMD_GET_CAPABILITIES then some .getCapabilities
  else if subcmd = GSCAN_SUBCMD_SET_SCAN_CONFIG then readScanConfig as
  else if subcmd = GSCAN_SUBCMD_ENABLE_GSCAN then
    (findU32 GSCAN_ATTRIBUTE_ENABLE_FEATURE as).map fun enable => .enableGscan enable.toInt32
  else if subcmd = GSCAN_SUBCMD_ENABLE_FULL_SCAN_RESULTS then
    (findU32 GSCAN_ENABLE_FULL_SCAN_RESULTS as).map fun enable => .enableFullScanResults enable.toInt32
  else if subcmd = GSCAN_SUBCMD_GET_SCAN_RESULTS then readGetScanResults as
  else if subcmd = GSCAN_SUBCMD_SET_HOTLIST then readHotlist as
  else if subcmd = GSCAN_SUBCMD_SET_SIGNIFICANT_CHANGE_CONFIG then readSignificantChange as
  else if subcmd = GSCAN_SUBCMD_SET_EPNO_SSID then readEpno as
  else if subcmd = GSCAN_SUBCMD_SET_BSSID_BLACKLIST then readSetBlacklist as
  else if subcmd = WIFI_SUBCMD_GET_CHANNEL_LIST then
    (findU32 WIFI_ATTRIBUTE_BAND as).map fun band => .getChannelList band.toInt32
  else if subcmd = WIFI_SUBCMD_GET_FEATURE_SET_MATRIX then some .getFeatureSetMatrix
  else if subcmd = WIFI_SUBCMD_SET_COUNTRY_CODE then
    (findData WIFI_ATTRIBUTE_COUNTRY_CODE as).map fun code => .setCountryCode (code.takeWhile (· ≠ 0))
  else if subcmd = WIFI_SUBCMD_SET_RSSI_MONITOR then readRssiMonitor as
  else if subcmd = RTT_SUBCMD_GETCAPABILITY then some .getRttCapabilities
  else if subcmd = RTT_SUBCMD_GETAVAILCHANNEL then some .getRttAvailableChannel
  else if subcmd = RTT_SUBCMD_SET_RESPONDER then some .enableResponder
  else if subcmd = RTT_SUBCMD_CANCEL_RESPONDER then some .cancelResponder
  else if subcmd = WIFI_OFFLOAD_START_MKEEP_ALIVE then readStartKeepAlive as
  else if subcmd = WIFI_OFFLOAD_STOP_MKEEP_ALIVE then (findU8 MKEEP_ALIVE_ATTRIBUTE_ID as).map .stopKeepAlive
  else none

/-- A vendor message of the right identifier, which may have no data. -/
def readSent (bytes : List UInt8) : Option Sent :=
  if findU32 NL80211_ATTR_VENDOR_ID (attrs bytes) = some (UInt32.ofNat GOOGLE_OUI) then
    (findU32 NL80211_ATTR_VENDOR_SUBCMD (attrs bytes)).bind fun subcmd =>
      readData subcmd ((vendorData bytes).getD [])
  else none

/-- What a request asks for, with what the code replaces, cuts or leaves out: neither the channel nor
the duration of a responder is sent. -/
def Request.sent : Request → Sent
  | getCapabilities => .getCapabilities
  | scanConfig max_ap percent num_scans => .scanConfig max_ap (validThreshold percent) num_scans
  | enableGscan enable => .enableGscan enable
  | enableFullScanResults enable => .enableFullScanResults enable
  | getScanResults num flush => .getScanResults (UInt32.ofNat num) flush
  | hotlist p =>
    .hotlist p.lost_ap_sample_size.toUInt32 (cut16 p.num_bssid) (p.sent.map ApThresholdParam.requested)
  | hotlistTeardown => .hotlistTeardown
  | significantChange p => .significantChange (cut16 p.rssi_sample_size) (cut16 p.lost_ap_sample_size)
    (cut16 p.min_breaching) (cut16 p.num_bssid) (p.sent.map ApThresholdParam.requested)
  | significantChangeTeardown => .significantChangeTeardown
  | epno p => .epno p.numbers (p.sent.map WifiEpnoNetwork.requested)
  | epnoTeardown => .epnoTeardown
  | blacklist p =>
    .blacklist p.num_bssid.toUInt32 (if p.num_bssid = 0 then some 1 else none) (p.sent.map Vector.toList)
  | getChannelList band => .getChannelList band
  | getFeatureSetMatrix => .getFeatureSetMatrix
  | setCountryCode code => .setCountryCode code.bytes
  | setRssiMonitor max_rssi min_rssi enable => .setRssiMonitor (if enable ≠ 0 then max_rssi.toInt32 else 0)
    (if enable ≠ 0 then min_rssi.toInt32 else 0) enable
  | getRttCapabilities => .getRttCapabilities
  | getRttAvailableChannel => .getRttAvailableChannel
  | enableResponder _ => .enableResponder
  | cancelResponder => .cancelResponder
  | startKeepAlive c => .startKeepAlive c.mIndex c.mIpPktLen (c.mIpPkt.take c.mIpPktLen.toNat) c.mSrcMacAddr.toList
    c.mDstMacAddr.toList c.mPeriodMsec
  | stopKeepAlive index => .stopKeepAlive index

section

variable {mIface : Int32} {subcmd : UInt32} {as : List Attr} {r : Unit} {msg : NlMsg}

/-- A message has its identifier and its subcommand, and these attributes as its data. -/
structure Carries (subcmd : UInt32) (as : List Attr) (bytes : List UInt8) : Prop where
  vendor_id : findU32 NL80211_ATTR_VENDOR_ID (attrs bytes) = some (UInt32.ofNat GOOGLE_OUI)
  vendor_subcmd : findU32 NL80211_ATTR_VENDOR_SUBCMD (attrs bytes) = some subcmd
  data : (vendorData bytes).getD [] = as
  small : (encodeAll as).length < 65536

theorem readSent_of_carries {bytes : List UInt8} (hcarries : Carries subcmd as bytes) :
    readSent bytes = readData subcmd as := by
  rw [readSent, if_pos hcarries.vendor_id, hcarries.vendor_subcmd, hcarries.data, Option.bind_some]

theorem findU32_createAttrs (mIface : Int32) (subcmd : UInt32) (rest : List Attr) :
    findU32 NL80211_ATTR_VENDOR_ID (createAttrs mIface GOOGLE_OUI subcmd ++ rest) =
        some (UInt32.ofNat GOOGLE_OUI) ∧
      findU32 NL80211_ATTR_VENDOR_SUBCMD (createAttrs mIface GOOGLE_OUI subcmd ++ rest) = some subcmd := by
  constructor
  · rw [createAttrs, List.cons_append, findU32_cons]
  · rw [createAttrs, List.cons_append, findU32_cons_ne (by decide), List.cons_append, findU32_cons]

theorem carries_vendorRequest {body : Assembly Unit} {room : Nat} (hbody : Puts body room as) (has : as ≠ [])
    (hcreate : (do
        WifiRequest.create mIface GOOGLE_OUI subcmd
        nested NL80211_ATTR_VENDOR_DATA body : Assembly Unit) nlmsg_alloc = some (r, msg)) :
    Carries subcmd as msg.bytes := by
  obtain ⟨hattrs, hdata, hsmall⟩ := vendorData_of_appends (puts_vendorRequest mIface subcmd hbody has).appends
    (createAttrs_nla_type (by decide) (by decide) (by decide)) rfl hcreate
  obtain ⟨hid, hsubcmd⟩ := findU32_createAttrs mIface subcmd [⟨NL80211_ATTR_VENDOR_DATA, encodeAll as⟩]
  refine ⟨?_, ?_, ?_, hsmall⟩
  · rw [hattrs, hid]
  · rw [hattrs, hsubcmd]
  · rw [hdata, Option.getD_some]

/-- A request without data carries none. -/
theorem carries_create (hcreate : WifiRequest.create mIface GOOGLE_OUI subcmd nlmsg_alloc = some (r, msg)) :
    Carries subcmd [] msg.bytes := by
  have hbytes := appends_create mIface GOOGLE_OUI subcmd nlmsg_alloc r msg hcreate
  have hempty : nlmsg_alloc.bytes = [] := rfl
  have hattrs : attrs msg.bytes = createAttrs mIface GOOGLE_OUI subcmd ++ [] := by
    have hsmall := msg.bytes_length_lt
    rw [hbytes, hempty, List.nil_append] at hsmall ⊢
    rw [attrs_encodeAll_of_lt hsmall, List.append_nil]
  obtain ⟨hid, hsubcmd⟩ := findU32_createAttrs mIface subcmd []
  have htypes : ∀ a ∈ createAttrs mIface GOOGLE_OUI subcmd, a.nla_type ≠ NL80211_ATTR_VENDOR_DATA :=
    createAttrs_nla_type (by decide) (by decide) (by decide)
  have hnone : (createAttrs mIface GOOGLE_OUI subcmd ++ []).find?
      (fun a : Attr => a.nla_type == NL80211_ATTR_VENDOR_DATA) = none := by
    rw [List.append_nil, List.find?_eq_none]
    intro a ha
    simpa using htypes a ha
  refine ⟨?_, ?_, ?_, by decide⟩
  · rw [hattrs, hid]
  · rw [hattrs, hsubcmd]
  · rw [vendorData, hattrs, hnone, Option.map_none, Option.getD_none]

theorem puts_flat (as : List Attr) :
    Puts (as.forM fun a => nla_put a.nla_type a.data) (encodeAll as).length as := by
  have hputs : Puts (as.forM fun a => nla_put a.nla_type a.data) (encodeAll (as.map id)).length (as.map id) :=
    puts_forM fun a => puts_attr a.nla_type a.data
  rwa [List.map_id] at hputs

theorem carries_flatRequest (has : as ≠ []) (hcreate : flatRequest mIface subcmd as nlmsg_alloc = some (r, msg)) :
    Carries subcmd as msg.bytes :=
  carries_vendorRequest (puts_flat as) has hcreate

theorem readHotlist_setup (p : WifiBssidHotlistParams)
    (hsmall : (encodeAll (hotlistNumbers p ++ nestAttrs GSCAN_ATTRIBUTE_HOTLIST_BSSIDS
      (p.sent.zipIdx.map (apAttr fun _ => GSCAN_ATTRIBUTE_HOTLIST_ELEM)))).length < 65536) :
    readHotlist (hotlistNumbers p ++ nestAttrs GSCAN_ATTRIBUTE_HOTLIST_BSSIDS
      (p.sent.zipIdx.map (apAttr fun _ => GSCAN_ATTRIBUTE_HOTLIST_ELEM))) = some (Request.hotlist p).sent := by
  obtain ⟨_, _, hnum⟩ := findNumbers_hotlist p (nestAttrs GSCAN_ATTRIBUTE_HOTLIST_BSSIDS
    (p.sent.zipIdx.map (apAttr fun _ => GSCAN_ATTRIBUTE_HOTLIST_ELEM)))
  have hlost : findU32 GSCAN_ATTRIBUTE_LOST_AP_SAMPLE_SIZE (hotlistNumbers p ++
      nestAttrs GSCAN_ATTRIBUTE_HOTLIST_BSSIDS (p.sent.zipIdx.map (apAttr fun _ => GSCAN_ATTRIBUTE_HOTLIST_ELEM))) =
        some p.lost_ap_sample_size.toUInt32 := by
    simp [hotlistNumbers, findU32, u8Attr, u32Attr, GSCAN_ATTRIBUTE_HOTLIST_FLUSH,
      GSCAN_ATTRIBUTE_LOST_AP_SAMPLE_SIZE]
  rw [readHotlist, hnum]
  simp only [hlost, readAps_numbers (hotlistNumbers_nla_type p) hsmall]
  rfl

theorem readSignificantChange_setup (p : WifiSignificantChangeParams)
    (hsmall : (encodeAll (changeNumbers p ++ nestAttrs GSCAN_ATTRIBUTE_SIGNIFICANT_CHANGE_BSSIDS
      (p.sent.zipIdx.map (apAttr UInt16.ofNat)))).length < 65536) :
    readSignificantChange (changeNumbers p ++ nestAttrs GSCAN_ATTRIBUTE_SIGNIFICANT_CHANGE_BSSIDS
      (p.sent.zipIdx.map (apAttr UInt16.ofNat))) = some (Request.significantChange p).sent := by
  obtain ⟨_, hrssi, hlost, hmin, hnum⟩ := findNumbers_changes p
    (nestAttrs GSCAN_ATTRIBUTE_SIGNIFICANT_CHANGE_BSSIDS (p.sent.zipIdx.map (apAttr UInt16.ofNat)))
  rw [readSignificantChange, hnum]
  simp only [hrssi, hlost, hmin, readAps_numbers (changeNumbers_nla_type p) hsmall]
  rfl

theorem readEpno_setup (p : WifiEpnoParams)
    (hsmall : (encodeAll (epnoNumberAttrs p ++ nestAttrs GSCAN_ATTRIBUTE_EPNO_SSID_LIST
      (p.sent.zipIdx.map epnoAttr))).length < 65536) :
    readEpno (epnoNumberAttrs p ++ nestAttrs GSCAN_ATTRIBUTE_EPNO_SSID_LIST (p.sent.zipIdx.map epnoAttr)) =
      some (Request.epno p).sent := by
  have hnum : findU8 GSCAN_ATTRIBUTE_EPNO_SSID_NUM (epnoNumberAttrs p ++
      nestAttrs GSCAN_ATTRIBUTE_EPNO_SSID_LIST (p.sent.zipIdx.map epnoAttr)) = some (cut8 p.num_networks) := by
    simp [epnoNumberAttrs, findU8, u8Attr, u16Attr, GSCAN_ATTRIBUTE_EPNO_FLUSH, GSCAN_ATTRIBUTE_EPNO_5G_RSSI_THR,
      GSCAN_ATTRIBUTE_EPNO_2G_RSSI_THR, GSCAN_ATTRIBUTE_EPNO_INIT_SCORE_MAX, GSCAN_ATTRIBUTE_EPNO_CUR_CONN_BONUS,
      GSCAN_ATTRIBUTE_EPNO_SAME_NETWORK_BONUS, GSCAN_ATTRIBUTE_EPNO_SECURE_BONUS, GSCAN_ATTRIBUTE_EPNO_5G_BONUS,
      GSCAN_ATTRIBUTE_EPNO_SSID_NUM]
  obtain ⟨_, hnumbers⟩ := readEpnoNumbers_append p
    (nestAttrs GSCAN_ATTRIBUTE_EPNO_SSID_LIST (p.sent.zipIdx.map epnoAttr))
  have hnetworks := readEpnoNetworks p hsmall
  rw [readEpno, hnum]
  simp only [hnumbers, hnetworks]
  rfl

theorem readScanConfig_sent (max_ap percent num_scans : Int32) :
    readScanConfig [u32Attr GSCAN_ATTRIBUTE_NUM_AP_PER_SCAN max_ap.toUInt32,
      u32Attr GSCAN_ATTRIBUTE_REPORT_THRESHOLD (validThreshold percent).toUInt32,
      u32Attr GSCAN_ATTRIBUTE_NUM_SCANS_TO_CACHE num_scans.toUInt32] =
        some (Request.scanConfig max_ap percent num_scans).sent := by
  simp (disch := decide) only [readScanConfig, findU32_cons, findU32_cons_ne]
  simp [Request.sent]

theorem readGetScanResults_sent (num : Nat) (flush : UInt8) :
    readGetScanResults [u32Attr GSCAN_ATTRIBUTE_NUM_OF_RESULTS (UInt32.ofNat num),
      u8Attr GSCAN_ATTRIBUTE_FLUSH_RESULTS flush] = some (Request.getScanResults num flush).sent := by
  rw [Request.sent]
  generalize UInt32.ofNat num = value
  simp [readGetScanResults, findU32, findU8, u32Attr, u8Attr, GSCAN_ATTRIBUTE_NUM_OF_RESULTS,
    GSCAN_ATTRIBUTE_FLUSH_RESULTS]

theorem readSetBlacklist_sent (p : WifiBssidParams) :
    readSetBlacklist (blacklistNumbers p ++ p.sent.map blacklistAttr) = some (Request.blacklist p).sent := by
  have hnum : findU32 GSCAN_ATTRIBUTE_NUM_BSSID (blacklistNumbers p ++ p.sent.map blacklistAttr) =
      some p.num_bssid.toUInt32 := findU32_cons _ _ _
  rw [readSetBlacklist, hnum, findU32_flush, readBlacklist_blacklistNumbers]
  rfl

theorem readRssiMonitor_sent (max_rssi min_rssi : Int8) (enable : Int32) :
    readRssiMonitor [u32Attr WIFI_ATTRIBUTE_MAX_RSSI (if enable ≠ 0 then max_rssi.toInt32 else 0).toUInt32,
      u32Attr WIFI_ATTRIBUTE_MIN_RSSI (if enable ≠ 0 then min_rssi.toInt32 else 0).toUInt32,
      u32Attr WIFI_ATTRIBUTE_RSSI_MONITOR_START enable.toUInt32] =
        some (Request.setRssiMonitor max_rssi min_rssi enable).sent := by
  simp (disch := decide) only [readRssiMonitor, findU32_cons, findU32_cons_ne]
  simp [Request.sent]

theorem readStartKeepAlive_sent (c : MKeepAliveCommand) :
    readStartKeepAlive [u8Attr MKEEP_ALIVE_ATTRIBUTE_ID c.mIndex,
      u16Attr MKEEP_ALIVE_ATTRIBUTE_IP_PKT_LEN c.mIpPktLen,
      ⟨MKEEP_ALIVE_ATTRIBUTE_IP_PKT, c.mIpPkt.take c.mIpPktLen.toNat⟩,
      ⟨MKEEP_ALIVE_ATTRIBUTE_SRC_MAC_ADDR, c.mSrcMacAddr.toList⟩,
      ⟨MKEEP_ALIVE_ATTRIBUTE_DST_MAC_ADDR, c.mDstMacAddr.toList⟩,
      u32Attr MKEEP_ALIVE_ATTRIBUTE_PERIOD_MSEC c.mPeriodMsec] = some (Request.startKeepAlive c).sent := by
  have hu32 : ∀ (attrtype : UInt16) (v : UInt32), Attr.nla_get_u32 ⟨attrtype, le32 v.toNat⟩ = v :=
    fun attrtype v => nla_get_u32_le32 attrtype v
  simp [readStartKeepAlive, findU8, findU16, findU32, findData, u8Attr, u16Attr, u32Attr, MKEEP_ALIVE_ATTRIBUTE_ID,
    MKEEP_ALIVE_ATTRIBUTE_IP_PKT_LEN, MKEEP_ALIVE_ATTRIBUTE_IP_PKT, MKEEP_ALIVE_ATTRIBUTE_SRC_MAC_ADDR,
    MKEEP_ALIVE_ATTRIBUTE_DST_MAC_ADDR, MKEEP_ALIVE_ATTRIBUTE_PERIOD_MSEC, hu32, Request.sent]

/-- A text is read up to the terminator that was put behind it. -/
theorem takeWhile_terminated (code : CString) : (code.bytes ++ [0]).takeWhile (· ≠ 0) = code.bytes := by
  rw [List.takeWhile_append_of_pos]
  · simp
  · intro b hb
    have hne : b ≠ 0 := fun hzero => code.no_nul (hzero ▸ hb)
    simpa using hne

theorem puts_hotlistTeardown : Puts (do
      put_u8 GSCAN_ATTRIBUTE_HOTLIST_FLUSH 1
      nested GSCAN_ATTRIBUTE_HOTLIST_BSSIDS (pure ()))
    12 [u8Attr GSCAN_ATTRIBUTE_HOTLIST_FLUSH 1] := by
  apply (puts_cons (puts_put_u8 _ _) fun _ =>
    puts_nested GSCAN_ATTRIBUTE_HOTLIST_BSSIDS (puts_pure ())).of_room_eq
  rw [u8Attr_encode_length, NLA_HDRLEN]

theorem puts_getScanResults (num : Nat) (flush : UInt8) : Puts (do
      put_u32 GSCAN_ATTRIBUTE_NUM_OF_RESULTS (UInt32.ofNat num)
      put_u8 GSCAN_ATTRIBUTE_FLUSH_RESULTS flush)
    16 [u32Attr GSCAN_ATTRIBUTE_NUM_OF_RESULTS (UInt32.ofNat num), u8Attr GSCAN_ATTRIBUTE_FLUSH_RESULTS flush] := by
  apply (puts_cons (puts_put_u32 _ _) fun _ => puts_put_u8 _ _).of_room_eq
  rw [u32Attr_encode_length, u8Attr_encode_length]

end

/-- Every message that a command has made tells the driver what was asked for, but for the parameters
of a responder: from its bytes alone the request is read back, with what was put of it. -/
theorem request_read_back (mIface : Int32) (request : Request) (r : Unit) (msg : NlMsg)
    (hmessage : request.message mIface nlmsg_alloc = some (r, msg)) : readSent msg.bytes = some request.sent := by
  cases request with
  | getCapabilities => exact readSent_of_carries (carries_create hmessage)
  | scanConfig max_ap percent num_scans =>
    rw [readSent_of_carries (carries_flatRequest (List.cons_ne_nil _ _) hmessage)]
    exact readScanConfig_sent max_ap percent num_scans
  | enableGscan enable =>
    rw [readSent_of_carries (carries_flatRequest (List.cons_ne_nil _ _) hmessage)]
    have hread : ∀ as, readData GSCAN_SUBCMD_ENABLE_GSCAN as =
        (findU32 GSCAN_ATTRIBUTE_ENABLE_FEATURE as).map fun enable => .enableGscan enable.toInt32 := fun _ => rfl
    rw [hread, findU32_cons]
    simp [Request.sent]
  | enableFullScanResults enable =>
    rw [readSent_of_carries (carries_flatRequest (List.cons_ne_nil _ _) hmessage)]
    have hread : ∀ as, readData GSCAN_SUBCMD_ENABLE_FULL_SCAN_RESULTS as =
        (findU32 GSCAN_ENABLE_FULL_SCAN_RESULTS as).map fun enable => .enableFullScanResults enable.toInt32 :=
      fun _ => rfl
    rw [hread, findU32_cons]
    simp [Request.sent]
  | getScanResults num flush =>
    rw [readSent_of_carries (carries_vendorRequest (puts_getScanResults num flush) (List.cons_ne_nil _ _) hmessage)]
    exact readGetScanResults_sent num flush
  | hotlist p =>
    have hcarries := carries_vendorRequest (puts_hotlist p) (List.cons_ne_nil _ _) hmessage
    rw [readSent_of_carries hcarries]
    exact readHotlist_setup p hcarries.small
  | hotlistTeardown =>
    rw [readSent_of_carries (carries_vendorRequest puts_hotlistTeardown (List.cons_ne_nil _ _) hmessage)]
    rfl
  | significantChange p =>
    have hcarries := carries_vendorRequest (puts_changes p) (List.cons_ne_nil _ _) hmessage
    rw [readSent_of_carries hcarries]
    exact readSignificantChange_setup p hcarries.small
  | significantChangeTeardown =>
    rw [readSent_of_carries (carries_flatRequest (List.cons_ne_nil _ _) hmessage)]
    rfl
  | epno p =>
    have hcarries := carries_vendorRequest (puts_epno p) (List.cons_ne_nil _ _) hmessage
    rw [readSent_of_carries hcarries]
    exact readEpno_setup p hcarries.small
  | epnoTeardown =>
    rw [readSent_of_carries (carries_flatRequest (List.cons_ne_nil _ _) hmessage)]
    rfl
  | blacklist p =>
    rw [readSent_of_carries (carries_vendorRequest (puts_blacklist p) (List.cons_ne_nil _ _) hmessage)]
    exact readSetBlacklist_sent p
  | getChannelList band =>
    rw [readSent_of_carries (carries_flatRequest (List.cons_ne_nil _ _) hmessage)]
    have hread : ∀ as, readData WIFI_SUBCMD_GET_CHANNEL_LIST as =
        (findU32 WIFI_ATTRIBUTE_BAND as).map fun band => .getChannelList band.toInt32 := fun _ => rfl
    rw [hread, findU32_cons]
    simp [Request.sent]
  | getFeatureSetMatrix => exact readSent_of_carries (carries_create hmessage)
  | setCountryCode code =>
    rw [readSent_of_carries (carries_flatRequest (List.cons_ne_nil _ _) hmessage)]
    change some (Sent.setCountryCode ((code.bytes ++ [0]).takeWhile (· ≠ 0))) = _
    rw [takeWhile_terminated]
    rfl
  | setRssiMonitor max_rssi min_rssi enable =>
    rw [readSent_of_carries (carries_flatRequest (List.cons_ne_nil _ _) hmessage)]
    exact readRssiMonitor_sent max_rssi min_rssi enable
  | getRttCapabilities => exact readSent_of_carries (carries_create hmessage)
  | getRttAvailableChannel => exact readSent_of_carries (carries_create hmessage)
  | enableResponder c => exact readSent_of_carries (carries_create hmessage)
  | cancelResponder => exact readSent_of_carries (carries_create hmessage)
  | startKeepAlive c =>
    rw [readSent_of_carries (carries_flatRequest (List.cons_ne_nil _ _) hmessage)]
    exact readStartKeepAlive_sent c
  | stopKeepAlive index =>
    rw [readSent_of_carries (carries_flatRequest (List.cons_ne_nil _ _) hmessage)]
    have hread : ∀ as, readData WIFI_OFFLOAD_STOP_MKEEP_ALIVE as =
        (findU8 MKEEP_ALIVE_ATTRIBUTE_ID as).map .stopKeepAlive := fun _ => rfl
    rw [hread, findU8_cons]
    rfl

/-- A packet of three bytes in a buffer of four. -/
def sampleKeepAlive : MKeepAliveCommand :=
  ⟨1, [0x45, 0, 0, 0x1c], 3, Vector.replicate 6 0x10, Vector.replicate 6 0x20, 20000, by decide⟩

theorem request_read_back_keep_alive :
    ∃ msg, (Request.startKeepAlive sampleKeepAlive).message 3 nlmsg_alloc = some ((), msg) ∧
      readSent msg.bytes = some (.startKeepAlive 1 3 [0x45, 0, 0] [16, 16, 16, 16, 16, 16]
        [32, 32, 32, 32, 32, 32] 20000) := by
  have hsome : ((Request.startKeepAlive sampleKeepAlive).message 3 nlmsg_alloc).isSome := by decide +kernel
  obtain ⟨⟨r, msg⟩, hmessage⟩ := Option.isSome_iff_exists.mp hsome
  exact ⟨msg, hmessage, request_read_back 3 (.startKeepAlive sampleKeepAlive) r msg hmessage⟩

end panelli.wifi_hal
