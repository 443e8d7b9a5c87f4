import Panelli.Netlink.Puts
import Panelli.Rtt.Requests

open panelli.bytes panelli.netlink
open panelli.rtt (MacAddr put_addr findU8 u8Attr findU8_cons u8Attr_encode_length)

namespace panelli.wifi_hal

def GSCAN_SUBCMD_SET_HOTLIST : UInt32 := 0x1006
def GSCAN_SUBCMD_SET_SIGNIFICANT_CHANGE_CONFIG : UInt32 := 0x1007
def GSCAN_SUBCMD_SET_BSSID_BLACKLIST : UInt32 := 0x1014

def GSCAN_ATTRIBUTE_BSSID : UInt16 := 41
def GSCAN_ATTRIBUTE_HOTLIST_BSSIDS : UInt16 := 50
def GSCAN_ATTRIBUTE_RSSI_LOW : UInt16 := 51
def GSCAN_ATTRIBUTE_RSSI_HIGH : UInt16 := 52
def GSCAN_ATTRIBUTE_HOTLIST_ELEM : UInt16 := 53
def GSCAN_ATTRIBUTE_HOTLIST_FLUSH : UInt16 := 54
def GSCAN_ATTRIBUTE_RSSI_SAMPLE_SIZE : UInt16 := 60
def GSCAN_ATTRIBUTE_LOST_AP_SAMPLE_SIZE : UInt16 := 61
def GSCAN_ATTRIBUTE_MIN_BREACHING : UInt16 := 62
def GSCAN_ATTRIBUTE_NUM_AP : UInt16 := 63
def GSCAN_ATTRIBUTE_SIGNIFICANT_CHANGE_BSSIDS : UInt16 := 64
def GSCAN_ATTRIBUTE_SIGNIFICANT_CHANGE_FLUSH : UInt16 := 65
def GSCAN_ATTRIBUTE_NUM_BSSID : UInt16 := 85
def GSCAN_ATTRIBUTE_BSSID_BLACKLIST_FLUSH : UInt16 := 100
def GSCAN_ATTRIBUTE_BLACKLIST_BSSID : UInt16 := 101

/-- An access point and the signal strengths that are reported of it. -/
structure ApThresholdParam where
  bssid : MacAddr
  low : Int32
  high : Int32
deriving DecidableEq

/-- The parameters of a hotlist. The array holds as many as are counted. -/
structure WifiBssidHotlistParams where
  lost_ap_sample_size : Int32
  num_bssid : Int32
  ap : List ApThresholdParam
  ap_fit : num_bssid.toInt ≤ ap.length

/-- The parameters of significant changes. The array holds as many as are counted. -/
structure WifiSignificantChangeParams where
  rssi_sample_size : Int32
  lost_ap_sample_size : Int32
  min_breaching : Int32
  num_bssid : Int32
  ap : List ApThresholdParam
  ap_fit : num_bssid.toInt ≤ ap.length

/-- The addresses of a blacklist. The array holds as many as are counted. -/
structure WifiBssidParams where
  num_bssid : Int32
  bssids : List MacAddr
  bssids_fit : num_bssid.toInt ≤ bssids.length

/-- The access points that the loop goes over. -/
def WifiBssidHotlistParams.sent (p : WifiBssidHotlistParams) : List ApThresholdParam :=
  p.ap.take p.num_bssid.toInt.toNat

def WifiSignificantChangeParams.sent (p : WifiSignificantChangeParams) : List ApThresholdParam :=
  p.ap.take p.num_bssid.toInt.toNat

def WifiBssidParams.sent (p : WifiBssidParams) : List MacAddr := p.bssids.take p.num_bssid.toInt.toNat

def put_u16 (attrtype : UInt16) (value : UInt16) : Assembly Unit := nla_put attrtype (le16 value.toNat)

/-- An `int` that is put as a number of 16 bits. -/
def cut16 (n : Int32) : UInt16 := n.toUInt32.toUInt16

/-- The loop over the access points, each in a nest whose type may depend on the index. -/
def putAps (typeOf : Nat → UInt16) (aps : List ApThresholdParam) : Assembly Unit :=
  aps.zipIdx.forM fun entry => nested (typeOf entry.2) do
    put_addr GSCAN_ATTRIBUTE_BSSID entry.1.bssid
    put_u32 GSCAN_ATTRIBUTE_RSSI_HIGH entry.1.high.toUInt32
    put_u32 GSCAN_ATTRIBUTE_RSSI_LOW entry.1.low.toUInt32

def BssidHotlistCommand.createSetupRequest (mIface : Int32) (mParams : WifiBssidHotlistParams) :
    Assembly Unit := do
  WifiRequest.create mIface GOOGLE_OUI GSCAN_SUBCMD_SET_HOTLIST
  nested NL80211_ATTR_VENDOR_DATA do
    put_u8 GSCAN_ATTRIBUTE_HOTLIST_FLUSH 1
    put_u32 GSCAN_ATTRIBUTE_LOST_AP_SAMPLE_SIZE mParams.lost_ap_sample_size.toUInt32
    put_u16 GSCAN_ATTRIBUTE_NUM_AP (cut16 mParams.num_bssid)
    nested GSCAN_ATTRIBUTE_HOTLIST_BSSIDS (putAps (fun _ => GSCAN_ATTRIBUTE_HOTLIST_ELEM) mParams.sent)

def SignificantWifiChangeCommand.createSetupRequest (mIface : Int32) (mParams : WifiSignificantChangeParams) :
    Assembly Unit := do
  WifiRequest.create mIface GOOGLE_OUI GSCAN_SUBCMD_SET_SIGNIFICANT_CHANGE_CONFIG
  nested NL80211_ATTR_VENDOR_DATA do
    put_u8 GSCAN_ATTRIBUTE_SIGNIFICANT_CHANGE_FLUSH 1
    put_u16 GSCAN_ATTRIBUTE_RSSI_SAMPLE_SIZE (cut16 mParams.rssi_sample_size)
    put_u16 GSCAN_ATTRIBUTE_LOST_AP_SAMPLE_SIZE (cut16 mParams.lost_ap_sample_size)
    put_u16 GSCAN_ATTRIBUTE_MIN_BREACHING (cut16 mParams.min_breaching)
    put_u16 GSCAN_ATTRIBUTE_NUM_AP (cut16 mParams.num_bssid)
    nested GSCAN_ATTRIBUTE_SIGNIFICANT_CHANGE_BSSIDS (putAps UInt16.ofNat mParams.sent)

/-- An empty blacklist flushes the one there was. -/
def BssidBlacklistCommand.createRequest (mIface : Int32) (mParams : WifiBssidParams) : Assembly Unit := do
  WifiRequest.create mIface GOOGLE_OUI GSCAN_SUBCMD_SET_BSSID_BLACKLIST
  nested NL80211_ATTR_VENDOR_DATA do
    put_u32 GSCAN_ATTRIBUTE_NUM_BSSID mParams.num_bssid.toUInt32
    if mParams.num_bssid = 0 then
      put_u32 GSCAN_ATTRIBUTE_BSSID_BLACKLIST_FLUSH 1
    mParams.sent.forM (put_addr GSCAN_ATTRIBUTE_BLACKLIST_BSSID)

/-! The attributes of these messages, and how they are read. -/

def findU16 (attrtype : UInt16) (as : List Attr) : Option UInt16 :=
  (as.find? (·.nla_type == attrtype)).map Attr.nla_get_u16

/-- An access point as it is read back from its nest. -/
structure ApThreshold where
  bssid : List UInt8
  low : Int32
  high : Int32
deriving DecidableEq

def ApThresholdParam.requested (ap : ApThresholdParam) : ApThreshold := ⟨ap.bssid.toList, ap.low, ap.high⟩

def readAp (as : List Attr) : Option ApThreshold := do
  return {
    bssid := ← findData GSCAN_ATTRIBUTE_BSSID as
    low := (← findU32 GSCAN_ATTRIBUTE_RSSI_LOW as).toInt32
    high := (← findU32 GSCAN_ATTRIBUTE_RSSI_HIGH as).toInt32 }

/-- The access points in a nest of them, whatever the types of their nests are. -/
def readAps (listType : UInt16) (as : List Attr) : Option (List ApThreshold) :=
  (readNest listType as).mapM fun elem => readAp (attrs elem.data)

/-- A message asks for the hotlist that was given, after a flush. -/
def DeterminesHotlist (p : WifiBssidHotlistParams) (bytes : List UInt8) : Prop :=
  ∃ as, vendorData bytes = some as ∧ findU8 GSCAN_ATTRIBUTE_HOTLIST_FLUSH as = some 1 ∧
    (findU32 GSCAN_ATTRIBUTE_LOST_AP_SAMPLE_SIZE as).map UInt32.toInt32 = some p.lost_ap_sample_size ∧
    findU16 GSCAN_ATTRIBUTE_NUM_AP as = some (cut16 p.num_bssid) ∧
    readAps GSCAN_ATTRIBUTE_HOTLIST_BSSIDS as = some (p.sent.map ApThresholdParam.requested)

/-- A message asks for the significant changes that were given, after a flush. -/
def DeterminesChanges (p : WifiSignificantChangeParams) (bytes : List UInt8) : Prop :=
  ∃ as, vendorData bytes = some as ∧ findU8 GSCAN_ATTRIBUTE_SIGNIFICANT_CHANGE_FLUSH as = some 1 ∧
    findU16 GSCAN_ATTRIBUTE_RSSI_SAMPLE_SIZE as = some (cut16 p.rssi_sample_size) ∧
    findU16 GSCAN_ATTRIBUTE_LOST_AP_SAMPLE_SIZE as = some (cut16 p.lost_ap_sample_size) ∧
    findU16 GSCAN_ATTRIBUTE_MIN_BREACHING as = some (cut16 p.min_breaching) ∧
    findU16 GSCAN_ATTRIBUTE_NUM_AP as = some (cut16 p.num_bssid) ∧
    readAps GSCAN_ATTRIBUTE_SIGNIFICANT_CHANGE_BSSIDS as = some (p.sent.map ApThresholdParam.requested)

/-- The addresses in the vendor data. -/
def readBlacklist (as : List Attr) : List (List UInt8) :=
  (as.filter (·.nla_type == GSCAN_ATTRIBUTE_BLACKLIST_BSSID)).map Attr.data

/-- A message asks for the blacklist that was given, or flushes the one there is. -/
def DeterminesBlacklist (p : WifiBssidParams) (bytes : List UInt8) : Prop :=
  ∃ as, vendorData bytes = some as ∧ readBlacklist as = p.sent.map Vector.toList ∧
    findU32 GSCAN_ATTRIBUTE_NUM_BSSID as = some p.num_bssid.toUInt32 ∧
    findU32 GSCAN_ATTRIBUTE_BSSID_BLACKLIST_FLUSH as = if p.num_bssid = 0 then some 1 else none

/-- An attribute that holds a number of 16 bits. -/
def u16Attr (attrtype : UInt16) (value : UInt16) : Attr := ⟨attrtype, le16 value.toNat⟩

def apAttrs (ap : ApThresholdParam) : List Attr :=
  [⟨GSCAN_ATTRIBUTE_BSSID, ap.bssid.toList⟩, u32Attr GSCAN_ATTRIBUTE_RSSI_HIGH ap.high.toUInt32,
    u32Attr GSCAN_ATTRIBUTE_RSSI_LOW ap.low.toUInt32]

def apAttr (typeOf : Nat → UInt16) (entry : ApThresholdParam × Nat) : Attr :=
  ⟨typeOf entry.2, encodeAll (apAttrs entry.1)⟩

def hotlistNumbers (p : WifiBssidHotlistParams) : List Attr :=
  [u8Attr GSCAN_ATTRIBUTE_HOTLIST_FLUSH 1,
    u32Attr GSCAN_ATTRIBUTE_LOST_AP_SAMPLE_SIZE p.lost_ap_sample_size.toUInt32,
    u16Attr GSCAN_ATTRIBUTE_NUM_AP (cut16 p.num_bssid)]

def changeNumbers (p : WifiSignificantChangeParams) : List Attr :=
  [u8Attr GSCAN_ATTRIBUTE_SIGNIFICANT_CHANGE_FLUSH 1,
    u16Attr GSCAN_ATTRIBUTE_RSSI_SAMPLE_SIZE (cut16 p.rssi_sample_size),
    u16Attr GSCAN_ATTRIBUTE_LOST_AP_SAMPLE_SIZE (cut16 p.lost_ap_sample_size),
    u16Attr GSCAN_ATTRIBUTE_MIN_BREACHING (cut16 p.min_breaching),
    u16Attr GSCAN_ATTRIBUTE_NUM_AP (cut16 p.num_bssid)]

def blacklistNumbers (p : WifiBssidParams) : List Attr :=
  u32Attr GSCAN_ATTRIBUTE_NUM_BSSID p.num_bssid.toUInt32 ::
    if p.num_bssid = 0 then [u32Attr GSCAN_ATTRIBUTE_BSSID_BLACKLIST_FLUSH 1] else []

section

variable {body : Assembly Unit} {as : List Attr} {room : Nat} {typeOf : Nat → UInt16}
  {aps : List ApThresholdParam} {subcmd : UInt32}

theorem puts_put_u8 (attrtype : UInt16) (value : UInt8) :
    Puts (put_u8 attrtype value) (u8Attr attrtype value).encode.length [u8Attr attrtype value] :=
  puts_attr attrtype [value]

theorem puts_put_u16 (attrtype value : UInt16) :
    Puts (put_u16 attrtype value) (u16Attr attrtype value).encode.length [u16Attr attrtype value] :=
  puts_attr attrtype (le16 value.toNat)

theorem puts_put_u32 (attrtype : UInt16) (value : UInt32) :
    Puts (put_u32 attrtype value) (u32Attr attrtype value).encode.length [u32Attr attrtype value] :=
  puts_attr attrtype (le32 value.toNat)

theorem puts_put_addr (attrtype : UInt16) (addr : MacAddr) :
    Puts (put_addr attrtype addr) (Attr.encode ⟨attrtype, addr.toList⟩).length [⟨attrtype, addr.toList⟩] :=
  puts_attr attrtype addr.toList

theorem u16Attr_encode_length (attrtype value : UInt16) : (u16Attr attrtype value).encode.length = 8 := by
  rw [Attr.encode_length, u16Attr, le16_length]
  decide

theorem u32Attr_encode_length (attrtype : UInt16) (value : UInt32) : (u32Attr attrtype value).encode.length = 8 := by
  rw [Attr.encode_length, u32Attr, le32_length]
  decide

theorem addr_encode_length (attrtype : UInt16) (addr : MacAddr) :
    (Attr.encode ⟨attrtype, addr.toList⟩).length = 12 := by
  rw [Attr.encode_length, Vector.length_toList]
  decide

theorem createAttrs_length (mIface : Int32) (id : Nat) (subcmd : UInt32) :
    (encodeAll (createAttrs mIface id subcmd)).length = if mIface = -1 then 16 else 24 := by
  by_cases hiface : mIface = -1
  · simp only [createAttrs, hiface, ne_eq, not_true_eq_false, if_false, if_true, encodeAll_cons, encodeAll_nil,
      List.length_append, u32Attr_encode_length, List.length_nil]
  · simp only [createAttrs, hiface, ne_eq, not_false_eq_true, if_false, if_true, encodeAll_cons, encodeAll_nil,
      List.length_append, u32Attr_encode_length, List.length_nil]

theorem puts_create (mIface : Int32) (id : Nat) (subcmd : UInt32) :
    Puts (WifiRequest.create mIface id subcmd) (encodeAll (createAttrs mIface id subcmd)).length
      (createAttrs mIface id subcmd) := by
  have hiface : Puts (if mIface ≠ -1 then put_u32 NL80211_ATTR_IFINDEX mIface.toUInt32 else pure ())
      (encodeAll (if mIface ≠ -1 then [u32Attr NL80211_ATTR_IFINDEX mIface.toUInt32] else [])).length
      (if mIface ≠ -1 then [u32Attr NL80211_ATTR_IFINDEX mIface.toUInt32] else []) := by
    split_ifs
    · rw [encodeAll_cons, encodeAll_nil, List.append_nil]
      exact puts_put_u32 _ _
    · exact puts_pure ()
  apply (puts_cons (puts_put_u32 _ _) fun _ => puts_cons (puts_put_u32 _ _) fun _ => hiface).of_room_eq
  simp only [createAttrs, encodeAll_cons, List.length_append]

/-- A vendor request needs room for its address, and for its data. -/
theorem puts_vendorRequest (mIface : Int32) (subcmd : UInt32) (hbody : Puts body room as) (has : as ≠ []) :
    Puts (do
        WifiRequest.create mIface GOOGLE_OUI subcmd
        nested NL80211_ATTR_VENDOR_DATA body)
      ((if mIface = -1 then 16 else 24) + (NLA_HDRLEN + room))
      (createAttrs mIface GOOGLE_OUI subcmd ++ [⟨NL80211_ATTR_VENDOR_DATA, encodeAll as⟩]) := by
  have hdata := puts_nested NL80211_ATTR_VENDOR_DATA hbody
  rw [nestAttrs, if_neg has] at hdata
  apply (puts_bind (puts_create mIface GOOGLE_OUI subcmd) fun _ => hdata).of_room_eq
  rw [createAttrs_length]
  exact Nat.max_eq_right (Nat.le_add_right _ _)

/-- In a page, after the headers of the message, the address and the header of the data. -/
theorem vendorRequest_isSome_iff (mIface : Int32) (subcmd : UInt32) (hbody : Puts body room as) (has : as ≠ []) :
    ((do
        WifiRequest.create mIface GOOGLE_OUI subcmd
        nested NL80211_ATTR_VENDOR_DATA body : Assembly Unit) nlmsg_alloc).isSome = true ↔
      (if mIface = -1 then 16 else 24) + room ≤ 4072 := by
  rw [(puts_vendorRequest mIface subcmd hbody has).isSome_iff]
  have hempty : nlmsg_alloc.bytes.length = 0 := rfl
  have hpage : nlmsg_alloc.nm_size = 4096 := rfl
  rw [hempty, hpage, GENL_HEADERS, NLA_HDRLEN]
  omega

/-- What was put into the data is found there. -/
theorem vendorRequest_data (mIface : Int32) (subcmd : UInt32) (hbody : Puts body room as) (has : as ≠ [])
    {r : Unit} {msg : NlMsg} (hcreate : (do
        WifiRequest.create mIface GOOGLE_OUI subcmd
        nested NL80211_ATTR_VENDOR_DATA body : Assembly Unit) nlmsg_alloc = some (r, msg)) :
    vendorData msg.bytes = some as ∧ (encodeAll as).length < 65536 := by
  obtain ⟨_, hdata⟩ := vendorData_of_appends (puts_vendorRequest mIface subcmd hbody has).appends
    (createAttrs_nla_type (by decide) (by decide) (by decide)) rfl hcreate
  exact hdata

theorem apAttr_length (typeOf : Nat → UInt16) (entry : ApThresholdParam × Nat) :
    (apAttr typeOf entry).encode.length = 32 := by
  rw [apAttr, nest_encode_length]
  simp only [apAttrs, encodeAll_cons, encodeAll_nil, List.length_append, List.length_nil, addr_encode_length,
    u32Attr_encode_length, NLA_HDRLEN]

theorem puts_putAps (typeOf : Nat → UInt16) (aps : List ApThresholdParam) :
    Puts (putAps typeOf aps) (32 * aps.length) (aps.zipIdx.map (apAttr typeOf)) := by
  have hap (entry : ApThresholdParam × Nat) : Puts (nested (typeOf entry.2) (do
      put_addr GSCAN_ATTRIBUTE_BSSID entry.1.bssid
      put_u32 GSCAN_ATTRIBUTE_RSSI_HIGH entry.1.high.toUInt32
      put_u32 GSCAN_ATTRIBUTE_RSSI_LOW entry.1.low.toUInt32))
      (apAttr typeOf entry).encode.length [apAttr typeOf entry] := by
    apply puts_nest
    · apply (puts_cons (puts_put_addr _ _) fun _ => puts_cons (puts_put_u32 _ _) fun _ =>
        puts_put_u32 _ _).of_room_eq
      simp only [apAttrs, encodeAll_cons, encodeAll_nil, List.length_append, List.length_nil, Nat.add_zero]
    · exact List.cons_ne_nil _ _
  apply (puts_forM hap).of_room_eq
  rw [encodeAll_map_length fun entry _ => apAttr_length typeOf entry, List.length_zipIdx]

theorem readAp_apAttrs (ap : ApThresholdParam) : readAp (apAttrs ap) = some ap.requested := by
  have hu32 : ∀ (attrtype : UInt16) (v : UInt32), Attr.nla_get_u32 ⟨attrtype, le32 v.toNat⟩ = v :=
    fun attrtype v => nla_get_u32_le32 attrtype v
  simp [readAp, apAttrs, findData, findU32, u32Attr, ApThresholdParam.requested, GSCAN_ATTRIBUTE_BSSID,
    GSCAN_ATTRIBUTE_RSSI_LOW, GSCAN_ATTRIBUTE_RSSI_HIGH, hu32]

/-- The access points are read back behind the numbers. -/
theorem readAps_numbers {listType : UInt16} {numbers : List Attr} (hnumbers : ∀ a ∈ numbers, a.nla_type ≠ listType)
    (hsmall : (encodeAll (numbers ++ nestAttrs listType (aps.zipIdx.map (apAttr typeOf)))).length < 65536) :
    readAps listType (numbers ++ nestAttrs listType (aps.zipIdx.map (apAttr typeOf))) =
      some (aps.map ApThresholdParam.requested) := by
  have hnest := le_nestAttrs_length listType (aps.zipIdx.map (apAttr typeOf))
  rw [encodeAll_append, List.length_append] at hsmall
  have hlist : (encodeAll (aps.zipIdx.map (apAttr typeOf))).length < 65536 := by omega
  rw [readAps, readNest_append hnumbers hlist]
  exact mapM_zipIdx_nests (fun _ => rfl) (fun ap _ => readAp_apAttrs ap) hlist

/-- The data of a hotlist request. -/
theorem puts_hotlist (p : WifiBssidHotlistParams) :
    Puts (do
        put_u8 GSCAN_ATTRIBUTE_HOTLIST_FLUSH 1
        put_u32 GSCAN_ATTRIBUTE_LOST_AP_SAMPLE_SIZE p.lost_ap_sample_size.toUInt32
        put_u16 GSCAN_ATTRIBUTE_NUM_AP (cut16 p.num_bssid)
        nested GSCAN_ATTRIBUTE_HOTLIST_BSSIDS (putAps (fun _ => GSCAN_ATTRIBUTE_HOTLIST_ELEM) p.sent))
      (28 + 32 * p.sent.length)
      (hotlistNumbers p ++ nestAttrs GSCAN_ATTRIBUTE_HOTLIST_BSSIDS
        (p.sent.zipIdx.map (apAttr fun _ => GSCAN_ATTRIBUTE_HOTLIST_ELEM))) := by
  have hlist := puts_nested GSCAN_ATTRIBUTE_HOTLIST_BSSIDS
    (puts_putAps (fun _ => GSCAN_ATTRIBUTE_HOTLIST_ELEM) p.sent)
  apply (puts_cons (puts_put_u8 _ _) fun _ => puts_cons (puts_put_u32 _ _) fun _ =>
    puts_cons (puts_put_u16 _ _) fun _ => hlist).of_room_eq
  rw [u8Attr_encode_length, u32Attr_encode_length, u16Attr_encode_length, NLA_HDRLEN]
  omega

/-- The data of a request for significant changes. -/
theorem puts_changes (p : WifiSignificantChangeParams) :
    Puts (do
        put_u8 GSCAN_ATTRIBUTE_SIGNIFICANT_CHANGE_FLUSH 1
        put_u16 GSCAN_ATTRIBUTE_RSSI_SAMPLE_SIZE (cut16 p.rssi_sample_size)
        put_u16 GSCAN_ATTRIBUTE_LOST_AP_SAMPLE_SIZE (cut16 p.lost_ap_sample_size)
        put_u16 GSCAN_ATTRIBUTE_MIN_BREACHING (cut16 p.min_breaching)
        put_u16 GSCAN_ATTRIBUTE_NUM_AP (cut16 p.num_bssid)
        nested GSCAN_ATTRIBUTE_SIGNIFICANT_CHANGE_BSSIDS (putAps UInt16.ofNat p.sent))
      (44 + 32 * p.sent.length)
      (changeNumbers p ++ nestAttrs GSCAN_ATTRIBUTE_SIGNIFICANT_CHANGE_BSSIDS
        (p.sent.zipIdx.map (apAttr UInt16.ofNat))) := by
  have hlist := puts_nested GSCAN_ATTRIBUTE_SIGNIFICANT_CHANGE_BSSIDS
    (puts_putAps UInt16.ofNat p.sent)
  apply (puts_cons (puts_put_u8 _ _) fun _ => puts_cons (puts_put_u16 _ _) fun _ =>
    puts_cons (puts_put_u16 _ _) fun _ => puts_cons (puts_put_u16 _ _) fun _ =>
    puts_cons (puts_put_u16 _ _) fun _ => hlist).of_room_eq
  simp only [u8Attr_encode_length, u16Attr_encode_length, NLA_HDRLEN]
  omega

theorem hotlistNumbers_nla_type (p : WifiBssidHotlistParams) :
    ∀ a ∈ hotlistNumbers p, a.nla_type ≠ GSCAN_ATTRIBUTE_HOTLIST_BSSIDS := by
  simp only [hotlistNumbers, List.forall_mem_cons, List.not_mem_nil, false_implies, implies_true, and_true]
  exact ⟨(by decide : GSCAN_ATTRIBUTE_HOTLIST_FLUSH ≠ _), (by decide : GSCAN_ATTRIBUTE_LOST_AP_SAMPLE_SIZE ≠ _),
    (by decide : GSCAN_ATTRIBUTE_NUM_AP ≠ _)⟩

theorem changeNumbers_nla_type (p : WifiSignificantChangeParams) :
    ∀ a ∈ changeNumbers p, a.nla_type ≠ GSCAN_ATTRIBUTE_SIGNIFICANT_CHANGE_BSSIDS := by
  simp only [changeNumbers, List.forall_mem_cons, List.not_mem_nil, false_implies, implies_true, and_true]
  exact ⟨(by decide : GSCAN_ATTRIBUTE_SIGNIFICANT_CHANGE_FLUSH ≠ _),
    (by decide : GSCAN_ATTRIBUTE_RSSI_SAMPLE_SIZE ≠ _), (by decide : GSCAN_ATTRIBUTE_LOST_AP_SAMPLE_SIZE ≠ _),
    (by decide : GSCAN_ATTRIBUTE_MIN_BREACHING ≠ _), (by decide : GSCAN_ATTRIBUTE_NUM_AP ≠ _)⟩

/-- The numbers of a hotlist are found in front of its access points. -/
theorem findNumbers_hotlist (p : WifiBssidHotlistParams) (rest : List Attr) :
    findU8 GSCAN_ATTRIBUTE_HOTLIST_FLUSH (hotlistNumbers p ++ rest) = some 1 ∧
      (findU32 GSCAN_ATTRIBUTE_LOST_AP_SAMPLE_SIZE (hotlistNumbers p ++ rest)).map UInt32.toInt32 =
        some p.lost_ap_sample_size ∧
      findU16 GSCAN_ATTRIBUTE_NUM_AP (hotlistNumbers p ++ rest) = some (cut16 p.num_bssid) := by
  simp [hotlistNumbers, findU8, findU32, findU16, u8Attr, u16Attr, u32Attr, GSCAN_ATTRIBUTE_HOTLIST_FLUSH,
    GSCAN_ATTRIBUTE_LOST_AP_SAMPLE_SIZE, GSCAN_ATTRIBUTE_NUM_AP]

theorem findNumbers_changes (p : WifiSignificantChangeParams) (rest : List Attr) :
    findU8 GSCAN_ATTRIBUTE_SIGNIFICANT_CHANGE_FLUSH (changeNumbers p ++ rest) = some 1 ∧
      findU16 GSCAN_ATTRIBUTE_RSSI_SAMPLE_SIZE (changeNumbers p ++ rest) = some (cut16 p.rssi_sample_size) ∧
      findU16 GSCAN_ATTRIBUTE_LOST_AP_SAMPLE_SIZE (changeNumbers p ++ rest) =
        some (cut16 p.lost_ap_sample_size) ∧
      findU16 GSCAN_ATTRIBUTE_MIN_BREACHING (changeNumbers p ++ rest) = some (cut16 p.min_breaching) ∧
      findU16 GSCAN_ATTRIBUTE_NUM_AP (changeNumbers p ++ rest) = some (cut16 p.num_bssid) := by
  simp [changeNumbers, findU8, findU16, u8Attr, u16Attr, GSCAN_ATTRIBUTE_SIGNIFICANT_CHANGE_FLUSH,
    GSCAN_ATTRIBUTE_RSSI_SAMPLE_SIZE, GSCAN_ATTRIBUTE_LOST_AP_SAMPLE_SIZE, GSCAN_ATTRIBUTE_MIN_BREACHING,
    GSCAN_ATTRIBUTE_NUM_AP]

end

section

variable {p : WifiBssidParams}

def blacklistAttr (addr : MacAddr) : Attr := ⟨GSCAN_ATTRIBUTE_BLACKLIST_BSSID, addr.toList⟩

theorem puts_addrs (addrs : List MacAddr) :
    Puts (addrs.forM (put_addr GSCAN_ATTRIBUTE_BLACKLIST_BSSID)) (12 * addrs.length) (addrs.map blacklistAttr) := by
  apply (puts_forM fun addr => puts_put_addr GSCAN_ATTRIBUTE_BLACKLIST_BSSID addr).of_room_eq
  exact encodeAll_map_length fun addr _ => addr_encode_length _ addr

/-- The data of a blacklist request. -/
theorem puts_blacklist (p : WifiBssidParams) :
    Puts (do
        put_u32 GSCAN_ATTRIBUTE_NUM_BSSID p.num_bssid.toUInt32
        if p.num_bssid = 0 then
          put_u32 GSCAN_ATTRIBUTE_BSSID_BLACKLIST_FLUSH 1
        p.sent.forM (put_addr GSCAN_ATTRIBUTE_BLACKLIST_BSSID))
      ((if p.num_bssid = 0 then 16 else 8) + 12 * p.sent.length)
      (blacklistNumbers p ++ p.sent.map blacklistAttr) := by
  rw [blacklistNumbers]
  by_cases hnone : p.num_bssid = 0
  · simp only [if_pos hnone]
    apply (puts_cons (puts_put_u32 _ _) fun _ => puts_cons (puts_put_u32 _ _) fun _ =>
      puts_addrs p.sent).of_room_eq
    rw [u32Attr_encode_length, u32Attr_encode_length]
    omega
  · simp only [if_neg hnone]
    apply (puts_cons (puts_put_u32 _ _) fun _ => puts_addrs p.sent).of_room_eq
    rw [u32Attr_encode_length]

/-- The addresses are read back behind the numbers, which have other types. -/
theorem readBlacklist_blacklistNumbers (p : WifiBssidParams) :
    readBlacklist (blacklistNumbers p ++ p.sent.map blacklistAttr) = p.sent.map Vector.toList := by
  have hnumbers : (blacklistNumbers p).filter (·.nla_type == GSCAN_ATTRIBUTE_BLACKLIST_BSSID) = [] := by
    rw [blacklistNumbers]
    split_ifs
    · rfl
    · rfl
  have haddrs : (p.sent.map blacklistAttr).filter (·.nla_type == GSCAN_ATTRIBUTE_BLACKLIST_BSSID) =
      p.sent.map blacklistAttr := by
    rw [List.filter_eq_self]
    intro a ha
    obtain ⟨addr, _, rfl⟩ := List.mem_map.mp ha
    simp [blacklistAttr]
  rw [readBlacklist, List.filter_append, hnumbers, haddrs, List.nil_append, List.map_map]
  rfl

theorem findU32_flush (p : WifiBssidParams) :
    findU32 GSCAN_ATTRIBUTE_BSSID_BLACKLIST_FLUSH (blacklistNumbers p ++ p.sent.map blacklistAttr) =
      if p.num_bssid = 0 then some 1 else none := by
  have haddrs : (p.sent.map blacklistAttr).find? (·.nla_type == GSCAN_ATTRIBUTE_BSSID_BLACKLIST_FLUSH) = none := by
    rw [List.find?_eq_none]
    intro a ha
    obtain ⟨addr, _, rfl⟩ := List.mem_map.mp ha
    exact (by decide : ¬ (GSCAN_ATTRIBUTE_BLACKLIST_BSSID == GSCAN_ATTRIBUTE_BSSID_BLACKLIST_FLUSH) = true)
  rw [blacklistNumbers]
  split_ifs
  · rw [List.cons_append, findU32_cons_ne (by decide), List.singleton_append, findU32_cons]
  · rw [List.cons_append, findU32_cons_ne (by decide), List.nil_append, findU32, haddrs, Option.map_none]

end

/-- An access point that is lost below -80 dBm. -/
def sampleAp : ApThresholdParam := ⟨Vector.replicate 6 0x10, -80, -40⟩

def sampleHotlist : WifiBssidHotlistParams := ⟨3, 1, [sampleAp], by decide⟩

def sampleChanges : WifiSignificantChangeParams := ⟨3, 3, 1, 1, [sampleAp], by decide⟩

def sampleBlacklist : WifiBssidParams := ⟨1, [Vector.replicate 6 0x10], by decide⟩

end panelli.wifi_hal
