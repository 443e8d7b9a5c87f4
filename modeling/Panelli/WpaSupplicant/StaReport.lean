import Panelli.Netlink.Parse
import Panelli.Netlink.Puts
import Panelli.WpaSupplicant.Testmode
import Mathlib.Data.List.GetD

open panelli.bytes panelli.netlink

namespace panelli.wpa_supplicant.sta

/-- The last type of nl80211. It is enough that it is not less than the type that is looked up. -/
def NL80211_ATTR_MAX : UInt16 := 256

def NL80211_ATTR_TESTDATA : UInt16 := 69

namespace STA_STATISTICS

def MAC : UInt16 := 2
def LINK_SCORE : UInt16 := 3
def FLAG : UInt16 := 4
def PER : UInt16 := 5
def RSSI : UInt16 := 6
def PHY_MODE : UInt16 := 7
def TX_RATE : UInt16 := 8
def TOTAL_CNT : UInt16 := 9
def THRESHOLD_CNT : UInt16 := 10
def AVG_PROCESS_TIME : UInt16 := 11
def FAIL_CNT : UInt16 := 15
def TIMEOUT_CNT : UInt16 := 16
def AVG_AIR_TIME : UInt16 := 17
def TC_EMPTY_CNT_ARRAY : UInt16 := 18
def TC_QUE_LEN_ARRAY : UInt16 := 19
def TC_AVG_QUE_LEN_ARRAY : UInt16 := 20
def TC_CUR_QUE_LEN_ARRAY : UInt16 := 21
def RESERVED_ARRAY : UInt16 := 37
def MAX : UInt16 := 37

end STA_STATISTICS

open STA_STATISTICS

/-- `policy`: how many bytes an attribute has at least, by its type. -/
def policy : List Nat :=
  [0, 1, 0, 4, 4, 1, 1, 4, 2, 4, 4, 4, 4, 4, 4, 4, 4, 4, 0, 0, 0, 0, 4, 4, 4, 4, 0, 0, 0, 0, 4, 4, 4, 4, 4, 4, 4, 0]

/-- `nla_parse_nested` with `policy`. It fails where an attribute of a type up to the last is too
short. -/
def nla_parse_nested (as : List Attr) : Option (UInt16 → Option Attr) :=
  if ∀ a ∈ as, a.type ≤ MAX → policy.getD a.type.toNat 0 ≤ a.data.length then some (nla_parse MAX as) else none

/-- The statistics of a station, as far as they are printed. The rate counts halves. -/
structure wpa_driver_sta_statistics_s where
  addr : Vector UInt8 6
  flag : UInt32
  link_score : UInt32
  per : UInt8
  rssi : Int32
  phy_mode : UInt32
  tx_rate : UInt16
  tx_total_cnt : UInt32
  tx_exc_threshold_cnt : UInt32
  tx_avg_process_time : UInt32
  tx_fail_cnt : UInt32
  tx_timeout_cnt : UInt32
  tx_avg_air_time : UInt32
  tc_buf_full_cnt : Vector UInt32 4
  tc_que_len : Vector UInt32 4
  tc_avg_que_len : Vector UInt32 4
  tc_cur_que_len : Vector UInt32 4
  reserved : Vector UInt8 32

/-- What `memset` leaves. -/
def wpa_driver_sta_statistics_s.zero : wpa_driver_sta_statistics_s :=
  ⟨Vector.replicate 6 0, 0, 0, 0, 0, 0, 0, 0, 0, 0, 0, 0, 0, Vector.replicate 4 0, Vector.replicate 4 0,
    Vector.replicate 4 0, Vector.replicate 4 0, Vector.replicate 32 0⟩

/-- `nla_memcpy` over an array of bytes, which keeps what the attribute is too short for. -/
def copyBytes {n : Nat} (old : Vector UInt8 n) (a : Attr) : Vector UInt8 n :=
  Vector.ofFn fun i : Fin n => a.data.getD i.val old[i]

/-- The byte of a number in memory. -/
def byteOf (v : UInt32) (i : Nat) : UInt8 := (le32 v.toNat).getD i 0

/-- `nla_memcpy` over an array of numbers. -/
def copyWords {n : Nat} (old : Vector UInt32 n) (a : Attr) : Vector UInt32 n :=
  Vector.ofFn fun i : Fin n =>
    UInt32.ofNat (ofLe ((List.range 4).map fun b => a.data.getD (4 * i.val + b) (byteOf old[i] b)))

/-- What the byte of the driver stands for. -/
def rssiOf (byte : UInt8) : Int32 := Int32.ofInt (((byte.toNat : Int) - 220).tdiv 2)

/-- The loop of the handler over the attributes that there are. Each has its own field. -/
def wpa_driver_sta_statistics_s.store (sinfo : UInt16 → Option Attr) (s : wpa_driver_sta_statistics_s) :
    wpa_driver_sta_statistics_s where
  addr := (sinfo MAC).elim s.addr (copyBytes s.addr)
  flag := (sinfo FLAG).elim s.flag Attr.nla_get_u32
  link_score := (sinfo LINK_SCORE).elim s.link_score Attr.nla_get_u32
  per := (sinfo PER).elim s.per Attr.nla_get_u8
  rssi := (sinfo RSSI).elim s.rssi fun a => rssiOf a.nla_get_u8
  phy_mode := (sinfo PHY_MODE).elim s.phy_mode Attr.nla_get_u32
  tx_rate := (sinfo TX_RATE).elim s.tx_rate Attr.nla_get_u16
  tx_total_cnt := (sinfo TOTAL_CNT).elim s.tx_total_cnt Attr.nla_get_u32
  tx_exc_threshold_cnt := (sinfo THRESHOLD_CNT).elim s.tx_exc_threshold_cnt Attr.nla_get_u32
  tx_avg_process_time := (sinfo AVG_PROCESS_TIME).elim s.tx_avg_process_time Attr.nla_get_u32
  tx_fail_cnt := (sinfo FAIL_CNT).elim s.tx_fail_cnt Attr.nla_get_u32
  tx_timeout_cnt := (sinfo TIMEOUT_CNT).elim s.tx_timeout_cnt Attr.nla_get_u32
  tx_avg_air_time := (sinfo AVG_AIR_TIME).elim s.tx_avg_air_time Attr.nla_get_u32
  tc_buf_full_cnt := (sinfo TC_EMPTY_CNT_ARRAY).elim s.tc_buf_full_cnt (copyWords s.tc_buf_full_cnt)
  tc_que_len := (sinfo TC_QUE_LEN_ARRAY).elim s.tc_que_len (copyWords s.tc_que_len)
  tc_avg_que_len := (sinfo TC_AVG_QUE_LEN_ARRAY).elim s.tc_avg_que_len (copyWords s.tc_avg_que_len)
  tc_cur_que_len := (sinfo TC_CUR_QUE_LEN_ARRAY).elim s.tc_cur_que_len (copyWords s.tc_cur_que_len)
  reserved := (sinfo RESERVED_ARRAY).elim s.reserved (copyBytes s.reserved)

/-- `testmode_sta_statistics_handler`, of a reply with this payload. -/
def testmode_sta_statistics_handler (s : wpa_driver_sta_statistics_s) (reply : List UInt8) :
    wpa_driver_sta_statistics_s :=
  match nla_parse NL80211_ATTR_MAX (attrs reply) NL80211_ATTR_TESTDATA with
  | none => s
  | some testdata =>
    match nla_parse_nested (attrs testdata.data) with
    | none => s
    | some sinfo => s.store sinfo

/-- What sends a message with an index to the driver, here for the station of an address: its result,
and the payloads of the replies. -/
abbrev SendAndRecv : Type := UInt32 → Vector UInt8 6 → Int × List (List UInt8)

/-- The index of the parameters, with its version. -/
def statisticsIndex : UInt32 := UInt32.ofNat NL80211_TESTMODE_STATISTICS ||| ((0x01 : UInt32) <<< 24)

def SIZEOF_GET_STA_STATISTICS_PARAMS : Nat := 28

def wpas_get_sta_statistics (send_and_recv_msgs : SendAndRecv) (sta_addr : Vector UInt8 6)
    (buf : wpa_driver_sta_statistics_s) : Int × wpa_driver_sta_statistics_s :=
  let nl80211 := ⟨true, fun _ => true, send_and_recv_msgs statisticsIndex⟩
  let r := wpa_driver_nl80211_testmode nl80211 statisticsIndex.toNat SIZEOF_GET_STA_STATISTICS_PARAMS sta_addr
  (r.ret, if r.statistics then r.replies.foldl testmode_sta_statistics_handler buf else buf)

/-- What a driver reports of a station. The signal strength is in steps of half a decibel. -/
structure StaReport where
  addr : Vector UInt8 6
  flag : UInt32
  link_score : UInt32
  per : UInt8
  rssi : UInt8
  phy_mode : UInt32
  tx_rate : UInt16
  total_cnt : UInt32
  threshold_cnt : UInt32
  avg_process_time : UInt32
  fail_cnt : UInt32
  timeout_cnt : UInt32
  avg_air_time : UInt32
  tc_empty_cnt : Vector UInt32 4
  tc_que_len : Vector UInt32 4
  tc_avg_que_len : Vector UInt32 4
  tc_cur_que_len : Vector UInt32 4
  reserved : Vector UInt8 32

/-- An array of numbers in memory. -/
def wordBytes {n : Nat} (v : Vector UInt32 n) : List UInt8 := v.toList.flatMap fun word => le32 word.toNat

/-- The attributes of a report. -/
def StaReport.attrs (r : StaReport) : List Attr := [
  ⟨MAC, r.addr.toList⟩,
  ⟨LINK_SCORE, le32 r.link_score.toNat⟩,
  ⟨FLAG, le32 r.flag.toNat⟩,
  ⟨PER, [r.per]⟩,
  ⟨RSSI, [r.rssi]⟩,
  ⟨PHY_MODE, le32 r.phy_mode.toNat⟩,
  ⟨TX_RATE, le16 r.tx_rate.toNat⟩,
  ⟨TOTAL_CNT, le32 r.total_cnt.toNat⟩,
  ⟨THRESHOLD_CNT, le32 r.threshold_cnt.toNat⟩,
  ⟨AVG_PROCESS_TIME, le32 r.avg_process_time.toNat⟩,
  ⟨FAIL_CNT, le32 r.fail_cnt.toNat⟩,
  ⟨TIMEOUT_CNT, le32 r.timeout_cnt.toNat⟩,
  ⟨AVG_AIR_TIME, le32 r.avg_air_time.toNat⟩,
  ⟨TC_EMPTY_CNT_ARRAY, wordBytes r.tc_empty_cnt⟩,
  ⟨TC_QUE_LEN_ARRAY, wordBytes r.tc_que_len⟩,
  ⟨TC_AVG_QUE_LEN_ARRAY, wordBytes r.tc_avg_que_len⟩,
  ⟨TC_CUR_QUE_LEN_ARRAY, wordBytes r.tc_cur_que_len⟩,
  ⟨RESERVED_ARRAY, r.reserved.toList⟩]

/-- The types of the attributes. -/
def staTypes : List UInt16 :=
  [MAC, LINK_SCORE, FLAG, PER, RSSI, PHY_MODE, TX_RATE, TOTAL_CNT, THRESHOLD_CNT, AVG_PROCESS_TIME, FAIL_CNT,
    TIMEOUT_CNT, AVG_AIR_TIME, TC_EMPTY_CNT_ARRAY, TC_QUE_LEN_ARRAY, TC_AVG_QUE_LEN_ARRAY, TC_CUR_QUE_LEN_ARRAY,
    RESERVED_ARRAY]

/-- The attribute that a report comes in. -/
def StaReport.testdata (r : StaReport) : Attr := ⟨NL80211_ATTR_TESTDATA, encodeAll r.attrs⟩

/-- The statistics that stand for a report. -/
def StaReport.statistics (r : StaReport) : wpa_driver_sta_statistics_s where
  addr := r.addr
  flag := r.flag
  link_score := r.link_score
  per := r.per
  rssi := rssiOf r.rssi
  phy_mode := r.phy_mode
  tx_rate := r.tx_rate
  tx_total_cnt := r.total_cnt
  tx_exc_threshold_cnt := r.threshold_cnt
  tx_avg_process_time := r.avg_process_time
  tx_fail_cnt := r.fail_cnt
  tx_timeout_cnt := r.timeout_cnt
  tx_avg_air_time := r.avg_air_time
  tc_buf_full_cnt := r.tc_empty_cnt
  tc_que_len := r.tc_que_len
  tc_avg_que_len := r.tc_avg_que_len
  tc_cur_que_len := r.tc_cur_que_len
  reserved := r.reserved

section

variable {n : Nat} {attrtype : UInt16}

/-- An array that is there completely takes the place of the old one. -/
theorem copyBytes_toList (old v : Vector UInt8 n) : copyBytes old ⟨attrtype, v.toList⟩ = v := by
  ext i hi
  simp [copyBytes]

theorem flatMap_le32_getD (words : List UInt32) {i b : Nat} (hi : i < words.length) (hb : b < 4) (d : UInt8) :
    (words.flatMap fun word => le32 word.toNat).getD (4 * i + b) d = byteOf words[i] b := by
  induction words generalizing i with
  | nil => cases hi
  | cons word words ih =>
    have hlength := le32_length word.toNat
    rw [List.flatMap_cons]
    cases i with
    | zero =>
      rw [Nat.mul_zero, Nat.zero_add, List.getD_append _ _ _ _ (by omega), List.getElem_cons_zero, byteOf,
        List.getD_eq_getElem _ _ (by omega), List.getD_eq_getElem _ _ (by omega)]
    | succ i =>
      have hindex : 4 * (i + 1) + b - (le32 word.toNat).length = 4 * i + b := by omega
      rw [List.getD_append_right _ _ _ _ (by omega), hindex, List.getElem_cons_succ]
      exact ih (by simpa using hi)

theorem copyWords_wordBytes (old v : Vector UInt32 n) : copyWords old ⟨attrtype, wordBytes v⟩ = v := by
  ext i hi
  have hword : ∀ b ∈ List.range 4, (wordBytes v).getD (4 * i + b) (byteOf old[i] b) = byteOf v[i] b :=
    fun b hb => flatMap_le32_getD v.toList (by simpa using hi) (List.mem_range.mp hb) _
  have hbytes : (List.range 4).map (byteOf v[i]) = le32 v[i].toNat := rfl
  rw [copyWords, Vector.getElem_ofFn]
  simp only [Fin.getElem_fin]
  rw [List.map_congr_left hword, hbytes, ofLe_le32 v[i].toNat_lt, UInt32.ofNat_toNat]

theorem nla_types_eq (r : StaReport) : r.attrs.map Attr.nla_type = staTypes := rfl

/-- No type of a report has a flag, and none comes twice. -/
theorem staTypes_sound : staTypes.Nodup ∧ ∀ t ∈ staTypes, t ≤ MAX ∧ t &&& NLA_TYPE_MASK = t := by
  have hall : (staTypes.all fun t => decide (t ≤ MAX ∧ t &&& NLA_TYPE_MASK = t)) = true := by decide +kernel
  refine ⟨by decide +kernel, fun t ht => ?_⟩
  exact of_decide_eq_true (List.all_eq_true.mp hall t ht)

theorem type_of_mem_attrs {r : StaReport} {a : Attr} (ha : a ∈ r.attrs) : a.type = a.nla_type :=
  (staTypes_sound.2 a.nla_type (nla_types_eq r ▸ List.mem_map_of_mem ha)).2

theorem policy_attrs (r : StaReport) : ∀ a ∈ r.attrs, policy.getD a.type.toNat 0 ≤ a.data.length := by
  have hpolicy : staTypes.map (fun t => policy.getD t.toNat 0) = [0, 4, 4, 1, 1, 4, 2, 4, 4, 4, 4, 4, 4, 0, 0, 0, 0, 0] := by
    decide +kernel
  suffices h : ∀ a ∈ r.attrs, policy.getD a.nla_type.toNat 0 ≤ a.data.length by
    intro a ha
    rw [type_of_mem_attrs ha]
    exact h a ha
  simp only [staTypes, List.map_cons, List.map_nil, List.cons.injEq] at hpolicy
  simp only [StaReport.attrs, List.forall_mem_cons, hpolicy, le32_length, le16_length, List.length_singleton, Nat.zero_le,
    Nat.le_refl, true_and]
  exact List.forall_mem_nil _

/-- Every attribute of a report is found by its type. -/
theorem nla_parse_attrs (r : StaReport) {a : Attr} (ha : a ∈ r.attrs) : nla_parse MAX r.attrs a.nla_type = some a := by
  have htypes : r.attrs.map Attr.type = staTypes := by
    rw [← nla_types_eq r]
    exact List.map_congr_left fun a ha => type_of_mem_attrs ha
  rw [← type_of_mem_attrs ha]
  apply nla_parse_of_mem
  · rw [htypes]
    exact staTypes_sound.1
  · exact ha
  · exact (staTypes_sound.2 a.type (htypes ▸ List.mem_map_of_mem ha)).1

theorem store_attrs (r : StaReport) (s : wpa_driver_sta_statistics_s) :
    s.store (nla_parse MAX r.attrs) = r.statistics := by
  have hfound := fun (a : Attr) (ha : a ∈ r.attrs) => nla_parse_attrs r ha
  generalize nla_parse MAX r.attrs = sinfo at hfound ⊢
  simp only [StaReport.attrs, List.forall_mem_cons] at hfound
  obtain ⟨haddr, hscore, hflag, hper, hrssi, hphy, hrate, htotal, hthreshold, hprocess, hfail, htimeout, hair, hempty,
    hque, havg, hcur, hreserved, _⟩ := hfound
  rw [wpa_driver_sta_statistics_s.store, StaReport.statistics]
  simp only [haddr, hscore, hflag, hper, hrssi, hphy, hrate, htotal, hthreshold, hprocess, hfail, htimeout, hair,
    hempty, hque, havg, hcur, hreserved, Option.elim_some, copyBytes_toList, copyWords_wordBytes, nla_get_u32_le32,
    nla_get_u16_le16, nla_get_u8_singleton]

/-- A reply with a report is stored whole, whatever else there was and is. -/
theorem handler_reply (r : StaReport) (front : List Attr) {back : List Attr}
    (hback : ∀ a ∈ back, a.type ≠ NL80211_ATTR_TESTDATA)
    (hsmall : (encodeAll (front ++ r.testdata :: back)).length < 65536) (s : wpa_driver_sta_statistics_s) :
    testmode_sta_statistics_handler s (encodeAll (front ++ r.testdata :: back)) = r.statistics := by
  have htype : r.testdata.type = NL80211_ATTR_TESTDATA := by
    rw [StaReport.testdata, Attr.type_mk]
    decide
  have htestdata : nla_parse NL80211_ATTR_MAX (attrs (encodeAll (front ++ r.testdata :: back))) NL80211_ATTR_TESTDATA =
      some r.testdata := by
    rw [attrs_encodeAll_of_lt hsmall]
    exact nla_parse_append_cons front (by decide) htype hback
  have hdata : (encodeAll r.attrs).length < 65536 :=
    Nat.lt_of_le_of_lt (Attr.data_length_le (List.mem_append_right front (List.mem_cons_self (a := r.testdata)))) hsmall
  have hnested : nla_parse_nested (attrs r.testdata.data) = some (nla_parse MAX r.attrs) := by
    rw [StaReport.testdata, attrs_encodeAll_of_lt hdata, nla_parse_nested, if_pos fun a ha _ => policy_attrs r a ha]
  rw [testmode_sta_statistics_handler, htestdata]
  simp only [hnested]
  exact store_attrs r s

/-- The last of the replies is what the statistics are, if it has a report. -/
theorem wpas_get_sta_statistics_report {send_and_recv_msgs : SendAndRecv} {sta_addr : Vector UInt8 6} {ret : Int}
    {before : List (List UInt8)} {r : StaReport} {front back : List Attr}
    (hreplies : send_and_recv_msgs statisticsIndex sta_addr =
      (ret, before ++ [encodeAll (front ++ r.testdata :: back)]))
    (hback : ∀ a ∈ back, a.type ≠ NL80211_ATTR_TESTDATA)
    (hsmall : (encodeAll (front ++ r.testdata :: back)).length < 65536) (buf : wpa_driver_sta_statistics_s) :
    wpas_get_sta_statistics send_and_recv_msgs sta_addr buf = (ret, r.statistics) := by
  have hindex : statisticsIndex.toNat &&& 0xFFFFFF = NL80211_TESTMODE_STATISTICS := by decide
  simp only [wpas_get_sta_statistics, testmode_of_made, hindex, decide_true, if_true, hreplies, List.foldl_append,
    List.foldl_cons, List.foldl_nil]
  rw [handler_reply r front hback hsmall]

end

end panelli.wpa_supplicant.sta
