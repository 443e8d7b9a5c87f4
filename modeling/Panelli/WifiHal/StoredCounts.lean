import Panelli.WifiHal.ExactRetrieval
import Panelli.WifiHal.FullScan

open panelli.netlink panelli.access

namespace panelli.wifi_hal

open GetScanResultsCommand

/-- Where a scan result has the length of its information elements. -/
def OFFSETOF_GSCAN_IE_LENGTH : Nat := 76

/-- The ranges of a scan result that are logged after its conversion, the name apart. -/
def LOGGED_RESULT_FIELDS : List Range := [⟨41, 6⟩, ⟨52, 4⟩, ⟨48, 4⟩]

/-- The body of the loop over the results of an attribute: a result is converted,
then logged, the name as a string. -/
def convertResult (it2 : Place) (i : Nat) : Access WifiScanResult := do
  touchAll (CONVERTED_FIELDS.map (·.shift (i * SIZEOF_GSCAN_RESULT)))
  let ie_length ← readNumber it2.nla_data (i * SIZEOF_GSCAN_RESULT + OFFSETOF_GSCAN_IE_LENGTH) 4
  touchString it2.nla_data (i * SIZEOF_GSCAN_RESULT + OFFSETOF_GSCAN_SSID)
  touchAll (LOGGED_RESULT_FIELDS.map (·.shift (i * SIZEOF_GSCAN_RESULT)))
  return (resultAt it2 i).toHal (UInt32.ofNat ie_length)

def convertResults (it2 : Place) (num : Int) : Access (List WifiScanResult) :=
  (List.range num.toNat).mapM (convertResult it2)

/-- A scan that is stored, with the count that the driver reported for it, and how
many results that count and the attributes behind it have room for. -/
structure StoredScan where
  reported : UInt32
  fits : Nat
  scan : ScanGroup × Place

section

variable (hdr : GscanHeader)

/-- So many results that an attribute and a scan have room for. -/
def fitting (fits : Nat) (it2 : Place) : Nat :=
  min (min fits (it2.nla_len.toNat / hdr.sizeof_wifi_scan_result)) hdr.MAX_AP_CACHE_PER_SCAN

/-- The scans of a group that are stored, with the count behind which they come. -/
def countedFrom : List Place → ScanGroup → UInt32 → Nat → List StoredScan
  | [], _, _, _ => []
  | it2 :: rest, g, reported, fits =>
    if it2.nla_type = GSCAN_ATTRIBUTE_SCAN_RESULTS ∧ g.num ≠ 0 then
      ⟨reported, fitting hdr fits it2, g.cut hdr it2, it2⟩ ::
        countedFrom rest (g.cut hdr it2) reported (fitting hdr fits it2)
    else if it2.nla_type = GSCAN_ATTRIBUTE_NUM_OF_RESULTS then
      countedFrom rest (g.read it2) it2.nla_get_u32 it2.nla_get_u32.toNat
    else countedFrom rest (g.read it2) reported fits

def countedIn (it : Place) : List StoredScan :=
  if IsGroup it then countedFrom hdr (places it) {} 0 0 else []

end

/-- What a command stores of a reply: as many scans as there is room for. -/
def GetScanResultsCommand.storedOf {hdr : GscanHeader} (c : GetScanResultsCommand hdr) (reply : Reply) :
    List StoredScan :=
  (reply.attributes.flatMap (countedIn hdr)).take (c.mMax - c.mRetrieved)

/-- The scan of the buffer has a count within all bounds, so many results were
converted from the attribute, and what was read for it is inside. -/
structure StoredScan.Bounded {hdr : GscanHeader} (s : StoredScan) (before after : CachedScanResults hdr) :
    Prop where
  nonneg : 0 ≤ after.num_results
  le_cache : after.num_results ≤ hdr.MAX_AP_CACHE_PER_SCAN
  le_reported : after.num_results ≤ s.reported.toNat
  le_carried : after.num_results ≤ s.scan.2.nla_len / SIZEOF_GSCAN_RESULT
  count : ((convertResults s.scan.2 s.scan.1.num {}).1.length : Int) = after.num_results
  converted : after.results.toList = (convertResults s.scan.2 s.scan.1.num {}).1 ++
    before.results.toList.drop (convertResults s.scan.2 s.scan.1.num {}).1.length
  reads : ∀ r ∈ (convertResults s.scan.2 s.scan.1.num {}).2.reads, r.Within s.scan.2.nla_len.toNat

/-- The name of a result ends inside its attribute. -/
def NameEnds (it2 : Place) (i : Nat) : Prop :=
  ∃ k, i * SIZEOF_GSCAN_RESULT + OFFSETOF_GSCAN_SSID ≤ k ∧ k < it2.nla_len.toNat ∧ it2.nla_data.getD k 0 = 0

/-- The count is positive as an `int`, and the names of the results that there is
room for end. -/
structure StoredScan.Sound (s : StoredScan) : Prop where
  small : s.reported.toNat < 2 ^ 31
  names : ∀ i < s.fits, NameEnds s.scan.2 i

section

variable {hdr : GscanHeader} {c : GetScanResultsCommand hdr} {g : ScanGroup} {scans : List (ScanGroup × Place)}
  {scan : ScanGroup × Place} {it it2 : Place} {group : List Place} {reported : UInt32} {fits : Nat}
  {s : StoredScan}

/-- The ranges that the conversion of a result reads, with its name. -/
def resultReads (it2 : Place) (i : Nat) : List Range :=
  CONVERTED_FIELDS.map (·.shift (i * SIZEOF_GSCAN_RESULT)) ++
    [⟨i * SIZEOF_GSCAN_RESULT + OFFSETOF_GSCAN_IE_LENGTH, 4⟩,
      ⟨i * SIZEOF_GSCAN_RESULT + OFFSETOF_GSCAN_SSID,
        strlen it2.nla_data (i * SIZEOF_GSCAN_RESULT + OFFSETOF_GSCAN_SSID) + 1⟩] ++
    LOGGED_RESULT_FIELDS.map (·.shift (i * SIZEOF_GSCAN_RESULT))

theorem convertResult_apply (it2 : Place) (i : Nat) (s : Accesses) : convertResult it2 i s =
    ((resultAt it2 i).toHal (resultAt it2 i).ie_length, { s with reads := s.reads ++ resultReads it2 i }) := by
  have hlength : Place.number it2.nla_data (i * SIZEOF_GSCAN_RESULT + OFFSETOF_GSCAN_IE_LENGTH) 4 =
      Place.number (it2.nla_data.drop (i * SIZEOF_GSCAN_RESULT)) OFFSETOF_GSCAN_IE_LENGTH 4 := by
    rw [Place.number, Place.number, List.drop_drop]
  simp only [convertResult, bind_apply, touchAll_apply, readNumber_apply, touchString_apply, pure_apply, hlength,
    resultReads, List.append_assoc, List.singleton_append]
  rfl

/-- The loop converts what the record of the group holds. -/
theorem convertResults_apply (it2 : Place) (num : Int) : convertResults it2 num {} =
    ((List.range num.toNat).map fun i => (resultAt it2 i).toHal (resultAt it2 i).ie_length,
      { reads := (List.range num.toNat).flatMap (resultReads it2) }) :=
  mapM_of_reads {} (convertResult_apply it2) (List.range num.toNat)

/-- A result of an attribute is read inside just if its name ends there. -/
theorem resultReads_within_iff {i : Nat} (hroom : (i + 1) * SIZEOF_GSCAN_RESULT ≤ it2.nla_len.toNat) :
    (∀ r ∈ resultReads it2 i, r.Within it2.nla_len.toNat) ↔ NameEnds it2 i := by
  rw [Nat.succ_mul] at hroom
  rw [NameEnds, ← strlen_le_iff]
  constructor
  · intro hreads
    have hname := (hreads ⟨i * SIZEOF_GSCAN_RESULT + OFFSETOF_GSCAN_SSID,
      strlen it2.nla_data (i * SIZEOF_GSCAN_RESULT + OFFSETOF_GSCAN_SSID) + 1⟩ (by simp [resultReads])).le
      (Nat.succ_ne_zero _)
    exact hname
  · intro hname r hr
    have hconverted : ∀ r ∈ CONVERTED_FIELDS, r.offset + r.size ≤ SIZEOF_GSCAN_RESULT := by decide
    have hlogged : ∀ r ∈ LOGGED_RESULT_FIELDS, r.offset + r.size ≤ SIZEOF_GSCAN_RESULT := by decide
    have hlength : OFFSETOF_GSCAN_IE_LENGTH + 4 ≤ SIZEOF_GSCAN_RESULT := by decide
    simp only [resultReads, List.mem_append, List.mem_cons, List.not_mem_nil, or_false] at hr
    obtain (hr | rfl | rfl) | hr := hr
    · obtain ⟨field, hfield, rfl⟩ := List.mem_map.mp hr
      exact Range.shift_within (hconverted field hfield) hroom
    · apply Or.inr
      dsimp only
      omega
    · exact Or.inr hname
    · obtain ⟨field, hfield, rfl⟩ := List.mem_map.mp hr
      exact Range.shift_within (hlogged field hfield) hroom

/-- The scans behind the counts are those that are stored. -/
theorem countedFrom_scan :
    (countedFrom hdr group g reported fits).map StoredScan.scan = storedFrom hdr group g := by
  induction group generalizing g reported fits with
  | nil => rfl
  | cons it2 group ih =>
    rw [countedFrom, storedFrom]
    split_ifs
    · rw [List.map_cons, ih]
    · exact ih
    · exact ih

theorem countedIn_scan (it : Place) : (countedIn hdr it).map StoredScan.scan = storedIn hdr it := by
  rw [countedIn, storedIn]
  split_ifs
  · exact countedFrom_scan
  · rfl

/-- What a group has left of its count: what there is room for, if the count is
positive as an `int`. One that is not stays negative. -/
structure Counted (g : ScanGroup) (reported : UInt32) (fits : Nat) : Prop where
  small : reported.toNat < 2 ^ 31 → g.num = fits
  large : 2 ^ 31 ≤ reported.toNat → g.num < 0
  le : fits ≤ reported.toNat

theorem counted_start : Counted {} 0 0 :=
  ⟨fun _ => rfl, fun hlarge => absurd hlarge (by decide), Nat.le_refl 0⟩

/-- A count is stored as an `int`. -/
theorem counted_read (hnum : it2.nla_type = GSCAN_ATTRIBUTE_NUM_OF_RESULTS) (g : ScanGroup) :
    Counted (g.read it2) it2.nla_get_u32 it2.nla_get_u32.toNat := by
  have hread : (g.read it2).num = it2.nla_get_u32.toBitVec.toInt := by
    rw [ScanGroup.read, hnum]
    rfl
  have hsign := BitVec.toInt_eq_toNat_cond it2.nla_get_u32.toBitVec
  have hlt := it2.nla_get_u32.toNat_lt
  rw [UInt32.toNat_toBitVec] at hsign
  refine ⟨?_, ?_, Nat.le_refl _⟩
  · intro hsmall
    rw [hread, hsign, if_pos (by omega)]
  · intro hlarge
    rw [hread, hsign, if_neg (by omega)]
    omega

theorem Counted.read (hcounted : Counted g reported fits) (hnum : it2.nla_type ≠ GSCAN_ATTRIBUTE_NUM_OF_RESULTS) :
    Counted (g.read it2) reported fits := by
  have hsame : (g.read it2).num = g.num := ScanGroup.read_num_of_ne hnum
  refine ⟨?_, ?_, hcounted.le⟩
  · rw [hsame]
    exact hcounted.small
  · rw [hsame]
    exact hcounted.large

theorem Counted.cut (hcounted : Counted g reported fits) (hlen : 0 ≤ it2.nla_len) :
    Counted (g.cut hdr it2) reported (fitting hdr fits it2) := by
  obtain ⟨len, hlen⟩ := Int.eq_ofNat_of_zero_le hlen
  have hcarried : it2.nla_len / hdr.sizeof_wifi_scan_result = ((len / hdr.sizeof_wifi_scan_result : Nat) : Int) := by
    rw [hlen]
    rfl
  refine ⟨?_, ?_, ?_⟩
  · intro hsmall
    rw [ScanGroup.cut_num, hcounted.small hsmall, hcarried, fitting, hlen]
    rw [Int.toNat_natCast]
    omega
  · intro hlarge
    have hneg := hcounted.large hlarge
    rw [ScanGroup.cut_num]
    omega
  · have hle := hcounted.le
    rw [fitting]
    omega

/-- Each scan that is stored has its count left, and there is room for no more than
its attribute carries and a scan can hold. -/
structure StoredScan.Cut (hdr : GscanHeader) (s : StoredScan) : Prop where
  counted : Counted s.scan.1 s.reported s.fits
  len : 0 ≤ s.scan.2.nla_len
  fits_le_carried : s.fits ≤ s.scan.2.nla_len.toNat / hdr.sizeof_wifi_scan_result
  fits_le_cache : s.fits ≤ hdr.MAX_AP_CACHE_PER_SCAN

theorem cut_of_mem_countedFrom (hlens : ∀ it2 ∈ group, 0 ≤ it2.nla_len) (hcounted : Counted g reported fits)
    (hmem : s ∈ countedFrom hdr group g reported fits) : s.Cut hdr := by
  induction group generalizing g reported fits with
  | nil => cases hmem
  | cons it2 group ih =>
    obtain ⟨hlen, hlens⟩ := List.forall_mem_cons.mp hlens
    rw [countedFrom] at hmem
    split_ifs at hmem with hscan hnum
    · obtain rfl | hlater := List.mem_cons.mp hmem
      · refine ⟨hcounted.cut hlen, hlen, ?_, ?_⟩
        · exact Nat.le_trans (Nat.min_le_left _ _) (Nat.min_le_right _ _)
        · exact Nat.min_le_right _ _
      · exact ih hlens (hcounted.cut hlen) hlater
    · exact ih hlens (counted_read hnum g) hmem
    · exact ih hlens (hcounted.read hnum) hmem

theorem cut_of_mem_countedIn (hmem : s ∈ countedIn hdr it) : s.Cut hdr := by
  rw [countedIn] at hmem
  split_ifs at hmem
  · exact cut_of_mem_countedFrom (fun _ => nla_len_nonneg_of_mem_places) counted_start hmem
  · cases hmem

/-- The results of a scan are the converted ones, then those that were there before. -/
theorem copy_results (entry : CachedScanResults hdr) (hcut : g.num ≤ hdr.MAX_AP_CACHE_PER_SCAN) :
    (entry.copy g it2).results.toList = (convertResults it2 g.num {}).1 ++
      entry.results.toList.drop (convertResults it2 g.num {}).1.length := by
  rw [convertResults_apply]
  apply List.ext_getElem
  · simp [CachedScanResults.copy]
    omega
  · intro i hi hi'
    simp only [List.length_map, List.length_range]
    by_cases hlt : (i : Int) < g.num
    · rw [List.getElem_append_left (by simp; omega)]
      simp [CachedScanResults.copy, hlt]
      rfl
    · rw [List.getElem_append_right (by simp; omega)]
      simp [CachedScanResults.copy, hlt]
      congr 1
      omega

/-- What is stored is within its bounds just if its count is positive and its names end. -/
theorem StoredScan.Cut.bounded_iff (hsize : hdr.sizeof_wifi_scan_result = SIZEOF_GSCAN_RESULT) (hcut : s.Cut hdr)
    (before : CachedScanResults hdr) : s.Bounded before (before.copy s.scan.1 s.scan.2) ↔ s.Sound := by
  have hlen := hcut.len
  have hcarried := hcut.fits_le_carried
  have hcache := hcut.fits_le_cache
  have hreported := hcut.counted.le
  rw [hsize] at hcarried
  have hroom : ∀ i < s.fits, (i + 1) * SIZEOF_GSCAN_RESULT ≤ s.scan.2.nla_len.toNat := by
    intro i hi
    exact Nat.mul_le_of_le_div _ _ _ (by omega)
  constructor
  · intro hbounded
    have hsmall : s.reported.toNat < 2 ^ 31 := by
      by_contra hlarge
      have hneg := hcut.counted.large (Nat.le_of_not_lt hlarge)
      have hnonneg : 0 ≤ s.scan.1.num := hbounded.nonneg
      omega
    refine ⟨hsmall, ?_⟩
    intro i hi
    rw [← resultReads_within_iff (hroom i hi)]
    intro r hr
    apply hbounded.reads
    rw [convertResults_apply, hcut.counted.small hsmall]
    exact List.mem_flatMap.mpr ⟨i, List.mem_range.mpr hi, hr⟩
  · rintro ⟨hsmall, hnames⟩
    have hnum : s.scan.1.num = s.fits := hcut.counted.small hsmall
    have hresults : (before.copy s.scan.1 s.scan.2).num_results = s.fits := hnum
    refine ⟨?_, ?_, ?_, ?_, ?_, copy_results before (by omega), ?_⟩
    · omega
    · omega
    · omega
    · rw [hresults]
      rw [SIZEOF_GSCAN_RESULT] at hcarried ⊢
      omega
    · rw [hresults, convertResults_apply, hnum]
      simp
    · rw [convertResults_apply, hnum]
      intro r hr
      obtain ⟨i, hi, hr⟩ := List.mem_flatMap.mp hr
      have hlt : i < s.fits := List.mem_range.mp hi
      exact (resultReads_within_iff (hroom i hlt)).mpr (hnames i hlt) r hr

/-- Storing changes the next scan of the buffer only. -/
theorem push_getElem?_of_ne {k : Nat} (hother : c.mRetrieved ≠ k) : (c.push scan).mScans[k]? = c.mScans[k]? := by
  by_cases hroom : c.mRetrieved < c.mMax
  · rw [push_of_room hroom]
    exact List.getElem?_modify_ne _ _ hother
  · rw [push_of_full (Nat.le_of_not_lt hroom)]

theorem foldl_push_getElem?_of_lt {k : Nat} (hbefore : k < c.mRetrieved) :
    (scans.foldl push c).mScans[k]? = c.mScans[k]? := by
  induction scans generalizing c with
  | nil => rfl
  | cons scan scans ih =>
    have hlater : k < (c.push scan).mRetrieved := by
      unfold GetScanResultsCommand.push
      split_ifs
      · exact Nat.lt_succ_of_lt hbefore
      · exact hbefore
    rw [List.foldl_cons, ih hlater, push_getElem?_of_ne (by omega)]

/-- The scans that there is room for are stored one behind the other. -/
theorem foldl_push_getElem? {i : Nat} (hroom : c.mRetrieved + i < c.mMax) (hscan : scans[i]? = some scan) :
    (scans.foldl push c).mScans[c.mRetrieved + i]? =
      c.mScans[c.mRetrieved + i]?.map fun entry => entry.copy scan.1 scan.2 := by
  induction scans generalizing c i with
  | nil => cases hscan
  | cons first scans ih =>
    have hpush : c.push first = _ := push_of_room (by omega)
    have hnext : (c.push first).mRetrieved = c.mRetrieved + 1 := by rw [hpush]
    rw [List.foldl_cons]
    cases i with
    | zero =>
      obtain rfl : first = scan := Option.some.inj hscan
      rw [foldl_push_getElem?_of_lt (by omega), hpush]
      exact List.getElem?_modify_eq _ _ _
    | succ i =>
      have hlater := ih (c := c.push first) (i := i) (by rw [hnext, push_mMax]; omega) hscan
      rw [hnext, push_getElem?_of_ne (by omega)] at hlater
      rwa [Nat.add_right_comm] at hlater

/-- So many are stored. -/
theorem foldl_push_mRetrieved (scans : List (ScanGroup × Place)) (c : GetScanResultsCommand hdr) :
    (scans.foldl push c).mRetrieved = c.mRetrieved + min (c.mMax - c.mRetrieved) scans.length := by
  induction scans generalizing c with
  | nil => rw [List.foldl_nil, List.length_nil, Nat.min_zero, Nat.add_zero]
  | cons scan scans ih =>
    rw [List.foldl_cons, ih, push_mMax, List.length_cons]
    by_cases hroom : c.mRetrieved < c.mMax
    · rw [push_of_room hroom]
      dsimp only
      omega
    · rw [push_of_full (Nat.le_of_not_lt hroom)]
      omega

/-- A reply leaves the scans of its groups behind those that are stored. -/
theorem handleResponse_foldl_push (c : GetScanResultsCommand hdr) (reply : Reply) :
    handleResponse c reply =
      (((reply.attributes.flatMap (countedIn hdr)).map StoredScan.scan).foldl push c).flagged
        (reply.attributes.foldl flagAfter c.mCompleted) := by
  rw [handleResponse_eq, foldl_handleAttr, List.map_flatMap]
  simp only [countedIn_scan]

/-- Each scan that a reply leaves was copied to the next scan of the buffer. -/
theorem storedOf_copied (hbuffer : c.mMax ≤ c.mScans.length) {reply : Reply} {i : Nat}
    (hs : (c.storedOf reply)[i]? = some s) :
    ∃ before, c.mScans[c.mRetrieved + i]? = some before ∧
      (c.handleResponse reply).mScans[c.mRetrieved + i]? = some (before.copy s.scan.1 s.scan.2) := by
  rw [storedOf, List.getElem?_take] at hs
  split_ifs at hs with hi
  have hroom : c.mRetrieved + i < c.mMax := by omega
  have hentry := List.getElem?_eq_getElem (l := c.mScans) (i := c.mRetrieved + i) (by omega)
  refine ⟨_, hentry, ?_⟩
  have hscan : ((reply.attributes.flatMap (countedIn hdr)).map StoredScan.scan)[i]? = some s.scan := by
    rw [List.getElem?_map, hs]
    rfl
  have hcopied := foldl_push_getElem? hroom hscan
  rw [hentry] at hcopied
  rw [handleResponse_foldl_push]
  exact hcopied

theorem cut_of_mem_storedOf {reply : Reply} (hmem : s ∈ c.storedOf reply) : s.Cut hdr := by
  obtain ⟨it, _, hs⟩ := List.mem_flatMap.mp (List.mem_of_mem_take hmem)
  exact cut_of_mem_countedIn hs

end

/-- A reply leaves scans within their bounds just if every count behind which a scan is
stored is positive as an `int`, and the names that there is room for end. -/
theorem storedCounts_bounded_iff {hdr : GscanHeader} (hsize : hdr.sizeof_wifi_scan_result = SIZEOF_GSCAN_RESULT)
    (c : GetScanResultsCommand hdr) (hbuffer : c.mMax ≤ c.mScans.length) (reply : Reply) :
    (c.handleResponse reply).mRetrieved = c.mRetrieved + (c.storedOf reply).length ∧
      ((∀ i s, (c.storedOf reply)[i]? = some s → ∃ before after, c.mScans[c.mRetrieved + i]? = some before ∧
          (c.handleResponse reply).mScans[c.mRetrieved + i]? = some after ∧ s.Bounded before after) ↔
        ∀ s ∈ c.storedOf reply, s.Sound) := by
  constructor
  · rw [handleResponse_foldl_push, storedOf, List.length_take]
    have hcount := foldl_push_mRetrieved ((reply.attributes.flatMap (countedIn hdr)).map StoredScan.scan) c
    rw [List.length_map] at hcount
    exact hcount
  · constructor
    · intro hbounded s hs
      obtain ⟨i, hi⟩ := List.mem_iff_getElem?.mp hs
      obtain ⟨before, after, hbefore, hafter, hbounded⟩ := hbounded i s hi
      obtain ⟨before', hbefore', hcopied⟩ := storedOf_copied hbuffer hi
      obtain rfl := Option.some.inj (hbefore'.symm.trans hbefore)
      obtain rfl := Option.some.inj (hcopied.symm.trans hafter)
      exact ((cut_of_mem_storedOf hs).bounded_iff hsize before').mp hbounded
    · intro hsound i s hi
      have hs := List.mem_iff_getElem?.mpr ⟨i, hi⟩
      obtain ⟨before, hbefore, hcopied⟩ := storedOf_copied hbuffer hi
      exact ⟨before, _, hbefore, hcopied, ((cut_of_mem_storedOf hs).bounded_iff hsize before).mpr (hsound s hs)⟩

/-- A command with room for one scan. -/
def oneScan : GetScanResultsCommand sameSizes :=
  GetScanResultsCommand.new 0 (List.replicate 1 (blankScan sameSizes)) 1

/-- A reply with a group of a count and an attribute with one result. -/
def countedReply (num : UInt32) : Reply where
  cmd := NL80211_CMD_VENDOR
  vendor_data := some (Attr.encode ⟨NL80211_ATTR_VENDOR_DATA, Attr.encode ⟨0, Attr.encode
    ⟨GSCAN_ATTRIBUTE_NUM_OF_RESULTS, encodeAll [u32Attr GSCAN_ATTRIBUTE_NUM_OF_RESULTS num,
      ⟨GSCAN_ATTRIBUTE_SCAN_RESULTS, List.replicate SIZEOF_GSCAN_RESULT 0⟩]⟩⟩⟩)

theorem storedCounts_bounded_one :
    (oneScan.handleResponse (countedReply 1)).mRetrieved =
        oneScan.mRetrieved + (oneScan.storedOf (countedReply 1)).length ∧
      ((∀ i s, (oneScan.storedOf (countedReply 1))[i]? = some s →
          ∃ before after, oneScan.mScans[oneScan.mRetrieved + i]? = some before ∧
            (oneScan.handleResponse (countedReply 1)).mScans[oneScan.mRetrieved + i]? = some after ∧
              s.Bounded before after) ↔
        ∀ s ∈ oneScan.storedOf (countedReply 1), s.Sound) :=
  storedCounts_bounded_iff rfl oneScan (Nat.le_refl 1) (countedReply 1)

/-- A count that is negative as an `int` is stored as it is. -/
theorem handleResponse_stores_negative :
    ((oneScan.handleResponse (countedReply 4294967295)).mScans.map CachedScanResults.num_results = [-1]) ∧
      ¬ ∀ i s, (oneScan.storedOf (countedReply 4294967295))[i]? = some s →
        ∃ before after, oneScan.mScans[oneScan.mRetrieved + i]? = some before ∧
          (oneScan.handleResponse (countedReply 4294967295)).mScans[oneScan.mRetrieved + i]? = some after ∧
            s.Bounded before after := by
  have hnegative : (oneScan.handleResponse (countedReply 4294967295)).mScans.map CachedScanResults.num_results =
      [-1] := by
    decide +kernel
  refine ⟨hnegative, ?_⟩
  intro hbounded
  have hstored : (oneScan.storedOf (countedReply 4294967295)).length = 1 := by decide +kernel
  obtain ⟨before, after, _, hafter, hbounded⟩ :=
    hbounded 0 _ (List.getElem?_eq_getElem (by rw [hstored]; exact Nat.zero_lt_one))
  have hmem := List.mem_of_getElem? hafter
  have hnum := List.mem_map_of_mem (f := CachedScanResults.num_results) hmem
  rw [hnegative, List.mem_singleton] at hnum
  have hnonneg := hbounded.nonneg
  omega

end panelli.wifi_hal
