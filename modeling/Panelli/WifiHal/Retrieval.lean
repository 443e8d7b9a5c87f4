import Panelli.WifiHal.CachedResults

open panelli.netlink

namespace panelli.wifi_hal

/-- A scan record as a reply carries it. -/
structure ScanRecord where
  scan_id : Int32
  flags : UInt8
  buckets_scanned : UInt32
  num_results : Int
  results : List WifiScanResult
deriving DecidableEq

/-- The record of a group whose count was cut to what its attribute holds. -/
def ScanGroup.record (g : ScanGroup) (it2 : Place) : ScanRecord where
  scan_id := g.scan_id
  flags := g.flags
  buckets_scanned := g.scan_ch_bucket_mask
  num_results := g.num
  results := (List.range g.num.toNat).map fun i => (resultAt it2 i).toHal (resultAt it2 i).ie_length

/-- A scan of the caller's buffer holds a record. What its array has behind the
results of the record was there before. -/
structure CachedScanResults.Holds {hdr : GscanHeader} (entry : CachedScanResults hdr) (r : ScanRecord) :
    Prop where
  scan_id : entry.scan_id = r.scan_id
  flags : entry.flags = r.flags
  buckets_scanned : entry.buckets_scanned = r.buckets_scanned
  num_results : entry.num_results = r.num_results
  results : entry.results.toList.take r.results.length = r.results

/-- The records came to the start of a buffer that is otherwise as before. -/
def HoldsRecords {hdr : GscanHeader} (before : List (CachedScanResults hdr)) (rs : List ScanRecord)
    (after : List (CachedScanResults hdr)) : Prop :=
  ∃ entries, after = entries ++ before.drop rs.length ∧ List.Forall₂ CachedScanResults.Holds entries rs

/-- The attributes of the vendor data of a reply, if it is one to a vendor command. -/
def Reply.attributes (reply : Reply) : List Place :=
  if reply.cmd = NL80211_CMD_VENDOR then
    match reply.vendor_data with
    | none => []
    | some vendor_data => if vendor_data.nla_len = 0 then [] else places vendor_data.nla_data
  else []

/-- The attributes of the replies to the first requests. -/
def attributesUpTo (replies : Nat → List Reply) (sent : Nat) : List Place :=
  (List.range sent).flatMap fun i => (replies i).flatMap Reply.attributes

section

variable (hdr : GscanHeader)

/-- The scans a group carries: one for each scan results attribute that follows a
count other than zero. -/
def scansFrom : List Place → ScanGroup → List (ScanGroup × Place)
  | [], _ => []
  | it2 :: rest, g =>
    if it2.nla_type = GSCAN_ATTRIBUTE_SCAN_RESULTS ∧ g.num ≠ 0 then (g.cut hdr it2, it2) :: scansFrom rest g
    else scansFrom rest (g.read it2)

/-- The scans of a group that are stored, where each cuts the count for the next. -/
def storedFrom : List Place → ScanGroup → List (ScanGroup × Place)
  | [], _ => []
  | it2 :: rest, g =>
    if it2.nla_type = GSCAN_ATTRIBUTE_SCAN_RESULTS ∧ g.num ≠ 0 then
      (g.cut hdr it2, it2) :: storedFrom rest (g.cut hdr it2)
    else storedFrom rest (g.read it2)

/-- No scan results attribute finds a count that those before it have cut below
what it is to store. -/
def CountKept : List Place → ScanGroup → Int → Prop
  | [], _, _ => True
  | it2 :: rest, g, left =>
    if it2.nla_type = GSCAN_ATTRIBUTE_SCAN_RESULTS ∧ g.num ≠ 0 then
      left ≠ 0 ∧ (g.cut hdr it2).num ≤ left ∧ CountKept rest g (g.cut hdr it2).num
    else
      CountKept rest (g.read it2)
        (if it2.nla_type = GSCAN_ATTRIBUTE_NUM_OF_RESULTS then (g.read it2).num else left)

end

/-- An attribute of the vendor data that is a group. -/
def IsGroup (it : Place) : Prop :=
  GSCAN_ATTRIBUTE_NUM_OF_RESULTS ≤ it.nla_type ∧ it.nla_type ≤ GSCAN_ATTRIBUTE_CH_BUCKET_BITMASK

instance (it : Place) : Decidable (IsGroup it) := inferInstanceAs (Decidable (_ ∧ _))

def scansIn (hdr : GscanHeader) (it : Place) : List (ScanGroup × Place) :=
  if IsGroup it then scansFrom hdr (places it) {} else []

def storedIn (hdr : GscanHeader) (it : Place) : List (ScanGroup × Place) :=
  if IsGroup it then storedFrom hdr (places it) {} else []

/-- The records that attributes carry, in order of arrival. -/
def carried (hdr : GscanHeader) (as : List Place) : List ScanRecord :=
  (as.flatMap (scansIn hdr)).map fun scan => scan.1.record scan.2

/-- The completion flag after an attribute. -/
def flagAfter (flag : UInt8) (it : Place) : UInt8 :=
  if it.nla_type = GSCAN_ATTRIBUTE_SCAN_RESULTS_COMPLETE then it.nla_get_u8 else flag

/-- Attributes carry a record and leave the completion flag cleared. -/
def AskForMore (hdr : GscanHeader) (as : List Place) : Prop :=
  carried hdr as ≠ [] ∧ as.foldl flagAfter 0 = 0

/-- A command for a buffer. -/
def GetScanResultsCommand.new {hdr : GscanHeader} (flush : UInt8) (results : List (CachedScanResults hdr))
    (max : Nat) : GetScanResultsCommand hdr :=
  ⟨results, max, 0, flush, 0⟩

/-- The caller gets exactly the records of the replies to the requests, up to its
limit, and no request is sent after a reply that does not ask for more. -/
structure RetrievedExactly {hdr : GscanHeader} (replies : Nat → List Reply)
    (results : List (CachedScanResults hdr)) (max : Nat) (e : Executed hdr) : Prop where
  num : e.mNum = some ((carried hdr (attributesUpTo replies e.sent)).take max).length
  records : HoldsRecords results ((carried hdr (attributesUpTo replies e.sent)).take max) e.command.mScans
  beyond : e.command.mScans.drop max = results.drop max
  sent_le : e.sent ≤ 10
  needed : ∀ i, i + 1 < e.sent → AskForMore hdr ((replies i).flatMap Reply.attributes)

/-- Whatever the caller's limit and buffer and however the requests go, one that
succeeds has retrieved exactly what the replies carry. -/
def RetrievesExactly (hdr : GscanHeader) (replies : Nat → List Reply) : Prop :=
  ∀ (flush : UInt8) (results : List (CachedScanResults hdr)) (max : Nat) (mIface : Int32)
    (kernel : Nat → Exchange), max ≤ results.length → (∀ i, (kernel i).replies = replies i) →
      ((GetScanResultsCommand.new flush results max).execute mIface kernel).result = WIFI_SUCCESS →
        RetrievedExactly replies results max ((GetScanResultsCommand.new flush results max).execute mIface kernel)

/-- In the replies up to the last that is asked for, no group has its count cut
below what a later attribute of it is to store. -/
def CountsKept (hdr : GscanHeader) (replies : Nat → List Reply) : Prop :=
  ∀ i < 10, (∀ j < i, AskForMore hdr ((replies j).flatMap Reply.attributes)) →
    ∀ reply ∈ replies i, ∀ it ∈ reply.attributes, IsGroup it → CountKept hdr (places it) {} 0

/-- A group with another count. -/
def ScanGroup.counting (g : ScanGroup) (num : Int) : ScanGroup := { g with num := num }

/-- Storing one scan, if there is room for it. -/
def GetScanResultsCommand.push {hdr : GscanHeader} (c : GetScanResultsCommand hdr) (scan : ScanGroup × Place) :
    GetScanResultsCommand hdr :=
  if c.mRetrieved < c.mMax then
    { c with
      mScans := c.mScans.modify c.mRetrieved fun entry => entry.copy scan.1 scan.2
      mRetrieved := c.mRetrieved + 1 }
  else c

/-- The command with its completion flag at a value. -/
def GetScanResultsCommand.flagged {hdr : GscanHeader} (c : GetScanResultsCommand hdr) (flag : UInt8) :
    GetScanResultsCommand hdr :=
  { c with mCompleted := flag }

section

variable {hdr : GscanHeader} {c : GetScanResultsCommand hdr} {g : ScanGroup} {scans : List (ScanGroup × Place)}
  {scan : ScanGroup × Place} {it it2 : Place} {group as : List Place} {left : Int} {reply : Reply}

open GetScanResultsCommand

theorem push_of_room (hroom : c.mRetrieved < c.mMax) : c.push scan =
    { c with
      mScans := c.mScans.modify c.mRetrieved fun entry => entry.copy scan.1 scan.2
      mRetrieved := c.mRetrieved + 1 } :=
  if_pos hroom

theorem push_of_full (hfull : c.mMax ≤ c.mRetrieved) : c.push scan = c := if_neg (Nat.not_lt.mpr hfull)

/-- A full buffer stays as it is. -/
theorem foldl_push_of_full (hfull : c.mMax ≤ c.mRetrieved) : scans.foldl push c = c := by
  induction scans with
  | nil => rfl
  | cons scan scans ih => rw [List.foldl_cons, push_of_full hfull, ih]

/-- The loop over a group stores its scans while there is room. -/
theorem handleGroup_eq : handleGroup group g c = (storedFrom hdr group g).foldl push c := by
  induction group generalizing g c with
  | nil => rfl
  | cons it2 group ih =>
    rw [handleGroup, storedFrom]
    split_ifs with hscan hfull
    · rw [foldl_push_of_full hfull]
    · rw [List.foldl_cons, push_of_room (Nat.lt_of_not_le hfull), ih]
    · exact ih

/-- Storing does not touch the completion flag. -/
theorem push_flagged (flag : UInt8) : (c.flagged flag).push scan = (c.push scan).flagged flag := by
  by_cases hroom : c.mRetrieved < c.mMax
  · rw [push_of_room hroom]
    exact push_of_room hroom
  · rw [push_of_full (Nat.le_of_not_lt hroom)]
    exact push_of_full (Nat.le_of_not_lt hroom)

theorem foldl_push_flagged (flag : UInt8) :
    scans.foldl push (c.flagged flag) = (scans.foldl push c).flagged flag := by
  induction scans generalizing c with
  | nil => rfl
  | cons scan scans ih => rw [List.foldl_cons, List.foldl_cons, push_flagged, ih]

theorem foldl_push_mCompleted : (scans.foldl push c).mCompleted = c.mCompleted := by
  have hflagged : scans.foldl push c = (scans.foldl push c).flagged c.mCompleted :=
    foldl_push_flagged c.mCompleted
  calc (scans.foldl push c).mCompleted
      = ((scans.foldl push c).flagged c.mCompleted).mCompleted := by rw [← hflagged]
    _ = c.mCompleted := rfl

/-- An attribute sets the completion flag, or is a group of scans, or is ignored. -/
theorem handleAttr_eq :
    handleAttr c it = ((storedIn hdr it).foldl push c).flagged (flagAfter c.mCompleted it) := by
  unfold handleAttr flagAfter storedIn
  by_cases hflag : it.nla_type = GSCAN_ATTRIBUTE_SCAN_RESULTS_COMPLETE
  · have hgroup : ¬ IsGroup it := by
      rw [IsGroup, hflag]
      decide
    rw [if_pos hflag, if_pos hflag, if_neg hgroup]
    rfl
  · rw [if_neg hflag, if_neg hflag]
    by_cases hgroup : IsGroup it
    · have hkept := @foldl_push_mCompleted hdr c (storedFrom hdr (places it) {})
      rw [if_pos hgroup, ← hkept]
      exact (if_pos hgroup).trans handleGroup_eq
    · rw [if_neg hgroup]
      exact if_neg hgroup

theorem foldl_handleAttr : as.foldl handleAttr c =
    ((as.flatMap (storedIn hdr)).foldl push c).flagged (as.foldl flagAfter c.mCompleted) := by
  induction as generalizing c with
  | nil => rfl
  | cons it as ih =>
    rw [List.foldl_cons, ih, handleAttr_eq, foldl_push_flagged, List.flatMap_cons, List.foldl_append]
    rfl

theorem handleResponse_eq : handleResponse c reply = reply.attributes.foldl handleAttr c := by
  unfold handleResponse Reply.attributes
  by_cases hvendor : reply.cmd = NL80211_CMD_VENDOR
  · rw [if_pos hvendor, if_pos hvendor]
    cases reply.vendor_data with
    | none => rfl
    | some vendor_data =>
      dsimp only
      split_ifs
      · rfl
      · rfl
  · rw [if_neg hvendor, if_neg hvendor]
    rfl

/-- All replies to a request store what their attributes hold. -/
theorem foldl_handleResponse (replies : List Reply) (c : GetScanResultsCommand hdr) :
    replies.foldl handleResponse c = (replies.flatMap Reply.attributes).foldl handleAttr c := by
  rw [List.foldl_flatMap]
  congr 1
  funext c reply
  exact handleResponse_eq

/-- A scan of the buffer holds the record of what was copied to it. -/
theorem copy_holds (entry : CachedScanResults hdr) (hcut : g.num ≤ hdr.MAX_AP_CACHE_PER_SCAN) :
    (entry.copy g it2).Holds (g.record it2) := by
  refine ⟨rfl, rfl, rfl, rfl, ?_⟩
  apply List.ext_getElem
  · simp [CachedScanResults.copy, ScanGroup.record]
    omega
  · intro i hi hi'
    simp [ScanGroup.record] at hi'
    simp [CachedScanResults.copy, ScanGroup.record, hi']
    rfl

variable {before entries : List (CachedScanResults hdr)} {rs : List ScanRecord} {r : ScanRecord}

/-- The next record comes behind those that the buffer holds. -/
theorem HoldsRecords.modify {f : CachedScanResults hdr → CachedScanResults hdr}
    (hholds : HoldsRecords before rs entries) (hf : ∀ entry, (f entry).Holds r)
    (hroom : rs.length < before.length) :
    HoldsRecords before (rs ++ [r]) (entries.modify rs.length f) := by
  obtain ⟨stored, rfl, hstored⟩ := hholds
  have hlength := hstored.length_eq
  have hinside : rs.length < (stored ++ before.drop rs.length).length := by
    rw [List.length_append, List.length_drop]
    omega
  refine ⟨stored ++ [f before[rs.length]], ?_, ?_⟩
  · rw [List.modify_eq_take_cons_drop hinside]
    simp [List.drop_append, ← hlength]
  · exact List.rel_append hstored (List.Forall₂.cons (hf _) List.Forall₂.nil)

/-- The command has stored the first records, as many as there was room for. -/
structure GetScanResultsCommand.Stored (c : GetScanResultsCommand hdr) (before : List (CachedScanResults hdr))
    (rs : List ScanRecord) : Prop where
  records : HoldsRecords before (rs.take c.mMax) c.mScans
  retrieved : c.mRetrieved = (rs.take c.mMax).length

theorem GetScanResultsCommand.Stored.push (hstored : c.Stored before rs) (hroom : c.mMax ≤ before.length)
    (hcut : scan.1.num ≤ hdr.MAX_AP_CACHE_PER_SCAN) :
    (c.push scan).Stored before (rs ++ [scan.1.record scan.2]) := by
  have hretrieved := hstored.retrieved
  rw [List.length_take] at hretrieved
  by_cases hless : c.mRetrieved < c.mMax
  · rw [push_of_room hless]
    have hall : rs.take c.mMax = rs := List.take_of_length_le (by omega)
    have hmore : (rs ++ [scan.1.record scan.2]).take c.mMax = rs ++ [scan.1.record scan.2] := by
      apply List.take_of_length_le
      rw [List.length_append, List.length_singleton]
      omega
    have hrecords := hstored.records
    rw [hall] at hrecords
    have hlength : c.mRetrieved = rs.length := by omega
    constructor
    · dsimp only
      rw [hmore, hlength]
      exact hrecords.modify (fun entry => copy_holds entry hcut) (by omega)
    · dsimp only
      rw [hmore, List.length_append, List.length_singleton, hlength]
  · rw [push_of_full (Nat.le_of_not_lt hless)]
    have hsame : (rs ++ [scan.1.record scan.2]).take c.mMax = rs.take c.mMax :=
      List.take_append_of_le_length (by omega)
    constructor
    · rw [hsame]
      exact hstored.records
    · rw [hsame]
      exact hstored.retrieved

theorem push_mMax : (c.push scan).mMax = c.mMax := by
  unfold GetScanResultsCommand.push
  split_ifs
  · rfl
  · rfl

theorem foldl_push_mMax : (scans.foldl push c).mMax = c.mMax := by
  induction scans generalizing c with
  | nil => rfl
  | cons scan scans ih => rw [List.foldl_cons, ih, push_mMax]

theorem GetScanResultsCommand.Stored.foldl_push (hstored : c.Stored before rs) (hroom : c.mMax ≤ before.length)
    (hcut : ∀ scan ∈ scans, scan.1.num ≤ hdr.MAX_AP_CACHE_PER_SCAN) :
    (scans.foldl GetScanResultsCommand.push c).Stored before
      (rs ++ scans.map fun scan => scan.1.record scan.2) := by
  induction scans generalizing c rs with
  | nil => simpa using hstored
  | cons scan scans ih =>
    obtain ⟨hfirst, hrest⟩ := List.forall_mem_cons.mp hcut
    have hnext := ih (hstored.push hroom hfirst) (by rwa [push_mMax]) hrest
    rwa [List.append_assoc] at hnext

theorem ScanGroup.cut_num (g : ScanGroup) (it2 : Place) : (g.cut hdr it2).num =
    min (min g.num (it2.nla_len / hdr.sizeof_wifi_scan_result)) hdr.MAX_AP_CACHE_PER_SCAN := rfl

theorem ScanGroup.cut_num_le (g : ScanGroup) (it2 : Place) : (g.cut hdr it2).num ≤ g.num := by
  rw [ScanGroup.cut_num]
  omega

theorem ScanGroup.cut_eq (g : ScanGroup) (it2 : Place) : g.cut hdr it2 = g.counting (g.cut hdr it2).num := rfl

/-- A count that was cut no further than this attribute cuts it does not matter. -/
theorem ScanGroup.cut_counting (hle : left ≤ g.num) (hkept : (g.cut hdr it2).num ≤ left) :
    (g.counting left).cut hdr it2 = g.cut hdr it2 := by
  have hnum : ((g.counting left).cut hdr it2).num = (g.cut hdr it2).num := by
    have hleft : (g.counting left).num = left := rfl
    rw [ScanGroup.cut_num] at hkept ⊢
    rw [ScanGroup.cut_num, hleft]
    omega
  rw [ScanGroup.cut_eq, hnum]
  rfl

theorem ScanGroup.read_num_of_ne (hnum : it2.nla_type ≠ GSCAN_ATTRIBUTE_NUM_OF_RESULTS) :
    (g.read it2).num = g.num := by
  unfold ScanGroup.read
  split_ifs
  all_goals rfl

/-- Scan results are no attribute that is read. -/
theorem ScanGroup.read_scan_results (hscan : it2.nla_type = GSCAN_ATTRIBUTE_SCAN_RESULTS) :
    g.read it2 = g := by
  unfold ScanGroup.read
  rw [hscan]
  rfl

/-- Reading replaces the count, or leaves it. -/
theorem ScanGroup.read_counting (g : ScanGroup) (left : Int) (it2 : Place) :
    (g.counting left).read it2 = (g.read it2).counting
      (if it2.nla_type = GSCAN_ATTRIBUTE_NUM_OF_RESULTS then (g.read it2).num else left) := by
  by_cases hnum : it2.nla_type = GSCAN_ATTRIBUTE_NUM_OF_RESULTS
  · rw [if_pos hnum]
    unfold ScanGroup.read
    rw [hnum]
    rfl
  · rw [if_neg hnum]
    unfold ScanGroup.read
    rw [if_neg hnum, if_neg hnum]
    split_ifs
    all_goals rfl

/-- What a group has left of its count is at most the count, and nothing of nothing. -/
structure CountLeft (g : ScanGroup) (left : Int) : Prop where
  le : left ≤ g.num
  zero : g.num = 0 → left = 0

theorem CountLeft.read (hleft : CountLeft g left) (it2 : Place) : CountLeft (g.read it2)
    (if it2.nla_type = GSCAN_ATTRIBUTE_NUM_OF_RESULTS then (g.read it2).num else left) := by
  split_ifs with hnum
  · exact ⟨Int.le_refl _, id⟩
  · have hsame : (g.read it2).num = g.num := ScanGroup.read_num_of_ne hnum
    exact ⟨by rw [hsame]; exact hleft.le, by rw [hsame]; exact hleft.zero⟩

theorem CountLeft.of_ne (hnum : g.num ≠ 0) (hle : left ≤ g.num) : CountLeft g left :=
  ⟨hle, fun hzero => absurd hzero hnum⟩

theorem scansFrom_of_scan (hscan : it2.nla_type = GSCAN_ATTRIBUTE_SCAN_RESULTS ∧ g.num ≠ 0) :
    scansFrom hdr (it2 :: group) g = (g.cut hdr it2, it2) :: scansFrom hdr group g := if_pos hscan

theorem scansFrom_of_not_scan (hscan : ¬ (it2.nla_type = GSCAN_ATTRIBUTE_SCAN_RESULTS ∧ g.num ≠ 0)) :
    scansFrom hdr (it2 :: group) g = scansFrom hdr group (g.read it2) := if_neg hscan

/-- A scan is stored where something is left of the count. -/
theorem storedFrom_of_left (hscan : it2.nla_type = GSCAN_ATTRIBUTE_SCAN_RESULTS) (hleft : left ≠ 0) :
    storedFrom hdr (it2 :: group) (g.counting left) = ((g.counting left).cut hdr it2, it2) ::
      storedFrom hdr group (g.counting ((g.counting left).cut hdr it2).num) := if_pos ⟨hscan, hleft⟩

/-- A scan is skipped where nothing is left. -/
theorem storedFrom_of_none_left (hscan : it2.nla_type = GSCAN_ATTRIBUTE_SCAN_RESULTS) :
    storedFrom hdr (it2 :: group) (g.counting 0) = storedFrom hdr group (g.counting 0) := by
  have hnot : ¬ (it2.nla_type = GSCAN_ATTRIBUTE_SCAN_RESULTS ∧ (g.counting 0).num ≠ 0) := fun h => h.2 rfl
  rw [storedFrom, if_neg hnot, ScanGroup.read_scan_results hscan]

theorem storedFrom_of_not_scan (hleft : CountLeft g left)
    (hscan : ¬ (it2.nla_type = GSCAN_ATTRIBUTE_SCAN_RESULTS ∧ g.num ≠ 0)) :
    storedFrom hdr (it2 :: group) (g.counting left) = storedFrom hdr group ((g.read it2).counting
      (if it2.nla_type = GSCAN_ATTRIBUTE_NUM_OF_RESULTS then (g.read it2).num else left)) := by
  have hnot : ¬ (it2.nla_type = GSCAN_ATTRIBUTE_SCAN_RESULTS ∧ (g.counting left).num ≠ 0) := by
    intro ⟨htype, hne⟩
    exact hne (hleft.zero (not_not.mp fun hnum => hscan ⟨htype, hnum⟩))
  rw [storedFrom, if_neg hnot, ScanGroup.read_counting]

/-- No more scans are stored than carried. -/
theorem storedFrom_length_le (hleft : CountLeft g left) :
    (storedFrom hdr group (g.counting left)).length ≤ (scansFrom hdr group g).length := by
  induction group generalizing g left with
  | nil => exact Nat.le_refl _
  | cons it2 group ih =>
    by_cases hscan : it2.nla_type = GSCAN_ATTRIBUTE_SCAN_RESULTS ∧ g.num ≠ 0
    · rw [scansFrom_of_scan hscan, List.length_cons]
      by_cases hnone : left = 0
      · rw [hnone] at hleft ⊢
        rw [storedFrom_of_none_left hscan.1]
        exact Nat.le_succ_of_le (ih hleft)
      · rw [storedFrom_of_left hscan.1 hnone, List.length_cons]
        apply Nat.succ_le_succ
        exact ih (CountLeft.of_ne hscan.2 (Int.le_trans (ScanGroup.cut_num_le _ _) hleft.le))
    · rw [scansFrom_of_not_scan hscan, storedFrom_of_not_scan hleft hscan]
      exact ih (hleft.read it2)

/-- Where the count is kept, what is stored is what is carried. -/
theorem CountKept.storedFrom_eq (hleft : CountLeft g left) (hkept : CountKept hdr group g left) :
    storedFrom hdr group (g.counting left) = scansFrom hdr group g := by
  induction group generalizing g left with
  | nil => rfl
  | cons it2 group ih =>
    rw [CountKept] at hkept
    by_cases hscan : it2.nla_type = GSCAN_ATTRIBUTE_SCAN_RESULTS ∧ g.num ≠ 0
    · rw [if_pos hscan] at hkept
      obtain ⟨hne, hle, hrest⟩ := hkept
      rw [scansFrom_of_scan hscan, storedFrom_of_left hscan.1 hne, ScanGroup.cut_counting hleft.le hle,
        ih (CountLeft.of_ne hscan.2 (ScanGroup.cut_num_le g it2)) hrest]
    · rw [if_neg hscan] at hkept
      rw [scansFrom_of_not_scan hscan, storedFrom_of_not_scan hleft hscan, ih (hleft.read it2) hkept]

/-- Where it is not, another number of scans is stored or one with another count. -/
theorem countKept_of_nums (hleft : CountLeft g left)
    (hnums : (storedFrom hdr group (g.counting left)).map (fun scan => scan.1.num) =
      (scansFrom hdr group g).map fun scan => scan.1.num) : CountKept hdr group g left := by
  induction group generalizing g left with
  | nil => trivial
  | cons it2 group ih =>
    rw [CountKept]
    by_cases hscan : it2.nla_type = GSCAN_ATTRIBUTE_SCAN_RESULTS ∧ g.num ≠ 0
    · rw [if_pos hscan]
      rw [scansFrom_of_scan hscan] at hnums
      by_cases hnone : left = 0
      · rw [hnone, storedFrom_of_none_left hscan.1] at hnums
        have hle : (storedFrom hdr group (g.counting 0)).length ≤ (scansFrom hdr group g).length :=
          storedFrom_length_le (hnone ▸ hleft)
        have hlength := congrArg List.length hnums
        simp only [List.length_map, List.length_cons] at hlength
        omega
      · rw [storedFrom_of_left hscan.1 hnone, List.map_cons, List.map_cons] at hnums
        obtain ⟨hhead, htail⟩ := List.cons.inj hnums
        have hcut : ((g.counting left).cut hdr it2).num ≤ left := ScanGroup.cut_num_le _ _
        dsimp only at hhead
        rw [hhead] at hcut htail
        exact ⟨hnone, hcut, ih (CountLeft.of_ne hscan.2 (ScanGroup.cut_num_le g it2)) htail⟩
    · rw [if_neg hscan]
      rw [scansFrom_of_not_scan hscan, storedFrom_of_not_scan hleft hscan] at hnums
      exact ih (hleft.read it2) hnums

/-- The first scan of a group is stored. -/
theorem storedFrom_eq_nil_iff : storedFrom hdr group g = [] ↔ scansFrom hdr group g = [] := by
  induction group generalizing g with
  | nil => exact Iff.rfl
  | cons it2 group ih =>
    rw [storedFrom, scansFrom]
    split_ifs
    · simp only
    · exact ih

theorem cut_of_mem_storedFrom (hmem : scan ∈ storedFrom hdr group g) :
    scan.1.num ≤ hdr.MAX_AP_CACHE_PER_SCAN := by
  induction group generalizing g with
  | nil => cases hmem
  | cons it2 group ih =>
    rw [storedFrom] at hmem
    split_ifs at hmem
    · obtain rfl | hlater := List.mem_cons.mp hmem
      · dsimp only
        rw [ScanGroup.cut_num]
        omega
      · exact ih hlater
    · exact ih hmem

/-- A group finds its count kept, if an attribute is one. -/
def KeepsCount (hdr : GscanHeader) (it : Place) : Prop := IsGroup it → CountKept hdr (places it) {} 0

theorem countLeft_start : CountLeft {} 0 := ⟨Int.le_refl 0, fun _ => rfl⟩

theorem KeepsCount.storedIn_eq (hkept : KeepsCount hdr it) : storedIn hdr it = scansIn hdr it := by
  unfold storedIn scansIn
  split_ifs with hgroup
  · exact (hkept hgroup).storedFrom_eq countLeft_start
  · rfl

theorem storedIn_length_le : (storedIn hdr it).length ≤ (scansIn hdr it).length := by
  unfold storedIn scansIn
  split_ifs
  · exact storedFrom_length_le countLeft_start
  · exact Nat.le_refl _

theorem keepsCount_of_nums (hnums : (storedIn hdr it).map (fun scan => scan.1.num) =
    (scansIn hdr it).map fun scan => scan.1.num) : KeepsCount hdr it := by
  intro hgroup
  rw [storedIn, scansIn, if_pos hgroup, if_pos hgroup] at hnums
  exact countKept_of_nums countLeft_start hnums

theorem storedIn_eq_nil_iff : storedIn hdr it = [] ↔ scansIn hdr it = [] := by
  unfold storedIn scansIn
  split_ifs
  · exact storedFrom_eq_nil_iff
  · exact Iff.rfl

theorem cut_of_mem_storedIn (hmem : scan ∈ storedIn hdr it) : scan.1.num ≤ hdr.MAX_AP_CACHE_PER_SCAN := by
  unfold storedIn at hmem
  split_ifs at hmem
  · exact cut_of_mem_storedFrom hmem
  · cases hmem

/-- The records that are stored of attributes while there is room. -/
def storedRecords (hdr : GscanHeader) (as : List Place) : List ScanRecord :=
  (as.flatMap (storedIn hdr)).map fun scan => scan.1.record scan.2

theorem storedRecords_append (as bs : List Place) :
    storedRecords hdr (as ++ bs) = storedRecords hdr as ++ storedRecords hdr bs := by
  rw [storedRecords, List.flatMap_append, List.map_append, storedRecords, storedRecords]

theorem storedRecords_cons (it : Place) (as : List Place) : storedRecords hdr (it :: as) =
    (storedIn hdr it).map (fun scan => scan.1.record scan.2) ++ storedRecords hdr as := by
  rw [storedRecords, List.flatMap_cons, List.map_append, storedRecords]

theorem carried_cons (it : Place) (as : List Place) : carried hdr (it :: as) =
    (scansIn hdr it).map (fun scan => scan.1.record scan.2) ++ carried hdr as := by
  rw [carried, List.flatMap_cons, List.map_append, carried]

theorem storedRecords_length_le : (storedRecords hdr as).length ≤ (carried hdr as).length := by
  induction as with
  | nil => exact Nat.le_refl _
  | cons it as ih =>
    have hfirst : (storedIn hdr it).length ≤ (scansIn hdr it).length := storedIn_length_le
    simp only [storedRecords_cons, carried_cons, List.length_append, List.length_map]
    omega

theorem storedRecords_eq_nil_iff : storedRecords hdr as = [] ↔ carried hdr as = [] := by
  simp only [storedRecords, carried, List.map_eq_nil_iff, List.flatMap_eq_nil_iff, storedIn_eq_nil_iff]

theorem storedRecords_eq (hkept : ∀ it ∈ as, KeepsCount hdr it) : storedRecords hdr as = carried hdr as := by
  induction as with
  | nil => rfl
  | cons it as ih =>
    obtain ⟨hfirst, hrest⟩ := List.forall_mem_cons.mp hkept
    rw [storedRecords_cons, carried_cons, hfirst.storedIn_eq, ih hrest]

/-- If what is stored has the counts of what is carried, all groups find their counts kept. -/
theorem keepsCount_of_records (hnums : (storedRecords hdr as).map ScanRecord.num_results =
    (carried hdr as).map ScanRecord.num_results) : ∀ it ∈ as, KeepsCount hdr it := by
  induction as with
  | nil =>
    intro it hit
    cases hit
  | cons it as ih =>
    have hfirst : (storedIn hdr it).length ≤ (scansIn hdr it).length := storedIn_length_le
    have hrest : (storedRecords hdr as).length ≤ (carried hdr as).length := storedRecords_length_le
    rw [storedRecords_cons, carried_cons, List.map_append, List.map_append, List.map_map, List.map_map]
      at hnums
    have hlength := congrArg List.length hnums
    simp only [List.length_append, List.length_map] at hlength
    obtain ⟨hhead, htail⟩ := List.append_inj hnums (by simp only [List.length_map]; omega)
    exact List.forall_mem_cons.mpr ⟨keepsCount_of_nums hhead, ih htail⟩

end

end panelli.wifi_hal
