import Panelli.WifiHal.Retrieval

open panelli.netlink

namespace panelli.wifi_hal

open GetScanResultsCommand

section

variable {hdr : GscanHeader} {c : GetScanResultsCommand hdr} {before : List (CachedScanResults hdr)}
  {replies : Nat → List Reply} {kernel : Nat → Exchange} {mIface : Int32} {i rounds target : Nat}

theorem attributesUpTo_succ (replies : Nat → List Reply) (i : Nat) : attributesUpTo replies (i + 1) =
    attributesUpTo replies i ++ (replies i).flatMap Reply.attributes := by
  simp only [attributesUpTo, List.range_succ, List.flatMap_append, List.flatMap_singleton]

/-- The command at the start of a round: it stored what came so far, and each
reply asked for more. -/
structure AtRound (replies : Nat → List Reply) (before : List (CachedScanResults hdr)) (i : Nat)
    (c : GetScanResultsCommand hdr) : Prop where
  stored : c.Stored before (storedRecords hdr (attributesUpTo replies i))
  completed : c.mCompleted = 0
  asked : ∀ j < i, AskForMore hdr ((replies j).flatMap Reply.attributes)

/-- How a successful request ends. -/
structure Finished (replies : Nat → List Reply) (before : List (CachedScanResults hdr)) (mMax : Nat)
    (e : Executed hdr) : Prop where
  stored : e.command.Stored before (storedRecords hdr (attributesUpTo replies e.sent))
  mMax : e.command.mMax = mMax
  mNum : e.mNum = some e.command.mRetrieved
  asked : ∀ j, j + 1 < e.sent → AskForMore hdr ((replies j).flatMap Reply.attributes)

theorem AtRound.finished (hround : AtRound replies before i c) :
    Finished replies before c.mMax ⟨WIFI_SUCCESS, c, some c.mRetrieved, i⟩ :=
  ⟨hround.stored, rfl, rfl, fun j hj => hround.asked j (by simp only at hj; omega)⟩

theorem foldl_handleResponse_mMax (received : List Reply) :
    (received.foldl handleResponse c).mMax = c.mMax := by
  rw [foldl_handleResponse, foldl_handleAttr]
  exact foldl_push_mMax

/-- The replies to a request store their records behind those before. -/
theorem AtRound.handle (hround : AtRound replies before i c) (hroom : c.mMax ≤ before.length) :
    ((replies i).foldl handleResponse c).Stored before (storedRecords hdr (attributesUpTo replies (i + 1))) := by
  rw [foldl_handleResponse, foldl_handleAttr, attributesUpTo_succ, storedRecords_append]
  have hcut : ∀ scan ∈ ((replies i).flatMap Reply.attributes).flatMap (storedIn hdr),
      scan.1.num ≤ hdr.MAX_AP_CACHE_PER_SCAN := by
    intro scan hscan
    obtain ⟨it, _, hmem⟩ := List.mem_flatMap.mp hscan
    exact cut_of_mem_storedIn hmem
  have hpushed := hround.stored.foldl_push hroom hcut
  exact ⟨hpushed.records, hpushed.retrieved⟩

theorem AtRound.handle_completed (hround : AtRound replies before i c) :
    ((replies i).foldl handleResponse c).mCompleted =
      ((replies i).flatMap Reply.attributes).foldl flagAfter 0 := by
  rw [foldl_handleResponse, foldl_handleAttr, hround.completed]
  rfl

/-- If a record was added and the flag is not set, the replies ask for more. -/
theorem AtRound.next (hround : AtRound replies before i c) (hroom : c.mMax ≤ before.length)
    (hmore : ((replies i).foldl handleResponse c).mRetrieved ≠ c.mRetrieved)
    (hflag : ((replies i).foldl handleResponse c).mCompleted = 0) :
    AtRound replies before (i + 1) ((replies i).foldl handleResponse c) := by
  have hstored := hround.handle hroom
  refine ⟨hstored, hflag, fun j hj => ?_⟩
  obtain hlt | rfl := Nat.lt_succ_iff_lt_or_eq.mp hj
  · exact hround.asked j hlt
  · refine ⟨fun hnone => hmore ?_, hround.handle_completed ▸ hflag⟩
    rw [hstored.retrieved, hround.stored.retrieved, foldl_handleResponse_mMax, attributesUpTo_succ,
      storedRecords_append, storedRecords_eq_nil_iff.mpr hnone, List.append_nil]

/-- The message for a request with the command's state can be assembled. -/
abbrev Assembled (mIface : Int32) (kernel : Nat → Exchange) (i : Nat) (c : GetScanResultsCommand hdr) : Prop :=
  ((kernel i).nlmsg_alloc.bind (createRequest mIface (c.mMax - c.mRetrieved) c.mFlush)).isSome = true

theorem executeFrom_of_full (hfull : ¬ c.mRetrieved < c.mMax) : executeFrom mIface kernel (rounds + 1) i c =
    ⟨WIFI_SUCCESS, c, some c.mRetrieved, i⟩ := if_neg hfull

/-- A round whose request succeeds is the last one, or the next one follows. -/
theorem executeFrom_of_sent (hreplies : (kernel i).replies = replies i) (hless : c.mRetrieved < c.mMax)
    (hassembled : Assembled mIface kernel i c) (herr : (kernel i).err = WIFI_SUCCESS) :
    executeFrom mIface kernel (rounds + 1) i c =
      if ((replies i).foldl handleResponse c).mRetrieved = c.mRetrieved ∨
          ((replies i).foldl handleResponse c).mCompleted ≠ 0 then
        ⟨WIFI_SUCCESS, (replies i).foldl handleResponse c,
          some ((replies i).foldl handleResponse c).mRetrieved, i + 1⟩
      else executeFrom mIface kernel rounds (i + 1) ((replies i).foldl handleResponse c) := by
  rw [executeFrom, if_pos hless, if_pos hassembled, ← hreplies]
  exact if_neg (not_not.mpr herr)

/-- With room left, only a round whose request succeeds leads to success. -/
theorem sent_of_success (hless : c.mRetrieved < c.mMax)
    (hsuccess : (executeFrom mIface kernel (rounds + 1) i c).result = WIFI_SUCCESS) :
    Assembled mIface kernel i c ∧ (kernel i).err = WIFI_SUCCESS := by
  rw [executeFrom, if_pos hless] at hsuccess
  by_cases hassembled : Assembled mIface kernel i c
  · refine ⟨hassembled, ?_⟩
    by_contra herr
    rw [if_pos hassembled] at hsuccess
    dsimp only at hsuccess
    rw [if_pos herr] at hsuccess
    exact herr hsuccess
  · rw [if_neg hassembled] at hsuccess
    cases hsuccess

/-- A successful request finished after some round. -/
theorem executeFrom_finished (hreplies : ∀ i, (kernel i).replies = replies i)
    (hround : AtRound replies before i c) (hroom : c.mMax ≤ before.length)
    (hsuccess : (executeFrom mIface kernel rounds i c).result = WIFI_SUCCESS) :
    Finished replies before c.mMax (executeFrom mIface kernel rounds i c) ∧
      (executeFrom mIface kernel rounds i c).sent ≤ i + rounds := by
  induction rounds generalizing i c with
  | zero => exact ⟨hround.finished, Nat.le_refl _⟩
  | succ rounds ih =>
    by_cases hless : c.mRetrieved < c.mMax
    · obtain ⟨hassembled, herr⟩ := sent_of_success hless hsuccess
      rw [executeFrom_of_sent (hreplies i) hless hassembled herr] at hsuccess ⊢
      split_ifs at hsuccess ⊢ with hstop
      · refine ⟨⟨hround.handle hroom, foldl_handleResponse_mMax _, rfl, fun j hj => ?_⟩, ?_⟩
        · exact hround.asked j (Nat.lt_of_succ_lt_succ hj)
        · dsimp only
          omega
      · obtain ⟨hmore, hflag⟩ := not_or.mp hstop
        have hmax : ((replies i).foldl handleResponse c).mMax = c.mMax := foldl_handleResponse_mMax _
        have hnext := hround.next hroom hmore (not_not.mp hflag)
        obtain ⟨hfinished, hle⟩ := ih hnext (hmax ▸ hroom) hsuccess
        rw [hmax] at hfinished
        exact ⟨hfinished, by omega⟩
    · rw [executeFrom_of_full hless]
      exact ⟨hround.finished, by dsimp only; omega⟩

theorem attributesUpTo_prefix {j : Nat} (hle : i ≤ j) : attributesUpTo replies i <+: attributesUpTo replies j := by
  obtain ⟨more, rfl⟩ := Nat.exists_eq_add_of_le hle
  clear hle
  induction more with
  | zero => exact List.prefix_rfl
  | succ more ih =>
    rw [← Nat.add_assoc, attributesUpTo_succ]
    exact ih.trans (List.prefix_append _ _)

theorem storedRecords_upTo_mono {j : Nat} (hle : i ≤ j) :
    (storedRecords hdr (attributesUpTo replies i)).length ≤
      (storedRecords hdr (attributesUpTo replies j)).length := by
  obtain ⟨rest, heq⟩ := attributesUpTo_prefix hle
  rw [← heq, storedRecords_append, List.length_append]
  omega

theorem carried_upTo_mono {j : Nat} (hle : i ≤ j) : (carried hdr (attributesUpTo replies i)).length ≤
    (carried hdr (attributesUpTo replies j)).length := by
  obtain ⟨rest, heq⟩ := attributesUpTo_prefix hle
  rw [← heq, carried, carried, List.flatMap_append, List.map_append, List.length_append]
  omega

/-- Below the limit, replies that ask for more do not end the request. -/
theorem AtRound.not_stop (hround : AtRound replies before i c) (hroom : c.mMax ≤ before.length)
    (hasks : AskForMore hdr ((replies i).flatMap Reply.attributes))
    (hlimit : (storedRecords hdr (attributesUpTo replies (i + 1))).length < c.mMax) :
    ¬ (((replies i).foldl handleResponse c).mRetrieved = c.mRetrieved ∨
      ((replies i).foldl handleResponse c).mCompleted ≠ 0) := by
  obtain ⟨hcarried, hflag⟩ := hasks
  have hsome : storedRecords hdr ((replies i).flatMap Reply.attributes) ≠ [] :=
    fun hnone => hcarried (storedRecords_eq_nil_iff.mp hnone)
  have hpos := List.length_pos_of_ne_nil hsome
  have hnext := (hround.handle hroom).retrieved
  have hnow := hround.stored.retrieved
  rw [foldl_handleResponse_mMax, List.length_take] at hnext
  rw [List.length_take] at hnow
  rw [attributesUpTo_succ, storedRecords_append, List.length_append] at hnext hlimit
  rw [hround.handle_completed, hflag, not_or]
  exact ⟨by omega, fun hne => hne rfl⟩

/-- Where requests succeed and the limit is not met, a request follows each
reply that asks for more. -/
theorem executeFrom_reaches (hreplies : ∀ i, (kernel i).replies = replies i)
    (hassembled : ∀ (i : Nat) (c : GetScanResultsCommand hdr), Assembled mIface kernel i c)
    (herr : ∀ i, (kernel i).err = WIFI_SUCCESS)
    (hround : AtRound replies before i c) (hroom : c.mMax ≤ before.length)
    (hlimit : (storedRecords hdr (attributesUpTo replies (i + rounds))).length < c.mMax) :
    (executeFrom mIface kernel rounds i c).result = WIFI_SUCCESS ∧
      ∀ n, n ≤ i + rounds → (∀ j, j + 1 < n → AskForMore hdr ((replies j).flatMap Reply.attributes)) →
        n ≤ (executeFrom mIface kernel rounds i c).sent := by
  induction rounds generalizing i c with
  | zero => exact ⟨rfl, fun n hle _ => hle⟩
  | succ rounds ih =>
    have hmono : ∀ j, j ≤ i + (rounds + 1) → (storedRecords hdr (attributesUpTo replies j)).length ≤
        (storedRecords hdr (attributesUpTo replies (i + (rounds + 1)))).length :=
      fun j hle => storedRecords_upTo_mono hle
    have hless : c.mRetrieved < c.mMax := by
      have hnow := hmono i (by omega)
      rw [hround.stored.retrieved, List.length_take]
      omega
    rw [executeFrom_of_sent (hreplies i) hless (hassembled i c) (herr i)]
    split_ifs with hstop
    · refine ⟨rfl, fun n hle hasked => Nat.le_of_not_lt fun hlater => ?_⟩
      have hnext := hmono (i + 1) (by omega)
      exact hround.not_stop hroom (hasked i hlater) (by omega) hstop
    · obtain ⟨hmore, hflag⟩ := not_or.mp hstop
      have hmax : ((replies i).foldl handleResponse c).mMax = c.mMax := foldl_handleResponse_mMax _
      have hnext := hround.next hroom hmore (not_not.mp hflag)
      have hshift : i + (rounds + 1) = i + 1 + rounds := by omega
      rw [hshift] at hlimit ⊢
      rw [← hmax] at hroom hlimit
      exact ih hnext hroom hlimit

theorem atRound_new (replies : Nat → List Reply) (flush : UInt8) (results : List (CachedScanResults hdr))
    (max : Nat) : AtRound replies results 0 (GetScanResultsCommand.new flush results max) := by
  have hnone : storedRecords hdr (attributesUpTo replies 0) = [] := rfl
  refine ⟨⟨?_, ?_⟩, rfl, fun j hj => absurd hj (Nat.not_lt_zero j)⟩
  · rw [hnone, List.take_nil]
    exact ⟨[], rfl, List.Forall₂.nil⟩
  · rw [hnone, List.take_nil]
    rfl

variable {rs rs' : List ScanRecord} {after entries : List (CachedScanResults hdr)}

theorem nums_of_holds (hholds : List.Forall₂ CachedScanResults.Holds entries rs) :
    entries.map CachedScanResults.num_results = rs.map ScanRecord.num_results := by
  induction hholds with
  | nil => rfl
  | cons hfirst hrest ih => rw [List.map_cons, List.map_cons, hfirst.num_results, ih]

/-- A buffer holds as many records with the same counts, whichever it is seen to hold. -/
theorem HoldsRecords.nums_eq (hholds : HoldsRecords before rs after) (hholds' : HoldsRecords before rs' after)
    (hlength : rs.length = rs'.length) : rs.map ScanRecord.num_results = rs'.map ScanRecord.num_results := by
  obtain ⟨entries, rfl, hentries⟩ := hholds
  obtain ⟨entries', heq, hentries'⟩ := hholds'
  have hsame : entries.length = entries'.length := by
    rw [hentries.length_eq, hentries'.length_eq, hlength]
  obtain ⟨rfl, _⟩ := List.append_inj heq hsame
  rw [← nums_of_holds hentries, ← nums_of_holds hentries']

/-- Records that are no more than a limit leave the buffer beyond it as it was. -/
theorem HoldsRecords.drop_eq {max : Nat} (hholds : HoldsRecords before rs after) (hle : rs.length ≤ max) :
    after.drop max = before.drop max := by
  obtain ⟨entries, rfl, hentries⟩ := hholds
  have hlength := hentries.length_eq
  rw [List.drop_append, List.drop_eq_nil_of_le (by omega), List.nil_append, List.drop_drop, hlength]
  congr 1
  omega

theorem mem_attributesUpTo {it : Place} {sent : Nat} : it ∈ attributesUpTo replies sent ↔
    ∃ i < sent, ∃ reply ∈ replies i, it ∈ reply.attributes := by
  simp only [attributesUpTo, List.mem_flatMap, List.mem_range]

theorem needs_createRequest (mIface : Int32) (num : Nat) (flush : UInt8) :
    Needs (createRequest mIface num flush) (8 + (8 + 8) + (NLA_HDRLEN + (8 + 8))) := by
  apply needs_bind (needs_create _ _ _)
  intro _
  apply needs_nested
  apply needs_bind (needs_put_u32 _ _)
  intro _
  exact needs_put_u8 _ _

theorem createRequest_nlmsg_alloc (mIface : Int32) (num : Nat) (flush : UInt8) :
    (createRequest mIface num flush nlmsg_alloc).isSome = true := by
  obtain ⟨r, msg, hsome, _⟩ := needs_createRequest mIface num flush nlmsg_alloc (by decide)
  rw [hsome]
  rfl

/-- A scan with nothing in it. -/
def blankScan (hdr : GscanHeader) : CachedScanResults hdr :=
  ⟨0, 0, 0, 0, Vector.replicate _ ⟨0, [], [], 0, 0, 0, 0, 0, 0, 0⟩⟩

/-- A kernel that lets every request succeed. -/
def willingKernel (replies : Nat → List Reply) : Nat → Exchange :=
  fun i => ⟨some nlmsg_alloc, replies i, WIFI_SUCCESS⟩

/-- If all groups up to the last reply find their counts kept, a request that
finished has retrieved exactly what the replies carry. -/
theorem Finished.exactly {max : Nat} {e : Executed hdr} (hfinished : Finished replies before max e)
    (hsent : e.sent ≤ 10) (hkept : ∀ it ∈ attributesUpTo replies e.sent, KeepsCount hdr it) :
    RetrievedExactly replies before max e := by
  have hrecords := hfinished.stored.records
  have hretrieved := hfinished.stored.retrieved
  rw [storedRecords_eq hkept, hfinished.mMax] at hrecords hretrieved
  refine ⟨?_, hrecords, hrecords.drop_eq (List.length_take_le _ _), hsent, hfinished.asked⟩
  rw [hfinished.mNum, hretrieved]

/-- A request that has retrieved exactly what the replies carry, without meeting
its limit, found all counts kept. -/
theorem Finished.kept {max : Nat} {e : Executed hdr} (hfinished : Finished replies before max e)
    (hexact : RetrievedExactly replies before max e)
    (hlimit : (carried hdr (attributesUpTo replies e.sent)).length ≤ max) :
    ∀ it ∈ attributesUpTo replies e.sent, KeepsCount hdr it := by
  have hrecords := hfinished.stored.records
  have hretrieved := hfinished.stored.retrieved
  have hnum := hexact.num
  have hexactly := hexact.records
  rw [List.take_of_length_le hlimit] at hnum hexactly
  rw [hfinished.mMax, List.take_of_length_le (Nat.le_trans storedRecords_length_le hlimit)]
    at hrecords hretrieved
  rw [hfinished.mNum, hretrieved] at hnum
  exact keepsCount_of_records (hrecords.nums_eq hexactly (Option.some.inj hnum))

/-- The records are retrieved exactly, for every caller and however its requests
go, if and only if no group of the replies that are asked for has its count cut
below what a later attribute of it is to store. -/
theorem retrievesExactly_iff (hdr : GscanHeader) (replies : Nat → List Reply) :
    RetrievesExactly hdr replies ↔ CountsKept hdr replies := by
  constructor
  · intro hexact i hi hasked reply hreply it hit
    -- a caller whose limit is never met sees every record of these replies
    have hlimit : ∀ j ≤ 10, (carried hdr (attributesUpTo replies j)).length <
        (carried hdr (attributesUpTo replies 10)).length + 1 :=
      fun j hj => Nat.lt_succ_of_le (carried_upTo_mono hj)
    generalize (carried hdr (attributesUpTo replies 10)).length + 1 = max at hlimit
    have hroom : max ≤ (List.replicate max (blankScan hdr)).length := Nat.le_of_eq List.length_replicate.symm
    have hround := atRound_new replies 0 (List.replicate max (blankScan hdr)) max
    have hreplies : ∀ i, (willingKernel replies i).replies = replies i := fun _ => rfl
    have hassembled : ∀ (i : Nat) (c : GetScanResultsCommand hdr), Assembled 0 (willingKernel replies) i c :=
      fun _ c => createRequest_nlmsg_alloc 0 (c.mMax - c.mRetrieved) c.mFlush
    have hstored : (storedRecords hdr (attributesUpTo replies (0 + 10))).length < max :=
      Nat.lt_of_le_of_lt storedRecords_length_le (hlimit 10 (Nat.le_refl _))
    obtain ⟨hsuccess, hreached⟩ :=
      executeFrom_reaches hreplies hassembled (fun _ => rfl) hround hroom hstored
    obtain ⟨hfinished, hsent⟩ := executeFrom_finished hreplies hround hroom hsuccess
    have hreach := hreached (i + 1) (by omega) fun j hj => hasked j (by omega)
    have hnum := hexact 0 _ max 0 (willingKernel replies) hroom hreplies hsuccess
    apply hfinished.kept hnum (Nat.le_of_lt (hlimit _ (by omega)))
    exact mem_attributesUpTo.mpr ⟨i, hreach, reply, hreply, hit⟩
  · intro hkept flush results max mIface kernel hroom hreplies hsuccess
    have hround := atRound_new replies flush results max
    obtain ⟨hfinished, hsent⟩ := executeFrom_finished hreplies hround hroom hsuccess
    rw [Nat.zero_add] at hsent
    apply hfinished.exactly hsent
    intro it hit
    obtain ⟨i, hi, reply, hreply, hmem⟩ := mem_attributesUpTo.mp hit
    apply hkept i (Nat.lt_of_lt_of_le hi hsent) _ reply hreply it hmem
    intro j hj
    exact hfinished.asked j (Nat.lt_of_le_of_lt hj hi)

end

/-- The sizes of a header whose scan result is as large as the driver's. -/
def sameSizes : GscanHeader := ⟨SIZEOF_GSCAN_RESULT, 32⟩

/-- A group with a count of one, then an attribute with no result and one with
a result. -/
def groupOfTwo : Attr :=
  ⟨GSCAN_ATTRIBUTE_NUM_OF_RESULTS, encodeAll [u32Attr GSCAN_ATTRIBUTE_NUM_OF_RESULTS 1,
    ⟨GSCAN_ATTRIBUTE_SCAN_RESULTS, []⟩, ⟨GSCAN_ATTRIBUTE_SCAN_RESULTS, List.replicate SIZEOF_GSCAN_RESULT 0⟩]⟩

/-- A reply with that group and the completion flag. -/
def replyOfTwo : Reply where
  cmd := NL80211_CMD_VENDOR
  vendor_data := some (Attr.encode ⟨NL80211_ATTR_VENDOR_DATA,
    Attr.encode ⟨0, encodeAll [groupOfTwo, ⟨GSCAN_ATTRIBUTE_SCAN_RESULTS_COMPLETE, [1]⟩]⟩⟩)

def twoScans : GetScanResultsCommand sameSizes :=
  GetScanResultsCommand.new 0 (List.replicate 2 (blankScan sameSizes)) 2

/-- The first attribute cuts the count to zero, and the second is ignored. -/
theorem execute_drops_scan :
    (twoScans.execute 0 (willingKernel fun _ => [replyOfTwo])).result = WIFI_SUCCESS ∧
      (twoScans.execute 0 (willingKernel fun _ => [replyOfTwo])).mNum = some 1 ∧
      (carried sameSizes (attributesUpTo (fun _ => [replyOfTwo])
        (twoScans.execute 0 (willingKernel fun _ => [replyOfTwo])).sent)).length = 2 ∧
      ¬ RetrievesExactly sameSizes fun _ => [replyOfTwo] := by
  have hresult : (twoScans.execute 0 (willingKernel fun _ => [replyOfTwo])).result = WIFI_SUCCESS := by
    decide +kernel
  have hnum : (twoScans.execute 0 (willingKernel fun _ => [replyOfTwo])).mNum = some 1 := by
    decide +kernel
  have hcarried : (carried sameSizes (attributesUpTo (fun _ => [replyOfTwo])
      (twoScans.execute 0 (willingKernel fun _ => [replyOfTwo])).sent)).length = 2 := by
    decide +kernel
  refine ⟨hresult, hnum, hcarried, fun hexact => ?_⟩
  have hretrieved := hexact 0 (List.replicate 2 (blankScan sameSizes)) 2 0
    (willingKernel fun _ => [replyOfTwo]) (Nat.le_of_eq List.length_replicate.symm) (fun _ => rfl) hresult
  have hexpected := hretrieved.num
  have htwo := Option.some.inj (hnum.symm.trans hexpected)
  rw [List.length_take] at htwo
  simp only [twoScans] at hcarried
  rw [hcarried] at htwo
  cases htwo

end panelli.wifi_hal
