import Panelli.Access
import Panelli.Filling
import Panelli.Netlink.Message
import Panelli.WifiHal.CachedResults

open panelli.netlink panelli.access panelli.filling

namespace panelli.wifi_hal

def WIFI_ATTRIBUTE_NUM_FEATURE_SET : UInt16 := 4
def WIFI_ATTRIBUTE_FEATURE_SET : UInt16 := 5

/-- What a command asks for. -/
def FEATURE_SET : Int := 0
def FEATURE_SET_MATRIX : Int := 1

def SIZEOF_FEATURE_SET : Nat := 4

/-- A write to an entry of the caller's array. -/
structure MatrixWrite where
  index : Nat
  value : UInt32
deriving DecidableEq

/-- A command, with what the caller's pointers point to unless they are null: a set,
the writes to an array of sets, and the size of it. -/
structure GetFeatureSetCommand where
  feature_type : Int
  fset : Option (List UInt8)
  feature_matrix : Option (List MatrixWrite)
  fm_size : Option Int
  set_size_max : Int

/-- What the loop over the attributes keeps. -/
structure FeatureLoop where
  num_features_set : Int
  i : Nat
  fm_size : Int
  feature_matrix : List MatrixWrite

/-- The number of sets, limited to those the caller has room for. -/
def limitedSets (set_size_max num_features_set : Int) : Int :=
  if set_size_max ≠ 0 ∧ set_size_max < num_features_set then set_size_max else num_features_set

/-- The body of the loop over the attributes. -/
def FeatureLoop.step (set_size_max : Int) (s : FeatureLoop) (it : Place) : FeatureLoop :=
  if it.nla_type = WIFI_ATTRIBUTE_NUM_FEATURE_SET then
    let num_features_set := limitedSets set_size_max it.nla_get_u32.toInt32.toInt
    { s with num_features_set := num_features_set, fm_size := num_features_set }
  else if it.nla_type = WIFI_ATTRIBUTE_FEATURE_SET ∧ (s.i : Int) < s.num_features_set then
    { s with feature_matrix := s.feature_matrix ++ [⟨s.i, it.nla_get_u32⟩], i := s.i + 1 }
  else s

def GetFeatureSetCommand.handleResponse (c : GetFeatureSetCommand) (reply : Reply) :
    GetFeatureSetCommand × NlAction :=
  if reply.cmd ≠ NL80211_CMD_VENDOR then (c, .NL_SKIP)
  else
    match reply.vendor_data with
    | none => (c, .NL_SKIP)
    | some vendor_data =>
      if vendor_data.nla_len = 0 then (c, .NL_SKIP)
      else if c.feature_type = FEATURE_SET then
        match c.fset with
        | none => (c, .NL_SKIP)
        | some fset =>
          let data := vendor_data.nla_data.take (min vendor_data.nla_len.toNat SIZEOF_FEATURE_SET)
          ({ c with fset := some (overwrite fset data) }, .NL_OK)
      else
        match c.feature_matrix, c.fm_size with
        | some feature_matrix, some fm_size =>
          let s := (places vendor_data).foldl (FeatureLoop.step c.set_size_max) ⟨0, 0, fm_size, feature_matrix⟩
          ({ c with feature_matrix := some s.feature_matrix, fm_size := some s.fm_size }, .NL_OK)
        | _, _ => (c, .NL_SKIP)

/-- The command of `wifi_get_concurrency_matrix`, for an array that was not written yet
and a variable for its size. -/
def concurrencyMatrixCommand (set_size_max set_size : Int) : GetFeatureSetCommand where
  feature_type := FEATURE_SET_MATRIX
  fset := none
  feature_matrix := some []
  fm_size := some set_size
  set_size_max := set_size_max

/-- The attributes of a reply that is looked into. -/
def replyAttributes (reply : Reply) : List Place :=
  if reply.cmd ≠ NL80211_CMD_VENDOR then []
  else reply.vendor_data.elim [] fun vendor_data => if vendor_data.nla_len = 0 then [] else places vendor_data

/-- The sets in a reply, in order. -/
def sentSets (attributes : List Place) : List UInt32 :=
  (attributes.filter fun it => it.nla_type = WIFI_ATTRIBUTE_FEATURE_SET).map Place.nla_get_u32

/-- The caller's array was written below its size only, with sets of the reply in
order, and the size that is reported is the number of these. -/
structure MatrixReported (set_size_max : Int) (reply : Reply) (c : GetFeatureSetCommand) : Prop where
  below : ∀ writes ∈ c.feature_matrix, ∀ w ∈ writes, (w.index : Int) < set_size_max
  filled : ∀ writes ∈ c.feature_matrix, writes.map MatrixWrite.index = List.range writes.length ∧
    (writes.map MatrixWrite.value).Sublist (sentSets (replyAttributes reply))
  size : ∀ writes ∈ c.feature_matrix, c.fm_size = some (writes.length : Int)

/-- The number of sets that is announced last, if one is. -/
def announcedSets (set_size_max : Int) (attributes : List Place) : Option Int :=
  ((attributes.filter fun it => it.nla_type = WIFI_ATTRIBUTE_NUM_FEATURE_SET).map fun it =>
    limitedSets set_size_max it.nla_get_u32.toInt32.toInt).getLast?

/-- The numbers of sets that are announced when each of the sets comes. -/
def limitsFrom (set_size_max : Int) : Int → List Place → List Int
  | _, [] => []
  | num, it :: rest =>
    if it.nla_type = WIFI_ATTRIBUTE_NUM_FEATURE_SET then
      limitsFrom set_size_max (limitedSets set_size_max it.nla_get_u32.toInt32.toInt) rest
    else if it.nla_type = WIFI_ATTRIBUTE_FEATURE_SET then num :: limitsFrom set_size_max num rest
    else limitsFrom set_size_max num rest

/-- As many sets come as are announced last, and no more; without a limit none come. -/
structure SetsAnnounced (set_size_max set_size : Int) (attributes : List Place) : Prop where
  announced : ∃ n : Nat, (announcedSets set_size_max attributes).getD set_size = n ∧
    CanFill 0 (limitsFrom set_size_max 0 attributes) n ∧ ¬ CanFill 0 (limitsFrom set_size_max 0 attributes) (n + 1)
  limited : set_size_max = 0 → ¬ CanFill 0 (limitsFrom set_size_max 0 attributes) 1

section

variable {set_size_max : Int} {it : Place} {attributes : List Place} {s : FeatureLoop}

theorem limitedSets_le (hmax : set_size_max ≠ 0) (num : Int) : limitedSets set_size_max num ≤ set_size_max := by
  rw [limitedSets]
  split_ifs with hlimited
  · exact Int.le_refl _
  · rw [not_and] at hlimited
    exact Int.not_lt.mp (hlimited hmax)

theorem announcedSets_cons_num (hnum : it.nla_type = WIFI_ATTRIBUTE_NUM_FEATURE_SET) (other : Int) :
    (announcedSets set_size_max (it :: attributes)).getD other =
      (announcedSets set_size_max attributes).getD (limitedSets set_size_max it.nla_get_u32.toInt32.toInt) := by
  rw [announcedSets, List.filter_cons_of_pos (by simpa using hnum), List.map_cons, List.getLast?_cons,
    Option.getD_some, announcedSets]

theorem announcedSets_cons_other (hother : it.nla_type ≠ WIFI_ATTRIBUTE_NUM_FEATURE_SET) :
    announcedSets set_size_max (it :: attributes) = announcedSets set_size_max attributes := by
  rw [announcedSets, List.filter_cons_of_neg (by simpa using hother), announcedSets]

theorem sentSets_cons_set (hset : it.nla_type = WIFI_ATTRIBUTE_FEATURE_SET) :
    sentSets (it :: attributes) = it.nla_get_u32 :: sentSets attributes := by
  rw [sentSets, List.filter_cons_of_pos (by simpa using hset), List.map_cons, sentSets]

theorem sentSets_sublist_cons (it : Place) (attributes : List Place) :
    (sentSets attributes).Sublist (sentSets (it :: attributes)) :=
  ((List.sublist_cons_self it attributes).filter _).map _

/-- What the loop has done when it is through: new writes of sets of the reply at the
next indices, as many as the announced numbers let it fill, and the last of these
numbers in the size. -/
structure LoopDone (set_size_max : Int) (attributes : List Place) (s final : FeatureLoop)
    (writes : List MatrixWrite) : Prop where
  matrix : final.feature_matrix = s.feature_matrix ++ writes
  index : writes.map MatrixWrite.index = List.range' s.i writes.length
  value : (writes.map MatrixWrite.value).Sublist (sentSets attributes)
  count : s.i + writes.length = fillFrom s.i (limitsFrom set_size_max s.num_features_set attributes)
  size : final.fm_size = (announcedSets set_size_max attributes).getD s.fm_size
  below : set_size_max ≠ 0 → s.num_features_set ≤ 0 ∨ s.num_features_set ≤ set_size_max →
    ∀ w ∈ writes, (w.index : Int) < set_size_max

/-- An attribute that the loop skips adds nothing. -/
theorem LoopDone.skip {final : FeatureLoop} {writes : List MatrixWrite}
    (hdone : LoopDone set_size_max attributes s final writes) (hnum : it.nla_type ≠ WIFI_ATTRIBUTE_NUM_FEATURE_SET)
    (hfill : fillFrom s.i (limitsFrom set_size_max s.num_features_set (it :: attributes)) =
      fillFrom s.i (limitsFrom set_size_max s.num_features_set attributes)) :
    LoopDone set_size_max (it :: attributes) s final writes := by
  refine ⟨hdone.matrix, hdone.index, hdone.value.trans (sentSets_sublist_cons it attributes), ?_, ?_, hdone.below⟩
  · rw [hfill]
    exact hdone.count
  · rw [announcedSets_cons_other hnum]
    exact hdone.size

/-- A number that is announced is the limit from there on. -/
theorem LoopDone.announce {final : FeatureLoop} {writes : List MatrixWrite}
    (hnum : it.nla_type = WIFI_ATTRIBUTE_NUM_FEATURE_SET)
    (hdone : LoopDone set_size_max attributes
      { s with
        num_features_set := limitedSets set_size_max it.nla_get_u32.toInt32.toInt
        fm_size := limitedSets set_size_max it.nla_get_u32.toInt32.toInt } final writes) :
    LoopDone set_size_max (it :: attributes) s final writes := by
  refine ⟨hdone.matrix, hdone.index, hdone.value.trans (sentSets_sublist_cons it attributes), ?_, ?_, ?_⟩
  · rw [limitsFrom, if_pos hnum]
    exact hdone.count
  · rw [announcedSets_cons_num hnum]
    exact hdone.size
  · exact fun hmax _ => hdone.below hmax (Or.inr (limitedSets_le hmax _))

/-- A set below the limit is written at the next index. -/
theorem LoopDone.write {final : FeatureLoop} {writes : List MatrixWrite}
    (hnum : it.nla_type ≠ WIFI_ATTRIBUTE_NUM_FEATURE_SET) (hset : it.nla_type = WIFI_ATTRIBUTE_FEATURE_SET)
    (hlt : (s.i : Int) < s.num_features_set)
    (hdone : LoopDone set_size_max attributes
      { s with feature_matrix := s.feature_matrix ++ [⟨s.i, it.nla_get_u32⟩], i := s.i + 1 } final writes) :
    LoopDone set_size_max (it :: attributes) s final (⟨s.i, it.nla_get_u32⟩ :: writes) := by
  refine ⟨?_, ?_, ?_, ?_, ?_, ?_⟩
  · rw [hdone.matrix, List.append_assoc, List.singleton_append]
  · rw [List.map_cons, hdone.index]
    rfl
  · rw [sentSets_cons_set hset, List.map_cons]
    exact hdone.value.cons_cons _
  · have hcount := hdone.count
    dsimp only at hcount
    rw [limitsFrom, if_neg hnum, if_pos hset, fillFrom, if_pos hlt, ← hcount, List.length_cons]
    omega
  · rw [announcedSets_cons_other hnum]
    exact hdone.size
  · intro hmax hle w hw
    obtain rfl | hw := List.mem_cons.mp hw
    · dsimp only
      omega
    · exact hdone.below hmax hle w hw

theorem loopDone (set_size_max : Int) (attributes : List Place) (s : FeatureLoop) :
    ∃ writes, LoopDone set_size_max attributes s (attributes.foldl (FeatureLoop.step set_size_max) s) writes := by
  induction attributes generalizing s with
  | nil => exact ⟨[], by simp, rfl, List.nil_sublist _, rfl, rfl, by simp⟩
  | cons it attributes ih =>
    rw [List.foldl_cons]
    obtain ⟨writes, hdone⟩ := ih (FeatureLoop.step set_size_max s it)
    by_cases hnum : it.nla_type = WIFI_ATTRIBUTE_NUM_FEATURE_SET
    · refine ⟨writes, LoopDone.announce hnum ?_⟩
      rw [FeatureLoop.step, if_pos hnum] at hdone ⊢
      exact hdone
    · by_cases hset : it.nla_type = WIFI_ATTRIBUTE_FEATURE_SET
      · by_cases hlt : (s.i : Int) < s.num_features_set
        · refine ⟨⟨s.i, it.nla_get_u32⟩ :: writes, LoopDone.write hnum hset hlt ?_⟩
          rw [FeatureLoop.step, if_neg hnum, if_pos ⟨hset, hlt⟩] at hdone ⊢
          exact hdone
        · rw [FeatureLoop.step, if_neg hnum, if_neg fun h => hlt h.2] at hdone ⊢
          refine ⟨writes, hdone.skip hnum ?_⟩
          rw [limitsFrom, if_neg hnum, if_pos hset, fillFrom, if_neg hlt]
      · rw [FeatureLoop.step, if_neg hnum, if_neg fun h => hset h.1] at hdone ⊢
        refine ⟨writes, hdone.skip hnum ?_⟩
        rw [limitsFrom, if_neg hnum, if_neg hset]

/-- A reply that is not looked into leaves what the loop over no attributes does. -/
theorem handleResponse_matrix (set_size_max set_size : Int) (reply : Reply) :
    ((concurrencyMatrixCommand set_size_max set_size).handleResponse reply).1 =
      { concurrencyMatrixCommand set_size_max set_size with
        feature_matrix := some ((replyAttributes reply).foldl (FeatureLoop.step set_size_max)
          ⟨0, 0, set_size, []⟩).feature_matrix
        fm_size := some ((replyAttributes reply).foldl (FeatureLoop.step set_size_max)
          ⟨0, 0, set_size, []⟩).fm_size } := by
  obtain ⟨cmd, vendor_data⟩ := reply
  have hmatrix : ¬ (concurrencyMatrixCommand set_size_max set_size).feature_type = FEATURE_SET := by
    exact (by decide : FEATURE_SET_MATRIX ≠ FEATURE_SET)
  by_cases hcmd : cmd = NL80211_CMD_VENDOR
  · simp only [GetFeatureSetCommand.handleResponse, replyAttributes, if_neg (not_not.mpr hcmd)]
    cases vendor_data with
    | none => rfl
    | some vendor_data =>
      simp only [Option.elim_some]
      by_cases hlen : vendor_data.nla_len = 0
      · rw [if_pos hlen, if_pos hlen]
        rfl
      · rw [if_neg hlen, if_neg hlen, if_neg hmatrix]
        rfl
  · simp only [GetFeatureSetCommand.handleResponse, replyAttributes, if_pos hcmd]
    rfl

/-- The number that is filled from zero is this one just if as many sets can fill
the array and no more. -/
theorem announced_iff {limits : List Int} {announced : Int} :
    announced = (fillFrom 0 limits : Int) ↔
      ∃ n : Nat, announced = n ∧ CanFill 0 limits n ∧ ¬ CanFill 0 limits (n + 1) := by
  constructor
  · intro hannounced
    exact ⟨_, hannounced, fillFrom_eq_iff.mp rfl⟩
  · rintro ⟨n, rfl, hfill⟩
    rw [fillFrom_eq_iff.mpr hfill]

/-- No entry is written just if none can be filled. -/
theorem not_canFill_one_iff {limits : List Int} : ¬ CanFill 0 limits 1 ↔ fillFrom 0 limits = 0 := by
  rw [canFill_iff]
  omega

end

/-- The matrix is reported just if as many sets come as are announced last, each
while enough are announced, and no more; and, for an array without entries, none:
nothing compares the number of sets that came with the number that is reported, and
a size of zero is taken for no limit. -/
theorem concurrencyMatrix_reported_iff (set_size_max set_size : Int) (reply : Reply) :
    MatrixReported set_size_max reply ((concurrencyMatrixCommand set_size_max set_size).handleResponse reply).1 ↔
      SetsAnnounced set_size_max set_size (replyAttributes reply) := by
  obtain ⟨writes, hdone⟩ := loopDone set_size_max (replyAttributes reply) ⟨0, 0, set_size, []⟩
  have hmatrix := hdone.matrix
  have hcount := hdone.count
  rw [List.nil_append] at hmatrix
  dsimp only at hcount
  rw [Nat.zero_add] at hcount
  rw [handleResponse_matrix, hmatrix, hdone.size]
  constructor
  · intro hreported
    refine ⟨?_, ?_⟩
    · rw [← announced_iff, ← hcount]
      exact Option.some.inj (hreported.size writes rfl)
    · intro hmax
      rw [not_canFill_one_iff, ← hcount, List.length_eq_zero_iff, List.eq_nil_iff_forall_not_mem]
      intro w hw
      have hbelow := hreported.below writes rfl w hw
      omega
  · rintro ⟨hannounced, hlimited⟩
    rw [← announced_iff, ← hcount] at hannounced
    refine ⟨?_, ?_, ?_⟩
    · intro writes' hwrites'
      obtain rfl := Option.some.inj hwrites'
      by_cases hmax : set_size_max = 0
      · have hnone := hlimited hmax
        rw [not_canFill_one_iff, ← hcount, List.length_eq_zero_iff] at hnone
        rw [hnone]
        simp
      · exact hdone.below hmax (Or.inl (Int.le_refl 0))
    · intro writes' hwrites'
      obtain rfl := Option.some.inj hwrites'
      exact ⟨by rw [hdone.index, List.range_eq_range'], hdone.value⟩
    · intro writes' hwrites'
      obtain rfl := Option.some.inj hwrites'
      exact congrArg some hannounced

/-- A reply of the kernel that announces two sets and has one. -/
def twoAnnounced : Reply where
  cmd := NL80211_CMD_VENDOR
  vendor_data := some [20, 0, 197, 0, 8, 0, 4, 0, 2, 0, 0, 0, 8, 0, 5, 0, 1, 0, 0, 0]

/-- The caller is told of two sets, the second of which was not filled. -/
theorem concurrencyMatrix_reports_unfilled :
    ¬ MatrixReported 8 twoAnnounced ((concurrencyMatrixCommand 8 0).handleResponse twoAnnounced).1 := by
  intro hreported
  have hmatrix : ((concurrencyMatrixCommand 8 0).handleResponse twoAnnounced).1.feature_matrix = some [⟨0, 1⟩] := by
    decide +kernel
  have hfm_size : ((concurrencyMatrixCommand 8 0).handleResponse twoAnnounced).1.fm_size = some 2 := by
    decide +kernel
  have hsize := hreported.size _ hmatrix
  rw [hfm_size] at hsize
  cases hsize

end panelli.wifi_hal
