import Panelli.WifiHal.FeatureSets

open panelli.netlink

namespace panelli.wifi_hal

def WIFI_ATTRIBUTE_NUM_CHANNELS : UInt16 := 2
def WIFI_ATTRIBUTE_CHANNEL_LIST : UInt16 := 3

/-- The size of a channel of the framework, which is an `int`. -/
def SIZEOF_WIFI_CHANNEL : Nat := 4

/-- An entry of the caller's array: which channel of which attribute it was copied
from. -/
structure ChannelEntry where
  it : Place
  index : Nat
deriving DecidableEq

/-- A copy of so many bytes of an attribute to the start of the caller's array. -/
structure ChannelCopy where
  it : Place
  size : Nat

/-- What the loop over the attributes keeps: the number of channels, what the caller's
variable for it holds, the caller's array, and the copies so far. -/
structure ChannelLoop where
  num_channels : Int
  mNumOfChannel : Int
  mChannels : List (Option ChannelEntry)
  copies : List ChannelCopy

/-- The bytes of so many channels as a `size_t`, which has so many values. -/
def channelBytes (sizes : Nat) (num_channels : Int) : Nat :=
  ((SIZEOF_WIFI_CHANNEL * num_channels) % sizes).toNat

/-- A copy has the bytes of the entry at an index. -/
def ChannelCopy.covers (copy : ChannelCopy) (j : Nat) : Bool := SIZEOF_WIFI_CHANNEL * (j + 1) ≤ copy.size

/-- The caller's array after a copy. What a copy writes behind it is not part of it. -/
def copyChannels (mChannels : List (Option ChannelEntry)) (copy : ChannelCopy) : List (Option ChannelEntry) :=
  mChannels.mapIdx fun j entry => if copy.covers j then some ⟨copy.it, j⟩ else entry

/-- The body of the loop over the attributes. -/
def ChannelLoop.step (sizes mMaxChannels : Nat) (s : ChannelLoop) (it : Place) : ChannelLoop :=
  if it.nla_type = WIFI_ATTRIBUTE_NUM_CHANNELS then
    let num_channels := min it.nla_get_u32.toInt32.toInt (mMaxChannels : Int)
    { s with num_channels := num_channels, mNumOfChannel := num_channels }
  else if it.nla_type = WIFI_ATTRIBUTE_CHANNEL_LIST ∧ s.num_channels ≠ 0 then
    let copy : ChannelCopy := ⟨it, channelBytes sizes s.num_channels⟩
    { s with mChannels := copyChannels s.mChannels copy, copies := s.copies ++ [copy] }
  else s

/-- A command, whose constructor clears the caller's array, and the copies that were
made for it. -/
structure GetChannelListCommand where
  mMaxChannels : Nat
  mNumOfChannel : Int
  mChannels : List (Option ChannelEntry)
  copies : List ChannelCopy

def GetChannelListCommand.new (max_channels : Nat) (num_channels : Int) : GetChannelListCommand where
  mMaxChannels := max_channels
  mNumOfChannel := num_channels
  mChannels := List.replicate max_channels none
  copies := []

def GetChannelListCommand.handleResponse (sizes : Nat) (c : GetChannelListCommand) (reply : Reply) :
    GetChannelListCommand × NlAction :=
  if reply.cmd ≠ NL80211_CMD_VENDOR then (c, .NL_SKIP)
  else
    match reply.vendor_data with
    | none => (c, .NL_SKIP)
    | some vendor =>
      if vendor.nla_len = 0 then (c, .NL_SKIP)
      else
        let s := (places vendor).foldl (ChannelLoop.step sizes c.mMaxChannels)
          ⟨0, c.mNumOfChannel, c.mChannels, c.copies⟩
        ({ c with mNumOfChannel := s.mNumOfChannel, mChannels := s.mChannels, copies := s.copies }, .NL_OK)

/-- The number of channels is one there can be, copies stay inside of the caller's
array and of the attribute, and as many entries as are reported are the first of one
list of the reply. -/
structure ChannelsReported (reply : Reply) (c : GetChannelListCommand) : Prop where
  reported : 0 ≤ c.mNumOfChannel ∧ c.mNumOfChannel ≤ c.mMaxChannels
  written : ∀ copy ∈ c.copies, copy.size ≤ SIZEOF_WIFI_CHANNEL * c.mMaxChannels
  inside : ∀ copy ∈ c.copies, copy.size ≤ copy.it.nla_len.toNat
  channels : c.mNumOfChannel = 0 ∨ ∃ it ∈ replyAttributes reply, it.nla_type = WIFI_ATTRIBUTE_CHANNEL_LIST ∧
    ∀ j < c.mNumOfChannel.toNat, c.mChannels[j]? = some (some ⟨it, j⟩)

/-- The number of channels that is announced last, if one is. -/
def announcedChannels (max_channels : Nat) (attributes : List Place) : Option Int :=
  ((attributes.filter fun it => it.nla_type = WIFI_ATTRIBUTE_NUM_CHANNELS).map fun it =>
    min it.nla_get_u32.toInt32.toInt (max_channels : Int)).getLast?

/-- The lists of channels, each with the number that is announced when it comes. -/
def announcedLists (max_channels : Nat) : Int → List Place → List (Place × Int)
  | _, [] => []
  | num, it :: rest =>
    if it.nla_type = WIFI_ATTRIBUTE_NUM_CHANNELS then
      announcedLists max_channels (min it.nla_get_u32.toInt32.toInt (max_channels : Int)) rest
    else if it.nla_type = WIFI_ATTRIBUTE_CHANNEL_LIST then (it, num) :: announcedLists max_channels num rest
    else announcedLists max_channels num rest

/-- The number that is announced last is one there can be, each list has the bytes
of the number that is announced for it, and the last that is not announced empty is
announced with as many channels as are announced last. -/
structure ChannelsAnnounced (sizes max_channels : Nat) (num_channels : Int) (attributes : List Place) : Prop where
  count : 0 ≤ (announcedChannels max_channels attributes).getD num_channels ∧
    (announcedChannels max_channels attributes).getD num_channels ≤ max_channels
  lists : ∀ list ∈ announcedLists max_channels 0 attributes,
    channelBytes sizes list.2 ≤ SIZEOF_WIFI_CHANNEL * max_channels ∧
      channelBytes sizes list.2 ≤ list.1.nla_len.toNat
  last : (announcedChannels max_channels attributes).getD num_channels = 0 ∨
    ∃ list ∈ ((announcedLists max_channels 0 attributes).filter fun list =>
        SIZEOF_WIFI_CHANNEL ≤ channelBytes sizes list.2).getLast?,
      SIZEOF_WIFI_CHANNEL * ((announcedChannels max_channels attributes).getD num_channels).toNat ≤
        channelBytes sizes list.2

/-- The copy of a list that is announced with a number of channels. -/
def channelCopy (sizes : Nat) (list : Place × Int) : ChannelCopy := ⟨list.1, channelBytes sizes list.2⟩

/-- The copies of lists that are not announced empty. -/
def channelCopies (sizes : Nat) (lists : List (Place × Int)) : List ChannelCopy :=
  (lists.filter fun list => list.2 ≠ 0).map (channelCopy sizes)

section

variable {sizes max_channels : Nat} {it : Place} {attributes : List Place} {num : Int}
  {copies : List ChannelCopy} {lists : List (Place × Int)} {j : Nat}

theorem announcedChannels_cons_num (hnum : it.nla_type = WIFI_ATTRIBUTE_NUM_CHANNELS) (other : Int) :
    (announcedChannels max_channels (it :: attributes)).getD other =
      (announcedChannels max_channels attributes).getD
        (min it.nla_get_u32.toInt32.toInt (max_channels : Int)) := by
  rw [announcedChannels, List.filter_cons_of_pos (by simpa using hnum), List.map_cons, List.getLast?_cons,
    Option.getD_some, announcedChannels]

theorem announcedChannels_cons_other (hother : it.nla_type ≠ WIFI_ATTRIBUTE_NUM_CHANNELS) :
    announcedChannels max_channels (it :: attributes) = announcedChannels max_channels attributes := by
  rw [announcedChannels, List.filter_cons_of_neg (by simpa using hother), announcedChannels]

theorem channelCopies_cons_of_ne (hne : num ≠ 0) : channelCopies sizes ((it, num) :: lists) =
    ⟨it, channelBytes sizes num⟩ :: channelCopies sizes lists := by
  rw [channelCopies, List.filter_cons_of_pos (by simpa using hne), List.map_cons]
  rfl

theorem channelCopies_cons_zero : channelCopies sizes ((it, 0) :: lists) = channelCopies sizes lists := by
  rw [channelCopies, List.filter_cons_of_neg (by simp), channelCopies]

/-- The loop copies the lists that are announced with channels, and leaves the number
that is announced last. -/
theorem foldl_channelStep (sizes max_channels : Nat) (attributes : List Place) (s : ChannelLoop) :
    (attributes.foldl (ChannelLoop.step sizes max_channels) s).mNumOfChannel =
        (announcedChannels max_channels attributes).getD s.mNumOfChannel ∧
      (attributes.foldl (ChannelLoop.step sizes max_channels) s).copies =
        s.copies ++ channelCopies sizes (announcedLists max_channels s.num_channels attributes) ∧
      (attributes.foldl (ChannelLoop.step sizes max_channels) s).mChannels =
        (channelCopies sizes (announcedLists max_channels s.num_channels attributes)).foldl copyChannels
          s.mChannels := by
  induction attributes generalizing s with
  | nil => exact ⟨rfl, (List.append_nil _).symm, rfl⟩
  | cons it attributes ih =>
    obtain ⟨hsize, hcopies, hchannels⟩ := ih (ChannelLoop.step sizes max_channels s it)
    rw [List.foldl_cons, hsize, hcopies, hchannels, announcedLists]
    by_cases hnum : it.nla_type = WIFI_ATTRIBUTE_NUM_CHANNELS
    · rw [ChannelLoop.step, if_pos hnum, if_pos hnum, announcedChannels_cons_num hnum]
      exact ⟨rfl, rfl, rfl⟩
    · rw [announcedChannels_cons_other hnum, if_neg hnum]
      by_cases hlist : it.nla_type = WIFI_ATTRIBUTE_CHANNEL_LIST
      · rw [if_pos hlist]
        by_cases hzero : s.num_channels = 0
        · rw [ChannelLoop.step, if_neg hnum, if_neg fun h => h.2 hzero, hzero, channelCopies_cons_zero]
          exact ⟨rfl, rfl, rfl⟩
        · rw [ChannelLoop.step, if_neg hnum, if_pos ⟨hlist, hzero⟩, channelCopies_cons_of_ne hzero]
          refine ⟨rfl, ?_, rfl⟩
          rw [List.append_assoc, List.singleton_append]
      · rw [if_neg hlist, ChannelLoop.step, if_neg hnum, if_neg fun h => hlist h.1]
        exact ⟨rfl, rfl, rfl⟩

/-- An entry is from the last copy that covers it. -/
theorem getElem?_foldl_copyChannels (copies : List ChannelCopy) (mChannels : List (Option ChannelEntry)) (j : Nat) :
    (copies.foldl copyChannels mChannels)[j]? = mChannels[j]?.map fun entry =>
      ((copies.filter fun copy => copy.covers j).getLast?.map fun copy => ⟨copy.it, j⟩).or entry := by
  induction copies generalizing mChannels with
  | nil => simp
  | cons copy copies ih =>
    rw [List.foldl_cons, ih, copyChannels, List.getElem?_mapIdx, Option.map_map]
    congr 1
    funext entry
    rw [Function.comp_apply]
    by_cases hcovers : copy.covers j = true
    · rw [if_pos hcovers, List.filter_cons_of_pos (by exact hcovers), List.getLast?_cons]
      cases (copies.filter fun copy => copy.covers j).getLast? with
      | none => rfl
      | some last => rfl
    · rw [if_neg hcovers, List.filter_cons_of_neg (by exact hcovers)]

/-- Lists are announced in the order of their attributes. -/
theorem announcedLists_sublist (max_channels : Nat) (num : Int) (attributes : List Place) :
    ((announcedLists max_channels num attributes).map Prod.fst).Sublist attributes := by
  induction attributes generalizing num with
  | nil => exact List.Sublist.refl _
  | cons it attributes ih =>
    rw [announcedLists]
    split_ifs
    · exact (ih _).cons _
    · exact (ih _).cons_cons _
    · exact (ih _).cons _

theorem announcedLists_nla_type {list : Place × Int} (hlist : list ∈ announcedLists max_channels num attributes) :
    list.1.nla_type = WIFI_ATTRIBUTE_CHANNEL_LIST := by
  induction attributes generalizing num with
  | nil => cases hlist
  | cons it attributes ih =>
    rw [announcedLists] at hlist
    split_ifs at hlist with hnum htype
    · exact ih hlist
    · obtain rfl | hlist := List.mem_cons.mp hlist
      · exact htype
      · exact ih hlist
    · exact ih hlist

theorem channelCopies_it_sublist (sizes : Nat) (lists : List (Place × Int)) :
    ((channelCopies sizes lists).map ChannelCopy.it).Sublist (lists.map Prod.fst) := by
  rw [channelCopies, List.map_map]
  exact List.filter_sublist.map _

theorem channelBytes_zero (sizes : Nat) : channelBytes sizes 0 = 0 := by
  rw [channelBytes, Int.mul_zero, Int.zero_emod]
  rfl

/-- What holds of all copies holds of all lists: those announced empty have no bytes. -/
theorem forall_channelCopies_iff (sizes : Nat) (lists : List (Place × Int)) {P : Place → Nat → Prop}
    (hzero : ∀ it, P it 0) :
    (∀ copy ∈ channelCopies sizes lists, P copy.it copy.size) ↔
      ∀ list ∈ lists, P list.1 (channelBytes sizes list.2) := by
  constructor
  · intro hcopies list hlist
    by_cases hempty : list.2 = 0
    · rw [hempty, channelBytes_zero]
      exact hzero _
    · apply hcopies (channelCopy sizes list)
      exact List.mem_map_of_mem (List.mem_filter.mpr ⟨hlist, by simpa using hempty⟩)
  · intro hlists copy hcopy
    obtain ⟨list, hlist, rfl⟩ := List.mem_map.mp hcopy
    exact hlists list (List.mem_filter.mp hlist).1

theorem channelCopy_covers_zero_iff (sizes : Nat) (list : Place × Int) :
    (channelCopy sizes list).covers 0 = true ↔ SIZEOF_WIFI_CHANNEL ≤ channelBytes sizes list.2 := by
  rw [ChannelCopy.covers, decide_eq_true_eq, Nat.zero_add, Nat.mul_one]
  exact Iff.rfl

/-- The copies with an entry are those of the lists that have the bytes of one. -/
theorem filter_covers_zero (sizes : Nat) (lists : List (Place × Int)) :
    (channelCopies sizes lists).filter (fun copy => copy.covers 0) =
      (lists.filter fun list => SIZEOF_WIFI_CHANNEL ≤ channelBytes sizes list.2).map (channelCopy sizes) := by
  rw [channelCopies, List.filter_map, List.filter_filter]
  congr 1
  apply List.filter_congr
  intro list _
  rw [Bool.eq_iff_iff, Bool.and_eq_true, Function.comp_apply, channelCopy_covers_zero_iff, decide_eq_true_eq,
    decide_eq_true_eq]
  constructor
  · exact fun h => h.1
  · intro hbytes
    refine ⟨hbytes, ?_⟩
    intro hempty
    rw [hempty, channelBytes_zero] at hbytes
    exact absurd hbytes (by decide)

/-- The last of those with a property is the last of those with a stronger one, if it
has that. -/
theorem getLast?_filter_of_imp {α : Type} {l : List α} {p q : α → Bool} {a : α} (himp : ∀ x, q x → p x)
    (hlast : (l.filter p).getLast? = some a) (hq : q a = true) : (l.filter q).getLast? = some a := by
  obtain ⟨before, hbefore⟩ := List.getLast?_eq_some_iff.mp hlast
  have hfilter : l.filter q = (l.filter p).filter q := by
    rw [List.filter_filter]
    apply List.filter_congr
    intro x _
    by_cases hx : q x = true
    · simp [hx, himp x hx]
    · simp [hx]
  rw [hfilter, hbefore, List.filter_append, List.filter_cons_of_pos hq, List.filter_nil,
    List.getLast?_append]
  rfl

theorem covers_zero {copy : ChannelCopy} (hcovers : copy.covers j = true) : copy.covers 0 = true := by
  simp only [ChannelCopy.covers, decide_eq_true_eq] at hcovers ⊢
  rw [SIZEOF_WIFI_CHANNEL] at hcovers ⊢
  omega

/-- The array is cleared before it is written. -/
theorem entry_eq_iff {n : Nat} (hj : j < n) (it : Place) :
    (copies.foldl copyChannels (List.replicate n none))[j]? = some (some ⟨it, j⟩) ↔
      ∃ copy, (copies.filter fun copy => copy.covers j).getLast? = some copy ∧ copy.it = it := by
  rw [getElem?_foldl_copyChannels, List.getElem?_replicate, if_pos hj, Option.map_some, Option.or_none]
  constructor
  · intro hentry
    obtain ⟨copy, hlast, heq⟩ := Option.map_eq_some_iff.mp (Option.some.inj hentry)
    exact ⟨copy, hlast, congrArg ChannelEntry.it heq⟩
  · rintro ⟨copy, hlast, rfl⟩
    rw [hlast]
    rfl

/-- So many entries are the first of one list just if the last copy has as many. -/
theorem entries_iff {n : Nat} (hpos : 0 < n) (hle : n ≤ max_channels)
    (hnodup : (copies.map ChannelCopy.it).Nodup) :
    (∃ it, ∀ j < n, (copies.foldl copyChannels (List.replicate max_channels none))[j]? = some (some ⟨it, j⟩)) ↔
      ∃ copy, (copies.filter fun copy => copy.covers 0).getLast? = some copy ∧
        SIZEOF_WIFI_CHANNEL * n ≤ copy.size := by
  constructor
  · rintro ⟨it, hentries⟩
    obtain ⟨first, hfirst, hfirstIt⟩ := (entry_eq_iff (by omega) it).mp (hentries 0 hpos)
    obtain ⟨last, hlast, hlastIt⟩ := (entry_eq_iff (by omega) it).mp (hentries (n - 1) (by omega))
    have hfirstMem := List.mem_filter.mp (List.mem_of_getLast? hfirst)
    have hlastMem := List.mem_filter.mp (List.mem_of_getLast? hlast)
    have hsame : last = first :=
      List.inj_on_of_nodup_map hnodup hlastMem.1 hfirstMem.1 (hlastIt.trans hfirstIt.symm)
    refine ⟨first, hfirst, ?_⟩
    have hcovers := hlastMem.2
    rw [hsame, ChannelCopy.covers, decide_eq_true_eq] at hcovers
    rwa [Nat.sub_add_cancel hpos] at hcovers
  · rintro ⟨copy, hlast, hsize⟩
    refine ⟨copy.it, ?_⟩
    intro j hj
    rw [entry_eq_iff (by omega)]
    refine ⟨copy, getLast?_filter_of_imp (fun _ => covers_zero) hlast ?_, rfl⟩
    rw [ChannelCopy.covers, decide_eq_true_eq]
    exact Nat.le_trans (Nat.mul_le_mul_left _ hj) hsize

/-- The attributes of a reply are at places of their own. -/
theorem replyAttributes_nodup (reply : Reply) : (replyAttributes reply).Nodup := by
  rw [replyAttributes]
  split_ifs
  · exact List.nodup_nil
  · cases reply.vendor_data with
    | none => exact List.nodup_nil
    | some vendor =>
      rw [Option.elim_some]
      split_ifs
      · exact List.nodup_nil
      · exact places_nodup vendor

theorem channels_handleResponse_eq (sizes max_channels : Nat) (num_channels : Int) (reply : Reply) :
    ((GetChannelListCommand.new max_channels num_channels).handleResponse sizes reply).1 =
      { mMaxChannels := max_channels
        mNumOfChannel := (announcedChannels max_channels (replyAttributes reply)).getD num_channels
        mChannels := (channelCopies sizes (announcedLists max_channels 0 (replyAttributes reply))).foldl
          copyChannels (List.replicate max_channels none)
        copies := channelCopies sizes (announcedLists max_channels 0 (replyAttributes reply)) } := by
  obtain ⟨hsize, hcopies, hchannels⟩ := foldl_channelStep sizes max_channels (replyAttributes reply)
    ⟨0, num_channels, List.replicate max_channels none, []⟩
  rw [List.nil_append] at hcopies
  obtain ⟨cmd, vendor_data⟩ := reply
  by_cases hcmd : cmd = NL80211_CMD_VENDOR
  · simp only [replyAttributes, if_neg (not_not.mpr hcmd)] at hsize hcopies hchannels ⊢
    simp only [GetChannelListCommand.handleResponse, if_neg (not_not.mpr hcmd)]
    cases vendor_data with
    | none => rfl
    | some vendor =>
      simp only [Option.elim_some] at hsize hcopies hchannels ⊢
      by_cases hlen : vendor.nla_len = 0
      · rw [if_pos hlen, if_pos hlen]
        rfl
      · rw [if_neg hlen] at hsize hcopies hchannels ⊢
        rw [if_neg hlen]
        simp only [GetChannelListCommand.new, hsize, hcopies, hchannels]
  · simp only [replyAttributes, GetChannelListCommand.handleResponse, if_pos hcmd]
    rfl

/-- The last copy with an entry is that of the last list with the bytes of one. -/
theorem last_copy_iff {n : Nat} :
    (∃ copy, ((channelCopies sizes lists).filter fun copy => copy.covers 0).getLast? = some copy ∧
        n ≤ copy.size) ↔
      ∃ list ∈ (lists.filter fun list => SIZEOF_WIFI_CHANNEL ≤ channelBytes sizes list.2).getLast?,
        n ≤ channelBytes sizes list.2 := by
  rw [filter_covers_zero, List.getLast?_map]
  constructor
  · rintro ⟨copy, hlast, hsize⟩
    obtain ⟨list, hlist, rfl⟩ := Option.map_eq_some_iff.mp hlast
    exact ⟨list, hlist, hsize⟩
  · rintro ⟨list, hlist, hsize⟩
    exact ⟨channelCopy sizes list, Option.map_eq_some_iff.mpr ⟨list, hlist, rfl⟩, hsize⟩

/-- What entries are copied from are lists of the reply. -/
theorem list_of_entry {j : Nat} (hj : j < max_channels)
    (hentry : ((channelCopies sizes (announcedLists max_channels num attributes)).foldl copyChannels
      (List.replicate max_channels none))[j]? = some (some ⟨it, j⟩)) :
    it ∈ attributes ∧ it.nla_type = WIFI_ATTRIBUTE_CHANNEL_LIST := by
  obtain ⟨copy, hlast, rfl⟩ := (entry_eq_iff hj it).mp hentry
  obtain ⟨hcopy, _⟩ := List.mem_filter.mp (List.mem_of_getLast? hlast)
  obtain ⟨list, hlist, rfl⟩ := List.mem_map.mp hcopy
  have hmem := (List.mem_filter.mp hlist).1
  refine ⟨?_, announcedLists_nla_type hmem⟩
  apply (announcedLists_sublist max_channels num attributes).subset
  exact List.mem_map_of_mem hmem

end

/-- The channels are reported just if the reply agrees with itself: of the number of
channels only the upper bound is enforced, and no list is checked to have as many. -/
theorem channels_reported_iff (sizes max_channels : Nat) (num_channels : Int) (reply : Reply) :
    ChannelsReported reply ((GetChannelListCommand.new max_channels num_channels).handleResponse sizes reply).1 ↔
      ChannelsAnnounced sizes max_channels num_channels (replyAttributes reply) := by
  have hcopies := forall_channelCopies_iff sizes (announcedLists max_channels 0 (replyAttributes reply))
    (P := fun it size => size ≤ SIZEOF_WIFI_CHANNEL * max_channels ∧ size ≤ it.nla_len.toNat)
    fun it => ⟨Nat.zero_le _, Nat.zero_le _⟩
  have hnodup : ((channelCopies sizes (announcedLists max_channels 0 (replyAttributes reply))).map
      ChannelCopy.it).Nodup := by
    apply List.Nodup.sublist _ (replyAttributes_nodup reply)
    exact (channelCopies_it_sublist _ _).trans (announcedLists_sublist _ _ _)
  rw [channels_handleResponse_eq]
  constructor
  · rintro ⟨hreported, hwritten, hinside, hchannels⟩
    refine ⟨hreported, ?_, ?_⟩
    · exact hcopies.mp fun copy hcopy => ⟨hwritten copy hcopy, hinside copy hcopy⟩
    · obtain hzero | ⟨it, _, _, hentries⟩ := hchannels
      · exact Or.inl hzero
      · by_cases hzero : (announcedChannels max_channels (replyAttributes reply)).getD num_channels = 0
        · exact Or.inl hzero
        · dsimp only at hreported hentries
          have hpos : 0 < ((announcedChannels max_channels (replyAttributes reply)).getD num_channels).toNat := by
            omega
          have hle := Int.toNat_le.mpr hreported.2
          exact Or.inr (last_copy_iff.mp ((entries_iff hpos hle hnodup).mp ⟨it, hentries⟩))
  · rintro ⟨hcount, hlists, hlast⟩
    have hall := hcopies.mpr hlists
    refine ⟨hcount, fun copy hcopy => (hall copy hcopy).1, fun copy hcopy => (hall copy hcopy).2, ?_⟩
    by_cases hzero : (announcedChannels max_channels (replyAttributes reply)).getD num_channels = 0
    · exact Or.inl hzero
    · have hpos : 0 < ((announcedChannels max_channels (replyAttributes reply)).getD num_channels).toNat := by
        omega
      have hle := Int.toNat_le.mpr hcount.2
      obtain ⟨it, hentries⟩ := (entries_iff hpos hle hnodup).mpr (last_copy_iff.mpr (hlast.resolve_left hzero))
      obtain ⟨hit, htype⟩ := list_of_entry (Nat.lt_of_lt_of_le hpos hle) (hentries 0 hpos)
      exact Or.inr ⟨it, hit, htype, hentries⟩

/-- A reply of the kernel that announces two channels and lists one. -/
def twoChannelsAnnounced : Reply where
  cmd := NL80211_CMD_VENDOR
  vendor_data := some [20, 0, 197, 0, 8, 0, 2, 0, 2, 0, 0, 0, 8, 0, 3, 0, 108, 9, 0, 0, 1, 2, 3, 4]

/-- Four of the bytes that are copied are behind the list. -/
theorem channels_overread :
    ¬ ChannelsReported twoChannelsAnnounced
      ((GetChannelListCommand.new 8 0).handleResponse 4294967296 twoChannelsAnnounced).1 := by
  intro hreported
  have hinside : ∀ size ∈ ((GetChannelListCommand.new 8 0).handleResponse 4294967296
      twoChannelsAnnounced).1.copies.map fun copy => (copy.size, copy.it.nla_len.toNat),
      size.1 ≤ size.2 := by
    intro size hsize
    obtain ⟨copy, hcopy, rfl⟩ := List.mem_map.mp hsize
    exact hreported.inside copy hcopy
  have hsizes : ((GetChannelListCommand.new 8 0).handleResponse 4294967296
      twoChannelsAnnounced).1.copies.map (fun copy => (copy.size, copy.it.nla_len.toNat)) = [(8, 4)] := by
    decide +kernel
  rw [hsizes] at hinside
  exact absurd (hinside (8, 4) List.mem_cons_self) (by decide)

end panelli.wifi_hal
