import Panelli.Table
import Panelli.WpaSupplicant.DriverCmd

open panelli.table

namespace panelli.wpa_supplicant

/-- The modes of a network, `WPAS_MODE_INFRA` and so on. -/
inductive wpas_mode where
  | INFRA
  | AP
  | P2P_GO
  | other (mode : Nat)
deriving DecidableEq

structure wpa_ssid where
  mode : wpas_mode
  frequency : Int
  p2p_group : Bool

/-- An interface that shares the radio, with what `wpa_drv_get_bssid` returns for it. -/
structure Iface where
  current_ssid : Option wpa_ssid
  assoc_freq : Nat
  get_bssid : Int

structure wpa_used_freq_data where
  freq : Int
  flags : Nat
deriving DecidableEq

/-- `WPA_FREQ_USED_BY_INFRA_STATION` and `WPA_FREQ_USED_BY_P2P_CLIENT`, which are two bits. -/
structure FreqFlags where
  station : Nat
  p2p_client : Nat
  distinct : station ≠ p2p_client

def FreqFlags.bit (flags : FreqFlags) (p2p_group : Bool) : Nat := if p2p_group then flags.p2p_client else flags.station

def FreqFlags.flag (flags : FreqFlags) (p2p_group : Bool) : Nat := 2 ^ flags.bit p2p_group

/-- The frequency that an interface uses, unless it is passed over. -/
def Iface.freq (ifs : Iface) : Option Int :=
  match ifs.current_ssid with
  | none => none
  | some ssid =>
    if ifs.assoc_freq = 0 then none
    else if ssid.mode = .AP ∨ ssid.mode = .P2P_GO then some ssid.frequency
    else if ifs.get_bssid = 0 then some (toInt ifs.assoc_freq)
    else none

/-- Whether the network of an interface in infrastructure mode is a P2P group. -/
def Iface.infra (ifs : Iface) : Option Bool :=
  match ifs.current_ssid with
  | none => none
  | some ssid => if ssid.mode = .INFRA then some ssid.p2p_group else none

/-- Hold a frequency, and its flags if there are any. The entries are those up to `idx`,
and the ones behind them are zero. -/
def holdFreq (freq : Int) (flags : Option Nat) (freqs_data : List wpa_used_freq_data) : List wpa_used_freq_data :=
  let i := freqs_data.findIdx (·.freq = freq)
  let freqs_data := if i = freqs_data.length then freqs_data ++ [{ freq := freq, flags := 0 }] else freqs_data
  match flags with
  | some flags => freqs_data.modify i fun entry => { entry with flags := flags }
  | none => freqs_data

def visit (flags : FreqFlags) (ifs : Iface) (freqs_data : List wpa_used_freq_data) :
    List wpa_used_freq_data :=
  match ifs.freq with
  | none => freqs_data
  | some freq => holdFreq freq (ifs.infra.map flags.flag) freqs_data

/-- The walk over the interfaces, which stops where all entries are in use. -/
def visitAll (flags : FreqFlags) (len : Nat) : List Iface → List wpa_used_freq_data → List wpa_used_freq_data
  | [], freqs_data => freqs_data
  | ifs :: ifaces, freqs_data =>
    if freqs_data.length = len then freqs_data else visitAll flags len ifaces (visit flags ifs freqs_data)

/-- The entries of `freqs_data` in use, as many as are returned. -/
def mtk_get_shared_radio_freqs_data (flags : FreqFlags) (ifaces : List Iface) (len : Nat) :
    List wpa_used_freq_data :=
  visitAll flags len ifaces []

/-- The distinct frequencies in use, in the order in which they first appear. -/
def distinctFreqs (ifaces : List Iface) : List Int := (ifaces.filterMap (·.freq)).eraseDups

/-- An interface in infrastructure mode uses a frequency, for a P2P group or not. -/
structure Iface.UsesAs (ifs : Iface) (freq : Int) (p2p_group : Bool) : Prop where
  freq : ifs.freq = some freq
  infra : ifs.infra = some p2p_group

/-- The flags of an entry record all uses of its frequency in infrastructure mode. -/
def wpa_used_freq_data.Records (entry : wpa_used_freq_data) (flags : FreqFlags) (ifaces : List Iface) :
    Prop :=
  ∀ ifs ∈ ifaces, ∀ p2p_group, ifs.UsesAs entry.freq p2p_group → entry.flags.testBit (flags.bit p2p_group)

/-- The entries are the first of the distinct frequencies, and if none is missing, then no
use of them is. -/
structure HoldsFreqs (flags : FreqFlags) (ifaces : List Iface) (len : Nat)
    (freqs_data : List wpa_used_freq_data) : Prop where
  idx_le : freqs_data.length ≤ len
  freqs : freqs_data.map (·.freq) = (distinctFreqs ifaces).take len
  recorded : (distinctFreqs ifaces).length ≤ len → ∀ entry ∈ freqs_data, entry.Records flags ifaces

/-- The interfaces that are visited after some others: there are no more when so many
distinct frequencies were seen. -/
def visitedFrom (len : Nat) : List Iface → List Iface → List Iface
  | _, [] => []
  | seen, ifs :: ifaces =>
    if (distinctFreqs seen).length = len then [] else ifs :: visitedFrom len (seen ++ [ifs]) ifaces

/-- The interfaces in infrastructure mode on one frequency are of one kind, and one of them
comes before the walk stops. -/
structure OneKind (len : Nat) (ifaces : List Iface) : Prop where
  same : ∀ ifs ∈ ifaces, ∀ other ∈ ifaces, ∀ freq p2p_group other_group,
    ifs.UsesAs freq p2p_group → other.UsesAs freq other_group → p2p_group = other_group
  visited : ∀ ifs ∈ ifaces, ∀ freq p2p_group, ifs.UsesAs freq p2p_group →
    ∃ other ∈ visitedFrom len [] ifaces, ∃ other_group, other.UsesAs freq other_group

section

variable {flags : FreqFlags} {len : Nat} {ifaces seen : List Iface} {ifs : Iface} {freq : Int}

/-- The uses of a frequency in infrastructure mode, in order. -/
def infraUses (freq : Int) (seen : List Iface) : List Bool :=
  (seen.filter (·.freq = some freq)).filterMap (·.infra)

theorem mem_infraUses {p2p_group : Bool} :
    p2p_group ∈ infraUses freq seen ↔ ∃ ifs ∈ seen, ifs.UsesAs freq p2p_group := by
  simp only [infraUses, List.mem_filterMap, List.mem_filter, decide_eq_true_eq]
  constructor
  · rintro ⟨ifs, ⟨hmem, hfreq⟩, hinfra⟩
    exact ⟨ifs, hmem, hfreq, hinfra⟩
  · rintro ⟨ifs, hmem, hfreq, hinfra⟩
    exact ⟨ifs, ⟨hmem, hfreq⟩, hinfra⟩

/-- The flags that are left of the uses of a frequency: those of the last one. -/
def lastFlags (flags : FreqFlags) (uses : List Bool) : Nat := (uses.getLast?.map flags.flag).getD 0

/-- The entries after interfaces were visited, if the walk did not stop. -/
def heldFreqs (flags : FreqFlags) (seen : List Iface) : List wpa_used_freq_data :=
  (distinctFreqs seen).map fun freq => ⟨freq, lastFlags flags (infraUses freq seen)⟩

theorem heldFreqs_length : (heldFreqs flags seen).length = (distinctFreqs seen).length := List.length_map _

theorem mem_distinctFreqs : freq ∈ distinctFreqs seen ↔ ∃ ifs ∈ seen, ifs.freq = some freq := by
  rw [distinctFreqs, List.mem_eraseDups, List.mem_filterMap]

theorem distinctFreqs_nodup : (distinctFreqs seen).Nodup := nodup_eraseDups _

theorem distinctFreqs_concat_of_none (hfreq : ifs.freq = none) :
    distinctFreqs (seen ++ [ifs]) = distinctFreqs seen := by
  rw [distinctFreqs, List.filterMap_append, List.filterMap_cons_none hfreq, List.filterMap_nil, List.append_nil,
    distinctFreqs]

theorem distinctFreqs_concat_of_some (hfreq : ifs.freq = some freq) : distinctFreqs (seen ++ [ifs]) =
    if freq ∈ distinctFreqs seen then distinctFreqs seen else distinctFreqs seen ++ [freq] := by
  rw [distinctFreqs, List.filterMap_append, List.filterMap_cons_some hfreq, List.filterMap_nil, eraseDups_concat]
  simp only [distinctFreqs, List.mem_eraseDups]

theorem infraUses_concat_of_ne (hfreq : ifs.freq ≠ some freq) :
    infraUses freq (seen ++ [ifs]) = infraUses freq seen := by
  rw [infraUses, List.filter_append, List.filter_cons_of_neg (by simpa using hfreq), List.filter_nil,
    List.append_nil, infraUses]

theorem infraUses_concat_of_eq (hfreq : ifs.freq = some freq) :
    infraUses freq (seen ++ [ifs]) = infraUses freq seen ++ ifs.infra.toList := by
  rw [infraUses, List.filter_append, List.filter_cons_of_pos (by simpa using hfreq), List.filter_nil,
    List.filterMap_append, infraUses]
  cases hinfra : ifs.infra <;> simp [hinfra]

theorem lastFlags_append_toList (uses : List Bool) (infra : Option Bool) :
    lastFlags flags (uses ++ infra.toList) = (infra.map flags.flag).getD (lastFlags flags uses) := by
  cases infra with
  | none => rw [Option.toList_none, List.append_nil, Option.map_none, Option.getD_none]
  | some p2p_group =>
    rw [Option.toList_some, lastFlags, List.getLast?_concat, Option.map_some, Option.getD_some, Option.getD_some]

/-- The bit for a kind of use is set if it is the last one. -/
theorem lastFlags_testBit_iff {uses : List Bool} {p2p_group : Bool} :
    (lastFlags flags uses).testBit (flags.bit p2p_group) ↔ uses.getLast? = some p2p_group := by
  have hbit : ∀ last, flags.bit last = flags.bit p2p_group ↔ last = p2p_group := by
    intro last
    have hdistinct := flags.distinct
    cases last <;> cases p2p_group <;> simp [FreqFlags.bit, hdistinct, hdistinct.symm]
  unfold lastFlags
  cases uses.getLast? with
  | none => simp
  | some last =>
    rw [Option.map_some, Option.getD_some, FreqFlags.flag, Nat.testBit_two_pow, decide_eq_true_eq, hbit,
      Option.some_inj]

theorem holdFreq_nil (fl : Option Nat) : holdFreq freq fl [] = [⟨freq, fl.getD 0⟩] := by
  cases fl <;> rfl

theorem holdFreq_cons_self (old : Nat) (fl : Option Nat) (freqs_data : List wpa_used_freq_data) :
    holdFreq freq fl (⟨freq, old⟩ :: freqs_data) = ⟨freq, fl.getD old⟩ :: freqs_data := by
  have hidx : (⟨freq, old⟩ :: freqs_data : List wpa_used_freq_data).findIdx (·.freq = freq) = 0 := by
    rw [List.findIdx_cons, decide_eq_true rfl, cond_true]
  unfold holdFreq
  rw [hidx]
  cases fl <;> rfl

theorem holdFreq_cons_of_ne {entry : wpa_used_freq_data} (hne : entry.freq ≠ freq) (fl : Option Nat)
    (freqs_data : List wpa_used_freq_data) :
    holdFreq freq fl (entry :: freqs_data) = entry :: holdFreq freq fl freqs_data := by
  have hidx : (entry :: freqs_data).findIdx (·.freq = freq) = freqs_data.findIdx (·.freq = freq) + 1 := by
    rw [List.findIdx_cons, decide_eq_false hne, cond_false]
  unfold holdFreq
  simp only [hidx, List.length_cons, Nat.add_right_cancel_iff]
  split_ifs
  · cases fl <;> rfl
  · cases fl <;> rfl

/-- Holding a frequency sets the flags of its entry, which is a new one where there is none. -/
theorem holdFreq_map {freqs : List Int} (hnodup : freqs.Nodup) (g : Int → Nat) (fl : Option Nat) :
    holdFreq freq fl (freqs.map fun f => ⟨f, g f⟩) =
      if freq ∈ freqs then freqs.map fun f => ⟨f, if f = freq then fl.getD (g f) else g f⟩
      else (freqs.map fun f => ⟨f, g f⟩) ++ [⟨freq, fl.getD 0⟩] := by
  induction freqs with
  | nil => exact holdFreq_nil fl
  | cons f freqs ih =>
    obtain ⟨hf, hrest⟩ := List.nodup_cons.mp hnodup
    by_cases heq : f = freq
    · subst heq
      have hkept : freqs.map (fun f' => (⟨f', if f' = f then fl.getD (g f') else g f'⟩ : wpa_used_freq_data)) =
          freqs.map fun f' => ⟨f', g f'⟩ := by
        apply List.map_congr_left
        intro f' hf'
        rw [if_neg (fun h : f' = f => hf (h ▸ hf'))]
      rw [if_pos List.mem_cons_self, List.map_cons, List.map_cons, holdFreq_cons_self, hkept, if_pos rfl]
    · have hmem : freq ∈ f :: freqs ↔ freq ∈ freqs := by
        rw [List.mem_cons, or_iff_right (Ne.symm heq)]
      rw [List.map_cons, holdFreq_cons_of_ne heq, ih hrest]
      simp only [hmem, List.map_cons, if_neg heq]
      split_ifs
      · rfl
      · rfl

/-- What one interface does to the entries. -/
theorem visit_heldFreqs (flags : FreqFlags) (ifs : Iface) (seen : List Iface) :
    visit flags ifs (heldFreqs flags seen) = heldFreqs flags (seen ++ [ifs]) := by
  unfold visit
  cases hfreq : ifs.freq with
  | none =>
    have huses : ∀ freq, infraUses freq (seen ++ [ifs]) = infraUses freq seen := by
      intro freq
      apply infraUses_concat_of_ne
      rw [hfreq]
      exact nofun
    simp only [heldFreqs, distinctFreqs_concat_of_none hfreq, huses]
  | some freq =>
    have hother : ∀ f, f ≠ freq → infraUses f (seen ++ [ifs]) = infraUses f seen := by
      intro f hne
      apply infraUses_concat_of_ne
      rw [hfreq]
      exact fun heq => hne (Option.some.inj heq).symm
    have hself : infraUses freq (seen ++ [ifs]) = infraUses freq seen ++ ifs.infra.toList :=
      infraUses_concat_of_eq hfreq
    dsimp only
    rw [heldFreqs, holdFreq_map distinctFreqs_nodup, heldFreqs, distinctFreqs_concat_of_some hfreq]
    split_ifs with hmem
    · apply List.map_congr_left
      intro f _
      by_cases heq : f = freq
      · rw [if_pos heq, heq, hself, lastFlags_append_toList]
      · rw [if_neg heq, hother f heq]
    · have hunused : infraUses freq seen = [] := by
        apply List.eq_nil_iff_forall_not_mem.mpr
        intro p2p_group huse
        obtain ⟨other, hother, huses⟩ := mem_infraUses.mp huse
        exact hmem (mem_distinctFreqs.mpr ⟨other, hother, huses.freq⟩)
      rw [List.map_append, List.map_singleton, hself, hunused, lastFlags_append_toList]
      congr 1
      apply List.map_congr_left
      intro f hf
      rw [hother f (fun heq => hmem (heq ▸ hf))]

theorem visitAll_heldFreqs (ifaces seen : List Iface) : visitAll flags len ifaces (heldFreqs flags seen) =
    heldFreqs flags (seen ++ visitedFrom len seen ifaces) := by
  induction ifaces generalizing seen with
  | nil => rw [visitAll, visitedFrom, List.append_nil]
  | cons ifs ifaces ih =>
    rw [visitAll, visitedFrom, heldFreqs_length]
    split_ifs with hfull
    · rw [List.append_nil]
    · rw [visit_heldFreqs, ih, List.append_assoc, List.singleton_append]

/-- The interfaces that are not visited come after so many distinct frequencies as there
is room for. -/
theorem visitedFrom_spec (hle : (distinctFreqs seen).length ≤ len) (ifaces : List Iface) :
    (distinctFreqs (seen ++ visitedFrom len seen ifaces)).length ≤ len ∧
      ∃ rest, ifaces = visitedFrom len seen ifaces ++ rest ∧
        (rest = [] ∨ (distinctFreqs (seen ++ visitedFrom len seen ifaces)).length = len) := by
  induction ifaces generalizing seen with
  | nil =>
    rw [visitedFrom, List.append_nil]
    exact ⟨hle, [], rfl, Or.inl rfl⟩
  | cons ifs ifaces ih =>
    rw [visitedFrom]
    split_ifs with hfull
    · rw [List.append_nil]
      exact ⟨hle, ifs :: ifaces, rfl, Or.inr hfull⟩
    · have hnext : (distinctFreqs (seen ++ [ifs])).length ≤ len := by
        cases hfreq : ifs.freq with
        | none =>
          rw [distinctFreqs_concat_of_none hfreq]
          exact hle
        | some freq =>
          rw [distinctFreqs_concat_of_some hfreq]
          split_ifs
          · exact hle
          · rw [List.length_append, List.length_singleton]
            omega
      obtain ⟨hlast, rest, hrest, hend⟩ := ih hnext
      rw [List.append_assoc, List.singleton_append] at hlast hend
      refine ⟨hlast, rest, ?_, hend⟩
      rw [List.cons_append, ← hrest]

theorem shared_radio_freqs_eq (flags : FreqFlags) (ifaces : List Iface) (len : Nat) :
    mtk_get_shared_radio_freqs_data flags ifaces len = heldFreqs flags (visitedFrom len [] ifaces) :=
  visitAll_heldFreqs ifaces []

theorem visitedFrom_nil_spec (len : Nat) (ifaces : List Iface) :
    (distinctFreqs (visitedFrom len [] ifaces)).length ≤ len ∧
      ∃ rest, ifaces = visitedFrom len [] ifaces ++ rest ∧
        (rest = [] ∨ (distinctFreqs (visitedFrom len [] ifaces)).length = len) := by
  have hempty : (distinctFreqs []).length ≤ len := Nat.zero_le len
  exact visitedFrom_spec hempty ifaces

theorem distinctFreqs_append_prefix (seen rest : List Iface) : distinctFreqs seen <+: distinctFreqs (seen ++ rest) := by
  rw [distinctFreqs, distinctFreqs, List.filterMap_append]
  exact eraseDups_prefix_append _ _

/-- The frequencies of the interfaces that are visited are the first of all. -/
theorem distinctFreqs_visited (len : Nat) (ifaces : List Iface) :
    distinctFreqs (visitedFrom len [] ifaces) = (distinctFreqs ifaces).take len := by
  obtain ⟨hle, rest, hrest, rfl | hfull⟩ := visitedFrom_nil_spec len ifaces
  · rw [List.append_nil] at hrest
    rw [← hrest] at hle ⊢
    rw [List.take_of_length_le hle]
  · have hprefix := distinctFreqs_append_prefix (visitedFrom len [] ifaces) rest
    rw [← hrest] at hprefix
    have htake := List.prefix_iff_eq_take.mp hprefix
    rwa [hfull] at htake

theorem mem_of_mem_visited (hmem : ifs ∈ visitedFrom len [] ifaces) : ifs ∈ ifaces := by
  obtain ⟨_, rest, hrest, _⟩ := visitedFrom_nil_spec len ifaces
  rw [hrest]
  exact List.mem_append_left _ hmem

/-- If no frequency is missing, then no use of any is exactly if the uses of each are of one
kind and one of them is visited. -/
theorem records_iff (hall : (distinctFreqs ifaces).length ≤ len) :
    (∀ entry ∈ heldFreqs flags (visitedFrom len [] ifaces), entry.Records flags ifaces) ↔ OneKind len ifaces := by
  have hdistinct : distinctFreqs (visitedFrom len [] ifaces) = distinctFreqs ifaces := by
    rw [distinctFreqs_visited, List.take_of_length_le hall]
  constructor
  · intro hrecords
    -- every use is the last one of those that are visited
    have hlast : ∀ ifs ∈ ifaces, ∀ freq p2p_group, ifs.UsesAs freq p2p_group →
        (infraUses freq (visitedFrom len [] ifaces)).getLast? = some p2p_group := by
      intro ifs hifs freq p2p_group huses
      have hfreq : freq ∈ distinctFreqs (visitedFrom len [] ifaces) := by
        rw [hdistinct]
        exact mem_distinctFreqs.mpr ⟨ifs, hifs, huses.freq⟩
      exact lastFlags_testBit_iff.mp (hrecords _ (List.mem_map_of_mem hfreq) ifs hifs p2p_group huses)
    constructor
    · intro ifs hifs other hother freq p2p_group other_group huses hother_uses
      have heq := hlast ifs hifs freq p2p_group huses
      rw [hlast other hother freq other_group hother_uses] at heq
      exact (Option.some.inj heq).symm
    · intro ifs hifs freq p2p_group huses
      have hmem := List.mem_of_getLast? (hlast ifs hifs freq p2p_group huses)
      obtain ⟨other, hother, hother_uses⟩ := mem_infraUses.mp hmem
      exact ⟨other, hother, p2p_group, hother_uses⟩
  · rintro ⟨hsame, hvisited⟩ entry hentry ifs hifs p2p_group huses
    obtain ⟨freq, _, rfl⟩ := List.mem_map.mp hentry
    apply lastFlags_testBit_iff.mpr
    obtain ⟨other, hother, other_group, hother_uses⟩ := hvisited ifs hifs freq p2p_group huses
    cases hlast : (infraUses freq (visitedFrom len [] ifaces)).getLast? with
    | none =>
      have hmem := mem_infraUses.mpr ⟨other, hother, hother_uses⟩
      rw [List.getLast?_eq_none_iff.mp hlast] at hmem
      cases hmem
    | some last =>
      obtain ⟨third, hthird, hthird_uses⟩ := mem_infraUses.mp (List.mem_of_getLast? hlast)
      rw [hsame third (mem_of_mem_visited hthird) ifs hifs freq last p2p_group hthird_uses huses]

end

/-- The entries are the first distinct frequencies, and their flags are complete exactly if
some frequency is missing, or all are used in one way and seen in time. -/
theorem shared_radio_freqs_holds_iff (flags : FreqFlags) (ifaces : List Iface) (len : Nat) :
    HoldsFreqs flags ifaces len (mtk_get_shared_radio_freqs_data flags ifaces len) ↔
      ((distinctFreqs ifaces).length ≤ len → OneKind len ifaces) := by
  rw [shared_radio_freqs_eq]
  constructor
  · intro hholds hall
    exact (records_iff hall).mp (hholds.recorded hall)
  · intro hkind
    refine ⟨?_, ?_, fun hall => (records_iff hall).mpr (hkind hall)⟩
    · rw [heldFreqs_length]
      exact (visitedFrom_nil_spec len ifaces).1
    · rw [heldFreqs, List.map_map, ← distinctFreqs_visited]
      exact List.map_id _

/-- A station and a P2P client on the frequency 2437. -/
def station : Iface := ⟨some ⟨.INFRA, 0, false⟩, 2437, 0⟩

def p2pClient : Iface := ⟨some ⟨.INFRA, 0, true⟩, 2437, 0⟩

/-- With room for two frequencies the use by the station is overwritten, and with room for
one that by the client is not seen. -/
theorem station_and_client_not_held :
    ¬ HoldsFreqs ⟨0, 1, by decide⟩ [station, p2pClient] 2
        (mtk_get_shared_radio_freqs_data ⟨0, 1, by decide⟩ [station, p2pClient] 2) ∧
      ¬ HoldsFreqs ⟨0, 1, by decide⟩ [station, p2pClient] 1
        (mtk_get_shared_radio_freqs_data ⟨0, 1, by decide⟩ [station, p2pClient] 1) := by
  have hstation : station.UsesAs 2437 false := ⟨by decide, rfl⟩
  have hclient : p2pClient.UsesAs 2437 true := ⟨by decide, rfl⟩
  constructor
  · intro hholds
    have hmem : ⟨2437, 2⟩ ∈ mtk_get_shared_radio_freqs_data ⟨0, 1, by decide⟩ [station, p2pClient] 2 := by decide
    have hbit := hholds.recorded (by decide) _ hmem station (by simp) false hstation
    revert hbit
    decide
  · intro hholds
    have hmem : ⟨2437, 1⟩ ∈ mtk_get_shared_radio_freqs_data ⟨0, 1, by decide⟩ [station, p2pClient] 1 := by decide
    have hbit := hholds.recorded (by decide) _ hmem p2pClient (by simp) true hclient
    revert hbit
    decide

end panelli.wpa_supplicant
