import Panelli.Runs
import Panelli.Telephony.Dial

open panelli.java panelli.runs

namespace panelli.telephony

def ECC_ALWAYS : JString := ['1']

def ECC_FOR_MMI : JString := ['2']

/-- An element of the network list has two parts and is for the number. -/
def ElementMatches (strEccCategory n : JString) : Prop :=
  strEccCategory ≠ [] ∧ ∃ number category, split ',' strEccCategory = [number, category] ∧ eccMatches number n

/-- The text of the network list has an element for the number. -/
def NetworkMatches (strEccCategoryList n : JString) : Prop :=
  ∃ strEccCategory ∈ split ';' strEccCategoryList, ElementMatches strEccCategory n

/-- A SIM list has an element for the number that the table does not publish. -/
def OwnSimMatches (table : List EccEntry) (numbers n : JString) : Prop :=
  numbers ≠ [] ∧ ∃ e ∈ split ',' numbers, eccMatches e n ∧ e ∉ table.map EccEntry.mEcc

/-- The table has an entry of the condition for the number. -/
def ConditionMatches (table : List EccEntry) (condition n : JString) : Prop :=
  ∃ eccEntry ∈ table, eccEntry.mCondition = condition ∧ eccMatches eccEntry.mEcc n

/-- The number is only listed in the table, and only to be shown as an emergency number. -/
def OnlyForMmi (table : List EccEntry) (props : Properties) (n : JString) : Prop :=
  ConditionMatches table ECC_FOR_MMI n ∧
    (∀ eccEntry ∈ table, eccMatches eccEntry.mEcc n → eccEntry.mCondition = ECC_FOR_MMI) ∧
    ¬ NetworkMatches (props "ril.ecc.service.category.list") n ∧
    ¬ OwnSimMatches table (props "ril.ecclist") n ∧ ¬ OwnSimMatches table (props "ril.ecclist1") n

/-- The number is listed by the network, by a SIM, or in the table for all calls. -/
def AlwaysEmergency (table : List EccEntry) (props : Properties) (n : JString) : Prop :=
  NetworkMatches (props "ril.ecc.service.category.list") n ∨ OwnSimMatches table (props "ril.ecclist") n ∨
    OwnSimMatches table (props "ril.ecclist1") n ∨ ConditionMatches table ECC_ALWAYS n

/-- The integers that an emergency call needs can be read: those of the network
list and, for a number that is not in it, the category of its first table entry. -/
def CategoriesReadable (keySet : List (JString × Int) → List (JString × Int)) (table : List EccEntry)
    (strEccCategoryList address : JString) : Prop :=
  ∃ network, networkEccCategory strEccCategoryList = .ok network ∧
    ((keySet network).find? (fun entry => eccMatches entry.1 address) = none →
      ∀ eccEntry, table.find? (fun eccEntry => eccMatches eccEntry.mEcc address) = some eccEntry →
        ∃ category, parseInt eccEntry.mCategory = .ok category)

/-- What the documentation of the table says about a call: with a SIM, a number
only listed to be shown is dialled as a normal call, and a number listed in any
other way as an emergency call. -/
structure DialsByCondition (table : List EccEntry) (props : Properties) (n : JString)
    (dialled : Except Throwable Dialled) : Prop where
  normal : OnlyForMmi table props n → dialled = .ok .superDial
  emergency : AlwaysEmergency table props n → ∃ requests, dialled = .ok (.emergency requests)

section

variable {table : List EccEntry} {network map : List (JString × Int)} {numbers address n : JString}
  {props : Properties} {pieces : List JString}

theorem exists_fst_iff : (∃ entry ∈ map, eccMatches entry.1 n) ↔ ∃ key ∈ map.map Prod.fst, eccMatches key n := by
  simp only [List.mem_map, exists_exists_and_eq_and]

/-- Putting a number into the map adds it to the numbers there, unless it is one. -/
theorem mem_put_keys (map : List (JString × Int)) (key : JString) (value : Int) (other : JString) :
    other ∈ (put map key value).map Prod.fst ↔ other ∈ map.map Prod.fst ∨ other = key := by
  unfold put
  split_ifs with hany
  · have hkeys : (map.map fun entry => if entry.1 == key then (key, value) else entry).map Prod.fst =
        map.map Prod.fst := by
      rw [List.map_map]
      apply List.map_congr_left
      intro entry hentry
      by_cases heq : entry.1 = key
      · simp [heq]
      · simp [heq]
    obtain ⟨entry, hentry, heq⟩ := List.any_eq_true.mp hany
    rw [hkeys]
    refine ⟨Or.inl, fun hor => hor.elim id fun hother => ?_⟩
    rw [hother, ← beq_iff_eq.mp heq]
    exact List.mem_map_of_mem hentry
  · simp only [List.map_append, List.map_cons, List.map_nil, List.mem_append, List.mem_singleton]

/-- An element of the list adds its number if it has two parts. -/
theorem putNetworkEcc_matches_iff {strEccCategory : JString}
    (hput : putNetworkEcc map strEccCategory = .ok network) :
    (∃ entry ∈ network, eccMatches entry.1 n) ↔ (∃ entry ∈ map, eccMatches entry.1 n) ∨
      ElementMatches strEccCategory n := by
  unfold putNetworkEcc at hput
  split_ifs at hput with hempty
  · obtain rfl := Except.ok.inj hput
    simp [ElementMatches, List.isEmpty_iff.mp hempty]
  · have hne : strEccCategory ≠ [] := fun heq => hempty (by rw [heq]; rfl)
    split at hput
    next number category hsplit =>
      cases hparse : parseInt category with
      | error thrown =>
        rw [hparse] at hput
        cases hput
      | ok value =>
        rw [hparse] at hput
        obtain rfl := Except.ok.inj hput
        have helement : ElementMatches strEccCategory n ↔ eccMatches number n = true := by
          simp only [ElementMatches, hsplit, List.cons.injEq, and_true]
          exact ⟨fun ⟨_, _, _, ⟨heq, _⟩, hmatches⟩ => heq ▸ hmatches, fun hmatches =>
            ⟨hne, number, category, ⟨rfl, rfl⟩, hmatches⟩⟩
        rw [exists_fst_iff, exists_fst_iff, helement]
        simp only [mem_put_keys, or_and_right, exists_or, exists_eq_left]
    next hother =>
      obtain rfl := Except.ok.inj hput
      have hnone : ¬ ElementMatches strEccCategory n :=
        fun ⟨_, number, category, hsplit, _⟩ => hother number category hsplit
      simp only [hnone, or_false]

/-- The map built from the elements has the numbers of those with two parts. -/
theorem foldlM_putNetworkEcc_matches_iff (hbuilt : pieces.foldlM putNetworkEcc map = .ok network) :
    (∃ entry ∈ network, eccMatches entry.1 n) ↔ (∃ entry ∈ map, eccMatches entry.1 n) ∨
      ∃ strEccCategory ∈ pieces, ElementMatches strEccCategory n := by
  induction pieces generalizing map with
  | nil =>
    obtain rfl := Except.ok.inj hbuilt
    simp
  | cons strEccCategory pieces ih =>
    obtain ⟨next, hput, hrest⟩ := foldlM_cons_eq_ok.mp hbuilt
    rw [ih hrest, putNetworkEcc_matches_iff hput, List.exists_mem_cons_iff, or_assoc]

theorem networkEccCategory_matches_iff (hnetwork : networkEccCategory numbers = .ok network) :
    (∃ entry ∈ network, eccMatches entry.1 n) ↔ NetworkMatches numbers n := by
  unfold networkEccCategory at hnetwork
  split_ifs at hnetwork with hempty
  · obtain rfl := Except.ok.inj hnetwork
    rw [List.isEmpty_iff.mp hempty]
    have hsplit : split ';' [] = [[]] := rfl
    simp [NetworkMatches, ElementMatches, hsplit]
  · rw [foldlM_putNetworkEcc_matches_iff hnetwork]
    simp [NetworkMatches]

/-- With a SIM, every entry that is not for calls without one is an emergency number. -/
theorem recognised_of_inserted {sim1 sim2 : JString} (hinserted : sim1 ≠ [] ∨ sim2 ≠ []) :
    recognised table network sim1 sim2 n = true ↔ (∃ entry ∈ network, eccMatches entry.1 n) ∨
      simListMatches sim1 n = true ∨ simListMatches sim2 n = true ∨
        ∃ eccEntry ∈ table, eccEntry.mCondition ≠ ECC_NO_SIM ∧ eccMatches eccEntry.mEcc n := by
  have hflag : (!sim1.isEmpty || !sim2.isEmpty) = true := by simpa using hinserted
  simp only [recognised, hflag, customizedMatches, if_true, Bool.or_eq_true, List.any_eq_true, Bool.and_eq_true,
    bne_iff_ne]

theorem OwnSimMatches.simListMatches (hown : OwnSimMatches table numbers n) :
    simListMatches numbers n = true := by
  obtain ⟨hne, e, he, hmatches, _⟩ := hown
  have hempty : (!numbers.isEmpty) = true := by simpa using hne
  rw [telephony.simListMatches, hempty, Bool.true_and]
  exact List.any_eq_true.mpr ⟨e, he, hmatches⟩

theorem ConditionMatches.entry {condition : JString} (hcondition : condition ≠ ECC_NO_SIM)
    (hmatches : ConditionMatches table condition n) :
    ∃ eccEntry ∈ table, eccEntry.mCondition ≠ ECC_NO_SIM ∧ eccMatches eccEntry.mEcc n := by
  obtain ⟨eccEntry, hmem, rfl, hentry⟩ := hmatches
  exact ⟨eccEntry, hmem, hcondition, hentry⟩

/-- A number that is only to be shown is recognised like any other. -/
theorem OnlyForMmi.recognised (hinserted : props "ril.ecclist" ≠ [] ∨ props "ril.ecclist1" ≠ [])
    (hmmi : OnlyForMmi table props n) :
    recognised table network (props "ril.ecclist") (props "ril.ecclist1") n = true :=
  (recognised_of_inserted hinserted).mpr (Or.inr (Or.inr (Or.inr (hmmi.1.entry (by decide)))))

theorem AlwaysEmergency.recognised (hinserted : props "ril.ecclist" ≠ [] ∨ props "ril.ecclist1" ≠ [])
    (hnetwork : networkEccCategory (props "ril.ecc.service.category.list") = .ok network)
    (halways : AlwaysEmergency table props n) :
    recognised table network (props "ril.ecclist") (props "ril.ecclist1") n = true := by
  apply (recognised_of_inserted hinserted).mpr
  obtain hmatches | hsim1 | hsim2 | hcondition := halways
  · exact Or.inl ((networkEccCategory_matches_iff hnetwork).mpr hmatches)
  · exact Or.inr (Or.inl hsim1.simListMatches)
  · exact Or.inr (Or.inr (Or.inl hsim2.simListMatches))
  · exact Or.inr (Or.inr (Or.inr (hcondition.entry (by decide))))

/-- A category is found unless the first table entry for the number has none. -/
theorem getServiceCategoryFromEcc_ok_iff {keys : List (JString × Int)} :
    (∃ category, getServiceCategoryFromEcc table keys address = .ok category) ↔
      (keys.find? (fun entry => eccMatches entry.1 address) = none →
        ∀ eccEntry, table.find? (fun eccEntry => eccMatches eccEntry.mEcc address) = some eccEntry →
          ∃ category, parseInt eccEntry.mCategory = .ok category) := by
  unfold getServiceCategoryFromEcc
  cases hnetwork : keys.find? fun entry => eccMatches entry.1 address with
  | some entry => simp [pure, Except.pure]
  | none =>
    cases htable : table.find? fun eccEntry => eccMatches eccEntry.mEcc address with
    | some eccEntry => simp
    | none => simp [pure, Except.pure]

variable {extractNetworkPortionAlt : JString → JString} {keySet : List (JString × Int) → List (JString × Int)}
  {sSerial clirMode : Int} {uusInfo : Option UUSInfo} {result : Option Message}

/-- A recognised number is dialled as an emergency call, once its category is found. -/
theorem dial_of_recognised (hnetwork : networkEccCategory (props "ril.ecc.service.category.list") = .ok network)
    (hrecognised : recognised table network (props "ril.ecclist") (props "ril.ecclist1")
      (extractNetworkPortionAlt address) = true) :
    dial extractNetworkPortionAlt keySet table props sSerial (some address) clirMode uusInfo result =
      (getServiceCategoryFromEcc table (keySet network) address).map fun serviceCategory =>
        .emergency (emergencyRequests sSerial serviceCategory address clirMode uusInfo result) := by
  have hcheck : isEmergencyNumberExt extractNetworkPortionAlt table props (some address) = .ok true := by
    rw [isEmergencyNumberExt_some, hnetwork, Except.map, hrecognised]
  simp only [dial, hcheck, hnetwork, bind, Except.bind, if_true]
  cases getServiceCategoryFromEcc table (keySet network) address <;> rfl

theorem dial_of_unreadable {thrown : Throwable}
    (hnetwork : networkEccCategory (props "ril.ecc.service.category.list") = .error thrown) :
    dial extractNetworkPortionAlt keySet table props sSerial (some address) clirMode uusInfo result =
      .error thrown := by
  have hcheck : isEmergencyNumberExt extractNetworkPortionAlt table props (some address) = .error thrown := by
    rw [isEmergencyNumberExt_some, hnetwork, Except.map]
  simp only [dial, hcheck, bind, Except.bind]

/-- With a SIM, a number that is only to be shown is never left to the superclass. -/
theorem dial_ne_superDial (hinserted : props "ril.ecclist" ≠ [] ∨ props "ril.ecclist1" ≠ [])
    (hmmi : OnlyForMmi table props (extractNetworkPortionAlt address)) :
    dial extractNetworkPortionAlt keySet table props sSerial (some address) clirMode uusInfo result ≠
      .ok .superDial := by
  cases hnetwork : networkEccCategory (props "ril.ecc.service.category.list") with
  | error thrown =>
    rw [dial_of_unreadable hnetwork]
    exact nofun
  | ok network =>
    rw [dial_of_recognised hnetwork (hmmi.recognised hinserted)]
    cases getServiceCategoryFromEcc table (keySet network) address with
    | error thrown => exact nofun
    | ok category => exact nofun

/-- One that is always an emergency number is dialled as such exactly when the categories
can be read. -/
theorem dial_emergency_iff (hinserted : props "ril.ecclist" ≠ [] ∨ props "ril.ecclist1" ≠ [])
    (halways : AlwaysEmergency table props (extractNetworkPortionAlt address)) :
    (∃ requests, dial extractNetworkPortionAlt keySet table props sSerial (some address) clirMode uusInfo result =
      .ok (.emergency requests)) ↔
      CategoriesReadable keySet table (props "ril.ecc.service.category.list") address := by
  cases hnetwork : networkEccCategory (props "ril.ecc.service.category.list") with
  | error thrown =>
    rw [dial_of_unreadable hnetwork, CategoriesReadable, hnetwork]
    constructor
    · rintro ⟨requests, hrequests⟩
      cases hrequests
    · rintro ⟨network, hread, _⟩
      cases hread
  | ok network =>
    have hreadable : CategoriesReadable keySet table (props "ril.ecc.service.category.list") address ↔
        ∃ category, getServiceCategoryFromEcc table (keySet network) address = .ok category := by
      rw [getServiceCategoryFromEcc_ok_iff, CategoriesReadable, hnetwork]
      simp only [Except.ok.injEq, exists_eq_left']
    rw [hreadable, dial_of_recognised hnetwork (halways.recognised hinserted hnetwork)]
    cases getServiceCategoryFromEcc table (keySet network) address with
    | error thrown => simp [Except.map]
    | ok category => exact ⟨fun _ => ⟨category, rfl⟩, fun _ => ⟨_, rfl⟩⟩

/-- With a SIM, calls are dialled as the table documents exactly when the number
is not one that is only to be shown and, if it is always an emergency number,
the categories can be read. -/
theorem dial_byCondition_iff (hinserted : props "ril.ecclist" ≠ [] ∨ props "ril.ecclist1" ≠ []) :
    DialsByCondition table props (extractNetworkPortionAlt address)
        (dial extractNetworkPortionAlt keySet table props sSerial (some address) clirMode uusInfo result) ↔
      ¬ OnlyForMmi table props (extractNetworkPortionAlt address) ∧
        (AlwaysEmergency table props (extractNetworkPortionAlt address) →
          CategoriesReadable keySet table (props "ril.ecc.service.category.list") address) := by
  constructor
  · intro hdials
    refine ⟨fun hmmi => ?_, fun halways => ?_⟩
    · exact dial_ne_superDial hinserted hmmi (hdials.normal hmmi)
    · exact (dial_emergency_iff hinserted halways).mp (hdials.emergency halways)
  · rintro ⟨hmmi, hreadable⟩
    refine ⟨fun h => absurd h hmmi, fun halways => ?_⟩
    exact (dial_emergency_iff hinserted halways).mpr (hreadable halways)

end

/-- A table with an entry of each condition: 112 always, 110 only to be shown,
119 without a SIM. -/
def conditionTable : List EccEntry :=
  [⟨['1', '1', '2'], ['0'], ['1']⟩, ⟨['1', '1', '0'], ['1'], ['2']⟩, ⟨['1', '1', '9'], ['0'], ['0']⟩]

/-- A SIM that lists a number of its own. -/
def ownSim : Properties := simProperties ['9', '9', '9'] []

theorem dial_112_byCondition :
    DialsByCondition conditionTable ownSim ['1', '1', '2']
      (dial id id conditionTable ownSim 0 (some ['1', '1', '2']) 0 none none) := by
  refine (@dial_byCondition_iff conditionTable ['1', '1', '2'] ownSim id id 0 0 none none
    (Or.inl (by decide))).mpr ⟨?_, fun _ => ?_⟩
  · intro hmmi
    exact absurd (hmmi.2.1 ⟨['1', '1', '2'], ['0'], ['1']⟩ (by decide) (by decide)) (by decide)
  · refine ⟨[], rfl, fun _ eccEntry hfound => ⟨0, ?_⟩⟩
    obtain rfl : ⟨['1', '1', '2'], ['0'], ['1']⟩ = eccEntry := Option.some.inj hfound
    decide +kernel

/-- A number that is only to be shown is dialled as an emergency call. -/
theorem dial_110_not_byCondition :
    OnlyForMmi conditionTable ownSim ['1', '1', '0'] ∧
      dial id id conditionTable ownSim 0 (some ['1', '1', '0']) 0 none none =
        .ok (.emergency (emergencyRequests 0 1 ['1', '1', '0'] 0 none none)) ∧
      ¬ DialsByCondition conditionTable ownSim ['1', '1', '0']
        (dial id id conditionTable ownSim 0 (some ['1', '1', '0']) 0 none none) := by
  have hnetwork : networkEccCategory (ownSim "ril.ecc.service.category.list") = .ok [] := rfl
  have hmmi : OnlyForMmi conditionTable ownSim ['1', '1', '0'] := by
    refine ⟨⟨⟨['1', '1', '0'], ['1'], ['2']⟩, by decide, rfl, by decide⟩, by decide, ?_, ?_, ?_⟩
    · rw [← networkEccCategory_matches_iff hnetwork]
      simp only [List.not_mem_nil, false_and, exists_false, not_false_eq_true]
    · intro hown
      exact absurd hown.simListMatches (by decide)
    · intro hown
      exact absurd rfl hown.1
  have hcategory : getServiceCategoryFromEcc conditionTable [] ['1', '1', '0'] = .ok 1 := by decide +kernel
  have hdial : dial id id conditionTable ownSim 0 (some ['1', '1', '0']) 0 none none =
      .ok (.emergency (emergencyRequests 0 1 ['1', '1', '0'] 0 none none)) := by
    have hrecognised : recognised conditionTable [] (ownSim "ril.ecclist") (ownSim "ril.ecclist1")
        (id ['1', '1', '0']) = true := hmmi.recognised (Or.inl (by decide))
    rw [dial_of_recognised hnetwork hrecognised, id, hcategory, Except.map]
  refine ⟨hmmi, hdial, fun hdials => ?_⟩
  have hnormal := hdials.normal hmmi
  rw [hdial] at hnormal
  cases hnormal

end panelli.telephony
