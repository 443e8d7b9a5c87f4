import Panelli.Telephony.Conditions
import Mathlib.Data.Set.Basic

open panelli.java panelli.runs

namespace panelli.telephony

/-- A number is among these, as it is or without the plus that it ends in. -/
def ListedIn (numbers : Set JString) (n : JString) : Prop :=
  n ∈ numbers ∨ ∃ stripped ∈ numbers, n = stripped ++ ['+']

/-- The numbers of the items of the network list that have a number and a category. -/
def networkNumbers (strEccCategoryList : JString) : Set JString :=
  {number | ∃ item ∈ split ';' strEccCategoryList, ∃ category value,
    split ',' item = [number, category] ∧ parseInt category = .ok value}

/-- The numbers of a SIM list. One that is not set has none. -/
def simNumbers (numbers : JString) : Set JString := {e | numbers ≠ [] ∧ e ∈ split ',' numbers}

/-- The numbers of the table: with a SIM, only those that are not for calls without one. -/
def customizedNumbers (table : List EccEntry) (sim1 sim2 : JString) : Set JString :=
  {e | ∃ eccEntry ∈ table,
    ((sim1 ≠ [] ∨ sim2 ≠ []) → eccEntry.mCondition ≠ ECC_NO_SIM) ∧ eccEntry.mEcc = e}

/-- The numbers that calls to are emergency calls. -/
def emergencyNumbers (table : List EccEntry) (props : Properties) : Set JString :=
  networkNumbers (props "ril.ecc.service.category.list") ∪
    (simNumbers (props "ril.ecclist") ∪ (simNumbers (props "ril.ecclist1") ∪
      customizedNumbers table (props "ril.ecclist") (props "ril.ecclist1")))

/-- The test returns normally, and with the answer that the lists give for the number. -/
def RecognisesExactly (table : List EccEntry) (props : Properties) (n : JString)
    (result : Except Throwable Bool) : Prop :=
  ∃ answer, result = .ok answer ∧ (answer = true ↔ ListedIn (emergencyNumbers table props) n)

/-- An item of the network list with two parts has a category that is an integer. -/
def ItemReadable (item : JString) : Prop :=
  ∀ number category, split ',' item = [number, category] → ∃ value, parseInt category = .ok value

/-- All items of the network list can be read. -/
def NetworkReadable (strEccCategoryList : JString) : Prop :=
  ∀ item ∈ split ';' strEccCategoryList, ItemReadable item

section

variable {table : List EccEntry} {map network : List (JString × Int)} {numbers sim1 sim2 item n : JString}
  {items : List JString} {props : Properties} {A B : Set JString}

/-- The comparison of the scans, for one number of a list. -/
theorem exists_eccMatches_iff : (∃ e ∈ A, eccMatches e n) ↔ ListedIn A n := by
  simp only [eccMatches, Bool.or_eq_true, beq_iff_eq]
  constructor
  · rintro ⟨e, he, rfl | rfl⟩
    · exact Or.inl he
    · exact Or.inr ⟨e, he, rfl⟩
  · rintro (hmem | ⟨stripped, hmem, rfl⟩)
    · exact ⟨n, hmem, Or.inl rfl⟩
    · exact ⟨stripped, hmem, Or.inr rfl⟩

theorem listedIn_union : ListedIn (A ∪ B) n ↔ ListedIn A n ∨ ListedIn B n := by
  simp only [← exists_eccMatches_iff, Set.mem_union, or_and_right, exists_or]

theorem split_nil (sep : Char) : split sep [] = [[]] := if_pos rfl

/-- An item is put into the map exactly if it can be read. -/
theorem putNetworkEcc_ok_iff : (∃ next, putNetworkEcc map item = .ok next) ↔ ItemReadable item := by
  unfold putNetworkEcc
  split_ifs with hempty
  · have hreadable : ItemReadable item := by
      intro number category hsplit
      rw [List.isEmpty_iff.mp hempty, split_nil] at hsplit
      cases hsplit
    exact ⟨fun _ => hreadable, fun _ => ⟨map, rfl⟩⟩
  · split
    next number category hsplit =>
      have hreadable : ItemReadable item ↔ ∃ value, parseInt category = .ok value := by
        refine ⟨fun hitem => hitem number category hsplit, fun hvalue number' category' hsplit' => ?_⟩
        rw [hsplit] at hsplit'
        cases hsplit'
        exact hvalue
      rw [hreadable]
      cases parseInt category with
      | error thrown => simp [bind, Except.bind]
      | ok value => simp [bind, Except.bind, pure, Except.pure]
    next hother =>
      have hreadable : ItemReadable item := fun number category hsplit => absurd hsplit (hother number category)
      exact ⟨fun _ => hreadable, fun _ => ⟨map, rfl⟩⟩

theorem foldlM_putNetworkEcc_ok_iff : (∃ network, items.foldlM putNetworkEcc map = .ok network) ↔
    ∀ item ∈ items, ItemReadable item := by
  induction items generalizing map with
  | nil => exact ⟨fun _ => by simp, fun _ => ⟨map, rfl⟩⟩
  | cons item items ih =>
    rw [List.forall_mem_cons, ← @putNetworkEcc_ok_iff map item]
    constructor
    · rintro ⟨network, hnetwork⟩
      obtain ⟨next, hput, hrest⟩ := foldlM_cons_eq_ok.mp hnetwork
      exact ⟨⟨next, hput⟩, ih.mp ⟨network, hrest⟩⟩
    · rintro ⟨⟨next, hput⟩, hrest⟩
      obtain ⟨network, hnetwork⟩ := (@ih next).mpr hrest
      exact ⟨network, foldlM_cons_eq_ok.mpr ⟨next, hput, hnetwork⟩⟩

/-- The map is built exactly if the list can be read. -/
theorem networkEccCategory_ok_iff :
    (∃ network, networkEccCategory numbers = .ok network) ↔ NetworkReadable numbers := by
  unfold networkEccCategory
  split_ifs with hempty
  · have hreadable : NetworkReadable numbers := by
      intro item hitem number category hsplit
      rw [List.isEmpty_iff.mp hempty, split_nil, List.mem_singleton] at hitem
      rw [hitem, split_nil] at hsplit
      cases hsplit
    exact ⟨fun _ => hreadable, fun _ => ⟨[], rfl⟩⟩
  · exact foldlM_putNetworkEcc_ok_iff

/-- In a list that can be read, the items for a number are well formed. -/
theorem NetworkReadable.networkMatches_iff (hreadable : NetworkReadable numbers) :
    NetworkMatches numbers n ↔ ListedIn (networkNumbers numbers) n := by
  rw [← exists_eccMatches_iff]
  constructor
  · rintro ⟨item, hitem, _, number, category, hsplit, hmatches⟩
    obtain ⟨value, hvalue⟩ := hreadable item hitem number category hsplit
    exact ⟨number, ⟨item, hitem, category, value, hsplit, hvalue⟩, hmatches⟩
  · rintro ⟨number, ⟨item, hitem, category, value, hsplit, _⟩, hmatches⟩
    have hne : item ≠ [] := by
      rintro rfl
      rw [split_nil] at hsplit
      cases hsplit
    exact ⟨item, hitem, hne, number, category, hsplit, hmatches⟩

theorem simListMatches_iff_listedIn : simListMatches numbers n = true ↔ ListedIn (simNumbers numbers) n := by
  rw [← exists_eccMatches_iff]
  simp only [simListMatches, simNumbers, Bool.and_eq_true, Bool.not_eq_true', List.isEmpty_eq_false_iff,
    List.any_eq_true, Set.mem_ofPred_eq, and_assoc, exists_and_left]

theorem customizedMatches_iff_listedIn : customizedMatches table (!sim1.isEmpty || !sim2.isEmpty) n = true ↔
    ListedIn (customizedNumbers table sim1 sim2) n := by
  rw [← exists_eccMatches_iff]
  by_cases hinserted : sim1 ≠ [] ∨ sim2 ≠ []
  · have hflag : (!sim1.isEmpty || !sim2.isEmpty) = true := by simpa using hinserted
    simp [customizedMatches, customizedNumbers, hflag, hinserted, and_assoc]
  · have hflag : (!sim1.isEmpty || !sim2.isEmpty) = false := by simpa using hinserted
    simp [customizedMatches, customizedNumbers, hflag, hinserted]

theorem recognised_iff_listedIn (hnetwork : networkEccCategory (props "ril.ecc.service.category.list") = .ok network) :
    recognised table network (props "ril.ecclist") (props "ril.ecclist1") n = true ↔
      ListedIn (emergencyNumbers table props) n := by
  have hreadable := networkEccCategory_ok_iff.mp ⟨network, hnetwork⟩
  have hentries : (network.any fun entry => eccMatches entry.1 n) = true ↔
      ListedIn (networkNumbers (props "ril.ecc.service.category.list")) n := by
    rw [List.any_eq_true, networkEccCategory_matches_iff hnetwork, hreadable.networkMatches_iff]
  simp only [recognised, emergencyNumbers, Bool.or_eq_true, listedIn_union, hentries, simListMatches_iff_listedIn,
    customizedMatches_iff_listedIn]

end

/-- A number is recognised as it should be exactly if all items of the network list
can be read. -/
theorem isEmergencyNumberExt_exact_iff (extractNetworkPortionAlt : JString → JString) (table : List EccEntry)
    (props : Properties) (number : JString) :
    RecognisesExactly table props (extractNetworkPortionAlt number)
        (isEmergencyNumberExt extractNetworkPortionAlt table props (some number)) ↔
      NetworkReadable (props "ril.ecc.service.category.list") := by
  rw [isEmergencyNumberExt_some, ← networkEccCategory_ok_iff]
  cases hnetwork : networkEccCategory (props "ril.ecc.service.category.list") with
  | error thrown => simp [RecognisesExactly, Except.map]
  | ok network =>
    have hrecognised : RecognisesExactly table props (extractNetworkPortionAlt number)
        (.ok (recognised table network (props "ril.ecclist") (props "ril.ecclist1")
          (extractNetworkPortionAlt number))) := ⟨_, rfl, recognised_iff_listedIn hnetwork⟩
    exact ⟨fun _ => ⟨network, rfl⟩, fun _ => hrecognised⟩

/-- The network list of a phone without a SIM. -/
def networkProperties (strEccCategoryList : JString) : Properties :=
  Function.update (fun _ => []) "ril.ecc.service.category.list" strEccCategoryList

/-- An item without a number for a category: not even the numbers before it are recognised. -/
theorem unreadable_item_throws :
    let props := networkProperties "112,1;911,x".toList
    isEmergencyNumberExt id sampleTable props (some ['1', '1', '2']) = .error .NumberFormatException ∧
      ListedIn (emergencyNumbers sampleTable props) ['1', '1', '2'] ∧
      ¬ RecognisesExactly sampleTable props ['1', '1', '2']
        (isEmergencyNumberExt id sampleTable props (some ['1', '1', '2'])) := by
  intro props
  have hthrows : isEmergencyNumberExt id sampleTable props (some ['1', '1', '2']) =
      .error .NumberFormatException := by decide +kernel
  refine ⟨hthrows, Or.inl (Or.inr (Or.inr (Or.inr ?_))), ?_⟩
  · exact ⟨⟨['1', '1', '2'], ['0'], ['1']⟩, by decide, by decide, rfl⟩
  · rintro ⟨answer, hanswer, _⟩
    rw [hthrows] at hanswer
    cases hanswer

end panelli.telephony
