import Panelli.Telephony.EccUpdate
import Mathlib.Data.Set.Basic

open panelli.java

namespace panelli.telephony

/-- The numbers of a list that are not empty, in order. -/
def numberList (numbers : JString) : List JString := (split ',' numbers).filter (!·.isEmpty)

def numberSet (numbers : JString) : Set JString := {e | e ∈ numberList numbers}

/-- The numbers of the table that are for calls with and without a SIM. -/
def fixedNumbers (table : List EccEntry) : Set JString :=
  {e | e ≠ [] ∧ ∃ eccEntry ∈ table, eccEntry.mCondition ≠ ECC_NO_SIM ∧ eccEntry.mEcc = e}

/-- Those that are only for calls without a SIM. -/
def noSimNumbers (table : List EccEntry) : Set JString :=
  {e | e ≠ [] ∧ ∃ eccEntry ∈ table, eccEntry.mCondition = ECC_NO_SIM ∧ eccEntry.mEcc = e}

/-- The value of a SIM list is updated by the numbers of the table, and no number is in
it twice that was not before. -/
structure UpdatesList (table : List EccEntry) (numbers numbers' : JString) : Prop where
  numberSet_eq : numberSet numbers' =
    numberSet numbers ∪ (fixedNumbers table ∪ {e | numbers = [] ∧ e ∈ noSimNumbers table})
  nodup : (numberList numbers).Nodup → ((table.map EccEntry.mEcc).filter (!·.isEmpty)).Nodup →
    (numberList numbers').Nodup

/-- The update sets both SIM lists as it is to, and once more leaves their numbers alone. -/
def UpdatesExactly (accepts : JString → Bool) (table : List EccEntry) (props : Properties) : Prop :=
  ∃ props' props'', updateEmergencyNumbersProperty accepts table props = .ok () props' ∧
    updateEmergencyNumbersProperty accepts table props' = .ok () props'' ∧
    ∀ key ∈ ["ril.ecclist", "ril.ecclist1"],
      UpdatesList table (props key) (props' key) ∧ numberSet (props'' key) = numberSet (props' key)

/-- An empty list is published only if there is no number for calls without a SIM. -/
def PublishesOnce (table : List EccEntry) (numbers : JString) : Prop :=
  Publishes table numbers ∨ noSimNumbers table = ∅

section

variable {table : List EccEntry} {numbers e : JString} {l added : List JString} {accepts : JString → Bool}
  {props : Properties}

theorem mem_numberList : e ∈ numberList numbers ↔ e ∈ split ',' numbers ∧ e ≠ [] := by
  simp [numberList]

theorem numberList_nil : numberList [] = [] := rfl

/-- Dropping elements from the end loses none that a filter keeps. -/
theorem filter_rdropWhile {α : Type} (p : α → Bool) (l : List α) :
    (l.rdropWhile p).filter (!p ·) = l.filter (!p ·) := by
  have hdropped : (l.rtakeWhile p).filter (!p ·) = [] := by
    apply List.filter_eq_nil_iff.mpr
    intro a ha
    simp [List.mem_rtakeWhile_imp ha]
  calc (l.rdropWhile p).filter (!p ·)
      = (l.rdropWhile p ++ l.rtakeWhile p).filter (!p ·) := by
        rw [List.filter_append, hdropped, List.append_nil]
    _ = l.filter (!p ·) := by rw [List.rdropWhile_append_rtakeWhile]

/-- A list that is joined has the numbers that were joined. -/
theorem numberList_join (hfree : ∀ e ∈ l, ',' ∉ e) : numberList (join ',' l) = l.filter (!·.isEmpty) := by
  by_cases hnil : join ',' l = []
  · rw [hnil, numberList_nil]
    obtain rfl | rfl := join_eq_nil_iff.mp hnil <;> rfl
  · have hne : l ≠ [] := fun h => hnil (join_eq_nil_iff.mpr (Or.inl h))
    rw [numberList, split, if_neg hnil, splitOn_join hfree hne]
    exact filter_rdropWhile List.isEmpty l

theorem mem_fixedNumbers : e ∈ fixedNumbers table ↔ e ≠ [] ∧ e ∈ fixedList table := by
  simp [fixedNumbers, fixedList, and_assoc]

theorem mem_noSimNumbers : e ∈ noSimNumbers table ↔ e ∈ fixedListNoSim table := mem_fixedListNoSim.symm

theorem removeAddAll_nodup (hl : l.Nodup) (hadded : added.Nodup) : (removeAddAll l added).Nodup := by
  apply List.nodup_append.mpr
  refine ⟨hl.filter _, hadded, fun a ha b hb hab => ?_⟩
  obtain ⟨_, hnot⟩ := List.mem_filter.mp ha
  exact absurd (hab ▸ hb) (by simpa using hnot)

/-- The published numbers, without the empty ones. -/
theorem removeAddAll_filter (p : JString → Bool) (l added : List JString) :
    (removeAddAll l added).filter p = removeAddAll (l.filter p) (added.filter p) := by
  rw [removeAddAll, removeAddAll, List.filter_append, List.filter_filter, List.filter_filter]
  congr 1
  apply List.filter_congr
  intro a _
  cases hp : p a <;> simp [hp]

/-- A number that is not empty is published twice only if it is listed twice. -/
theorem simList_nodup (hnumbers : (numberList numbers).Nodup)
    (htable : ((table.map EccEntry.mEcc).filter (!·.isEmpty)).Nodup) :
    ((simList table numbers).filter (!·.isEmpty)).Nodup := by
  have hfixed : ((fixedList table).filter (!·.isEmpty)).Nodup :=
    htable.sublist ((List.filter_sublist.map EccEntry.mEcc).filter _)
  have hnoSim : ((fixedListNoSim table).filter (!·.isEmpty)).Nodup :=
    htable.sublist ((List.filter_sublist.map EccEntry.mEcc).filter _)
  have hlisted : ((numberList numbers).filter (!·.isEmpty)).Nodup := hnumbers.filter _
  have hpublished := removeAddAll_nodup hlisted hfixed
  unfold simList
  dsimp only
  split
  · rw [removeAddAll_filter, removeAddAll_filter]
    exact removeAddAll_nodup hpublished hnoSim
  · rw [removeAddAll_filter]
    exact hpublished

/-- What is published for a SIM is its updated list. -/
theorem updatesList_join (hcomma : ∀ eccEntry ∈ table, ',' ∉ eccEntry.mEcc) (numbers : JString) :
    UpdatesList table numbers (join ',' (simList table numbers)) := by
  have hlist := @numberList_join (simList table numbers) (comma_not_mem_simList hcomma)
  refine ⟨?_, fun hnumbers htable => ?_⟩
  · ext e
    have hmem : e ∈ numberList (join ',' (simList table numbers)) ↔ e ∈ simList table numbers ∧ e ≠ [] := by
      rw [hlist, List.mem_filter]
      simp
    change e ∈ numberList _ ↔
      e ∈ numberList _ ∨ e ∈ fixedNumbers table ∨ numbers = [] ∧ e ∈ noSimNumbers table
    rw [hmem, mem_simList, mem_numberList, mem_fixedNumbers, mem_noSimNumbers]
    have hnoSim : e ∈ fixedListNoSim table → e ≠ [] := fun he => (mem_fixedListNoSim.mp he).1
    tauto
  · rw [hlist]
    exact simList_nodup hnumbers htable

/-- A second update changes the numbers only if it finds an empty list where the first
one found another. -/
theorem numberSet_again_iff (hcomma : ∀ eccEntry ∈ table, ',' ∉ eccEntry.mEcc) (numbers : JString) :
    numberSet (join ',' (simList table (join ',' (simList table numbers)))) =
        numberSet (join ',' (simList table numbers)) ↔ PublishesOnce table numbers := by
  have hfirst := (updatesList_join hcomma numbers).numberSet_eq
  have hsecond := (updatesList_join hcomma (join ',' (simList table numbers))).numberSet_eq
  have hfixed : fixedNumbers table ⊆ numberSet (join ',' (simList table numbers)) := by
    rw [hfirst]
    exact fun e he => Or.inr (Or.inl he)
  rw [hsecond]
  by_cases hpublishes : Publishes table numbers
  · have hne := join_simList_ne_nil_iff.mpr hpublishes
    refine ⟨fun _ => Or.inl hpublishes, fun _ => ?_⟩
    ext e
    constructor
    · rintro (he | he | ⟨hnil, _⟩)
      · exact he
      · exact hfixed he
      · exact absurd hnil hne
    · exact Or.inl
  · have hnil : join ',' (simList table numbers) = [] := by
      by_contra hne
      exact hpublishes (join_simList_ne_nil_iff.mp hne)
    rw [hnil] at hfixed ⊢
    constructor
    · intro hsame
      apply Or.inr
      apply Set.eq_empty_iff_forall_notMem.mpr
      intro e he
      have hlisted : e ∈ numberSet [] := hsame ▸ Or.inr (Or.inr ⟨rfl, he⟩)
      exact absurd hlisted List.not_mem_nil
    · intro honce
      have hempty := honce.resolve_left hpublishes
      ext e
      constructor
      · rintro (he | he | ⟨_, he⟩)
        · exact he
        · exact hfixed he
        · rw [hempty] at he
          exact absurd he (Set.notMem_empty e)
      · exact Or.inl

/-- An update completes exactly if both lists are accepted. -/
theorem updateEmergencyNumbersProperty_eq_ok_iff {props' : Properties} :
    updateEmergencyNumbersProperty accepts table props = .ok () props' ↔
      props.Publishable accepts table ∧ props' = props.published table := by
  constructor
  · intro hupdate
    by_cases hpublishable : props.Publishable accepts table
    · rw [updateEmergencyNumbersProperty_of_publishable hpublishable] at hupdate
      cases hupdate
      exact ⟨hpublishable, rfl⟩
    · obtain ⟨_, hthrows⟩ := updateEmergencyNumbersProperty_of_not_publishable hpublishable
      rw [hthrows] at hupdate
      cases hupdate
  · rintro ⟨hpublishable, rfl⟩
    exact updateEmergencyNumbersProperty_of_publishable hpublishable

theorem published_eq {key : String} (hkey : key ∈ ["ril.ecclist", "ril.ecclist1"]) :
    props.published table key = join ',' (simList table (props key)) := by
  obtain rfl | hkey := List.mem_cons.mp hkey
  · rfl
  · obtain rfl := List.mem_singleton.mp hkey
    rfl

end

/-- Two updates set the lists as they are to exactly if all values are accepted, and
each SIM gets a number at once or there is none for calls without a SIM. -/
theorem updateEmergencyNumbersProperty_exact_iff {table : List EccEntry}
    (hcomma : ∀ eccEntry ∈ table, ',' ∉ eccEntry.mEcc) (accepts : JString → Bool) (props : Properties) :
    UpdatesExactly accepts table props ↔
      props.Publishable accepts table ∧ (props.published table).Publishable accepts table ∧
        PublishesOnce table (props "ril.ecclist") ∧ PublishesOnce table (props "ril.ecclist1") := by
  have hagain : ∀ key ∈ ["ril.ecclist", "ril.ecclist1"],
      numberSet ((props.published table).published table key) = numberSet (props.published table key) ↔
        PublishesOnce table (props key) := by
    intro key hkey
    rw [published_eq hkey, published_eq hkey]
    exact numberSet_again_iff hcomma (props key)
  constructor
  · rintro ⟨props', props'', hfirst, hsecond, hkeys⟩
    obtain ⟨hpublishable, rfl⟩ := updateEmergencyNumbersProperty_eq_ok_iff.mp hfirst
    obtain ⟨hpublishable', rfl⟩ := updateEmergencyNumbersProperty_eq_ok_iff.mp hsecond
    refine ⟨hpublishable, hpublishable', ?_, ?_⟩
    · exact (hagain _ (by simp)).mp (hkeys _ (by simp)).2
    · exact (hagain _ (by simp)).mp (hkeys _ (by simp)).2
  · rintro ⟨hpublishable, hpublishable', hsim1, hsim2⟩
    refine ⟨_, _, updateEmergencyNumbersProperty_of_publishable hpublishable,
      updateEmergencyNumbersProperty_of_publishable hpublishable', fun key hkey => ⟨?_, ?_⟩⟩
    · rw [published_eq hkey]
      exact updatesList_join hcomma (props key)
    · apply (hagain key hkey).mpr
      obtain rfl | hkey := List.mem_cons.mp hkey
      · exact hsim1
      · obtain rfl := List.mem_singleton.mp hkey
        exact hsim2

/-- A SIM that lists 112, and none in the other slot. -/
theorem update_112_exactly : UpdatesExactly fitsProperty sampleTable (simProperties ['1', '1', '2'] []) := by
  refine (updateEmergencyNumbersProperty_exact_iff (by decide) fitsProperty _).mpr
    ⟨by decide +kernel, by decide +kernel, ?_, ?_⟩
  · exact Or.inl (Or.inl ⟨['1', '1', '2'], by decide +kernel, by decide⟩)
  · exact Or.inl (Or.inr (Or.inl ⟨rfl, by decide⟩))

/-- A table with a number for calls without a SIM only. -/
def noSimTable : List EccEntry := [⟨['1', '1', '9'], ['0'], ['0']⟩]

/-- A list with nothing but a comma is published as an empty one, which the next update
takes for no SIM. -/
theorem update_comma_not_exactly :
    let props := simProperties [','] ['1', '1', '2']
    (props.published noSimTable) "ril.ecclist" = [] ∧
      ((props.published noSimTable).published noSimTable) "ril.ecclist" = ['1', '1', '9'] ∧
      ¬ UpdatesExactly fitsProperty noSimTable props := by
  intro props
  have hfirst : (props.published noSimTable) "ril.ecclist" = [] := by decide +kernel
  have hsecond : ((props.published noSimTable).published noSimTable) "ril.ecclist" = ['1', '1', '9'] := by
    decide +kernel
  refine ⟨hfirst, hsecond, ?_⟩
  rintro ⟨props', props'', hupdate, hupdate', hkeys⟩
  obtain ⟨_, rfl⟩ := updateEmergencyNumbersProperty_eq_ok_iff.mp hupdate
  obtain ⟨_, rfl⟩ := updateEmergencyNumbersProperty_eq_ok_iff.mp hupdate'
  have hsame := (hkeys "ril.ecclist" (by simp)).2
  rw [hfirst, hsecond] at hsame
  have hlisted : ['1', '1', '9'] ∈ numberSet [] := by
    rw [← hsame]
    change ['1', '1', '9'] ∈ numberList ['1', '1', '9']
    decide +kernel
  exact absurd hlisted List.not_mem_nil

end panelli.telephony
