import Panelli.Telephony.EccList

open panelli.java

namespace panelli.telephony

variable {table : List EccEntry} {network : List (JString × Int)} {numbers sim1 sim2 n : JString}

/-- Some entry for calls without a SIM is for the number. -/
def NoSimMatches (table : List EccEntry) (n : JString) : Prop :=
  ∃ eccEntry ∈ table, eccEntry.mCondition = ECC_NO_SIM ∧ eccMatches eccEntry.mEcc n

/-- The SIM list has a number that is not blank and matches. -/
def SimMatches (numbers n : JString) : Prop := ∃ e ∈ split ',' numbers, e ≠ [] ∧ eccMatches e n

/-- The SIM list has a blank among its numbers, and blanks match. -/
def BlankMatches (numbers n : JString) : Prop := numbers ≠ [] ∧ [] ∈ split ',' numbers ∧ eccMatches [] n

/-- Some entry for calls with and without a SIM is for the number. -/
def FixedMatches (table : List EccEntry) (n : JString) : Prop := ∃ e ∈ fixedList table, eccMatches e n

/-- The number is listed in a way the update does not touch. -/
def AlwaysMatches (table : List EccEntry) (network : List (JString × Int)) (sim1 sim2 n : JString) : Prop :=
  (∃ entry ∈ network, eccMatches entry.1 n) ∨ SimMatches sim1 n ∨ SimMatches sim2 n ∨ FixedMatches table n

/-- There is something to publish for the SIM: a number of its own list, an entry
for calls without a SIM when its list is empty, or fixed entries. -/
def Publishes (table : List EccEntry) (numbers : JString) : Prop :=
  (∃ e ∈ split ',' numbers, e ≠ []) ∨ (numbers = [] ∧ fixedListNoSim table ≠ []) ∨
    (fixedList table ≠ [] ∧ fixedList table ≠ [[]])

theorem mem_fixedListNoSim {e : JString} : e ∈ fixedListNoSim table ↔
    e ≠ [] ∧ ∃ eccEntry ∈ table, eccEntry.mCondition = ECC_NO_SIM ∧ eccEntry.mEcc = e := by
  simp only [fixedListNoSim, List.mem_map, List.mem_filter, Bool.and_eq_true, beq_iff_eq, Bool.not_eq_true',
    List.isEmpty_eq_false_iff]
  constructor
  · rintro ⟨eccEntry, ⟨hmem, hcondition, hne⟩, rfl⟩
    exact ⟨hne, eccEntry, hmem, hcondition, rfl⟩
  · rintro ⟨hne, eccEntry, hmem, hcondition, rfl⟩
    exact ⟨eccEntry, ⟨hmem, hcondition, hne⟩, rfl⟩

theorem mem_removeAddAll {l added : List JString} {e : JString} :
    e ∈ removeAddAll l added ↔ e ∈ l ∨ e ∈ added := by
  simp only [removeAddAll, List.mem_append, List.mem_filter, decide_eq_true_eq]
  tauto

theorem mem_simList {e : JString} : e ∈ simList table numbers ↔
    (e ∈ split ',' numbers ∧ e ≠ []) ∨ e ∈ fixedList table ∨ (numbers = [] ∧ e ∈ fixedListNoSim table) := by
  have hpieces : e ∈ (split ',' numbers).filter (!·.isEmpty) ↔ e ∈ split ',' numbers ∧ e ≠ [] := by
    simp [List.mem_filter]
  unfold simList
  by_cases hnumbers : numbers = []
  · subst hnumbers
    simp only [List.isEmpty_nil, if_true, mem_removeAddAll, hpieces, true_and, or_assoc]
  · have hempty : ¬ numbers.isEmpty = true := by simpa using hnumbers
    simp only [if_neg hempty, mem_removeAddAll, hpieces, hnumbers, false_and, or_false]

/-- What a table without commas publishes has no commas inside its numbers. -/
theorem comma_not_mem_simList (hcomma : ∀ eccEntry ∈ table, ',' ∉ eccEntry.mEcc) :
    ∀ e ∈ simList table numbers, ',' ∉ e := by
  intro e he
  obtain ⟨hpiece, _⟩ | hfixed | ⟨_, hnoSim⟩ := mem_simList.mp he
  · exact not_mem_of_mem_splitOn (mem_splitOn_of_mem_split hpiece)
  · obtain ⟨eccEntry, hentry, rfl⟩ := List.mem_map.mp hfixed
    exact hcomma eccEntry (List.mem_of_mem_filter hentry)
  · obtain ⟨_, eccEntry, hentry, _, rfl⟩ := mem_fixedListNoSim.mp hnoSim
    exact hcomma eccEntry hentry

theorem ne_blank_of_mem {l : List JString} {e : JString} (he : e ∈ l) (hne : e ≠ []) : l ≠ [] ∧ l ≠ [[]] := by
  refine ⟨List.ne_nil_of_mem he, ?_⟩
  rintro rfl
  exact hne (List.mem_singleton.mp he)

/-- Fixed entries that are all blank are published as they stand. -/
theorem fixedList_sublist_simList (hblank : ∀ e ∈ fixedList table, e = []) :
    (fixedList table).Sublist (simList table numbers) := by
  unfold simList
  split
  · refine List.Sublist.trans ?_ (List.sublist_append_left _ _)
    have hkept : (fixedList table).filter (· ∉ fixedListNoSim table) = fixedList table := by
      refine List.filter_eq_self.mpr fun e he => ?_
      have hnot : e ∉ fixedListNoSim table := fun hmem => (mem_fixedListNoSim.mp hmem).1 (hblank e he)
      simpa using hnot
    have hfiltered := (List.sublist_append_right ((((split ',' numbers).filter (!·.isEmpty)).filter
      (· ∉ fixedList table))) (fixedList table)).filter (· ∉ fixedListNoSim table)
    rwa [hkept] at hfiltered
  · exact List.sublist_append_right _ _

/-- With neither numbers of its own nor entries for no SIM, a list gets the fixed entries. -/
theorem simList_eq_fixedList (hpieces : ¬ ∃ e ∈ split ',' numbers, e ≠ [])
    (hnoSim : ¬ (numbers = [] ∧ fixedListNoSim table ≠ [])) : simList table numbers = fixedList table := by
  have hnone : (split ',' numbers).filter (!·.isEmpty) = [] := by
    refine List.filter_eq_nil_iff.mpr fun e he => ?_
    have hblank : e = [] := by
      by_contra hne
      exact hpieces ⟨e, he, hne⟩
    simp [hblank]
  unfold simList
  by_cases hnumbers : numbers = []
  · have hempty : fixedListNoSim table = [] := by
      by_contra hne
      exact hnoSim ⟨hnumbers, hne⟩
    simp [hnone, hempty, removeAddAll]
  · simp [hnone, hnumbers, removeAddAll]

/-- The published property is empty exactly when there is nothing to publish. -/
theorem join_simList_ne_nil_iff : join ',' (simList table numbers) ≠ [] ↔ Publishes table numbers := by
  rw [ne_eq, join_eq_nil_iff, not_or]
  constructor
  · intro hne
    by_cases hpieces : ∃ e ∈ split ',' numbers, e ≠ []
    · exact Or.inl hpieces
    · by_cases hnoSim : numbers = [] ∧ fixedListNoSim table ≠ []
      · exact Or.inr (Or.inl hnoSim)
      · rw [simList_eq_fixedList hpieces hnoSim] at hne
        exact Or.inr (Or.inr hne)
  · rintro (⟨e, he, hne⟩ | ⟨hnumbers, hnoSim⟩ | ⟨hfixed, hblank⟩)
    · exact ne_blank_of_mem (mem_simList.mpr (Or.inl ⟨he, hne⟩)) hne
    · obtain ⟨e, he⟩ := List.exists_mem_of_ne_nil _ hnoSim
      have hne := (mem_fixedListNoSim.mp he).1
      exact ne_blank_of_mem (mem_simList.mpr (Or.inr (Or.inr ⟨hnumbers, he⟩))) hne
    · by_cases hall : ∀ e ∈ fixedList table, e = []
      · have hsub := @fixedList_sublist_simList table numbers hall
        constructor <;> intro heq <;> rw [heq] at hsub
        · exact hfixed (List.sublist_nil.mp hsub)
        · exact (List.sublist_singleton.mp hsub).elim hfixed hblank
      · simp only [not_forall] at hall
        obtain ⟨e, he, hne⟩ := hall
        exact ne_blank_of_mem (mem_simList.mpr (Or.inr (Or.inl he))) hne

theorem simListMatches_iff : simListMatches numbers n = true ↔ SimMatches numbers n ∨ BlankMatches numbers n := by
  simp only [simListMatches, Bool.and_eq_true, Bool.not_eq_true', List.isEmpty_eq_false_iff, List.any_eq_true,
    SimMatches, BlankMatches]
  constructor
  · rintro ⟨hnumbers, e, he, hmatches⟩
    by_cases hne : e = []
    · subst hne
      exact Or.inr ⟨hnumbers, he, hmatches⟩
    · exact Or.inl ⟨e, he, hne, hmatches⟩
  · rintro (⟨e, he, hne, hmatches⟩ | ⟨hnumbers, he, hmatches⟩)
    · refine ⟨?_, e, he, hmatches⟩
      rintro rfl
      exact hne (List.mem_singleton.mp he)
    · exact ⟨hnumbers, [], he, hmatches⟩

/-- The published list of a SIM and the fixed entries together match what the SIM
listed, what is fixed, and what an empty list was given for no SIM. -/
theorem simListMatches_published_iff (hcomma : ∀ eccEntry ∈ table, ',' ∉ eccEntry.mEcc) :
    (simListMatches (join ',' (simList table numbers)) n = true ∨ FixedMatches table n) ↔
      SimMatches numbers n ∨ (numbers = [] ∧ ∃ e ∈ fixedListNoSim table, eccMatches e n) ∨
        FixedMatches table n := by
  have hfree : ∀ e ∈ simList table numbers, ',' ∉ e := comma_not_mem_simList hcomma
  have hpublished : ∀ e ∈ simList table numbers, e ≠ [] → eccMatches e n →
      simListMatches (join ',' (simList table numbers)) n = true := by
    intro e he hne hmatches
    exact simListMatches_iff.mpr (Or.inl ⟨e, (mem_split_join_iff hfree hne).mpr he, hne, hmatches⟩)
  constructor
  · rintro (hlist | hfixed)
    · have hpiece : ∃ e ∈ simList table numbers, eccMatches e n := by
        simp only [simListMatches, Bool.and_eq_true, Bool.not_eq_true', List.isEmpty_eq_false_iff,
          List.any_eq_true] at hlist
        obtain ⟨hnonempty, e, he, hmatches⟩ := hlist
        exact ⟨e, mem_of_mem_split_join hfree hnonempty he, hmatches⟩
      obtain ⟨e, he, hmatches⟩ := hpiece
      obtain ⟨hpiece, hne⟩ | hfixed | ⟨hnumbers, hnoSim⟩ := mem_simList.mp he
      · exact Or.inl ⟨e, hpiece, hne, hmatches⟩
      · exact Or.inr (Or.inr ⟨e, hfixed, hmatches⟩)
      · exact Or.inr (Or.inl ⟨hnumbers, e, hnoSim, hmatches⟩)
    · exact Or.inr (Or.inr hfixed)
  · rintro (⟨e, he, hne, hmatches⟩ | ⟨hnumbers, e, he, hmatches⟩ | hfixed)
    · exact Or.inl (hpublished e (mem_simList.mpr (Or.inl ⟨he, hne⟩)) hne hmatches)
    · have hne := (mem_fixedListNoSim.mp he).1
      exact Or.inl (hpublished e (mem_simList.mpr (Or.inr (Or.inr ⟨hnumbers, he⟩))) hne hmatches)
    · exact Or.inr hfixed

/-- The table recognises fixed numbers always, the others while no SIM is seen. -/
theorem customizedMatches_iff {bSIMInserted : Bool} : customizedMatches table bSIMInserted n = true ↔
    FixedMatches table n ∨ (bSIMInserted = false ∧ NoSimMatches table n) := by
  have hfixed : FixedMatches table n ↔
      ∃ eccEntry ∈ table, eccEntry.mCondition ≠ ECC_NO_SIM ∧ eccMatches eccEntry.mEcc n := by
    simp only [FixedMatches, fixedList, List.mem_map, List.mem_filter, bne_iff_ne]
    constructor
    · rintro ⟨_, ⟨eccEntry, ⟨hmem, hcondition⟩, rfl⟩, hmatches⟩
      exact ⟨eccEntry, hmem, hcondition, hmatches⟩
    · rintro ⟨eccEntry, hmem, hcondition, hmatches⟩
      exact ⟨_, ⟨eccEntry, ⟨hmem, hcondition⟩, rfl⟩, hmatches⟩
  rw [hfixed]
  cases bSIMInserted with
  | true => simp [customizedMatches]
  | false =>
    simp only [customizedMatches, NoSimMatches, List.any_eq_true, true_and, Bool.false_eq_true, if_false]
    constructor
    · rintro ⟨eccEntry, hmem, hmatches⟩
      by_cases hcondition : eccEntry.mCondition = ECC_NO_SIM
      · exact Or.inr ⟨eccEntry, hmem, hcondition, hmatches⟩
      · exact Or.inl ⟨eccEntry, hmem, hcondition, hmatches⟩
    · rintro (⟨eccEntry, hmem, _, hmatches⟩ | ⟨eccEntry, hmem, _, hmatches⟩) <;>
        exact ⟨eccEntry, hmem, hmatches⟩

/-- A numbered entry for calls without a SIM is for the number. -/
def NumberedNoSimMatches (table : List EccEntry) (n : JString) : Prop :=
  ∃ e ∈ fixedListNoSim table, eccMatches e n

/-- The update publishes nothing, for neither SIM. -/
def PublishesNothing (table : List EccEntry) (sim1 sim2 : JString) : Prop :=
  ¬ Publishes table sim1 ∧ ¬ Publishes table sim2

/-- The answer for a stripped number, given the network list and the SIM lists. -/
def recognised (table : List EccEntry) (network : List (JString × Int)) (sim1 sim2 n : JString) : Bool :=
  (network.any fun entry => eccMatches entry.1 n) || (simListMatches sim1 n || (simListMatches sim2 n ||
    customizedMatches table (!sim1.isEmpty || !sim2.isEmpty) n))

theorem isEmergencyNumberExt_some (extractNetworkPortionAlt : JString → JString) (props : Properties)
    (address : JString) : isEmergencyNumberExt extractNetworkPortionAlt table props (some address) =
      (networkEccCategory (props "ril.ecc.service.category.list")).map fun network =>
        recognised table network (props "ril.ecclist") (props "ril.ecclist1")
          (extractNetworkPortionAlt address) := by
  unfold isEmergencyNumberExt recognised
  cases networkEccCategory (props "ril.ecc.service.category.list") with
  | error thrown => rfl
  | ok network =>
    simp only [bind, Except.bind, Except.map, pure, Except.pure]
    cases network.any fun entry => eccMatches entry.1 (extractNetworkPortionAlt address) <;>
      cases simListMatches (props "ril.ecclist") (extractNetworkPortionAlt address) <;>
      cases simListMatches (props "ril.ecclist1") (extractNetworkPortionAlt address) <;> rfl

theorem recognised_iff : recognised table network sim1 sim2 n = true ↔
    AlwaysMatches table network sim1 sim2 n ∨ BlankMatches sim1 n ∨ BlankMatches sim2 n ∨
      (sim1 = [] ∧ sim2 = [] ∧ NoSimMatches table n) := by
  have hinserted : (!sim1.isEmpty || !sim2.isEmpty) = false ↔ sim1 = [] ∧ sim2 = [] := by simp
  simp only [recognised, Bool.or_eq_true, simListMatches_iff, customizedMatches_iff, hinserted, AlwaysMatches,
    List.any_eq_true]
  simp only [and_assoc, or_assoc, or_comm, or_left_comm]

theorem recognised_published_iff (hcomma : ∀ eccEntry ∈ table, ',' ∉ eccEntry.mEcc) :
    recognised table network (join ',' (simList table sim1)) (join ',' (simList table sim2)) n = true ↔
      AlwaysMatches table network sim1 sim2 n ∨ ((sim1 = [] ∨ sim2 = []) ∧ NumberedNoSimMatches table n) ∨
        (PublishesNothing table sim1 sim2 ∧ NoSimMatches table n) := by
  have hinserted : (!(join ',' (simList table sim1)).isEmpty || !(join ',' (simList table sim2)).isEmpty) = false ↔
      PublishesNothing table sim1 sim2 := by
    rw [PublishesNothing, ← join_simList_ne_nil_iff, ← join_simList_ne_nil_iff]
    simp
  have hsim1 := @simListMatches_published_iff table sim1 n hcomma
  have hsim2 := @simListMatches_published_iff table sim2 n hcomma
  simp only [recognised, Bool.or_eq_true, customizedMatches_iff, hinserted, AlwaysMatches, List.any_eq_true]
  change _ ↔ SimMatches sim1 n ∨ (sim1 = [] ∧ NumberedNoSimMatches table n) ∨ FixedMatches table n at hsim1
  change _ ↔ SimMatches sim2 n ∨ (sim2 = [] ∧ NumberedNoSimMatches table n) ∨ FixedMatches table n at hsim2
  generalize (∃ entry ∈ network, eccMatches entry.1 n = true) = inNetwork
  generalize (simListMatches (join ',' (simList table sim1)) n = true) = published1 at hsim1 ⊢
  generalize (simListMatches (join ',' (simList table sim2)) n = true) = published2 at hsim2 ⊢
  by_cases hfixed : FixedMatches table n
  · simp only [hfixed, or_true, true_or]
  · simp only [hfixed, or_false, false_or] at hsim1 hsim2 ⊢
    rw [hsim1, hsim2]
    grind

/-- When the update keeps the answer for a stripped number. Blanks only match the
empty number and a lone plus. -/
def KeepsAnswer (table : List EccEntry) (network : List (JString × Int)) (sim1 sim2 n : JString) : Prop :=
  AlwaysMatches table network sim1 sim2 n ∨
    (sim1 = [] ∧ sim2 = [] ∧
      (NoSimMatches table n → NumberedNoSimMatches table n ∨ PublishesNothing table sim1 sim2)) ∨
    ((sim1 = [] ↔ sim2 ≠ []) ∧ (BlankMatches sim1 n ∨ BlankMatches sim2 n ↔
      NumberedNoSimMatches table n ∨ (PublishesNothing table sim1 sim2 ∧ NoSimMatches table n))) ∨
    (sim1 ≠ [] ∧ sim2 ≠ [] ∧ ¬ BlankMatches sim1 n ∧ ¬ BlankMatches sim2 n ∧
      ¬ (PublishesNothing table sim1 sim2 ∧ NoSimMatches table n))

theorem BlankMatches.publishes (hblank : BlankMatches numbers n) : Publishes table numbers :=
  Or.inl (exists_ne_nil_of_mem_split hblank.1 hblank.2.1)

theorem NumberedNoSimMatches.noSimMatches (hnumbered : NumberedNoSimMatches table n) :
    NoSimMatches table n := by
  obtain ⟨e, he, hmatches⟩ := hnumbered
  obtain ⟨_, eccEntry, hmem, hcondition, rfl⟩ := mem_fixedListNoSim.mp he
  exact ⟨eccEntry, hmem, hcondition, hmatches⟩

theorem recognised_published_eq_iff (hcomma : ∀ eccEntry ∈ table, ',' ∉ eccEntry.mEcc) :
    recognised table network (join ',' (simList table sim1)) (join ',' (simList table sim2)) n =
      recognised table network sim1 sim2 n ↔ KeepsAnswer table network sim1 sim2 n := by
  rw [Bool.eq_iff_iff, recognised_published_iff hcomma, recognised_iff]
  have hblank1 : BlankMatches sim1 n → sim1 ≠ [] ∧ ¬ PublishesNothing table sim1 sim2 :=
    fun hblank => ⟨hblank.1, fun hnothing => hnothing.1 hblank.publishes⟩
  have hblank2 : BlankMatches sim2 n → sim2 ≠ [] ∧ ¬ PublishesNothing table sim1 sim2 :=
    fun hblank => ⟨hblank.1, fun hnothing => hnothing.2 hblank.publishes⟩
  have hnumbered : NumberedNoSimMatches table n → NoSimMatches table n :=
    NumberedNoSimMatches.noSimMatches
  unfold KeepsAnswer
  by_cases hsim1 : sim1 = [] <;> by_cases hsim2 : sim2 = [] <;>
    simp only [hsim1, hsim2, ne_eq, not_true_eq_false, not_false_eq_true, true_and, false_and, true_or,
      false_or, or_false, iff_true, iff_false] at hblank1 hblank2 ⊢ <;> grind

/-- For a number blanks do not match, the update changes the answer only for the
entries without a SIM: when exactly one SIM list is empty, or when neither is but
nothing is published. -/
theorem keepsAnswer_iff_of_not_blank (hblank : ¬ eccMatches [] n) : KeepsAnswer table network sim1 sim2 n ↔
    AlwaysMatches table network sim1 sim2 n ∨ ¬ NoSimMatches table n ∨ (sim1 = [] ∧ sim2 = []) ∨
      (sim1 ≠ [] ∧ sim2 ≠ [] ∧ ¬ PublishesNothing table sim1 sim2) := by
  have hnumbered : NumberedNoSimMatches table n ↔ NoSimMatches table n := by
    refine ⟨NumberedNoSimMatches.noSimMatches, ?_⟩
    rintro ⟨eccEntry, hmem, hcondition, hmatches⟩
    refine ⟨eccEntry.mEcc, mem_fixedListNoSim.mpr ⟨?_, eccEntry, hmem, hcondition, rfl⟩, hmatches⟩
    intro hnil
    exact hblank (hnil ▸ hmatches)
  have hblank1 : ¬ BlankMatches sim1 n := fun hb => hblank hb.2.2
  have hblank2 : ¬ BlankMatches sim2 n := fun hb => hblank hb.2.2
  unfold KeepsAnswer
  simp only [hnumbered, hblank1, hblank2]
  by_cases hsim1 : sim1 = [] <;> by_cases hsim2 : sim2 = [] <;> simp only [hsim1, hsim2] <;> grind

/-- What a completed update leaves in the three properties. -/
theorem updateEmergencyNumbersProperty_ok {accepts : JString → Bool} {props props' : Properties}
    (hupdate : updateEmergencyNumbersProperty accepts table props = .ok () props') :
    props' "ril.ecc.service.category.list" = props "ril.ecc.service.category.list" ∧
      props' "ril.ecclist" = join ',' (simList table (props "ril.ecclist")) ∧
      props' "ril.ecclist1" = join ',' (simList table (props "ril.ecclist1")) := by
  by_cases hpublishable : props.Publishable accepts table
  · rw [updateEmergencyNumbersProperty_of_publishable hpublishable] at hupdate
    cases hupdate
    exact ⟨rfl, rfl, rfl⟩
  · obtain ⟨_, hthrows⟩ := updateEmergencyNumbersProperty_of_not_publishable hpublishable
    rw [hthrows] at hupdate
    cases hupdate

/-- The update keeps the answer for an address exactly when it keeps it for the
stripped number, and for every address the lists cannot be read for. -/
theorem isEmergencyNumberExt_update_eq_iff (extractNetworkPortionAlt : JString → JString)
    {accepts : JString → Bool} {props props' : Properties} (hcomma : ∀ eccEntry ∈ table, ',' ∉ eccEntry.mEcc)
    (hupdate : updateEmergencyNumbersProperty accepts table props = .ok () props') (number : Option JString) :
    isEmergencyNumberExt extractNetworkPortionAlt table props' number =
      isEmergencyNumberExt extractNetworkPortionAlt table props number ↔
      ∀ address ∈ number, ∀ network,
        networkEccCategory (props "ril.ecc.service.category.list") = .ok network →
          KeepsAnswer table network (props "ril.ecclist") (props "ril.ecclist1")
            (extractNetworkPortionAlt address) := by
  obtain ⟨hlist, hsim1, hsim2⟩ := updateEmergencyNumbersProperty_ok hupdate
  cases number with
  | none => simp [isEmergencyNumberExt]
  | some address =>
    rw [isEmergencyNumberExt_some, isEmergencyNumberExt_some, hlist, hsim1, hsim2]
    cases networkEccCategory (props "ril.ecc.service.category.list") with
    | error thrown => simp [Except.map]
    | ok network =>
      simp only [Except.map, Except.ok.injEq, recognised_published_eq_iff hcomma, Option.mem_some_iff,
        forall_eq']

/-- A table with one entry for every situation and one for calls without a SIM. -/
def sampleTable : List EccEntry := [⟨['1', '1', '2'], ['0'], ['1']⟩, ⟨['1', '1', '9'], ['0'], ['0']⟩]

/-- The properties of a phone whose SIM lists are the given ones. -/
def simProperties (sim1 sim2 : JString) : Properties :=
  Function.update (Function.update (fun _ => []) "ril.ecclist" sim1) "ril.ecclist1" sim2

theorem no_sim_keeps_answer : isEmergencyNumberExt id sampleTable
    ((simProperties [] []).published sampleTable) (some ['1', '1', '9']) =
      isEmergencyNumberExt id sampleTable (simProperties [] []) (some ['1', '1', '9']) := by
  have hupdate : updateEmergencyNumbersProperty fitsProperty sampleTable (simProperties [] []) =
      .ok () ((simProperties [] []).published sampleTable) :=
    updateEmergencyNumbersProperty_of_publishable (by decide +kernel)
  refine (isEmergencyNumberExt_update_eq_iff id (by decide) hupdate _).mpr fun address haddress network _ => ?_
  obtain rfl : ['1', '1', '9'] = address := Option.some.inj haddress
  exact (keepsAnswer_iff_of_not_blank (by decide)).mpr (Or.inr (Or.inr (Or.inl ⟨rfl, rfl⟩)))

/-- With a list for one SIM only, the other slot gets the entries for no SIM. -/
theorem one_sim_list_changes_answer : ¬ ∀ extractNetworkPortionAlt accepts table props props',
    (∀ eccEntry ∈ table, ',' ∉ eccEntry.mEcc) →
    updateEmergencyNumbersProperty accepts table props = .ok () props' → ∀ number,
      isEmergencyNumberExt extractNetworkPortionAlt table props' number =
        isEmergencyNumberExt extractNetworkPortionAlt table props number := by
  intro hall
  have hupdate : updateEmergencyNumbersProperty fitsProperty sampleTable
      (simProperties ['1', '1', '2'] []) = .ok () ((simProperties ['1', '1', '2'] []).published sampleTable) :=
    updateEmergencyNumbersProperty_of_publishable (by decide +kernel)
  have hsame := hall id _ sampleTable _ _ (by decide) hupdate (some ['1', '1', '9'])
  revert hsame
  decide +kernel

end panelli.telephony
