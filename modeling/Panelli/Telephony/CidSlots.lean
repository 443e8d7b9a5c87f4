import Panelli.Telephony.DataCall

open panelli.runs

namespace panelli.telephony

/-- What changes the slots: answers to setup requests, and deactivations. -/
inductive CidAction where
  | answer (answer : SetupAnswer)
  | deactivateDataCall (cid : Int)
deriving DecidableEq

def cidStep (cids : DataCallCids) : CidAction → DataCallCids
  | .answer answer => answer.store cids
  | .deactivateDataCall cid => deactivateDataCall cids cid

/-- No cid is in two of the four slots. -/
def NoCidTwice (cids : DataCallCids) : Prop :=
  ∀ i ∈ visited, ∀ j ∈ visited, 0 ≤ cids i → cids i = cids j → i = j

/-- A cid that was just deactivated is in none of the four slots. -/
def ClearsCid (cids : DataCallCids) : CidAction → Prop
  | .answer _ => True
  | .deactivateDataCall cid => ∀ i ∈ visited, cidStep cids (.deactivateDataCall cid) i ≠ cid

/-- The cid that is decoded of an answer. -/
def SetupAnswer.cid : SetupAnswer → Option Int
  | .success cid => some cid
  | .failure cid => cid

/-- A cid that is stored is in no slot yet. The value of free slots is only deactivated
while there are none. -/
def StoresFresh (cids : DataCallCids) : CidAction → Prop
  | .answer answer => ∀ cid ∈ answer.cid, 0 ≤ cid → cids.firstFree = none ∨ ∀ i ∈ visited, cids i ≠ cid
  | .deactivateDataCall cid => cid = -1 → cids.firstFree = none

instance (cids : DataCallCids) : Decidable (NoCidTwice cids) :=
  inferInstanceAs (Decidable (∀ i ∈ visited, ∀ j ∈ visited, _))

instance (cids : DataCallCids) : ∀ act, Decidable (ClearsCid cids act)
  | .answer _ => isTrue trivial
  | .deactivateDataCall _ => inferInstanceAs (Decidable (∀ i ∈ visited, _ ≠ _))

instance (cids : DataCallCids) : ∀ act, Decidable (StoresFresh cids act)
  | .answer answer => inferInstanceAs (Decidable (∀ cid ∈ answer.cid,
    0 ≤ cid → cids.firstFree = none ∨ ∀ i ∈ visited, cids i ≠ cid))
  | .deactivateDataCall _ => inferInstanceAs (Decidable (_ = _ → _))

/-- The negative value of a slot is that of a free one. -/
def FreeIsMinusOne (cids : DataCallCids) : Prop := ∀ i, cids i < 0 → cids i = -1

section

variable {cids : DataCallCids} {cid : Int} {answer : SetupAnswer}

theorem store_of_none (hnone : answer.cid = none) : answer.store cids = cids := by
  cases answer with
  | success cid => cases hnone
  | failure decoded =>
    obtain rfl : decoded = none := hnone
    rfl

theorem store_of_some (hsome : answer.cid = some cid) : answer.store cids = storeCid cids cid := by
  cases answer with
  | success cid' =>
    obtain rfl := Option.some.inj hsome
    rfl
  | failure decoded =>
    obtain rfl : decoded = some cid := hsome
    rfl

theorem FreeIsMinusOne.storeCid (hfree : FreeIsMinusOne cids) (cid : Int) :
    FreeIsMinusOne (storeCid cids cid) := by
  unfold telephony.storeCid
  split
  · split
    next i _ =>
      intro j hj
      by_cases hji : j = i
      · rw [hji, Function.update_self] at hj
        omega
      · rw [Function.update_of_ne hji] at hj ⊢
        exact hfree j hj
    next => exact hfree
  · exact hfree

theorem FreeIsMinusOne.deactivateDataCall (hfree : FreeIsMinusOne cids) (cid : Int) :
    FreeIsMinusOne (deactivateDataCall cids cid) := by
  unfold telephony.deactivateDataCall
  split
  next i _ =>
    intro j hj
    by_cases hji : j = i
    · rw [hji, Function.update_self]
    · rw [Function.update_of_ne hji] at hj ⊢
      exact hfree j hj
  next => exact hfree

theorem FreeIsMinusOne.cidStep (hfree : FreeIsMinusOne cids) (act : CidAction) :
    FreeIsMinusOne (cidStep cids act) := by
  cases act with
  | deactivateDataCall cid => exact hfree.deactivateDataCall cid
  | answer answer =>
    change FreeIsMinusOne (answer.store cids)
    cases hcid : answer.cid with
    | none => rwa [store_of_none hcid]
    | some cid =>
      rw [store_of_some hcid]
      exact hfree.storeCid cid

/-- A cid that is stored is then in one slot only exactly if it was in none. -/
theorem storeCid_noCidTwice_iff (honce : NoCidTwice cids) (hcid : 0 ≤ cid) :
    NoCidTwice (storeCid cids cid) ↔ cids.firstFree = none ∨ ∀ i ∈ visited, cids i ≠ cid := by
  cases hfree : cids.firstFree with
  | none =>
    rw [storeCid_eq_self_iff.mpr (Or.inr hfree)]
    exact ⟨fun _ => Or.inl rfl, fun _ => honce⟩
  | some i =>
    obtain ⟨hi, hneg⟩ := DataCallCids.firstFree_eq_some hfree
    have hstore : storeCid cids cid = Function.update cids i cid := by
      rw [storeCid, if_pos hcid, hfree]
    rw [hstore]
    constructor
    · intro htwice
      refine Or.inr fun j hj heq => ?_
      have hne : j ≠ i := by
        rintro rfl
        omega
      apply hne
      apply htwice j hj i hi
      · rw [Function.update_of_ne hne, heq]
        exact hcid
      · rw [Function.update_of_ne hne, heq, Function.update_self]
    · rintro (habsurd | hfresh)
      · cases habsurd
      · exact update_cid_once hfresh honce

theorem answer_noCidTwice_iff (honce : NoCidTwice cids) :
    NoCidTwice (answer.store cids) ↔ StoresFresh cids (.answer answer) := by
  have hstores : StoresFresh cids (.answer answer) ↔ ∀ cid ∈ answer.cid,
      0 ≤ cid → cids.firstFree = none ∨ ∀ i ∈ visited, cids i ≠ cid := Iff.rfl
  rw [hstores]
  cases hcid : answer.cid with
  | none =>
    rw [store_of_none hcid]
    exact ⟨fun _ _ hmem => absurd hmem (Option.not_mem_none _), fun _ => honce⟩
  | some cid =>
    rw [store_of_some hcid]
    simp only [Option.mem_some_iff, forall_eq']
    by_cases hpos : 0 ≤ cid
    · rw [storeCid_noCidTwice_iff honce hpos]
      exact ⟨fun hfresh _ => hfresh, fun hfresh => hfresh hpos⟩
    · rw [storeCid_eq_self_iff.mpr (Or.inl (Int.not_le.mp hpos))]
      exact ⟨fun _ habsurd => absurd habsurd hpos, fun _ => honce⟩

/-- A deactivation keeps cids from being in two slots. -/
theorem deactivateDataCall_noCidTwice (honce : NoCidTwice cids) (cid : Int) :
    NoCidTwice (deactivateDataCall cids cid) := by
  intro i hi j hj hpos heq
  obtain ⟨hiff, hsame⟩ := deactivateDataCall_slot honce cid hi
  have hpos' : 0 ≤ deactivateDataCall cids cid j := heq ▸ hpos
  apply honce i hi j hj (hiff.mp hpos).1
  rw [← hsame hpos, heq, (deactivateDataCall_slot honce cid hj).2 hpos']

theorem deactivateDataCall_minus_one (cids : DataCallCids) : deactivateDataCall cids (-1) = cids := by
  unfold deactivateDataCall
  split
  next i hfind =>
    have hi : cids i = -1 := by simpa using List.find?_some hfind
    rw [← hi, Function.update_eq_self]
  next => rfl

/-- A cid is in no slot after it was deactivated, unless it is the value of free slots. -/
theorem deactivateDataCall_clears_iff (hfree : FreeIsMinusOne cids) (honce : NoCidTwice cids) :
    (∀ i ∈ visited, deactivateDataCall cids cid i ≠ cid) ↔ (cid = -1 → cids.firstFree = none) := by
  by_cases hpos : 0 ≤ cid
  · refine ⟨fun _ habsurd => by omega, fun _ i hi heq => ?_⟩
    obtain ⟨hiff, hsame⟩ := deactivateDataCall_slot honce cid hi
    have hslot : 0 ≤ deactivateDataCall cids cid i := heq.symm ▸ hpos
    exact (hiff.mp hslot).2 ((hsame hslot).symm.trans heq)
  · by_cases hminus : cid = -1
    · rw [hminus, deactivateDataCall_minus_one]
      constructor
      · intro hclears _
        apply List.find?_eq_none.mpr
        intro i hi hneg
        exact hclears i hi (hfree i (by simpa using hneg))
      · intro hfull i hi heq
        have hnonneg := DataCallCids.firstFree_eq_none (hfull rfl) i hi
        omega
    · refine ⟨fun _ heq => absurd heq hminus, fun _ i _ heq => ?_⟩
      have hslot := hfree.deactivateDataCall cid i (by omega)
      omega

/-- One action keeps what is to hold exactly if it stores no cid that is in a slot. -/
theorem cidStep_exact (act : CidAction) (hfree : FreeIsMinusOne cids) (honce : NoCidTwice cids) :
    NoCidTwice (cidStep cids act) ∧ ClearsCid cids act ↔ StoresFresh cids act := by
  cases act with
  | answer answer => exact (and_iff_left trivial).trans (answer_noCidTwice_iff honce)
  | deactivateDataCall cid =>
    exact (and_iff_right (deactivateDataCall_noCidTwice honce cid)).trans
      (deactivateDataCall_clears_iff hfree honce)

end

/-- In a run, no cid is ever in two slots, and none that was just deactivated in any,
exactly if each cid is stored while it is in none and -1 only deactivated while no slot is free. -/
theorem run_noCidTwice_iff (acts : List CidAction) :
    StatesHold cidStep NoCidTwice .initial acts ∧ StepsHold cidStep ClearsCid .initial acts ↔
      StepsHold cidStep StoresFresh .initial acts := by
  have hfree : FreeIsMinusOne .initial := fun _ _ => rfl
  have honce : NoCidTwice .initial := by decide
  exact statesHold_and_stepsHold_iff (I := FreeIsMinusOne) (fun _ act hfree honce => cidStep_exact act hfree honce)
    (fun _ act hfree => hfree.cidStep act) hfree honce acts

/-- A cid that is reported again: it is in two slots, and in one still after it was deactivated. -/
theorem cid_reported_twice :
    ¬ StatesHold cidStep NoCidTwice .initial [.answer (.success 1), .answer (.success 1)] ∧
      ¬ StepsHold cidStep ClearsCid .initial
        [.answer (.success 1), .answer (.success 1), .deactivateDataCall 1] := by
  decide

end panelli.telephony
