import Mathlib.Data.List.Basic

namespace panelli.filling

/-- Each limit admits one more than those before it, counted from a number on. -/
def Ascends : Nat → List Int → Prop
  | _, [] => True
  | i, limit :: limits => (i : Int) < limit ∧ Ascends (i + 1) limits

/-- As many of the limits as this can be chosen, in order, such that each admits
those up to it, counted from a number on. -/
def CanFill (i : Nat) (limits : List Int) (n : Nat) : Prop :=
  ∃ chosen, chosen.Sublist limits ∧ chosen.length = n ∧ Ascends i chosen

/-- The number that is reached when every limit that admits one more is taken. -/
def fillFrom : Nat → List Int → Nat
  | i, [] => i
  | i, limit :: limits => fillFrom (if (i : Int) < limit then i + 1 else i) limits

section

variable {i j n : Nat} {limit : Int} {limits : List Int}

theorem fillFrom_mono (hle : i ≤ j) (limits : List Int) : fillFrom i limits ≤ fillFrom j limits := by
  induction limits generalizing i j with
  | nil => exact hle
  | cons limit limits ih =>
    apply ih
    split_ifs
    · omega
    · omega
    · omega
    · omega

theorem le_fillFrom (i : Nat) (limits : List Int) : i ≤ fillFrom i limits := by
  induction limits generalizing i with
  | nil => exact Nat.le_refl i
  | cons limit limits ih =>
    apply Nat.le_trans _ (ih _)
    split_ifs
    · exact Nat.le_succ i
    · exact Nat.le_refl i

theorem canFill_zero (i : Nat) (limits : List Int) : CanFill i limits 0 :=
  ⟨[], List.nil_sublist _, rfl, trivial⟩

/-- A limit in front is chosen first, or not at all. -/
theorem canFill_cons_iff : CanFill i (limit :: limits) (n + 1) ↔
    CanFill i limits (n + 1) ∨ (i : Int) < limit ∧ CanFill (i + 1) limits n := by
  constructor
  · rintro ⟨chosen, hsub, hlength, hascends⟩
    cases hsub with
    | cons _ hrest => exact Or.inl ⟨chosen, hrest, hlength, hascends⟩
    | cons_cons _ hrest =>
      obtain ⟨hlt, hascends⟩ := hascends
      exact Or.inr ⟨hlt, _, hrest, Nat.succ.inj hlength, hascends⟩
  · rintro (⟨chosen, hsub, hlength, hascends⟩ | ⟨hlt, chosen, hsub, hlength, hascends⟩)
    · exact ⟨chosen, hsub.cons _, hlength, hascends⟩
    · exact ⟨limit :: chosen, hsub.cons_cons _, congrArg Nat.succ hlength, hlt, hascends⟩

/-- Taking every limit that admits one more reaches as far as any choice. -/
theorem canFill_iff : CanFill i limits n ↔ i + n ≤ fillFrom i limits := by
  induction limits generalizing i n with
  | nil =>
    constructor
    · rintro ⟨chosen, hsub, rfl, _⟩
      obtain rfl := List.sublist_nil.mp hsub
      exact Nat.le_refl i
    · intro hle
      rw [fillFrom] at hle
      obtain rfl : n = 0 := by omega
      exact canFill_zero i []
  | cons limit limits ih =>
    cases n with
    | zero =>
      constructor
      · exact fun _ => le_fillFrom i _
      · exact fun _ => canFill_zero i _
    | succ n =>
      rw [canFill_cons_iff, ih, ih, fillFrom]
      split_ifs with hlt
      · have hmono := fillFrom_mono (Nat.le_succ i) limits
        constructor
        · rintro (hle | ⟨_, hle⟩)
          · exact Nat.le_trans hle hmono
          · omega
        · intro hle
          exact Or.inr ⟨hlt, by omega⟩
      · constructor
        · rintro (hle | ⟨hlimit, _⟩)
          · exact hle
          · exact absurd hlimit hlt
        · exact Or.inl

/-- The number that is reached from zero is the most that can be chosen. -/
theorem fillFrom_eq_iff : fillFrom 0 limits = n ↔ CanFill 0 limits n ∧ ¬ CanFill 0 limits (n + 1) := by
  rw [canFill_iff, canFill_iff]
  omega

end

end panelli.filling
