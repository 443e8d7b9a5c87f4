import Mathlib.Data.List.Perm.Basic
import Mathlib.Logic.Function.Basic

namespace panelli.blocks

abbrev Address : Type := Nat

/-- The blocks of a heap by their addresses, with their sizes, and whether one was
freed or used that was not there. No block is where the next one goes, or behind. -/
structure Blocks where
  size : Address → Option Nat
  next : Address
  misused : Bool
  fresh : ∀ p, next ≤ p → size p = none

def Blocks.empty : Blocks where
  size := fun _ => none
  next := 0
  misused := false
  fresh := fun _ _ => rfl

/-- `malloc`, which may find no room. -/
def Blocks.malloc (b : Blocks) (granted : Bool) (bytes : Nat) : Option Address × Blocks :=
  if granted then
    (some b.next,
      { b with
        size := Function.update b.size b.next (some bytes)
        next := b.next + 1
        fresh := fun p hp => by
          rw [Function.update_of_ne (Nat.ne_of_gt hp)]
          exact b.fresh p (Nat.le_of_succ_le hp) })
  else (none, b)

/-- `free`. Nothing is freed by a null pointer. -/
def Blocks.free (b : Blocks) : Option Address → Blocks
  | none => b
  | some p =>
    { b with
      size := Function.update b.size p none
      misused := b.misused || (b.size p).isNone
      fresh := fun q hq => by
        rw [Function.update_apply]
        split
        · rfl
        · exact b.fresh q hq }

/-- The blocks at these places are freed, in order. -/
def Blocks.freeAll (b : Blocks) (ps : List Address) : Blocks := ps.foldl (fun b p => b.free (some p)) b

/-- A range of bytes is in a block. -/
def Blocks.Holds (b : Blocks) (p : Address) (offset bytes : Nat) : Prop :=
  ∃ size ∈ b.size p, offset + bytes ≤ size

instance (b : Blocks) (p : Address) (offset bytes : Nat) : Decidable (b.Holds p offset bytes) :=
  inferInstanceAs (Decidable (∃ size ∈ b.size p, offset + bytes ≤ size))

/-- So many bytes at an offset from a place are read or written. -/
def Blocks.access (b : Blocks) (p : Address) (offset bytes : Nat) : Blocks :=
  { b with misused := b.misused || !decide (b.Holds p offset bytes) }

/-- A program that has used its heap well owns these blocks beside those there were. -/
structure Owns (base : Address → Option Nat) (ps : List Address) (b : Blocks) : Prop where
  well_used : b.misused = false
  nodup : ps.Nodup
  owned : ∀ p ∈ ps, base p = none ∧ b.size p ≠ none
  others : ∀ p, p ∉ ps → b.size p = base p

section

variable {b : Blocks} {base : Address → Option Nat} {p q : Address} {ps qs : List Address} {bytes offset : Nat}

@[simp] theorem Blocks.malloc_refused (b : Blocks) (bytes : Nat) : b.malloc false bytes = (none, b) := rfl

@[simp] theorem Blocks.malloc_misused (b : Blocks) (granted : Bool) (bytes : Nat) :
    (b.malloc granted bytes).2.misused = b.misused := by
  cases granted
  · rfl
  · rfl

/-- A new block has the size that was asked for. -/
theorem Blocks.malloc_size (b : Blocks) (granted : Bool) (bytes : Nat) :
    ∀ p ∈ (b.malloc granted bytes).1, (b.malloc granted bytes).2.size p = some bytes := by
  intro p hp
  cases granted with
  | false => cases hp
  | true =>
    obtain rfl := Option.some.inj hp
    exact Function.update_self _ _ _

/-- The blocks that are there are not touched. -/
theorem Blocks.malloc_size_of_live (hlive : b.size p = some offset) (granted : Bool) (bytes : Nat) :
    (b.malloc granted bytes).2.size p = some offset := by
  cases granted with
  | false => exact hlive
  | true =>
    have hne : p ≠ b.next := by
      rintro rfl
      rw [b.fresh _ (Nat.le_refl _)] at hlive
      cases hlive
    exact (Function.update_of_ne hne _ _).trans hlive

/-- What was misused once stays so. -/
theorem Blocks.misused_free (hmisused : b.misused = true) (p : Option Address) : (b.free p).misused = true := by
  cases p with
  | none => exact hmisused
  | some p => simp [Blocks.free, hmisused]

theorem Blocks.misused_access (hmisused : b.misused = true) (p : Address) (offset bytes : Nat) :
    (b.access p offset bytes).misused = true := by
  simp [Blocks.access, hmisused]

/-- An access before it does not make a misuse right. -/
theorem Blocks.misused_free_access {slot : Option Address} (hmisused : (b.free slot).misused = true)
    (p : Address) (offset bytes : Nat) : ((b.access p offset bytes).free slot).misused = true := by
  cases slot with
  | none => exact Blocks.misused_access hmisused p offset bytes
  | some q =>
    rw [Blocks.free, Bool.or_eq_true] at hmisused ⊢
    obtain hbefore | hgone := hmisused
    · exact Or.inl (Blocks.misused_access hbefore p offset bytes)
    · exact Or.inr hgone

/-- To free a block that is not there is a misuse. -/
theorem Blocks.misused_free_of_gone (hgone : b.size p = none) : (b.free (some p)).misused = true := by
  simp [Blocks.free, hgone]

theorem Blocks.access_of_holds (hholds : b.Holds p offset bytes) : b.access p offset bytes = b := by
  simp [Blocks.access, hholds]

/-- At first a program owns nothing. -/
theorem Owns.start (hused : b.misused = false) : Owns b.size [] b :=
  ⟨hused, List.nodup_nil, by simp, fun _ _ => rfl⟩

/-- A program that owns nothing has left the heap as it was. -/
theorem Owns.size_eq (howns : Owns base [] b) : b.size = base := by
  funext p
  exact howns.others p List.not_mem_nil

theorem Owns.perm (hperm : ps.Perm qs) (howns : Owns base ps b) : Owns base qs b where
  well_used := howns.well_used
  nodup := hperm.nodup_iff.mp howns.nodup
  owned := fun p hp => howns.owned p (hperm.mem_iff.mpr hp)
  others := fun p hp => howns.others p fun hmem => hp (hperm.mem_iff.mp hmem)

/-- What was allocated is owned, too. -/
theorem Owns.malloc (howns : Owns base ps b) (granted : Bool) (bytes : Nat) :
    Owns base ((b.malloc granted bytes).1.toList ++ ps) (b.malloc granted bytes).2 := by
  cases granted with
  | false => exact howns
  | true =>
    have hfresh : b.size b.next = none := b.fresh b.next (Nat.le_refl _)
    have hnot : b.next ∉ ps := fun hmem => (howns.owned b.next hmem).2 hfresh
    refine ⟨howns.well_used, List.nodup_cons.mpr ⟨hnot, howns.nodup⟩, ?_, ?_⟩
    · intro p hp
      obtain rfl | hp := List.mem_cons.mp hp
      · refine ⟨(howns.others _ hnot).symm.trans hfresh, ?_⟩
        simp [Blocks.malloc]
      · have hne : p ≠ b.next := fun heq => hnot (heq ▸ hp)
        refine ⟨(howns.owned p hp).1, ?_⟩
        simpa [Blocks.malloc, Function.update_of_ne hne] using (howns.owned p hp).2
    · intro p hp
      obtain ⟨hne, hp⟩ := not_or.mp (List.mem_cons.not.mp hp)
      simpa [Blocks.malloc, Function.update_of_ne hne] using howns.others p hp

/-- What is owned can be freed. -/
theorem Owns.free (howns : Owns base (p :: ps) b) : Owns base ps (b.free (some p)) := by
  obtain ⟨hnot, hnodup⟩ := List.nodup_cons.mp howns.nodup
  have hthere := (howns.owned p List.mem_cons_self).2
  refine ⟨?_, hnodup, ?_, ?_⟩
  · have hsome : (b.size p).isNone = false := Option.isNone_eq_false_iff.mpr (Option.isSome_iff_ne_none.mpr hthere)
    simp [Blocks.free, howns.well_used, hsome]
  · intro q hq
    have hne : q ≠ p := fun heq => hnot (heq ▸ hq)
    have hq := howns.owned q (List.mem_cons_of_mem _ hq)
    simpa [Blocks.free, Function.update_of_ne hne] using hq
  · intro q hq
    by_cases heq : q = p
    · subst heq
      simpa [Blocks.free] using (howns.owned q List.mem_cons_self).1.symm
    · have hq := howns.others q (by simp [heq, hq])
      simpa [Blocks.free, Function.update_of_ne heq] using hq

theorem Owns.free_toList {slot : Option Address} (howns : Owns base (slot.toList ++ ps) b) :
    Owns base ps (b.free slot) := by
  cases slot with
  | none => exact howns
  | some p => exact Owns.free howns

/-- What is owned can be freed, block by block. -/
theorem Owns.freeAll (howns : Owns base (qs ++ ps) b) : Owns base ps (b.freeAll qs) := by
  induction qs generalizing b with
  | nil => exact howns
  | cons q qs ih => exact ih (Owns.free howns)

/-- What is in a block can be used. -/
theorem Owns.access (howns : Owns base ps b) (hholds : b.Holds p offset bytes) :
    Owns base ps (b.access p offset bytes) := by
  rwa [Blocks.access_of_holds hholds]

end

end panelli.blocks
