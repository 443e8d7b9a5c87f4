import Mathlib.Data.Finset.Insert
import Mathlib.Data.Fintype.EquivFin
import Mathlib.Data.Nat.Find
import Panelli.Runs

open panelli.runs

namespace panelli.descriptors

/-- The descriptor that a process gets next is the lowest that is not open. -/
def lowest (fds : Finset Nat) : Nat := Nat.find (Infinite.exists_notMem_finset fds)

/-- The open descriptors once it got that one. -/
def opened (fds : Finset Nat) : Finset Nat := insert (lowest fds) fds

section

variable {fds : Finset Nat}

theorem lowest_notMem : lowest fds ∉ fds := Nat.find_spec (Infinite.exists_notMem_finset fds)

theorem lowest_eq_zero_iff : lowest fds = 0 ↔ 0 ∉ fds := Nat.find_eq_zero (Infinite.exists_notMem_finset fds)

/-- A descriptor that is closed again leaves no trace. -/
theorem erase_opened : (opened fds).erase (lowest fds) = fds := Finset.erase_insert lowest_notMem

theorem zero_mem_opened : 0 ∈ opened fds := by
  by_cases hzero : 0 ∈ fds
  · exact Finset.mem_insert_of_mem hzero
  · have hlowest : lowest fds = 0 := lowest_eq_zero_iff.mpr hzero
    rw [opened, hlowest]
    exact Finset.mem_insert_self 0 fds

variable {A : Type} {step : Finset Nat → A → Finset Nat} {leaves : A → Bool}

/-- Where each action either gives back what it opened or leaves one descriptor open, a run leaves
as many as there are actions of the second kind. -/
theorem run_eq_iterate {I : Finset Nat → Prop} (hkeep : ∀ fds, I fds → I (opened fds))
    (hstep : ∀ fds act, I fds → step fds act = if leaves act then opened fds else fds) (hstart : I fds)
    (acts : List A) : run step fds acts = opened^[acts.countP leaves] fds := by
  induction acts generalizing fds with
  | nil => rfl
  | cons act acts ih =>
    rw [run_cons, hstep fds act hstart]
    cases hleaves : leaves act with
    | false =>
      rw [if_neg Bool.false_ne_true, ih hstart, List.countP_cons_of_neg (Bool.eq_false_iff.mp hleaves)]
    | true => rw [if_pos rfl, ih (hkeep fds hstart), List.countP_cons_of_pos hleaves, Function.iterate_succ_apply]

end

end panelli.descriptors
