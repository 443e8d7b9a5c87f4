import Mathlib.Data.List.Basic
import Mathlib.Data.List.Range
import Mathlib.Tactic.SplitIfs

namespace panelli.slots

variable {α : Type}

/-- An array of which the first `num` elements are in use. What is behind them, inside of
the allocation or not, may be anything. -/
structure Slots (α : Type) where
  cell : Nat → α
  num : Nat
  alloc : Nat
  num_le : num ≤ alloc

/-- The elements in use. -/
def Slots.contents (s : Slots α) : List α := (List.range s.num).map s.cell

/-- An array without elements. -/
def Slots.fresh (cell : Nat → α) (alloc : Nat) : Slots α := ⟨cell, 0, alloc, Nat.zero_le alloc⟩

/-- Write an element behind those in use. -/
def Slots.append (s : Slots α) (a : α) (hroom : s.num < s.alloc) : Slots α where
  cell k := if k = s.num then a else s.cell k
  num := s.num + 1
  alloc := s.alloc
  num_le := hroom

/-- A move of `n` elements, which may overlap. -/
def memmove (dst src n : Nat) (cell : Nat → α) : Nat → α :=
  fun k => if dst ≤ k ∧ k < dst + n then cell (k - dst + src) else cell k

/-- A loop from `i` on, with so many elements left, that returns the first one that is found. -/
def Slots.findFrom (found : α → Bool) (s : Slots α) (i : Nat) : Nat → Option α
  | 0 => none
  | left + 1 => if found (s.cell i) then some (s.cell i) else s.findFrom found (i + 1) left

/-- A loop that moves what is behind the first element that is found over it, `moved i`
elements for the index `i`. -/
def Slots.removeFrom (found : α → Bool) (moved : Nat → Nat) (s : Slots α) (i : Nat) : Nat → Slots α
  | 0 => s
  | left + 1 =>
    if found (s.cell i) then
      { cell := memmove i (i + 1) (moved i) s.cell
        num := s.num - 1
        alloc := s.alloc
        num_le := Nat.le_trans (Nat.sub_le _ _) s.num_le }
    else s.removeFrom found moved (i + 1) left

section

variable {found : α → Bool} {moved : Nat → Nat} {s : Slots α} {i left : Nat}

@[simp] theorem contents_fresh (cell : Nat → α) (alloc : Nat) : (Slots.fresh cell alloc).contents = [] := rfl

@[simp] theorem contents_length (s : Slots α) : s.contents.length = s.num := by
  rw [Slots.contents, List.length_map, List.length_range]

@[simp] theorem append_alloc (a : α) (hroom : s.num < s.alloc) : (s.append a hroom).alloc = s.alloc := rfl

theorem contents_append (a : α) (hroom : s.num < s.alloc) : (s.append a hroom).contents = s.contents ++ [a] := by
  have hkept : ∀ k ∈ List.range s.num, (s.append a hroom).cell k = s.cell k := by
    intro k hk
    have hlt := List.mem_range.mp hk
    exact if_neg (by omega)
  have hlast : (s.append a hroom).cell s.num = a := if_pos rfl
  calc (s.append a hroom).contents
      = (List.range s.num).map (s.append a hroom).cell ++ [(s.append a hroom).cell s.num] := by
        rw [Slots.contents, Slots.append, List.range_succ, List.map_append]
        rfl
    _ = s.contents ++ [a] := by rw [List.map_congr_left hkept, hlast, Slots.contents]

theorem removeFrom_alloc : (s.removeFrom found moved i left).alloc = s.alloc := by
  induction left generalizing i with
  | zero => rfl
  | succ left ih =>
    rw [Slots.removeFrom]
    split_ifs
    · rfl
    · exact ih

theorem findFrom_eq : s.findFrom found i left = ((List.range' i left).map s.cell).find? found := by
  induction left generalizing i with
  | zero => rfl
  | succ left ih =>
    rw [Slots.findFrom, List.range'_succ, List.map_cons]
    split_ifs with hfound
    · rw [List.find?_cons_of_pos hfound]
    · rw [List.find?_cons_of_neg hfound, ih]

/-- The loop over all elements finds the first one of the contents. -/
theorem findFrom_contents (found : α → Bool) (s : Slots α) :
    s.findFrom found 0 s.num = s.contents.find? found := by
  rw [findFrom_eq, Slots.contents, List.range_eq_range']

/-- Elements that are moved to the left by one. -/
theorem map_memmove {n : Nat} (hn : left ≤ n) (cell : Nat → α) :
    (List.range' i left).map (memmove i (i + 1) n cell) = (List.range' (i + 1) left).map cell := by
  apply List.ext_getElem
  · simp only [List.length_map, List.length_range']
  · intro k hk _
    rw [List.length_map, List.length_range'] at hk
    have hinside : i ≤ i + k ∧ i + k < i + n := by omega
    have hsource : i + k - i + (i + 1) = i + 1 + k := by omega
    rw [List.getElem_map, List.getElem_map, List.getElem_range'_1, List.getElem_range'_1, memmove,
      if_pos hinside, hsource]

theorem map_memmove_before (n : Nat) (cell : Nat → α) :
    (List.range' 0 i).map (memmove i (i + 1) n cell) = (List.range' 0 i).map cell := by
  apply List.map_congr_left
  intro k hk
  have hlt := (List.mem_range'_1.mp hk).2
  have houtside : ¬ (i ≤ k ∧ k < i + n) := by omega
  rw [memmove, if_neg houtside]

/-- The loop from `i` on keeps what is in front and removes the first match behind it, if
all that is behind the match is moved. -/
theorem contents_removeFrom (hleft : i + left = s.num) (hmoved : ∀ k, s.num - k - 1 ≤ moved k) :
    (s.removeFrom found moved i left).contents =
      (List.range' 0 i).map s.cell ++ ((List.range' i left).map s.cell).eraseP found := by
  induction left generalizing i with
  | zero =>
    rw [Slots.removeFrom, List.range'_zero, List.map_nil, List.eraseP_nil, List.append_nil, Slots.contents,
      List.range_eq_range', ← hleft, Nat.add_zero]
  | succ left ih =>
    rw [Slots.removeFrom, List.range'_succ, List.map_cons]
    split_ifs with hfound
    · have hbehind := hmoved i
      have hnum : s.num - 1 = i + left := by omega
      have hrange : List.range (s.num - 1) = List.range' 0 i ++ List.range' i left := by
        have happend := List.range'_append_1 (s := 0) (m := i) (n := left)
        rw [Nat.zero_add] at happend
        rw [hnum, List.range_eq_range', happend]
      rw [List.eraseP_cons_of_pos hfound, Slots.contents, hrange, List.map_append, map_memmove_before,
        map_memmove (by omega)]
    · have hrange : List.range' 0 (i + 1) = List.range' 0 i ++ [i] := by
        rw [List.range'_1_concat, Nat.zero_add]
      rw [List.eraseP_cons_of_neg hfound, ih (by omega), hrange, List.map_append, List.append_assoc]
      rfl

/-- The loop over all elements removes the first match from the contents. -/
theorem contents_removeFrom_all (found : α → Bool) (s : Slots α) (hmoved : ∀ k, s.num - k - 1 ≤ moved k) :
    (s.removeFrom found moved 0 s.num).contents = s.contents.eraseP found := by
  rw [contents_removeFrom (by omega) hmoved, Slots.contents, List.range_eq_range']
  rfl

end

end panelli.slots
