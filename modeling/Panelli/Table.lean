import Mathlib.Data.List.Induction
import Mathlib.Data.List.Nodup
import Mathlib.Tactic.SplitIfs

namespace panelli.table

variable {α : Type}

/-- Looking for `q` is not affected by removing a first match of a predicate
that shares no element with it. -/
theorem find?_eraseP_of_disjoint {p q : α → Bool} (hdisjoint : ∀ a, p a → ¬ q a) (l : List α) :
    (l.eraseP p).find? q = l.find? q := by
  induction l with
  | nil => rfl
  | cons a l ih =>
    by_cases hp : p a
    · rw [List.eraseP_cons_of_pos hp, List.find?_cons_of_neg (hdisjoint a hp)]
    · rw [List.eraseP_cons_of_neg hp, List.find?_cons, List.find?_cons, ih]

/-- Removing a first match keeps, in order, all elements that are no match. -/
theorem filter_eraseP_of_disjoint {p q : α → Bool} (hdisjoint : ∀ a, p a → ¬ q a) (l : List α) :
    (l.eraseP p).filter q = l.filter q := by
  induction l with
  | nil => rfl
  | cons a l ih =>
    by_cases hp : p a
    · rw [List.eraseP_cons_of_pos hp, List.filter_cons_of_neg (hdisjoint a hp)]
    · rw [List.eraseP_cons_of_neg hp, List.filter_cons, List.filter_cons, ih]

/-- In a list without repetitions, removing the first match removes that
element and no other. -/
theorem mem_eraseP_iff {p : α → Bool} {l : List α} (hnodup : l.Nodup) {a : α} :
    a ∈ l.eraseP p ↔ a ∈ l ∧ l.find? p ≠ some a := by
  induction l with
  | nil => simp
  | cons b l ih =>
    obtain ⟨hb, hl⟩ := List.nodup_cons.mp hnodup
    by_cases hp : p b
    · rw [List.eraseP_cons_of_pos hp, List.find?_cons_of_pos hp]
      constructor
      · intro ha
        exact ⟨List.mem_cons_of_mem b ha, fun heq => hb (by cases heq; exact ha)⟩
      · rintro ⟨ha, hne⟩
        obtain rfl | ha := List.mem_cons.mp ha
        · exact absurd rfl hne
        · exact ha
    · rw [List.eraseP_cons_of_neg hp, List.find?_cons_of_neg hp, List.mem_cons, List.mem_cons, ih hl]
      constructor
      · rintro (rfl | ⟨ha, hne⟩)
        · exact ⟨Or.inl rfl, fun hfind => hp (List.find?_some hfind)⟩
        · exact ⟨Or.inr ha, hne⟩
      · rintro ⟨rfl | ha, hne⟩
        · exact Or.inl rfl
        · exact Or.inr ⟨ha, hne⟩

/-- Removing the first match takes exactly that element out. -/
theorem perm_cons_eraseP {p : α → Bool} {l : List α} {a : α} (hfind : l.find? p = some a) :
    l.Perm (a :: l.eraseP p) := by
  induction l with
  | nil => cases hfind
  | cons b l ih =>
    by_cases hp : p b
    · rw [List.find?_cons_of_pos hp] at hfind
      obtain rfl : b = a := Option.some.inj hfind
      rw [List.eraseP_cons_of_pos hp]
    · rw [List.find?_cons_of_neg hp] at hfind
      rw [List.eraseP_cons_of_neg hp]
      exact ((ih hfind).cons b).trans (List.Perm.swap a b _)

/-- Remove the first match of each predicate in turn. -/
def eraseEach (l : List α) (ps : List (α → Bool)) : List α :=
  ps.foldl (fun rest p => rest.eraseP p) l

@[simp] theorem eraseEach_nil (l : List α) : eraseEach l [] = l := rfl

@[simp] theorem eraseEach_cons (l : List α) (p : α → Bool) (ps : List (α → Bool)) :
    eraseEach l (p :: ps) = eraseEach (l.eraseP p) ps := rfl

theorem eraseEach_sublist (l : List α) (ps : List (α → Bool)) : (eraseEach l ps).Sublist l := by
  induction ps generalizing l with
  | nil => exact List.Sublist.refl l
  | cons p ps ih => exact (ih (l.eraseP p)).trans List.eraseP_sublist

/-- Predicates no two of which share an element. -/
def Disjoint (ps : List (α → Bool)) : Prop := ps.Pairwise fun p q => ∀ a, p a → ¬ q a

/-- Removing first matches of disjoint predicates keeps exactly the elements
that are the first match of none of them. -/
theorem mem_eraseEach_iff {l : List α} (hnodup : l.Nodup) {ps : List (α → Bool)}
    (hdisjoint : Disjoint ps) {a : α} :
    a ∈ eraseEach l ps ↔ a ∈ l ∧ ∀ p ∈ ps, l.find? p ≠ some a := by
  induction ps generalizing l with
  | nil => simp
  | cons p ps ih =>
    obtain ⟨hp, hps⟩ := List.pairwise_cons.mp hdisjoint
    rw [eraseEach_cons, ih (hnodup.eraseP p) hps, mem_eraseP_iff hnodup, and_assoc]
    simp only [List.forall_mem_cons]
    have hfind : ∀ q ∈ ps, (l.eraseP p).find? q = l.find? q :=
      fun q hq => find?_eraseP_of_disjoint (hp q hq) l
    constructor
    · rintro ⟨ha, hne, hrest⟩
      exact ⟨ha, hne, fun q hq => hfind q hq ▸ hrest q hq⟩
    · rintro ⟨ha, hne, hrest⟩
      exact ⟨ha, hne, fun q hq => (hfind q hq).symm ▸ hrest q hq⟩

/-- First matches are looked for from the left, so a prefix without any match
is left alone. -/
theorem eraseEach_append_of_forall_not {l : List α} {ps : List (α → Bool)}
    (hnone : ∀ a ∈ l, ∀ p ∈ ps, ¬ p a) (r : List α) :
    eraseEach (l ++ r) ps = l ++ eraseEach r ps := by
  induction ps generalizing r with
  | nil => rfl
  | cons p ps ih =>
    rw [eraseEach_cons, List.eraseP_append_right _ (fun a ha => hnone a ha p (by simp)), eraseEach_cons]
    exact ih (fun a ha q hq => hnone a ha q (List.mem_cons_of_mem p hq)) _

section Distinct

variable [DecidableEq α]

/-- An element is distinct from those before it, or left out. -/
theorem eraseDups_concat (l : List α) (a : α) :
    (l ++ [a]).eraseDups = if a ∈ l then l.eraseDups else l.eraseDups ++ [a] := by
  rw [List.eraseDups_append, List.removeAll]
  split_ifs with hmem
  · rw [List.filter_cons_of_neg (by simpa using hmem), List.filter_nil, List.eraseDups_nil, List.append_nil]
  · rw [List.filter_cons_of_pos (by simpa using hmem), List.filter_nil, List.eraseDups_cons, List.filter_nil,
      List.eraseDups_nil]

theorem nodup_eraseDups (l : List α) : l.eraseDups.Nodup := by
  induction l using List.reverseRecOn with
  | nil => exact List.nodup_nil
  | append_singleton l a ih =>
    rw [eraseDups_concat]
    split_ifs with hmem
    · exact ih
    · apply ih.append (List.nodup_singleton a)
      rw [List.disjoint_singleton, List.mem_eraseDups]
      exact hmem

/-- Further elements come behind the distinct ones of a list. -/
theorem eraseDups_prefix_append (l r : List α) : l.eraseDups <+: (l ++ r).eraseDups := by
  rw [List.eraseDups_append]
  exact List.prefix_append _ _

end Distinct

section Keyed

variable {κ : Type} [DecidableEq κ] (key : α → κ)

/-- Put an element in the place of the first one with its key, or at the end. -/
def putKey (a : α) : List α → List α
  | [] => [a]
  | b :: l => if key b = key a then a :: l else b :: putKey a l

variable {key}

theorem putKey_cons_of_eq {a b : α} {l : List α} (heq : key b = key a) : putKey key a (b :: l) = a :: l :=
  if_pos heq

theorem putKey_cons_of_ne {a b : α} {l : List α} (hne : key b ≠ key a) :
    putKey key a (b :: l) = b :: putKey key a l :=
  if_neg hne

/-- The element by its index is the first one with the key. -/
theorem putKey_eq_findIdx? (a : α) (l : List α) :
    putKey key a l = ((l.findIdx? fun b => key b = key a).map fun i => l.set i a).getD (l ++ [a]) := by
  induction l with
  | nil => rfl
  | cons b l ih =>
    by_cases heq : key b = key a
    · rw [putKey_cons_of_eq heq, List.findIdx?_cons, if_pos (decide_eq_true heq)]
      rfl
    · rw [putKey_cons_of_ne heq, ih, List.findIdx?_cons, if_neg (by simpa using heq)]
      cases l.findIdx? fun b => key b = key a <;> rfl

/-- What was put is the first element with its key. -/
theorem find?_putKey_self (a : α) (l : List α) : (putKey key a l).find? (key · = key a) = some a := by
  induction l with
  | nil => exact List.find?_cons_of_pos (decide_eq_true rfl)
  | cons b l ih =>
    by_cases heq : key b = key a
    · rw [putKey_cons_of_eq heq]
      exact List.find?_cons_of_pos (decide_eq_true rfl)
    · rw [putKey_cons_of_ne heq, List.find?_cons_of_neg (by simpa using heq)]
      exact ih

theorem find?_putKey_of_ne {a : α} {k : κ} (hne : key a ≠ k) (l : List α) :
    (putKey key a l).find? (key · = k) = l.find? (key · = k) := by
  induction l with
  | nil => exact List.find?_cons_of_neg (by simpa using hne)
  | cons b l ih =>
    by_cases heq : key b = key a
    · have hb : key b ≠ k := heq ▸ hne
      rw [putKey_cons_of_eq heq, List.find?_cons_of_neg (by simpa using hne),
        List.find?_cons_of_neg (by simpa using hb)]
    · rw [putKey_cons_of_ne heq, List.find?_cons, List.find?_cons, ih]

/-- Elements that are kept by a predicate on the key stay as they are when one with
another key is put. -/
theorem filter_putKey {p : κ → Bool} {a : α} (ha : ¬ p (key a)) (l : List α) :
    (putKey key a l).filter (p ∘ key) = l.filter (p ∘ key) := by
  have ha' : ¬ (p ∘ key) a := ha
  induction l with
  | nil => exact List.filter_cons_of_neg ha'
  | cons b l ih =>
    by_cases heq : key b = key a
    · have hb : ¬ (p ∘ key) b := by
        rw [Function.comp_apply, heq]
        exact ha
      rw [putKey_cons_of_eq heq, List.filter_cons_of_neg ha', List.filter_cons_of_neg hb]
    · rw [putKey_cons_of_ne heq, List.filter_cons, List.filter_cons, ih]

/-- Several elements are put one after the other: each is the first with its key. -/
theorem find?_foldl_putKey {as l : List α} (hkeys : (as.map key).Nodup) {a : α} (ha : a ∈ as) :
    (as.foldl (fun l a => putKey key a l) l).find? (key · = key a) = some a := by
  have hkeep : ∀ (bs l : List α), (∀ b ∈ bs, key b ≠ key a) →
      (bs.foldl (fun l b => putKey key b l) l).find? (key · = key a) = l.find? (key · = key a) := by
    intro bs
    induction bs with
    | nil => exact fun _ _ => rfl
    | cons b bs ih =>
      intro l hne
      obtain ⟨hb, hbs⟩ := List.forall_mem_cons.mp hne
      rw [List.foldl_cons, ih _ hbs, find?_putKey_of_ne hb]
  induction as generalizing l with
  | nil => cases ha
  | cons b as ih =>
    obtain ⟨hb, has⟩ := List.nodup_cons.mp hkeys
    obtain rfl | ha := List.mem_cons.mp ha
    · have hne : ∀ c ∈ as, key c ≠ key a := fun c hc heq => hb (heq ▸ List.mem_map_of_mem hc)
      rw [List.foldl_cons, hkeep as _ hne, find?_putKey_self]
    · exact ih has ha

theorem filter_foldl_putKey {p : κ → Bool} {as : List α} (has : ∀ a ∈ as, ¬ p (key a)) (l : List α) :
    (as.foldl (fun l a => putKey key a l) l).filter (p ∘ key) = l.filter (p ∘ key) := by
  induction as generalizing l with
  | nil => rfl
  | cons a as ih =>
    obtain ⟨ha, has⟩ := List.forall_mem_cons.mp has
    rw [List.foldl_cons, ih has, filter_putKey ha]

end Keyed

/-- A list in a fixed allocation. No operation can overfill it. -/
@[ext] structure Table (α : Type) where
  entries : List α
  alloc : Nat
  entries_le : entries.length ≤ alloc

/-- An empty table with room for `alloc` entries. -/
def Table.empty (alloc : Nat) : Table α := ⟨[], alloc, Nat.zero_le alloc⟩

/-- The table has room for another entry. -/
abbrev Table.HasRoom (t : Table α) : Prop := t.entries.length < t.alloc

/-- Append an entry when there is room. -/
def Table.push (t : Table α) (a : α) : Table α :=
  if h : t.HasRoom then ⟨t.entries ++ [a], t.alloc, by rw [List.length_append]; exact h⟩ else t

/-- Remove the first entry satisfying `p`, moving the later ones down. -/
def Table.remove (t : Table α) (p : α → Bool) : Table α :=
  ⟨t.entries.eraseP p, t.alloc, Nat.le_trans List.length_eraseP_le t.entries_le⟩

@[simp] theorem Table.push_alloc (t : Table α) (a : α) : (t.push a).alloc = t.alloc := by
  unfold Table.push
  split <;> rfl

@[simp] theorem Table.remove_alloc (t : Table α) (p : α → Bool) : (t.remove p).alloc = t.alloc := rfl

@[simp] theorem Table.remove_entries (t : Table α) (p : α → Bool) :
    (t.remove p).entries = t.entries.eraseP p := rfl

theorem Table.push_entries (t : Table α) (a : α) :
    (t.push a).entries = if t.HasRoom then t.entries ++ [a] else t.entries := by
  unfold Table.push
  split <;> rfl

theorem Table.push_of_room {t : Table α} (hroom : t.HasRoom) (a : α) :
    (t.push a).entries = t.entries ++ [a] := by
  rw [Table.push_entries, if_pos hroom]

theorem Table.push_of_full {t : Table α} (hfull : ¬ t.HasRoom) (a : α) : t.push a = t := by
  rw [Table.push, dif_neg hfull]

theorem Table.mem_push {t : Table α} {a b : α} (h : b ∈ (t.push a).entries) :
    b ∈ t.entries ∨ b = a := by
  rw [Table.push_entries] at h
  split at h
  · simpa using h
  · exact Or.inl h

/-- Appending several entries keeps the first ones that fit. -/
theorem Table.foldl_push_entries (t : Table α) (as : List α) :
    (as.foldl Table.push t).entries = t.entries ++ as.take (t.alloc - t.entries.length) := by
  induction as generalizing t with
  | nil => simp
  | cons a as ih =>
    rw [List.foldl_cons, ih, Table.push_alloc]
    by_cases hroom : t.HasRoom
    · have hsucc : t.alloc - t.entries.length = t.alloc - (t.entries.length + 1) + 1 := by
        have : t.entries.length < t.alloc := hroom
        omega
      rw [Table.push_of_room hroom, List.length_append, List.length_singleton, hsucc, List.take_succ_cons]
      simp
    · have hzero : t.alloc - t.entries.length = 0 := by
        have : ¬ t.entries.length < t.alloc := hroom
        omega
      rw [Table.push_of_full hroom, hzero]
      simp

theorem Table.foldl_remove_entries (t : Table α) (ps : List (α → Bool)) :
    (ps.foldl Table.remove t).entries = eraseEach t.entries ps := by
  induction ps generalizing t with
  | nil => rfl
  | cons p ps ih => rw [List.foldl_cons, ih, Table.remove_entries, eraseEach_cons]

end panelli.table
