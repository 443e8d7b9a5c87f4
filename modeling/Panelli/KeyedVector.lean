import Mathlib.Data.Finset.Sort

namespace panelli.keyedVector

variable {K V : Type} [LinearOrder K]

/-- Values under keys that increase. -/
structure KeyedVector (K V : Type) [LinearOrder K] where
  entries : List (K × V)
  sorted : entries.Pairwise fun e e' => e.1 < e'.1

/-- A value is put where its key belongs, in the place of the value the key had. -/
def insertEntry (key : K) (value : V) : List (K × V) → List (K × V)
  | [] => [(key, value)]
  | e :: es =>
    if key < e.1 then (key, value) :: e :: es
    else if key = e.1 then (key, value) :: es
    else e :: insertEntry key value es

theorem fst_mem_insertEntry {key k : K} {value : V} {es : List (K × V)} :
    k ∈ (insertEntry key value es).map Prod.fst ↔ k = key ∨ k ∈ es.map Prod.fst := by
  induction es with
  | nil => simp [insertEntry]
  | cons e es ih =>
    rw [insertEntry]
    split_ifs with hlt heq
    · simp
    · simp [← heq]
    · rw [List.map_cons, List.mem_cons, ih, List.map_cons, List.mem_cons]
      exact or_left_comm

theorem insertEntry_sorted {key : K} {value : V} {es : List (K × V)} (hsorted : es.Pairwise fun e e' => e.1 < e'.1) :
    (insertEntry key value es).Pairwise fun e e' => e.1 < e'.1 := by
  induction es with
  | nil => exact List.pairwise_singleton _ _
  | cons e es ih =>
    obtain ⟨hfirst, hrest⟩ := List.pairwise_cons.mp hsorted
    rw [insertEntry]
    split_ifs with hlt heq
    · apply List.pairwise_cons.mpr ⟨?_, hsorted⟩
      intro e' he'
      rcases List.mem_cons.mp he' with rfl | he'
      · exact hlt
      · exact lt_trans hlt (hfirst e' he')
    · exact List.pairwise_cons.mpr ⟨heq ▸ hfirst, hrest⟩
    · apply List.pairwise_cons.mpr ⟨?_, ih hrest⟩
      intro e' he'
      have hkey : e'.1 = key ∨ e'.1 ∈ es.map Prod.fst := fst_mem_insertEntry.mp (List.mem_map_of_mem he')
      rcases hkey with hkey | hkey
      · rw [hkey]
        exact lt_of_le_of_ne (not_lt.mp hlt) (Ne.symm heq)
      · obtain ⟨other, hother, hsame⟩ := List.mem_map.mp hkey
        exact hsame ▸ hfirst other hother

namespace KeyedVector

def empty : KeyedVector K V := ⟨[], List.Pairwise.nil⟩

def keys (v : KeyedVector K V) : List K := v.entries.map Prod.fst

def add (v : KeyedVector K V) (key : K) (value : V) : KeyedVector K V :=
  ⟨insertEntry key value v.entries, insertEntry_sorted v.sorted⟩

def removeItem (v : KeyedVector K V) (key : K) : KeyedVector K V :=
  ⟨v.entries.filter (·.1 ≠ key), v.sorted.filter _⟩

theorem keys_sortedLT (v : KeyedVector K V) : v.keys.SortedLT := by
  apply List.Pairwise.sortedLT
  exact List.pairwise_map.mpr v.sorted

@[simp] theorem keys_empty : (empty : KeyedVector K V).keys = [] := rfl

@[simp] theorem mem_keys_add {v : KeyedVector K V} {key k : K} {value : V} :
    k ∈ (v.add key value).keys ↔ k = key ∨ k ∈ v.keys :=
  fst_mem_insertEntry

@[simp] theorem mem_keys_removeItem {v : KeyedVector K V} {key k : K} :
    k ∈ (v.removeItem key).keys ↔ k ≠ key ∧ k ∈ v.keys := by
  simp only [keys, removeItem, List.mem_map, List.mem_filter, decide_eq_true_eq]
  constructor
  · rintro ⟨e, ⟨he, hne⟩, rfl⟩
    exact ⟨hne, e, he, rfl⟩
  · rintro ⟨hne, e, he, rfl⟩
    exact ⟨e, ⟨he, hne⟩, rfl⟩

/-- The keys are those of a set in their order, if they are its members. -/
theorem keys_eq_sort {v : KeyedVector K V} {s : Finset K} (hmem : ∀ k, k ∈ v.keys ↔ k ∈ s) : v.keys = s.sort :=
  v.keys_sortedLT.eq_of_mem_iff (Finset.sortedLT_sort s) fun k => by rw [hmem, Finset.mem_sort]

end KeyedVector

end panelli.keyedVector
