import Panelli.Java

open panelli.java (not_mem_of_mem_splitOn)

namespace panelli.keyValueLines

/-- A key and its value. -/
abbrev Entry : Type := List UInt8 × List UInt8

/-- The line `key=value` with its end. -/
def line (e : Entry) : List UInt8 := e.1 ++ 61 :: e.2 ++ [10]

def render (es : List Entry) : List UInt8 := es.flatMap line

/-- A line without `=` is no entry. -/
def entryOf (text : List UInt8) : Option Entry :=
  if 61 ∈ text then some (text.takeWhile (· ≠ 61), (text.dropWhile (· ≠ 61)).tail) else none

def parse (text : List UInt8) : List Entry := (text.splitOn 10).filterMap entryOf

/-- The entries that are read from a line: its value goes on as far as the line does, and the lines
behind may be entries too. -/
def read (e : Entry) : List Entry :=
  (e.1, (e.2.splitOn 10).headD []) :: (e.2.splitOn 10).tail.filterMap entryOf

/-- A key that a line can begin with. -/
def IsKey (key : List UInt8) : Prop := 61 ∉ key ∧ 10 ∉ key

instance : DecidablePred IsKey := fun key => inferInstanceAs (Decidable (61 ∉ key ∧ 10 ∉ key))

section

variable {e : Entry} {es : List Entry} {key value : List UInt8}

theorem splitOn_append {front : List UInt8} (hfront : 10 ∉ front) (text : List UInt8) :
    (front ++ text).splitOn 10 = (text.splitOn 10).modifyHead (front ++ ·) := by
  induction front with
  | nil =>
    rw [List.nil_append]
    cases text.splitOn 10 with
    | nil => rfl
    | cons first rest => rfl
  | cons b front ih =>
    obtain ⟨hb, hrest⟩ := not_or.mp (List.mem_cons.not.mp hfront)
    have hne : (b == 10) = false := beq_eq_false_iff_ne.mpr fun h => hb h.symm
    rw [List.cons_append, List.splitOn_cons_eq_if_modifyHead, hne, ih hrest, if_neg Bool.false_ne_true,
      List.modifyHead_modifyHead]
    rfl

theorem entryOf_entry (hkey : 61 ∉ key) : entryOf (key ++ 61 :: value) = some (key, value) := by
  have hfree : ∀ b ∈ key, decide (b ≠ 61) = true := fun b hb => decide_eq_true fun h => hkey (h ▸ hb)
  rw [entryOf, if_pos (by simp), List.takeWhile_append_of_pos hfree, List.dropWhile_append_of_pos hfree]
  simp

theorem parse_line (hkey : IsKey e.1) (text : List UInt8) : parse (line e ++ text) = read e ++ parse text := by
  have hline : line e ++ text = (e.1 ++ 61 :: e.2) ++ 10 :: text := by simp [line]
  have hassign : (e.1 ++ 61 :: e.2).splitOn 10 =
      (e.2.splitOn 10).modifyHead (fun first => e.1 ++ 61 :: first) := by
    rw [splitOn_append hkey.2, ← List.singleton_append, splitOn_append (by simp), List.modifyHead_modifyHead]
    rfl
  obtain ⟨first, rest, hpieces⟩ := List.exists_cons_of_ne_nil (List.splitOn_ne_nil 10 e.2)
  rw [parse, hline, List.splitOn_append_cons_self, List.filterMap_append, hassign, read, hpieces, List.modifyHead_cons,
    List.filterMap_cons_some (entryOf_entry hkey.1)]
  rfl

/-- What is read from lines is what each of them gives. -/
theorem parse_render (hkeys : ∀ e ∈ es, IsKey e.1) : parse (render es) = es.flatMap read := by
  induction es with
  | nil => rfl
  | cons e es ih =>
    obtain ⟨hkey, hrest⟩ := List.forall_mem_cons.mp hkeys
    rw [render, List.flatMap_cons, parse_line hkey, List.flatMap_cons]
    exact congrArg _ (ih hrest)

theorem read_of_line (hvalue : 10 ∉ e.2) : read e = [e] := by
  rw [read, List.splitOn_eq_singleton hvalue]
  rfl

theorem flatMap_read (hvalues : ∀ e ∈ es, 10 ∉ e.2) : es.flatMap read = es := by
  calc es.flatMap read = es.flatMap (fun e => [e]) := List.flatMap_congr fun e he => read_of_line (hvalues e he)
    _ = es := List.flatMap_singleton' es

/-- What follows the end of a line in a value is read for itself. -/
theorem read_of_lines (hvalue : 10 ∉ value) (rest : List UInt8) :
    read (key, value ++ 10 :: rest) = (key, value) :: parse rest := by
  rw [read, List.splitOn_append_cons_self_of_not_mem hvalue]
  rfl

/-- No value that is read goes over the end of a line. -/
theorem not_mem_of_mem_parse {text : List UInt8} (hmem : e ∈ parse text) : 10 ∉ e.2 := by
  obtain ⟨piece, hpiece, hentry⟩ := List.mem_filterMap.mp hmem
  unfold entryOf at hentry
  split at hentry
  · cases hentry
    exact fun h => not_mem_of_mem_splitOn hpiece ((List.dropWhile_suffix _).subset (List.mem_of_mem_tail h))
  · cases hentry

/-- Entries are read back as they are exactly if no value has a line end. -/
theorem parse_render_eq_iff (hkeys : ∀ e ∈ es, IsKey e.1) : parse (render es) = es ↔ ∀ e ∈ es, 10 ∉ e.2 := by
  constructor
  · intro hread e he
    rw [← hread] at he
    exact not_mem_of_mem_parse he
  · intro hvalues
    rw [parse_render hkeys, flatMap_read hvalues]

theorem not_mem_render {b : UInt8} (hb : b ≠ 61 ∧ b ≠ 10) (hes : ∀ e ∈ es, b ∉ e.1 ∧ b ∉ e.2) : b ∉ render es := by
  intro hmem
  obtain ⟨e, he, hline⟩ := List.mem_flatMap.mp hmem
  obtain ⟨hkey, hvalue⟩ := hes e he
  simp [line, hb, hkey, hvalue] at hline

/-- Where no key comes twice, each entry is the one that is found by its key. -/
theorem lookup_of_mem (hnodup : (es.map Prod.fst).Nodup) (he : e ∈ es) : es.lookup e.1 = some e.2 := by
  induction es with
  | nil => cases he
  | cons first es ih =>
    obtain ⟨hfirst, hrest⟩ := List.nodup_cons.mp hnodup
    obtain rfl | he := List.mem_cons.mp he
    · exact List.lookup_cons_self
    · have hne : (e.1 == first.1) = false :=
        beq_eq_false_iff_ne.mpr fun h => hfirst (h ▸ List.mem_map_of_mem he)
      rw [List.lookup_cons, hne]
      exact ih hrest he

end

end panelli.keyValueLines
