import Mathlib.Data.List.DropRight

namespace panelli.java

/-- The exceptions the modelled code can throw. -/
inductive Throwable where
  | NumberFormatException
  | IllegalArgumentException
  | NullPointerException
  | RuntimeException
deriving DecidableEq

section Throwing

variable {ε σ α β : Type} {x : EStateM ε σ α} {f : α → EStateM ε σ β} {s s' : σ}

/-- What follows a statement that completes starts where it ended. -/
theorem bind_of_ok {a : α} (hx : x s = .ok a s') : (x >>= f) s = f a s' := by
  change EStateM.bind x f s = f a s'
  rw [EStateM.bind, hx]

/-- A statement that throws is the last one. -/
theorem bind_of_error {thrown : ε} (hx : x s = .error thrown s') : (x >>= f) s = .error thrown s' := by
  change EStateM.bind x f s = .error thrown s'
  rw [EStateM.bind, hx]

/-- A `try` block that completes never reaches its `catch`. -/
theorem tryCatch_of_ok {a : α} {handle : ε → EStateM ε σ α} (hx : x s = .ok a s') :
    tryCatch x handle s = .ok a s' := by
  change EStateM.tryCatch x handle s = .ok a s'
  rw [EStateM.tryCatch, hx]

/-- One that throws continues in its `catch` with what it has done so far. -/
theorem tryCatch_of_error {thrown : ε} {handle : ε → EStateM ε σ α}
    (hx : x s = .error thrown s') : tryCatch x handle s = handle thrown s' := by
  change EStateM.tryCatch x handle s = handle thrown s'
  rw [EStateM.tryCatch, hx]
  rfl

variable {x : EStateM Throwable σ α}

/-- The state after a statement, whether it completes or throws. -/
def after (x : EStateM Throwable σ α) (s : σ) : σ :=
  match x s with
  | .ok _ s' | .error _ s' => s'

theorem after_of_ok {a : α} (hx : x s = .ok a s') : after x s = s' := by
  rw [after, hx]

theorem after_of_error {thrown : Throwable} (hx : x s = .error thrown s') : after x s = s' := by
  rw [after, hx]

/-- Ending with the statement `y`, from `s'`, is ending where it ends. -/
theorem after_congr {y : EStateM Throwable σ α} (hx : x s = y s') : after x s = after y s' := by
  rw [after, after, hx]

end Throwing

section Completing

variable {ε σ α β : Type}

/-- The statement completes, with a value and a state that satisfy `Q`. -/
def Completes (x : EStateM ε σ α) (s : σ) (Q : α → σ → Prop) : Prop := ∃ a s', x s = .ok a s' ∧ Q a s'

variable {x : EStateM ε σ α} {f : α → EStateM ε σ β} {s : σ} {Q : α → σ → Prop} {R : β → σ → Prop}

@[simp] theorem completes_pure {a : α} : Completes (pure a : EStateM ε σ α) s Q ↔ Q a s := by
  constructor
  · rintro ⟨b, s', hpure, hQ⟩
    cases hpure
    exact hQ
  · exact fun hQ => ⟨a, s, rfl, hQ⟩

@[simp] theorem completes_throw {thrown : ε} : ¬ Completes (throw thrown : EStateM ε σ α) s Q := by
  rintro ⟨b, s', hthrow, _⟩
  cases hthrow

/-- Two statements complete if the first one does, and the second one from there. -/
@[simp] theorem completes_bind : Completes (x >>= f) s R ↔ Completes x s fun a s' => Completes (f a) s' R := by
  constructor
  · rintro ⟨b, s'', hbind, hR⟩
    cases hx : x s with
    | ok a s' =>
      rw [bind_of_ok hx] at hbind
      exact ⟨a, s', hx, b, s'', hbind, hR⟩
    | error thrown s' =>
      rw [bind_of_error hx] at hbind
      cases hbind
  · rintro ⟨a, s', hx, b, s'', hf, hR⟩
    exact ⟨b, s'', (bind_of_ok hx).trans hf, hR⟩

@[simp] theorem completes_ofExcept {attempt : Except ε α} :
    Completes (MonadExcept.ofExcept attempt : EStateM ε σ α) s Q ↔ ∃ a, attempt = .ok a ∧ Q a s := by
  cases attempt with
  | error thrown =>
    constructor
    · intro habsurd
      exact absurd habsurd completes_throw
    · rintro ⟨a, heq, _⟩
      cases heq
  | ok a =>
    constructor
    · intro hok
      exact ⟨a, rfl, completes_pure.mp hok⟩
    · rintro ⟨b, heq, hQ⟩
      cases heq
      exact completes_pure.mpr hQ

@[simp] theorem completes_modify {g : σ → σ} {Q : PUnit → σ → Prop} :
    Completes (modify g : EStateM ε σ PUnit) s Q ↔ Q ⟨⟩ (g s) := by
  constructor
  · rintro ⟨_, s', hmodify, hQ⟩
    cases hmodify
    exact hQ
  · exact fun hQ => ⟨⟨⟩, g s, rfl, hQ⟩

end Completing

/-- A Java string as the list of its characters. -/
abbrev JString : Type := List Char

section Split

variable {α : Type} {sep : α}

/-- `TextUtils.join` with a separator of one character. -/
def join (sep : α) (l : List (List α)) : List α := [sep].intercalate l

/-- Joining gives the empty string for no pieces and for one empty piece only. -/
theorem join_eq_nil_iff {l : List (List α)} : join sep l = [] ↔ l = [] ∨ l = [[]] := by
  match l with
  | [] => simp [join]
  | [e] => simp [join]
  | e :: e' :: rest => simp [join, List.intercalate_cons_cons]

variable [DecidableEq α]

/-- `String.split` by one character: the pieces between separators without the
empty ones at the end. An empty string has one piece. -/
def split (sep : α) (s : List α) : List (List α) :=
  if s = [] then [[]] else (s.splitOn sep).rdropWhile List.isEmpty

theorem mem_rdropWhile_of_not {β : Type} {p : β → Bool} {l : List β} {b : β} (hmem : b ∈ l) (hp : ¬ p b) :
    b ∈ l.rdropWhile p := by
  rw [← List.rdropWhile_append_rtakeWhile (p := p) (l := l)] at hmem
  exact (List.mem_append.mp hmem).resolve_right fun htake => hp (List.mem_rtakeWhile_imp htake)

theorem mem_splitOn_of_mem_split {s e : List α} (hmem : e ∈ split sep s) : e ∈ s.splitOn sep := by
  unfold split at hmem
  split at hmem
  · rename_i hnil
    rw [hnil]
    exact hmem
  · exact (List.rdropWhile_prefix _ _).subset hmem

/-- Dropping empty pieces loses no other piece. -/
theorem mem_split_iff_of_ne_nil {s e : List α} (hne : e ≠ []) : e ∈ split sep s ↔ e ∈ s.splitOn sep := by
  refine ⟨mem_splitOn_of_mem_split, fun hmem => ?_⟩
  unfold split
  split
  · rename_i hnil
    rwa [hnil] at hmem
  · exact mem_rdropWhile_of_not hmem (by simpa using hne)

/-- What is left after dropping the empty pieces at the end does not end in one. -/
theorem exists_ne_nil_of_mem_split {s e : List α} (hs : s ≠ []) (hmem : e ∈ split sep s) :
    ∃ e' ∈ split sep s, e' ≠ [] := by
  have hsplit : split sep s = (s.splitOn sep).rdropWhile List.isEmpty := if_neg hs
  have hne : (s.splitOn sep).rdropWhile List.isEmpty ≠ [] := List.ne_nil_of_mem (hsplit ▸ hmem)
  rw [hsplit]
  exact ⟨_, List.getLast_mem hne, by simpa using List.rdropWhile_last_not _ _ hne⟩

/-- No piece contains the separator. -/
theorem not_mem_of_mem_splitOn {s e : List α} (hmem : e ∈ s.splitOn sep) : sep ∉ e := by
  induction s generalizing e with
  | nil => simp_all
  | cons a s ih =>
    rw [List.splitOn_cons_eq_if_modifyHead] at hmem
    split at hmem
    · obtain rfl | hrest := List.mem_cons.mp hmem
      · exact List.not_mem_nil
      · exact ih hrest
    · rename_i hne
      obtain ⟨first, rest, hpieces⟩ := List.exists_cons_of_ne_nil (List.splitOn_ne_nil sep s)
      rw [hpieces] at hmem ih
      obtain rfl | hrest := List.mem_cons.mp hmem
      · intro hsep
        obtain heq | htail := List.mem_cons.mp hsep
        · exact hne (beq_iff_eq.mpr heq.symm)
        · exact ih List.mem_cons_self htail
      · exact ih (List.mem_cons_of_mem first hrest)

theorem splitOn_join {l : List (List α)} (hfree : ∀ e ∈ l, sep ∉ e) (hne : l ≠ []) :
    (join sep l).splitOn sep = l :=
  List.splitOn_intercalate sep hfree hne

/-- Splitting what was joined invents no piece, unless there was nothing to join. -/
theorem mem_of_mem_split_join {l : List (List α)} (hfree : ∀ e ∈ l, sep ∉ e) (hne : join sep l ≠ [])
    {e : List α} (hmem : e ∈ split sep (join sep l)) : e ∈ l := by
  have hl : l ≠ [] := fun hnil => hne (join_eq_nil_iff.mpr (Or.inl hnil))
  rw [← splitOn_join hfree hl]
  exact mem_splitOn_of_mem_split hmem

/-- It returns every piece that is not empty. -/
theorem mem_split_join_iff {l : List (List α)} (hfree : ∀ e ∈ l, sep ∉ e) {e : List α} (hne : e ≠ []) :
    e ∈ split sep (join sep l) ↔ e ∈ l := by
  rw [mem_split_iff_of_ne_nil hne]
  by_cases hl : l = []
  · subst hl
    simp [join, hne]
  · rw [splitOn_join hfree hl]

end Split

/-- `Integer.MIN_VALUE` and `Integer.MAX_VALUE`. -/
def MIN_VALUE : Int := -0x80000000

def MAX_VALUE : Int := 0x7FFFFFFF

/-- `Integer.toString`. -/
def decimal (value : Int) : JString := (toString value).toList

/-- The decimal digits among the characters of the basic plane come in blocks of
ten, listed by their zeros. -/
def digitZeros : List Nat :=
  [0x0030, 0x0660, 0x06F0, 0x07C0, 0x0966, 0x09E6, 0x0A66, 0x0AE6, 0x0B66, 0x0BE6, 0x0C66, 0x0CE6, 0x0D66,
    0x0DE6, 0x0E50, 0x0ED0, 0x0F20, 0x1040, 0x1090, 0x17E0, 0x1810, 0x1946, 0x19D0, 0x1A80, 0x1A90, 0x1B50,
    0x1BB0, 0x1C40, 0x1C50, 0xA620, 0xA8D0, 0xA900, 0xA9D0, 0xA9F0, 0xAA50, 0xABF0, 0xFF10]

/-- `Character.digit` with radix ten. -/
def digit (c : Char) : Option Nat :=
  (digitZeros.find? fun first => first ≤ c.toNat ∧ c.toNat < first + 10).map (c.toNat - ·)

/-- The value of a digit string, most significant digit first. -/
def digitsValue (s : JString) : Option Nat :=
  s.foldlM (fun value c => (digit c).map (10 * value + ·)) 0

/-- `Integer.parseInt` for radix ten: an optional sign and at least one digit,
with a value of 32 bits. -/
def parseInt (s : JString) : Except Throwable Int :=
  let negative := s.head? == some '-'
  let digits := if s.head? == some '-' || s.head? == some '+' then s.tail else s
  match digits, digitsValue digits with
  | [], _ | _, none => throw .NumberFormatException
  | _, some value =>
    let signed : Int := if negative then -value else value
    if MIN_VALUE ≤ signed ∧ signed ≤ MAX_VALUE then pure signed else throw .NumberFormatException

example : (parseInt "-128".toList).toOption = some (-128) := by decide

example : (parseInt "2147483648".toList).toOption = none := by decide

end panelli.java
