import Mathlib.Algebra.Group.Nat.Defs
import Mathlib.Data.List.Induction
import Mathlib.Data.List.TakeWhile
import Mathlib.Tactic.SplitIfs

namespace panelli.cstring

/-- A string of C: its bytes without the terminator. -/
structure CString where
  bytes : List UInt8
  no_nul : 0 ∉ bytes

/-- The bytes of a literal. -/
def ascii (s : String) : List UInt8 := s.toList.map fun c => UInt8.ofNat c.toNat

def tolower (b : UInt8) : UInt8 := if 65 ≤ b ∧ b ≤ 90 then b + 32 else b

/-- A comparison with a text by one of the functions of the library, which holds if it
returns 0. -/
inductive Comparison where
  | strncasecmp (text : List UInt8) (n : Nat)
  | strncmp (text : List UInt8) (n : Nat)
  | strcasecmp (text : List UInt8)
deriving DecidableEq

def Comparison.holds : Comparison → List UInt8 → Bool
  | .strncasecmp text n, s => (s.map tolower).take n == (text.map tolower).take n
  | .strncmp text n, s => s.take n == text.take n
  | .strcasecmp text, s => s.map tolower == text.map tolower

/-- The start, in lower case, of the strings that a comparison holds for. -/
def Comparison.start : Comparison → List UInt8
  | .strncasecmp text n | .strncmp text n => (text.map tolower).take n
  | .strcasecmp text => text.map tolower

/-- Some position inside of both is not the same. -/
def clash (s t : List UInt8) : Bool := (s.zip t).any fun p => p.1 != p.2

theorem Comparison.isPrefix_of_holds {c : Comparison} {s : List UInt8} (hholds : c.holds s) :
    c.start <+: s.map tolower := by
  cases c with
  | strncasecmp text n =>
    have heq : (s.map tolower).take n = (text.map tolower).take n := beq_iff_eq.mp hholds
    rw [start, ← heq]
    exact List.take_prefix n _
  | strncmp text n =>
    have heq : s.take n = text.take n := beq_iff_eq.mp hholds
    rw [start, ← List.map_take, ← heq, List.map_take]
    exact List.take_prefix n _
  | strcasecmp text =>
    have heq : s.map tolower = (Comparison.strcasecmp text).start := beq_iff_eq.mp hholds
    exact heq ▸ List.prefix_rfl

/-- Texts that clash are not both the start of a string. -/
theorem not_prefix_of_clash {a b s : List UInt8} (hclash : clash a b) (ha : a <+: s) : ¬ b <+: s := by
  induction s generalizing a b with
  | nil =>
    rw [List.prefix_nil.mp ha] at hclash
    cases hclash
  | cons x s ih =>
    intro hb
    match a, b with
    | [], _ => cases hclash
    | _ :: _, [] => cases hclash
    | y :: a, z :: b =>
      obtain ⟨rfl, ha'⟩ := List.cons_prefix_cons.mp ha
      obtain ⟨rfl, hb'⟩ := List.cons_prefix_cons.mp hb
      have hrest : clash a b := by simpa [clash] using hclash
      exact ih hrest ha' hb'

/-- Comparisons that clash do not both hold. -/
theorem Comparison.not_holds_of_clash {c d : Comparison} (hclash : clash c.start d.start) {s : List UInt8}
    (hholds : c.holds s) : ¬ d.holds s :=
  fun hd => not_prefix_of_clash hclash (isPrefix_of_holds hholds) (isPrefix_of_holds hd)

/-- Where no two elements satisfy it at once, the first that does is the only one. -/
theorem find?_eq_some_iff_of_pairwise {α : Type} {p : α → Bool} {l : List α}
    (hpairwise : l.Pairwise fun a b => p a → ¬ p b) {a : α} : l.find? p = some a ↔ a ∈ l ∧ p a := by
  refine ⟨fun hfind => ⟨List.mem_of_find?_eq_some hfind, List.find?_some hfind⟩, ?_⟩
  rintro ⟨hmem, ha⟩
  induction l with
  | nil => cases hmem
  | cons b l ih =>
    obtain ⟨hb, hl⟩ := List.pairwise_cons.mp hpairwise
    obtain rfl | hmem := List.mem_cons.mp hmem
    · exact List.find?_cons_of_pos ha
    · rw [List.find?_cons_of_neg (fun hpos => hb a hmem hpos ha)]
      exact ih hl hmem

def isspace (b : UInt8) : Bool := b = 32 ∨ 9 ≤ b ∧ b ≤ 13

/-- The value of a digit or letter. -/
def digitValue (b : UInt8) : Option Nat :=
  if 48 ≤ b.toNat ∧ b.toNat ≤ 57 then some (b.toNat - 48)
  else if 65 ≤ b.toNat ∧ b.toNat ≤ 90 then some (b.toNat - 55)
  else if 97 ≤ b.toNat ∧ b.toNat ≤ 122 then some (b.toNat - 87)
  else none

def IsDigit (base : Nat) (b : UInt8) : Prop := ∃ v ∈ digitValue b, v < base

instance (base : Nat) (b : UInt8) : Decidable (IsDigit base b) :=
  inferInstanceAs (Decidable (∃ v ∈ digitValue b, v < base))

/-- The number that digits stand for. -/
def digitsValue (base : Nat) (digits : List UInt8) : Nat :=
  digits.foldl (fun value b => base * value + (digitValue b).getD 0) 0

/-- The limits of a `long` of 32 bits. -/
def LONG_MAX : Int := 0x7FFFFFFF

def LONG_MIN : Int := -0x80000000

/-- `strtol`: spaces, a sign, for base 16 a prefix `0x`, and digits, with the limits for
values that do not fit. -/
def strtol (base : Nat) (s : List UInt8) : Int :=
  let s := s.dropWhile isspace
  let negative := s.head? == some 45
  let s := if s.head? == some 45 || s.head? == some 43 then s.tail else s
  let s := if base == 16 && (s.take 2).map tolower == [48, 120] then s.drop 2 else s
  let value : Int := digitsValue base (s.takeWhile (IsDigit base ·))
  if negative then max LONG_MIN (-value) else min LONG_MAX value

/-- `atoi`. -/
def atoi (s : List UInt8) : Int := strtol 10 s

/-- What is left of a string from the first occurrence of a text on. -/
def strstr (s text : List UInt8) : Option (List UInt8) := s.tails.find? (text.isPrefixOf ·)

/-- `strncpy`: what it writes to a place of so many bytes. -/
def strncpy (s : List UInt8) (n : Nat) : List UInt8 := s.take n ++ List.replicate (n - s.length) 0

/-- Memory of which not every byte was written. -/
abbrev Block : Type := List (Option UInt8)

def Block.fresh (size : Nat) : Block := List.replicate size none

/-- A block after bytes were written at an offset. -/
def Block.put (block : Block) (offset : Nat) (bytes : List UInt8) : Block :=
  block.take offset ++ bytes.map some ++ block.drop (offset + bytes.length)

/-- Every byte of a range was written. -/
def Block.Initialised (block : Block) (offset size : Nat) : Prop :=
  ∀ i < size, ∃ byte, block[offset + i]? = some (some byte)

section

variable {base : Nat} {b : UInt8} {digits s t : List UInt8}

theorem digitsValue_concat (base : Nat) (s : List UInt8) (b : UInt8) :
    digitsValue base (s ++ [b]) = base * digitsValue base s + (digitValue b).getD 0 := by
  rw [digitsValue, List.foldl_append]
  rfl

/-- Digits that follow move those before them to the left. -/
theorem digitsValue_append (base : Nat) (s t : List UInt8) :
    digitsValue base (s ++ t) = digitsValue base s * base ^ t.length + digitsValue base t := by
  induction t using List.reverseRecOn with
  | nil =>
    rw [List.append_nil, List.length_nil, Nat.pow_zero, Nat.mul_one]
    rfl
  | append_singleton t b ih =>
    rw [← List.append_assoc, digitsValue_concat, ih, digitsValue_concat, List.length_append,
      List.length_singleton, Nat.pow_succ, Nat.mul_add, Nat.add_assoc]
    congr 1
    rw [Nat.mul_comm base, Nat.mul_assoc]

theorem digitsValue_lt (hdigits : ∀ b ∈ digits, IsDigit base b) : digitsValue base digits < base ^ digits.length := by
  induction digits using List.reverseRecOn with
  | nil => exact Nat.one_pos
  | append_singleton digits b ih =>
    obtain ⟨v, hv, hlt⟩ := hdigits b (by simp)
    have hrest := ih fun c hc => hdigits c (List.mem_append_left _ hc)
    rw [digitsValue_concat, Option.mem_def.mp hv, Option.getD_some, List.length_append, List.length_singleton,
      Nat.pow_succ, Nat.mul_comm (base ^ digits.length)]
    calc base * digitsValue base digits + v
        < base * digitsValue base digits + base := Nat.add_lt_add_left hlt _
      _ = base * (digitsValue base digits + 1) := by rw [Nat.mul_add, Nat.mul_one]
      _ ≤ base * base ^ digits.length := Nat.mul_le_mul_left base hrest

/-- A digit of a base up to 16 is no space, no sign and no `x`. -/
theorem IsDigit.plain (hdigit : IsDigit base b) (hbase : base ≤ 16) :
    isspace b = false ∧ b ≠ 45 ∧ b ≠ 43 ∧ tolower b ≠ 120 := by
  have hall : ∀ n < 256, IsDigit 16 (UInt8.ofNat n) → isspace (UInt8.ofNat n) = false ∧
      UInt8.ofNat n ≠ 45 ∧ UInt8.ofNat n ≠ 43 ∧ tolower (UInt8.ofNat n) ≠ 120 := by
    decide +kernel
  have hbyte := hall b.toNat b.toNat_lt
  rw [UInt8.ofNat_toNat] at hbyte
  obtain ⟨v, hv, hlt⟩ := hdigit
  exact hbyte ⟨v, hv, Nat.lt_of_lt_of_le hlt hbase⟩

/-- Digits alone give their value, up to the limit. -/
theorem strtol_digits (hbase : base ≤ 16) (hdigits : ∀ b ∈ digits, IsDigit base b) :
    strtol base digits = min LONG_MAX (digitsValue base digits) := by
  have hspaces : digits.dropWhile isspace = digits := by
    match digits with
    | [] => rfl
    | b :: rest => exact List.dropWhile_cons_of_neg (by simp [((hdigits b (by simp)).plain hbase).1])
  have hnegative : (digits.head? == some 45) = false := by
    match digits with
    | [] => rfl
    | b :: rest => simpa using ((hdigits b (by simp)).plain hbase).2.1
  have hpositive : (digits.head? == some 43) = false := by
    match digits with
    | [] => rfl
    | b :: rest => simpa using ((hdigits b (by simp)).plain hbase).2.2.1
  have hprefix : ((digits.take 2).map tolower == [48, 120]) = false := by
    match digits with
    | [] => rfl
    | [_] => simp
    | _ :: b :: rest =>
      have hx := ((hdigits b (by simp)).plain hbase).2.2.2
      simp [hx]
  have hall : digits.takeWhile (IsDigit base ·) = digits :=
    List.takeWhile_eq_self_iff.mpr fun b hb => decide_eq_true (hdigits b hb)
  unfold strtol
  simp only [hspaces, hnegative, hpositive, hprefix, hall, Bool.or_self, Bool.and_false, Bool.false_eq_true,
    if_false]

end

section

variable {bytes written : List UInt8} {block : Block} {offset size : Nat}

theorem strncpy_length (s : List UInt8) (n : Nat) : (strncpy s n).length = n := by
  rw [strncpy, List.length_append, List.length_take, List.length_replicate]
  omega

/-- Bytes that are written where a block is fresh from. -/
theorem Block.put_fresh (hoffset : offset = written.length) :
    Block.put (written.map some ++ Block.fresh size) offset bytes =
      (written ++ bytes).map some ++ Block.fresh (size - bytes.length) := by
  have hlength : (written.map some).length = offset := by rw [List.length_map, hoffset]
  rw [put, List.take_left' hlength, ← List.drop_drop, List.drop_left' hlength, fresh, List.drop_replicate,
    List.map_append]
  rfl

theorem Block.put_length (hoffset : offset + bytes.length ≤ block.length) :
    (block.put offset bytes).length = block.length := by
  rw [put, List.length_append, List.length_append, List.length_take, List.length_drop, List.length_map]
  omega

/-- A write is read back inside of its range. -/
theorem Block.getElem?_put_inside (hoffset : offset ≤ block.length) {i : Nat} (hi : i < bytes.length) :
    (block.put offset bytes)[offset + i]? = some (some bytes[i]) := by
  have htake : (block.take offset).length = offset := List.length_take_of_le hoffset
  rw [put, List.append_assoc, List.getElem?_append_right (by omega), htake, Nat.add_sub_cancel_left,
    List.getElem?_append_left (by rwa [List.length_map]), List.getElem?_map, List.getElem?_eq_getElem hi,
    Option.map_some]

/-- A write changes nothing in front of it, and nothing behind it. -/
theorem Block.getElem?_put_outside (hoffset : offset ≤ block.length) {i : Nat}
    (hi : i < offset ∨ offset + bytes.length ≤ i) : (block.put offset bytes)[i]? = block[i]? := by
  have htake : (block.take offset).length = offset := List.length_take_of_le hoffset
  obtain hbefore | hbehind := hi
  · rw [put, List.append_assoc, List.getElem?_append_left (by omega), List.getElem?_take_of_lt hbefore]
  · rw [put, List.getElem?_append_right (by rw [List.length_append, List.length_map]; omega), List.length_append,
      List.length_map, htake, List.getElem?_drop, Nat.add_sub_cancel' hbehind]

/-- Where all of a block was written, the ranges inside of it were. -/
theorem Block.initialised_iff_of_map_some (hblock : block = bytes.map some) :
    block.Initialised offset size ↔ size = 0 ∨ offset + size ≤ bytes.length := by
  constructor
  · intro hinitialised
    by_contra hnot
    obtain ⟨byte, hbyte⟩ := hinitialised (size - 1) (by omega)
    have hlt := (List.getElem?_eq_some_iff.mp hbyte).1
    rw [hblock, List.length_map] at hlt
    omega
  · intro hinside i hi
    have hlt : offset + i < bytes.length := by omega
    refine ⟨bytes[offset + i], ?_⟩
    rw [hblock, List.getElem?_map, List.getElem?_eq_getElem hlt, Option.map_some]

end

end panelli.cstring
