import Panelli.CString
import Mathlib.Data.List.Basic

open panelli.cstring

namespace panelli.printf

/-- The digits of a number, in small letters. -/
def digitsText (base n : Nat) : List UInt8 := (Nat.toDigits base n).map fun c => UInt8.ofNat c.toNat

def toupper (b : UInt8) : UInt8 := if 97 ≤ b ∧ b ≤ 122 then b - 32 else b

/-- `%d` -/
def decimalText (v : Int) : List UInt8 := (if v < 0 then [45] else []) ++ digitsText 10 v.natAbs

/-- A text with a width, filled up on the left. -/
def fieldText (fill : UInt8) (width : Nat) (text : List UInt8) : List UInt8 :=
  List.replicate (width - text.length) fill ++ text

/-- `%02x` with a width. -/
def hexText (width n : Nat) : List UInt8 := fieldText 48 width (digitsText 16 n)

/-- `%02X` with a width. -/
def HEXText (width n : Nat) : List UInt8 := fieldText 48 width ((digitsText 16 n).map toupper)

/-- Texts with colons between them. -/
def colons (texts : List (List UInt8)) : List UInt8 := [58].intercalate texts

/-- The number that decimal digits behind a sign stand for. -/
def readDecimal (text : List UInt8) : Int := strtol 10 text

/-- The number that hexadecimal digits stand for. -/
def readHex (text : List UInt8) : Nat := digitsValue 16 text

/-- The bytes that pairs of hexadecimal digits stand for. -/
def readPairs : List UInt8 → List UInt8
  | x :: y :: rest => UInt8.ofNat (readHex [x, y]) :: readPairs rest
  | _ => []

/-- No end of a string or of a line, no space, no colon and no point. -/
def Plain (b : UInt8) : Prop := b ≠ 0 ∧ b ≠ 10 ∧ b ≠ 32 ∧ b ≠ 58 ∧ b ≠ 46

/-- No end of a string or of a line. -/
def OneLine (text : List UInt8) : Prop := 0 ∉ text ∧ 10 ∉ text

instance : DecidablePred OneLine := fun text => inferInstanceAs (Decidable (0 ∉ text ∧ 10 ∉ text))

section

variable {base n width : Nat} {b : UInt8} {text : List UInt8}

theorem digitsText_of_lt (hlt : n < base) : digitsText base n = [UInt8.ofNat n.digitChar.toNat] := by
  rw [digitsText, Nat.toDigits_of_lt_base hlt, List.map_singleton]

theorem digitsText_of_le (hbase : 1 < base) (hle : base ≤ n) :
    digitsText base n = digitsText base (n / base) ++ digitsText base (n % base) := by
  rw [digitsText, digitsText, digitsText_of_lt (Nat.mod_lt n (by omega)), Nat.toDigits_of_base_le hbase hle,
    List.map_append, List.map_singleton]

/-- What is printed for a digit is read as that digit, also as a capital letter. -/
theorem digitValue_digitChar {v : Nat} (hv : v < 16) :
    digitValue (UInt8.ofNat v.digitChar.toNat) = some v ∧
      digitValue (toupper (UInt8.ofNat v.digitChar.toNat)) = some v := by
  have hall : ∀ v < 16, digitValue (UInt8.ofNat (Nat.digitChar v).toNat) = some v ∧
      digitValue (toupper (UInt8.ofNat (Nat.digitChar v).toNat)) = some v := by
    decide
  exact hall v hv

/-- The digits are the ones of the base. -/
theorem exists_of_mem_digitsText (hbase : 1 < base) (hb : b ∈ digitsText base n) :
    ∃ v < base, b = UInt8.ofNat v.digitChar.toNat := by
  induction n using Nat.strongRecOn with
  | ind n ih =>
    obtain hlt | hle := Nat.lt_or_ge n base
    · rw [digitsText_of_lt hlt, List.mem_singleton] at hb
      exact ⟨n, hlt, hb⟩
    · rw [digitsText_of_le hbase hle, List.mem_append] at hb
      obtain hfront | hlast := hb
      · exact ih (n / base) (Nat.div_lt_self (by omega) hbase) hfront
      · exact ih (n % base) (Nat.lt_of_lt_of_le (Nat.mod_lt n (by omega)) hle) hlast

/-- A number is read back from its digits, whatever is done to each that keeps its value. -/
theorem digitsValue_map_digitsText (hbase : 1 < base) {f : UInt8 → UInt8}
    (hf : ∀ v < base, digitValue (f (UInt8.ofNat v.digitChar.toNat)) = some v) (n : Nat) :
    digitsValue base ((digitsText base n).map f) = n := by
  induction n using Nat.strongRecOn with
  | ind n ih =>
    obtain hlt | hle := Nat.lt_or_ge n base
    · rw [digitsText_of_lt hlt, List.map_singleton, ← List.nil_append [_], digitsValue_concat, hf n hlt]
      simp [digitsValue]
    · have hmod : n % base < base := Nat.mod_lt n (by omega)
      rw [digitsText_of_le hbase hle, List.map_append, digitsText_of_lt hmod, List.map_singleton, digitsValue_concat,
        ih (n / base) (Nat.div_lt_self (by omega) hbase), hf _ hmod, Option.getD_some, Nat.div_add_mod]

theorem digitsValue_digitsText (hbase : 1 < base) (hle : base ≤ 16) (n : Nat) :
    digitsValue base (digitsText base n) = n := by
  have hread := digitsValue_map_digitsText (f := id) hbase
    (fun v hv => (digitValue_digitChar (Nat.lt_of_lt_of_le hv hle)).1) n
  rwa [List.map_id] at hread

theorem isDigit_digitsText (hbase : 1 < base) (hle : base ≤ 16) : ∀ b ∈ digitsText base n, IsDigit base b := by
  intro b hb
  obtain ⟨v, hv, rfl⟩ := exists_of_mem_digitsText hbase hb
  exact ⟨v, (digitValue_digitChar (Nat.lt_of_lt_of_le hv hle)).1, hv⟩

/-- A minus and digits give the number below zero, down to the limit. -/
theorem strtol_negative (hdigits : ∀ b ∈ text, IsDigit 10 b) :
    strtol 10 (45 :: text) = max LONG_MIN (-(digitsValue 10 text : Int)) := by
  have hall : text.takeWhile (IsDigit 10 ·) = text :=
    List.takeWhile_eq_self_iff.mpr fun b hb => decide_eq_true (hdigits b hb)
  have hspace : (45 :: text).dropWhile isspace = 45 :: text := List.dropWhile_cons_of_neg (by decide)
  have hbase : ((10 : Nat) == 16) = false := rfl
  unfold strtol
  simp only [hspace, List.head?_cons, beq_self_eq_true, Bool.true_or, if_true, List.tail_cons, hbase, Bool.false_and,
    Bool.false_eq_true, if_false, hall]

/-- A decimal number that fits a `long` is read back, with its sign. -/
theorem readDecimal_decimalText {v : Int} (hmin : LONG_MIN ≤ v) (hmax : v ≤ LONG_MAX) :
    readDecimal (decimalText v) = v := by
  have hdigits : ∀ b ∈ digitsText 10 v.natAbs, IsDigit 10 b := isDigit_digitsText (by omega) (by omega)
  have hvalue : digitsValue 10 (digitsText 10 v.natAbs) = v.natAbs :=
    digitsValue_digitsText (by omega) (by omega) _
  rw [readDecimal, decimalText]
  split
  · rw [List.singleton_append, strtol_negative hdigits, hvalue]
    omega
  · rw [List.nil_append, strtol_digits (by omega) hdigits, hvalue]
    omega

/-- A decimal text is that of one number only, whatever its size. -/
theorem decimalText_injective : Function.Injective decimalText := by
  intro v w heq
  have hvalue : ∀ n : Nat, digitsValue 10 (digitsText 10 n) = n := digitsValue_digitsText (by omega) (by omega)
  have hminus : ∀ {m n : Nat}, 45 :: digitsText 10 m ≠ digitsText 10 n := by
    intro m n hsame
    have hdigit : IsDigit 10 45 := isDigit_digitsText (by omega) (by omega) 45 (hsame ▸ List.mem_cons_self)
    exact absurd hdigit (by decide)
  rw [decimalText, decimalText] at heq
  by_cases hv : v < 0
  · by_cases hw : w < 0
    · rw [if_pos hv, if_pos hw] at heq
      have habs := congrArg (digitsValue 10) (List.append_cancel_left heq)
      rw [hvalue, hvalue] at habs
      omega
    · rw [if_pos hv, if_neg hw] at heq
      exact absurd heq hminus
  · by_cases hw : w < 0
    · rw [if_neg hv, if_pos hw] at heq
      exact absurd heq.symm hminus
    · rw [if_neg hv, if_neg hw] at heq
      have habs := congrArg (digitsValue 10) (List.append_cancel_left heq)
      rw [hvalue, hvalue] at habs
      omega

/-- Zeros in front change no number. -/
theorem digitsValue_zeros (k : Nat) (text : List UInt8) :
    digitsValue base (List.replicate k 48 ++ text) = digitsValue base text := by
  have hzeros : digitsValue base (List.replicate k 48) = 0 := by
    induction k with
    | zero => rfl
    | succ k ih =>
      have hzero : digitValue 48 = some 0 := rfl
      rw [List.replicate_succ', digitsValue_concat, ih, hzero]
      rfl
  rw [digitsValue_append, hzeros, Nat.zero_mul, Nat.zero_add]

theorem readHex_hexText (width n : Nat) : readHex (hexText width n) = n := by
  rw [readHex, hexText, fieldText, digitsValue_zeros, digitsValue_digitsText (by omega) (by omega)]

theorem readHex_HEXText (width n : Nat) : readHex (HEXText width n) = n := by
  rw [readHex, HEXText, fieldText, digitsValue_zeros]
  exact digitsValue_map_digitsText (by omega) (fun v hv => (digitValue_digitChar hv).2) n

/-- A number that fits its width fills it. -/
theorem HEXText_length (hwidth : 0 < width) (hn : n < 16 ^ width) : (HEXText width n).length = width := by
  have hlength : (digitsText 16 n).length ≤ width := by
    rw [digitsText, List.length_map]
    exact (Nat.length_toDigits_le_iff (by omega) hwidth).mpr hn
  rw [HEXText, fieldText, List.length_append, List.length_replicate, List.length_map]
  omega

theorem plain_of_isDigit (hdigit : IsDigit base b) : Plain b := by
  obtain ⟨v, hv, hlt⟩ := hdigit
  have hmark : ∀ c : UInt8, digitValue c = none → b ≠ c := by
    rintro c hc rfl
    rw [hc] at hv
    cases hv
  exact ⟨hmark 0 rfl, hmark 10 rfl, hmark 32 rfl, hmark 58 rfl, hmark 46 rfl⟩

theorem plain_decimalText {v : Int} (hb : b ∈ decimalText v) : Plain b := by
  rw [decimalText, List.mem_append] at hb
  obtain hsign | hdigit := hb
  · split at hsign
    · rw [List.mem_singleton.mp hsign]
      simp [Plain]
    · cases hsign
  · exact plain_of_isDigit (isDigit_digitsText (by omega) (by omega) b hdigit)

theorem plain_zeros (hb : b ∈ List.replicate n 48) : Plain b := by
  rw [List.eq_of_mem_replicate hb]
  simp [Plain]

theorem plain_hexText (hb : b ∈ hexText width n) : Plain b := by
  rw [hexText, fieldText, List.mem_append] at hb
  obtain hzero | hdigit := hb
  · exact plain_zeros hzero
  · exact plain_of_isDigit (isDigit_digitsText (by omega) (by omega) b hdigit)

theorem plain_HEXText (hb : b ∈ HEXText width n) : Plain b := by
  rw [HEXText, fieldText, List.mem_append] at hb
  obtain hzero | hdigit := hb
  · exact plain_zeros hzero
  · obtain ⟨c, hc, rfl⟩ := List.mem_map.mp hdigit
    obtain ⟨v, hv, rfl⟩ := exists_of_mem_digitsText (by omega) hc
    exact plain_of_isDigit ⟨v, (digitValue_digitChar hv).2, hv⟩

theorem oneLine_of_plain (hplain : ∀ b ∈ text, Plain b) : OneLine text :=
  ⟨fun hb => (hplain 0 hb).1 rfl, fun hb => (hplain 10 hb).2.1 rfl⟩

theorem OneLine.append {first second : List UInt8} (hfirst : OneLine first) (hsecond : OneLine second) :
    OneLine (first ++ second) :=
  ⟨fun hb => (List.mem_append.mp hb).elim hfirst.1 hsecond.1, fun hb => (List.mem_append.mp hb).elim hfirst.2 hsecond.2⟩

theorem mem_colons {texts : List (List UInt8)} (hb : b ∈ colons texts) : b = 58 ∨ ∃ text ∈ texts, b ∈ text := by
  induction texts with
  | nil => cases hb
  | cons text texts ih =>
    match texts with
    | [] =>
      rw [colons, List.intercalate_singleton] at hb
      exact .inr ⟨text, List.mem_cons_self, hb⟩
    | next :: rest =>
      rw [colons, List.intercalate_cons_cons, List.mem_append, List.mem_append] at hb
      obtain (hfirst | hcolon) | hrest := hb
      · exact .inr ⟨text, List.mem_cons_self, hfirst⟩
      · exact .inl (List.mem_singleton.mp hcolon)
      · obtain hcolon | ⟨piece, hpiece, hmem⟩ := ih hrest
        · exact .inl hcolon
        · exact .inr ⟨piece, List.mem_cons_of_mem text hpiece, hmem⟩

theorem oneLine_colons {texts : List (List UInt8)} (htexts : ∀ text ∈ texts, OneLine text) :
    OneLine (colons texts) := by
  constructor
  · intro hb
    obtain hcolon | ⟨text, htext, hmem⟩ := mem_colons hb
    · cases hcolon
    · exact (htexts text htext).1 hmem
  · intro hb
    obtain hcolon | ⟨text, htext, hmem⟩ := mem_colons hb
    · cases hcolon
    · exact (htexts text htext).2 hmem

/-- Texts of one width between colons. -/
theorem colons_length {texts : List (List UInt8)} {width : Nat} (hwidth : ∀ text ∈ texts, text.length = width) :
    (colons texts).length = texts.length * width + (texts.length - 1) := by
  induction texts with
  | nil => simp [colons]
  | cons text texts ih =>
    obtain ⟨htext, hrest⟩ := List.forall_mem_cons.mp hwidth
    cases texts with
    | nil =>
      rw [colons, List.intercalate_singleton, htext, List.length_singleton, Nat.one_mul, Nat.sub_self, Nat.add_zero]
    | cons next rest =>
      have htail := ih hrest
      rw [colons] at htail
      rw [colons, List.intercalate_cons_cons, List.length_append, List.length_append, htail, htext]
      simp only [List.length_cons, List.length_nil, Nat.add_mul]
      omega

/-- Texts without colons are read back. -/
theorem splitOn_colons {texts : List (List UInt8)} (hplain : ∀ text ∈ texts, ∀ b ∈ text, Plain b) (hne : texts ≠ []) :
    (colons texts).splitOn 58 = texts :=
  List.splitOn_intercalate 58 (fun text htext hb => (hplain text htext 58 hb).2.2.2.1 rfl) hne

/-- Bytes are read back from pairs of digits. -/
theorem readPairs_flatMap (bytes : List UInt8) :
    readPairs (bytes.flatMap fun byte => HEXText 2 byte.toNat) = bytes := by
  induction bytes with
  | nil => rfl
  | cons byte bytes ih =>
    have hlength : (HEXText 2 byte.toNat).length = 2 := HEXText_length (by omega) byte.toNat_lt
    obtain ⟨x, y, hpair⟩ := List.length_eq_two.mp hlength
    have hread : readHex [x, y] = byte.toNat := hpair ▸ readHex_HEXText 2 byte.toNat
    rw [List.flatMap_cons, hpair, List.cons_append, List.cons_append, List.nil_append, readPairs, hread,
      UInt8.ofNat_toNat, ih]

end

/-- `snprintf` at a position of a block of which so many bytes are left. It returns the length of
the text. -/
def snprintf (block : Block) (pos left : Nat) (text : List UInt8) : Block :=
  if left = 0 then block else block.put pos (text.take (left - 1) ++ [0])

/-- What a function leaves that prints one text behind the other. -/
structure Printed where
  ret : Nat
  block : Block
  calls : Nat

/-- It ends with 0 at the first text that does not fit into what is left. -/
def printAll (buflen : Nat) : List (List UInt8) → Nat → Block → Printed
  | [], pos, block => ⟨pos, block, 0⟩
  | text :: texts, pos, block =>
    let block := snprintf block pos (buflen - pos) text
    if buflen - pos ≤ text.length then ⟨0, block, 1⟩
    else
      let printed := printAll buflen texts (pos + text.length) block
      { printed with calls := printed.calls + 1 }

/-- The string in a block. -/
def stringOf (block : Block) : List UInt8 := (block.takeWhile (· ≠ some 0)).filterMap id

section

variable {block : Block} {pos left buflen : Nat} {a b c text : List UInt8}

/-- What is written over the end of what was written before. -/
theorem put_put (hpos : pos ≤ block.length) (hlength : b.length ≤ c.length) :
    Block.put (block.put pos (a ++ b)) (pos + a.length) c = block.put pos (a ++ c) := by
  have htake : (block.take pos).length = pos := List.length_take_of_le hpos
  have hfront : (block.take pos ++ a.map some).length = pos + a.length := by
    rw [List.length_append, htake, List.length_map]
  have hput : block.put pos (a ++ b) =
      (block.take pos ++ a.map some) ++ (b.map some ++ block.drop (pos + (a.length + b.length))) := by
    rw [Block.put, List.map_append, List.length_append]
    simp only [List.append_assoc]
  have hdrop : (b.map some ++ block.drop (pos + (a.length + b.length))).drop c.length =
      block.drop (pos + (a.length + c.length)) := by
    rw [List.drop_append, List.drop_eq_nil_of_le (by rwa [List.length_map]), List.nil_append, List.length_map,
      List.drop_drop]
    congr 1
    omega
  rw [hput, Block.put, List.take_left' hfront, ← List.drop_drop, List.drop_left' hfront, hdrop, Block.put,
    List.map_append, List.length_append]
  simp only [List.append_assoc]

/-- A text that fits and one behind it are one text. -/
theorem snprintf_snprintf (hblock : pos + left ≤ block.length) (hfits : a.length < left) :
    snprintf (snprintf block pos left a) (pos + a.length) (left - a.length) b = snprintf block pos left (a ++ b) := by
  have hall : a.take (left - 1) = a := List.take_of_length_le (by omega)
  have hboth : (a ++ b).take (left - 1) = a ++ b.take (left - a.length - 1) := by
    rw [List.take_append, hall]
    congr 2
    omega
  rw [snprintf, if_neg (by omega), snprintf, if_neg (by omega), snprintf, if_neg (by omega), hall, hboth,
    put_put (by omega) (by simp), List.append_assoc]

theorem snprintf_of_le (hle : left ≤ a.length) : snprintf block pos left (a ++ b) = snprintf block pos left a := by
  rw [snprintf, snprintf, List.take_append_of_le_length (by omega)]

/-- Printing one text behind the other is printing them as one, except that it ends with 0
where they do not fit. -/
theorem printAll_cons (texts : List (List UInt8)) (text : List UInt8) (hpos : pos ≤ buflen)
    (hblock : buflen ≤ block.length) :
    (printAll buflen (text :: texts) pos block).block =
        snprintf block pos (buflen - pos) (text :: texts).flatten ∧
      (printAll buflen (text :: texts) pos block).ret =
        if pos + (text :: texts).flatten.length < buflen then pos + (text :: texts).flatten.length else 0 := by
  induction texts generalizing text pos block with
  | nil =>
    rw [printAll, List.flatten_singleton]
    split
    · exact ⟨rfl, by rw [if_neg (by omega)]⟩
    · exact ⟨rfl, by rw [if_pos (by omega)]; rfl⟩
  | cons next texts ih =>
    rw [printAll, List.flatten_cons, List.length_append]
    split
    · refine ⟨?_, by rw [if_neg (by omega)]⟩
      rw [snprintf_of_le (by omega)]
    · have hlength : (snprintf block pos (buflen - pos) text).length = block.length := by
        rw [snprintf, if_neg (by omega)]
        apply Block.put_length
        rw [List.length_append, List.length_take, List.length_singleton]
        omega
      obtain ⟨hrest, hret⟩ := ih next (by omega : pos + text.length ≤ buflen)
        (by omega : buflen ≤ (snprintf block pos (buflen - pos) text).length)
      refine ⟨?_, ?_⟩
      · rw [hrest, ← Nat.sub_sub, snprintf_snprintf (by omega) (by omega)]
      · rw [hret, Nat.add_assoc]

/-- The first call is always made, and each later one where all texts before it have fitted. -/
theorem lt_calls_iff (texts : List (List UInt8)) (n : Nat) :
    n < (printAll buflen texts pos block).calls ↔
      n < texts.length ∧ (n = 0 ∨ pos + (texts.take n).flatten.length < buflen) := by
  induction texts generalizing pos block n with
  | nil => simp [printAll]
  | cons text texts ih =>
    rw [printAll]
    cases n with
    | zero =>
      split
      · simp
      · simp
    | succ n =>
      rw [List.length_cons, List.take_succ_cons, List.flatten_cons, List.length_append]
      split
      · simp
        omega
      · have hrest : n < (printAll buflen texts (pos + text.length)
            (snprintf block pos (buflen - pos) text)).calls ↔ _ := ih n
        rw [Nat.add_lt_add_iff_right, hrest, Nat.add_lt_add_iff_right, Nat.add_assoc]
        cases n with
        | zero => simp; omega
        | succ n => simp

theorem stringOf_snprintf (hnul : 0 ∉ text) (hfits : text.length < left) :
    stringOf (snprintf block 0 left text) = text := by
  have hall : text.take (left - 1) = text := List.take_of_length_le (by omega)
  have hnone : ∀ b ∈ text.map some, decide (b ≠ some (0 : UInt8)) = true := by
    intro b hb
    obtain ⟨x, hx, rfl⟩ := List.mem_map.mp hb
    simp only [decide_eq_true_eq]
    rintro ⟨⟩
    exact hnul hx
  rw [snprintf, if_neg (by omega), hall, Block.put, List.take_zero, List.nil_append, List.map_append, List.append_assoc,
    stringOf, List.takeWhile_append_of_pos hnone]
  simp

end

end panelli.printf
