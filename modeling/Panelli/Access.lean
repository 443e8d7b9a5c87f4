import Panelli.Netlink.Iterator
import Mathlib.Data.List.GetD

open panelli.netlink

namespace panelli.access

/-- A range of bytes. -/
structure Range where
  offset : Nat
  size : Nat
deriving DecidableEq

def Range.shift (r : Range) (base : Nat) : Range := ⟨base + r.offset, r.size⟩

/-- No byte of a range is outside of so many bytes. -/
def Range.Within (r : Range) (len : Nat) : Prop := r.size = 0 ∨ r.offset + r.size ≤ len

theorem Range.Within.le {r : Range} {len : Nat} (hwithin : r.Within len) (hsize : r.size ≠ 0) :
    r.offset + r.size ≤ len :=
  hwithin.resolve_left hsize

/-- A field of a record that is inside. -/
theorem Range.shift_within {r : Range} {base size len : Nat} (hfield : r.offset + r.size ≤ size)
    (hrecord : base + size ≤ len) : (r.shift base).Within len := by
  apply Or.inr
  dsimp only [Range.shift]
  omega

/-- What a program has touched: the ranges it read of a buffer, the size of what
it allocated, and the ranges it wrote there. -/
structure Accesses where
  reads : List Range := []
  allocated : Nat := 0
  writes : List Range := []

/-- A program whose accesses to memory are recorded. -/
abbrev Access (α : Type) : Type := StateM Accesses α

def touch (r : Range) : Access Unit := fun s => ((), { s with reads := s.reads ++ [r] })

def touchAll (rs : List Range) : Access Unit := fun s => ((), { s with reads := s.reads ++ rs })

def readNumber (mem : Place) (offset width : Nat) : Access Nat := do
  touch ⟨offset, width⟩
  return mem.number offset width

def readBytes (mem : Place) (offset size : Nat) : Access (List UInt8) := do
  touch ⟨offset, size⟩
  return (mem.drop offset).take size

/-- The length of the string at an offset. -/
def strlen (mem : Place) (offset : Nat) : Nat := ((mem.drop offset).takeWhile (· ≠ 0)).length

/-- A string is read up to its terminator. -/
def touchString (mem : Place) (offset : Nat) : Access Unit := touch ⟨offset, strlen mem offset + 1⟩

def allocate (size : Nat) : Access Unit := fun s => ((), { s with allocated := size })

def writeAll (rs : List Range) : Access Unit := fun s => ((), { s with writes := s.writes ++ rs })

/-- An `int` as a `size_t`, which has so many values: a negative one wraps around. -/
def size_t (sizes : Nat) (n : Int) : Nat := if 0 ≤ n then n.toNat else sizes - (-n).toNat

/-- A block after bytes were copied to its start. -/
def overwrite (block bytes : List UInt8) : List UInt8 := bytes ++ block.drop bytes.length

section

variable {α β : Type} (s : Accesses)

@[simp] theorem bind_apply (program : Access α) (f : α → Access β) :
    (program >>= f) s = f (program s).1 (program s).2 := rfl

@[simp] theorem pure_apply (a : α) : (pure a : Access α) s = (a, s) := rfl

@[simp] theorem touchAll_apply (rs : List Range) :
    touchAll rs s = ((), { s with reads := s.reads ++ rs }) := rfl

@[simp] theorem readNumber_apply (mem : Place) (offset width : Nat) :
    readNumber mem offset width s =
      (mem.number offset width, { s with reads := s.reads ++ [⟨offset, width⟩] }) := rfl

@[simp] theorem readBytes_apply (mem : Place) (offset size : Nat) :
    readBytes mem offset size s =
      ((mem.drop offset).take size, { s with reads := s.reads ++ [⟨offset, size⟩] }) := rfl

@[simp] theorem touchString_apply (mem : Place) (offset : Nat) :
    touchString mem offset s = ((), { s with reads := s.reads ++ [⟨offset, strlen mem offset + 1⟩] }) := rfl

@[simp] theorem allocate_apply (size : Nat) : allocate size s = ((), { s with allocated := size }) := rfl

@[simp] theorem writeAll_apply (rs : List Range) :
    writeAll rs s = ((), { s with writes := s.writes ++ rs }) := rfl

/-- Programs that only read, one after the other. -/
theorem mapM_of_reads {f : α → Access β} {value : α → β} {ranges : α → List Range}
    (hf : ∀ a s, f a s = (value a, { s with reads := s.reads ++ ranges a })) (as : List α) :
    as.mapM f s = (as.map value, { s with reads := s.reads ++ as.flatMap ranges }) := by
  induction as generalizing s with
  | nil =>
    rw [List.flatMap_nil, List.append_nil]
    rfl
  | cons a as ih =>
    rw [List.mapM_cons, bind_apply, hf, bind_apply, ih, pure_apply, List.map_cons, List.flatMap_cons,
      List.append_assoc]

end

section

variable {buffer beyond : List UInt8} {offset width : Nat}

/-- What is behind a buffer does not matter to a number in it. -/
theorem number_append_left (hinside : offset + width ≤ buffer.length) :
    Place.number (buffer ++ beyond) offset width = Place.number buffer offset width := by
  have hroom : width ≤ (buffer.drop offset).length := by
    rw [List.length_drop]
    omega
  rw [Place.number, Place.number, List.drop_append_of_le_length (by omega),
    List.take_append_of_le_length hroom]

/-- The type that is read of a buffer with a header is the one in the buffer. -/
theorem nla_type_append (hheader : NLA_HDRLEN ≤ buffer.length) (beyond : List UInt8) :
    UInt16.ofNat (Place.number (buffer ++ beyond) 2 2) = Place.nla_type buffer := by
  have hheader' : 4 ≤ buffer.length := hheader
  rw [number_append_left (by omega)]
  rfl

/-- The prefix without a terminator is shorter than so many bytes if there is one in
them, where zeros follow. -/
theorem length_takeWhile_lt_iff (bytes : List UInt8) (len : Nat) :
    (bytes.takeWhile (· ≠ 0)).length < len ↔ ∃ k < len, bytes.getD k 0 = 0 := by
  induction bytes generalizing len with
  | nil =>
    rw [List.takeWhile_nil, List.length_nil]
    exact ⟨fun hlen => ⟨0, hlen, rfl⟩, fun ⟨k, hk, _⟩ => Nat.zero_lt_of_lt hk⟩
  | cons byte bytes ih =>
    by_cases hzero : byte = 0
    · rw [List.takeWhile_cons_of_neg (by simpa using hzero), List.length_nil]
      exact ⟨fun hlen => ⟨0, hlen, hzero⟩, fun ⟨k, hk, _⟩ => Nat.zero_lt_of_lt hk⟩
    · rw [List.takeWhile_cons_of_pos (by simpa using hzero), List.length_cons]
      constructor
      · intro hlen
        obtain ⟨k, hk, hbyte⟩ := (ih (len - 1)).mp (by omega)
        exact ⟨k + 1, by omega, hbyte⟩
      · rintro ⟨k, hk, hbyte⟩
        cases k with
        | zero => exact absurd hbyte hzero
        | succ k =>
          have hlt := (ih (len - 1)).mpr ⟨k, by omega, hbyte⟩
          omega

/-- A string ends before a bound if there is a terminator before it. -/
theorem strlen_le_iff (mem : Place) (offset len : Nat) :
    offset + strlen mem offset + 1 ≤ len ↔ ∃ k, offset ≤ k ∧ k < len ∧ mem.getD k 0 = 0 := by
  have hends := length_takeWhile_lt_iff (mem.drop offset) (len - offset)
  constructor
  · intro hle
    obtain ⟨k, hk, hbyte⟩ := hends.mp (by rw [strlen] at hle; omega)
    refine ⟨offset + k, by omega, by omega, ?_⟩
    rwa [List.getD_eq_getElem?_getD, List.getElem?_drop, ← List.getD_eq_getElem?_getD] at hbyte
  · rintro ⟨k, hle, hlt, hbyte⟩
    have hshort := hends.mpr ⟨k - offset, by omega, by
      rwa [List.getD_eq_getElem?_getD, List.getElem?_drop, Nat.add_sub_cancel' hle,
        ← List.getD_eq_getElem?_getD]⟩
    rw [strlen]
    omega

/-- A string ends in a buffer if there is a terminator. -/
theorem strlen_lt_iff (buffer beyond : List UInt8) (offset : Nat) :
    offset + strlen (buffer ++ beyond) offset + 1 ≤ buffer.length ↔ 0 ∈ buffer.drop offset := by
  rw [strlen_le_iff, List.mem_iff_getElem?]
  constructor
  · rintro ⟨k, hle, hlt, hbyte⟩
    rw [List.getD_append _ _ _ _ hlt, List.getD_eq_getElem _ _ hlt] at hbyte
    refine ⟨k - offset, ?_⟩
    rw [List.getElem?_drop, Nat.add_sub_cancel' hle, List.getElem?_eq_getElem hlt, hbyte]
  · rintro ⟨i, hbyte⟩
    rw [List.getElem?_drop] at hbyte
    obtain ⟨hlt, hbyte⟩ := List.getElem?_eq_some_iff.mp hbyte
    refine ⟨offset + i, Nat.le_add_right _ _, hlt, ?_⟩
    rw [List.getD_append _ _ _ _ hlt, List.getD_eq_getElem _ _ hlt, hbyte]

end

end panelli.access
