import Panelli.Bytes

open panelli.bytes

namespace panelli.parcel

/-- The bytes of a parcel that were not read yet. -/
abbrev Parcel : Type := List UInt8

/-- The word a 32 bit number is written as. -/
def int32Bytes (v : Int32) : List UInt8 := le32 v.toUInt32.toNat

def writeInt32 (v : Int32) (p : Parcel) : Parcel := p ++ int32Bytes v

def write (buf : List UInt8) (p : Parcel) : Parcel := p ++ padded buf

/-- A read past the end gives zero. -/
def readInt32 (p : Parcel) : Int32 × Parcel :=
  if 4 ≤ p.length then ((UInt32.ofNat (ofLe (p.take 4))).toInt32, p.drop 4) else (0, p)

/-- A read past the end gives nothing. -/
def read (len : Nat) (p : Parcel) : Option (List UInt8) × Parcel :=
  if align4 len ≤ p.length then (some (p.take len), p.drop (align4 len)) else (none, p)

/-- The word a length is written as. -/
def lengthWord (len : Nat) : Int32 := (UInt32.ofNat len).toInt32

/-- A name in front of the arguments, behind a word with the policy of the caller. -/
def writeInterfaceToken (policy : Int32) (descriptor : List UInt8) (p : Parcel) : Parcel :=
  write descriptor (writeInt32 (lengthWord descriptor.length) (writeInt32 policy p))

/-- Whether a parcel starts with the name. -/
def checkInterface (descriptor : List UInt8) (p : Parcel) : Bool × Parcel :=
  let (_, p) := readInt32 p
  let (len, p) := readInt32 p
  let (name, p) := read len.toUInt32.toNat p
  (name == some descriptor, p)

/-- A text with its terminator behind its length. An empty one has the length only. -/
def writeString8 (str : List UInt8) (p : Parcel) : Parcel :=
  let p := writeInt32 (lengthWord str.length) p
  if 0 < str.length then write (str ++ [0]) p else p

def readString8 (p : Parcel) : List UInt8 × Parcel :=
  let (size, p) := readInt32 p
  if 0 < size ∧ size < 0x7fffffff then
    let (buf, p) := read (size.toUInt32.toNat + 1) p
    ((buf.getD []).take size.toUInt32.toNat, p)
  else ([], p)

def writeCString (str : List UInt8) (p : Parcel) : Parcel := write (str ++ [0]) p

/-- A text ends at the first zero. Without one, there is none. -/
def readCString (p : Parcel) : Option (List UInt8) × Parcel :=
  if 0 ∈ p then
    let str := p.takeWhile (· ≠ 0)
    (some str, p.drop (align4 (str.length + 1)))
  else (none, p)

section

variable {v policy : Int32} {buf descriptor : List UInt8} {rest : Parcel}

@[simp] theorem readInt32_append (v : Int32) (rest : Parcel) : readInt32 (int32Bytes v ++ rest) = (v, rest) := by
  have hlength : (int32Bytes v).length = 4 := le32_length _
  rw [readInt32, if_pos (by rw [List.length_append]; omega), List.take_left' hlength, List.drop_left' hlength,
    int32Bytes, ofLe_le32 v.toUInt32.toNat_lt, UInt32.ofNat_toNat]
  rfl

@[simp] theorem readInt32_int32Bytes (v : Int32) : readInt32 (int32Bytes v) = (v, []) := by
  rw [← List.append_nil (int32Bytes v), readInt32_append]

@[simp] theorem read_append (buf : List UInt8) (rest : Parcel) :
    read buf.length (padded buf ++ rest) = (some buf, rest) := by
  rw [read, if_pos (by rw [List.length_append, padded_length]; omega), take_padded_append, drop_padded_append]

@[simp] theorem read_padded (buf : List UInt8) : read buf.length (padded buf) = (some buf, []) := by
  rw [← List.append_nil (padded buf), read_append]

/-- A length that fits into the word is read back. -/
theorem toNat_lengthWord {len : Nat} (hlen : len < 4294967296) : (lengthWord len).toUInt32.toNat = len :=
  UInt32.toNat_ofNat_of_lt' hlen

theorem checkInterface_append (hlen : descriptor.length < 4294967296) (rest : Parcel) :
    checkInterface descriptor (writeInterfaceToken policy descriptor [] ++ rest) = (true, rest) := by
  simp only [writeInterfaceToken, write, writeInt32, List.nil_append, List.append_assoc, checkInterface,
    readInt32_append, toNat_lengthWord hlen, read_append, beq_self_eq_true]

variable {str : List UInt8}

/-- The bytes of a text with its length. -/
def string8Bytes (str : List UInt8) : List UInt8 :=
  int32Bytes (lengthWord str.length) ++ if 0 < str.length then padded (str ++ [0]) else []

theorem writeString8_eq (str : List UInt8) (p : Parcel) : writeString8 str p = p ++ string8Bytes str := by
  rw [writeString8, string8Bytes, writeInt32, write]
  split
  · rw [List.append_assoc]
  · rw [List.append_nil]

theorem toInt_lengthWord {len : Nat} (hlen : len < 0x80000000) : (lengthWord len).toInt = len := by
  have hword : lengthWord len = Int32.ofNat len := rfl
  rw [hword, Int32.toInt_ofNat_of_lt hlen]

theorem lengthWord_pos_iff {len : Nat} (hlen : len < 0x7fffffff) :
    0 < lengthWord len ∧ lengthWord len < 0x7fffffff ↔ 0 < len := by
  have hvalue : (lengthWord len).toInt = len := toInt_lengthWord (by omega)
  have hmax : (0x7fffffff : Int32).toInt = 0x7fffffff := by decide
  rw [Int32.lt_iff_toInt_lt, Int32.lt_iff_toInt_lt, hvalue, hmax, Int32.toInt_zero]
  omega

theorem readString8_append (hlen : str.length < 0x7fffffff) (rest : Parcel) :
    readString8 (string8Bytes str ++ rest) = (str, rest) := by
  have hnat : (lengthWord str.length).toUInt32.toNat = str.length := toNat_lengthWord (by omega)
  have hpos := lengthWord_pos_iff hlen
  simp only [string8Bytes, readString8, List.append_assoc, readInt32_append]
  by_cases hsome : 0 < str.length
  · have hsize : (str ++ [0]).length = str.length + 1 := by rw [List.length_append, List.length_singleton]
    rw [if_pos (hpos.mpr hsome), if_pos hsome, hnat, ← hsize, read_append]
    simp only [Option.getD_some, List.take_left]
  · have hnil : str = [] := List.length_eq_zero_iff.mp (by omega)
    rw [if_neg (hpos.not.mpr hsome), if_neg hsome, List.nil_append, hnil]

theorem readCString_append (hstr : 0 ∉ str) (rest : Parcel) :
    readCString (padded (str ++ [0]) ++ rest) = (some str, rest) := by
  have hmem : (0 : UInt8) ∈ padded (str ++ [0]) ++ rest := by simp [padded]
  have htext : (padded (str ++ [0]) ++ rest).takeWhile (· ≠ 0) = str := by
    rw [padded, List.append_assoc, List.append_assoc, List.takeWhile_append_of_pos]
    · simp
    · intro b hb
      have hne : b ≠ 0 := fun hzero => hstr (hzero ▸ hb)
      simpa using hne
  have hsize : (str ++ [0]).length = str.length + 1 := by rw [List.length_append, List.length_singleton]
  rw [readCString, if_pos hmem]
  simp only [htext, ← hsize, drop_padded_append]

end

end panelli.parcel
