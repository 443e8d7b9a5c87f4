import Mathlib.Data.List.Basic
import Mathlib.Tactic.SplitIfs

namespace panelli.bytes

/-- A little-endian number. -/
def ofLe : List UInt8 → Nat
  | [] => 0
  | byte :: bytes => byte.toNat + 256 * ofLe bytes

def le16 (v : Nat) : List UInt8 := [UInt8.ofNat v, UInt8.ofNat (v / 256)]

def le32 (v : Nat) : List UInt8 :=
  [UInt8.ofNat v, UInt8.ofNat (v / 256), UInt8.ofNat (v / 65536), UInt8.ofNat (v / 16777216)]

@[simp] theorem le16_length (v : Nat) : (le16 v).length = 2 := rfl

@[simp] theorem le32_length (v : Nat) : (le32 v).length = 4 := rfl

theorem ofLe_le16 {v : Nat} (hv : v < 65536) : ofLe (le16 v) = v := by
  simp only [le16, ofLe, UInt8.toNat_ofNat']
  omega

theorem ofLe_le32 {v : Nat} (hv : v < 4294967296) : ofLe (le32 v) = v := by
  simp only [le32, ofLe, UInt8.toNat_ofNat']
  omega

/-- A length rounded up to the next boundary of four bytes. -/
def align4 (len : Nat) : Nat := (len + 3) / 4 * 4

theorem le_align4 (len : Nat) : len ≤ align4 len := by
  unfold align4
  omega

/-- Bytes filled up to the next boundary. -/
def padded (bytes : List UInt8) : List UInt8 :=
  bytes ++ List.replicate (align4 bytes.length - bytes.length) 0

@[simp] theorem padded_length (bytes : List UInt8) : (padded bytes).length = align4 bytes.length := by
  have hle := le_align4 bytes.length
  rw [padded, List.length_append, List.length_replicate]
  omega

@[simp] theorem padded_nil : padded [] = [] := rfl

/-- What ends at a boundary is not filled up. -/
theorem padded_of_aligned {bytes : List UInt8} (haligned : align4 bytes.length = bytes.length) :
    padded bytes = bytes := by
  rw [padded, haligned, Nat.sub_self, List.replicate_zero, List.append_nil]

theorem take_padded_append (bytes rest : List UInt8) : (padded bytes ++ rest).take bytes.length = bytes := by
  rw [padded, List.append_assoc, List.take_left]

theorem drop_padded_append (bytes rest : List UInt8) :
    (padded bytes ++ rest).drop (align4 bytes.length) = rest :=
  List.drop_left' (padded_length bytes)

end panelli.bytes
