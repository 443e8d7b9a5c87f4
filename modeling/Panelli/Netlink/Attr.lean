import Panelli.Bytes
import Panelli.Runs

open panelli.bytes
open panelli.runs (mapM_eq_pure_map)

namespace panelli.netlink

/-- A netlink attribute: its type and its payload. -/
structure Attr where
  nla_type : UInt16
  data : List UInt8
deriving DecidableEq

def NLA_HDRLEN : Nat := 4

/-- The value of an attribute that holds a byte. -/
def Attr.nla_get_u8 (a : Attr) : UInt8 := UInt8.ofNat (ofLe (a.data.take 1))

/-- The value of an attribute that holds a number of 32 bits. -/
def Attr.nla_get_u32 (a : Attr) : UInt32 := UInt32.ofNat (ofLe (a.data.take 4))

/-- The length field of an attribute is not cut. -/
def Attr.Fits (a : Attr) : Prop := NLA_HDRLEN + a.data.length < 65536

/-- An attribute in a message, padded to the next boundary. -/
def Attr.encode (a : Attr) : List UInt8 :=
  le16 (NLA_HDRLEN + a.data.length) ++ le16 a.nla_type.toNat ++ padded a.data

def encodeAll (as : List Attr) : List UInt8 := as.flatMap Attr.encode

/-- The attribute at the start of what remains of a payload, when `nla_ok`
accepts it, and what `nla_next` leaves of the payload after it. -/
def nextAttr : List UInt8 → Option (Attr × List UInt8)
  | l0 :: l1 :: t0 :: t1 :: rest =>
    let nla_len := ofLe [l0, l1]
    if NLA_HDRLEN ≤ nla_len ∧ nla_len ≤ NLA_HDRLEN + rest.length then
      some (⟨UInt16.ofNat (ofLe [t0, t1]), rest.take (nla_len - NLA_HDRLEN)⟩,
        rest.drop (align4 nla_len - NLA_HDRLEN))
    else none
  | _ => none

/-- At most so many attributes of a payload, up to the first `nla_ok` refuses. -/
def attrsFrom : Nat → List UInt8 → List Attr
  | 0, _ => []
  | steps + 1, bytes =>
    match nextAttr bytes with
    | some (a, rest) => a :: attrsFrom steps rest
    | none => []

/-- The attributes of a payload. Each has a byte at least, which bounds their number. -/
def attrs (bytes : List UInt8) : List Attr := attrsFrom bytes.length bytes

section

variable {a : Attr} {as : List Attr} {bytes rest : List UInt8} {steps : Nat}

@[simp] theorem encodeAll_nil : encodeAll [] = [] := rfl

@[simp] theorem encodeAll_cons (a : Attr) (as : List Attr) : encodeAll (a :: as) = a.encode ++ encodeAll as :=
  rfl

@[simp] theorem encodeAll_append (as bs : List Attr) : encodeAll (as ++ bs) = encodeAll as ++ encodeAll bs :=
  List.flatMap_append

/-- A header has the size of a boundary. -/
theorem align4_hdrlen_add (len : Nat) : align4 (NLA_HDRLEN + len) = NLA_HDRLEN + align4 len := by
  simp only [align4, NLA_HDRLEN]
  omega

@[simp] theorem Attr.encode_length (a : Attr) : a.encode.length = NLA_HDRLEN + align4 a.data.length := by
  simp only [Attr.encode, List.length_append, le16_length, padded_length, NLA_HDRLEN]

/-- What was encoded ends at a boundary. -/
theorem align4_encodeAll_length (as : List Attr) :
    align4 (encodeAll as).length = (encodeAll as).length := by
  induction as with
  | nil => rfl
  | cons a as ih =>
    rw [encodeAll_cons, List.length_append, Attr.encode_length]
    simp only [align4, NLA_HDRLEN] at ih ⊢
    omega

theorem Attr.encode_length_le (ha : a ∈ as) : a.encode.length ≤ (encodeAll as).length := by
  obtain ⟨before, after, rfl⟩ := List.append_of_mem ha
  simp only [encodeAll_append, encodeAll_cons, List.length_append]
  omega

theorem Attr.data_length_le (ha : a ∈ as) : a.data.length ≤ (encodeAll as).length := by
  have hle := Attr.encode_length_le ha
  have halign := le_align4 a.data.length
  rw [Attr.encode_length] at hle
  omega

/-- No length is cut in what is short enough. -/
theorem Attr.fits_of_mem (ha : a ∈ as) (hsmall : (encodeAll as).length < 65536) : a.Fits := by
  have hle := Attr.encode_length_le ha
  have halign := le_align4 a.data.length
  rw [Attr.encode_length] at hle
  unfold Attr.Fits
  omega

theorem encodeAll_length_of_ne_nil (has : as ≠ []) : NLA_HDRLEN ≤ (encodeAll as).length := by
  obtain ⟨a, as, rfl⟩ := List.exists_cons_of_ne_nil has
  rw [encodeAll_cons, List.length_append, Attr.encode_length]
  omega

/-- Stepping to the next attribute leaves fewer bytes. -/
theorem nextAttr_length (hnext : nextAttr bytes = some (a, rest)) : rest.length < bytes.length := by
  unfold nextAttr at hnext
  split at hnext
  · dsimp only at hnext
    split_ifs at hnext
    obtain ⟨_, rfl⟩ := Prod.mk.inj (Option.some.inj hnext)
    simp only [List.length_drop, List.length_cons]
    omega
  · cases hnext

@[simp] theorem nla_get_u32_le32 (attrtype : UInt16) (v : UInt32) :
    Attr.nla_get_u32 ⟨attrtype, le32 v.toNat⟩ = v := by
  have htake : (le32 v.toNat).take 4 = le32 v.toNat := rfl
  rw [Attr.nla_get_u32, htake, ofLe_le32 v.toNat_lt, UInt32.ofNat_toNat]

@[simp] theorem nla_get_u8_singleton (attrtype : UInt16) (v : UInt8) : Attr.nla_get_u8 ⟨attrtype, [v]⟩ = v := by
  rw [Attr.nla_get_u8, List.take_of_length_le (Nat.le_refl 1)]
  simp [ofLe]

/-- One more step changes nothing when there are as many steps as bytes. -/
theorem attrsFrom_succ (hsteps : bytes.length ≤ steps) : attrsFrom (steps + 1) bytes = attrsFrom steps bytes := by
  induction steps generalizing bytes with
  | zero =>
    obtain rfl := List.length_eq_zero_iff.mp (Nat.le_zero.mp hsteps)
    rfl
  | succ steps ih =>
    rw [attrsFrom, attrsFrom]
    cases hnext : nextAttr bytes with
    | none => rfl
    | some next =>
      have hlength := nextAttr_length hnext
      simp only
      rw [ih (by omega)]

theorem attrsFrom_eq (hsteps : bytes.length ≤ steps) : attrsFrom steps bytes = attrs bytes := by
  obtain ⟨more, rfl⟩ := Nat.exists_eq_add_of_le hsteps
  induction more with
  | zero => rfl
  | succ more ih => rw [← Nat.add_assoc, attrsFrom_succ (by omega), ih (by omega)]

/-- The attributes of a payload are its first and those of what it leaves. -/
theorem attrs_eq (bytes : List UInt8) :
    attrs bytes = (nextAttr bytes).elim [] fun next => next.1 :: attrs next.2 := by
  rw [← attrsFrom_eq (Nat.le_succ bytes.length), attrsFrom]
  cases hnext : nextAttr bytes with
  | none => rfl
  | some next =>
    have hlength := nextAttr_length hnext
    exact congrArg (next.1 :: ·) (attrsFrom_eq (by omega))

/-- The first attribute of a message is the one encoded there. -/
theorem nextAttr_encode_append (hfits : a.Fits) (bytes : List UInt8) :
    nextAttr (a.encode ++ bytes) = some (a, bytes) := by
  have hlen := ofLe_le16 hfits
  have htype := ofLe_le16 a.nla_type.toNat_lt
  have halign := align4_hdrlen_add a.data.length
  have hle := le_align4 a.data.length
  unfold Attr.encode
  simp only [le16] at hlen htype ⊢
  simp only [List.cons_append, List.nil_append, nextAttr, hlen, htype, halign]
  rw [if_pos (by rw [List.length_append, padded_length]; omega)]
  simp only [Nat.add_sub_cancel_left, take_padded_append, drop_padded_append, UInt16.ofNat_toNat]

theorem attrs_encode_append (hfits : a.Fits) (bytes : List UInt8) :
    attrs (a.encode ++ bytes) = a :: attrs bytes := by
  rw [attrs_eq, nextAttr_encode_append hfits]
  rfl

/-- Encoded attributes are read back, in order. -/
theorem attrs_encodeAll (hfits : ∀ a ∈ as, a.Fits) : attrs (encodeAll as) = as := by
  induction as with
  | nil => rfl
  | cons a as ih =>
    rw [encodeAll_cons, attrs_encode_append (hfits a List.mem_cons_self),
      ih fun other hother => hfits other (List.mem_cons_of_mem _ hother)]

/-- Those of a short enough message, too. -/
theorem attrs_encodeAll_of_lt (hsmall : (encodeAll as).length < 65536) : attrs (encodeAll as) = as :=
  attrs_encodeAll fun _ ha => Attr.fits_of_mem ha hsmall

/-- Items in nests that are numbered are read back in order, if each is from its own. -/
theorem mapM_zipIdx_nests {A B : Type} {items : List A} {nest : A × Nat → Attr} {inner : A → List Attr}
    {read : List Attr → Option B} {value : A → B} (hnest : ∀ entry, (nest entry).data = encodeAll (inner entry.1))
    (hread : ∀ item, (encodeAll (inner item)).length < 65536 → read (inner item) = some (value item))
    (hsmall : (encodeAll (items.zipIdx.map nest)).length < 65536) :
    (items.zipIdx.map nest).mapM (fun a => read (attrs a.data)) = some (items.map value) := by
  have hvalues : items.map value = items.zipIdx.map fun entry => value entry.1 := by
    conv_lhs => rw [← List.zipIdx_map_fst 0 items, List.map_map]
    rfl
  rw [List.mapM_map, hvalues]
  apply mapM_eq_pure_map
  intro entry hentry
  have hinner : (encodeAll (inner entry.1)).length < 65536 := by
    rw [← hnest entry]
    exact Nat.lt_of_le_of_lt (Attr.data_length_le (List.mem_map_of_mem hentry)) hsmall
  rw [Function.comp_apply, hnest, attrs_encodeAll_of_lt hinner]
  exact hread entry.1 hinner

end

end panelli.netlink
