import Panelli.Netlink.Iterator
import Mathlib.Tactic.SplitIfs

open panelli.bytes panelli.netlink

namespace panelli.rtt

def DOT11_HDR_LEN : Nat := 2
def DOT11_MNG_MEASURE_REQUEST_ID : Nat := 38
def DOT11_MEASURE_TYPE_LCI : Nat := 8
def DOT11_MEASURE_TYPE_CIVICLOC : Nat := 11

/-- The fields of a measurement element at an offset. -/
def rmId (mem : Place) (ele : Nat) : Nat := mem.number ele 1
def rmLen (mem : Place) (ele : Nat) : Nat := mem.number (ele + 1) 1
def rmType (mem : Place) (ele : Nat) : Nat := mem.number (ele + 4) 1

/-- The copy of a result: its bytes, and the offsets of the elements that its
two pointers were set to. -/
structure RttResult where
  block : Nat
  bytes : List UInt8
  LCI : Option Nat
  LCR : Option Nat
deriving DecidableEq

/-- The offset behind an element. -/
def nextElement (mem : Place) (ele : Nat) : Nat := ele + (rmLen mem ele + DOT11_HDR_LEN)

/-- The element after the first, if the length that is left lets it be looked at
and it is of the type. -/
def secondElement (mem : Place) (result_len : Int) (ele_1 eleType : Nat) : Option Nat :=
  let result_len := result_len - (rmLen mem ele_1 + DOT11_HDR_LEN)
  if 0 < result_len then
    let ele_2 := nextElement mem ele_1
    if rmId mem ele_2 = DOT11_MNG_MEASURE_REQUEST_ID ∧ rmType mem ele_2 = eleType then some ele_2 else none
  else none

/-- Where the two pointers of a copy are set to. The memory starts with the copy
and goes on with what is behind it. -/
def findElements (sizeof_wifi_rtt_result : Nat) (mem : Place) (len : Nat) : Option Nat × Option Nat :=
  let result_len : Int := len - sizeof_wifi_rtt_result
  if 0 < result_len then
    let result_len := result_len - sizeof_wifi_rtt_result
    let ele_1 := sizeof_wifi_rtt_result
    if rmId mem ele_1 = DOT11_MNG_MEASURE_REQUEST_ID then
      if rmType mem ele_1 = DOT11_MEASURE_TYPE_LCI then
        (some ele_1, secondElement mem result_len ele_1 DOT11_MEASURE_TYPE_CIVICLOC)
      else if rmType mem ele_1 = DOT11_MEASURE_TYPE_CIVICLOC then
        (secondElement mem result_len ele_1 DOT11_MEASURE_TYPE_LCI, some ele_1)
      else (none, none)
    else (none, none)
  else (none, none)

/-- The copy of a payload in a new block, with what is behind the block. -/
def copyResult (sizeof_wifi_rtt_result block : Nat) (payload beyond : List UInt8) : RttResult where
  block := block
  bytes := payload
  LCI := (findElements sizeof_wifi_rtt_result (payload ++ beyond) payload.length).1
  LCR := (findElements sizeof_wifi_rtt_result (payload ++ beyond) payload.length).2

/-- A well-formed measurement element. -/
structure RmElement where
  token : UInt8
  mode : UInt8
  eleType : UInt8
  body : List UInt8
  small : 3 + body.length < 256

def RmElement.encode (e : RmElement) : List UInt8 :=
  UInt8.ofNat DOT11_MNG_MEASURE_REQUEST_ID :: UInt8.ofNat (3 + e.body.length) :: e.token :: e.mode ::
    e.eleType :: e.body

/-- A payload is a result and then two elements. -/
def TwoElements (sizeof_wifi_rtt_result : Nat) (payload : List UInt8) (e₁ e₂ : RmElement) : Prop :=
  ∃ result : List UInt8, result.length = sizeof_wifi_rtt_result ∧ payload = result ++ (e₁.encode ++ e₂.encode)

/-- A pointer is that of an element which lies inside the copy. -/
def InsideCopy (payload beyond : List UInt8) (ele : Nat) : Prop :=
  ele + DOT11_HDR_LEN + rmLen (payload ++ beyond) ele ≤ payload.length

/-- One of the two types of elements, and the other. -/
def TypePair (eleType other : Nat) : Prop :=
  eleType = DOT11_MEASURE_TYPE_LCI ∧ other = DOT11_MEASURE_TYPE_CIVICLOC ∨
    eleType = DOT11_MEASURE_TYPE_CIVICLOC ∧ other = DOT11_MEASURE_TYPE_LCI

/-- The pointer of a copy for a type of elements. -/
def RttResult.pointer (r : RttResult) (eleType : Nat) : Option Nat :=
  if eleType = DOT11_MEASURE_TYPE_LCI then r.LCI else r.LCR

/-- The pointers are set to both elements where there are two, and never to one
that does not lie inside the copy. -/
structure LocatesElements (sizeof_wifi_rtt_result : Nat) (payload beyond : List UInt8) (r : RttResult) :
    Prop where
  both : ∀ e₁ e₂, TwoElements sizeof_wifi_rtt_result payload e₁ e₂ →
    TypePair e₁.eleType.toNat e₂.eleType.toNat → r.pointer e₁.eleType.toNat = some sizeof_wifi_rtt_result ∧
      r.pointer e₂.eleType.toNat = some (sizeof_wifi_rtt_result + e₁.encode.length)
  inside : ∀ ele, r.LCI = some ele ∨ r.LCR = some ele → InsideCopy payload beyond ele

/-- A measurement element of a type begins at an offset behind which more than
so many bytes are left. -/
structure Taken (mem : Place) (len left ele eleType : Nat) : Prop where
  left : ele + left < len
  id : rmId mem ele = DOT11_MNG_MEASURE_REQUEST_ID
  type : rmType mem ele = eleType

/-- The second of two elements is longer than a result, and the elements that are
taken end inside the copy. -/
structure ElementsComplete (sizeof_wifi_rtt_result : Nat) (payload beyond : List UInt8) : Prop where
  long : ∀ e₁ e₂, TwoElements sizeof_wifi_rtt_result payload e₁ e₂ →
    TypePair e₁.eleType.toNat e₂.eleType.toNat → sizeof_wifi_rtt_result < e₂.encode.length
  first : ∀ eleType other, TypePair eleType other →
    Taken (payload ++ beyond) payload.length 0 sizeof_wifi_rtt_result eleType →
      InsideCopy payload beyond sizeof_wifi_rtt_result
  second : ∀ eleType other, TypePair eleType other →
    Taken (payload ++ beyond) payload.length 0 sizeof_wifi_rtt_result eleType →
      Taken (payload ++ beyond) payload.length sizeof_wifi_rtt_result
        (nextElement (payload ++ beyond) sizeof_wifi_rtt_result) other →
        InsideCopy payload beyond (nextElement (payload ++ beyond) sizeof_wifi_rtt_result)

section

variable {mem rest : Place} {payload beyond : List UInt8} {size len ele eleType other block : Nat}
  {e e₁ e₂ : RmElement}

theorem number_append (before rest : Place) (offset width : Nat) :
    Place.number (before ++ rest) (before.length + offset) width = rest.number offset width := by
  simp only [Place.number, List.drop_append, List.drop_eq_nil_of_le (Nat.le_add_right _ _), List.nil_append,
    Nat.add_sub_cancel_left]

theorem number_cons_zero (byte : UInt8) (rest : Place) : Place.number (byte :: rest) 0 1 = byte.toNat := by
  simp [Place.number, ofLe]

theorem number_cons_succ (byte : UInt8) (rest : Place) (offset width : Nat) :
    Place.number (byte :: rest) (offset + 1) width = rest.number offset width := rfl

@[simp] theorem RmElement.encode_length (e : RmElement) : e.encode.length = 5 + e.body.length := by
  simp only [RmElement.encode, List.length_cons]
  omega

/-- The fields of an element are read back. -/
theorem rmId_encode (before : Place) (e : RmElement) (rest : Place) :
    rmId (before ++ (e.encode ++ rest)) before.length = DOT11_MNG_MEASURE_REQUEST_ID := by
  rw [rmId, ← Nat.add_zero before.length, number_append]
  exact number_cons_zero _ _

theorem rmLen_encode (before : Place) (e : RmElement) (rest : Place) :
    rmLen (before ++ (e.encode ++ rest)) before.length = 3 + e.body.length := by
  have hbyte : Place.number (e.encode ++ rest) 1 1 = (UInt8.ofNat (3 + e.body.length)).toNat := by
    simp only [RmElement.encode, List.cons_append]
    rw [number_cons_succ]
    exact number_cons_zero _ _
  have hsmall := e.small
  rw [rmLen, number_append, hbyte, UInt8.toNat_ofNat']
  omega

theorem rmType_encode (before : Place) (e : RmElement) (rest : Place) :
    rmType (before ++ (e.encode ++ rest)) before.length = e.eleType.toNat := by
  rw [rmType, number_append]
  exact number_cons_zero _ _

/-- The second element is taken where more than the size of a result is left. -/
theorem secondElement_eq_some_iff : secondElement mem ((len : Int) - size - size) size eleType = some ele ↔
    Taken mem len size (nextElement mem size) eleType ∧ ele = nextElement mem size := by
  have hleft : (0 : Int) < (len : Int) - size - size - (rmLen mem size + DOT11_HDR_LEN) ↔
      nextElement mem size + size < len := by
    unfold nextElement
    omega
  simp only [secondElement, Option.ite_none_right_eq_some, Option.some.injEq, hleft]
  constructor
  · intro ⟨hlook, ⟨hid, htype⟩, heq⟩
    exact ⟨⟨hlook, hid, htype⟩, heq.symm⟩
  · intro ⟨htaken, heq⟩
    exact ⟨htaken.left, ⟨htaken.id, htaken.type⟩, heq.symm⟩

/-- The pointer for a type is set to the first element if it has the type, and to
the second if that has it and the first the other. -/
def Pointed (mem : Place) (len size eleType other ele : Nat) : Prop :=
  Taken mem len 0 size eleType ∧ ele = size ∨
    Taken mem len 0 size other ∧ Taken mem len size (nextElement mem size) eleType ∧ ele = nextElement mem size

/-- An element of either type begins right behind the result. -/
theorem taken_first_iff : Taken mem len 0 size eleType ↔
    (0 : Int) < (len : Int) - size ∧ rmId mem size = DOT11_MNG_MEASURE_REQUEST_ID ∧
      rmType mem size = eleType := by
  constructor
  · intro htaken
    have hleft := htaken.left
    exact ⟨by omega, htaken.id, htaken.type⟩
  · intro ⟨hleft, hid, htype⟩
    exact ⟨by omega, hid, htype⟩

theorem findElements_of_lci (hfirst : Taken mem len 0 size DOT11_MEASURE_TYPE_LCI) :
    findElements size mem len =
      (some size, secondElement mem ((len : Int) - size - size) size DOT11_MEASURE_TYPE_CIVICLOC) := by
  obtain ⟨hleft, hid, htype⟩ := taken_first_iff.mp hfirst
  simp only [findElements, if_pos hleft, if_pos hid, if_pos htype]

theorem findElements_of_civic (hfirst : Taken mem len 0 size DOT11_MEASURE_TYPE_CIVICLOC) :
    findElements size mem len =
      (secondElement mem ((len : Int) - size - size) size DOT11_MEASURE_TYPE_LCI, some size) := by
  obtain ⟨hleft, hid, htype⟩ := taken_first_iff.mp hfirst
  have hnot : ¬ rmType mem size = DOT11_MEASURE_TYPE_LCI := by
    rw [htype]
    decide
  simp only [findElements, if_pos hleft, if_pos hid, if_neg hnot, if_pos htype]

theorem findElements_of_none (hlci : ¬ Taken mem len 0 size DOT11_MEASURE_TYPE_LCI)
    (hcivic : ¬ Taken mem len 0 size DOT11_MEASURE_TYPE_CIVICLOC) :
    findElements size mem len = (none, none) := by
  rw [taken_first_iff] at hlci hcivic
  unfold findElements
  dsimp only
  split_ifs with hleft hid htype htype'
  · exact absurd ⟨hleft, hid, htype⟩ hlci
  · exact absurd ⟨hleft, hid, htype'⟩ hcivic
  · rfl
  · rfl
  · rfl

theorem not_taken_civic (hfirst : Taken mem len 0 size DOT11_MEASURE_TYPE_LCI) :
    ¬ Taken mem len 0 size DOT11_MEASURE_TYPE_CIVICLOC := by
  intro hother
  exact absurd (hfirst.type.symm.trans hother.type) (by decide)

theorem findElements_fst_iff : (findElements size mem len).1 = some ele ↔
    Pointed mem len size DOT11_MEASURE_TYPE_LCI DOT11_MEASURE_TYPE_CIVICLOC ele := by
  unfold Pointed
  by_cases hlci : Taken mem len 0 size DOT11_MEASURE_TYPE_LCI
  · simp only [findElements_of_lci hlci, hlci, not_taken_civic hlci, true_and, false_and, or_false,
      Option.some.injEq, eq_comm]
  · by_cases hcivic : Taken mem len 0 size DOT11_MEASURE_TYPE_CIVICLOC
    · simp only [findElements_of_civic hcivic, hlci, hcivic, true_and, false_and, false_or,
        secondElement_eq_some_iff]
    · simp only [findElements_of_none hlci hcivic, hlci, hcivic, false_and, or_false, reduceCtorEq]

theorem findElements_snd_iff : (findElements size mem len).2 = some ele ↔
    Pointed mem len size DOT11_MEASURE_TYPE_CIVICLOC DOT11_MEASURE_TYPE_LCI ele := by
  unfold Pointed
  by_cases hlci : Taken mem len 0 size DOT11_MEASURE_TYPE_LCI
  · simp only [findElements_of_lci hlci, hlci, not_taken_civic hlci, true_and, false_and, false_or,
      secondElement_eq_some_iff]
  · by_cases hcivic : Taken mem len 0 size DOT11_MEASURE_TYPE_CIVICLOC
    · simp only [findElements_of_civic hcivic, hlci, hcivic, true_and, false_and, or_false,
        Option.some.injEq, eq_comm]
    · simp only [findElements_of_none hlci hcivic, hlci, hcivic, false_and, or_false, reduceCtorEq]

theorem TwoElements.first (htwo : TwoElements size payload e₁ e₂) (beyond : List UInt8) :
    Taken (payload ++ beyond) payload.length 0 size e₁.eleType.toNat := by
  obtain ⟨result, rfl, rfl⟩ := htwo
  simp only [List.append_assoc]
  refine ⟨?_, rmId_encode result e₁ _, rmType_encode result e₁ _⟩
  simp only [List.length_append, RmElement.encode_length]
  omega

theorem TwoElements.next (htwo : TwoElements size payload e₁ e₂) (beyond : List UInt8) :
    nextElement (payload ++ beyond) size = size + e₁.encode.length := by
  obtain ⟨result, rfl, rfl⟩ := htwo
  simp only [List.append_assoc]
  rw [nextElement, rmLen_encode, RmElement.encode_length, DOT11_HDR_LEN]
  omega

/-- The second of two elements is taken when it is longer than a result. -/
theorem TwoElements.second_iff (htwo : TwoElements size payload e₁ e₂) (beyond : List UInt8) :
    Taken (payload ++ beyond) payload.length size (nextElement (payload ++ beyond) size) e₂.eleType.toNat ↔
      size < e₂.encode.length := by
  rw [htwo.next beyond]
  obtain ⟨result, rfl, rfl⟩ := htwo
  have hplace : result.length + e₁.encode.length = (result ++ e₁.encode).length := List.length_append.symm
  have hmem : result ++ (e₁.encode ++ e₂.encode) ++ beyond = (result ++ e₁.encode) ++ (e₂.encode ++ beyond) := by
    simp only [List.append_assoc]
  rw [hplace, hmem]
  constructor
  · intro htaken
    have hleft := htaken.left
    simp only [List.length_append] at hleft
    omega
  · intro hlong
    refine ⟨?_, rmId_encode _ e₂ _, rmType_encode _ e₂ _⟩
    simp only [List.length_append]
    omega

theorem pointed_first (htaken : Taken mem len 0 size eleType) : Pointed mem len size eleType other size :=
  Or.inl ⟨htaken, rfl⟩

/-- With two elements, the second is pointed to when it is longer than a result. -/
theorem TwoElements.pointed_second_iff (htwo : TwoElements size payload e₁ e₂) (beyond : List UInt8)
    (hne : e₁.eleType.toNat ≠ e₂.eleType.toNat) :
    Pointed (payload ++ beyond) payload.length size e₂.eleType.toNat e₁.eleType.toNat
      (size + e₁.encode.length) ↔ size < e₂.encode.length := by
  rw [← htwo.second_iff beyond, Pointed, htwo.next beyond]
  constructor
  · intro hpointed
    obtain ⟨hfirst, _⟩ | ⟨_, hsecond, _⟩ := hpointed
    · exact absurd ((htwo.first beyond).type.symm.trans hfirst.type) hne
    · exact hsecond
  · intro hsecond
    exact Or.inr ⟨htwo.first beyond, hsecond, rfl⟩

theorem TypePair.symm (hpair : TypePair eleType other) : TypePair other eleType := by
  obtain ⟨heq, heq'⟩ | ⟨heq, heq'⟩ := hpair
  · exact Or.inr ⟨heq', heq⟩
  · exact Or.inl ⟨heq', heq⟩

theorem typePair_ne (hpair : TypePair eleType other) : eleType ≠ other := by
  obtain ⟨rfl, rfl⟩ | ⟨rfl, rfl⟩ := hpair
  · decide
  · decide

theorem pointer_eq_some_iff (hpair : TypePair eleType other) :
    (copyResult size block payload beyond).pointer eleType = some ele ↔
      Pointed (payload ++ beyond) payload.length size eleType other ele := by
  obtain ⟨rfl, rfl⟩ | ⟨rfl, rfl⟩ := hpair
  · exact findElements_fst_iff
  · exact findElements_snd_iff

/-- Two elements are pointed to when the second is longer than a result. -/
theorem TwoElements.pointers_iff (htwo : TwoElements size payload e₁ e₂)
    (hpair : TypePair e₁.eleType.toNat e₂.eleType.toNat) :
    ((copyResult size block payload beyond).pointer e₁.eleType.toNat = some size ∧
      (copyResult size block payload beyond).pointer e₂.eleType.toNat = some (size + e₁.encode.length)) ↔
        size < e₂.encode.length := by
  rw [pointer_eq_some_iff hpair, pointer_eq_some_iff hpair.symm,
    htwo.pointed_second_iff beyond (typePair_ne hpair)]
  exact and_iff_right (pointed_first (htwo.first beyond))

theorem pointer_or_iff : (copyResult size block payload beyond).LCI = some ele ∨
    (copyResult size block payload beyond).LCR = some ele ↔ ∃ eleType other, TypePair eleType other ∧
      Pointed (payload ++ beyond) payload.length size eleType other ele := by
  constructor
  · intro hpointer
    obtain hlci | hlcr := hpointer
    · exact ⟨_, _, Or.inl ⟨rfl, rfl⟩, findElements_fst_iff.mp hlci⟩
    · exact ⟨_, _, Or.inr ⟨rfl, rfl⟩, findElements_snd_iff.mp hlcr⟩
  · intro ⟨eleType, other, hpair, hpointed⟩
    obtain ⟨rfl, rfl⟩ | ⟨rfl, rfl⟩ := hpair
    · exact Or.inl (findElements_fst_iff.mpr hpointed)
    · exact Or.inr (findElements_snd_iff.mpr hpointed)

/-- The pointers of a copy are right if and only if the second of two elements is
longer than a result and the elements that are taken end inside the copy. -/
theorem copyResult_locates_iff (sizeof_wifi_rtt_result block : Nat) (payload beyond : List UInt8) :
    LocatesElements sizeof_wifi_rtt_result payload beyond
        (copyResult sizeof_wifi_rtt_result block payload beyond) ↔
      ElementsComplete sizeof_wifi_rtt_result payload beyond := by
  constructor
  · intro hlocates
    refine ⟨fun e₁ e₂ htwo hpair => ?_, fun eleType other hpair hfirst => ?_,
      fun eleType other hpair hfirst hsecond => ?_⟩
    · exact (htwo.pointers_iff hpair).mp (hlocates.both e₁ e₂ htwo hpair)
    · exact hlocates.inside _ (pointer_or_iff.mpr ⟨eleType, other, hpair, pointed_first hfirst⟩)
    · exact hlocates.inside _ (pointer_or_iff.mpr ⟨other, eleType, hpair.symm, Or.inr ⟨hfirst, hsecond, rfl⟩⟩)
  · intro hcomplete
    refine ⟨fun e₁ e₂ htwo hpair => ?_, fun ele hpointer => ?_⟩
    · exact (htwo.pointers_iff hpair).mpr (hcomplete.long e₁ e₂ htwo hpair)
    · obtain ⟨eleType, other, hpair, ⟨hfirst, rfl⟩ | ⟨hfirst, hsecond, rfl⟩⟩ := pointer_or_iff.mp hpointer
      · exact hcomplete.first eleType other hpair hfirst
      · exact hcomplete.second other eleType hpair.symm hfirst hsecond

end

/-- An LCI element and a civic element of the least length, behind a result of
128 bytes. -/
def lciElement : RmElement := ⟨1, 0, 8, [], by decide⟩

def civicElement : RmElement := ⟨2, 0, 11, [], by decide⟩

def bothElements : List UInt8 := List.replicate 128 0 ++ (lciElement.encode ++ civicElement.encode)

/-- The civic element behind the LCI element is not found. -/
theorem copyResult_drops_civic :
    TwoElements 128 bothElements lciElement civicElement ∧ (copyResult 128 0 bothElements []).LCI = some 128 ∧
      (copyResult 128 0 bothElements []).LCR = none ∧
      ¬ LocatesElements 128 bothElements [] (copyResult 128 0 bothElements []) := by
  have htwo : TwoElements 128 bothElements lciElement civicElement :=
    ⟨List.replicate 128 0, List.length_replicate, rfl⟩
  have hnone : (copyResult 128 0 bothElements []).LCR = none := by decide +kernel
  refine ⟨htwo, by decide +kernel, hnone, fun hlocates => ?_⟩
  have hboth := (hlocates.both _ _ htwo (Or.inl ⟨rfl, rfl⟩)).2
  have hpointer : (copyResult 128 0 bothElements []).LCR = some (128 + lciElement.encode.length) := hboth
  rw [hnone] at hpointer
  cases hpointer

end panelli.rtt
