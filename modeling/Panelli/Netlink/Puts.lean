import Panelli.Netlink.Message

open panelli.bytes

namespace panelli.netlink

/-- The value of an attribute that holds a number of 16 bits. -/
def Attr.nla_get_u16 (a : Attr) : UInt16 := UInt16.ofNat (ofLe (a.data.take 2))

@[simp] theorem nla_get_u16_le16 (attrtype v : UInt16) : Attr.nla_get_u16 ⟨attrtype, le16 v.toNat⟩ = v := by
  have htake : (le16 v.toNat).take 2 = le16 v.toNat := rfl
  rw [Attr.nla_get_u16, htake, ofLe_le16 v.toNat_lt, UInt16.ofNat_toNat]

/-- A step succeeds just where there is so much room behind what a message has, and
appends these attributes then. -/
structure Puts {α : Type} (step : Assembly α) (room : Nat) (as : List Attr) : Prop where
  isSome_iff : ∀ msg : NlMsg, (step msg).isSome = true ↔ GENL_HEADERS + msg.bytes.length + room ≤ msg.nm_size
  appends : Appends step as
  keepsSize : KeepsSize step

/-- The attribute of a nest, which is removed again when nothing is in it. -/
def nestAttrs (attrtype : UInt16) (as : List Attr) : List Attr :=
  if as = [] then [] else [⟨attrtype, encodeAll as⟩]

/-- What is in the first nest of a type, which is nothing without one. -/
def readNest (attrtype : UInt16) (as : List Attr) : List Attr :=
  ((as.find? (·.nla_type == attrtype)).map fun nest => attrs nest.data).getD []

section

variable {α β : Type} {step : Assembly α} {attrtype : UInt16} {data : List UInt8} {body : Assembly Unit}
  {as bs : List Attr} {room more : Nat}

theorem Puts.of_room_eq (heq : room = more) (hputs : Puts step room as) : Puts step more as := heq ▸ hputs

theorem puts_nla_put (attrtype : UInt16) (data : List UInt8) :
    Puts (nla_put attrtype data) (NLA_HDRLEN + align4 data.length) [⟨attrtype, data⟩] where
  isSome_iff := by
    intro msg
    have hlength : (msg.bytes ++ Attr.encode ⟨attrtype, data⟩).length =
        msg.bytes.length + (NLA_HDRLEN + align4 data.length) := by
      rw [List.length_append, Attr.encode_length]
    unfold nla_put
    split_ifs with hroom
    · simp only [Option.isSome_some, true_iff]
      omega
    · simp only [Option.isSome_none, Bool.false_eq_true, false_iff]
      omega
  appends := appends_nla_put attrtype data
  keepsSize := keepsSize_nla_put attrtype data

/-- The room of an attribute is its length. -/
theorem puts_attr (attrtype : UInt16) (data : List UInt8) :
    Puts (nla_put attrtype data) (Attr.encode ⟨attrtype, data⟩).length [⟨attrtype, data⟩] :=
  (puts_nla_put attrtype data).of_room_eq (Attr.encode_length ⟨attrtype, data⟩).symm

theorem puts_pure (r : α) : Puts (pure r : Assembly α) 0 [] where
  isSome_iff := by
    intro msg
    have hroom := msg.room
    have hpure : (pure r : Assembly α) msg = some (r, msg) := rfl
    simp only [hpure, Option.isSome_some, true_iff]
    omega
  appends := appends_pure r
  keepsSize := keepsSize_pure r

/-- The second of two steps needs its room behind what the first has appended. -/
theorem puts_bind {next : α → Assembly β} (hstep : Puts step room as) (hnext : ∀ r, Puts (next r) more bs) :
    Puts (step >>= next) (max room ((encodeAll as).length + more)) (as ++ bs) where
  isSome_iff := by
    intro msg
    simp only [bind, StateT.bind]
    cases hfirst : step msg with
    | none =>
      have hnot : ¬ (step msg).isSome = true := by simp [hfirst]
      rw [hstep.isSome_iff msg] at hnot
      simp only [Option.bind_none, Option.isSome_none, Bool.false_eq_true, false_iff]
      omega
    | some mid =>
      have hroom : (step msg).isSome = true := by simp [hfirst]
      rw [hstep.isSome_iff msg] at hroom
      have hsize := hstep.keepsSize msg mid.1 mid.2 hfirst
      have hlength := congrArg List.length (hstep.appends msg mid.1 mid.2 hfirst)
      rw [List.length_append] at hlength
      rw [Option.bind_some, (hnext mid.1).isSome_iff mid.2]
      omega
  appends := appends_bind hstep.appends fun r => (hnext r).appends
  keepsSize := keepsSize_bind hstep.keepsSize fun r => (hnext r).keepsSize

/-- One attribute in front of the others. -/
theorem puts_cons {next : α → Assembly β} {a : Attr} (hstep : Puts step a.encode.length [a])
    (hnext : ∀ r, Puts (next r) room as) : Puts (step >>= next) (a.encode.length + room) (a :: as) := by
  apply (puts_bind hstep hnext).of_room_eq
  rw [encodeAll_cons, encodeAll_nil, List.append_nil]
  exact Nat.max_eq_right (Nat.le_add_right _ _)

/-- A loop that puts one attribute after the other needs the room they take. -/
theorem puts_forM {γ : Type} {xs : List γ} {step : γ → Assembly Unit} {attrOf : γ → Attr}
    (hstep : ∀ x, Puts (step x) (attrOf x).encode.length [attrOf x]) :
    Puts (xs.forM step) (encodeAll (xs.map attrOf)).length (xs.map attrOf) := by
  induction xs with
  | nil => exact puts_pure ()
  | cons x xs ih =>
    apply (puts_cons (hstep x) fun _ => ih).of_room_eq
    rw [List.map_cons, encodeAll_cons, List.length_append]

theorem nested_isSome_iff (hbody : Puts body room as) (msg : NlMsg) :
    (nested attrtype body msg).isSome = true ↔
      GENL_HEADERS + msg.bytes.length + (NLA_HDRLEN + room) ≤ msg.nm_size := by
  have hheader := (puts_nla_put attrtype []).isSome_iff msg
  have hzero : NLA_HDRLEN + align4 ([] : List UInt8).length = NLA_HDRLEN := rfl
  rw [hzero] at hheader
  simp only [nested, bind, StateT.bind, nla_nest_start]
  cases hput : nla_put attrtype [] msg with
  | none =>
    -- Without a header the body still runs, and there is no nest to end.
    rw [hput] at hheader
    simp only [Option.isSome_none, Bool.false_eq_true, false_iff] at hheader
    have hnone : ((body msg).bind fun next => nla_nest_end none next.2) = none := by
      cases body msg
      · rfl
      · rfl
    simp only [Option.bind_some, hnone, Option.isSome_none, Bool.false_eq_true, false_iff]
    omega
  | some put =>
    have hsize := keepsSize_nla_put attrtype [] msg put.1 put.2 hput
    have hlength : put.2.bytes.length = msg.bytes.length + NLA_HDRLEN := by
      rw [nla_put_some hput, List.length_append, Attr.encode_length, hzero]
    have hinner := hbody.isSome_iff put.2
    rw [hsize, hlength] at hinner
    simp only [Option.bind_some]
    cases hbodied : body put.2 with
    | none =>
      rw [hbodied] at hinner
      simp only [Option.isSome_none, Bool.false_eq_true, false_iff] at hinner
      simp only [Option.bind_none, Option.isSome_none, Bool.false_eq_true, false_iff]
      omega
    | some next =>
      rw [hbodied] at hinner
      obtain ⟨msg', hend, _⟩ := nla_nest_end_some msg.bytes.length next.2
      simp only [Option.isSome_some, true_iff] at hinner
      simp only [Option.bind_some, hend, Option.isSome_some, true_iff]
      omega

/-- A nest needs the room of its header in front of that of its body, also when it is removed. -/
theorem puts_nested (attrtype : UInt16) (hbody : Puts body room as) :
    Puts (nested attrtype body) (NLA_HDRLEN + room) (nestAttrs attrtype as) where
  isSome_iff := nested_isSome_iff hbody
  appends := by
    rw [nestAttrs]
    split_ifs with has
    · subst has
      exact appends_nested_nil hbody.appends
    · exact appends_nested hbody.appends has
  keepsSize := keepsSize_nested attrtype hbody.keepsSize

/-- The attribute of a nest is as long as its header and what is in it. -/
theorem nest_encode_length (attrtype : UInt16) (as : List Attr) :
    (Attr.encode ⟨attrtype, encodeAll as⟩).length = NLA_HDRLEN + (encodeAll as).length := by
  rw [Attr.encode_length, align4_encodeAll_length]

/-- A nest whose body needs no more room than it takes needs none, either. -/
theorem puts_nest (hbody : Puts body (encodeAll as).length as) (has : as ≠ []) :
    Puts (nested attrtype body) (Attr.encode ⟨attrtype, encodeAll as⟩).length [⟨attrtype, encodeAll as⟩] := by
  have hnested := puts_nested attrtype hbody
  rw [nestAttrs, if_neg has] at hnested
  exact hnested.of_room_eq (nest_encode_length attrtype as).symm

/-- Attributes of one size take as much as there are of them. -/
theorem encodeAll_map_length {γ : Type} {xs : List γ} {attrOf : γ → Attr} {size : Nat}
    (hsize : ∀ x ∈ xs, (attrOf x).encode.length = size) :
    (encodeAll (xs.map attrOf)).length = size * xs.length := by
  induction xs with
  | nil => rfl
  | cons x xs ih =>
    rw [List.map_cons, encodeAll_cons, List.length_append, hsize x List.mem_cons_self,
      ih fun y hy => hsize y (List.mem_cons_of_mem _ hy), List.length_cons, Nat.mul_add, Nat.mul_one, Nat.add_comm]

/-- What is in a nest is no longer than the nest. -/
theorem le_nestAttrs_length (attrtype : UInt16) (as : List Attr) :
    (encodeAll as).length ≤ (encodeAll (nestAttrs attrtype as)).length := by
  rw [nestAttrs]
  split_ifs with has
  · subst has
    exact Nat.le_refl _
  · rw [encodeAll_cons, encodeAll_nil, List.append_nil, nest_encode_length]
    omega

/-- The first nest of its type is read back, whether it is there or not. -/
theorem readNest_append {front : List Attr} (hfront : ∀ a ∈ front, a.nla_type ≠ attrtype)
    (hsmall : (encodeAll as).length < 65536) : readNest attrtype (front ++ nestAttrs attrtype as) = as := by
  have hnone : front.find? (·.nla_type == attrtype) = none := by
    rw [List.find?_eq_none]
    intro a ha
    simpa using hfront a ha
  rw [readNest, List.find?_append, hnone, Option.none_or, nestAttrs]
  split_ifs with has
  · exact has.symm
  · rw [List.find?_cons_of_pos (by simp), Option.map_some, Option.getD_some, attrs_encodeAll_of_lt hsmall]

end

end panelli.netlink
