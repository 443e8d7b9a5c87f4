import Panelli.Netlink.Attr
import Mathlib.Algebra.GroupWithZero.Nat

open panelli.bytes

namespace panelli.netlink

/-- What a handler tells `nl_recvmsgs`. -/
inductive NlAction where
  | NL_OK
  | NL_SKIP
  | NL_STOP
deriving DecidableEq

/-- The netlink header and the generic netlink header of a message. -/
def GENL_HEADERS : Nat := 20

/-- A message under construction: the attributes behind its headers, in a
buffer of a size that a 16 bit length can express. -/
structure NlMsg where
  nm_size : Nat
  bytes : List UInt8
  small : nm_size < 65536
  room : GENL_HEADERS + bytes.length ≤ nm_size

/-- An assembly step: it fails, or goes on with the message it leaves. -/
abbrev Assembly (α : Type) : Type := StateT NlMsg Option α

/-- `nla_put`, which fails when the attribute does not fit into the buffer. -/
def nla_put (attrtype : UInt16) (data : List UInt8) : Assembly Unit := fun msg =>
  if hroom : GENL_HEADERS + (msg.bytes ++ Attr.encode ⟨attrtype, data⟩).length ≤ msg.nm_size then
    some ((), { msg with bytes := msg.bytes ++ Attr.encode ⟨attrtype, data⟩, room := hroom })
  else none

/-- `nla_nest_start`: the place of the header it appends, null when there is no room. -/
def nla_nest_start (attrtype : UInt16) : Assembly (Option Nat) := fun msg =>
  match nla_put attrtype [] msg with
  | some (_, msg') => some (some msg.bytes.length, msg')
  | none => some (none, msg)

/-- `nla_nest_end`. An attribute that stayed empty, or is too long, is removed
again. There is none to end at a null pointer. -/
def nla_nest_end (start : Option Nat) : Assembly Unit := fun msg =>
  match start with
  | none => none
  | some start =>
    let len := msg.bytes.length - start
    if len = NLA_HDRLEN ∨ 65535 < len then
      some ((), { msg with
        bytes := msg.bytes.take start
        room := Nat.le_trans (Nat.add_le_add_left (List.length_take_le' _ _) _) msg.room })
    else
      some ((), { msg with
        bytes := (msg.bytes.set start (UInt8.ofNat len)).set (start + 1) (UInt8.ofNat (len / 256))
        room := by simpa only [List.length_set] using msg.room })

/-- The attributes a body appends, nested in one of their own. -/
def nested (attrtype : UInt16) (body : Assembly Unit) : Assembly Unit := do
  let start ← nla_nest_start attrtype
  body
  nla_nest_end start

/-- A step whose result is not looked at. -/
def ignored (step : Assembly Unit) : Assembly Unit := fun msg => some ((step msg).getD ((), msg))

/-- Whenever a step succeeds, it has appended these attributes. -/
def Appends {α : Type} (step : Assembly α) (as : List Attr) : Prop :=
  ∀ msg r msg', step msg = some (r, msg') → msg'.bytes = msg.bytes ++ encodeAll as

/-- A step leaves the size of the buffer as it is. -/
def KeepsSize {α : Type} (step : Assembly α) : Prop :=
  ∀ msg r msg', step msg = some (r, msg') → msg'.nm_size = msg.nm_size

/-- Where there is room for so many more bytes, a step succeeds and takes no more. -/
def Needs {α : Type} (step : Assembly α) (n : Nat) : Prop :=
  ∀ msg : NlMsg, GENL_HEADERS + msg.bytes.length + n ≤ msg.nm_size →
    ∃ r msg', step msg = some (r, msg') ∧ msg'.nm_size = msg.nm_size ∧
      msg'.bytes.length ≤ msg.bytes.length + n

section

variable {α β : Type} {attrtype : UInt16} {data : List UInt8} {body : Assembly Unit} {as bs : List Attr}
  {msg msg' : NlMsg}

/-- All lengths in a message can be expressed. -/
theorem NlMsg.bytes_length_lt (msg : NlMsg) : msg.bytes.length < 65536 := by
  have hroom := msg.room
  have hsmall := msg.small
  omega

theorem nla_put_some {r : Unit} (hput : nla_put attrtype data msg = some (r, msg')) :
    msg'.bytes = msg.bytes ++ Attr.encode ⟨attrtype, data⟩ := by
  unfold nla_put at hput
  split_ifs at hput
  obtain ⟨_, rfl⟩ := Prod.mk.inj (Option.some.inj hput)
  rfl

theorem appends_nla_put (attrtype : UInt16) (data : List UInt8) :
    Appends (nla_put attrtype data) [⟨attrtype, data⟩] := by
  intro msg r msg' hput
  rw [nla_put_some hput, encodeAll_cons, encodeAll_nil, List.append_nil]

theorem appends_pure (r : α) : Appends (pure r) [] := by
  intro msg r' msg' hpure
  obtain ⟨_, rfl⟩ := Prod.mk.inj (Option.some.inj hpure)
  rw [encodeAll_nil, List.append_nil]

/-- Steps append what their parts append, in order. -/
theorem appends_bind {step : Assembly α} {next : α → Assembly β} (hstep : Appends step as)
    (hnext : ∀ r, Appends (next r) bs) : Appends (step >>= next) (as ++ bs) := by
  intro msg r msg' hbind
  obtain ⟨⟨mid, msgMid⟩, hfirst, hsecond⟩ := Option.bind_eq_some_iff.mp hbind
  rw [hnext mid msgMid r msg' hsecond, hstep msg mid msgMid hfirst, encodeAll_append, List.append_assoc]

theorem appends_cons {step : Assembly α} {next : α → Assembly β} {a : Attr} (hstep : Appends step [a])
    (hnext : ∀ r, Appends (next r) as) : Appends (step >>= next) (a :: as) :=
  appends_bind hstep hnext

/-- A loop over a list appends what each of its steps appends. -/
theorem appends_forM {γ : Type} {xs : List γ} {step : γ → Assembly Unit} {attrOf : γ → Attr}
    (hstep : ∀ x, Appends (step x) [attrOf x]) : Appends (xs.forM step) (xs.map attrOf) := by
  induction xs with
  | nil => exact appends_pure ()
  | cons x xs ih => exact appends_cons (hstep x) fun _ => ih

/-- A header that was patched with the length of what follows it. -/
theorem set_header (before rest : List UInt8) (attrtype : UInt16) (len : Nat) :
    ((before ++ (Attr.encode ⟨attrtype, []⟩ ++ rest)).set before.length (UInt8.ofNat len)).set
        (before.length + 1) (UInt8.ofNat (len / 256)) =
      before ++ (le16 len ++ le16 attrtype.toNat ++ rest) := by
  simp [Attr.encode, le16]

/-- A nest that is ended was started, and holds what its body appended. -/
theorem nested_some {r : Unit} (hbody : Appends body as) (hnested : nested attrtype body msg = some (r, msg')) :
    ∃ msg2 : NlMsg, msg2.bytes = msg.bytes ++ (Attr.encode ⟨attrtype, []⟩ ++ encodeAll as) ∧
      msg2.bytes.length - msg.bytes.length = NLA_HDRLEN + (encodeAll as).length ∧
      nla_nest_end (some msg.bytes.length) msg2 = some (r, msg') := by
  obtain ⟨⟨start, msg1⟩, hstart, hrest⟩ := Option.bind_eq_some_iff.mp hnested
  obtain ⟨⟨r2, msg2⟩, hinner, hend⟩ := Option.bind_eq_some_iff.mp hrest
  have hbytes := hbody msg1 r2 msg2 hinner
  unfold nla_nest_start at hstart
  cases hput : nla_put attrtype [] msg with
  | none =>
    rw [hput] at hstart
    obtain ⟨rfl, _⟩ := Prod.mk.inj (Option.some.inj hstart)
    cases hend
  | some put =>
    rw [hput] at hstart
    obtain ⟨rfl, rfl⟩ := Prod.mk.inj (Option.some.inj hstart)
    rw [nla_put_some hput, List.append_assoc] at hbytes
    refine ⟨msg2, hbytes, ?_, hend⟩
    simp [hbytes, align4]

/-- A nested attribute holds what its body appended, unless that is nothing. -/
theorem appends_nested (hbody : Appends body as) (has : as ≠ []) :
    Appends (nested attrtype body) [⟨attrtype, encodeAll as⟩] := by
  intro msg r msg' hnested
  obtain ⟨msg2, hbytes, hlen, hend⟩ := nested_some hbody hnested
  have hpos := encodeAll_length_of_ne_nil has
  have hsmall := msg2.bytes_length_lt
  have hkept : ¬ (NLA_HDRLEN + (encodeAll as).length = NLA_HDRLEN ∨
      65535 < NLA_HDRLEN + (encodeAll as).length) := by
    rw [NLA_HDRLEN] at hpos hlen ⊢
    omega
  simp only [nla_nest_end, hlen] at hend
  rw [if_neg hkept] at hend
  obtain ⟨_, rfl⟩ := Prod.mk.inj (Option.some.inj hend)
  dsimp only
  rw [hbytes, set_header]
  rw [encodeAll_cons, encodeAll_nil, List.append_nil, Attr.encode,
    padded_of_aligned (align4_encodeAll_length as)]

/-- With nothing appended, nothing is nested. -/
theorem appends_nested_nil (hbody : Appends body []) : Appends (nested attrtype body) [] := by
  intro msg r msg' hnested
  obtain ⟨msg2, hbytes, hlen, hend⟩ := nested_some hbody hnested
  rw [encodeAll_nil, List.length_nil, Nat.add_zero] at hlen
  simp only [nla_nest_end] at hend
  rw [if_pos (Or.inl hlen)] at hend
  obtain ⟨_, rfl⟩ := Prod.mk.inj (Option.some.inj hend)
  simp only [hbytes, List.take_left, encodeAll_nil, List.append_nil]

variable {n m : Nat}

theorem needs_nla_put (attrtype : UInt16) (data : List UInt8) :
    Needs (nla_put attrtype data) (NLA_HDRLEN + align4 data.length) := by
  intro msg hroom
  have hlength : (msg.bytes ++ Attr.encode ⟨attrtype, data⟩).length =
      msg.bytes.length + (NLA_HDRLEN + align4 data.length) := by
    rw [List.length_append, Attr.encode_length]
  have hfits : GENL_HEADERS + (msg.bytes ++ Attr.encode ⟨attrtype, data⟩).length ≤ msg.nm_size := by
    omega
  exact ⟨(), _, dif_pos hfits, rfl, Nat.le_of_eq hlength⟩

theorem needs_pure (r : α) : Needs (pure r) 0 := by
  intro msg _
  exact ⟨r, msg, rfl, rfl, Nat.le_refl _⟩

theorem Needs.mono {step : Assembly α} (hstep : Needs step n) (hle : n ≤ m) : Needs step m := by
  intro msg hroom
  obtain ⟨r, msg', hsome, hsize, hlength⟩ := hstep msg (by omega)
  exact ⟨r, msg', hsome, hsize, by omega⟩

/-- Steps need what their parts need. -/
theorem needs_bind {step : Assembly α} {next : α → Assembly β} (hstep : Needs step n)
    (hnext : ∀ r, Needs (next r) m) : Needs (step >>= next) (n + m) := by
  intro msg hroom
  obtain ⟨r, mid, hfirst, hsize, hlength⟩ := hstep msg (by omega)
  obtain ⟨r', msg', hsecond, hsize', hlength'⟩ := hnext r mid (by omega)
  refine ⟨r', msg', ?_, by omega, by omega⟩
  simp only [bind, StateT.bind, hfirst, Option.bind_some, hsecond]

/-- A loop over a list needs what its steps need. -/
theorem needs_forM {γ : Type} {xs : List γ} {step : γ → Assembly Unit} {room : γ → Nat}
    (hstep : ∀ x, Needs (step x) (room x)) : Needs (xs.forM step) (xs.map room).sum := by
  induction xs with
  | nil => exact needs_pure ()
  | cons x xs ih => exact needs_bind (hstep x) fun _ => ih

theorem nla_nest_end_some (start : Nat) (msg : NlMsg) :
    ∃ msg', nla_nest_end (some start) msg = some ((), msg') ∧ msg'.nm_size = msg.nm_size ∧
      msg'.bytes.length ≤ msg.bytes.length := by
  simp only [nla_nest_end]
  split_ifs
  · exact ⟨_, rfl, rfl, List.length_take_le' _ _⟩
  · refine ⟨_, rfl, rfl, ?_⟩
    simp only [List.length_set, Nat.le_refl]

/-- A nest needs room for its header. -/
theorem needs_nested (attrtype : UInt16) (hbody : Needs body n) :
    Needs (nested attrtype body) (NLA_HDRLEN + n) := by
  intro msg hroom
  obtain ⟨r, msg1, hput, hsize1, hlength1⟩ := needs_nla_put attrtype [] msg (by simp [align4]; omega)
  have hstart : nla_nest_start attrtype msg = some (some msg.bytes.length, msg1) := by
    simp only [nla_nest_start, hput]
  simp only [List.length_nil, align4] at hlength1
  obtain ⟨_, msg2, hinner, hsize2, hlength2⟩ := hbody msg1 (by omega)
  obtain ⟨msg', hend, hsize, hlength⟩ := nla_nest_end_some msg.bytes.length msg2
  refine ⟨(), msg', ?_, by omega, by omega⟩
  simp only [nested, bind, StateT.bind, hstart, hinner, hend, Option.bind_some]

/-- Where there is room for it, a step succeeds whether it is looked at or not. -/
theorem ignored_eq {step : Assembly Unit} (hstep : Needs step n)
    (hroom : GENL_HEADERS + msg.bytes.length + n ≤ msg.nm_size) : ignored step msg = step msg := by
  obtain ⟨r, msg', hsome, _⟩ := hstep msg hroom
  rw [ignored, hsome, Option.getD_some]

/-- Bodies that do the same behind the header of a nest do the same in it. -/
theorem nested_congr {body' : Assembly Unit}
    (hsame : ∀ msg1, nla_put attrtype [] msg = some ((), msg1) → body msg1 = body' msg1) :
    nested attrtype body msg = nested attrtype body' msg := by
  simp only [nested, bind, StateT.bind, nla_nest_start]
  cases hput : nla_put attrtype [] msg with
  | none =>
    simp only [Option.bind_some, nla_nest_end]
    cases body msg <;> cases body' msg <;> rfl
  | some put =>
    simp only [Option.bind_some, hsame put.2 hput]

theorem keepsSize_nla_put (attrtype : UInt16) (data : List UInt8) : KeepsSize (nla_put attrtype data) := by
  intro msg r msg' hput
  unfold nla_put at hput
  split_ifs at hput
  obtain ⟨_, rfl⟩ := Prod.mk.inj (Option.some.inj hput)
  rfl

theorem keepsSize_pure (r : α) : KeepsSize (pure r) := by
  intro msg r' msg' hpure
  obtain ⟨_, rfl⟩ := Prod.mk.inj (Option.some.inj hpure)
  rfl

theorem keepsSize_bind {step : Assembly α} {next : α → Assembly β} (hstep : KeepsSize step)
    (hnext : ∀ r, KeepsSize (next r)) : KeepsSize (step >>= next) := by
  intro msg r msg' hbind
  obtain ⟨⟨mid, msgMid⟩, hfirst, hsecond⟩ := Option.bind_eq_some_iff.mp hbind
  rw [hnext mid msgMid r msg' hsecond, hstep msg mid msgMid hfirst]

theorem keepsSize_forM {γ : Type} {xs : List γ} {step : γ → Assembly Unit} (hstep : ∀ x, KeepsSize (step x)) :
    KeepsSize (xs.forM step) := by
  induction xs with
  | nil => exact keepsSize_pure ()
  | cons x xs ih => exact keepsSize_bind (hstep x) fun _ => ih

theorem keepsSize_nested (attrtype : UInt16) (hbody : KeepsSize body) : KeepsSize (nested attrtype body) := by
  apply keepsSize_bind
  · intro msg start msg' hstart
    unfold nla_nest_start at hstart
    cases hput : nla_put attrtype [] msg with
    | none =>
      rw [hput] at hstart
      obtain ⟨_, rfl⟩ := Prod.mk.inj (Option.some.inj hstart)
      rfl
    | some put =>
      rw [hput] at hstart
      obtain ⟨_, rfl⟩ := Prod.mk.inj (Option.some.inj hstart)
      exact keepsSize_nla_put attrtype [] msg () put.2 hput
  · intro start
    apply keepsSize_bind hbody
    intro _ msg r msg' hend
    cases start with
    | none => cases hend
    | some start =>
      obtain ⟨msg'', hsome, hsize, _⟩ := nla_nest_end_some start msg
      obtain ⟨_, rfl⟩ := Prod.mk.inj (Option.some.inj (hsome.symm.trans hend))
      exact hsize

end

end panelli.netlink
