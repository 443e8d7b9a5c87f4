import Panelli.Netlink.Attr

open panelli.bytes

namespace panelli.netlink

/-- A place in memory: the bytes from there on. -/
abbrev Place : Type := List UInt8

/-- The number of so many bytes at an offset from a place. -/
def Place.number (p : Place) (offset width : Nat) : Nat := ofLe ((p.drop offset).take width)

/-- The length in the header of an attribute. -/
def Place.hdr_len (nla : Place) : Nat := nla.number 0 2

def Place.nla_type (nla : Place) : UInt16 := UInt16.ofNat (nla.number 2 2)

def Place.nla_data (nla : Place) : Place := nla.drop NLA_HDRLEN

/-- The length of the payload that the header announces. -/
def Place.nla_len (nla : Place) : Int := nla.hdr_len - NLA_HDRLEN

def Place.nla_get_u8 (nla : Place) : UInt8 := UInt8.ofNat (nla.nla_data.number 0 1)

def Place.nla_get_u32 (nla : Place) : UInt32 := UInt32.ofNat (nla.nla_data.number 0 4)

/-- There is an attribute in what remains of a payload. -/
def Place.nla_ok (nla : Place) (remaining : Int) : Bool :=
  (NLA_HDRLEN : Int) ≤ remaining && NLA_HDRLEN ≤ nla.hdr_len && (nla.hdr_len : Int) ≤ remaining

def Place.nla_next (nla : Place) : Place := nla.drop (align4 nla.hdr_len)

/-- The places an iterator visits in so many steps. -/
def placesFrom : Nat → Place → Int → List Place
  | 0, _, _ => []
  | steps + 1, pos, rem =>
    if pos.nla_ok rem then pos :: placesFrom steps pos.nla_next (rem - align4 pos.hdr_len) else []

/-- The places an `nl_iterator` of an attribute visits. What remains shrinks with
each, which bounds their number. -/
def places (attr : Place) : List Place := placesFrom attr.nla_len.toNat attr.nla_data attr.nla_len

section

variable {pos nla : Place} {rem : Int} {steps : Nat}

theorem nla_ok_iff : nla.nla_ok rem = true ↔
    (NLA_HDRLEN : Int) ≤ rem ∧ NLA_HDRLEN ≤ nla.hdr_len ∧ (nla.hdr_len : Int) ≤ rem := by
  simp only [Place.nla_ok, Bool.and_eq_true, decide_eq_true_eq, and_assoc]

theorem placesFrom_of_ok (hok : pos.nla_ok rem = true) :
    placesFrom (steps + 1) pos rem = pos :: placesFrom steps pos.nla_next (rem - align4 pos.hdr_len) :=
  if_pos hok

theorem placesFrom_of_not_ok (hnot : ¬ pos.nla_ok rem = true) : placesFrom (steps + 1) pos rem = [] :=
  if_neg hnot

/-- One more step changes nothing when there are as many steps as bytes remain. -/
theorem placesFrom_succ (hsteps : rem.toNat ≤ steps) :
    placesFrom (steps + 1) pos rem = placesFrom steps pos rem := by
  induction steps generalizing pos rem with
  | zero =>
    apply placesFrom_of_not_ok
    intro hok
    have hrem := (nla_ok_iff.mp hok).1
    rw [NLA_HDRLEN] at hrem
    omega
  | succ steps ih =>
    by_cases hok : pos.nla_ok rem = true
    · have halign := le_align4 pos.hdr_len
      have hheader := (nla_ok_iff.mp hok).2.1
      rw [NLA_HDRLEN] at hheader
      rw [placesFrom_of_ok hok, placesFrom_of_ok hok, ih (by omega)]
    · rw [placesFrom_of_not_ok hok, placesFrom_of_not_ok hok]

/-- So the bound on the steps never ends an iteration. -/
theorem placesFrom_eq (hsteps : rem.toNat ≤ steps) :
    placesFrom steps pos rem = placesFrom rem.toNat pos rem := by
  obtain ⟨more, rfl⟩ := Nat.exists_eq_add_of_le hsteps
  induction more with
  | zero => rfl
  | succ more ih => rw [← Nat.add_assoc, placesFrom_succ (by omega), ih (by omega)]

/-- The next place is behind an attribute that is there. -/
theorem nla_next_length (hok : pos.nla_ok rem = true) : pos.nla_next.length < pos.length := by
  have hheader := (nla_ok_iff.mp hok).2.1
  have halign := le_align4 pos.hdr_len
  rw [NLA_HDRLEN] at hheader
  have hpos : 0 < pos.length := by
    rw [List.length_pos_iff]
    rintro rfl
    have hzero : Place.hdr_len [] = 0 := rfl
    omega
  rw [Place.nla_next, List.length_drop]
  omega

/-- A visited attribute has a header. -/
theorem hdrlen_le_of_mem_placesFrom (hmem : nla ∈ placesFrom steps pos rem) : NLA_HDRLEN ≤ nla.hdr_len := by
  induction steps generalizing pos rem with
  | zero => cases hmem
  | succ steps ih =>
    by_cases hok : pos.nla_ok rem = true
    · rw [placesFrom_of_ok hok] at hmem
      obtain rfl | hlater := List.mem_cons.mp hmem
      · exact (nla_ok_iff.mp hok).2.1
      · exact ih hlater
    · rw [placesFrom_of_not_ok hok] at hmem
      cases hmem

/-- So its payload has a length. -/
theorem nla_len_nonneg_of_mem_places {attr : Place} (hmem : nla ∈ places attr) : 0 ≤ nla.nla_len := by
  have hheader := hdrlen_le_of_mem_placesFrom hmem
  rw [Place.nla_len]
  omega

theorem length_le_of_mem_placesFrom (hmem : nla ∈ placesFrom steps pos rem) : nla.length ≤ pos.length := by
  induction steps generalizing pos rem with
  | zero => cases hmem
  | succ steps ih =>
    by_cases hok : pos.nla_ok rem = true
    · rw [placesFrom_of_ok hok, List.mem_cons] at hmem
      obtain rfl | hmem := hmem
      · exact Nat.le_refl _
      · exact Nat.le_trans (ih hmem) (Nat.le_of_lt (nla_next_length hok))
    · rw [placesFrom_of_not_ok hok] at hmem
      cases hmem

theorem placesFrom_pairwise (steps : Nat) (pos : Place) (rem : Int) :
    (placesFrom steps pos rem).Pairwise fun before after => after.length < before.length := by
  induction steps generalizing pos rem with
  | zero => exact List.Pairwise.nil
  | succ steps ih =>
    by_cases hok : pos.nla_ok rem = true
    · rw [placesFrom_of_ok hok, List.pairwise_cons]
      refine ⟨?_, ih _ _⟩
      intro after hafter
      exact Nat.lt_of_le_of_lt (length_le_of_mem_placesFrom hafter) (nla_next_length hok)
    · rw [placesFrom_of_not_ok hok]
      exact List.Pairwise.nil

/-- No place is visited twice. -/
theorem places_nodup (attr : Place) : (places attr).Nodup := by
  apply List.Pairwise.imp _ (placesFrom_pairwise _ _ _)
  rintro before after hlt rfl
  exact Nat.lt_irrefl _ hlt

end

end panelli.netlink
