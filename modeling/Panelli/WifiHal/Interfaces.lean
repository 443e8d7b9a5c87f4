import Mathlib.Logic.Function.Basic
import Panelli.Bytes
import Panelli.CString
import Panelli.WifiHal.Registry

open panelli.bytes panelli.cstring

namespace panelli.wifi_hal

abbrev WIFI_ERROR_UNKNOWN : wifi_error := -1

/-- An entry that `readdir` returns in the second pass, and whether the memory for an
`interface_info` can be allocated when it is looked at. -/
structure Entry where
  d_name : CString
  malloc : Bool

/-- What `wifi_init_interfaces` finds outside: both listings, unless the directory cannot be
opened, and whether the table can be allocated. -/
structure System where
  first : Option (List CString)
  second : Option (List Entry)
  malloc : Bool
  if_nametoindex : List UInt8 → Nat

/-- The table of interfaces: how many slots were allocated, and what they point to. -/
structure InterfaceTable where
  alloc : Nat
  slots : Nat → Option Block

/-- The fields of a `hal_info` for the interfaces. -/
structure InterfaceFields where
  interfaces : Option InterfaceTable
  num_interfaces : Nat

/-- The fields in a `hal_info` that was just allocated and set to zero. -/
def InterfaceFields.zero : InterfaceFields := ⟨none, 0⟩

/-- The size of the field `name` of an `interface_info`. -/
def SIZEOF_NAME : Nat := 8 + 1

/-- `sizeof(interface_info)`: a handle, the name with 3 bytes behind it, and an `int`. -/
def SIZEOF_INTERFACE_INFO (handle : List UInt8) : Nat := handle.length + 12 + 4

def is_wifi_interface (name : List UInt8) : Bool :=
  (Comparison.strncmp (ascii "wlan") 4).holds name || (Comparison.strncmp (ascii "p2p") 3).holds name

/-- An `interface_info` after the name was copied into it by `strcpy`, and the index stored. -/
def get_interface (sys : System) (handle name : List UInt8) (info : Block) : Block :=
  let info := info.put handle.length (name ++ [0])
  info.put (handle.length + 12) (le32 (sys.if_nametoindex name))

/-- An `interface_info` as it comes into the table. -/
def interfaceInfo (sys : System) (handle name : List UInt8) : Block :=
  (get_interface sys handle name (Block.fresh (SIZEOF_INTERFACE_INFO handle))).put 0 handle

/-- An entry that is not skipped. -/
def isCounted (name : List UInt8) : Bool := !(name.head? == some 46) && is_wifi_interface name

/-- The number of interfaces in the first pass. -/
def countInterfaces (listing : List CString) : Nat := listing.countP (isCounted ·.bytes)

/-- The state of the second pass. -/
structure Filling where
  i : Nat
  slots : Nat → Option Block

/-- One round of the second pass. `get_interface` always succeeds. -/
def fillSlot (sys : System) (handle : List UInt8) (n : Nat) (de : Entry) (st : Filling) : Filling :=
  if de.d_name.bytes.head? = some 46 then st
  else if is_wifi_interface de.d_name.bytes ∧ st.i < n then
    if !de.malloc then st
    else
      { i := st.i + 1
        slots := Function.update st.slots st.i (some (interfaceInfo sys handle de.d_name.bytes)) }
  else st

def fillSlots (sys : System) (handle : List UInt8) (n : Nat) : List Entry → Filling → Filling
  | [], st => st
  | de :: listing, st => fillSlots sys handle n listing (fillSlot sys handle n de st)

def wifi_init_interfaces (sys : System) (handle : List UInt8) (info : InterfaceFields) :
    wifi_error × InterfaceFields :=
  match sys.first with
  | none => (WIFI_ERROR_UNKNOWN, info)
  | some first =>
    let n := countInterfaces first
    match sys.second with
    | none => (WIFI_ERROR_UNKNOWN, info)
    | some second =>
      if !sys.malloc then (WIFI_ERROR_OUT_OF_MEMORY, { info with interfaces := none })
      else
        let st := fillSlots sys handle n second ⟨0, fun _ => none⟩
        (WIFI_SUCCESS, {
          interfaces := some ⟨n, st.slots⟩
          num_interfaces := if st.i < n then st.i else n })

/-- The interfaces in the second listing whose allocation succeeds, in order. -/
def allocated (listing : List Entry) : List (List UInt8) :=
  (listing.filter fun de => isCounted de.d_name.bytes && de.malloc).map (·.d_name.bytes)

/-- The interfaces that get a slot. -/
def System.stored (sys : System) : List (List UInt8) :=
  match sys.first, sys.second with
  | some first, some second => if sys.malloc then (allocated second).take (countInterfaces first) else []
  | _, _ => []

/-- The bytes of the field `name`. -/
def nameField (handle : List UInt8) (info : Block) : Block := (info.drop handle.length).take SIZEOF_NAME

/-- An `interface_info` has all of a name and its terminator in the field for it. -/
def HoldsName (handle : List UInt8) (info : Block) (name : List UInt8) : Prop :=
  (name ++ [0]).map some <+: nameField handle info

/-- The table has the interfaces in the order of the listing, each under its name. -/
structure InterfaceFields.Lists (info : InterfaceFields) (sys : System) (handle : List UInt8) : Prop where
  num_le : ∀ table ∈ info.interfaces, info.num_interfaces ≤ table.alloc
  num_eq : info.num_interfaces = sys.stored.length
  slots : ∀ i < info.num_interfaces, ∃ table ∈ info.interfaces, ∃ name, sys.stored[i]? = some name ∧
    ∃ entry, table.slots i = some entry ∧ HoldsName handle entry name

/-- The slots so far are those of a list of names, which is no longer than the table. -/
structure Filling.Holds (st : Filling) (sys : System) (handle : List UInt8) (n : Nat) (names : List (List UInt8)) :
    Prop where
  i_eq : st.i = names.length
  le : names.length ≤ n
  slots : ∀ k name, names[k]? = some name → st.slots k = some (interfaceInfo sys handle name)

section

variable {sys : System} {handle name : List UInt8} {n i : Nat} {de : Entry} {st : Filling}
  {names : List (List UInt8)} {listing : List Entry}

/-- A short name is not reached by the index that is stored behind it. -/
theorem interfaceInfo_name (hshort : name.length ≤ 8) (hi : i < (name ++ [0]).length) :
    (interfaceInfo sys handle name)[handle.length + i]? = some (some (name ++ [0])[i]) := by
  have hlength : (name ++ [0]).length ≤ 9 := by
    rw [List.length_append, List.length_singleton]
    omega
  have hfresh : (Block.fresh (SIZEOF_INTERFACE_INFO handle)).length = handle.length + 16 := List.length_replicate
  have hnamed : ((Block.fresh (SIZEOF_INTERFACE_INFO handle)).put handle.length (name ++ [0])).length =
      handle.length + 16 := by
    rw [Block.put_length (by omega), hfresh]
  rw [interfaceInfo, get_interface, Block.getElem?_put_outside (Nat.zero_le _) (.inr (by omega)),
    Block.getElem?_put_outside (by omega) (.inl (by omega)), Block.getElem?_put_inside (by omega) hi]

theorem holdsName_iff : HoldsName handle (interfaceInfo sys handle name) name ↔ name.length ≤ 8 := by
  unfold HoldsName nameField
  constructor
  · intro hfield
    have hle := hfield.length_le
    rw [List.length_map, List.length_append, List.length_singleton] at hle
    have hsize : SIZEOF_NAME = 9 := rfl
    have htake := List.length_take_le SIZEOF_NAME ((interfaceInfo sys handle name).drop handle.length)
    omega
  · intro hshort
    apply List.prefix_iff_getElem?.mpr
    intro i hi
    rw [List.length_map] at hi
    have hlt : i < SIZEOF_NAME := by
      rw [List.length_append, List.length_singleton] at hi
      unfold SIZEOF_NAME
      omega
    rw [List.getElem?_take_of_lt hlt, List.getElem?_drop, interfaceInfo_name hshort hi, List.getElem_map]

theorem allocated_cons : allocated (de :: listing) = allocated [de] ++ allocated listing := by
  unfold allocated
  rw [← List.map_append, ← List.filter_append, List.singleton_append]

theorem allocated_singleton (hcounted : isCounted de.d_name.bytes) (hmalloc : de.malloc) :
    allocated [de] = [de.d_name.bytes] := by
  simp [allocated, hcounted, hmalloc]

theorem allocated_singleton_of_not (hnot : ¬ (isCounted de.d_name.bytes ∧ de.malloc)) : allocated [de] = [] := by
  simpa [allocated] using hnot

/-- An entry that is counted and allocated takes the next slot, if there is one. -/
theorem fillSlot_eq : fillSlot sys handle n de st =
    if (isCounted de.d_name.bytes ∧ de.malloc) ∧ st.i < n then
      { i := st.i + 1
        slots := Function.update st.slots st.i (some (interfaceInfo sys handle de.d_name.bytes)) }
    else st := by
  unfold fillSlot isCounted
  by_cases hhidden : de.d_name.bytes.head? = some 46
  · simp [hhidden]
  · by_cases hmalloc : de.malloc
    · simp [hhidden, hmalloc]
    · simp [hhidden, hmalloc]

theorem Filling.Holds.update (hholds : st.Holds sys handle n names) (hlt : st.i < n) (name : List UInt8) :
    Filling.Holds ⟨st.i + 1, Function.update st.slots st.i (some (interfaceInfo sys handle name))⟩ sys handle n
      (names ++ [name]) := by
  have hi := hholds.i_eq
  constructor
  · rw [List.length_append, List.length_singleton, hi]
  · rw [List.length_append, List.length_singleton]
    omega
  · intro k other hother
    by_cases hk : k < names.length
    · rw [List.getElem?_append_left hk] at hother
      have hne : k ≠ st.i := by omega
      exact (Function.update_of_ne hne _ _).trans (hholds.slots k other hother)
    · obtain ⟨hlast, hget⟩ := List.getElem?_eq_some_iff.mp hother
      rw [List.length_append, List.length_singleton] at hlast
      obtain rfl : k = st.i := by omega
      rw [List.getElem_append_right (by omega), List.getElem_singleton] at hget
      rw [← hget]
      exact Function.update_self _ _ _

theorem take_append_full (hfull : names.length = n) (rest : List (List UInt8)) : (names ++ rest).take n = names := by
  rw [← hfull, List.take_left]

/-- One round adds the entry to the list, which stays within the table. -/
theorem fillSlot_holds (hholds : st.Holds sys handle n names) :
    (fillSlot sys handle n de st).Holds sys handle n ((names ++ allocated [de]).take n) := by
  have hi := hholds.i_eq
  have hle := hholds.le
  rw [fillSlot_eq]
  split_ifs with hslot
  · obtain ⟨⟨hcounted, hmalloc⟩, hlt⟩ := hslot
    have hroom : (names ++ [de.d_name.bytes]).length ≤ n := by
      rw [List.length_append, List.length_singleton]
      omega
    rw [allocated_singleton hcounted hmalloc, List.take_of_length_le hroom]
    exact hholds.update hlt _
  · by_cases hadded : isCounted de.d_name.bytes ∧ de.malloc
    · have hfull : names.length = n := by
        have hnot : ¬ st.i < n := fun hlt => hslot ⟨hadded, hlt⟩
        omega
      rwa [take_append_full hfull]
    · rwa [allocated_singleton_of_not hadded, List.append_nil, List.take_of_length_le hle]

theorem take_append_take (names more : List (List UInt8)) (n : Nat) :
    (names.take n ++ more).take n = (names ++ more).take n := by
  rw [List.take_append, List.take_append, List.take_take, Nat.min_self, List.length_take]
  congr 2
  omega

theorem holds_empty (n : Nat) : Filling.Holds ⟨0, fun _ => none⟩ sys handle n [] := by
  constructor
  · rfl
  · exact Nat.zero_le n
  · intro k name hname
    cases hname

/-- The second pass, by induction on the listing: the list of names is what is allocated of
it, up to the size of the table. -/
theorem fillSlots_holds (hholds : st.Holds sys handle n names) (listing : List Entry) :
    (fillSlots sys handle n listing st).Holds sys handle n ((names ++ allocated listing).take n) := by
  induction listing generalizing st names with
  | nil =>
    have hnil : allocated [] = [] := rfl
    rwa [fillSlots, hnil, List.append_nil, List.take_of_length_le hholds.le]
  | cons de listing ih =>
    have hstep : (fillSlot sys handle n de st).Holds sys handle n ((names ++ allocated [de]).take n) :=
      fillSlot_holds hholds
    have hrest := ih hstep
    rwa [take_append_take, List.append_assoc, ← allocated_cons] at hrest

/-- When the second pass is over, the table lists its names exactly if all are short. -/
theorem lists_iff_of_holds (hholds : st.Holds sys handle n sys.stored) :
    InterfaceFields.Lists ⟨some ⟨n, st.slots⟩, if st.i < n then st.i else n⟩ sys handle ↔
      ∀ name ∈ sys.stored, name.length ≤ 8 := by
  have hi := hholds.i_eq
  have hle := hholds.le
  have hnum : (if st.i < n then st.i else n) = sys.stored.length := by
    split_ifs
    · exact hi
    · omega
  rw [hnum]
  constructor
  · intro hlists name hmem
    obtain ⟨i, hlt, hget⟩ := List.getElem_of_mem hmem
    obtain ⟨table, htable, other, hother, entry, hentry, hname⟩ := hlists.slots i hlt
    obtain rfl := Option.some.inj htable
    have hstored : sys.stored[i]? = some name := List.getElem?_eq_some_iff.mpr ⟨hlt, hget⟩
    obtain rfl := Option.some.inj (hother.symm.trans hstored)
    obtain rfl := Option.some.inj (hentry.symm.trans (hholds.slots i _ hstored))
    exact holdsName_iff.mp hname
  · intro hshort
    constructor
    · intro table htable
      obtain rfl := Option.some.inj htable
      exact hle
    · rfl
    · intro i hlt
      have hget : sys.stored[i]? = some sys.stored[i] := List.getElem?_eq_getElem hlt
      refine ⟨_, rfl, _, hget, _, hholds.slots i _ hget, ?_⟩
      exact holdsName_iff.mpr (hshort _ (List.getElem_mem hlt))

/-- Where the function returns an error, no interface is listed. -/
theorem lists_of_nothing (hstored : sys.stored = []) : InterfaceFields.zero.Lists sys handle := by
  constructor
  · intro table htable
    cases htable
  · rw [hstored]
    rfl
  · intro i hi
    exact absurd hi (Nat.not_lt_zero i)

theorem lists_iff_of_nothing (hstored : sys.stored = []) :
    InterfaceFields.zero.Lists sys handle ↔ ∀ name ∈ sys.stored, name.length ≤ 8 := by
  constructor
  · intro _ name hmem
    rw [hstored] at hmem
    cases hmem
  · exact fun _ => lists_of_nothing hstored

end

/-- The interfaces with a slot are listed under their names exactly if no name is longer
than 8 characters. -/
theorem wifi_init_interfaces_lists_iff (sys : System) (handle : List UInt8) :
    (wifi_init_interfaces sys handle .zero).2.Lists sys handle ↔ ∀ name ∈ sys.stored, name.length ≤ 8 := by
  unfold wifi_init_interfaces
  split
  case h_1 hfirst =>
    apply lists_iff_of_nothing
    rw [System.stored, hfirst]
  case h_2 first hfirst =>
    split
    case h_1 hsecond =>
      apply lists_iff_of_nothing
      rw [System.stored, hfirst, hsecond]
    case h_2 second hsecond =>
      split_ifs with hmalloc
      · apply lists_iff_of_nothing
        have hnone : sys.malloc = false := by simpa using hmalloc
        rw [System.stored, hfirst, hsecond, hnone]
        rfl
      · have hsome : sys.malloc = true := by simpa using hmalloc
        have hstored : sys.stored = (allocated second).take (countInterfaces first) := by
          rw [System.stored, hfirst, hsecond, hsome]
          rfl
        apply lists_iff_of_holds
        rw [hstored]
        exact fillSlots_holds (holds_empty _) second

/-- A P2P group interface, whose name has 10 characters. -/
def groupName : CString := ⟨ascii "p2p-p2p0-0", by decide +kernel⟩

def groupSystem : System := ⟨some [groupName], some [⟨groupName, true⟩], true, fun _ => 7⟩

/-- The name of a group goes past the end of its field. -/
theorem group_interface_not_listed :
    ¬ (wifi_init_interfaces groupSystem [0, 0, 0, 0] .zero).2.Lists groupSystem [0, 0, 0, 0] := by
  intro hlists
  have hstored : groupSystem.stored = [groupName.bytes] := by decide +kernel
  have hnum := hlists.num_eq
  rw [hstored, List.length_singleton] at hnum
  obtain ⟨table, htable, name, hname, entry, hentry, hholds⟩ := hlists.slots 0 (by omega)
  rw [hstored] at hname
  obtain rfl := Option.some.inj hname
  obtain rfl := Option.some.inj htable
  have hempty : Filling.Holds ⟨0, fun _ => none⟩ groupSystem [0, 0, 0, 0] 1 [] := holds_empty 1
  have hslot := (fillSlots_holds hempty [⟨groupName, true⟩]).slots 0 groupName.bytes (by decide +kernel)
  obtain rfl := Option.some.inj (hentry.symm.trans hslot)
  have hshort := holdsName_iff.mp hholds
  revert hshort
  decide +kernel

end panelli.wifi_hal
