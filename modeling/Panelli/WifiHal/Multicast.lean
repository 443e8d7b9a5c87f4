import Panelli.CString
import Panelli.Netlink.Parse

open panelli.bytes panelli.cstring panelli.netlink

namespace panelli.wifi_hal

def CTRL_ATTR_MCAST_GROUPS : UInt16 := 7
def CTRL_ATTR_MCAST_GRP_NAME : UInt16 := 1
def CTRL_ATTR_MCAST_GRP_ID : UInt16 := 2
def CTRL_ATTR_MCAST_GRP_MAX : UInt16 := 2
def NL80211_ATTR_MAX_INTERNAL : UInt16 := 256

structure GetMulticastIdCommand where
  mName : CString
  mGroup : CString
  mId : Int

def GetMulticastIdCommand.new (name group : CString) : GetMulticastIdCommand := ⟨name, group, -1⟩

namespace GetMulticastIdCommand

/-- `strncmp` of the name in an attribute and `mGroup`, up to the length of the attribute. -/
def isGroup (grpName : List UInt8) (mGroup : CString) : Bool :=
  (Comparison.strncmp (grpName.takeWhile (· ≠ 0)) grpName.length).holds mGroup.bytes

/-- The body of the loop over the groups: the id, if it ends the loop. -/
def handleGroup (mGroup : CString) (mcgrp : Attr) : Option Int :=
  let tb2 := nla_parse CTRL_ATTR_MCAST_GRP_MAX (attrs mcgrp.data)
  match tb2 CTRL_ATTR_MCAST_GRP_NAME, tb2 CTRL_ATTR_MCAST_GRP_ID with
  | some name, some id => if isGroup name.data mGroup then some id.nla_get_u32.toInt32.toInt else none
  | _, _ => none

/-- `GetMulticastIdCommand::handleResponse`, of a reply with this payload. -/
def handleResponse (c : GetMulticastIdCommand) (reply : List UInt8) : GetMulticastIdCommand :=
  match nla_parse NL80211_ATTR_MAX_INTERNAL (attrs reply) CTRL_ATTR_MCAST_GROUPS with
  | none => c
  | some groups =>
    match (attrs groups.data).findSome? (handleGroup c.mGroup) with
    | none => c
    | some id => { c with mId := id }

end GetMulticastIdCommand

/-- `wifi_get_multicast_id`, where `requestResponse` hands over these replies and returns
this result. -/
def wifi_get_multicast_id (name group : CString) (replies : List (List UInt8)) (res : Int) : Int :=
  if res < 0 then res
  else (replies.foldl GetMulticastIdCommand.handleResponse (GetMulticastIdCommand.new name group)).mId

/-- `wifi_add_membership`: the group that the event socket joins, if there is one. -/
def wifi_add_membership (name group : CString) (replies : List (List UInt8)) (res : Int)
    (nl_socket_add_membership : Int → Int) : Option Int :=
  let id := wifi_get_multicast_id name group replies res
  if id < 0 then none
  else if nl_socket_add_membership id < 0 then none
  else some id

def nl80211 : CString := ⟨ascii "nl80211", by decide +kernel⟩

/-- The groups that `wifi_initialize` joins, in order. -/
def initGroups : List CString :=
  [⟨ascii "scan", by decide +kernel⟩, ⟨ascii "mlme", by decide +kernel⟩,
    ⟨ascii "regulatory", by decide +kernel⟩, ⟨ascii "vendor", by decide +kernel⟩]

/-- What the event socket has joined after `wifi_initialize`, if each request is answered
by this reply. -/
def joined (reply : List UInt8) (nl_socket_add_membership : Int → Int) : List Int :=
  initGroups.filterMap fun group => wifi_add_membership nl80211 group [reply] 0 nl_socket_add_membership

/-- A group in the reply of the kernel: the bytes of its name, and its id. -/
structure McastGroup where
  grpName : List UInt8
  id : UInt32

/-- The attributes that the kernel sends of a group, in one that is typed by its place. -/
def groupAttr (entry : McastGroup × Nat) : Attr :=
  ⟨UInt16.ofNat (entry.2 + 1), encodeAll [⟨CTRL_ATTR_MCAST_GRP_ID, le32 entry.1.id.toNat⟩,
    ⟨CTRL_ATTR_MCAST_GRP_NAME, entry.1.grpName⟩]⟩

def groupsAttr (groups : List McastGroup) : Attr :=
  ⟨CTRL_ATTR_MCAST_GROUPS, encodeAll (groups.zipIdx.map groupAttr)⟩

/-- A name is the group's up to its terminator. One without a terminator is only a start. -/
def McastGroup.Names (g : McastGroup) (mGroup : CString) : Prop :=
  0 ∈ g.grpName ∧ g.grpName.takeWhile (· ≠ 0) = mGroup.bytes ∨ 0 ∉ g.grpName ∧ g.grpName <+: mGroup.bytes

instance (g : McastGroup) (mGroup : CString) : Decidable (g.Names mGroup) :=
  inferInstanceAs (Decidable (_ ∨ _))

section

variable {mGroup : CString} {g : McastGroup} {groups : List McastGroup} {front back : List Attr}

theorem isGroup_iff : GetMulticastIdCommand.isGroup g.grpName mGroup ↔ g.Names mGroup := by
  have hle : (g.grpName.takeWhile (· ≠ 0)).length ≤ g.grpName.length := (List.takeWhile_prefix _).length_le
  have hcompare : GetMulticastIdCommand.isGroup g.grpName mGroup ↔
      mGroup.bytes.take g.grpName.length = g.grpName.takeWhile (· ≠ 0) := by
    rw [GetMulticastIdCommand.isGroup, Comparison.holds, List.take_of_length_le hle, beq_iff_eq]
  rw [hcompare, McastGroup.Names]
  by_cases hzero : 0 ∈ g.grpName
  · have hlt : (g.grpName.takeWhile (· ≠ 0)).length < g.grpName.length := by
      by_contra hnot
      have hall := List.takeWhile_eq_self_iff.mp
        ((List.takeWhile_prefix (· ≠ 0)).eq_of_length_le (Nat.le_of_not_lt hnot)) 0 hzero
      simp at hall
    constructor
    · intro htake
      refine Or.inl ⟨hzero, htake.symm.trans (List.take_of_length_le ?_)⟩
      have hlength := congrArg List.length htake
      rw [List.length_take] at hlength
      omega
    · rintro (⟨_, hname⟩ | ⟨hnone, _⟩)
      · rw [hname] at hlt ⊢
        exact List.take_of_length_le (Nat.le_of_lt hlt)
      · exact absurd hzero hnone
  · have hself : g.grpName.takeWhile (· ≠ 0) = g.grpName := by
      rw [List.takeWhile_eq_self_iff]
      intro byte hbyte
      simpa using fun heq : byte = 0 => hzero (heq ▸ hbyte)
    rw [hself]
    simp only [hzero, false_and, not_false_eq_true, true_and, false_or, List.prefix_iff_eq_take]
    exact eq_comm

/-- A group that the kernel sends is handled by its name. -/
theorem handleGroup_groupAttr {entry : McastGroup × Nat} (hsmall : (groupAttr entry).data.length < 65536) :
    GetMulticastIdCommand.handleGroup mGroup (groupAttr entry) =
      if entry.1.Names mGroup then some entry.1.id.toInt32.toInt else none := by
  have hattrs : attrs (groupAttr entry).data = [⟨CTRL_ATTR_MCAST_GRP_ID, le32 entry.1.id.toNat⟩,
      ⟨CTRL_ATTR_MCAST_GRP_NAME, entry.1.grpName⟩] := attrs_encodeAll_of_lt hsmall
  have hname : nla_parse CTRL_ATTR_MCAST_GRP_MAX (attrs (groupAttr entry).data) CTRL_ATTR_MCAST_GRP_NAME =
      some ⟨CTRL_ATTR_MCAST_GRP_NAME, entry.1.grpName⟩ := by
    rw [hattrs]
    apply nla_parse_append_cons [⟨CTRL_ATTR_MCAST_GRP_ID, le32 entry.1.id.toNat⟩] (by decide)
    · rw [Attr.type_mk]
      decide
    · simp
  have hid : nla_parse CTRL_ATTR_MCAST_GRP_MAX (attrs (groupAttr entry).data) CTRL_ATTR_MCAST_GRP_ID =
      some ⟨CTRL_ATTR_MCAST_GRP_ID, le32 entry.1.id.toNat⟩ := by
    rw [hattrs]
    apply nla_parse_append_cons [] (by decide)
    · rw [Attr.type_mk]
      decide
    · intro other hother
      rw [List.mem_singleton.mp hother, Attr.type_mk]
      decide
  rw [GetMulticastIdCommand.handleGroup, hname, hid]
  simp only [nla_get_u32_le32, isGroup_iff]

/-- The loop over numbered entries ends at the first that has what is looked for. -/
theorem findSome?_zipIdx {A B : Type} {as : List A} {k : Nat} {body : A × Nat → Option B} {p : A → Bool}
    {value : A → B} (hbody : ∀ entry ∈ as.zipIdx k, body entry = if p entry.1 then some (value entry.1) else none) :
    (as.zipIdx k).findSome? body = (as.find? p).map value := by
  induction as generalizing k with
  | nil => rfl
  | cons a as ih =>
    rw [List.zipIdx_cons] at hbody ⊢
    obtain ⟨hfirst, hrest⟩ := List.forall_mem_cons.mp hbody
    rw [List.findSome?_cons, hfirst]
    by_cases hp : p a
    · rw [if_pos hp, List.find?_cons_of_pos hp]
      rfl
    · rw [if_neg hp, List.find?_cons_of_neg hp]
      exact ih hrest

/-- In the reply of the kernel, the first group of the name is found. -/
theorem handleResponse_reply (c : GetMulticastIdCommand) (hback : ∀ a ∈ back, a.type ≠ CTRL_ATTR_MCAST_GROUPS)
    (hsmall : (encodeAll (front ++ groupsAttr groups :: back)).length < 65536) :
    (c.handleResponse (encodeAll (front ++ groupsAttr groups :: back))).mId =
      ((groups.find? fun g => decide (g.Names c.mGroup)).map fun g => g.id.toInt32.toInt).getD c.mId := by
  have hmem : groupsAttr groups ∈ front ++ groupsAttr groups :: back := by simp
  have hdata := Nat.lt_of_le_of_lt (Attr.data_length_le hmem) hsmall
  have hgroups : attrs (groupsAttr groups).data = groups.zipIdx.map groupAttr := attrs_encodeAll_of_lt hdata
  have hparse : nla_parse NL80211_ATTR_MAX_INTERNAL (front ++ groupsAttr groups :: back) CTRL_ATTR_MCAST_GROUPS =
      some (groupsAttr groups) := by
    apply nla_parse_append_cons front (by decide) _ hback
    rw [groupsAttr, Attr.type_mk]
    decide
  have hfind : (groups.zipIdx.map groupAttr).findSome? (GetMulticastIdCommand.handleGroup c.mGroup) =
      (groups.find? fun g => decide (g.Names c.mGroup)).map fun g => g.id.toInt32.toInt := by
    rw [List.findSome?_map]
    apply findSome?_zipIdx
    intro entry hentry
    have hlength := Nat.lt_of_le_of_lt (Attr.data_length_le (List.mem_map_of_mem hentry)) hdata
    rw [Function.comp_apply, handleGroup_groupAttr hlength]
    simp only [decide_eq_true_eq]
  rw [GetMulticastIdCommand.handleResponse, attrs_encodeAll_of_lt hsmall, hparse]
  dsimp only
  rw [hgroups, hfind]
  cases groups.find? fun g => decide (g.Names c.mGroup) with
  | none => rfl
  | some g => rfl

/-- A number of 31 bits is the same as an `int`. -/
theorem toInt_of_lt {v : UInt32} (hv : v.toNat < 2147483648) : v.toInt32.toInt = v.toNat := by
  have hlt : 2 * v.toBitVec.toNat < 2 ^ 32 := by
    rw [UInt32.toNat_toBitVec]
    omega
  exact BitVec.toInt_eq_toNat_of_lt hlt

/-- A terminated name is only the name of its own group. -/
theorem names_terminated_iff {name : CString} {id : UInt32} :
    McastGroup.Names ⟨name.bytes ++ [0], id⟩ mGroup ↔ name.bytes = mGroup.bytes := by
  have hterminated : (name.bytes ++ [0]).takeWhile (· ≠ 0) = name.bytes := by
    rw [List.takeWhile_append_of_pos]
    · simp
    · intro byte hbyte
      simpa using fun heq : byte = 0 => name.no_nul (heq ▸ hbyte)
  rw [McastGroup.Names, hterminated]
  simp

/-- What `wifi_initialize` joins are the ids of the groups it names, as the kernel lists
them, where the ids are no negative numbers. -/
theorem joined_reply (front : List Attr) (hback : ∀ a ∈ back, a.type ≠ CTRL_ATTR_MCAST_GROUPS)
    (hsmall : (encodeAll (front ++ groupsAttr groups :: back)).length < 65536)
    (hids : ∀ g ∈ groups, g.id.toNat < 2147483648) {nl_socket_add_membership : Int → Int}
    (hadd : ∀ id, 0 ≤ nl_socket_add_membership id) :
    joined (encodeAll (front ++ groupsAttr groups :: back)) nl_socket_add_membership =
      initGroups.filterMap fun group =>
        (groups.find? fun g => decide (g.Names group)).map fun g => (g.id.toNat : Int) := by
  apply List.filterMap_congr
  intro group _
  have hid : ((GetMulticastIdCommand.new nl80211 group).handleResponse
      (encodeAll (front ++ groupsAttr groups :: back))).mId =
        ((groups.find? fun g => decide (g.Names group)).map fun g => g.id.toInt32.toInt).getD (-1) :=
    handleResponse_reply (.new nl80211 group) hback hsmall
  rw [wifi_add_membership, wifi_get_multicast_id, if_neg (Int.lt_irrefl 0), List.foldl_cons, List.foldl_nil, hid]
  cases hfind : groups.find? fun g => decide (g.Names group) with
  | none => rfl
  | some g =>
    rw [Option.map_some, Option.getD_some, toInt_of_lt (hids g (List.mem_of_find?_eq_some hfind)),
      if_neg (by omega), if_neg (Int.not_lt.mpr (hadd _)), Option.map_some]

end

/-- The groups of a kernel that has no group for vendors. -/
def kernelGroups : List McastGroup :=
  [⟨ascii "config" ++ [0], 5⟩, ⟨ascii "scan" ++ [0], 6⟩, ⟨ascii "regulatory" ++ [0], 7⟩, ⟨ascii "mlme" ++ [0], 8⟩]

def familyName : Attr := ⟨2, ascii "nl80211" ++ [0]⟩

theorem joined_kernelGroups :
    joined (encodeAll ([familyName] ++ groupsAttr kernelGroups :: [])) (fun _ => 0) = [6, 8, 7] := by
  have hsmall : (encodeAll ([familyName] ++ groupsAttr kernelGroups :: [])).length < 65536 := by decide +kernel
  have hjoined := joined_reply [familyName] (List.forall_mem_nil _) hsmall (by decide +kernel) (fun _ => Int.le_refl 0)
  rw [hjoined]
  decide +kernel

end panelli.wifi_hal
