import Panelli.WifiHal.ScanSetup

open panelli.bytes panelli.netlink

namespace panelli.wifi_hal

def GSCAN_SUBCMD_ANQPO_CONFIG : UInt32 := 0x1015

def GSCAN_ATTRIBUTE_ANQPO_HS_LIST : UInt16 := 110
def GSCAN_ATTRIBUTE_ANQPO_HS_LIST_SIZE : UInt16 := 111
def GSCAN_ATTRIBUTE_ANQPO_HS_NETWORK_ID : UInt16 := 112
def GSCAN_ATTRIBUTE_ANQPO_HS_NAI_REALM : UInt16 := 113
def GSCAN_ATTRIBUTE_ANQPO_HS_ROAM_CONSORTIUM_ID : UInt16 := 114
def GSCAN_ATTRIBUTE_ANQPO_HS_PLMN : UInt16 := 115

/-- A passpoint network, with the bytes of its arrays. -/
structure PasspointNetwork where
  id : Int32
  realm : Vector UInt8 256
  roamingConsortiumIds : Vector UInt8 128
  plmn : Vector UInt8 3

/-- A command for a list of networks. The array holds as many as are counted. -/
structure AnqpoConfigureCommand where
  num_hs : Int32
  mNetworks : List PasspointNetwork
  mNetworks_fit : num_hs.toInt ≤ mNetworks.length

namespace AnqpoConfigureCommand

/-- The networks that the loop goes over. -/
def networks (c : AnqpoConfigureCommand) : List PasspointNetwork := c.mNetworks.take c.num_hs.toInt.toNat

/-- The body of the loop over the networks. -/
def putNetwork (network : PasspointNetwork) : Assembly Unit := do
  put_u32 GSCAN_ATTRIBUTE_ANQPO_HS_NETWORK_ID network.id.toUInt32
  nla_put GSCAN_ATTRIBUTE_ANQPO_HS_NAI_REALM network.realm.toList
  nla_put GSCAN_ATTRIBUTE_ANQPO_HS_ROAM_CONSORTIUM_ID network.roamingConsortiumIds.toList
  nla_put GSCAN_ATTRIBUTE_ANQPO_HS_PLMN network.plmn.toList

/-- The request for a list, which does not depend on the count it is given. What
`create` returns is not looked at, but where it has no room the next put, of as many
bytes, has none either. -/
def createRequest (mIface : Int32) (c : AnqpoConfigureCommand) (_val : Int32) : Assembly Unit := do
  WifiRequest.create mIface GOOGLE_OUI GSCAN_SUBCMD_ANQPO_CONFIG
  put_u32 GSCAN_ATTRIBUTE_ANQPO_HS_LIST_SIZE c.num_hs.toUInt32
  nested NL80211_ATTR_VENDOR_DATA do
    nested GSCAN_ATTRIBUTE_ANQPO_HS_LIST
      (c.networks.zipIdx.forM fun entry => nested (UInt16.ofNat entry.2) (putNetwork entry.1))

/-- The message that `start` sends. -/
def startMessage (mIface : Int32) (c : AnqpoConfigureCommand) : Assembly Unit := createRequest mIface c c.num_hs

/-- The message that `cancel` sends. -/
def cancelMessage (mIface : Int32) (c : AnqpoConfigureCommand) : Assembly Unit := createRequest mIface c 0

end AnqpoConfigureCommand

/-- A network as it is read back from its attributes. -/
structure PasspointElement where
  id : Int32
  realm : List UInt8
  roamingConsortiumIds : List UInt8
  plmn : List UInt8

def PasspointNetwork.requested (network : PasspointNetwork) : PasspointElement where
  id := network.id
  realm := network.realm.toList
  roamingConsortiumIds := network.roamingConsortiumIds.toList
  plmn := network.plmn.toList

def readNetwork (as : List Attr) : Option PasspointElement := do
  return {
    id := (← findU32 GSCAN_ATTRIBUTE_ANQPO_HS_NETWORK_ID as).toInt32
    realm := ← findData GSCAN_ATTRIBUTE_ANQPO_HS_NAI_REALM as
    roamingConsortiumIds := ← findData GSCAN_ATTRIBUTE_ANQPO_HS_ROAM_CONSORTIUM_ID as
    plmn := ← findData GSCAN_ATTRIBUTE_ANQPO_HS_PLMN as }

/-- The networks in a message, of which there is none without a list. -/
def readNetworks (bytes : List UInt8) : Option (List PasspointElement) :=
  ((((vendorData bytes).bind (findData GSCAN_ATTRIBUTE_ANQPO_HS_LIST)).map attrs).getD []).mapM fun a =>
    readNetwork (attrs a.data)

/-- A message has these networks, and announces as many. -/
structure AnnouncesNetworks (bytes : List UInt8) (networks : List PasspointElement) : Prop where
  size : (findU32 GSCAN_ATTRIBUTE_ANQPO_HS_LIST_SIZE (attrs bytes)).map UInt32.toNat = some networks.length
  list : readNetworks bytes = some networks

/-- The attributes of a network. -/
def networkAttrs (network : PasspointNetwork) : List Attr :=
  [u32Attr GSCAN_ATTRIBUTE_ANQPO_HS_NETWORK_ID network.id.toUInt32,
    ⟨GSCAN_ATTRIBUTE_ANQPO_HS_NAI_REALM, network.realm.toList⟩,
    ⟨GSCAN_ATTRIBUTE_ANQPO_HS_ROAM_CONSORTIUM_ID, network.roamingConsortiumIds.toList⟩,
    ⟨GSCAN_ATTRIBUTE_ANQPO_HS_PLMN, network.plmn.toList⟩]

def networkAttr (entry : PasspointNetwork × Nat) : Attr :=
  ⟨UInt16.ofNat entry.2, encodeAll (networkAttrs entry.1)⟩

/-- The attributes in front of the vendor data. -/
def anqpoFront (mIface : Int32) (c : AnqpoConfigureCommand) : List Attr :=
  createAttrs mIface GOOGLE_OUI GSCAN_SUBCMD_ANQPO_CONFIG ++
    [u32Attr GSCAN_ATTRIBUTE_ANQPO_HS_LIST_SIZE c.num_hs.toUInt32]

/-- The vendor data of a list with networks. -/
def anqpoData (c : AnqpoConfigureCommand) : List Attr :=
  [⟨GSCAN_ATTRIBUTE_ANQPO_HS_LIST, encodeAll (c.networks.zipIdx.map networkAttr)⟩]

namespace AnqpoConfigureCommand

section

variable {c : AnqpoConfigureCommand} {mIface val : Int32} {alloc msg : NlMsg} {r : Unit}

theorem appends_putNetwork (network : PasspointNetwork) : Appends (putNetwork network) (networkAttrs network) := by
  apply appends_cons (appends_put_u32 _ _)
  intro _
  apply appends_cons (appends_nla_put _ _)
  intro _
  apply appends_cons (appends_nla_put _ _)
  intro _
  exact appends_nla_put _ _

theorem appends_networks (c : AnqpoConfigureCommand) :
    Appends (c.networks.zipIdx.forM fun entry => nested (UInt16.ofNat entry.2) (putNetwork entry.1))
      (c.networks.zipIdx.map networkAttr) := by
  apply appends_forM
  exact fun entry => appends_nested (appends_putNetwork entry.1) (List.cons_ne_nil _ _)

/-- Without networks there is no vendor data: nests that stay empty are removed. -/
theorem appends_createRequest_nil (mIface val : Int32) (hnone : c.networks = []) :
    Appends (createRequest mIface c val) (anqpoFront mIface c) := by
  have hnetworks := appends_networks c
  rw [hnone] at hnetworks
  have hdata : Appends (nested NL80211_ATTR_VENDOR_DATA (nested GSCAN_ATTRIBUTE_ANQPO_HS_LIST
      (c.networks.zipIdx.forM fun entry => nested (UInt16.ofNat entry.2) (putNetwork entry.1)))) [] := by
    rw [hnone]
    exact appends_nested_nil (appends_nested_nil hnetworks)
  apply appends_bind (appends_create _ _ _)
  intro _
  apply appends_cons (appends_put_u32 _ _)
  intro _
  exact hdata

theorem appends_createRequest (mIface val : Int32) (hsome : c.networks ≠ []) :
    Appends (createRequest mIface c val)
      (anqpoFront mIface c ++ [⟨NL80211_ATTR_VENDOR_DATA, encodeAll (anqpoData c)⟩]) := by
  rw [anqpoFront, List.append_assoc]
  apply appends_bind (appends_create _ _ _)
  intro _
  apply appends_cons (appends_put_u32 _ _)
  intro _
  refine appends_nested (appends_nested (appends_networks c) ?_) (List.cons_ne_nil _ _)
  simpa [List.zipIdx_eq_nil_iff] using hsome

theorem anqpoFront_nla_type (mIface : Int32) (c : AnqpoConfigureCommand) :
    ∀ a ∈ anqpoFront mIface c, a.nla_type ≠ NL80211_ATTR_VENDOR_DATA := by
  intro a ha
  obtain ha | ha := List.mem_append.mp ha
  · exact createAttrs_nla_type (by decide) (by decide) (by decide) a ha
  · rw [List.mem_singleton.mp ha]
    exact (by decide : GSCAN_ATTRIBUTE_ANQPO_HS_LIST_SIZE ≠ NL80211_ATTR_VENDOR_DATA)

/-- The size of the list is read back from in front of the vendor data. -/
theorem findU32_anqpoFront (mIface : Int32) (c : AnqpoConfigureCommand) (rest : List Attr) :
    findU32 GSCAN_ATTRIBUTE_ANQPO_HS_LIST_SIZE (anqpoFront mIface c ++ rest) = some c.num_hs.toUInt32 := by
  have hnone : (createAttrs mIface GOOGLE_OUI GSCAN_SUBCMD_ANQPO_CONFIG).find?
      (·.nla_type == GSCAN_ATTRIBUTE_ANQPO_HS_LIST_SIZE) = none := by
    rw [List.find?_eq_none]
    intro a ha
    have hne : a.nla_type ≠ GSCAN_ATTRIBUTE_ANQPO_HS_LIST_SIZE :=
      createAttrs_nla_type (by decide) (by decide) (by decide) a ha
    simpa using hne
  rw [findU32, anqpoFront, List.append_assoc, List.find?_append, hnone, Option.none_or]
  exact findU32_cons _ _ _

/-- A network is read back from its attributes. -/
theorem readNetwork_networkAttrs (network : PasspointNetwork) :
    readNetwork (networkAttrs network) = some network.requested := by
  simp [readNetwork, networkAttrs, findU32, findData, u32Attr, PasspointNetwork.requested,
    GSCAN_ATTRIBUTE_ANQPO_HS_NETWORK_ID, GSCAN_ATTRIBUTE_ANQPO_HS_NAI_REALM,
    GSCAN_ATTRIBUTE_ANQPO_HS_ROAM_CONSORTIUM_ID, GSCAN_ATTRIBUTE_ANQPO_HS_PLMN]

/-- A request has the networks of the command, whatever count it is given, and
announces the count of the command. -/
theorem createRequest_contents (hempty : alloc.bytes = [])
    (hcreate : createRequest mIface c val alloc = some (r, msg)) :
    findU32 GSCAN_ATTRIBUTE_ANQPO_HS_LIST_SIZE (attrs msg.bytes) = some c.num_hs.toUInt32 ∧
      readNetworks msg.bytes = some (c.networks.map PasspointNetwork.requested) := by
  by_cases hnone : c.networks = []
  · have hbytes := appends_createRequest_nil mIface val hnone alloc r msg hcreate
    rw [hempty, List.nil_append] at hbytes
    have hsmall := msg.bytes_length_lt
    rw [hbytes] at hsmall
    have hattrs : attrs msg.bytes = anqpoFront mIface c := by
      rw [hbytes, attrs_encodeAll_of_lt hsmall]
    have hdata : vendorData msg.bytes = none := by
      rw [vendorData, hattrs, Option.map_eq_none_iff, List.find?_eq_none]
      intro a ha
      simpa using anqpoFront_nla_type mIface c a ha
    constructor
    · rw [hattrs, ← List.append_nil (anqpoFront mIface c)]
      exact findU32_anqpoFront mIface c []
    · rw [readNetworks, hdata, hnone]
      rfl
  · obtain ⟨hattrs, hdata, hsmall⟩ := vendorData_of_appends (appends_createRequest mIface val hnone)
      (anqpoFront_nla_type mIface c) hempty hcreate
    have hlist : (encodeAll (c.networks.zipIdx.map networkAttr)).length < 65536 :=
      Nat.lt_of_le_of_lt (Attr.data_length_le (a := ⟨GSCAN_ATTRIBUTE_ANQPO_HS_LIST, _⟩) List.mem_cons_self) hsmall
    constructor
    · rw [hattrs]
      exact findU32_anqpoFront mIface c _
    · rw [readNetworks, hdata, Option.bind_some, findData, anqpoData, List.find?_cons_of_pos (by simp),
        Option.map_some, Option.map_some, Option.getD_some, attrs_encodeAll_of_lt hlist]
      exact mapM_zipIdx_nests (fun _ => rfl) (fun network _ => readNetwork_networkAttrs network) hlist

theorem networks_length (c : AnqpoConfigureCommand) : c.networks.length = c.num_hs.toInt.toNat := by
  have hfit := c.mNetworks_fit
  rw [networks, List.length_take]
  omega

/-- The bits of a count are the number just if it is not negative. -/
theorem toNat_toUInt32_iff (count : Int32) : count.toUInt32.toNat = count.toInt.toNat ↔ 0 ≤ count.toInt := by
  have hbits : count.toUInt32.toNat = count.toBitVec.toNat := rfl
  have hint : count.toInt = count.toBitVec.toInt := rfl
  have hlt := count.toBitVec.isLt
  rw [hbits, hint, BitVec.toInt_eq_toNat_cond]
  split_ifs with hsmall
  · omega
  · omega

end

/-- When a request succeeds, a start announces its networks just if their count is
not negative. A reset announces no networks just if there were none: it sends what
the start sent. -/
theorem passpoint_messages_iff (mIface : Int32) (c : AnqpoConfigureCommand) :
    (∀ (alloc msg : NlMsg) (r : Unit), alloc.bytes = [] → c.startMessage mIface alloc = some (r, msg) →
      (AnnouncesNetworks msg.bytes (c.networks.map PasspointNetwork.requested) ↔ 0 ≤ c.num_hs.toInt)) ∧
      ∀ (alloc msg : NlMsg) (r : Unit), alloc.bytes = [] → c.cancelMessage mIface alloc = some (r, msg) →
        (AnnouncesNetworks msg.bytes [] ↔ c.num_hs = 0) := by
  constructor
  · intro alloc msg r hempty hcreate
    obtain ⟨hsize, hlist⟩ := createRequest_contents hempty hcreate
    rw [← toNat_toUInt32_iff, ← networks_length]
    constructor
    · intro hannounces
      have hcount := hannounces.size
      rw [hsize, Option.map_some, List.length_map] at hcount
      exact Option.some.inj hcount
    · intro hcount
      refine ⟨?_, hlist⟩
      rw [hsize, Option.map_some, List.length_map, hcount]
  · intro alloc msg r hempty hcreate
    obtain ⟨hsize, hlist⟩ := createRequest_contents hempty hcreate
    constructor
    · intro hannounces
      have hcount := hannounces.size
      rw [hsize, Option.map_some, List.length_nil] at hcount
      have hzero : c.num_hs.toUInt32 = 0 := UInt32.toNat_inj.mp (Option.some.inj hcount)
      have hback := congrArg UInt32.toInt32 hzero
      exact hback
    · intro hzero
      have hnone : c.networks = [] := by
        rw [networks, hzero]
        rfl
      rw [hnone] at hlist
      refine ⟨?_, hlist⟩
      rw [hsize, hzero]
      rfl

/-- A network whose realm is not filled in. -/
def sampleNetwork : PasspointNetwork := ⟨5, Vector.replicate 256 0, Vector.replicate 128 0, #v[1, 2, 3]⟩

def oneNetwork : AnqpoConfigureCommand := ⟨1, [sampleNetwork], by decide⟩

theorem passpoint_messages_one :
    ∃ msg, oneNetwork.startMessage 3 nlmsg_alloc = some ((), msg) ∧
      AnnouncesNetworks msg.bytes (oneNetwork.networks.map PasspointNetwork.requested) := by
  have hsome : (oneNetwork.startMessage 3 nlmsg_alloc).isSome = true := by decide +kernel
  obtain ⟨⟨r, msg⟩, hcreate⟩ := Option.isSome_iff_exists.mp hsome
  exact ⟨msg, hcreate, ((passpoint_messages_iff 3 oneNetwork).1 nlmsg_alloc msg r rfl hcreate).mpr (by decide)⟩

/-- The reset of a list of one network sends it again. -/
theorem cancel_sends_network :
    ∃ msg, oneNetwork.cancelMessage 3 nlmsg_alloc = some ((), msg) ∧ ¬ AnnouncesNetworks msg.bytes [] := by
  have hsome : (oneNetwork.cancelMessage 3 nlmsg_alloc).isSome = true := by decide +kernel
  obtain ⟨⟨r, msg⟩, hcreate⟩ := Option.isSome_iff_exists.mp hsome
  refine ⟨msg, hcreate, ?_⟩
  intro hannounces
  obtain ⟨hsize, _⟩ := createRequest_contents rfl hcreate
  have hcount := hannounces.size
  rw [hsize] at hcount
  revert hcount
  decide

end AnqpoConfigureCommand

end panelli.wifi_hal
