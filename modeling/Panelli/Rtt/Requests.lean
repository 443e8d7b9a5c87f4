import Panelli.WifiHal.CachedResults

open panelli.bytes panelli.netlink panelli.wifi_hal

namespace panelli.rtt

def RTT_SUBCMD_SET_CONFIG : UInt32 := 0x1100
def RTT_SUBCMD_CANCEL_CONFIG : UInt32 := 0x1101

def RTT_ATTRIBUTE_TARGET_CNT : UInt16 := 10
def RTT_ATTRIBUTE_TARGET_INFO : UInt16 := 11
def RTT_ATTRIBUTE_TARGET_MAC : UInt16 := 12
def RTT_ATTRIBUTE_TARGET_TYPE : UInt16 := 13
def RTT_ATTRIBUTE_TARGET_PEER : UInt16 := 14
def RTT_ATTRIBUTE_TARGET_CHAN : UInt16 := 15
def RTT_ATTRIBUTE_TARGET_PERIOD : UInt16 := 16
def RTT_ATTRIBUTE_TARGET_NUM_BURST : UInt16 := 17
def RTT_ATTRIBUTE_TARGET_NUM_FTM_BURST : UInt16 := 18
def RTT_ATTRIBUTE_TARGET_NUM_RETRY_FTM : UInt16 := 19
def RTT_ATTRIBUTE_TARGET_NUM_RETRY_FTMR : UInt16 := 20
def RTT_ATTRIBUTE_TARGET_LCI : UInt16 := 21
def RTT_ATTRIBUTE_TARGET_LCR : UInt16 := 22
def RTT_ATTRIBUTE_TARGET_BURST_DURATION : UInt16 := 23
def RTT_ATTRIBUTE_TARGET_PREAMBLE : UInt16 := 24
def RTT_ATTRIBUTE_TARGET_BW : UInt16 := 25

abbrev MacAddr : Type := Vector UInt8 6

/-- A target of a measurement. The channel is the structure of the framework. -/
structure RttConfig where
  addr : MacAddr
  type : UInt32
  peer : UInt32
  channel : List UInt8
  burst_period : UInt32
  num_burst : UInt32
  num_frames_per_burst : UInt32
  num_retries_per_rtt_frame : UInt32
  num_retries_per_ftmr : UInt32
  LCI_request : UInt8
  LCR_request : UInt8
  burst_duration : UInt32
  preamble : UInt32
  bw : UInt32

/-- The targets of a measurement. The array holds as many as are counted. -/
structure RttParams where
  numRttParams : UInt32
  rttParams : List RttConfig
  rttParams_fit : numRttParams.toNat ≤ rttParams.length

/-- The devices whose measurement is cancelled. The array holds as many as are counted. -/
structure RttDevices where
  num_devices : UInt32
  addr : List MacAddr
  addr_fit : num_devices.toNat ≤ addr.length

/-- The targets that are sent. -/
def RttParams.sent (p : RttParams) : List RttConfig := p.rttParams.take p.numRttParams.toNat

/-- The addresses that are sent. -/
def RttDevices.sent (d : RttDevices) : List MacAddr := d.addr.take d.num_devices.toNat

def put_addr (attrtype : UInt16) (value : MacAddr) : Assembly Unit := nla_put attrtype value.toList

/-- The body of the loop over the targets. -/
def putTarget (t : RttConfig) : Assembly Unit := do
  put_addr RTT_ATTRIBUTE_TARGET_MAC t.addr
  put_u8 RTT_ATTRIBUTE_TARGET_TYPE t.type.toUInt8
  put_u8 RTT_ATTRIBUTE_TARGET_PEER t.peer.toUInt8
  nla_put RTT_ATTRIBUTE_TARGET_CHAN t.channel
  put_u32 RTT_ATTRIBUTE_TARGET_NUM_BURST t.num_burst
  put_u32 RTT_ATTRIBUTE_TARGET_NUM_FTM_BURST t.num_frames_per_burst
  put_u32 RTT_ATTRIBUTE_TARGET_NUM_RETRY_FTM t.num_retries_per_rtt_frame
  put_u32 RTT_ATTRIBUTE_TARGET_NUM_RETRY_FTMR t.num_retries_per_ftmr
  put_u32 RTT_ATTRIBUTE_TARGET_PERIOD t.burst_period
  put_u32 RTT_ATTRIBUTE_TARGET_BURST_DURATION t.burst_duration
  put_u8 RTT_ATTRIBUTE_TARGET_LCI t.LCI_request
  put_u8 RTT_ATTRIBUTE_TARGET_LCR t.LCR_request
  put_u8 RTT_ATTRIBUTE_TARGET_BW t.bw.toUInt8
  put_u8 RTT_ATTRIBUTE_TARGET_PREAMBLE t.preamble.toUInt8

/-- `RttCommand::createSetupRequest`. Each target is typed by its index. -/
def RttCommand.createSetupRequest (mIface : Int32) (p : RttParams) : Assembly Unit := do
  WifiRequest.create mIface GOOGLE_OUI RTT_SUBCMD_SET_CONFIG
  nested NL80211_ATTR_VENDOR_DATA do
    put_u8 RTT_ATTRIBUTE_TARGET_CNT p.numRttParams.toUInt8
    nested RTT_ATTRIBUTE_TARGET_INFO
      (p.sent.zipIdx.forM fun entry => nested (UInt16.ofNat entry.2) (putTarget entry.1))

/-- `RttCommand::createTeardownRequest`, which does not look whether the count was put. -/
def RttCommand.createTeardownRequest (mIface : Int32) (d : RttDevices) : Assembly Unit := do
  WifiRequest.create mIface GOOGLE_OUI RTT_SUBCMD_CANCEL_CONFIG
  nested NL80211_ATTR_VENDOR_DATA do
    ignored (put_u8 RTT_ATTRIBUTE_TARGET_CNT d.num_devices.toUInt8)
    d.sent.forM (put_addr RTT_ATTRIBUTE_TARGET_MAC)

/-- A target as it is read back from its attributes. -/
structure RttTarget where
  addr : List UInt8
  type : UInt8
  peer : UInt8
  channel : List UInt8
  burst_period : UInt32
  num_burst : UInt32
  num_frames_per_burst : UInt32
  num_retries_per_rtt_frame : UInt32
  num_retries_per_ftmr : UInt32
  LCI_request : UInt8
  LCR_request : UInt8
  burst_duration : UInt32
  preamble : UInt8
  bw : UInt8

/-- What is asked for of a target. -/
def RttConfig.requested (t : RttConfig) : RttTarget where
  addr := t.addr.toList
  type := t.type.toUInt8
  peer := t.peer.toUInt8
  channel := t.channel
  burst_period := t.burst_period
  num_burst := t.num_burst
  num_frames_per_burst := t.num_frames_per_burst
  num_retries_per_rtt_frame := t.num_retries_per_rtt_frame
  num_retries_per_ftmr := t.num_retries_per_ftmr
  LCI_request := t.LCI_request
  LCR_request := t.LCR_request
  burst_duration := t.burst_duration
  preamble := t.preamble.toUInt8
  bw := t.bw.toUInt8

def findU8 (attrtype : UInt16) (as : List Attr) : Option UInt8 :=
  (as.find? (·.nla_type == attrtype)).map Attr.nla_get_u8

def readTarget (as : List Attr) : Option RttTarget := do
  return {
    addr := ← findData RTT_ATTRIBUTE_TARGET_MAC as
    type := ← findU8 RTT_ATTRIBUTE_TARGET_TYPE as
    peer := ← findU8 RTT_ATTRIBUTE_TARGET_PEER as
    channel := ← findData RTT_ATTRIBUTE_TARGET_CHAN as
    burst_period := ← findU32 RTT_ATTRIBUTE_TARGET_PERIOD as
    num_burst := ← findU32 RTT_ATTRIBUTE_TARGET_NUM_BURST as
    num_frames_per_burst := ← findU32 RTT_ATTRIBUTE_TARGET_NUM_FTM_BURST as
    num_retries_per_rtt_frame := ← findU32 RTT_ATTRIBUTE_TARGET_NUM_RETRY_FTM as
    num_retries_per_ftmr := ← findU32 RTT_ATTRIBUTE_TARGET_NUM_RETRY_FTMR as
    LCI_request := ← findU8 RTT_ATTRIBUTE_TARGET_LCI as
    LCR_request := ← findU8 RTT_ATTRIBUTE_TARGET_LCR as
    burst_duration := ← findU32 RTT_ATTRIBUTE_TARGET_BURST_DURATION as
    preamble := ← findU8 RTT_ATTRIBUTE_TARGET_PREAMBLE as
    bw := ← findU8 RTT_ATTRIBUTE_TARGET_BW as }

/-- The targets in the vendor data. -/
def readTargets (as : List Attr) : Option (List RttTarget) :=
  (((findData RTT_ATTRIBUTE_TARGET_INFO as).map attrs).getD []).mapM fun a => readTarget (attrs a.data)

/-- The addresses in the vendor data. -/
def readAddrs (as : List Attr) : List (List UInt8) :=
  (as.filter (·.nla_type == RTT_ATTRIBUTE_TARGET_MAC)).map Attr.data

/-- A message has the targets that were given, and counts them. -/
def CountsTargets (p : RttParams) (bytes : List UInt8) : Prop :=
  ∃ as, vendorData bytes = some as ∧ readTargets as = some (p.sent.map RttConfig.requested) ∧
    (findU8 RTT_ATTRIBUTE_TARGET_CNT as).map UInt8.toNat = some p.sent.length

/-- A message has the addresses that were given, and counts them. -/
def CountsAddrs (d : RttDevices) (bytes : List UInt8) : Prop :=
  ∃ as, vendorData bytes = some as ∧ readAddrs as = d.sent.map Vector.toList ∧
    (findU8 RTT_ATTRIBUTE_TARGET_CNT as).map UInt8.toNat = some (readAddrs as).length

/-- An attribute that holds a byte. -/
def u8Attr (attrtype : UInt16) (value : UInt8) : Attr := ⟨attrtype, [value]⟩

/-- The attributes of a target. -/
def targetAttrs (t : RttConfig) : List Attr :=
  [⟨RTT_ATTRIBUTE_TARGET_MAC, t.addr.toList⟩,
    u8Attr RTT_ATTRIBUTE_TARGET_TYPE t.type.toUInt8,
    u8Attr RTT_ATTRIBUTE_TARGET_PEER t.peer.toUInt8,
    ⟨RTT_ATTRIBUTE_TARGET_CHAN, t.channel⟩,
    u32Attr RTT_ATTRIBUTE_TARGET_NUM_BURST t.num_burst,
    u32Attr RTT_ATTRIBUTE_TARGET_NUM_FTM_BURST t.num_frames_per_burst,
    u32Attr RTT_ATTRIBUTE_TARGET_NUM_RETRY_FTM t.num_retries_per_rtt_frame,
    u32Attr RTT_ATTRIBUTE_TARGET_NUM_RETRY_FTMR t.num_retries_per_ftmr,
    u32Attr RTT_ATTRIBUTE_TARGET_PERIOD t.burst_period,
    u32Attr RTT_ATTRIBUTE_TARGET_BURST_DURATION t.burst_duration,
    u8Attr RTT_ATTRIBUTE_TARGET_LCI t.LCI_request,
    u8Attr RTT_ATTRIBUTE_TARGET_LCR t.LCR_request,
    u8Attr RTT_ATTRIBUTE_TARGET_BW t.bw.toUInt8,
    u8Attr RTT_ATTRIBUTE_TARGET_PREAMBLE t.preamble.toUInt8]

def targetAttr (entry : RttConfig × Nat) : Attr := ⟨UInt16.ofNat entry.2, encodeAll (targetAttrs entry.1)⟩

/-- The attributes of the targets, which are not there when there is none. -/
def infoAttrs (p : RttParams) : List Attr :=
  if p.sent = [] then [] else [⟨RTT_ATTRIBUTE_TARGET_INFO, encodeAll (p.sent.zipIdx.map targetAttr)⟩]

def macAttr (addr : MacAddr) : Attr := ⟨RTT_ATTRIBUTE_TARGET_MAC, addr.toList⟩

section

variable {t : RttConfig} {p : RttParams} {d : RttDevices} {as : List Attr}

theorem appends_put_addr (attrtype : UInt16) (value : MacAddr) :
    Appends (put_addr attrtype value) [⟨attrtype, value.toList⟩] :=
  appends_nla_put attrtype value.toList

theorem appends_putTarget (t : RttConfig) : Appends (putTarget t) (targetAttrs t) := by
  refine appends_cons (appends_put_addr _ _) fun _ => appends_cons (appends_put_u8 _ _) fun _ =>
    appends_cons (appends_put_u8 _ _) fun _ => appends_cons (appends_nla_put _ _) fun _ =>
    appends_cons (appends_put_u32 _ _) fun _ => appends_cons (appends_put_u32 _ _) fun _ =>
    appends_cons (appends_put_u32 _ _) fun _ => appends_cons (appends_put_u32 _ _) fun _ =>
    appends_cons (appends_put_u32 _ _) fun _ => appends_cons (appends_put_u32 _ _) fun _ =>
    appends_cons (appends_put_u8 _ _) fun _ => appends_cons (appends_put_u8 _ _) fun _ =>
    appends_cons (appends_put_u8 _ _) fun _ => ?_
  exact appends_put_u8 _ _

/-- A setup that succeeds consists of the address, the count and the targets. -/
theorem appends_createSetupRequest (mIface : Int32) (p : RttParams) :
    Appends (RttCommand.createSetupRequest mIface p) (createAttrs mIface GOOGLE_OUI RTT_SUBCMD_SET_CONFIG ++
      [⟨NL80211_ATTR_VENDOR_DATA,
        encodeAll (u8Attr RTT_ATTRIBUTE_TARGET_CNT p.numRttParams.toUInt8 :: infoAttrs p)⟩]) := by
  refine appends_bind (appends_create _ _ _) fun _ => appends_nested ?_ (List.cons_ne_nil _ _)
  refine appends_cons (appends_put_u8 _ _) fun _ => ?_
  have htargets : Appends (p.sent.zipIdx.forM fun entry => nested (UInt16.ofNat entry.2) (putTarget entry.1))
      (p.sent.zipIdx.map targetAttr) :=
    appends_forM fun entry => appends_nested (appends_putTarget entry.1) (List.cons_ne_nil _ _)
  by_cases hsent : p.sent = []
  · rw [infoAttrs, if_pos hsent]
    rw [hsent] at htargets ⊢
    exact appends_nested_nil htargets
  · rw [infoAttrs, if_neg hsent]
    apply appends_nested htargets
    simpa [List.zipIdx_eq_nil_iff] using hsent

/-- A page has room for the count behind the address. -/
theorem createTeardownRequest_eq (mIface : Int32) (d : RttDevices) :
    RttCommand.createTeardownRequest mIface d nlmsg_alloc =
      (do
        WifiRequest.create mIface GOOGLE_OUI RTT_SUBCMD_CANCEL_CONFIG
        nested NL80211_ATTR_VENDOR_DATA do
          put_u8 RTT_ATTRIBUTE_TARGET_CNT d.num_devices.toUInt8
          d.sent.forM (put_addr RTT_ATTRIBUTE_TARGET_MAC) : Assembly Unit) nlmsg_alloc := by
  obtain ⟨r, msg, hcreate, hsize, hlength⟩ :=
    needs_create mIface GOOGLE_OUI RTT_SUBCMD_CANCEL_CONFIG nlmsg_alloc (by decide)
  simp only [RttCommand.createTeardownRequest, bind, StateT.bind, hcreate, Option.bind_some]
  apply nested_congr
  intro msg1 hput
  have hbytes := nla_put_some hput
  have hkept := keepsSize_nla_put NL80211_ATTR_VENDOR_DATA [] msg () msg1 hput
  have hroom : GENL_HEADERS + msg1.bytes.length + 8 ≤ msg1.nm_size := by
    rw [hkept, hsize, hbytes, List.length_append, Attr.encode_length]
    have hbound : msg.bytes.length ≤ 24 := hlength
    have halign : NLA_HDRLEN + align4 0 = 4 := by decide
    have hpage : nlmsg_alloc.nm_size = 4096 := rfl
    simp only [List.length_nil, GENL_HEADERS]
    omega
  simp only [StateT.bind, ignored_eq (needs_put_u8 _ _) hroom]

theorem appends_createTeardownRequest (mIface : Int32) (d : RttDevices) :
    Appends (do
        WifiRequest.create mIface GOOGLE_OUI RTT_SUBCMD_CANCEL_CONFIG
        nested NL80211_ATTR_VENDOR_DATA do
          put_u8 RTT_ATTRIBUTE_TARGET_CNT d.num_devices.toUInt8
          d.sent.forM (put_addr RTT_ATTRIBUTE_TARGET_MAC) : Assembly Unit)
      (createAttrs mIface GOOGLE_OUI RTT_SUBCMD_CANCEL_CONFIG ++
        [⟨NL80211_ATTR_VENDOR_DATA,
          encodeAll (u8Attr RTT_ATTRIBUTE_TARGET_CNT d.num_devices.toUInt8 :: d.sent.map macAttr)⟩]) := by
  refine appends_bind (appends_create _ _ _) fun _ => appends_nested ?_ (List.cons_ne_nil _ _)
  refine appends_cons (appends_put_u8 _ _) fun _ => ?_
  exact appends_forM fun addr => appends_put_addr _ _

theorem findU8_cons (attrtype : UInt16) (value : UInt8) (as : List Attr) :
    findU8 attrtype (u8Attr attrtype value :: as) = some value := by
  simp [findU8, u8Attr]

/-- The count is what is left of the number in eight bits. -/
theorem count_eq_iff (n : UInt32) : n.toUInt8.toNat = n.toNat ↔ n.toNat < 256 := by
  rw [UInt32.toNat_toUInt8]
  omega

/-- The addresses are read back behind the count. -/
theorem readAddrs_macAttrs (value : UInt8) (addrs : List MacAddr) :
    readAddrs (u8Attr RTT_ATTRIBUTE_TARGET_CNT value :: addrs.map macAttr) = addrs.map Vector.toList := by
  have hcnt : ¬ (u8Attr RTT_ATTRIBUTE_TARGET_CNT value).nla_type == RTT_ATTRIBUTE_TARGET_MAC := by
    exact (by decide : ¬ (RTT_ATTRIBUTE_TARGET_CNT == RTT_ATTRIBUTE_TARGET_MAC) = true)
  have hmacs : (addrs.map macAttr).filter (·.nla_type == RTT_ATTRIBUTE_TARGET_MAC) = addrs.map macAttr := by
    rw [List.filter_eq_self]
    intro a ha
    obtain ⟨addr, _, rfl⟩ := List.mem_map.mp ha
    simp [macAttr]
  rw [readAddrs, List.filter_cons_of_neg (by exact hcnt), hmacs, List.map_map]
  rfl

/-- A target is read back from its attributes. -/
theorem readTarget_targetAttrs (t : RttConfig) : readTarget (targetAttrs t) = some t.requested := by
  have hu32 : ∀ (attrtype : UInt16) (v : UInt32), Attr.nla_get_u32 ⟨attrtype, le32 v.toNat⟩ = v :=
    fun attrtype v => nla_get_u32_le32 attrtype v
  simp [readTarget, targetAttrs, findData, findU8, findU32, u8Attr, u32Attr, RttConfig.requested,
    RTT_ATTRIBUTE_TARGET_MAC, RTT_ATTRIBUTE_TARGET_TYPE, RTT_ATTRIBUTE_TARGET_PEER, RTT_ATTRIBUTE_TARGET_CHAN,
    RTT_ATTRIBUTE_TARGET_PERIOD, RTT_ATTRIBUTE_TARGET_NUM_BURST, RTT_ATTRIBUTE_TARGET_NUM_FTM_BURST,
    RTT_ATTRIBUTE_TARGET_NUM_RETRY_FTM, RTT_ATTRIBUTE_TARGET_NUM_RETRY_FTMR, RTT_ATTRIBUTE_TARGET_LCI,
    RTT_ATTRIBUTE_TARGET_LCR, RTT_ATTRIBUTE_TARGET_BURST_DURATION, RTT_ATTRIBUTE_TARGET_PREAMBLE,
    RTT_ATTRIBUTE_TARGET_BW, hu32]

theorem u8Attr_encode_length (attrtype : UInt16) (value : UInt8) : (u8Attr attrtype value).encode.length = 8 := by
  rw [Attr.encode_length, u8Attr, List.length_singleton]
  decide

/-- A target takes its header, its address and its types at least. -/
theorem targetAttr_length (entry : RttConfig × Nat) : 28 ≤ (targetAttr entry).encode.length := by
  have hmac : (⟨RTT_ATTRIBUTE_TARGET_MAC, entry.1.addr.toList⟩ : Attr).encode.length = 12 := by
    rw [Attr.encode_length, Vector.length_toList]
    decide
  have htype := u8Attr_encode_length RTT_ATTRIBUTE_TARGET_TYPE entry.1.type.toUInt8
  have hpeer := u8Attr_encode_length RTT_ATTRIBUTE_TARGET_PEER entry.1.peer.toUInt8
  have halign := le_align4 (targetAttr entry).data.length
  rw [Attr.encode_length]
  simp only [targetAttr, targetAttrs, encodeAll_cons, List.length_append] at halign ⊢
  omega

/-- Each target takes its part of a message. -/
theorem targets_length (entries : List (RttConfig × Nat)) :
    28 * entries.length ≤ (encodeAll (entries.map targetAttr)).length := by
  induction entries with
  | nil => exact Nat.le_refl 0
  | cons entry entries ih =>
    have hentry := targetAttr_length entry
    rw [List.map_cons, encodeAll_cons, List.length_append, List.length_cons]
    omega

theorem keepsSize_putTarget (t : RttConfig) : KeepsSize (putTarget t) := by
  refine keepsSize_bind (keepsSize_nla_put _ _) fun _ => keepsSize_bind (keepsSize_nla_put _ _) fun _ =>
    keepsSize_bind (keepsSize_nla_put _ _) fun _ => keepsSize_bind (keepsSize_nla_put _ _) fun _ =>
    keepsSize_bind (keepsSize_nla_put _ _) fun _ => keepsSize_bind (keepsSize_nla_put _ _) fun _ =>
    keepsSize_bind (keepsSize_nla_put _ _) fun _ => keepsSize_bind (keepsSize_nla_put _ _) fun _ =>
    keepsSize_bind (keepsSize_nla_put _ _) fun _ => keepsSize_bind (keepsSize_nla_put _ _) fun _ =>
    keepsSize_bind (keepsSize_nla_put _ _) fun _ => keepsSize_bind (keepsSize_nla_put _ _) fun _ =>
    keepsSize_bind (keepsSize_nla_put _ _) fun _ => keepsSize_nla_put _ _

theorem keepsSize_createSetupRequest (mIface : Int32) (p : RttParams) :
    KeepsSize (RttCommand.createSetupRequest mIface p) := by
  apply keepsSize_bind (keepsSize_create _ _ _)
  intro _
  apply keepsSize_nested
  apply keepsSize_bind (keepsSize_nla_put _ _)
  intro _
  apply keepsSize_nested
  apply keepsSize_forM
  exact fun entry => keepsSize_nested _ (keepsSize_putTarget entry.1)

/-- A page has no room for more targets than eight bits can count. -/
theorem sent_length_lt {mIface : Int32} {r : Unit} {msg : NlMsg}
    (hcreate : RttCommand.createSetupRequest mIface p nlmsg_alloc = some (r, msg)) : p.sent.length < 256 := by
  by_cases hsent : p.sent = []
  · rw [hsent]
    decide
  · have hsize := keepsSize_createSetupRequest mIface p nlmsg_alloc r msg hcreate
    have hpage : nlmsg_alloc.nm_size = 4096 := rfl
    have hroom := msg.room
    have hbytes := appends_createSetupRequest mIface p nlmsg_alloc r msg hcreate
    have htargets := targets_length p.sent.zipIdx
    rw [List.length_zipIdx] at htargets
    have hinfo : ⟨RTT_ATTRIBUTE_TARGET_INFO, encodeAll (p.sent.zipIdx.map targetAttr)⟩ ∈
        u8Attr RTT_ATTRIBUTE_TARGET_CNT p.numRttParams.toUInt8 :: infoAttrs p := by
      rw [infoAttrs, if_neg hsent]
      exact List.mem_cons_of_mem _ List.mem_cons_self
    have hinner : (encodeAll (p.sent.zipIdx.map targetAttr)).length ≤ _ := Attr.data_length_le hinfo
    have hdata : ⟨NL80211_ATTR_VENDOR_DATA,
        encodeAll (u8Attr RTT_ATTRIBUTE_TARGET_CNT p.numRttParams.toUInt8 :: infoAttrs p)⟩ ∈
        createAttrs mIface GOOGLE_OUI RTT_SUBCMD_SET_CONFIG ++ [⟨NL80211_ATTR_VENDOR_DATA,
          encodeAll (u8Attr RTT_ATTRIBUTE_TARGET_CNT p.numRttParams.toUInt8 :: infoAttrs p)⟩] :=
      List.mem_append_right _ List.mem_cons_self
    have houter : (encodeAll (u8Attr RTT_ATTRIBUTE_TARGET_CNT p.numRttParams.toUInt8 :: infoAttrs p)).length ≤ _ :=
      Attr.data_length_le hdata
    rw [hbytes, List.length_append] at hroom
    omega

/-- The targets are read back behind the count. -/
theorem readTargets_infoAttrs (value : UInt8) (p : RttParams)
    (hsmall : (encodeAll (u8Attr RTT_ATTRIBUTE_TARGET_CNT value :: infoAttrs p)).length < 65536) :
    readTargets (u8Attr RTT_ATTRIBUTE_TARGET_CNT value :: infoAttrs p) =
      some (p.sent.map RttConfig.requested) := by
  have hcnt : ¬ (u8Attr RTT_ATTRIBUTE_TARGET_CNT value).nla_type == RTT_ATTRIBUTE_TARGET_INFO := by
    exact (by decide : ¬ (RTT_ATTRIBUTE_TARGET_CNT == RTT_ATTRIBUTE_TARGET_INFO) = true)
  rw [readTargets, findData, List.find?_cons_of_neg (by exact hcnt)]
  by_cases hsent : p.sent = []
  · rw [infoAttrs, if_pos hsent, hsent]
    rfl
  · have hinfo : ⟨RTT_ATTRIBUTE_TARGET_INFO, encodeAll (p.sent.zipIdx.map targetAttr)⟩ ∈
        u8Attr RTT_ATTRIBUTE_TARGET_CNT value :: infoAttrs p := by
      rw [infoAttrs, if_neg hsent]
      exact List.mem_cons_of_mem _ List.mem_cons_self
    have hinner : (encodeAll (p.sent.zipIdx.map targetAttr)).length < 65536 :=
      Nat.lt_of_le_of_lt (Attr.data_length_le hinfo) hsmall
    rw [infoAttrs, if_neg hsent, List.find?_cons_of_pos (by simp), Option.map_some, Option.map_some,
      Option.getD_some, attrs_encodeAll_of_lt hinner]
    exact mapM_zipIdx_nests (fun _ => rfl) (fun t _ => readTarget_targetAttrs t) hinner

end

/-- When a request succeeds in a page, its message has what was given. A teardown
counts it just if there are less addresses than eight bits can count; of targets
there is never room for more. -/
theorem RttCommand.requests_count_iff (mIface : Int32) :
    (∀ (d : RttDevices) (r : Unit) (msg : NlMsg),
      RttCommand.createTeardownRequest mIface d nlmsg_alloc = some (r, msg) →
        (CountsAddrs d msg.bytes ↔ d.num_devices.toNat < 256)) ∧
      ∀ (p : RttParams) (r : Unit) (msg : NlMsg),
        RttCommand.createSetupRequest mIface p nlmsg_alloc = some (r, msg) → CountsTargets p msg.bytes := by
  constructor
  · intro d r msg hcreate
    have hlength : d.sent.length = d.num_devices.toNat := by
      have hfit := d.addr_fit
      rw [RttDevices.sent, List.length_take]
      omega
    rw [createTeardownRequest_eq] at hcreate
    obtain ⟨_, hdata, _⟩ := vendorData_of_appends (appends_createTeardownRequest mIface d)
      (createAttrs_nla_type (by decide) (by decide) (by decide)) rfl hcreate
    have haddrs := readAddrs_macAttrs d.num_devices.toUInt8 d.sent
    rw [← count_eq_iff]
    constructor
    · rintro ⟨as, has, _, hcount⟩
      obtain rfl := Option.some.inj (hdata.symm.trans has)
      rw [findU8_cons, haddrs, List.length_map, hlength] at hcount
      exact Option.some.inj hcount
    · intro hcount
      refine ⟨_, hdata, haddrs, ?_⟩
      rw [findU8_cons, haddrs, List.length_map, hlength, Option.map_some, hcount]
  · intro p r msg hcreate
    have hlength : p.sent.length = p.numRttParams.toNat := by
      have hfit := p.rttParams_fit
      rw [RttParams.sent, List.length_take]
      omega
    obtain ⟨_, hdata, hsmall⟩ := vendorData_of_appends (appends_createSetupRequest mIface p)
      (createAttrs_nla_type (by decide) (by decide) (by decide)) rfl hcreate
    refine ⟨_, hdata, readTargets_infoAttrs _ p hsmall, ?_⟩
    have hlt := sent_length_lt hcreate
    rw [hlength] at hlt
    rw [findU8_cons, Option.map_some, (count_eq_iff _).mpr hlt, hlength]

/-- One device. -/
def oneDevice : RttDevices := ⟨1, [#v[2, 0, 0, 0, 0, 1]], by decide⟩

/-- A target on a channel of the framework. -/
def sampleTarget : RttConfig where
  addr := #v[2, 0, 0, 0, 0, 1]
  type := 2
  peer := 1
  channel := [0, 0, 0, 0, 108, 9, 0, 0, 0, 0, 0, 0, 0, 0, 0, 0]
  burst_period := 0
  num_burst := 0
  num_frames_per_burst := 8
  num_retries_per_rtt_frame := 0
  num_retries_per_ftmr := 3
  LCI_request := 0
  LCR_request := 0
  burst_duration := 15
  preamble := 2
  bw := 4

def oneTarget : RttParams := ⟨1, [sampleTarget], by decide⟩

/-- A page has room for 256 addresses, which are counted as none. -/
def manyDevices : RttDevices where
  num_devices := 256
  addr := List.replicate 256 #v[2, 0, 0, 0, 0, 1]
  addr_fit := by
    rw [List.length_replicate]
    decide

theorem RttCommand.requests_count_one :
    (∃ msg, RttCommand.createTeardownRequest 3 oneDevice nlmsg_alloc = some ((), msg) ∧
        CountsAddrs oneDevice msg.bytes) ∧
      ∃ msg, RttCommand.createSetupRequest 3 oneTarget nlmsg_alloc = some ((), msg) ∧
        CountsTargets oneTarget msg.bytes := by
  constructor
  · have hsome : (RttCommand.createTeardownRequest 3 oneDevice nlmsg_alloc).isSome = true := by decide +kernel
    obtain ⟨⟨r, msg⟩, hcreate⟩ := Option.isSome_iff_exists.mp hsome
    exact ⟨msg, hcreate, ((RttCommand.requests_count_iff 3).1 oneDevice r msg hcreate).mpr (by decide)⟩
  · have hsome : (RttCommand.createSetupRequest 3 oneTarget nlmsg_alloc).isSome = true := by decide +kernel
    obtain ⟨⟨r, msg⟩, hcreate⟩ := Option.isSome_iff_exists.mp hsome
    exact ⟨msg, hcreate, (RttCommand.requests_count_iff 3).2 oneTarget r msg hcreate⟩

theorem RttCommand.createTeardownRequest_miscounts :
    ∃ msg, RttCommand.createTeardownRequest 3 manyDevices nlmsg_alloc = some ((), msg) ∧
      ¬ CountsAddrs manyDevices msg.bytes := by
  have hsome : (RttCommand.createTeardownRequest 3 manyDevices nlmsg_alloc).isSome = true := by decide +kernel
  obtain ⟨⟨r, msg⟩, hcreate⟩ := Option.isSome_iff_exists.mp hsome
  refine ⟨msg, hcreate, ?_⟩
  rintro ⟨as, has, _, hcount⟩
  rw [createTeardownRequest_eq] at hcreate
  obtain ⟨_, hdata, _⟩ := vendorData_of_appends (appends_createTeardownRequest 3 manyDevices)
    (createAttrs_nla_type (by decide) (by decide) (by decide)) rfl hcreate
  obtain rfl := Option.some.inj (hdata.symm.trans has)
  rw [findU8_cons, readAddrs_macAttrs] at hcount
  revert hcount
  decide +kernel

end panelli.rtt
