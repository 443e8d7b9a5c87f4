import Panelli.WifiHal.ApLists

open panelli.bytes panelli.netlink
open panelli.rtt (findU8 u8Attr u8Attr_encode_length)

namespace panelli.wifi_hal

def GSCAN_SUBCMD_SET_EPNO_SSID : UInt32 := 0x100F

def GSCAN_ATTRIBUTE_EPNO_SSID_LIST : UInt16 := 70
def GSCAN_ATTRIBUTE_EPNO_SSID : UInt16 := 71
def GSCAN_ATTRIBUTE_EPNO_SSID_LEN : UInt16 := 72
def GSCAN_ATTRIBUTE_EPNO_FLAGS : UInt16 := 74
def GSCAN_ATTRIBUTE_EPNO_AUTH : UInt16 := 75
def GSCAN_ATTRIBUTE_EPNO_SSID_NUM : UInt16 := 76
def GSCAN_ATTRIBUTE_EPNO_FLUSH : UInt16 := 77
def GSCAN_ATTRIBUTE_EPNO_5G_RSSI_THR : UInt16 := 130
def GSCAN_ATTRIBUTE_EPNO_2G_RSSI_THR : UInt16 := 131
def GSCAN_ATTRIBUTE_EPNO_INIT_SCORE_MAX : UInt16 := 132
def GSCAN_ATTRIBUTE_EPNO_CUR_CONN_BONUS : UInt16 := 133
def GSCAN_ATTRIBUTE_EPNO_SAME_NETWORK_BONUS : UInt16 := 134
def GSCAN_ATTRIBUTE_EPNO_SECURE_BONUS : UInt16 := 135
def GSCAN_ATTRIBUTE_EPNO_5G_BONUS : UInt16 := 136

/-- A preferred network. The array of its name is long enough to be put, and its
length is a number of 32 bits. -/
structure WifiEpnoNetwork where
  ssid : List UInt8
  flags : UInt32
  auth_bit_field : UInt32
  ssid_long : DOT11_MAX_SSID_LEN ≤ ssid.length
  ssid_small : ssid.length < 4294967296

/-- The parameters of a network offload. The array holds as many networks as are counted. -/
structure WifiEpnoParams where
  min5GHz_rssi : Int32
  min24GHz_rssi : Int32
  initial_score_max : Int32
  current_connection_bonus : Int32
  same_network_bonus : Int32
  secure_bonus : Int32
  band5GHz_bonus : Int32
  num_networks : Int32
  networks : List WifiEpnoNetwork
  networks_fit : num_networks.toInt ≤ networks.length

/-- The text of a name, whose length is what `strlen` returns. -/
def WifiEpnoNetwork.text (network : WifiEpnoNetwork) : List UInt8 := network.ssid.takeWhile (· ≠ 0)

/-- The networks that the loop goes over. -/
def WifiEpnoParams.sent (p : WifiEpnoParams) : List WifiEpnoNetwork := p.networks.take p.num_networks.toInt.toNat

/-- An `int` that is put as a byte. -/
def cut8 (n : Int32) : UInt8 := n.toUInt32.toUInt8

/-- The body of the loop over the networks. -/
def putEpnoNetwork (network : WifiEpnoNetwork) : Assembly Unit := do
  nla_put GSCAN_ATTRIBUTE_EPNO_SSID (network.ssid.take DOT11_MAX_SSID_LEN)
  put_u32 GSCAN_ATTRIBUTE_EPNO_SSID_LEN (UInt32.ofNat network.text.length)
  put_u32 GSCAN_ATTRIBUTE_EPNO_FLAGS network.flags
  put_u32 GSCAN_ATTRIBUTE_EPNO_AUTH network.auth_bit_field

/-- `ePNOCommand::createSetupRequest`. Each network is typed by its index. -/
def ePNOCommand.createSetupRequest (mIface : Int32) (epno_params : WifiEpnoParams) : Assembly Unit := do
  WifiRequest.create mIface GOOGLE_OUI GSCAN_SUBCMD_SET_EPNO_SSID
  nested NL80211_ATTR_VENDOR_DATA do
    put_u8 GSCAN_ATTRIBUTE_EPNO_FLUSH 1
    put_u8 GSCAN_ATTRIBUTE_EPNO_5G_RSSI_THR (cut8 epno_params.min5GHz_rssi)
    put_u8 GSCAN_ATTRIBUTE_EPNO_2G_RSSI_THR (cut8 epno_params.min24GHz_rssi)
    put_u16 GSCAN_ATTRIBUTE_EPNO_INIT_SCORE_MAX (cut16 epno_params.initial_score_max)
    put_u16 GSCAN_ATTRIBUTE_EPNO_CUR_CONN_BONUS (cut16 epno_params.current_connection_bonus)
    put_u16 GSCAN_ATTRIBUTE_EPNO_SAME_NETWORK_BONUS (cut16 epno_params.same_network_bonus)
    put_u16 GSCAN_ATTRIBUTE_EPNO_SECURE_BONUS (cut16 epno_params.secure_bonus)
    put_u16 GSCAN_ATTRIBUTE_EPNO_5G_BONUS (cut16 epno_params.band5GHz_bonus)
    put_u8 GSCAN_ATTRIBUTE_EPNO_SSID_NUM (cut8 epno_params.num_networks)
    nested GSCAN_ATTRIBUTE_EPNO_SSID_LIST
      (epno_params.sent.zipIdx.forM fun entry => nested (UInt16.ofNat entry.2) (putEpnoNetwork entry.1))

/-- A network as it is read back from its nest: as much of the name as its length says. -/
structure EpnoElement where
  ssid : List UInt8
  flags : UInt32
  auth_bit_field : UInt32
deriving DecidableEq

/-- The numbers in front of the networks. -/
structure EpnoNumbers where
  min5GHz_rssi : UInt8
  min24GHz_rssi : UInt8
  initial_score_max : UInt16
  current_connection_bonus : UInt16
  same_network_bonus : UInt16
  secure_bonus : UInt16
  band5GHz_bonus : UInt16
  num_networks : UInt8
deriving DecidableEq

def readEpnoNetwork (as : List Attr) : Option EpnoElement := do
  let len ← findU32 GSCAN_ATTRIBUTE_EPNO_SSID_LEN as
  return {
    ssid := (← findData GSCAN_ATTRIBUTE_EPNO_SSID as).take len.toNat
    flags := ← findU32 GSCAN_ATTRIBUTE_EPNO_FLAGS as
    auth_bit_field := ← findU32 GSCAN_ATTRIBUTE_EPNO_AUTH as }

def readEpnoNumbers (as : List Attr) : Option EpnoNumbers := do
  return {
    min5GHz_rssi := ← findU8 GSCAN_ATTRIBUTE_EPNO_5G_RSSI_THR as
    min24GHz_rssi := ← findU8 GSCAN_ATTRIBUTE_EPNO_2G_RSSI_THR as
    initial_score_max := ← findU16 GSCAN_ATTRIBUTE_EPNO_INIT_SCORE_MAX as
    current_connection_bonus := ← findU16 GSCAN_ATTRIBUTE_EPNO_CUR_CONN_BONUS as
    same_network_bonus := ← findU16 GSCAN_ATTRIBUTE_EPNO_SAME_NETWORK_BONUS as
    secure_bonus := ← findU16 GSCAN_ATTRIBUTE_EPNO_SECURE_BONUS as
    band5GHz_bonus := ← findU16 GSCAN_ATTRIBUTE_EPNO_5G_BONUS as
    num_networks := ← findU8 GSCAN_ATTRIBUTE_EPNO_SSID_NUM as }

/-- What is asked for of a network. -/
def WifiEpnoNetwork.requested (network : WifiEpnoNetwork) : EpnoElement where
  ssid := network.text.take DOT11_MAX_SSID_LEN
  flags := network.flags
  auth_bit_field := network.auth_bit_field

def WifiEpnoParams.numbers (p : WifiEpnoParams) : EpnoNumbers where
  min5GHz_rssi := cut8 p.min5GHz_rssi
  min24GHz_rssi := cut8 p.min24GHz_rssi
  initial_score_max := cut16 p.initial_score_max
  current_connection_bonus := cut16 p.current_connection_bonus
  same_network_bonus := cut16 p.same_network_bonus
  secure_bonus := cut16 p.secure_bonus
  band5GHz_bonus := cut16 p.band5GHz_bonus
  num_networks := cut8 p.num_networks

/-- A message asks for the networks that were given, after a flush. -/
def DeterminesEpno (p : WifiEpnoParams) (bytes : List UInt8) : Prop :=
  ∃ as, vendorData bytes = some as ∧ findU8 GSCAN_ATTRIBUTE_EPNO_FLUSH as = some 1 ∧
    readEpnoNumbers as = some p.numbers ∧
    (readNest GSCAN_ATTRIBUTE_EPNO_SSID_LIST as).mapM (fun elem => readEpnoNetwork (attrs elem.data)) =
      some (p.sent.map WifiEpnoNetwork.requested)

def epnoNetworkAttrs (network : WifiEpnoNetwork) : List Attr :=
  [⟨GSCAN_ATTRIBUTE_EPNO_SSID, network.ssid.take DOT11_MAX_SSID_LEN⟩,
    u32Attr GSCAN_ATTRIBUTE_EPNO_SSID_LEN (UInt32.ofNat network.text.length),
    u32Attr GSCAN_ATTRIBUTE_EPNO_FLAGS network.flags,
    u32Attr GSCAN_ATTRIBUTE_EPNO_AUTH network.auth_bit_field]

def epnoAttr (entry : WifiEpnoNetwork × Nat) : Attr :=
  ⟨UInt16.ofNat entry.2, encodeAll (epnoNetworkAttrs entry.1)⟩

def epnoNumberAttrs (p : WifiEpnoParams) : List Attr :=
  [u8Attr GSCAN_ATTRIBUTE_EPNO_FLUSH 1,
    u8Attr GSCAN_ATTRIBUTE_EPNO_5G_RSSI_THR (cut8 p.min5GHz_rssi),
    u8Attr GSCAN_ATTRIBUTE_EPNO_2G_RSSI_THR (cut8 p.min24GHz_rssi),
    u16Attr GSCAN_ATTRIBUTE_EPNO_INIT_SCORE_MAX (cut16 p.initial_score_max),
    u16Attr GSCAN_ATTRIBUTE_EPNO_CUR_CONN_BONUS (cut16 p.current_connection_bonus),
    u16Attr GSCAN_ATTRIBUTE_EPNO_SAME_NETWORK_BONUS (cut16 p.same_network_bonus),
    u16Attr GSCAN_ATTRIBUTE_EPNO_SECURE_BONUS (cut16 p.secure_bonus),
    u16Attr GSCAN_ATTRIBUTE_EPNO_5G_BONUS (cut16 p.band5GHz_bonus),
    u8Attr GSCAN_ATTRIBUTE_EPNO_SSID_NUM (cut8 p.num_networks)]

section

variable {p : WifiEpnoParams}

theorem ssid_encode_length (network : WifiEpnoNetwork) :
    (Attr.encode ⟨GSCAN_ATTRIBUTE_EPNO_SSID, network.ssid.take DOT11_MAX_SSID_LEN⟩).length = 36 := by
  rw [Attr.encode_length, List.length_take, Nat.min_eq_left network.ssid_long]
  decide

theorem epnoAttr_length (entry : WifiEpnoNetwork × Nat) : (epnoAttr entry).encode.length = 64 := by
  rw [epnoAttr, nest_encode_length]
  simp only [epnoNetworkAttrs, encodeAll_cons, encodeAll_nil, List.length_append, List.length_nil,
    ssid_encode_length, u32Attr_encode_length, NLA_HDRLEN]

theorem puts_epnoNetworks (networks : List WifiEpnoNetwork) :
    Puts (networks.zipIdx.forM fun entry => nested (UInt16.ofNat entry.2) (putEpnoNetwork entry.1))
      (64 * networks.length) (networks.zipIdx.map epnoAttr) := by
  have hnetwork (entry : WifiEpnoNetwork × Nat) : Puts (nested (UInt16.ofNat entry.2) (putEpnoNetwork entry.1))
      (epnoAttr entry).encode.length [epnoAttr entry] := by
    apply puts_nest
    · apply (puts_cons (puts_attr _ _) fun _ => puts_cons (puts_put_u32 _ _) fun _ =>
        puts_cons (puts_put_u32 _ _) fun _ => puts_put_u32 _ _).of_room_eq
      simp only [epnoNetworkAttrs, encodeAll_cons, encodeAll_nil, List.length_append, List.length_nil, Nat.add_zero]
    · exact List.cons_ne_nil _ _
  apply (puts_forM hnetwork).of_room_eq
  rw [encodeAll_map_length fun entry _ => epnoAttr_length entry, List.length_zipIdx]

/-- The data of the request. -/
theorem puts_epno (p : WifiEpnoParams) :
    Puts (do
        put_u8 GSCAN_ATTRIBUTE_EPNO_FLUSH 1
        put_u8 GSCAN_ATTRIBUTE_EPNO_5G_RSSI_THR (cut8 p.min5GHz_rssi)
        put_u8 GSCAN_ATTRIBUTE_EPNO_2G_RSSI_THR (cut8 p.min24GHz_rssi)
        put_u16 GSCAN_ATTRIBUTE_EPNO_INIT_SCORE_MAX (cut16 p.initial_score_max)
        put_u16 GSCAN_ATTRIBUTE_EPNO_CUR_CONN_BONUS (cut16 p.current_connection_bonus)
        put_u16 GSCAN_ATTRIBUTE_EPNO_SAME_NETWORK_BONUS (cut16 p.same_network_bonus)
        put_u16 GSCAN_ATTRIBUTE_EPNO_SECURE_BONUS (cut16 p.secure_bonus)
        put_u16 GSCAN_ATTRIBUTE_EPNO_5G_BONUS (cut16 p.band5GHz_bonus)
        put_u8 GSCAN_ATTRIBUTE_EPNO_SSID_NUM (cut8 p.num_networks)
        nested GSCAN_ATTRIBUTE_EPNO_SSID_LIST
          (p.sent.zipIdx.forM fun entry => nested (UInt16.ofNat entry.2) (putEpnoNetwork entry.1)))
      (76 + 64 * p.sent.length)
      (epnoNumberAttrs p ++ nestAttrs GSCAN_ATTRIBUTE_EPNO_SSID_LIST (p.sent.zipIdx.map epnoAttr)) := by
  have hlist := puts_nested GSCAN_ATTRIBUTE_EPNO_SSID_LIST (puts_epnoNetworks p.sent)
  apply (puts_cons (puts_put_u8 _ _) fun _ => puts_cons (puts_put_u8 _ _) fun _ =>
    puts_cons (puts_put_u8 _ _) fun _ => puts_cons (puts_put_u16 _ _) fun _ =>
    puts_cons (puts_put_u16 _ _) fun _ => puts_cons (puts_put_u16 _ _) fun _ =>
    puts_cons (puts_put_u16 _ _) fun _ => puts_cons (puts_put_u16 _ _) fun _ =>
    puts_cons (puts_put_u8 _ _) fun _ => hlist).of_room_eq
  simp only [u8Attr_encode_length, u16Attr_encode_length, NLA_HDRLEN]
  omega

theorem epnoNumberAttrs_nla_type (p : WifiEpnoParams) :
    ∀ a ∈ epnoNumberAttrs p, a.nla_type ≠ GSCAN_ATTRIBUTE_EPNO_SSID_LIST := by
  have htypes : ∀ attrtype ∈ (epnoNumberAttrs p).map Attr.nla_type, attrtype ≠ GSCAN_ATTRIBUTE_EPNO_SSID_LIST := by
    have hlist : (epnoNumberAttrs p).map Attr.nla_type = [77, 130, 131, 132, 133, 134, 135, 136, 76] := rfl
    simp [hlist, GSCAN_ATTRIBUTE_EPNO_SSID_LIST]
  intro a ha
  exact htypes a.nla_type (List.mem_map_of_mem ha)

/-- The numbers are found in front of the networks. -/
theorem readEpnoNumbers_append (p : WifiEpnoParams) (rest : List Attr) :
    findU8 GSCAN_ATTRIBUTE_EPNO_FLUSH (epnoNumberAttrs p ++ rest) = some 1 ∧
      readEpnoNumbers (epnoNumberAttrs p ++ rest) = some p.numbers := by
  constructor
  · simp [epnoNumberAttrs, findU8, u8Attr, GSCAN_ATTRIBUTE_EPNO_FLUSH]
  · simp [readEpnoNumbers, epnoNumberAttrs, findU8, findU16, u8Attr, u16Attr, WifiEpnoParams.numbers,
      GSCAN_ATTRIBUTE_EPNO_FLUSH, GSCAN_ATTRIBUTE_EPNO_5G_RSSI_THR, GSCAN_ATTRIBUTE_EPNO_2G_RSSI_THR,
      GSCAN_ATTRIBUTE_EPNO_INIT_SCORE_MAX, GSCAN_ATTRIBUTE_EPNO_CUR_CONN_BONUS,
      GSCAN_ATTRIBUTE_EPNO_SAME_NETWORK_BONUS, GSCAN_ATTRIBUTE_EPNO_SECURE_BONUS, GSCAN_ATTRIBUTE_EPNO_5G_BONUS,
      GSCAN_ATTRIBUTE_EPNO_SSID_NUM]

/-- Of a name, as much is read back as is both put and counted. -/
theorem take_ssid (network : WifiEpnoNetwork) :
    (network.ssid.take DOT11_MAX_SSID_LEN).take (UInt32.ofNat network.text.length).toNat =
      network.text.take DOT11_MAX_SSID_LEN := by
  have hprefix : network.text <+: network.ssid := List.takeWhile_prefix _
  have hle := hprefix.length_le
  have hsmall := network.ssid_small
  have hlength : (UInt32.ofNat network.text.length).toNat = network.text.length := by
    rw [UInt32.toNat_ofNat']
    exact Nat.mod_eq_of_lt (by omega)
  rw [hlength, List.take_take, Nat.min_comm, ← List.take_take, ← List.prefix_iff_eq_take.mp hprefix]

theorem readEpnoNetwork_attrs (network : WifiEpnoNetwork) :
    readEpnoNetwork (epnoNetworkAttrs network) = some network.requested := by
  have hu32 : ∀ (attrtype : UInt16) (v : UInt32), Attr.nla_get_u32 ⟨attrtype, le32 v.toNat⟩ = v :=
    fun attrtype v => nla_get_u32_le32 attrtype v
  rw [WifiEpnoNetwork.requested, ← take_ssid, epnoNetworkAttrs]
  generalize UInt32.ofNat network.text.length = len
  simp [readEpnoNetwork, findData, findU32, u32Attr, GSCAN_ATTRIBUTE_EPNO_SSID,
    GSCAN_ATTRIBUTE_EPNO_SSID_LEN, GSCAN_ATTRIBUTE_EPNO_FLAGS, GSCAN_ATTRIBUTE_EPNO_AUTH, hu32]

/-- The networks are read back behind the numbers. -/
theorem readEpnoNetworks (p : WifiEpnoParams) (hsmall : (encodeAll (epnoNumberAttrs p ++
      nestAttrs GSCAN_ATTRIBUTE_EPNO_SSID_LIST (p.sent.zipIdx.map epnoAttr))).length < 65536) :
    (readNest GSCAN_ATTRIBUTE_EPNO_SSID_LIST (epnoNumberAttrs p ++
        nestAttrs GSCAN_ATTRIBUTE_EPNO_SSID_LIST (p.sent.zipIdx.map epnoAttr))).mapM
          (fun elem => readEpnoNetwork (attrs elem.data)) = some (p.sent.map WifiEpnoNetwork.requested) := by
  have hnest := le_nestAttrs_length GSCAN_ATTRIBUTE_EPNO_SSID_LIST (p.sent.zipIdx.map epnoAttr)
  rw [encodeAll_append, List.length_append] at hsmall
  have hlist : (encodeAll (p.sent.zipIdx.map epnoAttr)).length < 65536 := by omega
  rw [readNest_append (epnoNumberAttrs_nla_type p) hlist]
  exact mapM_zipIdx_nests (fun _ => rfl) (fun network _ => readEpnoNetwork_attrs network) hlist

end

/-- A hidden network with the name "home". -/
def sampleNetwork : WifiEpnoNetwork where
  ssid := [104, 111, 109, 101] ++ List.replicate 29 0
  flags := 1
  auth_bit_field := 2
  ssid_long := by decide
  ssid_small := by decide

def sampleEpno : WifiEpnoParams := ⟨-80, -85, 110, 32, 12, 40, 40, 1, [sampleNetwork], by decide⟩

end panelli.wifi_hal
