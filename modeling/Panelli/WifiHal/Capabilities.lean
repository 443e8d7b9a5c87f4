import Panelli.Access
import Panelli.Netlink.Message
import Panelli.WifiHal.Registry

open panelli.netlink panelli.access

namespace panelli.wifi_hal

def GSCAN_ATTRIBUTE_CAPABILITIES : UInt16 := 1
def RTT_ATTRIBUTE_CAPABILITIES : UInt16 := 1

/-- A parsed message: its command and its vendor data. -/
structure VendorReply where
  cmd : Int
  vendor_data : Option (List UInt8)

/-- Where the framework's header has the counts of a device without gscan at zero. -/
structure GscanCapabilitiesLayout where
  size : Nat
  max_scan_cache_size : Range
  max_scan_buckets : Range
  max_ap_cache_per_scan : Range

/-- What the caller's structure holds in the end, and what the handler returns. -/
structure CapabilitiesRead where
  mCapabilities : List UInt8
  action : NlAction

section

variable (sizes size : Nat)

/-- What is behind the header of a nested attribute of the type is copied. -/
def copyNested (attrtype nla_type : UInt16) (mCapabilities : List UInt8) (mem : Place) (len : Int) :
    Access (List UInt8) :=
  if nla_type = attrtype then do
    let payload ← readBytes mem NLA_HDRLEN (size_t sizes (min (len - NLA_HDRLEN) size))
    writeAll [⟨0, size_t sizes (min (len - NLA_HDRLEN) size)⟩]
    return overwrite mCapabilities payload
  else return mCapabilities

/-- The part that the handlers share. They look at the type of a nested attribute
before anything else: without vendor data they follow a null pointer, which is `none`. -/
def copyCapabilities (attrtype : UInt16) (mCapabilities : List UInt8) (vendor_data : Option (List UInt8))
    (beyond : List UInt8) : Access (Option (List UInt8)) :=
  match vendor_data with
  | none => return none
  | some vendor_data => do
    let nla_type ← readNumber (vendor_data ++ beyond) 2 2
    let copied ← copyNested sizes size attrtype (UInt16.ofNat nla_type) mCapabilities (vendor_data ++ beyond)
      vendor_data.length
    return some copied

/-- The constructors of the commands clear the caller's structure. -/
def clearedCapabilities : List UInt8 := List.replicate size 0

end

def GetCapabilitiesCommand.handleResponse (sizes : Nat) (L : GscanCapabilitiesLayout) (reply : VendorReply)
    (beyond : List UInt8) : Access (Option CapabilitiesRead) :=
  if reply.cmd ≠ NL80211_CMD_VENDOR then return some ⟨clearedCapabilities L.size, .NL_SKIP⟩
  else do
    let copied ← copyCapabilities sizes L.size GSCAN_ATTRIBUTE_CAPABILITIES (clearedCapabilities L.size)
      reply.vendor_data beyond
    return copied.map fun mCapabilities =>
      let count := fun r : Range => Place.number mCapabilities r.offset r.size
      if count L.max_scan_cache_size = 0 ∧ count L.max_scan_buckets = 0 ∧ count L.max_ap_cache_per_scan = 0 then
        ⟨mCapabilities, .NL_STOP⟩
      else ⟨mCapabilities, .NL_OK⟩

def GetRttCapabilitiesCommand.handleResponse (sizes size : Nat) (reply : VendorReply) (beyond : List UInt8) :
    Access (Option CapabilitiesRead) :=
  if reply.cmd ≠ NL80211_CMD_VENDOR then return some ⟨clearedCapabilities size, .NL_SKIP⟩
  else do
    let copied ← copyCapabilities sizes size RTT_ATTRIBUTE_CAPABILITIES (clearedCapabilities size)
      reply.vendor_data beyond
    return copied.map fun mCapabilities => ⟨mCapabilities, .NL_OK⟩

/-- What a reply has behind the header of a nested attribute of a type. A message of
another command is no reply to the request. -/
def nestedPayload (attrtype : UInt16) (reply : VendorReply) : Option (List UInt8) :=
  reply.vendor_data.bind fun payload =>
    if reply.cmd = NL80211_CMD_VENDOR ∧ NLA_HDRLEN ≤ payload.length ∧ Place.nla_type payload = attrtype then
      some (payload.drop NLA_HDRLEN)
    else none

/-- The first bytes of a nested attribute, then zeros. -/
def announcedCapabilities (attrtype : UInt16) (size : Nat) (reply : VendorReply) : List UInt8 :=
  overwrite (clearedCapabilities size) (((nestedPayload attrtype reply).getD []).take size)

/-- A handler gets through, leaves what the reply announces, and reads and writes
inside of the payload and of the caller's structure. -/
structure CapabilitiesSafe (attrtype : UInt16) (size : Nat) (reply : VendorReply)
    (handled : Option CapabilitiesRead × Accesses) : Prop where
  capabilities : handled.1.map CapabilitiesRead.mCapabilities = some (announcedCapabilities attrtype size reply)
  reads : ∀ payload ∈ reply.vendor_data, ∀ r ∈ handled.2.reads, r.Within payload.length
  writes : ∀ r ∈ handled.2.writes, r.Within size

/-- The vendor data of a vendor reply has room for the header of an attribute. -/
def HeaderPresent (reply : VendorReply) : Prop :=
  reply.cmd = NL80211_CMD_VENDOR → ∃ payload ∈ reply.vendor_data, NLA_HDRLEN ≤ payload.length

section

variable {sizes size : Nat} {attrtype : UInt16} {payload beyond : List UInt8} {reply : VendorReply}

theorem announcedCapabilities_of_ignored (hcmd : reply.cmd ≠ NL80211_CMD_VENDOR) :
    announcedCapabilities attrtype size reply = clearedCapabilities size := by
  have hnone : nestedPayload attrtype reply = none := by
    rw [nestedPayload]
    cases reply.vendor_data with
    | none => rfl
    | some payload => exact if_neg fun h => hcmd h.1
  rw [announcedCapabilities, hnone, Option.getD_none, List.take_nil]
  rfl

theorem copyNested_of_ne {nla_type : UInt16} (hother : nla_type ≠ attrtype) (mCapabilities : List UInt8)
    (mem : Place) (len : Int) (s : Accesses) :
    copyNested sizes size attrtype nla_type mCapabilities mem len s = (mCapabilities, s) := by
  rw [copyNested, if_neg hother, pure_apply]

theorem copyNested_of_eq (mCapabilities : List UInt8) (mem : Place) (len : Int) (s : Accesses) :
    copyNested sizes size attrtype attrtype mCapabilities mem len s =
      (overwrite mCapabilities ((mem.drop NLA_HDRLEN).take (size_t sizes (min (len - NLA_HDRLEN) size))),
        { s with
          reads := s.reads ++ [⟨NLA_HDRLEN, size_t sizes (min (len - NLA_HDRLEN) size)⟩]
          writes := s.writes ++ [⟨0, size_t sizes (min (len - NLA_HDRLEN) size)⟩] }) := by
  rw [copyNested, if_pos rfl, bind_apply, readBytes_apply]
  rfl

/-- A payload with room for a header is read inside, and what is behind a header of
the type is copied. -/
theorem copyCapabilities_of_header (sizes size : Nat) (attrtype : UInt16) (beyond : List UInt8)
    (hheader : NLA_HDRLEN ≤ payload.length) :
    ∃ rs ws, copyCapabilities sizes size attrtype (clearedCapabilities size) (some payload) beyond {} =
        (some (announcedCapabilities attrtype size ⟨NL80211_CMD_VENDOR, some payload⟩),
          { reads := rs, writes := ws }) ∧
      (∀ r ∈ rs, r.Within payload.length) ∧ ∀ r ∈ ws, r.Within size := by
  have hheader' : 4 ≤ payload.length := hheader
  have hread : (⟨2, 2⟩ : Range).Within payload.length := Or.inr hheader'
  simp only [copyCapabilities, bind_apply, readNumber_apply, nla_type_append hheader, List.nil_append, pure_apply]
  by_cases hnested : Place.nla_type payload = attrtype
  · have hlen : size_t sizes (min ((payload.length : Int) - NLA_HDRLEN) size) =
        min (payload.length - NLA_HDRLEN) size := by
      rw [size_t, if_pos (by omega)]
      omega
    have hcopied : ((payload ++ beyond).drop NLA_HDRLEN).take (min (payload.length - NLA_HDRLEN) size) =
        (payload.drop NLA_HDRLEN).take size := by
      have hlength := List.length_drop (i := NLA_HDRLEN) (l := payload)
      rw [List.drop_append_of_le_length hheader, List.take_append_of_le_length (by omega), ← hlength,
        Nat.min_comm, ← List.take_take, List.take_length]
    have hsome : nestedPayload attrtype ⟨NL80211_CMD_VENDOR, some payload⟩ = some (payload.drop NLA_HDRLEN) :=
      if_pos ⟨rfl, hheader, hnested⟩
    rw [hnested, copyNested_of_eq, hlen, hcopied, announcedCapabilities, hsome, Option.getD_some]
    refine ⟨_, _, rfl, ?_, ?_⟩
    · rw [List.singleton_append, List.forall_mem_cons, List.forall_mem_singleton]
      refine ⟨hread, Or.inr ?_⟩
      dsimp only
      omega
    · rw [List.nil_append, List.forall_mem_singleton]
      apply Or.inr
      dsimp only
      omega
  · have hnone : nestedPayload attrtype ⟨NL80211_CMD_VENDOR, some payload⟩ = none :=
      if_neg fun h => hnested h.2.2
    rw [copyNested_of_ne hnested, announcedCapabilities, hnone, Option.getD_none, List.take_nil]
    refine ⟨_, _, rfl, ?_, by simp⟩
    rw [List.forall_mem_singleton]
    exact hread

/-- The type in the header is read whatever the length of the payload is. -/
theorem copyCapabilities_reads_type (sizes size : Nat) (attrtype : UInt16)
    (mCapabilities payload beyond : List UInt8) :
    ⟨2, 2⟩ ∈ (copyCapabilities sizes size attrtype mCapabilities (some payload) beyond {}).2.reads := by
  simp only [copyCapabilities, bind_apply, readNumber_apply, List.nil_append, pure_apply]
  by_cases hnested : UInt16.ofNat (Place.number (payload ++ beyond) 2 2) = attrtype
  · rw [hnested, copyNested_of_eq]
    exact List.mem_cons_self
  · rw [copyNested_of_ne hnested]
    exact List.mem_cons_self

/-- A handler that copies the capabilities, then only looks at them, is safe just if
there is a header to look at. -/
theorem capabilitiesSafe_iff (sizes : Nat) (finish : List UInt8 → CapabilitiesRead)
    (hfinish : ∀ copied, (finish copied).mCapabilities = copied) (reply : VendorReply) (beyond : List UInt8) :
    CapabilitiesSafe attrtype size reply
        ((if reply.cmd ≠ NL80211_CMD_VENDOR then return some ⟨clearedCapabilities size, .NL_SKIP⟩
          else do
            let copied ← copyCapabilities sizes size attrtype (clearedCapabilities size) reply.vendor_data beyond
            return copied.map finish : Access (Option CapabilitiesRead)) {}) ↔
      HeaderPresent reply := by
  by_cases hcmd : reply.cmd = NL80211_CMD_VENDOR
  · rw [if_neg (not_not.mpr hcmd)]
    obtain ⟨cmd, vendor_data⟩ := reply
    obtain rfl : cmd = NL80211_CMD_VENDOR := hcmd
    cases vendor_data with
    | none =>
      constructor
      · intro hsafe
        cases hsafe.capabilities
      · intro hpresent
        obtain ⟨payload, hpayload, _⟩ := hpresent rfl
        cases hpayload
    | some payload =>
      constructor
      · intro hsafe _
        refine ⟨payload, rfl, ?_⟩
        have hread := hsafe.reads payload rfl ⟨2, 2⟩
          (copyCapabilities_reads_type sizes size attrtype _ payload beyond)
        exact hread.le (by decide)
      · intro hpresent
        obtain ⟨_, hpayload, hheader⟩ := hpresent rfl
        obtain rfl := Option.some.inj hpayload
        obtain ⟨rs, ws, hcopy, hreads, hwrites⟩ := copyCapabilities_of_header sizes size attrtype
          beyond hheader
        simp only [bind_apply, hcopy, pure_apply, Option.map_some]
        refine ⟨?_, ?_, hwrites⟩
        · simp only [Option.map_some, hfinish]
        · intro _ hpayload
          obtain rfl := Option.some.inj hpayload
          exact hreads
  · rw [if_pos hcmd]
    constructor
    · exact fun _ h => absurd h hcmd
    · intro _
      refine ⟨?_, by simp, by simp⟩
      rw [announcedCapabilities_of_ignored hcmd]
      rfl

end

/-- Both handlers are safe just if every vendor reply has room for the header of an
attribute: neither looks whether there is vendor data, or how much. -/
theorem capabilities_handleResponse_safe_iff (sizes : Nat) (L : GscanCapabilitiesLayout) (size : Nat)
    (reply : VendorReply) (beyond : List UInt8) :
    (CapabilitiesSafe GSCAN_ATTRIBUTE_CAPABILITIES L.size reply
        (GetCapabilitiesCommand.handleResponse sizes L reply beyond {}) ↔ HeaderPresent reply) ∧
      (CapabilitiesSafe RTT_ATTRIBUTE_CAPABILITIES size reply
        (GetRttCapabilitiesCommand.handleResponse sizes size reply beyond {}) ↔ HeaderPresent reply) := by
  constructor
  · apply capabilitiesSafe_iff
    intro copied
    dsimp only
    split_ifs <;> rfl
  · apply capabilitiesSafe_iff
    intro copied
    rfl

/-- Replies without vendor data, and with an empty one. -/
theorem capabilities_handleResponse_unsafe :
    ¬ CapabilitiesSafe RTT_ATTRIBUTE_CAPABILITIES 28 ⟨NL80211_CMD_VENDOR, none⟩
        (GetRttCapabilitiesCommand.handleResponse 4294967296 28 ⟨NL80211_CMD_VENDOR, none⟩ [] {}) ∧
      ¬ CapabilitiesSafe RTT_ATTRIBUTE_CAPABILITIES 28 ⟨NL80211_CMD_VENDOR, some []⟩
        (GetRttCapabilitiesCommand.handleResponse 4294967296 28 ⟨NL80211_CMD_VENDOR, some []⟩ [1, 2, 3, 4] {}) := by
  constructor
  · intro hsafe
    cases hsafe.capabilities
  · intro hsafe
    have hread := hsafe.reads [] rfl ⟨2, 2⟩ (by decide +kernel)
    revert hread
    simp [Range.Within]

end panelli.wifi_hal
