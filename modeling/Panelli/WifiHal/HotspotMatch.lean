import Panelli.WifiHal.FullScan

open panelli.netlink panelli.access

namespace panelli.wifi_hal

/-- Where an ANQP response has its length, and where its data start. -/
def OFFSETOF_GAS_DATA_LEN : Nat := 6
def OFFSETOF_GAS_DATA : Nat := 8

/-- What `on_passpoint_network_found` is called with. The ANQP block is handed over
where it is, so many bytes from a place in the event on. -/
structure PasspointNetworkFound where
  id : Int
  networkId : Int32
  result : WifiScanResult
  anqp : Range

section

variable (addresses : Nat)

/-- Where the pointer to the ANQP block points, as an offset from the record: the
pointer wraps around after so many addresses. -/
def anqpAt (mem : Place) : Nat :=
  (OFFSETOF_FULL_IE_DATA + mem.number OFFSETOF_FULL_IE_LENGTH 4) % addresses

/-- Where the block has its length. -/
def dataLenAt (mem : Place) : Nat := (anqpAt addresses mem + OFFSETOF_GAS_DATA_LEN) % addresses

def anqpLen (mem : Place) : Nat := OFFSETOF_GAS_DATA + mem.number (dataLenAt addresses mem) 2

/-- Where the network id is: behind the block. -/
def networkIdAt (mem : Place) : Nat := (anqpAt addresses mem + anqpLen addresses mem) % addresses

/-- `AnqpoConfigureCommand::handleEvent`, where `beyond` is what the memory holds
behind the payload and `malloc` what it holds where the result is allocated. The
record is where the payload starts. -/
def AnqpoConfigureCommand.handleEvent (sizeof_wifi_scan_result : Nat) (on_passpoint_network_found : Bool)
    (id : Int) (malloc : Option WifiScanResult) (vendor_data : Option (List UInt8)) (beyond : List UInt8) :
    Access (Option PasspointNetworkFound) :=
  match vendor_data with
  | none => return none
  | some vendor_data =>
    if vendor_data.length < sizeof_wifi_scan_result then return none
    else match malloc with
      | none => return none
      | some garbage => do
        let drv_res : Place := vendor_data ++ beyond
        touchAll CONVERTED_FIELDS
        let mResult := convert_to_hal_result garbage (GscanResult.read drv_res)
        let ie_length ← readNumber drv_res OFFSETOF_FULL_IE_LENGTH 4
        let anqp := (OFFSETOF_FULL_IE_DATA + ie_length) % addresses
        let data_len ← readNumber drv_res ((anqp + OFFSETOF_GAS_DATA_LEN) % addresses) 2
        let anqp_len := OFFSETOF_GAS_DATA + data_len
        let networkId ← readNumber drv_res ((anqp + anqp_len) % addresses) 4
        return if on_passpoint_network_found then some ⟨id, Int32.ofNat networkId, mResult, ⟨anqp, anqp_len⟩⟩
          else none

/-- What is read is inside the payload, and so is the ANQP block that is handed over. -/
structure MatchSafe (payload : List UInt8) (handled : Option PasspointNetworkFound × Accesses) : Prop where
  reads : ∀ r ∈ handled.2.reads, r.Within payload.length
  anqp : ∀ found ∈ handled.1, found.anqp.Within payload.length

/-- The fixed part of the record ends inside the payload, and so do the length of the
block, the network id, and the block when there is a handler for it. -/
structure PartsInside (on_passpoint_network_found : Bool) (payload : List UInt8) : Prop where
  record : OFFSETOF_FULL_IE_DATA ≤ payload.length
  data_len : dataLenAt addresses payload + 2 ≤ payload.length
  network_id : networkIdAt addresses payload + 4 ≤ payload.length
  anqp : on_passpoint_network_found → anqpAt addresses payload + anqpLen addresses payload ≤ payload.length

end

section

variable {addresses sizeof_wifi_scan_result : Nat} {on_passpoint_network_found : Bool} {id : Int}
  {garbage : WifiScanResult} {payload beyond : List UInt8}

/-- An event whose result is allocated is read at the record, at the length of the
block and behind the block. -/
theorem AnqpoConfigureCommand.handleEvent_handles (addresses : Nat) (on_passpoint_network_found : Bool) (id : Int)
    (garbage : WifiScanResult) (beyond : List UInt8) (hlen : sizeof_wifi_scan_result ≤ payload.length) :
    ∃ mResult, AnqpoConfigureCommand.handleEvent addresses sizeof_wifi_scan_result on_passpoint_network_found
        id (some garbage) (some payload) beyond {} =
      (if on_passpoint_network_found then
          some ⟨id, Int32.ofNat (Place.number (payload ++ beyond) (networkIdAt addresses (payload ++ beyond)) 4),
            mResult, ⟨anqpAt addresses (payload ++ beyond), anqpLen addresses (payload ++ beyond)⟩⟩
        else none,
        { reads := CONVERTED_FIELDS ++ [⟨OFFSETOF_FULL_IE_LENGTH, 4⟩] ++
            [⟨dataLenAt addresses (payload ++ beyond), 2⟩] ++
            [⟨networkIdAt addresses (payload ++ beyond), 4⟩] }) := by
  refine ⟨convert_to_hal_result garbage (GscanResult.read (payload ++ beyond)), ?_⟩
  simp only [AnqpoConfigureCommand.handleEvent, if_neg (Nat.not_lt.mpr hlen), bind_apply, touchAll_apply,
    readNumber_apply, pure_apply, List.nil_append]
  rfl

/-- The record is inside the payload when its fixed part is. -/
theorem convertedFields_within (hrecord : OFFSETOF_FULL_IE_DATA ≤ payload.length) :
    ∀ r ∈ CONVERTED_FIELDS ++ [⟨OFFSETOF_FULL_IE_LENGTH, 4⟩], r.Within payload.length := by
  have hall : ∀ r ∈ CONVERTED_FIELDS ++ [⟨OFFSETOF_FULL_IE_LENGTH, 4⟩],
      r.offset + r.size ≤ OFFSETOF_FULL_IE_DATA := by
    decide
  intro r hr
  apply Or.inr
  exact (hall r hr).trans hrecord

/-- What is behind a payload does not move the parts of a record that are inside. -/
theorem positions_append (addresses : Nat) (beyond : List UInt8) (hrecord : OFFSETOF_FULL_IE_DATA ≤ payload.length) :
    anqpAt addresses (payload ++ beyond) = anqpAt addresses payload ∧
      dataLenAt addresses (payload ++ beyond) = dataLenAt addresses payload := by
  have hlength : OFFSETOF_FULL_IE_LENGTH + 4 ≤ payload.length := hrecord
  have hanqp : anqpAt addresses (payload ++ beyond) = anqpAt addresses payload := by
    rw [anqpAt, number_append_left hlength, anqpAt]
  exact ⟨hanqp, by rw [dataLenAt, hanqp, dataLenAt]⟩

theorem lengths_append (addresses : Nat) (beyond : List UInt8) (hrecord : OFFSETOF_FULL_IE_DATA ≤ payload.length)
    (hdata_len : dataLenAt addresses payload + 2 ≤ payload.length) :
    anqpLen addresses (payload ++ beyond) = anqpLen addresses payload ∧
      networkIdAt addresses (payload ++ beyond) = networkIdAt addresses payload := by
  obtain ⟨hanqp, hat⟩ := positions_append addresses beyond hrecord
  have hlen : anqpLen addresses (payload ++ beyond) = anqpLen addresses payload := by
    rw [anqpLen, hat, number_append_left hdata_len, anqpLen]
  exact ⟨hlen, by rw [networkIdAt, hanqp, hlen, networkIdAt]⟩

/-- An event that is handled is safe just if the parts of its record are inside. -/
theorem AnqpoConfigureCommand.handled_safe_iff (hlen : sizeof_wifi_scan_result ≤ payload.length) :
    MatchSafe payload (AnqpoConfigureCommand.handleEvent addresses sizeof_wifi_scan_result
        on_passpoint_network_found id (some garbage) (some payload) beyond {}) ↔
      PartsInside addresses on_passpoint_network_found payload := by
  obtain ⟨mResult, hrun⟩ := AnqpoConfigureCommand.handleEvent_handles addresses on_passpoint_network_found id
    garbage beyond hlen
  rw [hrun]
  constructor
  · rintro ⟨hreads, hanqp⟩
    have hrecord : OFFSETOF_FULL_IE_DATA ≤ payload.length := by
      have hread := hreads ⟨OFFSETOF_FULL_IE_LENGTH, 4⟩ (by simp)
      exact hread.le (by decide)
    obtain ⟨hat, hdataAt⟩ := positions_append addresses beyond hrecord
    have hdata_len : dataLenAt addresses payload + 2 ≤ payload.length := by
      have hread := hreads ⟨dataLenAt addresses payload, 2⟩ (by simp [hdataAt])
      exact hread.le (by simp)
    obtain ⟨hanqpLen, hidAt⟩ := lengths_append addresses beyond hrecord hdata_len
    refine ⟨hrecord, hdata_len, ?_, ?_⟩
    · have hread := hreads ⟨networkIdAt addresses payload, 4⟩ (by simp [hidAt])
      exact hread.le (by simp)
    · intro hhandler
      have hblock := hanqp _ (by rw [if_pos hhandler]; rfl)
      rw [hat, hanqpLen] at hblock
      apply hblock.le
      rw [anqpLen, OFFSETOF_GAS_DATA]
      simp only
      omega
  · rintro ⟨hrecord, hdata_len, hnetwork_id, hanqp⟩
    obtain ⟨hat, hdataAt⟩ := positions_append addresses beyond hrecord
    obtain ⟨hanqpLen, hidAt⟩ := lengths_append addresses beyond hrecord hdata_len
    refine ⟨?_, ?_⟩
    · intro r hr
      rw [List.mem_append, List.mem_append, List.mem_singleton, List.mem_singleton] at hr
      obtain (hfixed | rfl) | rfl := hr
      · exact convertedFields_within hrecord r hfixed
      · rw [hdataAt]
        exact Or.inr hdata_len
      · rw [hidAt]
        exact Or.inr hnetwork_id
    · intro found hfound
      cases on_passpoint_network_found with
      | false => cases hfound
      | true =>
        obtain rfl := Option.some.inj hfound
        dsimp only
        rw [hat, hanqpLen]
        exact Or.inr (hanqp rfl)

/-- An event that is skipped reads nothing. -/
theorem AnqpoConfigureCommand.handleEvent_skips (malloc : Option WifiScanResult)
    (hskip : ¬ (sizeof_wifi_scan_result ≤ payload.length ∧ malloc.isSome)) :
    AnqpoConfigureCommand.handleEvent addresses sizeof_wifi_scan_result on_passpoint_network_found id malloc
      (some payload) beyond {} = (none, {}) := by
  by_cases hlen : sizeof_wifi_scan_result ≤ payload.length
  · simp only [AnqpoConfigureCommand.handleEvent, if_neg (Nat.not_lt.mpr hlen)]
    cases malloc with
    | none => rfl
    | some garbage => exact absurd ⟨hlen, rfl⟩ hskip
  · simp only [AnqpoConfigureCommand.handleEvent, if_pos (Nat.lt_of_not_le hlen)]
    rfl

end

/-- A hotspot match is safe just if it is skipped or the parts of its record end
inside the payload: only the size of the framework's result is checked. -/
theorem AnqpoConfigureCommand.handleEvent_safe_iff (addresses sizeof_wifi_scan_result : Nat)
    (on_passpoint_network_found : Bool) (id : Int) (malloc : Option WifiScanResult)
    (payload beyond : List UInt8) :
    MatchSafe payload (AnqpoConfigureCommand.handleEvent addresses sizeof_wifi_scan_result
        on_passpoint_network_found id malloc (some payload) beyond {}) ↔
      (sizeof_wifi_scan_result ≤ payload.length → malloc.isSome →
        PartsInside addresses on_passpoint_network_found payload) := by
  by_cases hhandled : sizeof_wifi_scan_result ≤ payload.length ∧ malloc.isSome
  · obtain ⟨hlen, hmalloc⟩ := hhandled
    obtain ⟨garbage, rfl⟩ := Option.isSome_iff_exists.mp hmalloc
    rw [AnqpoConfigureCommand.handled_safe_iff hlen]
    constructor
    · exact fun hinside _ _ => hinside
    · exact fun hinside => hinside hlen rfl
  · rw [AnqpoConfigureCommand.handleEvent_skips malloc hhandled]
    constructor
    · exact fun _ hlen hmalloc => absurd ⟨hlen, hmalloc⟩ hhandled
    · intro _
      exact ⟨by simp, by simp⟩

/-- A payload of the size of the framework's result ends before the length of the
information elements. -/
theorem AnqpoConfigureCommand.handleEvent_overreads :
    ¬ MatchSafe (List.replicate 88 0) (AnqpoConfigureCommand.handleEvent 4294967296 88 true 7
      (some (GscanResult.toHal (.read []) 0)) (some (List.replicate 88 0)) (List.replicate 32 0) {}) := by
  intro hsafe
  have hread := hsafe.reads ⟨OFFSETOF_FULL_IE_LENGTH, 4⟩ (by decide +kernel)
  revert hread
  simp [Range.Within, OFFSETOF_FULL_IE_LENGTH]

end panelli.wifi_hal
