import Panelli.Access
import Panelli.WifiHal.Commands
import Panelli.WifiHal.GscanResult

open panelli.netlink panelli.access

namespace panelli.wifi_hal

open WIFI_VENDOR_EVENT

def MAX_PROBE_RESP_IE_LEN : Nat := 2048

/-- The size of a full scan result of the driver, and where its fields start. -/
def SIZEOF_GSCAN_FULL_RESULT : Nat := 104
def OFFSETOF_FULL_SCAN_CH_BUCKET : Nat := 88
def OFFSETOF_FULL_IE_LENGTH : Nat := 92
def OFFSETOF_FULL_IE_DATA : Nat := 96

/-- Where the network name of a scan result starts. -/
def OFFSETOF_GSCAN_SSID : Nat := 8

/-- The ranges of a scan result that its conversion reads. -/
def CONVERTED_FIELDS : List Range :=
  [⟨0, 8⟩, ⟨48, 4⟩, ⟨52, 4⟩, ⟨56, 8⟩, ⟨64, 8⟩, ⟨72, 2⟩, ⟨74, 2⟩,
    ⟨OFFSETOF_GSCAN_SSID, DOT11_MAX_SSID_LEN + 1⟩, ⟨41, 6⟩]

/-- The ranges of a full scan result that are logged, the name apart. -/
def LOGGED_FIELDS : List Range :=
  [⟨41, 6⟩, ⟨52, 4⟩, ⟨48, 4⟩, ⟨0, 8⟩, ⟨56, 8⟩, ⟨64, 8⟩, ⟨74, 2⟩, ⟨OFFSETOF_FULL_SCAN_CH_BUCKET, 4⟩,
    ⟨OFFSETOF_FULL_IE_LENGTH, 4⟩]

/-- The layout of a scan result of the framework: the fields that the conversion
writes, the length of the information elements, and where these follow. -/
structure WifiScanLayout where
  fields : List Range
  ie_length : Range
  ie_data : Nat
  ie_data_last : ∀ r ∈ ie_length :: fields, r.offset + r.size ≤ ie_data

/-- An event with its vendor attributes. -/
structure FullScanEvent where
  vendor_subcmd : Int
  vendor_data : Option (List UInt8)

/-- The arguments of `on_full_scan_result`. -/
structure FullScanResult where
  id : Int
  result : WifiScanResult
  ie_data : List UInt8
  scan_ch_bucket : UInt32
deriving DecidableEq

section

variable (L : WifiScanLayout) (on_full_scan_result : Bool) (id : Int)

/-- The result of the framework in a block that was allocated for it, filled from
the record of the driver. -/
def fillResult (garbage : WifiScanResult) (mem : Place) (drv_res ie_len : Nat) :
    Access (WifiScanResult × List UInt8) := do
  touchAll (CONVERTED_FIELDS.map (·.shift drv_res))
  writeAll L.fields
  let full_scan_result := convert_to_hal_result garbage (GscanResult.read (mem.drop drv_res))
  writeAll [L.ie_length]
  let ie_data ← readBytes mem (drv_res + OFFSETOF_FULL_IE_DATA) ie_len
  writeAll [⟨L.ie_data, ie_len⟩]
  return ({ full_scan_result with ie_length := UInt32.ofNat ie_len }, ie_data)

/-- The call of the handler, if there is one. -/
def handOver (mem : Place) (drv_res : Nat) (filled : WifiScanResult × List UInt8) :
    Access (Option FullScanResult) :=
  if on_full_scan_result then do
    let scan_ch_bucket ← readNumber mem (drv_res + OFFSETOF_FULL_SCAN_CH_BUCKET) 4
    return some ⟨id, filled.1, filled.2, UInt32.ofNat scan_ch_bucket⟩
  else return none

/-- `wifi_handle_full_scan_event`, where `beyond` is what the memory holds behind
the payload and `malloc` what it holds where a block is allocated. The record of
the driver is behind the header of a nested attribute. -/
def wifi_handle_full_scan_event (malloc : Option WifiScanResult) (event : FullScanEvent)
    (beyond : List UInt8) : Access (Option FullScanResult) :=
  match event.vendor_data with
  | none => return none
  | some vendor_data =>
    let mem : Place := vendor_data ++ beyond
    let len := vendor_data.length
    if len < SIZEOF_GSCAN_FULL_RESULT then return none
    else if event.vendor_subcmd ≠ GSCAN_EVENT_FULL_SCAN_RESULTS.toInt then return none
    else do
      let drv_res := NLA_HDRLEN
      let ie_length ← readNumber mem (drv_res + OFFSETOF_FULL_IE_LENGTH) 4
      let ie_len := min MAX_PROBE_RESP_IE_LEN ie_length
      if len < ie_len + OFFSETOF_FULL_IE_DATA then return none
      else match malloc with
        | none => return none
        | some garbage => do
          allocate (ie_len + L.ie_data)
          let filled ← fillResult L garbage mem drv_res ie_len
          let delivered ← handOver on_full_scan_result id mem drv_res filled
          -- the name is logged as a string
          touchString mem (drv_res + OFFSETOF_GSCAN_SSID)
          touchAll (LOGGED_FIELDS.map (·.shift drv_res))
          return delivered

end

/-- The information elements that the driver announces in a payload, up to the
ceiling. -/
def announcedIes (payload : List UInt8) : Nat :=
  min MAX_PROBE_RESP_IE_LEN (Place.number payload (NLA_HDRLEN + OFFSETOF_FULL_IE_LENGTH) 4)

/-- What is delivered has the information elements of the driver, what is read is
inside the payload, and what is written inside the allocation. -/
structure FullScanSafe (payload : List UInt8) (delivered : Option FullScanResult) (accesses : Accesses) :
    Prop where
  ie_length : ∀ d ∈ delivered, d.result.ie_length.toNat = announcedIes payload
  ie_data_length : ∀ d ∈ delivered, d.ie_data.length = d.result.ie_length.toNat
  ie_data : ∀ d ∈ delivered, d.ie_data <+: payload.drop (NLA_HDRLEN + OFFSETOF_FULL_IE_DATA)
  reads : ∀ r ∈ accesses.reads, r.Within payload.length
  writes : ∀ r ∈ accesses.writes, r.Within accesses.allocated

/-- An event passes the checks on its lengths, and the result can be allocated. -/
structure Handled (malloc : Option WifiScanResult) (vendor_subcmd : Int) (payload : List UInt8) : Prop where
  full : SIZEOF_GSCAN_FULL_RESULT ≤ payload.length
  subcmd : vendor_subcmd = GSCAN_EVENT_FULL_SCAN_RESULTS.toInt
  ies : announcedIes payload + OFFSETOF_FULL_IE_DATA ≤ payload.length
  allocated : malloc.isSome

/-- The information elements end inside the payload, and so does the name. -/
structure PayloadComplete (payload : List UInt8) : Prop where
  ies : NLA_HDRLEN + OFFSETOF_FULL_IE_DATA + announcedIes payload ≤ payload.length
  terminated : 0 ∈ payload.drop (NLA_HDRLEN + OFFSETOF_GSCAN_SSID)

/-- The fields of the record that are read whatever they hold. -/
def FIXED_FIELDS : List Range :=
  ⟨OFFSETOF_FULL_IE_LENGTH, 4⟩ :: ⟨OFFSETOF_FULL_SCAN_CH_BUCKET, 4⟩ :: CONVERTED_FIELDS ++ LOGGED_FIELDS

/-- What a handled event reads besides these. -/
def variableReads (payload beyond : List UInt8) : List Range :=
  [⟨NLA_HDRLEN + OFFSETOF_FULL_IE_DATA, announcedIes payload⟩,
    ⟨NLA_HDRLEN + OFFSETOF_GSCAN_SSID, strlen (payload ++ beyond) (NLA_HDRLEN + OFFSETOF_GSCAN_SSID) + 1⟩]

/-- What the handler of a handled event is called with. -/
def handledResult (id : Int) (payload beyond : List UInt8) : FullScanResult where
  id := id
  result := (GscanResult.read ((payload ++ beyond).drop NLA_HDRLEN)).toHal (UInt32.ofNat (announcedIes payload))
  ie_data := ((payload ++ beyond).drop (NLA_HDRLEN + OFFSETOF_FULL_IE_DATA)).take (announcedIes payload)
  scan_ch_bucket :=
    UInt32.ofNat (Place.number (payload ++ beyond) (NLA_HDRLEN + OFFSETOF_FULL_SCAN_CH_BUCKET) 4)

section

variable {L : WifiScanLayout} {on_full_scan_result : Bool} {id : Int} {malloc : Option WifiScanResult}
  {garbage : WifiScanResult} {vendor_subcmd : Int} {payload beyond : List UInt8}

theorem announcedIes_le (payload : List UInt8) : announcedIes payload ≤ MAX_PROBE_RESP_IE_LEN :=
  Nat.min_le_left _ _

/-- The fields of the record are inside a payload that passes the first check. -/
theorem fixed_within (hfull : SIZEOF_GSCAN_FULL_RESULT ≤ payload.length) {r : Range}
    (hr : r ∈ FIXED_FIELDS.map (·.shift NLA_HDRLEN)) : r.Within payload.length := by
  have hall : ∀ r ∈ FIXED_FIELDS.map (·.shift NLA_HDRLEN), r.offset + r.size ≤ SIZEOF_GSCAN_FULL_RESULT := by
    decide
  exact Or.inr ((hall r hr).trans hfull)

/-- The length that is read is the one in the payload. -/
theorem number_ie_length (hfull : SIZEOF_GSCAN_FULL_RESULT ≤ payload.length) :
    min MAX_PROBE_RESP_IE_LEN (Place.number (payload ++ beyond) (NLA_HDRLEN + OFFSETOF_FULL_IE_LENGTH) 4) =
      announcedIes payload := by
  rw [number_append_left (le_trans (by decide) hfull), announcedIes]

/-- An event that is not handled is skipped, having read the length at most. -/
theorem wifi_handle_full_scan_event_skips (L : WifiScanLayout) (on_full_scan_result : Bool) (id : Int)
    (beyond : List UInt8) (hskip : ¬ Handled malloc vendor_subcmd payload) :
    ∃ rs, wifi_handle_full_scan_event L on_full_scan_result id malloc ⟨vendor_subcmd, some payload⟩ beyond {} =
      (none, { reads := rs }) ∧ ∀ r ∈ rs, r.Within payload.length := by
  by_cases hfull : SIZEOF_GSCAN_FULL_RESULT ≤ payload.length
  · by_cases hsubcmd : vendor_subcmd = GSCAN_EVENT_FULL_SCAN_RESULTS.toInt
    · refine ⟨[⟨NLA_HDRLEN + OFFSETOF_FULL_IE_LENGTH, 4⟩], ?_, ?_⟩
      · simp only [wifi_handle_full_scan_event, if_neg (Nat.not_lt.mpr hfull), if_neg (not_not.mpr hsubcmd),
          bind_apply, readNumber_apply, List.nil_append, number_ie_length hfull]
        by_cases hies : announcedIes payload + OFFSETOF_FULL_IE_DATA ≤ payload.length
        · rw [if_neg (Nat.not_lt.mpr hies)]
          cases malloc with
          | none => rfl
          | some garbage => exact absurd ⟨hfull, hsubcmd, hies, rfl⟩ hskip
        · rw [if_pos (Nat.lt_of_not_le hies)]
          rfl
      · intro r hr
        rw [List.mem_singleton] at hr
        apply fixed_within hfull
        rw [hr]
        decide
    · refine ⟨[], ?_, by simp⟩
      simp only [wifi_handle_full_scan_event, if_neg (Nat.not_lt.mpr hfull), if_pos hsubcmd]
      rfl
  · refine ⟨[], ?_, by simp⟩
    simp only [wifi_handle_full_scan_event, if_pos (Nat.lt_of_not_le hfull)]
    rfl

theorem fillResult_apply (mem : Place) (drv_res ie_len : Nat) (s : Accesses) :
    fillResult L garbage mem drv_res ie_len s =
      (((GscanResult.read (mem.drop drv_res)).toHal (UInt32.ofNat ie_len),
        (mem.drop (drv_res + OFFSETOF_FULL_IE_DATA)).take ie_len),
        { s with
          reads := s.reads ++ CONVERTED_FIELDS.map (·.shift drv_res) ++
            [⟨drv_res + OFFSETOF_FULL_IE_DATA, ie_len⟩]
          writes := s.writes ++ L.fields ++ [L.ie_length] ++ [⟨L.ie_data, ie_len⟩] }) := by
  simp only [fillResult, bind_apply, touchAll_apply, writeAll_apply, readBytes_apply, pure_apply,
    convert_to_hal_result_eq]
  rfl

/-- A call of the handler reads the buckets at most. -/
theorem handOver_apply (mem : Place) (drv_res : Nat) (filled : WifiScanResult × List UInt8) (s : Accesses) :
    handOver on_full_scan_result id mem drv_res filled s =
      (if on_full_scan_result then
        some ⟨id, filled.1, filled.2, UInt32.ofNat (mem.number (drv_res + OFFSETOF_FULL_SCAN_CH_BUCKET) 4)⟩
      else none,
        { s with
          reads := s.reads ++
            if on_full_scan_result then [⟨drv_res + OFFSETOF_FULL_SCAN_CH_BUCKET, 4⟩] else [] }) := by
  cases on_full_scan_result with
  | false => simp [handOver]
  | true => rfl

/-- A handled event delivers to a handler, reads the record, its information
elements and the name, and writes the result. -/
theorem wifi_handle_full_scan_event_handles (L : WifiScanLayout) (on_full_scan_result : Bool) (id : Int)
    (beyond : List UInt8) (hhandled : Handled (some garbage) vendor_subcmd payload) :
    ∃ rs, wifi_handle_full_scan_event L on_full_scan_result id (some garbage) ⟨vendor_subcmd, some payload⟩
        beyond {} = (if on_full_scan_result then some (handledResult id payload beyond) else none,
        { reads := rs
          allocated := announcedIes payload + L.ie_data
          writes := L.fields ++ [L.ie_length] ++ [⟨L.ie_data, announcedIes payload⟩] }) ∧
      (∀ r ∈ variableReads payload beyond, r ∈ rs) ∧
      ∀ r ∈ rs, r ∈ variableReads payload beyond ∨ r ∈ FIXED_FIELDS.map (·.shift NLA_HDRLEN) := by
  obtain ⟨hfull, hsubcmd, hies, -⟩ := hhandled
  simp only [wifi_handle_full_scan_event, if_neg (Nat.not_lt.mpr hfull), if_neg (not_not.mpr hsubcmd),
    bind_apply, readNumber_apply, List.nil_append, number_ie_length hfull, if_neg (Nat.not_lt.mpr hies),
    allocate_apply, fillResult_apply, handOver_apply, touchString_apply, touchAll_apply, pure_apply]
  refine ⟨_, rfl, ?_, ?_⟩
  · intro r hr
    simp only [variableReads, List.mem_cons, List.not_mem_nil, or_false] at hr
    obtain rfl | rfl := hr <;> simp
  · intro r hr
    simp only [List.mem_append, List.mem_singleton] at hr
    simp only [variableReads, FIXED_FIELDS, List.map_append, List.map_cons, List.mem_append, List.mem_cons,
      List.cons_append]
    obtain ((((hlength | hconverted) | hies) | hbucket) | hname) | hlogged := hr
    · exact Or.inr (Or.inl hlength)
    · exact Or.inr (Or.inr (Or.inr (Or.inl hconverted)))
    · exact Or.inl (Or.inl hies)
    · cases on_full_scan_result with
      | false => cases hbucket
      | true => exact Or.inr (Or.inr (Or.inl (List.mem_singleton.mp hbucket)))
    · exact Or.inl (Or.inr (Or.inl hname))
    · exact Or.inr (Or.inr (Or.inr (Or.inr hlogged)))

/-- The variable reads stay inside a payload just if it is complete. -/
theorem variableReads_within_iff (beyond : List UInt8) (hfull : SIZEOF_GSCAN_FULL_RESULT ≤ payload.length) :
    (∀ r ∈ variableReads payload beyond, r.Within payload.length) ↔ PayloadComplete payload := by
  have hdata : NLA_HDRLEN + OFFSETOF_FULL_IE_DATA ≤ payload.length := le_trans (by decide) hfull
  have hname := strlen_lt_iff payload beyond (NLA_HDRLEN + OFFSETOF_GSCAN_SSID)
  simp only [variableReads, List.forall_mem_cons, List.not_mem_nil, IsEmpty.forall_iff, implies_true, and_true,
    Range.Within]
  constructor
  · intro ⟨hies, hstring⟩
    refine ⟨?_, hname.mp ?_⟩
    · obtain hies | hies := hies
      · omega
      · exact hies
    · omega
  · intro ⟨hies, hterminated⟩
    have hstring := hname.mpr hterminated
    exact ⟨Or.inr hies, Or.inr (by omega)⟩

/-- What a handled event writes is inside the allocation. -/
theorem writes_within (ie_len : Nat) :
    ∀ r ∈ L.fields ++ [L.ie_length] ++ [⟨L.ie_data, ie_len⟩], r.Within (ie_len + L.ie_data) := by
  intro r hr
  simp only [List.mem_append, List.mem_singleton] at hr
  obtain (hfield | hlength) | hies := hr
  · have hlast := L.ie_data_last r (List.mem_cons_of_mem _ hfield)
    exact Or.inr (by omega)
  · have hlast := L.ie_data_last r (by rw [hlength]; exact List.mem_cons_self)
    exact Or.inr (by omega)
  · rw [hies]
    exact Or.inr (Nat.le_of_eq (Nat.add_comm _ _))

/-- The handler of a complete payload gets the information elements of the driver. -/
theorem handledResult_ies (hies : NLA_HDRLEN + OFFSETOF_FULL_IE_DATA + announcedIes payload ≤ payload.length) :
    (handledResult id payload beyond).ie_data =
      (payload.drop (NLA_HDRLEN + OFFSETOF_FULL_IE_DATA)).take (announcedIes payload) := by
  have hroom : announcedIes payload ≤ (payload.drop (NLA_HDRLEN + OFFSETOF_FULL_IE_DATA)).length := by
    rw [List.length_drop]
    omega
  simp only [handledResult]
  rw [List.drop_append_of_le_length (by omega), List.take_append_of_le_length hroom]

theorem handledResult_ie_length :
    (handledResult id payload beyond).result.ie_length.toNat = announcedIes payload := by
  have hle := announcedIes_le payload
  apply UInt32.toNat_ofNat_of_lt'
  exact lt_of_le_of_lt hle (by decide)

/-- A handled event with a complete payload is safe. -/
theorem fullScanSafe_of_complete {rs : List Range} (hfull : SIZEOF_GSCAN_FULL_RESULT ≤ payload.length)
    (hpayload : PayloadComplete payload)
    (honly : ∀ r ∈ rs, r ∈ variableReads payload beyond ∨ r ∈ FIXED_FIELDS.map (·.shift NLA_HDRLEN)) :
    FullScanSafe payload (if on_full_scan_result then some (handledResult id payload beyond) else none)
      { reads := rs
        allocated := announcedIes payload + L.ie_data
        writes := L.fields ++ [L.ie_length] ++ [⟨L.ie_data, announcedIes payload⟩] } := by
  have hresult : ∀ d ∈ (if on_full_scan_result then some (handledResult id payload beyond) else none),
      d = handledResult id payload beyond := by
    intro d hd
    cases on_full_scan_result with
    | false => cases hd
    | true => exact (Option.some.inj hd).symm
  refine ⟨?_, ?_, ?_, ?_, writes_within _⟩
  · intro d hd
    rw [hresult d hd, handledResult_ie_length]
  · intro d hd
    have hies := hpayload.ies
    rw [hresult d hd, handledResult_ie_length, handledResult_ies hies, List.length_take, List.length_drop]
    omega
  · intro d hd
    rw [hresult d hd, handledResult_ies hpayload.ies]
    exact List.take_prefix _ _
  · intro r hr
    obtain hvar | hfixed := honly r hr
    · exact (variableReads_within_iff beyond hfull).mpr hpayload r hvar
    · exact fixed_within hfull hfixed

end

/-- A full scan event is safe just if it is not handled or its payload is
complete: that the record is behind a header is not part of the check, and nothing
checks that the name is terminated. -/
theorem wifi_handle_full_scan_event_safe_iff (L : WifiScanLayout) (on_full_scan_result : Bool) (id : Int)
    (malloc : Option WifiScanResult) (vendor_subcmd : Int) (payload beyond : List UInt8) :
    FullScanSafe payload
        (wifi_handle_full_scan_event L on_full_scan_result id malloc ⟨vendor_subcmd, some payload⟩ beyond {}).1
        (wifi_handle_full_scan_event L on_full_scan_result id malloc ⟨vendor_subcmd, some payload⟩ beyond {}).2 ↔
      (Handled malloc vendor_subcmd payload → PayloadComplete payload) := by
  by_cases hhandled : Handled malloc vendor_subcmd payload
  · obtain ⟨garbage, rfl⟩ := Option.isSome_iff_exists.mp hhandled.allocated
    obtain ⟨rs, hrun, hvariable, honly⟩ := wifi_handle_full_scan_event_handles L on_full_scan_result id beyond
      hhandled
    rw [hrun]
    constructor
    · intro hsafe _
      apply (variableReads_within_iff beyond hhandled.full).mp
      exact fun r hr => hsafe.reads r (hvariable r hr)
    · intro hcomplete
      exact fullScanSafe_of_complete hhandled.full (hcomplete hhandled) honly
  · obtain ⟨rs, hrun, hreads⟩ := wifi_handle_full_scan_event_skips L on_full_scan_result id beyond hhandled
    rw [hrun]
    constructor
    · exact fun _ h => absurd h hhandled
    · intro _
      exact ⟨by simp, by simp, by simp, hreads, by simp⟩

/-- The layout of the framework's header. -/
def WifiScanLayout.framework : WifiScanLayout where
  fields := [⟨0, 8⟩, ⟨48, 4⟩, ⟨52, 4⟩, ⟨56, 8⟩, ⟨64, 8⟩, ⟨72, 2⟩, ⟨74, 2⟩, ⟨8, 33⟩, ⟨41, 6⟩]
  ie_length := ⟨76, 4⟩
  ie_data := 80
  ie_data_last := by decide

/-- A payload of the least length that announces eight bytes of information
elements: four of those that are copied are behind it. -/
theorem wifi_handle_full_scan_event_overreads :
    ¬ FullScanSafe (List.replicate 96 0 ++ [8, 0, 0, 0] ++ List.replicate 4 0)
      (wifi_handle_full_scan_event .framework true 7 (some (GscanResult.toHal (.read []) 0))
        ⟨3, some (List.replicate 96 0 ++ [8, 0, 0, 0] ++ List.replicate 4 0)⟩ [1, 2, 3, 4] {}).1
      (wifi_handle_full_scan_event .framework true 7 (some (GscanResult.toHal (.read []) 0))
        ⟨3, some (List.replicate 96 0 ++ [8, 0, 0, 0] ++ List.replicate 4 0)⟩ [1, 2, 3, 4] {}).2 := by
  intro hsafe
  have hread := hsafe.reads ⟨100, 8⟩ (by decide +kernel)
  revert hread
  simp [Range.Within]

end panelli.wifi_hal
