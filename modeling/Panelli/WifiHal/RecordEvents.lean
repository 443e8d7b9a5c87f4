import Panelli.Access
import Panelli.WifiHal.Commands

open panelli.netlink panelli.access

namespace panelli.wifi_hal

open WIFI_VENDOR_EVENT

/-- The most records that a handler has room for. -/
def MAX_RESULTS : Nat := 64

/-- The size of a record of a significant change. -/
def SIZEOF_CHANGE_INFO : Nat := 18

/-- What the callbacks of a hotlist are called with: the event says which it is. -/
structure HotlistReport where
  event : WIFI_VENDOR_EVENT
  id : Int
  num : Nat
  results : List (List UInt8)

/-- A result of a significant change. -/
structure SignificantChange where
  bssid : List UInt8
  channel : UInt16
  rssi : List Int8
deriving DecidableEq

/-- What `on_significant_change` is called with. -/
structure SignificantReport where
  id : Int
  num : Nat
  results : List SignificantChange

/-- As many records as this behind the header of a nested attribute. -/
def recordsAt (mem : Place) (size num : Nat) : List (List UInt8) :=
  (List.range num).map fun i => (mem.drop (NLA_HDRLEN + i * size)).take size

/-- The number of records, as if the payload had nothing but them. -/
def recordCount (size len : Nat) : Nat := min MAX_RESULTS (len / size)

/-- The type of a nested attribute is that of an event. -/
def HasType (nla_type : UInt16) (event : WIFI_VENDOR_EVENT) : Prop := (nla_type.toNat : Int) = event.toInt

instance (nla_type : UInt16) (event : WIFI_VENDOR_EVENT) : Decidable (HasType nla_type event) :=
  inferInstanceAs (Decidable (_ = _))

namespace BssidHotlistCommand

/-- The results, which are cleared before the records of a nested attribute are
copied to them. -/
def copyResults (sizeof_wifi_scan_result : Nat) (mem : Place) (nla_type : UInt16) (num : Nat) :
    Access (List (List UInt8)) :=
  if HasType nla_type GSCAN_EVENT_HOTLIST_RESULTS_LOST ∨ HasType nla_type GSCAN_EVENT_HOTLIST_RESULTS_FOUND then do
    touch ⟨NLA_HDRLEN, num * sizeof_wifi_scan_result⟩
    return recordsAt mem sizeof_wifi_scan_result num
  else return List.replicate num (List.replicate sizeof_wifi_scan_result 0)

/-- The call of the handler of an event, if there is one. -/
def report (on_hotlist_ap_found on_hotlist_ap_lost : Bool) (id event_id : Int) (num : Nat)
    (mResults : List (List UInt8)) : Option HotlistReport :=
  if event_id = GSCAN_EVENT_HOTLIST_RESULTS_FOUND.toInt then
    if on_hotlist_ap_found then some ⟨GSCAN_EVENT_HOTLIST_RESULTS_FOUND, id, num, mResults⟩ else none
  else if event_id = GSCAN_EVENT_HOTLIST_RESULTS_LOST.toInt then
    if on_hotlist_ap_lost then some ⟨GSCAN_EVENT_HOTLIST_RESULTS_LOST, id, num, mResults⟩ else none
  else none

/-- `BssidHotlistCommand::handleEvent`, where `beyond` is what the memory holds behind
the payload. The header of the nested attribute is logged. -/
def handleEvent (sizeof_wifi_scan_result : Nat) (on_hotlist_ap_found on_hotlist_ap_lost : Bool) (id event_id : Int)
    (vendor_data : Option (List UInt8)) (beyond : List UInt8) : Access (Option HotlistReport) :=
  match vendor_data with
  | none => return none
  | some vendor_data =>
    if vendor_data.length = 0 then return none
    else do
      let num := recordCount sizeof_wifi_scan_result vendor_data.length
      touch ⟨0, 2⟩
      let nla_type ← readNumber (vendor_data ++ beyond) 2 2
      let mResults ← copyResults sizeof_wifi_scan_result (vendor_data ++ beyond) (UInt16.ofNat nla_type) num
      return report on_hotlist_ap_found on_hotlist_ap_lost id event_id num mResults

end BssidHotlistCommand

/-- A record of a significant change, by the layout of the structure. -/
def SignificantChange.read (p : Place) : SignificantChange where
  bssid := (p.drop 4).take 6
  channel := UInt16.ofNat (p.number 2 2)
  rssi := ((p.drop 10).take 8).map UInt8.toInt8

/-- The ranges of such a record that are read. -/
def CHANGE_FIELDS : List Range := [⟨4, 6⟩, ⟨2, 2⟩, ⟨10, 8⟩]

namespace SignificantWifiChangeCommand

/-- The results and the call of the handler, for a nested attribute of the event. -/
def reportChanges (id : Int) (mem : Place) (nla_type : UInt16) (num : Nat) : Access (Option SignificantReport) :=
  if HasType nla_type GSCAN_EVENT_SIGNIFICANT_CHANGE_RESULTS then do
    touchAll ((List.range num).flatMap fun i =>
      CHANGE_FIELDS.map (·.shift (NLA_HDRLEN + i * SIZEOF_CHANGE_INFO)))
    let mResults := (recordsAt mem SIZEOF_CHANGE_INFO num).map SignificantChange.read
    return if num ≠ 0 then some ⟨id, num, mResults⟩ else none
  else return none

/-- `SignificantWifiChangeCommand::handleEvent`. -/
def handleEvent (id : Int) (vendor_data : Option (List UInt8)) (beyond : List UInt8) :
    Access (Option SignificantReport) :=
  match vendor_data with
  | none => return none
  | some vendor_data =>
    if vendor_data.length = 0 then return none
    else do
      let num := recordCount SIZEOF_CHANGE_INFO vendor_data.length
      let nla_type ← readNumber (vendor_data ++ beyond) 2 2
      reportChanges id (vendor_data ++ beyond) (UInt16.ofNat nla_type) num

end SignificantWifiChangeCommand

/-- The complete records in the nested attribute of a payload, if it is whole and has
the type of an event. -/
def nestedCount (size : Nat) (event_id : Int) (payload : List UInt8) : Nat :=
  if Place.nla_ok payload payload.length = true ∧ ((Place.nla_type payload).toNat : Int) = event_id then
    recordCount size (Place.hdr_len payload - NLA_HDRLEN)
  else 0

/-- The results of a callback are these records of the payload, and what is read is
inside the payload. -/
structure RecordsExact {α : Type} (payload : List UInt8) (records : List α) (results : Option (List α))
    (accesses : Accesses) : Prop where
  reads : ∀ r ∈ accesses.reads, r.Within payload.length
  results : ∀ rs ∈ results, rs = records

/-- There is a callback for the event of a hotlist. -/
def HotlistCalls (on_hotlist_ap_found on_hotlist_ap_lost : Bool) (event_id : Int) : Prop :=
  event_id = GSCAN_EVENT_HOTLIST_RESULTS_FOUND.toInt ∧ on_hotlist_ap_found ∨
    event_id = GSCAN_EVENT_HOTLIST_RESULTS_LOST.toInt ∧ on_hotlist_ap_lost

/-- The header is inside the payload, and so are as many records as would fit into
all of it, if they are copied; for a callback they are as many as there are. -/
structure HotlistCounts (sizeof_wifi_scan_result : Nat) (on_hotlist_ap_found on_hotlist_ap_lost : Bool)
    (event_id : Int) (payload : List UInt8) : Prop where
  header : NLA_HDRLEN ≤ payload.length
  copied : HasType (Place.nla_type payload) GSCAN_EVENT_HOTLIST_RESULTS_LOST ∨
      HasType (Place.nla_type payload) GSCAN_EVENT_HOTLIST_RESULTS_FOUND →
    (⟨NLA_HDRLEN, recordCount sizeof_wifi_scan_result payload.length * sizeof_wifi_scan_result⟩ : Range).Within
      payload.length
  called : HotlistCalls on_hotlist_ap_found on_hotlist_ap_lost event_id →
    recordCount sizeof_wifi_scan_result payload.length = nestedCount sizeof_wifi_scan_result event_id payload

/-- The header is inside the payload, and in an attribute of the event there are as
many records as would fit into all of the payload. -/
structure ChangeCounts (payload : List UInt8) : Prop where
  header : NLA_HDRLEN ≤ payload.length
  called : HasType (Place.nla_type payload) GSCAN_EVENT_SIGNIFICANT_CHANGE_RESULTS →
    recordCount SIZEOF_CHANGE_INFO payload.length =
      nestedCount SIZEOF_CHANGE_INFO GSCAN_EVENT_SIGNIFICANT_CHANGE_RESULTS.toInt payload

section

variable {size num sizeof_wifi_scan_result : Nat} {on_hotlist_ap_found on_hotlist_ap_lost : Bool}
  {id event_id : Int} {payload beyond : List UInt8} {mResults : List (List UInt8)}

theorem recordsAt_length (mem : Place) (size num : Nat) : (recordsAt mem size num).length = num := by
  rw [recordsAt, List.length_map, List.length_range]

/-- What is behind a payload does not matter to records inside. -/
theorem recordsAt_append (beyond : List UInt8)
    (hinside : (⟨NLA_HDRLEN, num * size⟩ : Range).Within payload.length) :
    recordsAt (payload ++ beyond) size num = recordsAt payload size num := by
  apply List.map_congr_left
  intro i hi
  have hlt : i + 1 ≤ num := List.mem_range.mp hi
  have hle := Nat.mul_le_mul_right size hlt
  rw [Nat.add_mul, Nat.one_mul] at hle
  obtain hzero | hinside := hinside
  · have hsize : size = 0 := by
      dsimp only at hzero
      omega
    rw [hsize, List.take_zero, List.take_zero]
  · dsimp only at hinside
    have hroom : size ≤ (payload.drop (NLA_HDRLEN + i * size)).length := by
      rw [List.length_drop]
      omega
    rw [List.drop_append_of_le_length (by omega), List.take_append_of_le_length hroom]

theorem recordCount_mul_le (size len : Nat) : recordCount size len * size ≤ len :=
  Nat.mul_le_of_le_div _ _ _ (Nat.min_le_right _ _)

/-- The records of a nested attribute are inside the payload. -/
theorem nestedCount_within (size : Nat) (event_id : Int) (payload : List UInt8) :
    (⟨NLA_HDRLEN, nestedCount size event_id payload * size⟩ : Range).Within payload.length := by
  rw [nestedCount]
  split_ifs with hnested
  · obtain ⟨_, hheader, hlen⟩ := nla_ok_iff.mp hnested.1
    have hle := recordCount_mul_le size (Place.hdr_len payload - NLA_HDRLEN)
    apply Or.inr
    dsimp only
    omega
  · exact Or.inl (Nat.zero_mul _)

/-- There are no more of them than would fit into all of the payload. -/
theorem nestedCount_le (size : Nat) (event_id : Int) (payload : List UInt8) :
    nestedCount size event_id payload ≤ recordCount size payload.length := by
  rw [nestedCount]
  split_ifs with hnested
  · obtain ⟨_, hheader, hlen⟩ := nla_ok_iff.mp hnested.1
    apply min_le_min_left
    apply Nat.div_le_div_right
    omega
  · exact Nat.zero_le _

/-- Without the type of the event there is no record. -/
theorem nestedCount_of_ne (hother : ((Place.nla_type payload).toNat : Int) ≠ event_id) :
    nestedCount size event_id payload = 0 :=
  if_neg fun h => hother h.2

/-- A handler that returns at once is exact. -/
theorem recordsExact_none {α : Type} (payload : List UInt8) (records : List α) :
    RecordsExact payload records none {} := by
  constructor
  · intro r hr
    cases hr
  · intro rs hrs
    cases hrs

/-- What a callback is called with are these records just if they are the results. -/
theorem BssidHotlistCommand.report_results_iff (id : Int) (num : Nat) {records : List (List UInt8)} :
    (∀ rs ∈ (report on_hotlist_ap_found on_hotlist_ap_lost id event_id num mResults).map HotlistReport.results,
        rs = records) ↔
      (HotlistCalls on_hotlist_ap_found on_hotlist_ap_lost event_id → mResults = records) := by
  have hne : GSCAN_EVENT_HOTLIST_RESULTS_FOUND.toInt ≠ GSCAN_EVENT_HOTLIST_RESULTS_LOST.toInt := by decide
  rw [report, HotlistCalls]
  split_ifs with hfound hhandler hlost hhandler
  · simp [hfound, hhandler]
  · simp [hfound, hhandler, hne]
  · simp [hlost, hhandler, hne.symm]
  · simp [hlost, hhandler, hne.symm]
  · simp [hfound, hlost]

/-- The type in the header is read inside the payload just if the header is inside. -/
theorem type_within_iff {len : Nat} : (⟨2, 2⟩ : Range).Within len ↔ NLA_HDRLEN ≤ len :=
  ⟨fun hwithin => hwithin.le (by decide), Or.inr⟩

theorem BssidHotlistCommand.copyResults_apply (mem : Place) (nla_type : UInt16) (num : Nat) (s : Accesses) :
    copyResults size mem nla_type num s =
      if HasType nla_type GSCAN_EVENT_HOTLIST_RESULTS_LOST ∨ HasType nla_type GSCAN_EVENT_HOTLIST_RESULTS_FOUND then
        (recordsAt mem size num, { s with reads := s.reads ++ [⟨NLA_HDRLEN, num * size⟩] })
      else (List.replicate num (List.replicate size 0), s) := by
  rw [copyResults]
  split_ifs
  · rfl
  · rfl

theorem BssidHotlistCommand.copyResults_length (mem : Place) (nla_type : UInt16) (num : Nat) (s : Accesses) :
    (copyResults size mem nla_type num s).1.length = num := by
  rw [copyResults_apply]
  split_ifs
  · exact recordsAt_length mem size num
  · exact List.length_replicate

/-- All of the reads are inside of so many bytes just if the header and the records that
are copied are. -/
theorem BssidHotlistCommand.copyResults_reads_iff (mem : Place) (nla_type : UInt16) (num : Nat) {len : Nat} :
    (∀ r ∈ (copyResults size mem nla_type num { reads := [⟨0, 2⟩, ⟨2, 2⟩] }).2.reads, r.Within len) ↔
      NLA_HDRLEN ≤ len ∧ (HasType nla_type GSCAN_EVENT_HOTLIST_RESULTS_LOST ∨
        HasType nla_type GSCAN_EVENT_HOTLIST_RESULTS_FOUND → (⟨NLA_HDRLEN, num * size⟩ : Range).Within len) := by
  have hlogged : NLA_HDRLEN ≤ len → (⟨0, 2⟩ : Range).Within len := by
    intro hheader
    have hheader' : 4 ≤ len := hheader
    exact Or.inr (by dsimp only; omega)
  rw [copyResults_apply]
  split_ifs with htype
  · rw [List.cons_append, List.singleton_append, List.forall_mem_cons, List.forall_mem_cons,
      List.forall_mem_singleton, type_within_iff]
    exact ⟨fun ⟨_, hheader, hcopied⟩ => ⟨hheader, fun _ => hcopied⟩,
      fun ⟨hheader, hcopied⟩ => ⟨hlogged hheader, hheader, hcopied htype⟩⟩
  · rw [List.forall_mem_cons, List.forall_mem_singleton, type_within_iff]
    exact ⟨fun ⟨_, hheader⟩ => ⟨hheader, fun h => absurd h htype⟩, fun ⟨hheader, _⟩ => ⟨hlogged hheader, hheader⟩⟩

/-- Where an event has a callback and the records are inside, those that are copied are the
ones of the nested attribute just if they are as many: an attribute of another type has
none, so no zeros are counted either. -/
theorem BssidHotlistCommand.copyResults_eq_iff (beyond : List UInt8) (num : Nat) (s : Accesses)
    (hcall : HotlistCalls on_hotlist_ap_found on_hotlist_ap_lost event_id)
    (hinside : HasType (Place.nla_type payload) GSCAN_EVENT_HOTLIST_RESULTS_LOST ∨
        HasType (Place.nla_type payload) GSCAN_EVENT_HOTLIST_RESULTS_FOUND →
      (⟨NLA_HDRLEN, num * size⟩ : Range).Within payload.length) :
    (copyResults size (payload ++ beyond) (Place.nla_type payload) num s).1 =
        recordsAt payload size (nestedCount size event_id payload) ↔ num = nestedCount size event_id payload := by
  constructor
  · intro heq
    have hlength := congrArg List.length heq
    rwa [copyResults_length, recordsAt_length] at hlength
  · intro hcount
    rw [copyResults_apply, ← hcount]
    split_ifs with htype
    · exact recordsAt_append beyond (hinside htype)
    · have hother : ((Place.nla_type payload).toNat : Int) ≠ event_id := by
        rintro rfl
        apply htype
        obtain ⟨hfound, _⟩ | ⟨hlost, _⟩ := hcall
        · exact Or.inr hfound
        · exact Or.inl hlost
      rw [hcount, nestedCount_of_ne hother]
      rfl

/-- The header is read first, whatever the payload is. -/
theorem BssidHotlistCommand.handleEvent_apply (hpayload : payload ≠ []) (size : Nat)
    (on_hotlist_ap_found on_hotlist_ap_lost : Bool) (id event_id : Int) (beyond : List UInt8) :
    ∃ copied, copied = copyResults size (payload ++ beyond) (UInt16.ofNat (Place.number (payload ++ beyond) 2 2))
        (recordCount size payload.length) { reads := [⟨0, 2⟩, ⟨2, 2⟩] } ∧
      handleEvent size on_hotlist_ap_found on_hotlist_ap_lost id event_id (some payload) beyond {} =
        (report on_hotlist_ap_found on_hotlist_ap_lost id event_id (recordCount size payload.length) copied.1,
          copied.2) := by
  have hlen : payload.length ≠ 0 := fun h => hpayload (List.length_eq_zero_iff.mp h)
  refine ⟨_, rfl, ?_⟩
  rw [handleEvent, if_neg hlen]
  rfl

theorem SignificantWifiChangeCommand.handleEvent_apply (hpayload : payload ≠ []) :
    handleEvent id (some payload) beyond {} =
      reportChanges id (payload ++ beyond) (UInt16.ofNat (Place.number (payload ++ beyond) 2 2))
        (recordCount SIZEOF_CHANGE_INFO payload.length) { reads := [⟨2, 2⟩] } := by
  have hlen : payload.length ≠ 0 := fun h => hpayload (List.length_eq_zero_iff.mp h)
  rw [handleEvent, if_neg hlen]
  rfl

theorem SignificantWifiChangeCommand.reportChanges_apply (id : Int) (mem : Place) (nla_type : UInt16) (num : Nat)
    (s : Accesses) :
    reportChanges id mem nla_type num s =
      if HasType nla_type GSCAN_EVENT_SIGNIFICANT_CHANGE_RESULTS then
        (if num ≠ 0 then some ⟨id, num, (recordsAt mem SIZEOF_CHANGE_INFO num).map SignificantChange.read⟩ else none,
          { s with reads := s.reads ++ (List.range num).flatMap fun i =>
              CHANGE_FIELDS.map (·.shift (NLA_HDRLEN + i * SIZEOF_CHANGE_INFO)) })
      else (none, s) := by
  rw [reportChanges]
  split_ifs
  · rfl
  · rfl
  · rfl

/-- A hotlist event is exact just if the counts are, for a payload that is not empty. -/
theorem BssidHotlistCommand.recordsExact_iff (hpayload : payload ≠ []) (size : Nat)
    (on_hotlist_ap_found on_hotlist_ap_lost : Bool) (id event_id : Int) (beyond : List UInt8) :
    RecordsExact payload (recordsAt payload size (nestedCount size event_id payload))
        ((handleEvent size on_hotlist_ap_found on_hotlist_ap_lost id event_id (some payload) beyond {}).1.map
          HotlistReport.results)
        (handleEvent size on_hotlist_ap_found on_hotlist_ap_lost id event_id (some payload) beyond {}).2 ↔
      HotlistCounts size on_hotlist_ap_found on_hotlist_ap_lost event_id payload := by
  obtain ⟨copied, hcopied, hevent⟩ := handleEvent_apply hpayload size on_hotlist_ap_found on_hotlist_ap_lost
    id event_id beyond
  rw [hevent]
  constructor
  · rintro ⟨hreads, hresults⟩
    rw [report_results_iff] at hresults
    rw [hcopied] at hreads hresults
    obtain ⟨hheader, hinside⟩ := (copyResults_reads_iff _ _ _).mp hreads
    rw [nla_type_append hheader] at hinside hresults
    exact ⟨hheader, hinside, fun hcall => (copyResults_eq_iff beyond _ _ hcall hinside).mp (hresults hcall)⟩
  · rintro ⟨hheader, hinside, hcount⟩
    rw [nla_type_append hheader] at hcopied
    constructor
    · rw [hcopied]
      exact (copyResults_reads_iff _ _ _).mpr ⟨hheader, hinside⟩
    · rw [report_results_iff, hcopied]
      exact fun hcall => (copyResults_eq_iff beyond _ _ hcall hinside).mpr (hcount hcall)

/-- The fields of so many records are inside the payload if the records are. -/
theorem changes_within (hinside : (⟨NLA_HDRLEN, num * SIZEOF_CHANGE_INFO⟩ : Range).Within payload.length) :
    ∀ r ∈ (List.range num).flatMap fun i => CHANGE_FIELDS.map (·.shift (NLA_HDRLEN + i * SIZEOF_CHANGE_INFO)),
      r.Within payload.length := by
  intro r hr
  obtain ⟨i, hi, hr⟩ := List.mem_flatMap.mp hr
  obtain ⟨field, hfield, rfl⟩ := List.mem_map.mp hr
  have hlt : i < num := List.mem_range.mp hi
  have hroom : ∀ field ∈ CHANGE_FIELDS, field.offset + field.size ≤ SIZEOF_CHANGE_INFO := by decide
  have hle := Nat.mul_le_mul_right SIZEOF_CHANGE_INFO (Nat.succ_le_of_lt hlt)
  rw [Nat.succ_mul] at hle
  apply Range.shift_within (hroom field hfield)
  obtain hzero | hinside := hinside
  · have hpos : 0 < SIZEOF_CHANGE_INFO := by decide
    dsimp only at hzero
    omega
  · dsimp only at hinside
    omega

/-- So is an event of a significant change. -/
theorem SignificantWifiChangeCommand.recordsExact_iff (hpayload : payload ≠ []) (id : Int) (beyond : List UInt8) :
    RecordsExact payload
        ((recordsAt payload SIZEOF_CHANGE_INFO
          (nestedCount SIZEOF_CHANGE_INFO GSCAN_EVENT_SIGNIFICANT_CHANGE_RESULTS.toInt payload)).map SignificantChange.read)
        ((handleEvent id (some payload) beyond {}).1.map SignificantReport.results)
        (handleEvent id (some payload) beyond {}).2 ↔
      ChangeCounts payload := by
  rw [handleEvent_apply hpayload, reportChanges_apply]
  constructor
  · intro hexact
    have hheader : NLA_HDRLEN ≤ payload.length := by
      apply type_within_iff.mp
      apply hexact.reads
      split_ifs <;> exact List.mem_cons_self
    refine ⟨hheader, ?_⟩
    intro htype
    rw [nla_type_append hheader, if_pos htype] at hexact
    by_cases hnum : recordCount SIZEOF_CHANGE_INFO payload.length = 0
    · have hle := nestedCount_le SIZEOF_CHANGE_INFO GSCAN_EVENT_SIGNIFICANT_CHANGE_RESULTS.toInt payload
      omega
    · have hresults := hexact.results _ (by rw [if_pos hnum]; rfl)
      have hlength := congrArg List.length hresults
      rwa [List.length_map, List.length_map, recordsAt_length, recordsAt_length] at hlength
  · rintro ⟨hheader, hcount⟩
    have htyped := type_within_iff.mpr hheader
    rw [nla_type_append hheader]
    by_cases htype : HasType (Place.nla_type payload) GSCAN_EVENT_SIGNIFICANT_CHANGE_RESULTS
    · have hinside := nestedCount_within SIZEOF_CHANGE_INFO GSCAN_EVENT_SIGNIFICANT_CHANGE_RESULTS.toInt payload
      rw [if_pos htype, hcount htype, recordsAt_append beyond hinside]
      constructor
      · rw [List.singleton_append, List.forall_mem_cons]
        exact ⟨htyped, changes_within hinside⟩
      · intro rs hrs
        obtain ⟨report, hsome, rfl⟩ := Option.map_eq_some_iff.mp hrs
        split_ifs at hsome
        · obtain rfl := Option.some.inj hsome
          rfl
    · rw [if_neg htype]
      constructor
      · rw [List.forall_mem_singleton]
        exact htyped
      · intro rs hrs
        cases hrs

end

/-- What is reported of a payload are its records just if the counts are right, which
both handlers take from the length of the payload with the header. -/
theorem recordEvents_exact_iff (sizeof_wifi_scan_result : Nat) (on_hotlist_ap_found on_hotlist_ap_lost : Bool)
    (id event_id : Int) (payload beyond : List UInt8) :
    (RecordsExact payload
        (recordsAt payload sizeof_wifi_scan_result (nestedCount sizeof_wifi_scan_result event_id payload))
        ((BssidHotlistCommand.handleEvent sizeof_wifi_scan_result on_hotlist_ap_found on_hotlist_ap_lost id event_id
          (some payload) beyond {}).1.map HotlistReport.results)
        (BssidHotlistCommand.handleEvent sizeof_wifi_scan_result on_hotlist_ap_found on_hotlist_ap_lost id event_id
          (some payload) beyond {}).2 ↔
      (payload ≠ [] →
        HotlistCounts sizeof_wifi_scan_result on_hotlist_ap_found on_hotlist_ap_lost event_id payload)) ∧
      (RecordsExact payload
        ((recordsAt payload SIZEOF_CHANGE_INFO
          (nestedCount SIZEOF_CHANGE_INFO GSCAN_EVENT_SIGNIFICANT_CHANGE_RESULTS.toInt payload)).map SignificantChange.read)
        ((SignificantWifiChangeCommand.handleEvent id (some payload) beyond {}).1.map SignificantReport.results)
        (SignificantWifiChangeCommand.handleEvent id (some payload) beyond {}).2 ↔
      (payload ≠ [] → ChangeCounts payload)) := by
  by_cases hpayload : payload = []
  · obtain rfl := hpayload
    constructor
    · exact iff_of_true (recordsExact_none [] _) fun h => absurd rfl h
    · exact iff_of_true (recordsExact_none [] _) fun h => absurd rfl h
  · rw [BssidHotlistCommand.recordsExact_iff hpayload, SignificantWifiChangeCommand.recordsExact_iff hpayload]
    exact ⟨⟨fun h _ => h, fun h => h hpayload⟩, ⟨fun h _ => h, fun h => h hpayload⟩⟩

/-- Of incomplete records the rest is read behind the payload, and of an attribute with
another type zeros are reported. -/
theorem recordEvents_inexact :
    (¬ RecordsExact ([88, 0, 1, 0] ++ List.replicate 84 0)
        (recordsAt ([88, 0, 1, 0] ++ List.replicate 84 0) 88
          (nestedCount 88 1 ([88, 0, 1, 0] ++ List.replicate 84 0)))
        ((BssidHotlistCommand.handleEvent 88 true true 5 1 (some ([88, 0, 1, 0] ++ List.replicate 84 0))
          [9, 9, 9, 9] {}).1.map HotlistReport.results)
        (BssidHotlistCommand.handleEvent 88 true true 5 1 (some ([88, 0, 1, 0] ++ List.replicate 84 0))
          [9, 9, 9, 9] {}).2) ∧
      (¬ RecordsExact ([92, 0, 2, 0] ++ List.replicate 88 7)
        (recordsAt ([92, 0, 2, 0] ++ List.replicate 88 7) 88
          (nestedCount 88 1 ([92, 0, 2, 0] ++ List.replicate 88 7)))
        ((BssidHotlistCommand.handleEvent 88 true true 5 1 (some ([92, 0, 2, 0] ++ List.replicate 88 7))
          [] {}).1.map HotlistReport.results)
        (BssidHotlistCommand.handleEvent 88 true true 5 1 (some ([92, 0, 2, 0] ++ List.replicate 88 7)) [] {}).2) ∧
      ¬ RecordsExact ([18, 0, 0, 0] ++ List.replicate 14 1)
        ((recordsAt ([18, 0, 0, 0] ++ List.replicate 14 1) SIZEOF_CHANGE_INFO
          (nestedCount SIZEOF_CHANGE_INFO GSCAN_EVENT_SIGNIFICANT_CHANGE_RESULTS.toInt
            ([18, 0, 0, 0] ++ List.replicate 14 1))).map SignificantChange.read)
        ((SignificantWifiChangeCommand.handleEvent 5 (some ([18, 0, 0, 0] ++ List.replicate 14 1))
          [9, 9, 9, 9] {}).1.map SignificantReport.results)
        (SignificantWifiChangeCommand.handleEvent 5 (some ([18, 0, 0, 0] ++ List.replicate 14 1))
          [9, 9, 9, 9] {}).2 := by
  refine ⟨?_, ?_, ?_⟩
  · intro hexact
    have hread := (hexact.reads ⟨4, 88⟩ (by decide +kernel)).le (by decide)
    revert hread
    decide
  · intro hexact
    have hzeros := hexact.results [List.replicate 88 0] (by decide +kernel)
    revert hzeros
    decide +kernel
  · intro hexact
    have hread := (hexact.reads ⟨14, 8⟩ (by decide +kernel)).le (by decide)
    revert hread
    decide

end panelli.wifi_hal
