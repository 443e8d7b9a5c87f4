import Panelli.Access
import Panelli.Runs
import Panelli.WifiHal.GscanResult

open panelli.netlink panelli.access
open panelli.runs (mapM_eq_pure_map ok_of_mapM_eq_ok)

namespace panelli.wifi_hal

def PNO_SSID_FOUND : UInt16 := 1

/-- The size of a record of a network that the driver looked for. -/
def SIZEOF_PNO_RESULT : Nat := 44

/-- Such a record. -/
structure PnoResult where
  ssid : List UInt8
  ssid_len : UInt8
  rssi : Int8
  channel : UInt16
  flags : UInt16
  bssid : List UInt8

/-- The record at a place, by the layout of the structure. -/
def PnoResult.read (p : Place) : PnoResult where
  ssid := p.take DOT11_MAX_SSID_LEN
  ssid_len := UInt8.ofNat (p.number 32 1)
  rssi := Int8.ofNat (p.number 33 1)
  channel := UInt16.ofNat (p.number 34 2)
  flags := UInt16.ofNat (p.number 36 2)
  bssid := (p.drop 38).take 6

/-- A result of the framework that was cleared. -/
def WifiScanResult.cleared : WifiScanResult where
  ts := 0
  ssid := List.replicate (DOT11_MAX_SSID_LEN + 1) 0
  bssid := List.replicate 6 0
  channel := 0
  rssi := 0
  rtt := 0
  rtt_sd := 0
  beacon_period := 0
  capability := 0
  ie_length := 0

/-- How an access leaves the field it is meant for. -/
inductive Overrun where
  | readsPast
  | writesPast
deriving DecidableEq

/-- A copy of the first bytes of one field to the start of another. -/
def memcpy (dst src : List UInt8) (size : Nat) : Except Overrun (List UInt8) :=
  if src.length < size then .error .readsPast
  else if dst.length < size then .error .writesPast
  else .ok (overwrite dst (src.take size))

/-- The assignment to a byte of a field. -/
def assign (dst : List UInt8) (i : Nat) (byte : UInt8) : Except Overrun (List UInt8) :=
  if i < dst.length then .ok (dst.set i byte) else .error .writesPast

/-- The body of the loop over the records: the result at the same index, which
stays cleared when the network was not found. -/
def PnoResult.report (res : PnoResult) : Except Overrun WifiScanResult :=
  if res.flags = PNO_SSID_FOUND then do
    let copied ← memcpy WifiScanResult.cleared.ssid res.ssid res.ssid_len.toNat
    let ssid ← assign copied res.ssid_len.toNat 0
    return { WifiScanResult.cleared with
      ssid := ssid
      bssid := res.bssid
      channel := res.channel.toUInt32
      rssi := res.rssi.toInt32.toUInt32 }
  else return .cleared

/-- What `on_network_found` is called with. -/
structure NetworkFound where
  id : Int
  num : Nat
  results : List WifiScanResult

/-- The records of a payload, as many as there is room for. -/
def pnoRecords (MAX_EPNO_NETWORKS : Nat) (payload : List UInt8) : List PnoResult :=
  (List.range (min MAX_EPNO_NETWORKS (payload.length / SIZEOF_PNO_RESULT))).map fun i =>
    .read (payload.drop (i * SIZEOF_PNO_RESULT))

/-- `ePNOCommand::handleEvent`, with how many results the framework's header makes
room for. -/
def ePNOCommand.handleEvent (MAX_EPNO_NETWORKS : Nat) (on_network_found : Bool) (id : Int)
    (vendor_data : Option (List UInt8)) : Except Overrun (Option NetworkFound) :=
  match vendor_data with
  | none => return none
  | some vendor_data =>
    if vendor_data.length = 0 then return none
    else do
      let records := pnoRecords MAX_EPNO_NETWORKS vendor_data
      let mResults ← records.mapM PnoResult.report
      return if on_network_found then some ⟨id, records.length, mResults⟩ else none

/-- The name of a record, terminated. -/
def PnoResult.name (res : PnoResult) : List UInt8 :=
  let name := res.ssid.take res.ssid_len.toNat
  name ++ List.replicate (DOT11_MAX_SSID_LEN + 1 - name.length) 0

/-- The result that a network is reported with. -/
def PnoResult.toHal (res : PnoResult) : WifiScanResult :=
  { WifiScanResult.cleared with
    ssid := res.name
    bssid := res.bssid
    channel := res.channel.toUInt32
    rssi := res.rssi.toInt32.toUInt32 }

/-- The records of the networks that were found. -/
def foundRecords (MAX_EPNO_NETWORKS : Nat) (payload : List UInt8) : List PnoResult :=
  (pnoRecords MAX_EPNO_NETWORKS payload).filter (·.flags = PNO_SSID_FOUND)

/-- No access leaves its field, and a handler is called with the networks that were
found, in order. -/
def DeliversFound (MAX_EPNO_NETWORKS : Nat) (on_network_found : Bool) (id : Int)
    (vendor_data : Option (List UInt8)) (handled : Except Overrun (Option NetworkFound)) : Prop :=
  ∃ called, handled = .ok called ∧
    (called.isSome ↔ on_network_found ∧ ∃ payload ∈ vendor_data, payload ≠ []) ∧
    ∀ payload ∈ vendor_data, ∀ c ∈ called, c.id = id ∧ c.num = (foundRecords MAX_EPNO_NETWORKS payload).length ∧
      c.results = (foundRecords MAX_EPNO_NETWORKS payload).map PnoResult.toHal

/-- The names of the found networks have a length that fits, and a handler is only
told of found networks. -/
structure RecordsReportable (MAX_EPNO_NETWORKS : Nat) (on_network_found : Bool) (payload : List UInt8) : Prop where
  ssid_len : ∀ res ∈ foundRecords MAX_EPNO_NETWORKS payload, res.ssid_len.toNat ≤ DOT11_MAX_SSID_LEN
  all_found : on_network_found → ∀ res ∈ pnoRecords MAX_EPNO_NETWORKS payload, res.flags = PNO_SSID_FOUND

section

variable {MAX_EPNO_NETWORKS : Nat} {on_network_found : Bool} {id : Int} {payload : List UInt8} {res : PnoResult}

/-- The records are inside the payload, so their names are complete. -/
theorem pnoRecords_ssid_length (hres : res ∈ pnoRecords MAX_EPNO_NETWORKS payload) :
    res.ssid.length = DOT11_MAX_SSID_LEN := by
  obtain ⟨i, hi, rfl⟩ := List.mem_map.mp hres
  have hlt : i < payload.length / SIZEOF_PNO_RESULT := by
    rw [List.mem_range] at hi
    omega
  have hinside : (i + 1) * SIZEOF_PNO_RESULT ≤ payload.length :=
    Nat.mul_le_of_le_div _ _ _ hlt
  simp only [PnoResult.read, List.length_take, List.length_drop, DOT11_MAX_SSID_LEN]
  rw [Nat.add_mul, SIZEOF_PNO_RESULT] at hinside
  rw [SIZEOF_PNO_RESULT]
  omega

/-- The terminator is assigned where a zero is already. -/
theorem set_overwrite_cleared (name : List UInt8) (hname : name.length ≤ DOT11_MAX_SSID_LEN) :
    (overwrite WifiScanResult.cleared.ssid name).set name.length 0 =
      name ++ List.replicate (DOT11_MAX_SSID_LEN + 1 - name.length) 0 := by
  obtain ⟨more, hmore⟩ := Nat.exists_eq_add_of_le hname
  have hroom : DOT11_MAX_SSID_LEN + 1 - name.length = more + 1 := by omega
  rw [overwrite, WifiScanResult.cleared, List.drop_replicate, hroom, List.set_append_right _ _ (Nat.le_refl _),
    Nat.sub_self, List.replicate_succ, List.set_cons_zero]

/-- A found network whose name has a length that fits is reported. -/
theorem PnoResult.report_of_found (hfound : res.flags = PNO_SSID_FOUND)
    (hssid : res.ssid.length = DOT11_MAX_SSID_LEN) (hssid_len : res.ssid_len.toNat ≤ DOT11_MAX_SSID_LEN) :
    res.report = .ok res.toHal := by
  have hlength : (res.ssid.take res.ssid_len.toNat).length = res.ssid_len.toNat := by
    rw [List.length_take]
    omega
  have hcleared : WifiScanResult.cleared.ssid.length = DOT11_MAX_SSID_LEN + 1 := List.length_replicate
  have hcopied : memcpy WifiScanResult.cleared.ssid res.ssid res.ssid_len.toNat =
      .ok (overwrite WifiScanResult.cleared.ssid (res.ssid.take res.ssid_len.toNat)) := by
    rw [memcpy, if_neg (by omega), if_neg (by omega)]
  have hassigned : assign (overwrite WifiScanResult.cleared.ssid (res.ssid.take res.ssid_len.toNat))
      res.ssid_len.toNat 0 = .ok res.name := by
    have hset := set_overwrite_cleared (res.ssid.take res.ssid_len.toNat) (by omega)
    rw [hlength] at hset
    rw [assign, if_pos, hset, PnoResult.name, hlength]
    rw [overwrite, List.length_append, List.length_drop]
    omega
  rw [PnoResult.report, if_pos hfound, hcopied]
  simp only [bind, Except.bind, hassigned]
  rfl

theorem PnoResult.report_of_not_found (hother : res.flags ≠ PNO_SSID_FOUND) :
    res.report = .ok WifiScanResult.cleared := by
  rw [PnoResult.report, if_neg hother]
  rfl

/-- A name that is longer than its field is read past the end of the field. -/
theorem PnoResult.report_of_long (hfound : res.flags = PNO_SSID_FOUND)
    (hssid : res.ssid.length = DOT11_MAX_SSID_LEN) (hlong : DOT11_MAX_SSID_LEN < res.ssid_len.toNat) :
    res.report = .error .readsPast := by
  have hcopied : memcpy WifiScanResult.cleared.ssid res.ssid res.ssid_len.toNat = .error .readsPast :=
    if_pos (by omega)
  rw [PnoResult.report, if_pos hfound, hcopied]
  rfl

/-- Without a name that is too long every record is reported or left cleared. -/
theorem mapM_report (hssid_len : ∀ res ∈ foundRecords MAX_EPNO_NETWORKS payload,
      res.ssid_len.toNat ≤ DOT11_MAX_SSID_LEN) :
    (pnoRecords MAX_EPNO_NETWORKS payload).mapM PnoResult.report =
      .ok ((pnoRecords MAX_EPNO_NETWORKS payload).map fun res =>
        if res.flags = PNO_SSID_FOUND then res.toHal else .cleared) := by
  apply mapM_eq_pure_map
  intro res hres
  by_cases hfound : res.flags = PNO_SSID_FOUND
  · have hmem : res ∈ foundRecords MAX_EPNO_NETWORKS payload := List.mem_filter.mpr ⟨hres, by simpa using hfound⟩
    rw [if_pos hfound]
    exact PnoResult.report_of_found hfound (pnoRecords_ssid_length hres) (hssid_len res hmem)
  · rw [if_neg hfound]
    exact PnoResult.report_of_not_found hfound

/-- Records that are all reported have names that fit. -/
theorem ssid_len_of_mapM_report {results : List WifiScanResult}
    (hok : (pnoRecords MAX_EPNO_NETWORKS payload).mapM PnoResult.report = .ok results) :
    ∀ res ∈ foundRecords MAX_EPNO_NETWORKS payload, res.ssid_len.toNat ≤ DOT11_MAX_SSID_LEN := by
  intro res hres
  obtain ⟨hmem, hfound⟩ := List.mem_filter.mp hres
  by_contra hlong
  obtain ⟨result, hreport⟩ := ok_of_mapM_eq_ok hok res hmem
  rw [PnoResult.report_of_long (by simpa using hfound) (pnoRecords_ssid_length hmem) (Nat.lt_of_not_le hlong)]
    at hreport
  cases hreport

/-- As many records are found as there are just if all are. -/
theorem foundRecords_length_iff :
    (pnoRecords MAX_EPNO_NETWORKS payload).length = (foundRecords MAX_EPNO_NETWORKS payload).length ↔
      ∀ res ∈ pnoRecords MAX_EPNO_NETWORKS payload, res.flags = PNO_SSID_FOUND := by
  rw [foundRecords, eq_comm, List.length_filter_eq_length_iff]
  simp

theorem foundRecords_eq (hall : ∀ res ∈ pnoRecords MAX_EPNO_NETWORKS payload, res.flags = PNO_SSID_FOUND) :
    foundRecords MAX_EPNO_NETWORKS payload = pnoRecords MAX_EPNO_NETWORKS payload := by
  rw [foundRecords, List.filter_eq_self]
  simpa using hall

/-- An event with a payload is the reports of its records, then the call. -/
theorem ePNOCommand.handleEvent_of_ne_nil (MAX_EPNO_NETWORKS : Nat) (on_network_found : Bool) (id : Int)
    (hpayload : payload ≠ []) :
    ePNOCommand.handleEvent MAX_EPNO_NETWORKS on_network_found id (some payload) =
      ((pnoRecords MAX_EPNO_NETWORKS payload).mapM PnoResult.report).map fun results =>
        if on_network_found then some ⟨id, (pnoRecords MAX_EPNO_NETWORKS payload).length, results⟩ else none := by
  have hlength : payload.length ≠ 0 := fun h => hpayload (List.length_eq_zero_iff.mp h)
  simp only [ePNOCommand.handleEvent, if_neg hlength]
  cases (pnoRecords MAX_EPNO_NETWORKS payload).mapM PnoResult.report with
  | error overrun => rfl
  | ok results => rfl

theorem pnoRecords_nil (MAX_EPNO_NETWORKS : Nat) : pnoRecords MAX_EPNO_NETWORKS [] = [] := by
  rw [pnoRecords, List.length_nil, Nat.zero_div, Nat.min_zero]
  rfl

/-- An event with a payload delivers just if its records can be reported. -/
theorem ePNOCommand.payload_delivers_iff (MAX_EPNO_NETWORKS : Nat) (on_network_found : Bool) (id : Int)
    (hpayload : payload ≠ []) :
    DeliversFound MAX_EPNO_NETWORKS on_network_found id (some payload)
        (ePNOCommand.handleEvent MAX_EPNO_NETWORKS on_network_found id (some payload)) ↔
      RecordsReportable MAX_EPNO_NETWORKS on_network_found payload := by
  rw [ePNOCommand.handleEvent_of_ne_nil _ _ _ hpayload]
  constructor
  · rintro ⟨called, hhandled, _, hcall⟩
    cases hreports : (pnoRecords MAX_EPNO_NETWORKS payload).mapM PnoResult.report with
    | error overrun =>
      rw [hreports] at hhandled
      cases hhandled
    | ok results =>
      refine ⟨ssid_len_of_mapM_report hreports, ?_⟩
      intro hhandler
      rw [hreports, Except.map, if_pos hhandler] at hhandled
      obtain rfl := Except.ok.inj hhandled
      obtain ⟨_, hnum, _⟩ := hcall payload rfl _ rfl
      exact foundRecords_length_iff.mp hnum
  · rintro ⟨hssid_len, hall⟩
    rw [mapM_report hssid_len, Except.map]
    refine ⟨_, rfl, ?_, ?_⟩
    · cases on_network_found with
      | false => simp
      | true => simpa using hpayload
    · intro _ hsome c hc
      obtain rfl := Option.some.inj hsome
      cases on_network_found with
      | false => cases hc
      | true =>
        obtain rfl := Option.some.inj hc
        have hfound := foundRecords_eq (hall rfl)
        refine ⟨rfl, by rw [hfound], ?_⟩
        rw [hfound]
        apply List.map_congr_left
        exact fun res hres => if_pos (hall rfl res hres)

end

/-- An event delivers the networks that were found just if the length of each of
their names fits, which nothing checks, and no network was not found: such a record
is not copied, but it is counted. -/
theorem ePNOCommand.handleEvent_delivers_iff (MAX_EPNO_NETWORKS : Nat) (on_network_found : Bool) (id : Int)
    (vendor_data : Option (List UInt8)) :
    DeliversFound MAX_EPNO_NETWORKS on_network_found id vendor_data
        (ePNOCommand.handleEvent MAX_EPNO_NETWORKS on_network_found id vendor_data) ↔
      ∀ payload ∈ vendor_data, RecordsReportable MAX_EPNO_NETWORKS on_network_found payload := by
  cases vendor_data with
  | none =>
    constructor
    · intro _ payload hpayload
      cases hpayload
    · intro _
      exact ⟨none, rfl, by simp, by simp⟩
  | some payload =>
    have honly : (∀ p ∈ some payload, RecordsReportable MAX_EPNO_NETWORKS on_network_found p) ↔
        RecordsReportable MAX_EPNO_NETWORKS on_network_found payload := by
      simp
    rw [honly]
    by_cases hpayload : payload = []
    · subst hpayload
      constructor
      · intro _
        exact ⟨by simp [foundRecords, pnoRecords_nil], by simp [pnoRecords_nil]⟩
      · intro _
        exact ⟨none, rfl, by simp, by simp⟩
    · exact ePNOCommand.payload_delivers_iff MAX_EPNO_NETWORKS on_network_found id hpayload

/-- A network that was lost, in front of one that was found. -/
def lostThenFound : List UInt8 :=
  List.replicate 44 0 ++ ([65] ++ List.replicate 31 0 ++ [1, 200, 1, 0, 1, 0, 1, 2, 3, 4, 5, 6])

/-- The handler is told of two networks, the first of them empty. -/
theorem ePNOCommand.handleEvent_reports_hole :
    ¬ DeliversFound 64 true 7 (some lostThenFound)
      (ePNOCommand.handleEvent 64 true 7 (some lostThenFound)) := by
  rintro ⟨called, hhandled, hcalled, hcall⟩
  cases called with
  | none =>
    have hsome := hcalled.mpr ⟨rfl, lostThenFound, rfl, by decide⟩
    cases hsome
  | some c =>
    obtain ⟨_, hnum, _⟩ := hcall lostThenFound rfl c rfl
    have hrun : (ePNOCommand.handleEvent 64 true 7 (some lostThenFound)).toOption.bind
        (fun o => o.map NetworkFound.num) = some 2 := by
      decide +kernel
    have hfound : (foundRecords 64 lostThenFound).length = 1 := by decide +kernel
    rw [hhandled] at hrun
    have htwo : c.num = 2 := Option.some.inj hrun
    omega

end panelli.wifi_hal
