import Panelli.WpaSupplicant.CommandRun

open panelli.bytes panelli.cstring panelli.printf

namespace panelli.wpa_supplicant.driver_cmd

/-- A software command that is asked for: its branch, with the number it is given, if it takes one. -/
structure Asked where
  branch : Branch
  idx : Nat
deriving DecidableEq

def askedBy (cmd : List UInt8) : Branch → Option Asked
  | .rxfilter length offset => (strtol0 (cmd.drop length)).map fun idx => ⟨.rxfilter length offset, toU32 idx⟩
  | .sw_cmd adr dat => some ⟨.sw_cmd adr dat, 0⟩
  | .smt_rate => (strtol0 (cmd.drop 8)).map fun idx => ⟨.smt_rate, toU32 idx⟩
  | .set_band adr => some ⟨.set_band adr, 0⟩
  | .set_scan_loading => some ⟨.set_scan_loading, 0⟩
  | _ => none

/-- The number of a filter is a byte. -/
def Asked.InRange (asked : Asked) : Prop :=
  match asked.branch with
  | .rxfilter _ _ => asked.idx < 0x100
  | _ => True

instance (asked : Asked) : Decidable asked.InRange := by
  unfold Asked.InRange
  split
  · exact inferInstance
  · exact inferInstance

/-- What an address and its data stand for, read the other way round. -/
def askedFor (adr dat : Nat) : Option Asked :=
  if adr = 0x9F000000 then
    if dat = 0x00900000 ∨ dat = 0x00900100 then some ⟨.sw_cmd adr dat, 0⟩
    else if 0x00900200 ≤ dat ∧ dat < 0x00900300 then some ⟨.rxfilter 12 0x00900200, dat - 0x00900200⟩
    else if 0x00900300 ≤ dat ∧ dat < 0x00900400 then some ⟨.rxfilter 15 0x00900300, dat - 0x00900300⟩
    else none
  else if adr = 0xFFFF0123 then some ⟨.smt_rate, dat⟩
  else if adr = 0xFFFF1250 ∨ adr = 0xFFFF1251 ∨ adr = 0xFFFF1252 then some ⟨.set_band adr, 0⟩
  else if adr = 0xFFFF1253 then some ⟨.set_scan_loading, 0⟩
  else some ⟨.sw_cmd adr dat, 0⟩

/-- The bytes of a block, where all were written. -/
def written (data : Block) : Option (List UInt8) := data.mapM id

/-- A reader of test mode messages that takes the software commands out of them. -/
def readSoftware (data : Block) : Option Asked :=
  match written data with
  | none => none
  | some bytes =>
    if ofLe (bytes.take 4) &&& 0xFFFFFF = NL80211_TESTMODE_SW_CMD ∧ bytes.length = 20 then
      askedFor (ofLe ((bytes.drop 12).take 4)) (ofLe ((bytes.drop 16).take 4))
    else none

section

variable {limit : Nat} {options : BuildOption → Bool} {d : Driver} {request : Request} {out : Outcome} {found : Found}
  {cmd : List UInt8} {branch : Branch} {data : Block} {bytes : List UInt8}

theorem written_map_some (bytes : List UInt8) : written (bytes.map some) = some bytes := by
  induction bytes with
  | nil => rfl
  | cons b bytes ih =>
    rw [written] at ih ⊢
    simp [ih]

theorem readSoftware_block {adr dat : Nat} (hadr : adr < 0x100000000) (hdat : dat < 0x100000000) :
    readSoftware (wpa_driver_sw_cmd_params.block ⟨1, adr, dat⟩) = askedFor adr dat := by
  have hread := written_map_some (hdr NL80211_TESTMODE_SW_CMD 20 ++ [1, 0, 0, 0] ++ le32 adr ++ le32 dat)
  have hindex : ofLe (le32 (NL80211_TESTMODE_SW_CMD ||| TESTMODE_VERSION)) &&& 0xFFFFFF = NL80211_TESTMODE_SW_CMD := by
    decide
  have hfront : (hdr NL80211_TESTMODE_SW_CMD 20 ++ [1, 0, 0, 0] ++ le32 adr ++ le32 dat).take 4 =
    le32 (NL80211_TESTMODE_SW_CMD ||| TESTMODE_VERSION) := rfl
  have hadrs : ((hdr NL80211_TESTMODE_SW_CMD 20 ++ [1, 0, 0, 0] ++ le32 adr ++ le32 dat).drop 12).take 4 =
    le32 adr := rfl
  have hdats : ((hdr NL80211_TESTMODE_SW_CMD 20 ++ [1, 0, 0, 0] ++ le32 adr ++ le32 dat).drop 16).take 4 =
    le32 dat := rfl
  rw [readSoftware, wpa_driver_sw_cmd_params.block, hread]
  dsimp only
  rw [hfront, hadrs, hdats, hindex, ofLe_le32 hadr, ofLe_le32 hdat]
  exact if_pos ⟨rfl, rfl⟩

theorem written_eq_some_iff : written data = some bytes ↔ data = bytes.map some := by
  constructor
  · intro hwritten
    induction data generalizing bytes with
    | nil =>
      obtain rfl := Option.some.inj hwritten
      rfl
    | cons b data ih =>
      rw [written, List.mapM_cons] at hwritten
      obtain ⟨byte, hbyte, hwritten⟩ := Option.bind_eq_some_iff.mp hwritten
      obtain ⟨rest, hrest, hcons⟩ := Option.bind_eq_some_iff.mp hwritten
      obtain rfl : b = some byte := hbyte
      obtain rfl := Option.some.inj hcons
      rw [List.map_cons, ← ih hrest]
  · rintro rfl
    exact written_map_some bytes

/-- No message with another index is read as a software command. -/
theorem readSoftware_of_index {index : Nat} (hindex : index < 0x100000000)
    (hother : index &&& 0xFFFFFF ≠ NL80211_TESTMODE_SW_CMD)
    (hstart : data.length = 20 → data.take 4 = (le32 index).map some) : readSoftware data = none := by
  rw [readSoftware]
  split
  · rfl
  · next bytes hwritten =>
    rw [if_neg]
    rintro ⟨hsame, hlength⟩
    obtain rfl := written_eq_some_iff.mp hwritten
    have hfront := hstart (by rw [List.length_map, hlength])
    rw [← List.map_take, List.map_inj_right (fun _ _ => Option.some.inj)] at hfront
    rw [hfront, ofLe_le32 hindex] at hsame
    exact hother hsame

/-- The branches that the comparisons lead to. -/
def Known : Branch → Prop
  | .rxfilter length offset => length = 12 ∧ offset = 0x00900200 ∨ length = 15 ∧ offset = 0x00900300
  | .sw_cmd adr dat => adr < 0x100000000 ∧ dat < 0x100000000 ∧ askedFor adr dat = some ⟨.sw_cmd adr dat, 0⟩
  | .set_band adr => adr < 0x100000000 ∧ askedFor adr 0 = some ⟨.set_band adr, 0⟩
  | _ => True

instance (branch : Branch) : Decidable (Known branch) := by
  unfold Known
  split
  · exact inferInstance
  · exact inferInstance
  · exact inferInstance
  · exact inferInstance

theorem known_selected (options : BuildOption → Bool) (cmd : List UInt8) : Known (selected options cmd) := by
  have hall : ∀ command ∈ commands, Known command.branch := by decide +kernel
  unfold selected
  split
  · next command hfind => exact hall command (find?_commands_iff.mp hfind).1
  · trivial

theorem toU32_lt (value : Int) : toU32 value < 0x100000000 := by
  rw [toU32]
  omega

/-- A filter is read back if its number is a byte. With any other it is taken for another command. -/
theorem askedFor_rxfilter_iff {length offset n : Nat} (hknown : Known (.rxfilter length offset))
    (hn : n < 0x100000000) : askedFor 0x9F000000 ((n + offset) % 0x100000000) = some ⟨.rxfilter length offset, n⟩ ↔
      n < 0x100 := by
  unfold askedFor
  rw [if_pos rfl]
  obtain ⟨rfl, rfl⟩ | ⟨rfl, rfl⟩ := hknown
  · split_ifs with hword hadd hremove
    · simp
      omega
    · simp
      omega
    · simp
      omega
    · simp
      omega
  · split_ifs with hword hadd hremove
    · simp
      omega
    · simp
      omega
    · simp
      omega
    · simp
      omega

theorem transparentBuffer_length (cmd : List UInt8) : (transparentBuffer cmd).length = 100 := by
  rw [transparentBuffer_eq, List.length_map, List.length_append, List.length_append, strncpy_length]
  rfl

theorem transparentData_length (cmd : List UInt8) : (transparentData cmd).length = transparentBuflen cmd := by
  rw [transparentData, List.length_take, List.length_append, transparentBuffer_length, Block.fresh,
    List.length_replicate]
  omega

/-- A branch that asks for no software command sends nothing that is read as one. -/
theorem readSoftware_of_unasked (hasked : askedBy cmd branch = none) (hdata : dataBy found cmd branch = some data) :
    readSoftware data = none := by
  cases branch with
  | GET_STA_STATISTICS =>
    obtain ⟨addr, _, rfl⟩ := Option.map_eq_some_iff.mp hdata
    exact readSoftware_of_index (by decide : sta.statisticsIndex.toNat < 0x100000000) (by decide) (fun _ => rfl)
  | STA_BLOCK | STA_UNBLOCK =>
    obtain ⟨bssid, _, rfl⟩ := Option.map_eq_some_iff.mp hdata
    exact readSoftware_of_index (by decide : NL80211_TESTMODE_HS20 ||| TESTMODE_VERSION < 0x100000000) (by decide)
      (fun _ => rfl)
  | SETSUSPENDMODE =>
    obtain rfl := Option.some.inj hdata
    exact readSoftware_of_index (by decide : NL80211_TESTMODE_SUSPEND ||| TESTMODE_VERSION < 0x100000000) (by decide)
      (fun _ => rfl)
  | mtk_rx_packet_filter =>
    obtain ⟨params, hparams, rfl⟩ := Option.map_eq_some_iff.mp hdata
    rw [mtk_rx_packet_filter] at hparams
    split_ifs at hparams
    obtain rfl := Option.some.inj hparams
    exact readSoftware_of_index (by decide : NL80211_TESTMODE_RXFILTER ||| TESTMODE_VERSION < 0x100000000) (by decide)
      (fun _ => rfl)
  | transparent =>
    obtain rfl := Option.some.inj hdata
    have hindex : transparentIndex < 0x100000000 := by decide
    refine readSoftware_of_index hindex (by decide) fun hlength => ?_
    rw [transparentData_length] at hlength
    rw [transparentData, hlength, transparentBuffer_eq]
    rfl
  | rxfilter length offset =>
    have hnone : strtol0 (cmd.drop length) = none := Option.map_eq_none_iff.mp hasked
    simp only [dataBy, softwareBy, hnone] at hdata
    cases hdata
  | smt_rate =>
    have hnone : strtol0 (cmd.drop 8) = none := Option.map_eq_none_iff.mp hasked
    simp only [dataBy, softwareBy, hnone] at hdata
    cases hdata
  | sw_cmd adr dat => cases hasked
  | set_band adr => cases hasked
  | set_scan_loading => cases hasked
  | _ => cases hdata

/-- A software command is read back from its message, if it is for a filter with a number that is
a byte or for something else. -/
theorem readSoftware_of_asked {asked : Asked} (hknown : Known branch) (hasked : askedBy cmd branch = some asked)
    (hdata : dataBy found cmd branch = some data) : readSoftware data = some asked ↔ asked.InRange := by
  cases branch with
  | rxfilter length offset =>
    obtain ⟨idx, hidx, rfl⟩ := Option.map_eq_some_iff.mp hasked
    simp only [dataBy, softwareBy, hidx, Option.map_some, Option.some.injEq] at hdata
    rw [← hdata, readSoftware_block (by decide) (Nat.mod_lt _ (by decide)),
      askedFor_rxfilter_iff hknown (toU32_lt idx)]
    rfl
  | smt_rate =>
    obtain ⟨idx, hidx, rfl⟩ := Option.map_eq_some_iff.mp hasked
    simp only [dataBy, softwareBy, hidx, Option.map_some, Option.some.injEq] at hdata
    rw [← hdata, readSoftware_block (by decide) (toU32_lt idx)]
    exact ⟨fun _ => trivial, fun _ => rfl⟩
  | sw_cmd adr dat =>
    obtain rfl := Option.some.inj hasked
    obtain ⟨hadr, hdat, hread⟩ := hknown
    obtain rfl := Option.some.inj hdata
    rw [readSoftware_block hadr hdat, hread]
    exact ⟨fun _ => trivial, fun _ => rfl⟩
  | set_band adr =>
    obtain rfl := Option.some.inj hasked
    obtain ⟨hadr, hread⟩ := hknown
    obtain rfl := Option.some.inj hdata
    rw [readSoftware_block hadr (by simp), hread]
    exact ⟨fun _ => trivial, fun _ => rfl⟩
  | set_scan_loading =>
    obtain rfl := Option.some.inj hasked
    obtain rfl := Option.some.inj hdata
    rw [readSoftware_block (by decide) (by decide)]
    exact ⟨fun _ => trivial, fun _ => rfl⟩
  | _ => cases hasked

/-- A message that is sent is the one of the branch. -/
theorem dataBy_of_mem_sent (hout : handle limit d request branch = some out) (hsent : data ∈ out.sent) :
    dataBy request.found request.cmd.bytes branch = some data := by
  rw [(handle_spec hout).sent] at hsent
  cases hdata : dataBy request.found request.cmd.bytes branch with
  | none =>
    rw [hdata] at hsent
    cases hsent
  | some made =>
    rw [hdata, Option.elim_some, messages_eq] at hsent
    split_ifs at hsent
    · rw [List.mem_singleton.mp hsent]
    · cases hsent

/-- From every message that a command sends exactly the software command is read that it asks for, if
any, as long as the number of a filter is a byte. -/
theorem software_read_back_iff (hout : wpa_driver_nl80211_driver_cmd limit options d request = some out)
    (hsent : data ∈ out.sent) :
    readSoftware data = askedBy request.cmd.bytes (selected options request.cmd.bytes) ↔
      ∀ asked ∈ askedBy request.cmd.bytes (selected options request.cmd.bytes), asked.InRange := by
  have hdata := dataBy_of_mem_sent hout hsent
  cases hasked : askedBy request.cmd.bytes (selected options request.cmd.bytes) with
  | none => simp [readSoftware_of_unasked hasked hdata]
  | some asked =>
    rw [readSoftware_of_asked (known_selected options request.cmd.bytes) hasked hdata]
    simp

end

/-- A filter that is added. -/
def addFilter : Request := ⟨⟨ascii "rxfilter-add 3", by decide⟩, Block.fresh 64, refusing⟩

/-- What is sent to add it. -/
def filterAdded : Block := wpa_driver_sw_cmd_params.block ⟨1, 0x9F000000, 0x00900203⟩

theorem addFilter_selected : selected (fun _ => true) addFilter.cmd.bytes = .rxfilter 12 0x00900200 := by
  decide +kernel

theorem addFilter_out : wpa_driver_nl80211_driver_cmd 4 (fun _ => true) fresh addFilter =
    some { Outcome.returned fresh addFilter.buf 0 with sent := [filterAdded] } := by
  have hidx : strtol0 (addFilter.cmd.bytes.drop 12) = some 3 := by decide +kernel
  rw [wpa_driver_nl80211_driver_cmd, addFilter_selected]
  simp only [handle, hidx]
  rfl

theorem software_read_back_add : readSoftware filterAdded = some ⟨.rxfilter 12 0x00900200, 3⟩ := by
  have hasked : askedBy addFilter.cmd.bytes (.rxfilter 12 0x00900200) = some ⟨.rxfilter 12 0x00900200, 3⟩ := by
    decide +kernel
  have hread := software_read_back_iff addFilter_out (List.mem_singleton_self filterAdded)
  rw [addFilter_selected, hasked] at hread
  exact hread.mpr (by decide)

section

variable {limit : Nat} {options : BuildOption → Bool} {d : Driver} {request : Request} {out : Outcome} {found : Found}
  {cmd : List UInt8} {branch : Branch} {data : Block}

theorem none_notMem_map_some (bytes : List UInt8) : none ∉ bytes.map some := by
  intro hmem
  obtain ⟨_, _, hnone⟩ := List.mem_map.mp hmem
  cases hnone

theorem transparentData_written_iff : none ∉ transparentData cmd ↔ transparentBuflen cmd ≤ 100 := by
  rw [transparentData, transparentBuffer_eq]
  constructor
  · intro hwritten
    by_contra hlong
    apply hwritten
    have hlength : (le32 transparentIndex ++ le32 (transparentBuflen cmd) ++ strncpy cmd 92).length = 100 := by
      rw [List.length_append, List.length_append, strncpy_length]
      rfl
    have hbehind : none ∈ Block.fresh (transparentBuflen cmd - 100) :=
      List.mem_replicate.mpr ⟨by omega, rfl⟩
    rw [List.take_of_length_le]
    · exact List.mem_append_right _ hbehind
    · rw [List.length_append, List.length_map, hlength, Block.fresh, List.length_replicate]
      omega
  · intro hfits hmem
    rw [Nat.sub_eq_zero_of_le hfits] at hmem
    have hempty : Block.fresh 0 = [] := rfl
    rw [hempty, List.append_nil, ← List.map_take] at hmem
    exact none_notMem_map_some _ hmem

theorem dataBy_written_iff (hdata : dataBy found cmd branch = some data) :
    none ∉ data ↔ branch ≠ .SETSUSPENDMODE ∧ (branch = .transparent → transparentBuflen cmd ≤ 100) := by
  cases branch with
  | SETSUSPENDMODE =>
    obtain rfl := Option.some.inj hdata
    simp [wpa_driver_suspendmode_params.block, Block.fresh]
  | transparent =>
    obtain rfl := Option.some.inj hdata
    rw [transparentData_written_iff]
    simp
  | GET_STA_STATISTICS | STA_BLOCK | STA_UNBLOCK | mtk_rx_packet_filter =>
    obtain ⟨_, _, rfl⟩ := Option.map_eq_some_iff.mp hdata
    simp [none_notMem_map_some, statisticsBlock, wpa_driver_get_sta_statistics_params.block,
      wpa_driver_hotspot_params.block, rxFilterBlock]
  | rxfilter | smt_rate =>
    obtain ⟨_, _, rfl⟩ := Option.map_eq_some_iff.mp hdata
    simp [wpa_driver_sw_cmd_params.block]
  | sw_cmd | set_band | set_scan_loading =>
    obtain rfl := Option.some.inj hdata
    simp [wpa_driver_sw_cmd_params.block]
  | _ => cases hdata

/-- A command sends only bytes that were written, unless it is `SETSUSPENDMODE`, whose parameters end
with three others, or one that is passed on and does not fit. -/
theorem sent_written_iff (hout : wpa_driver_nl80211_driver_cmd limit options d request = some out) :
    (∀ data ∈ out.sent, none ∉ data) ↔ out.sent = [] ∨ selected options request.cmd.bytes ≠ .SETSUSPENDMODE ∧
      (selected options request.cmd.bytes = .transparent → transparentBuflen request.cmd.bytes ≤ 100) := by
  constructor
  · intro hall
    by_cases hempty : out.sent = []
    · exact .inl hempty
    · obtain ⟨data, hsent⟩ := List.exists_mem_of_ne_nil _ hempty
      exact .inr ((dataBy_written_iff (dataBy_of_mem_sent hout hsent)).mp (hall data hsent))
  · rintro (hempty | hbranch) data hsent
    · rw [hempty] at hsent
      cases hsent
    · exact (dataBy_written_iff (dataBy_of_mem_sent hout hsent)).mpr hbranch

end

theorem sent_written_add : none ∉ filterAdded := by
  refine (sent_written_iff addFilter_out).mpr ?_ filterAdded (List.mem_singleton_self filterAdded)
  rw [addFilter_selected]
  exact .inr ⟨by decide, fun hother => by cases hother⟩

end panelli.wpa_supplicant.driver_cmd
