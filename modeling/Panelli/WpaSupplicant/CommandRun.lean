import Panelli.Runs
import Panelli.WpaSupplicant.RxFilter
import Panelli.WpaSupplicant.SinkConfig
import Panelli.WpaSupplicant.StaStatistics
import Panelli.WpaSupplicant.TransparentCommand

open panelli.bytes panelli.cstring panelli.printf panelli.runs

namespace panelli.wpa_supplicant.driver_cmd

def NL80211_TESTMODE_SW_CMD : Nat := 1

def NL80211_TESTMODE_HS20 : Nat := 3

def NL80211_TESTMODE_SUSPEND : Nat := 101

/-- `strtol` with base 0, which the text decides on, unless there is no number at its start. -/
def strtol0 (s : List UInt8) : Option Int :=
  let s := s.dropWhile isspace
  let negative := s.head? == some 45
  let s := if s.head? == some 45 || s.head? == some 43 then s.tail else s
  let hex := (s.take 2).map tolower == [48, 120] && (s.drop 2).head?.any (IsDigit 16 ·)
  let base := if hex then 16 else if s.head? == some 48 then 8 else 10
  let digits := (if hex then s.drop 2 else s).takeWhile (IsDigit base ·)
  if digits.isEmpty then none
  else
    let value : Int := digitsValue base digits
    some (if negative then max LONG_MIN (-value) else min LONG_MAX value)

/-! The parameters of the test mode messages, by their bytes. -/

/-- The index, with its version, and the size of the parameters. -/
def hdr (index buflen : Nat) : List UInt8 := le32 (index ||| TESTMODE_VERSION) ++ le32 buflen

structure wpa_driver_sw_cmd_params where
  set : UInt8
  adr : Nat
  data : Nat

/-- All bytes were set to zero before, and so were those in front of `adr`. -/
def wpa_driver_sw_cmd_params.block (params : wpa_driver_sw_cmd_params) : Block :=
  (hdr NL80211_TESTMODE_SW_CMD 20 ++ [params.set, 0, 0, 0] ++ le32 params.adr ++ le32 params.data).map some

structure wpa_driver_hotspot_params where
  blocked : UInt8
  bssid : Vector UInt8 6

def wpa_driver_hotspot_params.block (params : wpa_driver_hotspot_params) : Block :=
  (hdr NL80211_TESTMODE_HS20 16 ++ params.blocked :: params.bssid.toList ++ [0]).map some

structure wpa_driver_suspendmode_params where
  suspend : UInt8

/-- Nothing writes the bytes behind `suspend`. -/
def wpa_driver_suspendmode_params.block (params : wpa_driver_suspendmode_params) : Block :=
  (hdr NL80211_TESTMODE_SUSPEND 12 ++ [params.suspend]).map some ++ Block.fresh 3

structure wpa_driver_get_sta_statistics_params where
  index : Nat
  addr : Vector UInt8 6
  buf : Nat

def wpa_driver_get_sta_statistics_params.block (params : wpa_driver_get_sta_statistics_params) : Block :=
  (le32 params.index ++ le32 28 ++ le32 0 ++ le32 0 ++ params.addr.toList ++ [0, 0] ++ le32 params.buf).map some

def rxFilterBlock (params : wpa_driver_rx_filter_params) : Block :=
  (le32 params.index ++ le32 params.buflen ++ le32 params.Ipv4FilterHigh ++ le32 params.Ipv4FilterLow ++
    le32 params.Ipv6FilterHigh ++ le32 params.Ipv6FilterLow ++ le32 params.SnapFilterHigh ++
    le32 params.SnapFilterLow).map some

/-- As many bytes as the length in the header says, from the start of the buffer on. What lies behind
the buffer was not written for the message. -/
def transparentData (cmd : List UInt8) : Block :=
  (transparentBuffer cmd ++ Block.fresh (transparentBuflen cmd - 100)).take (transparentBuflen cmd)

/-- The fields of `global->p2p` that commands use. -/
structure P2p where
  dev_capab : UInt8
  p2p_use_mcc : UInt8
  data : p2p_data

/-- What is kept from one command to the next. -/
structure Driver where
  drv_errors : Nat
  p2p : Option P2p

/-- What a command finds outside: its station and its radio, and how other functions answer. -/
structure Found where
  own_addr : Vector UInt8 6
  associated : Bool
  conf : wpa_config
  radio : Radio
  left : Undetermined
  sta_statistics : Nat
  hwaddr_aton : List UInt8 → Option (Vector UInt8 6)
  nlmsg_alloc : Bool
  puts : Nat → Bool
  send_and_recv_msgs : Block → Int × List (List UInt8)
  socket : Int
  SIOCSIWPRIV : List UInt8 → Int
  linux_set_iface_flags : Bool → Int
  SIOCDEVPRIVATE : android_wifi_priv_cmd → Int

/-- A command, with the buffer for its answer. -/
structure Request where
  cmd : CString
  buf : Block
  found : Found

inductive Event where
  | STARTED
  | STOPPED
  | deauthenticate
  | CHANNEL_LIST_CHANGED (alpha2 : List UInt8)
  | scan_loading_timeout (secs : Nat)
deriving DecidableEq

/-- What comes of a command: its answer, the state after it, the test mode messages and the
private command that were sent, and what the supplicant is told or asked to wait for. -/
structure Outcome where
  ret : Int
  buf : Block
  driver : Driver
  sent : List Block
  priv_cmd : Option android_wifi_priv_cmd
  events : List Event

def Outcome.returned (d : Driver) (buf : Block) (ret : Int) : Outcome := ⟨ret, buf, d, [], none, []⟩

/-- The index is the number that the data starts with. -/
def Block.index (data : Block) : Nat := ofLe ((data.take 4).map (·.getD 0))

/-- What comes of a test mode message. -/
def testmode (found : Found) (data : Block) : Testmode Block :=
  wpa_driver_nl80211_testmode ⟨found.nlmsg_alloc, found.puts, found.send_and_recv_msgs⟩ (Block.index data)
    data.length data

def messages (found : Found) (data : Block) : List Block := (testmode found data).sent

/-- The message is sent if it can be made. -/
theorem messages_eq (found : Found) (data : Block) :
    messages found data = if found.nlmsg_alloc && found.puts data.length then [data] else [] := by
  rw [messages, testmode]
  by_cases hmade : found.nlmsg_alloc = true ∧ found.puts data.length = true
  · rw [testmode_of_made hmade.1 hmade.2, if_pos (Bool.and_eq_true_iff.mpr hmade)]
  · rw [if_neg (Bool.and_eq_true_iff.not.mpr hmade)]
    exact (testmode_of_not_made hmade).2.1

def wpa_driver_nl80211_driver_sw_cmd (found : Found) (set : Bool) (adr dat : Nat) : List Block :=
  messages found (wpa_driver_sw_cmd_params.block ⟨if set then 1 else 0, adr, dat⟩)

/-- The functions for the statistics of a station send this message. -/
def statisticsBlock (found : Found) (index : UInt32) (addr : Vector UInt8 6) : Block :=
  wpa_driver_get_sta_statistics_params.block ⟨index.toNat, addr, found.sta_statistics⟩

def sendStatistics (found : Found) : sta.SendAndRecv :=
  fun index addr =>
    let r := testmode found (statisticsBlock found index addr)
    (r.ret, r.replies)

def wpa_driver_hotspot_block_list_update (found : Found) (bssid : Vector UInt8 6) (blocked : UInt8) :
    Int × List Block :=
  let data := wpa_driver_hotspot_params.block ⟨blocked, bssid⟩
  ((testmode found data).ret, messages found data)

/-- `wpa_driver_sta_block` and `wpa_driver_sta_unblock`. -/
def wpa_driver_sta_block (found : Found) (cmd : List UInt8) (blocked : UInt8) : Int × List Block :=
  match found.hwaddr_aton cmd with
  | none => (-1, [])
  | some bssid => wpa_driver_hotspot_block_list_update found bssid blocked

def wpa_driver_send_hang_msg (DRV_NUMBER_SEQUENTIAL_ERRORS drv_errors : Nat) : Nat :=
  let drv_errors := drv_errors + 1
  if drv_errors > DRV_NUMBER_SEQUENTIAL_ERRORS then 0 else drv_errors

def p2p_get_capability (p2p : P2p) (cmd : List UInt8) (buf : Block) : Int × Block :=
  if (Comparison.strncmp (ascii "p2p_dev_capa") 12).holds cmd then
    let text := ascii "p2p_dev_capa=" ++ decimalText p2p.dev_capab.toNat ++ ascii "\n"
    (text.length, snprintf buf 0 buf.length text)
  else if (Comparison.strncmp (ascii "p2p_group_capa") 14).holds cmd then (-1, buf)
  else (0, buf)

def p2p_set_capability (p2p : P2p) (cmd : List UInt8) : Int × P2p :=
  if (Comparison.strncmp (ascii "p2p_dev_capa ") 13).holds cmd then
    (0, { p2p with dev_capab := UInt8.ofNat (toU8 (atoi (cmd.drop 13))) })
  else if (Comparison.strncmp (ascii "p2p_group_capa ") 15).holds cmd then (-1, p2p)
  else (0, p2p)

/-- The call of `p2p_wfd_sink_config_scc` that a command makes, if it makes one. -/
def configure (found : Found) (cmd : List UInt8) (branch : Branch) (p2p : P2p) : P2p :=
  match sinkCall found.radio cmd branch with
  | none => p2p
  | some call =>
    match p2p_wfd_sink_config_scc found.conf found.left call.scc call.oper_freq (some p2p.data) with
    | none => p2p
    | some data => { p2p with data := data }

/-- `MIRACAST 2` is issued without its frequency. -/
def rebuilt (cmd : List UInt8) : List UInt8 :=
  if miracast cmd = 2 ∧ (strstr cmd (ascii " freq=")).isSome then ascii "MIRACAST 2" else cmd

section

variable (DRV_NUMBER_SEQUENTIAL_ERRORS : Nat)

/-- The part for commands that are issued as private ones, where the private command was made. -/
def issue (d : Driver) (found : Found) (cmd : List UInt8) (priv_cmd : Option android_wifi_priv_cmd) (buf : Block) :
    Option Outcome :=
  priv_cmd.map fun priv_cmd =>
    let buf := List.replicate buf.length (some 0)
    if found.SIOCDEVPRIVATE priv_cmd < 0 then
      let drv_errors := wpa_driver_send_hang_msg DRV_NUMBER_SEQUENTIAL_ERRORS d.drv_errors
      { Outcome.returned { d with drv_errors := drv_errors } (snprintf buf 0 buf.length (ascii "FAIL\n")) 5 with
        priv_cmd := some priv_cmd }
    else
      let buf := snprintf buf 0 buf.length (ascii "OK\n")
      let ret : Int :=
        if (Comparison.strncasecmp (ascii "WLS_BATCHING") 12).holds cmd then (stringOf buf).length else 3
      { Outcome.returned { d with drv_errors := 0 } buf ret with priv_cmd := some priv_cmd }

/-- What comes of a command that a branch is for, unless it goes through a null pointer. Where `ret`
is compared with 0 for `getpower` and `get-rts-threshold`, it is still -1, and `user_force_band` is 0
as nothing sets it. -/
def handle (d : Driver) (request : Request) (branch : Branch) : Option Outcome :=
  let found := request.found
  let cmd := request.cmd.bytes
  let buf := request.buf
  let returned := Outcome.returned d buf
  match branch with
  | .POWERMODE | .getpower | .get_rts_threshold | .set_rts_threshold => some (returned (-1))
  | .GET_STA_STATISTICS =>
    let addr := cmd.drop 19
    let (ret, buf) := sta.wpa_driver_get_sta_statistics found.hwaddr_aton (sendStatistics found) addr buf buf.length
    some { Outcome.returned d buf ret with
      sent := (found.hwaddr_aton addr).elim [] fun sta_addr =>
        messages found (statisticsBlock found sta.statisticsIndex sta_addr) }
  | .MACADDR =>
    let text := ascii "Macaddr = " ++ sta.macText found.own_addr ++ ascii "\n"
    some (Outcome.returned d (snprintf buf 0 buf.length text) text.length)
  | .COUNTRY =>
    if cmd.length ≠ 7 + 3 then some (returned 0)
    else
      let ret := wpa_driver_mediatek_set_country ⟨found.socket, found.SIOCSIWPRIV, d.p2p.isSome⟩ (cmd.drop 8)
      if ret = 0 then
        some { returned 0 with events := [.CHANNEL_LIST_CHANGED ((cmd.drop 8).take 2)] }
      else some (returned ret)
  | .start =>
    let ret := found.linux_set_iface_flags true
    some { returned ret with events := if ret = 0 then [.STARTED] else [] }
  | .stop =>
    let ret := found.linux_set_iface_flags false
    let left := if found.associated then [Event.deauthenticate] else []
    some { returned ret with events := left ++ if ret = 0 then [.STOPPED] else [] }
  | .rxfilter length offset =>
    match strtol0 (cmd.drop length) with
    | none => some (returned (-1))
    | some idx =>
      some { returned 0 with
        sent := wpa_driver_nl80211_driver_sw_cmd found true 0x9F000000 ((toU32 idx + offset) % 0x100000000) }
  | .sw_cmd adr dat => some { returned 0 with sent := wpa_driver_nl80211_driver_sw_cmd found true adr dat }
  | .btcoex => some (returned 0)
  | .smt_rate =>
    match strtol0 (cmd.drop 8) with
    | none => some (returned (-1))
    | some idx =>
      some { returned 0 with sent := wpa_driver_nl80211_driver_sw_cmd found true 0xFFFF0123 (toU32 idx) }
  | .STA_BLOCK =>
    let (ret, sent) := wpa_driver_sta_block found (cmd.drop 10) 1
    some { returned (if ret ≠ 0 then -1 else 0) with sent := sent }
  | .STA_UNBLOCK =>
    let (ret, sent) := wpa_driver_sta_block found (cmd.drop 12) 0
    some { returned (if ret ≠ 0 then -1 else 0) with sent := sent }
  | .p2p_get_cap =>
    match d.p2p with
    | none => some (returned (-1))
    | some p2p =>
      let (ret, buf) := p2p_get_capability p2p (cmd.drop 12) buf
      some (Outcome.returned d buf ret)
  | .p2p_set_cap =>
    match d.p2p with
    | none => some (returned (-1))
    | some p2p =>
      let (ret, p2p) := p2p_set_capability p2p (cmd.drop 12)
      some (Outcome.returned { d with p2p := some p2p } buf ret)
  | .MIRACAST =>
    let cmd := rebuilt cmd
    issue DRV_NUMBER_SEQUENTIAL_ERRORS { d with p2p := d.p2p.map (configure found request.cmd.bytes branch) } found cmd
      (privateCommand cmd) buf
  | .p2p_use_mcc =>
    match d.p2p with
    | none => none
    | some p2p =>
      let p2p := { p2p with p2p_use_mcc := UInt8.ofNat (use_mcc cmd) }
      some (Outcome.returned { d with p2p := some (configure found cmd branch p2p) } buf (-1))
  | .set_band adr => some { returned 0 with sent := wpa_driver_nl80211_driver_sw_cmd found true adr 0 }
  | .set_scan_loading =>
    some { returned 0 with
      sent := wpa_driver_nl80211_driver_sw_cmd found true 0xFFFF1253 0
      events := [.scan_loading_timeout 10] }
  | .SETSUSPENDMODE =>
    let data := wpa_driver_suspendmode_params.block ⟨cmd.getD 15 0 - 48⟩
    let issued := issue DRV_NUMBER_SEQUENTIAL_ERRORS d found cmd (privateCommand cmd) buf
    issued.map fun out => { out with sent := messages found data }
  | .mtk_rx_packet_filter =>
    match mtk_rx_packet_filter cmd with
    | none => some (returned (-1))
    | some params =>
      let data := rxFilterBlock params
      some { returned (testmode found data).ret with sent := messages found data }
  | .transparent =>
    let data := transparentData cmd
    let issued := issue DRV_NUMBER_SEQUENTIAL_ERRORS d found cmd (privateCommand cmd) buf
    issued.map fun out => { out with sent := messages found data }

/-- A command on an interface of the supplicant, that is on any other than `ap0`. -/
def wpa_driver_nl80211_driver_cmd (options : BuildOption → Bool) (d : Driver) (request : Request) :
    Option Outcome :=
  handle DRV_NUMBER_SEQUENTIAL_ERRORS d request (selected options request.cmd.bytes)

/-- The state after a command. -/
def step (options : BuildOption → Bool) (d : Driver) (request : Request) : Option Driver :=
  (wpa_driver_nl80211_driver_cmd DRV_NUMBER_SEQUENTIAL_ERRORS options d request).map (·.driver)

end

/-! What a command comes to does not depend on the state, apart from what it counts and sets. -/

/-- The text of the private command that a branch issues. -/
def issuedBy (cmd : List UInt8) : Branch → Option (List UInt8)
  | .MIRACAST => some (rebuilt cmd)
  | .SETSUSPENDMODE | .transparent => some cmd
  | _ => none

/-- What a branch makes of `global->p2p`. -/
def settledBy (found : Found) (cmd : List UInt8) (branch : Branch) (p2p : P2p) : P2p :=
  match branch with
  | .p2p_set_cap => (p2p_set_capability p2p (cmd.drop 12)).2
  | .MIRACAST => configure found cmd branch p2p
  | .p2p_use_mcc => configure found cmd branch { p2p with p2p_use_mcc := UInt8.ofNat (use_mcc cmd) }
  | _ => p2p

/-- The software command that a branch asks for, with its number. -/
def softwareBy (cmd : List UInt8) : Branch → Option (Nat × Nat)
  | .rxfilter length offset =>
    (strtol0 (cmd.drop length)).map fun idx => (0x9F000000, (toU32 idx + offset) % 0x100000000)
  | .sw_cmd adr dat => some (adr, dat)
  | .smt_rate => (strtol0 (cmd.drop 8)).map fun idx => (0xFFFF0123, toU32 idx)
  | .set_band adr => some (adr, 0)
  | .set_scan_loading => some (0xFFFF1253, 0)
  | _ => none

/-- The data of the test mode message of a branch. -/
def dataBy (found : Found) (cmd : List UInt8) (branch : Branch) : Option Block :=
  match branch with
  | .GET_STA_STATISTICS => (found.hwaddr_aton (cmd.drop 19)).map (statisticsBlock found sta.statisticsIndex)
  | .STA_BLOCK => (found.hwaddr_aton (cmd.drop 10)).map fun bssid => wpa_driver_hotspot_params.block ⟨1, bssid⟩
  | .STA_UNBLOCK => (found.hwaddr_aton (cmd.drop 12)).map fun bssid => wpa_driver_hotspot_params.block ⟨0, bssid⟩
  | .SETSUSPENDMODE => some (wpa_driver_suspendmode_params.block ⟨cmd.getD 15 0 - 48⟩)
  | .mtk_rx_packet_filter => (mtk_rx_packet_filter cmd).map rxFilterBlock
  | .transparent => some (transparentData cmd)
  | branch => (softwareBy cmd branch).map fun word => wpa_driver_sw_cmd_params.block ⟨1, word.1, word.2⟩

/-- What a branch leaves besides its answer. -/
structure Handled (limit : Nat) (d : Driver) (request : Request) (branch : Branch) (out : Outcome) : Prop where
  p2p : out.driver.p2p = d.p2p.map (settledBy request.found request.cmd.bytes branch)
  sent : out.sent = (dataBy request.found request.cmd.bytes branch).elim [] (messages request.found)
  issued : ∀ text ∈ issuedBy request.cmd.bytes branch, ∃ priv_cmd ∈ privateCommand text,
    out.priv_cmd = some priv_cmd ∧ out.driver.drv_errors =
      if request.found.SIOCDEVPRIVATE priv_cmd < 0 then wpa_driver_send_hang_msg limit d.drv_errors else 0
  unissued : issuedBy request.cmd.bytes branch = none → out.priv_cmd = none ∧ out.driver.drv_errors = d.drv_errors

section

variable {limit : Nat} {d : Driver} {found : Found} {cmd : List UInt8} {buf : Block} {request : Request} {out : Outcome}
  {priv_cmd : Option android_wifi_priv_cmd} {branch : Branch}

/-- What issuing a command leaves. -/
theorem issue_spec (hout : issue limit d found cmd priv_cmd buf = some out) :
    out.driver.p2p = d.p2p ∧ out.sent = [] ∧ ∃ issued ∈ priv_cmd, out.priv_cmd = some issued ∧
      out.driver.drv_errors =
        if found.SIOCDEVPRIVATE issued < 0 then wpa_driver_send_hang_msg limit d.drv_errors else 0 := by
  obtain ⟨issued, rfl, rfl⟩ := Option.map_eq_some_iff.mp hout
  split
  · next hfail => exact ⟨rfl, rfl, issued, rfl, rfl, (if_pos hfail).symm⟩
  · next hdone => exact ⟨rfl, rfl, issued, rfl, rfl, (if_neg hdone).symm⟩

theorem map_eq_self {α : Type} {f : α → α} (hf : ∀ a, f a = a) (o : Option α) : o.map f = o := by
  cases o with
  | none => rfl
  | some a => rw [Option.map_some, hf]

/-- A branch that issues no private command and leaves the state. -/
theorem handled_of_returned (hnone : issuedBy request.cmd.bytes branch = none)
    (hp2p : ∀ p2p, settledBy request.found request.cmd.bytes branch p2p = p2p) (hdriver : out.driver = d)
    (hpriv : out.priv_cmd = none)
    (hsent : out.sent = (dataBy request.found request.cmd.bytes branch).elim [] (messages request.found)) :
    Handled limit d request branch out where
  p2p := by rw [hdriver, map_eq_self hp2p]
  sent := hsent
  issued := by
    intro text htext
    rw [hnone] at htext
    cases htext
  unissued := fun _ => ⟨hpriv, by rw [hdriver]⟩

/-- A branch that sends its command on, too. -/
theorem handled_of_issue {text : List UInt8} (htext : issuedBy request.cmd.bytes branch = some text)
    (hp2p : ∀ p2p, settledBy request.found request.cmd.bytes branch p2p = p2p) {issued : Outcome}
    (hissued : issue limit d request.found text (privateCommand text) request.buf = some issued) {data : Block}
    (hdata : dataBy request.found request.cmd.bytes branch = some data) :
    Handled limit d request branch { issued with sent := messages request.found data } := by
  obtain ⟨hsame, _, hpriv⟩ := issue_spec hissued
  constructor
  · rw [map_eq_self hp2p]
    exact hsame
  · rw [hdata]
    rfl
  · intro other hother
    obtain rfl := Option.some.inj (htext.symm.trans hother)
    exact hpriv
  · intro hnone
    rw [htext] at hnone
    cases hnone

/-- Every branch leaves what is said of it. -/
theorem handle_spec (hout : handle limit d request branch = some out) : Handled limit d request branch out := by
  cases branch with
  | MIRACAST =>
    have hissue : issue limit
        { d with p2p := d.p2p.map (configure request.found request.cmd.bytes .MIRACAST) } request.found
        (rebuilt request.cmd.bytes) (privateCommand (rebuilt request.cmd.bytes)) request.buf = some out := hout
    obtain ⟨hsame, hsent, hpriv⟩ := issue_spec hissue
    constructor
    · exact hsame
    · exact hsent
    · intro text htext
      obtain rfl := Option.some.inj htext
      exact hpriv
    · intro hnone
      cases hnone
  | SETSUSPENDMODE | transparent =>
    simp only [handle] at hout
    obtain ⟨issued, hissued, rfl⟩ := Option.map_eq_some_iff.mp hout
    exact handled_of_issue rfl (fun _ => rfl) hissued rfl
  | p2p_use_mcc =>
    cases hp2p : d.p2p with
    | none =>
      simp only [handle, hp2p] at hout
      cases hout
    | some p2p =>
      simp only [handle, hp2p] at hout
      obtain rfl := Option.some.inj hout
      refine ⟨?_, rfl, fun text htext => ?_, fun _ => ⟨rfl, rfl⟩⟩
      · rw [hp2p]
        rfl
      · cases htext
  | p2p_set_cap =>
    cases hp2p : d.p2p with
    | none =>
      simp only [handle, hp2p] at hout
      obtain rfl := Option.some.inj hout
      refine ⟨?_, rfl, fun text htext => ?_, fun _ => ⟨rfl, rfl⟩⟩
      · rw [hp2p]
        exact hp2p
      · cases htext
    | some p2p =>
      simp only [handle, hp2p] at hout
      obtain rfl := Option.some.inj hout
      refine ⟨?_, rfl, fun text htext => ?_, fun _ => ⟨rfl, rfl⟩⟩
      · rw [hp2p]
        rfl
      · cases htext
  | p2p_get_cap =>
    cases hp2p : d.p2p with
    | none =>
      simp only [handle, hp2p] at hout
      obtain rfl := Option.some.inj hout
      exact handled_of_returned rfl (fun _ => rfl) rfl rfl rfl
    | some p2p =>
      simp only [handle, hp2p] at hout
      obtain rfl := Option.some.inj hout
      exact handled_of_returned rfl (fun _ => rfl) rfl rfl rfl
  | COUNTRY =>
    simp only [handle] at hout
    split_ifs at hout
    · obtain rfl := Option.some.inj hout
      exact handled_of_returned rfl (fun _ => rfl) rfl rfl rfl
    · obtain rfl := Option.some.inj hout
      exact handled_of_returned rfl (fun _ => rfl) rfl rfl rfl
    · obtain rfl := Option.some.inj hout
      exact handled_of_returned rfl (fun _ => rfl) rfl rfl rfl
  | rxfilter length offset =>
    cases hidx : strtol0 (request.cmd.bytes.drop length) with
    | none =>
      simp only [handle, hidx] at hout
      obtain rfl := Option.some.inj hout
      refine handled_of_returned rfl (fun _ => rfl) rfl rfl ?_
      simp only [dataBy, softwareBy, hidx]
      rfl
    | some idx =>
      simp only [handle, hidx] at hout
      obtain rfl := Option.some.inj hout
      refine handled_of_returned rfl (fun _ => rfl) rfl rfl ?_
      simp only [dataBy, softwareBy, hidx]
      rfl
  | smt_rate =>
    cases hidx : strtol0 (request.cmd.bytes.drop 8) with
    | none =>
      simp only [handle, hidx] at hout
      obtain rfl := Option.some.inj hout
      refine handled_of_returned rfl (fun _ => rfl) rfl rfl ?_
      simp only [dataBy, softwareBy, hidx]
      rfl
    | some idx =>
      simp only [handle, hidx] at hout
      obtain rfl := Option.some.inj hout
      refine handled_of_returned rfl (fun _ => rfl) rfl rfl ?_
      simp only [dataBy, softwareBy, hidx]
      rfl
  | mtk_rx_packet_filter =>
    cases hparams : mtk_rx_packet_filter request.cmd.bytes with
    | none =>
      simp only [handle, hparams] at hout
      obtain rfl := Option.some.inj hout
      refine handled_of_returned rfl (fun _ => rfl) rfl rfl ?_
      simp only [dataBy, hparams]
      rfl
    | some params =>
      simp only [handle, hparams] at hout
      obtain rfl := Option.some.inj hout
      refine handled_of_returned rfl (fun _ => rfl) rfl rfl ?_
      simp only [dataBy, hparams]
      rfl
  | GET_STA_STATISTICS =>
    obtain rfl := Option.some.inj hout
    refine handled_of_returned rfl (fun _ => rfl) rfl rfl ?_
    cases haddr : request.found.hwaddr_aton (request.cmd.bytes.drop 19) with
    | none => simp only [dataBy, haddr, Option.elim_none, Option.map_none]
    | some addr => simp only [dataBy, haddr, Option.elim_some, Option.map_some]
  | STA_BLOCK =>
    obtain rfl := Option.some.inj hout
    refine handled_of_returned rfl (fun _ => rfl) rfl rfl ?_
    cases haddr : request.found.hwaddr_aton (request.cmd.bytes.drop 10) with
    | none => simp only [dataBy, haddr, Option.elim_none, Option.map_none]
    | some addr =>
      simp only [dataBy, haddr, Option.elim_some, Option.map_some]
      rfl
  | STA_UNBLOCK =>
    obtain rfl := Option.some.inj hout
    refine handled_of_returned rfl (fun _ => rfl) rfl rfl ?_
    cases haddr : request.found.hwaddr_aton (request.cmd.bytes.drop 12) with
    | none => simp only [dataBy, haddr, Option.elim_none, Option.map_none]
    | some addr =>
      simp only [dataBy, haddr, Option.elim_some, Option.map_some]
      rfl
  | POWERMODE | MACADDR | start | stop | getpower | get_rts_threshold
  | set_rts_threshold | sw_cmd | btcoex | set_band | set_scan_loading =>
    obtain rfl := Option.some.inj hout
    exact handled_of_returned rfl (fun _ => rfl) rfl rfl rfl

end

/-- A state without errors. -/
def fresh : Driver := ⟨0, some ⟨5, 0, idle⟩⟩

/-- A radio without stations, where all else succeeds but private commands. -/
def refusing : Found where
  own_addr := Vector.replicate 6 2
  associated := false
  conf := ⟨0, 0⟩
  radio := unused
  left := ⟨0, 0, 0⟩
  sta_statistics := 0
  hwaddr_aton := fun _ => none
  nlmsg_alloc := true
  puts := fun _ => true
  send_and_recv_msgs := fun _ => (0, [])
  socket := 3
  SIOCSIWPRIV := fun _ => 0
  linux_set_iface_flags := fun _ => 0
  SIOCDEVPRIVATE := fun _ => -1

end panelli.wpa_supplicant.driver_cmd
