import Panelli.WpaSupplicant.CommandRun

open panelli.cstring panelli.printf panelli.runs

namespace panelli.wpa_supplicant.driver_cmd

/-- The channels of a list up to its counts. -/
def usable (channels : p2p_channels) : List (UInt8 × List UInt8) :=
  (List.range channels.reg_classes).map fun i =>
    let cls := channels.reg_class i
    (cls.reg_class, (List.range cls.channels).map cls.channel)

/-- The operating channel, and the channels that may be used. -/
structure Operating where
  op_reg_class : UInt8
  op_channel : UInt8
  channels : List (UInt8 × List UInt8)

def operating (p2p : p2p_data) : Operating := ⟨p2p.op_reg_class, p2p.op_channel, usable p2p.channels⟩

/-- What a call for the sink is to set, by the channels that are configured. -/
def wanted (found : Found) (configured : p2p_channels) (call : SinkCall) : Operating :=
  if call.scc ∧ call.oper_freq ≠ 0 then
    let (cls, channel) :=
      (priv_p2p_freq_to_channel call.oper_freq).getD (found.left.op_reg_class, found.left.op_channel)
    ⟨cls, channel, [(cls, [channel])]⟩
  else if found.conf.p2p_oper_reg_class ≠ 0 ∧ found.conf.p2p_oper_channel ≠ 0 then
    ⟨UInt8.ofNat (toU8 found.conf.p2p_oper_reg_class), UInt8.ofNat (toU8 found.conf.p2p_oper_channel),
      usable configured⟩
  else ⟨81, UInt8.ofNat (1 + (found.left.r % 3) * 5), usable configured⟩

/-- The answer to `p2p_get_cap`. -/
def capabilityText (dev_capab : UInt8) : List UInt8 :=
  ascii "p2p_dev_capa=" ++ decimalText dev_capab.toNat ++ ascii "\n"

def Request.branch (options : BuildOption → Bool) (request : Request) : Branch := selected options request.cmd.bytes

section

variable (options : BuildOption → Bool)

/-- The operating channel that a command sets, if it sets one. -/
def setsOperating (configured : p2p_channels) (request : Request) : Option Operating :=
  (sinkCall request.found.radio request.cmd.bytes (request.branch options)).map (wanted request.found configured)

/-- The device capability that a command sets, if it sets one. -/
def setsCapability (request : Request) : Option UInt8 :=
  let cmd := request.cmd.bytes.drop 12
  if request.branch options = .p2p_set_cap ∧ (Comparison.strncmp (ascii "p2p_dev_capa ") 13).holds cmd then
    some (UInt8.ofNat (toU8 (atoi (cmd.drop 13))))
  else none

def setsMcc (request : Request) : Option UInt8 :=
  if request.branch options = .p2p_use_mcc then some (UInt8.ofNat (use_mcc request.cmd.bytes)) else none

/-- What the kernel makes of the private command of a command: whether it fails. -/
def failed (request : Request) : Option Bool :=
  ((issuedBy request.cmd.bytes (request.branch options)).bind privateCommand).map fun priv_cmd =>
    decide (request.found.SIOCDEVPRIVATE priv_cmd < 0)

end

section

variable {limit : Nat} {options : BuildOption → Bool} {d final : Driver} {found : Found} {cmd : List UInt8}
  {request : Request} {requests : List Request} {out : Outcome} {branch : Branch} {p2p : P2p}

theorem operating_setSingle (p2p : p2p_data) (cls channel : UInt8) :
    operating (p2p.setSingle cls channel) = ⟨cls, channel, [(cls, [channel])]⟩ := by
  simp [operating, p2p_data.setSingle, usable]

theorem operating_backToMcc (found : Found) (p2p : p2p_data) {call : SinkCall}
    (hmcc : ¬ (call.scc ∧ call.oper_freq ≠ 0)) :
    operating (p2p.backToMcc found.conf found.left.r) = wanted found p2p.cfg.channels call := by
  rw [wanted, if_neg hmcc, p2p_data.backToMcc, operating]
  split_ifs
  · rfl
  · rfl

theorem backToMcc_cfg_channels (conf : wpa_config) (r : Nat) (p2p : p2p_data) :
    (p2p.backToMcc conf r).cfg.channels = p2p.cfg.channels := by
  rw [p2p_data.backToMcc]
  split_ifs
  · rfl
  · rfl

/-- The sink is configured as the call wants it, and the configuration it goes by is kept. -/
theorem config_scc_spec (found : Found) (p2p : p2p_data) (call : SinkCall) :
    ∃ data, p2p_wfd_sink_config_scc found.conf found.left call.scc call.oper_freq (some p2p) = some data ∧
      operating data = wanted found p2p.cfg.channels call ∧ data.cfg.channels = p2p.cfg.channels := by
  rw [p2p_wfd_sink_config_scc]
  split_ifs with hscc
  · refine ⟨_, rfl, ?_, rfl⟩
    rw [operating_setSingle, wanted, if_pos hscc]
    rfl
  · exact ⟨_, rfl, operating_backToMcc found p2p hscc, backToMcc_cfg_channels found.conf found.left.r p2p⟩

/-- What a call for the sink, if there is one, leaves of the fields. -/
theorem configure_spec (found : Found) (cmd : List UInt8) (branch : Branch) (p2p : P2p) :
    (configure found cmd branch p2p).dev_capab = p2p.dev_capab ∧
      (configure found cmd branch p2p).p2p_use_mcc = p2p.p2p_use_mcc ∧
      (configure found cmd branch p2p).data.cfg.channels = p2p.data.cfg.channels ∧
      operating (configure found cmd branch p2p).data =
        ((sinkCall found.radio cmd branch).map (wanted found p2p.data.cfg.channels)).getD (operating p2p.data) := by
  cases hcall : sinkCall found.radio cmd branch with
  | none =>
    have hsame : configure found cmd branch p2p = p2p := by simp only [configure, hcall]
    rw [hsame]
    exact ⟨rfl, rfl, rfl, rfl⟩
  | some call =>
    obtain ⟨data, hdata, hoperating, hchannels⟩ := config_scc_spec found p2p.data call
    have hset : configure found cmd branch p2p = { p2p with data := data } := by
      simp only [configure, hcall, hdata]
    rw [hset]
    exact ⟨rfl, rfl, hchannels, hoperating⟩

theorem set_capability_spec (p2p : P2p) (cmd : List UInt8) : (p2p_set_capability p2p cmd).2 = { p2p with
    dev_capab := if (Comparison.strncmp (ascii "p2p_dev_capa ") 13).holds cmd then
      UInt8.ofNat (toU8 (atoi (cmd.drop 13))) else p2p.dev_capab } := by
  rw [p2p_set_capability]
  split_ifs
  · rfl
  · rfl
  · rfl

/-- The fields after a command. -/
structure Settles (options : BuildOption → Bool) (request : Request) (p2p after : P2p) : Prop where
  dev_capab : after.dev_capab = (setsCapability options request).getD p2p.dev_capab
  p2p_use_mcc : after.p2p_use_mcc = (setsMcc options request).getD p2p.p2p_use_mcc
  operating : operating after.data = (setsOperating options p2p.data.cfg.channels request).getD (operating p2p.data)
  cfg_channels : after.data.cfg.channels = p2p.data.cfg.channels

theorem settles (options : BuildOption → Bool) (request : Request) (p2p : P2p) :
    Settles options request p2p (settledBy request.found request.cmd.bytes (request.branch options) p2p) := by
  cases hbranch : request.branch options with
  | p2p_set_cap =>
    rw [settledBy, set_capability_spec]
    constructor
    · simp only [setsCapability, hbranch, true_and]
      split_ifs
      · rfl
      · rfl
    · rw [setsMcc, hbranch]
      rfl
    · rw [setsOperating, hbranch]
      rfl
    · rfl
  | MIRACAST =>
    obtain ⟨hcapab, hmcc, hchannels, hoperating⟩ := configure_spec request.found request.cmd.bytes .MIRACAST p2p
    constructor
    · rw [setsCapability, hbranch]
      exact hcapab
    · rw [setsMcc, hbranch]
      exact hmcc
    · rw [setsOperating, hbranch]
      exact hoperating
    · exact hchannels
  | p2p_use_mcc =>
    obtain ⟨hcapab, hmcc, hchannels, hoperating⟩ := configure_spec request.found request.cmd.bytes .p2p_use_mcc
      { p2p with p2p_use_mcc := UInt8.ofNat (use_mcc request.cmd.bytes) }
    constructor
    · rw [setsCapability, hbranch]
      exact hcapab
    · rw [setsMcc, hbranch]
      exact hmcc
    · rw [setsOperating, hbranch]
      exact hoperating
    · exact hchannels
  | _ =>
    constructor
    · simp only [setsCapability, hbranch]
      rfl
    · simp only [setsMcc, hbranch]
      rfl
    · simp only [setsOperating, hbranch]
      rfl
    · rfl

/-- What a command makes of `global->p2p`. -/
def settle (options : BuildOption → Bool) (p2p : P2p) (request : Request) : P2p :=
  settledBy request.found request.cmd.bytes (request.branch options) p2p

/-- A run changes `global->p2p` command by command. -/
theorem p2p_of_run (hrun : requests.foldlM (step limit options) d = some final) :
    final.p2p = d.p2p.map (run (settle options) · requests) := by
  have hstep : ∀ (d : Driver) (request : Request) (after : Driver), step limit options d request = some after →
      after.p2p = d.p2p.map (settle options · request) := by
    intro d request after hafter
    obtain ⟨out, hout, rfl⟩ := Option.map_eq_some_iff.mp hafter
    exact (handle_spec hout).p2p
  have hfinal : final.p2p = run (fun p2p request => p2p.map (settle options · request)) d.p2p requests :=
    observe_of_foldlM_eq_some hstep hrun
  rw [hfinal, run_option_map]

/-- What `wpa_driver_send_hang_msg` counts of results that may be failures. -/
def countErrors (limit drv_errors : Nat) (results : List Bool) : Nat :=
  results.foldl (fun drv_errors fails => if fails then wpa_driver_send_hang_msg limit drv_errors else 0) drv_errors

theorem send_hang_msg_eq {e : Nat} (hle : e ≤ limit) : wpa_driver_send_hang_msg limit e = (e + 1) % (limit + 1) := by
  rw [wpa_driver_send_hang_msg]
  split_ifs with hlimit
  · have heq : e = limit := by omega
    rw [heq, Nat.mod_self]
  · rw [Nat.mod_eq_of_lt (by omega)]

theorem countErrors_concat (e : Nat) (results : List Bool) (fails : Bool) : countErrors limit e (results ++ [fails]) =
    if fails then wpa_driver_send_hang_msg limit (countErrors limit e results) else 0 := by
  rw [countErrors, List.foldl_append]
  rfl

/-- The failures since the last success are counted, and every so many of them start over. -/
theorem countErrors_eq {e : Nat} (hstart : e ≤ limit) (results : List Bool) : countErrors limit e results =
    ((results.reverse.takeWhile id).length + if results.all id then e else 0) % (limit + 1) := by
  induction results using List.reverseRecOn with
  | nil =>
    have hlt : e < limit + 1 := Nat.lt_succ_of_le hstart
    simp [countErrors, Nat.mod_eq_of_lt hlt]
  | append_singleton results fails ih =>
    rw [countErrors_concat, ih]
    cases fails with
    | false => simp
    | true =>
      have hlt : ∀ n, n % (limit + 1) ≤ limit := fun n => Nat.le_of_lt_succ (Nat.mod_lt n (Nat.succ_pos limit))
      rw [if_pos rfl, send_hang_msg_eq (hlt _), Nat.mod_add_mod]
      congr 1
      simp
      omega

/-- What a command does to the count of errors is up to the result of its private command. -/
theorem drv_errors_of_step (hstep : step limit options d request = some final) : final.drv_errors =
    countErrors limit d.drv_errors (failed options request).toList := by
  obtain ⟨out, hout, rfl⟩ := Option.map_eq_some_iff.mp hstep
  obtain ⟨_, _, hissued, hunissued⟩ := handle_spec hout
  cases htext : issuedBy request.cmd.bytes (request.branch options) with
  | none =>
    rw [(hunissued htext).2, failed, htext]
    rfl
  | some text =>
    obtain ⟨priv_cmd, hpriv, _, herrors⟩ := hissued text htext
    have hfailed : failed options request = some (decide (request.found.SIOCDEVPRIVATE priv_cmd < 0)) := by
      rw [failed, htext, Option.bind_some, Option.mem_def.mp hpriv, Option.map_some]
    rw [herrors, hfailed]
    simp [countErrors]

theorem drv_errors_of_run (hrun : requests.foldlM (step limit options) d = some final) :
    final.drv_errors = countErrors limit d.drv_errors (requests.filterMap (failed options)) := by
  have hfinal : final.drv_errors =
      run (fun e request => countErrors limit e (failed options request).toList) d.drv_errors requests :=
    observe_of_foldlM_eq_some (fun _ _ _ => drv_errors_of_step) hrun
  rw [hfinal]
  generalize d.drv_errors = e
  clear hfinal hrun
  induction requests generalizing e with
  | nil => rfl
  | cons request requests ih =>
    rw [run_cons, ih]
    cases hfailed : failed options request with
    | none => rw [List.filterMap_cons_none hfailed]; rfl
    | some fails => rw [List.filterMap_cons_some hfailed]; rfl

/-- The private command can be made of any text that is no longer than an `int` can count. -/
theorem privateCommand_ne_none {text : List UInt8} (hlength : text.length < 0x7FFFFFFF) :
    privateCommand text ≠ none := by
  have hint : toInt text.length = text.length := by
    unfold toInt
    rw [Int.bmod_def]
    omega
  unfold privateCommand
  simp only [hint]
  split_ifs with hlong hcopied hcopied
  · simp
  · exfalso
    apply hcopied
    rw [toU32]
    simp only [PRIV_CMD_SIZE] at *
    omega
  · simp
  · exfalso
    apply hcopied
    rw [toU32]
    simp only [PRIV_CMD_SIZE] at *
    omega

theorem issue_eq_none_iff {priv_cmd : Option android_wifi_priv_cmd} {buf : Block} :
    issue limit d found cmd priv_cmd buf = none ↔ priv_cmd = none := Option.map_eq_none_iff

theorem issuedBy_length {text : List UInt8} (htext : issuedBy cmd branch = some text) :
    text.length ≤ cmd.length ∨ text.length = 10 := by
  cases branch with
  | MIRACAST =>
    obtain rfl := Option.some.inj htext
    unfold rebuilt
    split_ifs
    · exact .inr rfl
    · exact .inl (Nat.le_refl _)
  | SETSUSPENDMODE | transparent =>
    obtain rfl := Option.some.inj htext
    exact .inl (Nat.le_refl _)
  | _ => cases htext

/-- Only `p2p_use_mcc` goes through a null pointer, where there is no `global->p2p`. -/
theorem handle_eq_none_iff (hlength : request.cmd.bytes.length < 0x7FFFFFFF) :
    handle limit d request branch = none ↔ branch = .p2p_use_mcc ∧ d.p2p = none := by
  have hcopied : ∀ text ∈ issuedBy request.cmd.bytes branch, privateCommand text ≠ none := by
    intro text htext
    apply privateCommand_ne_none
    obtain hle | hten := issuedBy_length htext
    · omega
    · omega
  cases branch with
  | MIRACAST =>
    simp only [handle, issue_eq_none_iff]
    exact ⟨fun hnone => absurd hnone (hcopied _ rfl), fun hother => by cases hother.1⟩
  | SETSUSPENDMODE | transparent =>
    simp only [handle, Option.map_eq_none_iff, issue_eq_none_iff]
    exact ⟨fun hnone => absurd hnone (hcopied _ rfl), fun hother => by cases hother.1⟩
  | p2p_use_mcc =>
    cases hp2p : d.p2p with
    | none => simp [handle, hp2p]
    | some p2p => simp [handle, hp2p]
  | p2p_get_cap | p2p_set_cap =>
    cases hp2p : d.p2p with
    | none => simp [handle, hp2p]
    | some p2p => simp [handle, hp2p]
  | COUNTRY =>
    simp only [handle]
    split_ifs
    · simp
    · simp
    · simp
  | rxfilter length offset =>
    cases hidx : strtol0 (request.cmd.bytes.drop length) with
    | none => simp [handle, hidx]
    | some idx => simp [handle, hidx]
  | smt_rate =>
    cases hidx : strtol0 (request.cmd.bytes.drop 8) with
    | none => simp [handle, hidx]
    | some idx => simp [handle, hidx]
  | mtk_rx_packet_filter =>
    cases hparams : mtk_rx_packet_filter request.cmd.bytes with
    | none => simp [handle, hparams]
    | some params => simp [handle, hparams]
  | _ => simp [handle]

theorem p2p_isSome_of_step (hstep : step limit options d request = some final) :
    final.p2p.isSome = d.p2p.isSome := by
  obtain ⟨out, hout, rfl⟩ := Option.map_eq_some_iff.mp hstep
  rw [(handle_spec hout).p2p, Option.isSome_map]

end

/-- The capability is set twice, and one command between is refused. -/
def settingRequests : List Request := [
  ⟨⟨ascii "p2p_set_cap p2p_dev_capa 7", by decide +kernel⟩, Block.fresh 64, refusing⟩,
  ⟨⟨ascii "SETSUSPENDMODE 1", by decide +kernel⟩, Block.fresh 64, refusing⟩,
  ⟨⟨ascii "p2p_set_cap p2p_dev_capa 300", by decide +kernel⟩, Block.fresh 64, refusing⟩]

section

variable (limit : Nat) (options : BuildOption → Bool) (d : Driver) (requests : List Request)

/-- A run of commands ends early just where there is no `global->p2p` and `p2p_use_mcc` comes. -/
theorem run_eq_none_iff (hlengths : ∀ request ∈ requests, request.cmd.bytes.length < 0x7FFFFFFF) :
    requests.foldlM (step limit options) d = none ↔
      d.p2p = none ∧ ∃ request ∈ requests, selected options request.cmd.bytes = .p2p_use_mcc := by
  induction requests generalizing d with
  | nil =>
    constructor
    · intro hnone
      cases hnone
    · rintro ⟨_, request, hmem, _⟩
      cases hmem
  | cons request requests ih =>
    obtain ⟨hfirst, hrest⟩ := List.forall_mem_cons.mp hlengths
    have hfault : step limit options d request = none ↔ _ := Option.map_eq_none_iff.trans (handle_eq_none_iff hfirst)
    rw [List.foldlM_cons, List.exists_mem_cons_iff]
    cases hstep : step limit options d request with
    | none =>
      obtain ⟨hmcc, hnone⟩ := hfault.mp hstep
      exact ⟨fun _ => ⟨hnone, .inl hmcc⟩, fun _ => rfl⟩
    | some next =>
      have hkept : next.p2p = none ↔ d.p2p = none := by
        have hsome := p2p_isSome_of_step hstep
        rw [← Option.not_isSome_iff_eq_none, hsome, Option.not_isSome_iff_eq_none]
      have hother : ¬ (selected options request.cmd.bytes = .p2p_use_mcc ∧ d.p2p = none) := by
        intro hboth
        rw [hfault.mpr hboth] at hstep
        cases hstep
      refine (ih next hrest).trans ?_
      rw [hkept]
      tauto

variable {final : Driver} {p2p : P2p}

theorem exists_run (hlengths : ∀ request ∈ requests, request.cmd.bytes.length < 0x7FFFFFFF) (hp2p : d.p2p = some p2p) :
    ∃ final, requests.foldlM (step limit options) d = some final := by
  apply Option.ne_none_iff_exists'.mp
  rw [Ne, run_eq_none_iff limit options d requests hlengths, hp2p]
  rintro ⟨hnone, _⟩
  cases hnone

/-- The fields after a run from others. -/
theorem settings_of_run (hp2p : d.p2p = some p2p) (hrun : requests.foldlM (step limit options) d = some final) :
    ∃ after, final.p2p = some after ∧
      after.dev_capab = (requests.filterMap (setsCapability options)).getLastD p2p.dev_capab ∧
      after.p2p_use_mcc = (requests.filterMap (setsMcc options)).getLastD p2p.p2p_use_mcc ∧
      operating after.data =
        (requests.filterMap (setsOperating options p2p.data.cfg.channels)).getLastD (operating p2p.data) := by
  have hfinal := p2p_of_run hrun
  rw [hp2p, Option.map_some] at hfinal
  have hsettles : ∀ p2p request, Settles options request p2p (settle options p2p request) :=
    fun p2p request => settles options request p2p
  refine ⟨_, hfinal, ?_, ?_, ?_⟩
  · have hstep := fun p request (_ : True) => (hsettles p request).dev_capab
    exact observe_run P2p.dev_capab (fun _ _ _ => trivial) hstep trivial requests
  · have hstep := fun p request (_ : True) => (hsettles p request).p2p_use_mcc
    exact observe_run P2p.p2p_use_mcc (fun _ _ _ => trivial) hstep trivial requests
  · -- the channels to get back to are those of the configuration, which no command changes
    have hkeep : ∀ p (request : Request), p.data.cfg.channels = p2p.data.cfg.channels →
        (settle options p request).data.cfg.channels = p2p.data.cfg.channels :=
      fun p request hsame => (hsettles p request).cfg_channels.trans hsame
    have hstep : ∀ p (request : Request), p.data.cfg.channels = p2p.data.cfg.channels →
        operating (settle options p request).data =
          (setsOperating options p2p.data.cfg.channels request).getD (operating p.data) := by
      intro p request hsame
      rw [(hsettles p request).operating, hsame]
    exact observe_run (fun p : P2p => operating p.data) hkeep hstep rfl requests

/-- Where there is a `global->p2p`, every run of commands goes through, and at its end each setting is
as the last command has left it that sets it, whatever came between: the capability, whether to use
MCC, and the operating channel with the channels that may be used. -/
theorem run_settings (hlengths : ∀ request ∈ requests, request.cmd.bytes.length < 0x7FFFFFFF)
    (hp2p : d.p2p = some p2p) : ∃ final after, requests.foldlM (step limit options) d = some final ∧
      final.p2p = some after ∧
      after.dev_capab = (requests.filterMap (setsCapability options)).getLastD p2p.dev_capab ∧
      after.p2p_use_mcc = (requests.filterMap (setsMcc options)).getLastD p2p.p2p_use_mcc ∧
      operating after.data =
        (requests.filterMap (setsOperating options p2p.data.cfg.channels)).getLastD (operating p2p.data) := by
  obtain ⟨final, hrun⟩ := exists_run limit options d requests hlengths hp2p
  obtain ⟨after, hafter, hsettings⟩ := settings_of_run limit options d requests hp2p hrun
  exact ⟨final, after, hrun, hafter, hsettings⟩

theorem run_settings_capability : ∃ final after,
    settingRequests.foldlM (step 4 fun _ => true) fresh = some final ∧ final.p2p = some after ∧
      after.dev_capab = 44 := by
  have hlengths : ∀ request ∈ settingRequests, request.cmd.bytes.length < 0x7FFFFFFF := by decide +kernel
  have hlast : (settingRequests.filterMap (setsCapability fun _ => true)).getLastD 5 = 44 := by decide +kernel
  obtain ⟨final, after, hrun, hafter, hcapab, _⟩ := run_settings 4 (fun _ => true) fresh settingRequests hlengths rfl
  exact ⟨final, after, hrun, hafter, hcapab.trans hlast⟩

theorem capabilityText_no_nul (v : UInt8) : 0 ∉ capabilityText v := by
  rw [capabilityText, List.mem_append, List.mem_append]
  rintro ((hmem | hmem) | hmem)
  · exact absurd hmem (by decide)
  · exact (plain_decimalText hmem).1 rfl
  · exact absurd hmem (by decide)

theorem capabilityText_length_le (v : UInt8) : (capabilityText v).length ≤ 17 := by
  have hall : ∀ n < 256, (decimalText (n : Nat)).length ≤ 3 := by decide +kernel
  have hdigits := hall v.toNat v.toNat_lt
  rw [capabilityText, List.length_append, List.length_append]
  exact Nat.add_le_add_right (Nat.add_le_add_left hdigits _) _

/-- Whatever commands came between, `p2p_get_cap` answers with the capability that was set last. -/
theorem capability_answered {request : Request} (hp2p : d.p2p = some p2p)
    (hrun : requests.foldlM (step limit options) d = some final)
    (hbranch : selected options request.cmd.bytes = .p2p_get_cap)
    (hasked : (Comparison.strncmp (ascii "p2p_dev_capa") 12).holds (request.cmd.bytes.drop 12))
    (hroom : 17 < request.buf.length) : ∃ out,
      wpa_driver_nl80211_driver_cmd limit options final request = some out ∧ out.ret = (stringOf out.buf).length ∧
        stringOf out.buf =
          capabilityText ((requests.filterMap (setsCapability options)).getLastD p2p.dev_capab) := by
  obtain ⟨after, hafter, hcapab, _⟩ := settings_of_run limit options d requests hp2p hrun
  rw [← hcapab]
  let text := capabilityText after.dev_capab
  have hfits : text.length < request.buf.length :=
    Nat.lt_of_le_of_lt (capabilityText_length_le after.dev_capab) hroom
  have hstring := @stringOf_snprintf request.buf _ _ (capabilityText_no_nul after.dev_capab) hfits
  refine ⟨Outcome.returned final (snprintf request.buf 0 request.buf.length text) text.length, ?_, ?_, hstring⟩
  · rw [wpa_driver_nl80211_driver_cmd, hbranch]
    simp only [handle, hafter, p2p_get_capability, hasked, if_true]
    rfl
  · rw [Outcome.returned, hstring]

/-- The errors that are counted after a run are the failures since the last private command that
succeeded, and every so many of them start over. -/
theorem run_drv_errors (hstart : d.drv_errors ≤ limit) (hrun : requests.foldlM (step limit options) d = some final) :
    final.drv_errors = (((requests.filterMap (failed options)).reverse.takeWhile id).length +
      if (requests.filterMap (failed options)).all id then d.drv_errors else 0) % (limit + 1) := by
  rw [drv_errors_of_run hrun, countErrors_eq hstart]

/-- Of three commands one was refused. -/
theorem run_drv_errors_one : ∃ final,
    settingRequests.foldlM (step 4 fun _ => true) fresh = some final ∧ final.drv_errors = 1 := by
  have hlengths : ∀ request ∈ settingRequests, request.cmd.bytes.length < 0x7FFFFFFF := by decide +kernel
  have hfailed : settingRequests.filterMap (failed fun _ => true) = [true] := by decide +kernel
  obtain ⟨final, hrun⟩ := exists_run 4 (fun _ => true) fresh settingRequests hlengths rfl
  refine ⟨final, hrun, ?_⟩
  rw [run_drv_errors 4 (fun _ => true) fresh settingRequests (Nat.zero_le 4) hrun, hfailed]
  rfl

end

end panelli.wpa_supplicant.driver_cmd
