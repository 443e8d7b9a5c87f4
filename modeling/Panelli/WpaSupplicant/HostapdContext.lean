import Panelli.WpaSupplicant.DriverCmd

open panelli.cstring

namespace panelli.wpa_supplicant

/-- What `drv->ctx` points to, as a `wpa_supplicant`: whether it has a configuration. -/
structure Context where
  conf : Bool

structure wpa_driver_nl80211_data where
  ctx : Option Context
  associated : Bool

structure i802_bss where
  ifname : List UInt8
  drv : Option wpa_driver_nl80211_data

/-- What the branches find outside: the results of `socket` and of the request for the
country, and whether `global->p2p` is set. -/
structure Outside where
  socket : Int
  ioctl : List UInt8 → Int
  p2p : Bool

/-- The local variables that are set before the branches. -/
structure Locals where
  wpa_s : Option Context
  hapd : Option Context

/-- The start of `wpa_driver_nl80211_driver_cmd`, unless it returns. -/
def setContext (bss : i802_bss) : Option Locals :=
  match bss.drv with
  | none => none
  | some drv =>
    match drv.ctx with
    | none => none
    | some ctx =>
      if bss.ifname = ascii "ap0" then some { wpa_s := none, hapd := some ctx }
      else if !ctx.conf then none
      else some { wpa_s := some ctx, hapd := none }

def wpa_driver_mediatek_set_country (outside : Outside) (alpha2_arg : List UInt8) : Int :=
  if outside.socket < 0 then -1
  else
    let ret := outside.ioctl (ascii "COUNTRY " ++ alpha2_arg)
    if ret < 0 then ret else 0

/-- The uses of `wpa_s`: what it is passed to, or what is read through it. -/
inductive WpaSUse where
  | wpa_driver_get_sta_statistics
  | own_addr
  | wpa_driver_notify_country_change
  | wpa_drv_deauthenticate
  | global_p2p
  | p2p_get_capability
  | p2p_set_capability
  | mtk_get_shared_radio_freqs
  | p2p_wfd_sink_config_scc
deriving DecidableEq

/-- An `int` that is stored in an `unsigned char`. -/
def toU8 (value : Int) : Nat := (value % 256).toNat

/-- The value of `MIRACAST`, and the one of `p2p_use_mcc`. -/
def miracast (cmd : List UInt8) : Nat := toU8 (atoi (cmd.drop 9))

def use_mcc (cmd : List UInt8) : Nat := toU8 (atoi (cmd.drop 12))

/-- The uses of `wpa_s` in a branch, in their order. -/
def wpa_s_uses (outside : Outside) (associated : Bool) (cmd : List UInt8) : Branch → List WpaSUse
  | .GET_STA_STATISTICS => [.wpa_driver_get_sta_statistics]
  | .MACADDR => [.own_addr]
  | .COUNTRY =>
    if cmd.length ≠ 7 + 3 then []
    else if wpa_driver_mediatek_set_country outside (cmd.drop 8) = 0 then [.wpa_driver_notify_country_change]
    else []
  | .stop => if associated then [.wpa_drv_deauthenticate] else []
  | .p2p_get_cap => .global_p2p :: if outside.p2p then [.p2p_get_capability] else []
  | .p2p_set_cap => .global_p2p :: if outside.p2p then [.p2p_set_capability] else []
  | .MIRACAST =>
    match miracast cmd with
    | 0 | 1 => [.mtk_get_shared_radio_freqs, .p2p_wfd_sink_config_scc]
    | 2 =>
      if (strstr cmd (ascii " freq=")).isSome then [.p2p_wfd_sink_config_scc]
      else [.mtk_get_shared_radio_freqs, .p2p_wfd_sink_config_scc]
    | _ => []
  | .p2p_use_mcc =>
    .global_p2p :: if use_mcc cmd ≠ 0 then [.p2p_wfd_sink_config_scc]
      else [.mtk_get_shared_radio_freqs, .p2p_wfd_sink_config_scc]
  | _ => []

/-- The local variables and the uses of `wpa_s` when a command is handled. -/
structure Handling where
  locals : Locals
  uses : List WpaSUse

def wpa_driver_nl80211_driver_cmd (outside : Outside) (options : BuildOption → Bool) (bss : i802_bss)
    (cmd : CString) : Option Handling :=
  match bss.drv, setContext bss with
  | some drv, some locals =>
    some ⟨locals, wpa_s_uses outside drv.associated cmd.bytes (selected options cmd.bytes)⟩
  | _, _ => none

/-- `wpa_s` is not used unless it was set. -/
def UsesSet (handled : Option Handling) : Prop :=
  ∀ handling ∈ handled, handling.locals.wpa_s = none → handling.uses = []

/-- The command does not come to a use of `wpa_s`. -/
structure AvoidsContext (outside : Outside) (associated : Bool) (options : BuildOption → Bool)
    (cmd : List UInt8) : Prop where
  get_sta_statistics : ¬ (Comparison.strncasecmp (ascii "GET_STA_STATISTICS ") 19).holds cmd
  macaddr : ¬ (Comparison.strncmp (ascii "MACADDR") 7).holds cmd
  country : (Comparison.strncasecmp (ascii "COUNTRY") 7).holds cmd → cmd.length = 10 →
    outside.socket < 0 ∨ outside.ioctl (ascii "COUNTRY " ++ cmd.drop 8) < 0
  stop : (Comparison.strcasecmp (ascii "stop")).holds cmd → associated = false
  p2p_get_cap : options .CONFIG_MTK_WFD_SINK → ¬ (Comparison.strncmp (ascii "p2p_get_cap ") 12).holds cmd
  p2p_set_cap : options .CONFIG_MTK_WFD_SINK → ¬ (Comparison.strncmp (ascii "p2p_set_cap ") 12).holds cmd
  miracast : options .CONFIG_MTK_WFD_SINK → (Comparison.strncmp (ascii "MIRACAST ") 9).holds cmd → 2 < miracast cmd
  p2p_use_mcc : options .CONFIG_MTK_SCC_MCC → ¬ (Comparison.strncasecmp (ascii "p2p_use_mcc=") 12).holds cmd

section

variable {outside : Outside} {associated : Bool} {options : BuildOption → Bool} {cmd : List UInt8}
  {branch : Branch}

/-- The country is set unless the socket or the request fails. -/
theorem set_country_eq_zero_iff {alpha2_arg : List UInt8} :
    wpa_driver_mediatek_set_country outside alpha2_arg = 0 ↔
      ¬ (outside.socket < 0 ∨ outside.ioctl (ascii "COUNTRY " ++ alpha2_arg) < 0) := by
  unfold wpa_driver_mediatek_set_country
  dsimp only
  split_ifs with hsocket hioctl
  · simp [hsocket]
  · simp [hioctl]
    omega
  · simp [hsocket, hioctl]

/-- A branch does not use `wpa_s` exactly if it is none of those that may, or does not
come to it. -/
theorem wpa_s_uses_eq_nil_iff : wpa_s_uses outside associated cmd branch = [] ↔
    branch ≠ .GET_STA_STATISTICS ∧ branch ≠ .MACADDR ∧
      (branch = .COUNTRY → cmd.length = 10 →
        outside.socket < 0 ∨ outside.ioctl (ascii "COUNTRY " ++ cmd.drop 8) < 0) ∧
      (branch = .stop → associated = false) ∧ branch ≠ .p2p_get_cap ∧ branch ≠ .p2p_set_cap ∧
      (branch = .MIRACAST → 2 < miracast cmd) ∧ branch ≠ .p2p_use_mcc := by
  cases branch with
  | COUNTRY =>
    rw [wpa_s_uses]
    split_ifs with hlength hset
    · simp [hlength]
    · have hnot := set_country_eq_zero_iff.mp hset
      simp [not_not.mp hlength, hnot]
    · have hor := not_not.mp (set_country_eq_zero_iff.not.mp hset)
      simp [hor]
  | stop => cases associated <;> simp [wpa_s_uses]
  | MIRACAST =>
    rw [wpa_s_uses]
    generalize miracast cmd = value
    match value with
    | 0 => simp
    | 1 => simp
    | 2 =>
      split_ifs
      · simp
      · simp
    | value + 3 => simp
  | _ => simp [wpa_s_uses]

theorem wpa_s_uses_selected_iff :
    wpa_s_uses outside associated cmd (selected options cmd) = [] ↔ AvoidsContext outside associated options cmd := by
  have hget : selected options cmd = .GET_STA_STATISTICS ↔
      (Comparison.strncasecmp (ascii "GET_STA_STATISTICS ") 19).holds cmd :=
    selected_eq_iff_of_none (by decide +kernel)
  have hmacaddr : selected options cmd = .MACADDR ↔ (Comparison.strncmp (ascii "MACADDR") 7).holds cmd :=
    selected_eq_iff_of_none (by decide +kernel)
  have hcountry : selected options cmd = .COUNTRY ↔ (Comparison.strncasecmp (ascii "COUNTRY") 7).holds cmd :=
    selected_eq_iff_of_none (by decide +kernel)
  have hstop : selected options cmd = .stop ↔ (Comparison.strcasecmp (ascii "stop")).holds cmd :=
    selected_eq_iff_of_none (by decide +kernel)
  have hgetcap : selected options cmd = .p2p_get_cap ↔
      options .CONFIG_MTK_WFD_SINK ∧ (Comparison.strncmp (ascii "p2p_get_cap ") 12).holds cmd :=
    selected_eq_iff_of_some (by decide +kernel)
  have hsetcap : selected options cmd = .p2p_set_cap ↔
      options .CONFIG_MTK_WFD_SINK ∧ (Comparison.strncmp (ascii "p2p_set_cap ") 12).holds cmd :=
    selected_eq_iff_of_some (by decide +kernel)
  have hmiracast : selected options cmd = .MIRACAST ↔
      options .CONFIG_MTK_WFD_SINK ∧ (Comparison.strncmp (ascii "MIRACAST ") 9).holds cmd :=
    selected_eq_iff_of_some (by decide +kernel)
  have hmcc : selected options cmd = .p2p_use_mcc ↔
      options .CONFIG_MTK_SCC_MCC ∧ (Comparison.strncasecmp (ascii "p2p_use_mcc=") 12).holds cmd :=
    selected_eq_iff_of_some (by decide +kernel)
  simp only [wpa_s_uses_eq_nil_iff, ne_eq, hget, hmacaddr, hcountry, hstop, hgetcap, hsetcap, hmiracast, hmcc,
    not_and, and_imp]
  constructor
  · rintro ⟨h1, h2, h3, h4, h5, h6, h7, h8⟩
    exact ⟨h1, h2, h3, h4, h5, h6, h7, h8⟩
  · rintro ⟨h1, h2, h3, h4, h5, h6, h7, h8⟩
    exact ⟨h1, h2, h3, h4, h5, h6, h7, h8⟩

/-- On `ap0`, commands are handled without `wpa_s` if there is a context. -/
theorem handling_iff_of_ap0 {bss : i802_bss} (hap0 : bss.ifname = ascii "ap0") {cmd : CString}
    {handling : Handling} : handling ∈ wpa_driver_nl80211_driver_cmd outside options bss cmd ↔
      ∃ drv ∈ bss.drv, ∃ ctx ∈ drv.ctx, handling = ⟨⟨none, some ctx⟩,
        wpa_s_uses outside drv.associated cmd.bytes (selected options cmd.bytes)⟩ := by
  unfold wpa_driver_nl80211_driver_cmd setContext
  cases bss.drv with
  | none => simp
  | some drv =>
    cases hctx : drv.ctx with
    | none => simp [hctx]
    | some ctx => simp [hap0, hctx, eq_comm]

end

/-- On `ap0`, where `wpa_s` is not set, it is not used exactly if there is no context or
the command avoids the branches that come to a use. -/
theorem ap0_usesSet_iff (outside : Outside) (options : BuildOption → Bool) (bss : i802_bss) (cmd : CString)
    (hap0 : bss.ifname = ascii "ap0") :
    UsesSet (wpa_driver_nl80211_driver_cmd outside options bss cmd) ↔
      ∀ drv ∈ bss.drv, drv.ctx.isSome → AvoidsContext outside drv.associated options cmd.bytes := by
  constructor
  · intro husesSet drv hdrv hctx
    obtain ⟨ctx, hctx⟩ := Option.isSome_iff_exists.mp hctx
    apply wpa_s_uses_selected_iff.mp
    exact husesSet _ ((handling_iff_of_ap0 hap0).mpr ⟨drv, hdrv, ctx, hctx, rfl⟩) rfl
  · intro havoids handling hhandled _
    obtain ⟨drv, hdrv, ctx, hctx, rfl⟩ := (handling_iff_of_ap0 hap0).mp hhandled
    exact wpa_s_uses_selected_iff.mpr (havoids drv hdrv (Option.isSome_of_mem hctx))

/-- A hostapd interface that is not associated, and an outside where all succeeds. -/
def ap0 : i802_bss := ⟨ascii "ap0", some ⟨some ⟨false⟩, false⟩⟩

def succeeding : Outside := ⟨3, fun _ => 0, true⟩

/-- On `ap0`, `getpower` does not use `wpa_s`. -/
theorem ap0_getpower_usesSet :
    UsesSet (wpa_driver_nl80211_driver_cmd succeeding (fun _ => true) ap0 ⟨ascii "getpower", by decide⟩) := by
  apply (ap0_usesSet_iff succeeding (fun _ => true) ap0 ⟨ascii "getpower", by decide⟩ rfl).mpr
  rintro drv hdrv _
  obtain rfl := Option.some.inj hdrv
  constructor
  · decide +kernel
  · decide +kernel
  · decide +kernel
  · decide +kernel
  · decide +kernel
  · decide +kernel
  · decide +kernel
  · decide +kernel

/-- On `ap0`, `MACADDR` reads the address through `wpa_s`, which is not set. -/
theorem ap0_macaddr_not_usesSet :
    ¬ UsesSet (wpa_driver_nl80211_driver_cmd succeeding (fun _ => false) ap0 ⟨ascii "MACADDR", by decide⟩) := by
  have hselected : selected (fun _ => false) (ascii "MACADDR") = .MACADDR := by decide +kernel
  have hhandled : ⟨⟨none, some ⟨false⟩⟩, [.own_addr]⟩ ∈
      wpa_driver_nl80211_driver_cmd succeeding (fun _ => false) ap0 ⟨ascii "MACADDR", by decide⟩ := by
    apply (handling_iff_of_ap0 rfl).mpr
    refine ⟨_, rfl, _, rfl, ?_⟩
    rw [hselected]
    rfl
  intro husesSet
  cases husesSet _ hhandled rfl

end panelli.wpa_supplicant
