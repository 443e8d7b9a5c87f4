import Mathlib.Logic.Function.Basic
import Panelli.WpaSupplicant.HostapdContext
import Panelli.WpaSupplicant.SharedFreqs

open panelli.cstring

namespace panelli.wpa_supplicant

structure p2p_reg_class where
  reg_class : UInt8
  channel : Nat → UInt8
  channels : Nat

structure p2p_channels where
  reg_class : Nat → p2p_reg_class
  reg_classes : Nat

/-- The fields of a `p2p_config` that are used here. -/
structure p2p_config where
  cfg_op_channel : UInt8
  channels : p2p_channels

structure p2p_data where
  op_reg_class : UInt8
  op_channel : UInt8
  channels : p2p_channels
  cfg : p2p_config

/-- The fields of a `wpa_config` that are used here. -/
structure wpa_config where
  p2p_oper_reg_class : Int
  p2p_oper_channel : Int

/-- What no caller determines: the bytes that the local variables have before they are
assigned, and the random number. -/
structure Undetermined where
  op_reg_class : UInt8
  op_channel : UInt8
  r : Nat

/-- The operating class and the channel, unless the frequency is unknown. -/
def priv_p2p_freq_to_channel (freq : Nat) : Option (UInt8 × UInt8) :=
  if freq ≥ 2412 ∧ freq ≤ 2472 then
    if (freq - 2407) % 5 ≠ 0 then none
    else some (81, UInt8.ofNat ((freq - 2407) / 5))
  else if freq = 2484 then some (82, 14)
  else if freq ≥ 5180 ∧ freq ≤ 5240 then
    if (freq - 5000) % 5 ≠ 0 then none
    else some (115, UInt8.ofNat ((freq - 5000) / 5))
  else if freq ≥ 5745 ∧ freq ≤ 5805 then
    if (freq - 5000) % 5 ≠ 0 then none
    else some (124, UInt8.ofNat ((freq - 5000) / 5))
  else none

/-- The assignments for a single channel. -/
def p2p_data.setSingle (p2p : p2p_data) (op_reg_class op_channel : UInt8) : p2p_data :=
  let first := p2p.channels.reg_class 0
  let first := {
    reg_class := op_reg_class, channel := Function.update first.channel 0 op_channel, channels := 1 }
  { p2p with
    op_channel := op_channel
    op_reg_class := op_reg_class
    channels := { reg_class := Function.update p2p.channels.reg_class 0 first, reg_classes := 1 } }

/-- The assignments to get back to MCC. -/
def p2p_data.backToMcc (conf : wpa_config) (r : Nat) (p2p : p2p_data) : p2p_data :=
  let p2p :=
    if conf.p2p_oper_reg_class ≠ 0 ∧ conf.p2p_oper_channel ≠ 0 then
      { p2p with
        op_reg_class := UInt8.ofNat (toU8 conf.p2p_oper_reg_class)
        op_channel := UInt8.ofNat (toU8 conf.p2p_oper_channel)
        cfg := { p2p.cfg with cfg_op_channel := 1 } }
    else
      { p2p with
        op_reg_class := 81
        op_channel := UInt8.ofNat (1 + (r % 3) * 5)
        cfg := { p2p.cfg with cfg_op_channel := 0 } }
  { p2p with channels := p2p.cfg.channels }

/-- `global->p2p` after the call. The result of the conversion is not looked at, so if it
fails the local variables are stored as they were. -/
def p2p_wfd_sink_config_scc (conf : wpa_config) (left : Undetermined) (scc : Bool) (oper_freq : Nat) :
    Option p2p_data → Option p2p_data
  | none => none
  | some p2p =>
    if scc ∧ oper_freq ≠ 0 then
      let (op_reg_class, op_channel) :=
        (priv_p2p_freq_to_channel oper_freq).getD (left.op_reg_class, left.op_channel)
      some (p2p.setSingle op_reg_class op_channel)
    else some (p2p.backToMcc conf left.r)

/-- The frequencies that are stored, unless there is no memory. -/
def mtk_get_shared_radio_freqs (calloc : Bool) (flags : FreqFlags) (ifaces : List Iface) (len : Nat) :
    Option (List Int) :=
  if calloc then some ((mtk_get_shared_radio_freqs_data flags ifaces len).map (·.freq)) else none

/-- The arguments of a call of `p2p_wfd_sink_config_scc`. -/
structure SinkCall where
  scc : Bool
  oper_freq : Nat
deriving DecidableEq

/-- The interfaces on the radio, the flags, and whether there is memory to look for the
frequencies in use. -/
structure Radio where
  calloc : Bool
  flags : FreqFlags
  ifaces : List Iface

/-- The call for the shared frequency, which has to pass a test. -/
def sharedCall (test : Int → Bool) (radio : Radio) : SinkCall :=
  match (mtk_get_shared_radio_freqs radio.calloc radio.flags radio.ifaces 1).bind List.head? with
  | some freq => if test freq then ⟨true, toU32 freq⟩ else ⟨false, 0⟩
  | none => ⟨false, 0⟩

/-- The call that a command makes, where `MIRACAST` has its frequency without a sign and
`p2p_use_mcc` with one. -/
def sinkCall (radio : Radio) (cmd : List UInt8) : Branch → Option SinkCall
  | .MIRACAST =>
    match miracast cmd with
    | 0 | 1 => some (sharedCall (toU32 · > 0) radio)
    | 2 =>
      match strstr cmd (ascii " freq=") with
      | some pos => some ⟨true, toU32 (atoi (pos.drop 6))⟩
      | none => some (sharedCall (toU32 · > 0) radio)
    | _ => none
  | .p2p_use_mcc => some (if use_mcc cmd ≠ 0 then ⟨false, 0⟩ else sharedCall (· > 0) radio)
  | _ => none

/-- An operating class: its channels, and the frequency from which they are counted. -/
structure OperatingClass where
  op_class : UInt8
  start : Nat
  first : Nat
  last : Nat

def operatingClasses : List OperatingClass := [⟨81, 2407, 1, 13⟩, ⟨82, 2414, 14, 14⟩, ⟨115, 5000, 36, 48⟩,
  ⟨124, 5000, 149, 161⟩]

/-- A channel of an operating class has this centre frequency. -/
def CentreFreq (op_class channel : UInt8) (freq : Nat) : Prop :=
  ∃ cls ∈ operatingClasses, cls.op_class = op_class ∧ cls.first ≤ channel.toNat ∧ channel.toNat ≤ cls.last ∧
    freq = cls.start + 5 * channel.toNat

/-- No field for the channel was changed. -/
structure p2p_data.SameChannel (p2p p2p' : p2p_data) : Prop where
  op_reg_class : p2p'.op_reg_class = p2p.op_reg_class
  op_channel : p2p'.op_channel = p2p.op_channel
  channels : p2p'.channels = p2p.channels

/-- All fields are for one channel, with this centre frequency. -/
structure p2p_data.SingleChannel (p2p : p2p_data) (freq : Nat) : Prop where
  centre : CentreFreq p2p.op_reg_class p2p.op_channel freq
  reg_classes : p2p.channels.reg_classes = 1
  channels : (p2p.channels.reg_class 0).channels = 1
  reg_class : (p2p.channels.reg_class 0).reg_class = p2p.op_reg_class
  channel : (p2p.channels.reg_class 0).channel 0 = p2p.op_channel

/-- Whatever is left undetermined, the fields are kept or set to the frequency, and they
are kept if it is unknown. -/
def ConfiguresScc (conf : wpa_config) (p2p : Option p2p_data) (oper_freq : Nat) : Prop :=
  ∀ left, ∀ before ∈ p2p, ∀ after ∈ p2p_wfd_sink_config_scc conf left true oper_freq p2p,
    (before.SameChannel after ∨ after.SingleChannel oper_freq) ∧
      (priv_p2p_freq_to_channel oper_freq = none → before.SameChannel after)

/-- The fields are what getting back to MCC makes of them. -/
structure p2p_data.AtMcc (conf : wpa_config) (p2p : p2p_data) : Prop where
  configured : conf.p2p_oper_reg_class ≠ 0 ∧ conf.p2p_oper_channel ≠ 0
  op_reg_class : UInt8.ofNat (toU8 conf.p2p_oper_reg_class) = p2p.op_reg_class
  op_channel : UInt8.ofNat (toU8 conf.p2p_oper_channel) = p2p.op_channel
  channels : p2p.cfg.channels = p2p.channels

section

variable {conf : wpa_config} {p2p after : p2p_data} {left : Undetermined} {oper_freq : Nat}
  {op_class channel : UInt8} {calloc : Bool} {flags : FreqFlags} {ifaces : List Iface} {radio : Radio}

theorem ofNat_toNat_of_lt {n : Nat} (hlt : n < 256) : (UInt8.ofNat n).toNat = n := by
  rw [UInt8.toNat_ofNat']
  exact Nat.mod_eq_of_lt hlt

/-- A frequency on a channel of one of the classes, counted in steps of 5 MHz. -/
theorem centreFreq_of_step {start : Nat} (cls : OperatingClass) (hcls : cls ∈ operatingClasses)
    (hstart : cls.start = start) (hlast : cls.last < 256) (hlo : start + 5 * cls.first ≤ oper_freq)
    (hhi : oper_freq ≤ start + 5 * cls.last) (hstep : (oper_freq - start) % 5 = 0) :
    CentreFreq cls.op_class (UInt8.ofNat ((oper_freq - start) / 5)) oper_freq := by
  have hchannel : (UInt8.ofNat ((oper_freq - start) / 5)).toNat = (oper_freq - start) / 5 :=
    ofNat_toNat_of_lt (by omega)
  refine ⟨cls, hcls, rfl, ?_, ?_, ?_⟩
  · omega
  · omega
  · omega

theorem centreFreq_of_known
    (hknown : priv_p2p_freq_to_channel oper_freq = some (op_class, channel)) :
    CentreFreq op_class channel oper_freq := by
  unfold priv_p2p_freq_to_channel at hknown
  split_ifs at hknown with h24 hstep h14 h52 hstep hhigh hstep
  · obtain ⟨rfl, rfl⟩ := Prod.mk.inj (Option.some.inj hknown)
    exact centreFreq_of_step ⟨81, 2407, 1, 13⟩ (by simp [operatingClasses]) rfl (by simp) (by simp; omega)
      (by simp; omega) (by omega)
  · obtain ⟨rfl, rfl⟩ := Prod.mk.inj (Option.some.inj hknown)
    exact ⟨⟨82, 2414, 14, 14⟩, by simp [operatingClasses], rfl, by simp, by simp, h14⟩
  · obtain ⟨rfl, rfl⟩ := Prod.mk.inj (Option.some.inj hknown)
    exact centreFreq_of_step ⟨115, 5000, 36, 48⟩ (by simp [operatingClasses]) rfl (by simp)
      (by simp; omega) (by simp; omega) (by omega)
  · obtain ⟨rfl, rfl⟩ := Prod.mk.inj (Option.some.inj hknown)
    exact centreFreq_of_step ⟨124, 5000, 149, 161⟩ (by simp [operatingClasses]) rfl (by simp)
      (by simp; omega) (by simp; omega) (by omega)

theorem known_of_centreFreq (hcentre : CentreFreq op_class channel oper_freq) :
    priv_p2p_freq_to_channel oper_freq = some (op_class, channel) := by
  obtain ⟨cls, hcls, rfl, hfirst, hlast, rfl⟩ := hcentre
  have hchannel : UInt8.ofNat channel.toNat = channel := UInt8.ofNat_toNat
  unfold priv_p2p_freq_to_channel
  simp only [operatingClasses, List.mem_cons, List.not_mem_nil, or_false] at hcls
  rcases hcls with rfl | rfl | rfl | rfl
  · rw [if_pos (by simp at *; omega)]
    simp [hchannel]
  · have h14 : channel = 14 := by
      apply UInt8.toNat_inj.mp
      simp at *
      omega
    subst h14
    simp
  · simp only at hfirst hlast
    rw [if_neg (by simp; omega), if_neg (by simp; omega), if_pos (by simp; omega)]
    simp [hchannel]
  · simp only at hfirst hlast
    rw [if_neg (by simp; omega), if_neg (by simp; omega), if_neg (by simp; omega), if_pos (by simp; omega)]
    simp [hchannel]

/-- The conversion knows the channels of the operating classes, and converts to the one
with the given centre frequency. -/
theorem priv_p2p_freq_to_channel_eq_some_iff :
    priv_p2p_freq_to_channel oper_freq = some (op_class, channel) ↔ CentreFreq op_class channel oper_freq :=
  ⟨centreFreq_of_known, known_of_centreFreq⟩

theorem setSingle_singleChannel (p2p : p2p_data) (hcentre : CentreFreq op_class channel oper_freq) :
    (p2p.setSingle op_class channel).SingleChannel oper_freq := by
  constructor
  · exact hcentre
  · rfl
  · simp [p2p_data.setSingle]
  · simp [p2p_data.setSingle]
  · simp [p2p_data.setSingle]

theorem priv_p2p_freq_to_channel_zero : priv_p2p_freq_to_channel 0 = none := rfl

theorem config_scc_of_known (hne : oper_freq ≠ 0)
    (hknown : priv_p2p_freq_to_channel oper_freq = some (op_class, channel)) :
    p2p_wfd_sink_config_scc conf left true oper_freq (some p2p) = some (p2p.setSingle op_class channel) := by
  simp [p2p_wfd_sink_config_scc, hne, hknown]

theorem config_scc_of_unknown (hne : oper_freq ≠ 0) (hunknown : priv_p2p_freq_to_channel oper_freq = none) :
    p2p_wfd_sink_config_scc conf left true oper_freq (some p2p) =
      some (p2p.setSingle left.op_reg_class left.op_channel) := by
  simp [p2p_wfd_sink_config_scc, hne, hunknown]

theorem config_scc_zero :
    p2p_wfd_sink_config_scc conf left true 0 (some p2p) = some (p2p.backToMcc conf left.r) := by
  simp [p2p_wfd_sink_config_scc]

theorem backToMcc_sameChannel (hmcc : p2p.AtMcc conf) (r : Nat) : p2p.SameChannel (p2p.backToMcc conf r) := by
  have hback : p2p.backToMcc conf r = { p2p with
      op_reg_class := UInt8.ofNat (toU8 conf.p2p_oper_reg_class)
      op_channel := UInt8.ofNat (toU8 conf.p2p_oper_channel)
      cfg := { p2p.cfg with cfg_op_channel := 1 }
      channels := p2p.cfg.channels } := by
    simp only [p2p_data.backToMcc, if_pos hmcc.configured]
  rw [hback]
  exact ⟨hmcc.op_reg_class, hmcc.op_channel, hmcc.channels⟩

/-- Without a configured channel two random numbers set two channels, and one of them is
not the one before. -/
theorem configured_of_sameChannel (hsame : ∀ r, p2p.SameChannel (p2p.backToMcc conf r)) :
    conf.p2p_oper_reg_class ≠ 0 ∧ conf.p2p_oper_channel ≠ 0 := by
  by_contra hnone
  have hchannel : ∀ r, UInt8.ofNat (1 + (r % 3) * 5) = p2p.op_channel := by
    intro r
    have h := (hsame r).op_channel
    simpa only [p2p_data.backToMcc, if_neg hnone] using h
  have h01 := (hchannel 0).trans (hchannel 1).symm
  simp at h01

theorem atMcc_of_sameChannel (hsame : ∀ r, p2p.SameChannel (p2p.backToMcc conf r)) : p2p.AtMcc conf := by
  have hconfigured := configured_of_sameChannel hsame
  obtain ⟨hclass, hchannel, hchannels⟩ := hsame 0
  simp only [p2p_data.backToMcc, if_pos hconfigured] at hclass hchannel hchannels
  exact ⟨hconfigured, hclass, hchannel, hchannels⟩

theorem configures_of_known (hknown : (priv_p2p_freq_to_channel oper_freq).isSome) :
    ConfiguresScc conf (some p2p) oper_freq := by
  obtain ⟨⟨op_class, channel⟩, hsome⟩ := Option.isSome_iff_exists.mp hknown
  have hne : oper_freq ≠ 0 := by
    rintro rfl
    rw [priv_p2p_freq_to_channel_zero] at hsome
    cases hsome
  intro left before hbefore after hafter
  rw [config_scc_of_known hne hsome] at hafter
  obtain rfl := Option.some.inj hafter
  constructor
  · exact .inr (setSingle_singleChannel p2p (centreFreq_of_known hsome))
  · intro hunknown
    rw [hsome] at hunknown
    cases hunknown

theorem configures_zero_of_atMcc (hmcc : p2p.AtMcc conf) : ConfiguresScc conf (some p2p) 0 := by
  intro left before hbefore after hafter
  obtain rfl := Option.some.inj hbefore
  rw [config_scc_zero] at hafter
  obtain rfl := Option.some.inj hafter
  have hsame := backToMcc_sameChannel hmcc left.r
  exact ⟨.inl hsame, fun _ => hsame⟩

/-- What the local variables had before is stored for an unknown frequency, so it can be
a channel other than the one that is set. -/
theorem not_configures_of_unknown (hne : oper_freq ≠ 0)
    (hunknown : priv_p2p_freq_to_channel oper_freq = none) : ¬ ConfiguresScc conf (some p2p) oper_freq := by
  intro hconfigures
  let left : Undetermined := ⟨p2p.op_reg_class, p2p.op_channel + 1, 0⟩
  have hsame := (hconfigures left p2p rfl _ (config_scc_of_unknown hne hunknown)).2 hunknown
  have hchannel : p2p.op_channel + 1 = p2p.op_channel := hsame.op_channel
  have hlt := p2p.op_channel.toNat_lt
  have hmod := congrArg UInt8.toNat hchannel
  rw [UInt8.toNat_add] at hmod
  simp at hmod
  omega

theorem atMcc_of_configures_zero (hconfigures : ConfiguresScc conf (some p2p) 0) : p2p.AtMcc conf := by
  apply atMcc_of_sameChannel
  intro r
  let left : Undetermined := ⟨0, 0, r⟩
  exact (hconfigures left p2p rfl _ config_scc_zero).2 priv_p2p_freq_to_channel_zero

theorem head?_shared_radio_freqs {freq : Int}
    (hfreq : (mtk_get_shared_radio_freqs calloc flags ifaces 1).bind List.head? = some freq) :
    (distinctFreqs ifaces).head? = some freq := by
  unfold mtk_get_shared_radio_freqs at hfreq
  split_ifs at hfreq
  · have hheld : ((heldFreqs flags (visitedFrom 1 [] ifaces)).map (·.freq)) =
        distinctFreqs (visitedFrom 1 [] ifaces) := by
      rw [heldFreqs, List.map_map]
      exact List.map_id _
    rw [Option.bind_some, shared_radio_freqs_eq, hheld, distinctFreqs_visited] at hfreq
    rwa [List.head?_take, if_neg Nat.one_ne_zero] at hfreq
  · cases hfreq

theorem sharedCall_eq {test : Int → Bool} (hcall : sharedCall test radio = ⟨true, oper_freq⟩) :
    ∃ freq, (distinctFreqs radio.ifaces).head? = some freq ∧ test freq ∧ oper_freq = toU32 freq := by
  unfold sharedCall at hcall
  split at hcall
  case h_1 freq hfreq =>
    split_ifs at hcall with htest
    · exact ⟨freq, head?_shared_radio_freqs hfreq, htest, (SinkCall.mk.inj hcall).2.symm⟩
    · cases (SinkCall.mk.inj hcall).1
  case h_2 => cases (SinkCall.mk.inj hcall).1

/-- A frequency is passed with SCC only as the text of the command has it, or because it is
the first one in use and not 0. -/
theorem sinkCall_oper_freq {cmd : List UInt8} {branch : Branch}
    (hcall : sinkCall radio cmd branch = some ⟨true, oper_freq⟩) :
    (∃ pos, strstr cmd (ascii " freq=") = some pos ∧ oper_freq = toU32 (atoi (pos.drop 6))) ∨
      ∃ freq, (distinctFreqs radio.ifaces).head? = some freq ∧ freq ≠ 0 ∧ oper_freq = toU32 freq := by
  have hshared : sharedCall (toU32 · > 0) radio = ⟨true, oper_freq⟩ →
      ∃ freq, (distinctFreqs radio.ifaces).head? = some freq ∧ freq ≠ 0 ∧ oper_freq = toU32 freq := by
    intro hcall
    obtain ⟨freq, hfreq, htest, hoper⟩ := sharedCall_eq hcall
    refine ⟨freq, hfreq, ?_, hoper⟩
    rintro rfl
    simp [toU32] at htest
  unfold sinkCall at hcall
  split at hcall
  case h_1 =>
    split at hcall
    · exact .inr (hshared (Option.some.inj hcall))
    · exact .inr (hshared (Option.some.inj hcall))
    · split at hcall
      case h_1 pos hpos =>
        exact .inl ⟨pos, hpos, (SinkCall.mk.inj (Option.some.inj hcall)).2.symm⟩
      case h_2 => exact .inr (hshared (Option.some.inj hcall))
    · cases hcall
  case h_2 =>
    split_ifs at hcall with huse
    · cases (SinkCall.mk.inj (Option.some.inj hcall)).1
    · obtain ⟨freq, hfreq, htest, hoper⟩ := sharedCall_eq (Option.some.inj hcall)
      refine .inr ⟨freq, hfreq, ?_, hoper⟩
      have hpos : 0 < freq := by simpa using htest
      omega
  case h_3 => cases hcall

end

/-- The call for SCC keeps the channel or sets it to the frequency exactly if the frequency
is a known one, or it is 0 and the channel is already the one to get back to. -/
theorem config_scc_iff (conf : wpa_config) (p2p : Option p2p_data) (oper_freq : Nat) :
    ConfiguresScc conf p2p oper_freq ↔
      ∀ before ∈ p2p, (priv_p2p_freq_to_channel oper_freq).isSome ∨ oper_freq = 0 ∧ before.AtMcc conf := by
  cases p2p with
  | none =>
    constructor
    · intro _ before hbefore
      cases hbefore
    · intro _ left before hbefore
      cases hbefore
  | some p2p =>
    constructor
    · intro hconfigures before hbefore
      obtain rfl := Option.some.inj hbefore
      by_cases hzero : oper_freq = 0
      · subst hzero
        exact .inr ⟨rfl, atMcc_of_configures_zero hconfigures⟩
      · left
        by_contra hunknown
        exact not_configures_of_unknown hzero (Option.not_isSome_iff_eq_none.mp hunknown) hconfigures
    · intro hcond
      obtain hknown | ⟨rfl, hmcc⟩ := hcond p2p rfl
      · exact configures_of_known hknown
      · exact configures_zero_of_atMcc hmcc

/-- The fields at the start, and a configuration without a channel. -/
def idle : p2p_data where
  op_reg_class := 81
  op_channel := 1
  channels := ⟨fun _ => ⟨0, fun _ => 0, 0⟩, 0⟩
  cfg := ⟨0, ⟨fun _ => ⟨0, fun _ => 0, 0⟩, 0⟩⟩

/-- A radio on which nothing is associated. -/
def unused : Radio := ⟨true, ⟨0, 1, by decide⟩, []⟩

/-- 5500 MHz is channel 100, which the conversion does not know. -/
theorem miracast_5500_not_configured :
    sinkCall unused (ascii "MIRACAST 2 freq=5500") (selected (fun _ => true) (ascii "MIRACAST 2 freq=5500")) =
        some ⟨true, 5500⟩ ∧
      ¬ ConfiguresScc ⟨0, 0⟩ (some idle) 5500 := by
  constructor
  · decide +kernel
  · exact not_configures_of_unknown (by simp) rfl

end panelli.wpa_supplicant
