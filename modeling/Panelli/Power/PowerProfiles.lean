import Mathlib.Data.Fintype.Basic
import Mathlib.Logic.Function.Basic
import Mathlib.Tactic.SplitIfs
import Panelli.CString
import Panelli.Runs

open panelli.cstring panelli.runs

namespace panelli.power

def PROFILE_POWER_SAVE : Int := 0

def PROFILE_BALANCED : Int := 1

def PROFILE_HIGH_PERFORMANCE : Int := 2

def PROFILE_BIAS_POWER : Int := 3

def POWER_NR_OF_SUPPORTED_PROFILES : Int := 4

def POWER_SAVE_PROP : List UInt8 := ascii "0"

def BALANCED_PROP : List UInt8 := ascii "1"

def HIGH_PERFORMANCE_PROP : List UInt8 := ascii "2"

def BIAS_POWER_PROP : List UInt8 := ascii "3"

/-- What is written to a file of a CPU's cpufreq. -/
inductive Setting where
  | scaling_max_freq (freq : Nat)
  | scaling_min_freq (freq : Nat)
  | scaling_governor (governor : String)

structure Policy where
  scaling_max_freq : Nat
  scaling_min_freq : Nat
  scaling_governor : String

/-- A command of init's. -/
structure Command where
  cpu : Fin 4
  setting : Setting

/-- The shape of the actions on a profile. -/
def profileActions (max min : Nat) : List Command :=
  [0, 1, 2, 3].map (⟨·, .scaling_max_freq max⟩) ++ [0, 1, 2, 3].map (⟨·, .scaling_min_freq min⟩) ++
    [0, 1, 2, 3].map (⟨·, .scaling_governor "interactive"⟩)

/-- The actions of `init.mt6735.power.rc`. -/
inductive Action where
  | powerSave
  | balanced
  | highPerformance
  | biasPower
deriving DecidableEq

/-- `on property:sys.perf.profile`, for a value. -/
def onProfile (value : List UInt8) : Option Action :=
  if value = POWER_SAVE_PROP then some .powerSave
  else if value = BALANCED_PROP then some .balanced
  else if value = HIGH_PERFORMANCE_PROP then some .highPerformance
  else if value = BIAS_POWER_PROP then some .biasPower
  else none

def Action.commands : Action → List Command
  | powerSave => profileActions 858000 221000
  | balanced => profileActions 1248000 221000
  | highPerformance => profileActions 1248000 494000
  | biasPower => profileActions 1027000 221000

/-- Android's init, which is not part of the source: the rest of the action that it carries out, and
those that wait. A property that is set has its action wait behind the others, unless the action
waits already. -/
structure AndroidInit (ι : Type) where
  running : ι → List Command
  waiting : ι → List Action
  property_set : ι → List UInt8 → ι
  next : ι → ι
  set_running : ∀ init value, running (property_set init value) = running init
  set_waiting : ∀ init value action, onProfile value = some action →
    waiting (property_set init value) = if action ∈ waiting init then waiting init else waiting init ++ [action]
  next_running : ∀ init command rest, running init = command :: rest →
    running (next init) = rest ∧ waiting (next init) = waiting init
  next_waiting : ∀ init action rest, running init = [] → waiting init = action :: rest →
    running (next init) = action.commands.tail ∧ waiting (next init) = rest
  next_idle : ∀ init, running init = [] → waiting init = [] → running (next init) = [] ∧ waiting (next init) = []

/-- A frequency from the smallest to the largest of the profiles. -/
def Offered (freq : Nat) : Prop := 221000 ≤ freq ∧ freq ≤ 1248000

/-- The kernel's cpufreq, which is not part of the source: a limit that is offered and does not
cross the other one is taken as it is, and so is the governor. -/
structure Cpufreq where
  write : Policy → Setting → Policy
  write_max : ∀ policy freq, Offered freq → policy.scaling_min_freq ≤ freq →
    write policy (.scaling_max_freq freq) = { policy with scaling_max_freq := freq }
  write_min : ∀ policy freq, Offered freq → freq ≤ policy.scaling_max_freq →
    write policy (.scaling_min_freq freq) = { policy with scaling_min_freq := freq }
  write_governor : ∀ policy,
    write policy (.scaling_governor "interactive") = { policy with scaling_governor := "interactive" }

variable {ι : Type}

/-- The commands that init has not carried out yet. -/
def AndroidInit.pending (android : AndroidInit ι) (init : ι) : List Command :=
  android.running init ++ (android.waiting init).flatMap Action.commands

/-- The HAL, the property, what init has to do, and the CPUs. -/
structure State (ι : Type) where
  current_power_profile : Int
  perf_profile : List UInt8
  init : ι
  cpus : Fin 4 → Policy

def State.property_set (android : AndroidInit ι) (s : State ι) (value : List UInt8) : State ι :=
  { s with perf_profile := value, init := android.property_set s.init value }

def set_power_profile (android : AndroidInit ι) (s : State ι) (profile : Int) : State ι :=
  if profile = s.current_power_profile then s
  else
    let s :=
      if profile = PROFILE_POWER_SAVE then s.property_set android POWER_SAVE_PROP
      else if profile = PROFILE_BALANCED then s.property_set android BALANCED_PROP
      else if profile = PROFILE_HIGH_PERFORMANCE then s.property_set android HIGH_PERFORMANCE_PROP
      else if profile = PROFILE_BIAS_POWER then s.property_set android BIAS_POWER_PROP
      else s
    { s with current_power_profile := profile }

inductive PowerHint where
  | SET_PROFILE (data : Int)
  | other

def power_hint (android : AndroidInit ι) (s : State ι) : PowerHint → State ι
  | .SET_PROFILE data => set_power_profile android s data
  | .other => s

inductive Feature where
  | SUPPORTED_PROFILES
  | DOUBLE_TAP_TO_WAKE
  | other

def get_feature : Feature → Int
  | .SUPPORTED_PROFILES => POWER_NR_OF_SUPPORTED_PROFILES
  | .DOUBLE_TAP_TO_WAKE | .other => -1

/-- The HAL is loaded once more: its static data are as at first, and nothing else is. -/
def load (s : State ι) : State ι := { s with current_power_profile := PROFILE_BALANCED }

/-- Init carries a command out, on the CPUs that are there. -/
def carryOut (android : AndroidInit ι) (cpufreq : Cpufreq) (there : Fin 4 → Bool) (s : State ι) : State ι :=
  { s with
    init := android.next s.init
    cpus :=
      match android.pending s.init with
      | [] => s.cpus
      | command :: _ =>
        if there command.cpu then
          Function.update s.cpus command.cpu (cpufreq.write (s.cpus command.cpu) command.setting)
        else s.cpus }

inductive Event where
  | load
  | powerHint (hint : PowerHint)
  | init (there : Fin 4 → Bool)

def step (android : AndroidInit ι) (cpufreq : Cpufreq) (s : State ι) : Event → State ι
  | .load => load s
  | .powerHint hint => power_hint android s hint
  | .init there => carryOut android cpufreq there s

/-- The value of the property for a profile. -/
def profileValue (profile : Int) : Option (List UInt8) :=
  if profile = PROFILE_POWER_SAVE then some POWER_SAVE_PROP
  else if profile = PROFILE_BALANCED then some BALANCED_PROP
  else if profile = PROFILE_HIGH_PERFORMANCE then some HIGH_PERFORMANCE_PROP
  else if profile = PROFILE_BIAS_POWER then some BIAS_POWER_PROP
  else none

/-- The profiles that are heard of: a HAL that was just loaded does not hear of the balanced one. -/
def heard : Bool → List Event → List Int
  | _, [] => []
  | _, .load :: events => heard true events
  | fresh, .powerHint (.SET_PROFILE data) :: events =>
    if fresh ∧ data = PROFILE_BALANCED then heard true events else data :: heard false events
  | fresh, .powerHint .other :: events => heard fresh events
  | fresh, .init _ :: events => heard fresh events

/-- What a CPU is to be set to by an action. -/
def Action.policy : Action → Policy
  | powerSave => ⟨858000, 221000, "interactive"⟩
  | balanced => ⟨1248000, 221000, "interactive"⟩
  | highPerformance => ⟨1248000, 494000, "interactive"⟩
  | biasPower => ⟨1027000, 221000, "interactive"⟩

/-- The CPU is there whenever init carries a command out. -/
def Event.Finds (cpu : Fin 4) : Event → Prop
  | .load | .powerHint _ => True
  | .init there => there cpu

/-- The limits of a CPU are such that each profile can be set. -/
structure Policy.Open (policy : Policy) : Prop where
  min_le : policy.scaling_min_freq ≤ 858000
  le_max : 494000 ≤ policy.scaling_max_freq
  le : policy.scaling_min_freq ≤ policy.scaling_max_freq

/-- A setting that is one of some profile. -/
def Setting.Usual : Setting → Prop
  | .scaling_max_freq freq => 858000 ≤ freq ∧ freq ≤ 1248000
  | .scaling_min_freq freq => 221000 ≤ freq ∧ freq ≤ 494000
  | .scaling_governor governor => governor = "interactive"

/-- The settings that are to come for a CPU. -/
def settingsFor (cpu : Fin 4) (commands : List Command) : List Setting :=
  commands.filterMap fun command => if command.cpu = cpu then some command.setting else none

/-- What a CPU is set to once everything is carried out that init has to do. -/
def settled (android : AndroidInit ι) (cpufreq : Cpufreq) (cpu : Fin 4) (s : State ι) : Policy :=
  (settingsFor cpu (android.pending s.init)).foldl cpufreq.write (s.cpus cpu)

/-- Where the property names a profile, the CPU is going to be set to it. -/
def Governs (android : AndroidInit ι) (cpufreq : Cpufreq) (cpu : Fin 4) (s : State ι) : Prop :=
  ∀ action ∈ onProfile s.perf_profile, settled android cpufreq cpu s = action.policy

/-- The action whose property an event sets. -/
def Event.sets (s : State ι) : Event → Option Action
  | .powerHint (.SET_PROFILE data) =>
    if data = s.current_power_profile then none else (profileValue data).bind onProfile
  | .load | .powerHint .other | .init _ => none

/-- An action that is to wait is none that waits already, or the last one. -/
def WaitsLast (android : AndroidInit ι) (s : State ι) (event : Event) : Prop :=
  ∀ action ∈ event.sets s, action ∈ android.waiting s.init → (android.waiting s.init).getLast? = some action

/-- The HAL is loaded, no profile was set, init has nothing to do, and the profiles can be set. -/
structure Booted (android : AndroidInit ι) (cpu : Fin 4) (s : State ι) : Prop where
  loaded : s.current_power_profile = PROFILE_BALANCED
  unset : onProfile s.perf_profile = none
  idle : android.pending s.init = []
  isOpen : (s.cpus cpu).Open

/-- What each step keeps for a CPU. -/
structure Sound (android : AndroidInit ι) (cpu : Fin 4) (s : State ι) : Prop where
  isOpen : (s.cpus cpu).Open
  usual : ∀ setting ∈ settingsFor cpu (android.pending s.init), setting.Usual

section

variable {android : AndroidInit ι} {cpufreq : Cpufreq} {policy : Policy} {setting : Setting} {cpu : Fin 4} {s : State ι}
  {action : Action} {init : ι} {profile : Int} {value : List UInt8}

/-- No write of a profile lets the limits cross. -/
theorem Policy.Open.write (hopen : policy.Open) (husual : setting.Usual) : (cpufreq.write policy setting).Open := by
  obtain ⟨hmin, hmax, hle⟩ := hopen
  cases setting with
  | scaling_max_freq freq =>
    obtain ⟨hlow, hhigh⟩ : 858000 ≤ freq ∧ freq ≤ 1248000 := husual
    rw [cpufreq.write_max policy freq ⟨by omega, hhigh⟩ (by omega)]
    exact ⟨hmin, by simp only; omega, by simp only; omega⟩
  | scaling_min_freq freq =>
    obtain ⟨hlow, hhigh⟩ : 221000 ≤ freq ∧ freq ≤ 494000 := husual
    rw [cpufreq.write_min policy freq ⟨hlow, by omega⟩ (by omega)]
    exact ⟨by simp only; omega, hmax, by simp only; omega⟩
  | scaling_governor governor =>
    obtain rfl : governor = "interactive" := husual
    rw [cpufreq.write_governor]
    exact ⟨hmin, hmax, hle⟩

theorem Policy.Open.foldl_write {settings : List Setting} (hopen : policy.Open)
    (husual : ∀ setting ∈ settings, setting.Usual) : (settings.foldl cpufreq.write policy).Open := by
  induction settings generalizing policy with
  | nil => exact hopen
  | cons setting settings ih =>
    obtain ⟨hfirst, hrest⟩ := List.forall_mem_cons.mp husual
    exact ih (hopen.write hfirst) hrest

theorem settingsFor_profileActions (max min : Nat) : settingsFor cpu (profileActions max min) =
    [.scaling_max_freq max, .scaling_min_freq min, .scaling_governor "interactive"] := by
  match cpu with
  | 0 | 1 | 2 | 3 => rfl

/-- An action sets the limits of its policy, which are among those of the profiles. -/
theorem commands_eq (action : Action) :
    action.commands = profileActions action.policy.scaling_max_freq action.policy.scaling_min_freq ∧
      (858000 ≤ action.policy.scaling_max_freq ∧ action.policy.scaling_max_freq ≤ 1248000) ∧
        (221000 ≤ action.policy.scaling_min_freq ∧ action.policy.scaling_min_freq ≤ 494000) ∧
          action.policy.scaling_governor = "interactive" := by
  cases action with
  | _ => exact ⟨rfl, by decide, by decide, rfl⟩

theorem policy_injective {other : Action} (hpolicy : action.policy = other.policy) : action = other := by
  have hmax := congrArg Policy.scaling_max_freq hpolicy
  have hmin := congrArg Policy.scaling_min_freq hpolicy
  cases action <;> cases other <;> first | rfl | exact absurd hmax (by decide) | exact absurd hmin (by decide)

theorem usual_commands (action : Action) : ∀ setting ∈ settingsFor cpu action.commands, setting.Usual := by
  obtain ⟨hcommands, hmax, hmin, _⟩ := commands_eq action
  rw [hcommands, settingsFor_profileActions]
  simp [Setting.Usual, hmax, hmin]

/-- An action leaves nothing of what was set before. -/
theorem foldl_commands (hopen : policy.Open) (action : Action) :
    (settingsFor cpu action.commands).foldl cpufreq.write policy = action.policy := by
  obtain ⟨hcommands, hmax, hmin, hgovernor⟩ := commands_eq action
  obtain ⟨hlow, _, _⟩ := hopen
  rw [hcommands, settingsFor_profileActions, List.foldl_cons, List.foldl_cons, List.foldl_cons, List.foldl_nil,
    cpufreq.write_max policy _ ⟨by omega, hmax.2⟩ (by omega),
    cpufreq.write_min _ _ ⟨hmin.1, by omega⟩ (by simp only; omega), cpufreq.write_governor, ← hgovernor]

theorem settingsFor_append (commands others : List Command) :
    settingsFor cpu (commands ++ others) = settingsFor cpu commands ++ settingsFor cpu others :=
  List.filterMap_append

theorem settingsFor_cons (command : Command) (commands : List Command) :
    settingsFor cpu (command :: commands) =
      if command.cpu = cpu then command.setting :: settingsFor cpu commands else settingsFor cpu commands := by
  rw [settingsFor, List.filterMap_cons]
  split_ifs
  · rfl
  · rfl

/-- The profiles are as many as the HAL says there are. -/
theorem profileValue_isSome_iff :
    (profileValue profile).isSome ↔ 0 ≤ profile ∧ profile < get_feature .SUPPORTED_PROFILES := by
  rw [profileValue, get_feature, PROFILE_POWER_SAVE, PROFILE_BALANCED, PROFILE_HIGH_PERFORMANCE, PROFILE_BIAS_POWER,
    POWER_NR_OF_SUPPORTED_PROFILES]
  split_ifs
  all_goals simp only [Option.isSome_some, Option.isSome_none, true_iff, Bool.false_eq_true, false_iff]
  all_goals omega

theorem pending_next (android : AndroidInit ι) (init : ι) :
    android.pending (android.next init) = (android.pending init).tail := by
  cases hrunning : android.running init with
  | cons command rest =>
    obtain ⟨hrest, hwaiting⟩ := android.next_running init command rest hrunning
    rw [AndroidInit.pending, AndroidInit.pending, hrest, hwaiting, hrunning, List.cons_append, List.tail_cons]
  | nil =>
    cases hwaiting : android.waiting init with
    | nil =>
      obtain ⟨hnone, hidle⟩ := android.next_idle init hrunning hwaiting
      rw [AndroidInit.pending, AndroidInit.pending, hnone, hidle, hrunning, hwaiting]
      rfl
    | cons action rest =>
      obtain ⟨hcommands, hrest⟩ := android.next_waiting init action rest hrunning hwaiting
      have hsome : action.commands ≠ [] := by
        rw [(commands_eq action).1]
        exact List.cons_ne_nil _ _
      rw [AndroidInit.pending, AndroidInit.pending, hcommands, hrest, hrunning, hwaiting, List.nil_append,
        List.flatMap_cons, List.tail_append_of_ne_nil hsome]

theorem pending_set (haction : onProfile value = some action) :
    android.pending (android.property_set init value) =
      if action ∈ android.waiting init then android.pending init else android.pending init ++ action.commands := by
  rw [AndroidInit.pending, android.set_running, android.set_waiting init value action haction]
  split_ifs
  · rfl
  · rw [List.flatMap_append, ← List.append_assoc, List.flatMap_singleton]
    rfl

/-- The action that waits last is the end of what there is to do. -/
theorem pending_of_getLast? (hlast : (android.waiting init).getLast? = some action) :
    ∃ before, android.pending init = before ++ action.commands := by
  obtain ⟨others, hothers⟩ := List.getLast?_eq_some_iff.mp hlast
  refine ⟨android.running init ++ others.flatMap Action.commands, ?_⟩
  rw [AndroidInit.pending, hothers, List.flatMap_append, List.append_assoc, List.flatMap_singleton]

/-- Each profile that there is has an action. -/
theorem set_power_profile_eq (android : AndroidInit ι) (hother : profile ≠ s.current_power_profile) :
    (profileValue profile = none ∧ set_power_profile android s profile = { s with current_power_profile := profile }) ∨
      ∃ value action, profileValue profile = some value ∧ onProfile value = some action ∧
        set_power_profile android s profile =
          { s.property_set android value with current_power_profile := profile } := by
  rw [set_power_profile, if_neg hother, profileValue]
  split_ifs
  · exact .inr ⟨POWER_SAVE_PROP, .powerSave, rfl, rfl, rfl⟩
  · exact .inr ⟨BALANCED_PROP, .balanced, rfl, rfl, rfl⟩
  · exact .inr ⟨HIGH_PERFORMANCE_PROP, .highPerformance, rfl, rfl, rfl⟩
  · exact .inr ⟨BIAS_POWER_PROP, .biasPower, rfl, rfl, rfl⟩
  · exact .inl ⟨rfl, rfl⟩

theorem set_power_profile_same (hsame : profile = s.current_power_profile) :
    set_power_profile android s profile = s := if_pos hsame

theorem Sound.set_power_profile (hsound : Sound android cpu s) (profile : Int) :
    Sound android cpu (set_power_profile android s profile) := by
  by_cases hsame : profile = s.current_power_profile
  · rwa [set_power_profile_same hsame]
  · obtain ⟨_, heq⟩ | ⟨value, action, _, haction, heq⟩ := set_power_profile_eq android hsame
    · rw [heq]
      exact ⟨hsound.isOpen, hsound.usual⟩
    · rw [heq]
      refine ⟨hsound.isOpen, ?_⟩
      simp only [State.property_set, pending_set haction]
      split_ifs
      · exact hsound.usual
      · rw [settingsFor_append, List.forall_mem_append]
        exact ⟨hsound.usual, usual_commands action⟩

theorem carryOut_of_nil (there : Fin 4 → Bool) (hnone : android.pending s.init = []) :
    (carryOut android cpufreq there s).cpus cpu = s.cpus cpu := by
  simp only [carryOut, hnone]

theorem carryOut_of_cons (there : Fin 4 → Bool) {command : Command} {commands : List Command}
    (hpending : android.pending s.init = command :: commands) :
    (carryOut android cpufreq there s).cpus cpu =
      if command.cpu = cpu ∧ there cpu then cpufreq.write (s.cpus cpu) command.setting else s.cpus cpu := by
  simp only [carryOut, hpending]
  by_cases hcpu : command.cpu = cpu
  · subst hcpu
    cases there command.cpu with
    | false => simp
    | true => simp
  · have hkept : ¬(command.cpu = cpu ∧ there cpu) := fun h => hcpu h.1
    rw [if_neg hkept]
    split_ifs
    · exact Function.update_of_ne (Ne.symm hcpu) _ _
    · rfl

/-- What init carries out is what was to come for the CPU, if it is there. -/
theorem settled_carryOut {there : Fin 4 → Bool} (hthere : there cpu) :
    settled android cpufreq cpu (carryOut android cpufreq there s) = settled android cpufreq cpu s := by
  have hpending : android.pending (carryOut android cpufreq there s).init = (android.pending s.init).tail :=
    pending_next android s.init
  rw [settled, settled, hpending]
  cases htodo : android.pending s.init with
  | nil => rw [carryOut_of_nil there htodo, List.tail_nil]
  | cons command commands =>
    rw [carryOut_of_cons there htodo, List.tail_cons, settingsFor_cons]
    by_cases hcpu : command.cpu = cpu
    · rw [if_pos ⟨hcpu, hthere⟩, if_pos hcpu, List.foldl_cons]
    · rw [if_neg fun h => hcpu h.1, if_neg hcpu]

theorem Sound.carryOut (hsound : Sound android cpu s) (there : Fin 4 → Bool) :
    Sound android cpu (carryOut android cpufreq there s) := by
  obtain ⟨hopen, husual⟩ := hsound
  have hpending : android.pending (power.carryOut android cpufreq there s).init = (android.pending s.init).tail :=
    pending_next android s.init
  cases htodo : android.pending s.init with
  | nil =>
    refine ⟨?_, ?_⟩
    · rwa [carryOut_of_nil there htodo]
    · simp [hpending, htodo, settingsFor]
  | cons command commands =>
    rw [htodo, settingsFor_cons] at husual
    constructor
    · rw [carryOut_of_cons there htodo]
      split_ifs with hwritten
      · rw [if_pos hwritten.1] at husual
        exact hopen.write (husual _ List.mem_cons_self)
      · exact hopen
    · rw [hpending, htodo, List.tail_cons]
      split_ifs at husual
      · exact (List.forall_mem_cons.mp husual).2
      · exact husual

theorem Sound.step (hsound : Sound android cpu s) (event : Event) :
    Sound android cpu (step android cpufreq s event) := by
  cases event with
  | load => exact ⟨hsound.isOpen, hsound.usual⟩
  | powerHint hint =>
    cases hint with
    | SET_PROFILE data => exact hsound.set_power_profile data
    | other => exact hsound
  | init there => exact hsound.carryOut there

/-- What the CPU is going to be set to is what the action says that waits last. -/
theorem settled_of_getLast? (hsound : Sound android cpu s)
    (hlast : (android.waiting s.init).getLast? = some action) : settled android cpufreq cpu s = action.policy := by
  obtain ⟨before, hpending⟩ := pending_of_getLast? hlast
  have husual := hsound.usual
  rw [hpending, settingsFor_append, List.forall_mem_append] at husual
  rw [settled, hpending, settingsFor_append, List.foldl_append]
  exact foldl_commands (hsound.isOpen.foldl_write husual.1) action

/-- A profile that is set governs the CPU unless its action waits already, with another behind it. -/
theorem settled_property_set_iff (hsound : Sound android cpu s) (haction : onProfile value = some action) :
    settled android cpufreq cpu (s.property_set android value) = action.policy ↔
      (action ∈ android.waiting s.init → (android.waiting s.init).getLast? = some action) := by
  have hsettled : settled android cpufreq cpu (s.property_set android value) =
      (settingsFor cpu (android.pending (android.property_set s.init value))).foldl cpufreq.write (s.cpus cpu) := rfl
  rw [hsettled, pending_set haction]
  by_cases hwaits : action ∈ android.waiting s.init
  · rw [if_pos hwaits]
    change settled android cpufreq cpu s = action.policy ↔ _
    simp only [hwaits, true_imp_iff]
    refine ⟨fun hpolicy => ?_, fun hlast => settled_of_getLast? hsound hlast⟩
    cases hlast : (android.waiting s.init).getLast? with
    | none =>
      rw [List.getLast?_eq_none_iff.mp hlast] at hwaits
      cases hwaits
    | some last => rw [policy_injective ((settled_of_getLast? hsound hlast).symm.trans hpolicy)]
  · rw [if_neg hwaits, settingsFor_append, List.foldl_append]
    exact iff_of_true (foldl_commands (hsound.isOpen.foldl_write hsound.usual) action) fun h => absurd h hwaits

/-- A step leaves the CPU to the property exactly if the action it sets waits last. -/
theorem governs_step_iff (hsound : Sound android cpu s) (hgoverns : Governs android cpufreq cpu s) {event : Event}
    (hfinds : event.Finds cpu) :
    Governs android cpufreq cpu (step android cpufreq s event) ↔ WaitsLast android s event := by
  cases event with
  | load => exact iff_of_true hgoverns fun _ h => nomatch h
  | init there =>
    refine iff_of_true (fun action haction => ?_) fun _ h => nomatch h
    exact (settled_carryOut hfinds).trans (hgoverns action haction)
  | powerHint hint =>
    cases hint with
    | other => exact iff_of_true hgoverns fun _ h => nomatch h
    | SET_PROFILE data =>
      have hstep : step android cpufreq s (.powerHint (.SET_PROFILE data)) = set_power_profile android s data := rfl
      rw [hstep, WaitsLast, Event.sets]
      by_cases hsame : data = s.current_power_profile
      · rw [set_power_profile_same hsame, if_pos hsame]
        exact iff_of_true hgoverns fun _ h => nomatch h
      · rw [if_neg hsame]
        obtain ⟨hnone, heq⟩ | ⟨value, action, hvalue, haction, heq⟩ := set_power_profile_eq android hsame
        · rw [heq, hnone]
          exact iff_of_true hgoverns fun _ h => nomatch h
        · have hset : Governs android cpufreq cpu (set_power_profile android s data) ↔
              settled android cpufreq cpu (s.property_set android value) = action.policy := by
            rw [heq]
            have hprofile : onProfile (s.property_set android value).perf_profile = some action := haction
            simp only [Governs, hprofile, Option.mem_some_iff, forall_eq']
            rfl
          rw [hset, settled_property_set_iff hsound haction, hvalue, Option.bind_some, haction]
          simp only [Option.mem_some_iff, forall_eq']

/-- The property has the value of the last profile that was heard of. -/
theorem perf_profile_run (fresh : Bool) (hfresh : fresh = true → s.current_power_profile = PROFILE_BALANCED)
    (hset : fresh = false → ∀ value ∈ profileValue s.current_power_profile, s.perf_profile = value)
    (events : List Event) : (run (step android cpufreq) s events).perf_profile =
      ((heard fresh events).filterMap profileValue).getLastD s.perf_profile := by
  induction events generalizing s fresh with
  | nil => rfl
  | cons event events ih =>
    rw [run_cons]
    cases event with
    | load => exact ih (s := load s) true (fun _ => rfl) nofun
    | init there => exact ih (s := carryOut android cpufreq there s) fresh hfresh hset
    | powerHint hint =>
      cases hint with
      | other => exact ih fresh hfresh hset
      | SET_PROFILE data =>
        have hstep : step android cpufreq s (.powerHint (.SET_PROFILE data)) = set_power_profile android s data := rfl
        rw [hstep, heard]
        by_cases hsame : data = s.current_power_profile
        · rw [set_power_profile_same hsame]
          cases fresh with
          | true =>
            rw [if_pos ⟨rfl, hsame.trans (hfresh rfl)⟩]
            exact ih true hfresh hset
          | false =>
            -- the current profile once more
            rw [if_neg (fun h => nomatch h.1), ih false nofun hset]
            cases hvalue : profileValue data with
            | none => rw [List.filterMap_cons_none hvalue]
            | some value =>
              rw [hset rfl value (hsame ▸ hvalue), List.filterMap_cons_some hvalue, List.getLastD_cons]
        · have hheard : ¬(fresh = true ∧ data = PROFILE_BALANCED) :=
            fun h => hsame (h.2.trans (hfresh h.1).symm)
          rw [if_neg hheard]
          obtain ⟨hnone, heq⟩ | ⟨value, action, hvalue, _, heq⟩ :=
            set_power_profile_eq android hsame
          · rw [heq, List.filterMap_cons_none hnone]
            refine ih (s := { s with current_power_profile := data }) false nofun fun _ value hvalue => ?_
            cases hnone.symm.trans hvalue
          · rw [heq, List.filterMap_cons_some hvalue, List.getLastD_cons]
            refine ih (s := { s.property_set android value with current_power_profile := data }) false
              nofun fun _ other hother => ?_
            exact Option.some.inj (hvalue.symm.trans hother)

theorem Booted.sound (hbooted : Booted android cpu s) : Sound android cpu s :=
  ⟨hbooted.isOpen, by simp [hbooted.idle, settingsFor]⟩

theorem Booted.governs (hbooted : Booted android cpu s) : Governs android cpufreq cpu s := by
  intro action haction
  rw [hbooted.unset] at haction
  cases haction

/-- However often the HAL is loaded, whatever it is asked for and whenever init gets to its commands,
the limits of a CPU that is there then never cross, and the property names the last profile that
was heard of. That profile is what the CPU is going to be set to, in every state, exactly if no
action is set to wait while it waits already with another behind it. -/
theorem profile_governs_iff (android : AndroidInit ι) (cpufreq : Cpufreq) {cpu : Fin 4} {s : State ι}
    (hbooted : Booted android cpu s) {events : List Event} (hfinds : ∀ event ∈ events, event.Finds cpu) :
    StatesHold (step android cpufreq) (fun s => (s.cpus cpu).scaling_min_freq ≤ (s.cpus cpu).scaling_max_freq)
        s events ∧
      (run (step android cpufreq) s events).perf_profile =
        ((heard true events).filterMap profileValue).getLastD s.perf_profile ∧
      (StatesHold (step android cpufreq) (Governs android cpufreq cpu) s events ↔
        StepsHold (step android cpufreq) (WaitsLast android) s events) := by
  refine ⟨?_, perf_profile_run true (fun _ => hbooted.loaded) nofun events, ?_⟩
  · refine statesHold_iff_prefixes.mpr fun before _ => ?_
    have hsound : Sound android cpu (run (step android cpufreq) s before) :=
      run_induction (fun _ event h => h.step event) hbooted.sound before
    exact hsound.isOpen.le
  · refine statesHold_iff_of_admissible (I := fun s => Sound android cpu s ∧ Governs android cpufreq cpu s)
      (fun s h => h.2) (fun s event h hevent hlast => ?_) (fun s event h hevent hlast => ?_)
      ⟨hbooted.sound, hbooted.governs⟩ (stepsHold_of_forall (fun event hmem _ => hfinds event hmem) s)
    · exact ⟨h.1.step event, (governs_step_iff h.1 h.2 hevent).mpr hlast⟩
    · exact fun hgoverns => hlast ((governs_step_iff h.1 h.2 hevent).mp hgoverns)

end

/-- An init that keeps its actions in a list. -/
def queue : AndroidInit (List Command × List Action) where
  running := Prod.fst
  waiting := Prod.snd
  property_set init value :=
    match onProfile value with
    | none => init
    | some action => if action ∈ init.2 then init else (init.1, init.2 ++ [action])
  next init :=
    match init with
    | (_ :: rest, waiting) => (rest, waiting)
    | ([], action :: rest) => (action.commands.tail, rest)
    | ([], []) => ([], [])
  set_running init value := by
    split
    · rfl
    · split_ifs
      · rfl
      · rfl
  set_waiting init value action haction := by
    rw [haction]
    dsimp only
    split_ifs
    · rfl
    · rfl
  next_running init command rest hrunning := by
    obtain ⟨running, waiting⟩ := init
    subst hrunning
    exact ⟨rfl, rfl⟩
  next_waiting init action rest hrunning hwaiting := by
    obtain ⟨running, waiting⟩ := init
    subst hrunning hwaiting
    exact ⟨rfl, rfl⟩
  next_idle init hrunning hwaiting := by
    obtain ⟨running, waiting⟩ := init
    subst hrunning hwaiting
    exact ⟨rfl, rfl⟩

/-- A kernel that refuses limits that would cross. -/
def refusing : Cpufreq where
  write policy
    | .scaling_max_freq freq =>
      if policy.scaling_min_freq ≤ freq then { policy with scaling_max_freq := freq } else policy
    | .scaling_min_freq freq =>
      if freq ≤ policy.scaling_max_freq then { policy with scaling_min_freq := freq } else policy
    | .scaling_governor governor => { policy with scaling_governor := governor }
  write_max _ _ _ hle := if_pos hle
  write_min _ _ _ hle := if_pos hle
  write_governor _ := rfl

def booted : State (List Command × List Action) :=
  ⟨PROFILE_BALANCED, [], ([], []), fun _ => ⟨1248000, 221000, "interactive"⟩⟩

/-- High performance, power save and high performance again, before init gets to the first of them. -/
def impatient : List Event := [.powerHint (.SET_PROFILE PROFILE_HIGH_PERFORMANCE),
  .powerHint (.SET_PROFILE PROFILE_POWER_SAVE), .powerHint (.SET_PROFILE PROFILE_HIGH_PERFORMANCE)]

/-- The profile that is asked for last is not queued, and power save is what remains. -/
theorem profile_governs_impatient :
    (run (step queue refusing) booted impatient).perf_profile = HIGH_PERFORMANCE_PROP ∧
      ¬StatesHold (step queue refusing) (Governs queue refusing 3) booted impatient := by
  have hbooted : Booted queue 3 booted := ⟨rfl, rfl, rfl, by decide, by decide, by decide⟩
  have hfinds : ∀ event ∈ impatient, event.Finds 3 := by simp [impatient, Event.Finds]
  obtain ⟨_, hprofile, hgoverns⟩ := profile_governs_iff queue refusing hbooted hfinds
  refine ⟨hprofile, fun hall => ?_⟩
  obtain ⟨_, _, hthird, _⟩ := hgoverns.mp hall
  exact absurd (hthird .highPerformance rfl (by decide)) (by decide)

end panelli.power
