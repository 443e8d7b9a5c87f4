import Panelli.Power.PowerProfiles

open panelli.cstring panelli.runs

namespace panelli.power.taptowake

def DOUBLE_TAP_TO_WAKE_ENABLE_VALUE : UInt8 := 49

def DOUBLE_TAP_TO_WAKE_DISABLE_VALUE : UInt8 := 48

def DOUBLE_TAP_TO_WAKE_STORE_DEFAULT : Int := 0

/-- The byte that the panel has of its control file, and the property that is kept over boots. -/
structure State where
  astp : UInt8
  store : List UInt8

/-- How the control file can be used: whether it is opened, and what `write` returns. -/
structure ControlFile where
  opens : Bool
  write : Int

/-- The byte for a truth value. -/
def valueOf (enabled : Int) : UInt8 :=
  if enabled ≠ 0 then DOUBLE_TAP_TO_WAKE_ENABLE_VALUE else DOUBLE_TAP_TO_WAKE_DISABLE_VALUE

def taptowake_write_control_file (enabled : Int) (file : ControlFile) (s : State) : Int × State :=
  if !file.opens then (-1, s)
  else if file.write < 0 then (file.write, s)
  -- A write of no bytes is taken for one that was made.
  else if file.write = 0 then (0, s)
  else (0, { s with astp := valueOf enabled })

def taptowake_write_preference (enabled : Int) (sets : Bool) (s : State) : State :=
  if sets then { s with store := [valueOf enabled] } else s

section

variable (property_get_int32 : List UInt8 → Int → Int)

def taptowake_read_preference (s : State) : Int := property_get_int32 s.store DOUBLE_TAP_TO_WAKE_STORE_DEFAULT

def taptowake_set_state (enabled : Int) (file : ControlFile) (sets : Bool) (s : State) : State :=
  let (ret, s) := taptowake_write_control_file enabled file s
  if ret = 0 then taptowake_write_preference enabled sets s else s

def set_device_specific_feature (feature : Feature) (state : Int) (file : ControlFile) (sets : Bool) (s : State) :
    State :=
  match feature with
  | .DOUBLE_TAP_TO_WAKE => taptowake_set_state state file sets s
  | .SUPPORTED_PROFILES | .other => s

def taptowake_onload (file : ControlFile) (s : State) : State :=
  (taptowake_write_control_file (taptowake_read_preference property_get_int32 s) file s).2

inductive Event where
  | set_feature (feature : Feature) (state : Int) (file : ControlFile) (sets : Bool)
  | load (file : ControlFile)
  | boot (astp : UInt8) (file : ControlFile)

/-- At a boot the panel starts with a byte of its own before the library is loaded. -/
def step (s : State) : Event → State
  | .set_feature feature state file sets => set_device_specific_feature feature state file sets s
  | .load file => taptowake_onload property_get_int32 file s
  | .boot astp file => taptowake_onload property_get_int32 file { s with astp }

/-- The panel does what was asked for last. -/
def Agrees (s : State) : Prop := s.astp = valueOf (taptowake_read_preference property_get_int32 s)

/-- The file takes what is written. -/
def ControlFile.Takes (file : ControlFile) : Prop := file.opens ∧ 0 < file.write

/-- The write is not known to have failed. -/
def ControlFile.Passes (file : ControlFile) : Prop := file.opens ∧ 0 ≤ file.write

/-- Both the panel and the property change or neither does, or the panel is so already; and a boot
gets to write the preference if the panel does not start with it. -/
def Keeps (s : State) : Event → Prop
  | .set_feature .DOUBLE_TAP_TO_WAKE state file sets =>
    ¬file.Passes ∨ (file.Takes ↔ sets) ∨ s.astp = valueOf state
  | .set_feature .SUPPORTED_PROFILES _ _ _ | .set_feature .other _ _ _ | .load _ => True
  | .boot astp file => file.Takes ∨ astp = valueOf (taptowake_read_preference property_get_int32 s)

/-- What is documented of the reading of a number from a property, as far as it is stored here. -/
structure Reads : Prop where
  enabled : ∀ default, property_get_int32 [DOUBLE_TAP_TO_WAKE_ENABLE_VALUE] default = 1
  disabled : ∀ default, property_get_int32 [DOUBLE_TAP_TO_WAKE_DISABLE_VALUE] default = 0

end

section

variable {property_get_int32 : List UInt8 → Int → Int} {s : State} {enabled : Int} {file : ControlFile} {sets : Bool}

/-- A control file fails, takes nothing, or takes the byte. -/
theorem control_file_cases (enabled : Int) (file : ControlFile) (s : State) :
    (¬file.Passes ∧ ∃ ret ≠ 0, taptowake_write_control_file enabled file s = (ret, s)) ∨
      (file.Passes ∧ ¬file.Takes ∧ taptowake_write_control_file enabled file s = (0, s)) ∨
        (file.Passes ∧ file.Takes ∧
          taptowake_write_control_file enabled file s = (0, { s with astp := valueOf enabled })) := by
  unfold taptowake_write_control_file ControlFile.Passes ControlFile.Takes
  cases hopens : file.opens with
  | false => exact .inl ⟨fun h => Bool.false_ne_true h.1, -1, by decide, rfl⟩
  | true =>
    simp only [Bool.not_true, Bool.false_eq_true, if_false, true_and]
    obtain hneg | hzero | hpos := Int.lt_trichotomy file.write 0
    · exact .inl ⟨by omega, file.write, by omega, if_pos hneg⟩
    · exact .inr (.inl ⟨by omega, by omega, by rw [if_neg (by omega), if_pos hzero]⟩)
    · exact .inr (.inr ⟨by omega, hpos, by rw [if_neg (by omega), if_neg (by omega)]⟩)

/-- A stored preference is read as the truth value that was stored. -/
theorem valueOf_read (hreads : Reads property_get_int32) (hstore : s.store = [valueOf enabled]) :
    valueOf (taptowake_read_preference property_get_int32 s) = valueOf enabled := by
  rw [taptowake_read_preference, hstore]
  by_cases henabled : enabled ≠ 0
  · have hvalue : valueOf enabled = DOUBLE_TAP_TO_WAKE_ENABLE_VALUE := if_pos henabled
    rw [hvalue, hreads.enabled]
    rfl
  · have hvalue : valueOf enabled = DOUBLE_TAP_TO_WAKE_DISABLE_VALUE := if_neg henabled
    rw [hvalue, hreads.disabled]
    rfl

theorem agrees_set_state_iff (hreads : Reads property_get_int32) (hagrees : Agrees property_get_int32 s) :
    Agrees property_get_int32 (taptowake_set_state enabled file sets s) ↔
      ¬file.Passes ∨ (file.Takes ↔ sets) ∨ s.astp = valueOf enabled := by
  unfold taptowake_set_state
  obtain ⟨hfails, ret, hret, heq⟩ | ⟨hpasses, htakes, heq⟩ | ⟨hpasses, htakes, heq⟩ := control_file_cases enabled file s
  · simp only [heq, if_neg hret]
    exact ⟨fun _ => .inl hfails, fun _ => hagrees⟩
  · cases sets with
    | false => simpa [heq, taptowake_write_preference, htakes, hpasses] using hagrees
    | true =>
      have hstored := valueOf_read (s := { s with store := [valueOf enabled] }) hreads rfl
      simp only [heq, taptowake_write_preference, if_true, Agrees, hstored, htakes, hpasses]
      simp
  · cases sets with
    | true =>
      have hstored := valueOf_read (s := { s with astp := valueOf enabled, store := [valueOf enabled] }) hreads rfl
      simp only [heq, taptowake_write_preference, if_true, Agrees, hstored, htakes, hpasses]
      simp
    | false =>
      have hkept : s.astp = valueOf (taptowake_read_preference property_get_int32 { s with astp := valueOf enabled }) :=
        hagrees
      simp only [heq, taptowake_write_preference, if_true, Bool.false_eq_true, if_false, Agrees, ← hkept, htakes,
        hpasses, not_true_eq_false, iff_false, false_or]
      exact eq_comm

/-- The load of the library writes the preference, if the file takes it. -/
theorem agrees_onload_iff : Agrees property_get_int32 (taptowake_onload property_get_int32 file s) ↔
    file.Takes ∨ Agrees property_get_int32 s := by
  unfold taptowake_onload
  obtain ⟨hfails, ret, _, heq⟩ | ⟨_, htakes, heq⟩ | ⟨_, htakes, heq⟩ :=
    control_file_cases (taptowake_read_preference property_get_int32 s) file s
  · have htakes : ¬file.Takes := fun h => hfails ⟨h.1, Int.le_of_lt h.2⟩
    simp [heq, htakes]
  · simp [heq, htakes]
  · simp only [heq, htakes, true_or, iff_true]
    rfl

theorem agrees_step_iff (hreads : Reads property_get_int32) (hagrees : Agrees property_get_int32 s) (event : Event) :
    Agrees property_get_int32 (step property_get_int32 s event) ↔ Keeps property_get_int32 s event := by
  cases event with
  | set_feature feature state file sets =>
    cases feature with
    | DOUBLE_TAP_TO_WAKE => exact agrees_set_state_iff hreads hagrees
    | SUPPORTED_PROFILES => exact iff_of_true hagrees trivial
    | other => exact iff_of_true hagrees trivial
  | load file => exact iff_of_true (agrees_onload_iff.mpr (.inr hagrees)) trivial
  | boot astp file => exact agrees_onload_iff

/-- Over any number of calls, loads and boots, the panel does in every state what is stored if and
only if each step keeps it so. -/
theorem agrees_throughout_iff (hreads : Reads property_get_int32) (hstart : Agrees property_get_int32 s)
    (events : List Event) : StatesHold (step property_get_int32) (Agrees property_get_int32) s events ↔
      StepsHold (step property_get_int32) (Keeps property_get_int32) s events :=
  statesHold_iff_stepsHold (I := fun _ => True) (P := Agrees property_get_int32)
    (fun _ event _ h => agrees_step_iff hreads h event) (fun _ _ _ _ _ => trivial) trivial hstart events

end

/-- A property that is a digit is read as its value. -/
def digitProperty : List UInt8 → Int → Int
  | [digit], _ => digit.toNat - 48
  | _, default => default

/-- The switch is turned on, but that is not stored, and the panel forgets it. -/
def forgotten : List Event :=
  [.set_feature .DOUBLE_TAP_TO_WAKE 1 ⟨true, 1⟩ false, .boot DOUBLE_TAP_TO_WAKE_DISABLE_VALUE ⟨true, 1⟩]

theorem agrees_throughout_forgotten :
    ¬StatesHold (step digitProperty) (Agrees digitProperty) ⟨DOUBLE_TAP_TO_WAKE_DISABLE_VALUE, []⟩ forgotten := by
  have hreads : Reads digitProperty := ⟨fun _ => rfl, fun _ => rfl⟩
  have hstart : Agrees digitProperty ⟨DOUBLE_TAP_TO_WAKE_DISABLE_VALUE, []⟩ := rfl
  rw [agrees_throughout_iff hreads hstart forgotten]
  rintro ⟨hkept, _⟩
  obtain hfails | hboth | hsame := hkept
  · exact hfails ⟨rfl, by decide⟩
  · exact absurd (hboth.mp ⟨rfl, by decide⟩) (by decide)
  · exact absurd hsame (by decide)

end panelli.power.taptowake
