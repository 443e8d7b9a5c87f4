import Panelli.Runs
import Panelli.Telephony.EccList
import Panelli.Telephony.Ril

open panelli.java panelli.runs

namespace panelli.telephony

def RIL_REQUEST_MODEM_POWEROFF : RequestCode := .other 2010

def RIL_REQUEST_MODEM_POWERON : RequestCode := .other 2028

/-- What `setRadioPower` hands on: a request of its own, or the superclass's call. -/
inductive RadioSent where
  | send (rr : RILRequest)
  | superSetRadioPower (on : Bool) (result : Option Message)
deriving DecidableEq

/-- A call of `setRadioPower`, with the airplane mode setting it finds, when
there is one, and the serial its request would obtain. -/
structure RadioCall where
  on : Bool
  result : Option Message
  AIRPLANE_MODE_ON : Option Int
  sSerial : Int

def RadioCall.isInApm (call : RadioCall) : Bool := call.AIRPLANE_MODE_ON.getD 0 == 1

/-- The system properties, and what was handed on so far, oldest first. -/
structure RadioState where
  props : Properties
  sent : List RadioSent

def RadioState.wasInApm (s : RadioState) : Bool :=
  s.props "persist.radio.airplane.mode.on" == "true".toList

def setRadioPower (s : RadioState) (call : RadioCall) : RadioState :=
  let isInApm := call.isInApm
  let wasInApm := s.wasInApm
  let props := Function.update s.props "persist.radio.airplane.mode.on"
    (if isInApm then "true".toList else "false".toList)
  if call.on && wasInApm && !isInApm then
    { props := Function.update props "gsm.ril.eboot" ['0']
      sent := s.sent ++ [.send ⟨call.sSerial, RIL_REQUEST_MODEM_POWERON, call.result, []⟩] }
  else if !call.on && isInApm then
    { props := Function.update props "gsm.ril.eboot" ['1']
      sent := s.sent ++ [.send ⟨call.sSerial, RIL_REQUEST_MODEM_POWEROFF, call.result, []⟩] }
  else
    { props, sent := s.sent ++ [.superSetRadioPower call.on call.result] }

/-- The command to the modem in something handed on. -/
def RadioSent.modemCommand : RadioSent → Option RequestCode
  | .send rr =>
    if rr.mRequest = RIL_REQUEST_MODEM_POWERON ∨ rr.mRequest = RIL_REQUEST_MODEM_POWEROFF then
      some rr.mRequest
    else none
  | .superSetRadioPower _ _ => none

/-- The last modem command among what was handed on, if there is one. -/
def lastModemCommand (sent : List RadioSent) : Option RequestCode :=
  (sent.filterMap RadioSent.modemCommand).getLast?

/-- The radio is requested on outside airplane mode. -/
def RadioCall.asksOn (call : RadioCall) : Prop := call.on = true ∧ call.isInApm = false

/-- The radio is requested off in airplane mode. -/
def RadioCall.turnsOff (call : RadioCall) : Prop := call.on = false ∧ call.isInApm = true

/-- The radio is requested off outside airplane mode. -/
def RadioCall.forgets (call : RadioCall) : Prop := call.on = false ∧ call.isInApm = false

/-- The last command left the modem powered off. -/
def RadioState.modemOff (s : RadioState) : Prop := lastModemCommand s.sent = some RIL_REQUEST_MODEM_POWEROFF

/-- A call that asks for the radio outside airplane mode and finds the modem
powered off sends the request that powers it on, and does not leave it off. -/
def RestoresModem (s : RadioState) (call : RadioCall) : Prop :=
  call.asksOn → s.modemOff →
    (setRadioPower s call).sent =
        s.sent ++ [.send ⟨call.sSerial, RIL_REQUEST_MODEM_POWERON, call.result, []⟩] ∧
      ¬ (setRadioPower s call).modemOff

/-- The modem is powered off, no call asks for the radio outside airplane mode
until one requests it off there, and the next call asks for it. -/
def Strands (calls : List RadioCall) : Prop :=
  ∃ before off between forget ask after,
    calls = before ++ off :: between ++ forget :: ask :: after ∧
      off.turnsOff ∧ (∀ call ∈ between, ¬ call.asksOn) ∧ forget.forgets ∧ ask.asksOn

section

variable {s : RadioState} {call : RadioCall} {calls : List RadioCall}

instance (call : RadioCall) : Decidable call.asksOn := inferInstanceAs (Decidable (_ ∧ _))

instance (s : RadioState) : Decidable s.modemOff := inferInstanceAs (Decidable (_ = _))

instance (s : RadioState) (call : RadioCall) : Decidable (RestoresModem s call) :=
  inferInstanceAs (Decidable (_ → _))

theorem RadioCall.forgets.not_asksOn (hforget : call.forgets) : ¬ call.asksOn := by
  rintro ⟨hon, _⟩
  rw [hforget.1] at hon
  cases hon

theorem lastModemCommand_append (sent : List RadioSent) (latest : RadioSent) :
    lastModemCommand (sent ++ [latest]) = latest.modemCommand.or (lastModemCommand sent) := by
  unfold lastModemCommand
  cases hcommand : latest.modemCommand <;> simp [List.filterMap_append, hcommand]

theorem setRadioPower_props (s : RadioState) (call : RadioCall) :
    (setRadioPower s call).props "persist.radio.airplane.mode.on" =
      if call.isInApm then "true".toList else "false".toList := by
  have heboot : "persist.radio.airplane.mode.on" ≠ "gsm.ril.eboot" := by decide
  simp only [setRadioPower]
  split_ifs <;> simp only [Function.update_of_ne heboot, Function.update_self]

/-- A call keeps the airplane setting it found, whatever else it does. -/
@[simp] theorem setRadioPower_wasInApm (s : RadioState) (call : RadioCall) :
    (setRadioPower s call).wasInApm = call.isInApm := by
  rw [RadioState.wasInApm, setRadioPower_props]
  cases call.isInApm <;> decide

/-- What a call hands on depends on the stored setting alone. -/
theorem setRadioPower_sent (s : RadioState) (call : RadioCall) :
    (setRadioPower s call).sent = s.sent ++
      [if call.on && s.wasInApm && !call.isInApm then
        .send ⟨call.sSerial, RIL_REQUEST_MODEM_POWERON, call.result, []⟩
      else if !call.on && call.isInApm then
        .send ⟨call.sSerial, RIL_REQUEST_MODEM_POWEROFF, call.result, []⟩
      else .superSetRadioPower call.on call.result] := by
  simp only [setRadioPower]
  split_ifs <;> rfl

/-- The modem is off after a call that turned it off, or was off before and the
call is not one that powers it on. -/
theorem setRadioPower_modemOff_iff :
    (setRadioPower s call).modemOff ↔
      call.turnsOff ∨ (s.modemOff ∧ ¬ (call.asksOn ∧ s.wasInApm = true)) := by
  unfold RadioState.modemOff
  rw [setRadioPower_sent, lastModemCommand_append]
  cases hon : call.on <;> cases hapm : call.isInApm <;> cases hwas : s.wasInApm <;>
    simp [RadioCall.turnsOff, RadioCall.asksOn, hon, hapm, RadioSent.modemCommand,
      RIL_REQUEST_MODEM_POWERON, RIL_REQUEST_MODEM_POWEROFF]

/-- A call restores the modem unless it asks for the radio, finds the modem off
and the stored setting does not say airplane mode. -/
theorem restoresModem_iff :
    RestoresModem s call ↔ ¬ (call.asksOn ∧ s.modemOff ∧ s.wasInApm = false) := by
  unfold RestoresModem
  rw [setRadioPower_modemOff_iff, setRadioPower_sent]
  cases hon : call.on <;> cases hapm : call.isInApm <;> cases hwas : s.wasInApm <;>
    simp [RadioCall.turnsOff, RadioCall.asksOn, hon, hapm]

/-- The stored setting is the one the last call found. -/
theorem run_wasInApm (calls : List RadioCall) (latest : RadioCall) :
    (run setRadioPower s (calls ++ [latest])).wasInApm = latest.isInApm := by
  simp

/-- In a run that restores the modem whenever it has to, a modem that is off
was turned off and nothing asked for the radio since. -/
theorem modemOff_history (hstart : ¬ s.modemOff) (hsteps : StepsHold setRadioPower RestoresModem s calls)
    (hoff : (run setRadioPower s calls).modemOff) :
    ∃ before off between, calls = before ++ off :: between ∧ off.turnsOff ∧
      ∀ call ∈ between, ¬ call.asksOn := by
  induction calls using List.reverseRecOn with
  | nil => exact absurd hoff hstart
  | append_singleton calls latest ih =>
    obtain ⟨hsteps, hlatest, _⟩ := stepsHold_append.mp hsteps
    rw [run_append, run_cons, run_nil, setRadioPower_modemOff_iff] at hoff
    obtain hturns | ⟨hbefore, hnot⟩ := hoff
    · exact ⟨calls, latest, [], rfl, hturns, by simp⟩
    · obtain ⟨before, off, between, rfl, hturns, hquiet⟩ := ih hsteps hbefore
      refine ⟨before, off, between ++ [latest], by simp, hturns, fun call hcall => ?_⟩
      obtain hcall | hcall := List.mem_append.mp hcall
      · exact hquiet call hcall
      · obtain rfl := List.mem_singleton.mp hcall
        intro hask
        have hwas : (run setRadioPower s (before ++ off :: between)).wasInApm = true := by
          by_contra hwas
          exact restoresModem_iff.mp hlatest ⟨hask, hbefore, Bool.eq_false_iff.mpr hwas⟩
        exact hnot ⟨hask, hwas⟩

/-- A modem that is off stays off until a call asks for the radio. -/
theorem run_modemOff (hoff : s.modemOff) (hquiet : ∀ call ∈ calls, ¬ call.asksOn) :
    (run setRadioPower s calls).modemOff := by
  induction calls generalizing s with
  | nil => exact hoff
  | cons call calls ih =>
    refine ih (setRadioPower_modemOff_iff.mpr (Or.inr ⟨hoff, fun hask => ?_⟩))
      fun later hlater => hquiet later (List.mem_cons_of_mem _ hlater)
    exact hquiet call List.mem_cons_self hask.1

theorem strands_append (hstrands : Strands calls) (later : List RadioCall) : Strands (calls ++ later) := by
  obtain ⟨before, off, between, forget, ask, after, rfl, h⟩ := hstrands
  exact ⟨before, off, between, forget, ask, after ++ later, by simp, h⟩

/-- Calls that do not strand the modem restore it whenever they have to. -/
theorem stepsHold_of_not_strands (hstart : ¬ s.modemOff) (hnot : ¬ Strands calls) :
    StepsHold setRadioPower RestoresModem s calls := by
  induction calls using List.reverseRecOn with
  | nil => trivial
  | append_singleton calls latest ih =>
    have hsteps := ih fun hstrands => hnot (strands_append hstrands [latest])
    refine stepsHold_append.mpr ⟨hsteps, restoresModem_iff.mpr ?_, trivial⟩
    rintro ⟨hask, hoff, hwas⟩
    obtain ⟨before, off, between, rfl, hturns, hquiet⟩ := modemOff_history hstart hsteps hoff
    -- the call before is the one that stored the setting
    obtain rfl | ⟨between, forget, rfl⟩ := List.eq_nil_or_concat between
    · rw [run_wasInApm, hturns.2] at hwas
      cases hwas
    · rw [List.concat_eq_append, ← List.cons_append, ← List.append_assoc, run_wasInApm] at hwas
      have hforget : forget.on = false := by
        have := hquiet forget (by simp)
        simpa [RadioCall.asksOn, hwas] using this
      exact hnot ⟨before, off, between, forget, latest, [], by simp, hturns,
        fun call hcall => hquiet call (by simp [hcall]), ⟨hforget, hwas⟩, hask⟩

/-- From a powered modem and any stored setting, every call that asks for the
radio outside airplane mode while the modem is powered off powers it on,
exactly when the calls never strand it. -/
theorem setRadioPower_restoresModem_iff (props : Properties) (calls : List RadioCall) :
    StepsHold setRadioPower RestoresModem ⟨props, []⟩ calls ↔ ¬ Strands calls := by
  have hstart : ¬ RadioState.modemOff ⟨props, []⟩ := by simp [RadioState.modemOff, lastModemCommand]
  refine ⟨?_, stepsHold_of_not_strands hstart⟩
  rintro hsteps ⟨before, off, between, forget, ask, after, rfl, hturns, hquiet, hforget, hask⟩
  rw [List.append_assoc, List.cons_append, stepsHold_append, StepsHold, stepsHold_append, StepsHold,
    StepsHold] at hsteps
  obtain ⟨_, _, _, _, hrestores, _⟩ := hsteps
  have hoff := run_modemOff (s := setRadioPower (run setRadioPower ⟨props, []⟩ before) off)
    (setRadioPower_modemOff_iff.mpr (Or.inl hturns)) hquiet
  have hkept : (setRadioPower _ forget).modemOff :=
    setRadioPower_modemOff_iff.mpr (Or.inr ⟨hoff, fun h => hforget.not_asksOn h.1⟩)
  refine restoresModem_iff.mp hrestores ⟨hask, hkept, ?_⟩
  rw [setRadioPower_wasInApm, hforget.2]

end

/-- Off in airplane mode, off again outside it, then on: the modem stays off. -/
def strandedCalls : List RadioCall :=
  [⟨false, none, some 1, 0⟩, ⟨false, none, some 0, 1⟩, ⟨true, some 7, some 0, 2⟩]

theorem setRadioPower_strands_modem :
    ¬ StepsHold setRadioPower RestoresModem ⟨fun _ => [], []⟩ strandedCalls ∧
      (run setRadioPower ⟨fun _ => [], []⟩ strandedCalls).modemOff ∧
      (run setRadioPower ⟨fun _ => [], []⟩ strandedCalls).sent.getLast? =
        some (.superSetRadioPower true (some 7)) := by
  decide

end panelli.telephony
