import Panelli.Telephony.Ril

open panelli.java

namespace panelli.telephony

/-- The types of unsolicited parcels: those that are overridden, and others. -/
inductive UnsolicitedType where
  | RIL_UNSOL_RESPONSE_REGISTRATION_SUSPENDED
  | RIL_UNSOL_INCOMING_CALL_INDICATION
  | RIL_UNSOL_CALL_INFO_INDICATION
  | RIL_UNSOL_SET_ATTACH_APN
  | RIL_UNSOL_ON_USSD
  | RIL_UNSOL_RESPONSE_PS_NETWORK_STATE_CHANGED
  | other (type : Int)
deriving DecidableEq

inductive UnsolicitedRequest where
  | RIL_REQUEST_RESUME_REGISTRATION
  | RIL_REQUEST_SET_CALL_INDICATION
  | RIL_REQUEST_SET_INITIAL_ATTACH_APN
deriving DecidableEq

/-- An unsolicited parcel. Its payload is a sequence of integers, where the reader finds
zeros behind the last one, or an array of strings, which may be null like the strings. -/
structure UnsolicitedParcel where
  response : UnsolicitedType
  ints : List Int
  readStringArray : Option (List (Option JString))

/-- A call of the registrants, for a USSD with the strings that it carries. -/
inductive Notification where
  | mCallStateRegistrants
  | mVoiceNetworkStateRegistrants
  | mUSSDRegistrant (resp : List (Option JString))
deriving DecidableEq

/-- The requests sent and the registrants notified so far. -/
structure UnsolicitedState where
  sent : List (UnsolicitedRequest × List ParcelValue)
  notified : List Notification
deriving DecidableEq

/-- What the object was made with and for. -/
structure Phone where
  mInstanceId : Option Int
  getSimOperatorNumericForPhone : Int → Option JString
  hasUSSDRegistrant : Bool

/-- The methods of the superclass that are called. -/
structure UnsolicitedSuper where
  responseInts : UnsolicitedParcel → Except Throwable (List Int)
  responseStrings : UnsolicitedParcel → Except Throwable (Option (List (Option JString)))
  processUnsolicited : UnsolicitedParcel → EStateM Throwable UnsolicitedState Unit

/-- An element of an array. Outside of it, a subclass of `RuntimeException` is thrown. -/
def element {α : Type} (a : List α) (i : Nat) : Except Throwable α :=
  match a[i]? with
  | some x => .ok x
  | none => .error .RuntimeException

def notNull {α : Type} (reference : Option α) : Except Throwable α :=
  match reference with
  | some x => .ok x
  | none => .error .NullPointerException

/-- `Integer.parseInt` of a string that may be null. -/
def parseIntOrNull (s : Option JString) : Except Throwable Int :=
  match s with
  | some s => parseInt s
  | none => .error .NumberFormatException

/-- The number of integers that comes first. -/
def UnsolicitedParcel.numInts (p : UnsolicitedParcel) : Int := p.ints.headD 0

/-- The array of integers: one of negative size is a subclass of `RuntimeException`, too. -/
def UnsolicitedParcel.readInts (p : UnsolicitedParcel) : Except Throwable (List Int) :=
  if p.numInts < 0 then .error .RuntimeException
  else .ok ((List.range p.numInts.toNat).map fun i => p.ints.tail.getD i 0)

/-- The readers of the superclass read an array of integers, and one of strings. -/
structure UnsolicitedSuper.ReadsArrays (up : UnsolicitedSuper) : Prop where
  responseInts : ∀ p, up.responseInts p = p.readInts
  responseStrings : ∀ p, up.responseStrings p = .ok p.readStringArray

def send (mRequest : UnsolicitedRequest) (mParcel : List ParcelValue) : EStateM Throwable UnsolicitedState Unit :=
  modify fun s => { s with sent := s.sent ++ [(mRequest, mParcel)] }

def notify (notification : Notification) : EStateM Throwable UnsolicitedState Unit :=
  modify fun s => { s with notified := s.notified ++ [notification] }

def responseRegSuspended (p : UnsolicitedParcel) : EStateM Throwable UnsolicitedState (List Int) := do
  let response ← MonadExcept.ofExcept p.readInts
  let first ← MonadExcept.ofExcept (element response 0)
  send .RIL_REQUEST_RESUME_REGISTRATION [.writeInt 1, .writeInt first]
  return response

def responseIncomingCallIndication (p : UnsolicitedParcel) :
    EStateM Throwable UnsolicitedState (List (Option JString)) := do
  let response ← MonadExcept.ofExcept (notNull p.readStringArray)
  let mode ← MonadExcept.ofExcept (element response 3 >>= parseIntOrNull)
  let callId ← MonadExcept.ofExcept (element response 0 >>= parseIntOrNull)
  let seqNumber ← MonadExcept.ofExcept (element response 4 >>= parseIntOrNull)
  send .RIL_REQUEST_SET_CALL_INDICATION [.writeInt 3, .writeInt mode, .writeInt callId, .writeInt seqNumber]
  return response

/-- The call progress, null for the end of a call. -/
def responseCallProgress (p : UnsolicitedParcel) :
    EStateM Throwable UnsolicitedState (Option (List (Option JString))) := do
  let response ← MonadExcept.ofExcept (notNull p.readStringArray)
  if response.length ≥ 2 then
    let second ← MonadExcept.ofExcept (element response 1 >>= notNull)
    if second = "129".toList then
      return none
  return some response

/-- The array of strings at the end is null, which is written as the size -1. -/
def setInitialAttachApn (phone : Phone) (apn protocol : Option JString) (authType : Int)
    (username password : Option JString) : EStateM Throwable UnsolicitedState Unit := do
  let mInstanceId ← MonadExcept.ofExcept (notNull phone.mInstanceId)
  let operatorNumber := phone.getSimOperatorNumericForPhone mInstanceId
  send .RIL_REQUEST_SET_INITIAL_ATTACH_APN
    [.writeString apn, .writeString protocol, .writeInt authType, .writeString username,
      .writeString password, .writeString operatorNumber, .writeInt 1, .writeInt (-1)]

def responseSetAttachApn (phone : Phone) : EStateM Throwable UnsolicitedState Unit :=
  setInitialAttachApn phone (some []) (some []) 0 (some []) (some [])

/-- The mode that is passed on: the modes of other normal finishes become 0. -/
def normalFinish (mode : Option JString) : Except Throwable (Option JString) :=
  match mode with
  | none => pure none
  | some mode => do
    if (← parseInt mode) ≥ 2 ∧ (← parseInt mode) ≤ 5 then return some ['0'] else return some mode

/-- The strings of a USSD that are passed on, as many as two at least. -/
def ussdStrings (ret : List (Option JString)) : Except Throwable (List (Option JString)) := do
  let resp ← if ret.length < 2 then (element ret 0).map fun mode => [mode, none] else pure ret
  let mode ← element resp 0 >>= normalFinish
  return resp.set 0 mode

/-- `processUnsolicited`. A parcel that is forwarded is rewound. -/
def processUnsolicited (up : UnsolicitedSuper) (phone : Phone) (p : UnsolicitedParcel) :
    EStateM Throwable UnsolicitedState Unit :=
  match p.response with
  | .RIL_UNSOL_RESPONSE_REGISTRATION_SUSPENDED => do
    let _ ← responseRegSuspended p
  | .RIL_UNSOL_INCOMING_CALL_INDICATION => do
    let _ ← responseIncomingCallIndication p
    notify .mCallStateRegistrants
  | .RIL_UNSOL_CALL_INFO_INDICATION => do
    match ← responseCallProgress p with
    | none => notify .mCallStateRegistrants
    | some _ => pure ()
  | .RIL_UNSOL_SET_ATTACH_APN => responseSetAttachApn phone
  | .RIL_UNSOL_ON_USSD => do
    let ret ← MonadExcept.ofExcept (up.responseStrings p)
    let ret ← MonadExcept.ofExcept (notNull ret)
    let resp ← MonadExcept.ofExcept (ussdStrings ret)
    if phone.hasUSSDRegistrant then
      notify (.mUSSDRegistrant resp)
  | .RIL_UNSOL_RESPONSE_PS_NETWORK_STATE_CHANGED => do
    let ret ← MonadExcept.ofExcept (up.responseInts p)
    let first ← MonadExcept.ofExcept (element ret 0)
    if first ≠ 4 then
      notify .mVoiceNetworkStateRegistrants
  | .other _ => up.processUnsolicited p

/-- The mode of a USSD, when it is a number. -/
def ussdMode (strings : List (Option JString)) : Option Int :=
  strings[0]?.join.bind fun mode => (parseInt mode).toOption

/-- The strings that are passed on have the mode 0 for the received modes 0 and 2 to 5, the
received mode otherwise, and the received message, or none. -/
structure PassesUssd (received resp : List (Option JString)) : Prop where
  normal : ussdMode resp = some 0 ↔ ∃ value ∈ ussdMode received, value = 0 ∨ 2 ≤ value ∧ value ≤ 5
  other : ussdMode resp ≠ some 0 → resp[0]? = received[0]?
  message : resp[1]? = some received[1]?.join

/-- What a parcel of an overridden type leads to: for a USSD, the registrant is notified
with the strings that are to be passed on. -/
def Notifies (phone : Phone) (p : UnsolicitedParcel) (s s' : UnsolicitedState) : Prop :=
  p.response = .RIL_UNSOL_ON_USSD → ∀ received ∈ p.readStringArray, ∃ resp, PassesUssd received resp ∧
    s'.notified = s.notified ++ if phone.hasUSSDRegistrant then [.mUSSDRegistrant resp] else []

/-- So many integers as are looked at, and these strings, are in the parcel. -/
def Readable (phone : Phone) (p : UnsolicitedParcel) : Prop :=
  match p.response with
  | .RIL_UNSOL_RESPONSE_REGISTRATION_SUSPENDED | .RIL_UNSOL_RESPONSE_PS_NETWORK_STATE_CHANGED => 1 ≤ p.numInts
  | .RIL_UNSOL_INCOMING_CALL_INDICATION => ∃ response ∈ p.readStringArray, ∀ i ∈ [0, 3, 4],
    ∃ s value, response[i]? = some (some s) ∧ parseInt s = .ok value
  | .RIL_UNSOL_CALL_INFO_INDICATION => ∃ response ∈ p.readStringArray, response[1]? ≠ some none
  | .RIL_UNSOL_SET_ATTACH_APN => phone.mInstanceId ≠ none
  | .RIL_UNSOL_ON_USSD => ∃ response ∈ p.readStringArray, ∃ mode, response[0]? = some mode ∧
    ∀ s ∈ mode, ∃ value, parseInt s = .ok value
  | .other _ => False

section

variable {α : Type} {p : UnsolicitedParcel} {s s' : UnsolicitedState} {phone : Phone} {up : UnsolicitedSuper}

@[simp] theorem element_eq_ok_iff {a : List α} {i : Nat} {x : α} : element a i = .ok x ↔ a[i]? = some x := by
  unfold element
  cases a[i]? <;> simp

@[simp] theorem notNull_eq_ok_iff {reference : Option α} {x : α} :
    notNull reference = .ok x ↔ reference = some x := by
  cases reference <;> simp [notNull]

@[simp] theorem parseIntOrNull_eq_ok_iff {text : Option JString} {value : Int} :
    parseIntOrNull text = .ok value ↔ ∃ s, text = some s ∧ parseInt s = .ok value := by
  cases text <;> simp [parseIntOrNull]

@[simp] theorem except_bind_eq_ok_iff {ε β : Type} {x : Except ε α} {f : α → Except ε β} {b : β} :
    x >>= f = .ok b ↔ ∃ a, x = .ok a ∧ f a = .ok b := by
  cases x <;> simp [bind, Except.bind]

theorem completes_send {mRequest : UnsolicitedRequest} {mParcel : List ParcelValue}
    {Q : Unit → UnsolicitedState → Prop} :
    Completes (send mRequest mParcel) s Q ↔ Q () { s with sent := s.sent ++ [(mRequest, mParcel)] } :=
  completes_modify

theorem completes_notify {notification : Notification} {Q : Unit → UnsolicitedState → Prop} :
    Completes (notify notification) s Q ↔ Q () { s with notified := s.notified ++ [notification] } :=
  completes_modify

/-- There is a first integer if the size of the array is positive. -/
theorem readInts_first_iff : (∃ response, p.readInts = .ok response ∧ ∃ first, response[0]? = some first) ↔
    1 ≤ p.numInts := by
  unfold UnsolicitedParcel.readInts
  split_ifs with hneg
  · simp only [false_and, exists_false, false_iff]
    omega
  · simp only [Except.ok.injEq, exists_eq_left', List.getElem?_map, Option.map_eq_some_iff]
    constructor
    · rintro ⟨_, i, hi, _⟩
      have hlt := (List.getElem?_eq_some_iff.mp hi).1
      rw [List.length_range] at hlt
      omega
    · intro hpos
      have hlt : 0 < p.numInts.toNat := by omega
      exact ⟨_, 0, by rw [List.getElem?_range hlt], rfl⟩

/-- A mode is passed on exactly if it is null or a number. -/
theorem normalFinish_ok_iff {mode : Option JString} :
    (∃ mode', normalFinish mode = .ok mode') ↔ ∀ s ∈ mode, ∃ value, parseInt s = .ok value := by
  cases mode with
  | none => exact ⟨fun _ _ habsurd => absurd habsurd (Option.not_mem_none _), fun _ => ⟨none, rfl⟩⟩
  | some mode =>
    rw [normalFinish]
    cases hparse : parseInt mode with
    | error thrown => simp [hparse, bind, Except.bind]
    | ok value =>
      simp only [bind, Except.bind, Option.mem_some_iff, forall_eq', hparse, Except.ok.injEq, exists_eq', iff_true]
      split <;> exact ⟨_, rfl⟩

/-- What is passed on for a number. -/
theorem normalFinish_of_parse {mode : JString} {mode' : Option JString} {value : Int}
    (hparse : parseInt mode = .ok value) (hok : normalFinish (some mode) = .ok mode') :
    (2 ≤ value ∧ value ≤ 5 ∧ mode' = some ['0']) ∨ (¬ (2 ≤ value ∧ value ≤ 5) ∧ mode' = some mode) := by
  rw [normalFinish, hparse] at hok
  simp only [bind, Except.bind] at hok
  split_ifs at hok with hfinish
  · exact Or.inl ⟨hfinish.1, hfinish.2, (Except.ok.inj hok).symm⟩
  · exact Or.inr ⟨hfinish, (Except.ok.inj hok).symm⟩

/-- What is passed on behind the mode: the message and what follows it, or null. -/
def behindMode (ret : List (Option JString)) : List (Option JString) :=
  if ret.length < 2 then [none] else ret.tail

theorem behindMode_message (mode : Option JString) (ret : List (Option JString)) :
    (mode :: behindMode ret)[1]? = some ret[1]?.join := by
  match ret with
  | [] => rfl
  | [_] => rfl
  | first :: message :: rest =>
    have hlength : ¬ (first :: message :: rest).length < 2 := by simp
    rw [behindMode, if_neg hlength]
    rfl

theorem ussdStrings_eq_ok_iff {ret resp : List (Option JString)} : ussdStrings ret = .ok resp ↔
    ∃ mode mode', ret[0]? = some mode ∧ normalFinish mode = .ok mode' ∧ resp = mode' :: behindMode ret := by
  unfold ussdStrings behindMode
  match ret with
  | [] => simp [element, Except.map, bind, Except.bind]
  | [mode] =>
    have hlength : [mode].length < 2 := by simp
    simp only [if_pos hlength, element, List.getElem?_cons_zero, Except.map, bind, Except.bind,
      Option.some.injEq, exists_and_left, exists_eq_left']
    cases normalFinish mode with
    | error thrown => simp
    | ok mode' => simp [pure, Except.pure, eq_comm]
  | mode :: message :: rest =>
    have hlength : ¬ (mode :: message :: rest).length < 2 := by simp
    simp only [if_neg hlength, element, List.getElem?_cons_zero, pure, Except.pure,
      bind, Except.bind, Option.some.injEq, exists_and_left, exists_eq_left']
    cases normalFinish mode with
    | error thrown => simp
    | ok mode' => simp [eq_comm]

/-- They are passed on as they are to be. -/
theorem ussdStrings_passes {ret resp : List (Option JString)} (hok : ussdStrings ret = .ok resp) :
    PassesUssd ret resp := by
  obtain ⟨mode, mode', hmode, hfinish, rfl⟩ := ussdStrings_eq_ok_iff.mp hok
  have hreceived : ussdMode ret = mode.bind fun mode => (parseInt mode).toOption := by
    rw [ussdMode, hmode, Option.join_some]
  have hpassed : ussdMode (mode' :: behindMode ret) =
      mode'.bind fun mode => (parseInt mode).toOption := by
    rw [ussdMode, List.getElem?_cons_zero, Option.join_some]
  have hmessage := behindMode_message mode' ret
  cases mode with
  | none =>
    obtain rfl : none = mode' := Except.ok.inj hfinish
    refine ⟨?_, fun _ => hmode.symm, hmessage⟩
    rw [hreceived, hpassed]
    simp
  | some mode =>
    obtain ⟨value, hparse⟩ := normalFinish_ok_iff.mp ⟨mode', hfinish⟩ mode rfl
    have hvalue : ussdMode ret = some value := by
      rw [hreceived, Option.bind_some, hparse]
      rfl
    obtain ⟨hlow, hhigh, rfl⟩ | ⟨hnot, rfl⟩ := normalFinish_of_parse hparse hfinish
    · have hzero : ussdMode (some ['0'] :: behindMode ret) = some 0 := by
        rw [hpassed]
        decide
      refine ⟨⟨fun _ => ?_, fun _ => hzero⟩, fun hne => absurd hzero hne, hmessage⟩
      exact ⟨value, hvalue, Or.inr ⟨hlow, hhigh⟩⟩
    · refine ⟨?_, fun _ => hmode.symm, hmessage⟩
      rw [hpassed, Option.bind_some, hparse, hvalue]
      constructor
      · intro hzero
        exact ⟨value, rfl, Or.inl (Option.some.inj hzero)⟩
      · rintro ⟨other, hother, hnormal⟩
        obtain rfl := Option.some.inj hother
        obtain rfl := hnormal.resolve_right hnot
        rfl

/-- The registrant is notified with what is passed on. -/
theorem completes_ussd_iff {received : List (Option JString)} {Q : Unit → UnsolicitedState → Prop} :
    Completes (do
      let resp ← MonadExcept.ofExcept (ussdStrings received)
      if phone.hasUSSDRegistrant then
        notify (.mUSSDRegistrant resp)) s Q ↔
      ∃ resp, ussdStrings received = .ok resp ∧ Q () { s with
        notified := s.notified ++ if phone.hasUSSDRegistrant then [.mUSSDRegistrant resp] else [] } := by
  rw [completes_bind, completes_ofExcept]
  apply exists_congr
  intro resp
  apply and_congr_right
  intro _
  cases phone.hasUSSDRegistrant with
  | false => simp
  | true => simp only [if_true, completes_notify]

/-- A parcel of another type notifies as it is to. -/
theorem notifies_of_response {type : UnsolicitedType} (hresponse : p.response = type)
    (hne : type ≠ .RIL_UNSOL_ON_USSD) (s' : UnsolicitedState) : Notifies phone p s s' :=
  fun heq => absurd (hresponse.symm.trans heq) hne

theorem regSuspended_iff (hresponse : p.response = .RIL_UNSOL_RESPONSE_REGISTRATION_SUSPENDED) :
    Completes (processUnsolicited up phone p) s (fun _ s' => Notifies phone p s s') ↔ Readable phone p := by
  have hreadable : Readable phone p ↔ 1 ≤ p.numInts := by rw [Readable, hresponse]
  have hnotifies : ∀ s', Notifies phone p s s' := notifies_of_response hresponse nofun
  rw [hreadable, processUnsolicited, hresponse, ← readInts_first_iff]
  simp only [responseRegSuspended, completes_bind, completes_ofExcept, completes_send, completes_pure,
    element_eq_ok_iff, hnotifies, and_true]

theorem psNetworkState_iff (hreads : up.ReadsArrays)
    (hresponse : p.response = .RIL_UNSOL_RESPONSE_PS_NETWORK_STATE_CHANGED) :
    Completes (processUnsolicited up phone p) s (fun _ s' => Notifies phone p s s') ↔ Readable phone p := by
  have hreadable : Readable phone p ↔ 1 ≤ p.numInts := by rw [Readable, hresponse]
  have hnotifies : ∀ s', Notifies phone p s s' := notifies_of_response hresponse nofun
  have hend : ∀ first : Int, Completes (if first ≠ 4 then notify .mVoiceNetworkStateRegistrants else pure ()) s
      fun _ s' => Notifies phone p s s' := by
    intro first
    split
    · exact completes_notify.mpr (hnotifies _)
    · exact completes_pure.mpr (hnotifies _)
  rw [hreadable, processUnsolicited, hresponse, ← readInts_first_iff]
  simp only [completes_bind, completes_ofExcept, hreads.responseInts, element_eq_ok_iff, hend, and_true]

theorem incomingCall_iff (hresponse : p.response = .RIL_UNSOL_INCOMING_CALL_INDICATION) :
    Completes (processUnsolicited up phone p) s (fun _ s' => Notifies phone p s s') ↔ Readable phone p := by
  have hreadable : Readable phone p ↔ ∃ response ∈ p.readStringArray, ∀ i ∈ [0, 3, 4],
      ∃ s value, response[i]? = some (some s) ∧ parseInt s = .ok value := by rw [Readable, hresponse]
  have hnotifies : ∀ s', Notifies phone p s s' := notifies_of_response hresponse nofun
  rw [hreadable, processUnsolicited, hresponse]
  simp only [responseIncomingCallIndication, completes_bind, completes_ofExcept, completes_send, completes_pure,
    completes_notify, hnotifies, notNull_eq_ok_iff, except_bind_eq_ok_iff, element_eq_ok_iff,
    parseIntOrNull_eq_ok_iff, and_true]
  apply exists_congr
  intro response
  apply and_congr_right
  intro _
  simp only [List.forall_mem_cons, List.not_mem_nil, false_imp_iff, implies_true, and_true]
  constructor
  · rintro ⟨mode, ⟨_, hthird, third, rfl, hmode⟩, callId, ⟨_, hfirst, first, rfl, hcallId⟩,
      seqNumber, _, hfourth, fourth, rfl, hseqNumber⟩
    exact ⟨⟨first, callId, hfirst, hcallId⟩, ⟨third, mode, hthird, hmode⟩, fourth, seqNumber, hfourth, hseqNumber⟩
  · rintro ⟨⟨first, callId, hfirst, hcallId⟩, ⟨third, mode, hthird, hmode⟩, fourth, seqNumber, hfourth, hseqNumber⟩
    exact ⟨mode, ⟨_, hthird, third, rfl, hmode⟩, callId, ⟨_, hfirst, first, rfl, hcallId⟩,
      seqNumber, _, hfourth, fourth, rfl, hseqNumber⟩

/-- A call progress is read unless its second string is null. -/
theorem completes_callProgress_iff {Q : Option (List (Option JString)) → UnsolicitedState → Prop}
    (hQ : ∀ ret, Q ret s) :
    Completes (responseCallProgress p) s Q ↔ ∃ response ∈ p.readStringArray, response[1]? ≠ some none := by
  simp only [responseCallProgress, completes_bind, completes_ofExcept, notNull_eq_ok_iff]
  apply exists_congr
  intro response
  apply and_congr_right
  intro _
  split_ifs with hlength
  · have hlt : 1 < response.length := by omega
    simp only [completes_bind, completes_ofExcept, except_bind_eq_ok_iff, element_eq_ok_iff, notNull_eq_ok_iff]
    have hend : ∀ second : JString, Completes
        (if second = "129".toList then pure none else pure (some response) : EStateM Throwable _ _) s Q := by
      intro second
      split
      · exact completes_pure.mpr (hQ none)
      · exact completes_pure.mpr (hQ (some response))
    rw [List.getElem?_eq_getElem hlt]
    cases response[1] with
    | none => simp
    | some second =>
      simp only [Option.some.injEq, exists_eq_left', hend second, ne_eq, reduceCtorEq, not_false_eq_true]
  · have hnone : response[1]? = none := List.getElem?_eq_none (by omega)
    rw [completes_pure, hnone]
    exact ⟨fun _ => by simp, fun _ => hQ _⟩

theorem callInfo_iff (hresponse : p.response = .RIL_UNSOL_CALL_INFO_INDICATION) :
    Completes (processUnsolicited up phone p) s (fun _ s' => Notifies phone p s s') ↔ Readable phone p := by
  have hreadable : Readable phone p ↔ ∃ response ∈ p.readStringArray, response[1]? ≠ some none := by
    rw [Readable, hresponse]
  have hnotifies : ∀ s', Notifies phone p s s' := notifies_of_response hresponse nofun
  rw [hreadable, processUnsolicited, hresponse]
  dsimp only
  rw [completes_bind]
  apply completes_callProgress_iff
  intro ret
  cases ret with
  | none => exact completes_notify.mpr (hnotifies _)
  | some ret => exact completes_pure.mpr (hnotifies _)

theorem setAttachApn_iff (hresponse : p.response = .RIL_UNSOL_SET_ATTACH_APN) :
    Completes (processUnsolicited up phone p) s (fun _ s' => Notifies phone p s s') ↔ Readable phone p := by
  have hreadable : Readable phone p ↔ phone.mInstanceId ≠ none := by rw [Readable, hresponse]
  have hnotifies : ∀ s', Notifies phone p s s' := notifies_of_response hresponse nofun
  rw [hreadable, processUnsolicited, hresponse]
  simp only [responseSetAttachApn, setInitialAttachApn, completes_bind, completes_ofExcept, completes_send,
    notNull_eq_ok_iff, hnotifies, and_true, Option.ne_none_iff_exists']

theorem onUssd_iff (hreads : up.ReadsArrays) (hresponse : p.response = .RIL_UNSOL_ON_USSD) :
    Completes (processUnsolicited up phone p) s (fun _ s' => Notifies phone p s s') ↔ Readable phone p := by
  have hreadable : Readable phone p ↔ ∃ response ∈ p.readStringArray, ∃ mode, response[0]? = some mode ∧
      ∀ s ∈ mode, ∃ value, parseInt s = .ok value := by rw [Readable, hresponse]
  rw [hreadable, processUnsolicited, hresponse]
  dsimp only
  rw [completes_bind, completes_ofExcept, hreads.responseStrings]
  simp only [Except.ok.injEq, exists_eq_left']
  rw [completes_bind, completes_ofExcept]
  simp only [notNull_eq_ok_iff, completes_ussd_iff]
  apply exists_congr
  intro received
  apply and_congr_right
  intro hreceived
  constructor
  · rintro ⟨resp, hok, _⟩
    obtain ⟨mode, mode', hmode, hfinish, _⟩ := ussdStrings_eq_ok_iff.mp hok
    exact ⟨mode, hmode, normalFinish_ok_iff.mp ⟨mode', hfinish⟩⟩
  · rintro ⟨mode, hmode, hnumber⟩
    obtain ⟨mode', hfinish⟩ := normalFinish_ok_iff.mpr hnumber
    have hok := ussdStrings_eq_ok_iff.mpr ⟨mode, mode', hmode, hfinish, rfl⟩
    refine ⟨_, hok, fun _ other hother => ⟨_, ?_, rfl⟩⟩
    obtain rfl : received = other := Option.some.inj (hreceived.symm.trans hother)
    exact ussdStrings_passes hok

end

/-- A parcel of an overridden type is handled as it is to be exactly if it can be read. -/
theorem processUnsolicited_handles_iff {up : UnsolicitedSuper} (hreads : up.ReadsArrays) {p : UnsolicitedParcel}
    (hoverridden : ∀ type, p.response ≠ .other type) (phone : Phone) (s : UnsolicitedState) :
    Completes (processUnsolicited up phone p) s (fun _ s' => Notifies phone p s s') ↔ Readable phone p := by
  cases hresponse : p.response with
  | RIL_UNSOL_RESPONSE_REGISTRATION_SUSPENDED => exact regSuspended_iff hresponse
  | RIL_UNSOL_INCOMING_CALL_INDICATION => exact incomingCall_iff hresponse
  | RIL_UNSOL_CALL_INFO_INDICATION => exact callInfo_iff hresponse
  | RIL_UNSOL_SET_ATTACH_APN => exact setAttachApn_iff hresponse
  | RIL_UNSOL_ON_USSD => exact onUssd_iff hreads hresponse
  | RIL_UNSOL_RESPONSE_PS_NETWORK_STATE_CHANGED => exact psNetworkState_iff hreads hresponse
  | other type => exact absurd hresponse (hoverridden type)

/-- A superclass that reads the arrays, and handles nothing. -/
def readingSuper : UnsolicitedSuper where
  responseInts := UnsolicitedParcel.readInts
  responseStrings := fun p => .ok p.readStringArray
  processUnsolicited := fun _ => pure ()

def firstPhone : Phone := ⟨some 0, fun _ => none, true⟩

/-- A USSD session that ended, without a message. -/
def endedUssd : UnsolicitedParcel := ⟨.RIL_UNSOL_ON_USSD, [], some [some ['2']]⟩

theorem endedUssd_handled : Completes (processUnsolicited readingSuper firstPhone endedUssd) ⟨[], []⟩
    fun _ s' => Notifies firstPhone endedUssd ⟨[], []⟩ s' := by
  have hreads : readingSuper.ReadsArrays := ⟨fun _ => rfl, fun _ => rfl⟩
  have hoverridden : ∀ type, endedUssd.response ≠ .other type := fun type habsurd => by cases habsurd
  have hnumber : parseInt ['2'] = .ok 2 := by decide +kernel
  apply (processUnsolicited_handles_iff hreads hoverridden firstPhone ⟨[], []⟩).mpr
  refine ⟨_, rfl, some ['2'], rfl, fun s hs => ⟨2, ?_⟩⟩
  obtain rfl : ['2'] = s := Option.some.inj hs
  exact hnumber

/-- A call progress whose second string is null, and a suspended registration without a
session, throw; so does a USSD with a mode that is not a number. -/
theorem unreadable_parcels_throw :
    processUnsolicited readingSuper firstPhone ⟨.RIL_UNSOL_CALL_INFO_INDICATION, [], some [none, none]⟩ ⟨[], []⟩ =
        .error .NullPointerException ⟨[], []⟩ ∧
      processUnsolicited readingSuper firstPhone
        ⟨.RIL_UNSOL_RESPONSE_REGISTRATION_SUSPENDED, [0], none⟩ ⟨[], []⟩ = .error .RuntimeException ⟨[], []⟩ ∧
      processUnsolicited readingSuper firstPhone ⟨.RIL_UNSOL_ON_USSD, [], some [some ['x'], none]⟩ ⟨[], []⟩ =
        .error .NumberFormatException ⟨[], []⟩ :=
  ⟨rfl, rfl, rfl⟩

end panelli.telephony
