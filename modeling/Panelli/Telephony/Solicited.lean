import Panelli.Telephony.DataCall
import Panelli.Telephony.EccList

open panelli.java

namespace panelli.telephony

/-- A reply parcel with what the readers of the platform return for its payload. -/
structure Parcel where
  serial : Int
  error : Int
  dataAvail : Nat
  readStringArray : Except Throwable (Option (List (Option JString)))
  responseSetupDataCall : Except Throwable DataCallResponse

/-- The condition for decoding a payload. -/
def Parcel.decodes (p : Parcel) : Bool := p.error == 0 || p.dataAvail > 0

structure RilState where
  mRequestList : RequestList
  props : Properties
  dataCallCids : DataCallCids
  networkStateNotified : Nat
  delivered : List Delivery

/-- `findAndRemoveRequestFromList` on the request list. -/
def RilState.removeRequest (s : RilState) (serial : Int) : RilState :=
  { s with mRequestList := s.mRequestList.remove serial }

/-- The methods of the superclass that handling a reply calls. -/
structure Superclass where
  processSolicited : Parcel → EStateM Throwable RilState (Option RILRequest)
  findAndRemoveRequestFromList : Int → EStateM Throwable RilState (Option RILRequest)

/-- The superclass looks up and removes requests by their serial. -/
def Superclass.FindsAndRemoves (up : Superclass) : Prop :=
  ∀ serial s, up.findAndRemoveRequestFromList serial s =
    .ok (s.mRequestList.get serial) (s.removeRequest serial)

/-- The slots are private, so the superclass leaves them alone. -/
def Superclass.LeavesSlots (up : Superclass) : Prop :=
  ∀ p s, (after (up.processSolicited p) s).dataCallCids = s.dataCallCids

/-- `AsyncResult.forMessage` and `sendToTarget`, for a request with a message. -/
def sendResult (rr : RILRequest) (asyncResult : AsyncResult) : EStateM Throwable RilState Unit :=
  match rr.mResult with
  | some target => modify fun s => { s with delivered := s.delivered ++ [⟨target, asyncResult⟩] }
  | none => pure ()

/-- Only once the constructor has set `mEccList` is there a table to publish. -/
def refreshEmergencyList (accepts : JString → Bool) (mEccList : Option (List EccEntry)) :
    EStateM Throwable RilState Unit :=
  match mEccList with
  | some table => fun s =>
    match updateEmergencyNumbersProperty accepts table s.props with
    | .ok _ props => .ok () { s with props }
    | .error thr props => .error thr { s with props }
  | none => pure ()

/-- How pre-processing leaves a reply: decoded here, forwarded, or finished. -/
inductive Preprocessed where
  | decodeHere
  | forward
  | finished (tr : RILRequest)

/-- The switch over the request of a reply, before the request is removed. -/
def preprocessSwitch (accepts : JString → Bool) (mEccList : Option (List EccEntry)) (tr : RILRequest) :
    EStateM Throwable RilState Preprocessed :=
  match tr.mRequest with
  | .RIL_REQUEST_EMERGENCY_DIAL
  | .RIL_REQUEST_SET_ECC_SERVICE_CATEGORY
  | .RIL_REQUEST_DATA_REGISTRATION_STATE
  | .RIL_REQUEST_SETUP_DATA_CALL
  | .RIL_REQUEST_ALLOW_DATA => pure .decodeHere
  | .RIL_REQUEST_GET_SIM_STATUS => do
    refreshEmergencyList accepts mEccList
    return .forward
  | .other _ => pure .forward

/-- The block around the switch, which answers a request with what was thrown. -/
def preprocessRequest (accepts : JString → Bool) (mEccList : Option (List EccEntry)) (p : Parcel)
    (tr : RILRequest) : EStateM Throwable RilState Preprocessed :=
  if p.decodes then
    tryCatch (preprocessSwitch accepts mEccList tr) fun thr => do
      sendResult tr ⟨.null, some (.thrown thr)⟩
      return .finished tr
  else pure .forward

/-- The part of `processSolicited` that holds the lock on the request list. -/
def preprocess (accepts : JString → Bool) (mEccList : Option (List EccEntry)) (p : Parcel) :
    EStateM Throwable RilState Preprocessed := do
  let s ← get
  match s.mRequestList.get p.serial with
  | some tr => if tr.mSerial = p.serial then preprocessRequest accepts mEccList p tr else pure .forward
  | none => pure .forward

/-- Caps the technology in the fourth string, if there is one. -/
def fixupPSBearerDataRegistration (p : Parcel) : Except Throwable Response := do
  match ← p.readStringArray with
  | none => throw .NullPointerException
  | some response =>
    match response[3]? with
    | some (some technology) =>
      if (← parseInt technology) ≥ 128 then
        return .strings (response.set 3 (some ['1', '5']))
      else return .strings response
    | _ => return .strings response

def fetchCidFromDataCall (p : Parcel) : EStateM Throwable RilState Response := do
  let ret ← MonadExcept.ofExcept p.responseSetupDataCall
  modify fun s => { s with dataCallCids := storeCid s.dataCallCids ret.cid }
  return .dataCall ret

/-- The switch that decodes a payload. -/
def decodeResponse (p : Parcel) (rr : RILRequest) : EStateM Throwable RilState Response :=
  match rr.mRequest with
  | .RIL_REQUEST_EMERGENCY_DIAL => pure .null
  | .RIL_REQUEST_SET_ECC_SERVICE_CATEGORY => pure .null
  | .RIL_REQUEST_DATA_REGISTRATION_STATE => MonadExcept.ofExcept (fixupPSBearerDataRegistration p)
  | .RIL_REQUEST_SETUP_DATA_CALL => fetchCidFromDataCall p
  | .RIL_REQUEST_ALLOW_DATA => do
    modify fun s => { s with networkStateNotified := s.networkStateNotified + 1 }
    return .null
  | .RIL_REQUEST_GET_SIM_STATUS | .other _ => throw .RuntimeException

/-- The rest of `processSolicited`. A forwarded parcel is rewound, so the superclass
gets all of it. -/
def finishSolicited (up : Superclass) (p : Parcel) :
    Preprocessed → EStateM Throwable RilState (Option RILRequest)
  | .finished tr => pure (some tr)
  | .forward => up.processSolicited p
  | .decodeHere => do
    match ← up.findAndRemoveRequestFromList p.serial with
    | none => return none
    | some rr =>
      let ret ← if p.decodes then decodeResponse p rr else pure .null
      sendResult rr ⟨ret, none⟩
      return some rr

def processSolicited (up : Superclass) (accepts : JString → Bool) (mEccList : Option (List EccEntry))
    (p : Parcel) : EStateM Throwable RilState (Option RILRequest) := do
  let preprocessed ← preprocess accepts mEccList p
  finishSolicited up p preprocessed

/-- The requests whose replies are decoded here. -/
def RequestCode.DecodedHere (code : RequestCode) : Prop :=
  code ∈ [RequestCode.RIL_REQUEST_EMERGENCY_DIAL, .RIL_REQUEST_SET_ECC_SERVICE_CATEGORY,
    .RIL_REQUEST_DATA_REGISTRATION_STATE, .RIL_REQUEST_SETUP_DATA_CALL, .RIL_REQUEST_ALLOW_DATA]

instance (code : RequestCode) : Decidable code.DecodedHere := inferInstanceAs (Decidable (_ ∈ _))

/-- The payload is one the request can be answered with. -/
def Parcel.WellFormed (p : Parcel) : RequestCode → Prop
  | .RIL_REQUEST_DATA_REGISTRATION_STATE => ∃ response, p.readStringArray = .ok (some response) ∧
    ∀ technology, response[3]? = some (some technology) → ∃ value, parseInt technology = .ok value
  | .RIL_REQUEST_SETUP_DATA_CALL => ∃ response, p.responseSetupDataCall = .ok response
  | _ => True

/-- Every list a refresh would publish is accepted. -/
def Refreshable (accepts : JString → Bool) (mEccList : Option (List EccEntry)) (s : RilState) : Prop :=
  ∀ table ∈ mEccList, s.props.Publishable accepts table

/-- The state with the result of a request sent, if the request has a message. -/
def RilState.send (s : RilState) (rr : RILRequest) (asyncResult : AsyncResult) : RilState :=
  { s with delivered := s.delivered ++ rr.mResult.toList.map (Delivery.mk · asyncResult) }

section

variable {up : Superclass} {accepts : JString → Bool} {mEccList : Option (List EccEntry)} {p : Parcel}
  {s s' : RilState} {rr : RILRequest}

theorem sendResult_eq (rr : RILRequest) (asyncResult : AsyncResult) (s : RilState) :
    sendResult rr asyncResult s = .ok () (s.send rr asyncResult) := by
  unfold sendResult RilState.send
  cases rr.mResult with
  | none => simp [pure, EStateM.pure]
  | some target => rfl

/-- A refresh only changes the properties. -/
theorem refreshEmergencyList_of_refreshable (hrefreshable : Refreshable accepts mEccList s) :
    ∃ props, refreshEmergencyList accepts mEccList s = .ok () { s with props } := by
  cases mEccList with
  | none => exact ⟨s.props, rfl⟩
  | some table =>
    refine ⟨s.props.published table, ?_⟩
    simp only [refreshEmergencyList, updateEmergencyNumbersProperty_of_publishable (hrefreshable table rfl)]

/-- It throws when there is a table and one of the lists is refused. -/
theorem refreshEmergencyList_of_not_refreshable (hrefused : ¬ Refreshable accepts mEccList s) :
    ∃ props, refreshEmergencyList accepts mEccList s = .error .IllegalArgumentException { s with props } := by
  cases mEccList with
  | none => exact absurd (fun table htable => nomatch htable) hrefused
  | some table =>
    have hlist : ¬ s.props.Publishable accepts table := by simpa [Refreshable] using hrefused
    obtain ⟨props, hthrows⟩ := updateEmergencyNumbersProperty_of_not_publishable hlist
    refine ⟨props, ?_⟩
    simp only [refreshEmergencyList, hthrows]

theorem preprocessRequest_of_not_decodes (hdecodes : ¬ p.decodes) :
    preprocessRequest accepts mEccList p rr s = .ok .forward s := by
  rw [preprocessRequest, if_neg hdecodes]
  rfl

theorem preprocessRequest_of_switch {preprocessed : Preprocessed}
    (hswitch : preprocessSwitch accepts mEccList rr s = .ok preprocessed s') (hdecodes : p.decodes) :
    preprocessRequest accepts mEccList p rr s = .ok preprocessed s' := by
  rw [preprocessRequest, if_pos hdecodes, tryCatch_of_ok hswitch]

theorem preprocessRequest_of_switch_throws {thr : Throwable}
    (hswitch : preprocessSwitch accepts mEccList rr s = .error thr s') (hdecodes : p.decodes) :
    preprocessRequest accepts mEccList p rr s = .ok (.finished rr) (s'.send rr ⟨.null, some (.thrown thr)⟩) := by
  rw [preprocessRequest, if_pos hdecodes, tryCatch_of_error hswitch]
  exact bind_of_ok (sendResult_eq _ _ _)

theorem preprocessSwitch_of_decodedHere (hhere : rr.mRequest.DecodedHere) :
    preprocessSwitch accepts mEccList rr s = .ok .decodeHere s := by
  unfold preprocessSwitch
  cases hcode : rr.mRequest with
  | RIL_REQUEST_GET_SIM_STATUS =>
    rw [hcode] at hhere
    exact absurd hhere (by decide)
  | other code =>
    rw [hcode] at hhere
    exact absurd hhere (by simp [RequestCode.DecodedHere])
  | _ => rfl

theorem preprocessSwitch_of_other (hhere : ¬ rr.mRequest.DecodedHere)
    (hcode : rr.mRequest ≠ .RIL_REQUEST_GET_SIM_STATUS) :
    preprocessSwitch accepts mEccList rr s = .ok .forward s := by
  unfold preprocessSwitch
  cases hrequest : rr.mRequest with
  | RIL_REQUEST_GET_SIM_STATUS => exact absurd hrequest hcode
  | other code => rfl
  | _ =>
    rw [hrequest] at hhere
    exact absurd (by decide) hhere

/-- Capping the technology throws for a null array and for a fourth string that is
no number, and for nothing else that was read. -/
theorem fixupPSBearerDataRegistration_ok_iff : (∃ ret, fixupPSBearerDataRegistration p = .ok ret) ↔
    p.WellFormed .RIL_REQUEST_DATA_REGISTRATION_STATE := by
  unfold fixupPSBearerDataRegistration
  change _ ↔ ∃ response, p.readStringArray = .ok (some response) ∧ ∀ technology,
    response[3]? = some (some technology) → ∃ value, parseInt technology = .ok value
  cases harray : p.readStringArray with
  | error thr => simp [bind, Except.bind]
  | ok array =>
    cases array with
    | none => simp [bind, Except.bind, throw, throwThe, MonadExceptOf.throw]
    | some response =>
      simp only [bind, Except.bind, Except.ok.injEq, Option.some.injEq, exists_eq_left']
      cases hfourth : response[3]? with
      | none => simp [pure, Except.pure]
      | some fourth =>
        cases fourth with
        | none => simp [pure, Except.pure]
        | some technology =>
          cases hvalue : parseInt technology with
          | error thr => simp [hvalue]
          | ok value =>
            by_cases hcap : value ≥ 128 <;> simp [hvalue, hcap, pure, Except.pure]

theorem decodeResponse_of_wellFormed (hhere : rr.mRequest.DecodedHere) (hwell : p.WellFormed rr.mRequest) :
    ∃ ret s', decodeResponse p rr s = .ok ret s' ∧ s'.mRequestList = s.mRequestList ∧
      s'.delivered = s.delivered ∧ (rr.mRequest = .RIL_REQUEST_SETUP_DATA_CALL →
        ∃ response, p.responseSetupDataCall = .ok response ∧
          s'.dataCallCids = storeCid s.dataCallCids response.cid) := by
  unfold decodeResponse
  cases hcode : rr.mRequest with
  | RIL_REQUEST_DATA_REGISTRATION_STATE =>
    rw [hcode] at hwell
    obtain ⟨ret, hret⟩ := fixupPSBearerDataRegistration_ok_iff.mpr hwell
    dsimp only
    rw [hret]
    exact ⟨ret, s, rfl, rfl, rfl, fun h => nomatch h⟩
  | RIL_REQUEST_SETUP_DATA_CALL =>
    rw [hcode] at hwell
    obtain ⟨response, hresponse⟩ := hwell
    have hfetch : fetchCidFromDataCall p s =
        .ok (.dataCall response) { s with dataCallCids := storeCid s.dataCallCids response.cid } := by
      rw [fetchCidFromDataCall, hresponse]
      rfl
    exact ⟨_, _, hfetch, rfl, rfl, fun _ => ⟨response, hresponse, rfl⟩⟩
  | RIL_REQUEST_GET_SIM_STATUS =>
    rw [hcode] at hhere
    exact absurd hhere (by decide)
  | other code =>
    rw [hcode] at hhere
    exact absurd hhere (by simp [RequestCode.DecodedHere])
  | _ => exact ⟨_, _, rfl, rfl, rfl, fun h => nomatch h⟩

theorem decodeResponse_of_not_wellFormed (hwell : ¬ p.WellFormed rr.mRequest) :
    ∃ thr, decodeResponse p rr s = .error thr s := by
  unfold decodeResponse
  cases hcode : rr.mRequest with
  | RIL_REQUEST_DATA_REGISTRATION_STATE =>
    rw [hcode] at hwell
    dsimp only
    cases hfixup : fixupPSBearerDataRegistration p with
    | error thr => exact ⟨thr, rfl⟩
    | ok ret => exact absurd (fixupPSBearerDataRegistration_ok_iff.mp ⟨ret, hfixup⟩) hwell
  | RIL_REQUEST_SETUP_DATA_CALL =>
    rw [hcode] at hwell
    cases hresponse : p.responseSetupDataCall with
    | error thr =>
      refine ⟨thr, ?_⟩
      rw [fetchCidFromDataCall, hresponse]
      rfl
    | ok response => exact absurd ⟨response, hresponse⟩ hwell
  | _ =>
    rw [hcode] at hwell
    exact absurd trivial hwell

/-- With an outstanding request, what follows pre-processing is decided by its end. -/
theorem processSolicited_of_preprocessed {preprocessed : Preprocessed}
    (hget : s.mRequestList.get p.serial = some rr)
    (hpre : preprocessRequest accepts mEccList p rr s = .ok preprocessed s') :
    processSolicited up accepts mEccList p s = finishSolicited up p preprocessed s' := by
  have hblock : preprocess accepts mEccList p s = .ok preprocessed s' := by
    change (match s.mRequestList.get p.serial with
      | some tr => if tr.mSerial = p.serial then preprocessRequest accepts mEccList p tr else pure .forward
      | none => pure .forward : EStateM Throwable RilState Preprocessed) s = _
    rw [hget]
    dsimp only
    rw [if_pos (s.mRequestList.mSerial_of_get _ _ hget)]
    exact hpre
  exact bind_of_ok hblock

/-- Decoding here takes the request out of the list first. -/
theorem finishSolicited_decodeHere (hremoves : up.FindsAndRemoves)
    (hget : s.mRequestList.get p.serial = some rr) (hdecodes : p.decodes) :
    finishSolicited up p .decodeHere s =
      (do
        let ret ← decodeResponse p rr
        sendResult rr ⟨ret, none⟩
        return some rr : EStateM Throwable RilState (Option RILRequest)) (s.removeRequest p.serial) := by
  have hfind : up.findAndRemoveRequestFromList p.serial s = .ok (some rr) (s.removeRequest p.serial) := by
    rw [hremoves, hget]
  apply (bind_of_ok hfind).trans
  dsimp only
  rw [if_pos hdecodes]

/-- Then it decodes, and sends the result. -/
theorem finishSolicited_of_decoded (hremoves : up.FindsAndRemoves) (hget : s.mRequestList.get p.serial = some rr)
    {ret : Response} (hdecodes : p.decodes)
    (hdecode : decodeResponse p rr (s.removeRequest p.serial) = .ok ret s') :
    finishSolicited up p .decodeHere s = .ok (some rr) (s'.send rr ⟨ret, none⟩) := by
  rw [finishSolicited_decodeHere hremoves hget hdecodes]
  apply (bind_of_ok hdecode).trans
  exact bind_of_ok (sendResult_eq rr ⟨ret, none⟩ s')

/-- Nothing catches what decoding throws. -/
theorem finishSolicited_of_decode_throws (hremoves : up.FindsAndRemoves)
    (hget : s.mRequestList.get p.serial = some rr) {thr : Throwable} (hdecodes : p.decodes)
    (hdecode : decodeResponse p rr (s.removeRequest p.serial) = .error thr s') :
    finishSolicited up p .decodeHere s = .error thr s' := by
  rw [finishSolicited_decodeHere hremoves hget hdecodes]
  exact bind_of_error hdecode

/-- The ways a reply to an outstanding request can end. -/
inductive Outcome (up : Superclass) (accepts : JString → Bool) (mEccList : Option (List EccEntry)) (p : Parcel)
    (rr : RILRequest) (s : RilState) : Prop
  | forwarded (props : Properties)
    (hthere : ¬ (p.decodes ∧ rr.mRequest.DecodedHere))
    (hrefreshable : p.decodes → rr.mRequest = .RIL_REQUEST_GET_SIM_STATUS → Refreshable accepts mEccList s)
    (hresult : processSolicited up accepts mEccList p s = up.processSolicited p { s with props })
  | refused (props : Properties) (hdecodes : p.decodes)
    (hcode : rr.mRequest = .RIL_REQUEST_GET_SIM_STATUS)
    (hrefused : ¬ Refreshable accepts mEccList s)
    (hresult : processSolicited up accepts mEccList p s =
      .ok (some rr) (RilState.send { s with props } rr ⟨.null, some (.thrown .IllegalArgumentException)⟩))
  | decoded (ret : Response) (s' : RilState) (hdecodes : p.decodes) (hhere : rr.mRequest.DecodedHere)
    (hwell : p.WellFormed rr.mRequest)
    (hlist : s'.mRequestList = s.mRequestList.remove p.serial)
    (hdelivered : s'.delivered = s.delivered)
    (hcids : rr.mRequest = .RIL_REQUEST_SETUP_DATA_CALL →
        ∃ response, p.responseSetupDataCall = .ok response ∧
          s'.dataCallCids = storeCid s.dataCallCids response.cid)
    (hresult : processSolicited up accepts mEccList p s = .ok (some rr) (s'.send rr ⟨ret, none⟩))
  | malformed (thr : Throwable) (hdecodes : p.decodes) (hhere : rr.mRequest.DecodedHere)
    (hwell : ¬ p.WellFormed rr.mRequest)
    (hresult : processSolicited up accepts mEccList p s = .error thr (s.removeRequest p.serial))

theorem outcome_of_decodedHere (hremoves : up.FindsAndRemoves) (hget : s.mRequestList.get p.serial = some rr)
    (hdecodes : p.decodes) (hhere : rr.mRequest.DecodedHere) : Outcome up accepts mEccList p rr s := by
  have hpre : preprocessRequest accepts mEccList p rr s = .ok .decodeHere s :=
    preprocessRequest_of_switch (preprocessSwitch_of_decodedHere hhere) hdecodes
  have hrest : processSolicited up accepts mEccList p s = finishSolicited up p .decodeHere s :=
    processSolicited_of_preprocessed hget hpre
  by_cases hwell : p.WellFormed rr.mRequest
  · obtain ⟨ret, s', hdecode, hlist, hdelivered, hcids⟩ :=
      decodeResponse_of_wellFormed (s := s.removeRequest p.serial) hhere hwell
    exact .decoded ret s' hdecodes hhere hwell hlist hdelivered hcids
      (hrest.trans (finishSolicited_of_decoded hremoves hget hdecodes hdecode))
  · obtain ⟨thr, hdecode⟩ := decodeResponse_of_not_wellFormed hwell
    exact .malformed thr hdecodes hhere hwell
      (hrest.trans (finishSolicited_of_decode_throws hremoves hget hdecodes hdecode))

theorem outcome_of_getSimStatus (hget : s.mRequestList.get p.serial = some rr) (hdecodes : p.decodes)
    (hcode : rr.mRequest = .RIL_REQUEST_GET_SIM_STATUS) : Outcome up accepts mEccList p rr s := by
  have hhere : ¬ rr.mRequest.DecodedHere := by rw [hcode]; decide
  by_cases hrefreshable : Refreshable accepts mEccList s
  · obtain ⟨props, hrefresh⟩ := refreshEmergencyList_of_refreshable hrefreshable
    have hswitch : preprocessSwitch accepts mEccList rr s = .ok .forward { s with props } := by
      rw [preprocessSwitch, hcode]
      exact bind_of_ok hrefresh
    exact .forwarded props (fun h => hhere h.2) (fun _ _ => hrefreshable)
      (processSolicited_of_preprocessed hget (preprocessRequest_of_switch hswitch hdecodes))
  · obtain ⟨props, hrefresh⟩ := refreshEmergencyList_of_not_refreshable hrefreshable
    have hswitch : preprocessSwitch accepts mEccList rr s = .error .IllegalArgumentException { s with props } := by
      rw [preprocessSwitch, hcode]
      exact bind_of_error hrefresh
    exact .refused props hdecodes hcode hrefreshable
      (processSolicited_of_preprocessed hget (preprocessRequest_of_switch_throws hswitch hdecodes))

/-- Every reply to an outstanding request ends in one of these ways. -/
theorem processSolicited_outcome (hremoves : up.FindsAndRemoves) (hget : s.mRequestList.get p.serial = some rr) :
    Outcome up accepts mEccList p rr s := by
  by_cases hdecodes : p.decodes
  · by_cases hhere : rr.mRequest.DecodedHere
    · exact outcome_of_decodedHere hremoves hget hdecodes hhere
    · by_cases hcode : rr.mRequest = .RIL_REQUEST_GET_SIM_STATUS
      · exact outcome_of_getSimStatus hget hdecodes hcode
      · have hswitch : preprocessSwitch accepts mEccList rr s = .ok .forward s :=
          preprocessSwitch_of_other hhere hcode
        exact .forwarded s.props (fun h => hhere h.2) (fun _ h => absurd h hcode)
          (processSolicited_of_preprocessed hget (preprocessRequest_of_switch hswitch hdecodes))
  · exact .forwarded s.props (fun h => hdecodes h.1) (fun h => absurd h hdecodes)
      (processSolicited_of_preprocessed hget (preprocessRequest_of_not_decodes hdecodes))

/-- What a reply to a setup request answers, in terms of the data calls. -/
def Parcel.setupAnswer (p : Parcel) : SetupAnswer :=
  match p.responseSetupDataCall with
  | .ok response =>
    if p.error = 0 then .success response.cid else .failure (if p.decodes then some response.cid else none)
  | .error _ => .failure none

theorem setupAnswer_store_of_decoded {response : DataCallResponse} {cids : DataCallCids} (hdecodes : p.decodes)
    (hresponse : p.responseSetupDataCall = .ok response) :
    p.setupAnswer.store cids = storeCid cids response.cid := by
  rw [Parcel.setupAnswer, hresponse]
  dsimp only
  rw [if_pos hdecodes]
  split_ifs
  · rfl
  · rfl

theorem setupAnswer_store_of_not_decoded {cids : DataCallCids}
    (hnot : ¬ (p.decodes ∧ p.WellFormed .RIL_REQUEST_SETUP_DATA_CALL)) : p.setupAnswer.store cids = cids := by
  unfold Parcel.setupAnswer
  cases hresponse : p.responseSetupDataCall with
  | error thr => rfl
  | ok response =>
    have hdecodes : ¬ p.decodes := fun h => hnot ⟨h, response, hresponse⟩
    have herror : p.error ≠ 0 := fun h => hdecodes (by simp [Parcel.decodes, h])
    dsimp only
    rw [if_neg herror, if_neg hdecodes]
    rfl

/-- Handling the reply to a setup request changes the slots as the data calls say. -/
theorem processSolicited_dataCallCids (hremoves : up.FindsAndRemoves) (hleaves : up.LeavesSlots)
    (hget : s.mRequestList.get p.serial = some rr) (hcode : rr.mRequest = .RIL_REQUEST_SETUP_DATA_CALL) :
    (after (processSolicited up accepts mEccList p) s).dataCallCids = p.setupAnswer.store s.dataCallCids := by
  have hhere : rr.mRequest.DecodedHere := by rw [hcode]; decide
  cases @processSolicited_outcome up accepts mEccList p s rr hremoves hget with
  | forwarded props hthere hrefreshable hresult =>
    rw [after_congr hresult, setupAnswer_store_of_not_decoded fun h => hthere ⟨h.1, hhere⟩]
    exact hleaves p { s with props }
  | refused props hdecodes hcode' hrefused hresult =>
    rw [hcode] at hcode'
    cases hcode'
  | decoded ret s' hdecodes hhere hwell hlist hdelivered hcids hresult =>
    obtain ⟨response, hresponse, hstored⟩ := hcids hcode
    rw [after_of_ok hresult, setupAnswer_store_of_decoded hdecodes hresponse]
    exact hstored
  | malformed thr hdecodes hhere hwell hresult =>
    rw [hcode] at hwell
    rw [after_of_error hresult, setupAnswer_store_of_not_decoded fun h => hwell h.2]
    rfl

end

/-- A superclass that decodes nothing: it removes a request, and answers it with
the error of the reply, if any. -/
def plainSuperclass : Superclass where
  processSolicited p := fun s =>
    match s.mRequestList.get p.serial with
    | none => .ok none s
    | some rr => .ok (some rr) ((s.removeRequest p.serial).send rr
      ⟨.null, if p.error = 0 then none else some (.commandException p.error)⟩)
  findAndRemoveRequestFromList serial := fun s => .ok (s.mRequestList.get serial) (s.removeRequest serial)

theorem plainSuperclass_findsAndRemoves : plainSuperclass.FindsAndRemoves := fun _ _ => rfl

theorem plainSuperclass_processSolicited {p : Parcel} {s : RilState} {rr : RILRequest}
    (hget : s.mRequestList.get p.serial = some rr) : plainSuperclass.processSolicited p s =
      .ok (some rr) ((s.removeRequest p.serial).send rr
        ⟨.null, if p.error = 0 then none else some (.commandException p.error)⟩) := by
  simp only [plainSuperclass, hget]

theorem plainSuperclass_leavesSlots : plainSuperclass.LeavesSlots := by
  intro p s
  cases hget : s.mRequestList.get p.serial with
  | none => simp only [after, plainSuperclass, hget]
  | some rr => rw [after_of_ok (plainSuperclass_processSolicited hget)]; rfl

/-- The state with one outstanding request and nothing else. -/
def RilState.outstanding (rr : RILRequest) : RilState := ⟨.single rr, fun _ => [], .initial, 0, []⟩

end panelli.telephony
