import Panelli.Telephony.Solicited

open panelli.java

namespace panelli.telephony

/-- A failure is reported between two states: every result sent carries an
exception, and a failed setup leaves the slots as they were. -/
structure FailureReported (rr : RILRequest) (s s' : RilState) : Prop where
  exceptions : ∃ results, s'.delivered = s.delivered ++ results ∧
    ∀ delivery ∈ results, delivery.asyncResult.exception.isSome
  slots : rr.mRequest = .RIL_REQUEST_SETUP_DATA_CALL → s'.dataCallCids = s.dataCallCids

/-- The superclass sends an exception for every error forwarded to it. -/
def Superclass.ReportsErrors (up : Superclass) : Prop :=
  ∀ p s rr, s.mRequestList.get p.serial = some rr → p.error ≠ 0 →
    ∃ results, (after (up.processSolicited p) s).delivered = s.delivered ++ results ∧
      ∀ delivery ∈ results, delivery.asyncResult.exception.isSome

section

variable {up : Superclass} {accepts : JString → Bool} {mEccList : Option (List EccEntry)} {p : Parcel}
  {s s' : RilState} {rr : RILRequest}

/-- Sending a result reports a failure when nobody gets it or it is an exception. -/
theorem FailureReported.of_send {asyncResult : AsyncResult} (hdelivered : s'.delivered = s.delivered)
    (hexception : rr.mResult = none ∨ asyncResult.exception.isSome)
    (hslots : rr.mRequest = .RIL_REQUEST_SETUP_DATA_CALL → s'.dataCallCids = s.dataCallCids) :
    FailureReported rr s (s'.send rr asyncResult) := by
  refine ⟨⟨rr.mResult.toList.map (Delivery.mk · asyncResult), ?_, ?_⟩, hslots⟩
  · rw [RilState.send, hdelivered]
  · intro delivery hdelivery
    obtain ⟨target, htarget, rfl⟩ := List.mem_map.mp hdelivery
    obtain hnone | hsome := hexception
    · rw [hnone] at htarget
      exact absurd htarget List.not_mem_nil
    · exact hsome

/-- A result without exception is one only if nobody gets it. -/
theorem FailureReported.mResult_eq_none {ret : Response} (hdelivered : s'.delivered = s.delivered)
    (hreported : FailureReported rr s (s'.send rr ⟨ret, none⟩)) : rr.mResult = none := by
  obtain ⟨results, hresults, hexceptions⟩ := hreported.exceptions
  rw [RilState.send, hdelivered] at hresults
  rw [← List.append_cancel_left hresults] at hexceptions
  cases hresult : rr.mResult with
  | none => rfl
  | some target =>
    rw [hresult] at hexceptions
    exact absurd (hexceptions _ List.mem_cons_self) (by simp)

/-- When the failure of a request is reported: an error with a well-formed payload
is not decoded here, unless nobody waits for it and no cid is stored. -/
def ReportsFailure (p : Parcel) (rr : RILRequest) (s : RilState) : Prop :=
  rr.mRequest.DecodedHere → p.dataAvail > 0 → p.WellFormed rr.mRequest →
    rr.mResult = none ∧ (rr.mRequest = .RIL_REQUEST_SETUP_DATA_CALL → ∀ response,
      p.responseSetupDataCall = .ok response → response.cid < 0 ∨ s.dataCallCids.firstFree = none)

/-- Handling an error reply to an outstanding request reports the failure exactly
when it does not decode a payload and send it as a result. -/
theorem processSolicited_failureReported_iff (hremoves : up.FindsAndRemoves) (hreports : up.ReportsErrors)
    (hkeeps : up.LeavesSlots) (hget : s.mRequestList.get p.serial = some rr) (herror : p.error ≠ 0) :
    FailureReported rr s (after (processSolicited up accepts mEccList p) s) ↔ ReportsFailure p rr s := by
  have hdata : p.decodes ↔ p.dataAvail > 0 := by simp [Parcel.decodes, herror]
  cases @processSolicited_outcome up accepts mEccList p s rr hremoves hget with
  | forwarded props hthere hrefreshable hresult =>
    rw [after_congr hresult]
    refine iff_of_true ⟨hreports p { s with props } rr hget herror, fun _ => hkeeps p { s with props }⟩ ?_
    exact fun hhere havail => absurd ⟨hdata.mpr havail, hhere⟩ hthere
  | refused props hdecodes hcode hrefused hresult =>
    rw [after_of_ok hresult]
    refine iff_of_true (FailureReported.of_send rfl (Or.inr rfl) fun _ => rfl) fun hhere => ?_
    rw [hcode] at hhere
    exact absurd hhere (by decide)
  | decoded ret s' hdecodes hhere hwell hlist hdelivered hcids hresult =>
    rw [after_of_ok hresult]
    constructor
    · intro hreported _ _ _
      refine ⟨hreported.mResult_eq_none hdelivered, fun hcode response hresponse => ?_⟩
      obtain ⟨response', hresponse', hstored⟩ := hcids hcode
      obtain rfl : response' = response := Except.ok.inj (hresponse'.symm.trans hresponse)
      exact storeCid_eq_self_iff.mp (hstored.symm.trans (hreported.slots hcode))
    · intro hreply
      obtain ⟨hnone, hcid⟩ := hreply hhere (hdata.mp hdecodes) hwell
      refine FailureReported.of_send hdelivered (Or.inl hnone) fun hcode => ?_
      obtain ⟨response, hresponse, hstored⟩ := hcids hcode
      exact hstored.trans (storeCid_eq_self_iff.mpr (hcid hcode response hresponse))
  | malformed thr hdecodes hhere hwell hresult =>
    rw [after_of_error hresult]
    exact iff_of_true ⟨⟨[], (List.append_nil _).symm, by simp⟩, fun _ => rfl⟩
      fun _ _ hgood => absurd hgood hwell

end

theorem plainSuperclass_reportsErrors : plainSuperclass.ReportsErrors := by
  intro p s rr hget herror
  rw [after_of_ok (plainSuperclass_processSolicited hget), if_neg herror]
  exact (FailureReported.of_send rfl (Or.inr rfl) fun _ => rfl).exceptions

/-- A request for a data call, and an error reply to it. -/
def dataCallRequest : RILRequest := ⟨7, .RIL_REQUEST_SETUP_DATA_CALL, some 1, []⟩

def refusedReply (dataAvail : Nat) (responseSetupDataCall : Except Throwable DataCallResponse) : Parcel where
  serial := 7
  error := 1
  dataAvail
  readStringArray := .ok none
  responseSetupDataCall

theorem refused_without_data_reported : FailureReported dataCallRequest (.outstanding dataCallRequest)
    (after (processSolicited plainSuperclass fitsProperty none (refusedReply 0 (.error .RuntimeException)))
      (.outstanding dataCallRequest)) :=
  (processSolicited_failureReported_iff plainSuperclass_findsAndRemoves plainSuperclass_reportsErrors
    plainSuperclass_leavesSlots rfl (by decide)).mpr fun _ havail => absurd havail (by decide)

/-- With a payload, the refused data call is a success to its requester. -/
theorem refused_with_data_not_reported : ¬ ∀ up accepts mEccList p s rr,
    up.FindsAndRemoves → up.ReportsErrors → up.LeavesSlots → s.mRequestList.get p.serial = some rr →
      p.error ≠ 0 → FailureReported rr s (after (processSolicited up accepts mEccList p) s) := by
  intro hall
  have hreported := hall plainSuperclass fitsProperty none (refusedReply 60 (.ok ⟨1⟩))
    (.outstanding dataCallRequest) dataCallRequest plainSuperclass_findsAndRemoves
    plainSuperclass_reportsErrors plainSuperclass_leavesSlots rfl (by decide)
  obtain ⟨results, hdelivered, hexceptions⟩ := hreported.exceptions
  have hsent : results = [⟨1, ⟨.dataCall ⟨1⟩, none⟩⟩] := hdelivered.symm
  rw [hsent] at hexceptions
  exact absurd (hexceptions _ List.mem_cons_self) (by decide)

end panelli.telephony
