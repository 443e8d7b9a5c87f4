import Panelli.Telephony.Solicited

open panelli.java

namespace panelli.telephony

/-- A request is answered between two states: it is not in the list any more, and
one result was sent, to its requester, if it has one. -/
structure Answered (rr : RILRequest) (s s' : RilState) : Prop where
  removed : s'.mRequestList.get rr.mSerial = none
  once : ∃ results, s'.delivered = s.delivered ++ results ∧ results.map Delivery.target = rr.mResult.toList

/-- The superclass answers every reply that is forwarded to it. -/
def Superclass.AnswersOnce (up : Superclass) : Prop :=
  ∀ p s rr, s.mRequestList.get p.serial = some rr → Answered rr s (after (up.processSolicited p) s)

section

variable {up : Superclass} {accepts : JString → Bool} {mEccList : Option (List EccEntry)} {p : Parcel}
  {s s' : RilState} {rr : RILRequest}

/-- Sending the result of a request that was taken out answers it. -/
theorem Answered.of_send {asyncResult : AsyncResult} (hremoved : s'.mRequestList.get rr.mSerial = none)
    (hdelivered : s'.delivered = s.delivered) : Answered rr s (s'.send rr asyncResult) := by
  refine ⟨hremoved, rr.mResult.toList.map (Delivery.mk · asyncResult), ?_, ?_⟩
  · rw [RilState.send, hdelivered]
  · rw [List.map_map]
    exact List.map_id _

/-- A request that is only taken out is answered if it needs no answer. -/
theorem answered_removeRequest_iff : Answered rr s (s.removeRequest rr.mSerial) ↔ rr.mResult = none := by
  constructor
  · rintro ⟨_, results, hdelivered, htargets⟩
    have hnone : results = [] := List.self_eq_append_right.mp hdelivered
    rw [hnone] at htargets
    exact Option.toList_eq_nil_iff.mp htargets.symm
  · intro hnone
    exact ⟨RequestList.remove_get_self _ _, [], (List.append_nil _).symm, by rw [hnone]; rfl⟩

/-- When a reply is answered: a refresh goes through, and a payload decoded here is
well formed unless nobody waits for it. -/
def AnswersReply (accepts : JString → Bool) (mEccList : Option (List EccEntry)) (p : Parcel) (rr : RILRequest)
    (s : RilState) : Prop :=
  p.decodes → (rr.mRequest = .RIL_REQUEST_GET_SIM_STATUS → Refreshable accepts mEccList s) ∧
    (rr.mRequest.DecodedHere → p.WellFormed rr.mRequest ∨ rr.mResult = none)

/-- Handling the reply to an outstanding request answers it once, exactly when its
refresh goes through and its payload, if decoded here, can be decoded. -/
theorem processSolicited_answered_iff (hremoves : up.FindsAndRemoves) (hanswers : up.AnswersOnce)
    (hget : s.mRequestList.get p.serial = some rr) :
    Answered rr s (after (processSolicited up accepts mEccList p) s) ↔
      AnswersReply accepts mEccList p rr s := by
  have hserial : rr.mSerial = p.serial := s.mRequestList.mSerial_of_get _ _ hget
  cases @processSolicited_outcome up accepts mEccList p s rr hremoves hget with
  | forwarded props hthere hrefreshable hresult =>
    have hsuper := hanswers p { s with props } rr hget
    rw [after_congr hresult]
    exact iff_of_true ⟨hsuper.removed, hsuper.once⟩
      fun hdecodes => ⟨hrefreshable hdecodes, fun hhere => absurd ⟨hdecodes, hhere⟩ hthere⟩
  | refused props hdecodes hcode hrefused hresult =>
    rw [after_of_ok hresult]
    refine iff_of_false (fun hanswered => ?_) fun hreply => hrefused ((hreply hdecodes).1 hcode)
    have hkept : s.mRequestList.get rr.mSerial = none := hanswered.removed
    rw [hserial, hget] at hkept
    cases hkept
  | decoded ret s' hdecodes hhere hwell hlist hdelivered hcids hresult =>
    rw [after_of_ok hresult]
    have hremoved : s'.mRequestList.get rr.mSerial = none := by
      rw [hlist, hserial, RequestList.remove_get_self]
    refine iff_of_true (Answered.of_send hremoved hdelivered) fun _ => ⟨fun hcode => ?_, fun _ => Or.inl hwell⟩
    rw [hcode] at hhere
    exact absurd hhere (by decide)
  | malformed thr hdecodes hhere hwell hresult =>
    rw [after_of_error hresult, ← hserial, answered_removeRequest_iff]
    refine ⟨fun hnone _ => ⟨fun hcode => ?_, fun _ => Or.inr hnone⟩, fun hreply => ?_⟩
    · rw [hcode] at hhere
      exact absurd hhere (by decide)
    · exact ((hreply hdecodes).2 hhere).resolve_left hwell

end

theorem plainSuperclass_answersOnce : plainSuperclass.AnswersOnce := by
  intro p s rr hget
  rw [after_of_ok (plainSuperclass_processSolicited hget), ← s.mRequestList.mSerial_of_get _ _ hget]
  exact Answered.of_send (RequestList.remove_get_self _ _) rfl

/-- A request for the data registration state, and a reply to it. -/
def registrationRequest : RILRequest := ⟨7, .RIL_REQUEST_DATA_REGISTRATION_STATE, some 1, []⟩

def registrationReply (technology : JString) : Parcel where
  serial := 7
  error := 0
  dataAvail := 40
  readStringArray := .ok (some [some ['1'], none, none, some technology])
  responseSetupDataCall := .error .RuntimeException

theorem extended_technology_answered : Answered registrationRequest (.outstanding registrationRequest)
    (after (processSolicited plainSuperclass fitsProperty none
      (registrationReply ['1', '3', '0'])) (.outstanding registrationRequest)) := by
  have hwell : (registrationReply ['1', '3', '0']).WellFormed .RIL_REQUEST_DATA_REGISTRATION_STATE := by
    refine ⟨_, rfl, fun technology htechnology => ?_⟩
    obtain rfl : ['1', '3', '0'] = technology := by simpa using htechnology
    exact ⟨130, by decide⟩
  exact (processSolicited_answered_iff plainSuperclass_findsAndRemoves plainSuperclass_answersOnce rfl).mpr
    fun _ => ⟨fun hcode => (nomatch hcode), fun _ => Or.inl hwell⟩

/-- A technology that is no number ends in an exception nobody is told of. -/
theorem textual_technology_not_answered : ¬ ∀ up accepts mEccList p s rr,
    up.FindsAndRemoves → up.AnswersOnce → s.mRequestList.get p.serial = some rr →
      Answered rr s (after (processSolicited up accepts mEccList p) s) := by
  intro hall
  have hanswered := hall plainSuperclass fitsProperty none (registrationReply ['L', 'T', 'E'])
    (.outstanding registrationRequest) registrationRequest plainSuperclass_findsAndRemoves
    plainSuperclass_answersOnce rfl
  obtain ⟨results, hdelivered, htargets⟩ := hanswered.once
  have hnothing : [] ++ results = [] := hdelivered.symm
  rw [List.nil_append] at hnothing
  rw [hnothing] at htargets
  cases htargets

end panelli.telephony
