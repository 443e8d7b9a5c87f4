import Panelli.Netlink.Message

open panelli.netlink

namespace panelli.wifi_hal

/-- A message for which libnl calls a handler: one with data, which may parse and is
then handled by the command, an acknowledgement, the end of a multipart message, or
an error, whose code is negative. -/
inductive NlMessage where
  | valid (parse : Int) (handleResponse : NlAction)
  | ack (seq : UInt32)
  | finish (seq : UInt32)
  | error (seq : UInt32) (code : { code : Int // code < 0 })
deriving DecidableEq

/-- What one `nl_recvmsgs` receives, and what it returns. -/
structure Received where
  messages : List NlMessage
  res : Int

/-- What a request meets: how its message is assembled, whether there is memory for
the callbacks, how it is sent and with which sequence number, and what is received
from then on. -/
structure Channel where
  create : Int
  nl_cb_alloc : Bool
  nl_send_auto_complete : Int
  seq : UInt32
  received : List Received

/-- The `err` that the handlers write, and the messages they were called with. -/
structure Waiting where
  err : Int
  processed : List NlMessage

/-- How a request ends. It has no result when it still waits for a status. -/
structure Requested where
  err : Option Int
  sent : Bool
  processed : List NlMessage

def response_handler (parse : Int) (handleResponse : NlAction) : NlAction :=
  if parse < 0 then .NL_SKIP else handleResponse

/-- What the handler of a message leaves in `err`, and what it returns. The sequence
numbers are accepted by `no_seq_check`. -/
def NlMessage.handle (err : Int) : NlMessage → Int × NlAction
  | valid parse handleResponse => (err, response_handler parse handleResponse)
  | ack _ => (0, .NL_STOP)
  | finish _ => (0, .NL_SKIP)
  | error _ code => (code.val, .NL_SKIP)

/-- `nl_recvmsgs` calls a handler for each message, up to one that stops it. -/
def nl_recvmsgs : List NlMessage → Waiting → Waiting
  | [], w => w
  | message :: rest, w =>
    let handled := message.handle w.err
    let w' : Waiting := ⟨handled.1, w.processed ++ [message]⟩
    if handled.2 = .NL_STOP then w' else nl_recvmsgs rest w'

/-- The loop while `err` is positive. What `nl_recvmsgs` returns is only logged. -/
def waitForReply : List Received → Waiting → Waiting
  | [], w => w
  | batch :: rest, w => if 0 < w.err then waitForReply rest (nl_recvmsgs batch.messages w) else w

/-- `WifiCommand::requestResponse` with a request. -/
def requestResponseTo (c : Channel) : Requested :=
  if c.nl_cb_alloc then
    if c.nl_send_auto_complete < 0 then ⟨some c.nl_send_auto_complete, false, []⟩
    else
      let w := waitForReply c.received ⟨1, []⟩
      ⟨if 0 < w.err then none else some w.err, true, w.processed⟩
  else ⟨some 0, false, []⟩

/-- `WifiCommand::requestResponse` without one, which assembles its own. -/
def requestResponse (c : Channel) : Requested :=
  if c.create < 0 then ⟨some c.create, false, []⟩ else requestResponseTo c

/-- What a message says of how a request ended. -/
def NlMessage.status : NlMessage → Option Int
  | valid _ _ => none
  | ack _ => some 0
  | finish _ => some 0
  | error _ code => some code.val

/-- A message acknowledges the request with a sequence number. -/
def NlMessage.Acknowledges (seq : UInt32) (message : NlMessage) : Prop := message = ack seq ∨ message = finish seq

/-- The last of what messages say. -/
def lastStatus (messages : List NlMessage) : Option Int := (messages.filterMap NlMessage.status).getLast?

/-- What a request returns is true: zero means that it was sent and acknowledged, and
it is negative when sending fails or the last status is an error. -/
structure Truthful (c : Channel) (r : Requested) : Prop where
  zero : r.err = some 0 → r.sent ∧ ∃ message ∈ r.processed, message.Acknowledges c.seq
  failed : c.nl_cb_alloc → c.nl_send_auto_complete < 0 → ∃ err, r.err = some err ∧ err < 0
  error : ∀ status ∈ lastStatus r.processed, status < 0 → ∃ err, r.err = some err ∧ err < 0

/-- A message after which `nl_recvmsgs` stops. -/
def NlMessage.stops : NlMessage → Bool
  | valid parse handleResponse => response_handler parse handleResponse = .NL_STOP
  | ack _ => true
  | finish _ => false
  | error _ _ => false

/-- The messages of a batch up to the first that stops. -/
def upToStop : List NlMessage → List NlMessage
  | [] => []
  | message :: rest => if message.stops then [message] else message :: upToStop rest

/-- The batch that answers a request: the first with a status. -/
def answer (received : List Received) : Option (List NlMessage) :=
  (received.map fun batch => upToStop batch.messages).find? fun messages => (lastStatus messages).isSome

/-- There is memory for the callbacks of an assembled request, and if it is sent and
its answer ends with an acknowledgement, one in there is for the request. -/
structure Answerable (c : Channel) : Prop where
  allocated : 0 ≤ c.create → c.nl_cb_alloc
  matched : 0 ≤ c.create → 0 ≤ c.nl_send_auto_complete → ∀ messages ∈ answer c.received,
    lastStatus messages = some 0 → ∃ message ∈ messages, message.Acknowledges c.seq

section

variable {messages before : List NlMessage} {message : NlMessage} {w : Waiting} {seq : UInt32} {c : Channel}
  {received : List Received}

theorem NlMessage.status_le {status : Int} (hstatus : message.status = some status) : status ≤ 0 := by
  cases message with
  | valid parse handleResponse => cases hstatus
  | ack seq =>
    obtain rfl := Option.some.inj hstatus
    exact Int.le_refl 0
  | finish seq =>
    obtain rfl := Option.some.inj hstatus
    exact Int.le_refl 0
  | error seq code =>
    obtain rfl := Option.some.inj hstatus
    exact Int.le_of_lt code.property

theorem lastStatus_le {status : Int} (hlast : lastStatus messages = some status) : status ≤ 0 := by
  have hmem := List.mem_of_getLast? hlast
  obtain ⟨message, _, hstatus⟩ := List.mem_filterMap.mp hmem
  exact NlMessage.status_le hstatus

/-- A message in front counts when no later one has a status. -/
theorem lastStatus_cons (message : NlMessage) (messages : List NlMessage) :
    lastStatus (message :: messages) = (lastStatus messages).or message.status := by
  cases hstatus : message.status with
  | none =>
    rw [lastStatus, List.filterMap_cons_none hstatus, Option.or_none]
    rfl
  | some status =>
    rw [lastStatus, List.filterMap_cons_some hstatus, List.getLast?_cons, lastStatus]
    cases (messages.filterMap NlMessage.status).getLast? with
    | none => rfl
    | some last => rfl

theorem lastStatus_append (messages : List NlMessage) (hbefore : ∀ message ∈ before, message.status = none) :
    lastStatus (before ++ messages) = lastStatus messages := by
  have hnone : before.filterMap NlMessage.status = [] := List.filterMap_eq_nil_iff.mpr hbefore
  rw [lastStatus, List.filterMap_append, hnone, List.nil_append]
  rfl

/-- A handler leaves the status of its message. -/
theorem NlMessage.handle_eq (message : NlMessage) (err : Int) :
    (message.handle err).1 = message.status.getD err ∧
      ((message.handle err).2 = .NL_STOP ↔ message.stops = true) := by
  cases message with
  | valid parse handleResponse => simp [NlMessage.handle, NlMessage.status, NlMessage.stops]
  | ack seq => simp [NlMessage.handle, NlMessage.status, NlMessage.stops]
  | finish seq => simp [NlMessage.handle, NlMessage.status, NlMessage.stops]
  | error seq code => simp [NlMessage.handle, NlMessage.status, NlMessage.stops]

/-- After a batch `err` is the last status up to where it stopped. -/
theorem nl_recvmsgs_eq (messages : List NlMessage) (w : Waiting) :
    nl_recvmsgs messages w =
      ⟨(lastStatus (upToStop messages)).getD w.err, w.processed ++ upToStop messages⟩ := by
  induction messages generalizing w with
  | nil =>
    simp only [nl_recvmsgs, upToStop, List.append_nil]
    rfl
  | cons message rest ih =>
    obtain ⟨herr, hstop⟩ := message.handle_eq w.err
    rw [nl_recvmsgs, upToStop]
    by_cases hstops : message.stops = true
    · rw [if_pos (hstop.mpr hstops), if_pos hstops, herr, lastStatus_cons]
      rfl
    · rw [if_neg fun h => hstops (hstop.mp h), if_neg hstops, ih, lastStatus_cons, herr]
      simp only [List.append_assoc, List.singleton_append]
      cases lastStatus (upToStop rest) with
      | none => rfl
      | some status => rfl

theorem waitForReply_of_le (received : List Received) (herr : w.err ≤ 0) : waitForReply received w = w := by
  cases received with
  | nil => rfl
  | cons batch rest => exact if_neg (Int.not_lt.mpr herr)

/-- A wait goes on over batches without a status, and ends with the answer. -/
theorem waitForReply_eq (received : List Received) (hpending : 0 < w.err) :
    ∃ before, (∀ message ∈ before, message.status = none) ∧
      waitForReply received w = ⟨((answer received).bind lastStatus).getD w.err,
        w.processed ++ before ++ (answer received).getD []⟩ := by
  induction received generalizing w with
  | nil =>
    refine ⟨[], by simp, ?_⟩
    rw [waitForReply, List.append_nil]
    simp [answer]
  | cons batch rest ih =>
    rw [waitForReply, if_pos hpending, nl_recvmsgs_eq, answer, List.map_cons]
    cases hlast : lastStatus (upToStop batch.messages) with
    | none =>
      obtain ⟨before, hbefore, hwait⟩ := ih (w := ⟨w.err, w.processed ++ upToStop batch.messages⟩) hpending
      refine ⟨upToStop batch.messages ++ before, ?_, ?_⟩
      · intro message hmessage
        obtain hmessage | hmessage := List.mem_append.mp hmessage
        · rw [lastStatus, List.getLast?_eq_none_iff, List.filterMap_eq_nil_iff] at hlast
          exact hlast message hmessage
        · exact hbefore message hmessage
      · rw [Option.getD_none, hwait, List.find?_cons_of_neg (by simp [hlast])]
        simp only [List.append_assoc]
        rfl
    | some status =>
      refine ⟨[], by simp, ?_⟩
      rw [waitForReply_of_le _ (by exact lastStatus_le hlast), List.find?_cons_of_pos (by simp [hlast])]
      simp only [Option.bind_some, hlast, Option.getD_some, List.append_nil]

/-- An acknowledgement is not in front of an answer. -/
theorem exists_acknowledges_append (hbefore : ∀ message ∈ before, message.status = none) :
    (∃ message ∈ before ++ messages, message.Acknowledges seq) ↔
      ∃ message ∈ messages, message.Acknowledges seq := by
  constructor
  · rintro ⟨message, hmessage, hack⟩
    obtain hmessage | hmessage := List.mem_append.mp hmessage
    · have hnone := hbefore message hmessage
      obtain rfl | rfl := hack <;> cases hnone
    · exact ⟨message, hmessage, hack⟩
  · rintro ⟨message, hmessage, hack⟩
    exact ⟨message, List.mem_append_right _ hmessage, hack⟩

/-- A request that waits in vain has no result, and no status either. -/
theorem truthful_of_unanswered (hsend : 0 ≤ c.nl_send_auto_complete)
    (hbefore : ∀ message ∈ before, message.status = none) : Truthful c ⟨none, true, before⟩ := by
  have hlast := lastStatus_append [] hbefore
  rw [List.append_nil] at hlast
  refine ⟨?_, ?_, ?_⟩
  · intro hzero
    cases hzero
  · intro _ hfailed
    omega
  · intro status hstatus
    rw [hlast] at hstatus
    cases hstatus

/-- An answered one returns the last status, which is true just if an acknowledgement
is for the request. -/
theorem truthful_answered_iff {status : Int} (hsend : 0 ≤ c.nl_send_auto_complete)
    (hbefore : ∀ message ∈ before, message.status = none) (hstatus : lastStatus messages = some status) :
    Truthful c ⟨some status, true, before ++ messages⟩ ↔
      (status = 0 → ∃ message ∈ messages, message.Acknowledges c.seq) := by
  constructor
  · intro htruthful hzero
    obtain ⟨_, hack⟩ := htruthful.zero (congrArg some hzero)
    exact (exists_acknowledges_append hbefore).mp hack
  · intro hack
    refine ⟨?_, ?_, ?_⟩
    · intro hzero
      exact ⟨rfl, (exists_acknowledges_append hbefore).mpr (hack (Option.some.inj hzero))⟩
    · intro _ hfailed
      omega
    · intro last hlast hnegative
      dsimp only at hlast
      rw [lastStatus_append messages hbefore, hstatus] at hlast
      obtain rfl := Option.some.inj hlast
      exact ⟨status, rfl, hnegative⟩

theorem lastStatus_of_answer (hanswer : answer received = some messages) :
    ∃ status, lastStatus messages = some status := by
  have hsome := List.find?_some hanswer
  exact Option.isSome_iff_exists.mp hsome

/-- A request that was sent is truthful just if its answer acknowledges it. -/
theorem sent_truthful_iff (hcb : c.nl_cb_alloc = true) (hsend : 0 ≤ c.nl_send_auto_complete) :
    Truthful c (requestResponseTo c) ↔ ∀ messages ∈ answer c.received,
      lastStatus messages = some 0 → ∃ message ∈ messages, message.Acknowledges c.seq := by
  obtain ⟨before, hbefore, hwait⟩ := waitForReply_eq (w := ⟨1, []⟩) c.received Int.one_pos
  rw [requestResponseTo, if_pos hcb, if_neg (Int.not_lt.mpr hsend), hwait]
  cases hanswer : answer c.received with
  | none =>
    simp only [Option.bind_none, Option.getD_none, Int.one_pos, if_true, List.nil_append, List.append_nil]
    constructor
    · intro _ messages hmessages
      cases hmessages
    · exact fun _ => truthful_of_unanswered hsend hbefore
  | some messages =>
    obtain ⟨status, hstatus⟩ := lastStatus_of_answer hanswer
    have hle := lastStatus_le hstatus
    simp only [Option.bind_some, hstatus, Option.getD_some, if_neg (Int.not_lt.mpr hle), List.nil_append]
    rw [truthful_answered_iff hsend hbefore hstatus]
    constructor
    · intro hack messages' hmessages' hzero
      obtain rfl := Option.some.inj hmessages'
      exact hack (Option.some.inj (hstatus.symm.trans hzero))
    · intro hmatched hzero
      exact hmatched messages rfl (hstatus.trans (congrArg some hzero))

end

/-- What a request returns is true just if it is answerable: without memory for the
callbacks zero is returned for a request that was not sent, and an acknowledgement
counts whatever its sequence number is. -/
theorem requestResponse_truthful_iff (c : Channel) : Truthful c (requestResponse c) ↔ Answerable c := by
  by_cases hcreate : c.create < 0
  · rw [requestResponse, if_pos hcreate]
    constructor
    · intro _
      exact ⟨fun h => absurd hcreate (Int.not_lt.mpr h), fun h => absurd hcreate (Int.not_lt.mpr h)⟩
    · intro _
      refine ⟨?_, fun _ _ => ⟨_, rfl, hcreate⟩, ?_⟩
      · intro hzero
        have hzero' := Option.some.inj hzero
        omega
      · intro status hstatus
        cases hstatus
  · have hcreated : 0 ≤ c.create := Int.not_lt.mp hcreate
    rw [requestResponse, if_neg hcreate]
    by_cases hcb : c.nl_cb_alloc = true
    · by_cases hsend : c.nl_send_auto_complete < 0
      · rw [requestResponseTo, if_pos hcb, if_pos hsend]
        constructor
        · intro _
          exact ⟨fun _ => hcb, fun _ h => absurd hsend (Int.not_lt.mpr h)⟩
        · intro _
          refine ⟨?_, fun _ _ => ⟨_, rfl, hsend⟩, ?_⟩
          · intro hzero
            have hzero' := Option.some.inj hzero
            omega
          · intro status hstatus
            cases hstatus
      · have hsent : 0 ≤ c.nl_send_auto_complete := Int.not_lt.mp hsend
        rw [sent_truthful_iff hcb hsent]
        constructor
        · exact fun hmatched => ⟨fun _ => hcb, fun _ _ => hmatched⟩
        · exact fun hanswerable => hanswerable.matched hcreated hsent
    · rw [requestResponseTo, if_neg hcb]
      constructor
      · intro htruthful
        obtain ⟨hsent, _⟩ := htruthful.zero rfl
        cases hsent
      · exact fun hanswerable => absurd (hanswerable.allocated hcreated) hcb

/-- Without memory for the callbacks the request is not sent, and zero is returned. -/
theorem requestResponse_unsent :
    ¬ Truthful ⟨0, false, 20, 1, []⟩ (requestResponse ⟨0, false, 20, 1, []⟩) := by
  intro htruthful
  obtain ⟨hsent, _⟩ := htruthful.zero rfl
  cases hsent

end panelli.wifi_hal
