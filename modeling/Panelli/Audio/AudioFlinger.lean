import Panelli.Parcel

open panelli.bytes panelli.parcel

namespace panelli.audio

def NO_ERROR : Int32 := 0
def PERMISSION_DENIED : Int32 := -1
def BAD_VALUE : Int32 := -22
def DEAD_OBJECT : Int32 := -32

/-- The name of the interface, in the two byte characters of a parcel. -/
def interfaceDescriptor : List UInt8 :=
  ("android.media.IAudioFlinger".toList.flatMap fun c => le16 c.toNat) ++ [0, 0]

inductive TransactionCode where
  | GET_EM_PARAMETER
  | SET_EM_PARAMETER
  | SET_AUDIO_COMMAND
  | GET_AUDIO_COMMAND
  | SET_AUDIO_DATA
  | GET_AUDIO_DATA
deriving DecidableEq

/-- A call of one of the added methods, with the buffer it finds. -/
inductive AudioCall where
  | GetEMParameter (ptr : List UInt8)
  | SetEMParameter (ptr : List UInt8)
  | SetAudioCommand (var1 var2 : Int32)
  | GetAudioCommand (var1 : Int32)
  | SetAudioData (par1 : Int32) (ptr : List UInt8)
  | GetAudioData (par1 : Int32) (ptr : List UInt8)
deriving DecidableEq

def AudioCall.buffer : AudioCall → List UInt8
  | .GetEMParameter ptr | .SetEMParameter ptr | .SetAudioData _ ptr | .GetAudioData _ ptr => ptr
  | .SetAudioCommand _ _ | .GetAudioCommand _ => []

/-- The methods of the server: the status each call returns and what it leaves
in the buffer it was given. -/
structure AudioFlinger where
  outcome : AudioCall → Int32 × List UInt8
  length_eq : ∀ call, (outcome call).2.length = call.buffer.length

/-- What `onTransact` returns and replies, and the calls it made. -/
structure StubResult where
  status : Int32
  reply : Parcel
  calls : List AudioCall

/-- The cases of the EM parameters. The bytes of a short parcel are zero. Nothing tests the result
of `malloc`: without the memory the stub goes on with a null pointer, and there is no result. -/
def onTransactEMParameter (server : AudioFlinger) (mallocs : Bool) (method : List UInt8 → AudioCall)
    (data : Parcel) : Option StubResult :=
  let (size, data) := readInt32 data
  let size := size.toUInt32.toNat
  if 0 < size && !mallocs then none
  else
    let (params, _) := read size data
    let call := method (params.getD (List.replicate size 0))
    let (err, params) := server.outcome call
    some ⟨NO_ERROR, if err = NO_ERROR then write params [] else [], [call]⟩

/-- The cases of the audio data, which allocate a buffer unless it is empty. -/
def onTransactAudioData (server : AudioFlinger) (mallocs : Bool) (method : Int32 → List UInt8 → AudioCall)
    (data : Parcel) : StubResult :=
  let (command, data) := readInt32 data
  let (size, data) := readInt32 data
  let buf_size := size.toUInt32.toNat
  if 16384 < buf_size then ⟨BAD_VALUE, writeInt32 BAD_VALUE [], []⟩
  else if 0 < buf_size then
    if mallocs then
      let (params, _) := read buf_size data
      let call := method command (params.getD (List.replicate buf_size 0))
      let (status, params) := server.outcome call
      ⟨NO_ERROR, writeInt32 status (write params []), [call]⟩
    else ⟨BAD_VALUE, writeInt32 BAD_VALUE [], []⟩
  else
    let call := method command []
    ⟨NO_ERROR, writeInt32 (server.outcome call).1 [], [call]⟩

/-- The added cases, behind the check of the interface. -/
def onTransactMtk (server : AudioFlinger) (mallocs : Bool) (data : Parcel) : TransactionCode → Option StubResult
  | .GET_EM_PARAMETER => onTransactEMParameter server mallocs .GetEMParameter data
  | .SET_EM_PARAMETER => onTransactEMParameter server mallocs .SetEMParameter data
  | .SET_AUDIO_COMMAND =>
    let (command1, data) := readInt32 data
    let (command2, _) := readInt32 data
    let call := .SetAudioCommand command1 command2
    some ⟨NO_ERROR, writeInt32 (server.outcome call).1 [], [call]⟩
  | .GET_AUDIO_COMMAND =>
    let (command1, _) := readInt32 data
    let call := .GetAudioCommand command1
    some ⟨NO_ERROR, writeInt32 (server.outcome call).1 [], [call]⟩
  | .SET_AUDIO_DATA => some (onTransactAudioData server mallocs .SetAudioData data)
  | .GET_AUDIO_DATA => some (onTransactAudioData server mallocs .GetAudioData data)

/-- `BnAudioFlinger::onTransact`, for the added codes. -/
def onTransact (server : AudioFlinger) (mallocs : Bool) (code : TransactionCode) (data : Parcel) :
    Option StubResult :=
  let (checked, data) := checkInterface interfaceDescriptor data
  if checked then onTransactMtk server mallocs data code else some ⟨PERMISSION_DENIED, [], []⟩

/-- What the binder does with a transaction: it delivers request and reply, or
fails before or after the server ran. -/
inductive Transport where
  | delivered
  | requestLost (status : Int32) (hfailed : status ≠ NO_ERROR)
  | replyLost (status : Int32) (hfailed : status ≠ NO_ERROR)

/-- The server, the transport and whether the stub gets its memory. -/
structure Binder where
  server : AudioFlinger
  transport : Transport
  mallocs : Bool

/-- `transact`. A transaction that fails, also because the stub says so or the server dies of
a null pointer, leaves the reply empty. -/
def Binder.transact (remote : Binder) (code : TransactionCode) (data : Parcel) : StubResult :=
  let r := (onTransact remote.server remote.mallocs code data).getD ⟨DEAD_OBJECT, [], []⟩
  match remote.transport with
  | .delivered => if r.status = NO_ERROR then r else { r with reply := [] }
  | .requestLost status _ => ⟨status, [], []⟩
  | .replyLost status _ => ⟨status, [], r.calls⟩

/-- What a proxy returns and leaves in the caller's buffer, and the calls the server got. -/
structure ProxyResult where
  status : Int32
  buffer : List UInt8
  calls : List AudioCall
deriving DecidableEq

/-- `GetEMParameter` and `SetEMParameter` of `BpAudioFlinger`. -/
def proxyEMParameter (remote : Binder) (policy : Int32) (code : TransactionCode) (ptr : List UInt8) : ProxyResult :=
  let data := writeInterfaceToken policy interfaceDescriptor []
  let data := writeInt32 (lengthWord ptr.length) data
  let data := write ptr data
  let r := remote.transact code data
  let (buf, _) := read ptr.length r.reply
  ⟨NO_ERROR, buf.getD ptr, r.calls⟩

/-- `SetAudioCommand` and `GetAudioCommand`, with the arguments they write. -/
def proxyAudioCommand (remote : Binder) (policy : Int32) (code : TransactionCode) (args : List Int32) :
    ProxyResult :=
  let data := writeInterfaceToken policy interfaceDescriptor []
  let data := args.foldl (fun data var => writeInt32 var data) data
  let r := remote.transact code data
  ⟨(readInt32 r.reply).1, [], r.calls⟩

/-- `SetAudioData` and `GetAudioData`, of a pointer that may be null. -/
def proxyAudioData (remote : Binder) (policy : Int32) (code : TransactionCode) (par1 : Int32)
    (ptr : Option (List UInt8)) : ProxyResult :=
  match ptr with
  | none => ⟨BAD_VALUE, [], []⟩
  | some ptr =>
    if 16384 < ptr.length then ⟨BAD_VALUE, ptr, []⟩
    else
      let data := writeInterfaceToken policy interfaceDescriptor []
      let data := writeInt32 par1 data
      let data := writeInt32 (lengthWord ptr.length) data
      let data := if 0 < ptr.length then write ptr data else data
      let r := remote.transact code data
      let (buf, reply) :=
        if r.status = NO_ERROR then
          if 0 < ptr.length then read ptr.length r.reply else (none, r.reply)
        else (none, r.reply)
      ⟨(readInt32 reply).1, buf.getD ptr, r.calls⟩

/-- A call through the proxy. -/
def AudioCall.proxy (remote : Binder) (policy : Int32) : AudioCall → ProxyResult
  | .GetEMParameter ptr => proxyEMParameter remote policy .GET_EM_PARAMETER ptr
  | .SetEMParameter ptr => proxyEMParameter remote policy .SET_EM_PARAMETER ptr
  | .SetAudioCommand var1 var2 => proxyAudioCommand remote policy .SET_AUDIO_COMMAND [var1, var2]
  | .GetAudioCommand var1 => proxyAudioCommand remote policy .GET_AUDIO_COMMAND [var1]
  | .SetAudioData par1 ptr => proxyAudioData remote policy .SET_AUDIO_DATA par1 (some ptr)
  | .GetAudioData par1 ptr => proxyAudioData remote policy .GET_AUDIO_DATA par1 (some ptr)

def AudioCall.isEMParameter : AudioCall → Bool
  | .GetEMParameter _ | .SetEMParameter _ => true
  | _ => false

/-- A buffer has one byte at least and the size a data call may have. -/
def AudioCall.LenOk : AudioCall → Prop
  | .SetAudioCommand _ _ | .GetAudioCommand _ => True
  | call => 1 ≤ call.buffer.length ∧ call.buffer.length ≤ 16384

/-- The transaction of a call succeeds: it is delivered, and the stub gets the
memory for a buffer. -/
def Binder.Succeeds (remote : Binder) (call : AudioCall) : Prop :=
  remote.transport = .delivered ∧ (call.buffer ≠ [] → remote.mallocs = true)

/-- The server gets the call as it was made, if at all, and the caller gets the
status and the buffer of the server, or an error when there was one. -/
structure Agree (remote : Binder) (policy : Int32) (call : AudioCall) : Prop where
  received : ∀ other ∈ (call.proxy remote policy).calls, other = call
  returned : remote.Succeeds call → (remote.server.outcome call).1 = NO_ERROR →
    call.proxy remote policy = ⟨NO_ERROR, (remote.server.outcome call).2, [call]⟩
  reported : ¬ (remote.Succeeds call ∧ (remote.server.outcome call).1 = NO_ERROR) →
    (call.proxy remote policy).status ≠ NO_ERROR

section

variable {server : AudioFlinger} {remote : Binder} {policy : Int32} {mallocs : Bool} {call : AudioCall}

/-- The code a call is sent under. -/
def AudioCall.code : AudioCall → TransactionCode
  | .GetEMParameter _ => .GET_EM_PARAMETER
  | .SetEMParameter _ => .SET_EM_PARAMETER
  | .SetAudioCommand _ _ => .SET_AUDIO_COMMAND
  | .GetAudioCommand _ => .GET_AUDIO_COMMAND
  | .SetAudioData _ _ => .SET_AUDIO_DATA
  | .GetAudioData _ _ => .GET_AUDIO_DATA

/-- The arguments of a call as they are sent. -/
def AudioCall.args : AudioCall → Parcel
  | .GetEMParameter ptr | .SetEMParameter ptr => int32Bytes (lengthWord ptr.length) ++ padded ptr
  | .SetAudioCommand var1 var2 => int32Bytes var1 ++ int32Bytes var2
  | .GetAudioCommand var1 => int32Bytes var1
  | .SetAudioData par1 ptr | .GetAudioData par1 ptr =>
    int32Bytes par1 ++ (int32Bytes (lengthWord ptr.length) ++ padded ptr)

def AudioCall.request (policy : Int32) (call : AudioCall) : Parcel :=
  writeInterfaceToken policy interfaceDescriptor [] ++ call.args

/-- The reply to a call with this outcome. -/
def AudioCall.reply (outcome : Int32 × List UInt8) : AudioCall → Parcel
  | .GetEMParameter _ | .SetEMParameter _ => if outcome.1 = NO_ERROR then padded outcome.2 else []
  | .SetAudioCommand _ _ | .GetAudioCommand _ => int32Bytes outcome.1
  | .SetAudioData _ _ | .GetAudioData _ _ => padded outcome.2 ++ int32Bytes outcome.1

theorem onTransactEMParameter_args (method : List UInt8 → AudioCall) {ptr : List UInt8}
    (hpos : 1 ≤ ptr.length) (hlen : ptr.length ≤ 16384) :
    onTransactEMParameter server mallocs method (int32Bytes (lengthWord ptr.length) ++ padded ptr) =
      if mallocs then
        some ⟨NO_ERROR, if (server.outcome (method ptr)).1 = NO_ERROR then
          padded (server.outcome (method ptr)).2 else [], [method ptr]⟩
      else none := by
  simp only [onTransactEMParameter, readInt32_append, toNat_lengthWord (Nat.lt_of_le_of_lt hlen (by decide)),
    read_padded, Option.getD_some, write, List.nil_append]
  have hsome : decide (0 < ptr.length) = true := decide_eq_true hpos
  cases mallocs with
  | true => simp only [hsome, Bool.not_true, Bool.and_false, Bool.false_eq_true, if_false, if_true]
  | false => simp only [hsome, Bool.not_false, Bool.and_true, if_true, Bool.false_eq_true, if_false]

theorem onTransactAudioData_args (method : Int32 → List UInt8 → AudioCall) {par1 : Int32} {ptr : List UInt8}
    (hpos : 1 ≤ ptr.length) (hlen : ptr.length ≤ 16384) :
    onTransactAudioData server mallocs method
        (int32Bytes par1 ++ (int32Bytes (lengthWord ptr.length) ++ padded ptr)) =
      if mallocs then
        ⟨NO_ERROR, padded (server.outcome (method par1 ptr)).2 ++ int32Bytes (server.outcome (method par1 ptr)).1,
          [method par1 ptr]⟩
      else ⟨BAD_VALUE, int32Bytes BAD_VALUE, []⟩ := by
  simp only [onTransactAudioData, readInt32_append, toNat_lengthWord (Nat.lt_of_le_of_lt hlen (by decide)),
    read_padded, Option.getD_some, write, writeInt32, List.nil_append]
  rw [if_neg (by omega), if_pos (by omega)]

theorem onTransact_append (code : TransactionCode) (args : Parcel) :
    onTransact server mallocs code (writeInterfaceToken policy interfaceDescriptor [] ++ args) =
      onTransactMtk server mallocs args code := by
  simp only [onTransact, checkInterface_append (by decide : interfaceDescriptor.length < 4294967296), if_true]

/-- The stub makes the call that was sent, and replies with its outcome. -/
theorem onTransact_request (hlen : call.LenOk) (hmallocs : call.buffer ≠ [] → mallocs = true) :
    onTransact server mallocs call.code (call.request policy) =
      some ⟨NO_ERROR, call.reply (server.outcome call), [call]⟩ := by
  rw [AudioCall.request, onTransact_append]
  cases call with
  | GetEMParameter ptr =>
    exact (onTransactEMParameter_args .GetEMParameter hlen.1 hlen.2).trans
      (if_pos (hmallocs (List.ne_nil_of_length_pos hlen.1)))
  | SetEMParameter ptr =>
    exact (onTransactEMParameter_args .SetEMParameter hlen.1 hlen.2).trans
      (if_pos (hmallocs (List.ne_nil_of_length_pos hlen.1)))
  | SetAudioCommand var1 var2 =>
    simp [AudioCall.code, AudioCall.args, AudioCall.reply, onTransactMtk, writeInt32]
  | GetAudioCommand var1 =>
    simp [AudioCall.code, AudioCall.args, AudioCall.reply, onTransactMtk, writeInt32]
  | SetAudioData par1 ptr =>
    exact congrArg some ((onTransactAudioData_args .SetAudioData hlen.1 hlen.2).trans
      (if_pos (hmallocs (List.ne_nil_of_length_pos hlen.1))))
  | GetAudioData par1 ptr =>
    exact congrArg some ((onTransactAudioData_args .GetAudioData hlen.1 hlen.2).trans
      (if_pos (hmallocs (List.ne_nil_of_length_pos hlen.1))))

/-- Without the memory for a buffer the server gets no call: a data call is refused, and the
cases of the EM parameters have no result. -/
theorem onTransact_request_refused (hlen : call.LenOk) (hbuffer : call.buffer ≠ []) (hmallocs : ¬ mallocs = true) :
    onTransact server mallocs call.code (call.request policy) =
      if call.isEMParameter then none else some ⟨BAD_VALUE, int32Bytes BAD_VALUE, []⟩ := by
  rw [AudioCall.request, onTransact_append]
  cases call with
  | GetEMParameter ptr =>
    exact (onTransactEMParameter_args .GetEMParameter hlen.1 hlen.2).trans (if_neg hmallocs)
  | SetEMParameter ptr =>
    exact (onTransactEMParameter_args .SetEMParameter hlen.1 hlen.2).trans (if_neg hmallocs)
  | SetAudioData par1 ptr =>
    exact congrArg some ((onTransactAudioData_args .SetAudioData hlen.1 hlen.2).trans (if_neg hmallocs))
  | GetAudioData par1 ptr =>
    exact congrArg some ((onTransactAudioData_args .GetAudioData hlen.1 hlen.2).trans (if_neg hmallocs))
  | SetAudioCommand var1 var2 | GetAudioCommand var1 => exact absurd rfl hbuffer

/-- What the binder makes of a stub that has not got its memory. -/
theorem refused_getD (server : AudioFlinger) (policy : Int32) (hlen : call.LenOk) (hbuffer : call.buffer ≠ [])
    (hmallocs : ¬ mallocs = true) :
    ∃ status reply, status ≠ NO_ERROR ∧
      (onTransact server mallocs call.code (call.request policy)).getD ⟨DEAD_OBJECT, [], []⟩ =
        ⟨status, reply, []⟩ := by
  rw [onTransact_request_refused hlen hbuffer hmallocs]
  split
  · exact ⟨DEAD_OBJECT, [], by decide, rfl⟩
  · exact ⟨BAD_VALUE, int32Bytes BAD_VALUE, by decide, rfl⟩

theorem transact_of_succeeds (hlen : call.LenOk) (hsucceeds : remote.Succeeds call) :
    remote.transact call.code (call.request policy) =
      ⟨NO_ERROR, call.reply (remote.server.outcome call), [call]⟩ := by
  simp only [Binder.transact, hsucceeds.1, onTransact_request hlen hsucceeds.2, Option.getD_some, if_true]

/-- A transaction that fails says so, with an empty reply. -/
theorem transact_of_fails (hlen : call.LenOk) (hfails : ¬ remote.Succeeds call) :
    (remote.transact call.code (call.request policy)).status ≠ NO_ERROR ∧
      (remote.transact call.code (call.request policy)).reply = [] := by
  unfold Binder.transact
  cases htransport : remote.transport with
  | delivered =>
    have hrefused : call.buffer ≠ [] ∧ ¬ remote.mallocs = true := by
      apply Classical.not_imp.mp
      exact fun hmallocs => hfails ⟨htransport, hmallocs⟩
    obtain ⟨status, reply, hstatus, hgot⟩ : ∃ status reply, status ≠ NO_ERROR ∧
        (onTransact remote.server remote.mallocs call.code (call.request policy)).getD _ = _ :=
      refused_getD remote.server policy hlen hrefused.1 hrefused.2
    rw [hgot]
    dsimp only
    rw [if_neg hstatus]
    exact ⟨hstatus, rfl⟩
  | requestLost status hfailed => exact ⟨hfailed, rfl⟩
  | replyLost status hfailed => exact ⟨hfailed, rfl⟩

/-- What the proxy of a call makes of a transaction. -/
def AudioCall.result (r : StubResult) : AudioCall → ProxyResult
  | .GetEMParameter ptr | .SetEMParameter ptr => ⟨NO_ERROR, (read ptr.length r.reply).1.getD ptr, r.calls⟩
  | .SetAudioCommand _ _ | .GetAudioCommand _ => ⟨(readInt32 r.reply).1, [], r.calls⟩
  | .SetAudioData _ ptr | .GetAudioData _ ptr =>
    let (buf, reply) := if r.status = NO_ERROR then read ptr.length r.reply else (none, r.reply)
    ⟨(readInt32 reply).1, buf.getD ptr, r.calls⟩

theorem proxyEMParameter_eq (code : TransactionCode) (ptr : List UInt8) :
    proxyEMParameter remote policy code ptr =
      (AudioCall.GetEMParameter ptr).result
        (remote.transact code ((AudioCall.GetEMParameter ptr).request policy)) := by
  simp only [proxyEMParameter, AudioCall.result, AudioCall.request, AudioCall.args, write, writeInt32,
    List.append_assoc]

theorem proxyAudioData_eq (code : TransactionCode) (par1 : Int32) {ptr : List UInt8} (hpos : 1 ≤ ptr.length)
    (hlen : ptr.length ≤ 16384) :
    proxyAudioData remote policy code par1 (some ptr) =
      (AudioCall.SetAudioData par1 ptr).result
        (remote.transact code ((AudioCall.SetAudioData par1 ptr).request policy)) := by
  have hsome : 0 < ptr.length := hpos
  have hfits : ¬ 16384 < ptr.length := Nat.not_lt.mpr hlen
  have hrequest : write ptr (writeInt32 (lengthWord ptr.length) (writeInt32 par1
      (writeInterfaceToken policy interfaceDescriptor []))) = (AudioCall.SetAudioData par1 ptr).request policy := by
    simp only [AudioCall.request, AudioCall.args, write, writeInt32, List.append_assoc]
  rw [proxyAudioData, if_neg hfits]
  dsimp only
  rw [if_pos hsome, if_pos hsome, hrequest]
  rfl

theorem proxy_eq (hlen : call.LenOk) :
    call.proxy remote policy = call.result (remote.transact call.code (call.request policy)) := by
  cases call with
  | GetEMParameter ptr => exact proxyEMParameter_eq .GET_EM_PARAMETER ptr
  | SetEMParameter ptr => exact proxyEMParameter_eq .SET_EM_PARAMETER ptr
  | SetAudioCommand var1 var2 =>
    simp only [AudioCall.proxy, proxyAudioCommand, AudioCall.result, AudioCall.request, AudioCall.args,
      AudioCall.code, List.foldl_cons, List.foldl_nil, writeInt32, List.append_assoc]
  | GetAudioCommand var1 =>
    simp only [AudioCall.proxy, proxyAudioCommand, AudioCall.result, AudioCall.request, AudioCall.args,
      AudioCall.code, List.foldl_cons, List.foldl_nil, writeInt32]
  | SetAudioData par1 ptr => exact proxyAudioData_eq .SET_AUDIO_DATA par1 hlen.1 hlen.2
  | GetAudioData par1 ptr => exact proxyAudioData_eq .GET_AUDIO_DATA par1 hlen.1 hlen.2

/-- A transaction that succeeds hands the outcome of the server to the caller. An
EM call needs a status of no error for that, which its reply does not carry. -/
theorem proxy_of_succeeds (hlen : call.LenOk) (hsucceeds : remote.Succeeds call)
    (hstatus : call.isEMParameter = true → (remote.server.outcome call).1 = NO_ERROR) :
    call.proxy remote policy = ⟨(remote.server.outcome call).1, (remote.server.outcome call).2, [call]⟩ := by
  have hbuffer := remote.server.length_eq call
  rw [proxy_eq hlen, transact_of_succeeds hlen hsucceeds]
  cases call with
  | GetEMParameter ptr | SetEMParameter ptr =>
    rw [AudioCall.buffer] at hbuffer
    simp only [AudioCall.result, AudioCall.reply, hstatus rfl, if_true, ← hbuffer, read_padded, Option.getD_some]
  | SetAudioCommand var1 var2 | GetAudioCommand var1 =>
    simp only [AudioCall.result, AudioCall.reply, readInt32_int32Bytes, List.length_eq_zero_iff.mp hbuffer]
  | SetAudioData par1 ptr | GetAudioData par1 ptr =>
    rw [AudioCall.buffer] at hbuffer
    simp only [AudioCall.result, AudioCall.reply, if_true, ← hbuffer, read_append, Option.getD_some,
      readInt32_int32Bytes]

/-- When the transaction fails, every proxy reports success. -/
theorem proxy_of_fails (hlen : call.LenOk) (hfails : ¬ remote.Succeeds call) :
    (call.proxy remote policy).status = NO_ERROR := by
  rw [proxy_eq hlen]
  obtain ⟨hstatus, hreply⟩ : (remote.transact call.code (call.request policy)).status ≠ NO_ERROR ∧ _ :=
    transact_of_fails hlen hfails
  cases call with
  | GetEMParameter ptr | SetEMParameter ptr => rfl
  | SetAudioCommand var1 var2 | GetAudioCommand var1 =>
    rw [AudioCall.result, hreply]
    rfl
  | SetAudioData par1 ptr | GetAudioData par1 ptr =>
    rw [AudioCall.result, if_neg hstatus, hreply]
    rfl

theorem proxy_EM_status (hlen : call.LenOk) (hEM : call.isEMParameter = true) :
    (call.proxy remote policy).status = NO_ERROR := by
  rw [proxy_eq hlen]
  cases call with
  | GetEMParameter ptr | SetEMParameter ptr => rfl
  | _ => cases hEM

end

/-- A server that refuses every call and clears the buffers. -/
def refusingServer : AudioFlinger where
  outcome call := (PERMISSION_DENIED, List.replicate call.buffer.length 0)
  length_eq _ := List.length_replicate

def refusing : Binder := ⟨refusingServer, .delivered, true⟩

end panelli.audio
