import Panelli.Audio.AudioFlinger

open panelli.bytes panelli.parcel

namespace panelli.audio

def INVALID_OPERATION : Int32 := -38
def SET_LOAD_VOLUME_SETTING : Int32 := 0x50
def SET_AUDIO_VER1_DATA : Int32 := 0x101

/-- `audio_hw_device_mtk_t`: which of its functions are set, and what they do to the hardware,
return and leave in the buffer. -/
structure MtkDevice (σ : Type) where
  has : TransactionCode → Bool
  run : AudioCall → σ → σ × Int32 × List UInt8
  length_eq : ∀ call s, (run call s).2.2.length = call.buffer.length

/-- `mPrimaryHardwareDev`, which may be null or have no device. -/
abbrev PrimaryHardware (σ : Type) : Type := Option (Option (MtkDevice σ))

/-- The hardware after a method, what the method returns and what it leaves in the buffer. -/
structure Served (σ : Type) where
  device : σ
  status : Int32
  buffer : List UInt8

variable {σ : Type}

/-- The body of the added methods: what the function of the device returns is looked at
by one of them. -/
def withDevice (hw : PrimaryHardware σ) (returns : Int32 → Int32) (call : AudioCall) (s : σ) : Served σ :=
  match hw with
  | none => ⟨s, INVALID_OPERATION, call.buffer⟩
  | some none => ⟨s, INVALID_OPERATION, call.buffer⟩
  | some (some dev) =>
    if dev.has call.code then
      let (s, value, buffer) := dev.run call s
      ⟨s, returns value, buffer⟩
    else ⟨s, INVALID_OPERATION, call.buffer⟩

def AudioFlinger.SetEMParameter (hw : PrimaryHardware σ) (ptr : List UInt8) : σ → Served σ :=
  withDevice hw (fun _ => NO_ERROR) (.SetEMParameter ptr)

def AudioFlinger.GetEMParameter (hw : PrimaryHardware σ) (ptr : List UInt8) : σ → Served σ :=
  withDevice hw (fun _ => NO_ERROR) (.GetEMParameter ptr)

def AudioFlinger.SetAudioData (hw : PrimaryHardware σ) (par1 : Int32) (ptr : List UInt8) : σ → Served σ :=
  withDevice hw (fun _ => NO_ERROR) (.SetAudioData par1 ptr)

def AudioFlinger.GetAudioData (hw : PrimaryHardware σ) (par1 : Int32) (ptr : List UInt8) : σ → Served σ :=
  withDevice hw (fun _ => NO_ERROR) (.GetAudioData par1 ptr)

def AudioFlinger.SetAudioCommand (hw : PrimaryHardware σ) (parameters1 parameters2 : Int32) : σ → Served σ :=
  withDevice hw (fun _ => NO_ERROR) (.SetAudioCommand parameters1 parameters2)

def AudioFlinger.GetAudioCommand (hw : PrimaryHardware σ) (parameters1 : Int32) : σ → Served σ :=
  withDevice hw id (.GetAudioCommand parameters1)

def AudioFlinger.serve (hw : PrimaryHardware σ) : AudioCall → σ → Served σ
  | .GetEMParameter ptr => AudioFlinger.GetEMParameter hw ptr
  | .SetEMParameter ptr => AudioFlinger.SetEMParameter hw ptr
  | .SetAudioCommand var1 var2 => AudioFlinger.SetAudioCommand hw var1 var2
  | .GetAudioCommand var1 => AudioFlinger.GetAudioCommand hw var1
  | .SetAudioData par1 ptr => AudioFlinger.SetAudioData hw par1 ptr
  | .GetAudioData par1 ptr => AudioFlinger.GetAudioData hw par1 ptr

/-- What a method makes of the value its function returns. -/
def AudioCall.returns : AudioCall → Int32 → Int32
  | .GetAudioCommand _ => id
  | _ => fun _ => NO_ERROR

theorem serve_eq (hw : PrimaryHardware σ) (call : AudioCall) (s : σ) :
    AudioFlinger.serve hw call s = withDevice hw call.returns call s := by
  cases call with
  | _ => rfl

theorem serve_buffer_length (hw : PrimaryHardware σ) (call : AudioCall) (s : σ) :
    (AudioFlinger.serve hw call s).buffer.length = call.buffer.length := by
  rw [serve_eq]
  unfold withDevice
  split
  · rfl
  · rfl
  · split
    · exact MtkDevice.length_eq _ call s
    · rfl

/-- The server while the hardware is in this state. -/
def AudioFlinger.inState (hw : PrimaryHardware σ) (s : σ) : AudioFlinger where
  outcome call := ((AudioFlinger.serve hw call s).status, (AudioFlinger.serve hw call s).buffer)
  length_eq call := serve_buffer_length hw call s

/-- A proxy of the server, with what becomes of its transaction. -/
structure Link where
  policy : Int32
  transport : Transport
  mallocs : Bool

/-- A call through the proxy. The hardware is changed by the calls that the server has got. -/
def Link.call (link : Link) (hw : PrimaryHardware σ) (call : AudioCall) (s : σ) : Served σ :=
  let r := call.proxy ⟨AudioFlinger.inState hw s, link.transport, link.mallocs⟩ link.policy
  ⟨r.calls.foldl (fun s call => (AudioFlinger.serve hw call s).device) s, r.status, r.buffer⟩

/-- What a Java call meets: the hardware, the proxy that `get_audio_flinger` gives, if any,
whether there is a policy service, whether `GetByteArrayElements` gives the elements and whether
these are a copy, and what is on the stack. -/
structure Environment (σ : Type) where
  hw : PrimaryHardware σ
  flinger : Option Link
  policyService : Bool
  elements : Bool
  copies : Bool
  stack : Nat → List UInt8
  stack_length : ∀ len, (stack len).length = len

/-- What a method of `AudioSystem` leaves, and whether it has the policy manager load the volumes. -/
structure SystemResult (σ : Type) extends Served σ where
  loadVolume : Bool

/-- The body of the methods: without the server there is no permission, and `loads` tells
whether the volumes are loaded after the call, whatever its status is. -/
def AudioSystem.call (env : Environment σ) (loads : Bool) (call : AudioCall) (s : σ) : SystemResult σ :=
  match env.flinger with
  | none => ⟨⟨s, PERMISSION_DENIED, call.buffer⟩, false⟩
  | some link => ⟨link.call env.hw call s, loads && env.policyService⟩

def AudioSystem.GetEMParameter (env : Environment σ) (ptr : List UInt8) : σ → SystemResult σ :=
  AudioSystem.call env false (.GetEMParameter ptr)

def AudioSystem.SetEMParameter (env : Environment σ) (ptr : List UInt8) : σ → SystemResult σ :=
  AudioSystem.call env false (.SetEMParameter ptr)

def AudioSystem.SetAudioCommand (env : Environment σ) (par1 par2 : Int32) : σ → SystemResult σ :=
  AudioSystem.call env (par1 == SET_LOAD_VOLUME_SETTING) (.SetAudioCommand par1 par2)

/-- What the server returns goes to `*par2`, which is left as it was without the server. -/
def AudioSystem.GetAudioCommand (env : Environment σ) (par1 par2 : Int32) (s : σ) : SystemResult σ × Int32 :=
  let r := AudioSystem.call env false (.GetAudioCommand par1) s
  if env.flinger.isSome then ({ r with status := NO_ERROR }, r.status) else (r, par2)

def AudioSystem.SetAudioData (env : Environment σ) (par1 : Int32) (ptr : List UInt8) : σ → SystemResult σ :=
  AudioSystem.call env (par1 == SET_AUDIO_VER1_DATA) (.SetAudioData par1 ptr)

def AudioSystem.GetAudioData (env : Environment σ) (par1 : Int32) (ptr : List UInt8) : σ → SystemResult σ :=
  AudioSystem.call env false (.GetAudioData par1 ptr)

/-- What a native method returns, what its array holds after it, and whether it threw. -/
structure JniResult (σ : Type) where
  device : σ
  loadVolume : Bool
  value : Int32
  array : List UInt8
  thrown : Bool

/-- `SetByteArrayRegion` at the start of an array: it throws unless all bytes have a place. -/
def setByteArrayRegion (array buffer : List UInt8) : List UInt8 × Bool :=
  if buffer.length ≤ array.length then (buffer ++ array.drop buffer.length, false) else (array, true)

/-- The body of the getters, with what their buffer holds at first. A buffer of no bytes cannot
be made, and there is no result then. -/
def getBytes (env : Environment σ) (get : List UInt8 → σ → SystemResult σ) (buffer : List UInt8)
    (array : Option (List UInt8)) (s : σ) : Option (JniResult σ) :=
  if buffer.length = 0 then none
  else
    match array with
    | none => some ⟨s, false, -2, [], false⟩
    | some array =>
      if env.elements then
        let r := get buffer s
        let (array, thrown) := setByteArrayRegion array r.buffer
        some ⟨r.device, r.loadVolume, if r.status ≠ NO_ERROR then -1 else 0, array, thrown⟩
      else some ⟨s, false, -2, array, false⟩

/-- The body of the setters. Elements that are a copy are dropped, and others are the array's own:
what the call puts into its buffer is in the array then. When more of them are read than the array
has, there is no result; a length that is refused is refused before. -/
def setBytes (env : Environment σ) (refuses : Bool) (set : List UInt8 → σ → SystemResult σ) (len : Nat)
    (array : Option (List UInt8)) (s : σ) : Option (JniResult σ) :=
  match array with
  | none => some ⟨s, false, -2, [], false⟩
  | some array =>
    if env.elements then
      if array.length < len && !(refuses && 16384 < len) && env.flinger.isSome then none
      else
        let r := set (array.take len ++ List.replicate (len - array.length) 0) s
        some ⟨r.device, r.loadVolume, if r.status ≠ NO_ERROR then -1 else 0,
          if env.copies then array else r.buffer.take array.length ++ array.drop len, false⟩
    else some ⟨s, false, -2, array, false⟩

def android_media_AudioSystem_GetAudioData (env : Environment σ) (par : Int32) (len : Nat)
    (javaEmParamter : Option (List UInt8)) : σ → Option (JniResult σ) :=
  getBytes env (AudioSystem.GetAudioData env par) (List.replicate len 0) javaEmParamter

def android_media_AudioSystem_SetEMParameter (env : Environment σ) (javaEmParamter : Option (List UInt8))
    (len : Nat) : σ → Option (JniResult σ) :=
  setBytes env false (AudioSystem.SetEMParameter env) len javaEmParamter

def android_media_AudioSystem_SetAudioData (env : Environment σ) (par : Int32) (len : Nat)
    (javaEmParamter : Option (List UInt8)) : σ → Option (JniResult σ) :=
  setBytes env true (AudioSystem.SetAudioData env par) len javaEmParamter

def android_media_AudioSystem_SetAudioCommandX (env : Environment σ) (para1 para2 : Int32) (s : σ) :
    JniResult σ :=
  let r := AudioSystem.SetAudioCommand env para1 para2 s
  ⟨r.device, r.loadVolume, if r.status = PERMISSION_DENIED then -1 else r.status, [], false⟩

def android_media_AudioSystem_GetAudioCommandX (env : Environment σ) (para1 : Int32) (s : σ) : JniResult σ :=
  let (r, ret) := AudioSystem.GetAudioCommand env para1 (-1) s
  ⟨r.device, r.loadVolume, if r.status ≠ NO_ERROR then -1 else ret, [], false⟩

/-- Unlike the buffer of the audio data, this one is not cleared. -/
def android_media_AudioSystem_GetEMParameter (env : Environment σ) (javaEmParamter : Option (List UInt8))
    (len : Nat) : σ → Option (JniResult σ) :=
  getBytes env (AudioSystem.GetEMParameter env) (env.stack len) javaEmParamter

/-- A call of one of the native methods of `AudioSystem.java`. -/
inductive JavaCall where
  | setEmParameter (ptr : Option (List UInt8)) (length : Nat)
  | getEmParameter (ptr : Option (List UInt8)) (length : Nat)
  | setAudioCommand (arg1 arg2 : Int32)
  | getAudioCommand (arg1 : Int32)
  | setAudioData (par1 : Int32) (len : Nat) (ptr : Option (List UInt8))
  | getAudioData (par1 : Int32) (len : Nat) (ptr : Option (List UInt8))

def JavaCall.perform (env : Environment σ) : JavaCall → σ → Option (JniResult σ)
  | .setEmParameter ptr length => android_media_AudioSystem_SetEMParameter env ptr length
  | .getEmParameter ptr length => android_media_AudioSystem_GetEMParameter env ptr length
  | .setAudioCommand arg1 arg2 => some ∘ android_media_AudioSystem_SetAudioCommandX env arg1 arg2
  | .getAudioCommand arg1 => some ∘ android_media_AudioSystem_GetAudioCommandX env arg1
  | .setAudioData par1 len ptr => android_media_AudioSystem_SetAudioData env par1 len ptr
  | .getAudioData par1 len ptr => android_media_AudioSystem_GetAudioData env par1 len ptr

/-- The function of the device that is called for a code, if there is one. -/
def functionOf (hw : PrimaryHardware σ) (code : TransactionCode) : Option (MtkDevice σ) :=
  match hw with
  | some (some dev) => if dev.has code then some dev else none
  | _ => none

/-- What becomes of a call: there is no server, the transaction fails before or after the server
ran, the hardware has no function for it, or its function is called. -/
inductive Fate (σ : Type) where
  | noServer
  | lost (ran : Bool)
  | noFunction
  | asked (dev : MtkDevice σ)

/-- Whether the stub makes a call that it has got. -/
def Link.makes (link : Link) (call : AudioCall) : Bool := call.buffer.isEmpty || link.mallocs

/-- Whether the outcome of the server comes back. -/
def Link.delivers (link : Link) (call : AudioCall) : Bool :=
  match link.transport with
  | .delivered => link.makes call
  | _ => false

/-- Whether the server runs, and its outcome does not come back. -/
def Link.ran (link : Link) (call : AudioCall) : Bool :=
  match link.transport with
  | .replyLost _ _ => link.makes call
  | _ => false

def Environment.fate (env : Environment σ) (call : AudioCall) : Fate σ :=
  match env.flinger with
  | none => .noServer
  | some link =>
    if link.delivers call then
      match functionOf env.hw call.code with
      | none => .noFunction
      | some dev => .asked dev
    else .lost (link.ran call)

/-- What a call through all layers comes to: a transaction that fails is taken for a success,
and so is a missing function for the EM parameters. -/
def Environment.outcome (env : Environment σ) (call : AudioCall) (s : σ) : Served σ :=
  match env.fate call with
  | .noServer => ⟨s, PERMISSION_DENIED, call.buffer⟩
  | .lost ran => ⟨if ran then (AudioFlinger.serve env.hw call s).device else s, NO_ERROR, call.buffer⟩
  | .noFunction => ⟨s, if call.isEMParameter then NO_ERROR else INVALID_OPERATION, call.buffer⟩
  | .asked dev => ⟨(dev.run call s).1, call.returns (dev.run call s).2.1, (dev.run call s).2.2⟩

section

variable {hw : PrimaryHardware σ} {call : AudioCall} {s : σ} {env : Environment σ} {dev : MtkDevice σ}

theorem serve_of_function (hfunction : functionOf hw call.code = some dev) :
    AudioFlinger.serve hw call s =
      ⟨(dev.run call s).1, call.returns (dev.run call s).2.1, (dev.run call s).2.2⟩ := by
  rw [serve_eq]
  unfold functionOf at hfunction
  split at hfunction
  · next found =>
    split at hfunction
    · next hhas =>
      obtain rfl := Option.some.inj hfunction
      simp only [withDevice, hhas, if_true]
    · cases hfunction
  · cases hfunction

theorem serve_of_no_function (hfunction : functionOf hw call.code = none) :
    AudioFlinger.serve hw call s = ⟨s, INVALID_OPERATION, call.buffer⟩ := by
  rw [serve_eq]
  unfold withDevice
  split
  · rfl
  · rfl
  · next found =>
    rw [functionOf] at hfunction
    split at hfunction
    · cases hfunction
    · next hhas => rw [if_neg hhas]

theorem returns_of_isEMParameter (hEM : call.isEMParameter = true) (value : Int32) :
    call.returns value = NO_ERROR := by
  cases call with
  | GetEMParameter ptr | SetEMParameter ptr => rfl
  | _ => cases hEM

variable {remote : Binder} {policy : Int32}

/-- A proxy takes an empty reply for the status of no error, and leaves the buffer. -/
theorem result_of_empty (hlen : call.LenOk) {r : StubResult} (hreply : r.reply = []) :
    call.result r = ⟨NO_ERROR, call.buffer, r.calls⟩ := by
  have hread : ∀ len, 1 ≤ len → read len ([] : Parcel) = (none, []) := by
    intro len hpos
    have hpadded := le_align4 len
    rw [parcel.read, if_neg]
    rw [List.length_nil]
    omega
  have hnumber : readInt32 ([] : Parcel) = (0, []) := rfl
  cases call with
  | GetEMParameter ptr | SetEMParameter ptr =>
    simp only [AudioCall.result, AudioCall.buffer, hreply, hread ptr.length hlen.1, Option.getD_none]
  | SetAudioCommand var1 var2 | GetAudioCommand var1 =>
    simp only [AudioCall.result, AudioCall.buffer, hreply, hnumber]
    rfl
  | SetAudioData par1 ptr | GetAudioData par1 ptr =>
    simp only [AudioCall.result, AudioCall.buffer, hreply, hread ptr.length hlen.1, ite_self, hnumber,
      Option.getD_none]
    rfl

theorem makes_iff {link : Link} : link.makes call = true ↔ (call.buffer ≠ [] → link.mallocs = true) := by
  rw [Link.makes, Bool.or_eq_true, List.isEmpty_iff, ne_eq, Classical.or_iff_not_imp_left]

theorem delivers_iff {link : Link} (server : AudioFlinger) :
    link.delivers call = true ↔ Binder.Succeeds ⟨server, link.transport, link.mallocs⟩ call := by
  unfold Binder.Succeeds Link.delivers
  cases link.transport with
  | delivered => simpa using makes_iff
  | requestLost status hfailed | replyLost status hfailed => simp

/-- The calls that the server gets of a transaction that fails. -/
theorem calls_of_fails (hlen : call.LenOk) {link : Link} {server : AudioFlinger}
    (hfails : ¬ Binder.Succeeds ⟨server, link.transport, link.mallocs⟩ call) :
    (Binder.transact ⟨server, link.transport, link.mallocs⟩ call.code (call.request policy)).calls =
      if link.ran call then [call] else [] := by
  have hrefused : ¬ link.makes call = true →
      ((onTransact server link.mallocs call.code (call.request policy)).getD ⟨DEAD_OBJECT, [], []⟩).calls = [] := by
    intro hnot
    rw [makes_iff, Classical.not_imp] at hnot
    obtain ⟨status, reply, _, hgot⟩ : ∃ status reply, status ≠ NO_ERROR ∧ _ = _ :=
      refused_getD server policy hlen hnot.1 hnot.2
    rw [hgot]
  unfold Binder.transact Link.ran
  cases htransport : link.transport with
  | delivered =>
    have hnone := hrefused fun h => hfails ⟨htransport, makes_iff.mp h⟩
    dsimp only
    split
    · exact hnone
    · exact hnone
  | requestLost status hfailed => rfl
  | replyLost status hfailed =>
    by_cases h : link.makes call = true
    · simp only [onTransact_request hlen (makes_iff.mp h), Option.getD_some, h, if_true]
    · simp only [hrefused h, h, Bool.false_eq_true, if_false]

/-- A transaction that succeeds is answered by the hardware. -/
theorem call_of_function (hlen : call.LenOk) {link : Link} (hdelivers : link.delivers call = true)
    (hfunction : functionOf hw call.code = some dev) :
    link.call hw call s =
      ⟨(dev.run call s).1, call.returns (dev.run call s).2.1, (dev.run call s).2.2⟩ := by
  have hsucceeds := (delivers_iff (AudioFlinger.inState hw s)).mp hdelivers
  have hserve := serve_of_function (s := s) hfunction
  have hstatus : call.isEMParameter = true → ((AudioFlinger.inState hw s).outcome call).1 = NO_ERROR := by
    intro hEM
    simp only [AudioFlinger.inState, hserve, returns_of_isEMParameter hEM]
  have hproxy : call.proxy ⟨AudioFlinger.inState hw s, link.transport, link.mallocs⟩ link.policy =
      ⟨call.returns (dev.run call s).2.1, (dev.run call s).2.2, [call]⟩ := by
    rw [proxy_of_succeeds hlen hsucceeds hstatus]
    simp only [AudioFlinger.inState, hserve]
  simp only [Link.call, hproxy, List.foldl_cons, List.foldl_nil, hserve]

/-- The proxy of an EM parameter does not notice that there is no function for it. -/
theorem call_of_no_function (hlen : call.LenOk) {link : Link} (hdelivers : link.delivers call = true)
    (hfunction : functionOf hw call.code = none) :
    link.call hw call s = ⟨s, if call.isEMParameter then NO_ERROR else INVALID_OPERATION, call.buffer⟩ := by
  have hsucceeds := (delivers_iff (AudioFlinger.inState hw s)).mp hdelivers
  have hserve := serve_of_no_function (s := s) hfunction
  by_cases hEM : call.isEMParameter = true
  · have hreply : call.reply ((AudioFlinger.inState hw s).outcome call) = [] := by
      simp only [AudioFlinger.inState, hserve]
      cases call with
      | GetEMParameter ptr | SetEMParameter ptr => rfl
      | _ => cases hEM
    have hproxy : call.proxy ⟨AudioFlinger.inState hw s, link.transport, link.mallocs⟩ link.policy =
        ⟨NO_ERROR, call.buffer, [call]⟩ := by
      rw [proxy_eq hlen, transact_of_succeeds hlen hsucceeds, hreply, result_of_empty hlen rfl]
    simp only [Link.call, hproxy, List.foldl_cons, List.foldl_nil, hserve, hEM, if_true]
  · have hproxy : call.proxy ⟨AudioFlinger.inState hw s, link.transport, link.mallocs⟩ link.policy =
        ⟨INVALID_OPERATION, call.buffer, [call]⟩ := by
      rw [proxy_of_succeeds hlen hsucceeds fun h => absurd h hEM]
      simp only [AudioFlinger.inState, hserve]
    simp only [Link.call, hproxy, List.foldl_cons, List.foldl_nil, hserve, hEM, Bool.false_eq_true, if_false]

/-- A transaction that fails is not noticed. -/
theorem call_of_fails (hlen : call.LenOk) {link : Link} (hfails : ¬ link.delivers call = true) :
    link.call hw call s =
      ⟨if link.ran call then (AudioFlinger.serve hw call s).device else s, NO_ERROR, call.buffer⟩ := by
  have hnot := fun h => hfails ((delivers_iff (AudioFlinger.inState hw s)).mpr h)
  have hproxy : call.proxy ⟨AudioFlinger.inState hw s, link.transport, link.mallocs⟩ link.policy = _ := proxy_eq hlen
  rw [result_of_empty hlen (transact_of_fails hlen hnot).2, calls_of_fails hlen hnot] at hproxy
  simp only [Link.call, hproxy]
  congr 1
  split
  · rfl
  · rfl

/-- All layers between the caller and the hardware together do what the outcome says. -/
theorem systemCall_eq (hlen : call.LenOk) (loads : Bool) :
    AudioSystem.call env loads call s =
      ⟨env.outcome call s, env.flinger.isSome && (loads && env.policyService)⟩ := by
  unfold AudioSystem.call
  cases hflinger : env.flinger with
  | none => simp only [Environment.outcome, Environment.fate, hflinger, Option.isSome_none, Bool.false_and]
  | some link =>
    simp only [Option.isSome_some, Bool.true_and, Environment.outcome, Environment.fate, hflinger]
    congr 1
    by_cases hdelivers : link.delivers call = true
    · rw [if_pos hdelivers]
      cases hfunction : functionOf env.hw call.code with
      | none => exact call_of_no_function hlen hdelivers hfunction
      | some dev => exact call_of_function hlen hdelivers hfunction
    · rw [if_neg hdelivers]
      exact call_of_fails hlen hdelivers

end

/-- What a call has in the buffer that it hands on. -/
def JavaCall.audioCall (env : Environment σ) : JavaCall → AudioCall
  | .setEmParameter ptr length => .SetEMParameter ((ptr.getD []).take length)
  | .getEmParameter _ length => .GetEMParameter (env.stack length)
  | .setAudioCommand arg1 arg2 => .SetAudioCommand arg1 arg2
  | .getAudioCommand arg1 => .GetAudioCommand arg1
  | .setAudioData par1 len ptr => .SetAudioData par1 ((ptr.getD []).take len)
  | .getAudioData par1 len _ => .GetAudioData par1 (List.replicate len 0)

/-- The volumes are loaded after two calls. -/
def JavaCall.loads : JavaCall → Bool
  | .setAudioCommand arg1 _ => arg1 == SET_LOAD_VOLUME_SETTING
  | .setAudioData par1 _ _ => par1 == SET_AUDIO_VER1_DATA
  | _ => false

/-- An array that has all the bytes of a length that the server takes. -/
def JavaCall.Valid : JavaCall → Prop
  | .setAudioCommand _ _ | .getAudioCommand _ => True
  | .setEmParameter ptr len | .getEmParameter ptr len | .setAudioData _ len ptr | .getAudioData _ len ptr =>
    1 ≤ len ∧ len ≤ 16384 ∧ ∃ array, ptr = some array ∧ len ≤ array.length

/-- What the array of a call holds after it, if these are the bytes in the buffer. -/
def JavaCall.arrayWith (env : Environment σ) (buffer : List UInt8) : JavaCall → List UInt8
  | .setAudioCommand _ _ | .getAudioCommand _ => []
  | .setEmParameter ptr len | .setAudioData _ len ptr =>
    if env.copies then ptr.getD [] else buffer ++ (ptr.getD []).drop len
  | .getEmParameter ptr len | .getAudioData _ len ptr => buffer ++ (ptr.getD []).drop len

/-- What a call returns for what the function of the device has returned. -/
def JavaCall.answer (value : Int32) : JavaCall → Int32
  | .getAudioCommand _ => value
  | _ => 0

/-- What a call returns for a status. -/
def JavaCall.valueOf (status : Int32) : JavaCall → Int32
  | .setAudioCommand _ _ | .getAudioCommand _ => status
  | _ => if status ≠ NO_ERROR then -1 else 0

section

variable {env : Environment σ} {s : σ} {call : JavaCall}

theorem audioCall_lenOk (hvalid : call.Valid) : (call.audioCall env).LenOk := by
  cases call with
  | setAudioCommand arg1 arg2 | getAudioCommand arg1 => trivial
  | setEmParameter ptr len | setAudioData par1 len ptr =>
    obtain ⟨hpos, hlen, array, rfl, hfits⟩ := hvalid
    have hlength : (array.take len).length = len := List.length_take_of_le hfits
    exact ⟨hlength.symm ▸ hpos, hlength.symm ▸ hlen⟩
  | getEmParameter ptr len =>
    exact ⟨(env.stack_length len).symm ▸ hvalid.1, (env.stack_length len).symm ▸ hvalid.2.1⟩
  | getAudioData par1 len ptr =>
    have hlength : (List.replicate len (0 : UInt8)).length = len := List.length_replicate
    exact ⟨hlength.symm ▸ hvalid.1, hlength.symm ▸ hvalid.2.1⟩

theorem outcome_buffer_length (call : AudioCall) : (env.outcome call s).buffer.length = call.buffer.length := by
  unfold Environment.outcome
  cases env.fate call with
  | noServer | lost ran | noFunction => rfl
  | asked dev => exact dev.length_eq call s

theorem getBytes_eq (helements : env.elements = true) {get : List UInt8 → σ → SystemResult σ}
    {buffer array : List UInt8} (hpos : 1 ≤ buffer.length) (hfits : buffer.length ≤ array.length)
    (hlength : (get buffer s).buffer.length = buffer.length) :
    getBytes env get buffer (some array) s = some ⟨(get buffer s).device, (get buffer s).loadVolume,
      if (get buffer s).status ≠ NO_ERROR then -1 else 0, (get buffer s).buffer ++ array.drop buffer.length,
      false⟩ := by
  have hregion : setByteArrayRegion array (get buffer s).buffer =
      ((get buffer s).buffer ++ array.drop buffer.length, false) := by
    rw [setByteArrayRegion, hlength, if_pos hfits]
  unfold getBytes
  rw [if_neg (by omega)]
  simp only [helements, if_true, hregion]

theorem setBytes_eq (helements : env.elements = true) (refuses : Bool) {set : List UInt8 → σ → SystemResult σ}
    {len : Nat} {array : List UInt8} (hfits : len ≤ array.length)
    (hlength : (set (array.take len) s).buffer.length = len) :
    setBytes env refuses set len (some array) s = some ⟨(set (array.take len) s).device,
      (set (array.take len) s).loadVolume, if (set (array.take len) s).status ≠ NO_ERROR then -1 else 0,
      if env.copies then array else (set (array.take len) s).buffer ++ array.drop len, false⟩ := by
  have hinside : decide (array.length < len) = false := decide_eq_false (by omega)
  have hnone : len - array.length = 0 := by omega
  have hwhole : (set (array.take len) s).buffer.take array.length = (set (array.take len) s).buffer :=
    List.take_of_length_le (hlength.symm ▸ hfits)
  simp only [setBytes, helements, if_true, hinside, Bool.false_and, Bool.false_eq_true, if_false, hnone,
    List.replicate_zero, List.append_nil, hwhole]

/-- A call from Java does what the outcome of its buffer says. -/
theorem perform_eq (hvalid : call.Valid) (helements : env.elements = true) :
    call.perform env s = some ⟨(env.outcome (call.audioCall env) s).device,
      env.flinger.isSome && (call.loads && env.policyService),
      call.valueOf (env.outcome (call.audioCall env) s).status,
      call.arrayWith env (env.outcome (call.audioCall env) s).buffer, false⟩ := by
  have hlenOk : (call.audioCall env).LenOk := audioCall_lenOk hvalid
  have hlength : (env.outcome (call.audioCall env) s).buffer.length = _ := outcome_buffer_length _
  cases call with
  | setEmParameter ptr len =>
    obtain ⟨hpos, hlen, array, rfl, hfits⟩ := hvalid
    simp only [JavaCall.audioCall, Option.getD_some] at hlenOk hlength ⊢
    rw [JavaCall.perform, android_media_AudioSystem_SetEMParameter, setBytes_eq helements false hfits,
      AudioSystem.SetEMParameter, systemCall_eq hlenOk]
    · rfl
    · rw [AudioSystem.SetEMParameter, systemCall_eq hlenOk]
      exact hlength.trans (List.length_take_of_le hfits)
  | getEmParameter ptr len =>
    obtain ⟨hpos, hlen, array, rfl, hfits⟩ := hvalid
    rw [JavaCall.audioCall] at hlenOk hlength ⊢
    have hstack := env.stack_length len
    rw [JavaCall.perform, android_media_AudioSystem_GetEMParameter, getBytes_eq helements (hstack.symm ▸ hpos)
      (hstack.symm ▸ hfits), AudioSystem.GetEMParameter, systemCall_eq hlenOk, hstack]
    · rfl
    · rw [AudioSystem.GetEMParameter, systemCall_eq hlenOk]
      exact hlength
  | setAudioCommand arg1 arg2 =>
    rw [JavaCall.audioCall] at hlenOk hlength ⊢
    have hvalue : ∀ status : Int32, (if status = PERMISSION_DENIED then -1 else status) = status := by
      intro status
      split
      · next h => exact h.symm
      · rfl
    simp only [JavaCall.perform, Function.comp, android_media_AudioSystem_SetAudioCommandX,
      AudioSystem.SetAudioCommand, systemCall_eq hlenOk, hvalue]
    rfl
  | getAudioCommand arg1 =>
    rw [JavaCall.audioCall] at hlenOk hlength ⊢
    simp only [JavaCall.perform, Function.comp, android_media_AudioSystem_GetAudioCommandX,
      AudioSystem.GetAudioCommand, systemCall_eq hlenOk]
    cases hflinger : env.flinger with
    | none =>
      simp only [Environment.outcome, Environment.fate, hflinger]
      rfl
    | some link => rfl
  | setAudioData par1 len ptr =>
    obtain ⟨hpos, hlen, array, rfl, hfits⟩ := hvalid
    simp only [JavaCall.audioCall, Option.getD_some] at hlenOk hlength ⊢
    rw [JavaCall.perform, android_media_AudioSystem_SetAudioData, setBytes_eq helements true hfits,
      AudioSystem.SetAudioData, systemCall_eq hlenOk]
    · rfl
    · rw [AudioSystem.SetAudioData, systemCall_eq hlenOk]
      exact hlength.trans (List.length_take_of_le hfits)
  | getAudioData par1 len ptr =>
    obtain ⟨hpos, hlen, array, rfl, hfits⟩ := hvalid
    rw [JavaCall.audioCall] at hlenOk hlength ⊢
    have hzeros : (List.replicate len (0 : UInt8)).length = len := List.length_replicate
    rw [JavaCall.perform, android_media_AudioSystem_GetAudioData, getBytes_eq helements (hzeros.symm ▸ hpos)
      (hzeros.symm ▸ hfits), AudioSystem.GetAudioData, systemCall_eq hlenOk, hzeros]
    · rfl
    · rw [AudioSystem.GetAudioData, systemCall_eq hlenOk]
      exact hlength

theorem valueOf_eq_zero_iff (status : Int32) : call.valueOf status = 0 ↔ status = NO_ERROR := by
  cases call with
  | setAudioCommand arg1 arg2 | getAudioCommand arg1 => rfl
  | _ =>
    change (if status ≠ NO_ERROR then (-1 : Int32) else 0) = 0 ↔ status = NO_ERROR
    split
    · next h => exact iff_of_false (by decide) h
    · next h => exact iff_of_true rfl (Classical.not_not.mp h)

theorem valueOf_returns (value : Int32) :
    call.valueOf ((call.audioCall env).returns value) = call.answer value := by
  cases call with
  | _ => rfl

end

/-- Hardware that keeps the bytes it was given last. -/
def storingDevice : MtkDevice (List UInt8) where
  has _ := true
  run call s :=
    match call with
    | .SetAudioData _ ptr => (ptr, 0, ptr)
    | .GetAudioData _ ptr => (s, 0, (s ++ ptr).take ptr.length)
    | call => (s, 0, call.buffer)
  length_eq call s := by
    cases call with
    | GetAudioData par1 ptr => simp [AudioCall.buffer]
    | _ => rfl

/-- The request of a call does not arrive. -/
def deafServer : Environment (List UInt8) :=
  ⟨some (some storingDevice), some ⟨0, .requestLost (-32) (by decide), true⟩, true, true, true,
    fun len => List.replicate len 0, fun _ => List.length_replicate⟩

end panelli.audio
