import Panelli.Audio.EngineerMode
import Panelli.Runs

open panelli.bytes panelli.parcel panelli.runs

namespace panelli.audio

def TIMED_OUT : Int32 := -110
def GET_AUDIO_POLICY_VOL_FROM_VER1_DATA : Int32 := 0x102
def CUSTOM_VOLUME_REV_1 : UInt8 := 1
def POLICY_LOAD_VOLUME : Int32 := 0

/-- The bytes of the volumes and of their numbers of levels, behind the two first. -/
def levelsSize : Nat := 16 * 4 * 15 + 16

/-- `AUDIO_CUSTOM_VOLUME_STRUCT` as it is copied. -/
structure VolumeTable where
  bRev : UInt8
  bReady : UInt8
  levels : List UInt8
  levels_length : levels.length = levelsSize

def VolumeTable.bytes (t : VolumeTable) : List UInt8 := t.bRev :: t.bReady :: t.levels

/-- What the bytes of a buffer of the right size are as a table. -/
def VolumeTable.ofBytes (bytes : List UInt8) (hlength : bytes.length = levelsSize + 2) : VolumeTable :=
  ⟨bytes.headD 0, (bytes.drop 1).headD 0, bytes.drop 2, by rw [List.length_drop, hlength]; omega⟩

variable {σ : Type}

/-- The server as `get_audio_flinger` gives it to the policy service: itself in the same
process, or a proxy. -/
inductive FlingerRef where
  | here
  | remote (link : Link)

def FlingerRef.call (ref : FlingerRef) (hw : PrimaryHardware σ) (call : AudioCall) (s : σ) : Served σ :=
  match ref with
  | .here => AudioFlinger.serve hw call s
  | .remote link => link.call hw call s

theorem read_length (len : Nat) (p : Parcel) {buf : List UInt8} (hread : (parcel.read len p).1 = some buf) :
    buf.length = len := by
  have hle := le_align4 len
  rw [parcel.read] at hread
  split at hread
  · obtain rfl := Option.some.inj hread
    rw [List.length_take]
    omega
  · cases hread

/-- A data call leaves as many bytes in the buffer as there were. -/
theorem getAudioData_buffer_length (ref : FlingerRef) (hw : PrimaryHardware σ) (par1 : Int32) (ptr : List UInt8)
    (s : σ) : (ref.call hw (.GetAudioData par1 ptr) s).buffer.length = ptr.length := by
  cases ref with
  | here => exact serve_buffer_length hw (.GetAudioData par1 ptr) s
  | remote link =>
    have hgetD : ∀ (o : Option (List UInt8)), (∀ buf, o = some buf → buf.length = ptr.length) →
        (o.getD ptr).length = ptr.length := by
      intro o ho
      cases o with
      | none => rfl
      | some buf => exact ho buf rfl
    simp only [FlingerRef.call, Link.call, AudioCall.proxy, proxyAudioData]
    split
    · rfl
    · apply hgetD
      intro buf hbuf
      by_cases hpos : 0 < ptr.length
      · rw [if_pos hpos, if_pos hpos] at hbuf
        split at hbuf
        · exact read_length ptr.length _ hbuf
        · cases hbuf
      · rw [if_neg hpos, if_neg hpos, ite_self] at hbuf
        cases hbuf

/-- What a load of the volumes meets: the hardware, the server if there is one, and whether the
command thread takes too long. -/
structure LoadEnvironment (σ : Type) where
  hw : PrimaryHardware σ
  flinger : Option FlingerRef
  timedOut : Bool

/-- The case `GET_CUSTOM_AUDIO_VOLUME` of the command thread. -/
def AudioCommandThread.threadLoop (env : LoadEnvironment σ) (mVolConfig : List UInt8) (s : σ) : Served σ :=
  match env.flinger with
  | none => ⟨s, PERMISSION_DENIED, mVolConfig⟩
  | some af => af.call env.hw (.GetAudioData GET_AUDIO_POLICY_VOL_FROM_VER1_DATA mVolConfig) s

theorem threadLoop_buffer_length (env : LoadEnvironment σ) (mVolConfig : List UInt8) (s : σ) :
    (AudioCommandThread.threadLoop env mVolConfig s).buffer.length = mVolConfig.length := by
  unfold AudioCommandThread.threadLoop
  cases env.flinger with
  | none => rfl
  | some af => exact getAudioData_buffer_length af env.hw GET_AUDIO_POLICY_VOL_FROM_VER1_DATA mVolConfig s

theorem VolumeTable.bytes_length (t : VolumeTable) : t.bytes.length = levelsSize + 2 := by
  rw [VolumeTable.bytes, List.length_cons, List.length_cons, t.levels_length]

/-- The table is copied back when the command was executed in time and without an error. -/
def AudioCommandThread.getCustomAudioVolumeCommand (env : LoadEnvironment σ) (pCustomVol : VolumeTable) (s : σ) :
    σ × Int32 × VolumeTable :=
  let r := AudioCommandThread.threadLoop env pCustomVol.bytes s
  let status := if env.timedOut then TIMED_OUT else r.status
  (r.device, status,
    if status = NO_ERROR then
      .ofBytes r.buffer ((threadLoop_buffer_length env pCustomVol.bytes s).trans pCustomVol.bytes_length)
    else pCustomVol)

/-- The hardware, and what the policy manager has for the custom volumes. -/
structure VolumeState (σ : Type) where
  device : σ
  mAudioCustVolumeTable : VolumeTable
  mUseCustomVolume : Bool

/-- Also what the constructor does when it has opened the primary output. -/
def LoadCustomVolume (env : LoadEnvironment σ) (s : VolumeState σ) : VolumeState σ :=
  let table := { s.mAudioCustVolumeTable with bRev := CUSTOM_VOLUME_REV_1, bReady := 0 }
  let (device, _, table) := AudioCommandThread.getCustomAudioVolumeCommand env table s.device
  ⟨device, table, s.mUseCustomVolume || table.bReady != 0⟩

def AudioPolicyManager.SetPolicyManagerParameters (env : LoadEnvironment σ) (par1 _par2 _par3 _par4 : Int32)
    (s : VolumeState σ) : VolumeState σ :=
  if par1 = POLICY_LOAD_VOLUME then LoadCustomVolume env s else s

/-- The name of the interface of the policy service. -/
def policyDescriptor : List UInt8 :=
  ("android.media.IAudioPolicyService".toList.flatMap fun c => le16 c.toNat) ++ [0, 0]

/-- The request that the proxy of the policy service sends. -/
def BpAudioPolicyService.SetPolicyManagerParameters (policy par1 par2 par3 par4 : Int32) : Parcel :=
  let data := writeInterfaceToken policy policyDescriptor []
  let data := writeInt32 par1 data
  let data := writeInt32 par2 data
  let data := writeInt32 par3 data
  writeInt32 par4 data

/-- The case `SET_POLICYMANAGER_PARAMETERS` of the stub. -/
def BnAudioPolicyService.onTransact (env : LoadEnvironment σ) (data : Parcel) (s : VolumeState σ) : VolumeState σ :=
  let (checked, data) := checkInterface policyDescriptor data
  if checked then
    let (par1, data) := readInt32 data
    let (par2, data) := readInt32 data
    let (par3, data) := readInt32 data
    let (par4, _) := readInt32 data
    AudioPolicyManager.SetPolicyManagerParameters env par1 par2 par3 par4 s
  else s

theorem onTransact_parameters (env : LoadEnvironment σ) (policy par1 par2 par3 par4 : Int32) (s : VolumeState σ) :
    BnAudioPolicyService.onTransact env
        (BpAudioPolicyService.SetPolicyManagerParameters policy par1 par2 par3 par4) s =
      AudioPolicyManager.SetPolicyManagerParameters env par1 par2 par3 par4 s := by
  have hlen : policyDescriptor.length < 4294967296 := by decide
  simp only [BpAudioPolicyService.SetPolicyManagerParameters, writeInt32, List.append_assoc,
    BnAudioPolicyService.onTransact, checkInterface_append hlen, if_true, readInt32_append, readInt32_int32Bytes]

/-- A valid call of a native method that the server survives, with what a load after it meets, if
the policy service gets the request for one. -/
structure JavaEvent (σ : Type) where
  env : Environment σ
  call : JavaCall
  valid : call.Valid
  elements : env.elements = true
  survives : (call.audioCall env).isEMParameter = true → ∀ link ∈ env.flinger, link.mallocs = true
  policy : Int32
  load : Option (LoadEnvironment σ)

/-- What happens: a call from Java, a load, or anything else that changes the hardware. -/
inductive VolumeEvent (σ : Type) where
  | java (e : JavaEvent σ)
  | load (env : LoadEnvironment σ)
  | hardware (change : σ → σ)

def JavaEvent.step (e : JavaEvent σ) (s : VolumeState σ) : VolumeState σ :=
  match e.call.perform e.env s.device with
  | none => s
  | some r =>
    let s := { s with device := r.device }
    match r.loadVolume, e.load with
    | true, some env =>
      BnAudioPolicyService.onTransact env
        (BpAudioPolicyService.SetPolicyManagerParameters e.policy POLICY_LOAD_VOLUME 0 0 0) s
    | _, _ => s

def volumeStep (s : VolumeState σ) : VolumeEvent σ → VolumeState σ
  | .java e => e.step s
  | .load env => LoadCustomVolume env s
  | .hardware change => { s with device := change s.device }

/-- The volumes that are in use. -/
def VolumeState.inUse (s : VolumeState σ) : Option (List UInt8) :=
  if s.mUseCustomVolume then some s.mAudioCustVolumeTable.levels else none

/-- The table that a load asks with. -/
def VolumeState.asking (s : VolumeState σ) : VolumeTable :=
  { s.mAudioCustVolumeTable with bRev := CUSTOM_VOLUME_REV_1, bReady := 0 }

def VolumeState.request (s : VolumeState σ) : AudioCall :=
  .GetAudioData GET_AUDIO_POLICY_VOL_FROM_VER1_DATA s.asking.bytes

/-- The table that the hardware answers with. -/
def VolumeState.answer (s : VolumeState σ) (dev : MtkDevice σ) : VolumeTable :=
  .ofBytes (dev.run s.request s.device).2.2 ((dev.length_eq s.request s.device).trans s.asking.bytes_length)

/-- The hardware whose answer comes back. -/
def FlingerRef.answers (ref : FlingerRef) (hw : PrimaryHardware σ) (call : AudioCall) : Option (MtkDevice σ) :=
  match ref with
  | .here => functionOf hw call.code
  | .remote link => if link.delivers call then functionOf hw call.code else none

def LoadEnvironment.answers (env : LoadEnvironment σ) (s : VolumeState σ) : Option (MtkDevice σ) :=
  if env.timedOut then none else env.flinger.bind fun af => af.answers env.hw s.request

/-- The load that an event makes, with the state it is made in. -/
def VolumeEvent.loadOf (s : VolumeState σ) : VolumeEvent σ → Option (LoadEnvironment σ × VolumeState σ)
  | .java e =>
    if e.env.flinger.isSome && (e.call.loads && e.env.policyService) then
      e.load.map fun env => (env, { s with device := (e.env.outcome (e.call.audioCall e.env) s.device).device })
    else none
  | .load env => some (env, s)
  | .hardware _ => none

/-- The purpose of the loads: the volumes of the table that was ready last are in use. -/
def lastReady (s : VolumeState σ) (last : Option (List UInt8)) (e : VolumeEvent σ) : Option (List UInt8) :=
  match e.loadOf s with
  | none => last
  | some (env, s) =>
    match env.answers s with
    | none => last
    | some dev => if (s.answer dev).bReady = 0 then last else some (s.answer dev).levels

/-- The policy manager beside its purpose. -/
def trackedStep (p : VolumeState σ × Option (List UInt8)) (e : VolumeEvent σ) :
    VolumeState σ × Option (List UInt8) :=
  (volumeStep p.1 e, lastReady p.1 p.2 e)

section

variable {s : VolumeState σ} {env : LoadEnvironment σ} {dev : MtkDevice σ}

theorem request_lenOk (s : VolumeState σ) : s.request.LenOk := by
  have hlength := s.asking.bytes_length
  refine ⟨?_, ?_⟩
  · rw [VolumeState.request, AudioCall.buffer, hlength]
    decide
  · rw [VolumeState.request, AudioCall.buffer, hlength]
    decide

/-- The server gives back the answer of the hardware. -/
theorem call_of_answers {ref : FlingerRef} {hw : PrimaryHardware σ} {call : AudioCall} (hlen : call.LenOk)
    (hanswers : ref.answers hw call = some dev) (device : σ) :
    ref.call hw call device =
      ⟨(dev.run call device).1, call.returns (dev.run call device).2.1, (dev.run call device).2.2⟩ := by
  cases ref with
  | here => exact serve_of_function hanswers
  | remote link =>
    rw [FlingerRef.answers] at hanswers
    split at hanswers
    · next hdelivers => exact call_of_function hlen hdelivers hanswers
    · cases hanswers

/-- Without an answer, the buffer is left as it was. -/
theorem call_of_unanswered {ref : FlingerRef} {hw : PrimaryHardware σ} {call : AudioCall} (hlen : call.LenOk)
    (hanswers : ref.answers hw call = none) (device : σ) : (ref.call hw call device).buffer = call.buffer := by
  cases ref with
  | here => rw [FlingerRef.call, serve_of_no_function hanswers]
  | remote link =>
    rw [FlingerRef.call]
    by_cases hdelivers : link.delivers call = true
    · rw [FlingerRef.answers, if_pos hdelivers] at hanswers
      rw [call_of_no_function hlen hdelivers hanswers]
    · rw [call_of_fails hlen hdelivers]

theorem ofBytes_congr {bytes bytes' : List UInt8} (hbytes : bytes = bytes') (hlength : bytes.length = levelsSize + 2) :
    VolumeTable.ofBytes bytes hlength = VolumeTable.ofBytes bytes' (hbytes ▸ hlength) := by
  subst hbytes
  rfl

theorem threadLoop_of_flinger {af : FlingerRef} (hflinger : env.flinger = some af) :
    AudioCommandThread.threadLoop env s.asking.bytes s.device = af.call env.hw s.request s.device := by
  rw [AudioCommandThread.threadLoop, hflinger]
  rfl

theorem table_of_copied {bytes : List UInt8} (hintime : env.timedOut = false)
    (hstatus : (AudioCommandThread.threadLoop env s.asking.bytes s.device).status = NO_ERROR)
    (hbuffer : (AudioCommandThread.threadLoop env s.asking.bytes s.device).buffer = bytes)
    (hlength : bytes.length = levelsSize + 2) :
    (LoadCustomVolume env s).mAudioCustVolumeTable = .ofBytes bytes hlength := by
  change (AudioCommandThread.getCustomAudioVolumeCommand env s.asking s.device).2.2 = _
  simp only [AudioCommandThread.getCustomAudioVolumeCommand, hintime, Bool.false_eq_true, if_false]
  rw [if_pos hstatus]
  exact ofBytes_congr hbuffer _

/-- A load that is answered takes the table of the hardware. -/
theorem load_of_answers (hanswers : env.answers s = some dev) :
    (LoadCustomVolume env s).mAudioCustVolumeTable = s.answer dev := by
  unfold LoadEnvironment.answers at hanswers
  split at hanswers
  · cases hanswers
  · next hintime =>
    obtain ⟨af, hflinger, haf⟩ := Option.bind_eq_some_iff.mp hanswers
    have hcall := call_of_answers (request_lenOk s) haf s.device
    apply table_of_copied (Bool.eq_false_iff.mpr hintime)
    · rw [threadLoop_of_flinger hflinger, hcall]
      rfl
    · rw [threadLoop_of_flinger hflinger, hcall]

/-- A load that is not answered keeps the volumes. -/
theorem load_of_unanswered (hanswers : env.answers s = none) :
    (LoadCustomVolume env s).mAudioCustVolumeTable = s.asking := by
  by_cases hcopied : env.timedOut = false ∧
      (AudioCommandThread.threadLoop env s.asking.bytes s.device).status = NO_ERROR
  · obtain ⟨hintime, hstatus⟩ := hcopied
    have hbuffer : (AudioCommandThread.threadLoop env s.asking.bytes s.device).buffer = s.asking.bytes := by
      cases hflinger : env.flinger with
      | none => rw [AudioCommandThread.threadLoop, hflinger]
      | some af =>
        have haf : af.answers env.hw s.request = none := by
          rw [LoadEnvironment.answers, hflinger, hintime] at hanswers
          exact hanswers
        rw [threadLoop_of_flinger hflinger, call_of_unanswered (request_lenOk s) haf]
        rfl
    rw [table_of_copied hintime hstatus hbuffer s.asking.bytes_length]
    rfl
  · change (AudioCommandThread.getCustomAudioVolumeCommand env s.asking s.device).2.2 = _
    simp only [AudioCommandThread.getCustomAudioVolumeCommand]
    rw [if_neg]
    intro hstatus
    cases htimed : env.timedOut with
    | false =>
      rw [htimed] at hstatus
      exact hcopied ⟨htimed, hstatus⟩
    | true =>
      rw [htimed, if_pos rfl] at hstatus
      exact absurd hstatus (by decide : TIMED_OUT ≠ NO_ERROR)

/-- The flag is set by a table that is ready, and never cleared. -/
theorem load_flag (env : LoadEnvironment σ) (s : VolumeState σ) :
    (LoadCustomVolume env s).mUseCustomVolume =
      (s.mUseCustomVolume || (LoadCustomVolume env s).mAudioCustVolumeTable.bReady != 0) := rfl

theorem inUse_of_load (env : LoadEnvironment σ) (s : VolumeState σ) :
    (LoadCustomVolume env s).inUse =
      if s.mUseCustomVolume = true ∨ (LoadCustomVolume env s).mAudioCustVolumeTable.bReady ≠ 0 then
        some (LoadCustomVolume env s).mAudioCustVolumeTable.levels
      else none := by
  rw [VolumeState.inUse, load_flag]
  simp only [Bool.or_eq_true, bne_iff_ne]

/-- A request to load the volumes is one to load them. -/
theorem request_loads (env : LoadEnvironment σ) (policy : Int32) (s : VolumeState σ) :
    BnAudioPolicyService.onTransact env
        (BpAudioPolicyService.SetPolicyManagerParameters policy POLICY_LOAD_VOLUME 0 0 0) s =
      LoadCustomVolume env s := by
  rw [onTransact_parameters, AudioPolicyManager.SetPolicyManagerParameters, if_pos rfl]

theorem volumeStep_of_load {e : VolumeEvent σ} {before : VolumeState σ} (hload : e.loadOf s = some (env, before)) :
    volumeStep s e = LoadCustomVolume env before ∧
      before.mUseCustomVolume = s.mUseCustomVolume ∧ before.mAudioCustVolumeTable = s.mAudioCustVolumeTable := by
  cases e with
  | java e =>
    rw [VolumeEvent.loadOf] at hload
    split at hload
    · next hloads =>
      obtain ⟨env', henv, hpair⟩ := Option.map_eq_some_iff.mp hload
      obtain ⟨rfl, rfl⟩ := Prod.mk.inj hpair
      refine ⟨?_, rfl, rfl⟩
      rw [volumeStep, JavaEvent.step, perform_eq e.valid e.elements]
      simp only [hloads, henv, request_loads]
    · cases hload
  | load env' =>
    obtain ⟨rfl, rfl⟩ := Prod.mk.inj (Option.some.inj hload)
    exact ⟨rfl, rfl, rfl⟩
  | hardware change => cases hload

theorem volumeStep_of_no_load {e : VolumeEvent σ} (hload : e.loadOf s = none) :
    (volumeStep s e).inUse = s.inUse := by
  cases e with
  | java e =>
    rw [volumeStep, JavaEvent.step, perform_eq e.valid e.elements]
    rw [VolumeEvent.loadOf] at hload
    split at hload
    · next hloads =>
      have hnone : e.load = none := Option.map_eq_none_iff.mp hload
      simp only [hloads, hnone]
      rfl
    · next hloads =>
      simp only [Bool.eq_false_iff.mpr hloads]
      rfl
  | load env' => cases hload
  | hardware change => rfl

/-- What is in use after an event, and what should be. -/
theorem step_tracks_iff {last : Option (List UInt8)} {e : VolumeEvent σ} (htracks : s.inUse = last) :
    (volumeStep s e).inUse = lastReady s last e ↔
      ∀ env before, e.loadOf s = some (env, before) → ∀ dev, env.answers before = some dev →
        s.mUseCustomVolume = true → (before.answer dev).bReady = 0 →
          (before.answer dev).levels = s.mAudioCustVolumeTable.levels := by
  unfold lastReady
  cases hload : e.loadOf s with
  | none => simp [volumeStep_of_no_load hload, htracks]
  | some load =>
    obtain ⟨env, before⟩ := load
    obtain ⟨hstep, hflag, htable⟩ := volumeStep_of_load hload
    rw [hstep, inUse_of_load, hflag]
    cases hanswers : env.answers before with
    | none =>
      have hasking : before.asking.bReady = 0 := rfl
      have hlevels : before.asking.levels = s.mAudioCustVolumeTable.levels := by
        rw [← htable]
        rfl
      rw [load_of_unanswered hanswers, hasking, hlevels, ← htracks]
      simp [VolumeState.inUse, hanswers]
    | some dev =>
      have honly : ∀ P : LoadEnvironment σ → VolumeState σ → MtkDevice σ → Prop,
          (∀ env' before', some (env, before) = some (env', before') → ∀ dev', env'.answers before' = some dev' →
            P env' before' dev') ↔ P env before dev := by
        intro P
        constructor
        · exact fun h => h env before rfl dev hanswers
        · rintro h env' before' hpair dev' hdev
          obtain ⟨rfl, rfl⟩ := Prod.mk.inj (Option.some.inj hpair)
          obtain rfl := Option.some.inj (hanswers.symm.trans hdev)
          exact h
      rw [load_of_answers hanswers, honly fun _ before dev => s.mUseCustomVolume = true →
        (before.answer dev).bReady = 0 → (before.answer dev).levels = s.mAudioCustVolumeTable.levels]
      by_cases hready : (before.answer dev).bReady = 0
      · by_cases hused : s.mUseCustomVolume = true
        · simp [hready, hused, ← htracks, VolumeState.inUse, hanswers]
        · simp [hready, hused, ← htracks, VolumeState.inUse, hanswers]
      · simp [hready, hanswers]

end

/-- The volumes of the table that was ready last are in use. -/
def LastReadyInUse (p : VolumeState σ × Option (List UInt8)) : Prop := p.1.inUse = p.2

/-- While custom volumes are in use, a load is not answered with a table that is not ready and
has other volumes. -/
def AnswersReady (p : VolumeState σ × Option (List UInt8)) (e : VolumeEvent σ) : Prop :=
  ∀ env before, e.loadOf p.1 = some (env, before) → ∀ dev, env.answers before = some dev →
    p.1.mUseCustomVolume = true → (before.answer dev).bReady = 0 →
      (before.answer dev).levels = p.1.mAudioCustVolumeTable.levels

/-- Whatever valid calls come from Java, whichever loads fail and however the hardware changes, the
volumes of the table that was ready last are in use, exactly as long as the loads are answered,
once there was such a table, with tables that are ready or have the same volumes. -/
theorem last_ready_in_use_iff (s : VolumeState σ) (events : List (VolumeEvent σ)) :
    StatesHold trackedStep LastReadyInUse (s, s.inUse) events ↔
      StepsHold trackedStep AnswersReady (s, s.inUse) events := by
  have hstart : LastReadyInUse (s, s.inUse) := rfl
  refine statesHold_iff_stepsHold (I := fun _ => True) ?_ (fun _ _ _ _ _ => trivial) trivial hstart events
  intro p e _ htracks
  exact step_tracks_iff htracks

end panelli.audio
