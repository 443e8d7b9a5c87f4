import Mathlib.Data.Rat.Floor
import Panelli.Trace

open panelli.trace

namespace panelli.audio

/-- What an audio volume is computed with: a position of the row of the table is read, or
there is a division. -/
inductive Event where
  | index (position : Int)
  | divide (divisor : ℚ)

/-- Arithmetic on `float` and `double` is exact. -/
abbrev Computation (α : Type) : Type := Traced Event α

def divide (a b : ℚ) : Computation ℚ := emit (.divide b) (a / b)

/-- An array of bytes, with what is in front of it and behind it. -/
abbrev Row : Type := Int → UInt8

def Row.read (array : Row) (position : Int) : Computation ℚ := emit (.index position) (array position).toNat

/-- A number that is converted to an `int`. -/
def truncate (q : ℚ) : Int := if 0 ≤ q then ⌊q⌋ else -⌊-q⌋

def fCUSTOM_VOLUME_MAPPING_STEP : ℚ := 256
def CUSTOM_VOICE_VOLUME_MAX : ℚ := 160
def CUSTOM_VOICE_ONEDB_STEP : ℚ := 4
def CUSTOM_AUDIO_MAX_VOLUME_STEP : Int := 15

inductive CustomVolumeMode where
  | NORMAL_MODE
  | HEADSET_MODE
  | SPEAKER_MODE
  | HEADSET_SPEAKER_MODE

/-- Types of the table are numbers, as streams are. -/
def CUSTOM_VOL_TYPE_VOICE_CALL : Int := 0
def CUSTOM_VOL_TYPE_MUSIC : Int := 3
def CUSTOM_VOL_TYPE_SIP : Int := 12
def CUSTOM_NUM_OF_VOL_TYPE : Int := 16

def AUDIO_STREAM_VOICE_CALL : Int := 0
def AUDIO_STREAM_MUSIC : Int := 3
def AUDIO_STREAM_DTMF : Int := 8

structure AUDIO_CUSTOM_VOLUME_STRUCT where
  audiovolume_steamtype : Int → CustomVolumeMode → Row
  audiovolume_level : Int → UInt8

/-- `mVolumeCurves`: the range of indices of each stream. -/
structure VolumeCurves where
  indexMin : Int → Int
  indexMax : Int → Int
  min_lt_max : ∀ stream, indexMin stream < indexMax stream

inductive DeviceCategory where
  | HEADSET
  | SPEAKER
  | EARPIECE
  | EXT_MEDIA

/-- A device: its category, and whether it has a bit of a wired headset or headphone. -/
structure Device where
  category : DeviceCategory
  wired : Bool

/-- What the policy manager has for its volumes. The number of streams is from the platform. -/
structure AudioPolicyManager where
  mAudioCustVolumeTable : AUDIO_CUSTOM_VOLUME_STRUCT
  mVolumeCurves : VolumeCurves
  voiceReplaceDTMF : Bool
  inCommunication : Bool
  AUDIO_STREAM_CNT : Int

/-- What a mapping returns, and what it leaves in `vol`. -/
structure Mapped where
  volume : ℚ
  vol : ℚ

/-- The index, and what is left of the volume. -/
def mapVol (vol unitstep : ℚ) : Computation (Int × ℚ) := do
  let quotient ← divide (vol + 1 / 2) unitstep
  let index := truncate quotient
  return (index, vol - index * unitstep)

def mapping_Voice_vol (vol unitstep : ℚ) : Int × ℚ :=
  if vol < unitstep then (1, vol)
  else if vol < unitstep * 2 + 1 then (2, vol - unitstep)
  else if vol < unitstep * 3 + 1 then (3, vol - unitstep * 2)
  else if vol < unitstep * 4 + 1 then (4, vol - unitstep * 3)
  else if vol < unitstep * 5 + 1 then (5, vol - unitstep * 4)
  else if vol < unitstep * 6 + 1 then (6, vol - unitstep * 5)
  else if vol < unitstep * 7 + 1 then (7, vol - unitstep * 6)
  else (0, vol)

/-- Between an element and the one in front of it, unless the index is 0. -/
def interpolate (array : Row) (Index : Int) (Remind : ℚ) : Computation ℚ :=
  if Index ≠ 0 then do
    let high ← array.read Index
    let low ← array.read (Index - 1)
    return high - (high - low) * Remind + 1 / 2
  else return 0

def AudioPolicyManager.getStreamMaxLevels (manager : AudioPolicyManager) (stream : Int) : Int :=
  (manager.mAudioCustVolumeTable.audiovolume_level stream).toNat

/-- The clamp that both mappings end with. -/
def clampVolume (array : Row) (volume : ℚ) : Computation ℚ :=
  if volume > 253 then pure fCUSTOM_VOLUME_MAPPING_STEP
  else do
    let first ← array.read 0
    return if volume ≤ first then first else volume

/-- The largest index of the voice. It is taken as 1 when there is no level. -/
def maxVoiceIndex (levels : Int) : Int := if levels - 1 < 0 then 1 else levels - 1

/-- The volume of the voice between two levels. -/
def voiceBetween (array : Row) (dMaxIndex : Int) (vol : ℚ) : Computation ℚ := do
  let unitstep ← divide fCUSTOM_VOLUME_MAPPING_STEP dMaxIndex
  let step := mapping_Voice_vol vol unitstep
  let Index := if step.1 ≥ dMaxIndex then dMaxIndex else step.1
  let quotient ← divide step.2 unitstep
  interpolate array Index (1 - quotient)

/-- The volume of the voice before it is clamped. -/
def AudioPolicyManager.voiceVolume (manager : AudioPolicyManager) (array : Row) (vol : ℚ) : Computation ℚ :=
  let dMaxIndex := maxVoiceIndex (manager.getStreamMaxLevels AUDIO_STREAM_VOICE_CALL)
  if vol = 0 then array.read 0
  else if vol ≥ fCUSTOM_VOLUME_MAPPING_STEP then array.read dMaxIndex
  else voiceBetween array dMaxIndex vol

/-- The clamps of the voice, of which the first one is for calls only. -/
def limitVoice (array : Row) (vol_stream_type : Int) (volume : ℚ) : Computation ℚ :=
  if volume > CUSTOM_VOICE_VOLUME_MAX ∧ vol_stream_type = CUSTOM_VOL_TYPE_VOICE_CALL then
    return CUSTOM_VOICE_VOLUME_MAX
  else clampVolume array volume

/-- What a volume of the voice leaves in `vol`: that of a call by the distance from its maximum. -/
def degradeVoice (vol_stream_type : Int) (volume : ℚ) : Computation Mapped :=
  if vol_stream_type = CUSTOM_VOL_TYPE_VOICE_CALL then do
    let degradeDb ← divide (CUSTOM_VOICE_VOLUME_MAX - volume) CUSTOM_VOICE_ONEDB_STEP
    return ⟨volume, fCUSTOM_VOLUME_MAPPING_STEP - degradeDb * 4⟩
  else return ⟨volume, volume⟩

def AudioPolicyManager.mapVoiceVoltoCustomVol (manager : AudioPolicyManager) (array : Row) (vol : ℚ)
    (vol_stream_type : Int) : Computation Mapped := do
  let volume ← manager.voiceVolume array (truncate vol)
  let volume ← limitVoice array vol_stream_type volume
  degradeVoice vol_stream_type volume

/-- A number of levels or a largest index, which is at least taken as 1. -/
def atLeastOne (n : Int) : Int := if n ≤ 0 then 1 else n

/-- The volume of the other streams at a step, before it is clamped. -/
def streamVolume (array : Row) (vol unitstep : ℚ) : Computation ℚ := do
  let step ← mapVol vol unitstep
  let quotient ← divide step.2 unitstep
  interpolate array step.1 (1 - quotient)

/-- The volume of the other streams: below the lowest index it is the first of the row. -/
def steppedVolume (array : Row) (vol unitstep lowest : ℚ) : Computation ℚ :=
  if vol < lowest then array.read 0 else streamVolume array vol unitstep >>= clampVolume array

/-- The mapping for the other streams, with their number of levels and their largest index. -/
def mapStreamVol (array : Row) (vol : ℚ) (dMaxLevels streamDescmIndexMax : Int) : Computation Mapped :=
  if vol = 0 then return ⟨0, vol⟩
  else do
    let unitstep ← divide fCUSTOM_VOLUME_MAPPING_STEP (atLeastOne dMaxLevels)
    let lowest ← divide fCUSTOM_VOLUME_MAPPING_STEP (atLeastOne streamDescmIndexMax)
    let volume ← steppedVolume array vol unitstep lowest
    return ⟨volume, volume⟩

/-- An unknown type of the table is replaced by that of music. -/
def knownType (type : Int) : Int :=
  if type ≥ CUSTOM_NUM_OF_VOL_TYPE ∨ type < CUSTOM_VOL_TYPE_VOICE_CALL then CUSTOM_VOL_TYPE_MUSIC else type

def AudioPolicyManager.mapVoltoCustomVol (manager : AudioPolicyManager) (array : Row) (vol : ℚ) (stream : Int) :
    Computation Mapped :=
  if stream = CUSTOM_VOL_TYPE_VOICE_CALL ∨ stream = CUSTOM_VOL_TYPE_SIP then
    manager.mapVoiceVoltoCustomVol array vol stream
  else
    -- streams and types have the same numbers, so one variable stands for both
    let vol_stream := knownType stream
    mapStreamVol array vol (manager.getStreamMaxLevels vol_stream) (manager.mVolumeCurves.indexMax vol_stream)

/-- An index in the range of a stream, scaled to 0 up to the mapping step. -/
def AudioPolicyManager.scale (manager : AudioPolicyManager) (stream index : Int) : Computation ℚ :=
  let range := manager.mVolumeCurves.indexMax stream - manager.mVolumeCurves.indexMin stream
  divide (fCUSTOM_VOLUME_MAPPING_STEP * (index - manager.mVolumeCurves.indexMin stream)) range

/-- The stream and the index that a volume is computed for: in a call that of the voice
replaces the tones. -/
def AudioPolicyManager.replaceDTMF (manager : AudioPolicyManager) (stream index : Int) :
    Computation (Int × Int) :=
  if manager.voiceReplaceDTMF ∧ stream = AUDIO_STREAM_DTMF then do
    let DTMFvolInt ← manager.scale AUDIO_STREAM_DTMF index
    let curves := manager.mVolumeCurves
    let range := curves.indexMax AUDIO_STREAM_VOICE_CALL - curves.indexMin AUDIO_STREAM_VOICE_CALL
    let quotient ← divide (DTMFvolInt * range) fCUSTOM_VOLUME_MAPPING_STEP
    return (AUDIO_STREAM_VOICE_CALL, truncate (quotient + curves.indexMin AUDIO_STREAM_VOICE_CALL))
  else return (stream, index)

def Device.mode (device : Device) : CustomVolumeMode :=
  match device.category with
  | .SPEAKER => if device.wired then .HEADSET_SPEAKER_MODE else .SPEAKER_MODE
  | .HEADSET => .HEADSET_MODE
  | .EARPIECE => .NORMAL_MODE
  | .EXT_MEDIA => .HEADSET_SPEAKER_MODE

/-- The type of the table for a stream. -/
def AudioPolicyManager.volumeType (manager : AudioPolicyManager) (stream : Int) : Int :=
  if stream = AUDIO_STREAM_VOICE_CALL ∧ manager.inCommunication then CUSTOM_VOL_TYPE_SIP
  else if stream ≥ AUDIO_STREAM_VOICE_CALL ∧ stream < manager.AUDIO_STREAM_CNT then stream
  else CUSTOM_VOL_TYPE_MUSIC

/-- The position of the largest volume of a row. -/
def maxStepIndex (levels : Int) : Int :=
  let dMaxStepIndex := levels - 1
  if dMaxStepIndex > CUSTOM_AUDIO_MAX_VOLUME_STEP - 1 then CUSTOM_AUDIO_MAX_VOLUME_STEP - 1
  else if dMaxStepIndex < 0 then 0
  else dMaxStepIndex

/-- `volInt` in `computeCustomVolume`, before it is converted by `linearToLog`. -/
def AudioPolicyManager.computeCustomVolume (manager : AudioPolicyManager) (stream index : Int)
    (device : Device) : Computation ℚ := do
  let replaced ← manager.replaceDTMF stream index
  let volInt ← manager.scale replaced.1 replaced.2
  let steamtype := manager.volumeType replaced.1
  let array := manager.mAudioCustVolumeTable.audiovolume_steamtype steamtype device.mode
  -- the largest and the smallest volume are read, but only passed on
  let _ ← array.read (maxStepIndex (manager.getStreamMaxLevels steamtype))
  let _ ← array.read 0
  let mapped ← manager.mapVoltoCustomVol array volInt steamtype
  return mapped.vol

end panelli.audio
