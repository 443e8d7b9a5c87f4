import Mathlib.Algebra.Order.Field.Basic
import Mathlib.Algebra.Order.Field.Rat
import Mathlib.Tactic.FieldSimp
import Mathlib.Tactic.Linarith
import Mathlib.Tactic.Positivity
import Panelli.Audio.CustomVolume

open panelli.trace

namespace panelli.audio

/-- A position is in the row, and a divisor is not zero. -/
def Event.Safe : Event → Prop
  | .index position => 0 ≤ position ∧ position < CUSTOM_AUDIO_MAX_VOLUME_STEP
  | .divide divisor => divisor ≠ 0

/-- A type of the table for which the mapping of the voice is used. -/
def IsVoice (type : Int) : Prop := type = CUSTOM_VOL_TYPE_VOICE_CALL ∨ type = CUSTOM_VOL_TYPE_SIP

instance (type : Int) : Decidable (IsVoice type) := inferInstanceAs (Decidable (_ ∨ _))

/-- For the voice: the index is so low that it counts as zero, or it is the largest one and
there are not more levels than the row has, or it is another one and there is not just one level. -/
def VoiceFits (level : Int) (offset span : Int) : Prop :=
  256 * offset < span ∨ (if offset = span then level ≤ CUSTOM_AUDIO_MAX_VOLUME_STEP else level ≠ 1)

instance (level offset span : Int) : Decidable (VoiceFits level offset span) :=
  inferInstanceAs (Decidable (_ ∨ if offset = span then level ≤ CUSTOM_AUDIO_MAX_VOLUME_STEP else level ≠ 1))

/-- For the other streams: the index is the smallest one, or it is below the first step, or
its step is in the row. -/
def StreamFits (level indexMax : Int) (offset span : Int) : Prop :=
  offset = 0 ∨ offset * atLeastOne indexMax < span ∨ (512 * offset + span) * atLeastOne level < 7680 * span

instance (level indexMax offset span : Int) : Decidable (StreamFits level indexMax offset span) :=
  inferInstanceAs (Decidable (_ ∨ _ ∨ _))

/-- The levels of a stream suffice for the row at an index. -/
def AudioPolicyManager.RowSuffices (manager : AudioPolicyManager) (stream index : Int) : Prop :=
  let curves := manager.mVolumeCurves
  let type := manager.volumeType stream
  let offset := index - curves.indexMin stream
  let span := curves.indexMax stream - curves.indexMin stream
  if IsVoice type then VoiceFits (manager.getStreamMaxLevels AUDIO_STREAM_VOICE_CALL) offset span
  else StreamFits (manager.getStreamMaxLevels (knownType type)) (curves.indexMax (knownType type)) offset span

instance (manager : AudioPolicyManager) (stream index : Int) : Decidable (manager.RowSuffices stream index) :=
  inferInstanceAs (Decidable (if IsVoice (manager.volumeType stream) then VoiceFits _ _ _ else StreamFits _ _ _ _))

section

variable {manager : AudioPolicyManager} {array : Row} {vol unitstep : ℚ} {stream index type : Int}

theorem truncate_of_nonneg {q : ℚ} (hq : 0 ≤ q) : truncate q = ⌊q⌋ := if_pos hq

theorem divide_safe_iff (a b : ℚ) : (divide a b).All Event.Safe ↔ b ≠ 0 := all_emit _ _ _

theorem read_safe_iff (array : Row) (position : Int) :
    (array.read position).All Event.Safe ↔ 0 ≤ position ∧ position < CUSTOM_AUDIO_MAX_VOLUME_STEP :=
  all_emit _ _ _

@[simp] theorem divide_value (a b : ℚ) : (divide a b).value = a / b := rfl

theorem read_first_safe (array : Row) : (array.read 0).All Event.Safe := (read_safe_iff array 0).mpr (by decide)

theorem interpolate_safe_iff {Index : Int} (hIndex : 0 ≤ Index) (Remind : ℚ) :
    (interpolate array Index Remind).All Event.Safe ↔ Index < CUSTOM_AUDIO_MAX_VOLUME_STEP := by
  unfold interpolate
  split_ifs with hzero
  · simp only [all_bind, all_pure, read_safe_iff, and_true]
    omega
  · have hlt : Index < CUSTOM_AUDIO_MAX_VOLUME_STEP := by
      simp only [not_not] at hzero
      rw [hzero]
      decide
    simp [hlt]

theorem getStreamMaxLevels_nonneg (manager : AudioPolicyManager) (stream : Int) :
    0 ≤ manager.getStreamMaxLevels stream := Int.natCast_nonneg _

theorem clampVolume_safe (array : Row) (volume : ℚ) : (clampVolume array volume).All Event.Safe := by
  unfold clampVolume
  split_ifs
  · exact all_pure _ _
  · exact (all_bind _ _ _).mpr ⟨read_first_safe array, all_pure _ _⟩

theorem limitVoice_safe (array : Row) (type : Int) (volume : ℚ) : (limitVoice array type volume).All Event.Safe := by
  unfold limitVoice
  split_ifs
  · exact all_pure _ _
  · exact clampVolume_safe array volume

theorem degradeVoice_safe (type : Int) (volume : ℚ) : (degradeVoice type volume).All Event.Safe := by
  have hstep : CUSTOM_VOICE_ONEDB_STEP ≠ 0 := by decide
  unfold degradeVoice
  split_ifs
  · exact (all_bind _ _ _).mpr ⟨(divide_safe_iff _ _).mpr hstep, all_pure _ _⟩
  · exact all_pure _ _

/-- What follows the volume of the voice is safe. -/
theorem mapVoice_safe_iff : (manager.mapVoiceVoltoCustomVol array vol type).All Event.Safe ↔
    (manager.voiceVolume array (truncate vol)).All Event.Safe := by
  unfold AudioPolicyManager.mapVoiceVoltoCustomVol
  rw [all_bind, all_bind]
  exact and_iff_left ⟨limitVoice_safe array type _, degradeVoice_safe type _⟩

theorem mapping_Voice_vol_index (vol unitstep : ℚ) :
    0 ≤ (mapping_Voice_vol vol unitstep).1 ∧ (mapping_Voice_vol vol unitstep).1 ≤ 7 := by
  unfold mapping_Voice_vol
  split_ifs <;> simp

theorem maxVoiceIndex_nonneg (levels : Int) : 0 ≤ maxVoiceIndex levels := by
  unfold maxVoiceIndex
  split_ifs
  · omega
  · omega

/-- Between two levels there is a division by the largest index, and at most 7 is read at. -/
theorem voiceBetween_safe_iff {dMaxIndex : Int} (hmax : 0 ≤ dMaxIndex) :
    (voiceBetween array dMaxIndex vol).All Event.Safe ↔ dMaxIndex ≠ 0 := by
  have hcast : (dMaxIndex : ℚ) ≠ 0 ↔ dMaxIndex ≠ 0 := Int.cast_ne_zero
  unfold voiceBetween
  rw [all_bind, divide_safe_iff, hcast]
  apply and_iff_left_of_imp
  intro hne
  have hstep : fCUSTOM_VOLUME_MAPPING_STEP / dMaxIndex ≠ 0 := div_ne_zero (by decide) (hcast.mpr hne)
  obtain ⟨hlo, hhi⟩ := mapping_Voice_vol_index vol (fCUSTOM_VOLUME_MAPPING_STEP / dMaxIndex)
  have hsize : CUSTOM_AUDIO_MAX_VOLUME_STEP = 15 := rfl
  refine (all_bind _ _ _).mpr ⟨(divide_safe_iff _ _).mpr hstep, ?_⟩
  rw [divide_value]
  split_ifs with hover
  · exact (interpolate_safe_iff hmax _).mpr (by omega)
  · exact (interpolate_safe_iff hlo _).mpr (by omega)

/-- The volume of the voice is safe at the bottom, at the top if there are not too many
levels, and between if there is not a single one. -/
theorem voiceVolume_safe_iff (hvol : vol ≤ fCUSTOM_VOLUME_MAPPING_STEP) :
    (manager.voiceVolume array vol).All Event.Safe ↔ vol = 0 ∨
      (if vol = fCUSTOM_VOLUME_MAPPING_STEP then
        manager.getStreamMaxLevels AUDIO_STREAM_VOICE_CALL ≤ CUSTOM_AUDIO_MAX_VOLUME_STEP
      else manager.getStreamMaxLevels AUDIO_STREAM_VOICE_CALL ≠ 1) := by
  have hlevel := getStreamMaxLevels_nonneg manager AUDIO_STREAM_VOICE_CALL
  have hmax := maxVoiceIndex_nonneg (manager.getStreamMaxLevels AUDIO_STREAM_VOICE_CALL)
  have hsize : CUSTOM_AUDIO_MAX_VOLUME_STEP = 15 := rfl
  unfold AudioPolicyManager.voiceVolume
  by_cases hzero : vol = 0
  · simp only [hzero, if_true, true_or, iff_true]
    exact read_first_safe array
  · by_cases htop : vol = fCUSTOM_VOLUME_MAPPING_STEP
    · have hne : fCUSTOM_VOLUME_MAPPING_STEP ≠ 0 := by decide
      simp only [htop, hne, ge_iff_le, le_refl, if_true, if_false, false_or, read_safe_iff]
      unfold maxVoiceIndex
      split_ifs
      · omega
      · omega
    · have hbelow : ¬ vol ≥ fCUSTOM_VOLUME_MAPPING_STEP := not_le.mpr (lt_of_le_of_ne hvol htop)
      simp only [hzero, htop, hbelow, if_false, false_or, voiceBetween_safe_iff hmax]
      unfold maxVoiceIndex
      split_ifs
      · omega
      · omega

theorem atLeastOne_pos (n : Int) : 0 < atLeastOne n := by
  unfold atLeastOne
  split_ifs
  · omega
  · omega

/-- A step is in the row exactly if the volume with its half unit is below the end of it. -/
theorem streamVolume_safe_iff (hvol : 0 ≤ vol) (hunit : 0 < unitstep) :
    (streamVolume array vol unitstep).All Event.Safe ↔ (vol + 1 / 2) / unitstep < 15 := by
  have hquotient : 0 ≤ (vol + 1 / 2) / unitstep := by positivity
  have hindex : 0 ≤ ⌊(vol + 1 / 2) / unitstep⌋ := Int.floor_nonneg.mpr hquotient
  have hlt : ⌊(vol + 1 / 2) / unitstep⌋ < CUSTOM_AUDIO_MAX_VOLUME_STEP ↔ (vol + 1 / 2) / unitstep < 15 := by
    have hsize : (CUSTOM_AUDIO_MAX_VOLUME_STEP : ℚ) = 15 := rfl
    rw [Int.floor_lt, hsize]
  unfold streamVolume mapVol
  simp only [all_bind, all_pure, divide_safe_iff, divide_value, value_bind, value_pure, truncate_of_nonneg hquotient,
    interpolate_safe_iff hindex, hlt, hunit.ne', ne_eq, not_false_eq_true, true_and]

theorem steppedVolume_safe_iff (hvol : 0 ≤ vol) (hunit : 0 < unitstep) (lowest : ℚ) :
    (steppedVolume array vol unitstep lowest).All Event.Safe ↔ vol < lowest ∨ (vol + 1 / 2) / unitstep < 15 := by
  unfold steppedVolume
  split_ifs with hlow
  · exact iff_of_true (read_first_safe array) (.inl hlow)
  · rw [all_bind, streamVolume_safe_iff hvol hunit, or_iff_right hlow]
    exact and_iff_left (clampVolume_safe array _)

/-- The other streams in terms of the volume. -/
theorem mapStreamVol_safe_iff (hvol : 0 ≤ vol) (levels indexMax : Int) :
    (mapStreamVol array vol levels indexMax).All Event.Safe ↔
      vol = 0 ∨ vol < fCUSTOM_VOLUME_MAPPING_STEP / atLeastOne indexMax ∨
        (vol + 1 / 2) / (fCUSTOM_VOLUME_MAPPING_STEP / atLeastOne levels) < 15 := by
  have hlevels : (0 : ℚ) < atLeastOne levels := Int.cast_pos.mpr (atLeastOne_pos levels)
  have hindex : (0 : ℚ) < atLeastOne indexMax := Int.cast_pos.mpr (atLeastOne_pos indexMax)
  have hunit : 0 < fCUSTOM_VOLUME_MAPPING_STEP / atLeastOne levels := div_pos (by decide) hlevels
  unfold mapStreamVol
  split_ifs with hzero
  · exact iff_of_true (all_pure _ _) (.inl hzero)
  · rw [all_bind, all_bind, all_bind, divide_safe_iff, divide_safe_iff, divide_value, divide_value,
      steppedVolume_safe_iff hvol hunit, or_iff_right hzero]
    simp [hlevels.ne', hindex.ne']

/-- The offset of an index in its range, on the scale of the volumes. -/
def scaled (offset span : Int) : ℚ := fCUSTOM_VOLUME_MAPPING_STEP * offset / span

section Scaled

variable {offset span : Int}

theorem scaled_nonneg (hoffset : 0 ≤ offset) (hspan : 0 < span) : 0 ≤ scaled offset span := by
  have hoffset' : (0 : ℚ) ≤ offset := Int.cast_nonneg hoffset
  have hspan' : (0 : ℚ) < span := Int.cast_pos.mpr hspan
  unfold scaled fCUSTOM_VOLUME_MAPPING_STEP
  positivity

theorem scaled_eq_zero_iff (hspan : 0 < span) : scaled offset span = 0 ↔ offset = 0 := by
  have hspan' : (span : ℚ) ≠ 0 := (Int.cast_pos.mpr hspan).ne'
  simp [scaled, fCUSTOM_VOLUME_MAPPING_STEP, hspan']

theorem scaled_le (hle : offset ≤ span) (hspan : 0 < span) : scaled offset span ≤ fCUSTOM_VOLUME_MAPPING_STEP := by
  have hle' : (offset : ℚ) ≤ span := Int.cast_le.mpr hle
  have hspan' : (0 : ℚ) < span := Int.cast_pos.mpr hspan
  unfold scaled fCUSTOM_VOLUME_MAPPING_STEP
  rw [div_le_iff₀ hspan']
  linarith

/-- The whole part of a scaled index. -/
theorem truncate_scaled (hoffset : 0 ≤ offset) (hspan : 0 < span) :
    truncate (scaled offset span) = 256 * offset / span := by
  rw [truncate_of_nonneg (scaled_nonneg hoffset hspan)]
  obtain ⟨n, rfl⟩ := Int.eq_ofNat_of_zero_le hspan.le
  have hcast : scaled offset n = ((256 * offset : Int) : ℚ) / (n : ℚ) := by
    rw [Int.cast_mul]
    rfl
  rw [hcast, Rat.floor_intCast_div_natCast]

theorem scaled_lt_step_iff {n : Int} (hspan : 0 < span) (hn : 0 < n) :
    scaled offset span < fCUSTOM_VOLUME_MAPPING_STEP / n ↔ offset * n < span := by
  have hspan' : (0 : ℚ) < span := Int.cast_pos.mpr hspan
  have hn' : (0 : ℚ) < n := Int.cast_pos.mpr hn
  unfold scaled fCUSTOM_VOLUME_MAPPING_STEP
  rw [div_lt_div_iff₀ hspan' hn', mul_assoc, mul_lt_mul_iff_right₀ (by decide)]
  exact_mod_cast Iff.rfl

theorem scaled_step_lt_iff {n : Int} (hspan : 0 < span) (hn : 0 < n) :
    (scaled offset span + 1 / 2) / (fCUSTOM_VOLUME_MAPPING_STEP / n) < 15 ↔
      (512 * offset + span) * n < 7680 * span := by
  have hspan' : (0 : ℚ) < span := Int.cast_pos.mpr hspan
  have hn' : (0 : ℚ) < n := Int.cast_pos.mpr hn
  have hstep : (scaled offset span + 1 / 2) / (fCUSTOM_VOLUME_MAPPING_STEP / n) =
      (512 * offset + span) * n / (512 * span) := by
    unfold scaled fCUSTOM_VOLUME_MAPPING_STEP
    field_simp
    ring
  rw [hstep, div_lt_iff₀ (by positivity), ← mul_assoc]
  norm_num
  exact_mod_cast Iff.rfl

/-- The other streams in terms of the index. -/
theorem stream_fits_iff (hoffset : 0 ≤ offset) (hspan : 0 < span) (level indexMax : Int) :
    (mapStreamVol array (scaled offset span) level indexMax).All Event.Safe ↔
      StreamFits level indexMax offset span := by
  rw [mapStreamVol_safe_iff (scaled_nonneg hoffset hspan), scaled_eq_zero_iff hspan,
    scaled_lt_step_iff hspan (atLeastOne_pos indexMax), scaled_step_lt_iff hspan (atLeastOne_pos level)]
  rfl

theorem voice_fits_iff (hoffset : 0 ≤ offset) (hle : offset ≤ span) (hspan : 0 < span) :
    (manager.mapVoiceVoltoCustomVol array (scaled offset span) type).All Event.Safe ↔
      VoiceFits (manager.getStreamMaxLevels AUDIO_STREAM_VOICE_CALL) offset span := by
  have hnonneg : 0 ≤ 256 * offset / span := Int.ediv_nonneg (by omega) (by omega)
  have hlow : 256 * offset / span < 1 ↔ 256 * offset < span := by
    rw [Int.ediv_lt_iff_lt_mul hspan, Int.one_mul]
  have hhigh : 256 ≤ 256 * offset / span ↔ span ≤ offset := by
    rw [Int.le_ediv_iff_mul_le hspan]
    omega
  have hmax : 256 * offset / span ≤ 256 := by
    apply Int.ediv_le_of_le_mul hspan
    omega
  have hzero : 256 * offset / span = 0 ↔ 256 * offset < span := by omega
  have htop : 256 * offset / span = 256 ↔ offset = span := by omega
  have hstep : fCUSTOM_VOLUME_MAPPING_STEP = ((256 : Int) : ℚ) := rfl
  rw [mapVoice_safe_iff, truncate_scaled hoffset hspan, voiceVolume_safe_iff (by rwa [hstep, Int.cast_le]), hstep]
  simp only [Int.cast_eq_zero, Int.cast_inj, hzero, htop, VoiceFits]

end Scaled

/-- The type of the table decides which of the mappings is used. -/
theorem mapVolto_safe_iff {offset span : Int} (hoffset : 0 ≤ offset) (hle : offset ≤ span) (hspan : 0 < span) :
    (manager.mapVoltoCustomVol array (scaled offset span) type).All Event.Safe ↔
      if IsVoice type then VoiceFits (manager.getStreamMaxLevels AUDIO_STREAM_VOICE_CALL) offset span
      else StreamFits (manager.getStreamMaxLevels (knownType type)) (manager.mVolumeCurves.indexMax (knownType type))
        offset span := by
  unfold AudioPolicyManager.mapVoltoCustomVol
  split_ifs with hvoice htype htype
  · exact voice_fits_iff hoffset hle hspan
  · exact absurd hvoice htype
  · exact absurd htype hvoice
  · exact stream_fits_iff hoffset hspan _ _

/-- An index is in the range of its stream. -/
structure AudioPolicyManager.InRange (manager : AudioPolicyManager) (stream index : Int) : Prop where
  min_le : manager.mVolumeCurves.indexMin stream ≤ index
  le_max : index ≤ manager.mVolumeCurves.indexMax stream

theorem scale_safe (manager : AudioPolicyManager) (stream index : Int) :
    (manager.scale stream index).All Event.Safe := by
  have hlt := manager.mVolumeCurves.min_lt_max stream
  apply (divide_safe_iff _ _).mpr
  have hne : manager.mVolumeCurves.indexMax stream - manager.mVolumeCurves.indexMin stream ≠ 0 := by omega
  exact_mod_cast hne

theorem scale_value (manager : AudioPolicyManager) (stream index : Int) : (manager.scale stream index).value =
    scaled (index - manager.mVolumeCurves.indexMin stream)
      (manager.mVolumeCurves.indexMax stream - manager.mVolumeCurves.indexMin stream) := by
  unfold AudioPolicyManager.scale scaled
  simp only [divide_value, Int.cast_sub]

/-- A number between two whole numbers is converted to one between them. -/
theorem truncate_between {q : ℚ} {lo hi : Int} (hlo : lo ≤ q) (hhi : q ≤ hi) :
    lo ≤ truncate q ∧ truncate q ≤ hi := by
  unfold truncate
  split_ifs with hq
  · exact ⟨Int.le_floor.mpr hlo, by exact_mod_cast (Int.floor_le q).trans hhi⟩
  · rw [← Int.ceil_neg, neg_neg]
    exact ⟨by exact_mod_cast hlo.trans (Int.le_ceil q), Int.ceil_le.mpr hhi⟩

theorem replaceDTMF_safe (manager : AudioPolicyManager) (stream index : Int) :
    (manager.replaceDTMF stream index).All Event.Safe := by
  have hstep : fCUSTOM_VOLUME_MAPPING_STEP ≠ 0 := by decide
  unfold AudioPolicyManager.replaceDTMF
  split_ifs
  · rw [all_bind, all_bind, divide_safe_iff]
    exact ⟨scale_safe _ _ _, hstep, all_pure _ _⟩
  · exact all_pure _ _

/-- A share of a range of whole numbers is converted to one of them. -/
theorem share_between {lo hi : Int} (hlt : lo < hi) (hnonneg : 0 ≤ vol) (hle : vol ≤ fCUSTOM_VOLUME_MAPPING_STEP) :
    lo ≤ truncate (vol * (hi - lo) / fCUSTOM_VOLUME_MAPPING_STEP + lo) ∧
      truncate (vol * (hi - lo) / fCUSTOM_VOLUME_MAPPING_STEP + lo) ≤ hi := by
  have hspan : (0 : ℚ) < hi - lo := sub_pos.mpr (Int.cast_lt.mpr hlt)
  have hstep : 0 < fCUSTOM_VOLUME_MAPPING_STEP := by decide
  have hlower : 0 ≤ vol * (hi - lo) / fCUSTOM_VOLUME_MAPPING_STEP := by positivity
  have hupper : vol * (hi - lo) / fCUSTOM_VOLUME_MAPPING_STEP ≤ hi - lo := by
    rw [div_le_iff₀ hstep, mul_comm]
    exact mul_le_mul_of_nonneg_left hle hspan.le
  apply truncate_between
  · linarith
  · linarith

/-- The index that replaces one of the tones is in the range of the voice. -/
theorem replaceDTMF_inRange (hrange : manager.InRange stream index) :
    manager.InRange (manager.replaceDTMF stream index).value.1 (manager.replaceDTMF stream index).value.2 := by
  unfold AudioPolicyManager.replaceDTMF
  split_ifs with hreplaced
  · obtain ⟨_, rfl⟩ := hreplaced
    obtain ⟨hmin, hmax⟩ := hrange
    have htones := manager.mVolumeCurves.min_lt_max AUDIO_STREAM_DTMF
    have hnonneg := scaled_nonneg (sub_nonneg.mpr hmin) (sub_pos.mpr htones)
    have hle := scaled_le (sub_le_sub_right hmax _) (sub_pos.mpr htones)
    have hbetween := share_between (manager.mVolumeCurves.min_lt_max AUDIO_STREAM_VOICE_CALL) hnonneg hle
    rw [← scale_value, ← Int.cast_sub] at hbetween
    exact ⟨hbetween.1, hbetween.2⟩
  · exact hrange

theorem maxStepIndex_inside (levels : Int) :
    0 ≤ maxStepIndex levels ∧ maxStepIndex levels < CUSTOM_AUDIO_MAX_VOLUME_STEP := by
  have hsize : CUSTOM_AUDIO_MAX_VOLUME_STEP = 15 := rfl
  unfold maxStepIndex
  dsimp only
  split_ifs
  · omega
  · omega
  · omega

/-- All that comes before the mapping is safe. -/
theorem compute_safe_iff_mapping (manager : AudioPolicyManager) (stream index : Int) (device : Device) :
    (manager.computeCustomVolume stream index device).All Event.Safe ↔
      (manager.mapVoltoCustomVol
        (manager.mAudioCustVolumeTable.audiovolume_steamtype
          (manager.volumeType (manager.replaceDTMF stream index).value.1) device.mode)
        (manager.scale (manager.replaceDTMF stream index).value.1 (manager.replaceDTMF stream index).value.2).value
        (manager.volumeType (manager.replaceDTMF stream index).value.1)).All Event.Safe := by
  unfold AudioPolicyManager.computeCustomVolume
  rw [all_bind, all_bind, all_bind, all_bind, all_bind]
  rw [and_iff_right (replaceDTMF_safe _ _ _), and_iff_right (scale_safe _ _ _),
    and_iff_right ((read_safe_iff _ _).mpr (maxStepIndex_inside _)), and_iff_right (read_first_safe _),
    and_iff_left (all_pure _ _)]

/-- An index of a stream that is not replaced. -/
theorem safe_iff_of_kept (hkept : (manager.replaceDTMF stream index).value = (stream, index))
    (hrange : manager.InRange stream index) (device : Device) :
    (manager.computeCustomVolume stream index device).All Event.Safe ↔ manager.RowSuffices stream index := by
  have hspan := manager.mVolumeCurves.min_lt_max stream
  rw [compute_safe_iff_mapping, hkept, scale_value]
  exact mapVolto_safe_iff (sub_nonneg.mpr hrange.min_le) (sub_le_sub_right hrange.le_max _) (sub_pos.mpr hspan)

end

/-- No division by zero and no position outside of the row comes up exactly if the levels of
the stream suffice for the row at the index. -/
theorem computeCustomVolume_safe_iff (manager : AudioPolicyManager) (stream index : Int) (device : Device)
    (hrange : manager.InRange stream index) : (manager.computeCustomVolume stream index device).All Event.Safe ↔
      manager.RowSuffices (manager.replaceDTMF stream index).value.1 (manager.replaceDTMF stream index).value.2 := by
  have hspan := manager.mVolumeCurves.min_lt_max (manager.replaceDTMF stream index).value.1
  obtain ⟨hmin, hmax⟩ := replaceDTMF_inRange hrange
  rw [compute_safe_iff_mapping, scale_value]
  exact mapVolto_safe_iff (sub_nonneg.mpr hmin) (sub_le_sub_right hmax _) (sub_pos.mpr hspan)

/-- A policy manager with the same number of levels and the same range for all streams. -/
def uniform (level : UInt8) (row : Row) : AudioPolicyManager where
  mAudioCustVolumeTable := ⟨fun _ _ => row, fun _ => level⟩
  mVolumeCurves := ⟨fun _ => 0, fun _ => 15, fun _ => by decide⟩
  voiceReplaceDTMF := false
  inCommunication := false
  AUDIO_STREAM_CNT := 13

def earpiece : Device := ⟨.EARPIECE, false⟩

/-- With 14 levels the largest volume of music is read in the row. -/
theorem fourteen_levels_safe :
    ((uniform 14 fun _ => 100).computeCustomVolume AUDIO_STREAM_MUSIC 15 earpiece).All Event.Safe := by
  apply (computeCustomVolume_safe_iff (uniform 14 fun _ => 100) AUDIO_STREAM_MUSIC 15 earpiece
    ⟨by decide, by decide⟩).mpr
  decide

/-- With 15 levels the largest volume of music is read behind the row, and with a single
level a volume of the voice is divided by zero. -/
theorem fifteen_levels_not_safe :
    ¬ ((uniform 15 fun _ => 100).computeCustomVolume AUDIO_STREAM_MUSIC 15 earpiece).All Event.Safe ∧
      ¬ ((uniform 1 fun _ => 100).computeCustomVolume AUDIO_STREAM_VOICE_CALL 1 earpiece).All Event.Safe := by
  constructor
  · rw [safe_iff_of_kept rfl ⟨by decide, by decide⟩]
    decide
  · rw [safe_iff_of_kept rfl ⟨by decide, by decide⟩]
    decide

end panelli.audio
