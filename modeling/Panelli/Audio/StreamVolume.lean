import Panelli.Audio.RowPositions
import Panelli.Interpolation

open panelli.trace panelli.interpolation

namespace panelli.audio

/-- The bytes of a row as numbers. -/
def Row.level (array : Row) (i : Int) : ℚ := (array i).toNat

/-- The clamp on a volume, for the first byte of a row. -/
def clamp (first volume : ℚ) : ℚ :=
  if volume > 253 then fCUSTOM_VOLUME_MAPPING_STEP else if volume ≤ first then first else volume

/-- The volume at a number of steps, which need not be whole. -/
def stepped (level : Int → ℚ) (steps : ℚ) : ℚ := if ⌊steps⌋ = 0 then 0 else interpolated level steps + 1 / 2

/-- The volume of a stream for an index with this offset in its range. -/
def offsetVolume (level : Int → ℚ) (levels indexMax offset span : Int) : ℚ :=
  if offset = 0 then 0
  else if offset * indexMax < span then level 0
  else clamp (level 0) (stepped level (offset * levels / span))

/-- The row of the table for a stream on a device. -/
def AudioPolicyManager.row (manager : AudioPolicyManager) (stream : Int) (device : Device) : Row :=
  manager.mAudioCustVolumeTable.audiovolume_steamtype (manager.volumeType stream) device.mode

/-- A stream that is not treated as a voice, with a rising row of at least one level, of no more
than a row has bytes, and not too many steps. -/
structure AudioPolicyManager.OtherStream (manager : AudioPolicyManager) (stream : Int) (device : Device) : Prop where
  kept : ¬ (manager.voiceReplaceDTMF ∧ stream = AUDIO_STREAM_DTMF)
  type : ¬ IsVoice (manager.volumeType stream)
  levels : 1 ≤ manager.getStreamMaxLevels (knownType (manager.volumeType stream))
  levels_le : manager.getStreamMaxLevels (knownType (manager.volumeType stream)) ≤ CUSTOM_AUDIO_MAX_VOLUME_STEP
  rising : Rising (manager.row stream device).level (manager.getStreamMaxLevels (knownType (manager.volumeType stream)))
  steps : (manager.mVolumeCurves.indexMax stream - manager.mVolumeCurves.indexMin stream) *
    manager.getStreamMaxLevels (knownType (manager.volumeType stream)) < 512

/-- Volumes that do not fall from the smallest index to the largest, from 0 at the smallest
one, and from there on between a first volume and the mapping step. -/
structure RisesFrom (first : ℚ) (lo hi : Int) (volume : Int → ℚ) : Prop where
  mono : MonotoneOn volume (Set.Icc lo hi)
  min_eq : volume lo = 0
  first_le : ∀ i, lo < i → i ≤ hi → first ≤ volume i
  le_step : ∀ i, lo ≤ i → i ≤ hi → volume i ≤ fCUSTOM_VOLUME_MAPPING_STEP

section

variable {array : Row} {vol unitstep first v w x y : ℚ} {level : Int → ℚ} {levels indexMax offset offset' span : Int}

theorem clampVolume_value (array : Row) (volume : ℚ) :
    (clampVolume array volume).value = clamp (array.level 0) volume := by
  unfold clampVolume clamp
  split_ifs with hhigh hlow
  · rfl
  · exact if_pos hlow
  · exact if_neg hlow

theorem clamp_mono (hfirst : first ≤ fCUSTOM_VOLUME_MAPPING_STEP) (hle : v ≤ w) : clamp first v ≤ clamp first w := by
  unfold clamp fCUSTOM_VOLUME_MAPPING_STEP at *
  split_ifs <;> linarith

theorem le_clamp (hfirst : first ≤ fCUSTOM_VOLUME_MAPPING_STEP) (v : ℚ) : first ≤ clamp first v := by
  unfold clamp
  split_ifs
  · exact hfirst
  · exact le_refl first
  · linarith

theorem clamp_le (hfirst : first ≤ fCUSTOM_VOLUME_MAPPING_STEP) (v : ℚ) :
    clamp first v ≤ fCUSTOM_VOLUME_MAPPING_STEP := by
  unfold clamp fCUSTOM_VOLUME_MAPPING_STEP at *
  split_ifs <;> linarith

theorem stepped_mono (hrising : Rising level levels) (hnonneg : ∀ i, 0 ≤ level i) (hx : 0 ≤ x) (hxy : x ≤ y)
    (hend : y ≤ levels) : stepped level x ≤ stepped level y := by
  have hfloor : 0 ≤ ⌊x⌋ := Int.floor_nonneg.mpr hx
  have hle := Int.floor_le_floor hxy
  unfold stepped
  split_ifs with hzero hzero' hzero'
  · exact le_refl 0
  · have hone : 1 ≤ y := by
      have hfloor' : 1 ≤ ⌊y⌋ := by omega
      exact_mod_cast Int.le_floor.mp hfloor'
    have hlast := le_interpolated hrising hone hend
    have hpos := hnonneg (⌊y⌋ - 1)
    linarith
  · omega
  · have hone : 1 ≤ x := by
      have hfloor' : 1 ≤ ⌊x⌋ := by omega
      exact_mod_cast Int.le_floor.mp hfloor'
    have hmono := interpolated_mono hrising hone hxy hend
    linarith

theorem scaled_div_unit (hlevels : 0 < levels) :
    scaled offset span / (fCUSTOM_VOLUME_MAPPING_STEP / levels) = offset * levels / span := by
  have hlevels' : (levels : ℚ) ≠ 0 := (Int.cast_pos.mpr hlevels).ne'
  unfold scaled fCUSTOM_VOLUME_MAPPING_STEP
  field_simp

/-- With few steps the half unit that is added to a volume does not lead to another step. -/
theorem floor_half_unit (hspan : 0 < span) (hlevels : 0 < levels) (hsteps : span * levels < 512) :
    ⌊(scaled offset span + 1 / 2) / (fCUSTOM_VOLUME_MAPPING_STEP / levels)⌋ = ⌊(offset * levels / span : ℚ)⌋ := by
  have hspan' : (0 : ℚ) < span := Int.cast_pos.mpr hspan
  have hlevels' : (0 : ℚ) < levels := Int.cast_pos.mpr hlevels
  have hhalf : (scaled offset span + 1 / 2) / (fCUSTOM_VOLUME_MAPPING_STEP / levels) =
      offset * levels / span + levels / 512 := by
    rw [add_div, scaled_div_unit hlevels]
    unfold fCUSTOM_VOLUME_MAPPING_STEP
    field_simp
    ring
  rw [hhalf, Int.floor_eq_iff]
  have hle := Int.floor_le (offset * levels / span : ℚ)
  have hlt := Int.lt_floor_add_one (offset * levels / span : ℚ)
  generalize ⌊(offset * levels / span : ℚ)⌋ = step at hle hlt ⊢
  have hunit : 0 < (levels : ℚ) / 512 := by positivity
  refine ⟨by linarith, ?_⟩
  -- the next step is further away than one part of the span
  have hnext : offset * levels + 1 ≤ (step + 1) * span := by
    have hbelow := (div_lt_iff₀ hspan').mp hlt
    exact_mod_cast hbelow
  have hnext' : (offset : ℚ) * levels + 1 ≤ (step + 1) * span := by exact_mod_cast hnext
  have hsteps' : (span : ℚ) * levels < 512 := by exact_mod_cast hsteps
  rw [div_add_div _ _ hspan'.ne' (by norm_num), div_lt_iff₀ (by positivity)]
  linarith

theorem interpolate_value (array : Row) (Index : Int) (Remind : ℚ) : (interpolate array Index Remind).value =
    if Index = 0 then 0 else between (array.level (Index - 1)) (array.level Index) Remind + 1 / 2 := by
  unfold interpolate
  by_cases hzero : Index = 0
  · rw [if_neg (not_not.mpr hzero), if_pos hzero]
    rfl
  · rw [if_pos hzero, if_neg hzero]
    rfl

/-- The volume at a step, between two bytes of the row. -/
theorem streamVolume_value (hvol : 0 ≤ vol) (hunit : 0 < unitstep)
    (hfloor : ⌊(vol + 1 / 2) / unitstep⌋ = ⌊vol / unitstep⌋) :
    (streamVolume array vol unitstep).value = stepped array.level (vol / unitstep) := by
  have hquotient : 0 ≤ (vol + 1 / 2) / unitstep := by positivity
  have hshare : 1 - (vol - ⌊vol / unitstep⌋ * unitstep) / unitstep = 1 + ⌊vol / unitstep⌋ - vol / unitstep := by
    rw [sub_div, mul_div_cancel_right₀ _ hunit.ne']
    ring
  unfold streamVolume mapVol stepped interpolated
  simp only [value_bind, value_pure, divide_value, truncate_of_nonneg hquotient, hfloor, hshare, interpolate_value]

theorem atLeastOne_of_pos {n : Int} (hn : 0 < n) : atLeastOne n = n := if_neg (by omega)

theorem steppedVolume_low {lowest : ℚ} (hlow : vol < lowest) :
    (steppedVolume array vol unitstep lowest).value = array.level 0 := by
  rw [steppedVolume, if_pos hlow]
  rfl

theorem steppedVolume_high {lowest : ℚ} (hhigh : ¬ vol < lowest) :
    (steppedVolume array vol unitstep lowest).value =
      clamp (array.level 0) (streamVolume array vol unitstep).value := by
  rw [steppedVolume, if_neg hhigh, value_bind, clampVolume_value]

theorem mapStreamVol_of_ne_zero (hne : vol ≠ 0) (levels indexMax : Int) :
    (mapStreamVol array vol levels indexMax).value.vol =
      (steppedVolume array vol (fCUSTOM_VOLUME_MAPPING_STEP / atLeastOne levels)
        (fCUSTOM_VOLUME_MAPPING_STEP / atLeastOne indexMax)).value := by
  rw [mapStreamVol, if_neg hne]
  rfl

/-- The mapping of a stream in terms of the index. -/
theorem mapStreamVol_vol (hoffset : 0 ≤ offset) (hspan : 0 < span) (hlevels : 0 < levels)
    (hsteps : span * levels < 512) (indexMax : Int) :
    (mapStreamVol array (scaled offset span) levels indexMax).value.vol =
      offsetVolume array.level levels (atLeastOne indexMax) offset span := by
  have hunit : 0 < fCUSTOM_VOLUME_MAPPING_STEP / levels := div_pos (by decide) (Int.cast_pos.mpr hlevels)
  have hvol := scaled_nonneg hoffset hspan
  have hzero_iff : scaled offset span = 0 ↔ offset = 0 := scaled_eq_zero_iff hspan
  have hlow_iff : scaled offset span < fCUSTOM_VOLUME_MAPPING_STEP / atLeastOne indexMax ↔
      offset * atLeastOne indexMax < span := scaled_lt_step_iff hspan (atLeastOne_pos indexMax)
  have hfloor : ⌊(scaled offset span + 1 / 2) / (fCUSTOM_VOLUME_MAPPING_STEP / levels)⌋ =
      ⌊scaled offset span / (fCUSTOM_VOLUME_MAPPING_STEP / levels)⌋ := by
    rw [scaled_div_unit hlevels]
    exact floor_half_unit hspan hlevels hsteps
  unfold offsetVolume
  split_ifs with hzero hlow
  · rw [mapStreamVol, if_pos (hzero_iff.mpr hzero)]
    exact hzero_iff.mpr hzero
  · rw [mapStreamVol_of_ne_zero (hzero_iff.not.mpr hzero), steppedVolume_low (hlow_iff.mpr hlow)]
  · rw [mapStreamVol_of_ne_zero (hzero_iff.not.mpr hzero), steppedVolume_high (hlow_iff.not.mpr hlow),
      atLeastOne_of_pos hlevels, streamVolume_value hvol hunit hfloor, scaled_div_unit hlevels]

theorem Row.level_nonneg (array : Row) (i : Int) : 0 ≤ array.level i := Nat.cast_nonneg _

theorem Row.level_le (array : Row) (i : Int) : array.level i ≤ fCUSTOM_VOLUME_MAPPING_STEP := by
  have hlt : (array i).toNat ≤ 256 := (array i).toNat_lt.le
  unfold Row.level fCUSTOM_VOLUME_MAPPING_STEP
  exact_mod_cast hlt

theorem le_offsetVolume (hoffset : 0 < offset) :
    array.level 0 ≤ offsetVolume array.level levels indexMax offset span := by
  unfold offsetVolume
  split_ifs with hzero hlow
  · omega
  · exact le_refl _
  · exact le_clamp (array.level_le 0) _

theorem offsetVolume_le (array : Row) (levels indexMax offset span : Int) :
    offsetVolume array.level levels indexMax offset span ≤ fCUSTOM_VOLUME_MAPPING_STEP := by
  unfold offsetVolume
  split_ifs with hzero hlow
  · decide
  · exact array.level_le 0
  · exact clamp_le (array.level_le 0) _

theorem steps_mono (hspan : 0 < span) (hlevels : 0 < levels) (hle : offset ≤ offset') :
    (offset * levels / span : ℚ) ≤ offset' * levels / span := by
  have hspan' : (0 : ℚ) < span := Int.cast_pos.mpr hspan
  have hlevels' : (0 : ℚ) < levels := Int.cast_pos.mpr hlevels
  have hle' : (offset : ℚ) ≤ offset' := Int.cast_le.mpr hle
  gcongr

/-- The volume does not fall with the index: the lowest indices have the first byte, below
which the clamp never gets. -/
theorem offsetVolume_mono (hrising : Rising array.level levels) (hlevels : 0 < levels) (hspan : 0 < span)
    (hindex : 0 < indexMax) (hoffset : 0 ≤ offset) (hle : offset ≤ offset') (hend : offset' ≤ span) :
    offsetVolume array.level levels indexMax offset span ≤ offsetVolume array.level levels indexMax offset' span := by
  by_cases hsame : offset = offset'
  · rw [hsame]
  · have hfirst : array.level 0 ≤ offsetVolume array.level levels indexMax offset' span := le_offsetVolume (by omega)
    have hlast : offsetVolume array.level levels indexMax offset' span =
        if offset' * indexMax < span then array.level 0
        else clamp (array.level 0) (stepped array.level (offset' * levels / span)) := if_neg (by omega)
    rw [offsetVolume]
    split_ifs with hzero hlow
    · exact (array.level_nonneg 0).trans hfirst
    · exact hfirst
    · have hhigh : ¬ offset' * indexMax < span := by
        have hmul := Int.mul_le_mul_of_nonneg_right hle hindex.le
        omega
      rw [hlast, if_neg hhigh]
      apply clamp_mono (array.level_le 0)
      have hspan' : (0 : ℚ) < span := Int.cast_pos.mpr hspan
      have hlevels' : (0 : ℚ) < levels := Int.cast_pos.mpr hlevels
      have hoffset' : (0 : ℚ) ≤ offset := Int.cast_nonneg hoffset
      apply stepped_mono hrising array.level_nonneg (by positivity) (steps_mono hspan hlevels hle)
      have hend' : (offset' : ℚ) ≤ span := Int.cast_le.mpr hend
      rw [div_le_iff₀ hspan', mul_comm]
      exact mul_le_mul_of_nonneg_left hend' hlevels'.le

end

section

variable {manager : AudioPolicyManager} {stream : Int} {device : Device}

theorem replaceDTMF_kept (hkept : ¬ (manager.voiceReplaceDTMF ∧ stream = AUDIO_STREAM_DTMF)) (index : Int) :
    (manager.replaceDTMF stream index).value = (stream, index) := by
  rw [AudioPolicyManager.replaceDTMF, if_neg hkept]
  rfl

/-- The volume of a stream that is not replaced. -/
theorem computeCustomVolume_value (hkept : ¬ (manager.voiceReplaceDTMF ∧ stream = AUDIO_STREAM_DTMF)) (index : Int) :
    (manager.computeCustomVolume stream index device).value =
      (manager.mapVoltoCustomVol (manager.row stream device)
        (scaled (index - manager.mVolumeCurves.indexMin stream)
          (manager.mVolumeCurves.indexMax stream - manager.mVolumeCurves.indexMin stream))
        (manager.volumeType stream)).value.vol := by
  unfold AudioPolicyManager.computeCustomVolume
  simp only [value_bind, value_pure, replaceDTMF_kept hkept, scale_value, AudioPolicyManager.row]

/-- The volume of another stream than the voice. -/
theorem AudioPolicyManager.OtherStream.value (hother : manager.OtherStream stream device) {index : Int}
    (hmin : manager.mVolumeCurves.indexMin stream ≤ index) :
    (manager.computeCustomVolume stream index device).value =
      offsetVolume (manager.row stream device).level
        (manager.getStreamMaxLevels (knownType (manager.volumeType stream)))
        (atLeastOne (manager.mVolumeCurves.indexMax (knownType (manager.volumeType stream))))
        (index - manager.mVolumeCurves.indexMin stream)
        (manager.mVolumeCurves.indexMax stream - manager.mVolumeCurves.indexMin stream) := by
  have hspan := manager.mVolumeCurves.min_lt_max stream
  have hlevels := hother.levels
  have htype : ¬ (manager.volumeType stream = CUSTOM_VOL_TYPE_VOICE_CALL ∨
      manager.volumeType stream = CUSTOM_VOL_TYPE_SIP) := hother.type
  rw [computeCustomVolume_value hother.kept, AudioPolicyManager.mapVoltoCustomVol, if_neg htype]
  exact mapStreamVol_vol (by omega) (by omega) (by omega) hother.steps _

end

/-- The volume of a stream other than the voice does not fall with the index. It is 0 for the
smallest one, and between the first byte of the row and 256 for the others. -/
theorem other_stream_rises (manager : AudioPolicyManager) (stream : Int) (device : Device)
    (hother : manager.OtherStream stream device) :
    RisesFrom ((manager.row stream device).level 0) (manager.mVolumeCurves.indexMin stream)
      (manager.mVolumeCurves.indexMax stream)
      fun index => (manager.computeCustomVolume stream index device).value := by
  have hspan := manager.mVolumeCurves.min_lt_max stream
  have hlevels := hother.levels
  constructor
  · intro i hi j hj hij
    obtain ⟨himin, himax⟩ := hi
    obtain ⟨hjmin, hjmax⟩ := hj
    dsimp only
    rw [hother.value himin, hother.value hjmin]
    exact offsetVolume_mono hother.rising (by omega) (by omega) (atLeastOne_pos _) (by omega) (by omega) (by omega)
  · rw [hother.value (le_refl _), sub_self]
    exact if_pos rfl
  · intro i hi _
    rw [hother.value hi.le]
    exact le_offsetVolume (by omega)
  · intro i hi _
    rw [hother.value hi]
    exact offsetVolume_le _ _ _ _ _

/-- A row that starts at 100, with the same distance from each byte to the next one. -/
def steadyRow (distance : Nat) : Row := fun i => UInt8.ofNat (100 + distance * i.toNat)

theorem steadyRow_level {distance : Nat} {i : Int} (hi : distance * i.toNat ≤ 155) :
    (steadyRow distance).level i = 100 + distance * i.toNat := by
  have hbyte : (100 + distance * i.toNat) % 2 ^ 8 = 100 + distance * i.toNat := Nat.mod_eq_of_lt (by omega)
  rw [Row.level, steadyRow, UInt8.toNat_ofNat', hbyte]
  push_cast
  rfl

theorem steadyRow_rising {distance n : Nat} (hlast : distance * (n - 1) ≤ 155) :
    Rising (steadyRow distance).level n := by
  intro i j _ hij hj
  have hle : distance * i.toNat ≤ distance * j.toNat := Nat.mul_le_mul_left _ (Int.toNat_le_toNat hij)
  have hend : distance * j.toNat ≤ distance * (n - 1) := Nat.mul_le_mul_left _ (by omega)
  have hcast : (distance : ℚ) * i.toNat ≤ distance * j.toNat := by exact_mod_cast hle
  rw [steadyRow_level (by omega), steadyRow_level (by omega)]
  linarith

/-- Music with 14 levels and 15 steps. -/
theorem music_other_stream : (uniform 14 (steadyRow 10)).OtherStream AUDIO_STREAM_MUSIC earpiece where
  kept := by decide
  type := by decide
  levels := by decide
  levels_le := by decide
  rising := steadyRow_rising (by decide : 10 * (14 - 1) ≤ 155)
  steps := by decide

/-- The volume of music rises from 0, and from the first byte from index 1 on. -/
theorem music_volume_rises :
    RisesFrom ((steadyRow 10).level 0) 0 15 fun index =>
      ((uniform 14 (steadyRow 10)).computeCustomVolume AUDIO_STREAM_MUSIC index earpiece).value :=
  other_stream_rises (uniform 14 (steadyRow 10)) AUDIO_STREAM_MUSIC earpiece music_other_stream

/-- At its smallest index the volume of music is 0, although the row starts at 100. -/
theorem music_volume_zero : (uniform 14 (steadyRow 10)).OtherStream AUDIO_STREAM_MUSIC earpiece ∧
    ¬ (steadyRow 10).level 0 ≤
      ((uniform 14 (steadyRow 10)).computeCustomVolume AUDIO_STREAM_MUSIC 0 earpiece).value := by
  have hmin : (uniform 14 (steadyRow 10)).mVolumeCurves.indexMin AUDIO_STREAM_MUSIC ≤ 0 := le_refl 0
  refine ⟨music_other_stream, ?_⟩
  rw [music_other_stream.value hmin, not_le]
  decide

end panelli.audio
