import Panelli.Audio.StreamVolume

open panelli.trace panelli.interpolation

namespace panelli.audio

/-- The part of a step of the voice that an index loses when its volume is made whole. -/
def lostShare (offset span : Int) : ℚ := (256 * offset % span : Int) / 256

/-- The largest volume of a call. -/
def capped (type : Int) (volume : ℚ) : ℚ :=
  if type = CUSTOM_VOL_TYPE_VOICE_CALL then min volume CUSTOM_VOICE_VOLUME_MAX else volume

/-- The volume of the voice at an offset in its range: the ends of the row at the ends of the
range, volumes between the bytes of the row up to index 7, and the first byte after that. -/
def callVolume (type : Int) (level : Int → ℚ) (span offset : Int) : ℚ :=
  if offset = span then level span
  else if offset = 0 ∨ 7 < offset then level 0
  else capped type (between (level (offset - 1)) (level offset) (lostShare offset span) + 1 / 2)

/-- What is left of a volume of the voice: that of a call ends at the mapping step. -/
def degraded (type : Int) (volume : ℚ) : ℚ :=
  if type = CUSTOM_VOL_TYPE_VOICE_CALL then volume + (fCUSTOM_VOLUME_MAPPING_STEP - CUSTOM_VOICE_VOLUME_MAX)
  else volume

/-- For a row up to the byte `top`: there is a step for each index, and the volume in front of
the last byte is not above it, or the row starts with the largest volume of a call. -/
def CallRises (type : Int) (level : Int → ℚ) (top : Int) : Prop :=
  top ≤ 8 ∧ (top = 1 ∨ level (top - 1) < level top ∨
    128 ≤ (level (top - 1) - level (top - 2)) * (256 * (top - 1) % top : Int) ∨
    type = CUSTOM_VOL_TYPE_VOICE_CALL ∧ level top = CUSTOM_VOICE_VOLUME_MAX) ∨
  type = CUSTOM_VOL_TYPE_VOICE_CALL ∧ level 0 = CUSTOM_VOICE_VOLUME_MAX

/-- A stream that is treated as a voice, with a rising row of 2 up to 15 levels that is not above
the largest volume of a call, and an index for each level. -/
structure AudioPolicyManager.Call (manager : AudioPolicyManager) (stream : Int) (device : Device) : Prop where
  kept : ¬ (manager.voiceReplaceDTMF ∧ stream = AUDIO_STREAM_DTMF)
  type : IsVoice (manager.volumeType stream)
  two_le : 2 ≤ manager.getStreamMaxLevels AUDIO_STREAM_VOICE_CALL
  le_size : manager.getStreamMaxLevels AUDIO_STREAM_VOICE_CALL ≤ CUSTOM_AUDIO_MAX_VOLUME_STEP
  rising : Rising (manager.row stream device).level (manager.getStreamMaxLevels AUDIO_STREAM_VOICE_CALL)
  le_max : ∀ i, 0 ≤ i → i < manager.getStreamMaxLevels AUDIO_STREAM_VOICE_CALL →
    (manager.row stream device).level i ≤ CUSTOM_VOICE_VOLUME_MAX
  steps : manager.mVolumeCurves.indexMax stream - manager.mVolumeCurves.indexMin stream =
    manager.getStreamMaxLevels AUDIO_STREAM_VOICE_CALL - 1

/-- A volume is at a step of the voice: up to a unit behind it, and not at the step before. -/
structure AtStep (vol unitstep : ℚ) (step : Int) : Prop where
  two_le : 2 ≤ step
  le_seven : step ≤ 7
  reached : (step - 1) * unitstep ≤ vol
  above : step = 2 ∨ (step - 1) * unitstep + 1 ≤ vol
  below : vol < step * unitstep + 1

section

variable {array : Row} {vol unitstep : ℚ} {k span offset : Int}

/-- A step after the second one, by the bound of the step before. -/
theorem atStep_after {n : ℚ} (hn : (k : ℚ) = n + 1) (hlo : 2 < k) (hhi : k ≤ 7) (habove : ¬ vol < unitstep * n + 1)
    (hbelow : vol < unitstep * (n + 1) + 1) :
    ∃ step, AtStep vol unitstep step ∧ (k, vol - unitstep * n) = (step, vol - (step - 1) * unitstep) := by
  have hbefore : ((k : ℚ) - 1) * unitstep = unitstep * n := by
    rw [hn]
    ring
  have hreached : ((k : ℚ) - 1) * unitstep + 1 ≤ vol := by
    rw [hbefore]
    exact not_lt.mp habove
  refine ⟨k, ⟨hlo.le, hhi, by linarith, .inr hreached, ?_⟩, by rw [hbefore]⟩
  rwa [hn, mul_comm]

/-- The chain of steps: the first one ends without the unit that the others have, and there
is none from the eighth one on. -/
theorem mapping_Voice_vol_cases (vol unitstep : ℚ) :
    (vol < unitstep ∧ mapping_Voice_vol vol unitstep = (1, vol)) ∨
      (∃ step, AtStep vol unitstep step ∧
        mapping_Voice_vol vol unitstep = (step, vol - (step - 1) * unitstep)) ∨
      (7 * unitstep + 1 ≤ vol ∧ mapping_Voice_vol vol unitstep = (0, vol)) := by
  unfold mapping_Voice_vol
  split_ifs with h1 h2 h3 h4 h5 h6 h7
  · exact .inl ⟨h1, rfl⟩
  · refine .inr (.inl ⟨2, ⟨le_refl 2, by decide, ?_, .inl rfl, ?_⟩, ?_⟩)
    · push_cast
      linarith
    · push_cast
      linarith
    · push_cast
      ring_nf
  · exact .inr (.inl (atStep_after (by norm_num) (by decide) (by decide) h2 (by linarith)))
  · exact .inr (.inl (atStep_after (by norm_num) (by decide) (by decide) h3 (by linarith)))
  · exact .inr (.inl (atStep_after (by norm_num) (by decide) (by decide) h4 (by linarith)))
  · exact .inr (.inl (atStep_after (by norm_num) (by decide) (by decide) h5 (by linarith)))
  · exact .inr (.inl (atStep_after (by norm_num) (by decide) (by decide) h6 (by linarith)))
  · exact .inr (.inr ⟨by linarith, rfl⟩)

/-- The volume of an index, made whole, is at most a unit below the steps of the index. -/
structure NearStep (vol unitstep : ℚ) (k : Int) : Prop where
  unit : 2 ≤ unitstep
  le : vol ≤ k * unitstep
  lt : k * unitstep < vol + 1

theorem NearStep.le_of_lt {n : Int} (hnear : NearStep vol unitstep k) (hlt : vol < n * unitstep + 1) : k ≤ n := by
  obtain ⟨hunit, hle, hnext⟩ := hnear
  by_contra hnot
  have hafter : (n : ℚ) + 1 ≤ k := by exact_mod_cast Int.add_one_le_of_lt (not_le.mp hnot)
  have hmul := mul_le_mul_of_nonneg_right hafter (by linarith : 0 ≤ unitstep)
  linarith

theorem NearStep.ge_of_le {n : Int} (hnear : NearStep vol unitstep k) (hle : n * unitstep + 1 ≤ vol) : n < k := by
  obtain ⟨hunit, hk, hnext⟩ := hnear
  by_contra hnot
  have hbefore : (k : ℚ) ≤ n := by exact_mod_cast not_lt.mp hnot
  have hmul := mul_le_mul_of_nonneg_right hbefore (by linarith : 0 ≤ unitstep)
  linarith

/-- An index after the first one is at its own step. -/
theorem AtStep.eq_of_near {step : Int} (hat : AtStep vol unitstep step) (hnear : NearStep vol unitstep k)
    (hk : 2 ≤ k) : step = k := by
  have hle := hnear.le_of_lt hat.below
  obtain htwo | habove := hat.above
  · omega
  · have hge := hnear.ge_of_le (n := step - 1) (by exact_mod_cast habove)
    omega

/-- The first index is at the second step only if nothing of it is lost. -/
theorem AtStep.first_of_near {step : Int} (hat : AtStep vol unitstep step) (hnear : NearStep vol unitstep 1) :
    step = 2 := by
  obtain htwo | habove := hat.above
  · exact htwo
  · have hge := hnear.ge_of_le (n := step - 1) (by exact_mod_cast habove)
    have hlo := hat.two_le
    omega

/-- The share of the volume from a step up to the index. -/
theorem sub_div_step (hunit : unitstep ≠ 0) (k : Int) :
    1 - (vol - (k - 1) * unitstep) / unitstep = k - vol / unitstep := by
  rw [sub_div, mul_div_cancel_right₀ _ hunit]
  ring

theorem voiceBetween_at {Index : Int} {remind : ℚ}
    (hmapped : mapping_Voice_vol vol (fCUSTOM_VOLUME_MAPPING_STEP / span) = (Index, remind)) :
    (voiceBetween array span vol).value =
      if min Index span = 0 then 0
      else between (array.level (min Index span - 1)) (array.level (min Index span))
        (1 - remind / (fCUSTOM_VOLUME_MAPPING_STEP / span)) + 1 / 2 := by
  have hmin : (if Index ≥ span then span else Index) = min Index span := by
    rw [min_comm]
    exact (min_def span Index).symm
  unfold voiceBetween
  simp only [value_bind, divide_value, hmapped, interpolate_value, hmin]

/-- Between its ends the voice has the volumes between the bytes of the row for up to 7 steps,
and none after them. -/
theorem voiceBetween_value (hnear : NearStep vol (fCUSTOM_VOLUME_MAPPING_STEP / span) k) (hlo : 1 ≤ k)
    (hlt : k < span) : (voiceBetween array span vol).value =
      if k ≤ 7 then
        between (array.level (k - 1)) (array.level k) (k - vol / (fCUSTOM_VOLUME_MAPPING_STEP / span)) + 1 / 2
      else 0 := by
  have hunit : fCUSTOM_VOLUME_MAPPING_STEP / span ≠ 0 := by
    have htwo := hnear.unit
    intro hzero
    linarith
  obtain ⟨hlow, hmapped⟩ | ⟨step, hat, hmapped⟩ | ⟨hhigh, hmapped⟩ :=
    mapping_Voice_vol_cases vol (fCUSTOM_VOLUME_MAPPING_STEP / span)
  · have hone : k = 1 := by
      have hle := hnear.le_of_lt (n := 1) (by push_cast; linarith)
      omega
    rw [voiceBetween_at hmapped, hone, min_eq_left (by omega)]
    simp
  · rw [voiceBetween_at hmapped]
    obtain rfl | hafter := hlo.eq_or_lt
    · -- the whole first step counts as nothing of the second one
      obtain rfl := hat.first_of_near hnear
      have hwhole : vol = fCUSTOM_VOLUME_MAPPING_STEP / span := by
        have hle := hnear.le
        have hge := hat.reached
        push_cast at hle hge
        linarith
      rw [min_eq_left (by omega), sub_div_step hunit, hwhole, div_self hunit]
      norm_num
    · obtain rfl := hat.eq_of_near hnear hafter
      have hle := hat.le_seven
      rw [min_eq_left hlt.le, if_neg (by omega), if_pos hle, sub_div_step hunit]
  · have hseven := hnear.ge_of_le (n := 7) hhigh
    rw [voiceBetween_at hmapped, min_eq_left (by omega), if_pos rfl, if_neg (by omega)]

/-- The index of the voice, made whole, is near its step. -/
theorem nearStep_scaled (hspan : 0 < span) (hsize : span ≤ 128) (offset : Int) :
    NearStep (256 * offset / span : Int) (fCUSTOM_VOLUME_MAPPING_STEP / span) offset := by
  have hspan' : (0 : ℚ) < span := Int.cast_pos.mpr hspan
  have hsize' : (span : ℚ) ≤ 128 := by exact_mod_cast hsize
  have hsum := Int.mul_ediv_add_emod (256 * offset) span
  have hnonneg := Int.emod_nonneg (256 * offset) hspan.ne'
  have hlt := Int.emod_lt_of_pos (256 * offset) hspan
  have hstep : fCUSTOM_VOLUME_MAPPING_STEP = 256 := rfl
  generalize 256 * offset / span = whole at hsum ⊢
  have hlower : (span : ℚ) * whole ≤ 256 * offset := by
    have hle : span * whole ≤ 256 * offset := by omega
    exact_mod_cast hle
  have hupper : 256 * offset < span * (whole + 1 : ℚ) := by
    have hle : 256 * offset < span * (whole + 1) := by
      rw [mul_add]
      omega
    exact_mod_cast hle
  rw [hstep]
  constructor
  · rw [le_div_iff₀ hspan']
    linarith
  · rw [← mul_div_assoc, le_div_iff₀ hspan']
    linarith
  · rw [← mul_div_assoc, div_lt_iff₀ hspan']
    linarith

theorem sub_whole_eq_lostShare (hspan : 0 < span) (offset : Int) :
    offset - ((256 * offset / span : Int) : ℚ) / (fCUSTOM_VOLUME_MAPPING_STEP / span) = lostShare offset span := by
  have hspan' : (span : ℚ) ≠ 0 := (Int.cast_pos.mpr hspan).ne'
  have hsum : (span : ℚ) * (256 * offset / span : Int) + (256 * offset % span : Int) = 256 * offset := by
    exact_mod_cast Int.mul_ediv_add_emod (256 * offset) span
  unfold lostShare fCUSTOM_VOLUME_MAPPING_STEP
  rw [div_div_eq_mul_div]
  linarith

variable {manager : AudioPolicyManager} {type : Int} {volume : ℚ}

theorem voiceVolume_value (hlevels : manager.getStreamMaxLevels AUDIO_STREAM_VOICE_CALL = span + 1) (hspan : 0 < span)
    (hsize : span ≤ 128) (hoffset : 0 ≤ offset) (hle : offset ≤ span) :
    (manager.voiceVolume array (truncate (scaled offset span))).value =
      if offset = span then array.level span
      else if offset = 0 then array.level 0
      else if offset ≤ 7 then between (array.level (offset - 1)) (array.level offset) (lostShare offset span) + 1 / 2
      else 0 := by
  have hstep : fCUSTOM_VOLUME_MAPPING_STEP = ((256 : Int) : ℚ) := rfl
  have hmax : maxVoiceIndex (manager.getStreamMaxLevels AUDIO_STREAM_VOICE_CALL) = span := by
    rw [hlevels, maxVoiceIndex, if_neg (by omega), add_sub_cancel_right]
  have hzero : 256 * offset / span = 0 ↔ offset = 0 := by
    rw [Int.ediv_eq_iff_of_pos hspan]
    omega
  have htop : 256 ≤ 256 * offset / span ↔ offset = span := by
    rw [Int.le_ediv_iff_mul_le hspan]
    omega
  unfold AudioPolicyManager.voiceVolume
  simp only [value_ite, hmax, truncate_scaled hoffset hspan, ge_iff_le, Int.cast_eq_zero, hzero]
  rw [hstep]
  simp only [Int.cast_le, htop]
  by_cases hend : offset = span
  · rw [if_pos hend, if_pos hend, if_neg (by omega)]
    rfl
  · rw [if_neg hend, if_neg hend]
    by_cases hfirst : offset = 0
    · rw [if_pos hfirst, if_pos hfirst]
      rfl
    · rw [if_neg hfirst, if_neg hfirst,
        voiceBetween_value (nearStep_scaled hspan hsize offset) (by omega) (by omega), sub_whole_eq_lostShare hspan]

theorem capped_of_le (hle : volume ≤ CUSTOM_VOICE_VOLUME_MAX) : capped type volume = volume := by
  unfold capped
  split_ifs
  · exact min_eq_left hle
  · rfl

/-- A volume from the first byte up to 253 is only capped. -/
theorem limitVoice_inside (hfirst : array.level 0 ≤ volume) (hle : volume ≤ 253) :
    (limitVoice array type volume).value = capped type volume := by
  have hclamp : clamp (array.level 0) volume = volume := by
    unfold clamp
    rw [if_neg (not_lt.mpr hle)]
    split_ifs with hlow
    · exact hfirst.antisymm hlow
    · rfl
  unfold limitVoice
  split_ifs with hhigh
  · obtain ⟨habove, rfl⟩ := hhigh
    exact (min_eq_right habove.le).symm
  · rw [clampVolume_value, hclamp]
    unfold capped
    split_ifs with htype
    · rw [min_eq_left]
      exact not_lt.mp fun habove => hhigh ⟨habove, htype⟩
    · rfl

/-- No volume counts as the first byte. -/
theorem limitVoice_zero (array : Row) (type : Int) : (limitVoice array type 0).value = array.level 0 := by
  have hnot : ¬ ((0 : ℚ) > CUSTOM_VOICE_VOLUME_MAX ∧ type = CUSTOM_VOL_TYPE_VOICE_CALL) := by
    intro habove
    exact absurd habove.1 (by decide)
  rw [limitVoice, if_neg hnot, clampVolume_value, clamp, if_neg (by decide), if_pos (array.level_nonneg 0)]

theorem degradeVoice_vol (type : Int) (volume : ℚ) : (degradeVoice type volume).value.vol = degraded type volume := by
  unfold degradeVoice degraded
  split_ifs
  · simp only [value_bind, value_pure, divide_value]
    unfold CUSTOM_VOICE_ONEDB_STEP
    ring
  · rfl

theorem lostShare_nonneg (hspan : 0 < span) (offset : Int) : 0 ≤ lostShare offset span := by
  have hnonneg := Int.emod_nonneg (256 * offset) hspan.ne'
  unfold lostShare
  positivity

theorem lostShare_le_half (hspan : 0 < span) (hsize : span ≤ 128) (offset : Int) : lostShare offset span ≤ 1 / 2 := by
  have hlt : 256 * offset % span ≤ 128 := by
    have hmod := Int.emod_lt_of_pos (256 * offset) hspan
    omega
  have hlt' : ((256 * offset % span : Int) : ℚ) ≤ 128 := by exact_mod_cast hlt
  unfold lostShare
  linarith

/-- A row of the voice: it rises up to its last byte `top`, which is a volume of a call. -/
structure Row.Voice (array : Row) (top : Int) : Prop where
  pos : 0 < top
  size : top < CUSTOM_AUDIO_MAX_VOLUME_STEP
  rising : Rising array.level (top + 1)
  le_max : array.level top ≤ CUSTOM_VOICE_VOLUME_MAX

theorem Row.Voice.between_bounds (hrow : array.Voice span) (hlo : 1 ≤ offset) (hhi : offset ≤ span) :
    array.level (offset - 1) ≤ between (array.level (offset - 1)) (array.level offset) (lostShare offset span) ∧
      between (array.level (offset - 1)) (array.level offset) (lostShare offset span) ≤ array.level offset := by
  have hsize : span < 15 := hrow.size
  have hle := hrow.rising (offset - 1) offset (by omega) (by omega) (by omega)
  have hhalf := lostShare_le_half hrow.pos (by omega) offset
  exact ⟨low_le_between hle (by linarith), between_le_high hle (lostShare_nonneg hrow.pos offset)⟩

theorem Row.Voice.level_bounds (hrow : array.Voice span) (hlo : 0 ≤ offset) (hhi : offset ≤ span) :
    array.level 0 ≤ array.level offset ∧ array.level offset ≤ CUSTOM_VOICE_VOLUME_MAX :=
  ⟨hrow.rising 0 offset (le_refl 0) hlo (by omega), (hrow.rising offset span hlo hhi (by omega)).trans hrow.le_max⟩

theorem Row.Voice.first_lt (hrow : array.Voice span) (hlo : 1 ≤ offset) (hhi : offset ≤ span) :
    array.level 0 < between (array.level (offset - 1)) (array.level offset) (lostShare offset span) + 1 / 2 := by
  obtain ⟨habove, _⟩ := hrow.between_bounds hlo hhi
  obtain ⟨hbefore, _⟩ := hrow.level_bounds (sub_nonneg.mpr hlo) (by omega)
  linarith

/-- The mapping of the voice in terms of the index. -/
theorem mapVoiceVol_vol (hlevels : manager.getStreamMaxLevels AUDIO_STREAM_VOICE_CALL = span + 1)
    (hrow : array.Voice span) (hoffset : 0 ≤ offset) (hle : offset ≤ span) (type : Int) :
    (manager.mapVoiceVoltoCustomVol array (scaled offset span) type).value.vol =
      degraded type (callVolume type array.level span offset) := by
  have hsize : span < 15 := hrow.size
  have hmost : CUSTOM_VOICE_VOLUME_MAX = 160 := rfl
  have hbyte : ∀ i, 0 ≤ i → i ≤ span → (limitVoice array type (array.level i)).value = array.level i := by
    intro i hlo hhi
    obtain ⟨hfirst, hmax⟩ := hrow.level_bounds hlo hhi
    rw [limitVoice_inside hfirst (hmax.trans (by decide)), capped_of_le hmax]
  unfold AudioPolicyManager.mapVoiceVoltoCustomVol
  rw [value_bind, value_bind, degradeVoice_vol, voiceVolume_value hlevels hrow.pos (by omega) hoffset hle]
  apply congrArg (degraded type)
  unfold callVolume
  by_cases hend : offset = span
  · rw [if_pos hend, if_pos hend]
    exact hbyte span hrow.pos.le (le_refl span)
  · rw [if_neg hend, if_neg hend]
    by_cases hfirst : offset = 0
    · rw [if_pos hfirst, if_pos (.inl hfirst)]
      exact hbyte 0 (le_refl 0) hrow.pos.le
    · rw [if_neg hfirst]
      by_cases hlow : offset ≤ 7
      · have hone : 1 ≤ offset := by omega
        have habove := hrow.first_lt hone hle
        obtain ⟨_, hbelow⟩ := hrow.between_bounds hone hle
        obtain ⟨_, hmax⟩ := hrow.level_bounds hoffset hle
        rw [if_pos hlow, if_neg (by omega)]
        apply limitVoice_inside habove.le
        linarith
      · rw [if_neg hlow, if_pos (.inr (not_le.mp hlow))]
        exact limitVoice_zero array type

section Rises

variable {i j : Int} {x v w : ℚ}

theorem capped_mono (hle : v ≤ w) : capped type v ≤ capped type w := by
  unfold capped
  split_ifs
  · exact min_le_min_right _ hle
  · exact hle

/-- A capped volume is below a volume of a call also at the largest one. -/
theorem capped_le_iff (hx : x ≤ CUSTOM_VOICE_VOLUME_MAX) :
    capped type v ≤ x ↔ v ≤ x ∨ type = CUSTOM_VOL_TYPE_VOICE_CALL ∧ x = CUSTOM_VOICE_VOLUME_MAX := by
  unfold capped
  split_ifs with htype
  · rw [min_le_iff, and_iff_right htype]
    exact or_congr_right ⟨fun hle => hx.antisymm hle, fun heq => heq.ge⟩
  · exact (or_iff_left fun hcall => htype hcall.1).symm

theorem callVolume_top (type : Int) (level : Int → ℚ) (span : Int) : callVolume type level span span = level span :=
  if_pos rfl

theorem callVolume_inside (hlo : 1 ≤ offset) (hseven : offset ≤ 7) (hlt : offset < span) (type : Int)
    (level : Int → ℚ) : callVolume type level span offset =
      capped type (between (level (offset - 1)) (level offset) (lostShare offset span) + 1 / 2) := by
  rw [callVolume, if_neg hlt.ne, if_neg (by omega)]

theorem callVolume_first (hfirst : offset = 0 ∨ 7 < offset) (hlt : offset < span) (type : Int) (level : Int → ℚ) :
    callVolume type level span offset = level 0 := by
  rw [callVolume, if_neg hlt.ne, if_pos hfirst]

/-- No volume is below the first byte. -/
theorem Row.Voice.first_le (hrow : array.Voice span) (hlo : 0 ≤ i) (hhi : i ≤ span) :
    array.level 0 ≤ callVolume type array.level span i := by
  by_cases hend : i = span
  · rw [hend, callVolume_top]
    exact (hrow.level_bounds hrow.pos.le (le_refl span)).1
  · by_cases hfirst : i = 0 ∨ 7 < i
    · rw [callVolume_first hfirst (by omega)]
    · obtain ⟨_, hmax⟩ := hrow.level_bounds (le_refl 0) hrow.pos.le
      have hfirst := hrow.first_lt (by omega : 1 ≤ i) hhi
      calc array.level 0 = capped type (array.level 0) := (capped_of_le hmax).symm
        _ ≤ capped type _ := capped_mono hfirst.le
        _ = callVolume type array.level span i := (callVolume_inside (by omega) (by omega) (by omega) _ _).symm

/-- The volumes between the bytes of the row rise. -/
theorem Row.Voice.inside_mono (hrow : array.Voice span) (hlo : 1 ≤ i) (hij : i ≤ j) (hseven : j ≤ 7) (hlt : j < span) :
    callVolume type array.level span i ≤ callVolume type array.level span j := by
  obtain rfl | hafter := hij.eq_or_lt
  · exact le_refl _
  · obtain ⟨_, hbelow⟩ := hrow.between_bounds hlo (by omega)
    obtain ⟨habove, _⟩ := hrow.between_bounds (hlo.trans hij) hlt.le
    have hmono := hrow.rising i (j - 1) (by omega) (by omega) (by omega)
    rw [callVolume_inside hlo (by omega) (by omega), callVolume_inside (by omega) hseven hlt]
    apply capped_mono
    linarith

theorem Row.level_lt_iff (array : Row) : array.level i < array.level j ↔ array.level i + 1 ≤ array.level j := by
  unfold Row.level
  exact_mod_cast Iff.rfl

/-- The half unit in front of the last byte is made up for by a larger byte or by what is lost
of the step. -/
theorem Row.Voice.last_iff (hrow : array.Voice span) (hspan : 2 ≤ span) :
    between (array.level (span - 2)) (array.level (span - 1)) (lostShare (span - 1) span) + 1 / 2 ≤ array.level span ↔
      array.level (span - 1) < array.level span ∨
        128 ≤ (array.level (span - 1) - array.level (span - 2)) * (256 * (span - 1) % span : Int) := by
  have hlast := hrow.rising (span - 1) span (by omega) (by omega) (by omega)
  constructor
  · intro hle
    obtain hsame | hlarger := hlast.eq_or_lt
    · rw [between, lostShare, hsame] at hle
      apply Or.inr
      rw [hsame]
      linarith
    · exact .inl hlarger
  · intro hcases
    obtain hlarger | hlost := hcases
    · have hnext := array.level_lt_iff.mp hlarger
      have hbefore := hrow.rising (span - 2) (span - 1) (by omega) (by omega) (by omega)
      have hhigh := between_le_high hbefore (lostShare_nonneg hrow.pos (span - 1))
      linarith
    · unfold between lostShare
      linarith

theorem Row.Voice.mono_below (hrow : array.Voice span) (hlo : 0 ≤ i) (hij : i ≤ j) (hseven : j ≤ 7) (hlt : j < span) :
    callVolume type array.level span i ≤ callVolume type array.level span j := by
  by_cases hzero : i = 0
  · rw [hzero, callVolume_first (.inl rfl) hrow.pos]
    exact hrow.first_le (hlo.trans hij) hlt.le
  · exact hrow.inside_mono (by omega) hij hseven hlt

/-- With a step for each index only the last one may fall. -/
theorem Row.Voice.mono_of_last (hrow : array.Voice span) (hsteps : span ≤ 8)
    (hlast : span = 1 ∨ callVolume type array.level span (span - 1) ≤ array.level span) (hlo : 0 ≤ i) (hij : i ≤ j)
    (hhi : j ≤ span) : callVolume type array.level span i ≤ callVolume type array.level span j := by
  by_cases hend : j = span
  · rw [hend, callVolume_top]
    by_cases hsame : i = span
    · rw [hsame, callVolume_top]
    · obtain hone | hlast := hlast
      · have hzero : i = 0 := by omega
        rw [hzero, callVolume_first (.inl rfl) hrow.pos]
        exact (hrow.level_bounds hrow.pos.le (le_refl span)).1
      · exact (hrow.mono_below hlo (by omega) (by omega) (by omega)).trans hlast
  · exact hrow.mono_below hlo hij (by omega) (by omega)

/-- A row that starts with the largest volume of a call has no other one. -/
theorem Row.Voice.eq_max (hrow : array.Voice span) (htype : type = CUSTOM_VOL_TYPE_VOICE_CALL)
    (hfirst : array.level 0 = CUSTOM_VOICE_VOLUME_MAX) (hlo : 0 ≤ i) (hhi : i ≤ span) :
    callVolume type array.level span i = CUSTOM_VOICE_VOLUME_MAX := by
  apply le_antisymm
  · unfold callVolume
    split_ifs
    · exact hrow.le_max
    · exact hfirst.le
    · exact (capped_le_iff (le_refl _)).mpr (.inr ⟨htype, rfl⟩)
  · rw [← hfirst]
    exact hrow.first_le hlo hhi

theorem Row.Voice.last_step_iff (hrow : array.Voice span) (hspan : 2 ≤ span) (hsteps : span ≤ 8) :
    callVolume type array.level span (span - 1) ≤ array.level span ↔
      array.level (span - 1) < array.level span ∨
        128 ≤ (array.level (span - 1) - array.level (span - 2)) * (256 * (span - 1) % span : Int) ∨
        type = CUSTOM_VOL_TYPE_VOICE_CALL ∧ array.level span = CUSTOM_VOICE_VOLUME_MAX := by
  have hbefore : span - 1 - 1 = span - 2 := by omega
  rw [callVolume_inside (by omega) (by omega) (by omega), capped_le_iff hrow.le_max, hbefore, hrow.last_iff hspan,
    or_assoc]

/-- The eighth index has the first byte again, so it only keeps the volume of the seventh one
if both are the largest volume of a call. -/
theorem Row.Voice.full_of_eighth (hrow : array.Voice span) (hsteps : 8 < span)
    (hle : callVolume type array.level span 7 ≤ callVolume type array.level span 8) :
    type = CUSTOM_VOL_TYPE_VOICE_CALL ∧ array.level 0 = CUSTOM_VOICE_VOLUME_MAX := by
  obtain ⟨_, hmax⟩ := hrow.level_bounds (le_refl 0) hrow.pos.le
  rw [callVolume_inside (by decide) (le_refl 7) (by omega), callVolume_first (.inr (by decide)) hsteps,
    capped_le_iff hmax] at hle
  obtain hlower | hfull := hle
  · exact absurd hlower (not_le.mpr (hrow.first_lt (by decide) (by omega)))
  · exact hfull

/-- The volume of the voice rises exactly for these rows. -/
theorem Row.Voice.monotoneOn_iff (hrow : array.Voice span) (type : Int) :
    MonotoneOn (callVolume type array.level span) (Set.Icc 0 span) ↔ CallRises type array.level span := by
  have hpos := hrow.pos
  constructor
  · intro hmono
    by_cases hsteps : span ≤ 8
    · apply Or.inl
      refine ⟨hsteps, ?_⟩
      by_cases hone : span = 1
      · exact .inl hone
      · have hle := hmono ⟨by omega, by omega⟩ ⟨hpos.le, le_refl span⟩ (by omega : span - 1 ≤ span)
        rw [callVolume_top] at hle
        exact .inr ((hrow.last_step_iff (by omega) hsteps).mp hle)
    · have hle := hmono ⟨by omega, by omega⟩ ⟨by omega, by omega⟩ (by omega : (7 : Int) ≤ 8)
      exact .inr (hrow.full_of_eighth (by omega) hle)
  · intro hrises i hi j hj hij
    obtain ⟨hlo, _⟩ := hi
    obtain ⟨_, hhi⟩ := hj
    obtain ⟨hsteps, hcases⟩ | ⟨htype, hfirst⟩ := hrises
    · apply hrow.mono_of_last hsteps ?_ hlo hij hhi
      by_cases hone : span = 1
      · exact .inl hone
      · exact .inr ((hrow.last_step_iff (by omega) hsteps).mpr (hcases.resolve_left hone))
    · rw [hrow.eq_max htype hfirst hlo (hij.trans hhi), hrow.eq_max htype hfirst (hlo.trans hij) hhi]

/-- A volume is at most half a unit above the byte of its index. -/
theorem Row.Voice.le_half_above (hrow : array.Voice span) (type : Int) (hlo : 0 ≤ i) (hhi : i ≤ span) :
    callVolume type array.level span i ≤ array.level i + 1 / 2 := by
  unfold callVolume
  split_ifs with hend hfirst
  · rw [hend]
    linarith
  · have hbyte := (hrow.level_bounds hlo hhi).1
    linarith
  · have hbyte := (hrow.between_bounds (by omega : 1 ≤ i) hhi).2
    have hcapped : capped type (between (array.level (i - 1)) (array.level i) (lostShare i span) + 1 / 2) ≤
        between (array.level (i - 1)) (array.level i) (lostShare i span) + 1 / 2 := by
      unfold capped
      split_ifs
      · exact min_le_left _ _
      · exact le_refl _
    linarith

/-- If the byte of an index is above the first one then so is its volume, by a whole unit. -/
theorem Row.Voice.unit_above (hrow : array.Voice span) (type : Int) (hlo : 1 ≤ i) (hseven : i ≤ 7) (hlt : i < span)
    (hlarger : array.level 0 < array.level i) : array.level 0 + 1 ≤ callVolume type array.level span i := by
  have hsize : span < 15 := hrow.size
  have hnext := array.level_lt_iff.mp hlarger
  have hmax := (hrow.level_bounds (zero_le_one.trans hlo) hlt.le).2
  have hbefore := (hrow.level_bounds (sub_nonneg.mpr hlo) (by omega)).1
  have hstep := hrow.rising (i - 1) i (by omega) (by omega) (by omega)
  have hbetween := between_anti hstep (lostShare_le_half hrow.pos (by omega) i)
  have hcap : capped type (array.level 0 + 1) = array.level 0 + 1 := capped_of_le (hnext.trans hmax)
  rw [callVolume_inside hlo hseven hlt, ← hcap]
  apply capped_mono
  have hmiddle : between (array.level (i - 1)) (array.level i) (1 / 2) =
      (array.level (i - 1) + array.level i) / 2 := by
    unfold between
    ring
  obtain hsame | hrise := hstep.eq_or_lt
  · linarith
  · have hunit := array.level_lt_iff.mp hrise
    linarith

theorem Row.floor_le_iff (array : Row) (i : Int) : ⌊v⌋ ≤ ⌊array.level i⌋ ↔ v < array.level i + 1 := by
  have hbyte : ⌊array.level i⌋ = (array i).toNat := Int.floor_natCast _
  rw [hbyte, ← Int.lt_add_one_iff, Int.floor_lt]
  push_cast
  exact Iff.rfl

/-- As whole numbers the volumes of the voice rise exactly if there is a step for each index,
or if the seventh index has the first byte too. -/
theorem Row.Voice.floor_monotoneOn_iff (hrow : array.Voice span) (type : Int) :
    MonotoneOn (fun i => ⌊callVolume type array.level span i⌋) (Set.Icc 0 span) ↔
      span ≤ 8 ∨ array.level 7 = array.level 0 := by
  have hpos := hrow.pos
  constructor
  · intro hmono
    by_cases hsteps : span ≤ 8
    · exact .inl hsteps
    · have hle := hmono ⟨by omega, by omega⟩ ⟨by omega, by omega⟩ (by omega : (7 : Int) ≤ 8)
      dsimp only at hle
      rw [callVolume_first (.inr (by decide : (7 : Int) < 8)) (by omega), array.floor_le_iff] at hle
      apply Or.inr
      by_contra hne
      have hfirst := (hrow.level_bounds (by decide : (0 : Int) ≤ 7) (by omega)).1
      have habove := hrow.unit_above type (by decide) (le_refl 7) (by omega) (hfirst.lt_of_ne' hne)
      exact absurd hle (not_lt.mpr habove)
  · intro hcases i hi j hj hij
    obtain ⟨hlo, _⟩ := hi
    obtain ⟨_, hhi⟩ := hj
    dsimp only
    have hhalf := hrow.le_half_above type hlo (hij.trans hhi)
    by_cases hend : j = span
    · have hbyte := hrow.rising i j hlo hij (by omega)
      rw [hend, callVolume_top, array.floor_le_iff]
      rw [hend] at hbyte
      linarith
    · have hlt : i < span := by omega
      have hfirst : array.level 0 ≤ callVolume type array.level span j := hrow.first_le (hlo.trans hij) hhi
      by_cases hsteps : span ≤ 8
      · exact Int.floor_le_floor (hrow.mono_below hlo hij (by omega) (by omega))
      · -- the volumes in front of the last one are the first byte
        have hsame := hcases.resolve_left hsteps
        apply le_trans ?_ (Int.floor_le_floor hfirst)
        rw [array.floor_le_iff]
        by_cases hseven : i ≤ 7
        · have hbyte := hrow.rising i 7 hlo hseven (by omega)
          linarith
        · rw [callVolume_first (.inr (by omega)) hlt]
          exact lt_add_one _

end Rises

theorem degraded_le_iff {v w : ℚ} : degraded type v ≤ degraded type w ↔ v ≤ w := by
  unfold degraded
  split_ifs
  · exact add_le_add_iff_right _
  · exact Iff.rfl

theorem truncate_degraded (hnonneg : 0 ≤ volume) (type : Int) :
    truncate (degraded type volume) = ⌊volume⌋ + if type = CUSTOM_VOL_TYPE_VOICE_CALL then 96 else 0 := by
  have hrest : fCUSTOM_VOLUME_MAPPING_STEP - CUSTOM_VOICE_VOLUME_MAX = ((96 : Int) : ℚ) := by
    unfold fCUSTOM_VOLUME_MAPPING_STEP CUSTOM_VOICE_VOLUME_MAX
    norm_num
  unfold degraded
  rw [hrest]
  split_ifs
  · rw [truncate_of_nonneg (by positivity), Int.floor_add_intCast]
  · rw [truncate_of_nonneg hnonneg, add_zero]

theorem truncate_degraded_le_iff {v w : ℚ} (hv : 0 ≤ v) (hw : 0 ≤ w) :
    truncate (degraded type v) ≤ truncate (degraded type w) ↔ ⌊v⌋ ≤ ⌊w⌋ := by
  rw [truncate_degraded hv, truncate_degraded hw, add_le_add_iff_right]

variable {stream : Int} {device : Device}

theorem AudioPolicyManager.Call.row (hcall : manager.Call stream device) :
    (manager.row stream device).Voice (manager.getStreamMaxLevels AUDIO_STREAM_VOICE_CALL - 1) := by
  have htwo := hcall.two_le
  have hsize := hcall.le_size
  refine ⟨by omega, by omega, ?_, hcall.le_max _ (by omega) (by omega)⟩
  rw [sub_add_cancel]
  exact hcall.rising

/-- The volume of a call. -/
theorem AudioPolicyManager.Call.value (hcall : manager.Call stream device) {index : Int}
    (hrange : manager.InRange stream index) :
    (manager.computeCustomVolume stream index device).value =
      degraded (manager.volumeType stream) (callVolume (manager.volumeType stream) (manager.row stream device).level
        (manager.getStreamMaxLevels AUDIO_STREAM_VOICE_CALL - 1) (index - manager.mVolumeCurves.indexMin stream)) := by
  obtain ⟨hmin, hmax⟩ := hrange
  have hsteps := hcall.steps
  have htype : manager.volumeType stream = CUSTOM_VOL_TYPE_VOICE_CALL ∨
      manager.volumeType stream = CUSTOM_VOL_TYPE_SIP := hcall.type
  rw [computeCustomVolume_value hcall.kept, AudioPolicyManager.mapVoltoCustomVol, if_pos htype, hsteps]
  exact mapVoiceVol_vol (sub_add_cancel _ _).symm hcall.row (by omega) (by omega) _

end

/-- Turning the volume of a call up never makes it quieter exactly if there are at most 9 levels
and the last byte makes up for the half unit in front of it, or all bytes are the largest
volume of a call. -/
theorem call_volume_monotoneOn_iff (manager : AudioPolicyManager) (stream : Int) (device : Device)
    (hcall : manager.Call stream device) :
    MonotoneOn (fun index => (manager.computeCustomVolume stream index device).value)
        (Set.Icc (manager.mVolumeCurves.indexMin stream) (manager.mVolumeCurves.indexMax stream)) ↔
      CallRises (manager.volumeType stream) (manager.row stream device).level
        (manager.getStreamMaxLevels AUDIO_STREAM_VOICE_CALL - 1) := by
  rw [← hcall.row.monotoneOn_iff]
  apply monotoneOn_iff_offset hcall.steps
  intro i j hi hi' hj hj'
  rw [hcall.value ⟨hi, hi'⟩, hcall.value ⟨hj, hj'⟩, degraded_le_iff]

/-- The volume of a call as `linearToLog` gets it, which is a whole number: it never falls
exactly if there are at most 9 levels or the seventh index has the first byte too. -/
theorem whole_call_volume_monotoneOn_iff (manager : AudioPolicyManager) (stream : Int) (device : Device)
    (hcall : manager.Call stream device) :
    MonotoneOn (fun index => truncate (manager.computeCustomVolume stream index device).value)
        (Set.Icc (manager.mVolumeCurves.indexMin stream) (manager.mVolumeCurves.indexMax stream)) ↔
      manager.getStreamMaxLevels AUDIO_STREAM_VOICE_CALL ≤ 9 ∨
        (manager.row stream device).level 7 = (manager.row stream device).level 0 := by
  have hlevels : manager.getStreamMaxLevels AUDIO_STREAM_VOICE_CALL ≤ 9 ↔
      manager.getStreamMaxLevels AUDIO_STREAM_VOICE_CALL - 1 ≤ 8 := by omega
  rw [hlevels, ← hcall.row.floor_monotoneOn_iff (manager.volumeType stream)]
  apply monotoneOn_iff_offset hcall.steps
  intro i j hi hi' hj hj'
  have hsteps := hcall.steps
  have hfirst := (manager.row stream device).level_nonneg 0
  rw [hcall.value ⟨hi, hi'⟩, hcall.value ⟨hj, hj'⟩]
  apply truncate_degraded_le_iff
  · exact hfirst.trans (hcall.row.first_le (by omega) (by omega))
  · exact hfirst.trans (hcall.row.first_le (by omega) (by omega))

/-- A policy manager with the same number of levels for all streams, and an index for each level. -/
def indexed (level : UInt8) (row : Row) (hlevel : 2 ≤ level.toNat) : AudioPolicyManager :=
  { uniform level row with mVolumeCurves := ⟨fun _ => 0, fun _ => level.toNat - 1, fun _ => by omega⟩ }

theorem indexed_call (level : UInt8) (distance : Nat) (hlevel : 2 ≤ level.toNat) (hsize : level.toNat ≤ 15)
    (hmax : distance * (level.toNat - 1) ≤ 60) :
    (indexed level (steadyRow distance) hlevel).Call AUDIO_STREAM_VOICE_CALL earpiece := by
  have hlevels : (indexed level (steadyRow distance) hlevel).getStreamMaxLevels AUDIO_STREAM_VOICE_CALL =
      level.toNat := rfl
  have hsize' : (level.toNat : Int) ≤ CUSTOM_AUDIO_MAX_VOLUME_STEP := Int.ofNat_le.mpr hsize
  constructor
  · intro hreplaced
    exact absurd hreplaced.2 (by decide)
  · exact .inl rfl
  · omega
  · rwa [hlevels]
  · exact steadyRow_rising (hmax.trans (by decide))
  · intro i hlo hhi
    have hi : distance * i.toNat ≤ distance * (level.toNat - 1) := Nat.mul_le_mul_left _ (by omega)
    have hi' : (distance : ℚ) * i.toNat ≤ 60 := by exact_mod_cast hi.trans hmax
    have hlevel : (steadyRow distance).level i = 100 + distance * i.toNat := steadyRow_level (by omega)
    have hmost : CUSTOM_VOICE_VOLUME_MAX = 160 := rfl
    rw [hmost]
    exact hlevel.trans_le (by linarith)
  · exact sub_zero _

/-- The volume of a call with 7 levels rises on a row without two equal bytes. -/
theorem seven_levels_call_rises :
    MonotoneOn
      (fun index =>
        ((indexed 7 (steadyRow 10) (by decide)).computeCustomVolume AUDIO_STREAM_VOICE_CALL index earpiece).value)
      (Set.Icc 0 6) :=
  (call_volume_monotoneOn_iff (indexed 7 (steadyRow 10) (by decide)) AUDIO_STREAM_VOICE_CALL earpiece
    (indexed_call 7 10 (by decide) (by decide) (by decide))).mpr
    (.inl ⟨by decide, .inr (.inl (by decide +kernel))⟩)

/-- With 15 levels the eighth index is quieter than the seventh one. -/
theorem fifteen_levels_call_falls :
    (indexed 15 (steadyRow 4) (by decide)).Call AUDIO_STREAM_VOICE_CALL earpiece ∧
      ¬ ((indexed 15 (steadyRow 4) (by decide)).computeCustomVolume AUDIO_STREAM_VOICE_CALL 7 earpiece).value ≤
        ((indexed 15 (steadyRow 4) (by decide)).computeCustomVolume AUDIO_STREAM_VOICE_CALL 8 earpiece).value := by
  have hcall := indexed_call 15 4 (by decide) (by decide) (by decide)
  refine ⟨hcall, ?_⟩
  rw [hcall.value ⟨by decide, by decide⟩, hcall.value ⟨by decide, by decide⟩, degraded_le_iff]
  intro hle
  have hfull := hcall.row.full_of_eighth (by decide) hle
  exact absurd hfull.2 (by decide)

end panelli.audio
