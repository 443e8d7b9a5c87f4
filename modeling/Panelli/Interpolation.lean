import Mathlib.Algebra.Order.Field.Basic
import Mathlib.Algebra.Order.Floor.Ring
import Mathlib.Data.Int.ConditionallyCompleteOrder
import Mathlib.Tactic.Linarith
import Mathlib.Tactic.Ring

namespace panelli.interpolation

variable {K : Type} [Field K] [LinearOrder K] [IsStrictOrderedRing K]

/-- The point that a share below `high` on the way from `low`. -/
def between (low high share : K) : K := high - (high - low) * share

section

variable {low high share share' : K}

omit [LinearOrder K] [IsStrictOrderedRing K] in
@[simp] theorem between_one : between low high 1 = low := by
  unfold between
  ring

omit [LinearOrder K] [IsStrictOrderedRing K] in
@[simp] theorem between_zero : between low high 0 = high := by
  unfold between
  ring

theorem between_le_high (hle : low ≤ high) (hshare : 0 ≤ share) : between low high share ≤ high := by
  have hpart := mul_nonneg (sub_nonneg.mpr hle) hshare
  unfold between
  linarith

/-- A larger share is further down. -/
theorem between_anti (hle : low ≤ high) (hshare : share ≤ share') :
    between low high share' ≤ between low high share := by
  have hpart := mul_le_mul_of_nonneg_left hshare (sub_nonneg.mpr hle)
  unfold between
  linarith

theorem low_le_between (hle : low ≤ high) (hshare : share ≤ 1) : low ≤ between low high share := by
  have hpart := between_anti hle hshare
  rwa [between_one] at hpart

end

section

variable [FloorRing K] {a : Int → K} {n : Int} {x y : K}

/-- Elements of a sequence are joined by straight lines: from the element `i - 1` at the
point `i` to the next one. -/
def interpolated (a : Int → K) (x : K) : K := between (a (⌊x⌋ - 1)) (a ⌊x⌋) (1 + ⌊x⌋ - x)

/-- The first elements of a sequence are in order. -/
def Rising (a : Int → K) (n : Int) : Prop := ∀ i j, 0 ≤ i → i ≤ j → j < n → a i ≤ a j

/-- At the end of the sequence its element there has no weight. -/
theorem interpolated_end : interpolated a (n : K) = a (n - 1) := by
  rw [interpolated, Int.floor_intCast, add_sub_cancel_right, between_one]

/-- A point inside is not above the next element. -/
theorem interpolated_le (hrising : Rising a n) (hx : 1 ≤ x) (hlt : ⌊x⌋ < n) : interpolated a x ≤ a ⌊x⌋ := by
  have hfloor : 1 ≤ ⌊x⌋ := Int.le_floor.mpr (by exact_mod_cast hx)
  apply between_le_high (hrising _ _ (by omega) (by omega) hlt)
  have hnext := Int.lt_floor_add_one x
  linarith

/-- A point is not below the last element. -/
theorem le_interpolated (hrising : Rising a n) (hx : 1 ≤ x) (hend : x ≤ n) :
    a (⌊x⌋ - 1) ≤ interpolated a x := by
  have hfloor : 1 ≤ ⌊x⌋ := Int.le_floor.mpr (by exact_mod_cast hx)
  obtain heq | hlt := hend.eq_or_lt
  · rw [heq, interpolated_end, Int.floor_intCast]
  · apply low_le_between (hrising _ _ (by omega) (by omega) (Int.floor_lt.mpr hlt))
    have hle := Int.floor_le x
    linarith

/-- The lines rise as far as the sequence does, whatever follows it. -/
theorem interpolated_mono (hrising : Rising a n) (hx : 1 ≤ x) (hxy : x ≤ y) (hend : y ≤ n) :
    interpolated a x ≤ interpolated a y := by
  have hfloor : 1 ≤ ⌊x⌋ := Int.le_floor.mpr (by exact_mod_cast hx)
  obtain heq | hlt := (Int.floor_le_floor hxy).eq_or_lt
  · obtain hlast | hinside := hend.eq_or_lt
    · have hle := Int.floor_le x
      rw [heq, hlast, Int.floor_intCast] at hle
      have hsame : x = y := le_antisymm hxy (hlast.le.trans hle)
      rw [hsame]
    · have hnext := Int.floor_lt.mpr hinside
      rw [interpolated, interpolated, heq]
      apply between_anti (hrising _ _ (by omega) (by omega) hnext)
      linarith
  · have hy : ⌊y⌋ ≤ n := by exact_mod_cast (Int.floor_le y).trans hend
    calc interpolated a x ≤ a ⌊x⌋ := interpolated_le hrising hx (by omega)
      _ ≤ a (⌊y⌋ - 1) := hrising _ _ (by omega) (by omega) (by omega)
      _ ≤ interpolated a y := le_interpolated hrising (hx.trans hxy) hend

end

/-- A function on a range is compared with another one on the offsets in it. -/
theorem monotoneOn_iff_offset {α β : Type} [Preorder α] [Preorder β] {f : Int → α} {g : Int → β} {lo hi n : Int}
    (hn : hi - lo = n)
    (hiff : ∀ i j, lo ≤ i → i ≤ hi → lo ≤ j → j ≤ hi → (f i ≤ f j ↔ g (i - lo) ≤ g (j - lo))) :
    MonotoneOn f (Set.Icc lo hi) ↔ MonotoneOn g (Set.Icc 0 n) := by
  constructor
  · intro hmono i hi j hj hij
    obtain ⟨hlo, hhi⟩ := hi
    obtain ⟨hlo', hhi'⟩ := hj
    have hle := hmono ⟨by omega, by omega⟩ ⟨by omega, by omega⟩ (add_le_add_left hij lo)
    rw [hiff _ _ (by omega) (by omega) (by omega) (by omega), add_sub_cancel_right, add_sub_cancel_right] at hle
    exact hle
  · intro hmono i hi j hj hij
    obtain ⟨hlo, hhi⟩ := hi
    obtain ⟨hlo', hhi'⟩ := hj
    apply (hiff i j hlo hhi hlo' hhi').mpr
    exact hmono ⟨by omega, by omega⟩ ⟨by omega, by omega⟩ (by omega)

end panelli.interpolation
