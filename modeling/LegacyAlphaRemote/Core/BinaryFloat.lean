import Mathlib.Tactic
import Mathlib.Data.Int.Log

/-!
# Binary floating point

The finite numbers of a binary format, as rational numbers: a whole number of at most `precision` bits
times a power of two that is not less than `2 ^ minExponent`.  An operation gives the number of the
format that is nearest to the exact result (`Format.round`), the one with the even last bit where two
are.  Infinities are left out: the format is one for results that are not too large for it.

* `round_intCast` — whole numbers of few enough bits are not changed.
* `near_round` — a result that is not too small is right up to one part in `2 ^ precision`.
* `Near.mul`, `Near.inv`, `Near.trans` — how such errors add up.
-/

namespace BinaryFloat

/-- A format: the bits of a significand, and the least exponent of its last bit. -/
structure Format where
  precision : ℕ
  minExponent : ℤ
  deriving DecidableEq, Repr

/-- The format of a `float`: 24 bits of significand, and -149 as the exponent of the last bit of the
smallest numbers. -/
def binary32 : Format := ⟨24, -149⟩

/-- The whole number that is nearest.  Of two that are equally near it is the even one, which is the
rounding that a machine is set to unless it is told otherwise. -/
def nearestEven (x : ℚ) : ℤ :=
  if 2 * Int.fract x < 1 then ⌊x⌋
  else if 1 < 2 * Int.fract x then ⌊x⌋ + 1
  else if Even ⌊x⌋ then ⌊x⌋ else ⌊x⌋ + 1

lemma nearestEven_intCast (n : ℤ) : nearestEven n = n := by
  simp [nearestEven]

lemma abs_nearestEven_sub_le (x : ℚ) : |(nearestEven x : ℚ) - x| ≤ 1 / 2 := by
  have hfloor : (⌊x⌋ : ℚ) = x - Int.fract x := by
    rw [eq_sub_iff_add_eq]
    exact Int.floor_add_fract x
  have hnonneg := Int.fract_nonneg x
  have hlt := Int.fract_lt_one x
  rw [nearestEven, abs_le]
  split_ifs with hless hmore heven
  · constructor <;> linarith
  · push_cast
    constructor <;> linarith
  · constructor <;> linarith
  · push_cast
    constructor <;> linarith

/-! ## Relative errors -/

/-- `y` is `x` but for a part `δ` of it: the relative error of an operation that is rounded. -/
def Near (δ x y : ℚ) : Prop := |y - x| ≤ δ * |x|

section Near

variable {δ ε x y u v : ℚ}

lemma Near.mono (h : Near δ x y) (hle : δ ≤ ε) : Near ε x y :=
  le_trans h (mul_le_mul_of_nonneg_right hle (abs_nonneg x))

lemma Near.abs_le (h : Near δ x y) : |y| ≤ (1 + δ) * |x| := by
  have hsub := abs_sub_abs_le_abs_sub y x
  rw [Near] at h
  linarith

lemma Near.le_abs (h : Near δ x y) : (1 - δ) * |x| ≤ |y| := by
  have hsub := abs_sub_abs_le_abs_sub x y
  rw [abs_sub_comm x y] at hsub
  rw [Near] at h
  linarith

/-- Half of a positive number is left at least. -/
lemma Near.half_le (h : Near δ x y) (hδ : δ ≤ 1 / 2) (hx : 0 ≤ x) : x / 2 ≤ y := by
  have hle := neg_le_of_abs_le h
  rw [abs_of_nonneg hx] at hle
  nlinarith

lemma Near.mul (hδ : 0 ≤ δ) (h : Near δ x y) (h' : Near ε u v) :
    Near (δ + ε + δ * ε) (x * u) (y * v) := by
  have hsplit : y * v - x * u = (y - x) * v + x * (v - u) := by ring
  have hfirst : |(y - x) * v| ≤ δ * |x| * ((1 + ε) * |u|) := by
    rw [abs_mul]
    exact mul_le_mul h h'.abs_le (abs_nonneg v) (by positivity)
  have hsecond : |x * (v - u)| ≤ |x| * (ε * |u|) := by
    rw [abs_mul]
    exact mul_le_mul_of_nonneg_left h' (abs_nonneg x)
  calc |y * v - x * u| ≤ |(y - x) * v| + |x * (v - u)| := by
        rw [hsplit]
        exact abs_add_le _ _
    _ ≤ δ * |x| * ((1 + ε) * |u|) + |x| * (ε * |u|) := add_le_add hfirst hsecond
    _ = (δ + ε + δ * ε) * |x * u| := by
        rw [abs_mul]
        ring

lemma Near.trans (hε : 0 ≤ ε) (h : Near δ x y) (h' : Near ε y v) :
    Near (δ + ε + δ * ε) x v := by
  calc |v - x| ≤ |v - y| + |y - x| := abs_sub_le v y x
    _ ≤ ε * ((1 + δ) * |x|) + δ * |x| :=
        add_le_add (le_trans h' (mul_le_mul_of_nonneg_left h.abs_le hε)) h
    _ = (δ + ε + δ * ε) * |x| := by ring

lemma Near.inv (hδ : δ ≤ 1 / 2) (hx : x ≠ 0) (h : Near δ x y) : Near (2 * δ) x⁻¹ y⁻¹ := by
  have hxpos : 0 < |x| := abs_pos.mpr hx
  have hhalf : |x| ≤ 2 * |y| := by
    have hle := h.le_abs
    nlinarith
  have hypos : 0 < |y| := by linarith
  have hy : y ≠ 0 := abs_pos.mp hypos
  have hsub : y⁻¹ - x⁻¹ = (x - y) / (x * y) := by
    field_simp
  rw [Near, hsub, abs_div, abs_mul, abs_inv, abs_sub_comm, div_le_iff₀ (by positivity)]
  calc |y - x| ≤ δ * |x| := h
    _ ≤ δ * (2 * |y|) := by
        have hnonneg : 0 ≤ δ := by
          by_contra hneg
          have hle := (abs_nonneg (y - x)).trans h
          nlinarith
        exact mul_le_mul_of_nonneg_left hhalf hnonneg
    _ = 2 * δ * |x|⁻¹ * (|x| * |y|) := by
        field_simp

end Near

/-! ## Rounding -/

namespace Format

variable {f : Format} {x : ℚ}

/-- The exponent of the last bit of a number of the size of `x`.  Small numbers share the least one,
so that they lose bits instead of getting finer (they are subnormal). -/
def exponent (f : Format) (x : ℚ) : ℤ :=
  max (Int.log 2 |x| - (f.precision - 1)) f.minExponent

/-- The number of the format that is nearest to `x`: `x` is scaled until its last bit counts one,
rounded to a whole number, and scaled back. -/
def round (f : Format) (x : ℚ) : ℚ :=
  nearestEven (x / 2 ^ f.exponent x) * 2 ^ f.exponent x

/-- The least number that still has all bits of a significand.  Below it the error of rounding is
absolute and not relative. -/
def leastNormal (f : Format) : ℚ := 2 ^ (f.minExponent + (f.precision - 1))

/-- The error is half a unit in the last place at most. -/
lemma abs_round_sub_le_half (f : Format) (x : ℚ) : |f.round x - x| ≤ 2 ^ f.exponent x / 2 := by
  have hpos : (0 : ℚ) < 2 ^ f.exponent x := by positivity
  have hround : f.round x - x =
      ((nearestEven (x / 2 ^ f.exponent x) : ℚ) - x / 2 ^ f.exponent x) * 2 ^ f.exponent x := by
    rw [round, sub_mul, div_mul_cancel₀ _ hpos.ne']
  rw [hround, abs_mul, abs_of_pos hpos]
  calc |(nearestEven (x / 2 ^ f.exponent x) : ℚ) - x / 2 ^ f.exponent x| * 2 ^ f.exponent x
      ≤ 1 / 2 * 2 ^ f.exponent x :=
        mul_le_mul_of_nonneg_right (abs_nearestEven_sub_le _) hpos.le
    _ = 2 ^ f.exponent x / 2 := by ring

/-- **Relative error** of rounding a number that has all bits of a significand: half a unit in its
last place. -/
theorem near_round (hx : f.leastNormal ≤ |x|) : Near (1 / 2 ^ f.precision) x (f.round x) := by
  have hpos : 0 < |x| := lt_of_lt_of_le (by rw [leastNormal]; positivity) hx
  have hlog : f.minExponent + (f.precision - 1) ≤ Int.log 2 |x| :=
    (Int.zpow_le_iff_le_log one_lt_two hpos).mp (by exact_mod_cast hx)
  have hexponent : f.exponent x = Int.log 2 |x| - (f.precision - 1) := max_eq_left (by omega)
  have hpow : (2 : ℚ) ^ Int.log 2 |x| ≤ |x| := by
    exact_mod_cast Int.zpow_log_le_self one_lt_two hpos
  calc |f.round x - x| ≤ 2 ^ f.exponent x / 2 := f.abs_round_sub_le_half x
    _ = 2 ^ Int.log 2 |x| / 2 ^ f.precision := by
        rw [hexponent, show Int.log 2 |x| - ((f.precision : ℤ) - 1) =
          Int.log 2 |x| - f.precision + 1 by ring, zpow_add_one₀ two_ne_zero,
          zpow_sub₀ two_ne_zero, zpow_natCast]
        ring
    _ ≤ 1 / 2 ^ f.precision * |x| := by
        rw [one_div_mul_eq_div]
        gcongr

/-- **Exactness**: a whole number of few enough bits is a number of the format, so that rounding
leaves it as it is. -/
theorem round_intCast (hmin : f.minExponent ≤ 0) {n : ℤ} (hn : |n| < 2 ^ f.precision) :
    f.round n = n := by
  rcases eq_or_ne n 0 with rfl | hne
  · simp [round, nearestEven]
  have hpos : (0 : ℚ) < |(n : ℚ)| := abs_pos.mpr (by exact_mod_cast hne)
  have hlog : Int.log 2 |(n : ℚ)| < f.precision := by
    rw [← Int.lt_zpow_iff_log_lt one_lt_two hpos]
    rw [← Int.cast_abs]
    exact_mod_cast hn
  have hexponent : f.exponent n ≤ 0 := max_le (by omega) hmin
  obtain ⟨k, hk⟩ : ∃ k : ℕ, f.exponent n = -k := ⟨(-f.exponent n).toNat, by omega⟩
  have hwhole : (n : ℚ) / 2 ^ f.exponent n = ((n * 2 ^ k : ℤ) : ℚ) := by
    rw [hk, zpow_neg, zpow_natCast, div_inv_eq_mul]
    push_cast
    ring
  rw [round, hwhole, nearestEven_intCast, ← hwhole]
  exact div_mul_cancel₀ _ (by positivity)

end Format

end BinaryFloat
