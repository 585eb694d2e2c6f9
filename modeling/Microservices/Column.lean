/-
  What a `NUMERIC(12,2)` column makes of a JavaScript number.

  node-postgres sends a number as `String(number)`; Postgres reads the digits exactly, rounds them
  to two places, half away from zero, and rejects what has more than ten digits before the point.
  The models take this as a function `numeric`; `numericColumn` is that function, for the results
  that depend on where the limit is.

  1. **Specification**: `roundToScale_lt_iff`, the rounding as an inequality between rationals.
  2. **The limit**: a positive double is rejected from 9999999999.995 on (`numericColumn_ne_none`).
  3. **Reading back**: an amount of the column is the double nearest to it, and writing that double
     gives the amount again (`numericColumn_near`): the doubles are dense enough for twelve digits.
-/
import Microservices.Common
import Microservices.Lib.NumberText

namespace Microservices

open Binary64 (IsNormal Near Within κ)

/-! ## The column -/

/-- `digits * 10 ^ exponent` in units of `10 ^ -scale`, rounded half away from zero. -/
def roundToScale (scale digits : ℕ) (exponent : ℤ) : ℕ :=
  (2 * digits * 10 ^ (exponent + scale).toNat + 10 ^ (-(exponent + scale)).toNat) /
    (2 * 10 ^ (-(exponent + scale)).toNat)

/-- The value of the column, `none` if Postgres rejects the text. -/
def numericColumn : NumberText → Option Numeric
  | .nan => some .nan
  | .infinity _ => none
  | .decimal negative digits exponent =>
    let n := roundToScale 2 digits exponent
    if n < 10 ^ 12 then some (.hundredths (if negative then -n else n)) else none

/-- A parameter is stored as the column reads its text. -/
def StoresText (numeric : Float → Option Numeric) : Prop :=
  ∀ x, numeric x = numericColumn (numberText x)

/-! ## Where the limit is -/

/-- What rounds to less than `n` is what lies below `n` by more than half a unit. -/
theorem roundToScale_lt_iff {scale digits n : ℕ} {exponent : ℤ} :
    roundToScale scale digits exponent < n ↔
      2 * ((digits : ℚ) * 10 ^ (exponent + scale)) + 1 < 2 * n := by
  have hden : (0 : ℚ) < 10 ^ (-(exponent + scale)).toNat := by positivity
  have hsplit : (10 : ℚ) ^ (exponent + scale) * 10 ^ (-(exponent + scale)).toNat =
      10 ^ (exponent + scale).toNat := by
    rw [← zpow_natCast, ← zpow_add₀ (by norm_num), ← zpow_natCast]
    congr 1
    omega
  unfold roundToScale
  -- an integer quotient is below `n` where its numerator is below `n` denominators
  rw [Nat.div_lt_iff_lt_mul (by positivity), ← mul_lt_mul_iff_left₀ hden, ← @Nat.cast_lt ℚ]
  push_cast
  rw [← hsplit]
  constructor
  · intro h
    linarith
  · intro h
    linarith

/-- The column refuses a decimal exactly if it rounds to ten digits or more before its point. -/
theorem numericColumn_eq_none {negative : Bool} {digits : ℕ} {exponent : ℤ} :
    numericColumn (.decimal negative digits exponent) = none ↔
      ¬ roundToScale 2 digits exponent < 10 ^ 12 := by
  unfold numericColumn
  simp only
  split
  · rename_i h
    exact ⟨(nomatch ·), fun hn => absurd h hn⟩
  · rename_i h
    exact ⟨fun _ => h, fun _ => rfl⟩

/-- A positive amount fits exactly if it is less than half a hundredth below the limit. -/
theorem numericColumn_ne_none {digits : ℕ} {exponent : ℤ} :
    numericColumn (.decimal false digits exponent) ≠ none ↔
      (digits : ℚ) * 10 ^ exponent < (10 ^ 12 - 1 / 2) / 100 := by
  have hscale : (digits : ℚ) * 10 ^ (exponent + (2 : ℕ)) = digits * 10 ^ exponent * 100 := by
    rw [zpow_add₀ (by norm_num), mul_assoc]
    norm_num
  have hlt := @roundToScale_lt_iff 2 digits (10 ^ 12) exponent
  rw [hscale, Nat.cast_pow, Nat.cast_ofNat] at hlt
  rw [ne_eq, numericColumn_eq_none, not_not, hlt]
  constructor
  · intro h
    linarith
  · intro h
    linarith

/-- The roundings of a short computation do not reach half a hundredth at the limit. -/
theorem κ_pow_small : κ ^ 11 * (10 ^ 12 - 1) < 10 ^ 12 - 1 / 2 ∧
    κ ^ 11 * (10 ^ 12 - 1 / 2) < 10 ^ 12 := by
  unfold κ
  constructor <;> norm_num

/-- **The column's limit is exact in spite of the roundings**: a double that stands for a whole
    number of hundredths fits exactly if that number does. -/
theorem column_near {n total : ℕ} {x : Float} (h : Near n x.toModel ((total : ℚ) / 100))
    (hn : n ≤ 10) (hv : Within 700 ((total : ℚ) / 100)) :
    numericColumn (numberText x) ≠ none ↔ total < 10 ^ 12 := by
  obtain ⟨digits, exponent, htext, happrox⟩ := numberText_near h (by omega) hv
  -- the amount and its text differ by less than a cent, on both sides of the limit
  have hle := (happrox.mono Binary64.one_le_κ (show 1 + n ≤ 11 by omega)).le
  have hge := (happrox.mono Binary64.one_le_κ (show 1 + n ≤ 11 by omega)).ge
  obtain ⟨hbelow, habove⟩ := κ_pow_small
  have hκ : 0 ≤ κ ^ 11 := (pow_pos Binary64.κ_pos 11).le
  rw [htext, numericColumn_ne_none]
  constructor
  · intro hfits
    rw [← @Nat.cast_lt ℚ]
    push_cast
    have hmul := mul_le_mul_of_nonneg_left hfits.le hκ
    linarith
  · intro hlt
    have hcast : (total : ℚ) ≤ 10 ^ 12 - 1 := by
      have : (total : ℚ) + 1 ≤ 10 ^ 12 := by exact_mod_cast hlt
      linarith
    have hmul := mul_le_mul_of_nonneg_left hcast hκ
    linarith

/-! ## What the column holds -/

/-- A number above zero that is not infinite is written without a sign. -/
theorem numberText_positive {x : Float} (hfinite : x.isFinite = true) (hpos : 0 < x) :
    ∃ digits exponent, numberText x = .decimal false digits exponent := by
  have hcompare : Float.Model.UnpackedFloat.compare (.zero .positive) x.toModel.unpack =
      some .lt := by
    have h : (0 : Float).toModel < x.toModel := of_decide_eq_true hpos
    have hzero : (0 : Float).toModel.unpack = .zero .positive := rfl
    rw [← hzero]
    exact eq_of_beq h
  have hfinite' : x.toModel.unpack.isFinite = true := hfinite
  unfold numberText
  generalize x.toModel.unpack = u at hcompare hfinite'
  -- of the five kinds of doubles only one is finite and above zero
  match u with
  | .finite .positive m p h => exact ⟨_, _, rfl⟩
  | .finite .negative m p h => cases hcompare
  | .zero _ => cases hcompare
  | .infinity _ => cases hfinite'
  | .notANumber => cases hfinite'

/-- What the column accepts of such a number is a non-negative amount below its limit. -/
theorem numericColumn_positive {x : Float} {v : Numeric} (hfinite : x.isFinite = true)
    (hpos : 0 < x) (h : numericColumn (numberText x) = some v) :
    ∃ c : ℤ, v = .hundredths c ∧ 0 ≤ c ∧ c < 10 ^ 12 := by
  obtain ⟨digits, exponent, htext⟩ := numberText_positive hfinite hpos
  rw [htext] at h
  unfold numericColumn at h
  simp only at h
  split at h
  · rename_i hlt
    cases h
    refine ⟨roundToScale 2 digits exponent, rfl, Int.natCast_nonneg _, ?_⟩
    exact_mod_cast hlt
  · cases h

/-! ## Amounts read back -/

/-- The constant 100 is itself. -/
theorem near_hundred : Near 0 (100.0 : Float).toModel 100 := by
  have h : IsNormal (100.0 : Float).toModel (100 * 2 ^ 46) (-46) :=
    ⟨by decide, by decide, by decide, by decide, by decide, rfl⟩
  have hnear := Binary64.near_ofBits h
  norm_num at hnear
  exact hnear

section Amounts

variable {n k : ℕ} {x : Float}

/-- A number of hundredths is well within the range of the doubles. -/
theorem within_hundredths (hn : 0 < n) (hlt : n < 2 ^ 80) : Within 80 ((n : ℚ) / 100) := by
  have hone : (1 : ℚ) ≤ n := by exact_mod_cast hn
  have hhi : (n : ℚ) ≤ 2 ^ (80 : ℤ) := by exact_mod_cast hlt.le
  constructor
  · calc (2 : ℚ) ^ (-80 : ℤ) ≤ 1 / 100 := by norm_num
      _ ≤ n / 100 := by linarith
  · linarith

/-- An amount of a column, as the services read it. -/
theorem near_toNumber (hn : 0 < n) (hlt : n < 10 ^ 12) :
    Near 3 (Numeric.hundredths n).toNumber.toModel ((n : ℚ) / 100) := by
  have h := Binary64.near_div (Binary64.near_natToFloat hn (by omega)) near_hundred (by decide)
  exact h ((within_hundredths hn (by omega)).mono (by decide))

/-- The roundings of a short computation do not reach half a hundredth anywhere below the limit. -/
theorem κ_pow_hundredths {c : ℚ} (hc : c ≤ 10 ^ 12) : κ ^ 11 * c < c + 1 / 2 := by
  have hfactor : 0 ≤ κ ^ 11 - 1 := by
    unfold κ
    norm_num
  have hlimit : (κ ^ 11 - 1) * 10 ^ 12 < 1 / 2 := by
    unfold κ
    norm_num
  have hmul := mul_le_mul_of_nonneg_left hc hfactor
  linarith

/-- **The column keeps an amount** that a double stands for. -/
theorem numericColumn_near (h : Near k x.toModel ((n : ℚ) / 100)) (hk : k ≤ 10) (hn : 0 < n)
    (hlt : n < 10 ^ 12) : numericColumn (numberText x) = some (.hundredths n) := by
  have hwithin := within_hundredths hn (show n < 2 ^ 80 by omega)
  obtain ⟨digits, exponent, htext, happrox⟩ :=
    numberText_near h (by omega) (hwithin.mono (by decide))
  have hle := (happrox.mono Binary64.one_le_κ (show 1 + k ≤ 11 by omega)).le
  have hge := (happrox.mono Binary64.one_le_κ (show 1 + k ≤ 11 by omega)).ge
  have hscale : (digits : ℚ) * 10 ^ (exponent + (2 : ℕ)) = digits * 10 ^ exponent * 100 := by
    rw [zpow_add₀ (by norm_num), mul_assoc]
    norm_num
  have hcast : (n : ℚ) ≤ 10 ^ 12 := by exact_mod_cast hlt.le
  have hslack := κ_pow_hundredths hcast
  -- the text lies within half a cent of `n` hundredths, so it rounds to them
  have hbelow : roundToScale 2 digits exponent < n + 1 := by
    rw [roundToScale_lt_iff, hscale]
    push_cast
    linarith
  have habove : ¬ roundToScale 2 digits exponent < n := by
    rw [roundToScale_lt_iff, hscale]
    intro hlow
    have hslack := κ_pow_hundredths (show (digits : ℚ) * 10 ^ exponent * 100 ≤ 10 ^ 12 by linarith)
    linarith
  have hround : roundToScale 2 digits exponent = n := by omega
  rw [htext]
  unfold numericColumn
  simp only
  rw [hround, if_pos hlt]
  rfl

/-- What a double stands for is above zero, and so is the double. -/
theorem pos_of_near {v : ℚ} (h : Near k x.toModel v) : 0 < x := by
  obtain ⟨m, e, hm, -⟩ := h
  obtain ⟨hpos, hunpack⟩ := hm.unpack
  -- a normal number is compared with zero by its sign
  have hcompare : Float.Model.UnpackedFloat.compare (.zero .positive) x.toModel.unpack =
      some .lt := by
    rw [hunpack]
    rfl
  have hzero : (0 : Float).toModel.unpack = .zero .positive := rfl
  have hlt : (0 : Float).toModel < x.toModel := by
    rw [← hzero] at hcompare
    exact beq_iff_eq.mpr hcompare
  exact decide_eq_true hlt

end Amounts

end Microservices
