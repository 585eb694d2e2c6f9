/-
  APPROXIMATION BY FACTORS: positive numbers equal up to `n` factors of `κ`.

  Rounding a positive number to a format of fixed precision changes it by a factor between `1 / κ`
  and `κ`.  Counting factors instead of adding errors keeps a computation's bound in one number:
  products, quotients and further roundings only add their counts.

  * `Approx.trans`: one number for another, counts added;
  * `Approx.mul`, `Approx.div`: operations on approximated numbers, counts added;
  * `Approx.of_between`: two numbers of one interval `[q * u, (q + 1) * u]`, a unit apart.
-/
import Mathlib.Algebra.Order.Field.Basic
import Mathlib.Tactic.FieldSimp
import Mathlib.Tactic.Linarith
import Mathlib.Tactic.Positivity
import Mathlib.Tactic.Ring

namespace Microservices

variable {K : Type} [Field K] [LinearOrder K]

/-- `x` and `y` are positive and equal up to `n` factors of `κ`. -/
structure Approx (κ : K) (n : ℕ) (x y : K) : Prop where
  left_pos : 0 < x
  right_pos : 0 < y
  le : x ≤ κ ^ n * y
  ge : y ≤ κ ^ n * x

namespace Approx

variable {κ x y z v w u : K} {m n : ℕ}

/-- A positive number is no steps from itself. -/
theorem refl (hx : 0 < x) : Approx κ 0 x x := by
  refine ⟨hx, hx, ?_, ?_⟩ <;> rw [pow_zero, one_mul]

/-- Within `n` steps is a symmetric relation. -/
theorem symm (h : Approx κ n x y) : Approx κ n y x := ⟨h.right_pos, h.left_pos, h.ge, h.le⟩

variable [IsStrictOrderedRing K]

/-- Within `m` steps is within more. -/
theorem mono (hκ : 1 ≤ κ) (h : Approx κ m x y) (hmn : m ≤ n) : Approx κ n x y := by
  have hpow : κ ^ m ≤ κ ^ n := pow_le_pow_right₀ hκ hmn
  refine ⟨h.left_pos, h.right_pos, ?_, ?_⟩
  · exact h.le.trans (mul_le_mul_of_nonneg_right hpow h.right_pos.le)
  · exact h.ge.trans (mul_le_mul_of_nonneg_right hpow h.left_pos.le)

/-- One half of `trans`. -/
theorem le_trans' (hκ : 0 < κ) (hxy : x ≤ κ ^ m * y) (hyz : y ≤ κ ^ n * z) :
    x ≤ κ ^ (m + n) * z := by
  calc x ≤ κ ^ m * y := hxy
    _ ≤ κ ^ m * (κ ^ n * z) := mul_le_mul_of_nonneg_left hyz (pow_pos hκ m).le
    _ = κ ^ (m + n) * z := by rw [pow_add, mul_assoc]

/-- The steps of a chain add up. -/
theorem trans (hκ : 0 < κ) (hxy : Approx κ m x y) (hyz : Approx κ n y z) :
    Approx κ (m + n) x z := by
  refine ⟨hxy.left_pos, hyz.right_pos, le_trans' hκ hxy.le hyz.le, ?_⟩
  rw [Nat.add_comm]
  exact le_trans' hκ hyz.ge hxy.ge

/-- So do those of the factors of a product. -/
theorem mul (hκ : 0 < κ) (hx : Approx κ m x v) (hy : Approx κ n y w) :
    Approx κ (m + n) (x * y) (v * w) := by
  have hm := pow_pos hκ m
  have key : ∀ {a b c d : K}, 0 < a → 0 < b → 0 < c → 0 < d →
      a ≤ κ ^ m * b → c ≤ κ ^ n * d → a * c ≤ κ ^ (m + n) * (b * d) := by
    intro a b c d _ hb hc _ hab hcd
    calc a * c ≤ κ ^ m * b * (κ ^ n * d) :=
          mul_le_mul hab hcd hc.le (mul_pos hm hb).le
      _ = κ ^ (m + n) * (b * d) := by rw [pow_add]; ring
  refine ⟨mul_pos hx.left_pos hy.left_pos, mul_pos hx.right_pos hy.right_pos, ?_, ?_⟩
  · exact key hx.left_pos hx.right_pos hy.left_pos hy.right_pos hx.le hy.le
  · exact key hx.right_pos hx.left_pos hy.right_pos hy.left_pos hx.ge hy.ge

/-- An inverse is as many steps away as the number. -/
theorem inv (hx : Approx κ n x v) : Approx κ n x⁻¹ v⁻¹ := by
  have hx0 := hx.left_pos
  have hv0 := hx.right_pos
  refine ⟨inv_pos.mpr hx0, inv_pos.mpr hv0, ?_, ?_⟩
  · rw [← div_eq_mul_inv, le_div_iff₀ hv0, inv_mul_le_iff₀ hx0, mul_comm]
    exact hx.ge
  · rw [← div_eq_mul_inv, le_div_iff₀ hx0, inv_mul_le_iff₀ hv0, mul_comm]
    exact hx.le

/-- The steps of the two sides of a quotient add up. -/
theorem div (hκ : 0 < κ) (hx : Approx κ m x v) (hy : Approx κ n y w) :
    Approx κ (m + n) (x / y) (v / w) := by
  rw [div_eq_mul_inv, div_eq_mul_inv]
  exact hx.mul hκ hy.inv

/-- Two numbers of one interval `[q * u, (q + 1) * u]` with `q + 1 ≤ κ * q`. -/
theorem of_between {q : K} (hq : 0 < q) (hu : 0 < u) (hκ : q + 1 ≤ κ * q)
    (hx : q * u ≤ x ∧ x ≤ (q + 1) * u) (hy : q * u ≤ y ∧ y ≤ (q + 1) * u) :
    Approx κ 1 x y := by
  have hqu : 0 < q * u := mul_pos hq hu
  have hκ0 : 0 < κ := by
    have : 0 < κ * q := lt_of_lt_of_le (by linarith) hκ
    exact pos_of_mul_pos_left this hq.le
  -- two values between `q` and `q + 1` units differ by a unit at most, and `κ` covers it
  have key : ∀ {a b : K}, a ≤ (q + 1) * u → q * u ≤ b → a ≤ κ ^ 1 * b := by
    intro a b ha hb
    calc a ≤ (q + 1) * u := ha
      _ ≤ κ * q * u := mul_le_mul_of_nonneg_right hκ hu.le
      _ = κ * (q * u) := mul_assoc κ q u
      _ ≤ κ * b := mul_le_mul_of_nonneg_left hb hκ0.le
      _ = κ ^ 1 * b := by rw [pow_one]
  refine ⟨lt_of_lt_of_le hqu hx.1, lt_of_lt_of_le hqu hy.1, ?_, ?_⟩
  · exact key hx.2 hy.1
  · exact key hy.2 hx.1

end Approx

end Microservices
