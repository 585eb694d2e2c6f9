/-
  NUMBERS AS TEXT: the decimal digits in which a double is written.

  A double is written with the fewest decimal digits that still read as the same double, so in the
  multiple of the largest power of ten that does.  The search goes down the powers of ten, and looks
  at the two multiples next to the number; of two that read as the double the closer one is taken.

  `shortestDigits_approx`: whatever the search finds is the number, up to one rounding.
-/
import Microservices.Lib.Binary64

namespace Microservices

open Float.Model Float.Model.UnpackedFloat
open Binary64

/-! ## The text of a double -/

/-- `m * 2 ^ p / 10 ^ e` as a fraction. -/
def numerator (m : ℕ) (p e : ℤ) : ℕ := m * 2 ^ p.toNat * 10 ^ (-e).toNat

/-- The denominator of that fraction. -/
def denominator (p e : ℤ) : ℕ := 2 ^ (-p).toNat * 10 ^ e.toNat

/-- The multiple of `10 ^ e` that is written for `x`, which is `m * 2 ^ p`; `none` if no multiple
    reads as `x`. -/
def digitsAt (x : Float.Model) (m : ℕ) (p e : ℤ) : Option ℕ :=
  let num := numerator m p e
  let den := denominator p e
  let floor := num / den
  if floor = 0 then none
  else
    match decide (Float.Model.ofScientific floor e = x),
        decide (Float.Model.ofScientific (floor + 1) e = x) with
    | true, true =>
      -- the closer one, and of two that are as close the even one
      if 2 * (num % den) < den ∨ 2 * (num % den) = den ∧ floor % 2 = 0 then some floor
      else some (floor + 1)
    | true, false => some floor
    | false, true => some (floor + 1)
    | false, false => none

/-- The digits that are written for `x`, and the power of ten they count: the first found among the
    powers `10 ^ (i - 325)`, `10 ^ (i - 326)`, ..., `10 ^ -324`.  A double has a text of 17 digits,
    so that the search from `10 ^ 308` on finds one; the last line is the double's exact value. -/
def shortestDigits (x : Float.Model) (m : ℕ) (p : ℤ) : ℕ → ℕ × ℤ
  | 0 => (m * 2 ^ p.toNat * 5 ^ (-p).toNat, min p 0)
  | i + 1 =>
    match digitsAt x m p (i - 324) with
    | some digits => (digits, i - 324)
    | none => shortestDigits x m p i

/-- What `String(x)` says of a number. -/
inductive NumberText : Type where
  | nan
  | infinity (negative : Bool)
  | decimal (negative : Bool) (digits : ℕ) (exponent : ℤ)
  deriving DecidableEq, Repr

/-- The sign of a double as a truth value. -/
def isNegative : Sign → Bool
  | .negative => true
  | .positive => false

/-- `String(x)`. -/
def numberText (x : Float) : NumberText :=
  match x.toModel.unpack with
  | .notANumber => .nan
  | .infinity sign => .infinity (isNegative sign)
  | .zero _ => .decimal false 0 0
  | .finite sign m p h =>
    let written := shortestDigits (.pack (.finite .positive m p h)) m p 633
    .decimal (isNegative sign) written.1 written.2

/-! ## What is written is the number, up to one rounding -/

/-- Numerator and denominator are those of the double over a power of ten. -/
theorem fraction_eq (m : ℕ) (p e : ℤ) :
    (numerator m p e : ℚ) / denominator p e = m * 2 ^ p / 10 ^ e := by
  have split : ∀ (b : ℚ) (k : ℤ), b ≠ 0 → b ^ k = b ^ k.toNat / b ^ (-k).toNat := by
    intro b k hb
    rw [← zpow_natCast, ← zpow_natCast, ← zpow_sub₀ hb]
    congr 1
    omega
  unfold numerator denominator
  rw [split 2 p (by norm_num), split 10 e (by norm_num)]
  push_cast
  field_simp

/-- The fraction is one. -/
theorem denominator_pos (p e : ℤ) : 0 < denominator p e :=
  Nat.mul_pos (Nat.pow_pos (by decide)) (Nat.pow_pos (by decide))

/-- `s * 10 ^ e` is one of the two positive multiples of `10 ^ e` next to `v`. -/
def Beside (v : ℚ) (s : ℕ) (e : ℤ) : Prop :=
  ∃ floor : ℕ, 1 ≤ floor ∧ floor ≤ s ∧ s ≤ floor + 1 ∧
    (floor : ℚ) * 10 ^ e ≤ v ∧ v ≤ (floor + 1) * 10 ^ e

/-- Such a multiple is at most twice the number and at least its half. -/
theorem Beside.within {v : ℚ} {s : ℕ} {e : ℤ} (h : Beside v s e) (hv : Within 800 v) :
    Within 900 ((s : ℚ) * 10 ^ e) := by
  obtain ⟨floor, hone, hs, hs', hle, hge⟩ := h
  have h10 : (0 : ℚ) < 10 ^ e := zpow_pos (by norm_num) e
  have hone' : (1 : ℚ) ≤ floor := by exact_mod_cast hone
  have hlo : (floor : ℚ) ≤ s := by exact_mod_cast hs
  have hhi : (s : ℚ) ≤ floor + 1 := by exact_mod_cast hs'
  have hunit : (10 : ℚ) ^ e ≤ floor * 10 ^ e := le_mul_of_one_le_left h10.le hone'
  have hlow : (floor : ℚ) * 10 ^ e ≤ s * 10 ^ e := mul_le_mul_of_nonneg_right hlo h10.le
  have hhigh : (s : ℚ) * 10 ^ e ≤ (floor + 1) * 10 ^ e := mul_le_mul_of_nonneg_right hhi h10.le
  rw [add_mul, one_mul] at hge hhigh
  constructor
  · -- so the number is at least half the value
    refine le_of_mul_le_mul_right ?_ (two_pos : (0 : ℚ) < 2)
    calc (2 : ℚ) ^ (-900 : ℤ) * 2 = 2 ^ (-899 : ℤ) := (zpow_add_one₀ two_ne_zero _).symm
      _ ≤ 2 ^ (-800 : ℤ) := zpow_le_zpow_right₀ one_le_two (by decide)
      _ ≤ v := hv.1
      _ ≤ s * 10 ^ e * 2 := by linarith
  · calc (s : ℚ) * 10 ^ e ≤ v * 2 := by linarith
      _ ≤ 2 ^ (800 : ℤ) * 2 := mul_le_mul_of_nonneg_right hv.2 two_pos.le
      _ = 2 ^ (801 : ℤ) := (zpow_add_one₀ two_ne_zero _).symm
      _ ≤ 2 ^ (900 : ℤ) := zpow_le_zpow_right₀ one_le_two (by decide)

/-- Its integer part is the largest multiple of the unit below the double. -/
theorem floor_bounds (m : ℕ) (p e : ℤ) :
    ((numerator m p e / denominator p e : ℕ) : ℚ) * 10 ^ e ≤ m * 2 ^ p ∧
      (m : ℚ) * 2 ^ p ≤ ((numerator m p e / denominator p e : ℕ) + 1) * 10 ^ e := by
  have h10 : (0 : ℚ) < 10 ^ e := zpow_pos (by norm_num) e
  have hden : (0 : ℚ) < denominator p e := by exact_mod_cast denominator_pos p e
  constructor
  · rw [← le_div_iff₀ h10, ← fraction_eq]
    exact Nat.cast_div_le
  · rw [← div_le_iff₀ h10, ← fraction_eq, div_le_iff₀ hden]
    have hlt := Nat.lt_mul_div_succ (numerator m p e) (denominator_pos p e)
    rw [Nat.mul_comm] at hlt
    exact_mod_cast hlt.le

/-- What `digitsAt` finds is next to the number, and reads as the double. -/
theorem digitsAt_spec {x : Float.Model} {m s : ℕ} {p e : ℤ} (h : digitsAt x m p e = some s) :
    Float.Model.ofScientific s e = x ∧ 0 < s ∧ Beside (m * 2 ^ p) s e := by
  obtain ⟨hle, hge⟩ := floor_bounds m p e
  unfold digitsAt at h
  simp only at h
  split at h
  · cases h
  · rename_i hfloor
    generalize numerator m p e / denominator p e = floor at h hle hge hfloor
    have hone : 1 ≤ floor := Nat.pos_of_ne_zero hfloor
    -- the two candidates: the quotient and the number after it
    have at_floor : Float.Model.ofScientific floor e = x → floor = s →
        Float.Model.ofScientific s e = x ∧ 0 < s ∧ Beside (m * 2 ^ p) s e := by
      intro hreads hs
      subst hs
      exact ⟨hreads, hone, floor, hone, le_rfl, Nat.le_succ _, hle, hge⟩
    have at_succ : Float.Model.ofScientific (floor + 1) e = x → floor + 1 = s →
        Float.Model.ofScientific s e = x ∧ 0 < s ∧ Beside (m * 2 ^ p) s e := by
      intro hreads hs
      subst hs
      exact ⟨hreads, Nat.succ_pos _, floor, hone, Nat.le_succ _, le_rfl, hle, hge⟩
    split at h
    · rename_i hlo hhi
      split at h
      · exact at_floor (of_decide_eq_true hlo) (Option.some.inj h)
      · exact at_succ (of_decide_eq_true hhi) (Option.some.inj h)
    · rename_i hlo _
      exact at_floor (of_decide_eq_true hlo) (Option.some.inj h)
    · rename_i _ hhi
      exact at_succ (of_decide_eq_true hhi) (Option.some.inj h)
    · cases h

/-- Reading is one rounding, so what reads as the double is the number up to one. -/
theorem digitsAt_approx {x : Float.Model} {m s : ℕ} {p e : ℤ} (hx : IsNormal x m p)
    (hv : Within 800 ((m : ℚ) * 2 ^ p)) (h : digitsAt x m p e = some s) :
    Approx κ 1 ((s : ℚ) * 10 ^ e) (m * 2 ^ p) := by
  obtain ⟨hreads, hs, hbeside⟩ := digitsAt_spec h
  obtain ⟨m', p', hx', happrox⟩ := near_ofScientific hs (hbeside.within hv)
  rw [hreads] at hx'
  obtain ⟨rfl, rfl⟩ := hx.unique hx'
  exact happrox.symm

/-- Whatever the search finds is the number, up to one rounding: by induction on the powers of ten
    that are left. -/
theorem shortestDigits_approx {x : Float.Model} {m : ℕ} {p : ℤ} (hx : IsNormal x m p)
    (hv : Within 800 ((m : ℚ) * 2 ^ p)) (i : ℕ) :
    Approx κ 1 (((shortestDigits x m p i).1 : ℚ) * 10 ^ (shortestDigits x m p i).2)
      (m * 2 ^ p) := by
  induction i with
  | zero =>
    -- with no digit dropped the decimal number is the value itself
    have hexact : ((m * 2 ^ p.toNat * 5 ^ (-p).toNat : ℕ) : ℚ) * 10 ^ min p 0 = m * 2 ^ p := by
      rcases Int.le_total 0 p with hp | hp
      · obtain ⟨k, rfl⟩ := Int.eq_ofNat_of_zero_le hp
        rw [Int.min_eq_right hp, zpow_zero, mul_one, zpow_natCast]
        push_cast
        simp
      · obtain ⟨k, hk⟩ := Int.eq_ofNat_of_zero_le (show 0 ≤ -p by omega)
        obtain rfl : p = -(k : ℤ) := by omega
        rw [Int.min_eq_left hp, neg_neg, Int.toNat_natCast, zpow_neg, zpow_neg, zpow_natCast,
          zpow_natCast]
        push_cast
        rw [show (10 : ℚ) = 5 * 2 by norm_num, mul_pow]
        simp
        field_simp
    show Approx κ 1 (((m * 2 ^ p.toNat * 5 ^ (-p).toNat : ℕ) : ℚ) * 10 ^ min p 0) _
    rw [hexact]
    have hpos : (0 : ℚ) < m * 2 ^ p :=
      mul_pos (by exact_mod_cast hx.pos) (zpow_pos (by norm_num) p)
    exact (Approx.refl hpos).mono one_le_κ (Nat.zero_le 1)
  | succ i ih =>
    unfold shortestDigits
    split
    · rename_i digits hdigits
      exact digitsAt_approx hx hv hdigits
    · exact ih

/-- The text of a double that is `v` after `n` roundings. -/
theorem numberText_near {n : ℕ} {x : Float} {v : ℚ} (h : Near n x.toModel v) (hn : n ≤ 100)
    (hv : Within 700 v) :
    ∃ digits exponent, numberText x = .decimal false digits exponent ∧
      Approx κ (1 + n) ((digits : ℚ) * 10 ^ exponent) v := by
  obtain ⟨m, p, hm, hmv⟩ := h
  obtain ⟨hpos, hunpack⟩ := hm.unpack
  have hx : IsNormal (.pack (.finite .positive m p hpos)) m p :=
    isNormal_pack hm.le hm.lt hm.minExponent hm.maxExponent
  have hwritten := shortestDigits_approx hx ((hv.of_approx hmv).mono (by omega)) 633
  refine ⟨_, _, ?_, hwritten.trans κ_pos hmv⟩
  unfold numberText
  rw [hunpack]
  rfl

end Microservices
