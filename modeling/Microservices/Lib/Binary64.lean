/-
  BINARY64: what Lean's model of the type `Float` computes, up to a factor.

  A double that is positive and normal is `m * 2 ^ e` with a mantissa of 53 bits.  Every operation
  of the model computes its result exactly, or cuts it off after at least 53 bits and says what it
  has cut off, and then rounds.  Whatever the rounding does, it keeps the 53 leading bits or takes
  their successor, so one rounding is one factor of `κ` (`Microservices.Lib.Approx`).

  * `roundWithAccuracy_eq`, `near_round`: one rounding;
  * `near_mul`, `near_div`: one operation on doubles that are themselves approximations;
  * `near_natToFloat`, `near_ofScientific`: a natural number and a decimal one as doubles.

  The numbers must stay away from what overflows and from the subnormal numbers (`Within`).
-/
import Mathlib
import Microservices.Lib.Approx

namespace Microservices.Binary64

open Float.Model Float.Model.UnpackedFloat

/-! ## Shifting and rounding a mantissa -/

/-- A shift to the right divides the mantissa, rounding down. -/
theorem mantissa_shiftRight (em : ExtendedMantissa) (n : ℕ) :
    (em >>> n).mantissa = em.mantissa / 2 ^ n := by
  show (n.repeat ExtendedMantissa.shiftRightOne em).mantissa = _
  induction n with
  | zero => exact (Nat.div_one _).symm
  | succ n ih =>
    show (n.repeat ExtendedMantissa.shiftRightOne em).mantissa / 2 = _
    rw [ih, Nat.div_div_eq_div_mul, Nat.pow_succ]

/-- Rounding keeps a mantissa or takes the next. -/
theorem roundedMantissa_bounds (em : ExtendedMantissa) :
    em.mantissa ≤ em.roundedMantissa ∧ em.roundedMantissa ≤ em.mantissa + 1 := by
  have key : ∀ (m : ℕ) (a : Accuracy),
      m ≤ Accuracy.roundToNearestEven m a ∧ Accuracy.roundToNearestEven m a ≤ m + 1 := by
    intro m a
    match a with
    | .exact | .inexact .lt => exact ⟨Nat.le_refl m, Nat.le_succ m⟩
    | .inexact .gt => exact ⟨Nat.le_succ m, Nat.le_refl _⟩
    | .inexact .eq =>
      show m ≤ m + m % 2 ∧ m + m % 2 ≤ m + 1
      omega
  exact key em.mantissa em.accuracy

/-- The accuracy bits do not count for the mantissa. -/
theorem mantissa_of (m : ℕ) (a : Accuracy) :
    (ExtendedMantissa.ofMantissaAndAccuracy m a).mantissa = m := by
  match a with
  | .exact | .inexact .lt | .inexact .eq | .inexact .gt => rfl

/-- The exponent a mantissa is shifted to, away from the subnormal numbers. -/
theorem targetExponent_eq {m : ℕ} {e : ℤ} (he : -1022 ≤ m.log2 + e) :
    Format.binary64.targetExponent (totalExponent m e) = m.log2 + e - 52 := by
  have h53 : (Format.binary64.mantissaBits : ℤ) = 53 := rfl
  have hmin : Format.binary64.minExponent = -1074 := rfl
  unfold Format.targetExponent totalExponent
  omega

/-- A mantissa of 53 bits or more is shifted down to 53 bits. -/
theorem shiftToTargetExponent_eq {m : ℕ} {e : ℤ} {a : Accuracy} (hm : 52 ≤ m.log2)
    (he : -1022 ≤ m.log2 + e) :
    (shiftToTargetExponent Format.binary64 m e a).1.mantissa = m / 2 ^ (m.log2 - 52) ∧
      (shiftToTargetExponent Format.binary64 m e a).2 = m.log2 + e - 52 := by
  unfold shiftToTargetExponent shiftToExponent
  rw [targetExponent_eq he]
  have hshift : ((m.log2 : ℤ) + e - 52 - e).toNat = m.log2 - 52 := by omega
  refine ⟨?_, ?_⟩
  · show (ExtendedMantissa.ofMantissaAndAccuracy m a >>>
      ((m.log2 : ℤ) + e - 52 - e).toNat).mantissa = _
    rw [hshift, mantissa_shiftRight, mantissa_of]
  · show e + (((m.log2 : ℤ) + e - 52 - e).toNat : ℤ) = _
    omega

/-- The 53 leading bits of a mantissa. -/
theorem leading_bounds {m : ℕ} (hm : 52 ≤ m.log2) :
    2 ^ 52 ≤ m / 2 ^ (m.log2 - 52) ∧ m / 2 ^ (m.log2 - 52) < 2 ^ 53 := by
  have h0 : m ≠ 0 := by
    rintro rfl
    exact absurd hm (by decide)
  constructor
  · -- `2 ^ log2` is the leading bit, shifted down to place 52
    rw [Nat.le_div_iff_mul_le (Nat.two_pow_pos _), ← Nat.pow_add]
    have hlog : 52 + (m.log2 - 52) = m.log2 := by omega
    rw [hlog]
    exact Nat.log2_self_le h0
  · rw [Nat.div_lt_iff_lt_mul (Nat.two_pow_pos _), ← Nat.pow_add]
    have hlog : 53 + (m.log2 - 52) = m.log2 + 1 := by omega
    rw [hlog]
    exact Nat.lt_log2_self

/-- A mantissa of 53 bits. -/
theorem log2_eq {m : ℕ} (hle : 2 ^ 52 ≤ m) (hlt : m < 2 ^ 53) : m.log2 = 52 :=
  (Nat.log2_eq_iff (by omega)).mpr ⟨hle, hlt⟩

/-- Rounding, away from the subnormal numbers: the leading bits or their successor. -/
theorem roundWithAccuracy_eq (s : Sign) {m : ℕ} {e : ℤ} (a : Accuracy) (hm : 52 ≤ m.log2)
    (he : -1022 ≤ m.log2 + e) :
    ∃ m' e' h, roundWithAccuracy Format.binary64 s m e a = .finite s m' e' h ∧
      2 ^ 52 ≤ m' ∧ m' < 2 ^ 53 ∧
      m.log2 + e - 52 ≤ e' ∧ e' ≤ m.log2 + e - 51 ∧
      ∃ r, m / 2 ^ (m.log2 - 52) ≤ r ∧ r ≤ m / 2 ^ (m.log2 - 52) + 1 ∧
        (m' : ℚ) * 2 ^ e' = r * 2 ^ (m.log2 + e - 52 : ℤ) := by
  obtain ⟨hfloor, hexp⟩ := @shiftToTargetExponent_eq m e a hm he
  have hlead := leading_bounds hm
  unfold roundWithAccuracy
  generalize shiftToTargetExponent Format.binary64 m e a = first at hfloor hexp
  obtain ⟨em, e₁⟩ := first
  simp only at hfloor hexp ⊢
  have hround := roundedMantissa_bounds em
  rw [hfloor] at hround
  generalize em.roundedMantissa = r at hround
  have hr : 52 ≤ r.log2 := (Nat.le_log2 (by omega)).mpr (by omega)
  obtain ⟨hm', he'⟩ := @shiftToTargetExponent_eq r e₁ .exact hr (by omega)
  generalize shiftToTargetExponent Format.binary64 r e₁ .exact = second at hm' he'
  obtain ⟨em', e'⟩ := second
  simp only at hm' he' ⊢
  have hlead' := leading_bounds hr
  rw [← hm'] at hlead'
  rw [dif_neg (by omega)]
  -- the successor of the leading bits may have 54 bits; it is then a power of two
  have hcarry : e' ≤ e₁ + 1 ∧ (em'.mantissa : ℚ) * 2 ^ e' = r * 2 ^ e₁ := by
    rcases Nat.lt_or_ge r (2 ^ 53) with hlt | hge
    · have hlog : r.log2 = 52 := log2_eq (by omega) hlt
      have he₁ : e' = e₁ := by omega
      have hkeep : em'.mantissa = r := by rw [hm', hlog, Nat.sub_self, Nat.pow_zero, Nat.div_one]
      rw [he₁, hkeep]
      exact ⟨by omega, rfl⟩
    · have hr53 : r = 2 ^ 53 := by omega
      have hlog : r.log2 = 53 := by rw [hr53, Nat.log2_two_pow]
      have he₁ : e' = e₁ + 1 := by omega
      have hhalf : em'.mantissa = 2 ^ 52 := by rw [hm', hlog, hr53]; decide
      rw [he₁, hhalf, hr53, zpow_add_one₀ (by norm_num)]
      refine ⟨le_refl _, ?_⟩
      push_cast
      ring
  refine ⟨em'.mantissa, e', by omega, rfl, hlead'.1, hlead'.2, by omega, by omega, r, hround.1,
    hround.2, ?_⟩
  rw [hcarry.2, hexp]

/-! ## Doubles as numbers -/

/-- The double `x` is the number `m * 2 ^ e`, positive and normal. -/
structure IsNormal (x : Float.Model) (m : ℕ) (e : ℤ) : Prop where
  le : 2 ^ 52 ≤ m
  lt : m < 2 ^ 53
  minExponent : -1074 ≤ e
  maxExponent : e ≤ 971
  unpack : ∃ h, x.unpack = .finite .positive m e h

/-- A normal number is not zero. -/
theorem IsNormal.pos {x : Float.Model} {m : ℕ} {e : ℤ} (h : IsNormal x m e) : 0 < m :=
  Nat.lt_of_lt_of_le (Nat.two_pow_pos 52) h.le

/-- Mantissa and exponent of a normal number are determined. -/
theorem IsNormal.unique {x : Float.Model} {m m' : ℕ} {e e' : ℤ} (h : IsNormal x m e)
    (h' : IsNormal x m' e') : m = m' ∧ e = e' := by
  obtain ⟨hpos, hx⟩ := h.unpack
  obtain ⟨hpos', hx'⟩ := h'.unpack
  rw [hx] at hx'
  injection hx' with _ hm he
  exact ⟨hm, he⟩

/-- Packing a normal number keeps it. -/
theorem isNormal_pack {m : ℕ} {e : ℤ} {h : 0 < m} (hle : 2 ^ 52 ≤ m) (hlt : m < 2 ^ 53)
    (hmin : -1074 ≤ e) (hmax : e ≤ 971) : IsNormal (.pack (.finite .positive m e h)) m e := by
  refine ⟨hle, hlt, hmin, hmax, h, ?_⟩
  have hbias : (Format.binary64.exponentBias : ℤ) = 1023 := rfl
  have hbiased : (e + Format.binary64.exponentBias + (52 : ℕ) : ℤ).toNat = (e + 1075).toNat := by
    omega
  have hexp : (BitVec.ofNat 11 (e + 1075).toNat).toNat = (e + 1075).toNat := by
    rw [BitVec.toNat_ofNat]
    exact Nat.mod_eq_of_lt (by omega)
  -- the leading one, which is not stored, is put back in front of the 52 bits
  have hmantissa : (1#1 ++ BitVec.ofNat 52 m).toNat = m := by
    rw [BitVec.toNat_append, BitVec.toNat_ofNat m]
    show 2 ^ 52 ||| m % 2 ^ 52 = m
    rw [Nat.or_comm, Nat.or_two_pow_eq_add_of_lt (Nat.mod_lt m (Nat.two_pow_pos 52))]
    omega
  have hpack : UnpackedFloat.pack Format.binary64 (.finite .positive m e h) =
      packComponents Format.binary64 .positive (BitVec.ofNat 11 (e + 1075).toNat)
        (BitVec.ofNat 52 m) := by
    simp only [UnpackedFloat.pack]
    rw [if_neg (by rw [hbiased]; omega), if_pos (by rw [log2_eq hle hlt]; rfl), hbiased]
  show UnpackedFloat.unpack Format.binary64 (UnpackedFloat.pack Format.binary64 _) = _
  rw [hpack]
  unfold UnpackedFloat.unpack
  simp only [unpackExponent_packComponents, unpackMantissa_packComponents, unpackSign_packComponents,
    Sign.ofBitVec_toBitVec]
  rw [if_neg, if_neg]
  · congr 1
    · rw [hexp]
      omega
  · intro hzero
    rw [hzero] at hexp
    have : (0#11).toNat = 0 := rfl
    omega
  · intro hinf
    rw [hinf] at hexp
    have : (-1#11).toNat = 2047 := rfl
    omega

/-! ## Operations, up to a factor -/

/-- The factor one rounding can make. -/
def κ : ℚ := 1 + 1 / 2 ^ 52

/-- The factor of one rounding is at least one. -/
theorem one_le_κ : 1 ≤ κ := by
  unfold κ
  norm_num

/-- It is positive. -/
theorem κ_pos : 0 < κ := lt_of_lt_of_le one_pos one_le_κ

/-- `v` is between `2 ^ -b` and `2 ^ b`. -/
def Within (b : ℤ) (v : ℚ) : Prop := 2 ^ (-b) ≤ v ∧ v ≤ 2 ^ b

/-- Its powers grow no faster than those of two. -/
theorem κ_pow_le {n : ℕ} : κ ^ n ≤ 2 ^ (n : ℤ) := by
  rw [zpow_natCast]
  refine pow_le_pow_left₀ κ_pos.le ?_ n
  unfold κ
  norm_num

/-- `n` roundings leave a number within `n` more powers of two. -/
theorem Within.of_approx {b : ℤ} {n : ℕ} {x v : ℚ} (hv : Within b v) (h : Approx κ n x v) :
    Within (b + n) x := by
  have h2 : (2 : ℚ) ≠ 0 := by norm_num
  have hn : (0 : ℚ) < 2 ^ (n : ℤ) := zpow_pos (by norm_num) _
  constructor
  · have hle : (2 : ℚ) ^ (-b) ≤ 2 ^ (n : ℤ) * x :=
      hv.1.trans (h.ge.trans (mul_le_mul_of_nonneg_right κ_pow_le h.left_pos.le))
    rw [neg_add, zpow_add₀ h2, zpow_neg 2 (n : ℤ), ← div_eq_mul_inv, div_le_iff₀ hn, mul_comm x]
    exact hle
  · calc x ≤ κ ^ n * v := h.le
      _ ≤ 2 ^ (n : ℤ) * 2 ^ b := mul_le_mul κ_pow_le hv.2 h.right_pos.le hn.le
      _ = 2 ^ (b + n) := by rw [← zpow_add₀ h2, add_comm]

/-- What is within a range is within a wider one. -/
theorem Within.mono {b c : ℤ} {v : ℚ} (hv : Within b v) (hbc : b ≤ c) : Within c v :=
  ⟨(zpow_le_zpow_right₀ (by norm_num) (by omega)).trans hv.1,
    hv.2.trans (zpow_le_zpow_right₀ (by norm_num) hbc)⟩

/-- Powers of two are ordered as their exponents. -/
theorem two_zpow_le {i j : ℤ} (h : (2 : ℚ) ^ i ≤ 2 ^ j) : i ≤ j :=
  (zpow_le_zpow_iff_right₀ (by norm_num)).mp h

/-- The double `x` is `v` after at most `n` roundings. -/
def Near (n : ℕ) (x : Float.Model) (v : ℚ) : Prop :=
  ∃ m e, IsNormal x m e ∧ Approx κ n ((m : ℚ) * 2 ^ e) v

/-- A mantissa and its successor lie between its 53 leading bits and their successor. -/
theorem leading_le {m : ℕ} {e : ℤ} (hm : 52 ≤ m.log2) :
    ((m / 2 ^ (m.log2 - 52) : ℕ) : ℚ) * 2 ^ (m.log2 + e - 52 : ℤ) ≤ m * 2 ^ e ∧
      ((m : ℚ) + 1) * 2 ^ e ≤
        ((m / 2 ^ (m.log2 - 52) : ℕ) + 1) * 2 ^ (m.log2 + e - 52 : ℤ) := by
  have he : (0 : ℚ) ≤ 2 ^ e := (zpow_pos (by norm_num) e).le
  -- the bits that are cut off are worth less than one unit of the last place
  have hmod : m % 2 ^ (m.log2 - 52) < 2 ^ (m.log2 - 52) := Nat.mod_lt _ (Nat.two_pow_pos _)
  have hdiv := Nat.div_add_mod' m (2 ^ (m.log2 - 52))
  have hunit : (2 : ℚ) ^ (m.log2 + e - 52 : ℤ) = 2 ^ (m.log2 - 52) * 2 ^ e := by
    rw [← zpow_natCast, ← zpow_add₀ (by norm_num)]
    congr 1
    omega
  rw [hunit, ← mul_assoc, ← mul_assoc]
  generalize m / 2 ^ (m.log2 - 52) = q at hdiv
  constructor
  · refine mul_le_mul_of_nonneg_right ?_ he
    have hle : q * 2 ^ (m.log2 - 52) ≤ m := by omega
    exact_mod_cast hle
  · refine mul_le_mul_of_nonneg_right ?_ he
    have hle : m + 1 ≤ (q + 1) * 2 ^ (m.log2 - 52) := by
      rw [Nat.add_mul, Nat.one_mul]
      omega
    exact_mod_cast hle

/-- Rounding a number that is given by a mantissa of 53 bits or more, and is less than a unit above
    it. -/
theorem near_round {m : ℕ} {e : ℤ} {v : ℚ} (a : Accuracy) (hm : 52 ≤ m.log2)
    (hlo : (m : ℚ) * 2 ^ e ≤ v) (hhi : v ≤ ((m : ℚ) + 1) * 2 ^ e) (hv : Within 1000 v) :
    Near 1 (.pack (roundWithAccuracy Format.binary64 .positive m e a)) v := by
  have h2 : (2 : ℚ) ≠ 0 := by norm_num
  have hu : (0 : ℚ) < 2 ^ (m.log2 + e - 52 : ℤ) := zpow_pos (by norm_num) _
  obtain ⟨hqm, hmq⟩ := @leading_le m e hm
  have hlead := leading_bounds hm
  have hexact := fun he => @roundWithAccuracy_eq .positive m e a hm he
  generalize m / 2 ^ (m.log2 - 52) = q at hqm hmq hlead hexact
  have hqv := hqm.trans hlo
  have hvq := hhi.trans hmq
  have hq52 : (2 : ℚ) ^ 52 ≤ q := by exact_mod_cast hlead.1
  have hq53 : (q : ℚ) + 1 ≤ 2 ^ 53 := by exact_mod_cast hlead.2
  -- the number bounds the exponent on both sides
  have hmin : -1000 ≤ (53 : ℤ) + (m.log2 + e - 52) := by
    refine two_zpow_le (hv.1.trans (hvq.trans ?_))
    rw [zpow_add₀ h2]
    exact mul_le_mul_of_nonneg_right hq53 hu.le
  have hmax : (52 : ℤ) + (m.log2 + e - 52) ≤ 1000 := by
    refine two_zpow_le (le_trans ?_ (hqv.trans hv.2))
    rw [zpow_add₀ h2]
    exact mul_le_mul_of_nonneg_right hq52 hu.le
  obtain ⟨m', e', hpos, hround, hle, hlt, hexp, hexp', r, hr, hr', hvalue⟩ := hexact (by omega)
  refine ⟨m', e', ?_, ?_⟩
  · rw [hround]
    exact isNormal_pack hle hlt (by omega) (by omega)
  · rw [hvalue]
    have hκ : (q : ℚ) + 1 ≤ κ * q := by
      unfold κ
      linarith
    have hrq : (q : ℚ) ≤ r := by exact_mod_cast hr
    have hrq' : (r : ℚ) ≤ q + 1 := by exact_mod_cast hr'
    refine Approx.of_between (by linarith) hu hκ ⟨?_, ?_⟩ ⟨hqv, hvq⟩
    · exact mul_le_mul_of_nonneg_right hrq hu.le
    · exact mul_le_mul_of_nonneg_right hrq' hu.le

/-- Rounding a mantissa of 53 bits or more. -/
theorem near_round_exact {m : ℕ} {e : ℤ} (hm : 2 ^ 52 ≤ m) (hv : Within 1000 ((m : ℚ) * 2 ^ e)) :
    Near 1 (.pack (roundWithAccuracy Format.binary64 .positive m e .exact)) (m * 2 ^ e) := by
  have hlog : 52 ≤ m.log2 := (Nat.le_log2 (by omega)).mpr hm
  refine near_round .exact hlog le_rfl ?_ hv
  exact mul_le_mul_of_nonneg_right (by linarith) (zpow_pos (by norm_num) e).le

/-- A number that is rounded has been rounded once more. -/
theorem Near.trans {n k : ℕ} {x : Float.Model} {v w : ℚ} (hx : Near n x v)
    (h : Approx κ k v w) : Near (n + k) x w := by
  obtain ⟨m, e, hm, hmv⟩ := hx
  exact ⟨m, e, hm, hmv.trans κ_pos h⟩

/-- **Multiplication** is one more rounding. -/
theorem near_mul {k l : ℕ} {x y : Float.Model} {v w : ℚ} (hx : Near k x v) (hy : Near l y w)
    (hkl : k + l ≤ 100) (hvw : Within 900 (v * w)) : Near (1 + (k + l)) (x * y) (v * w) := by
  obtain ⟨m, e, hm, hmv⟩ := hx
  obtain ⟨m', e', hm', hmw⟩ := hy
  obtain ⟨hpos, hunpack⟩ := hm.unpack
  obtain ⟨hpos', hunpack'⟩ := hm'.unpack
  have happrox := hmv.mul κ_pos hmw
  -- the product of the significands is exact; one rounding follows
  have hvalue : ((m * m' : ℕ) : ℚ) * 2 ^ (e + e') = m * 2 ^ e * (m' * 2 ^ e') := by
    rw [zpow_add₀ (by norm_num)]
    push_cast
    ring
  rw [← hvalue] at happrox
  have hmul : x * y =
      .pack (roundWithAccuracy Format.binary64 .positive (m * m') (e + e') .exact) := by
    show Float.Model.pack (UnpackedFloat.mul Format.binary64 x.unpack y.unpack) = _
    rw [hunpack, hunpack']
    rfl
  rw [hmul]
  have hlarge : 2 ^ 52 ≤ m * m' := Nat.le_trans hm.le (Nat.le_mul_of_pos_right m hpos')
  refine (near_round_exact hlarge ?_).trans happrox
  exact (hvw.of_approx happrox).mono (by omega)

/-- A number lies between its power of two and the next. -/
theorem log2_le {m : ℕ} (hm : 0 < m) :
    (2 : ℚ) ^ (m.log2 : ℤ) ≤ m ∧ (m : ℚ) ≤ 2 ^ (m.log2 + 1 : ℤ) := by
  constructor
  · rw [zpow_natCast]
    exact_mod_cast Nat.log2_self_le (by omega)
  · exact_mod_cast (@Nat.lt_log2_self m).le

/-- A quotient lies between the powers of two that the logarithms of its parts give. -/
theorem quotient_bounds {m m' : ℕ} (hm : 0 < m) (hm' : 0 < m') (e e' : ℤ) :
    (2 : ℚ) ^ (m.log2 + e - (m'.log2 + e') - 1) ≤ m * 2 ^ e / (m' * 2 ^ e') ∧
      (m : ℚ) * 2 ^ e / (m' * 2 ^ e') ≤ 2 ^ (m.log2 + e - (m'.log2 + e') + 1) := by
  have h2 : (2 : ℚ) ≠ 0 := by norm_num
  have he : (0 : ℚ) < 2 ^ e := zpow_pos (by norm_num) e
  have he' : (0 : ℚ) < 2 ^ e' := zpow_pos (by norm_num) e'
  have hpos : (0 : ℚ) < m' * 2 ^ e' := mul_pos (by exact_mod_cast hm') he'
  obtain ⟨hlo, hhi⟩ := log2_le hm
  obtain ⟨hlo', hhi'⟩ := log2_le hm'
  constructor
  · rw [le_div_iff₀ hpos]
    -- the quotient is least for a power of two over almost the next one
    calc (2 : ℚ) ^ (m.log2 + e - (m'.log2 + e') - 1) * (m' * 2 ^ e')
        ≤ 2 ^ (m.log2 + e - (m'.log2 + e') - 1) * (2 ^ (m'.log2 + 1 : ℤ) * 2 ^ e') :=
          mul_le_mul_of_nonneg_left (mul_le_mul_of_nonneg_right hhi' he'.le)
            (zpow_pos (by norm_num) _).le
      _ = 2 ^ (m.log2 : ℤ) * 2 ^ e := by
          rw [← zpow_add₀ h2, ← zpow_add₀ h2, ← zpow_add₀ h2]
          congr 1
          omega
      _ ≤ m * 2 ^ e := mul_le_mul_of_nonneg_right hlo he.le
  · rw [div_le_iff₀ hpos]
    calc (m : ℚ) * 2 ^ e ≤ 2 ^ (m.log2 + 1 : ℤ) * 2 ^ e := mul_le_mul_of_nonneg_right hhi he.le
      _ = 2 ^ (m.log2 + e - (m'.log2 + e') + 1) * (2 ^ (m'.log2 : ℤ) * 2 ^ e') := by
          rw [← zpow_add₀ h2, ← zpow_add₀ h2, ← zpow_add₀ h2]
          congr 1
          omega
      _ ≤ 2 ^ (m.log2 + e - (m'.log2 + e') + 1) * (m' * 2 ^ e') :=
          mul_le_mul_of_nonneg_left (mul_le_mul_of_nonneg_right hlo' he'.le)
            (zpow_pos (by norm_num) _).le

/-- Dividing two positive numbers that are given by their mantissas. -/
theorem near_div_finite {m m' : ℕ} {e e' : ℤ} (hm : 0 < m) (hm' : 0 < m')
    (hv : Within 1000 ((m : ℚ) * 2 ^ e / (m' * 2 ^ e'))) :
    Near 1 (.pack (UnpackedFloat.div Format.binary64 (.finite .positive m e hm)
      (.finite .positive m' e' hm'))) ((m : ℚ) * 2 ^ e / (m' * 2 ^ e')) := by
  have h2 : (2 : ℚ) ≠ 0 := by norm_num
  have hm0 : (0 : ℚ) < m' := by exact_mod_cast hm'
  obtain ⟨hlo, hhi⟩ := quotient_bounds hm hm' e e'
  have hmin := two_zpow_le (hv.1.trans hhi)
  -- the exponent at which the quotient keeps 53 bits
  have htarget : Format.binary64.targetExponent (totalExponent m e - totalExponent m' e') =
      m.log2 + e - (m'.log2 + e') - 53 := by
    have h53 : (Format.binary64.mantissaBits : ℤ) = 53 := rfl
    have hsub : Format.binary64.minExponent = -1074 := rfl
    unfold Format.targetExponent totalExponent
    omega
  show Near 1 (.pack (roundWithAccuracy Format.binary64 .positive _ _ _)) _
  rw [htarget]
  generalize ht : min (e - e') ((m.log2 : ℤ) + e - (m'.log2 + e') - 53) = t
  have hvalue : (m : ℚ) * 2 ^ e / (m' * 2 ^ e') =
      ((m <<< (e - e' - t).toNat : ℕ) : ℚ) / m' * 2 ^ t := by
    have hshift : (2 : ℚ) ^ (e - e' - t).toNat * 2 ^ t = 2 ^ e / 2 ^ e' := by
      rw [← zpow_natCast, ← zpow_add₀ h2, ← zpow_sub₀ h2]
      congr 1
      omega
    rw [Nat.shiftLeft_eq, Nat.cast_mul, Nat.cast_pow, Nat.cast_ofNat, div_mul_eq_mul_div, mul_assoc,
      hshift, ← mul_div_assoc, div_div, mul_comm (m' : ℚ)]
  rw [hvalue] at hlo hv ⊢
  generalize m <<< (e - e' - t).toNat = M at hlo hv ⊢
  have ht0 : (0 : ℚ) < 2 ^ t := zpow_pos (by norm_num) t
  refine near_round _ ?_ ?_ ?_ hv
  · -- the integer quotient has 53 bits at least
    have hle : (2 : ℚ) ^ (52 : ℤ) ≤ M / m' := by
      rw [← mul_le_mul_iff_left₀ ht0, ← zpow_add₀ h2]
      exact (zpow_le_zpow_right₀ (by norm_num) (by omega)).trans hlo
    have hfloor : 2 ^ 52 ≤ M / m' := by
      rw [Nat.le_div_iff_mul_le hm']
      rw [le_div_iff₀ hm0] at hle
      exact_mod_cast hle
    exact (Nat.le_log2 (by omega)).mpr hfloor
  · exact mul_le_mul_of_nonneg_right Nat.cast_div_le ht0.le
  · refine mul_le_mul_of_nonneg_right ?_ ht0.le
    rw [div_le_iff₀ hm0]
    have hlt : M < (M / m' + 1) * m' := by
      rw [Nat.mul_comm]
      exact Nat.lt_mul_div_succ M hm'
    exact_mod_cast hlt.le

/-- **Division** is one more rounding. -/
theorem near_div {k l : ℕ} {x y : Float.Model} {v w : ℚ} (hx : Near k x v) (hy : Near l y w)
    (hkl : k + l ≤ 100) (hvw : Within 900 (v / w)) : Near (1 + (k + l)) (x / y) (v / w) := by
  obtain ⟨m, e, hm, hmv⟩ := hx
  obtain ⟨m', e', hm', hmw⟩ := hy
  obtain ⟨hpos, hunpack⟩ := hm.unpack
  obtain ⟨hpos', hunpack'⟩ := hm'.unpack
  have happrox := hmv.div κ_pos hmw
  have hdiv : x / y = .pack (UnpackedFloat.div Format.binary64 (.finite .positive m e hpos)
      (.finite .positive m' e' hpos')) := by
    show Float.Model.pack (UnpackedFloat.div Format.binary64 x.unpack y.unpack) = _
    rw [hunpack, hunpack']
  rw [hdiv]
  refine (near_div_finite hpos hpos' ?_).trans happrox
  exact (hvw.of_approx happrox).mono (by omega)

/-! ## Numbers as doubles -/

/-- A natural number as a double is one rounding away. -/
theorem near_ofNat {n : ℕ} (hn : 0 < n) (hv : Within 1000 n) : Near 1 (Float.Model.ofNat n) n := by
  have htarget : Format.binary64.targetExponent (totalExponent n 0) = n.log2 + 0 - 52 :=
    targetExponent_eq (by omega)
  -- a small number is shifted up until its leading bit stands in place 52
  have hnormalize : Float.Model.ofNat n = .pack (roundWithAccuracy Format.binary64 .positive
      (n <<< (0 - (n.log2 + 0 - 52) : ℤ).toNat) (0 - (0 - (n.log2 + 0 - 52) : ℤ).toNat) .exact) := by
    show Float.Model.pack (UnpackedFloat.normalize Format.binary64 n 0 .positive) = _
    unfold UnpackedFloat.normalize
    rw [Int.compare_eq_gt.mpr (by omega)]
    simp only [Int.toNat_natCast, UnpackedFloat.round, decreaseExponent, htarget]
  rw [hnormalize]
  generalize hs : (0 - (n.log2 + 0 - 52) : ℤ).toNat = s
  have hvalue : ((n <<< s : ℕ) : ℚ) * 2 ^ (0 - s : ℤ) = n := by
    rw [Nat.shiftLeft_eq, Nat.cast_mul, Nat.cast_pow, Nat.cast_ofNat, zero_sub, zpow_neg,
      zpow_natCast, mul_assoc, mul_inv_cancel₀ (by positivity), mul_one]
  have hlarge : 2 ^ 52 ≤ n <<< s := by
    rw [Nat.shiftLeft_eq]
    calc 2 ^ 52 ≤ 2 ^ (n.log2 + s) := Nat.pow_le_pow_right (by decide) (by omega)
      _ = 2 ^ n.log2 * 2 ^ s := Nat.pow_add 2 _ _
      _ ≤ n * 2 ^ s := Nat.mul_le_mul_right _ (Nat.log2_self_le (by omega))
  have h := @near_round_exact _ (0 - s) hlarge
  rw [hvalue] at h
  exact h hv

/-- A double that is given by its bits. -/
theorem near_ofBits {x : Float.Model} {m : ℕ} {e : ℤ} (h : IsNormal x m e) :
    Near 0 x (m * 2 ^ e) :=
  ⟨m, e, h, Approx.refl (mul_pos (by exact_mod_cast h.pos) (zpow_pos (by norm_num) e))⟩

/-- The constant 1 is itself. -/
theorem near_one : Near 0 (Float.ofBits 0x3FF0000000000000).toModel 1 := by
  have h : IsNormal (Float.ofBits 0x3FF0000000000000).toModel (2 ^ 52) (-52) :=
    ⟨by decide, by decide, by decide, by decide, by decide, rfl⟩
  have hnear := near_ofBits h
  norm_num at hnear
  exact hnear

/-- What is at least one has only an upper bound to meet. -/
theorem Within.of_one_le {b : ℤ} {v : ℚ} (hb : 0 ≤ b) (hv : 1 ≤ v) (hvb : v ≤ 2 ^ b) :
    Within b v := by
  refine ⟨le_trans ?_ hv, hvb⟩
  calc (2 : ℚ) ^ (-b) ≤ 2 ^ (0 : ℤ) := zpow_le_zpow_right₀ (by norm_num) (by omega)
    _ = 1 := zpow_zero 2

/-- A natural number of 53 bits, as a program converts it. -/
theorem near_natToFloat {n : ℕ} (hn : 0 < n) (hlt : n < 2 ^ 53) :
    Near 2 (Float.ofNat n).toModel n := by
  have hwithin : Within 53 (n : ℚ) := by
    refine Within.of_one_le (by decide) (by exact_mod_cast hn) ?_
    exact_mod_cast hlt.le
  -- the literal is read as a 64-bit integer times one
  have hfloat : Float.ofNat n = n.toUInt64.toFloat * Float.ofBits 0x3FF0000000000000 := by
    show Float.ofScientific n false 0 = _
    unfold Float.ofScientific
    rw [dif_pos ⟨hlt, by decide⟩]
    rfl
  have htoNat : n.toUInt64.toNat = n := UInt64.toNat_ofNat_of_lt' (by
    show n < 2 ^ 64
    omega)
  rw [hfloat]
  show Near 2 (Float.Model.ofNat n.toUInt64.toNat * (Float.ofBits 0x3FF0000000000000).toModel) n
  rw [htoNat]
  have h := near_mul (near_ofNat hn (hwithin.mono (by decide))) near_one (by decide)
  rw [mul_one] at h
  exact h (hwithin.mono (by decide))

/-- From the exponent zero on the powers of ten are the larger ones. -/
theorem two_zpow_le_ten {e : ℤ} (he : 0 ≤ e) : (2 : ℚ) ^ e ≤ 10 ^ e := by
  obtain ⟨k, rfl⟩ := Int.eq_ofNat_of_zero_le he
  rw [zpow_natCast, zpow_natCast]
  exact pow_le_pow_left₀ (by norm_num) (by norm_num) k

/-- Below the exponent zero those of two are. -/
theorem ten_zpow_le_two {e : ℤ} (he : e ≤ 0) : (10 : ℚ) ^ e ≤ 2 ^ e := by
  have h := @two_zpow_le_ten (-e) (by omega)
  rw [zpow_neg, zpow_neg] at h
  exact (inv_le_inv₀ (zpow_pos (by norm_num) _) (zpow_pos (by norm_num) _)).mp h

/-- A moderate number in decimal digits is no exponent's safety check. -/
theorem ofScientific_bounds {s : ℕ} {e : ℤ} (hs : 0 < s) (hv : Within 900 ((s : ℚ) * 10 ^ e)) :
    e ≤ 900 ∧ -901 ≤ e + s.log2 := by
  have hs1 : (1 : ℚ) ≤ s := by exact_mod_cast hs
  have h10 : (0 : ℚ) < 10 ^ e := zpow_pos (by norm_num) e
  -- ten to a power is no nearer to zero than two to it, on either side of one
  rcases Int.le_total 0 e with he | he
  · refine ⟨two_zpow_le ?_, by omega⟩
    calc (2 : ℚ) ^ e ≤ 10 ^ e := two_zpow_le_ten he
      _ ≤ s * 10 ^ e := le_mul_of_one_le_left h10.le hs1
      _ ≤ 2 ^ (900 : ℤ) := hv.2
  · refine ⟨by omega, ?_⟩
    have hlog : -900 ≤ (s.log2 + 1 : ℤ) + e := by
      refine two_zpow_le (hv.1.trans ?_)
      rw [zpow_add₀ (by norm_num)]
      exact mul_le_mul (log2_le hs).2 (ten_zpow_le_two he) h10.le (zpow_pos (by norm_num) _).le
    omega

/-- Reading decimal digits. -/
theorem near_ofScientific {s : ℕ} {e : ℤ} (hs : 0 < s) (hv : Within 900 ((s : ℚ) * 10 ^ e)) :
    Near 1 (Float.Model.ofScientific s e) (s * 10 ^ e) := by
  obtain ⟨hmax, hmin⟩ := ofScientific_bounds hs hv
  have hbits : (2 : ℤ) ^ Format.binary64.exponentBits = 2048 := rfl
  show Near 1 (.pack (UnpackedFloat.ofScientific Format.binary64 s e)) _
  unfold UnpackedFloat.ofScientific
  rw [dif_neg (by omega), hbits, if_neg (by omega), if_neg (by omega)]
  rcases lt_or_ge e 0 with he | he
  · rw [if_neg (by omega)]
    have hvalue : (s : ℚ) * 2 ^ (0 : ℤ) / ((10 ^ (-e).toNat : ℕ) * 2 ^ (0 : ℤ)) = s * 10 ^ e := by
      obtain ⟨k, hk⟩ := Int.eq_ofNat_of_zero_le (show 0 ≤ -e by omega)
      rw [hk, show e = -(k : ℤ) by omega, zpow_neg, zpow_natCast, zpow_zero]
      push_cast
      rw [mul_one, mul_one, div_eq_mul_inv]
      rfl
    have h := @near_div_finite s (10 ^ (-e).toNat) 0 0 hs (Nat.pow_pos (by decide))
    rw [hvalue] at h
    exact h (hv.mono (by decide))
  · -- a positive one multiplies, with 53 places to spare
    rw [if_pos he]
    have hvalue : ((s <<< 53 * 10 ^ e.toNat : ℕ) : ℚ) * 2 ^ (-53 + 0 : ℤ) = s * 10 ^ e := by
      obtain ⟨k, rfl⟩ := Int.eq_ofNat_of_zero_le he
      rw [Nat.shiftLeft_eq, Int.toNat_natCast, zpow_natCast]
      push_cast
      norm_num
      ring
    have hlarge : 2 ^ 52 ≤ s <<< 53 * 10 ^ e.toNat := by
      rw [Nat.shiftLeft_eq]
      have hpow : 0 < 10 ^ e.toNat := Nat.pow_pos (by decide)
      calc 2 ^ 52 ≤ s * 2 ^ 53 := by omega
        _ ≤ s * 2 ^ 53 * 10 ^ e.toNat := Nat.le_mul_of_pos_right _ hpow
    have h := @near_round_exact _ (-53 + 0) hlarge
    rw [hvalue] at h
    exact h (hv.mono (by decide))

end Microservices.Binary64
