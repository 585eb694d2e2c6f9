/-
  INT32 OF A DOUBLE: the number that a double is, cut off and taken modulo `2 ^ 32`.

  `toInt32_of_value`: a whole number of 32 bits survives.  Every other number becomes some number of
  32 bits all the same, and neither NaN nor the infinities are an exception: they become zero.

  `value` reads the double through its own bits, so that nothing is assumed of it; `truncate` cuts
  off in the direction of zero; and what is left of the number is its class modulo `2 ^ 32`, read
  with a sign.  That the conversion never fails is what makes it dangerous: 2.5 and `2 ^ 32 + 2` are
  both 2.
-/
import Mathlib

namespace Microservices

open Float.Model Float.Model.UnpackedFloat

/-- The number that a double is, unless it is NaN or infinite. -/
def value (x : Float) : Option ℚ :=
  match x.toModel.unpack with
  | .zero _ => some 0
  | .finite sign m e _ => some ((sign.apply (m : ℤ) : ℚ) * 2 ^ e)
  | _ => none

/-- The whole number next to `v` in the direction of zero. -/
def truncate (v : ℚ) : ℤ := v.num.tdiv v.den

/-- `ToInt32`. -/
def toInt32 (x : Float) : Int32 :=
  match value x with
  | some v => Int32.ofInt (truncate v)
  | none => 0

/-- An integer is its own integer part. -/
theorem truncate_intCast (n : ℤ) : truncate n = n := by
  show ((n : ℚ).num).tdiv ((n : ℚ).den : ℤ) = n
  rw [Rat.num_intCast, Rat.den_intCast]
  exact Int.tdiv_one n

/-- A whole number of 32 bits is kept. -/
theorem toInt32_of_value {x : Float} {n : ℤ} (h : value x = some (n : ℚ)) (hlo : -2 ^ 31 ≤ n)
    (hhi : n < 2 ^ 31) : (toInt32 x).toInt = n := by
  unfold toInt32
  rw [h]
  show (Int32.ofInt (truncate n)).toInt = n
  rw [truncate_intCast]
  exact Int32.toInt_ofInt_of_le hlo hhi

end Microservices
