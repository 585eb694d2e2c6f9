/-
  Retry limits as the services read them (`maxRetries` in payment-service/src/config/index.js,
  analytics-service/src/config/index.js and notification-service/src/config/index.js).

  A limit is `parseInt(process.env.X || "3", 10)`.  `validate` looks at the database URL only, so a
  service starts with whatever number comes of it: none, a negative one, an infinite one.  What the
  loops do with it are comparisons and `attempt++`, and both are those of doubles.

  1. **Numbers**: `Whole`, the doubles without a fraction: an integer, an infinity, or none.
  2. **Text**: `parseInt`: blanks, a sign, digits up to the first character that is none.
  3. **Limits**: `Countable` and `Reached`, the two ways in which a loop can have an end.
-/
import Mathlib.Algebra.Group.Int.Defs
import Mathlib.Algebra.Group.Nat.Defs

namespace Microservices

/-! ## Numbers without a fraction -/

/-- A JavaScript number that has no fraction; `-0` is not told from `0`. -/
inductive Whole : Type where
  | nan
  | negInfinity
  | infinity
  | int (n : Int)
  deriving DecidableEq, Repr

namespace Whole

/-- `v <= w`; nothing compares with `NaN`. -/
def le : Whole → Whole → Bool
  | nan, _ => false
  | _, nan => false
  | negInfinity, _ => true
  | _, infinity => true
  | int m, int n => decide (m ≤ n)
  | _, _ => false

/-- `v < w`. -/
def lt : Whole → Whole → Bool
  | nan, _ => false
  | _, nan => false
  | v, w => !le w v

/-- `-v`. -/
def neg : Whole → Whole
  | nan => nan
  | negInfinity => infinity
  | infinity => negInfinity
  | int n => int (-n)

/-- A number of attempts. -/
def toNat : Whole → Nat
  | int n => n.toNat
  | _ => 0

end Whole

/-- `n` rounded to 53 binary digits, ties to even. -/
def roundDouble (n : Nat) : Nat :=
  if n < 2 ^ 53 then n
  else
    let ulp := 2 ^ (Nat.log2 n - 52)
    let q := n / ulp
    let r := n % ulp
    if 2 * r < ulp ∨ 2 * r = ulp ∧ q % 2 = 0 then q * ulp else (q + 1) * ulp

/-- The number that a numeral for `n` stands for. -/
def numberOf (n : Nat) : Whole :=
  if roundDouble n < 2 ^ 1024 then .int (roundDouble n) else .infinity

/-- `n++`. -/
def increment (n : Nat) : Nat := roundDouble (n + 1)

/-- Up to there counting counts. -/
theorem increment_of_le {n : Nat} (h : n + 1 ≤ 2 ^ 53) : increment n = n + 1 := by
  rcases Nat.lt_or_eq_of_le h with hlt | heq
  · exact if_pos hlt
  · unfold increment
    rw [heq]
    decide +kernel

/-- From there on it stands still. -/
theorem increment_stuck : increment (2 ^ 53) = 2 ^ 53 := by decide +kernel

/-- So no counter gets past. -/
theorem increment_bounded {n : Nat} (h : n ≤ 2 ^ 53) : increment n ≤ 2 ^ 53 := by
  rcases Nat.lt_or_eq_of_le h with hlt | rfl
  · rw [increment_of_le hlt]
    exact hlt
  · exact Nat.le_of_eq increment_stuck

/-! ## `parseInt` -/

/-- A character that `parseInt` skips. -/
def isSpace (c : Char) : Bool :=
  [0x09, 0x0A, 0x0B, 0x0C, 0x0D, 0x20, 0xA0, 0x1680, 0x2028, 0x2029, 0x202F, 0x205F, 0x3000,
    0xFEFF].contains c.toNat || (0x2000 ≤ c.toNat && c.toNat ≤ 0x200A)

/-- The number that digits stand for. -/
def numeral (digits : List Char) : Nat :=
  digits.foldl (fun n c => 10 * n + (c.toNat - '0'.toNat)) 0

/-- The digits at the front, as a number. -/
def leadingNumber (cs : List Char) : Whole :=
  let digits := cs.takeWhile Char.isDigit
  if digits.isEmpty then .nan else numberOf (numeral digits)

/-- `parseInt(s, 10)`. -/
def parseInt (s : String) : Whole :=
  match s.toList.dropWhile isSpace with
  | '-' :: cs => (leadingNumber cs).neg
  | '+' :: cs => leadingNumber cs
  | cs => leadingNumber cs

example : parseInt "3" = .int 3 := by decide +kernel
example : parseInt " -2x" = .int (-2) := by decide +kernel
example : parseInt "Infinity" = .nan := by decide +kernel

/-- `parseInt(process.env.X || "3", 10)`. -/
def Config.maxRetries : Option String → Whole
  | none => parseInt "3"
  | some value => if value = "" then parseInt "3" else parseInt value

/-! ## Limits -/

namespace Whole

/-- A limit that a counter reaches and passes. -/
def Countable (limit : Whole) : Prop := ∃ n : Nat, limit = int n ∧ 1 ≤ n ∧ n < 2 ^ 53

/-- A limit that some count is not below: a counter gets as far as `2 ^ 53`. -/
def Reached (limit : Whole) : Prop := limit = negInfinity ∨ ∃ n : Int, limit = int n ∧ n ≤ 2 ^ 53

/-- Whole numbers are compared as they are. -/
theorem le_int (m n : Nat) : (int m).le (int n) = decide (m ≤ n) := by
  show decide ((m : Int) ≤ n) = decide (m ≤ n)
  rw [decide_eq_decide, Int.ofNat_le]

/-- The strict comparison is that of the numbers too. -/
theorem lt_int (m n : Nat) : (int m).lt (int n) = decide (m < n) := by
  show (!decide ((n : Int) ≤ m)) = decide (m < n)
  rw [← decide_not, decide_eq_decide, Int.ofNat_le, Nat.not_le]

/-- A loop from 1 to such a limit. -/
theorem Countable.le {limit : Whole} (h : limit.Countable) :
    ∃ n : Nat, 1 ≤ n ∧ n < 2 ^ 53 ∧ ∀ a : Nat, (int a).le limit = true ↔ a ≤ n := by
  obtain ⟨n, rfl, hpos, hlt⟩ := h
  refine ⟨n, hpos, hlt, fun a => ?_⟩
  rw [le_int, decide_eq_true_iff]

/-- With any other limit a loop from 1 does not start, or it never ends by its limit. -/
theorem not_countable {limit : Whole} (h : ¬ limit.Countable) :
    (int 1).le limit = false ∨ ∀ a : Nat, a ≤ 2 ^ 53 → (int a).le limit = true := by
  cases limit with
  | nan => exact Or.inl rfl
  | negInfinity => exact Or.inl rfl
  | infinity => exact Or.inr fun a ha => rfl
  | int n =>
    -- too small, or so large that the doubles stop counting below it
    by_cases hpos : 1 ≤ n
    · right
      intro a ha
      have hlarge : ¬ n.toNat < 2 ^ 53 := fun hlt => h ⟨n.toNat, by congr 1; omega, by omega, hlt⟩
      show decide ((a : Int) ≤ n) = true
      rw [decide_eq_true_iff]
      omega
    · left
      show decide ((1 : Int) ≤ n) = false
      rw [decide_eq_false_iff_not]
      exact hpos

end Whole

end Microservices
