/-
  What the services share: the errors they throw, the timers they set and the amounts Postgres stores.

  JavaScript numbers are IEEE doubles, Lean's own `Float`.  How Postgres reads a double into a
  `NUMERIC(12,2)` column (rounding, rejection of what does not fit) is the database's business: the
  models take it as a function `Float → Option Numeric`, `none` meaning that the statement fails.

  Two functions of the platforms the services run on belong here as well, since more than one
  service meets them: `timerDelay`, what `setTimeout` makes of a delay, and `Numeric.toNumber`, what
  `Number(...)` makes of a column.
-/
import Mathlib.Algebra.Group.Nat.Defs

namespace Microservices

/-- An error as the code throws it: a message and, on some errors, a code. -/
structure JsError where
  message : String
  code : Option String := none
  deriving DecidableEq, Repr

/-- `lastError.message` while `lastError` is still undefined. -/
def messageOfUndefined : JsError :=
  { message := "Cannot read properties of undefined (reading 'message')" }

/-- How long a `setTimeout` of `ms` milliseconds waits: Node makes one millisecond of a delay that is
    below one or does not fit into 31 bits. -/
def timerDelay (ms : Nat) : Nat := if 1 ≤ ms ∧ ms < 2 ^ 31 then ms else 1

/-- A delay that fits is waited for. -/
theorem timerDelay_of_lt {ms : Nat} (hpos : 1 ≤ ms) (hlt : ms < 2 ^ 31) : timerDelay ms = ms :=
  if_pos ⟨hpos, hlt⟩

/-- A delay that does not fit is next to none. -/
theorem timerDelay_of_ge {ms : Nat} (h : 2 ^ 31 ≤ ms) : timerDelay ms = 1 :=
  if_neg fun hfits => Nat.not_lt.mpr h hfits.2

/-- A value of a `NUMERIC(12,2)` column: a number of hundredths, or `NaN`. -/
inductive Numeric : Type where
  | nan
  | hundredths (n : Int)
  deriving DecidableEq, Repr

/-- `Number(column)`: the double nearest to the stored amount. -/
def Numeric.toNumber : Numeric → Float
  | .nan => 0.0 / 0.0
  | .hundredths n => Float.ofInt n / 100.0

/-- Postgres rejects an amount that does not fit the column. -/
def numericOverflow : JsError := { message := "numeric field overflow", code := some "22003" }

end Microservices
