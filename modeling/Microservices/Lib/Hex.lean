/-
  HEXADECIMAL DIGITS, for whoever writes bytes as text or reads them.

  A digit is written in one way, a small letter from ten on; it is read in either case.  What a
  program accepts here is thus more than what it writes, and a text that is read need not be the one
  that was written: only the other way round is nothing lost.

  `hexValue_hexDigit`: a digit that has been written is read back.

  `hexValue_lt`: what is read is below sixteen, whatever the letter.

  `hexValue_bounds`: no blank, no control character and no letter beyond ASCII is a digit.
-/
import Mathlib.Tactic.IntervalCases

namespace Microservices

/-- The digit of a number below sixteen. -/
def hexDigit (n : Nat) : Char := if n < 10 then Char.ofNat (0x30 + n) else Char.ofNat (0x57 + n)

/-- The value of a digit, in either case. -/
def hexValue (c : Char) : Option Nat :=
  if '0' ≤ c ∧ c ≤ '9' then some (c.toNat - 0x30)
  else if 'a' ≤ c ∧ c ≤ 'f' then some (c.toNat - 0x57)
  else if 'A' ≤ c ∧ c ≤ 'F' then some (c.toNat - 0x37)
  else none

/-- What has been written is read back. -/
theorem hexValue_hexDigit {n : Nat} (h : n < 16) : hexValue (hexDigit n) = some n := by
  interval_cases n <;> decide

/-- A digit is one of three runs of ASCII, and its value is its place in it. -/
theorem hexValue_cases {c : Char} {n : Nat} (h : hexValue c = some n) :
    (c.toNat = 0x30 + n ∧ n < 10) ∨ (c.toNat = 0x57 + n ∧ 10 ≤ n ∧ n < 16) ∨
      (c.toNat = 0x37 + n ∧ 10 ≤ n ∧ n < 16) := by
  -- the order of characters is that of their codes
  have hle : ∀ a b : Char, a ≤ b → a.toNat ≤ b.toNat := fun a b hab => hab
  unfold hexValue at h
  split at h
  · rename_i hdigit
    have hlo := hle _ _ hdigit.1
    have hhi := hle _ _ hdigit.2
    simp only [Char.reduceToNat] at hlo hhi
    cases h
    omega
  · split at h
    · rename_i hlower
      have hlo := hle _ _ hlower.1
      have hhi := hle _ _ hlower.2
      simp only [Char.reduceToNat] at hlo hhi
      cases h
      omega
    · split at h
      · rename_i hupper
        have hlo := hle _ _ hupper.1
        have hhi := hle _ _ hupper.2
        simp only [Char.reduceToNat] at hlo hhi
        cases h
        omega
      · cases h

/-- The value of a digit is below sixteen. -/
theorem hexValue_lt {c : Char} {n : Nat} (h : hexValue c = some n) : n < 16 := by
  have hcases := hexValue_cases h
  omega

/-- A digit is neither blank nor beyond ASCII. -/
theorem hexValue_bounds {c : Char} (h : hexValue c ≠ none) : 0x20 < c.toNat ∧ c.toNat < 0x85 := by
  obtain ⟨n, hn⟩ := Option.ne_none_iff_exists'.mp h
  have hcases := hexValue_cases hn
  omega

end Microservices
