/-
  JSON NUMBERS: a double as JSON writes it, and a number as JSON reads it.

  `decimal` lays the shortest digits of a double out as JavaScript does: plain up to 21 digits before
  the point and six zeros behind it, with an exponent beyond.  `Literal.number` reads any number JSON
  allows, sign, fraction and exponent in any form, as the double next to it.

  `decimal_scaled`: whatever the layout, the digits that are read count what those written did.  So an
  amount that has been written and read is the amount it was, up to two roundings
  (`near_number_jsonNumber`).
-/
import Microservices.Lib.JsonTree
import Microservices.Lib.NumberText

namespace Microservices.Json

open Binary64 (Near Within)

/-! ## Writing -/

/-- The digits with an exponent, one of them before the point. -/
def exponential (digits : List Char) (exponent : ℤ) : List Char :=
  digits.take 1 ++ (if digits.length = 1 then [] else '.' :: digits.drop 1) ++
    'e' :: (if exponent < 0 then '-' else '+') :: Nat.toDigits 10 exponent.natAbs

/-- `digits * 10 ^ exponent`, as `Number.prototype.toString` lays it out; `point` is where the point
    stands. -/
def decimal (digits : ℕ) (exponent : ℤ) : List Char :=
  let chars := Nat.toDigits 10 digits
  let point := chars.length + exponent
  if digits = 0 then ['0']
  else if 0 ≤ exponent ∧ point ≤ 21 then chars ++ List.replicate exponent.toNat '0'
  else if 0 < point ∧ point ≤ 21 then chars.take point.toNat ++ '.' :: chars.drop point.toNat
  else if -6 < point ∧ point ≤ 0 then '0' :: '.' :: (List.replicate (-point).toNat '0' ++ chars)
  else exponential chars (point - 1)

/-! ## Reading -/

/-- The number behind an `e`. -/
def exponentOf : List Char → ℤ
  | _ :: '-' :: digits => -(Nat.ofDigitChars 10 digits 0 : ℤ)
  | _ :: '+' :: digits => Nat.ofDigitChars 10 digits 0
  | _ :: digits => Nat.ofDigitChars 10 digits 0
  | [] => 0

/-- The digits of a number without its sign, and the power of ten they count. -/
def scaled (chars : List Char) : ℕ × ℤ :=
  match chars.dropWhile Char.isDigit with
  | '.' :: rest =>
    (Nat.ofDigitChars 10 (chars.takeWhile Char.isDigit ++ rest.takeWhile Char.isDigit) 0,
      exponentOf (rest.dropWhile Char.isDigit) - (rest.takeWhile Char.isDigit).length)
  | rest => (Nat.ofDigitChars 10 (chars.takeWhile Char.isDigit) 0, exponentOf rest)

/-- The double next to `digits * 10 ^ exponent`. -/
def nearest (digits : ℕ) (exponent : ℤ) : Float := ⟨Float.Model.ofScientific digits exponent⟩

/-- The double a number is read as. -/
def Literal.number (n : Literal) : Float :=
  match n.chars with
  | '-' :: chars => -nearest (scaled chars).1 (scaled chars).2
  | chars => nearest (scaled chars).1 (scaled chars).2

/-! ## Digits -/

/-- A numeral consists of digits. -/
theorem isDigit_toDigits {n : ℕ} : ∀ c ∈ Nat.toDigits 10 n, c.isDigit = true :=
  fun _ hc => Nat.isDigit_of_mem_toDigits (by decide) (by decide) hc

/-- The zeros put around a numeral are digits. -/
theorem isDigit_zeros {n : ℕ} : ∀ c ∈ List.replicate n '0', c.isDigit = true := by
  intro c hc
  rw [List.eq_of_mem_replicate hc]
  rfl

/-- Digits up to a character that is none. -/
theorem takeWhile_digits {ds rest : List Char} (hds : ∀ c ∈ ds, c.isDigit = true)
    (hrest : Ends rest) : (ds ++ rest).takeWhile Char.isDigit = ds ∧
      (ds ++ rest).dropWhile Char.isDigit = rest := by
  constructor
  · rw [List.takeWhile_append_of_pos hds]
    cases rest with
    | nil => exact List.append_nil _
    | cons c rest => rw [List.takeWhile_cons_of_neg (by rw [hrest c rfl]; decide), List.append_nil]
  · rw [List.dropWhile_append_of_pos hds]
    cases rest with
    | nil => rfl
    | cons c rest => exact List.dropWhile_cons_of_neg (by rw [hrest c rfl]; decide)

/-- Digits that keep a state are passed over. -/
theorem isNumber_append {state : NumberState} {ds : List Char} (rest : List Char)
    (hstay : ∀ c : Char, c.isDigit = true → state.next c = some state)
    (hds : ∀ c ∈ ds, c.isDigit = true) : state.isNumber (ds ++ rest) = state.isNumber rest := by
  induction ds with
  | nil => rfl
  | cons c ds ih =>
    rw [List.cons_append, NumberState.isNumber, hstay c (hds c List.mem_cons_self)]
    exact ih fun c hc => hds c (List.mem_cons_of_mem _ hc)

/-- One digit more than none. -/
theorem isNumber_digits {state state' : NumberState} {ds : List Char} (rest : List Char)
    (hfirst : ∀ c : Char, c.isDigit = true → state.next c = some state')
    (hstay : ∀ c : Char, c.isDigit = true → state'.next c = some state')
    (hds : ∀ c ∈ ds, c.isDigit = true) (hne : ds ≠ []) :
    state.isNumber (ds ++ rest) = state'.isNumber rest := by
  cases ds with
  | nil => exact absurd rfl hne
  | cons c ds =>
    rw [List.cons_append, NumberState.isNumber, hfirst c (hds c List.mem_cons_self)]
    exact isNumber_append rest hstay fun c hc => hds c (List.mem_cons_of_mem _ hc)

/-- The digits of a positive number, or some of them from the front. -/
structure Leading (ds : List Char) : Prop where
  digit : ∀ c ∈ ds, c.isDigit = true
  ne_nil : ds ≠ []
  head : ds.head? ≠ some '0'

/-- The numeral of a positive number begins with no zero. -/
theorem leading_toDigits {n : ℕ} (h : 0 < n) : Leading (Nat.toDigits 10 n) :=
  ⟨isDigit_toDigits, Nat.toDigits_ne_nil, head?_toDigits h⟩

/-- A beginning of such a numeral begins with no zero either. -/
theorem Leading.take {ds : List Char} (h : Leading ds) {n : ℕ} (hn : 0 < n) : Leading (ds.take n) where
  digit c hc := h.digit c (List.mem_of_mem_take hc)
  ne_nil hnil := by
    rcases List.take_eq_nil_iff.mp hnil with hzero | hds
    · omega
    · exact h.ne_nil hds
  head := by
    rw [List.head?_take, if_neg (by omega)]
    exact h.head

/-- A number may begin here. -/
structure Begins (state : NumberState) : Prop where
  zero : state.next '0' = some .zero
  digit : ∀ c : Char, c.isDigit = true → c ≠ '0' → state.next c = some .digits

/-- After a minus sign a number is to begin. -/
theorem begins_minus : Begins .minus where
  zero := rfl
  digit c hc hzero := by
    show NumberState.firstDigit c = _
    unfold NumberState.firstDigit
    rw [if_neg hzero, if_pos hc]

/-- At its start a number is to begin. -/
theorem begins_start : Begins .start where
  zero := rfl
  digit c hc hzero := by
    have hminus : c ≠ '-' := by
      rintro rfl
      cases hc
    show (if c = '-' then some NumberState.minus else NumberState.firstDigit c) = _
    rw [if_neg hminus]
    exact begins_minus.digit c hc hzero

/-- The digits before the point. -/
theorem isNumber_leading {state : NumberState} {ds : List Char} (hstate : Begins state)
    (h : Leading ds) (rest : List Char) :
    state.isNumber (ds ++ rest) = NumberState.isNumber .digits rest := by
  cases ds with
  | nil => exact absurd rfl h.ne_nil
  | cons c ds =>
    have hzero : c ≠ '0' := by
      rintro rfl
      exact h.head rfl
    rw [List.cons_append, NumberState.isNumber, hstate.digit c (h.digit c List.mem_cons_self) hzero]
    refine isNumber_append rest (fun c hc => ?_) fun c hc => h.digit c (List.mem_cons_of_mem _ hc)
    exact if_pos hc

/-- The digits behind the point. -/
theorem isNumber_fraction {ds : List Char} (rest : List Char) (hds : ∀ c ∈ ds, c.isDigit = true)
    (hne : ds ≠ []) :
    NumberState.isNumber .dot (ds ++ rest) = NumberState.isNumber .fraction rest :=
  isNumber_digits rest (fun _ hc => if_pos hc) (fun _ hc => if_pos hc) hds hne

/-- The exponent. -/
theorem isNumber_exponent (exponent : ℤ) :
    NumberState.isNumber .e ((if exponent < 0 then '-' else '+') ::
      Nat.toDigits 10 exponent.natAbs) = true := by
  have hsign : NumberState.next .e (if exponent < 0 then '-' else '+') = some .sign := by
    split <;> rfl
  have hdigits := @isNumber_digits .sign .exponent (Nat.toDigits 10 exponent.natAbs) []
    (fun _ hc => if_pos hc) (fun _ hc => if_pos hc) isDigit_toDigits Nat.toDigits_ne_nil
  rw [List.append_nil] at hdigits
  rw [NumberState.isNumber, hsign]
  exact hdigits

/-- No numeral is empty. -/
theorem length_toDigits_pos (n : ℕ) : 0 < (Nat.toDigits 10 n).length :=
  List.length_pos_of_ne_nil Nat.toDigits_ne_nil

/-- What `decimal` writes is a number, in each of its layouts. -/
theorem isNumber_decimal {state : NumberState} (hstate : Begins state) (digits : ℕ) (exponent : ℤ) :
    state.isNumber (decimal digits exponent) = true := by
  unfold decimal
  dsimp only
  split
  · rw [NumberState.isNumber, hstate.zero]
    rfl
  rename_i hzero
  have hlead := leading_toDigits (Nat.pos_of_ne_zero hzero)
  split
  · rw [isNumber_leading hstate hlead]
    have hzeros := @isNumber_append .digits _ [] (fun c hc => if_pos hc)
      (@isDigit_zeros exponent.toNat)
    rw [List.append_nil] at hzeros
    rw [hzeros]
    rfl
  split
  · rename_i hlow hpoint
    have hdrop : (Nat.toDigits 10 digits).drop
        ((Nat.toDigits 10 digits).length + exponent).toNat ≠ [] := by
      rw [ne_eq, List.drop_eq_nil_iff]
      omega
    have hfraction := isNumber_fraction [] (fun c hc => hlead.digit c (List.mem_of_mem_drop hc)) hdrop
    rw [List.append_nil] at hfraction
    rw [isNumber_leading hstate (hlead.take (by omega))]
    exact hfraction
  split
  · have hfraction := @isNumber_fraction
      (List.replicate (-((Nat.toDigits 10 digits).length + exponent)).toNat '0' ++
        Nat.toDigits 10 digits) []
      (fun c hc => (List.mem_append.mp hc).elim (isDigit_zeros c) (hlead.digit c))
      (by simp [hlead.ne_nil])
    rw [List.append_nil] at hfraction
    rw [NumberState.isNumber, hstate.zero]
    exact hfraction
  · unfold exponential
    rw [List.append_assoc, isNumber_leading hstate (hlead.take Nat.one_pos)]
    split
    · exact isNumber_exponent _
    · rename_i hlength
      have hdrop : (Nat.toDigits 10 digits).drop 1 ≠ [] := by
        have hpos := length_toDigits_pos digits
        rw [ne_eq, List.drop_eq_nil_iff]
        omega
      rw [List.cons_append]
      show NumberState.isNumber .dot _ = true
      rw [isNumber_fraction _ (fun c hc => hlead.digit c (List.mem_of_mem_drop hc)) hdrop]
      exact isNumber_exponent _

/-- The number with this sign, these digits and this power of ten. -/
def Literal.ofDecimal (negative : Bool) (digits : ℕ) (exponent : ℤ) : Literal where
  chars := if negative then '-' :: decimal digits exponent else decimal digits exponent
  ok := by
    split
    · exact isNumber_decimal begins_minus digits exponent
    · exact isNumber_decimal begins_start digits exponent

/-- A double in JSON: what is not finite is `null`. -/
def jsonNumber (x : Float) : Tree :=
  match numberText x with
  | .decimal negative digits exponent => .num (.ofDecimal negative digits exponent)
  | _ => .null

/-! ## What is read is what was written -/

/-- An exponent is read back, with its sign. -/
theorem exponentOf_exponent (exponent : ℤ) :
    exponentOf ('e' :: (if exponent < 0 then '-' else '+') :: Nat.toDigits 10 exponent.natAbs) =
      exponent := by
  split
  · show -((Nat.ofDigitChars 10 (Nat.toDigits 10 exponent.natAbs) 0 : ℕ) : ℤ) = exponent
    rw [Nat.ofDigitChars_ten_toDigits]
    omega
  · show ((Nat.ofDigitChars 10 (Nat.toDigits 10 exponent.natAbs) 0 : ℕ) : ℤ) = exponent
    rw [Nat.ofDigitChars_ten_toDigits]
    omega

/-- A number with a point. -/
theorem scaled_point {ds fs rest : List Char} (hds : ∀ c ∈ ds, c.isDigit = true)
    (hfs : ∀ c ∈ fs, c.isDigit = true) (hrest : Ends rest) :
    scaled (ds ++ '.' :: (fs ++ rest)) =
      (Nat.ofDigitChars 10 (ds ++ fs) 0, exponentOf rest - fs.length) := by
  obtain ⟨htake, hdrop⟩ := takeWhile_digits hds (ends_cons (show ('.' : Char).isDigit = false from rfl) :
    Ends ('.' :: (fs ++ rest)))
  obtain ⟨htake', hdrop'⟩ := takeWhile_digits hfs hrest
  unfold scaled
  rw [hdrop, htake]
  show (Nat.ofDigitChars 10 (ds ++ (fs ++ rest).takeWhile Char.isDigit) 0,
    exponentOf ((fs ++ rest).dropWhile Char.isDigit) -
      ((fs ++ rest).takeWhile Char.isDigit).length) = _
  rw [htake', hdrop']

/-- A number without. -/
theorem scaled_plain {ds rest : List Char} (hds : ∀ c ∈ ds, c.isDigit = true) (hrest : Ends rest)
    (hpoint : rest.head? ≠ some '.') :
    scaled (ds ++ rest) = (Nat.ofDigitChars 10 ds 0, exponentOf rest) := by
  obtain ⟨htake, hdrop⟩ := takeWhile_digits hds hrest
  unfold scaled
  rw [hdrop, htake]
  split
  · exact absurd rfl hpoint
  · rfl

/-- **Whatever the layout, what is read counts what was written.** -/
theorem decimal_scaled {digits : ℕ} (hpos : 0 < digits) (exponent : ℤ) :
    ((scaled (decimal digits exponent)).1 : ℚ) * 10 ^ (scaled (decimal digits exponent)).2 =
      digits * 10 ^ exponent := by
  have hlead := leading_toDigits hpos
  have hends : Ends [] := fun c hc => nomatch hc
  unfold decimal
  dsimp only
  rw [if_neg (by omega)]
  split
  · -- digits followed by zeros
    rename_i hlow
    obtain ⟨k, hk⟩ := Int.eq_ofNat_of_zero_le hlow.1
    have hall : ∀ c ∈ Nat.toDigits 10 digits ++ List.replicate exponent.toNat '0',
        c.isDigit = true :=
      fun c hc => (List.mem_append.mp hc).elim (hlead.digit c) (isDigit_zeros c)
    have hread := scaled_plain hall hends (nomatch ·)
    rw [List.append_nil] at hread
    rw [hread, Nat.ofDigitChars_append, Nat.ofDigitChars_ten_toDigits, Nat.ofDigitChars_replicate_zero, hk]
    show ((10 ^ k * digits : ℕ) : ℚ) * 10 ^ (0 : ℤ) = digits * 10 ^ (k : ℤ)
    push_cast
    rw [zpow_natCast, mul_one, mul_comm]
  split
  · rename_i hlow hpoint
    have hread := @scaled_point ((Nat.toDigits 10 digits).take
        ((Nat.toDigits 10 digits).length + exponent).toNat) ((Nat.toDigits 10 digits).drop
        ((Nat.toDigits 10 digits).length + exponent).toNat) []
      (fun c hc => hlead.digit c (List.mem_of_mem_take hc))
      (fun c hc => hlead.digit c (List.mem_of_mem_drop hc)) hends
    rw [List.append_nil, List.take_append_drop, Nat.ofDigitChars_ten_toDigits, List.length_drop] at hread
    rw [hread]
    congr 2
    show (0 : ℤ) - _ = _
    omega
  split
  · rename_i hlow hmiddle hpoint
    have hall : ∀ c ∈ List.replicate (-((Nat.toDigits 10 digits).length + exponent)).toNat '0' ++
        Nat.toDigits 10 digits, c.isDigit = true :=
      fun c hc => (List.mem_append.mp hc).elim (isDigit_zeros c) (hlead.digit c)
    have hzeros : ∀ n, Nat.ofDigitChars 10 (['0'] ++ List.replicate n '0') 0 = 0 := by
      intro n
      rw [List.singleton_append, ← List.replicate_succ, Nat.ofDigitChars_replicate_zero, Nat.mul_zero]
    have hread := @scaled_point ['0'] _ [] (@isDigit_zeros 1) hall hends
    rw [List.append_nil, ← List.append_assoc, Nat.ofDigitChars_append, hzeros,
      Nat.ofDigitChars_ten_toDigits, List.length_append, List.length_replicate] at hread
    show ((scaled (['0'] ++ '.' :: _)).1 : ℚ) * 10 ^ (scaled (['0'] ++ '.' :: _)).2 = _
    rw [hread]
    congr 2
    show (0 : ℤ) - _ = _
    omega
  · -- otherwise an exponent is written, after one digit or after several
    generalize hpoint : (Nat.toDigits 10 digits).length + exponent - 1 = x
    have hends' : Ends ('e' :: (if x < 0 then '-' else '+') :: Nat.toDigits 10 x.natAbs) :=
      ends_cons rfl
    have hlength := length_toDigits_pos digits
    unfold exponential
    split
    · rename_i hone
      rw [List.append_nil, List.take_of_length_le (by omega), scaled_plain hlead.digit hends' (by simp),
        exponentOf_exponent, Nat.ofDigitChars_ten_toDigits]
      congr 2
      omega
    · have hread := @scaled_point ((Nat.toDigits 10 digits).take 1) ((Nat.toDigits 10 digits).drop 1) _
        (fun c hc => hlead.digit c (List.mem_of_mem_take hc))
        (fun c hc => hlead.digit c (List.mem_of_mem_drop hc)) hends'
      rw [List.take_append_drop, Nat.ofDigitChars_ten_toDigits, List.length_drop,
        exponentOf_exponent] at hread
      rw [List.append_assoc, List.cons_append, hread]
      congr 2
      omega

/-- The digits have no sign. -/
theorem number_ofDecimal (digits : ℕ) (exponent : ℤ) :
    (Literal.ofDecimal false digits exponent).number =
      nearest (scaled (decimal digits exponent)).1 (scaled (decimal digits exponent)).2 := by
  unfold Literal.number
  split
  · rename_i chars hminus
    have hok := isNumber_decimal begins_minus digits exponent
    rw [show decimal digits exponent = '-' :: chars from hminus] at hok
    cases hok
  · rfl

/-- **An amount survives its text**: up to two roundings the double that is read is the one that was
    written. -/
theorem near_number_jsonNumber {n : ℕ} {x : Float} {v : ℚ} (h : Near n x.toModel v) (hn : n ≤ 50)
    (hv : Within 700 v) : ∃ l : Literal, jsonNumber x = .num l ∧ Near (n + 2) l.number.toModel v := by
  obtain ⟨digits, exponent, htext, happrox⟩ := numberText_near h (by omega) hv
  have hpos : 0 < digits := by
    rcases Nat.eq_zero_or_pos digits with rfl | hpos
    · have hzero := happrox.left_pos
      simp at hzero
    · exact hpos
  have hscaled := decimal_scaled hpos exponent
  refine ⟨.ofDecimal false digits exponent, ?_, ?_⟩
  · unfold jsonNumber
    rw [htext]
  · rw [number_ofDecimal]
    generalize scaled (decimal digits exponent) = read at hscaled
    have hread : 0 < read.1 := by
      rcases Nat.eq_zero_or_pos read.1 with hzero | hread
      · rw [hzero] at hscaled
        have hprod := happrox.left_pos
        rw [← hscaled] at hprod
        simp at hprod
      · exact hread
    have hwithin : Within 900 ((read.1 : ℚ) * 10 ^ read.2) := by
      rw [hscaled]
      exact (hv.of_approx happrox).mono (by omega)
    -- reading it rounds once, choosing it has rounded once
    have hnear := Binary64.near_ofScientific hread hwithin
    rw [hscaled] at hnear
    have htotal := hnear.trans happrox
    rw [show 1 + (1 + n) = n + 2 by omega] at htotal
    exact htotal

end Microservices.Json
