/-
  A FRAGMENT OF JSON: objects whose fields are strings, natural numbers and null.

  `stringify` writes such an object without a blank, as `JSON.stringify` does; `parse` reads one with
  any blanks and any escapes.  An escaped surrogate is no character and is not read.

  `parse_stringify`: what has been written is read back.

  The reader is the larger part, and more general than the writer: it skips blanks, and reads an
  escape of any kind.  The proof goes by what `stringify` writes: a string ends at its own quote
  (`body_quoted`), a number where something follows that is no digit (`Ends`), and an object has
  fuel enough because each member takes at least one character.
-/
import Mathlib.Data.List.Basic
import Microservices.Lib.Hex

namespace Microservices.Json

/-- The value of a field. -/
inductive Scalar : Type where
  | null
  | num (n : Nat)
  | str (s : String)
  deriving DecidableEq

/-- The fields of an object, in order. -/
abbrev Fields : Type := List (String × Scalar)

/-- `object.name`: of two fields of one name the later. -/
def Fields.get (fields : Fields) (name : String) : Option Scalar :=
  (fields.reverse.find? fun field => decide (field.1 = name)).map Prod.snd

/-! ## Writing -/

/-- A character inside quotes. -/
def escape (c : Char) : List Char :=
  if c = '"' then ['\\', '"']
  else if c = '\\' then ['\\', '\\']
  else if c = '\x08' then ['\\', 'b']
  else if c = '\x0c' then ['\\', 'f']
  else if c = '\n' then ['\\', 'n']
  else if c = '\r' then ['\\', 'r']
  else if c = '\t' then ['\\', 't']
  else if c.toNat < 0x20 then
    ['\\', 'u', '0', '0', hexDigit (c.toNat / 0x10), hexDigit (c.toNat % 0x10)]
  else [c]

/-- A string after its opening quote. -/
def quoted (s : String) : List Char := s.toList.flatMap escape ++ ['"']

/-- The text of a value that is neither an object nor an array. -/
def Scalar.text : Scalar → List Char
  | null => ['n', 'u', 'l', 'l']
  | num n => Nat.toDigits 10 n
  | str s => '"' :: quoted s

/-- The fields after the first brace. -/
def membersText : Fields → List Char
  | [] => ['\x7d']
  | [(name, value)] => '"' :: (quoted name ++ ':' :: (value.text ++ ['\x7d']))
  | (name, value) :: fields =>
    '"' :: (quoted name ++ ':' :: (value.text ++ ',' :: membersText fields))

/-- `JSON.stringify`. -/
def stringify (fields : Fields) : String := String.ofList ('\x7b' :: membersText fields)

/-! ## Reading -/

/-- Inside quotes: after an ordinary character; after a backslash; or with so many hexadecimal digits
    to come after the next one. -/
inductive Inside : Type where
  | plain
  | escaped
  | hex (more code : Nat)

/-- What a letter stands for after a backslash. -/
def unescape : Char → Option Char
  | '"' => some '"'
  | '\\' => some '\\'
  | '/' => some '/'
  | 'b' => some '\x08'
  | 'f' => some '\x0c'
  | 'n' => some '\n'
  | 'r' => some '\r'
  | 't' => some '\t'
  | _ => none

/-- One more character of a string. -/
def prepend (c : Char) (read : Option (List Char × List Char)) : Option (List Char × List Char) :=
  read.map fun (chars, rest) => (c :: chars, rest)

/-- A string after its opening quote, and what follows it. -/
def body : Inside → List Char → Option (List Char × List Char)
  | _, [] => none
  | .plain, c :: cs =>
    if c = '"' then some ([], cs)
    else if c = '\\' then body .escaped cs
    else if c.toNat < 0x20 then none
    else prepend c (body .plain cs)
  | .escaped, c :: cs =>
    if c = 'u' then body (.hex 3 0) cs
    else
      match unescape c with
      | some c' => prepend c' (body .plain cs)
      | none => none
  | .hex more code, c :: cs =>
    match hexValue c with
    | none => none
    | some d =>
      match more with
      | more + 1 => body (.hex more (code * 0x10 + d)) cs
      | 0 =>
        if (code * 0x10 + d).isValidChar then
          prepend (Char.ofNat (code * 0x10 + d)) (body .plain cs)
        else none

/-- Blanks are passed over. -/
def skip : List Char → List Char :=
  List.dropWhile fun c => c = ' ' ∨ c = '\t' ∨ c = '\n' ∨ c = '\r'

/-- A number: its digits, without a zero before others, and what follows them. -/
def number (cs : List Char) : Option (Nat × List Char) :=
  let digits := cs.takeWhile Char.isDigit
  if digits = [] ∨ 1 < digits.length ∧ digits.head? = some '0' then none
  else some (Nat.ofDigitChars 10 digits 0, cs.dropWhile Char.isDigit)

/-- The value of a field, and what follows it. -/
def scalar : List Char → Option (Scalar × List Char)
  | '"' :: cs => (body .plain cs).map fun (chars, rest) => (.str (String.ofList chars), rest)
  | 'n' :: 'u' :: 'l' :: 'l' :: cs => some (.null, cs)
  | cs => (number cs).map fun (n, rest) => (.num n, rest)

/-- The fields of an object, at most `fuel` of them, and what follows its last brace. -/
def members : Nat → List Char → Option (Fields × List Char)
  | 0, _ => none
  | fuel + 1, cs =>
    match skip cs with
    | '"' :: cs =>
      match body .plain cs with
      | none => none
      | some (name, cs) =>
        match skip cs with
        | ':' :: cs =>
          match scalar (skip cs) with
          | none => none
          | some (value, cs) =>
            match skip cs with
            | ',' :: cs => (members fuel cs).map fun (fields, rest) =>
                ((String.ofList name, value) :: fields, rest)
            | '\x7d' :: cs => some ([(String.ofList name, value)], cs)
            | _ => none
        | _ => none
    | _ => none

/-- `JSON.parse`, of a text that holds such an object. -/
def parse (text : String) : Option Fields :=
  match skip text.toList with
  | '\x7b' :: cs =>
    let read := match skip cs with
      | '\x7d' :: rest => some ([], rest)
      | cs => members cs.length cs
    match read with
    | some (fields, rest) => if skip rest = [] then some fields else none
    | none => none
  | _ => none

/-! ## Strings are read back -/

/-- A control character, in hexadecimal. -/
theorem body_control {n : Nat} (h : n < 0x20) (rest : List Char) :
    body .plain (['\\', 'u', '0', '0', hexDigit (n / 0x10), hexDigit (n % 0x10)] ++ rest) =
      prepend (Char.ofNat n) (body .plain rest) := by
  have hvalid : n.isValidChar := Or.inl (by omega)
  have hcode : (0 * 0x10 + n / 0x10) * 0x10 + n % 0x10 = n := by omega
  show body (.hex 1 0) (hexDigit (n / 0x10) :: hexDigit (n % 0x10) :: rest) = _
  rw [body, hexValue_hexDigit (by omega)]
  show body (.hex 0 _) (hexDigit (n % 0x10) :: rest) = _
  rw [body, hexValue_hexDigit (by omega)]
  dsimp only
  rw [hcode, if_pos hvalid]

/-- What has been escaped is read as the character it was. -/
theorem body_escape (c : Char) (rest : List Char) :
    body .plain (escape c ++ rest) = prepend c (body .plain rest) := by
  unfold escape
  split
  · rename_i h
    rw [h]
    rfl
  · rename_i hquote
    split
    · rename_i h
      rw [h]
      rfl
    · rename_i hbackslash
      split
      · rename_i h
        rw [h]
        rfl
      split
      · rename_i h
        rw [h]
        rfl
      split
      · rename_i h
        rw [h]
        rfl
      split
      · rename_i h
        rw [h]
        rfl
      split
      · rename_i h
        rw [h]
        rfl
      split
      · -- a control character, written as its four hexadecimal digits
        rename_i hcontrol
        rw [body_control hcontrol, Char.ofNat_toNat]
      · rename_i hcontrol
        show body .plain (c :: rest) = _
        rw [body, if_neg hquote, if_neg hbackslash, if_neg hcontrol]

/-- A quoted text is read back. -/
theorem body_quoted (s : String) (rest : List Char) :
    body .plain (quoted s ++ rest) = some (s.toList, rest) := by
  have hchars : ∀ chars : List Char,
      body .plain (chars.flatMap escape ++ '"' :: rest) = some (chars, rest) := by
    intro chars
    induction chars with
    | nil => rfl
    | cons c chars ih =>
      rw [List.flatMap_cons, List.append_assoc, body_escape, ih]
      rfl
  unfold quoted
  rw [List.append_assoc]
  exact hchars s.toList

/-! ## Numbers are read back -/

/-- A positive number does not begin with a zero. -/
theorem head?_toDigits {n : Nat} (h : 0 < n) : (Nat.toDigits 10 n).head? ≠ some '0' := by
  induction n using Nat.strongRecOn with
  | ind n ih =>
    by_cases hsmall : n < 10
    · rw [Nat.toDigits_of_lt_base hsmall]
      have hdigit : ∀ d < 10, 0 < d → [d.digitChar].head? ≠ some '0' := by decide
      exact hdigit n hsmall h
    · rw [Nat.toDigits_of_base_le (by decide) (by omega), List.head?_append_of_ne_nil _ Nat.toDigits_ne_nil]
      exact ih (n / 10) (by omega) (by omega)

/-- What follows a number is no digit. -/
def Ends (rest : List Char) : Prop := ∀ c ∈ rest.head?, c.isDigit = false

/-- So is a numeral, up to the character after it. -/
theorem number_digits (n : Nat) {rest : List Char} (hrest : Ends rest) :
    number (Nat.toDigits 10 n ++ rest) = some (n, rest) := by
  have hall : ∀ c ∈ Nat.toDigits 10 n, c.isDigit = true :=
    fun c hc => Nat.isDigit_of_mem_toDigits (by decide) (by decide) hc
  have htake : (Nat.toDigits 10 n ++ rest).takeWhile Char.isDigit = Nat.toDigits 10 n := by
    rw [List.takeWhile_append_of_pos hall]
    cases rest with
    | nil => exact List.append_nil _
    | cons c rest => rw [List.takeWhile_cons_of_neg (by rw [hrest c rfl]; decide), List.append_nil]
  have hdrop : (Nat.toDigits 10 n ++ rest).dropWhile Char.isDigit = rest := by
    rw [List.dropWhile_append_of_pos hall]
    cases rest with
    | nil => rfl
    | cons c rest => exact List.dropWhile_cons_of_neg (by rw [hrest c rfl]; decide)
  -- no number is written with a leading zero
  have hzero : ¬ (Nat.toDigits 10 n = [] ∨
      1 < (Nat.toDigits 10 n).length ∧ (Nat.toDigits 10 n).head? = some '0') := by
    rintro (hnil | ⟨hlength, hhead⟩)
    · exact Nat.toDigits_ne_nil hnil
    · rcases Nat.eq_zero_or_pos n with rfl | hpos
      · exact absurd hlength (by decide)
      · exact head?_toDigits hpos hhead
  unfold number
  rw [htake, hdrop]
  dsimp only
  rw [if_neg hzero, Nat.ofDigitChars_ten_toDigits]

/-! ## Objects are read back -/

/-- What is no white space is not skipped. -/
theorem skip_cons {c : Char} {cs : List Char}
    (h : ¬ (c = ' ' ∨ c = '\t' ∨ c = '\n' ∨ c = '\r')) : skip (c :: cs) = c :: cs := by
  unfold skip
  exact List.dropWhile_cons_of_neg (by simpa using h)

/-- The text of a value is read back, and begins with no blank. -/
theorem scalar_text (value : Scalar) {rest : List Char} (hrest : Ends rest) :
    scalar (skip (value.text ++ rest)) = some (value, rest) := by
  cases value with
  | null => rfl
  | str s =>
    show scalar (skip ('"' :: (quoted s ++ rest))) = _
    rw [skip_cons (by decide)]
    show (body .plain (quoted s ++ rest)).map _ = _
    rw [body_quoted]
    exact congrArg (fun t => some (Scalar.str t, rest)) String.ofList_toList
  | num n =>
    show scalar (skip (Nat.toDigits 10 n ++ rest)) = _
    have hnumber := number_digits n hrest
    have hall : ∀ c ∈ Nat.toDigits 10 n, c.isDigit = true :=
      fun c hc => Nat.isDigit_of_mem_toDigits (by decide) (by decide) hc
    cases hdigits : Nat.toDigits 10 n with
    | nil => exact absurd hdigits Nat.toDigits_ne_nil
    | cons c cs =>
      rw [hdigits] at hnumber hall
      have hdigit := hall c List.mem_cons_self
      -- a digit is no blank and opens none of the other values
      have hother : ∀ c' : Char, c'.isDigit = false → c ≠ c' := by
        rintro c' hc' rfl
        rw [hdigit] at hc'
        cases hc'
      have hblank : ¬ (c = ' ' ∨ c = '\t' ∨ c = '\n' ∨ c = '\r') := by
        rintro (h | h | h | h) <;> exact hother _ (by decide) h
      rw [List.cons_append] at hnumber ⊢
      rw [skip_cons hblank]
      unfold scalar
      split
      · rename_i heq
        exact absurd (List.cons.inj heq).1 (hother _ (by decide))
      · rename_i heq
        exact absurd (List.cons.inj heq).1 (hother _ (by decide))
      · rw [hnumber]
        rfl

/-- A numeral ends before any character that is no digit. -/
theorem ends_cons {c : Char} {cs : List Char} (h : c.isDigit = false) : Ends (c :: cs) := by
  intro c' hc'
  cases hc'
  exact h

/-- A field and what follows it. -/
theorem members_cons (name : String) (value : Scalar) {fuel : Nat} {cs : List Char} (hcs : Ends cs) :
    members (fuel + 1) ('"' :: (quoted name ++ ':' :: (value.text ++ cs))) =
      match skip cs with
      | ',' :: cs => (members fuel cs).map fun (fields, rest) => ((name, value) :: fields, rest)
      | '\x7d' :: cs => some ([(name, value)], cs)
      | _ => none := by
  rw [members, skip_cons (by decide)]
  simp only [body_quoted]
  rw [skip_cons (by decide)]
  simp only [scalar_text value hcs, String.ofList_toList]

/-- The fields of an object, given fuel for each. -/
theorem members_text (fields : Fields) (hfields : fields ≠ []) {fuel : Nat}
    (hfuel : fields.length ≤ fuel) (rest : List Char) :
    members fuel (membersText fields ++ rest) = some (fields, rest) := by
  induction fields generalizing fuel with
  | nil => exact absurd rfl hfields
  | cons field fields ih =>
    obtain ⟨name, value⟩ := field
    obtain ⟨fuel, rfl⟩ := Nat.exists_eq_add_of_le' (Nat.le_trans (Nat.le_add_left 1 _) hfuel)
    cases fields with
    | nil =>
      have hends : Ends ('\x7d' :: rest) := ends_cons (by decide)
      have htext : membersText [(name, value)] ++ rest =
          '"' :: (quoted name ++ ':' :: (value.text ++ '\x7d' :: rest)) := by
        simp [membersText]
      rw [htext, members_cons name value hends, skip_cons (by decide)]
      rfl
    | cons next fields =>
      -- a comma ends the value, and the other members follow
      have hends : Ends (',' :: (membersText (next :: fields) ++ rest)) := ends_cons (by decide)
      have htext : membersText ((name, value) :: next :: fields) ++ rest =
          '"' :: (quoted name ++ ':' ::
            (value.text ++ ',' :: (membersText (next :: fields) ++ rest))) := by
        simp [membersText]
      rw [htext, members_cons name value hends, skip_cons (by decide)]
      have hrest := ih (List.cons_ne_nil _ _) (Nat.le_of_succ_le_succ hfuel)
      simp only [hrest]
      rfl

/-- A text of fields is longer than their number: fuel enough. -/
theorem length_membersText (fields : Fields) : fields.length < (membersText fields).length := by
  induction fields with
  | nil => decide
  | cons field fields ih =>
    obtain ⟨name, value⟩ := field
    cases fields with
    | nil =>
      simp only [membersText, List.length_cons, List.length_append]
      omega
    | cons next fields =>
      simp only [membersText, List.length_cons, List.length_append] at ih ⊢
      omega

/-- Fields begin with a quote. -/
theorem membersText_cons (field : String × Scalar) (fields : Fields) :
    ∃ cs, membersText (field :: fields) = '"' :: cs := by
  cases fields with
  | nil => exact ⟨_, rfl⟩
  | cons next fields => exact ⟨_, rfl⟩

/-- **What has been written is read back.** -/
theorem parse_stringify (fields : Fields) : parse (stringify fields) = some fields := by
  unfold parse stringify
  rw [String.toList_ofList, skip_cons (by decide)]
  cases fields with
  | nil => rfl
  | cons field fields =>
    have hmembers := members_text (field :: fields) (List.cons_ne_nil _ _)
      (Nat.le_of_lt (length_membersText (field :: fields))) []
    -- the text of the first member begins with its name's quote
    obtain ⟨cs, hcs⟩ := membersText_cons field fields
    rw [List.append_nil, hcs] at hmembers
    rw [hcs]
    show (match (match skip ('"' :: cs) with
      | '\x7d' :: rest => some ([], rest)
      | cs => members cs.length cs) with
      | some (fields, rest) => if skip rest = [] then some fields else none
      | none => none) = _
    rw [skip_cons (by decide)]
    show (match members ('"' :: cs).length ('"' :: cs) with
      | some (fields, rest) => if skip rest = [] then some fields else none
      | none => none) = _
    rw [hmembers]
    rfl

end Microservices.Json
