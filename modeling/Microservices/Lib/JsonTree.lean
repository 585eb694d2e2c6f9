/-
  JSON: values of any depth, their text and back.

  A number is kept as it is written, and what is no JSON number cannot be one: which double it stands
  for is for others to say.  `Tree.text` writes without a blank, as `JSON.stringify` does;
  `Tree.parse` reads with any blanks and any escapes, on fuel that the length of the text bounds.

  The number is the one token without an end of its own.  It ends where the next character cannot
  belong to it, so the round trip (`Tree.parse_text`) carries what may follow a value along.
-/
import Microservices.Lib.Json

namespace Microservices.Json

/-! ## Numbers -/

/-- How far a number has been read. -/
inductive NumberState : Type where
  | start
  | minus
  | zero
  | digits
  | dot
  | fraction
  | e
  | sign
  | exponent
  deriving DecidableEq, Repr

namespace NumberState

/-- What may follow the integer part. -/
def afterInteger (c : Char) : Option NumberState :=
  if c = '.' then some dot else if c = 'e' ∨ c = 'E' then some e else none

/-- The first digit. -/
def firstDigit (c : Char) : Option NumberState :=
  if c = '0' then some zero else if c.isDigit then some digits else none

/-- One more character; `none` if it does not belong to the number. -/
def next : NumberState → Char → Option NumberState
  | start, c => if c = '-' then some minus else firstDigit c
  | minus, c => firstDigit c
  | zero, c => afterInteger c
  | digits, c => if c.isDigit then some digits else afterInteger c
  | dot, c => if c.isDigit then some fraction else none
  | fraction, c =>
    if c.isDigit then some fraction else if c = 'e' ∨ c = 'E' then some e else none
  | e, c => if c = '+' ∨ c = '-' then some sign else if c.isDigit then some exponent else none
  | sign, c => if c.isDigit then some exponent else none
  | exponent, c => if c.isDigit then some exponent else none

/-- The number may end here. -/
def accepts : NumberState → Bool
  | zero => true
  | digits => true
  | fraction => true
  | exponent => true
  | _ => false

/-- The text of a number from here on. -/
def isNumber : NumberState → List Char → Bool
  | state, [] => state.accepts
  | state, c :: cs =>
    match state.next c with
    | some state' => isNumber state' cs
    | none => false

/-- As many characters as belong to the number, and what follows them. -/
def scan : NumberState → List Char → List Char × List Char
  | _, [] => ([], [])
  | state, c :: cs =>
    match state.next c with
    | some state' => (c :: (scan state' cs).1, (scan state' cs).2)
    | none => ([], c :: cs)

end NumberState

/-- The text of a number. -/
structure Literal where
  chars : List Char
  ok : NumberState.start.isNumber chars = true

/-! ## Values and their text -/

/-- A JSON value; of two fields of one name both are kept. -/
inductive Tree : Type where
  | null
  | bool (b : Bool)
  | num (n : Literal)
  | str (s : String)
  | arr (xs : List Tree)
  | obj (fields : List (String × Tree))

/-- A comma if anything follows. -/
def comma {α : Type} (more : List α) : List Char := if more.isEmpty then [] else [',']

mutual

/-- `JSON.stringify`. -/
def Tree.text : Tree → List Char
  | .null => ['n', 'u', 'l', 'l']
  | .bool true => ['t', 'r', 'u', 'e']
  | .bool false => ['f', 'a', 'l', 's', 'e']
  | .num n => n.chars
  | .str s => '"' :: quoted s
  | .arr xs => '[' :: elementsText xs
  | .obj fields => '\x7b' :: fieldsText fields

/-- The elements after the opening bracket. -/
def elementsText : List Tree → List Char
  | [] => [']']
  | x :: xs => x.text ++ (comma xs ++ elementsText xs)

/-- The fields after the opening brace. -/
def fieldsText : List (String × Tree) → List Char
  | [] => ['\x7d']
  | (name, x) :: fields =>
    '"' :: (quoted name ++ ':' :: (x.text ++ (comma fields ++ fieldsText fields)))

end

/-! ## Reading -/

/-- The text of a number, read as far as it goes. -/
def literal (cs : List Char) : Option (Tree × List Char) :=
  if h : NumberState.start.isNumber (NumberState.start.scan cs).1 = true then
    some (.num ⟨(NumberState.start.scan cs).1, h⟩, (NumberState.start.scan cs).2)
  else none

mutual

/-- A value that begins here, and what follows it. -/
def value : Nat → List Char → Option (Tree × List Char)
  | 0, _ => none
  | fuel + 1, cs =>
    match cs with
    | '"' :: cs => (body .plain cs).map fun (chars, rest) => (.str (String.ofList chars), rest)
    | '[' :: cs =>
      match skip cs with
      | ']' :: rest => some (.arr [], rest)
      | cs => (elements fuel cs).map fun (xs, rest) => (.arr xs, rest)
    | '\x7b' :: cs =>
      match skip cs with
      | '\x7d' :: rest => some (.obj [], rest)
      | cs => (fields fuel cs).map fun (fields, rest) => (.obj fields, rest)
    | 'n' :: 'u' :: 'l' :: 'l' :: rest => some (.null, rest)
    | 't' :: 'r' :: 'u' :: 'e' :: rest => some (.bool true, rest)
    | 'f' :: 'a' :: 'l' :: 's' :: 'e' :: rest => some (.bool false, rest)
    | cs => literal cs

/-- The elements of an array that is not empty, and what follows its bracket. -/
def elements : Nat → List Char → Option (List Tree × List Char)
  | 0, _ => none
  | fuel + 1, cs =>
    match value fuel cs with
    | none => none
    | some (x, cs) =>
      match skip cs with
      | ',' :: cs => (elements fuel (skip cs)).map fun (xs, rest) => (x :: xs, rest)
      | ']' :: rest => some ([x], rest)
      | _ => none

/-- The fields of an object that is not empty, and what follows its brace. -/
def fields : Nat → List Char → Option (List (String × Tree) × List Char)
  | 0, _ => none
  | fuel + 1, cs =>
    match cs with
    | '"' :: cs =>
      match body .plain cs with
      | none => none
      | some (name, cs) =>
        match skip cs with
        | ':' :: cs =>
          match value fuel (skip cs) with
          | none => none
          | some (x, cs) =>
            match skip cs with
            | ',' :: cs => (fields fuel (skip cs)).map fun (more, rest) =>
                ((String.ofList name, x) :: more, rest)
            | '\x7d' :: rest => some ([(String.ofList name, x)], rest)
            | _ => none
        | _ => none
    | _ => none

end

/-- `JSON.parse`: one value and blanks around it. -/
def Tree.parse (text : String) : Option Tree :=
  match value (text.toList.length + 1) (skip text.toList) with
  | some (x, rest) => if skip rest = [] then some x else none
  | none => none

/-! ## Numbers are read back -/

/-- No number goes on with what follows. -/
def Stops (rest : List Char) : Prop := ∀ c ∈ rest.head?, ∀ state : NumberState, state.next c = none

/-- The end of the text stops a number. -/
theorem stops_nil : Stops [] := fun _ hc => nomatch hc

/-- A comma does. -/
theorem stops_comma (rest : List Char) : Stops (',' :: rest) := by
  intro c hc state
  cases hc
  cases state <;> rfl

/-- A bracket does. -/
theorem stops_bracket (rest : List Char) : Stops (']' :: rest) := by
  intro c hc state
  cases hc
  cases state <;> rfl

/-- A brace does. -/
theorem stops_brace (rest : List Char) : Stops ('\x7d' :: rest) := by
  intro c hc state
  cases hc
  cases state <;> rfl

/-- A number is scanned up to what stops it. -/
theorem scan_append {cs rest : List Char} {state : NumberState} (h : state.isNumber cs = true)
    (hrest : Stops rest) : state.scan (cs ++ rest) = (cs, rest) := by
  induction cs generalizing state with
  | nil =>
    cases rest with
    | nil => rfl
    | cons c rest =>
      show NumberState.scan state (c :: rest) = _
      unfold NumberState.scan
      -- what follows cannot continue a number
      rw [hrest c rfl state]
  | cons c cs ih =>
    unfold NumberState.isNumber at h
    rw [List.cons_append]
    unfold NumberState.scan
    cases hnext : state.next c with
    | none =>
      rw [hnext] at h
      cases h
    | some state' =>
      rw [hnext] at h
      simp only [ih h]

/-- It is read as it was written. -/
theorem literal_append (n : Literal) {rest : List Char} (hrest : Stops rest) :
    literal (n.chars ++ rest) = some (.num n, rest) := by
  unfold literal
  simp only [scan_append n.ok hrest, n.ok, dite_true]

/-! ## Values are read back -/

/-- A character between tokens. -/
def Blank (c : Char) : Prop := c = ' ' ∨ c = '\t' ∨ c = '\n' ∨ c = '\r'

/-- Whether a character is white space can be computed. -/
instance (c : Char) : Decidable (Blank c) := inferInstanceAs (Decidable (_ ∨ _ ∨ _ ∨ _))

/-- A number begins with a minus or a digit. -/
theorem head_literal (n : Literal) : ∃ c cs, n.chars = c :: cs ∧ (c = '-' ∨ c.isDigit = true) := by
  obtain ⟨chars, ok⟩ := n
  cases chars with
  | nil => cases ok
  | cons c cs =>
    refine ⟨c, cs, rfl, ?_⟩
    by_cases hminus : c = '-'
    · exact Or.inl hminus
    · right
      by_contra hdigit
      -- nothing but a minus or a digit starts a number
      have hnone : NumberState.start.next c = none := by
        have hzero : c ≠ '0' := by
          rintro rfl
          exact hdigit rfl
        show (if c = '-' then _ else NumberState.firstDigit c) = none
        rw [if_neg hminus]
        unfold NumberState.firstDigit
        rw [if_neg hzero, if_neg hdigit]
      unfold NumberState.isNumber at ok
      rw [hnone] at ok
      cases ok

/-- A value begins with no blank, and with nothing that closes an array. -/
theorem head_text (x : Tree) : ∃ c cs, x.text = c :: cs ∧ ¬ Blank c ∧ c ≠ ']' := by
  cases x with
  | null => exact ⟨'n', ['u', 'l', 'l'], by simp only [Tree.text], by decide, by decide⟩
  | bool b =>
    cases b with
    | true => exact ⟨'t', ['r', 'u', 'e'], by simp only [Tree.text], by decide, by decide⟩
    | false => exact ⟨'f', ['a', 'l', 's', 'e'], by simp only [Tree.text], by decide, by decide⟩
  | num n =>
    -- a minus or a digit is neither a blank nor a bracket
    obtain ⟨c, cs, hchars, hc⟩ := head_literal n
    refine ⟨c, cs, by simp only [Tree.text, hchars], ?_, ?_⟩
    · rcases hc with rfl | hdigit
      · decide
      · rintro (rfl | rfl | rfl | rfl) <;> exact absurd hdigit (by decide)
    · rintro rfl
      rcases hc with hc | hc <;> exact absurd hc (by decide)
  | str s => exact ⟨'"', quoted s, by simp only [Tree.text], by decide, by decide⟩
  | arr xs => exact ⟨'[', elementsText xs, by simp only [Tree.text], by decide, by decide⟩
  | obj fs => exact ⟨'\x7b', fieldsText fs, by simp only [Tree.text], by decide, by decide⟩

/-- No text of a value begins with white space. -/
theorem skip_text (x : Tree) (rest : List Char) : skip (x.text ++ rest) = x.text ++ rest := by
  obtain ⟨c, cs, htext, hblank, -⟩ := head_text x
  rw [htext]
  exact skip_cons hblank

/-- No text of a value is empty. -/
theorem length_text_pos (x : Tree) : 0 < x.text.length := by
  obtain ⟨c, cs, htext, -⟩ := head_text x
  rw [htext]
  exact Nat.succ_pos _

/-- A number is read as a value. -/
theorem value_literal (n : Literal) {fuel : Nat} {rest : List Char} (hrest : Stops rest) :
    value (fuel + 1) (n.chars ++ rest) = some (.num n, rest) := by
  have hliteral := literal_append n hrest
  obtain ⟨c, cs, hchars, hc⟩ := head_literal n
  rw [hchars] at hliteral ⊢
  rw [List.cons_append] at hliteral ⊢
  -- it is none of the other tokens
  have hother : ∀ c' : Char, c' ≠ '-' → c'.isDigit = false → c ≠ c' := by
    rintro c' hminus hdigit rfl
    rcases hc with heq | hc
    · exact hminus heq
    · rw [hc] at hdigit
      cases hdigit
  unfold value
  split
  · rename_i heq
    exact absurd (List.cons.inj heq).1 (hother _ (by decide) (by decide))
  · rename_i heq
    exact absurd (List.cons.inj heq).1 (hother _ (by decide) (by decide))
  · rename_i heq
    exact absurd (List.cons.inj heq).1 (hother _ (by decide) (by decide))
  · rename_i heq
    exact absurd (List.cons.inj heq).1 (hother _ (by decide) (by decide))
  · rename_i heq
    exact absurd (List.cons.inj heq).1 (hother _ (by decide) (by decide))
  · rename_i heq
    exact absurd (List.cons.inj heq).1 (hother _ (by decide) (by decide))
  · exact hliteral

/-- An array whose first element begins here. -/
theorem value_bracket (fuel : Nat) {c : Char} (cs : List Char) (hblank : ¬ Blank c)
    (hclose : c ≠ ']') : value (fuel + 1) ('[' :: c :: cs) =
      (elements fuel (c :: cs)).map fun (xs, rest) => (.arr xs, rest) := by
  unfold value
  simp only [skip_cons hblank]
  split
  · rename_i heq
    exact absurd (List.cons.inj heq).1 hclose
  · rfl

/-- An object whose first name begins here. -/
theorem value_brace (fuel : Nat) (cs : List Char) : value (fuel + 1) ('\x7b' :: '"' :: cs) =
    (fields fuel ('"' :: cs)).map fun (fs, rest) => (.obj fs, rest) := by
  have hskip : skip ('"' :: cs) = '"' :: cs := skip_cons (by decide)
  unfold value
  simp only [hskip]
  rfl

/-- What follows an element, or a field, ends a number. -/
theorem stops_elements (xs : List Tree) (rest : List Char) :
    Stops (comma xs ++ (elementsText xs ++ rest)) := by
  cases xs with
  | nil =>
    simp only [comma, elementsText, List.isEmpty_nil, if_true, List.nil_append]
    exact stops_bracket rest
  | cons x xs => exact stops_comma _

/-- What follows a field stops a number. -/
theorem stops_fields (fs : List (String × Tree)) (rest : List Char) :
    Stops (comma fs ++ (fieldsText fs ++ rest)) := by
  cases fs with
  | nil =>
    simp only [comma, fieldsText, List.isEmpty_nil, if_true, List.nil_append]
    exact stops_brace rest
  | cons f fs => exact stops_comma _

/-- An element that is read back, and what follows it. -/
theorem elements_cons {fuel : Nat} {x : Tree} {xs : List Tree} {rest : List Char}
    (hx : value fuel (x.text ++ (comma xs ++ (elementsText xs ++ rest))) =
      some (x, comma xs ++ (elementsText xs ++ rest)))
    (hxs : xs ≠ [] → elements fuel (elementsText xs ++ rest) = some (xs, rest)) :
    elements (fuel + 1) (elementsText (x :: xs) ++ rest) = some (x :: xs, rest) := by
  have htext : elementsText (x :: xs) ++ rest =
      x.text ++ (comma xs ++ (elementsText xs ++ rest)) := by
    rw [elementsText, List.append_assoc, List.append_assoc]
  rw [htext, elements, hx]
  cases xs with
  | nil =>
    simp only [comma, elementsText, List.isEmpty_nil, if_true, List.nil_append, List.cons_append]
    rw [skip_cons (by decide)]
    rfl
  | cons y ys =>
    -- between the comma and the next value there is no blank to skip
    have hskip : skip (elementsText (y :: ys) ++ rest) = elementsText (y :: ys) ++ rest := by
      rw [elementsText, List.append_assoc]
      exact skip_text y _
    show (match skip (',' :: (elementsText (y :: ys) ++ rest)) with
      | ',' :: cs => (elements fuel (skip cs)).map fun (xs, rest) => (x :: xs, rest)
      | ']' :: rest => some ([x], rest)
      | _ => none) = some (x :: y :: ys, rest)
    rw [skip_cons (by decide)]
    show (elements fuel (skip (elementsText (y :: ys) ++ rest))).map _ = _
    rw [hskip, hxs (List.cons_ne_nil y ys)]
    rfl

/-- A field that is read back, and what follows it. -/
theorem fields_cons {fuel : Nat} {name : String} {x : Tree} {fs : List (String × Tree)}
    {rest : List Char}
    (hx : value fuel (x.text ++ (comma fs ++ (fieldsText fs ++ rest))) =
      some (x, comma fs ++ (fieldsText fs ++ rest)))
    (hfs : fs ≠ [] → fields fuel (fieldsText fs ++ rest) = some (fs, rest)) :
    fields (fuel + 1) (fieldsText ((name, x) :: fs) ++ rest) = some ((name, x) :: fs, rest) := by
  have htext : fieldsText ((name, x) :: fs) ++ rest =
      '"' :: (quoted name ++ ':' :: (x.text ++ (comma fs ++ (fieldsText fs ++ rest)))) := by
    rw [fieldsText]
    simp only [List.cons_append, List.append_assoc]
  have hcolon : ∀ cs, skip (':' :: cs) = ':' :: cs := fun cs => skip_cons (by decide)
  rw [htext, fields]
  simp only [body_quoted, hcolon, skip_text, hx, String.ofList_toList]
  cases fs with
  | nil =>
    simp only [comma, fieldsText, List.isEmpty_nil, if_true, List.nil_append, List.cons_append]
    rw [skip_cons (by decide)]
    rfl
  | cons f fs =>
    -- a name begins with its quote, so no blank is skipped
    have hskip : skip (fieldsText (f :: fs) ++ rest) = fieldsText (f :: fs) ++ rest := by
      rw [fieldsText]
      exact skip_cons (by decide)
    show (match skip (',' :: (fieldsText (f :: fs) ++ rest)) with
      | ',' :: cs => (fields fuel (skip cs)).map fun (more, rest) => ((name, x) :: more, rest)
      | '\x7d' :: rest => some ([(name, x)], rest)
      | _ => none) = some ((name, x) :: f :: fs, rest)
    rw [skip_cons (by decide)]
    show (fields fuel (skip (fieldsText (f :: fs) ++ rest))).map _ = _
    rw [hskip, hfs (List.cons_ne_nil f fs)]
    rfl

mutual

/-- A value is read back from its text, whatever stops it behind, on fuel for its length. -/
theorem value_text (x : Tree) {fuel : Nat} {rest : List Char} (hfuel : x.text.length ≤ fuel)
    (hrest : Stops rest) : value fuel (x.text ++ rest) = some (x, rest) := by
  obtain ⟨fuel, rfl⟩ :=
    Nat.exists_eq_add_of_le' (Nat.le_trans (length_text_pos x) hfuel)
  match x with
  | .null => simp [Tree.text, value]
  | .bool true => simp [Tree.text, value]
  | .bool false => simp [Tree.text, value]
  | .num n =>
    rw [Tree.text]
    exact value_literal n hrest
  | .str s =>
    rw [Tree.text, List.cons_append]
    unfold value
    simp only [body_quoted, Option.map_some, String.ofList_toList]
  | .arr [] =>
    have hskip : skip (']' :: rest) = ']' :: rest := skip_cons (by decide)
    simp only [Tree.text, elementsText, List.cons_append, List.nil_append]
    unfold value
    simp only [hskip]
  | .arr (y :: ys) =>
    rw [Tree.text, List.length_cons] at hfuel
    have hread := elements_text (y :: ys) (List.cons_ne_nil y ys)
      (Nat.le_of_succ_le_succ hfuel) rest
    -- the first value does not look like the end of the array
    obtain ⟨c, cs, htext, hblank, hclose⟩ := head_text y
    rw [Tree.text, List.cons_append]
    rw [elementsText, htext, List.append_assoc, List.cons_append] at hread ⊢
    rw [value_bracket fuel _ hblank hclose, hread]
    rfl
  | .obj [] =>
    have hskip : skip ('\x7d' :: rest) = '\x7d' :: rest := skip_cons (by decide)
    simp only [Tree.text, fieldsText, List.cons_append, List.nil_append]
    unfold value
    simp only [hskip]
  | .obj ((name, y) :: fs) =>
    rw [Tree.text, List.length_cons] at hfuel
    have hread := fields_text ((name, y) :: fs) (List.cons_ne_nil _ fs)
      (Nat.le_of_succ_le_succ hfuel) rest
    rw [Tree.text, List.cons_append]
    rw [fieldsText, List.cons_append] at hread ⊢
    rw [value_brace, hread]
    rfl

/-- The elements of an array are read back. -/
theorem elements_text (xs : List Tree) (hxs : xs ≠ []) {fuel : Nat}
    (hfuel : (elementsText xs).length ≤ fuel) (rest : List Char) :
    elements fuel (elementsText xs ++ rest) = some (xs, rest) := by
  match xs with
  | [] => exact absurd rfl hxs
  | y :: ys =>
    have hpos := length_text_pos y
    -- a value and a bracket or comma are longer than the value alone
    have hsome : 0 < (elementsText ys).length := by
      cases ys with
      | nil => simp [elementsText]
      | cons z zs =>
        rw [elementsText, List.length_append]
        exact Nat.lt_of_lt_of_le (length_text_pos z) (Nat.le_add_right _ _)
    rw [elementsText, List.length_append, List.length_append] at hfuel
    obtain ⟨fuel, rfl⟩ : ∃ n, fuel = n + 1 := Nat.exists_eq_succ_of_ne_zero (by omega)
    have hy := @value_text y fuel _ (by omega) (stops_elements ys rest)
    exact elements_cons hy fun hne => elements_text ys hne (by omega) rest

/-- The fields of an object are read back. -/
theorem fields_text (fs : List (String × Tree)) (hfs : fs ≠ []) {fuel : Nat}
    (hfuel : (fieldsText fs).length ≤ fuel) (rest : List Char) :
    fields fuel (fieldsText fs ++ rest) = some (fs, rest) := by
  match fs with
  | [] => exact absurd rfl hfs
  | (name, y) :: more =>
    rw [fieldsText] at hfuel
    simp only [List.length_cons, List.length_append] at hfuel
    obtain ⟨fuel, rfl⟩ : ∃ n, fuel = n + 1 := Nat.exists_eq_succ_of_ne_zero (by omega)
    have hy := @value_text y fuel _ (by omega) (stops_fields more rest)
    exact fields_cons hy fun hne => fields_text more hne (by omega) rest

end

/-- **A value is read back from the text it is written as.** -/
theorem Tree.parse_text (x : Tree) : Tree.parse (String.ofList x.text) = some x := by
  have hskip := skip_text x []
  have hvalue := value_text x (Nat.le_succ x.text.length) stops_nil
  rw [List.append_nil] at hskip hvalue
  unfold Tree.parse
  rw [String.toList_ofList, hskip, hvalue]
  rfl

end Microservices.Json
