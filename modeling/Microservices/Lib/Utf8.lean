/-
  UTF-8 WITH REPLACEMENT: a decoder that never fails.

  The decoder reads byte by byte.  A byte that cannot go on the sequence it is in ends it with U+FFFD
  and is read once more as a first byte; so does the end of the bytes.  Nothing is rejected, and what
  was ill-formed can no longer be told from what was U+FFFD.

  * `decode_encode`: the encoding of a text is decoded as that text;
  * `encode_decode_iff`: a sequence of bytes survives exactly if it is the encoding of a text.
-/
import Mathlib.Data.List.Basic

namespace Microservices.Utf8

/-! ## The decoder -/

/-- Inside a sequence: how many bytes follow the next one, between which bounds the next one must
    lie, and the bits so far. -/
structure Pending where
  more : Nat
  lower : Nat
  upper : Nat
  code : Nat

/-- What stands for an ill-formed sequence. -/
def replacement : Char := '\uFFFD'

/-- A first byte: the text it completes, and the sequence it begins. -/
def first (b : Nat) : List Char × Option Pending :=
  if b < 0x80 then ([Char.ofNat b], none)
  else if b < 0xC2 then ([replacement], none)
  else if b < 0xE0 then ([], some ⟨0, 0x80, 0xBF, b % 0x20⟩)
  else if b < 0xF0 then
    ([], some ⟨1, if b = 0xE0 then 0xA0 else 0x80, if b = 0xED then 0x9F else 0xBF, b % 0x10⟩)
  else if b < 0xF5 then
    ([], some ⟨2, if b = 0xF0 then 0x90 else 0x80, if b = 0xF4 then 0x8F else 0xBF, b % 0x08⟩)
  else ([replacement], none)

/-- A byte inside a sequence. -/
def Pending.next (p : Pending) (b : Nat) : List Char × Option Pending :=
  if p.lower ≤ b ∧ b ≤ p.upper then
    match p.more with
    | 0 => ([Char.ofNat (p.code * 0x40 + b % 0x40)], none)
    | more + 1 => ([], some ⟨more, 0x80, 0xBF, p.code * 0x40 + b % 0x40⟩)
  else (replacement :: (first b).1, (first b).2)

/-- A byte. -/
def read : Option Pending → Nat → List Char × Option Pending
  | none, b => first b
  | some p, b => p.next b

/-- The text of some bytes. -/
def decodeFrom : Option Pending → List UInt8 → List Char
  | none, [] => []
  | some _, [] => [replacement]
  | state, b :: bytes => (read state b.toNat).1 ++ decodeFrom (read state b.toNat).2 bytes

/-- `buffer.toString()`. -/
def decode (bytes : List UInt8) : String := String.ofList (decodeFrom none bytes)

/-- `Buffer.from(text)`. -/
def encode (text : String) : List UInt8 := text.toList.flatMap String.utf8EncodeChar

/-! ## One byte after the other -/

section Bytes

variable {state : Option Pending} {bytes : List UInt8} {n more lower upper code : Nat}

/-- One byte more: what it completes, and the state that it leaves. -/
theorem decodeFrom_byte (h : n < 256) : decodeFrom state (UInt8.ofNat n :: bytes) =
    (read state n).1 ++ decodeFrom (read state n).2 bytes := by
  have hbyte : (UInt8.ofNat n).toNat = n := UInt8.toNat_ofNat_of_lt' h
  cases state with
  | none =>
    show (read none (UInt8.ofNat n).toNat).1 ++ _ = _
    rw [hbyte]
  | some p =>
    show (read (some p) (UInt8.ofNat n).toNat).1 ++ _ = _
    rw [hbyte]

/-- A first byte below 0x80 is a character. -/
theorem first_one (h : n < 0x80) : first n = ([Char.ofNat n], none) := if_pos h

/-- A first byte of two. -/
theorem first_two (hlo : 0xC2 ≤ n) (hhi : n < 0xE0) :
    first n = ([], some ⟨0, 0x80, 0xBF, n % 0x20⟩) := by
  unfold first
  rw [if_neg (by omega), if_neg (by omega), if_pos hhi]

/-- A first byte of three; the two exceptions keep out overlong forms and surrogates. -/
theorem first_three (hlo : 0xE0 ≤ n) (hhi : n < 0xF0) :
    first n = ([], some ⟨1, if n = 0xE0 then 0xA0 else 0x80,
      if n = 0xED then 0x9F else 0xBF, n % 0x10⟩) := by
  unfold first
  rw [if_neg (by omega), if_neg (by omega), if_neg (by omega), if_pos hhi]

/-- A first byte of four, within the range of Unicode. -/
theorem first_four (hlo : 0xF0 ≤ n) (hhi : n < 0xF5) :
    first n = ([], some ⟨2, if n = 0xF0 then 0x90 else 0x80,
      if n = 0xF4 then 0x8F else 0xBF, n % 0x08⟩) := by
  unfold first
  rw [if_neg (by omega), if_neg (by omega), if_neg (by omega), if_neg (by omega), if_pos hhi]

/-- The last byte of a sequence. -/
theorem decodeFrom_last (hlo : lower ≤ n) (hhi : n ≤ upper) (h : n < 256) :
    decodeFrom (some ⟨0, lower, upper, code⟩) (UInt8.ofNat n :: bytes) =
      Char.ofNat (code * 0x40 + n % 0x40) :: decodeFrom none bytes := by
  have hread : read (some ⟨0, lower, upper, code⟩) n =
      ([Char.ofNat (code * 0x40 + n % 0x40)], none) := if_pos ⟨hlo, hhi⟩
  rw [decodeFrom_byte h, hread]
  rfl

/-- Another byte of it. -/
theorem decodeFrom_more (hlo : lower ≤ n) (hhi : n ≤ upper) (h : n < 256) :
    decodeFrom (some ⟨more + 1, lower, upper, code⟩) (UInt8.ofNat n :: bytes) =
      decodeFrom (some ⟨more, 0x80, 0xBF, code * 0x40 + n % 0x40⟩) bytes := by
  have hread : read (some ⟨more + 1, lower, upper, code⟩) n =
      ([], some ⟨more, 0x80, 0xBF, code * 0x40 + n % 0x40⟩) := if_pos ⟨hlo, hhi⟩
  rw [decodeFrom_byte h, hread]
  rfl

/-- A first byte that begins a sequence. -/
theorem decodeFrom_begin {p : Pending} (hfirst : first n = ([], some p)) (h : n < 256) :
    decodeFrom none (UInt8.ofNat n :: bytes) = decodeFrom (some p) bytes := by
  have hread : read none n = ([], some p) := hfirst
  rw [decodeFrom_byte h, hread]
  rfl

end Bytes

/-! ## Texts survive -/

/-- The encoding of a character is decoded as that character. -/
theorem decodeFrom_char (c : Char) (bytes : List UInt8) :
    decodeFrom none (String.utf8EncodeChar c ++ bytes) = c :: decodeFrom none bytes := by
  have hvalid : c.val.toNat < 0xD800 ∨ 0xDFFF < c.val.toNat ∧ c.val.toNat < 0x110000 := c.valid
  have hc : Char.ofNat c.val.toNat = c := Char.ofNat_toNat c
  unfold String.utf8EncodeChar
  dsimp only
  generalize c.val.toNat = v at hvalid hc ⊢
  rw [← hc]
  by_cases h1 : v ≤ 0x7F
  · rw [if_pos h1]
    have hfirst : read none v = ([Char.ofNat v], none) := first_one (by omega)
    show decodeFrom none (UInt8.ofNat v :: bytes) = _
    rw [decodeFrom_byte (by omega), hfirst]
    rfl
  rw [if_neg h1]
  by_cases h2 : v ≤ 0x7FF
  · rw [if_pos h2]
    show decodeFrom none (_ :: _ :: bytes) = _
    rw [decodeFrom_begin (first_two (by omega) (by omega)) (by omega),
      decodeFrom_last (by omega) (by omega) (by omega)]
    congr 2
    omega
  rw [if_neg h2]
  -- the middle byte of three is restricted after 0xE0 and 0xED
  by_cases h3 : v ≤ 0xFFFF
  · rw [if_pos h3]
    show decodeFrom none (_ :: _ :: _ :: bytes) = _
    rw [decodeFrom_begin (first_three (by omega) (by omega)) (by omega),
      decodeFrom_more (by split <;> omega) (by split <;> omega) (by omega),
      decodeFrom_last (by omega) (by omega) (by omega)]
    congr 2
    omega
  rw [if_neg h3]
  show decodeFrom none (_ :: _ :: _ :: _ :: bytes) = _
  rw [decodeFrom_begin (first_four (by omega) (by omega)) (by omega),
    decodeFrom_more (by split <;> omega) (by split <;> omega) (by omega),
    decodeFrom_more (by omega) (by omega) (by omega),
    decodeFrom_last (by omega) (by omega) (by omega)]
  congr 2
  omega

/-- **The encoding of a text is decoded as that text.** -/
theorem decode_encode (text : String) : decode (encode text) = text := by
  have hchars : ∀ chars : List Char, decodeFrom none (chars.flatMap String.utf8EncodeChar) = chars := by
    intro chars
    induction chars with
    | nil => rfl
    | cons c chars ih => rw [List.flatMap_cons, decodeFrom_char, ih]
  unfold decode encode
  rw [hchars]
  exact String.ofList_toList

/-- The bytes are the encoding of a text. -/
def IsText (bytes : List UInt8) : Prop := ∃ text, encode text = bytes

/-- **Exactly what survives.** -/
theorem encode_decode_iff (bytes : List UInt8) : encode (decode bytes) = bytes ↔ IsText bytes := by
  constructor
  · intro h
    exact ⟨decode bytes, h⟩
  · rintro ⟨text, rfl⟩
    rw [decode_encode]

/-- Whether bytes are UTF-8 can be computed. -/
instance (bytes : List UInt8) : Decidable (IsText bytes) :=
  decidable_of_iff _ (encode_decode_iff bytes)

end Microservices.Utf8
