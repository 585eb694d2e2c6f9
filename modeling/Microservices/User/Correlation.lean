/-
  The ids that user-service draws (user-service/internal/correlation/correlation.go).

  `NewID` writes the text of a UUID itself, from sixteen random bytes of which it overwrites six bits.
  Its texts are exactly the canonical ones of version 4, and no bit that it was given and has kept is
  lost in them: 122 bits make an id, whoever reads it.

  1. **Program**: `stamped` overwrites version and variant, `NewID` writes the bytes with hyphens.
  2. **Specification**: `StoredId`, what Postgres itself would write, and `UuidV4`.
  3. **Crux**: reading the text back gives the bytes (`uuidBytes_uuidText`), so two ids are equal
     only where the bytes that were kept are.
-/
import Microservices.Gateway.Lookups

namespace Microservices

/-! ## The text of sixteen bytes -/

/-- The two digits of a byte. -/
def digits (byte : UInt8) : Nat × Nat := (byte.toNat / 16, byte.toNat % 16)

/-- The digits are hexadecimal. -/
def AreDigits (bytes : List (Nat × Nat)) : Prop := ∀ p ∈ bytes, p.1 < 16 ∧ p.2 < 16

/-- Each of the two digits is one. -/
theorem digits_lt (byte : UInt8) : (digits byte).1 < 16 ∧ (digits byte).2 < 16 := by
  have hbyte := byte.toNat_lt
  unfold digits
  omega

/-- A byte is determined by its digits. -/
theorem digits_injective {a b : UInt8} (h : digits a = digits b) : a = b := by
  obtain ⟨hhi, hlo⟩ := Prod.mk.inj h
  have hvalue : a.toNat = b.toNat := by omega
  exact UInt8.toNat_inj.mp hvalue

/-- Every two digits are those of a byte. -/
theorem digits_surjective {hi lo : Nat} (hhi : hi < 16) (hlo : lo < 16) :
    digits (UInt8.ofNat (16 * hi + lo)) = (hi, lo) := by
  have hvalue : (UInt8.ofNat (16 * hi + lo)).toNat = 16 * hi + lo :=
    UInt8.toNat_ofNat_of_lt' (by show _ < 256; omega)
  unfold digits
  rw [hvalue]
  have h1 : (16 * hi + lo) / 16 = hi := by omega
  have h2 : (16 * hi + lo) % 16 = lo := by omega
  rw [h1, h2]

/-- A digit is no hyphen. -/
theorem hexDigit_ne_hyphen {n : Nat} (h : n < 16) : hexDigit n ≠ '-' := by
  interval_cases n <;> decide

/-- It is no brace. -/
theorem hexDigit_ne_brace {n : Nat} (h : n < 16) : hexDigit n ≠ '{' := by
  interval_cases n <;> decide

/-- It may stand in a UUID. -/
theorem uuidChar_hexDigit {n : Nat} (h : n < 16) : UuidChar (hexDigit n) := by
  interval_cases n <;> decide

/-- A text without the hyphen that it may begin with. -/
def afterHyphen (cs : List Char) : List Char := if cs.head? = some '-' then cs.tail else cs

/-- A hyphen stands before the bytes 4, 6, 8 and 10. -/
theorem uuidText_cons (i : Nat) (p : Nat × Nat) (ps : List (Nat × Nat)) :
    uuidText i (p :: ps) =
      if i = 4 ∨ i = 6 ∨ i = 8 ∨ i = 10 then
        '-' :: hexDigit p.1 :: hexDigit p.2 :: uuidText (i + 1) ps
      else hexDigit p.1 :: hexDigit p.2 :: uuidText (i + 1) ps := rfl

/-- Behind the hyphen, if there is one, come the digits of the byte. -/
theorem afterHyphen_uuidText {p : Nat × Nat} {ps : List (Nat × Nat)} (h : AreDigits (p :: ps))
    (i : Nat) :
    afterHyphen (uuidText i (p :: ps)) =
      hexDigit p.1 :: hexDigit p.2 :: uuidText (i + 1) ps := by
  have hdigit := hexDigit_ne_hyphen (h p List.mem_cons_self).1
  rw [uuidText_cons]
  unfold afterHyphen
  split_ifs with hi hhead hhead
  · rfl
  · exact absurd rfl hhead
  · exact absurd (Option.some.inj hhead) hdigit
  · rfl

/-- A hyphen stands only where the reader lets one stand. -/
theorem head?_uuidText {ps : List (Nat × Nat)} (h : AreDigits ps) {i : Nat}
    (hhead : (uuidText i ps).head? = some '-') : i = 4 ∨ i = 6 ∨ i = 8 ∨ i = 10 := by
  cases ps with
  | nil => cases hhead
  | cons p ps =>
    rw [uuidText_cons] at hhead
    split_ifs at hhead with hi
    · exact hi
    · exact absurd (Option.some.inj hhead) (hexDigit_ne_hyphen (h p List.mem_cons_self).1)

/-- What is written is read back. -/
theorem uuidBytes_uuidText {ps : List (Nat × Nat)} (h : AreDigits ps) {i : Nat}
    (hlength : i + ps.length = 16) :
    uuidBytes ps.length (afterHyphen (uuidText i ps)) = some (ps, []) := by
  induction ps generalizing i with
  | nil => rfl
  | cons p ps ih =>
    have hrest : AreDigits ps := fun q hq => h q (List.mem_cons_of_mem p hq)
    have hp := h p List.mem_cons_self
    -- a hyphen is written only where the reader may skip one
    have hskip : (if ps.length ≠ 0 ∧ ps.length % 2 = 0 ∧ (uuidText (i + 1) ps).head? = some '-' then
        (uuidText (i + 1) ps).tail else uuidText (i + 1) ps) = afterHyphen (uuidText (i + 1) ps) := by
      unfold afterHyphen
      by_cases hhead : (uuidText (i + 1) ps).head? = some '-'
      · have hi := head?_uuidText hrest hhead
        rw [List.length_cons] at hlength
        rw [if_pos hhead, if_pos ⟨by omega, by omega, hhead⟩]
      · rw [if_neg hhead, if_neg fun hall => hhead hall.2.2]
    rw [afterHyphen_uuidText h, List.length_cons]
    unfold uuidBytes
    rw [hexValue_hexDigit hp.1, hexValue_hexDigit hp.2]
    simp only [Option.bind_eq_bind, Option.bind_some]
    rw [hskip, ih hrest (by rw [List.length_cons] at hlength; omega)]
    rfl

/-- What is read is digits, as many as were asked for. -/
theorem uuidBytes_spec {n : Nat} {cs rest : List Char} {bytes : List (Nat × Nat)}
    (h : uuidBytes n cs = some (bytes, rest)) : bytes.length = n ∧ AreDigits bytes := by
  induction n generalizing cs bytes with
  | zero =>
    cases h
    exact ⟨rfl, fun p hp => absurd hp List.not_mem_nil⟩
  | succ n ih =>
    match cs, h with
    | a :: b :: cs, h =>
      unfold uuidBytes at h
      simp only [Option.bind_eq_bind] at h
      -- two digits, and the bytes after them
      obtain ⟨hi, hhi, h⟩ := Option.bind_eq_some_iff.mp h
      obtain ⟨lo, hlo, h⟩ := Option.bind_eq_some_iff.mp h
      obtain ⟨⟨more, rest'⟩, hmore, h⟩ := Option.bind_eq_some_iff.mp h
      cases h
      obtain ⟨hlength, hdigits⟩ := ih hmore
      refine ⟨congrArg Nat.succ hlength, fun p hp => ?_⟩
      rcases List.mem_cons.mp hp with rfl | hp
      · exact ⟨hexValue_lt hhi, hexValue_lt hlo⟩
      · exact hdigits p hp
    | [a], h => cases h
    | [], h => cases h

/-- The canonical text of sixteen bytes. -/
def canonical (bytes : List (Nat × Nat)) : String := String.ofList (uuidText 0 bytes)

/-- The reader keeps a canonical text as it is, and so does not take two for one. -/
theorem uuidIn_canonical {bytes : List (Nat × Nat)} (h : AreDigits bytes) (hlength : bytes.length = 16) :
    uuidBytes 16 (uuidText 0 bytes) = some (bytes, []) ∧ StoredId (canonical bytes) := by
  cases bytes with
  | nil => cases hlength
  | cons p ps =>
    have htext : uuidText 0 (p :: ps) = hexDigit p.1 :: hexDigit p.2 :: uuidText 1 ps := rfl
    have hread := uuidBytes_uuidText h (Nat.zero_add _ |>.trans hlength)
    rw [afterHyphen_uuidText h, ← htext, hlength] at hread
    refine ⟨hread, ?_⟩
    -- the text begins with a digit, so it is read without braces
    have hbrace := hexDigit_ne_brace (h p List.mem_cons_self).1
    unfold StoredId uuidIn canonical
    rw [String.toList_ofList, htext]
    split
    · rename_i cs heq
      exact absurd (List.cons.inj heq).1 hbrace
    · rw [← htext, hread]

/-- An id that a column holds is the canonical text of its bytes. -/
theorem StoredId.bytes {id : String} (h : StoredId id) :
    ∃ bytes, bytes.length = 16 ∧ AreDigits bytes ∧ id = canonical bytes := by
  unfold StoredId uuidIn at h
  split at h
  · split at h
    · rename_i hread
      obtain ⟨hlength, hdigits⟩ := uuidBytes_spec hread
      exact ⟨_, hlength, hdigits, (Option.some.inj h).symm⟩
    · cases h
  · split at h
    · rename_i hread
      obtain ⟨hlength, hdigits⟩ := uuidBytes_spec hread
      exact ⟨_, hlength, hdigits, (Option.some.inj h).symm⟩
    · cases h

/-- A canonical text determines its digits. -/
theorem canonical_injective {a b : List (Nat × Nat)} (ha : AreDigits a) (hb : AreDigits b)
    (hla : a.length = 16) (hlb : b.length = 16) (h : canonical a = canonical b) : a = b := by
  have htext : uuidText 0 a = uuidText 0 b := String.ofList_injective h
  have hread := (uuidIn_canonical ha hla).1
  rw [htext, (uuidIn_canonical hb hlb).1] at hread
  cases hread
  rfl

/-- A canonical text is one that the Node services draw ids of. -/
theorem StoredId.text {id : String} (h : StoredId id) : UuidText id := by
  obtain ⟨bytes, hlength, hdigits, rfl⟩ := StoredId.bytes h
  -- every character written is a digit or a hyphen
  have hchars : ∀ (ps : List (Nat × Nat)) i, AreDigits ps → ∀ c ∈ uuidText i ps,
      UuidChar c := by
    intro ps
    induction ps with
    | nil => exact fun i _ c hc => absurd hc List.not_mem_nil
    | cons p ps ih =>
      intro i hps c hc
      have hp := hps p List.mem_cons_self
      have hmore := ih (i + 1) (fun q hq => hps q (List.mem_cons_of_mem p hq)) c
      rw [uuidText_cons] at hc
      have hdigit : c ∈ hexDigit p.1 :: hexDigit p.2 :: uuidText (i + 1) ps →
          UuidChar c := by
        intro hc
        rcases List.mem_cons.mp hc with rfl | hc
        · exact uuidChar_hexDigit hp.1
        · rcases List.mem_cons.mp hc with rfl | hc
          · exact uuidChar_hexDigit hp.2
          · exact hmore hc
      split_ifs at hc
      · rcases List.mem_cons.mp hc with rfl | hc
        · exact Or.inl rfl
        · exact hdigit hc
      · exact hdigit hc
  constructor
  · have htext : (uuidText 0 bytes).length = 36 := by
      match bytes, hlength with
      | [_, _, _, _, _, _, _, _, _, _, _, _, _, _, _, _], _ => rfl
    rw [← String.length_toList, canonical, String.toList_ofList, htext]
  · intro c hc
    rw [canonical, String.toList_ofList] at hc
    exact hchars bytes 0 hdigits c hc

namespace User

/-! ## NewID -/

/-- `%x` of bytes. -/
def hex (bytes : List UInt8) : List Char :=
  bytes.flatMap fun byte => [hexDigit (byte.toNat / 16), hexDigit (byte.toNat % 16)]

/-- `NewID`, if `rand.Read` fills the buffer with `b`.  Since Go 1.24 it always does, or ends the
    process, and never returns the error that would make the id "unknown". -/
def NewID (b : Vector UInt8 16) : String :=
  let b := b.set 6 ((b[6] &&& 0x0f) ||| 0x40)
  let b := b.set 8 ((b[8] &&& 0x3f) ||| 0x80)
  let b := b.toList
  String.ofList (hex (b.extract 0 4) ++ '-' :: hex (b.extract 4 6) ++ '-' :: hex (b.extract 6 8) ++
    '-' :: hex (b.extract 8 10) ++ '-' :: hex (b.extract 10 16))

example : NewID (Vector.replicate 16 0xff) = "ffffffff-ffff-4fff-bfff-ffffffffffff" := by
  decide +kernel

/-- A canonical text of version 4 and of the variant of RFC 4122. -/
def UuidV4 (id : String) : Prop :=
  StoredId id ∧ id.toList[14]? = some '4' ∧ ∃ c ∈ ['8', '9', 'a', 'b'], id.toList[19]? = some c

section NewID

/-- The buffer, once the version and the variant are in it. -/
def stamped (b : Vector UInt8 16) : Vector UInt8 16 :=
  let b := b.set 6 ((b[6] &&& 0x0f) ||| 0x40)
  b.set 8 ((b[8] &&& 0x3f) ||| 0x80)

/-- The five groups are the text of the bytes. -/
theorem canonical_groups (l : List UInt8) (h : l.length = 16) :
    String.ofList (hex (l.extract 0 4) ++ '-' :: hex (l.extract 4 6) ++ '-' :: hex (l.extract 6 8) ++
      '-' :: hex (l.extract 8 10) ++ '-' :: hex (l.extract 10 16)) = canonical (l.map digits) := by
  match l, h with
  | [_, _, _, _, _, _, _, _, _, _, _, _, _, _, _, _], _ => rfl

variable (a b : Vector UInt8 16)

/-- `NewID` writes the stamped bytes. -/
theorem NewID_eq : NewID b = canonical ((stamped b).toList.map digits) :=
  canonical_groups _ Vector.length_toList

/-- The stamp changes two bytes. -/
theorem stamped_getElem {i : Nat} (hi : i < 16) :
    (stamped b)[i] =
      if i = 6 then (b[6] &&& 0x0f) ||| 0x40 else if i = 8 then (b[8] &&& 0x3f) ||| 0x80 else b[i] := by
  unfold stamped
  by_cases h6 : i = 6
  · subst h6
    rw [if_pos rfl, Vector.getElem_set_ne _ _ (by decide), Vector.getElem_set_self]
  · rw [if_neg h6]
    by_cases h8 : i = 8
    · subst h8
      rw [if_pos rfl, Vector.getElem_set_self, Vector.getElem_set_ne _ _ (by decide)]
    · rw [if_neg h8, Vector.getElem_set_ne _ _ (Ne.symm h8), Vector.getElem_set_ne _ _ (Ne.symm h6)]

/-- The version takes the upper digit of its byte. -/
theorem digits_version (byte : UInt8) :
    digits ((byte &&& 0x0f) ||| 0x40) = (4, byte.toNat % 16) := by
  have hall : ∀ n < 256, ((n &&& 15) ||| 64) / 16 = 4 ∧ ((n &&& 15) ||| 64) % 16 = n % 16 := by
    decide +kernel
  obtain ⟨hhi, hlo⟩ := hall byte.toNat byte.toNat_lt
  unfold digits
  rw [UInt8.toNat_or, UInt8.toNat_and]
  exact Prod.ext hhi hlo

/-- The variant takes the upper half of its digit. -/
theorem digits_variant (byte : UInt8) :
    digits ((byte &&& 0x3f) ||| 0x80) = (8 + byte.toNat % 64 / 16, byte.toNat % 16) := by
  have hall : ∀ n < 256, ((n &&& 63) ||| 128) / 16 = 8 + n % 64 / 16 ∧
      ((n &&& 63) ||| 128) % 16 = n % 16 := by
    decide +kernel
  obtain ⟨hhi, hlo⟩ := hall byte.toNat byte.toNat_lt
  unfold digits
  rw [UInt8.toNat_or, UInt8.toNat_and]
  exact Prod.ext hhi hlo

/-- The digits of bytes are digits. -/
theorem areDigits_map (l : List UInt8) : AreDigits (l.map digits) := by
  intro p hp
  obtain ⟨byte, -, rfl⟩ := List.mem_map.mp hp
  exact digits_lt byte

/-- The characters that tell a version and a variant. -/
theorem canonical_chars {bytes : List (Nat × Nat)} (h : bytes.length = 16) :
    (canonical bytes).toList[14]? = (bytes[6]?.map fun p => hexDigit p.1) ∧
      (canonical bytes).toList[19]? = (bytes[8]?.map fun p => hexDigit p.1) := by
  unfold canonical
  rw [String.toList_ofList]
  match bytes, h with
  | [_, _, _, _, _, _, _, _, _, _, _, _, _, _, _, _], _ => exact ⟨rfl, rfl⟩

/-- What is drawn is a UUID of version 4. -/
theorem uuidV4_NewID : UuidV4 (NewID b) := by
  have hlength : ((stamped b).toList.map digits).length = 16 := by
    rw [List.length_map, Vector.length_toList]
  have hat : ∀ i (hi : i < 16), ((stamped b).toList.map digits)[i]? = some (digits (stamped b)[i]) := by
    intro i hi
    rw [List.getElem?_map, List.getElem?_eq_getElem (by rw [Vector.length_toList]; exact hi)]
    rfl
  obtain ⟨h14, h19⟩ := canonical_chars hlength
  rw [hat 6 (by decide), stamped_getElem b (by decide), if_pos rfl, digits_version] at h14
  rw [hat 8 (by decide), stamped_getElem b (by decide), if_neg (by decide), if_pos rfl,
    digits_variant] at h19
  rw [NewID_eq]
  refine ⟨(uuidIn_canonical (areDigits_map _) hlength).2, h14, _, ?_, h19⟩
  -- two bits are left of the digit, so there are four of them
  have hvariant : b[8].toNat % 64 / 16 < 4 := by omega
  show hexDigit (8 + b[8].toNat % 64 / 16) ∈ ['8', '9', 'a', 'b']
  interval_cases b[8].toNat % 64 / 16 <;> decide

/-- Every UUID of version 4 may be drawn: by the buffer that has its bytes already. -/
theorem UuidV4.drawn {id : String} (h : UuidV4 id) : ∃ b, NewID b = id := by
  obtain ⟨hstored, h14, c, hc, h19⟩ := h
  obtain ⟨bytes, hlength, hdigits, rfl⟩ := StoredId.bytes hstored
  obtain ⟨hversion, hvariant⟩ := canonical_chars hlength
  rw [hversion, List.getElem?_eq_getElem (by omega : 6 < bytes.length)] at h14
  rw [hvariant, List.getElem?_eq_getElem (by omega : 8 < bytes.length)] at h19
  have hlt := fun i (hi : i < bytes.length) => hdigits bytes[i] (List.getElem_mem hi)
  have h6 : bytes[6].1 = 4 := by
    have hchar : hexDigit bytes[6].1 = '4' := Option.some.inj h14
    have hvalue := hexValue_hexDigit (hlt 6 (by omega)).1
    rw [hchar] at hvalue
    exact (Option.some.inj hvalue).symm
  have h8 : 8 ≤ bytes[8].1 ∧ bytes[8].1 < 12 := by
    have hchar : hexDigit bytes[8].1 = c := Option.some.inj h19
    have hvalue := hexValue_hexDigit (hlt 8 (by omega)).1
    rw [hchar] at hvalue
    have hall : ∀ c ∈ ['8', '9', 'a', 'b'], ∀ n, hexValue c = some n → 8 ≤ n ∧ n < 12 := by
      intro c hc n hn
      fin_cases hc <;> (cases hn; decide)
    exact hall c hc _ hvalue
  -- the buffer with these digits
  obtain ⟨b, hb⟩ : ∃ b : Vector UInt8 16, ∀ i (hi : i < 16) (hi' : i < bytes.length),
      digits b[i] = bytes[i] := by
    refine ⟨Vector.ofFn fun i =>
      have hi : i.1 < bytes.length := by omega
      UInt8.ofNat (16 * bytes[i.1].1 + bytes[i.1].2), fun i hi hi' => ?_⟩
    rw [Vector.getElem_ofFn]
    exact digits_surjective (hlt i hi').1 (hlt i hi').2
  refine ⟨b, ?_⟩
  rw [NewID_eq]
  refine congrArg canonical (List.ext_getElem (by simp [hlength]) fun i hi hi' => ?_)
  rw [List.getElem_map, Vector.getElem_toList, stamped_getElem b (by omega)]
  split_ifs with hi6 hi8
  · subst hi6
    have hlo : b[6].toNat % 16 = bytes[6].2 := congrArg Prod.snd (hb 6 (by decide) hi')
    rw [digits_version]
    exact Prod.ext h6.symm hlo
  · subst hi8
    have hhi : b[8].toNat / 16 = bytes[8].1 := congrArg Prod.fst (hb 8 (by decide) hi')
    have hlo : b[8].toNat % 16 = bytes[8].2 := congrArg Prod.snd (hb 8 (by decide) hi')
    have hupper : 8 + b[8].toNat % 64 / 16 = bytes[8].1 := by omega
    rw [digits_variant]
    exact Prod.ext hupper hlo
  · exact hb i (by omega) hi'

/-- Two buffers are drawn as one id only if they differ in nothing but the bits that are overwritten. -/
theorem NewID_eq_iff : NewID a = NewID b ↔
    (∀ i (hi : i < 16), i ≠ 6 → i ≠ 8 → a[i] = b[i]) ∧
      a[6].toNat % 16 = b[6].toNat % 16 ∧ a[8].toNat % 64 = b[8].toNat % 64 := by
  have hdigits : NewID a = NewID b ↔
      ∀ i (hi : i < 16), digits (stamped a)[i] = digits (stamped b)[i] := by
    rw [NewID_eq, NewID_eq]
    constructor
    · intro h i hi
      have hsame := canonical_injective (areDigits_map _) (areDigits_map _)
        (by rw [List.length_map, Vector.length_toList]) (by rw [List.length_map, Vector.length_toList]) h
      have hget := congrArg (·[i]?) hsame
      simpa [hi] using hget
    · intro h
      refine congrArg canonical (List.ext_getElem (by simp) fun i hi hi' => ?_)
      rw [List.getElem_map, List.getElem_map, Vector.getElem_toList, Vector.getElem_toList]
      exact h i (by simpa using hi)
  rw [hdigits]
  constructor
  · intro h
    -- of bytes 6 and 8 only what the stamp leaves is seen
    have h6 := h 6 (by decide)
    have h8 := h 8 (by decide)
    rw [stamped_getElem a (by decide), stamped_getElem b (by decide), if_pos rfl, if_pos rfl,
      digits_version, digits_version] at h6
    rw [stamped_getElem a (by decide), stamped_getElem b (by decide), if_neg (by decide), if_pos rfl,
      if_neg (by decide), if_pos rfl, digits_variant, digits_variant] at h8
    have hlo := congrArg Prod.snd h6
    have hhi := congrArg Prod.fst h8
    have hlo' := congrArg Prod.snd h8
    simp only at hlo hhi hlo'
    refine ⟨fun i hi hne6 hne8 => digits_injective ?_, hlo, by omega⟩
    have hi := h i hi
    rw [stamped_getElem a, stamped_getElem b, if_neg hne6, if_neg hne8, if_neg hne6, if_neg hne8] at hi
    exact hi
  · rintro ⟨hrest, hversion, hvariant⟩ i hi
    rw [stamped_getElem a hi, stamped_getElem b hi]
    split_ifs with hi6 hi8
    · rw [digits_version, digits_version, hversion]
    · rw [digits_variant, digits_variant, hvariant]
      have hlo : a[8].toNat % 16 = b[8].toNat % 16 := by omega
      rw [hlo]
    · rw [hrest i hi hi6 hi8]

/-- **What `NewID` draws**: exactly the canonical texts of version 4, two buffers giving one only if
    they agree in the 122 bits that are not overwritten; and every id is a text of a UUID that may be
    sent on as metadata. -/
theorem NewID_spec :
    (∀ id, (∃ b, NewID b = id) ↔ UuidV4 id) ∧
    (∀ a b : Vector UInt8 16, NewID a = NewID b ↔
      (∀ i (hi : i < 16), i ≠ 6 → i ≠ 8 → a[i] = b[i]) ∧
        a[6].toNat % 16 = b[6].toNat % 16 ∧ a[8].toNat % 64 = b[8].toNat % 64) ∧
    ∀ b, NewID b ≠ "" ∧ MetadataLegal (NewID b) ∧ UuidText (NewID b) := by
  refine ⟨fun id => ⟨?_, UuidV4.drawn⟩, NewID_eq_iff, fun b => ?_⟩
  · rintro ⟨b, rfl⟩
    exact uuidV4_NewID b
  · have htext := StoredId.text (uuidV4_NewID b).1
    exact ⟨Uuid.ne_empty ⟨_, htext⟩, (IdKind.of_eq_usable.mp (Uuid.kind ⟨_, htext⟩)).1, htext⟩

end NewID

end User

end Microservices
