/-
  The correlation id of a request (context/index.js and context/grpc.js, the same in every Node
  service; api-gateway/src/middlewares/correlation-id.js).

  The id is for the logs.  On its way from the client to the last of them it is an HTTP header, gRPC
  metadata, a Kafka header and an AMQP property, and each of these takes other strings.

  1. **Strings**: `HeaderText`, `MetadataLegal` and `byteLength`: what may be an HTTP header, gRPC
     metadata, an AMQP property of at most 255 bytes.
  2. **Ids**: `Uuid` carries that it is one, so that a drawn id is good for everything; `IdKind` is
     what becomes of any other.
  3. **Context**: `runWithCorrelationId` passes the caller's id on, or a drawn one where there is
     none.
-/
import Microservices.Common

namespace Microservices

/-- A character of a UUID. -/
def UuidChar (c : Char) : Prop := c = '-' ∨ '0' ≤ c ∧ c ≤ '9' ∨ 'a' ≤ c ∧ c ≤ 'f'

/-- Whether a character may stand in a UUID can be computed. -/
instance (c : Char) : Decidable (UuidChar c) := inferInstanceAs (Decidable (_ ∨ _ ∧ _ ∨ _ ∧ _))

/-- A text of 36 such characters. -/
def UuidText (s : String) : Prop := s.length = 36 ∧ ∀ c ∈ s.toList, UuidChar c

/-- Whether a text is one can be computed. -/
instance (s : String) : Decidable (UuidText s) :=
  @instDecidableAnd _ _ _ (List.decidableBAll UuidChar s.toList)

/-- What `crypto.randomUUID` draws. -/
abbrev Uuid : Type := { s : String // UuidText s }

/-- A character of a header value as the HTTP parser of Node delivers it. -/
def HeaderChar (c : Char) : Prop :=
  c = '\t' ∨ 0x20 ≤ c.toNat ∧ c.toNat ≤ 0x7E ∨ 0x80 ≤ c.toNat ∧ c.toNat ≤ 0xFF

/-- Whether a header may hold a character can be computed. -/
instance (c : Char) : Decidable (HeaderChar c) :=
  inferInstanceAs (Decidable (_ ∨ _ ∧ _ ∨ _ ∧ _))

/-- A text that an HTTP header may hold. -/
def HeaderText (s : String) : Prop := ∀ c ∈ s.toList, HeaderChar c

/-- Whether a text is one can be computed. -/
instance (s : String) : Decidable (HeaderText s) := List.decidableBAll HeaderChar s.toList

/-- A header value. -/
abbrev HeaderValue : Type := { s : String // HeaderText s }

/-- `runWithCorrelationId`: `fn` in the context of the id, or of a new one if none is passed. -/
def runWithCorrelationId {α : Type} (newCorrelationId : Uuid) (correlationId : Option String)
    (fn : String → α) : α :=
  match correlationId with
  | none => fn newCorrelationId
  | some id => if id = "" then fn newCorrelationId else fn id

/-- A printable character of ASCII. -/
def Printable (c : Char) : Prop := 0x20 ≤ c.toNat ∧ c.toNat ≤ 0x7E

/-- Whether a character is printable can be computed. -/
instance (c : Char) : Decidable (Printable c) := inferInstanceAs (Decidable (_ ∧ _))

/-- What gRPC takes as metadata. -/
def MetadataLegal (value : String) : Prop := ∀ c ∈ value.toList, Printable c

/-- Whether metadata may hold a text can be computed. -/
instance (value : String) : Decidable (MetadataLegal value) :=
  List.decidableBAll Printable value.toList

/-- `Metadata.set` throws at any other value. -/
def illegalCharacters (value : String) : JsError :=
  { message := "Metadata string value \"" ++ value ++ "\" contains illegal characters" }

/-- `correlationMetadata`: the metadata for a call downstream. -/
def correlationMetadata (correlationId : String) : Except JsError (Option String) :=
  if correlationId = "" then .ok none
  else if MetadataLegal correlationId then .ok (some correlationId)
  else .error (illegalCharacters correlationId)

/-- `withCorrelation`: a handler in the context that its caller's metadata name. -/
def withCorrelation {α : Type} (newCorrelationId : Uuid) (metadata : Option String)
    (handler : String → α) : α :=
  runWithCorrelationId newCorrelationId metadata handler

/-- `Buffer.byteLength`. -/
def byteLength (s : String) : Nat := s.toList.foldr (fun c n => n + c.utf8Size) 0

/-- amqplib throws at a `correlationId` that is longer than a short string. -/
def wrongType : JsError :=
  { message := "Field 'correlationId' is the wrong type; must be a string (up to 255 chars)" }

section RunWith

variable {α : Type} (newCorrelationId : Uuid) (fn : String → α)

/-- The function has no say in the id. -/
theorem runWithCorrelationId_apply (correlationId : Option String) :
    runWithCorrelationId newCorrelationId correlationId fn =
      fn (runWithCorrelationId newCorrelationId correlationId id) := by
  unfold runWithCorrelationId
  split
  · rfl
  · split <;> rfl

/-- An id that is there is kept. -/
theorem runWithCorrelationId_some {correlationId : String} (h : correlationId ≠ "") :
    runWithCorrelationId newCorrelationId (some correlationId) fn = fn correlationId :=
  if_neg h

end RunWith

/-! ## What a string is good for -/

/-- What becomes of an id: it reaches every log; gRPC refuses it; or gRPC takes it and AMQP does
    not. -/
inductive IdKind : Type where
  | usable
  | refused
  | tooLong
  deriving DecidableEq

/-- The kind of an id: what becomes of it on its way through gRPC and AMQP. -/
def IdKind.of (id : String) : IdKind :=
  if MetadataLegal id then
    if byteLength id ≤ 255 then .usable else .tooLong
  else .refused

/-- The kind of the id that a request is given: a new one, where the header is absent or empty. -/
def IdKind.ofHeader : Option HeaderValue → IdKind
  | none => .usable
  | some value => if value.1 = "" then .usable else .of value.1

/-- A legal id that is not empty is sent. -/
theorem MetadataLegal.metadata {id : String} (h : MetadataLegal id) (hne : id ≠ "") :
    correlationMetadata id = .ok (some id) := by
  unfold correlationMetadata
  rw [if_neg hne, if_pos h]

/-- An illegal one makes the call throw before anything is sent. -/
theorem metadata_of_not_legal {id : String} (h : ¬ MetadataLegal id) :
    correlationMetadata id = .error (illegalCharacters id) := by
  have hne : id ≠ "" := by
    rintro rfl
    exact h (fun c hc => absurd hc List.not_mem_nil)
  unfold correlationMetadata
  rw [if_neg hne, if_neg h]

/-- Metadata that have been made hold the id, as long as there is one. -/
theorem metadata_of_ok {id : String} {metadata : Option String} (hne : id ≠ "")
    (h : correlationMetadata id = .ok metadata) : metadata = some id := by
  unfold correlationMetadata at h
  rw [if_neg hne] at h
  split at h
  · exact (Except.ok.inj h).symm
  · cases h

/-- Refused are the ids that are illegal as metadata. -/
theorem IdKind.of_eq_refused {id : String} : IdKind.of id = .refused ↔ ¬ MetadataLegal id := by
  unfold IdKind.of
  split
  · split <;> simp [*]
  · simp [*]

/-- Usable are the legal ones that fit into an AMQP short string. -/
theorem IdKind.of_eq_usable {id : String} :
    IdKind.of id = .usable ↔ MetadataLegal id ∧ byteLength id ≤ 255 := by
  unfold IdKind.of
  split
  · split <;> simp [*]
  · simp [*]

/-- Too long are the legal ones that do not. -/
theorem IdKind.of_eq_tooLong {id : String} :
    IdKind.of id = .tooLong ↔ MetadataLegal id ∧ ¬ byteLength id ≤ 255 := by
  unfold IdKind.of
  split
  · split <;> simp [*]
  · simp [*]

/-- A UUID is printable. -/
theorem Uuid.printable (u : Uuid) {c : Char} (h : c ∈ u.1.toList) : Printable c := by
  unfold Printable
  rcases u.2.2 c h with rfl | ⟨hlo, hhi⟩ | ⟨hlo, hhi⟩
  · decide
  · have hlo' : '0'.toNat ≤ c.toNat := hlo
    have hhi' : c.toNat ≤ '9'.toNat := hhi
    have hzero : '0'.toNat = 48 := rfl
    have hnine : '9'.toNat = 57 := rfl
    omega
  · have hlo' : 'a'.toNat ≤ c.toNat := hlo
    have hhi' : c.toNat ≤ 'f'.toNat := hhi
    have ha : 'a'.toNat = 97 := rfl
    have hf : 'f'.toNat = 102 := rfl
    omega

/-- What is printable takes a byte a character. -/
theorem byteLength_of_legal {s : String} (h : MetadataLegal s) : byteLength s = s.length := by
  have hbytes : ∀ cs : List Char, (∀ c ∈ cs, Printable c) →
      cs.foldr (fun c n => n + c.utf8Size) 0 = cs.length := by
    intro cs hcs
    induction cs with
    | nil => rfl
    | cons c cs ih =>
      have hle : c.toNat ≤ 0x7E := (hcs c List.mem_cons_self).2
      -- up to U+007E a character is one byte
      have hone : c.utf8Size = 1 := by
        refine Char.utf8Size_eq_one_iff.mpr (UInt32.le_iff_toNat_le.mpr ?_)
        have hbound : (127 : UInt32).toNat = 127 := rfl
        have hval : c.val.toNat = c.toNat := rfl
        omega
      rw [List.foldr_cons, ih fun d hd => hcs d (List.mem_cons_of_mem _ hd), hone]
      rfl
  exact (hbytes s.toList h).trans String.length_toList

/-- A UUID is usable. -/
theorem Uuid.kind (u : Uuid) : IdKind.of u.1 = .usable := by
  have hlegal : MetadataLegal u.1 := fun c hc => u.printable hc
  refine IdKind.of_eq_usable.mpr ⟨hlegal, ?_⟩
  rw [byteLength_of_legal hlegal, u.2.1]
  decide

/-- A UUID is not empty. -/
theorem Uuid.ne_empty (u : Uuid) : u.1 ≠ "" := by
  intro h
  have hlength : u.1.length = 36 := u.2.1
  rw [h] at hlength
  exact absurd hlength (by decide)

/-- The id is the caller's, or else a new one. -/
theorem runWithCorrelationId_id (u : Uuid) (header : Option HeaderValue) :
    (∃ value, header = some value ∧ value.1 ≠ "" ∧
        runWithCorrelationId u (header.map Subtype.val) id = value.1) ∨
      (∀ value, header = some value → value.1 = "") ∧
        runWithCorrelationId u (header.map Subtype.val) id = u.1 := by
  cases header with
  | none => exact .inr ⟨nofun, rfl⟩
  | some value =>
    by_cases hempty : value.1 = ""
    · refine .inr ⟨fun value' hvalue => ?_, if_pos hempty⟩
      rw [← Option.some.inj hvalue]
      exact hempty
    · exact .inl ⟨value, rfl, hempty, if_neg hempty⟩

/-- **The id a request runs under**: it is not empty, and of the kind that its header is of. -/
theorem runWithCorrelationId_header {α : Type} (u : Uuid) (header : Option HeaderValue)
    (fn : String → α) : ∃ id, runWithCorrelationId u (header.map Subtype.val) fn = fn id ∧ id ≠ "" ∧
      IdKind.of id = IdKind.ofHeader header := by
  have happly := runWithCorrelationId_apply u fn (header.map Subtype.val)
  rcases runWithCorrelationId_id u header with ⟨value, rfl, hne, hid⟩ | ⟨hempty, hid⟩
  · exact ⟨value.1, happly.trans (congrArg fn hid), hne, (if_neg hne).symm⟩
  · refine ⟨u.1, happly.trans (congrArg fn hid), u.ne_empty, u.kind.trans ?_⟩
    cases header with
    | none => rfl
    | some value => exact (if_pos (hempty value rfl)).symm

end Microservices
