/-
  The records of the Kafka DLQ (analytics-service/src/messaging/dlq.producer.js).

  A record is to hold the payload of its message as it was, so that it can be sent again.  The
  payload goes through `toString` into a JSON string, and what is no UTF-8 does not come back.

  `processMessage_faithful`: nothing but these records is ever sent, each for its own message.

  1. **Program**: `publishFailed`, the record that `sendToDlq` makes of a message.
  2. **Specification**: `PayloadsPreserved`: whoever reads the record (`replayed`) sends the same
     again.
  3. **Crux**: decoding forgets which ill-formed bytes there were, so a payload is given back
     exactly where it is a text, and `payloadsPreserved_iff` needs nothing else.
-/
import Microservices.Analytics.Group
import Microservices.Lib.Json
import Microservices.Lib.Utf8

namespace Microservices.Analytics

/-! ## The producer -/

/-- A record as kafkajs sends it; a value that is a string goes as UTF-8. -/
structure KafkaRecord where
  topic : String
  key : Option (List UInt8)
  value : List UInt8
  headers : List (String × String)

/-- The topic of the DLQ. -/
def dlqTopic : String := "order-events-dlq"

/-- `null`, or a string. -/
def textOrNull : Option String → Json.Scalar
  | some text => .str text
  | none => .null

/-- The value of a record, made at the time `failedAt`. -/
def DlqRecord.fields (failedAt : String) (record : DlqRecord) : Json.Fields :=
  [("failedAt", .str failedAt), ("error", .str record.error), ("attempts", .num record.attempts),
    ("originalTopic", .str record.originalTopic),
    ("originalPartition", .num record.originalPartition),
    ("originalOffset", .str record.originalOffset),
    ("originalValue", textOrNull record.originalValue)]

/-- `publishFailed`: what is sent. -/
def publishFailed (failedAt : String) (message : Message) (error : String) (attempts : Nat) :
    KafkaRecord :=
  let record := failedRecord Utf8.decode message error attempts
  { topic := dlqTopic
    key := record.key
    value := Utf8.encode (Json.stringify (record.fields failedAt))
    headers := [("error-reason", error), ("original-topic", topic)] }

/-! ## Whoever reads the DLQ -/

/-- `JSON.parse(value.toString()).originalValue`. -/
def KafkaRecord.originalValue (record : KafkaRecord) : Option Json.Scalar :=
  (Json.parse (Utf8.decode record.value)).bind fun fields => fields.get "originalValue"

/-- The value of the message that is sent again: null, or a text as UTF-8. -/
def KafkaRecord.replayed (record : KafkaRecord) : Option (Option (List UInt8)) :=
  match record.originalValue with
  | some .null => some none
  | some (.str text) => some (some (Utf8.encode text))
  | _ => none

/-- The record of a message gives back its key and its value. -/
def GivesBack (message : Message) : Prop :=
  ∀ failedAt error attempts,
    (publishFailed failedAt message error attempts).key = message.key ∧
      (publishFailed failedAt message error attempts).replayed = some message.value

/-- **The DLQ preserves payloads**: of any two messages each is given back, and if their values differ
    then so do the values in their records. -/
structure PayloadsPreserved (message message' : Message) : Prop where
  left : GivesBack message
  right : GivesBack message'
  distinct : message.value ≠ message'.value → ∀ failedAt error attempts failedAt' error' attempts',
    (publishFailed failedAt message error attempts).originalValue ≠
      (publishFailed failedAt' message' error' attempts').originalValue

/-- The value is null, or UTF-8. -/
def Message.IsText (message : Message) : Prop := ∀ bytes ∈ message.value, Utf8.IsText bytes

/-! ## What is sent -/

section Sent

variable {message : Message} {maxRetries retryDelayMs : Nat}

/-- What is sent to the DLQ is the record of this message. -/
def Faithful (message : Message) : AnalyticsOp → Prop
  | .send record => ∃ error attempts, record = failedRecord Utf8.decode message error attempts
  | _ => True

/-- **Nothing but its own record is sent for a message.** -/
theorem processMessage_faithful (parse : String → Except JsError JsValue) :
    (processMessage Utf8.decode parse maxRetries retryDelayMs message).run.Asks
      (Faithful message) := by
  refine processMessage_asks.mono fun op hop => ?_
  cases op with
  | send record => exact hop
  | _ => trivial

end Sent

/-! ## Exactly what is preserved -/

section Preserved

variable {failedAt error : String} {n : Nat} {message : Message}

/-- What is read is what was written. -/
theorem originalValue_publishFailed : (publishFailed failedAt message error n).originalValue =
    some (textOrNull (message.value.map Utf8.decode)) := by
  unfold KafkaRecord.originalValue publishFailed
  rw [Utf8.decode_encode, Json.parse_stringify]
  rfl

/-- Null comes back, and bytes come back decoded and encoded. -/
theorem replayed_publishFailed : (publishFailed failedAt message error n).replayed =
    some (message.value.map fun bytes => Utf8.encode (Utf8.decode bytes)) := by
  unfold KafkaRecord.replayed
  rw [originalValue_publishFailed]
  cases message.value with
  | none => rfl
  | some bytes => rfl

/-- A message is given back if and only if its value is null or UTF-8. -/
theorem givesBack_iff : GivesBack message ↔ message.IsText := by
  unfold GivesBack Message.IsText
  simp only [replayed_publishFailed]
  constructor
  · intro h bytes hbytes
    -- decoding and encoding again gives the bytes back only where they are a text
    have hsame := Option.some.inj (h "" "" 0).2
    rw [Option.mem_def.mp hbytes] at hsame
    exact (Utf8.encode_decode_iff bytes).mp (Option.some.inj hsame)
  · intro h failedAt error attempts
    refine ⟨rfl, congrArg some ?_⟩
    cases hvalue : message.value with
    | none => rfl
    | some bytes => exact congrArg some ((Utf8.encode_decode_iff bytes).mpr (h bytes hvalue))

/-- **Exactly what is preserved**: null and UTF-8. -/
theorem payloadsPreserved_iff (message message' : Message) :
    PayloadsPreserved message message' ↔ message.IsText ∧ message'.IsText := by
  constructor
  · intro h
    exact ⟨givesBack_iff.mp h.left, givesBack_iff.mp h.right⟩
  · rintro ⟨htext, htext'⟩
    have hleft := givesBack_iff.mpr htext
    have hright := givesBack_iff.mpr htext'
    refine ⟨hleft, hright, fun hdiffer failedAt error attempts failedAt' error' attempts' heq => ?_⟩
    -- records with one `originalValue` are replayed alike
    have hreplayed : (publishFailed failedAt message error attempts).replayed =
        (publishFailed failedAt' message' error' attempts').replayed := by
      unfold KafkaRecord.replayed
      rw [heq]
    rw [(hleft failedAt error attempts).2, (hright failedAt' error' attempts').2] at hreplayed
    exact hdiffer (Option.some.inj hreplayed)

end Preserved

/-- Two values of one byte that is no UTF-8. -/
def malformed (byte : UInt8) : Message := ⟨none, some [byte], "7", 0⟩

/-- Both are in the DLQ as U+FFFD. -/
theorem not_payloadsPreserved : ¬ PayloadsPreserved (malformed 0xFF) (malformed 0xFE) := by
  intro h
  refine h.distinct (by decide) "" "" 0 "" "" 0 ?_
  rw [originalValue_publishFailed, originalValue_publishFailed]
  decide

end Microservices.Analytics
