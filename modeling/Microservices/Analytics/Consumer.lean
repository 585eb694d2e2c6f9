/-
  The Kafka consumer (analytics-service/src/messaging/consumer.js,
  analytics-service/src/services/analytics.service.js,
  analytics-service/src/messaging/dlq.producer.js).

  A message is tried up to `maxRetries` times and then goes to the DLQ.  What is tried is an
  `INSERT` followed by the two queries of the dashboard, so a query that fails after the `INSERT`
  repeats it.  `oneOutcome_iff` is the exact condition under which that does no harm.

  `JSON.parse` and the decoding of a buffer are any functions here: nothing depends on which.
-/
import Microservices.Analytics.Store
import Microservices.Lib.Prog

namespace Microservices.Analytics

/-! ## Messages and requests -/

/-- A message as kafkajs hands it over. -/
structure Message where
  key : Option (List UInt8)
  value : Option (List UInt8)
  offset : String
  partition : Nat
  deriving DecidableEq, Repr

/-- The record `publishFailed` writes, without its clock. -/
structure DlqRecord where
  key : Option (List UInt8)
  error : String
  attempts : Nat
  originalTopic : String
  originalPartition : Nat
  originalOffset : String
  originalValue : Option String
  deriving DecidableEq, Repr

/-- What the consumer awaits. -/
inductive AnalyticsOp : Type where
  | insert (metric : NewMetric)
  | getSummary
  | getTopProducts (limit : Nat)
  | send (record : DlqRecord)
  | sleep (ms : Nat)

/-- What it is answered. -/
abbrev AnalyticsReply : AnalyticsOp → Type
  | .insert _ => Unit
  | .getSummary => Summary
  | .getTopProducts _ => List (String × Nat)
  | .send _ => Unit
  | .sleep _ => Unit

/-- Every request may be rejected. -/
abbrev AnalyticsRes (op : AnalyticsOp) : Type := Except JsError (AnalyticsReply op)

/-- A function of the consumer. -/
abbrev AnalyticsM (α : Type) : Type := ExceptT JsError (Prog AnalyticsOp AnalyticsRes) α

/-- Await one request. -/
def request (op : AnalyticsOp) : AnalyticsM (AnalyticsReply op) := ExceptT.mk (Prog.ask op)

/-! ## The service -/

/-- `recordOrderCreated`. -/
def recordOrderCreated (order : JsValue) : AnalyticsM Unit := do
  let id ← order.get "id"
  request (.insert (.created id (order.field "userId")
    ((order.field "productName").orElse .null) ((order.field "totalPrice").orElse (.num 0.0))))

/-- `recordOrderFailed`. -/
def recordOrderFailed (data : JsValue) : AnalyticsM Unit := do
  let id ← data.get "id"
  request (.insert (.failed id))

/-- The two queries of the dashboard; their results are only logged. -/
def logDashboard : AnalyticsM Unit := do
  let _ ← request .getSummary
  let _ ← request (.getTopProducts 5)

/-- `handleEvent`. -/
def handleEvent (event : JsValue) : AnalyticsM Unit := do
  let eventType ← event.destructure "event" "eventType"
  let data := event.field "data"
  if eventType.isStr "ORDER_CREATED" then
    recordOrderCreated data
    logDashboard
  else if eventType.isStr "ORDER_FAILED" then
    recordOrderFailed data
    logDashboard

/-! ## The consumer -/

section Consumer

variable (decode : List UInt8 → String) (parse : String → Except JsError JsValue)
variable (maxRetries retryDelayMs : Nat)

/-- The topic the consumer reads. -/
def topic : String := "order-events"

/-- The record for a message that is given up. -/
def failedRecord (message : Message) (error : String) (attempts : Nat) : DlqRecord where
  key := message.key
  error := error
  attempts := attempts
  originalTopic := topic
  originalPartition := message.partition
  originalOffset := message.offset
  originalValue := message.value.map decode

/-- `sendToDlq`: a failure is logged and nothing else. -/
def sendToDlq (message : Message) (error : String) (attempts : Nat) : AnalyticsM Unit :=
  try request (.send (failedRecord decode message error attempts))
  catch _ => pure ()

/-- The retry loop: `remaining` attempts are left, `attempt` is the number of the next one. -/
def attempts (message : Message) (event : JsValue) :
    Nat → Nat → Option JsError → AnalyticsM Unit
  | 0, _, none => throw messageOfUndefined
  | 0, _, some lastError => sendToDlq decode message lastError.message maxRetries
  | remaining + 1, attempt, _ =>
    try handleEvent event
    catch err =>
      if attempt < maxRetries then
        request (.sleep (retryDelayMs * attempt))
      attempts message event remaining (attempt + 1) (some err)

/-- The text of a message: empty for a null value. -/
def Message.raw (message : Message) : String :=
  match message.value with
  | some bytes => decode bytes
  | none => ""

/-- `processMessage`. -/
def processMessage (message : Message) : AnalyticsM Unit :=
  match parse (message.raw decode) with
  | .error err => sendToDlq decode message ("Malformed JSON: " ++ err.message) 0
  | .ok event => attempts decode maxRetries retryDelayMs message event maxRetries 1 none

end Consumer

end Microservices.Analytics
