/-
  How the correlation id crosses from one service to the next (context/grpc.js of the Node services,
  user-service/internal/correlation/correlation.go,
  product-service/src/common/correlation/correlation.interceptor.ts,
  order-service/src/messaging, analytics-service/src/messaging/consumer.js,
  notification-service/src/messaging/consumer.js).

  Every hop writes an id and reads it back, and each has its own way to say that there is none: no
  metadata, an empty string, no property.  Whoever reads that draws a new id.  So a hop keeps an id
  if it is not empty, and if the transport takes it.
-/
import Microservices.Gateway.Routes
import Microservices.Lib.Utf8
import Microservices.Notification.Consumer

namespace Microservices.Trace

open Microservices.Order (CreateOrder OrderEvent SagaOp)
open Microservices.Gateway (HttpRequest)
open Microservices.Notification (Properties Delivery)

/-! ## HTTP -/

/-- The `x-correlation-id` of a response; `express.json` comes first, so there is none for a body
    that it cannot read. -/
def responseHeader (newCorrelationId : Uuid) (req : HttpRequest) : Option String :=
  match req.body with
  | .error _ => none
  | .ok _ => some (runWithCorrelationId newCorrelationId (req.correlationId.map Subtype.val) id)

/-- The id is the caller's, or the gateway has drawn it. -/
theorem responseHeader_eq {u : Uuid} {req : HttpRequest} {id : String}
    (h : responseHeader u req = some id) :
    id ≠ "" ∧ ((∃ v, req.correlationId = some v ∧ v.1 ≠ "" ∧ id = v.1) ∨
      (∀ v, req.correlationId = some v → v.1 = "") ∧ id = u.1) := by
  unfold responseHeader at h
  cases hbody : req.body with
  | error err =>
    rw [hbody] at h
    cases h
  | ok body =>
    rw [hbody] at h
    obtain rfl := Option.some.inj h
    -- the caller's id, or one drawn
    rcases runWithCorrelationId_id u req.correlationId with hcaller | hdrawn
    · obtain ⟨value, hheader, hne, hid⟩ := hcaller
      rw [hid]
      exact ⟨hne, .inl ⟨value, hheader, hne, rfl⟩⟩
    · obtain ⟨hempty, hid⟩ := hdrawn
      rw [hid]
      exact ⟨u.ne_empty, .inr ⟨hempty, rfl⟩⟩

/-! ## gRPC -/

/-- The methods that are called. -/
inductive Method : Type where
  | createUser
  | getUser
  | createProduct
  | getProduct
  | createOrder (input : CreateOrder)
  | getOrder
  | processPayment
  | getPayment
  | refundByOrderId

section Context

variable {α : Type}

/-- `UnaryServerInterceptor` of user-service. -/
def UnaryServerInterceptor (newID : String) (metadata : Option String) (handler : String → α) : α :=
  let id := metadata.getD ""
  handler (if id = "" then newID else id)

/-- `CorrelationInterceptor` of product-service: it subscribes inside the context, so that is where
    the handler runs. -/
def CorrelationInterceptor.intercept (newCorrelationId : Uuid) (metadata : Option String)
    (handle : String → α) : α :=
  runWithCorrelationId newCorrelationId metadata handle

/-- A handler behind what its service puts before it. -/
def Method.serve (newCorrelationId : Uuid) (newID : String) (metadata : Option String)
    (handler : String → α) : Method → α
  | .createUser => UnaryServerInterceptor newID metadata handler
  | .getUser => UnaryServerInterceptor newID metadata handler
  | .createProduct => CorrelationInterceptor.intercept newCorrelationId metadata handler
  | .getProduct => CorrelationInterceptor.intercept newCorrelationId metadata handler
  | .createOrder _ => withCorrelation newCorrelationId metadata handler
  | .getOrder => withCorrelation newCorrelationId metadata handler
  | .processPayment => withCorrelation newCorrelationId metadata handler
  | .getPayment => withCorrelation newCorrelationId metadata handler
  | .refundByOrderId => withCorrelation newCorrelationId metadata handler

end Context

/-! ## Kafka -/

/-- The headers of a message on the wire. -/
abbrev KafkaHeaders : Type := List (String × List UInt8)

/-- The headers that `publishOrderEvent` gives an event. -/
def eventHeaders (correlationId : Option String) (event : OrderEvent) : KafkaHeaders :=
  [("event-type", Utf8.encode event.eventType),
    ("x-correlation-id", Utf8.encode (correlationId.getD "")),
    ("order-id", Utf8.encode event.id)]

/-- `headers?.["x-correlation-id"]`. -/
def rawCorrelationId (headers : Option KafkaHeaders) : Option (String × List UInt8) :=
  headers.bind fun headers => headers.find? fun header => decide (header.1 = "x-correlation-id")

/-- `correlationIdOf`. -/
def correlationIdOf (headers : Option KafkaHeaders) : Option String :=
  match rawCorrelationId headers with
  | none => none
  | some header =>
    let value := Utf8.decode header.2
    if value = "" then none else some value

/-- `eachMessage` of the consumer. -/
def eachMessage {α : Type} (newCorrelationId : Uuid) (headers : Option KafkaHeaders)
    (processMessage : String → α) : α :=
  runWithCorrelationId newCorrelationId (correlationIdOf headers) processMessage

/-! ## RabbitMQ -/

/-- The properties that `publishNotification` gives a message. -/
def notificationProperties (correlationId : Option String) (message : Order.Notification) :
    Properties where
  messageId := some message.orderId
  correlationId := correlationId
  headers := none
  persistent := true

/-- What `consumeMainQueue` does with a delivery. -/
def consumeMainQueue {α : Type} (newCorrelationId : Uuid) (msg : Delivery)
    (handleMessage : String → α) : α :=
  runWithCorrelationId newCorrelationId msg.copy.properties.correlationId handleMessage

/-! ## What is written is read back -/

section Hops

variable {α : Type} {id : String} {newCorrelationId : Uuid}

/-- **Whatever the service**, its handler runs under the id of the metadata. -/
theorem Method.serve_some (method : Method) (newID : String) (hne : id ≠ "")
    (handler : String → α) :
    method.serve newCorrelationId newID (some id) handler = handler id := by
  -- Go's interceptor and Node's context take an id that is not empty as it is
  have hgo : UnaryServerInterceptor newID (some id) handler = handler id :=
    congrArg handler (if_neg hne)
  have hnode : runWithCorrelationId newCorrelationId (some id) handler = handler id :=
    runWithCorrelationId_some newCorrelationId handler hne
  cases method with
  | createUser => exact hgo
  | getUser => exact hgo
  | createProduct => exact hnode
  | getProduct => exact hnode
  | createOrder input => exact hnode
  | getOrder => exact hnode
  | processPayment => exact hnode
  | getPayment => exact hnode
  | refundByOrderId => exact hnode

/-- The header of an event is read back, `|| ""` and all. -/
theorem correlationIdOf_eventHeaders (hne : id ≠ "") (event : OrderEvent) :
    correlationIdOf (some (eventHeaders (some id) event)) = some id := by
  have hdecoded : Utf8.decode (Utf8.encode id) = id := Utf8.decode_encode id
  show (if Utf8.decode (Utf8.encode id) = "" then none else some (Utf8.decode (Utf8.encode id))) = _
  rw [hdecoded, if_neg hne]

end Hops

end Microservices.Trace
