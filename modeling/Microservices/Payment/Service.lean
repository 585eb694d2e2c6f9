/-
  The payment service (payment-service/src/services/payment.service.js,
  payment-service/src/gateway/payment-gateway.js, payment-service/src/handlers/payment.handler.js).

  The service functions are programs whose requests are the calls they await: the gateway, one
  repository call (one transaction) or a sleep.  `Serve` says what such a request may do to the
  tables and what it may answer; a repository call that fails has either been rolled back or, when
  only its result was lost, has taken effect all the same.

  `processPayment` retries two effects as one: the charge, which cannot be undone, and the write of
  its row.  `agrees_iff` says for which outcomes of the two the payments table still agrees with
  what the gateway took.
-/
import Microservices.Payment.Store

namespace Microservices.Payment

/-! ## The gateway -/

/-- What the simulated gateway draws: a decline, or the parts of a transaction id. -/
inductive GatewayOutcome : Type where
  | declined
  | accepted (now : Nat) (suffix : String)
  deriving DecidableEq, Repr

/-- The id of an accepted charge. -/
def transactionIdOf (now : Nat) (suffix : String) : String :=
  "TXN-" ++ toString now ++ "-" ++ suffix

/-- No transaction id is empty. -/
theorem transactionIdOf_ne_empty (now : Nat) (suffix : String) :
    transactionIdOf now suffix ≠ "" := by
  intro h
  have hlength := congrArg String.length h
  simp [transactionIdOf] at hlength

/-- `gateway.charge`, given what it draws. -/
def gatewayCharge : GatewayOutcome → Except JsError String
  | .declined => .error { message := "Payment gateway timeout or declined" }
  | .accepted now suffix => .ok (transactionIdOf now suffix)

/-! ## Requests of the service functions -/

/-- What a service function awaits. -/
inductive PayOp : Type where
  | charge (orderId : String) (amount : Float)
  | createChargedPayment (p : ChargedPayment)
  | create (p : NewPayment)
  | requestRefundByOrderId (orderId : String)
  | findByOrderId (orderId : String)
  | findById (id : String)
  | markRefunded (id : String)
  | sleep (ms : Nat)

/-- What it is answered. -/
abbrev PayReply : PayOp → Type
  | .charge _ _ => String
  | .createChargedPayment _ => PaymentRow × Bool
  | .create _ => PaymentRow
  | .requestRefundByOrderId _ => List (String × PaymentStatus)
  | .findByOrderId _ => List PaymentRow
  | .findById _ => Option PaymentRow
  | .markRefunded _ => Option (String × PaymentStatus)
  | .sleep _ => Unit

/-- Every request may be rejected (a sleep never is, see `Serve`). -/
abbrev PayRes (o : PayOp) : Type := Except JsError (PayReply o)

/-- A function of the payment service. -/
abbrev Pay (α : Type) : Type := ExceptT JsError (Prog PayOp PayRes) α

/-- Await one request. -/
def pay (o : PayOp) : Pay (PayReply o) := ExceptT.mk (Prog.ask o)

/-! ## The service functions -/

/-- `PaymentRequest` of payment.proto. -/
structure PaymentRequest where
  orderId : String
  userId : String
  amount : Float
  method : String
  deriving DecidableEq

/-- The body of the `try` in the retry loop. -/
def chargeAndRecord (req : PaymentRequest) : Pay PaymentRow := do
  let transactionId ← pay (.charge req.orderId req.amount)
  let stored ← pay (.createChargedPayment {
    orderId := req.orderId
    userId := req.userId
    amount := req.amount
    method := req.method
    transactionId := transactionId })
  return stored.1

/-- The wait after a failed attempt: 1 s, 2 s, 4 s, ... -/
def backoff (attempt : Nat) : Nat := Nat.pow 2 (attempt - 1) * 1000

/-- The retry loop: `remaining` attempts are left, `attempt` is the number of the next one. -/
def attempts (maxRetries : Nat) (req : PaymentRequest) : Nat → Nat → Option JsError → Pay PaymentRow
  | 0, _, none => throw messageOfUndefined
  | 0, _, some lastError =>
    pay (.create {
      orderId := req.orderId
      userId := req.userId
      amount := req.amount
      method := req.method
      status := .failed
      transactionId := none
      error := some lastError.message })
  | remaining + 1, attempt, _ =>
    try chargeAndRecord req
    catch err =>
      if attempt < maxRetries then
        pay (.sleep (backoff attempt))
      attempts maxRetries req remaining (attempt + 1) (some err)

/-- `processPayment`: charge and record, with retries; a FAILED row after the last one. -/
def processPayment (maxRetries : Nat) (req : PaymentRequest) : Pay PaymentRow :=
  attempts maxRetries req maxRetries 1 none

/-- `refundPayment`: by payment id, and only a payment that is SUCCESS. -/
def refundPayment (paymentId : String) : Pay Bool := do
  match ← pay (.findById paymentId) with
  | none =>
    throw { message := "Payment not found: " ++ paymentId, code := some "NOT_FOUND" }
  | some payment =>
    if payment.status ≠ .success then
      throw { message := "Cannot refund a non-successful payment",
              code := some "FAILED_PRECONDITION" }
    pay (.sleep 500)
    let _ ← pay (.markRefunded paymentId)
    return true

/-- `refundByOrderId`: never a business error. -/
def refundByOrderId (orderId : String) : Pay (Nat × String) := do
  let refunded ← pay (.requestRefundByOrderId orderId)
  if refunded.length > 0 then
    return (refunded.length, "Payment refunded")
  else
    let existing ← pay (.findByOrderId orderId)
    if existing.length = 0 then
      return (0, "No payment yet; refund intent recorded")
    else if existing.any fun row => decide (row.status = .refunded) then
      return (0, "Payment already refunded (idempotent no-op)")
    else
      return (0, "No successful payment to refund")

/-! ## The gRPC handlers -/

/-- `PaymentResponse` of payment.proto. -/
structure PaymentResponse where
  id : String
  status : PaymentStatus
  transactionId : String
  message : String
  deriving DecidableEq, Repr

/-- `RefundResponse` of payment.proto. -/
structure RefundResponse where
  success : Bool
  message : String
  deriving DecidableEq, Repr

/-- The message of a response. -/
def describeOutcome (payment : PaymentRow) : String :=
  match payment.status with
  | .success => "Payment processed successfully"
  | .refunded => "Payment was charged then auto-refunded (saga had already rolled back)"
  | .failed => "Payment failed: " ++ payment.error.getD "null"

/-- The error every handler answers with when its service function throws. -/
def internalError : JsError := { message := "internal error", code := some "INTERNAL" }

/-- A payments row as a response. -/
def toPaymentResponse (payment : PaymentRow) : PaymentResponse where
  id := payment.id
  status := payment.status
  transactionId := payment.transactionId.getD ""
  message := describeOutcome payment

/-- The handler of `ProcessPayment`. -/
def handleProcessPayment (maxRetries : Nat) (req : PaymentRequest) : Pay PaymentResponse :=
  try
    let payment ← processPayment maxRetries req
    pure (toPaymentResponse payment)
  catch _ => throw internalError

/-- The handler of `RefundByOrderId`. -/
def handleRefundByOrderId (orderId : String) : Pay RefundResponse :=
  try
    let result ← refundByOrderId orderId
    pure { success := true, message := result.2 }
  catch _ => throw internalError

/-! ## What a request does -/

/-- How a repository call ends for its caller: with its result, or with an error, and then either
    rolled back or committed all the same. -/
inductive DbOutcome : Type where
  | done
  | rejected (e : JsError) (committed : Bool)

/-- One repository call: `r` is what it would do undisturbed, on the tables `d`. -/
def settle {β : Type} (r : Except JsError (β × Db)) (out : DbOutcome) (d : Db) :
    Except JsError β × Db :=
  match r, out with
  | .error e, _ => (.error e, d)
  | .ok (b, d'), .done => (.ok b, d')
  | .ok (_, d'), .rejected e true => (.error e, d')
  | .ok _, .rejected e false => (.error e, d)

/-- `markRefunded`: no condition on the status. -/
def Db.markRefunded (g : Gen) (id : String) (d : Db) : Option (String × PaymentStatus) × Db :=
  ((d.payments.find? fun row => decide (row.id = id)).map fun row => (row.id, .refunded),
    { d with payments := d.payments.map fun row => if row.id = id then row.refund g.now else row })

/-- What a request may answer, and what it does to the tables. -/
inductive Serve (numeric : Float → Option Numeric) :
    (o : PayOp) → Db → PayRes o → Db → Prop where
  | charge {orderId amount d} (out : GatewayOutcome) :
      Serve numeric (.charge orderId amount) d (gatewayCharge out) d
  | createChargedPayment {p d} (g : Gen) (now : Nat) (out : DbOutcome) :
      Serve numeric (.createChargedPayment p) d
        (settle (d.createChargedPayment numeric g now p) out d).1
        (settle (d.createChargedPayment numeric g now p) out d).2
  | create {p d} (g : Gen) (out : DbOutcome) :
      Serve numeric (.create p) d
        (settle (d.create numeric g p) out d).1 (settle (d.create numeric g p) out d).2
  | requestRefundByOrderId {o d} (g : Gen) (out : DbOutcome) :
      Serve numeric (.requestRefundByOrderId o) d
        (settle (.ok (d.requestRefundByOrderId g o)) out d).1
        (settle (.ok (d.requestRefundByOrderId g o)) out d).2
  | findByOrderId {o d} (out : DbOutcome) :
      Serve numeric (.findByOrderId o) d (settle (.ok (d.findByOrderId o, d)) out d).1 d
  | findById {id d} (out : DbOutcome) :
      Serve numeric (.findById id) d
        (settle (.ok (d.payments.find? fun row => decide (row.id = id), d)) out d).1 d
  | markRefunded {id d} (g : Gen) (out : DbOutcome) :
      Serve numeric (.markRefunded id) d
        (settle (.ok (d.markRefunded g id)) out d).1 (settle (.ok (d.markRefunded g id)) out d).2
  | sleep {ms d} : Serve numeric (.sleep ms) d (.ok ()) d

end Microservices.Payment
