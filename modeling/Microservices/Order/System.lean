/-
  Sagas, payment service and orders table together.

  Any number of sagas run at once.  Whatever a saga awaits becomes a CALL: it is on its way, then
  somebody works on it, then it is finished.  Its client waits for the result or gives up at any
  moment (`DEADLINE_EXCEEDED`, a lost connection), and giving up does nothing to the call: a
  handler that has not started may still start, one that runs goes on, a statement that has not
  been executed may still be executed.

  The payment service has no other callers.  Its handlers interleave at every await, one
  transaction of the payment database being one step.
-/
import Mathlib.Logic.Function.Basic
import Mathlib.Logic.Relation
import Microservices.Order.Saga
import Microservices.Payment.Handlers

namespace Microservices.Order

open Microservices.Payment (PayOp PayRes Serve handleProcessPayment handleRefundByOrderId)

/-! ## Calls -/

/-- The rejection of a call at its client. -/
def SagaOp.reject (e : JsError) : (op : SagaOp) → SagaRes op
  | .getUser _ => .error e
  | .getProduct _ => .error e
  | .processPayment _ => .error e
  | .refundByOrderId _ => .error e
  | .create _ => .error e
  | .updateStatus _ _ => .error e
  | .publishOrderEvent _ => .error e
  | .publishNotification _ => .error e
  | .allSettled first second => (first.reject e, second.reject e)

/-- How far a call has got, whether or not its client still waits. -/
inductive Stage (op : SagaOp) : Type where
  | sent
  | running (t : Thread PayOp PayRes (SagaRes op))
  | finished (r : SagaRes op)

/-- A call a saga has made. -/
structure Call where
  op : SagaOp
  stage : Stage op

/-- The handler the payment service runs for a call. -/
def handler (maxRetries : Nat) : (op : SagaOp) → Option (Prog PayOp PayRes (SagaRes op))
  | .processPayment req => some (handleProcessPayment maxRetries req).run
  | .refundByOrderId orderId => some (handleRefundByOrderId orderId).run
  | _ => none

/-- What a statement on the orders table returns and does; it may also fail and do nothing. -/
inductive Execute (numeric : Float → Option Numeric) :
    (op : SagaOp) → Orders → SagaRes op → Orders → Prop where
  | create {order d row d'} (now : Nat) (h : d.create numeric now order = .ok (row, d')) :
      Execute numeric (.create order) d (.ok row) d'
  | createFails {order d} (e : JsError) : Execute numeric (.create order) d (.error e) d
  | updateStatus {id status d} :
      Execute numeric (.updateStatus id status) d (.ok (d.updateStatus id status).1)
        (d.updateStatus id status).2
  | updateStatusFails {id status d} (e : JsError) :
      Execute numeric (.updateStatus id status) d (.error e) d

/-- How `publishOrderEvent` ends, if `producer.send` would end as `sent`: without a connection the event
    is skipped, and that is no failure. -/
def kafkaProducer.outcome (connected : Bool) (sent : Except JsError Unit) : Except JsError Unit :=
  if connected then sent else .ok ()

/-- How `publishNotification` ends, if the broker would confirm the message as `confirmed`: without a
    channel it is a failure. -/
def rabbitPublisher.outcome (channel : Bool) (confirmed : Except JsError Unit) : Except JsError Unit :=
  if channel then confirmed else .error { message := "RabbitMQ channel not available" }

/-- How a call may end that goes neither to the payment service nor to the orders table. -/
inductive Elsewhere : (op : SagaOp) → SagaRes op → Prop where
  | getUser (id : String) (r : Except JsError UserResponse) : Elsewhere (.getUser id) r
  | getProduct (id : String) (r : Except JsError ProductResponse) : Elsewhere (.getProduct id) r
  | publishOrderEvent (event : OrderEvent) (connected : Bool) (sent : Except JsError Unit) :
      Elsewhere (.publishOrderEvent event) (kafkaProducer.outcome connected sent)
  | publishNotification (message : Notification) (channel : Bool) (confirmed : Except JsError Unit) :
      Elsewhere (.publishNotification message) (rabbitPublisher.outcome channel confirmed)
  | allSettled {first second : SagaOp} {r₁ : SagaRes first} {r₂ : SagaRes second}
      (h₁ : Elsewhere first r₁) (h₂ : Elsewhere second r₂) :
      Elsewhere (.allSettled first second) (r₁, r₂)

/-! ## The system -/

/-- A saga in progress or ended: its thread, and the number of the call it waits for. -/
structure Saga where
  thread : Thread SagaOp SagaRes (Except JsError OrderRow × List Compensation)
  call : Option Nat

/-- The two databases, the sagas by order id, and every call made so far. -/
structure State where
  payment : Payment.Db
  orders : Orders
  sagas : String → Option Saga
  calls : List Call

/-- Empty tables, no saga, no call. -/
def State.init : State := ⟨Payment.Db.empty, [], fun _ => none, []⟩

/-- The state with the saga of `o` replaced. -/
def State.setSaga (s : State) (o : String) (g : Saga) : State :=
  { s with sagas := Function.update s.sagas o (some g) }

/-- The state with call number `i` replaced. -/
def State.setCall (s : State) (i : Nat) (c : Call) : State :=
  { s with calls := s.calls.set i c }

/-- What a step is about. -/
inductive Event : Type where
  | start (o : String)
  | send (o : String)
  | arrive (i : Nat)
  | serve (i : Nat)
  | finish (i : Nat)
  | execute (i : Nat) (op : SagaOp) (r : SagaRes op)
  | elsewhere (i : Nat)
  | answer (o : String) (op : SagaOp) (r : SagaRes op)

/-- One step of the system. -/
inductive Step (numeric : Float → Option Numeric) (maxRetries : Nat) :
    State → Event → State → Prop where
  /-- A request arrives: a saga with a fresh id. -/
  | start {s} (o : String) (input : CreateOrder) (hfresh : s.sagas o = none) :
      Step numeric maxRetries s (.start o) (s.setSaga o ⟨Thread.start (saga o input), none⟩)
  /-- A saga makes the call it stands at. -/
  | send {s g op k} (o : String) (hg : s.sagas o = some g) (hp : g.thread.prog = .await op k)
      (hc : g.call = none) :
      Step numeric maxRetries s (.send o)
        { s.setSaga o ⟨g.thread, some s.calls.length⟩ with calls := s.calls ++ [⟨op, .sent⟩] }
  /-- A handler of the payment service starts. -/
  | arrive {s op p} (i : Nat) (hi : s.calls[i]? = some ⟨op, .sent⟩)
      (hh : handler maxRetries op = some p) :
      Step numeric maxRetries s (.arrive i) (s.setCall i ⟨op, .running (Thread.start p)⟩)
  /-- A handler is answered one request. -/
  | serve {s op t po pk r d} (i : Nat) (hi : s.calls[i]? = some ⟨op, .running t⟩)
      (hp : t.prog = .await po pk) (hd : Serve numeric po s.payment r d) :
      Step numeric maxRetries s (.serve i)
        { s.setCall i ⟨op, .running (t.answer po pk r)⟩ with payment := d }
  /-- A handler returns. -/
  | finish {s op t r} (i : Nat) (hi : s.calls[i]? = some ⟨op, .running t⟩) (hp : t.prog = .ret r) :
      Step numeric maxRetries s (.finish i) (s.setCall i ⟨op, .finished r⟩)
  /-- A statement is executed on the orders table. -/
  | execute {s op r d} (i : Nat) (hi : s.calls[i]? = some ⟨op, .sent⟩)
      (hd : Execute numeric op s.orders r d) :
      Step numeric maxRetries s (.execute i op r)
        { s.setCall i ⟨op, .finished r⟩ with orders := d }
  /-- Another service ends a call, somehow. -/
  | elsewhere {s op} (i : Nat) (r : SagaRes op) (hi : s.calls[i]? = some ⟨op, .sent⟩)
      (he : Elsewhere op r) :
      Step numeric maxRetries s (.elsewhere i) (s.setCall i ⟨op, .finished r⟩)
  /-- A saga receives the result of its call. -/
  | answer {s g i op k r} (o : String) (hg : s.sagas o = some g) (hp : g.thread.prog = .await op k)
      (hc : g.call = some i) (hi : s.calls[i]? = some ⟨op, .finished r⟩) :
      Step numeric maxRetries s (.answer o op r) (s.setSaga o ⟨g.thread.answer op k r, none⟩)
  /-- The client of a saga gives up, before or after the call was sent. -/
  | giveUp {s g op k} (o : String) (e : JsError) (hg : s.sagas o = some g)
      (hp : g.thread.prog = .await op k) :
      Step numeric maxRetries s (.answer o op (op.reject e))
        (s.setSaga o ⟨g.thread.answer op k (op.reject e), none⟩)

/-- A run all of whose steps the condition `P` allows. -/
def RunsUnder (numeric : Float → Option Numeric) (maxRetries : Nat)
    (P : State → Event → Prop) : State → State → Prop :=
  Relation.ReflTransGen fun s s' => ∃ ev, P s ev ∧ Step numeric maxRetries s ev s'

/-- One more step in front of a run. -/
theorem RunsUnder.cons {numeric : Float → Option Numeric} {maxRetries : Nat}
    {P : State → Event → Prop} {s s' s'' : State} {ev : Event}
    (hstep : Step numeric maxRetries s ev s') (hev : P s ev)
    (hrun : RunsUnder numeric maxRetries P s' s'') : RunsUnder numeric maxRetries P s s'' :=
  .head ⟨ev, hev, hstep⟩ hrun

/-- Any run. -/
def Runs (numeric : Float → Option Numeric) (maxRetries : Nat) : State → State → Prop :=
  RunsUnder numeric maxRetries fun _ _ => True

/-- The saga of `o` has thrown, with these compensations registered and these answers had. -/
def Threw (s : State) (o : String) (compensations : List Compensation) (L : SagaLog) : Prop :=
  ∃ g e, s.sagas o = some g ∧ g.thread = ⟨.ret (.error e, compensations), L⟩

end Microservices.Order
