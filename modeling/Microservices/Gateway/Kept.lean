/-
  What a request keeps, whatever is answered to it.

  The gateway and order-service touch the system through three doors: a dependency acts, an event is
  published, a notification is published.  A property that passes all three under the id of a request
  is kept by the whole request; the routes, the saga and the calls between them are walked once, here.

  `Kept c I` is the three doors for the id `c` and the property `I`; `app` is the whole walk.  What
  is shown by it in other modules is that a request leaves something alone: one with an id that is
  too long leaves no notification, whatever becomes of its order.
-/
import Microservices.Gateway.Routes

namespace Microservices.Gateway

open Microservices.Order

/-- `I` passes the three doors, under the id of a request. -/
structure Kept {deps : Dependencies} (correlationId : String) (I : System deps → Prop) : Prop where
  act : ∀ {α : Type} (f : deps.State → α × deps.State) {s : System deps}, I s → I (s.act f).2
  publishOrderEvent : ∀ event {s : System deps}, I s → I (publishOrderEvent correlationId event s).2
  publishNotification : ∀ message {s : System deps},
    I s → I (publishNotification correlationId message s).2

namespace Kept

variable {deps : Dependencies} {α : Type} {c : String} {I : System deps → Prop} {s : System deps}

/-! ## order-service -/

/-- A call of another service keeps the invariant if the service does. -/
theorem overGrpc {β : Type} (h : Kept c I) (call : deps.State → Except JsError β × deps.State)
    (hs : I s) : I (overGrpc c call s).2 := by
  unfold Gateway.overGrpc
  split
  · exact hs
  · exact h.act call hs

/-- Whatever the saga awaits. -/
theorem answer (h : Kept c I) (op : SagaOp) (hs : I s) : I (answer c op s).2 := by
  induction op generalizing s with
  | getUser id => exact h.overGrpc _ hs
  | getProduct id => exact h.overGrpc _ hs
  | processPayment req => exact h.overGrpc _ hs
  | refundByOrderId id => exact h.overGrpc _ hs
  | create order => exact h.act _ hs
  | updateStatus id status => exact h.act _ hs
  | publishOrderEvent event => exact h.publishOrderEvent event hs
  | publishNotification message => exact h.publishNotification message hs
  | allSettled first second ih₁ ih₂ => exact ih₂ (ih₁ hs)

/-- A whole saga. -/
theorem createOrder (h : Kept c I) (input : CreateOrder) (hs : I s) :
    I (createOrder input c s).2 := by
  unfold Gateway.createOrder
  split
  · exact Prog.run_invariant (Gateway.answer c) (fun op _ => h.answer op)
      (saga (s.act deps.orderId).1 input) (h.act deps.orderId hs)
  · exact hs

/-- Reading an order keeps it. -/
theorem getOrder (h : Kept c I) (id : String) (hs : I s) : I (getOrder id c s).2 :=
  h.act (deps.findById id) hs

/-! ## api-gateway -/

/-- A handler of order-service runs in the context of its caller. -/
theorem toOrderService (h : Kept c I) (hne : c ≠ "") (newCorrelationId : Uuid)
    {handler : String → System deps → Except Failure OrderResponse × System deps}
    (hhandler : ∀ {s}, I s → I (handler c s).2) (hs : I s) :
    I (toOrderService newCorrelationId handler (some c) s).2 := by
  have hcontext : withCorrelation newCorrelationId (some c) handler = handler c :=
    runWithCorrelationId_some newCorrelationId handler hne
  -- on the way there, in the handler, and on the way back
  have hunreached := h.act deps.unreached hs
  unfold Gateway.toOrderService
  rw [hcontext]
  generalize s.act deps.unreached = r at hunreached ⊢
  obtain ⟨failed, s⟩ := r
  cases failed with
  | some err => exact hunreached
  | none =>
    have hunanswered := h.act deps.unanswered (hhandler hunreached)
    dsimp only at hunanswered ⊢
    generalize (handler c s).2.act deps.unanswered = r at hunanswered ⊢
    obtain ⟨failed, s'⟩ := r
    cases failed with
    | some err => exact hunanswered
    | none => cases (handler c s).1 <;> exact hunanswered

/-- A call of the gateway has made its metadata of the id. -/
theorem createCaller (hne : c ≠ "")
    {call : Option String → System deps → Except GrpcError α × System deps} (hs : I s)
    (hcall : I (call (some c) s).2) : I (createCaller c call s).2 := by
  unfold Gateway.createCaller
  cases hmetadata : correlationMetadata c with
  | error err => exact hs
  | ok metadata =>
    obtain rfl := metadata_of_ok hne hmetadata
    dsimp only
    generalize call (some c) s = r at hcall ⊢
    obtain ⟨reply, s'⟩ := r
    cases reply <;> exact hcall

/-- Every route, one by one. -/
theorem handle (h : Kept c I) (hne : c ≠ "") (newCorrelationId : Uuid) (body : JsValue)
    (route : Route) (hs : I s) : I (route.handle newCorrelationId body c s).2 := by
  cases route with
  | health => exact hs
  | createUser => exact createCaller hne hs (h.act _ hs)
  | getUser id => exact createCaller hne hs (h.act _ hs)
  | createProduct => exact createCaller hne hs (h.act _ hs)
  | getProduct id => exact createCaller hne hs (h.act _ hs)
  | createOrder =>
    refine createCaller hne hs ?_
    unfold orderClient.createOrder
    -- an order that the client refuses does not leave the gateway
    split
    · exact hs
    · exact h.toOrderService hne newCorrelationId (h.createOrder _) hs
  | getOrder id =>
    exact createCaller hne hs (h.toOrderService hne newCorrelationId (h.getOrder id) hs)
  | getPayment id => exact createCaller hne hs (h.act _ hs)
  | notFound => exact hs

/-- **A whole request**, under the id that the gateway gives it. -/
theorem app (h : Kept c I) (hne : c ≠ "") {gatewayId : Uuid} (orderServiceId : Uuid)
    {req : HttpRequest}
    (hid : runWithCorrelationId gatewayId (req.correlationId.map Subtype.val) id = c) (hs : I s) :
    I (app gatewayId orderServiceId req s).2 := by
  unfold Gateway.app
  cases req.body with
  | error err => exact hs
  | ok body =>
    dsimp only
    rw [runWithCorrelationId_apply, hid]
    unfold Route.serve
    split
    · exact hs
    · exact h.handle hne orderServiceId body req.route hs

end Kept

end Microservices.Gateway
