/-
  Requests on their way through the whole system, any number at once (api-gateway/src/app.js,
  api-gateway/src/middlewares/correlation-id.js, and every service behind it).

  A state has what is under way between the services: calls, events, the broker of the notifications,
  and the sagas at work.  What is under way may be delivered at any time, in any order and any number
  of times, or never; a saga goes on with whatever it is answered.  Each of these things is marked
  with the request that has caused it, which nobody reads.

  `Traced` says that everything marked with a request carries the id of its response header.
-/
import Microservices.Notification.Relay
import Microservices.Trace.Hops

namespace Microservices.Trace

open Microservices.Order (CreateOrder OrderEvent SagaOp SagaRes SagaProg saga)
open Microservices.Gateway (HttpRequest Route validateBody)
open Microservices.Notification (Outside Copy Delivery Move Fault Everywhere Relayed)

/-! ## States -/

/-- A call under way. -/
structure Call where
  request : Nat
  method : Method
  metadata : Option String

/-- An event that Kafka has. -/
structure Record where
  request : Nat
  headers : Option KafkaHeaders

/-- A saga at work, in its context. -/
structure Running where
  request : Nat
  correlationId : String
  rest : SagaProg

/-- The handlers behind the gateway. -/
inductive Handler : Type where
  | grpc (method : Method)
  | eachMessage
  | handleMessage

/-- A handler has been executed, in a context with this id. -/
structure Execution where
  request : Nat
  handler : Handler
  correlationId : String

/-- The requests with the ids that the gateway may draw for them; what is under way; for each of the
    published notifications the request it is about; and the executions so far. -/
structure System where
  requests : List (HttpRequest × Uuid)
  calls : List Call
  records : List Record
  broker : Notification.State
  origins : List Nat
  sagas : List Running
  executions : List Execution

/-- Nothing has been requested yet. -/
def System.init : System := ⟨[], [], [], Notification.State.init, [], [], []⟩

/-! ## The gateway -/

/-- The method that a route calls; of the body, `createOrder` makes some `CreateOrderRequest`. -/
def routeMethod (input : CreateOrder) : Route → Option Method
  | .health => none
  | .createUser => some .createUser
  | .getUser _ => some .getUser
  | .createProduct => some .createProduct
  | .getProduct _ => some .getProduct
  | .createOrder => some (.createOrder input)
  | .getOrder _ => some .getOrder
  | .getPayment _ => some .getPayment
  | .notFound => none

/-- What a request calls: nothing, if its body is rejected. -/
def requestMethod (input : CreateOrder) (req : HttpRequest) : Option Method :=
  match req.body with
  | .error _ => none
  | .ok body =>
    match validateBody req.route.requiredFields body with
    | some _ => none
    | none => routeMethod input req.route

namespace System

variable (s : System)

/-- A call from the context `correlationId`, if its metadata can be made. -/
def call (request : Nat) (correlationId : String) (method : Method) : System :=
  match correlationMetadata correlationId with
  | .error _ => s
  | .ok metadata => { s with calls := s.calls ++ [⟨request, method, metadata⟩] }

/-- `publishOrderEvent`. -/
def publishOrderEvent (request : Nat) (correlationId : String) (event : OrderEvent) : System :=
  { s with records := s.records ++ [⟨request, some (eventHeaders (some correlationId) event)⟩] }

/-- `publishNotification`: amqplib throws at an id that is too long. -/
def publishNotification (request : Nat) (correlationId : String) (message : Order.Notification)
    (content : List UInt8) : System :=
  if byteLength correlationId ≤ 255 then
    { s with
      broker := s.broker.publish (notificationProperties (some correlationId) message) content
      origins := s.origins ++ [request] }
  else s

/-- A request has come. -/
def request (req : HttpRequest) (newCorrelationId : Uuid) (input : CreateOrder) : System :=
  let s' := { s with requests := s.requests ++ [(req, newCorrelationId)] }
  match responseHeader newCorrelationId req, requestMethod input req with
  | some correlationId, some method => s'.call s.requests.length correlationId method
  | _, _ => s'

/-- What a saga sends in its context. -/
def send (request : Nat) (correlationId : String) (content : List UInt8) : SagaOp → System → System
  | .getUser _, s => s.call request correlationId .getUser
  | .getProduct _, s => s.call request correlationId .getProduct
  | .processPayment _, s => s.call request correlationId .processPayment
  | .refundByOrderId _, s => s.call request correlationId .refundByOrderId
  | .create _, s => s
  | .updateStatus _ _, s => s
  | .publishOrderEvent event, s => s.publishOrderEvent request correlationId event
  | .publishNotification message, s => s.publishNotification request correlationId message content
  | .allSettled first second, s =>
    (s.send request correlationId content first).send request correlationId content second

/-- Some saga goes on. -/
def advance (sagas : List Running) : System := { s with sagas := sagas }

/-- A notification is delivered. -/
def deliver (channel : Nat) (m : Copy) (rest : List Copy) : System :=
  { s with broker := s.broker.deliver channel m rest }

/-- A handler is executed. -/
def execute (request : Nat) (handler : Handler) (correlationId : String) : System :=
  { s with executions := s.executions ++ [⟨request, handler, correlationId⟩] }

/-- The handler of a method; that of `createOrder` begins a saga, if it accepts its input. -/
def handle (request : Nat) (orderId : String) (method : Method) (correlationId : String) : System :=
  let s' := s.execute request (.grpc method) correlationId
  match method with
  | .createOrder input =>
    if input.Accepted then
      { s' with sagas := s'.sagas ++ [⟨request, correlationId, saga orderId input⟩] }
    else s'
  | _ => s'

end System

/-! ## Steps -/

section Steps

variable (out : Outside) (maxRetries : Nat)

/-- Something happens; the ids are those that a hop may draw. -/
inductive Step : System → System → Prop where
  | request (s : System) (req : HttpRequest) (newCorrelationId : Uuid) (input : CreateOrder) :
      Step s (s.request req newCorrelationId input)
  | serve {s : System} {call : Call} (newCorrelationId : Uuid) (newID orderId : String)
      (hcall : call ∈ s.calls) :
      Step s (call.method.serve newCorrelationId newID call.metadata
        (s.handle call.request orderId call.method))
  | answer {s : System} {pre post : List Running} {request : Nat} {correlationId : String}
      {op : SagaOp} {k : SagaRes op → SagaProg} (content : List UInt8) (r : SagaRes op)
      (hsagas : s.sagas = pre ++ ⟨request, correlationId, .await op k⟩ :: post) :
      Step s ((s.advance (pre ++ ⟨request, correlationId, k r⟩ :: post)).send request correlationId
        content op)
  | consume {s : System} {record : Record} (newCorrelationId : Uuid) (hrecord : record ∈ s.records) :
      Step s (eachMessage newCorrelationId record.headers (s.execute record.request .eachMessage))
  | deliver {s : System} {m : Copy} {pre post : List Copy} (channel request : Nat)
      (newCorrelationId : Uuid) (hconnected : s.broker.connected channel = true)
      (hmain : s.broker.main = pre ++ m :: post) (horigin : s.origins[m.message]? = some request) :
      Step s (consumeMainQueue newCorrelationId (s.broker.nextDelivery channel m)
        ((s.deliver channel m (pre ++ post)).execute request .handleMessage))
  | broker {s : System} {broker : Notification.State}
      (hmove : Move out maxRetries s.broker broker ∨ Fault s.broker broker)
      (hpublished : broker.published = s.broker.published)
      (hnextTag : broker.nextTag = s.broker.nextTag) : Step s { s with broker := broker }

/-- The states a run can reach. -/
def Reachable : System → Prop := Relation.ReflTransGen (Step out maxRetries) System.init

end Steps

/-! ## The id of a request -/

/-- The id of a request: that of its response header. -/
def System.Given (s : System) (request : Nat) (correlationId : String) : Prop :=
  ∃ req newCorrelationId, s.requests[request]? = some (req, newCorrelationId) ∧
    responseHeader newCorrelationId req = some correlationId

section Given

variable {s s' : System} {request : Nat} {id : String}

/-- No request is given an empty id. -/
theorem System.Given.ne (h : s.Given request id) : id ≠ "" := by
  obtain ⟨req, u, -, hheader⟩ := h
  exact (responseHeader_eq hheader).1

/-- A request that was given an id has it when more come. -/
theorem System.Given.append (h : s.Given request id) {more : List (HttpRequest × Uuid)}
    (hrequests : s'.requests = s.requests ++ more) : s'.Given request id := by
  obtain ⟨req, u, hrequest, hheader⟩ := h
  refine ⟨req, u, ?_, hheader⟩
  have hlt : request < s.requests.length := (List.getElem?_eq_some_iff.mp hrequest).1
  rw [hrequests, List.getElem?_append_left hlt]
  exact hrequest

/-- It has it while none comes. -/
theorem System.Given.same (h : s.Given request id) (hrequests : s'.requests = s.requests) :
    s'.Given request id := by
  unfold System.Given
  rw [hrequests]
  exact h

end Given

/-! ## The invariant -/

/-- A copy of a notification carries the id of the request it is about. -/
def System.Carries (s : System) (m : Copy) : Prop :=
  ∃ request id, s.origins[m.message]? = some request ∧ s.Given request id ∧
    m.properties.correlationId = some id

/-- A retry and a dead-lettering both keep the property. -/
theorem System.relayed (s : System) : Relayed s.Carries where
  retried _ h := h
  withHeaders _ _ h := h

/-- Whatever is marked with a request carries its id. -/
structure Traced (s : System) : Prop where
  calls : ∀ c ∈ s.calls, ∃ id, s.Given c.request id ∧ c.metadata = some id
  records : ∀ m ∈ s.records, ∃ id, s.Given m.request id ∧ correlationIdOf m.headers = some id
  copies : Everywhere s.Carries s.broker
  numbered : s.origins.length = s.broker.published.length
  sagas : ∀ x ∈ s.sagas, s.Given x.request x.correlationId
  executions : ∀ e ∈ s.executions, s.Given e.request e.correlationId

section Traced

variable {s : System} {request : Nat} {id : String}

/-- An empty system is traced. -/
theorem Traced.init : Traced System.init where
  calls _ h := nomatch h
  records _ h := nomatch h
  copies := Everywhere.init
  numbered := rfl
  sagas _ h := nomatch h
  executions _ h := nomatch h

/-- What is added to a list has what its elements have, if the new element has it. -/
theorem forall_mem_concat {α : Type} {P : α → Prop} {l : List α} {a : α} (h : ∀ x ∈ l, P x)
    (ha : P a) : ∀ x ∈ l ++ [a], P x := by
  intro x hx
  rcases List.mem_append.mp hx with hx | hx
  · exact h x hx
  · rw [List.mem_singleton.mp hx]
    exact ha

/-- A call under the request's id leaves the system traced. -/
theorem Traced.call (h : Traced s) (hgiven : s.Given request id) (method : Method) :
    Traced (s.call request id method) := by
  unfold System.call
  cases hmetadata : correlationMetadata id with
  | error err => exact h
  | ok metadata =>
    exact ⟨forall_mem_concat h.calls ⟨id, hgiven, metadata_of_ok hgiven.ne hmetadata⟩, h.records,
      h.copies, h.numbered, h.sagas, h.executions⟩

/-- So does an event. -/
theorem Traced.publishOrderEvent (h : Traced s) (hgiven : s.Given request id)
    (event : OrderEvent) : Traced (s.publishOrderEvent request id event) :=
  ⟨h.calls, forall_mem_concat h.records
    ⟨id, hgiven, correlationIdOf_eventHeaders hgiven.ne event⟩, h.copies, h.numbered, h.sagas,
    h.executions⟩

/-- So does a notification. -/
theorem Traced.publishNotification (h : Traced s) (hgiven : s.Given request id)
    (message : Order.Notification) (content : List UInt8) :
    Traced (s.publishNotification request id message content) := by
  unfold System.publishNotification
  by_cases hlength : byteLength id ≤ 255
  · rw [if_pos hlength]
    have hcopies : Everywhere
        (System.Carries { s with origins := s.origins ++ [request] }) s.broker := by
      refine h.copies.mono fun m hm => ?_
      obtain ⟨r, i, horigin, hgiven, hproperty⟩ := hm
      have hlt : m.message < s.origins.length := (List.getElem?_eq_some_iff.mp horigin).1
      exact ⟨r, i, (List.getElem?_append_left hlt).trans horigin, hgiven, hproperty⟩
    refine ⟨h.calls, h.records, hcopies.publish _ content ⟨request, id, ?_, hgiven, rfl⟩, ?_,
      h.sagas, h.executions⟩
    · show (s.origins ++ [request])[s.broker.published.length]? = some request
      -- the new copy's number is the place of its origin
      rw [← h.numbered]
      exact List.getElem?_concat_length
    · show (s.origins ++ [request]).length = (s.broker.published ++ [_]).length
      rw [List.length_append, List.length_append, h.numbered]
      rfl
  · rw [if_neg hlength]
    exact h

/-- So does a handler that begins. -/
theorem Traced.execute (h : Traced s) (hgiven : s.Given request id) (handler : Handler) :
    Traced (s.execute request handler id) :=
  ⟨h.calls, h.records, h.copies, h.numbered, h.sagas, forall_mem_concat h.executions hgiven⟩

/-- A saga sends no request to the gateway. -/
theorem requests_send (s : System) (request : Nat) (id : String) (content : List UInt8) (op : SagaOp) :
    (s.send request id content op).requests = s.requests := by
  -- a call is sent only where the id can be metadata
  have hcall : ∀ (t : System) method, (t.call request id method).requests = t.requests := by
    intro t method
    unfold System.call
    cases correlationMetadata id <;> rfl
  induction op generalizing s with
  | publishNotification message =>
    show (s.publishNotification request id message content).requests = s.requests
    unfold System.publishNotification
    split <;> rfl
  | allSettled first second ih₁ ih₂ => exact (ih₂ _).trans (ih₁ s)
  | getUser userId => exact hcall s _
  | getProduct productId => exact hcall s _
  | processPayment req => exact hcall s _
  | refundByOrderId orderId => exact hcall s _
  | _ => rfl

/-- Whatever a saga sends, it sends in its context. -/
theorem Traced.send (h : Traced s) (hgiven : s.Given request id) (content : List UInt8)
    (op : SagaOp) : Traced (s.send request id content op) := by
  induction op generalizing s with
  | getUser userId => exact h.call hgiven _
  | getProduct productId => exact h.call hgiven _
  | processPayment req => exact h.call hgiven _
  | refundByOrderId orderId => exact h.call hgiven _
  | create order => exact h
  | updateStatus orderId status => exact h
  | publishOrderEvent event => exact h.publishOrderEvent hgiven event
  | publishNotification message => exact h.publishNotification hgiven message content
  | allSettled first second ih₁ ih₂ =>
    exact ih₂ (ih₁ h hgiven) (hgiven.same (requests_send s request id content first))

/-- A handler that begins a saga begins it in its context. -/
theorem Traced.handle (h : Traced s) (hgiven : s.Given request id) (orderId : String)
    (method : Method) : Traced (s.handle request orderId method id) := by
  have hexecuted : Traced (s.execute request (.grpc method) id) := h.execute hgiven _
  cases method with
  | createOrder input =>
    show Traced (if input.Accepted then _ else _)
    -- an order accepted starts a saga, under the call's own id
    by_cases haccepted : input.Accepted
    · rw [if_pos haccepted]
      exact ⟨hexecuted.calls, hexecuted.records, hexecuted.copies, hexecuted.numbered,
        forall_mem_concat hexecuted.sagas hgiven, hexecuted.executions⟩
    · rw [if_neg haccepted]
      exact hexecuted
  | _ => exact hexecuted

/-- **The gateway**: a new request gives its id to what it calls, and takes it from no other. -/
theorem Traced.requested (h : Traced s) (req : HttpRequest) (u : Uuid) (input : CreateOrder) :
    Traced (s.request req u input) := by
  -- the requests so far keep their places
  have happended : Traced { s with requests := s.requests ++ [(req, u)] } := by
    refine ⟨fun c hc => ?_, fun m hm => ?_, h.copies.mono fun m hm => ?_, h.numbered,
      fun x hx => (h.sagas x hx).append rfl, fun e he => (h.executions e he).append rfl⟩
    · obtain ⟨i, hgiven, hmetadata⟩ := h.calls c hc
      exact ⟨i, hgiven.append rfl, hmetadata⟩
    · obtain ⟨i, hgiven, hheader⟩ := h.records m hm
      exact ⟨i, hgiven.append rfl, hheader⟩
    · obtain ⟨r, i, horigin, hgiven, hproperty⟩ := hm
      exact ⟨r, i, horigin, hgiven.append rfl, hproperty⟩
  unfold System.request
  cases hheader : responseHeader u req with
  | none => exact happended
  | some id =>
    cases requestMethod input req with
    | none => exact happended
    | some method =>
      exact happended.call ⟨req, u, List.getElem?_concat_length, hheader⟩ method

variable {out : Outside} {maxRetries : Nat} {s' : System}

/-- **What one step keeps.** -/
theorem Traced.step (h : Traced s) (hstep : Step out maxRetries s s') : Traced s' := by
  cases hstep with
  | request req newCorrelationId input => exact h.requested req newCorrelationId input
  | @serve call newCorrelationId newID orderId hcall =>
    obtain ⟨id, hgiven, hmetadata⟩ := h.calls call hcall
    rw [hmetadata, Method.serve_some _ _ hgiven.ne]
    exact h.handle hgiven orderId call.method
  | @answer pre post request correlationId op k content r hsagas =>
    have hgiven : s.Given request correlationId :=
      h.sagas ⟨request, correlationId, .await op k⟩ (Notification.mem_of_split hsagas)
    have hadvanced : Traced (s.advance (pre ++ ⟨request, correlationId, k r⟩ :: post)) := by
      refine ⟨h.calls, h.records, h.copies, h.numbered, fun x hx => ?_, h.executions⟩
      rcases Notification.eq_or_mem_rest hx with rfl | hrest
      · exact hgiven
      · exact h.sagas x (Notification.mem_of_rest hsagas hrest)
    exact hadvanced.send hgiven content op
  | @consume record newCorrelationId hrecord =>
    obtain ⟨id, hgiven, hheader⟩ := h.records record hrecord
    unfold eachMessage
    rw [hheader, runWithCorrelationId_some _ _ hgiven.ne]
    exact h.execute hgiven .eachMessage
  | @deliver m pre post channel request newCorrelationId hconnected hmain horigin =>
    obtain ⟨r, id, horigin', hgiven, hproperty⟩ :=
      h.copies.main m (Notification.mem_of_split hmain)
    -- a copy of one number has one origin
    obtain rfl : r = request := Option.some.inj (horigin'.symm.trans horigin)
    have hdelivered : Traced (s.deliver channel m (pre ++ post)) :=
      ⟨h.calls, h.records, h.copies.deliver channel hmain, h.numbered, h.sagas, h.executions⟩
    unfold consumeMainQueue
    rw [show (s.broker.nextDelivery channel m).copy.properties.correlationId = some id
      from hproperty, runWithCorrelationId_some _ _ hgiven.ne]
    exact hdelivered.execute hgiven .handleMessage
  | @broker broker hmove hpublished hnextTag =>
    -- the broker changes headers at most, never the property
    have hcopies : Everywhere s.Carries broker := by
      rcases hmove with hmove | hfault
      · exact h.copies.move s.relayed hmove hpublished
      · exact h.copies.fault hfault
    exact ⟨h.calls, h.records, hcopies, h.numbered.trans (congrArg _ hpublished.symm), h.sagas,
      h.executions⟩

/-- **What a whole run keeps.** -/
theorem Reachable.traced (h : Reachable out maxRetries s) : Traced s := by
  induction h with
  | refl => exact Traced.init
  | tail _ hstep ih => exact ih.step hstep

end Traced

/-! ## One id per request -/

/-- **One id per request, end to end**: whatever handler has been executed for a request, its context
    has the id of the response header, and that is the caller's, if there is one that is not empty,
    or else the one that the gateway has drawn. -/
theorem one_id_per_request {out : Outside} {maxRetries : Nat} {s : System}
    (h : Reachable out maxRetries s) {execution : Execution} (hmem : execution ∈ s.executions) :
    ∃ req newCorrelationId, s.requests[execution.request]? = some (req, newCorrelationId) ∧
      responseHeader newCorrelationId req = some execution.correlationId ∧
      ((∃ v, req.correlationId = some v ∧ v.1 ≠ "" ∧ execution.correlationId = v.1) ∨
        (∀ v, req.correlationId = some v → v.1 = "") ∧
          execution.correlationId = newCorrelationId.1) := by
  obtain ⟨req, newCorrelationId, hrequest, hheader⟩ := h.traced.executions execution hmem
  exact ⟨req, newCorrelationId, hrequest, hheader, (responseHeader_eq hheader).2⟩

/-! ## A run with two hops -/

/-- The id that the gateway may draw, and those that the other hops may. -/
def drawn : Uuid := ⟨"0d9a6c52-71f4-4e0b-8a3e-5c1b2f7e6d48", by decide⟩

/-- A request that creates an order, with an id of its own. -/
def ordering : HttpRequest where
  route := .createOrder
  body := .ok (.obj [("userId", .str "u1"), ("productId", .str "p1"), ("quantity", .str "1")])
  correlationId := some ⟨"trace-7", by decide⟩

/-- The order of the example. -/
def orderInput : CreateOrder := ⟨"u1", "p1", 1⟩

/-- The gateway has called order-service. -/
def ordered : System :=
  { System.init with
    requests := [(ordering, drawn)]
    calls := [⟨0, .createOrder orderInput, some "trace-7"⟩] }

/-- Its handler has begun a saga. -/
def begun : System :=
  { ordered with
    sagas := [⟨0, "trace-7", saga "o1" orderInput⟩]
    executions := [⟨0, .grpc (.createOrder orderInput), "trace-7"⟩] }

/-- The saga after its first answer. -/
def unavailable : SagaProg :=
  match saga "o1" orderInput with
  | .await (.getUser _) k => k (.error { message := "14 UNAVAILABLE" })
  | rest => rest

/-- It has looked up the user, and not waited for user-service. -/
def lookingUp : System :=
  { begun with
    calls := [⟨0, .createOrder orderInput, some "trace-7"⟩, ⟨0, .getUser, some "trace-7"⟩]
    sagas := [⟨0, "trace-7", unavailable⟩] }

/-- The handler of user-service, at last. -/
def lookedUp : System :=
  { lookingUp with
    executions := [⟨0, .grpc (.createOrder orderInput), "trace-7"⟩, ⟨0, .grpc .getUser, "trace-7"⟩] }

/-- The state of the example is reached. -/
theorem lookedUp_reachable : Reachable Notification.ordinary 3 lookedUp := by
  have horder : Step Notification.ordinary 3 System.init ordered := .request _ ordering drawn orderInput
  have hbegin : Step Notification.ordinary 3 ordered begun :=
    @Step.serve _ _ ordered ⟨0, .createOrder orderInput, some "trace-7"⟩ drawn "" "o1"
      List.mem_cons_self
  have hlookUp : Step Notification.ordinary 3 begun lookingUp :=
    @Step.answer _ _ begun [] [] 0 "trace-7" (.getUser "u1") _ []
      (.error { message := "14 UNAVAILABLE" }) rfl
  have hserve : Step Notification.ordinary 3 lookingUp lookedUp :=
    @Step.serve _ _ lookingUp ⟨0, .getUser, some "trace-7"⟩ drawn "" "o1"
      (List.mem_cons_of_mem _ List.mem_cons_self)
  exact (((Relation.ReflTransGen.single horder).tail hbegin).tail hlookUp).tail hserve

/-- In it every part has the id that the client has sent. -/
theorem one_id_of_lookedUp :
    ∃ req newCorrelationId, lookedUp.requests[0]? = some (req, newCorrelationId) ∧
      responseHeader newCorrelationId req = some "trace-7" ∧
      ((∃ v, req.correlationId = some v ∧ v.1 ≠ "" ∧ "trace-7" = v.1) ∨
        (∀ v, req.correlationId = some v → v.1 = "") ∧ "trace-7" = newCorrelationId.1) :=
  @one_id_per_request _ _ _ lookedUp_reachable ⟨0, .grpc .getUser, "trace-7"⟩
    (List.mem_cons_of_mem _ List.mem_cons_self)

end Microservices.Trace
