/-
  A request on its way through the system (api-gateway/src/app.js, api-gateway/src/routes,
  api-gateway/src/clients, order-service/src/server.js, order-service/src/messaging).

  The gateway and order-service are the two parts that pass the correlation id on, so they are the
  ones that are written out.  The other services read it into their log context and nowhere else:
  what they do is a function of the request.

  `Dependencies` is that function for each of them, with the state it works on left open: anything
  that answers and changes its state.  A request is then a walk through the gateway's middleware,
  its route, a call over gRPC, and for an order the saga with the six services and stores that it
  calls.
-/
import Microservices.Context
import Microservices.Gateway.Http

namespace Microservices.Gateway

open Microservices.Order

/-! ## What the two services depend on -/

/-- The gateway's calls to the services that hold no saga. -/
inductive Upstream : Type where
  | createUser (name email : JsValue)
  | getUser (id : String)
  | createProduct (name : JsValue) (price : Float)
  | getProduct (id : String)
  | getPayment (id : String)

/-- What each call of the gateway is answered. -/
abbrev Upstream.Response : Upstream → Type
  | .createUser _ _ => UserResponse
  | .getUser _ => UserResponse
  | .createProduct _ _ => ProductResponse
  | .getProduct _ => ProductResponse
  | .getPayment _ => PaymentInfo

/-- The rest of the system and how it answers.  `State` holds every table and whatever else the
    answers depend on; of a message a broker says whether it accepts it and what the publisher is
    told. -/
structure Dependencies where
  State : Type
  /-- `Number(value)`. -/
  number : JsValue → Float
  grpcJs : GrpcClient
  upstream : (call : Upstream) → State → Except GrpcError call.Response × State
  /-- A `CreateOrderRequest` as protobuf encodes it. -/
  encode : (userId productId : JsValue) → (quantity : Float) → Except GrpcError CreateOrder
  /-- The error of a call to order-service that never reaches its handler. -/
  unreached : State → Option GrpcError × State
  /-- The error of one whose response does not come back in time. -/
  unanswered : State → Option GrpcError × State
  /-- `crypto.randomUUID` in the saga. -/
  orderId : State → String × State
  /-- The services that the saga calls, and its statements. -/
  call : (op : SagaOp) → State → SagaRes op × State
  findById : (id : String) → State → Except JsError (Option OrderRow) × State
  /-- `connected` of the Kafka producer. -/
  connected : State → Bool
  send : OrderEvent → State → (Bool × Except JsError Unit) × State
  /-- `channel` of the RabbitMQ publisher. -/
  channel : State → Bool
  sendToQueue : Notification → State → (Bool × Except JsError Unit) × State

/-- The state of the dependencies, and the messages the brokers have accepted, each with the id it
    carries. -/
structure System (deps : Dependencies) where
  state : deps.State
  events : List (OrderEvent × String)
  notifications : List (Notification × String)

section Routes

variable {deps : Dependencies} {α : Type}

/-- What a dependency does to the system. -/
def System.act (s : System deps) (f : deps.State → α × deps.State) : α × System deps :=
  ((f s.state).1, { s with state := (f s.state).2 })

/-! ## order-service -/

/-- `publishOrderEvent`. -/
def publishOrderEvent (correlationId : String) (event : OrderEvent) (s : System deps) :
    Except JsError Unit × System deps :=
  if deps.connected s.state then
    let ((accepted, result), state) := deps.send event s.state
    let events := if accepted then s.events ++ [(event, correlationId)] else s.events
    (result, { s with state := state, events := events })
  else (.ok (), s)

/-- `publishNotification`. -/
def publishNotification (correlationId : String) (message : Notification) (s : System deps) :
    Except JsError Unit × System deps :=
  if deps.channel s.state then
    if byteLength correlationId ≤ 255 then
      let ((accepted, result), state) := deps.sendToQueue message s.state
      let notifications :=
        if accepted then s.notifications ++ [(message, correlationId)] else s.notifications
      (result, { s with state := state, notifications := notifications })
    else (.error wrongType, s)
  else (.error { message := "RabbitMQ channel not available" }, s)

/-- A call over gRPC: its metadata are made first, and that may throw. -/
def overGrpc {β : Type} (correlationId : String) (call : deps.State → Except JsError β × deps.State)
    (s : System deps) : Except JsError β × System deps :=
  match correlationMetadata correlationId with
  | .error err => (.error err, s)
  | .ok _ => s.act call

/-- What the saga awaits. -/
def answer (correlationId : String) : (op : SagaOp) → System deps → SagaRes op × System deps
  | .getUser id, s => overGrpc correlationId (deps.call (.getUser id)) s
  | .getProduct id, s => overGrpc correlationId (deps.call (.getProduct id)) s
  | .processPayment req, s => overGrpc correlationId (deps.call (.processPayment req)) s
  | .refundByOrderId id, s => overGrpc correlationId (deps.call (.refundByOrderId id)) s
  | .create order, s => s.act (deps.call (.create order))
  | .updateStatus id status, s => s.act (deps.call (.updateStatus id status))
  | .publishOrderEvent event, s => publishOrderEvent correlationId event s
  | .publishNotification message, s => publishNotification correlationId message s
  | .allSettled first second, s =>
    let (r₁, s) := answer correlationId first s
    let (r₂, s) := answer correlationId second s
    ((r₁, r₂), s)

/-- The handler `createOrder`. -/
def createOrder (input : CreateOrder) (correlationId : String) (s : System deps) :
    Except Failure OrderResponse × System deps :=
  if input.Accepted then
    let (orderId, s) := s.act deps.orderId
    let ((outcome, _), s) := (saga orderId input).run (answer correlationId) s
    (createOrderReply outcome, s)
  else (.error notAccepted, s)

/-- The handler `getOrder`. -/
def getOrder (id : String) (_correlationId : String) (s : System deps) :
    Except Failure OrderResponse × System deps :=
  let (found, s) := s.act (deps.findById id)
  (getOrderReply id found, s)

/-! ## api-gateway -/

/-- A call of `createCaller`: where making its metadata throws, its promise rejects with that. -/
def createCaller (correlationId : String)
    (call : Option String → System deps → Except GrpcError α × System deps) (s : System deps) :
    Except Thrown α × System deps :=
  match correlationMetadata correlationId with
  | .error err => (.error (.other err), s)
  | .ok metadata =>
    match call metadata s with
    | (.ok response, s) => (.ok response, s)
    | (.error err, s) => (.error (.grpc err), s)

/-- A call to a handler of order-service. -/
def toOrderService (newCorrelationId : Uuid)
    (handler : String → System deps → Except Failure OrderResponse × System deps)
    (metadata : Option String) (s : System deps) : Except GrpcError OrderResponse × System deps :=
  match s.act deps.unreached with
  | (some err, s) => (.error err, s)
  | (none, s) =>
    let (reply, s) := withCorrelation newCorrelationId metadata handler s
    match s.act deps.unanswered with
    | (some err, s) => (.error err, s)
    | (none, s) =>
      match reply with
      | .ok order => (.ok order, s)
      | .error failure => (.error (deps.grpcJs.error failure), s)

/-- `orderClient.createOrder`. -/
def orderClient.createOrder (newCorrelationId : Uuid) (userId productId : JsValue)
    (quantity : Float) (metadata : Option String) (s : System deps) :
    Except GrpcError OrderResponse × System deps :=
  match deps.encode userId productId quantity with
  | .error err => (.error err, s)
  | .ok input => toOrderService newCorrelationId (Gateway.createOrder input) metadata s

/-- The end of a route. -/
def json (status : Nat) (body : α → Body) (r : Except Thrown α × System deps) :
    HttpResponse × System deps :=
  (respond status body r.1, r.2)

/-- The routes of the gateway. -/
inductive Route : Type where
  | health
  | createUser
  | getUser (id : String)
  | createProduct
  | getProduct (id : String)
  | createOrder
  | getOrder (id : String)
  | getPayment (id : String)
  | notFound

/-- The fields that the body of a request must have. -/
def Route.requiredFields : Route → List String
  | .createUser => ["name", "email"]
  | .createProduct => ["name", "price"]
  | .createOrder => ["userId", "productId", "quantity"]
  | _ => []

/-- A call to a service that holds no saga. -/
def Upstream.send (call : Upstream) (_metadata : Option String) (s : System deps) :
    Except GrpcError call.Response × System deps :=
  s.act (deps.upstream call)

/-- The handler of a route. -/
def Route.handle (newCorrelationId : Uuid) (body : JsValue) (correlationId : String)
    (s : System deps) : Route → HttpResponse × System deps
  | .health => (⟨200, .health "OK" "api-gateway"⟩, s)
  | .createUser => json 201 Body.user
      (createCaller correlationId
        (Upstream.createUser (body.field "name") (body.field "email")).send s)
  | .getUser id => json 200 Body.user (createCaller correlationId (Upstream.getUser id).send s)
  | .createProduct => json 201 Body.product
      (createCaller correlationId
        (Upstream.createProduct (body.field "name") (deps.number (body.field "price"))).send s)
  | .getProduct id =>
      json 200 Body.product (createCaller correlationId (Upstream.getProduct id).send s)
  | .createOrder => json 201 Body.order
      (createCaller correlationId
        (orderClient.createOrder newCorrelationId (body.field "userId") (body.field "productId")
          (deps.number (body.field "quantity"))) s)
  | .getOrder id => json 200 Body.order
      (createCaller correlationId (toOrderService newCorrelationId (Gateway.getOrder id)) s)
  | .getPayment id =>
      json 200 Body.payment (createCaller correlationId (Upstream.getPayment id).send s)
  | .notFound => (⟨404, .error "Not found"⟩, s)

/-- A route: the check of the body, and the handler. -/
def Route.serve (newCorrelationId : Uuid) (route : Route) (body : JsValue) (correlationId : String)
    (s : System deps) : HttpResponse × System deps :=
  match validateBody route.requiredFields body with
  | some response => (response, s)
  | none => route.handle newCorrelationId body correlationId s

/-- A request: its route, its body as `express.json` reads it, and its `x-correlation-id`. -/
structure HttpRequest where
  route : Route
  body : Except JsError JsValue
  correlationId : Option HeaderValue

/-- The gateway; the two ids are those that it and order-service may draw. -/
def app (gatewayId orderServiceId : Uuid) (req : HttpRequest) (s : System deps) :
    HttpResponse × System deps :=
  match req.body with
  | .error err => (errorHandler (.other err), s)
  | .ok body =>
    runWithCorrelationId gatewayId (req.correlationId.map Subtype.val) fun correlationId =>
      req.route.serve orderServiceId body correlationId s

end Routes

end Microservices.Gateway
