/-
  The saga that creates an order (order-service/src/sagas/create-order.saga.js).

  `execute` is a program whose requests are the calls it awaits: two lookups, the payment service,
  the orders table, Kafka and RabbitMQ.  Any of them may reject.  The compensations it has
  registered are its state and survive a throw; they live nowhere else.

  `saga_disciplined` walks the program once and says what it may ask next, given the answers it
  has had, and what it has undone by the time it throws.
-/
import Microservices.Order.Store
import Microservices.Payment.Service

namespace Microservices.Order

open Microservices.Payment (PaymentRequest PaymentResponse RefundResponse)

/-! ## What the saga sends and receives -/

/-- `UserResponse` of user.proto. -/
structure UserResponse where
  id : String
  name : String
  email : String
  deriving DecidableEq, Repr

/-- `ProductResponse` of product.proto. -/
structure ProductResponse where
  id : String
  name : String
  price : Float
  deriving DecidableEq

/-- What `execute` is called with. -/
structure CreateOrder where
  userId : String
  productId : String
  quantity : Int32
  deriving DecidableEq

/-- The events of the topic `order-events`. -/
inductive OrderEvent : Type where
  | orderCreated (id userId productId : String) (quantity : Int32) (totalPrice : Float)
      (userName productName : String) (createdAt : Nat)
  | orderFailed (id error : String)
  deriving DecidableEq

/-- `eventType` of an event. -/
def OrderEvent.eventType : OrderEvent → String
  | .orderCreated .. => "ORDER_CREATED"
  | .orderFailed .. => "ORDER_FAILED"

/-- `orderData.id`: the order an event is about. -/
def OrderEvent.id : OrderEvent → String
  | .orderCreated id .. => id
  | .orderFailed id _ => id

/-- The message for the queue `order_notifications`. -/
structure Notification where
  orderId : String
  userName : String
  userEmail : String
  productName : String
  quantity : Int32
  totalPrice : Float
  deriving DecidableEq

/-- What the saga awaits; `allSettled` starts both calls and waits for both, as `Promise.allSettled`
    does. -/
inductive SagaOp : Type where
  | getUser (id : String)
  | getProduct (id : String)
  | processPayment (req : PaymentRequest)
  | refundByOrderId (orderId : String)
  | create (order : NewOrder)
  | updateStatus (id : String) (status : OrderStatus)
  | publishOrderEvent (event : OrderEvent)
  | publishNotification (message : Notification)
  | allSettled (first second : SagaOp)

/-- The two publishes of step 5. -/
@[match_pattern]
abbrev SagaOp.publishBoth (event : OrderEvent) (message : Notification) : SagaOp :=
  .allSettled (.publishOrderEvent event) (.publishNotification message)

/-- What it is answered: every call may reject, except that `allSettled` reports both results. -/
abbrev SagaRes : SagaOp → Type
  | .getUser _ => Except JsError UserResponse
  | .getProduct _ => Except JsError ProductResponse
  | .processPayment _ => Except JsError PaymentResponse
  | .refundByOrderId _ => Except JsError RefundResponse
  | .create _ => Except JsError OrderRow
  | .updateStatus _ _ => Except JsError (Option OrderRow)
  | .publishOrderEvent _ => Except JsError Unit
  | .publishNotification _ => Except JsError Unit
  | .allSettled first second => SagaRes first × SagaRes second

/-- An entry of `compensations`, with the order its closure has captured. -/
inductive Compensation : Type where
  | refundPayment (orderId : String)
  | cancelOrder (orderId : String)
  deriving DecidableEq, Repr

/-- A function of the saga: it awaits, throws, and pushes compensations. -/
abbrev SagaM (α : Type) : Type :=
  ExceptT JsError (StateT (List Compensation) (Prog SagaOp SagaRes)) α

/-- Await a call that may reject. -/
def await {β : Type} (call : Prog SagaOp SagaRes (Except JsError β)) : SagaM β :=
  ExceptT.mk (StateT.lift call)

/-! ## The clients -/

/-- `getUser` of the user client. -/
def userClient.getUser (id : String) : SagaM UserResponse := await (Prog.ask (SagaOp.getUser id))

/-- `getProduct` of the product client. -/
def productClient.getProduct (id : String) : SagaM ProductResponse :=
  await (Prog.ask (SagaOp.getProduct id))

/-- `processPayment` of the payment client. -/
def paymentClient.processPayment (req : PaymentRequest) : SagaM PaymentResponse :=
  await (Prog.ask (SagaOp.processPayment req))

/-- `refundByOrderId` of the payment client. -/
def paymentClient.refundByOrderId (orderId : String) : SagaM RefundResponse :=
  await (Prog.ask (SagaOp.refundByOrderId orderId))

/-- `create` of the repository. -/
def orderRepository.create (order : NewOrder) : SagaM OrderRow :=
  await (Prog.ask (SagaOp.create order))

/-- `updateStatus` of the repository. -/
def orderRepository.updateStatus (id : String) (status : OrderStatus) : SagaM (Option OrderRow) :=
  await (Prog.ask (SagaOp.updateStatus id status))

/-- `publishOrderEvent` of the producer. -/
def kafkaProducer.publishOrderEvent (event : OrderEvent) : SagaM Unit :=
  await (Prog.ask (SagaOp.publishOrderEvent event))

/-- `Promise.allSettled`: the two results, and never a rejection of its own. -/
def allSettled (first second : SagaOp) : SagaM (SagaRes first × SagaRes second) :=
  await (Except.ok <$> Prog.ask (SagaOp.allSettled first second))

/-! ## The saga -/

/-- `compensations.push`. -/
def register (c : Compensation) : SagaM Unit := modify fun compensations => compensations ++ [c]

/-- The closure of a compensation. -/
def Compensation.run : Compensation → SagaM Unit
  | .refundPayment orderId => do
    let _ ← paymentClient.refundByOrderId orderId
  | .cancelOrder orderId => do
    let _ ← orderRepository.updateStatus orderId .cancelled

/-- Every compensation, the latest first; one that fails does not stop the others. -/
def runCompensations (compensations : List Compensation) : SagaM Unit :=
  compensations.reverse.forM fun c =>
    try c.run
    catch _ => pure ()

/-- `ORDER_FAILED`, best effort. -/
def safePublishFailed (orderId error : String) : SagaM Unit :=
  try kafkaProducer.publishOrderEvent (.orderFailed orderId error)
  catch _ => pure ()

/-- The data of `ORDER_CREATED`. -/
def mapOrderToEvent (order : OrderRow) : OrderEvent :=
  .orderCreated order.id order.userId order.productId order.quantity order.totalPrice.toNumber
    order.userName order.productName order.createdAt

/-- The notification about an order. -/
def notificationOf (order : OrderRow) : Notification where
  orderId := order.id
  userName := order.userName
  userEmail := if order.userEmail = "" then "customer@example.com" else order.userEmail
  productName := order.productName
  quantity := order.quantity
  totalPrice := order.totalPrice.toNumber

/-- Both publishes, independently; their failures are logged and nothing else. -/
def publishEventsBestEffort (order : OrderRow) : SagaM Unit := do
  let _ ← allSettled (.publishOrderEvent (mapOrderToEvent order))
    (.publishNotification (notificationOf order))

/-- What the saga charges. -/
def CreateOrder.amount (input : CreateOrder) (product : ProductResponse) : Float :=
  product.price * Float.ofInt input.quantity.toInt

/-- The request of step 3. -/
def CreateOrder.payment (input : CreateOrder) (orderId : String) (product : ProductResponse) :
    PaymentRequest where
  orderId := orderId
  userId := input.userId
  amount := input.amount product
  method := "CREDIT_CARD"

/-- The order of step 4. -/
def CreateOrder.order (input : CreateOrder) (orderId : String) (user : UserResponse)
    (product : ProductResponse) (payment : PaymentResponse) : NewOrder where
  id := orderId
  userId := input.userId
  productId := input.productId
  quantity := input.quantity
  totalPrice := input.amount product
  userName := if user.name = "" then "Customer" else user.name
  userEmail := user.email
  productName := product.name
  paymentId := payment.id
  status := .confirmed

/-- `SagaError` for a payment that did not succeed. -/
def paymentFailed (payment : PaymentResponse) : JsError :=
  { message := "Payment failed: " ++ payment.message }

/-- `execute`, with the id it has drawn. -/
def execute (orderId : String) (input : CreateOrder) : SagaM OrderRow := do
  let order ←
    try
      let user ← userClient.getUser input.userId
      let product ← productClient.getProduct input.productId
      -- each compensation is registered before the call it may have to undo
      register (.refundPayment orderId)
      let payment ← paymentClient.processPayment (input.payment orderId product)
      if payment.status ≠ .success then
        throw (paymentFailed payment)
      register (.cancelOrder orderId)
      orderRepository.create (input.order orderId user product payment)
    catch err =>
      runCompensations (← get)
      safePublishFailed orderId err.message
      throw err
  publishEventsBestEffort order
  pure order

/-- What is left of a saga, and its outcome with the compensations it had registered. -/
abbrev SagaProg : Type := Prog SagaOp SagaRes (Except JsError OrderRow × List Compensation)

/-- A call of `execute`. -/
def saga (orderId : String) (input : CreateOrder) : SagaProg := (execute orderId input).run.run []

/-! ## What a saga asks, given what it has been answered -/

/-- The requests a saga has made and been answered, the latest first. -/
abbrev SagaLog : Type := Prog.Log SagaOp SagaRes

/-- A request has been answered, one way or the other. -/
def Answered (op : SagaOp) (L : SagaLog) : Prop := ∃ r, (⟨op, r⟩ : Σ o, SagaRes o) ∈ L

/-- The saga has awaited an `INSERT`. -/
def Inserted (L : SagaLog) : Prop := ∃ order, Answered (.create order) L

/-- The saga has awaited a charge. -/
def Charged (L : SagaLog) : Prop := ∃ req, Answered (.processPayment req) L

/-- An order as step 4 makes it: of the product that was looked up and the payment that succeeded. -/
def Backed (o : String) (L : SagaLog) (order : NewOrder) : Prop :=
  ∃ (input : CreateOrder) (user : UserResponse) (product : ProductResponse)
    (payment : PaymentResponse), order = input.order o user product payment ∧
    (⟨.getProduct input.productId, .ok product⟩ : Σ op, SagaRes op) ∈ L ∧
    (⟨.processPayment (input.payment o product), .ok payment⟩ : Σ op, SagaRes op) ∈ L ∧
    payment.status = .success

/-- What the saga of `o` may ask after the answers `L`. -/
def Own (o : String) (L : SagaLog) : SagaOp → Prop
  | .getUser _ => True
  | .getProduct _ => True
  | .processPayment req => req.orderId = o ∧ ¬ Answered (.refundByOrderId o) L
  | .refundByOrderId x =>
    -- the order has been cancelled first, if there can be one
    x = o ∧ (Inserted L → Answered (.updateStatus o .cancelled) L)
  | .create order =>
    -- it has been paid, and nothing has been undone
    ¬ Answered (.refundByOrderId o) L ∧ ¬ Answered (.updateStatus o .cancelled) L ∧
      Backed o L order
  | .updateStatus id status => id = o ∧ status = .cancelled
  | .publishOrderEvent event => ∃ error, event = .orderFailed o error
  -- a notification goes out beside its event, never by itself
  | .publishNotification _ => False
  | .allSettled first second =>
    ∃ order row, (⟨.create order, .ok row⟩ : Σ op, SagaRes op) ∈ L ∧
      first = .publishOrderEvent (mapOrderToEvent row) ∧
      second = .publishNotification (notificationOf row)

/-- What the saga of `o` has undone when it throws: whatever it had registered; and what it had not
    registered it has not done. -/
structure Undone (o : String) (L : SagaLog) (compensations : List Compensation) : Prop where
  refund : Compensation.refundPayment o ∈ compensations → Answered (.refundByOrderId o) L
  cancel : Compensation.cancelOrder o ∈ compensations → Answered (.updateStatus o .cancelled) L
  charged : Charged L → Compensation.refundPayment o ∈ compensations
  inserted : Inserted L → Compensation.cancelOrder o ∈ compensations

/-- Where the saga of `o` may stand after the answers `L`. -/
def Disciplined (o : String) (L : SagaLog) : SagaProg → Prop
  | .await op _ => Own o L op
  | .ret (.error _, compensations) => Undone o L compensations
  | .ret (.ok _, _) => True

section Answered

variable {op : SagaOp} {L : SagaLog} {e : Σ o, SagaRes o}

/-- A saga that has just begun has been answered nothing. -/
@[simp] theorem answered_nil : ¬ Answered op [] := fun h => nomatch h

/-- The last answer is one of the answers. -/
@[simp] theorem answered_cons : Answered op (e :: L) ↔ op = e.1 ∨ Answered op L := by
  constructor
  · rintro ⟨r, hr⟩
    rcases List.mem_cons.mp hr with heq | hold
    · exact Or.inl (congrArg Sigma.fst heq)
    · exact Or.inr ⟨r, hold⟩
  · rintro (rfl | ⟨r, hr⟩)
    · exact ⟨e.2, List.mem_cons_self⟩
    · exact ⟨r, List.mem_cons_of_mem _ hr⟩

/-- It has charged nothing. -/
@[simp] theorem charged_nil : ¬ Charged [] := fun ⟨_, h⟩ => answered_nil h

/-- A charge counts from its answer on. -/
@[simp] theorem charged_cons :
    Charged (e :: L) ↔ (∃ req, SagaOp.processPayment req = e.1) ∨ Charged L := by
  unfold Charged
  simp only [answered_cons, exists_or]

/-- It has inserted nothing. -/
@[simp] theorem inserted_nil : ¬ Inserted [] := fun ⟨_, h⟩ => answered_nil h

/-- An INSERT counts from its answer on. -/
@[simp] theorem inserted_cons :
    Inserted (e :: L) ↔ (∃ order, SagaOp.create order = e.1) ∨ Inserted L := by
  unfold Inserted
  simp only [answered_cons, exists_or]

end Answered

/-! ## The saga walked once -/

/-- The `catch` with `compensations` registered, and the rest of `execute`. -/
def failing (o : String) (err : JsError) (compensations : List Compensation) : SagaProg :=
  StateT.run (ExceptT.run (do
    let order ← (do
      runCompensations (← get)
      safePublishFailed o err.message
      throw err : SagaM OrderRow)
    publishEventsBestEffort order
    pure order)) compensations

/-- The `catch` once its compensations have run. -/
def throwing (o : String) (err : JsError) (compensations : List Compensation) : SagaProg :=
  StateT.run (ExceptT.run (do
    let order ← (do
      safePublishFailed o err.message
      throw err : SagaM OrderRow)
    publishEventsBestEffort order
    pure order)) compensations

/-- Step 5. -/
def publishing (order : OrderRow) (compensations : List Compensation) : SagaProg :=
  StateT.run (ExceptT.run (do
    publishEventsBestEffort order
    pure order)) compensations

/-- The answers of a saga whose lookups have both succeeded. -/
def looked (input : CreateOrder) (user : UserResponse) (product : ProductResponse) : SagaLog :=
  [⟨.getProduct input.productId, .ok product⟩, ⟨.getUser input.userId, .ok user⟩]

/-- And whose charge has been answered. -/
def charged (o : String) (input : CreateOrder) (user : UserResponse) (product : ProductResponse)
    (r : Except JsError PaymentResponse) : SagaLog :=
  ⟨.processPayment (input.payment o product), r⟩ :: looked input user product

/-- The answers with which a saga comes to its `catch`, and what it has registered by then. -/
inductive Failed (o : String) (input : CreateOrder) : List Compensation → SagaLog → Prop where
  | user (err : JsError) : Failed o input [] [⟨.getUser input.userId, .error err⟩]
  | product (user : UserResponse) (err : JsError) : Failed o input []
      [⟨.getProduct input.productId, .error err⟩, ⟨.getUser input.userId, .ok user⟩]
  | charge (user : UserResponse) (product : ProductResponse) (r : Except JsError PaymentResponse) :
      Failed o input [.refundPayment o] (charged o input user product r)
  | insert (user : UserResponse) (product : ProductResponse) (payment : PaymentResponse)
      (err : JsError) : Failed o input [.refundPayment o, .cancelOrder o]
        (⟨.create (input.order o user product payment), .error err⟩ ::
          charged o input user product (.ok payment))

/-- What is to be shown of a saga, request by request. -/
structure AllowsSaga (Φ : SagaLog → SagaProg → Prop) (o : String) (input : CreateOrder) : Prop where
  getUser : ∀ k, Φ [] (.await (.getUser input.userId) k)
  getProduct : ∀ user k,
    Φ [⟨.getUser input.userId, .ok user⟩] (.await (.getProduct input.productId) k)
  charge : ∀ user product k,
    Φ (looked input user product) (.await (.processPayment (input.payment o product)) k)
  insert : ∀ user product payment k, payment.status = .success →
    Φ (charged o input user product (.ok payment))
      (.await (.create (input.order o user product payment)) k)
  fails : ∀ {compensations L} err, Failed o input compensations L →
    Prog.Along Φ L (failing o err compensations)
  publishes : ∀ user product payment row, payment.status = .success →
    Prog.Along Φ (⟨.create (input.order o user product payment), .ok row⟩ ::
      charged o input user product (.ok payment)) (publishing row [.refundPayment o, .cancelOrder o])

/-- **The saga walked once.** -/
theorem AllowsSaga.along {Φ : SagaLog → SagaProg → Prop} {o : String} {input : CreateOrder}
    (h : AllowsSaga Φ o input) : Prog.Along Φ [] (saga o input) := by
  refine ⟨h.getUser _, fun r => ?_⟩
  cases r with
  | error e => exact h.fails e (.user e)
  | ok user =>
    refine ⟨h.getProduct user _, fun r => ?_⟩
    cases r with
    | error e => exact h.fails e (.product user e)
    | ok product =>
      refine ⟨h.charge user product _, fun r => ?_⟩
      cases r with
      | error e => exact h.fails e (.charge user product (.error e))
      | ok payment =>
        obtain ⟨id, status, transactionId, message⟩ := payment
        -- the reply ends well, and says whether the charge did
        cases status with
        | success =>
          refine ⟨h.insert user product _ _ rfl, fun r => ?_⟩
          cases r with
          | error e => exact h.fails e (.insert user product _ e)
          | ok row => exact h.publishes user product _ row rfl
        | failed => exact h.fails (paymentFailed _) (.charge user product (.ok _))
        | refunded => exact h.fails (paymentFailed _) (.charge user product (.ok _))

section Walk

variable {o : String} {input : CreateOrder} {L : SagaLog} {err : JsError}
variable {compensations : List Compensation}

/-- An order that is backed is the saga's own. -/
theorem Backed.id {order : NewOrder} (h : Backed o L order) : order.id = o := by
  obtain ⟨input, user, product, payment, rfl, -⟩ := h
  rfl

/-- Publishing takes nothing back. -/
theorem undone_published {event : OrderEvent} {r : Except JsError Unit}
    (h : Undone o L compensations) :
    Undone o (⟨.publishOrderEvent event, r⟩ :: L) compensations where
  refund hc := answered_cons.mpr (Or.inr (h.refund hc))
  cancel hc := answered_cons.mpr (Or.inr (h.cancel hc))
  charged hc := h.charged (by simpa using hc)
  inserted hc := h.inserted (by simpa using hc)

/-- The event, and the throw. -/
theorem throwing_eq : throwing o err compensations =
    .await (.publishOrderEvent (.orderFailed o err.message)) fun _ =>
      .ret (.error err, compensations) := by
  refine congrArg (Prog.await (SagaOp.publishOrderEvent (.orderFailed o err.message))) ?_
  funext r
  cases r with
  | ok u => rfl
  | error e => rfl

/-- The refund, whatever it is answered. -/
theorem failing_refund_eq : failing o err [.refundPayment o] =
    .await (.refundByOrderId o) fun _ => throwing o err [.refundPayment o] := by
  refine congrArg (Prog.await (SagaOp.refundByOrderId o)) ?_
  funext r
  cases r with
  | ok res => rfl
  | error e => rfl

/-- The cancellation and the refund, whatever they are answered. -/
theorem failing_both_eq : failing o err [.refundPayment o, .cancelOrder o] =
    .await (.updateStatus o .cancelled) fun _ =>
      .await (.refundByOrderId o) fun _ => throwing o err [.refundPayment o, .cancelOrder o] := by
  refine congrArg (Prog.await (SagaOp.updateStatus o .cancelled)) ?_
  funext r₁
  -- a compensation that fails is logged, and the next one runs
  have hrest : ∀ p : SagaRes (.refundByOrderId o) → SagaProg,
      (∀ r₂, p r₂ = throwing o err [.refundPayment o, .cancelOrder o]) →
      Prog.await (.refundByOrderId o) p = Prog.await (.refundByOrderId o) fun _ =>
        throwing o err [.refundPayment o, .cancelOrder o] :=
    fun p hp => congrArg (Prog.await (SagaOp.refundByOrderId o)) (funext hp)
  cases r₁ with
  | ok row =>
    refine hrest _ fun r₂ => ?_
    cases r₂ with
    | ok res => rfl
    | error e => rfl
  | error e =>
    refine hrest _ fun r₂ => ?_
    cases r₂ with
    | ok res => rfl
    | error e => rfl

/-- A saga that has undone everything may throw. -/
theorem throwing_disciplined (h : Undone o L compensations) :
    Prog.Along (Disciplined o) L (throwing o err compensations) := by
  rw [throwing_eq]
  exact ⟨⟨_, rfl⟩, fun r => undone_published h⟩

/-- A saga whose INSERT has returned may publish and return. -/
theorem publishing_disciplined {order : NewOrder} {row : OrderRow}
    (h : (⟨.create order, .ok row⟩ : Σ op, SagaRes op) ∈ L) :
    Prog.Along (Disciplined o) L (publishing row compensations) :=
  ⟨⟨order, row, h, rfl, rfl⟩, fun _ => trivial⟩

/-- Nothing has been registered: nothing is undone. -/
theorem failing_nil_disciplined (hc : ¬ Charged L) (hi : ¬ Inserted L) :
    Prog.Along (Disciplined o) L (failing o err []) := by
  show Prog.Along (Disciplined o) L (throwing o err [])
  exact throwing_disciplined
    ⟨(nomatch ·), (nomatch ·), fun h => absurd h hc, fun h => absurd h hi⟩

/-- The charge may have happened: refund. -/
theorem failing_refund_disciplined (hi : ¬ Inserted L) :
    Prog.Along (Disciplined o) L (failing o err [.refundPayment o]) := by
  rw [failing_refund_eq]
  refine ⟨⟨rfl, fun h => absurd h hi⟩, fun r => throwing_disciplined ?_⟩
  constructor
  · intro _
    simp
  · intro hcancel
    simp at hcancel
  · intro _
    simp
  · -- nothing was inserted, so there is no order to cancel
    intro hinserted
    simp [hi] at hinserted

/-- The order may be stored as well: cancel it first, then refund. -/
theorem failing_both_disciplined :
    Prog.Along (Disciplined o) L (failing o err [.refundPayment o, .cancelOrder o]) := by
  rw [failing_both_eq]
  refine ⟨⟨rfl, rfl⟩, fun r₁ => ⟨⟨rfl, ?_⟩, fun r₂ => throwing_disciplined ?_⟩⟩
  · -- the cancellation has just been answered
    intro _
    simp
  · constructor
    all_goals
      intro _
      simp

/-- **What a saga asks**: at every point of every run, for its own order, in the order that makes
    its compensations safe; and when it throws it has undone all it had registered. -/
theorem saga_disciplined (o : String) (input : CreateOrder) :
    Prog.Along (Disciplined o) [] (saga o input) := by
  refine AllowsSaga.along ⟨?getUser, ?getProduct, ?charge, ?insert, ?fails, ?publishes⟩
  case getUser => exact fun k => trivial
  case getProduct => exact fun user k => trivial
  case charge => exact fun user product k => ⟨rfl, by simp [looked]⟩
  case insert =>
    intro user product payment k hs
    -- the INSERT is backed by the payment just told
    refine ⟨by simp [charged, looked], by simp [charged, looked], input, user, product, payment, rfl,
      ?_, List.mem_cons_self, hs⟩
    exact List.mem_cons_of_mem _ List.mem_cons_self
  case fails =>
    intro compensations L err hfailed
    cases hfailed with
    | user e => exact failing_nil_disciplined (by simp) (by simp)
    | product user e => exact failing_nil_disciplined (by simp) (by simp)
    | charge user product r => exact failing_refund_disciplined (by simp [charged, looked])
    | insert user product payment e => exact failing_both_disciplined
  case publishes => exact fun user product payment row _ => publishing_disciplined List.mem_cons_self

end Walk

end Microservices.Order
