/-
  The quantity of an order on its way from the body of POST /api/orders to the table
  (api-gateway/src/routes/order.routes.js, proto/order.proto,
  order-service/src/handlers/order.handler.js).

  The gateway checks that there is a quantity and takes its `Number`; protobufjs writes an int32, so
  the number is cut off and taken modulo `2 ^ 32`; order-service checks that what has arrived is
  positive.  None of them compares what arrives with what was asked for.

  `saga_sized` walks the saga once more: what it inserts has the quantity of its request.  The rest
  is the arithmetic of `toInt32`.
-/
import Microservices.Gateway.Deadline
import Microservices.Lib.ToInt32

namespace Microservices.Gateway

open Microservices.Order
open Prog (Clocked onSchedule)

/-! ## The route -/

/-- A `CreateOrderRequest` as protobufjs encodes it. -/
def CreateOrderRequest.encode (c : Conversions) (userId productId : JsValue) (quantity : Float) :
    Except JsError CreateOrder :=
  match userId.toText c, productId.toText c with
  | .ok userId, .ok productId => .ok ⟨userId, productId, toInt32 quantity⟩
  | .error err, _ => .error err
  | _, .error err => .error err

/-- A request that cannot be encoded. -/
def notSerialized (err : JsError) : Failure :=
  ⟨.internal, "Request message serialization failure: " ++ err.message⟩

/-- The route POST / of the orders, up to its call: a response at once, or a request to order-service
    in the circumstances `p`. -/
def postOrder (c : Conversions) (client : GrpcClient) (body : JsValue) (p : PostOrder) :
    Except HttpResponse PostOrder :=
  match validateBody ["userId", "productId", "quantity"] body with
  | some response => .error response
  | none =>
    match (body.field "quantity").toNumber c with
    | .error err => .error (errorHandler (.other err))
    | .ok quantity =>
      match CreateOrderRequest.encode c (body.field "userId") (body.field "productId") quantity with
      | .error err => .error (errorHandler (.grpc (client.error (notSerialized err))))
      | .ok input => .ok { p with input := input }

/-- The gateway's answer. -/
def answerOf (client : GrpcClient) (timeouts : GatewayTimeouts) :
    Except HttpResponse PostOrder → HttpResponse
  | .error response => response
  | .ok p => p.answer client timeouts

/-- The orders that are left behind. -/
def ordersOf : Except HttpResponse PostOrder → Orders
  | .error _ => []
  | .ok p => p.ordersLeft

/-! ## What was asked for -/

/-- The double is a quantity that an order can have. -/
def Orderable (x : Float) : Prop := ∃ n : ℤ, value x = some (n : ℚ) ∧ 1 ≤ n ∧ n < 2 ^ 31

/-- The request has left an order, every order it has left has the quantity `x`, and its total is
    the price that was looked up times that quantity. -/
structure OrderedAs (p : PostOrder) (x : Float) : Prop where
  stored : p.ordersLeft ≠ []
  quantity : ∀ row ∈ p.ordersLeft, value x = some (row.quantity.toInt : ℚ)
  total : ∀ e ∈ p.timeline.trace, ∀ order, e.op = .create order →
    value x = some (order.quantity.toInt : ℚ) ∧
      ∃ product, (p.schedule (.getProduct p.input.productId)).2 = .ok product ∧
        order.totalPrice = product.price * Float.ofInt order.quantity.toInt

/-- **The quantity ordered is the quantity asked for**, whatever the circumstances: what is answered
    201 is ordered as it was asked for, and what cannot be ordered so creates nothing and is rejected
    (unless the call is so long under way that its deadline expires). -/
structure QuantityKept (c : Conversions) (body : JsValue) : Prop where
  kept : ∀ client timeouts p,
    (answerOf client timeouts (postOrder c client body p)).status = 201 →
      ∃ x sent, (body.field "quantity").toNumber c = .ok x ∧
        postOrder c client body p = .ok sent ∧ OrderedAs sent x
  rejected : (∀ x, (body.field "quantity").toNumber c = .ok x → ¬ Orderable x) →
    ∀ client timeouts p, ordersOf (postOrder c client body p) = [] ∧
      (p.arrival + p.back ≤ timeouts.createOrder →
        400 ≤ (answerOf client timeouts (postOrder c client body p)).status ∧
          (answerOf client timeouts (postOrder c client body p)).status < 500)

/-! ## What a saga inserts -/

/-- Where the saga of `input` may stand: what it inserts it has made of `input` and of the product it
    was told, and a row that it returns it has inserted. -/
def Sized (o : String) (input : CreateOrder) (L : SagaLog) : SagaProg → Prop
  | .await (.create order) _ => ∃ user product payment,
      (⟨.getProduct input.productId, .ok product⟩ : Σ op, SagaRes op) ∈ L ∧
        order = input.order o user product payment
  | .ret (.ok row, _) => ∃ order, (⟨.create order, .ok row⟩ : Σ op, SagaRes op) ∈ L
  | _ => True

section Walk

variable {o : String} {input : CreateOrder} {L : SagaLog} {err : JsError}

/-- A saga that throws asks for no order at all. -/
theorem throwing_sized {compensations : List Compensation} :
    Prog.Along (Sized o input) L (throwing o err compensations) := by
  rw [throwing_eq]
  exact ⟨trivial, fun r => trivial⟩

/-- **What a saga inserts** is of the quantity it was called with. -/
theorem saga_sized (o : String) (input : CreateOrder) :
    Prog.Along (Sized o input) [] (saga o input) := by
  refine AllowsSaga.along ⟨?getUser, ?getProduct, ?charge, ?insert, ?fails, ?publishes⟩
  case getUser => exact fun k => trivial
  case getProduct => exact fun user k => trivial
  case charge => exact fun user product k => trivial
  -- the quantity reaches the INSERT as it was asked for
  case insert =>
    intro user product payment k _
    exact ⟨user, product, payment, List.mem_cons_of_mem _ List.mem_cons_self, rfl⟩
  case fails =>
    intro compensations L err hfailed
    cases hfailed with
    | user e =>
      show Prog.Along _ _ (throwing o err [])
      exact throwing_sized
    | product user e =>
      show Prog.Along _ _ (throwing o err [])
      exact throwing_sized
    | charge user product r =>
      rw [failing_refund_eq]
      exact ⟨trivial, fun r => throwing_sized⟩
    | insert user product payment e =>
      rw [failing_both_eq]
      exact ⟨trivial, fun r₁ => ⟨trivial, fun r₂ => throwing_sized⟩⟩
  case publishes =>
    intro user product payment row _
    exact ⟨trivial, fun r => ⟨_, List.mem_cons_of_mem _ List.mem_cons_self⟩⟩

end Walk

namespace PostOrder

variable {p : PostOrder} {q : Int32}

/-- The clock has started with no answers. -/
theorem follows_nil : (⟨0, []⟩ : Clocked SagaOp SagaRes).Follows p.schedule :=
  fun _ h => absurd h List.not_mem_nil

/-- What a request inserts. -/
theorem inserted {e : Prog.Timed SagaOp SagaRes} (he : e ∈ p.timeline.trace) {order : NewOrder}
    (hop : e.op = .create order) : ∃ user product payment,
      (p.schedule (.getProduct p.input.productId)).2 = .ok product ∧
        order = p.input.order p.orderId user product payment := by
  by_cases haccepted : p.input.Accepted
  · have htimeline : p.timeline = p.execution.2 := if_pos haccepted
    rw [htimeline] at he
    have hwalk : Prog.Along (Sized p.orderId p.input) (⟨0, []⟩ : Clocked SagaOp SagaRes).log
      (saga p.orderId p.input) := saga_sized _ _
    rcases hwalk.requested e he with hnil | ⟨L, k, hasked, hL⟩
    · exact absurd hnil List.not_mem_nil
    · obtain ⟨op, res, sent, answered⟩ := e
      cases hop
      -- the INSERT was asked after a look-up that the schedule answers
      obtain ⟨user, product, payment, hlooked, heq⟩ := hasked
      exact ⟨user, product, payment, Prog.follows_run follows_nil _ (hL _ hlooked), heq⟩
  · have htimeline : p.timeline = ⟨0, []⟩ := if_neg haccepted
    rw [htimeline] at he
    exact absurd he List.not_mem_nil

/-- What the database executes keeps the quantity of the rows. -/
theorem executed_quantity {op : SagaOp} (hop : ∀ order, op = .create order → order.quantity = q)
    (r : SagaRes op) {d : Orders} (hd : ∀ row ∈ d, row.quantity = q) :
    ∀ row ∈ p.executed op r d, row.quantity = q := by
  rcases p.executed_cases op r d with hsame | ⟨order, totalPrice, now, hcreate, hinsert⟩ |
    ⟨id, status, hupdate⟩
  · rw [hsame]
    exact hd
  · rw [hinsert]
    intro row hrow
    rcases List.mem_append.mp hrow with hold | hnew
    · exact hd row hold
    · rw [List.mem_singleton.mp hnew]
      exact hop order hcreate
  · rw [hupdate]
    intro row hrow
    -- an UPDATE leaves the quantity of a row alone
    rcases mem_updateStatus hrow with ⟨old, hold, -, rfl⟩ | ⟨-, hold⟩
    · exact hd old hold
    · exact hd row hold

/-- An INSERT that is executed late stores the quantity too. -/
theorem executedLate_quantity {op : SagaOp} (hop : ∀ order, op = .create order → order.quantity = q)
    (r : SagaRes op) : ∀ row ∈ p.executedLate op r, row.quantity = q := by
  rcases p.executedLate_cases op r with hnone | ⟨order, totalPrice, now, hcreate, hinsert⟩
  · rw [hnone]
    exact fun row hrow => absurd hrow List.not_mem_nil
  · rw [hinsert]
    intro row hrow
    rw [List.mem_singleton.mp hrow]
    exact hop order hcreate

/-- Every order that a request leaves behind has the quantity of the request. -/
theorem ordersLeft_quantity : ∀ row ∈ p.ordersLeft, row.quantity = p.input.quantity := by
  have hop : ∀ e ∈ p.timeline.trace, ∀ order, e.op = .create order →
      order.quantity = p.input.quantity := by
    intro e he order hcreate
    obtain ⟨user, product, payment, -, rfl⟩ := inserted he hcreate
    rfl
  -- by induction on what the database has executed
  have hrun : ∀ (trace : List (Prog.Timed SagaOp SagaRes)) (d : Orders),
      (∀ e ∈ trace, ∀ order, e.op = .create order → order.quantity = p.input.quantity) →
      (∀ row ∈ d, row.quantity = p.input.quantity) →
      ∀ row ∈ trace.foldl (fun d e => p.executed e.op e.res d) d,
        row.quantity = p.input.quantity := by
    intro trace
    induction trace with
    | nil => exact fun d _ hd => hd
    | cons e rest ih =>
      intro d hop hd
      refine ih _ (fun e' he' => hop e' (List.mem_cons_of_mem _ he')) ?_
      exact executed_quantity (hop e List.mem_cons_self) e.res hd
  intro row hrow
  rcases List.mem_append.mp hrow with hin | hlate
  · exact hrun _ [] hop (fun row hrow => absurd hrow List.not_mem_nil) row hin
  · obtain ⟨e, he, hrow⟩ := List.mem_flatMap.mp hlate
    exact executedLate_quantity (hop e he) e.res row hrow

/-- No statement of a saga removes a row, and an `INSERT` that has returned has stored one. -/
theorem executed_ne_nil {op : SagaOp} {r : SagaRes op} {d : Orders}
    (h : d ≠ [] ∨ ∃ order row, (⟨op, r⟩ : Σ op, SagaRes op) = ⟨.create order, .ok row⟩) :
    p.executed op r d ≠ [] := by
  rcases h with hd | ⟨order, row, heq⟩
  · rcases p.executed_cases op r d with hsame | ⟨order, totalPrice, now, -, hinsert⟩ |
      ⟨id, status, hupdate⟩
    · rw [hsame]
      exact hd
    · rw [hinsert]
      exact List.append_ne_nil_of_left_ne_nil hd _
    · rw [hupdate]
      exact fun hnil => hd (List.map_eq_nil_iff.mp hnil)
  · cases heq
    exact List.append_ne_nil_of_right_ne_nil d (List.cons_ne_nil _ _)

/-- A request that is answered with an order has left one. -/
theorem stored_of_reply {order : OrderResponse} (h : p.reply = .ok order) : p.ordersLeft ≠ [] := by
  have haccepted : p.input.Accepted := by
    by_contra hnot
    unfold reply at h
    rw [if_neg hnot] at h
    cases h
  have htimeline : p.timeline = p.execution.2 := if_pos haccepted
  -- a saga that returns a row has had it returned by its INSERT
  have hwalk : Prog.Along (Sized p.orderId p.input) (⟨0, []⟩ : Clocked SagaOp SagaRes).log
    (saga p.orderId p.input) := saga_sized _ _
  have hfinished : Sized p.orderId p.input p.execution.2.log (.ret p.execution.1) :=
    hwalk.finished
  unfold reply at h
  rw [if_pos haccepted] at h
  cases hout : p.execution.1.1 with
  | error err =>
    rw [hout] at h
    cases h
  | ok row =>
    have hreturned : p.execution.1 = (.ok row, p.execution.1.2) := Prod.ext hout rfl
    rw [hreturned] at hfinished
    obtain ⟨neworder, hmem⟩ := hfinished
    obtain ⟨e, he, heq⟩ := List.mem_map.mp hmem
    have hrun : ∀ (trace : List (Prog.Timed SagaOp SagaRes)) (d : Orders),
        (d ≠ [] ∨ ∃ e ∈ trace, ∃ order row,
          (⟨e.op, e.res⟩ : Σ op, SagaRes op) = ⟨.create order, .ok row⟩) →
        trace.foldl (fun d e => p.executed e.op e.res d) d ≠ [] := by
      intro trace
      induction trace with
      | nil =>
        rintro d (hd | ⟨e, he, -⟩)
        · exact hd
        · exact absurd he List.not_mem_nil
      | cons e rest ih =>
        rintro d (hd | ⟨e', he', hcreate⟩)
        · exact ih _ (Or.inl (executed_ne_nil (Or.inl hd)))
        · rcases List.mem_cons.mp he' with rfl | hrest
          · exact ih _ (Or.inl (executed_ne_nil (Or.inr hcreate)))
          · exact ih _ (Or.inr ⟨e', hrest, hcreate⟩)
    have hstored := hrun p.timeline.trace []
      (Or.inr ⟨e, by rw [htimeline]; exact List.mem_reverse.mp he, neworder, row, heq⟩)
    unfold ordersLeft
    simp [hstored]

/-- A request that order-service does not accept leaves nothing, and in time is answered 400. -/
theorem refused (haccepted : ¬ p.input.Accepted) (client : GrpcClient) (timeouts : GatewayTimeouts) :
    p.ordersLeft = [] ∧ (p.arrival + p.back ≤ timeouts.createOrder →
      (p.answer client timeouts).status = 400) := by
  have htimeline : p.timeline = ⟨0, []⟩ := if_neg haccepted
  have hreply : p.reply = .error notAccepted := if_neg haccepted
  -- the saga is not entered, and the answer is back at once
  constructor
  · unfold ordersLeft
    rw [htimeline]
    rfl
  · intro htime
    have harrives : p.arrives ≤ timeouts.createOrder := by
      unfold arrives
      rw [htimeline]
      exact htime
    unfold answer GrpcClient.call
    rw [if_pos harrives, hreply]
    rfl

/-- Only a stored order is answered 201. -/
theorem reply_of_created {client : GrpcClient} {timeouts : GatewayTimeouts}
    (h : (p.answer client timeouts).status = 201) : ∃ order, p.reply = .ok order := by
  have hfailure : ∀ code, grpcToHttpStatus code ≠ 201 := by
    intro code
    cases code <;> decide
  unfold answer GrpcClient.call at h
  split at h
  · cases hreply : p.reply with
    | ok order => exact ⟨order, rfl⟩
    | error failure =>
      rw [hreply] at h
      exact absurd h (hfailure failure.code)
  · exact absurd h (hfailure client.late.code)

end PostOrder

/-! ## Exactly when the quantity is kept -/

section Quantity

variable {c : Conversions} {client : GrpcClient} {timeouts : GatewayTimeouts} {body : JsValue}
variable {p : PostOrder} {x : Float} {userId productId : String}

/-- A quantity that can be ordered survives the conversion to 32 bits. -/
theorem toInt32_of_orderable (h : Orderable x) :
    value x = some ((toInt32 x).toInt : ℚ) ∧ 1 ≤ (toInt32 x).toInt := by
  obtain ⟨n, hvalue, hlo, hhi⟩ := h
  have hint : (toInt32 x).toInt = n := toInt32_of_value hvalue (by omega) hhi
  rw [hint]
  exact ⟨hvalue, hlo⟩

/-- order-service accepts what arrives if it is positive. -/
theorem accepted_iff {quantity : Int32} : (⟨userId, productId, quantity⟩ : CreateOrder).Accepted ↔
    userId ≠ "" ∧ productId ≠ "" ∧ ¬ quantity ≤ 0 := by
  constructor
  · rintro ⟨huser, hproduct, -, hpositive⟩
    exact ⟨huser, hproduct, hpositive⟩
  · rintro ⟨huser, hproduct, hpositive⟩
    refine ⟨huser, hproduct, ?_, hpositive⟩
    rintro rfl
    exact hpositive (Int32.le_refl 0)

/-- What is sent are the texts of the two ids and the quantity as an `int32`. -/
theorem encode_ok {input : CreateOrder}
    (h : CreateOrderRequest.encode c (body.field "userId") (body.field "productId") x = .ok input) :
    ∃ userId productId, (body.field "userId").toText c = .ok userId ∧
      (body.field "productId").toText c = .ok productId ∧
      input = ⟨userId, productId, toInt32 x⟩ := by
  unfold CreateOrderRequest.encode at h
  split at h
  · rename_i userId productId huser hproduct
    cases h
    exact ⟨userId, productId, huser, hproduct, rfl⟩
  · cases h
  · cases h

/-- A body that lacks a field is answered 400. -/
theorem validateBody_status {fields : List String} {response : HttpResponse}
    (h : validateBody fields body = some response) : response.status = 400 := by
  unfold validateBody at h
  simp only at h
  split at h
  · cases h
    rfl
  · cases h

/-- A request that is not valid goes no further. -/
theorem postOrder_of_missing {response : HttpResponse}
    (h : validateBody ["userId", "productId", "quantity"] body = some response) :
    postOrder c client body p = .error response := by
  unfold postOrder
  rw [h]

/-- One that is goes to order-service with its quantity as an `int32`. -/
theorem postOrder_of_texts (hvalid : validateBody ["userId", "productId", "quantity"] body = none)
    (hx : (body.field "quantity").toNumber c = .ok x)
    (huser : (body.field "userId").toText c = .ok userId)
    (hproduct : (body.field "productId").toText c = .ok productId) :
    postOrder c client body p = .ok { p with input := ⟨userId, productId, toInt32 x⟩ } := by
  unfold postOrder CreateOrderRequest.encode
  rw [hvalid]
  simp only [hx, huser, hproduct]

/-- What is sent to order-service is made of the body. -/
theorem postOrder_sent {sent : PostOrder} (h : postOrder c client body p = .ok sent) :
    ∃ x userId productId, (body.field "quantity").toNumber c = .ok x ∧
      (body.field "userId").toText c = .ok userId ∧
      (body.field "productId").toText c = .ok productId ∧
      sent = { p with input := ⟨userId, productId, toInt32 x⟩ } := by
  unfold postOrder at h
  -- the body is complete, its quantity a number, its ids texts
  split at h
  · cases h
  · split at h
    · cases h
    · rename_i x hx
      split at h
      · cases h
      · rename_i input hencode
        obtain ⟨userId, productId, huser, hproduct, rfl⟩ := encode_ok hencode
        cases h
        exact ⟨x, userId, productId, hx, huser, hproduct, rfl⟩

/-- What is answered at once: 400 for a missing field, and else 500. -/
theorem postOrder_answered {response : HttpResponse}
    (h : postOrder c client body p = .error response) :
    response.status = 400 ∧ validateBody ["userId", "productId", "quantity"] body ≠ none ∨
      response.status = 500 := by
  unfold postOrder at h
  -- 400 for a field that is missing, 500 for a conversion that throws
  split at h
  · rename_i r hr
    cases h
    exact Or.inl ⟨validateBody_status hr, by rw [hr]; exact Option.some_ne_none _⟩
  · split at h
    · cases h
      exact Or.inr rfl
    · split at h
      · cases h
        exact Or.inr rfl
      · cases h

/-- A request in the best of circumstances. -/
def smooth : PostOrder where
  orderId := "o1"
  input := ⟨"", "", 0⟩
  schedule := paymentTaking 0
  arrival := 0
  back := 0
  insert := .dropped
  updated := false

/-- What order-service accepts then leaves an order. -/
theorem smooth_stored {input : CreateOrder} (h : input.Accepted) :
    ({ smooth with input := input } : PostOrder).ordersLeft ≠ [] := by
  have hreply : ∃ order, ({ smooth with input := input } : PostOrder).reply = .ok order := by
    unfold PostOrder.reply
    rw [if_pos h]
    exact ⟨_, rfl⟩
  obtain ⟨order, hreply⟩ := hreply
  exact PostOrder.stored_of_reply hreply

/-- An order of a quantity that arrives unchanged is kept as it was asked for. -/
theorem orderedAs {order : OrderResponse} (hx : Orderable x)
    (hsent : p.input = ⟨userId, productId, toInt32 x⟩) (hreply : p.reply = .ok order) :
    OrderedAs p x := by
  have hvalue := (toInt32_of_orderable hx).1
  have hquantity : p.input.quantity = toInt32 x := by rw [hsent]
  refine ⟨PostOrder.stored_of_reply hreply, fun row hrow => ?_, fun e he order hop => ?_⟩
  · rw [PostOrder.ordersLeft_quantity row hrow, hquantity]
    exact hvalue
  · obtain ⟨user, product, payment, hproduct, rfl⟩ := PostOrder.inserted he hop
    refine ⟨?_, product, hproduct, rfl⟩
    show value x = some (p.input.quantity.toInt : ℚ)
    rw [hquantity]
    exact hvalue

/-- What order-service cannot refuse and no order can have is not kept. -/
theorem orderable_of_kept (h : QuantityKept c body)
    (hvalid : validateBody ["userId", "productId", "quantity"] body = none)
    (hrefused : ∀ x userId productId, (body.field "quantity").toNumber c = .ok x →
      (body.field "userId").toText c = .ok userId →
      (body.field "productId").toText c = .ok productId →
      ¬ (userId = "" ∨ productId = "" ∨ toInt32 x ≤ 0)) :
    ∃ x, (body.field "quantity").toNumber c = .ok x ∧ Orderable x := by
  by_contra hnot
  have himpossible : ∀ x, (body.field "quantity").toNumber c = .ok x → ¬ Orderable x :=
    fun x hx ho => hnot ⟨x, hx, ho⟩
  -- taken where nothing fails, a quantity that cannot be ordered has been stored
  obtain ⟨hnone, hstatus⟩ := h.rejected himpossible grpcJs gatewayTimeouts smooth
  have hclient := (hstatus (by decide)).2
  cases hpost : postOrder c grpcJs body smooth with
  | error response =>
    rw [hpost] at hclient
    rcases postOrder_answered hpost with ⟨-, hmissing⟩ | h500
    · exact hmissing hvalid
    · have hlt : response.status < 500 := hclient
      omega
  | ok sent =>
    obtain ⟨x, userId, productId, hx, huser, hproduct, rfl⟩ := postOrder_sent hpost
    have hnot := hrefused x userId productId hx huser hproduct
    simp only [not_or] at hnot
    rw [hpost] at hnone
    exact smooth_stored (accepted_iff.mpr hnot) hnone

/-- A body of which nothing reaches a saga is kept. -/
theorem kept_of_missing (hmissing : validateBody ["userId", "productId", "quantity"] body ≠ none) :
    QuantityKept c body := by
  obtain ⟨response, hresponse⟩ := Option.ne_none_iff_exists'.mp hmissing
  have hstatus := validateBody_status hresponse
  constructor
  · intro client timeouts p hcreated
    rw [postOrder_of_missing hresponse] at hcreated
    exact absurd (hcreated.symm.trans hstatus) (by decide)
  · intro _ client timeouts p
    rw [postOrder_of_missing hresponse]
    refine ⟨rfl, fun _ => ?_⟩
    show 400 ≤ response.status ∧ response.status < 500
    rw [hstatus]
    decide

/-- So is one whose number an order can have. -/
theorem kept_of_orderable (hx : (body.field "quantity").toNumber c = .ok x) (ho : Orderable x) :
    QuantityKept c body := by
  refine ⟨fun client timeouts p hcreated => ?_, fun himpossible => absurd ho (himpossible x hx)⟩
  cases hpost : postOrder c client body p with
  | error response =>
    rw [hpost] at hcreated
    have h201 : response.status = 201 := hcreated
    rcases postOrder_answered hpost with ⟨h400, -⟩ | h500 <;> omega
  | ok sent =>
    obtain ⟨x', userId, productId, hx', -, -, rfl⟩ := postOrder_sent hpost
    cases hx.symm.trans hx'
    rw [hpost] at hcreated
    obtain ⟨order, hreply⟩ := PostOrder.reply_of_created hcreated
    exact ⟨x, _, hx, rfl, orderedAs ho rfl hreply⟩

/-- And one that order-service refuses. -/
theorem kept_of_refused (hx : (body.field "quantity").toNumber c = .ok x)
    (huser : (body.field "userId").toText c = .ok userId)
    (hproduct : (body.field "productId").toText c = .ok productId)
    (hrefused : userId = "" ∨ productId = "" ∨ toInt32 x ≤ 0) : QuantityKept c body := by
  cases hvalid : validateBody ["userId", "productId", "quantity"] body with
  | some response => exact kept_of_missing (by rw [hvalid]; exact Option.some_ne_none _)
  | none =>
    have hpost : ∀ client p, postOrder c client body p =
        .ok { p with input := ⟨userId, productId, toInt32 x⟩ } :=
      fun client p => postOrder_of_texts hvalid hx huser hproduct
    -- order-service refuses what the gateway lets pass
    have haccepted : ¬ (⟨userId, productId, toInt32 x⟩ : CreateOrder).Accepted := by
      rw [accepted_iff]
      tauto
    constructor
    · intro client timeouts p hcreated
      rw [hpost] at hcreated
      obtain ⟨order, hreply⟩ := PostOrder.reply_of_created hcreated
      unfold PostOrder.reply at hreply
      rw [if_neg haccepted] at hreply
      cases hreply
    · intro _ client timeouts p
      rw [hpost]
      obtain ⟨hnone, hstatus⟩ := @PostOrder.refused
        { p with input := ⟨userId, productId, toInt32 x⟩ } haccepted client timeouts
      refine ⟨hnone, fun htime => ?_⟩
      have h400 := hstatus htime
      exact ⟨h400.ge, lt_of_eq_of_lt h400 (by decide)⟩

/-- **Exactly when the quantity is kept**: a field is missing; or the number is one that an order can
    have; or what arrives is refused. -/
theorem quantityKept_iff (c : Conversions) (body : JsValue) :
    QuantityKept c body ↔ validateBody ["userId", "productId", "quantity"] body ≠ none ∨
      (∃ x, (body.field "quantity").toNumber c = .ok x ∧ Orderable x) ∨
      ∃ x userId productId, (body.field "quantity").toNumber c = .ok x ∧
        (body.field "userId").toText c = .ok userId ∧
        (body.field "productId").toText c = .ok productId ∧
        (userId = "" ∨ productId = "" ∨ toInt32 x ≤ 0) := by
  constructor
  · -- a field is there, the quantity is no order's, and order-service does not refuse it
    intro h
    by_contra hnot
    simp only [not_or, not_not] at hnot
    obtain ⟨hvalid, horderable, hrefused⟩ := hnot
    refine horderable (orderable_of_kept h hvalid ?_)
    intro x userId productId hx huser hproduct hcase
    exact hrefused ⟨x, userId, productId, hx, huser, hproduct, hcase⟩
  · rintro (hmissing | ⟨x, hx, ho⟩ | ⟨x, userId, productId, hx, huser, hproduct, hrefused⟩)
    · exact kept_of_missing hmissing
    · exact kept_of_orderable hx ho
    · exact kept_of_refused hx huser hproduct hrefused

end Quantity

/-! ## Two and a half pens -/

/-- Conversions for a body that needs none. -/
def unconverted : Conversions where
  number _ := 0.0 / 0.0
  string _ := ""

/-- The body `{"userId":"u1","productId":"p1","quantity":x}`. -/
def orderBody (x : Float) : JsValue :=
  .obj [("userId", .str "u1"), ("productId", .str "p1"), ("quantity", .num x)]

/-- Two pens are ordered, and as many for `2 ^ 32 + 2`. -/
theorem two_pens : ¬ QuantityKept unconverted (orderBody 2.5) ∧
    ¬ QuantityKept unconverted (orderBody 4294967298.0) := by
  -- int32 cuts 2.5 to 2, and 2 ^ 32 + 2 to 2
  have harrives : toInt32 2.5 = 2 ∧ toInt32 4294967298.0 = 2 := by decide +kernel
  have hstored : ∀ x, toInt32 x = 2 →
      ordersOf (postOrder unconverted grpcJs (orderBody x) smooth) ≠ [] := by
    intro x hx
    have hpost : postOrder unconverted grpcJs (orderBody x) smooth =
        .ok { smooth with input := ⟨"u1", "p1", toInt32 x⟩ } := rfl
    rw [hpost, hx]
    exact smooth_stored (by decide)
  -- neither body's number is a quantity an order can have
  have himpossible : ∀ x v, value x = some v → (∀ n : ℤ, v = n → 2 ^ 31 ≤ n) →
      ∀ y, ((orderBody x).field "quantity").toNumber unconverted = .ok y → ¬ Orderable y := by
    rintro x v hv hwhole y hy ⟨n, hn, -, hlt⟩
    cases hy
    have heq : v = n := Option.some.inj (hv.symm.trans hn)
    exact absurd (hwhole n heq) (by omega)
  constructor
  · intro h
    refine hstored 2.5 harrives.1 (h.rejected (himpossible 2.5 (5 / 2) (by decide +kernel) ?_)
      grpcJs gatewayTimeouts smooth).1
    intro n hn
    exfalso
    have htwice : (5 : ℚ) = 2 * n := by rw [← hn]; norm_num
    have : (5 : ℤ) = 2 * n := by exact_mod_cast htwice
    omega
  · intro h
    refine hstored 4294967298.0 harrives.2 (h.rejected
      (himpossible 4294967298.0 4294967298 (by decide +kernel) ?_) grpcJs gatewayTimeouts smooth).1
    intro n hn
    have : (4294967298 : ℤ) = n := by exact_mod_cast hn
    omega

end Microservices.Gateway
