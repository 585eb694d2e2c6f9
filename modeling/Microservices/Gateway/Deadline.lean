/-
  The deadline of `CreateOrder` (grpcTimeouts in api-gateway/src/config/index.js, createCaller in
  api-gateway/src/clients/deadline.js, the route POST /api/orders).

  When the deadline expires the gateway answers 504, and the saga runs on to its end all the same.
  The budget of 45 seconds covers the calls that have deadlines of their own; statements and
  publishes have none, so the saga of a request that is answered 504 may still store its order.

  A request is a saga with a schedule, the two ways of the call, and what the database does with a
  statement whose client was given an error.  `noOrder_iff_fits` is the arithmetic that decides.
-/
import Microservices.Gateway.Http
import Microservices.Order.Shutdown

namespace Microservices.Gateway

open Microservices.Order
open Microservices.Payment (PaymentResponse)
open Prog (Schedule Timed Clocked onSchedule run_onSchedule)

/-! ## The client -/

/-- `grpcTimeouts` of the gateway, in milliseconds. -/
structure GatewayTimeouts where
  default : Nat
  createOrder : Nat

/-- The configured deadlines where the environment sets none. -/
def gatewayTimeouts : GatewayTimeouts := ⟨5000, 45000⟩

/-- A call of `createCaller`: the response, if it arrives in time. -/
def GrpcClient.call {α : Type} (client : GrpcClient) (timeoutMs arrives : Nat)
    (response : Except Failure α) : Except Thrown α :=
  if arrives ≤ timeoutMs then
    match response with
    | .ok a => .ok a
    | .error failure => .error (.grpc (client.error failure))
  else .error (.grpc client.late)

/-! ## A request -/

/-- What the database does with an `INSERT` whose client was given an error: nothing; or it executes
    it before it executes the cancelling `UPDATE`; or after it.  An executed `INSERT` stores an
    amount and a time. -/
inductive LostInsert : Type where
  | dropped
  | inTime (totalPrice : Numeric) (now : Nat)
  | late (totalPrice : Numeric) (now : Nat)

/-- A request that has reached `CreateOrder`: the id its saga draws, how long each of its calls takes
    and what it is answered, how long the call is under way to the handler and back, and what
    becomes of an `INSERT` and an `UPDATE` whose client was given an error. -/
structure PostOrder where
  orderId : String
  input : CreateOrder
  schedule : Schedule SagaOp SagaRes
  arrival : Nat
  back : Nat
  insert : LostInsert
  updated : Bool

namespace PostOrder

variable (p : PostOrder)

/-- The saga on its own clock, and its outcome. -/
def execution : (Except JsError OrderRow × List Compensation) × Clocked SagaOp SagaRes :=
  (saga p.orderId p.input).run (onSchedule p.schedule) ⟨0, []⟩

/-- What the handler calls back with. -/
def reply : Except Failure OrderResponse :=
  if p.input.Accepted then createOrderReply p.execution.1.1 else .error notAccepted

/-- The calls the saga has made, if it has started. -/
def timeline : Clocked SagaOp SagaRes := if p.input.Accepted then p.execution.2 else ⟨0, []⟩

/-- When the response would be there, in milliseconds after the gateway's call. -/
def arrives : Nat := p.arrival + p.timeline.now + p.back

/-- The gateway's answer. -/
def answer (client : GrpcClient) (timeouts : GatewayTimeouts) : HttpResponse :=
  respond 201 Body.order (client.call timeouts.createOrder p.arrives p.reply)

/-- What the database executes for a call of the saga while the saga runs. -/
def executed : (op : SagaOp) → SagaRes op → Orders → Orders
  | .create order, .ok row, d => d ++ [order.row row.totalPrice row.createdAt]
  | .create order, .error _, d =>
    match p.insert with
    | .inTime totalPrice now => d ++ [order.row totalPrice now]
    | _ => d
  | .updateStatus id status, .ok _, d => (d.updateStatus id status).2
  | .updateStatus id status, .error _, d =>
    if p.updated then (d.updateStatus id status).2 else d
  | _, _, d => d

/-- What it executes once the saga has ended. -/
def executedLate : (op : SagaOp) → SagaRes op → Orders
  | .create order, .error _ =>
    match p.insert with
    | .late totalPrice now => [order.row totalPrice now]
    | _ => []
  | _, _ => []

/-- The orders that the request leaves behind. -/
def ordersLeft : Orders :=
  p.timeline.trace.foldl (fun d e => p.executed e.op e.res d) [] ++
    p.timeline.trace.flatMap fun e => p.executedLate e.op e.res

/-- It leaves a CONFIRMED order. -/
def LeavesOrder : Prop := ∃ row ∈ p.ordersLeft, row.id = p.orderId ∧ row.status = .confirmed

/-- **An HTTP failure means no order**: if the gateway answers 504, there is none. -/
def NoOrder (client : GrpcClient) (timeouts : GatewayTimeouts) : Prop :=
  (p.answer client timeouts).status = 504 → ¬ p.LeavesOrder

/-! ## The sums -/

/-- How long the call is under way and the saga runs up to the answer of its charge. -/
def charged (product : ProductResponse) : Nat :=
  p.arrival + (p.schedule (.getUser p.input.userId)).1 +
    (p.schedule (.getProduct p.input.productId)).1 +
      (p.schedule (.processPayment (p.input.payment p.orderId product))).1

/-- How long it takes to undo a rejected `INSERT` and to say so. -/
def undoing (err : JsError) : Nat :=
  (p.schedule (.updateStatus p.orderId .cancelled)).1 +
    (p.schedule (.refundByOrderId p.orderId)).1 +
      (p.schedule (.publishOrderEvent (.orderFailed p.orderId err.message))).1

/-- The `INSERT` whose client was given an error leaves no CONFIRMED order: it is never executed, or
    it is cancelled. -/
def Undone : Prop :=
  match p.insert with
  | .dropped => True
  | .inTime _ _ => (∃ row, (p.schedule (.updateStatus p.orderId .cancelled)).2 = .ok row) ∨
    p.updated = true
  | .late _ _ => False

/-- The request fits into the budget: it comes to no `INSERT`; or its order is stored and published
    in time; or its `INSERT` is rejected, and then leaves no order or the failure is reported in
    time. -/
def Fits (timeouts : GatewayTimeouts) : Prop :=
  p.input.Accepted → ∀ user product payment,
    (p.schedule (.getUser p.input.userId)).2 = .ok user →
    (p.schedule (.getProduct p.input.productId)).2 = .ok product →
    (p.schedule (.processPayment (p.input.payment p.orderId product))).2 = .ok payment →
    payment.status = .success →
    let insert := p.schedule (.create (p.input.order p.orderId user product payment))
    match insert.2 with
    | .ok row => p.charged product + insert.1 +
        (p.schedule (.publishBoth (mapOrderToEvent row) (notificationOf row))).1 + p.back ≤
          timeouts.createOrder
    | .error err => p.Undone ∨
        p.charged product + insert.1 + p.undoing err + p.back ≤ timeouts.createOrder

/-! ## The arithmetic -/

section Run

variable {p} {client : GrpcClient} {timeouts : GatewayTimeouts}

/-- The handler never calls back with DEADLINE_EXCEEDED. -/
theorem reply_code {failure : Failure} (h : p.reply = .error failure) :
    grpcToHttpStatus failure.code ≠ 504 := by
  unfold reply at h
  by_cases haccepted : p.input.Accepted
  · rw [if_pos haccepted] at h
    cases hout : p.execution.1.1 with
    | ok order =>
      rw [hout] at h
      cases h
    | error err =>
      rw [hout] at h
      cases h
      -- order-service reports every error of the saga as INTERNAL
      exact (by decide : 500 ≠ 504)
  · rw [if_neg haccepted] at h
    cases h
    decide

/-- The gateway answers 504 exactly if its deadline has expired. -/
theorem status_answer : (p.answer client timeouts).status = 504 ↔ timeouts.createOrder < p.arrives := by
  unfold answer GrpcClient.call
  by_cases harrives : p.arrives ≤ timeouts.createOrder
  · rw [if_pos harrives]
    refine iff_of_false ?_ (Nat.not_lt.mpr harrives)
    cases hreply : p.reply with
    | ok order => exact (by decide : 201 ≠ 504)
    | error failure => exact reply_code hreply
  · rw [if_neg harrives]
    refine iff_of_true ?_ (Nat.not_le.mp harrives)
    -- a deadline of the client's own is the one source of 504
    show grpcToHttpStatus client.late.code = 504
    rw [client.late_code]
    rfl

/-- Only a reply that comes too late can leave an order behind an error. -/
theorem noOrder_iff : p.NoOrder client timeouts ↔
    (timeouts.createOrder < p.arrives → ¬ p.LeavesOrder) := by
  unfold NoOrder
  rw [status_answer]

/-- The clock of the saga when its charge is answered. -/
def clock (p : PostOrder) (product : ProductResponse) : Clocked SagaOp SagaRes :=
  (((⟨0, []⟩ : Clocked SagaOp SagaRes).after p.schedule (.getUser p.input.userId)).after p.schedule
    (.getProduct p.input.productId)).after p.schedule
      (.processPayment (p.input.payment p.orderId product))

variable {user : UserResponse} {product : ProductResponse} {payment : PaymentResponse}

/-- What the database executes for a call: nothing, an `INSERT` of its order, or an `UPDATE`. -/
theorem executed_cases (op : SagaOp) (r : SagaRes op) (d : Orders) : p.executed op r d = d ∨
    (∃ order totalPrice now, op = .create order ∧
      p.executed op r d = d ++ [order.row totalPrice now]) ∨
    ∃ id status, p.executed op r d = (d.updateStatus id status).2 := by
  cases op with
  -- an INSERT that was rejected may have been executed all the same
  | create order =>
    cases r with
    | ok row => exact Or.inr (Or.inl ⟨order, row.totalPrice, row.createdAt, rfl, rfl⟩)
    | error err =>
      have hexecuted : p.executed (.create order) (.error err) d = match p.insert with
        | .inTime totalPrice now => d ++ [order.row totalPrice now]
        | _ => d := rfl
      rw [hexecuted]
      cases p.insert with
      | dropped => exact Or.inl rfl
      | inTime totalPrice now => exact Or.inr (Or.inl ⟨order, totalPrice, now, rfl, rfl⟩)
      | late totalPrice now => exact Or.inl rfl
  | updateStatus id status =>
    cases r with
    | ok row => exact Or.inr (Or.inr ⟨id, status, rfl⟩)
    | error err =>
      have hexecuted : p.executed (.updateStatus id status) (.error err) d =
        if p.updated then (d.updateStatus id status).2 else d := rfl
      rw [hexecuted]
      split
      · exact Or.inr (Or.inr ⟨id, status, rfl⟩)
      · exact Or.inl rfl
  | getUser id => exact Or.inl rfl
  | getProduct id => exact Or.inl rfl
  | processPayment req => exact Or.inl rfl
  | refundByOrderId id => exact Or.inl rfl
  | publishOrderEvent event => exact Or.inl rfl
  | publishNotification message => exact Or.inl rfl
  | allSettled first second => exact Or.inl rfl

/-- And afterwards: nothing, or an `INSERT` of its order. -/
theorem executedLate_cases (op : SagaOp) (r : SagaRes op) : p.executedLate op r = [] ∨
    ∃ order totalPrice now, op = .create order ∧
      p.executedLate op r = [order.row totalPrice now] := by
  cases op with
  | create order =>
    cases r with
    | ok row => exact Or.inl rfl
    | error err =>
      -- only an INSERT that was rejected can be executed later
      have hexecuted : p.executedLate (.create order) (.error err) = match p.insert with
        | .late totalPrice now => [order.row totalPrice now]
        | _ => [] := rfl
      rw [hexecuted]
      cases p.insert with
      | dropped => exact Or.inl rfl
      | inTime totalPrice now => exact Or.inl rfl
      | late totalPrice now => exact Or.inr ⟨order, totalPrice, now, rfl, rfl⟩
  | getUser id => exact Or.inl rfl
  | getProduct id => exact Or.inl rfl
  | processPayment req => exact Or.inl rfl
  | refundByOrderId id => exact Or.inl rfl
  | updateStatus id status => exact Or.inl rfl
  | publishOrderEvent event => exact Or.inl rfl
  | publishNotification message => exact Or.inl rfl
  | allSettled first second => exact Or.inl rfl

/-- A request that is not accepted leaves no order. -/
theorem not_leaves_of_refused (haccepted : ¬ p.input.Accepted) : ¬ p.LeavesOrder := by
  unfold LeavesOrder ordersLeft timeline
  rw [if_neg haccepted]
  rintro ⟨row, hrow, -⟩
  exact List.not_mem_nil hrow

/-- Nor does a saga with a failed lookup. -/
theorem not_leaves_of_lookup {e : String} {w : Clocked SagaOp SagaRes} (haccepted : p.input.Accepted)
    (h : p.execution.2 = w.after p.schedule (.publishOrderEvent (.orderFailed p.orderId e)))
    (hw : w = (⟨0, []⟩ : Clocked SagaOp SagaRes).after p.schedule (.getUser p.input.userId) ∨
      w = ((⟨0, []⟩ : Clocked SagaOp SagaRes).after p.schedule (.getUser p.input.userId)).after
        p.schedule (.getProduct p.input.productId)) : ¬ p.LeavesOrder := by
  unfold LeavesOrder ordersLeft timeline
  rw [if_pos haccepted, h]
  rintro ⟨row, hrow, -⟩
  rcases hw with rfl | rfl
  · exact absurd hrow List.not_mem_nil
  · exact absurd hrow List.not_mem_nil

/-- Nor does one whose charge has not succeeded. -/
theorem not_leaves_of_charge {err : JsError} (haccepted : p.input.Accepted)
    (h : p.execution.2 = ((p.clock product).after p.schedule (.refundByOrderId p.orderId)).after
      p.schedule (.publishOrderEvent (.orderFailed p.orderId err.message))) :
    ¬ p.LeavesOrder := by
  unfold LeavesOrder ordersLeft timeline
  rw [if_pos haccepted, h]
  rintro ⟨row, hrow, -⟩
  exact absurd hrow List.not_mem_nil

/-- A saga whose `INSERT` has returned leaves its order. -/
theorem leaves_of_stored {order : NewOrder} {row : OrderRow} {event : OrderEvent}
    {notification : Notification} (haccepted : p.input.Accepted) (hid : order.id = p.orderId)
    (hconfirmed : order.status = .confirmed) (hrow : (p.schedule (.create order)).2 = .ok row)
    (h : p.execution.2 = ((p.clock product).after p.schedule (.create order)).after p.schedule
      (.publishBoth event notification)) : p.LeavesOrder := by
  have hleft : p.ordersLeft = p.executed (.create order) (p.schedule (.create order)).2 [] ++
      (p.executedLate (.create order) (p.schedule (.create order)).2 ++ []) := by
    unfold ordersLeft timeline
    rw [if_pos haccepted, h]
    rfl
  unfold LeavesOrder
  rw [hleft, hrow]
  exact ⟨_, List.mem_cons_self, hid, hconfirmed⟩

/-- One whose `INSERT` was rejected leaves its order unless that has been undone. -/
theorem leaves_of_rejected {order : NewOrder} {err : JsError} {event : OrderEvent}
    (haccepted : p.input.Accepted) (hid : order.id = p.orderId)
    (hconfirmed : order.status = .confirmed) (herr : (p.schedule (.create order)).2 = .error err)
    (h : p.execution.2 = ((((p.clock product).after p.schedule (.create order)).after p.schedule
      (.updateStatus p.orderId .cancelled)).after p.schedule (.refundByOrderId p.orderId)).after
        p.schedule (.publishOrderEvent event)) : p.LeavesOrder ↔ ¬ p.Undone := by
  have hleft : p.ordersLeft = p.executed (.updateStatus p.orderId .cancelled)
      (p.schedule (.updateStatus p.orderId .cancelled)).2
        (p.executed (.create order) (p.schedule (.create order)).2 []) ++
      (p.executedLate (.create order) (p.schedule (.create order)).2 ++ []) := by
    unfold ordersLeft timeline
    rw [if_pos haccepted, h]
    rfl
  have hempty : ∀ r, p.executed (.updateStatus p.orderId .cancelled) r [] = [] := by
    intro r
    cases r with
    | ok row => rfl
    | error e =>
      show (if p.updated then [] else []) = []
      split <;> rfl
  have hcancel : ∀ row : OrderRow, row.id = p.orderId →
      (Orders.updateStatus p.orderId .cancelled [row]).2 = [{ row with status := .cancelled }] := by
    intro row hrow
    show [if row.id = p.orderId then { row with status := .cancelled } else row] = _
    rw [if_pos hrow]
  -- what was inserted in time and then cancelled is not live
  have hnot : ∀ row : OrderRow, ¬ ∃ r ∈ [{ row with status := OrderStatus.cancelled }] ++ ([] ++ []),
      r.id = p.orderId ∧ r.status = .confirmed := by
    rintro row ⟨r, hr, -, hs⟩
    rw [List.mem_singleton.mp hr] at hs
    cases hs
  have hexecuted : p.executed (.create order) (.error err) [] = match p.insert with
      | .inTime totalPrice now => [order.row totalPrice now]
      | _ => [] := rfl
  have hlate : p.executedLate (.create order) (.error err) = match p.insert with
      | .late totalPrice now => [order.row totalPrice now]
      | _ => [] := rfl
  unfold LeavesOrder Undone
  rw [hleft, herr, hexecuted, hlate]
  cases p.insert with
  | dropped =>
    simp only [hempty]
    exact iff_of_false (fun ⟨_, hr, _⟩ => List.not_mem_nil hr) (fun h => h trivial)
  | late totalPrice now =>
    simp only [hempty]
    exact iff_of_true ⟨order.row totalPrice now, List.mem_cons_self, hid, hconfirmed⟩ id
  | inTime totalPrice now =>
    simp only
    cases (p.schedule (.updateStatus p.orderId .cancelled)).2 with
    | ok row =>
      refine iff_of_false ?_ (fun h => h (Or.inl ⟨row, rfl⟩))
      show ¬ ∃ row ∈ (Orders.updateStatus p.orderId .cancelled [order.row totalPrice now]).2 ++ _, _
      rw [hcancel _ hid]
      exact hnot _
    | error e =>
      show (∃ row ∈ (if p.updated then (Orders.updateStatus p.orderId .cancelled
        [order.row totalPrice now]).2 else [order.row totalPrice now]) ++ _, _) ↔ _
      cases p.updated with
      | true =>
        rw [if_pos rfl, hcancel _ hid]
        exact iff_of_false (hnot _) (fun h => h (Or.inr rfl))
      | false =>
        refine iff_of_true ⟨order.row totalPrice now, List.mem_cons_self, hid, hconfirmed⟩ ?_
        rintro (⟨row, hrow⟩ | hfalse)
        · cases hrow
        · cases hfalse

/-- A request whose charge succeeds fits if what comes after it does. -/
theorem fits_iff (haccepted : p.input.Accepted)
    (hu : (p.schedule (.getUser p.input.userId)).2 = .ok user)
    (hp : (p.schedule (.getProduct p.input.productId)).2 = .ok product)
    (hc : (p.schedule (.processPayment (p.input.payment p.orderId product))).2 = .ok payment)
    (hs : payment.status = .success) :
    p.Fits timeouts ↔
      match (p.schedule (.create (p.input.order p.orderId user product payment))).2 with
      | .ok row => p.charged product +
          (p.schedule (.create (p.input.order p.orderId user product payment))).1 +
          (p.schedule (.publishBoth (mapOrderToEvent row) (notificationOf row))).1 + p.back ≤
            timeouts.createOrder
      | .error err => p.Undone ∨ p.charged product +
          (p.schedule (.create (p.input.order p.orderId user product payment))).1 +
          p.undoing err + p.back ≤ timeouts.createOrder := by
  constructor
  · intro h
    exact h haccepted user product payment hu hp hc hs
  · -- the lookups have one answer each, so the condition speaks of these
    intro h _ user' product' payment' hu' hp' hc' _
    cases hu.symm.trans hu'
    cases hp.symm.trans hp'
    cases hc.symm.trans hc'
    exact h

/-- A request whose charge does not succeed comes to no `INSERT`. -/
theorem fits_of_uncharged (hp : (p.schedule (.getProduct p.input.productId)).2 = .ok product)
    (h : ∀ payment, (p.schedule (.processPayment (p.input.payment p.orderId product))).2 =
      .ok payment → payment.status ≠ .success) : p.Fits timeouts := by
  intro _ user product' payment _ hp' hpay hs
  cases hp.symm.trans hp'
  exact absurd hs (h payment hpay)

/-- An order that is stored must be answered in time. -/
theorem noOrder_of_stored {order : NewOrder} {row : OrderRow} (haccepted : p.input.Accepted)
    (hid : order.id = p.orderId) (hconfirmed : order.status = .confirmed)
    (hrow : (p.schedule (.create order)).2 = .ok row)
    (h : p.execution.2 = ((p.clock product).after p.schedule (.create order)).after p.schedule
      (.publishBoth (mapOrderToEvent row) (notificationOf row))) :
    p.NoOrder client timeouts ↔ p.charged product + (p.schedule (.create order)).1 +
      (p.schedule (.publishBoth (mapOrderToEvent row) (notificationOf row))).1 + p.back ≤
        timeouts.createOrder := by
  have hleaves : p.LeavesOrder := leaves_of_stored haccepted hid hconfirmed hrow h
  have htimeline : p.timeline = p.execution.2 := if_pos haccepted
  -- the reply waits for the INSERT and for both publishes
  have harrives : p.arrives = p.charged product + (p.schedule (.create order)).1 +
      (p.schedule (.publishBoth (mapOrderToEvent row) (notificationOf row))).1 + p.back := by
    unfold arrives charged
    rw [htimeline, h]
    show _ + (0 + _ + _ + _ + _ + _) + _ = _
    omega
  rw [noOrder_iff, harrives]
  constructor
  · intro hnone
    exact Nat.not_lt.mp fun hlt => hnone hlt hleaves
  · intro hle hlt
    exact absurd hlt (Nat.not_lt.mpr hle)

/-- One that is rejected must be undone, or answered in time. -/
theorem noOrder_of_rejected {order : NewOrder} {err : JsError} (haccepted : p.input.Accepted)
    (hid : order.id = p.orderId) (hconfirmed : order.status = .confirmed)
    (herr : (p.schedule (.create order)).2 = .error err)
    (h : p.execution.2 = ((((p.clock product).after p.schedule (.create order)).after p.schedule
      (.updateStatus p.orderId .cancelled)).after p.schedule (.refundByOrderId p.orderId)).after
        p.schedule (.publishOrderEvent (.orderFailed p.orderId err.message))) :
    p.NoOrder client timeouts ↔ p.Undone ∨ p.charged product + (p.schedule (.create order)).1 +
      p.undoing err + p.back ≤ timeouts.createOrder := by
  -- the order stands unless the UPDATE has caught the INSERT
  have hleaves : p.LeavesOrder ↔ ¬ p.Undone := leaves_of_rejected haccepted hid hconfirmed herr h
  have htimeline : p.timeline = p.execution.2 := if_pos haccepted
  have harrives : p.arrives = p.charged product + (p.schedule (.create order)).1 +
      p.undoing err + p.back := by
    unfold arrives charged undoing
    rw [htimeline, h]
    show _ + (0 + _ + _ + _ + _ + _ + _ + _) + _ = _
    omega
  rw [noOrder_iff, ← harrives, hleaves, not_not]
  constructor
  · intro hundone
    rcases Nat.lt_or_ge timeouts.createOrder p.arrives with hlt | hle
    · exact Or.inl (hundone hlt)
    · exact Or.inr hle
  · rintro (hundone | hle) hlt
    · exact hundone
    · exact absurd hlt (Nat.not_lt.mpr hle)

/-- **Exactly when a failure means no order**: the request fits into the gateway's budget. -/
theorem noOrder_iff_fits (client : GrpcClient) (timeouts : GatewayTimeouts) (p : PostOrder) :
    p.NoOrder client timeouts ↔ p.Fits timeouts := by
  by_cases haccepted : p.input.Accepted
  · by_cases hlookups : ∃ user product, (p.schedule (.getUser p.input.userId)).2 = .ok user ∧
        (p.schedule (.getProduct p.input.productId)).2 = .ok product
    · obtain ⟨user, product, hu, hp⟩ := hlookups
      obtain ⟨k, hrun, herror, hfailed, hsuccess⟩ :=
        @run_lookups p.schedule p.orderId p.input ⟨0, []⟩ user product hu hp
      have hexecution : p.execution.2 = _ := congrArg Prod.snd hrun
      -- the saga's branches in turn: no charge, no order; a charge, then the INSERT
      cases hc : (p.schedule (.processPayment (p.input.payment p.orderId product))).2 with
      | error e =>
        rw [run_onSchedule _ hc, herror, run_failing_refund] at hexecution
        refine iff_of_true (fun _ => not_leaves_of_charge haccepted hexecution)
          (fits_of_uncharged hp fun payment hpay => ?_)
        cases hc.symm.trans hpay
      | ok payment =>
        by_cases hs : payment.status = .success
        · obtain ⟨k', hk', herror', hok'⟩ := hsuccess payment hs
          rw [run_onSchedule _ hc, hk'] at hexecution
          rw [fits_iff haccepted hu hp hc hs]
          cases hi : (p.schedule (.create (p.input.order p.orderId user product payment))).2 with
          | ok row =>
            rw [run_onSchedule _ hi, hok'] at hexecution
            exact noOrder_of_stored haccepted rfl rfl hi hexecution
          | error err =>
            rw [run_onSchedule _ hi, herror', run_failing_both] at hexecution
            exact noOrder_of_rejected haccepted rfl rfl hi hexecution
        · rw [run_onSchedule _ hc, hfailed payment hs, run_failing_refund] at hexecution
          refine iff_of_true (fun _ => not_leaves_of_charge haccepted hexecution)
            (fits_of_uncharged hp fun payment' hpay => ?_)
          cases hc.symm.trans hpay
          exact hs
    · obtain ⟨e, w, hrun, hw⟩ := @run_lookup_failed p.schedule p.orderId p.input ⟨0, []⟩
        (fun user product hu hp => hlookups ⟨user, product, hu, hp⟩)
      refine iff_of_true (fun _ => not_leaves_of_lookup haccepted hrun hw) ?_
      exact fun _ user product _ hu hp => absurd ⟨user, product, hu, hp⟩ hlookups
  · exact iff_of_true (fun _ => not_leaves_of_refused haccepted) fun h => absurd h haccepted

end Run

end PostOrder

/-! ## A publish that takes 45 seconds -/

/-- Every call succeeds, well within its deadline; the brokers take `ms` milliseconds. -/
def publishTaking (ms : Nat) : Schedule SagaOp SagaRes
  | .publishOrderEvent _ => (ms, .ok ())
  | .publishNotification _ => (ms, .ok ())
  | .allSettled first second =>
    (max (publishTaking ms first).1 (publishTaking ms second).1,
      ((publishTaking ms first).2, (publishTaking ms second).2))
  | op => paymentTaking 2000 op

/-- The order of a pen, with brokers that take 45 seconds. -/
def slowPublish : PostOrder where
  orderId := "o1"
  input := ⟨"u1", "p1", 1⟩
  schedule := publishTaking 45000
  arrival := 1
  back := 1
  insert := .dropped
  updated := false

/-- The gateway answers 504 and the order stands. -/
theorem order_behind_a_failure :
    WithinDeadlines grpcTimeouts slowPublish.schedule ∧
      ¬ slowPublish.NoOrder grpcJs gatewayTimeouts := by
  constructor
  · have hlookup : 1000 ≤ 5000 := by decide
    have hcharge : 2000 ≤ 15000 := by decide
    have hrefund : 1000 ≤ 15000 := by decide
    exact ⟨fun _ => hlookup, fun _ => hlookup, fun _ => hcharge, fun _ => hrefund⟩
  · intro h
    -- but the publish has none, and the answer comes after it
    have hlate : gatewayTimeouts.createOrder < slowPublish.arrives := by
      show 45000 < 1 + (0 + 1000 + 1000 + 2000 + 10 + 45000) + 1
      decide
    exact PostOrder.noOrder_iff.mp h hlate ⟨_, List.mem_cons_self, rfl, rfl⟩

end Microservices.Gateway
