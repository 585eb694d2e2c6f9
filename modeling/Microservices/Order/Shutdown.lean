/-
  Shutting order-service down (setupGracefulShutdown in order-service/src/server.js,
  grpcTimeouts in order-service/src/config/index.js).

  On SIGTERM the server waits for the calls in progress and then disconnects; a timer ends the
  process after ten seconds whatever is still going on.  The compensations of a saga live in its
  memory only, so what matters is how much of a saga fits before the exit.

  A saga in progress is a saga with a schedule, and its age when the signal arrives: how long each
  of its calls takes and what it is answered.  `noneAbandoned_iff` is the arithmetic that decides;
  with the configured deadlines it can fail by far (`abandoned_in_the_middle_of_a_charge`).
-/
import Microservices.Order.Saga

namespace Microservices.Order

open Prog (Schedule Clocked onSchedule exists_after run_onSchedule)

/-! ## The process -/

/-- The time the process gives itself, in milliseconds. -/
def forcedExit : Nat := 10000

/-- `grpcTimeouts`. -/
structure GrpcTimeouts where
  default : Nat
  payment : Nat

/-- The configured deadlines where the environment sets none. -/
def grpcTimeouts : GrpcTimeouts := ⟨5000, 15000⟩

/-- No call takes longer than its deadline; statements and publishes have none. -/
structure WithinDeadlines (timeouts : GrpcTimeouts) (σ : Schedule SagaOp SagaRes) : Prop where
  getUser : ∀ id, (σ (.getUser id)).1 ≤ timeouts.default
  getProduct : ∀ id, (σ (.getProduct id)).1 ≤ timeouts.default
  processPayment : ∀ req, (σ (.processPayment req)).1 ≤ timeouts.payment
  refundByOrderId : ∀ o, (σ (.refundByOrderId o)).1 ≤ timeouts.payment

/-- A saga in progress when the signal arrives: its schedule, how long ago it started, and how long
    after the signal its own client goes away, if it does. -/
structure InProgress where
  orderId : String
  input : CreateOrder
  schedule : Schedule SagaOp SagaRes
  age : Nat
  gone : Option Nat

/-- The whole saga on its own clock. -/
def InProgress.timeline (g : InProgress) : Clocked SagaOp SagaRes :=
  Prog.timeline g.schedule (saga g.orderId g.input)

/-- When its `CreateOrder` call is over, in milliseconds after the signal. -/
def InProgress.callEnds (g : InProgress) : Nat :=
  match g.gone with
  | none => g.timeline.now - g.age
  | some t => min t (g.timeline.now - g.age)

/-- The three disconnects one after the other: how long each takes and whether it throws. -/
def disconnecting : List (Nat × Bool) → Nat
  | [] => 0
  | (ms, true) :: _ => ms
  | (ms, false) :: rest => ms + disconnecting rest

/-- When the process exits, in milliseconds after the signal.  `tryShutdown` says when the server
    calls back, given when each call in progress is over. -/
def exitAfter (tryShutdown : List Nat → Nat) (disconnects : List (Nat × Bool))
    (sagas : List InProgress) : Nat :=
  min forcedExit (tryShutdown (sagas.map InProgress.callEnds) + disconnecting disconnects)

/-! ## What a saga has done by a moment of its clock -/

/-- A call of `ProcessPayment`. -/
def SagaOp.IsCharge : SagaOp → Prop
  | .processPayment _ => True
  | _ => False

/-- A `RefundByOrderId` that has been answered without an error; one that has not may have done
    nothing. -/
def Refunds : (op : SagaOp) → SagaRes op → Prop
  | .refundByOrderId _, r => ∃ res, r = .ok res
  | _, _ => False

/-- An `INSERT` that has stored its order. -/
def Stores : (op : SagaOp) → SagaRes op → Prop
  | .create _, .ok _ => True
  | _, _ => False

section By

variable (H : Nat) (w : Clocked SagaOp SagaRes)

/-- `ProcessPayment` has been issued. -/
def Issued : Prop := ∃ e ∈ w.trace, e.op.IsCharge ∧ e.sent ≤ H

/-- The CONFIRMED order has been stored. -/
def Persisted : Prop := ∃ e ∈ w.trace, Stores e.op e.res ∧ e.answered ≤ H

/-- The refund has run, and not in vain. -/
def Refunded : Prop := ∃ e ∈ w.trace, Refunds e.op e.res ∧ e.answered ≤ H

end By

/-- **Shutdown abandons no charged saga**: at the exit, every saga that has issued its charge has
    stored its order or had its refund answered without an error. -/
def NoneAbandoned (tryShutdown : List Nat → Nat) (disconnects : List (Nat × Bool))
    (sagas : List InProgress) : Prop :=
  ∀ g ∈ sagas, Issued (g.age + exitAfter tryShutdown disconnects sagas) g.timeline →
    Persisted (g.age + exitAfter tryShutdown disconnects sagas) g.timeline ∨
      Refunded (g.age + exitAfter tryShutdown disconnects sagas) g.timeline

/-! ## The arithmetic -/

section Sums

variable (g : InProgress)

/-- How long the two lookups take. -/
def InProgress.lookups : Nat :=
  (g.schedule (.getUser g.input.userId)).1 + (g.schedule (.getProduct g.input.productId)).1

/-- How long a saga takes from its charge to the stored order, or else to the end of its refund. -/
def InProgress.charging (user : UserResponse) (product : ProductResponse) : Nat :=
  let req := g.input.payment g.orderId product
  let refund := (g.schedule (.refundByOrderId g.orderId)).1
  (g.schedule (.processPayment req)).1 +
    match (g.schedule (.processPayment req)).2 with
    | .error _ => refund
    | .ok payment =>
      if payment.status = .success then
        let insert := g.schedule (.create (g.input.order g.orderId user product payment))
        match insert.2 with
        | .ok _ => insert.1
        | .error _ => insert.1 + (g.schedule (.updateStatus g.orderId .cancelled)).1 + refund
      else refund

/-- Its charge succeeds, and so does the `INSERT` of its order. -/
def InProgress.Sells (user : UserResponse) (product : ProductResponse) : Prop :=
  ∃ payment row, (g.schedule (.processPayment (g.input.payment g.orderId product))).2 = .ok payment ∧
    payment.status = .success ∧
    (g.schedule (.create (g.input.order g.orderId user product payment))).2 = .ok row

/-- Its refund is answered without an error. -/
def InProgress.Refundable : Prop := ∃ res, (g.schedule (.refundByOrderId g.orderId)).2 = .ok res

/-- The saga fits: a lookup fails, or the charge is issued after the moment `H` of its clock, or
    all it takes to store the order or to refund is over by then, and a refund that it takes is
    answered without an error. -/
def InProgress.Fits (H : Nat) : Prop :=
  ∀ user product, (g.schedule (.getUser g.input.userId)).2 = .ok user →
    (g.schedule (.getProduct g.input.productId)).2 = .ok product →
    g.lookups ≤ H → g.lookups + g.charging user product ≤ H ∧ (g.Sells user product ∨ g.Refundable)

end Sums

/-! ## The timeline of a saga -/

section Run

variable {σ : Schedule SagaOp SagaRes} {o : String} {input : CreateOrder} {err : JsError}
variable {compensations : List Compensation} {w : Clocked SagaOp SagaRes}

/-- The end of a failed saga. -/
theorem run_throwing :
    ((throwing o err compensations).run (onSchedule σ) w).2 =
      w.after σ (.publishOrderEvent (.orderFailed o err.message)) := by
  rw [throwing_eq]
  rfl

/-- A failed saga with its refund registered. -/
theorem run_failing_refund :
    ((failing o err [.refundPayment o]).run (onSchedule σ) w).2 =
      (w.after σ (.refundByOrderId o)).after σ
        (.publishOrderEvent (.orderFailed o err.message)) := by
  rw [failing_refund_eq]
  exact run_throwing

/-- A failed saga with both compensations registered. -/
theorem run_failing_both :
    ((failing o err [.refundPayment o, .cancelOrder o]).run (onSchedule σ) w).2 =
      ((w.after σ (.updateStatus o .cancelled)).after σ (.refundByOrderId o)).after σ
        (.publishOrderEvent (.orderFailed o err.message)) := by
  rw [failing_both_eq]
  exact run_throwing

/-- A saga whose lookups have both been answered stands at its charge. -/
theorem run_lookups {user : UserResponse} {product : ProductResponse}
    (hu : (σ (.getUser input.userId)).2 = .ok user)
    (hp : (σ (.getProduct input.productId)).2 = .ok product) :
    ∃ k, (saga o input).run (onSchedule σ) w =
        (Prog.await (.processPayment (input.payment o product)) k).run (onSchedule σ)
          ((w.after σ (.getUser input.userId)).after σ (.getProduct input.productId)) ∧
      (∀ e, k (.error e) = failing o e [.refundPayment o]) ∧
      (∀ payment, payment.status ≠ .success →
        k (.ok payment) = failing o (paymentFailed payment) [.refundPayment o]) ∧
      ∀ payment, payment.status = .success →
        ∃ k', k (.ok payment) = .await (.create (input.order o user product payment)) k' ∧
          (∀ e, k' (.error e) = failing o e [.refundPayment o, .cancelOrder o]) ∧
          ∀ row, k' (.ok row) = publishing row [.refundPayment o, .cancelOrder o] := by
  refine ⟨?k, ?hrun, ?herror, ?hfailed, ?hsuccess⟩
  case hrun =>
    show (Prog.await (SagaOp.getUser input.userId) _).run _ w = _
    rw [run_onSchedule w hu]
    show (Prog.await (SagaOp.getProduct input.productId) _).run _ _ = _
    rw [run_onSchedule _ hp]
    rfl
  case herror => exact fun e => rfl
  case hfailed =>
    rintro ⟨id, status, transactionId, message⟩ hs
    cases status with
    | success => exact absurd rfl hs
    | failed => rfl
    | refunded => rfl
  case hsuccess =>
    -- a reply of success goes on to the INSERT
    rintro ⟨id, status, transactionId, message⟩ hs
    cases hs
    exact ⟨_, rfl, fun e => rfl, fun row => rfl⟩

/-- A saga with a failed lookup asks for nothing else than its event. -/
theorem run_lookup_failed
    (h : ∀ user product, (σ (.getUser input.userId)).2 = .ok user →
      (σ (.getProduct input.productId)).2 ≠ .ok product) :
    ∃ e w', ((saga o input).run (onSchedule σ) w).2 =
        w'.after σ (.publishOrderEvent (.orderFailed o e)) ∧
      (w' = w.after σ (.getUser input.userId) ∨
        w' = (w.after σ (.getUser input.userId)).after σ (.getProduct input.productId)) := by
  cases hu : (σ (.getUser input.userId)).2 with
  | error err =>
    -- nothing is compensated for, only the event is published
    refine ⟨err.message, _, ?_, Or.inl rfl⟩
    show (Prog.run _ (Prog.await (SagaOp.getUser input.userId) _) w).2 = _
    rw [run_onSchedule w hu]
    exact @run_throwing σ o err [] _
  | ok user =>
    cases hp : (σ (.getProduct input.productId)).2 with
    | ok product => exact absurd hp (h user product hu)
    | error err =>
      refine ⟨err.message, _, ?_, Or.inr rfl⟩
      show (Prog.run _ (Prog.await (SagaOp.getUser input.userId) _) w).2 = _
      rw [run_onSchedule w hu]
      show (Prog.run _ (Prog.await (SagaOp.getProduct input.productId) _) _).2 = _
      rw [run_onSchedule _ hp]
      exact @run_throwing σ o err [] _

end Run

section Fits

variable {σ : Schedule SagaOp SagaRes} {H : Nat} {w : Clocked SagaOp SagaRes} {op : SagaOp}

/-- A charge is issued when it is asked for. -/
theorem issued_after :
    Issued H (w.after σ op) ↔ Issued H w ∨ op.IsCharge ∧ w.now ≤ H := exists_after w op _

/-- An order is persisted when its INSERT is answered. -/
theorem persisted_after :
    Persisted H (w.after σ op) ↔ Persisted H w ∨ Stores op (σ op).2 ∧ w.now + (σ op).1 ≤ H :=
  exists_after w op _

/-- A payment is refunded when that is answered. -/
theorem refunded_after :
    Refunded H (w.after σ op) ↔ Refunded H w ∨ Refunds op (σ op).2 ∧ w.now + (σ op).1 ≤ H :=
  exists_after w op _

/-- At its start a saga has issued no charge. -/
theorem not_issued_nil : ¬ Issued H ⟨0, []⟩ := fun ⟨_, he, _⟩ => List.not_mem_nil he

/-- It has persisted no order. -/
theorem not_persisted_nil : ¬ Persisted H ⟨0, []⟩ := fun ⟨_, he, _⟩ => List.not_mem_nil he

/-- It has refunded nothing. -/
theorem not_refunded_nil : ¬ Refunded H ⟨0, []⟩ := fun ⟨_, he, _⟩ => List.not_mem_nil he

variable (g : InProgress) {user : UserResponse} {product : ProductResponse}

/-- With both lookups answered the condition is about what follows them. -/
theorem fits_iff_of_lookups (hu : (g.schedule (.getUser g.input.userId)).2 = .ok user)
    (hp : (g.schedule (.getProduct g.input.productId)).2 = .ok product) :
    g.Fits H ↔ (g.lookups ≤ H →
      g.lookups + g.charging user product ≤ H ∧ (g.Sells user product ∨ g.Refundable)) := by
  constructor
  · intro h
    exact h user product hu hp
  · intro h user' product' hu' hp'
    cases hu.symm.trans hu'
    cases hp.symm.trans hp'
    exact h

/-- The clock of a saga when its charge is answered. -/
def InProgress.charged (product : ProductResponse) : Clocked SagaOp SagaRes :=
  (((⟨0, []⟩ : Clocked SagaOp SagaRes).after g.schedule (.getUser g.input.userId)).after
    g.schedule (.getProduct g.input.productId)).after
      g.schedule (.processPayment (g.input.payment g.orderId product))

/-- The rest of a saga whose lookups have been answered: a refund; or an order; or an order that is
    not stored, its cancellation and a refund. -/
theorem timeline_cases (hu : (g.schedule (.getUser g.input.userId)).2 = .ok user)
    (hp : (g.schedule (.getProduct g.input.productId)).2 = .ok product) :
    let charge := (g.schedule (.processPayment (g.input.payment g.orderId product))).1
    let refund := (g.schedule (.refundByOrderId g.orderId)).1
    (∃ event, ¬ g.Sells user product ∧
        g.timeline = ((g.charged product).after g.schedule (.refundByOrderId g.orderId)).after
          g.schedule (.publishOrderEvent event) ∧
        g.charging user product = charge + refund) ∨
      (∃ order row event message, g.Sells user product ∧ (g.schedule (.create order)).2 = .ok row ∧
        g.timeline = ((g.charged product).after g.schedule (.create order)).after
          g.schedule (.publishBoth event message) ∧
        g.charging user product = charge + (g.schedule (.create order)).1) ∨
      ∃ order e event, ¬ g.Sells user product ∧ (g.schedule (.create order)).2 = .error e ∧
        g.timeline = ((((g.charged product).after g.schedule (.create order)).after g.schedule
          (.updateStatus g.orderId .cancelled)).after g.schedule (.refundByOrderId g.orderId)).after
            g.schedule (.publishOrderEvent event) ∧
        g.charging user product = charge + ((g.schedule (.create order)).1 +
          (g.schedule (.updateStatus g.orderId .cancelled)).1 + refund) := by
  obtain ⟨k, hrun, herror, hfailed, hsuccess⟩ :=
    @run_lookups g.schedule g.orderId g.input ⟨0, []⟩ user product hu hp
  have htimeline : g.timeline = ((saga g.orderId g.input).run (onSchedule g.schedule) ⟨0, []⟩).2 :=
    rfl
  rw [htimeline, hrun]
  cases hc : (g.schedule (.processPayment (g.input.payment g.orderId product))).2 with
  | error e =>
    -- the charge's call has failed: it is refunded, as it may have been made
    refine Or.inl ⟨.orderFailed g.orderId e.message, ?_, ?_, ?_⟩
    · rintro ⟨payment, row, hpaid, -⟩
      cases hc.symm.trans hpaid
    · rw [run_onSchedule _ hc, herror]
      exact run_failing_refund
    · simp only [InProgress.charging, hc]
  | ok payment =>
    by_cases hs : payment.status = .success
    · obtain ⟨k', hk', herror', hok'⟩ := hsuccess payment hs
      rw [run_onSchedule _ hc, hk']
      refine Or.inr ?_
      cases hi : (g.schedule (.create (g.input.order g.orderId user product payment))).2 with
      | ok row =>
        -- charged and inserted
        refine Or.inl ⟨_, row, mapOrderToEvent row, notificationOf row, ⟨payment, row, hc, hs, hi⟩, hi,
          ?_, ?_⟩
        · rw [run_onSchedule _ hi, hok']
          rfl
        · simp only [InProgress.charging, hc, if_pos hs, hi]
      | error e =>
        -- charged, but the INSERT has failed: both compensations
        refine Or.inr ⟨_, e, .orderFailed g.orderId e.message, ?_, hi, ?_, ?_⟩
        · rintro ⟨payment', row, hpaid, -, hrow⟩
          cases hc.symm.trans hpaid
          cases hi.symm.trans hrow
        · rw [run_onSchedule _ hi, herror']
          exact run_failing_both
        · simp only [InProgress.charging, hc, if_pos hs, hi]
    · -- declined: it is refunded all the same
      refine Or.inl ⟨.orderFailed g.orderId (paymentFailed payment).message, ?_, ?_, ?_⟩
      · rintro ⟨payment', row, hpaid, hsuccess', -⟩
        cases hc.symm.trans hpaid
        exact hs hsuccess'
      · rw [run_onSchedule _ hc, hfailed payment hs]
        exact run_failing_refund
      · simp only [InProgress.charging, hc, if_neg hs]

/-- The time at which the charge is answered. -/
theorem charged_now : (g.charged product).now =
    g.lookups + (g.schedule (.processPayment (g.input.payment g.orderId product))).1 := by
  show 0 + _ + _ + _ = _ + _ + _
  omega

/-- The charge is issued once the lookups are over. -/
theorem issued_charged : Issued H (g.charged product) ↔ g.lookups ≤ H := by
  have hnow : 0 + (g.schedule (.getUser g.input.userId)).1 +
      (g.schedule (.getProduct g.input.productId)).1 = g.lookups := by
    show 0 + _ + _ = _ + _
    omega
  simp only [InProgress.charged, issued_after, not_issued_nil, SagaOp.IsCharge, false_and, or_false,
    Prog.after_now, hnow, true_and, false_or]

/-- Up to its answer nothing is persisted. -/
theorem not_persisted_charged : ¬ Persisted H (g.charged product) := by
  simp only [InProgress.charged, persisted_after, not_persisted_nil, Stores, false_and, or_false,
    not_false_eq_true]

/-- Nor is anything refunded. -/
theorem not_refunded_charged : ¬ Refunded H (g.charged product) := by
  simp only [InProgress.charged, refunded_after, not_refunded_nil, Refunds, false_and, or_false,
    not_false_eq_true]

/-- **One saga**: it is not abandoned at the moment `H` of its clock exactly if it fits. -/
theorem settled_iff_fits :
    (Issued H g.timeline → Persisted H g.timeline ∨ Refunded H g.timeline) ↔ g.Fits H := by
  by_cases hlookups : ∃ user product, (g.schedule (.getUser g.input.userId)).2 = .ok user ∧
      (g.schedule (.getProduct g.input.productId)).2 = .ok product
  · obtain ⟨user, product, hu, hp⟩ := hlookups
    rw [fits_iff_of_lookups g hu hp]
    rcases timeline_cases g hu hp with ⟨event, hsells, htimeline, hcharging⟩ |
      ⟨order, row, event, message, hsells, hrow, htimeline, hcharging⟩ |
      ⟨order, e, event, hsells, herror, htimeline, hcharging⟩
    · -- refunded at once
      rw [htimeline, hcharging]
      simp only [issued_after, persisted_after, refunded_after, issued_charged, SagaOp.IsCharge,
        not_persisted_charged, not_refunded_charged, Stores, Refunds, InProgress.Refundable, hsells,
        false_and, or_false, false_or, charged_now, Nat.add_assoc, and_comm]
    · -- stored
      rw [htimeline, hcharging]
      simp only [issued_after, persisted_after, refunded_after, issued_charged, SagaOp.IsCharge,
        not_persisted_charged, not_refunded_charged, hrow, Stores, Refunds, hsells, false_and,
        or_false, true_and, true_or, and_true, false_or, charged_now, Nat.add_assoc]
    · -- not stored, cancelled and refunded
      rw [htimeline, hcharging]
      simp only [issued_after, persisted_after, refunded_after, issued_charged, SagaOp.IsCharge,
        not_persisted_charged, not_refunded_charged, herror, Stores, Refunds, InProgress.Refundable,
        hsells, false_and, or_false, false_or, Prog.after_now, charged_now, Nat.add_assoc, and_comm]
  · -- a lookup fails: there is no charge
    have hnone : ¬ Issued H g.timeline := by
      obtain ⟨e, w', hrun, hw'⟩ := @run_lookup_failed g.schedule g.orderId g.input ⟨0, []⟩
        (fun user product hu hp => hlookups ⟨user, product, hu, hp⟩)
      have htimeline : g.timeline = _ := hrun
      rw [htimeline]
      rcases hw' with rfl | rfl
      · simp only [issued_after, not_issued_nil, SagaOp.IsCharge, false_and, or_false,
          not_false_eq_true]
      · simp only [issued_after, not_issued_nil, SagaOp.IsCharge, false_and, or_false,
          not_false_eq_true]
    exact iff_of_true (fun h => absurd h hnone)
      fun user product hu hp => absurd ⟨user, product, hu, hp⟩ hlookups

/-- A saga ends no earlier than its order is stored or its refund has run. -/
theorem charging_le_end (hu : (g.schedule (.getUser g.input.userId)).2 = .ok user)
    (hp : (g.schedule (.getProduct g.input.productId)).2 = .ok product) :
    g.lookups + g.charging user product ≤ g.timeline.now := by
  rcases timeline_cases g hu hp with ⟨event, -, htimeline, hcharging⟩ |
    ⟨order, row, event, message, -, -, htimeline, hcharging⟩ |
    ⟨order, e, event, -, -, htimeline, hcharging⟩
  · rw [htimeline, hcharging]
    simp only [Prog.after_now, charged_now]
    omega
  · rw [htimeline, hcharging]
    simp only [Prog.after_now, charged_now]
    omega
  · rw [htimeline, hcharging]
    simp only [Prog.after_now, charged_now]
    omega

end Fits

/-! ## When no saga is abandoned -/

/-- The time a saga is given after the signal: ten seconds, and less only if its own client has
    gone, since the server does not wait for it then. -/
def InProgress.limit (g : InProgress) (exit : Nat) : Nat :=
  match g.gone with
  | none => forcedExit
  | some _ => exit

section NoneAbandoned

variable {tryShutdown : List Nat → Nat} {disconnects : List (Nat × Bool)} {sagas : List InProgress}

/-- A saga whose client still waits fits before the exit if it fits into ten seconds. -/
theorem fits_exit_iff (hwaits : ∀ ends : List Nat, ∀ t ∈ ends, t ≤ tryShutdown ends)
    {g : InProgress} (hg : g ∈ sagas) :
    g.Fits (g.age + exitAfter tryShutdown disconnects sagas) ↔
      g.Fits (g.age + g.limit (exitAfter tryShutdown disconnects sagas)) := by
  unfold InProgress.limit
  cases hgone : g.gone with
  | some t => rfl
  | none =>
    -- the server waits for the call, so only the forced exit can come before its end
    have hends : g.callEnds ≤ tryShutdown (sagas.map InProgress.callEnds) :=
      hwaits _ _ (List.mem_map_of_mem hg)
    have hend : g.callEnds = g.timeline.now - g.age := by
      unfold InProgress.callEnds
      rw [hgone]
    have hexit : exitAfter tryShutdown disconnects sagas = min forcedExit
        (tryShutdown (sagas.map InProgress.callEnds) + disconnecting disconnects) := rfl
    unfold InProgress.Fits
    refine forall_congr' fun user => forall_congr' fun product => forall_congr' fun hu =>
      forall_congr' fun hp => ?_
    have hle : g.lookups + g.charging user product ≤ g.timeline.now := charging_le_end g hu hp
    generalize (g.Sells user product ∨ g.Refundable) = settles
    simp only
    constructor
    · intro h hissued
      have hfits := h (by omega)
      exact ⟨by omega, hfits.2⟩
    · intro h hissued
      have hfits := h (by omega)
      exact ⟨by omega, hfits.2⟩

/-- **Exactly when shutdown abandons no charged saga**: every saga in progress whose lookups
    succeed either is not charged before the exit, or has everything it takes to store its order or
    to refund done within its limit, and a refund that it takes is answered without an error. -/
theorem noneAbandoned_iff (hwaits : ∀ ends : List Nat, ∀ t ∈ ends, t ≤ tryShutdown ends) :
    NoneAbandoned tryShutdown disconnects sagas ↔
      ∀ g ∈ sagas, g.Fits (g.age + g.limit (exitAfter tryShutdown disconnects sagas)) := by
  refine forall_congr' fun g => forall_congr' fun hg => ?_
  rw [← fits_exit_iff hwaits hg]
  exact settled_iff_fits g

end NoneAbandoned

/-! ## A charge that takes nine seconds -/

/-- Every call succeeds, the charge after `ms` milliseconds. -/
def paymentTaking (ms : Nat) : Schedule SagaOp SagaRes
  | .getUser id => (1000, .ok ⟨id, "An", "an@mail"⟩)
  | .getProduct id => (1000, .ok ⟨id, "Pen", 10.0⟩)
  | .processPayment _ => (ms, .ok ⟨"pay1", .success, "TXN-1", "Payment processed successfully"⟩)
  | .refundByOrderId _ => (1000, .ok ⟨true, "Payment refunded"⟩)
  | .create order => (10, .ok (order.row (.hundredths 1000) 0))
  | .updateStatus _ _ => (10, .ok none)
  | .publishOrderEvent _ => (10, .ok ())
  | .publishNotification _ => (10, .ok ())
  | .allSettled first second =>
    (max (paymentTaking ms first).1 (paymentTaking ms second).1,
      ((paymentTaking ms first).2, (paymentTaking ms second).2))

/-- The saga has just started when the signal arrives, and its client waits. -/
def justStarted (ms : Nat) : InProgress := ⟨"o1", ⟨"u1", "p1", 1⟩, paymentTaking ms, 0, none⟩

/-- The server calls back when the last call is over. -/
def lastOf (ends : List Nat) : Nat := ends.foldr max 0

/-- No call ends after the last one. -/
theorem le_lastOf (ends : List Nat) : ∀ t ∈ ends, t ≤ lastOf ends := by
  induction ends with
  | nil => exact fun t ht => absurd ht List.not_mem_nil
  | cons x rest ih =>
    intro t ht
    show t ≤ max x (lastOf rest)
    rcases List.mem_cons.mp ht with rfl | hrest
    · exact Nat.le_max_left _ _
    · exact Nat.le_trans (ih t hrest) (Nat.le_max_right _ _)

/-- The sums of such a saga. -/
theorem justStarted_fits (ms H : Nat) :
    (justStarted ms).Fits H ↔ (2000 ≤ H → 2000 + (ms + 10) ≤ H) := by
  have hsells : (justStarted ms).Sells ⟨"u1", "An", "an@mail"⟩ ⟨"p1", "Pen", 10.0⟩ :=
    ⟨_, _, rfl, rfl, rfl⟩
  refine (fits_iff_of_lookups (justStarted ms) rfl rfl).trans (imp_congr_right fun _ => ?_)
  exact and_iff_left (Or.inl hsells)

/-- Two seconds of lookups and nine seconds of charging, all within the deadlines, are cut off in
    the middle of the charge. -/
theorem abandoned_in_the_middle_of_a_charge :
    WithinDeadlines grpcTimeouts (paymentTaking 9000) ∧
      ¬ NoneAbandoned lastOf [] [justStarted 9000] := by
  constructor
  · have hlookup : 1000 ≤ 5000 := by decide
    have hcharge : 9000 ≤ 15000 := by decide
    have hrefund : 1000 ≤ 15000 := by decide
    exact ⟨fun _ => hlookup, fun _ => hlookup, fun _ => hcharge, fun _ => hrefund⟩
  · intro h
    have hself : justStarted 9000 ∈ [justStarted 9000] := List.mem_cons_self
    have hfits := (fits_exit_iff le_lastOf hself).mp
      ((settled_iff_fits (justStarted 9000)).mp (h _ hself))
    -- two seconds of lookups, nine of the charge, and ten until the exit
    rw [justStarted_fits] at hfits
    exact absurd (hfits (by decide)) (by decide)

/-- Three seconds of charging fit. -/
theorem noneAbandoned_of_three_seconds : NoneAbandoned lastOf [] [justStarted 3000] := by
  refine (noneAbandoned_iff le_lastOf).mpr fun g hg => ?_
  rw [List.mem_singleton.mp hg, justStarted_fits]
  exact fun _ => by decide

end Microservices.Order
