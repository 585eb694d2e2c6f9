/-
  What the sagas publish (publishEventsBestEffort, safePublishFailed and mapOrderToEvent in
  order-service/src/sagas/create-order.saga.js).

  The events leave a saga from two places, one inside the `catch` and one behind it.
  `saga_eventful` walks the program once more and says what it has published at each point: nothing
  before its outcome is decided, then the one event that says so, and then it ends.

  `events_agree` is that for every run of any number of sagas: an `ORDER_CREATED` is the image of
  the row its `INSERT` has returned, an `ORDER_FAILED` belongs to a saga with nothing left but to
  throw, and a saga whose `INSERT` has returned publishes, resolves and compensates nothing.
-/
import Microservices.Order.Confirmed

namespace Microservices.Order

/-! ## Publishes -/

/-- The event is an `ORDER_CREATED`. -/
def OrderEvent.IsCreated : OrderEvent → Prop
  | .orderCreated .. => True
  | .orderFailed .. => False

/-- The events a call hands to the producer of Kafka. -/
def SagaOp.events : SagaOp → List OrderEvent
  | .publishOrderEvent event => [event]
  | .allSettled first second => first.events ++ second.events
  | _ => []

/-- The notifications a call hands to the publisher of RabbitMQ. -/
def SagaOp.notifications : SagaOp → List Notification
  | .publishNotification message => [message]
  | .allSettled first second => first.notifications ++ second.notifications
  | _ => []

/-- The call publishes nothing. -/
structure SagaOp.Quiet (op : SagaOp) : Prop where
  events : op.events = []
  notifications : op.notifications = []

/-- A request that hands over an event is not quiet. -/
theorem SagaOp.not_quiet_of_event {op : SagaOp} {event : OrderEvent} (h : event ∈ op.events) :
    ¬ op.Quiet :=
  fun hquiet => List.ne_nil_of_mem h hquiet.events

/-- Neither is one that sends a notification. -/
theorem SagaOp.not_quiet_of_notification {op : SagaOp} {message : Notification}
    (h : message ∈ op.notifications) : ¬ op.Quiet :=
  fun hquiet => List.ne_nil_of_mem h hquiet.notifications

/-- The event has been handed to the producer of Kafka, whatever came of it. -/
def State.Published (s : State) (event : OrderEvent) : Prop :=
  ∃ c ∈ s.calls, event ∈ c.op.events

/-- The notification has been handed to the publisher of RabbitMQ, whatever came of it. -/
def State.Notified (s : State) (message : Notification) : Prop :=
  ∃ c ∈ s.calls, message ∈ c.op.notifications

/-- The call undoes a step. -/
def SagaOp.Compensates : SagaOp → Prop
  | .refundByOrderId _ => True
  | .updateStatus _ _ => True
  | _ => False

/-! ## What a saga has published, given what it has been answered -/

/-- Nothing has been published. -/
def Silent (L : SagaLog) : Prop := ∀ e ∈ L, e.1.Quiet

/-- The `INSERT` of `o` as CONFIRMED has returned this row. -/
def Returned (o : String) (L : SagaLog) (row : OrderRow) : Prop :=
  ∃ order, order.id = o ∧ order.status = .confirmed ∧
    (⟨.create order, .ok row⟩ : Σ op, SagaRes op) ∈ L

/-- No `INSERT` has returned a row. -/
def NoneReturned (L : SagaLog) : Prop :=
  ∀ order row, (⟨.create order, .ok row⟩ : Σ op, SagaRes op) ∉ L

/-- What is left of a saga that resolves with this row, whatever its publishes are answered. -/
def Resolving (row : OrderRow) : SagaProg → Prop
  | .await op k => op = .publishBoth (mapOrderToEvent row) (notificationOf row) ∧
      ∀ r, ∃ compensations, k r = .ret (.ok row, compensations)
  | .ret (out, _) => out = .ok row

/-- What is left of a saga that throws this error, whatever its publish is answered. -/
def Throwing (o : String) (err : JsError) : SagaProg → Prop
  | .await op k => op = .publishOrderEvent (.orderFailed o err.message) ∧
      ∀ r, ∃ compensations, k r = .ret (.error err, compensations)
  | .ret (out, _) => out = .error err

/-- Nothing has been published, and no `INSERT` has returned. -/
structure Undecided (L : SagaLog) : Prop where
  silent : Silent L
  noneReturned : NoneReturned L

/-- The last answer is the row of the `INSERT`; nothing has been undone before. -/
structure JustReturned (o : String) (row : OrderRow) (order : NewOrder) (L : SagaLog) : Prop where
  id : order.id = o
  confirmed : order.status = .confirmed
  undecided : Undecided L
  kept : ∀ e ∈ L, ¬ e.1.Compensates

/-- Where the saga of `o` may stand after the answers `L`. -/
def Eventful (o : String) (L : SagaLog) (p : SagaProg) : Prop :=
  match p with
  | .await (.allSettled _ _) _ => ∃ row order L₀, JustReturned o row order L₀ ∧
      L = ⟨.create order, .ok row⟩ :: L₀ ∧ Resolving row p
  | .await (.publishOrderEvent _) _ => Undecided L ∧ ∃ err, Throwing o err p
  | .await (.publishNotification _) _ => False
  | .await _ _ => Undecided L
  | .ret (.ok row, _) => ∃ r order L₀, JustReturned o row order L₀ ∧
      L = ⟨.publishBoth (mapOrderToEvent row) (notificationOf row), r⟩ ::
        ⟨.create order, .ok row⟩ :: L₀
  | .ret (.error err, _) => ∃ r L', Undecided L' ∧
      L = ⟨.publishOrderEvent (.orderFailed o err.message), r⟩ :: L'

section Walk

variable {o : String} {L : SagaLog} {err : JsError} {compensations : List Compensation}

/-- At its start a saga has decided nothing. -/
theorem undecided_nil : Undecided [] where
  silent _ he := nomatch he
  noneReturned _ _ he := nomatch he

/-- A quiet request leaves a saga silent. -/
theorem Silent.cons (h : Silent L) {op : SagaOp} (hop : op.Quiet) (r : SagaRes op) :
    Silent (⟨op, r⟩ :: L) := by
  intro e he
  rcases List.mem_cons.mp he with rfl | hold
  · exact hop
  · exact h e hold

/-- An answer that neither publishes nor returns a row leaves it so. -/
theorem Undecided.cons (h : Undecided L) (op : SagaOp) (r : SagaRes op) (hop : op.Quiet)
    (hr : ∀ order row, (⟨op, r⟩ : Σ op, SagaRes op) ≠ ⟨.create order, .ok row⟩) :
    Undecided (⟨op, r⟩ :: L) where
  silent := h.silent.cons hop r
  noneReturned order row hmem := by
    rcases List.mem_cons.mp hmem with heq | hold
    · exact hr order row heq.symm
    · exact h.noneReturned order row hold

/-- A saga that throws announces its failure, and then nothing more. -/
theorem throwing_eventful (h : Undecided L) :
    Prog.Along (Eventful o) L (throwing o err compensations) := by
  rw [throwing_eq]
  refine ⟨⟨h, err, rfl, fun r => ⟨compensations, rfl⟩⟩, fun r => ?_⟩
  exact ⟨r, L, h, rfl⟩

/-- So does one with nothing to undo. -/
theorem failing_nil_eventful (h : Undecided L) :
    Prog.Along (Eventful o) L (failing o err []) := by
  show Prog.Along (Eventful o) L (throwing o err [])
  exact throwing_eventful h

/-- So does one with a payment to refund. -/
theorem failing_refund_eventful (h : Undecided L) :
    Prog.Along (Eventful o) L (failing o err [.refundPayment o]) := by
  rw [failing_refund_eq]
  refine ⟨h, fun r => ?_⟩
  exact throwing_eventful (h.cons (.refundByOrderId o) r ⟨rfl, rfl⟩ fun _ _ heq => nomatch heq)

/-- So does one with an order to cancel as well. -/
theorem failing_both_eventful (h : Undecided L) :
    Prog.Along (Eventful o) L (failing o err [.refundPayment o, .cancelOrder o]) := by
  rw [failing_both_eq]
  refine ⟨h, fun r₁ => ?_⟩
  have h₁ : Undecided (⟨.updateStatus o .cancelled, r₁⟩ :: L) :=
    h.cons (.updateStatus o .cancelled) r₁ ⟨rfl, rfl⟩ fun _ _ heq => nomatch heq
  refine ⟨h₁, fun r₂ => ?_⟩
  exact throwing_eventful (h₁.cons (.refundByOrderId o) r₂ ⟨rfl, rfl⟩ fun _ _ heq => nomatch heq)

/-- A saga whose INSERT has returned announces its order. -/
theorem publishing_eventful {row : OrderRow} {order : NewOrder} (h : JustReturned o row order L) :
    Prog.Along (Eventful o) (⟨.create order, .ok row⟩ :: L) (publishing row compensations) := by
  refine ⟨⟨row, order, L, h, rfl, rfl, fun r => ⟨compensations, rfl⟩⟩, fun r => ?_⟩
  exact ⟨r, order, L, h, rfl⟩

/-- The two lookups decide nothing. -/
theorem undecided_looked (input : CreateOrder) (user : UserResponse) (product : ProductResponse) :
    Undecided (looked input user product) :=
  (undecided_nil.cons (.getUser input.userId) (.ok user) ⟨rfl, rfl⟩ fun _ _ heq => nomatch heq).cons
    (.getProduct input.productId) (.ok product) ⟨rfl, rfl⟩ fun _ _ heq => nomatch heq

/-- Neither does the charge. -/
theorem undecided_charged (input : CreateOrder) (user : UserResponse) (product : ProductResponse)
    (r : Except JsError Payment.PaymentResponse) : Undecided (charged o input user product r) :=
  (undecided_looked input user product).cons (.processPayment (input.payment o product)) r ⟨rfl, rfl⟩
    fun _ _ heq => nomatch heq

/-- Wherever a saga fails, it announces that and nothing else. -/
theorem failed_eventful {input : CreateOrder} (h : Failed o input compensations L) :
    Prog.Along (Eventful o) L (failing o err compensations) := by
  cases h with
  | user e =>
    exact failing_nil_eventful (undecided_nil.cons (.getUser input.userId) (.error e) ⟨rfl, rfl⟩
      fun _ _ heq => nomatch heq)
  | product user e =>
    have h₁ := undecided_nil.cons (.getUser input.userId) (.ok user) ⟨rfl, rfl⟩ fun _ _ heq => nomatch heq
    exact failing_nil_eventful (h₁.cons (.getProduct input.productId) (.error e) ⟨rfl, rfl⟩
      fun _ _ heq => nomatch heq)
  | charge user product r => exact failing_refund_eventful (undecided_charged input user product r)
  | insert user product payment e =>
    exact failing_both_eventful ((undecided_charged input user product (.ok payment)).cons
      (.create _) (.error e) ⟨rfl, rfl⟩ fun _ _ heq => nomatch heq)

/-- **What a saga publishes**: nothing until its outcome is decided, and then the event of its
    outcome. -/
theorem saga_eventful (o : String) (input : CreateOrder) :
    Prog.Along (Eventful o) [] (saga o input) := by
  refine AllowsSaga.along ⟨?getUser, ?getProduct, ?charge, ?insert, ?fails, ?publishes⟩
  case getUser => exact fun k => undecided_nil
  case getProduct =>
    exact fun user k => undecided_nil.cons (.getUser input.userId) (.ok user) ⟨rfl, rfl⟩
      fun _ _ heq => nomatch heq
  case charge => exact fun user product k => undecided_looked input user product
  case insert => exact fun user product payment k _ => undecided_charged input user product _
  case fails => exact fun err hfailed => failed_eventful hfailed
  case publishes =>
    intro user product payment row _
    refine publishing_eventful ⟨rfl, rfl, undecided_charged input user product _, fun e he => ?_⟩
    simp only [charged, looked, List.mem_cons, List.not_mem_nil, or_false] at he
    rcases he with rfl | rfl | rfl <;> exact fun hc => hc

/-- The row that has just been returned is the one of the log. -/
theorem JustReturned.returned {row : OrderRow} {order : NewOrder} (h : JustReturned o row order L)
    {L' : SagaLog} (hmem : (⟨.create order, .ok row⟩ : Σ op, SagaRes op) ∈ L') :
    Returned o L' row :=
  ⟨order, h.id, h.confirmed, hmem⟩

/-- A saga that has published says which of the two events, and what is left of it. -/
theorem Eventful.published {p : SagaProg} (h : Eventful o L p) {op : SagaOp}
    (hop : ¬ op.Quiet) (hmade : (∃ k, p = .await op k) ∨ Answered op L) :
    (∃ row, op = .publishBoth (mapOrderToEvent row) (notificationOf row) ∧ Returned o L row ∧
      Resolving row p) ∨
    ∃ err, op = .publishOrderEvent (.orderFailed o err.message) ∧ NoneReturned L ∧
      Throwing o err p := by
  have hsilent : ∀ {L' : SagaLog}, Undecided L' → ¬ Answered op L' :=
    fun hund ⟨r, hr⟩ => hop (hund.silent _ hr)
  have hcreate : ∀ order : NewOrder, op ≠ .create order := by
    rintro order rfl
    exact hop ⟨rfl, rfl⟩
  cases p with
  | await op' k =>
    cases op' with
    | allSettled first second =>
      obtain ⟨row, order, L₀, hjust, rfl, hres⟩ := h
      rcases hmade with ⟨k', hk⟩ | hans
      · cases hk
        refine Or.inl ⟨row, hres.1, hjust.returned List.mem_cons_self, hres⟩
      · rcases answered_cons.mp hans with heq | hold
        · exact absurd heq (hcreate order)
        · exact absurd hold (hsilent hjust.undecided)
    | publishOrderEvent event =>
      obtain ⟨hund, err, hthrow⟩ := h
      rcases hmade with ⟨k', hk⟩ | hans
      · cases hk
        refine Or.inr ⟨err, ?_, hund.noneReturned, hthrow⟩
        exact hthrow.1
      · exact absurd hans (hsilent hund)
    | publishNotification message => exact h.elim
    | _ =>
      -- the saga stands before its outcome
      rcases hmade with ⟨k', hk⟩ | hans
      · cases hk
        exact absurd ⟨rfl, rfl⟩ hop
      · exact absurd hans (hsilent h)
  | ret out =>
    obtain ⟨out, compensations⟩ := out
    cases out with
    | ok row =>
      obtain ⟨r, order, L₀, hjust, rfl⟩ := h
      rcases hmade with ⟨k', hk⟩ | hans
      · cases hk
      · rcases answered_cons.mp hans with rfl | hold
        · exact Or.inl ⟨row, rfl, hjust.returned (List.mem_cons_of_mem _ List.mem_cons_self), rfl⟩
        · rcases answered_cons.mp hold with heq | hold'
          · exact absurd heq (hcreate order)
          · exact absurd hold' (hsilent hjust.undecided)
    | error err =>
      obtain ⟨r, L₀, hund, rfl⟩ := h
      rcases hmade with ⟨k', hk⟩ | hans
      · cases hk
      · rcases answered_cons.mp hans with rfl | hold
        · refine Or.inr ⟨err, rfl, fun order row hmem => ?_, rfl⟩
          rcases List.mem_cons.mp hmem with heq | hold
          · cases heq
          · exact hund.noneReturned order row hold
        · exact absurd hold (hsilent hund)

/-- A saga whose `INSERT` has returned resolves with that row, publishes and undoes nothing. -/
theorem Eventful.of_returned {p : SagaProg} {row : OrderRow} (h : Eventful o L p)
    (hr : Returned o L row) :
    Resolving row p ∧
      (∀ out, p = .ret out →
        Answered (.publishBoth (mapOrderToEvent row) (notificationOf row)) L) ∧
      ∀ op, op.Compensates → ¬ ((∃ k, p = .await op k) ∨ Answered op L) := by
  obtain ⟨order, -, -, hmem⟩ := hr
  have hnone : ∀ {L' : SagaLog}, Undecided L' →
      (⟨.create order, .ok row⟩ : Σ op, SagaRes op) ∉ L' := fun hund => hund.noneReturned order row
  cases p with
  | await op' k =>
    cases op' with
    -- the INSERT's row is in the log only while both publishes are on their way, and after
    | allSettled first second =>
      obtain ⟨row', order', L₀, hjust, rfl, hres⟩ := h
      rcases List.mem_cons.mp hmem with heq | hold
      · cases heq
        refine ⟨hres, fun _ hp => (nomatch hp), fun op hop hmade => ?_⟩
        rcases hmade with ⟨k', hk⟩ | hans
        · cases hk
          exact hop
        · rcases answered_cons.mp hans with rfl | ⟨r, hold⟩
          · exact hop
          · exact hjust.kept _ hold hop
      · exact absurd hold (hnone hjust.undecided)
    | publishOrderEvent event => exact absurd hmem (hnone h.1)
    | publishNotification message => exact h.elim
    | _ => exact absurd hmem (hnone h)
  | ret out =>
    obtain ⟨out, compensations⟩ := out
    cases out with
    | ok row' =>
      obtain ⟨r, order', L₀, hjust, rfl⟩ := h
      rcases List.mem_cons.mp hmem with heq | hold
      · cases heq
      · rcases List.mem_cons.mp hold with heq | hold'
        · cases heq
          refine ⟨rfl, fun _ _ => answered_cons.mpr (Or.inl rfl), fun op hop hmade => ?_⟩
          rcases hmade with ⟨k', hk⟩ | hans
          · cases hk
          · rcases answered_cons.mp hans with rfl | hans
            · exact hop
            · rcases answered_cons.mp hans with rfl | ⟨r, hold⟩
              · exact hop
              · exact hjust.kept _ hold hop
        · exact absurd hold' (hnone hjust.undecided)
    -- a saga that throws has been returned no row
    | error err =>
      obtain ⟨r, L₀, hund, rfl⟩ := h
      rcases List.mem_cons.mp hmem with heq | hold
      · cases heq
      · exact absurd hold (hnone hund)

end Walk

/-! ## What a step does to a saga -/

section Step

variable {numeric : Float → Option Numeric} {maxRetries : Nat} {s s' : State} {ev : Event}

/-- A saga stays where it is or has an answer. -/
theorem saga_next (hstep : Step numeric maxRetries s ev s') {o : String} {g : Saga}
    (hg : s.sagas o = some g) :
    ∃ g', s'.sagas o = some g' ∧ (g'.thread = g.thread ∨
      ∃ op k r, g.thread.prog = .await op k ∧ g'.thread = g.thread.answer op k r) := by
  -- a saga moves, this one or another
  have hmove : ∀ x g₁ g₂, s.sagas x = some g₁ → (g₂.thread = g₁.thread ∨
        ∃ op k r, g₁.thread.prog = .await op k ∧ g₂.thread = g₁.thread.answer op k r) →
      ∃ g', (s.setSaga x g₂).sagas o = some g' ∧ (g'.thread = g.thread ∨
        ∃ op k r, g.thread.prog = .await op k ∧ g'.thread = g.thread.answer op k r) := by
    intro x g₁ g₂ hg₁ h
    by_cases hx : o = x
    · subst hx
      cases hg.symm.trans hg₁
      exact ⟨g₂, setSaga_self s o g₂, h⟩
    · exact ⟨g, (setSaga_ne s x g₂ hx).trans hg, Or.inl rfl⟩
  cases hstep with
  | start x input hfresh =>
    have hx : o ≠ x := by
      rintro rfl
      rw [hfresh] at hg
      cases hg
    exact ⟨g, (setSaga_ne s x _ hx).trans hg, Or.inl rfl⟩
  | send x hg' hp hc => exact hmove x _ _ hg' (Or.inl rfl)
  | arrive i hi hh => exact ⟨g, hg, Or.inl rfl⟩
  | serve i hi hp hd => exact ⟨g, hg, Or.inl rfl⟩
  | finish i hi hp => exact ⟨g, hg, Or.inl rfl⟩
  | execute i hi hd => exact ⟨g, hg, Or.inl rfl⟩
  | elsewhere i r hi he => exact ⟨g, hg, Or.inl rfl⟩
  | answer x hg' hp hc hi => exact hmove x _ _ hg' (Or.inr ⟨_, _, _, hp, rfl⟩)
  | giveUp x e hg' hp => exact hmove x _ _ hg' (Or.inr ⟨_, _, _, hp, rfl⟩)

/-- A saga after a step was there, or has just started, or has been given the result of a call or
    its rejection. -/
theorem saga_step (hstep : Step numeric maxRetries s ev s') {o : String} {g' : Saga}
    (hg' : s'.sagas o = some g') :
    (∃ g, s.sagas o = some g ∧ g'.thread = g.thread) ∨
    (∃ input, g'.thread = Thread.start (saga o input)) ∨
    ∃ (g : Saga) (op : SagaOp) (k : SagaRes op → SagaProg) (r : SagaRes op),
      s.sagas o = some g ∧ g.thread.prog = .await op k ∧ g'.thread = g.thread.answer op k r ∧
      ((∃ i : Nat, s.calls[i]? = some ⟨op, .finished r⟩) ∨ ∃ e, r = op.reject e) := by
  cases hstep with
  | start x input hfresh =>
    rcases setSaga_some s x _ hg' with ⟨rfl, rfl⟩ | ⟨-, hold⟩
    · exact Or.inr (Or.inl ⟨input, rfl⟩)
    · exact Or.inl ⟨g', hold, rfl⟩
  | send x hg hp hc =>
    rcases setSaga_some s x _ hg' with ⟨rfl, rfl⟩ | ⟨-, hold⟩
    · exact Or.inl ⟨_, hg, rfl⟩
    · exact Or.inl ⟨g', hold, rfl⟩
  | arrive i hi hh => exact Or.inl ⟨g', hg', rfl⟩
  | serve i hi hp hd => exact Or.inl ⟨g', hg', rfl⟩
  | finish i hi hp => exact Or.inl ⟨g', hg', rfl⟩
  | execute i hi hd => exact Or.inl ⟨g', hg', rfl⟩
  | elsewhere i r hi he => exact Or.inl ⟨g', hg', rfl⟩
  | answer x hg hp hc hi =>
    rcases setSaga_some s x _ hg' with ⟨rfl, rfl⟩ | ⟨-, hold⟩
    · exact Or.inr (Or.inr ⟨_, _, _, _, hg, hp, rfl, Or.inl ⟨_, hi⟩⟩)
    · exact Or.inl ⟨g', hold, rfl⟩
  | giveUp x e hg hp =>
    rcases setSaga_some s x _ hg' with ⟨rfl, rfl⟩ | ⟨-, hold⟩
    · exact Or.inr (Or.inr ⟨_, _, _, _, hg, hp, rfl, Or.inr ⟨e, rfl⟩⟩)
    · exact Or.inl ⟨g', hold, rfl⟩

/-- What a saga has made stays made. -/
theorem made_step (hstep : Step numeric maxRetries s ev s') {o : String} {g : Saga} {op : SagaOp}
    (hg : s.sagas o = some g) (h : g.Made op) : ∃ g', s'.sagas o = some g' ∧ g'.Made op := by
  obtain ⟨⟨t, call⟩, hg', hsame | ⟨op', k, r, hp, hanswer⟩⟩ := saga_next hstep hg
  · refine ⟨_, hg', ?_⟩
    cases hsame
    exact h
  · refine ⟨_, hg', ?_⟩
    cases hanswer
    exact h.answer hp r call

/-- An `INSERT` that has returned a row was executed. -/
theorem created_step (hinv : Inv numeric s) (hstep : Step numeric maxRetries s ev s')
    {order : NewOrder} {row : OrderRow}
    (h : (⟨.create order, .finished (.ok row)⟩ : Call) ∈ s'.calls) :
    (⟨.create order, .finished (.ok row)⟩ : Call) ∈ s.calls ∨
      ∃ now d', s.orders.create numeric now order = .ok (row, d') := by
  cases hstep with
  | start x input hfresh => exact Or.inl h
  | send x hg hp hc =>
    rcases List.mem_append.mp h with hold | hnew
    · exact Or.inl hold
    · cases List.mem_singleton.mp hnew
  | arrive i hi hh =>
    rcases List.mem_or_eq_of_mem_set h with hold | hnew
    · exact Or.inl hold
    · cases hnew
  | serve i hi hp hd =>
    rcases List.mem_or_eq_of_mem_set h with hold | hnew
    · exact Or.inl hold
    · cases hnew
  | finish i hi hp =>
    rcases List.mem_or_eq_of_mem_set h with hold | hnew
    · exact Or.inl hold
    · -- the payment service runs no handler for an `INSERT`
      cases hnew
      exact (hinv.sound _ (List.mem_of_getElem? hi)).1.elim
  | execute i hi hd =>
    rcases List.mem_or_eq_of_mem_set h with hold | hnew
    · exact Or.inl hold
    · cases hnew
      cases hd with
      | create now hcreate => exact Or.inr ⟨now, _, hcreate⟩
  | elsewhere i r hi he =>
    rcases List.mem_or_eq_of_mem_set h with hold | hnew
    · exact Or.inl hold
    · cases hnew
      cases he
  | answer x hg hp hc hi => exact Or.inl h
  | giveUp x e hg hp => exact Or.inl h

/-! ## The invariant -/

/-- The row is the one the `INSERT` of the order makes. -/
def RowOf (order : NewOrder) (row : OrderRow) : Prop := row = order.row row.totalPrice row.createdAt

/-- What holds of the publishes in every reachable state. -/
structure EventsInv (s : State) : Prop where
  /-- every saga keeps to its own text -/
  obeys : ∀ o g, s.sagas o = some g → g.thread.Obeys (Eventful o)
  /-- every publish was made by a saga -/
  made : ∀ c ∈ s.calls, ¬ c.op.Quiet → ∃ o g, s.sagas o = some g ∧ g.Made c.op
  executed : ∀ order row, (⟨.create order, .finished (.ok row)⟩ : Call) ∈ s.calls → RowOf order row
  returned : ∀ o g order row, s.sagas o = some g →
    (⟨.create order, .ok row⟩ : Σ op, SagaRes op) ∈ g.thread.log → RowOf order row

/-- No saga has begun. -/
theorem eventsInv_init : EventsInv State.init where
  obeys _ _ hg := nomatch hg
  made _ hc := absurd hc List.not_mem_nil
  executed _ _ hc := absurd hc List.not_mem_nil
  returned _ _ _ _ hg := nomatch hg

/-- **Every step keeps the invariant of the events.** -/
theorem eventsInv_step (hinv : Inv numeric s) (h : EventsInv s)
    (hstep : Step numeric maxRetries s ev s') : EventsInv s' where
  obeys o g' hg' := by
    rcases saga_step hstep hg' with ⟨g, hg, ht⟩ | ⟨input, ht⟩ | ⟨g, op, k, r, hg, hp, ht, -⟩
    · rw [ht]
      exact h.obeys o g hg
    · rw [ht]
      exact saga_eventful o input
    · rw [ht]
      exact (h.obeys o g hg).answer hp r
  made c hc hloud := by
    -- a call on its way was made before, or is sent by a saga just now
    rcases (asked_step hstep).2 ⟨c, hc, rfl⟩ with ⟨old, hold, hop⟩ | ⟨o, g, k, -, hg, hp⟩
    · obtain ⟨o, g, hg, hmade⟩ := h.made old hold (hop ▸ hloud)
      rw [hop] at hmade
      obtain ⟨g', hg', hmade'⟩ := made_step hstep hg hmade
      exact ⟨o, g', hg', hmade'⟩
    · obtain ⟨g', hg', hmade'⟩ := made_step hstep hg (Or.inl ⟨k, hp⟩)
      exact ⟨o, g', hg', hmade'⟩
  executed order row hc := by
    rcases created_step hinv hstep hc with hold | ⟨now, d', hcreate⟩
    · exact h.executed order row hold
    · obtain ⟨-, hrow, -⟩ := create_spec hcreate
      unfold RowOf
      rw [hrow]
      rfl
  returned o g' order row hg' hmem := by
    rcases saga_step hstep hg' with ⟨g, hg, ht⟩ | ⟨input, ht⟩ | ⟨g, op, k, r, hg, hp, ht, hr⟩
    · rw [ht] at hmem
      exact h.returned o g order row hg hmem
    · rw [ht] at hmem
      cases hmem
    · rw [ht] at hmem
      rcases List.mem_cons.mp hmem with hnew | hold
      · cases hnew
        -- a row comes from an INSERT that was executed, never from one given up
        rcases hr with ⟨i, hi⟩ | ⟨e, hreject⟩
        · exact h.executed order row (List.mem_of_getElem? hi)
        · cases hreject
      · exact h.returned o g order row hg hold

/-- So does every run. -/
theorem eventsInv_runs (hinv : Inv numeric s) (h : EventsInv s)
    (hrun : Runs numeric maxRetries s s') : EventsInv s' := by
  have hboth : Inv numeric s' ∧ EventsInv s' := by
    induction hrun with
    | refl => exact ⟨hinv, h⟩
    | tail _ hstep ih =>
      obtain ⟨ev, -, hev⟩ := hstep
      exact ⟨inv_step ih.1 hev, eventsInv_step ih.1 ih.2 hev⟩
  exact hboth.2

/-- A publish belongs to a saga whose outcome it is. -/
theorem EventsInv.published (h : EventsInv s) {c : Call} (hc : c ∈ s.calls)
    (hloud : ¬ c.op.Quiet) :
    ∃ o g, s.sagas o = some g ∧
      ((∃ row, c.op = .publishBoth (mapOrderToEvent row) (notificationOf row) ∧
          Returned o g.thread.log row ∧ Resolving row g.thread.prog) ∨
        ∃ err, c.op = .publishOrderEvent (.orderFailed o err.message) ∧
          NoneReturned g.thread.log ∧ Throwing o err g.thread.prog) := by
  obtain ⟨o, g, hg, hmade⟩ := h.made c hc hloud
  exact ⟨o, g, hg, (h.obeys o g hg).here.published hloud hmade⟩

/-- The row an `INSERT` of the saga of `o` has returned is CONFIRMED and has the id `o`. -/
theorem EventsInv.row_of_returned (h : EventsInv s) {o : String} {g : Saga} {row : OrderRow}
    (hg : s.sagas o = some g) (hr : Returned o g.thread.log row) :
    row.id = o ∧ row.status = .confirmed := by
  obtain ⟨order, hid, hst, hmem⟩ := hr
  have hrow : RowOf order row := h.returned o g order row hg hmem
  unfold RowOf at hrow
  rw [hrow]
  exact ⟨hid, hst⟩

/-- An `ORDER_CREATED` comes from the saga of its order, and from the row it was returned. -/
theorem EventsInv.created (h : EventsInv s) {event : OrderEvent} (hpub : s.Published event)
    (hcreated : event.IsCreated) :
    ∃ g row, s.sagas event.id = some g ∧ Returned event.id g.thread.log row ∧
      row.id = event.id ∧ row.status = .confirmed ∧ event = mapOrderToEvent row := by
  obtain ⟨c, hc, hmem⟩ := hpub
  obtain ⟨o, g, hg, ⟨row, hop, hret, -⟩ | ⟨err, hop, -⟩⟩ := h.published hc (SagaOp.not_quiet_of_event hmem)
  · rw [hop] at hmem
    have hevent : event = mapOrderToEvent row := List.mem_singleton.mp hmem
    obtain ⟨hid, hst⟩ := h.row_of_returned hg hret
    -- the event has the row's id, which is that of the saga's order
    have ho : event.id = o := by
      rw [hevent]
      exact hid
    rw [ho]
    exact ⟨g, row, hg, hret, hid, hst, hevent⟩
  · rw [hop] at hmem
    rw [List.mem_singleton.mp hmem] at hcreated
    exact hcreated.elim

/-- An `ORDER_FAILED` comes from a saga that throws the error it names. -/
theorem EventsInv.failed (h : EventsInv s) {o error : String}
    (hpub : s.Published (.orderFailed o error)) :
    ∃ g err, s.sagas o = some g ∧ err.message = error ∧ NoneReturned g.thread.log ∧
      Throwing o err g.thread.prog := by
  obtain ⟨c, hc, hmem⟩ := hpub
  obtain ⟨x, g, hg, ⟨row, hop, -⟩ | ⟨err, hop, hnone, hthrow⟩⟩ :=
    h.published hc (SagaOp.not_quiet_of_event hmem)
  · rw [hop] at hmem
    cases List.mem_singleton.mp hmem
  · rw [hop] at hmem
    cases List.mem_singleton.mp hmem
    exact ⟨g, err, hg, rfl, hnone, hthrow⟩

/-- A notification is about a row that an `INSERT` has returned. -/
theorem EventsInv.notified (h : EventsInv s) {message : Notification} (hn : s.Notified message) :
    ∃ o g row, s.sagas o = some g ∧ Returned o g.thread.log row ∧ message = notificationOf row := by
  obtain ⟨c, hc, hmem⟩ := hn
  obtain ⟨o, g, hg, ⟨row, hop, hret, -⟩ | ⟨err, hop, -⟩⟩ :=
    h.published hc (SagaOp.not_quiet_of_notification hmem)
  · rw [hop] at hmem
    exact ⟨o, g, row, hg, hret, List.mem_singleton.mp hmem⟩
  · rw [hop] at hmem
    cases hmem

/-- **Events agree with outcomes.** -/
theorem events_agree (hrun : Runs numeric maxRetries State.init s) :
    -- an `ORDER_CREATED` is the image of the CONFIRMED row that its `INSERT` has returned
    (∀ event, s.Published event → event.IsCreated →
      ∃ g row, s.sagas event.id = some g ∧ Returned event.id g.thread.log row ∧
        row.id = event.id ∧ row.status = .confirmed ∧ event = mapOrderToEvent row) ∧
    -- after an `ORDER_FAILED` its saga can only throw
    (∀ o error, s.Published (.orderFailed o error) →
      ∃ g err, s.sagas o = some g ∧ err.message = error ∧ Throwing o err g.thread.prog) ∧
    -- no order gets both
    (∀ event error, s.Published event → event.IsCreated →
      ¬ s.Published (.orderFailed event.id error)) ∧
    -- once its `INSERT` has returned, a saga resolves, makes both publishes and undoes nothing
    ∀ o g row, s.sagas o = some g → Returned o g.thread.log row →
      Resolving row g.thread.prog ∧
      (∀ out, g.thread.prog = .ret out →
        Answered (.publishBoth (mapOrderToEvent row) (notificationOf row)) g.thread.log) ∧
      ∀ op, op.Compensates → op.orderId? = some o → ¬ s.Asked op := by
  have hinv : Inv numeric s := inv_runs (inv_init numeric) hrun
  have h : EventsInv s := eventsInv_runs (inv_init numeric) eventsInv_init hrun
  refine ⟨fun event => h.created, fun o error hpub => ?_, fun event error hpub hcreated hfail => ?_,
    fun o g row hg hret => ?_⟩
  · obtain ⟨g, err, hg, herr, -, hthrow⟩ := h.failed hpub
    exact ⟨g, err, hg, herr, hthrow⟩
  · obtain ⟨g, row, hg, ⟨order, -, -, hmem⟩, -⟩ := h.created hpub hcreated
    obtain ⟨g', -, hg', -, hnone, -⟩ := h.failed hfail
    cases hg.symm.trans hg'
    exact hnone order row hmem
  · obtain ⟨hres, hpublished, hkept⟩ := (h.obeys o g hg).here.of_returned hret
    refine ⟨hres, hpublished, fun op hop habout hasked => ?_⟩
    exact hkept op hop (hinv.made_of_asked hg habout hasked)

end Step

/-- A saga whose publishes both fail, the one of Kafka after the broker has taken the event. -/
theorem published_onePen :
    ∃ s, Runs tenUnits 3 State.init s ∧ ∃ g row, s.sagas "o1" = some g ∧
      Returned "o1" g.thread.log row ∧ s.Published (mapOrderToEvent row) := by
  refine ⟨?s, ?hrun, ?g, ?row, ?hg, ?hret, ?hpub⟩
  case hrun =>
    refine .cons (.start "o1" onePen rfl) trivial ?_
    refine .cons (.send "o1" rfl rfl rfl) trivial ?_
    refine .cons (.elsewhere 0 (Except.ok ⟨"u1", "An", "an@mail"⟩) rfl (.getUser _ _)) trivial ?_
    refine .cons (.answer "o1" rfl rfl rfl rfl) trivial ?_
    refine .cons (.send "o1" rfl rfl rfl) trivial ?_
    refine .cons (.elsewhere 1 (Except.ok ⟨"p1", "Pen", 10.0⟩) rfl (.getProduct _ _)) trivial ?_
    refine .cons (.answer "o1" rfl rfl rfl rfl) trivial ?_
    refine .cons (.send "o1" rfl rfl rfl) trivial ?_
    refine .cons (.arrive 2 rfl rfl) trivial ?_
    refine .cons (.serve 2 rfl rfl (.charge (.accepted 7 "tx"))) trivial ?_
    refine .cons (.serve 2 rfl rfl (.createChargedPayment ⟨"pay1", 8⟩ 8 .done)) trivial ?_
    refine .cons (.finish 2 rfl rfl) trivial ?_
    refine .cons (.answer "o1" rfl rfl rfl rfl) trivial ?_
    refine .cons (.send "o1" rfl rfl rfl) trivial ?_
    refine .cons (.execute 3 rfl (.create 9 rfl)) trivial ?_
    refine .cons (.answer "o1" rfl rfl rfl rfl) trivial ?_
    refine .cons (.send "o1" rfl rfl rfl) trivial ?_
    refine .cons (.elsewhere 4 (Except.error connectionLost, Except.error connectionLost) rfl
      (.allSettled (.publishOrderEvent _ true (.error connectionLost))
        (.publishNotification _ true (.error connectionLost)))) trivial ?_
    refine .cons (.answer "o1" rfl rfl rfl rfl) trivial ?_
    exact .refl
  case row => exact ⟨"o1", "u1", "p1", 1, .hundredths 1000, "An", "an@mail", "Pen", "pay1",
    .confirmed, 9⟩
  case hg => exact rfl
  case hret => exact ⟨_, rfl, rfl, List.mem_cons_of_mem _ List.mem_cons_self⟩
  case hpub =>
    exact ⟨⟨.publishBoth _ _, _⟩, @List.mem_of_getElem? _ _ 4 _ rfl, List.mem_cons_self⟩

/-- Its publishes fail and it resolves. -/
theorem events_agree_onePen :
    ∃ (s : State) (g : Saga) (row : OrderRow), s.sagas "o1" = some g ∧ Resolving row g.thread.prog ∧
      s.Published (mapOrderToEvent row) ∧ ¬ s.Asked (.refundByOrderId "o1") := by
  obtain ⟨s, hrun, g, row, hg, hret, hpub⟩ := published_onePen
  obtain ⟨-, -, -, hall⟩ := events_agree hrun
  obtain ⟨hres, -, hkept⟩ := hall "o1" g row hg hret
  exact ⟨s, g, row, hg, hres, hpub, hkept (.refundByOrderId "o1") trivial rfl⟩

end Microservices.Order
