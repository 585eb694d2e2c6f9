/-
  Confirmed orders: what backs them, and what becomes of them when their saga fails.

  The order side has no intent row and no lock, so what holds depends on when the server executes
  an `INSERT` whose client has given up.

  * `confirmed_paid` — while compensations do not fail and a rejected `INSERT` is not executed
    afterwards, every CONFIRMED order is paid, in the middle of a compensation as well: it is
    cancelled before its payment is refunded.
  * `not_confirmed_of_threw` — a failed saga leaves no CONFIRMED order as long as no `INSERT` is
    executed after the `UPDATE` that cancels its order; `confirmed_of_late_insert` is a run in
    which one is.
-/
import Microservices.Order.Stranded

namespace Microservices.Order

open Microservices.Payment

/-! ## Rows and the calls they come from -/

/-- The `UPDATE` that cancels `o` has been executed. -/
def State.Cancelled (s : State) (o : String) : Prop :=
  ∃ row, (⟨.updateStatus o .cancelled, .finished (.ok row)⟩ : Call) ∈ s.calls

/-- The order `o` is live: it has a row with status CONFIRMED. -/
def State.Live (s : State) (o : String) : Prop :=
  ∃ row ∈ s.orders, row.id = o ∧ row.status = .confirmed

/-- A row is what its `INSERT` stored, up to the status. -/
def Stored (numeric : Float → Option Numeric) (order : NewOrder) (row : OrderRow) : Prop :=
  numeric order.totalPrice = some row.totalPrice ∧ row.id = order.id ∧
    row.productId = order.productId ∧ row.quantity = order.quantity ∧
    row.paymentId = order.paymentId

/-- What holds of the orders table in every reachable state. -/
structure OrdersInv (numeric : Float → Option Numeric) (s : State) : Prop where
  /-- a row comes from an `INSERT` that was asked for -/
  stored : ∀ row ∈ s.orders, ∃ order, s.Asked (.create order) ∧ Stored numeric order row
  /-- an `INSERT` is asked for by a saga that has been paid -/
  backed : ∀ order, s.Asked (.create order) →
    ∃ g, s.sagas order.id = some g ∧ Backed order.id g.thread.log order
  /-- an `UPDATE` only ever cancels -/
  cancels : ∀ id status, s.Asked (.updateStatus id status) → status = .cancelled
  /-- an `UPDATE` that is answered without error has been executed -/
  executed : ∀ o g x row, s.sagas o = some g →
    (⟨.updateStatus x .cancelled, .ok row⟩ : Σ op, SagaRes op) ∈ g.thread.log → s.Cancelled x

section Step

variable {numeric : Float → Option Numeric} {maxRetries : Nat} {s s' : State} {ev : Event}

/-- A saga keeps the answers it has had. -/
theorem log_step (hstep : Step numeric maxRetries s ev s') {o : String} {g : Saga}
    (hg : s.sagas o = some g) :
    ∃ g', s'.sagas o = some g' ∧ ∀ e ∈ g.thread.log, e ∈ g'.thread.log := by
  -- a saga other than the one that moves
  have hmove : ∀ x g₁ (t : Thread SagaOp SagaRes _) call, s.sagas x = some g₁ →
      (∀ e ∈ g₁.thread.log, e ∈ t.log) →
      ∃ g', (s.setSaga x ⟨t, call⟩).sagas o = some g' ∧ ∀ e ∈ g.thread.log, e ∈ g'.thread.log := by
    intro x g₁ t call hg₁ hlog
    by_cases hx : o = x
    · subst hx
      cases hg.symm.trans hg₁
      exact ⟨_, setSaga_self s o _, hlog⟩
    · exact ⟨g, (setSaga_ne s x _ hx).trans hg, fun e he => he⟩
  cases hstep with
  | start x input hfresh =>
    refine ⟨g, (setSaga_ne s x _ ?_).trans hg, fun e he => he⟩
    rintro rfl
    rw [hfresh] at hg
    cases hg
  | send x hg' hp hc => exact hmove x _ _ _ hg' fun e he => he
  | arrive i hi hh => exact ⟨g, hg, fun e he => he⟩
  | serve i hi hp hd => exact ⟨g, hg, fun e he => he⟩
  | finish i hi hp => exact ⟨g, hg, fun e he => he⟩
  | execute i hi hd => exact ⟨g, hg, fun e he => he⟩
  | elsewhere i r hi he => exact ⟨g, hg, fun e he => he⟩
  | answer x hg' hp hc hi => exact hmove x _ _ _ hg' fun e he => List.mem_cons_of_mem _ he
  | giveUp x e' hg' hp => exact hmove x _ _ _ hg' fun e he => List.mem_cons_of_mem _ he

/-- Only `send` asks for something new, and then it is the call its saga stands at. -/
theorem asked_step (hstep : Step numeric maxRetries s ev s') {op : SagaOp} :
    (s.Asked op → s'.Asked op) ∧ (s'.Asked op → s.Asked op ∨
      ∃ o g k, ev = .send o ∧ s.sagas o = some g ∧ g.thread.prog = .await op k) := by
  -- a call that gets further stays the same request
  have hset : ∀ i (c c' : Call), s.calls[i]? = some c → c'.op = c.op →
      (s.Asked op → ∃ x ∈ s.calls.set i c', x.op = op) ∧
        ((∃ x ∈ s.calls.set i c', x.op = op) → s.Asked op ∨
          ∃ o g k, ev = .send o ∧ s.sagas o = some g ∧ g.thread.prog = .await op k) :=
    fun i c c' hi hop => ⟨(asked_set hi hop op).mpr, fun h => Or.inl ((asked_set hi hop op).mp h)⟩
  cases hstep with
  | start o input hfresh => exact ⟨id, Or.inl⟩
  | send o hg hp hc =>
    refine ⟨fun ⟨c, hc, hop⟩ => ⟨c, List.mem_append_left _ hc, hop⟩, ?_⟩
    rintro ⟨c, hc, rfl⟩
    rcases List.mem_append.mp hc with hold | hnew
    · exact Or.inl ⟨c, hold, rfl⟩
    · rw [List.mem_singleton.mp hnew]
      exact Or.inr ⟨o, _, _, rfl, hg, hp⟩
  | arrive i hi hh => exact hset i _ _ hi rfl
  | serve i hi hp hd => exact hset i _ _ hi rfl
  | finish i hi hp => exact hset i _ _ hi rfl
  | execute i hi hd => exact hset i _ _ hi rfl
  | elsewhere i r hi he => exact hset i _ _ hi rfl
  | answer o hg hp hc hi => exact ⟨id, Or.inl⟩
  | giveUp o e hg hp => exact ⟨id, Or.inl⟩

/-- A finished call is never touched again. -/
theorem mem_set_of_finished {calls : List Call} {i : Nat} {c c' x : Call}
    (hi : calls[i]? = some c) (hx : x ∈ calls) (hne : x ≠ c) : x ∈ calls.set i c' := by
  obtain ⟨j, hj⟩ := List.getElem?_of_mem hx
  by_cases hij : i = j
  · subst hij
    rw [hi] at hj
    cases hj
    exact absurd rfl hne
  · exact mem_set_of_ne hj hij

/-- An UPDATE that has been executed stays executed. -/
theorem cancelled_step (hstep : Step numeric maxRetries s ev s') {o : String}
    (h : s.Cancelled o) : s'.Cancelled o := by
  obtain ⟨row, hrow⟩ := h
  cases hstep with
  | start x input hfresh => exact ⟨row, hrow⟩
  | send x hg hp hc => exact ⟨row, List.mem_append_left _ hrow⟩
  | arrive i hi hh => exact ⟨row, mem_set_of_finished hi hrow nofun⟩
  | serve i hi hp hd => exact ⟨row, mem_set_of_finished hi hrow nofun⟩
  | finish i hi hp => exact ⟨row, mem_set_of_finished hi hrow nofun⟩
  | execute i hi hd => exact ⟨row, mem_set_of_finished hi hrow nofun⟩
  | elsewhere i r hi he => exact ⟨row, mem_set_of_finished hi hrow nofun⟩
  | answer x hg hp hc hi => exact ⟨row, hrow⟩
  | giveUp x e hg hp => exact ⟨row, hrow⟩

/-- What a step does to a row of `orders`: an old row, perhaps with a new status, or the row of an
    `INSERT` that is executed. -/
theorem orders_step (hstep : Step numeric maxRetries s ev s') {row : OrderRow}
    (hrow : row ∈ s'.orders) :
    row ∈ s.orders ∨
      (∃ old ∈ s.orders, ∃ i id status, (∃ upd, ev = .execute i (.updateStatus id status) upd) ∧
        (⟨.updateStatus id status, .sent⟩ : Call) ∈ s.calls ∧ row = { old with status := status }) ∨
      ∃ i order stored, ev = .execute i (.create order) (.ok stored) ∧
        s.calls[i]? = some ⟨.create order, .sent⟩ ∧ Stored numeric order row := by
  cases hstep with
  -- rows change only where order-db executes a statement
  | execute i hi hd =>
    cases hd with
    | create now h =>
      obtain ⟨rfl, hnew, hprice⟩ := create_spec h
      rcases List.mem_append.mp hrow with hold | hlast
      · exact Or.inl hold
      · rw [List.mem_singleton] at hlast
        subst hlast
        refine Or.inr (Or.inr ⟨i, _, _, rfl, hi, hprice, ?_⟩)
        rw [hnew]
        exact ⟨rfl, rfl, rfl, rfl⟩
    | createFails e => exact Or.inl hrow
    | updateStatus =>
      rcases mem_updateStatus hrow with ⟨old, hold, -, hnew⟩ | ⟨-, hold⟩
      · exact Or.inr (Or.inl ⟨old, hold, i, _, _, ⟨_, rfl⟩, List.mem_of_getElem? hi, hnew⟩)
      · exact Or.inl hold
    | updateStatusFails e => exact Or.inl hrow
  | start o input hfresh => exact Or.inl hrow
  | send o hg hp hc => exact Or.inl hrow
  | arrive i hi hh => exact Or.inl hrow
  | serve i hi hp hd => exact Or.inl hrow
  | finish i hi hp => exact Or.inl hrow
  | elsewhere i r hi he => exact Or.inl hrow
  | answer o hg hp hc hi => exact Or.inl hrow
  | giveUp o e hg hp => exact Or.inl hrow

/-- An answer without error to an `UPDATE` comes from a call that has been executed. -/
theorem executed_step (h : OrdersInv numeric s) (hstep : Step numeric maxRetries s ev s')
    {o x : String} {g : Saga} {row : Option OrderRow} (hg : s'.sagas o = some g)
    (hmem : (⟨.updateStatus x .cancelled, .ok row⟩ : Σ op, SagaRes op) ∈ g.thread.log) :
    s.Cancelled x := by
  cases hstep with
  | start y input hfresh =>
    rcases setSaga_some s y _ hg with ⟨rfl, rfl⟩ | ⟨-, hold⟩
    · cases hmem
    · exact h.executed o g x row hold hmem
  | send y hg' hp hc =>
    rcases setSaga_some s y _ hg with ⟨rfl, rfl⟩ | ⟨-, hold⟩
    · exact h.executed _ _ x row hg' hmem
    · exact h.executed o g x row hold hmem
  | arrive i hi hh => exact h.executed o g x row hg hmem
  | serve i hi hp hd => exact h.executed o g x row hg hmem
  | finish i hi hp => exact h.executed o g x row hg hmem
  | execute i hi hd => exact h.executed o g x row hg hmem
  | elsewhere i r hi he => exact h.executed o g x row hg hmem
  | answer y hg' hp hc hi =>
    rcases setSaga_some s y _ hg with ⟨rfl, rfl⟩ | ⟨-, hold⟩
    · rcases List.mem_cons.mp hmem with heq | hold
      · cases heq
        exact ⟨row, List.mem_of_getElem? hi⟩
      · exact h.executed _ _ x row hg' hold
    · exact h.executed o g x row hold hmem
  | giveUp y e hg' hp =>
    rcases setSaga_some s y _ hg with ⟨rfl, rfl⟩ | ⟨-, hold⟩
    · rcases List.mem_cons.mp hmem with heq | hold
      · -- a saga that gives up is told an error, not a row
        cases heq
      · exact h.executed _ _ x row hg' hold
    · exact h.executed o g x row hold hmem

/-- There is no order yet. -/
theorem ordersInv_init : OrdersInv numeric State.init where
  stored _ hrow := absurd hrow List.not_mem_nil
  backed _ hasked := absurd hasked not_asked_init
  cancels _ _ hasked := absurd hasked not_asked_init
  executed _ _ _ _ hg := nomatch hg

/-- **Every step keeps the orders' invariant.** -/
theorem ordersInv_step (hinv : Inv numeric s) (h : OrdersInv numeric s)
    (hstep : Step numeric maxRetries s ev s') : OrdersInv numeric s' where
  stored row hrow := by
    rcases orders_step hstep hrow with hold | ⟨old, hold, -, -, -, -, -, rfl⟩ |
      ⟨i, order, -, -, hi, hst⟩
    · obtain ⟨order, hasked, hst⟩ := h.stored row hold
      exact ⟨order, (asked_step hstep).1 hasked, hst⟩
    · obtain ⟨order, hasked, hst⟩ := h.stored old hold
      exact ⟨order, (asked_step hstep).1 hasked, hst⟩
    · exact ⟨order, (asked_step hstep).1 ⟨_, List.mem_of_getElem? hi, rfl⟩, hst⟩
  backed order hasked := by
    -- the saga behind the call, before the step
    have hbefore : ∃ g, s.sagas order.id = some g ∧ Backed order.id g.thread.log order := by
      rcases (asked_step hstep).2 hasked with hold | ⟨o, g, k, -, hg, hp⟩
      · exact h.backed order hold
      · have hown : Own o g.thread.log (.create order) := (hinv.obeys o g hg).standsAt hp
        obtain ⟨-, -, hbacked⟩ := hown
        rw [hbacked.id]
        exact ⟨g, hg, hbacked⟩
    obtain ⟨g, hg, input, user, product, payment, heq, hproduct, hpayment, hs⟩ := hbefore
    obtain ⟨g', hg', hlog⟩ := log_step hstep hg
    exact ⟨g', hg', input, user, product, payment, heq, hlog _ hproduct, hlog _ hpayment, hs⟩
  cancels id status hasked := by
    rcases (asked_step hstep).2 hasked with hold | ⟨o, g, k, -, hg, hp⟩
    · exact h.cancels id status hold
    · have hown : Own o g.thread.log (.updateStatus id status) := (hinv.obeys o g hg).standsAt hp
      exact hown.2
  executed o g x row hg hmem := cancelled_step hstep (executed_step h hstep hg hmem)

/-- An order becomes cancelled by the `UPDATE` of that step. -/
theorem cancelled_new (hinv : Inv numeric s) (hstep : Step numeric maxRetries s ev s')
    {o : String} (h : s'.Cancelled o) :
    s.Cancelled o ∨ s'.orders = (s.orders.updateStatus o .cancelled).2 := by
  obtain ⟨upd, hupd⟩ := h
  cases hstep with
  | start x input hfresh => exact Or.inl ⟨upd, hupd⟩
  | send x hg hp hc =>
    rcases List.mem_append.mp hupd with hold | hnew
    · exact Or.inl ⟨upd, hold⟩
    · cases List.mem_singleton.mp hnew
  | arrive i hi hh =>
    rcases List.mem_or_eq_of_mem_set hupd with hold | hnew
    · exact Or.inl ⟨upd, hold⟩
    · cases hnew
  | serve i hi hp hd =>
    rcases List.mem_or_eq_of_mem_set hupd with hold | hnew
    · exact Or.inl ⟨upd, hold⟩
    · cases hnew
  | finish i hi hp =>
    rcases List.mem_or_eq_of_mem_set hupd with hold | hnew
    · exact Or.inl ⟨upd, hold⟩
    · -- the payment service runs no `UPDATE` of orders
      cases hnew
      exact (hinv.sound _ (List.mem_of_getElem? hi)).1.elim
  | execute i hi hd =>
    rcases List.mem_or_eq_of_mem_set hupd with hold | hnew
    · exact Or.inl ⟨upd, hold⟩
    · cases hnew
      cases hd
      exact Or.inr rfl
  | elsewhere i r hi he =>
    rcases List.mem_or_eq_of_mem_set hupd with hold | hnew
    · exact Or.inl ⟨upd, hold⟩
    · cases hnew
      cases he
  | answer x hg hp hc hi => exact Or.inl ⟨upd, hupd⟩
  | giveUp x e hg hp => exact Or.inl ⟨upd, hupd⟩

/-- A cancelled order is not live, and stays so as long as its `INSERT` is not executed late. -/
theorem not_live_step (hinv : Inv numeric s) (hord : OrdersInv numeric s)
    (h : ∀ o, s.Cancelled o → ¬ s.Live o) (hstep : Step numeric maxRetries s ev s')
    (hins : ∀ i order stored, ev = .execute i (.create order) (.ok stored) →
      ¬ s.Cancelled order.id) :
    ∀ o, s'.Cancelled o → ¬ s'.Live o := by
  rintro o hcancelled ⟨row, hrow, hid, hst⟩
  rcases cancelled_new hinv hstep hcancelled with hold | hupdated
  · rcases orders_step hstep hrow with hsame | ⟨old, -, i, id, status, -, hcall, rfl⟩ |
      ⟨i, order, stored, hev, -, hstored⟩
    · exact h o hold ⟨row, hsame, hid, hst⟩
    · have hst' : status = .confirmed := hst
      rw [hord.cancels id status ⟨_, hcall, rfl⟩] at hst'
      cases hst'
    · -- an INSERT after the order's cancelling is what the run excludes
      apply hins i order stored hev
      rw [← hstored.2.1, hid]
      exact hold
  · rw [hupdated] at hrow
    rcases mem_updateStatus hrow with ⟨old, -, -, rfl⟩ | ⟨hne, -⟩
    · cases hst
    · exact hne hid

end Step

/-! ## A failed saga and its order -/

/-- No `INSERT` stores its order after the `UPDATE` that cancels it. -/
def InTime (s : State) : Event → Prop
  | .execute _ (.create order) (.ok _) => ¬ s.Cancelled order.id
  | _ => True

/-- **A failed saga leaves no live order**: once it has thrown and all its compensations have returned
    without error, its order is not CONFIRMED in any later state. -/
def NoLiveOrder (numeric : Float → Option Numeric) (maxRetries : Nat)
    (P : State → Event → Prop) : Prop :=
  ∀ s s' o compensations L, RunsUnder numeric maxRetries P State.init s →
    Threw s o compensations L →
    (∀ r, (⟨.refundByOrderId o, r⟩ : Σ op, SagaRes op) ∈ L → ∃ res, r = .ok res) →
    (∀ r, (⟨.updateStatus o .cancelled, r⟩ : Σ op, SagaRes op) ∈ L → ∃ row, r = .ok row) →
    RunsUnder numeric maxRetries P s s' →
    ∀ row ∈ s'.orders, row.id = o → row.status ≠ .confirmed

section InTime

variable {numeric : Float → Option Numeric} {maxRetries : Nat} {s s' : State}

/-- The invariants of a run without late inserts. -/
structure Calm (numeric : Float → Option Numeric) (s : State) : Prop where
  inv : Inv numeric s
  ordersInv : OrdersInv numeric s
  notLive : ∀ o, s.Cancelled o → ¬ s.Live o

/-- A run begins calm. -/
theorem calm_init : Calm numeric State.init :=
  ⟨inv_init numeric, ordersInv_init, fun _ _ ⟨_, hrow, _⟩ => List.not_mem_nil hrow⟩

/-- Without late inserts it stays so. -/
theorem calm_runs (h : Calm numeric s) (hrun : RunsUnder numeric maxRetries InTime s s') :
    Calm numeric s' := by
  induction hrun with
  | refl => exact h
  | tail _ hstep ih =>
    obtain ⟨ev, hin, hev⟩ := hstep
    refine ⟨inv_step ih.inv hev, ordersInv_step ih.inv ih.ordersInv hev, ?_⟩
    refine not_live_step ih.inv ih.ordersInv ih.notLive hev ?_
    rintro i order stored rfl
    exact hin

/-- **A failed saga leaves no live order** in a run without late inserts. -/
theorem noLiveOrder_of_inTime (numeric : Float → Option Numeric) (maxRetries : Nat) :
    NoLiveOrder numeric maxRetries InTime := by
  intro s s' o compensations L hrun hthrew _ hcancel hlater row hrow hid hst
  have hcalm : Calm numeric s := calm_runs calm_init hrun
  have hcalm' : Calm numeric s' := calm_runs hcalm hlater
  have hthrew' : Threw s' o compensations L := threw_runs hthrew hlater
  -- the row comes from an `INSERT`, so the compensation was registered and has run
  obtain ⟨order, hasked, hstored⟩ := hcalm'.ordersInv.stored row hrow
  have hinserted : Inserted L :=
    ⟨order, hcalm'.inv.asked_threw hthrew' (congrArg some (hstored.2.1.symm.trans hid)) hasked⟩
  have hundone : Undone o L compensations := hcalm'.inv.undone hthrew'
  obtain ⟨r, hmem⟩ := hundone.cancel (hundone.inserted hinserted)
  obtain ⟨upd, rfl⟩ := hcancel r hmem
  obtain ⟨g, e, hg, hthread⟩ := hthrew'
  have hcancelled : s'.Cancelled o := by
    refine hcalm'.ordersInv.executed o g o upd hg ?_
    rw [hthread]
    exact hmem
  exact hcalm'.notLive o hcancelled ⟨row, hrow, hid, hst⟩

end InTime

/-- What the client of the orders table sees when its connection is lost. -/
def connectionLost : JsError := { message := "Connection terminated unexpectedly" }

/-- The `INSERT` is rejected at its client, the cancelling `UPDATE` matches no row, the payment is
    refunded, the saga throws; then the server executes the `INSERT`. -/
theorem late_insert :
    ∃ s, Runs tenUnits 3 State.init s ∧
      (∃ compensations L, Threw s "o1" compensations L ∧
        (∀ r, (⟨.refundByOrderId "o1", r⟩ : Σ op, SagaRes op) ∈ L → ∃ res, r = .ok res) ∧
        ∀ r, (⟨.updateStatus "o1" .cancelled, r⟩ : Σ op, SagaRes op) ∈ L → ∃ row, r = .ok row) ∧
      ∃ s', Runs tenUnits 3 s s' ∧ ∃ row ∈ s'.orders, row.id = "o1" ∧ row.status = .confirmed := by
  refine ⟨?s, ?hrun, ?hthrew, ?s', ?hlater, ?hrow⟩
  case hrun =>
    refine .cons (.start "o1" onePen rfl) trivial ?_
    refine .cons (.send "o1" rfl rfl rfl) trivial ?_
    refine .cons (.elsewhere 0 (Except.ok ⟨"u1", "An", "an@mail"⟩) rfl (.getUser _ _)) trivial ?_
    refine .cons (.answer "o1" rfl rfl rfl rfl) trivial ?_
    refine .cons (.send "o1" rfl rfl rfl) trivial ?_
    refine .cons (.elsewhere 1 (Except.ok ⟨"p1", "Pen", 10.0⟩) rfl (.getProduct _ _)) trivial ?_
    refine .cons (.answer "o1" rfl rfl rfl rfl) trivial ?_
    -- the charge is call number 2
    refine .cons (.send "o1" rfl rfl rfl) trivial ?_
    refine .cons (.arrive 2 rfl rfl) trivial ?_
    refine .cons (.serve 2 rfl rfl (.charge (.accepted 7 "tx"))) trivial ?_
    refine .cons (.serve 2 rfl rfl (.createChargedPayment ⟨"pay1", 8⟩ 8 .done)) trivial ?_
    refine .cons (.finish 2 rfl rfl) trivial ?_
    refine .cons (.answer "o1" rfl rfl rfl rfl) trivial ?_
    -- the `INSERT` is call number 3
    refine .cons (.send "o1" rfl rfl rfl) trivial ?_
    refine .cons (.giveUp "o1" connectionLost rfl rfl) trivial ?_
    -- the `UPDATE` is call number 4, the refund is call number 5
    refine .cons (.send "o1" rfl rfl rfl) trivial ?_
    refine .cons (.execute 4 rfl .updateStatus) trivial ?_
    refine .cons (.answer "o1" rfl rfl rfl rfl) trivial ?_
    refine .cons (.send "o1" rfl rfl rfl) trivial ?_
    refine .cons (.arrive 5 rfl rfl) trivial ?_
    refine .cons (.serve 5 rfl rfl (.requestRefundByOrderId ⟨"", 9⟩ .done)) trivial ?_
    refine .cons (.finish 5 rfl rfl) trivial ?_
    refine .cons (.answer "o1" rfl rfl rfl rfl) trivial ?_
    refine .cons (.giveUp "o1" connectionLost rfl rfl) trivial ?_
    exact .refl
  case hthrew =>
    refine ⟨_, [⟨.publishOrderEvent _, _⟩, ⟨.refundByOrderId _, .ok _⟩, ⟨.updateStatus _ _, .ok _⟩,
      ⟨.create _, _⟩, ⟨.processPayment _, _⟩, ⟨.getProduct _, _⟩, ⟨.getUser _, _⟩],
      ⟨_, _, rfl, rfl⟩, fun r hr => ?_, fun r hr => ?_⟩
    · simp only [List.mem_cons, Sigma.mk.injEq, reduceCtorEq, false_and, false_or, or_false,
        List.not_mem_nil, true_and, heq_eq_eq] at hr
      exact ⟨_, hr⟩
    · simp only [List.mem_cons, Sigma.mk.injEq, reduceCtorEq, false_and, false_or, or_false,
        List.not_mem_nil, true_and, heq_eq_eq] at hr
      exact ⟨_, hr⟩
  case hlater =>
    refine .cons (.execute 3 rfl (.create 10 rfl)) trivial ?_
    exact .refl
  case hrow => exact ⟨_, List.mem_cons_self, rfl, rfl⟩

/-- A late insert leaves a CONFIRMED order behind a saga whose compensations have all returned. -/
theorem confirmed_of_late_insert : ¬ NoLiveOrder tenUnits 3 fun _ _ => True := by
  intro h
  obtain ⟨s, hrun, ⟨compensations, L, hthrew, hrefund, hcancel⟩, s', hlater, row, hrow, hid, hst⟩ :=
    late_insert
  exact h s s' "o1" compensations L hrun hthrew hrefund hcancel hlater row hrow hid hst

/-! ## Confirmed orders are paid -/

/-- Compensations do not fail, and an `INSERT` is executed only while its saga waits for it. -/
def Orderly (s : State) : Event → Prop
  | .execute i (.create _) _ => ∃ o g, s.sagas o = some g ∧ g.call = some i
  | .answer _ (.updateStatus _ _) r => ∃ row, r = .ok row
  | .answer _ (.refundByOrderId _) r => ∃ res, r = .ok res
  | _ => True

section Orderly

variable {numeric : Float → Option Numeric} {maxRetries : Nat} {s s' : State} {ev : Event}

/-- The invariants of an orderly run. -/
structure Settled (numeric : Float → Option Numeric) (s : State) : Prop where
  calm : Calm numeric s
  /-- no `UPDATE` was answered with an error -/
  updated : ∀ o g id status r, s.sagas o = some g →
    (⟨.updateStatus id status, r⟩ : Σ op, SagaRes op) ∈ g.thread.log → ∃ row, r = .ok row
  /-- an order whose refund has been asked for is not live any more -/
  kept : ∀ o, s.Live o → ¬ s.Asked (.refundByOrderId o)

/-- While its saga waits for the `INSERT` of `o`, nothing of `o` has been undone. -/
theorem Inv.inserting (h : Inv numeric s) {i : Nat} {order : NewOrder}
    (hi : s.calls[i]? = some ⟨.create order, .sent⟩)
    (hwait : ∃ o g, s.sagas o = some g ∧ g.call = some i) :
    ¬ s.Asked (.refundByOrderId order.id) ∧ ¬ s.Asked (.updateStatus order.id .cancelled) := by
  obtain ⟨o, g, hg, hcall⟩ := hwait
  obtain ⟨c, k, hc, hp⟩ := h.waits o g i hg hcall
  cases hi.symm.trans hc
  -- what the saga that waits for the INSERT has asked so far
  have hown : Own o g.thread.log (.create order) := (h.obeys o g hg).standsAt hp
  obtain ⟨hnr, hnu, hbacked⟩ := hown
  have hid : order.id = o := hbacked.id
  subst hid
  constructor
  · intro hasked
    exact hnr ((h.made_of_asked hg rfl hasked).answered hp nofun)
  · intro hasked
    exact hnu ((h.made_of_asked hg rfl hasked).answered hp nofun)

/-- An orderly step has no late insert. -/
theorem inTime_of_orderly (h : Inv numeric s) (hord : Orderly s ev)
    (hstep : Step numeric maxRetries s ev s') : InTime s ev := by
  cases hstep with
  | execute i hi hd =>
    rename_i op _ _
    cases hd with
    | create now hcreate =>
      rintro ⟨row, hrow⟩
      exact (h.inserting hi hord).2 ⟨_, hrow, rfl⟩
    | _ => trivial
  | _ => trivial

/-- In an orderly step an UPDATE is answered without error. -/
theorem updated_step (h : Settled numeric s) (hord : Orderly s ev)
    (hstep : Step numeric maxRetries s ev s') {o id : String} {g : Saga} {status : OrderStatus}
    {r : SagaRes (.updateStatus id status)} (hg : s'.sagas o = some g)
    (hmem : (⟨.updateStatus id status, r⟩ : Σ op, SagaRes op) ∈ g.thread.log) :
    ∃ row, r = .ok row := by
  cases hstep with
  | start y input hfresh =>
    rcases setSaga_some s y _ hg with ⟨rfl, rfl⟩ | ⟨-, hold⟩
    · cases hmem
    · exact h.updated o g id status r hold hmem
  | send y hg' hp hc =>
    rcases setSaga_some s y _ hg with ⟨rfl, rfl⟩ | ⟨-, hold⟩
    · exact h.updated _ _ id status r hg' hmem
    · exact h.updated o g id status r hold hmem
  | arrive i hi hh => exact h.updated o g id status r hg hmem
  | serve i hi hp hd => exact h.updated o g id status r hg hmem
  | finish i hi hp => exact h.updated o g id status r hg hmem
  | execute i hi hd => exact h.updated o g id status r hg hmem
  | elsewhere i r' hi he => exact h.updated o g id status r hg hmem
  | answer y hg' hp hc hi =>
    rcases setSaga_some s y _ hg with ⟨rfl, rfl⟩ | ⟨-, hold⟩
    · rcases List.mem_cons.mp hmem with heq | hold
      · -- an orderly run answers an UPDATE with its row
        cases heq
        exact hord
      · exact h.updated _ _ id status r hg' hold
    · exact h.updated o g id status r hold hmem
  | giveUp y e hg' hp =>
    rcases setSaga_some s y _ hg with ⟨rfl, rfl⟩ | ⟨-, hold⟩
    · rcases List.mem_cons.mp hmem with heq | hold
      · cases heq
        exact hord
      · exact h.updated _ _ id status r hg' hold
    · exact h.updated o g id status r hold hmem

/-- The refund of a live order is not asked for: its saga has to cancel the order first. -/
theorem not_live_of_refunding (h : Settled numeric s) {o : String} {g : Saga}
    {k : SagaRes (.refundByOrderId o) → SagaProg} (hg : s.sagas o = some g)
    (hp : g.thread.prog = .await (.refundByOrderId o) k) : ¬ s.Live o := by
  rintro ⟨row, hrow, hid, hst⟩
  have hown : Own o g.thread.log (.refundByOrderId o) := (h.calm.inv.obeys o g hg).standsAt hp
  -- the row was inserted, so the saga has had the answer to its `INSERT`
  obtain ⟨order, hasked, hstored⟩ := h.calm.ordersInv.stored row hrow
  have habout : (SagaOp.create order).orderId? = some o :=
    congrArg some (hstored.2.1.symm.trans hid)
  have hmade := h.calm.inv.made_of_asked hg habout hasked
  have hinserted : Inserted g.thread.log := ⟨order, hmade.answered hp nofun⟩
  obtain ⟨r, hmem⟩ := hown.2 hinserted
  obtain ⟨upd, rfl⟩ := h.updated o g o .cancelled r hg hmem
  exact h.calm.notLive o (h.calm.ordersInv.executed o g o upd hg hmem) ⟨row, hrow, hid, hst⟩

/-- **An orderly step keeps every saga settled or on its way.** -/
theorem settled_step (h : Settled numeric s) (hord : Orderly s ev)
    (hstep : Step numeric maxRetries s ev s') : Settled numeric s' := by
  have hcalm : Calm numeric s' :=
    calm_runs h.calm (.single ⟨ev, inTime_of_orderly h.calm.inv hord hstep, hstep⟩)
  refine ⟨hcalm, fun o g id status r hg hmem => updated_step h hord hstep hg hmem, ?_⟩
  rintro o ⟨row, hrow, hid, hst⟩ hasked
  rcases orders_step hstep hrow with hsame | ⟨old, -, i, id, status, -, hcall, rfl⟩ |
    ⟨i, order, stored, rfl, hi, hstored⟩
  · -- the order was live before: only the refund can be new
    have hlive : s.Live o := ⟨row, hsame, hid, hst⟩
    rcases (asked_step hstep).2 hasked with hold | ⟨x, g, k, -, hg, hp⟩
    · exact h.kept o hlive hold
    · have hown : Own x g.thread.log (.refundByOrderId o) := (h.calm.inv.obeys x g hg).standsAt hp
      obtain ⟨rfl, -⟩ := hown
      exact not_live_of_refunding h hg hp hlive
  · have hst' : status = .confirmed := hst
    rw [h.calm.ordersInv.cancels id status ⟨_, hcall, rfl⟩] at hst'
    cases hst'
  · -- the order becomes live: its saga waits for the `INSERT`
    have hnot := (h.calm.inv.inserting hi hord).1
    rw [← hstored.2.1, hid] at hnot
    rcases (asked_step hstep).2 hasked with hold | ⟨x, g, k, hev, -⟩
    · exact hnot hold
    · cases hev

/-- So does an orderly run. -/
theorem settled_runs (h : Settled numeric s)
    (hrun : RunsUnder numeric maxRetries Orderly s s') : Settled numeric s' := by
  induction hrun with
  | refl => exact h
  | tail _ hstep ih =>
    obtain ⟨ev, hord, hev⟩ := hstep
    exact settled_step ih hord hev

/-- **Every confirmed order is paid, at every instant**: by a SUCCESS payment with the id it
    stores, of its own order, of an amount equal to its total price, both being the column's
    reading of the price that was looked up times the quantity. -/
theorem confirmed_paid (hrun : RunsUnder numeric maxRetries Orderly State.init s)
    {order : OrderRow} (horder : order ∈ s.orders) (hconfirmed : order.status = .confirmed) :
    ∃ payment ∈ s.payment.payments, payment.id = order.paymentId ∧ payment.orderId = order.id ∧
      payment.status = .success ∧ payment.amount = order.totalPrice ∧
      ∃ g product, s.sagas order.id = some g ∧
        (⟨.getProduct order.productId, .ok product⟩ : Σ op, SagaRes op) ∈ g.thread.log ∧
        numeric (product.price * Float.ofInt order.quantity.toInt) = some order.totalPrice := by
  have hinit : Settled numeric State.init :=
    ⟨calm_init, fun _ _ _ _ _ hg => (nomatch hg), fun _ _ hasked => not_asked_init hasked⟩
  have h : Settled numeric s := settled_runs hinit hrun
  obtain ⟨new, hasked, hprice, hid, hproductId, hquantity, hpaymentId⟩ :=
    h.calm.ordersInv.stored order horder
  obtain ⟨g, hg, input, user, product, payment, hnew, hproduct, hpayment, hsuccess⟩ :=
    h.calm.ordersInv.backed new hasked
  obtain ⟨row, hheld, hrowid, hroworder, hrowstatus, hamount⟩ :=
    h.calm.inv.told _ g hg _ hpayment hsuccess
  have hrowid' : row.orderId = order.id := hroworder.trans hid.symm
  have hmem : row ∈ s.payment.payments := by
    rcases hheld with hmem | hintent
    · exact hmem
    · rw [hrowid'] at hintent
      exact absurd (h.calm.inv.intended _ hintent) (h.kept _ ⟨order, horder, rfl, hconfirmed⟩)
  -- what the order stores is what step 4 passed
  have hpaid : order.paymentId = payment.id := by
    rw [hpaymentId]
    exact congrArg NewOrder.paymentId hnew
  have hproductId' : order.productId = input.productId := by
    rw [hproductId]
    exact congrArg NewOrder.productId hnew
  have hquantity' : order.quantity = input.quantity := by
    rw [hquantity]
    exact congrArg NewOrder.quantity hnew
  have hprice' : numeric (input.amount product) = some order.totalPrice := by
    rw [← hprice]
    exact congrArg (numeric ·.totalPrice) hnew.symm
  refine ⟨row, hmem, hrowid.trans hpaid.symm, hrowid', hrowstatus, ?_, g, product, ?_, ?_, ?_⟩
  · exact Option.some.inj (hamount.symm.trans hprice')
  · rw [hid]
    exact hg
  · rw [hproductId']
    exact hproduct
  · rw [hquantity']
    exact hprice'

end Orderly

/-- A saga that goes through up to its `INSERT`. -/
theorem inserted_onePen :
    ∃ s, RunsUnder tenUnits 3 Orderly State.init s ∧
      ∃ order ∈ s.orders, order.status = .confirmed := by
  refine ⟨?s, ?hrun, ?horder⟩
  case hrun =>
    refine .cons (.start "o1" onePen rfl) trivial ?_
    refine .cons (.send "o1" rfl rfl rfl) trivial ?_
    refine .cons (.elsewhere 0 (Except.ok ⟨"u1", "An", "an@mail"⟩) rfl (.getUser _ _)) trivial ?_
    refine .cons (.answer "o1" rfl rfl rfl rfl) trivial ?_
    refine .cons (.send "o1" rfl rfl rfl) trivial ?_
    refine .cons (.elsewhere 1 (Except.ok ⟨"p1", "Pen", 10.0⟩) rfl (.getProduct _ _)) trivial ?_
    refine .cons (.answer "o1" rfl rfl rfl rfl) trivial ?_
    refine .cons (.send "o1" rfl rfl rfl) trivial ?_
    refine .cons (.arrive 2 rfl rfl) trivial ?_
    refine .cons (.serve 2 rfl rfl (.charge (.accepted 7 "tx"))) trivial ?_
    refine .cons (.serve 2 rfl rfl (.createChargedPayment ⟨"pay1", 8⟩ 8 .done)) trivial ?_
    refine .cons (.finish 2 rfl rfl) trivial ?_
    refine .cons (.answer "o1" rfl rfl rfl rfl) trivial ?_
    refine .cons (.send "o1" rfl rfl rfl) trivial ?_
    refine .cons (.execute 3 rfl (.create 9 rfl)) ⟨"o1", _, rfl, rfl⟩ ?_
    exact .refl
  case horder => exact ⟨_, List.mem_cons_self, rfl⟩

/-- Its order is paid. -/
theorem confirmed_paid_onePen :
    ∃ s : State, ∃ order ∈ s.orders, ∃ payment ∈ s.payment.payments,
      payment.id = order.paymentId ∧ payment.status = .success := by
  obtain ⟨s, hrun, order, horder, hst⟩ := inserted_onePen
  obtain ⟨payment, hpayment, hid, -, hs, -⟩ := confirmed_paid hrun horder hst
  exact ⟨s, order, horder, payment, hpayment, hid, hs⟩

end Microservices.Order
