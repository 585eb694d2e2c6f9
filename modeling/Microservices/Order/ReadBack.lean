/-
  What becomes of a row of `orders`, and what GetOrder makes of it
  (order-service/src/repositories/order.repository.js, order-service/src/handlers/order.handler.js).

  The table only ever grows, and the one column that an `UPDATE` changes goes one way.  A saga whose
  `INSERT` has returned never asks for that `UPDATE`, and nobody else asks for it: so that the reply of
  CreateOrder is what GetOrder answers from then on, whatever the other sagas do.

  1. **The table**: `Extends`: every row stays where it is, and is cancelled at most.
  2. **Invariant**: `RowsInv`: ids are unique, and what an `INSERT` has returned is there, unless
     its order's cancelling was asked for.
  3. **Crux**: who asks for the cancelling of an order is its own saga (`Inv.made_of_asked`), and a
     saga that has been returned its row does not.
-/
import Microservices.Order.Events
import Microservices.Order.Handler

namespace Microservices.Order

/-! ## Tables that grow -/

/-- A row some time later: the same, but that it may have been cancelled. -/
def OrderRow.Ages (row row' : OrderRow) : Prop :=
  row' = { row with status := row'.status } ∧
    (row.status = .cancelled → row'.status = .cancelled)

/-- A table some time later: every row is where it was. -/
def Orders.Extends (d d' : Orders) : Prop :=
  ∀ (i : Nat) (row : OrderRow), d[i]? = some row → ∃ row', d'[i]? = some row' ∧ row.Ages row'

/-- The ids of the rows. -/
def Orders.ids (d : Orders) : List String := d.map OrderRow.id

section Tables

variable {numeric : Float → Option Numeric} {now : Nat} {order : NewOrder} {d d' d'' : Orders}
variable {row row' row'' : OrderRow}

/-- A row ages into itself. -/
theorem OrderRow.Ages.refl (row : OrderRow) : row.Ages row := ⟨rfl, fun hst => hst⟩

/-- A row that ages twice has aged. -/
theorem OrderRow.Ages.trans (h : row.Ages row') (h' : row'.Ages row'') : row.Ages row'' := by
  refine ⟨?_, fun hst => h'.2 (h.2 hst)⟩
  rw [h'.1, h.1]

/-- It keeps its id. -/
theorem OrderRow.Ages.id (h : row.Ages row') : row'.id = row.id := by rw [h.1]

/-- A table extends itself. -/
theorem Orders.Extends.refl (d : Orders) : d.Extends d := fun _ row h => ⟨row, h, .refl row⟩

/-- A table that is extended twice is extended. -/
theorem Orders.Extends.trans (h : d.Extends d') (h' : d'.Extends d'') : d.Extends d'' := by
  intro i row hrow
  obtain ⟨row', hrow', hages⟩ := h i row hrow
  obtain ⟨row'', hrow'', hages'⟩ := h' i row' hrow'
  exact ⟨row'', hrow'', hages.trans hages'⟩

/-- An `INSERT` adds a row behind the others. -/
theorem extends_create (h : d.create numeric now order = .ok (row, d')) : d.Extends d' := by
  obtain ⟨rfl, -⟩ := create_spec h
  intro i old hold
  refine ⟨old, ?_, .refl old⟩
  exact (List.getElem?_append_left (List.getElem?_eq_some_iff.mp hold).1).trans hold

/-- A cancellation leaves the rows where they are. -/
theorem extends_cancel (o : String) : d.Extends (d.updateStatus o .cancelled).2 := by
  intro i old hold
  refine ⟨if old.id = o then { old with status := .cancelled } else old, ?_, ?_⟩
  · show (d.map _)[i]? = _
    rw [List.getElem?_map, hold]
    rfl
  · split
    · exact ⟨rfl, fun _ => rfl⟩
    · exact .refl old

/-- Cancelling an order changes no id. -/
theorem ids_cancel (o : String) : (d.updateStatus o .cancelled).2.ids = d.ids := by
  show (d.map _).map OrderRow.id = d.map OrderRow.id
  rw [List.map_map]
  refine List.map_congr_left fun row _ => ?_
  show (if row.id = o then { row with status := OrderStatus.cancelled } else row).id = row.id
  split <;> rfl

/-- Postgres has seen to it that the new id is new. -/
theorem ids_create (h : d.create numeric now order = .ok (row, d')) (hnodup : d.ids.Nodup) :
    d'.ids.Nodup := by
  obtain ⟨rfl, hrow, -⟩ := create_spec h
  have hid : row.id = order.id := by rw [hrow]; rfl
  -- the primary key admits no second row
  have hfresh : order.id ∉ d.ids := by
    unfold Orders.create at h
    split at h
    · cases h
    · split at h
      · cases h
      · rename_i hnew
        intro hmem
        obtain ⟨old, hold, hsame⟩ := List.mem_map.mp hmem
        exact hnew (List.any_eq_true.mpr ⟨old, hold, by simpa using hsame⟩)
  unfold Orders.ids at hnodup hfresh ⊢
  rw [List.map_append, List.nodup_append]
  refine ⟨hnodup, List.pairwise_singleton _ _, fun x hx y hy => ?_⟩
  rw [List.mem_singleton.mp hy, hid]
  rintro rfl
  exact hfresh hx

/-- One id is one row. -/
theorem findById_of_mem (hnodup : d.ids.Nodup) (h : row ∈ d) : d.findById row.id = some row := by
  induction d with
  | nil => cases h
  | cons first d ih =>
    unfold Orders.ids at hnodup
    rw [List.map_cons, List.nodup_cons] at hnodup
    unfold Orders.findById
    by_cases hid : first.id = row.id
    · rw [List.find?_cons_of_pos (by simpa using hid)]
      rcases List.mem_cons.mp h with rfl | hmem
      · rfl
      · -- another row with the id would stand twice
        rw [hid] at hnodup
        exact absurd (List.mem_map_of_mem hmem) hnodup.1
    · rw [List.find?_cons_of_neg (by simpa using hid)]
      rcases List.mem_cons.mp h with rfl | hmem
      · exact absurd rfl hid
      · exact ih hnodup.2 hmem

/-- A row that is found is still found later, older perhaps. -/
theorem Orders.Extends.findById {o : String} (h : d.Extends d') (hnodup : d'.ids.Nodup)
    (hrow : d.findById o = some row) : ∃ row', d'.findById o = some row' ∧ row.Ages row' := by
  have hid : row.id = o := by simpa using List.find?_some hrow
  obtain ⟨i, hi⟩ := List.getElem?_of_mem (List.mem_of_find?_eq_some hrow)
  obtain ⟨row', hi', hages⟩ := h i row hi
  refine ⟨row', ?_, hages⟩
  rw [← hid, ← hages.id]
  exact findById_of_mem hnodup (List.mem_of_getElem? hi')

end Tables

/-! ## What holds in every state -/

/-- A row that an `INSERT` has returned is in the table, unless its saga cancels it. -/
def State.Stands (s : State) (row : OrderRow) : Prop :=
  row ∈ s.orders ∨ s.Asked (.updateStatus row.id .cancelled)

/-- What holds of the rows in every reachable state. -/
structure RowsInv (s : State) : Prop where
  unique : s.orders.ids.Nodup
  executed : ∀ order row, (⟨.create order, .finished (.ok row)⟩ : Call) ∈ s.calls → s.Stands row
  returned : ∀ o g order row, s.sagas o = some g →
    (⟨.create order, .ok row⟩ : Σ op, SagaRes op) ∈ g.thread.log → s.Stands row
  /-- only a saga that has asked for it has its order cancelled -/
  cancelled : ∀ row ∈ s.orders, row.status = .confirmed ∨
    s.Asked (.updateStatus row.id .cancelled)

section Step

variable {numeric : Float → Option Numeric} {maxRetries : Nat} {s s' : State} {ev : Event}

/-- What a step makes of the table: nothing, or one more row, or a cancellation that was asked for. -/
theorem table_step (h : OrdersInv numeric s) (hstep : Step numeric maxRetries s ev s') :
    s'.orders = s.orders ∨
    (∃ (i : Nat) (now : Nat) (order : NewOrder) (row : OrderRow),
      s.calls[i]? = some ⟨.create order, .sent⟩ ∧
      s.orders.create numeric now order = .ok (row, s'.orders)) ∨
    ∃ o, s.Asked (.updateStatus o .cancelled) ∧
      s'.orders = (s.orders.updateStatus o .cancelled).2 := by
  cases hstep with
  | execute i hi hd =>
    cases hd with
    | create now hcreate => exact Or.inr (Or.inl ⟨i, now, _, _, hi, hcreate⟩)
    | createFails e => exact Or.inl rfl
    | @updateStatus id status _ =>
      have hasked : s.Asked (.updateStatus id status) := ⟨_, List.mem_of_getElem? hi, rfl⟩
      obtain rfl := h.cancels id status hasked
      exact Or.inr (Or.inr ⟨id, hasked, rfl⟩)
    | updateStatusFails e => exact Or.inl rfl
  | start o input hfresh => exact Or.inl rfl
  | send o hg hp hc => exact Or.inl rfl
  | arrive i hi hh => exact Or.inl rfl
  | serve i hi hp hd => exact Or.inl rfl
  | finish i hi hp => exact Or.inl rfl
  | elsewhere i r hi he => exact Or.inl rfl
  | answer o hg hp hc hi => exact Or.inl rfl
  | giveUp o e hg hp => exact Or.inl rfl

/-- A step only extends the table. -/
theorem extends_step (h : OrdersInv numeric s) (hstep : Step numeric maxRetries s ev s') :
    s.orders.Extends s'.orders := by
  rcases table_step h hstep with hsame | ⟨i, now, order, row, -, hcreate⟩ | ⟨o, -, hcancel⟩
  · rw [hsame]
    exact .refl _
  · exact extends_create hcreate
  · rw [hcancel]
    exact extends_cancel o

/-- A row that stands stands after any step. -/
theorem stands_step (h : OrdersInv numeric s) (hstep : Step numeric maxRetries s ev s')
    {row : OrderRow} (hrow : s.Stands row) : s'.Stands row := by
  rcases hrow with hmem | hasked
  · rcases table_step h hstep with hsame | ⟨i, now, order, new, -, hcreate⟩ | ⟨o, hasked, hcancel⟩
    · left
      rw [hsame]
      exact hmem
    · left
      rw [(create_spec hcreate).1]
      exact List.mem_append_left _ hmem
    · -- an UPDATE of the row's own order has been asked for
      by_cases hid : row.id = o
      · rw [← hid] at hasked
        exact Or.inr ((asked_step hstep).1 hasked)
      · left
        rw [hcancel]
        refine List.mem_map.mpr ⟨row, hmem, ?_⟩
        exact if_neg hid
  · exact Or.inr ((asked_step hstep).1 hasked)

/-- A finished call was finished before, or a handler has just returned, or a statement has just been
    executed, or another service has just ended it. -/
theorem finished_step (hstep : Step numeric maxRetries s ev s') {op : SagaOp} {r : SagaRes op}
    (h : (⟨op, .finished r⟩ : Call) ∈ s'.calls) :
    (⟨op, .finished r⟩ : Call) ∈ s.calls ∨
    (∃ t, (⟨op, .running t⟩ : Call) ∈ s.calls) ∨
    Execute numeric op s.orders r s'.orders ∨ Elsewhere op r := by
  -- an answer is given by a handler, by order-db or elsewhere
  cases hstep with
  | start o input hfresh => exact Or.inl h
  | send o hg hp hc =>
    rcases List.mem_append.mp h with hold | hnew
    · exact Or.inl hold
    · cases List.mem_singleton.mp hnew
  | arrive i hi hh =>
    rcases List.mem_or_eq_of_mem_set h with hold | hnew
    · exact Or.inl hold
    · cases hnew
  | serve i hi hp hd =>
    rcases List.mem_or_eq_of_mem_set h with hold | hnew
    · exact Or.inl hold
    · cases hnew
  | finish i hi hp =>
    rcases List.mem_or_eq_of_mem_set h with hold | hnew
    · exact Or.inl hold
    · cases hnew
      exact Or.inr (Or.inl ⟨_, List.mem_of_getElem? hi⟩)
  | execute i hi hd =>
    rcases List.mem_or_eq_of_mem_set h with hold | hnew
    · exact Or.inl hold
    · cases hnew
      exact Or.inr (Or.inr (Or.inl hd))
  | elsewhere i r hi he =>
    rcases List.mem_or_eq_of_mem_set h with hold | hnew
    · exact Or.inl hold
    · cases hnew
      exact Or.inr (Or.inr (Or.inr he))
  | answer o hg hp hc hi => exact Or.inl h
  | giveUp o e hg hp => exact Or.inl h

/-- There is no row yet. -/
theorem rowsInv_init : RowsInv State.init where
  unique := List.nodup_nil
  executed _ _ hc := absurd hc List.not_mem_nil
  returned _ _ _ _ hg := nomatch hg
  cancelled _ hrow := absurd hrow List.not_mem_nil

/-- **Every step keeps the invariant of the rows.** -/
theorem rowsInv_step (hinv : Inv numeric s) (hord : OrdersInv numeric s) (h : RowsInv s)
    (hstep : Step numeric maxRetries s ev s') : RowsInv s' where
  unique := by
    rcases table_step hord hstep with hsame | ⟨i, now, order, row, -, hcreate⟩ | ⟨o, -, hcancel⟩
    · rw [hsame]
      exact h.unique
    · exact ids_create hcreate h.unique
    · rw [hcancel, ids_cancel]
      exact h.unique
  executed order row hc := by
    rcases finished_step hstep hc with hold | ⟨t, ht⟩ | hexecute | helse
    · exact stands_step hord hstep (h.executed order row hold)
    · -- the payment service runs no handler for an `INSERT`
      exact (hinv.sound _ ht).1.elim
    · left
      generalize s'.orders = d' at hexecute
      cases hexecute with
      | create now hcreate =>
        rw [(create_spec hcreate).1]
        exact List.mem_append_right _ List.mem_cons_self
    · cases helse
  returned o g' order row hg' hmem := by
    rcases saga_step hstep hg' with ⟨g, hg, ht⟩ | ⟨input, ht⟩ | ⟨g, op, k, r, hg, hp, ht, hr⟩
    · rw [ht] at hmem
      exact stands_step hord hstep (h.returned o g order row hg hmem)
    · rw [ht] at hmem
      cases hmem
    · rw [ht] at hmem
      rcases List.mem_cons.mp hmem with hnew | hold
      · cases hnew
        rcases hr with ⟨i, hi⟩ | ⟨e, hreject⟩
        · exact stands_step hord hstep (h.executed order row (List.mem_of_getElem? hi))
        · cases hreject
      · exact stands_step hord hstep (h.returned o g order row hg hold)
  cancelled row hrow := by
    have hkeeps : ∀ old : OrderRow, old.id = row.id →
        s.Asked (.updateStatus old.id .cancelled) → s'.Asked (.updateStatus row.id .cancelled) :=
      fun old hid hasked => hid ▸ (asked_step hstep).1 hasked
    rcases table_step hord hstep with hsame | ⟨i, now, order, new, hi, hcreate⟩ | ⟨o, hasked, hcancel⟩
    · rw [hsame] at hrow
      exact (h.cancelled row hrow).imp_right (hkeeps row rfl)
    · obtain ⟨htable, hnew, -⟩ := create_spec hcreate
      rw [htable] at hrow
      rcases List.mem_append.mp hrow with hold | hlast
      · exact (h.cancelled row hold).imp_right (hkeeps row rfl)
      · -- the order of an `INSERT` is CONFIRMED
        left
        obtain ⟨g, -, input, user, product, payment, horder, -⟩ :=
          hord.backed order ⟨_, List.mem_of_getElem? hi, rfl⟩
        rw [List.mem_singleton.mp hlast, hnew, horder]
        rfl
    · rw [hcancel] at hrow
      rcases mem_updateStatus hrow with ⟨old, hold, hid, hnew⟩ | ⟨-, hold⟩
      · right
        have hid' : row.id = o := by
          rw [hnew]
          exact hid
        rw [hid']
        exact (asked_step hstep).1 hasked
      · exact (h.cancelled row hold).imp_right (hkeeps row rfl)

/-- What a run keeps. -/
theorem rowsInv_runs (hinv : Inv numeric s) (hord : OrdersInv numeric s) (h : RowsInv s)
    (hrun : Runs numeric maxRetries s s') :
    OrdersInv numeric s' ∧ RowsInv s' ∧ s.orders.Extends s'.orders ∧
      ∀ o g, s.sagas o = some g →
        ∃ g', s'.sagas o = some g' ∧ ∀ e ∈ g.thread.log, e ∈ g'.thread.log := by
  have hall : Inv numeric s' ∧ OrdersInv numeric s' ∧ RowsInv s' ∧ s.orders.Extends s'.orders ∧
      ∀ o g, s.sagas o = some g →
        ∃ g', s'.sagas o = some g' ∧ ∀ e ∈ g.thread.log, e ∈ g'.thread.log := by
    induction hrun with
    | refl => exact ⟨hinv, hord, h, .refl _, fun o g hg => ⟨g, hg, fun e he => he⟩⟩
    | tail _ hstep ih =>
      obtain ⟨ev, -, hev⟩ := hstep
      obtain ⟨hinv, hord, hrows, hextends, hlogs⟩ := ih
      refine ⟨inv_step hinv hev, ordersInv_step hinv hord hev, rowsInv_step hinv hord hrows hev,
        hextends.trans (extends_step hord hev), fun o g hg => ?_⟩
      obtain ⟨g₁, hg₁, hlog₁⟩ := hlogs o g hg
      obtain ⟨g₂, hg₂, hlog₂⟩ := log_step hev hg₁
      exact ⟨g₂, hg₂, fun e he => hlog₂ e (hlog₁ e he)⟩
  exact hall.2

/-! ## What GetOrder answers -/

/-- What GetOrder calls back with in a state, if its `SELECT` completes. -/
def State.getOrder (s : State) (o : String) : Except Failure OrderResponse :=
  getOrderReply o (.ok (s.orders.findById o))

/-- The status of a row is no part of the response. -/
theorem OrderRow.Ages.toResponse {row row' : OrderRow} (h : row.Ages row') :
    Order.toResponse row' = Order.toResponse row := by
  rw [h.1]
  rfl

/-- `getOrder` answers the row that is found. -/
theorem getOrder_of_findById {o : String} {row : OrderRow} (h : s.orders.findById o = some row) :
    s.getOrder o = .ok (toResponse row) := by
  unfold State.getOrder
  rw [h]
  rfl

/-- **The life cycle of an orders row**, over every run of any number of sagas: a row is never deleted
    or moved, all its columns stay but the status, and that goes from CONFIRMED to CANCELLED only,
    after the saga of that order has itself made the call for it; no two rows have one id; and what
    GetOrder has once answered for an order it answers ever after, cancelled or not. -/
theorem order_row_life_cycle (hrun : Runs numeric maxRetries State.init s)
    (hlater : Runs numeric maxRetries s s') :
    s.orders.Extends s'.orders ∧ s'.orders.ids.Nodup ∧
    (∀ row ∈ s'.orders, row.status = .cancelled → s'.Asked (.updateStatus row.id .cancelled) ∧
      ∃ g, s'.sagas row.id = some g ∧ g.Made (.updateStatus row.id .cancelled)) ∧
    ∀ o resp, s.getOrder o = .ok resp → s'.getOrder o = .ok resp := by
  obtain ⟨hord, hrows, -, -⟩ :=
    rowsInv_runs (inv_init numeric) ordersInv_init rowsInv_init hrun
  have hinv : Inv numeric s := inv_runs (inv_init numeric) hrun
  obtain ⟨-, hrows', hextends, -⟩ := rowsInv_runs hinv hord hrows hlater
  refine ⟨hextends, hrows'.unique, fun row hrow hst => ?_, fun o resp hresp => ?_⟩
  · rcases hrows'.cancelled row hrow with hconfirmed | hasked
    · rw [hst] at hconfirmed
      cases hconfirmed
    · -- a call about an order is made by the saga of that order only
      obtain ⟨c, hc, hop⟩ := hasked
      obtain ⟨g, hg, hmade⟩ := (inv_runs hinv hlater).made c hc row.id (by rw [hop]; rfl)
      exact ⟨⟨c, hc, hop⟩, g, hg, hop ▸ hmade⟩
  · cases hfound : s.orders.findById o with
    | none =>
      unfold State.getOrder at hresp
      rw [hfound] at hresp
      cases hresp
    | some row =>
      obtain ⟨row', hfound', hages⟩ := hextends.findById hrows'.unique hfound
      rw [getOrder_of_findById hfound] at hresp
      rw [getOrder_of_findById hfound', hages.toResponse]
      exact hresp

/-- The row that an `INSERT` has returned is the one that is found, and it is CONFIRMED: its saga asks
    for no cancellation, and nobody else does. -/
theorem found_of_returned (hinv : Inv numeric s) (hevents : EventsInv s) (hrows : RowsInv s)
    {o : String} {g : Saga} {row : OrderRow} (hg : s.sagas o = some g)
    (hreturned : Returned o g.thread.log row) :
    row ∈ s.orders ∧ s.orders.findById o = some row ∧ row.status = .confirmed := by
  obtain ⟨hid, hconfirmed⟩ := hevents.row_of_returned hg hreturned
  obtain ⟨-, -, hkept⟩ := (hevents.obeys o g hg).here.of_returned hreturned
  obtain ⟨order, -, -, hmem⟩ := hreturned
  -- a saga that has got its row asks for no cancelling
  rcases hrows.returned o g order row hg hmem with hin | hasked
  · refine ⟨hin, ?_, hconfirmed⟩
    rw [← hid]
    exact findById_of_mem hrows.unique hin
  · rw [hid] at hasked
    exact absurd (hinv.made_of_asked hg rfl hasked) (hkept (.updateStatus o .cancelled) trivial)

/-- **An order reads back as it was reported.**  Once the `INSERT` of a saga has returned its row, the
    order is CONFIRMED in every later state, whatever the other sagas and the payment service do, and
    GetOrder answers for it what CreateOrder answers for that row. -/
theorem order_reads_back (hrun : Runs numeric maxRetries State.init s)
    (hlater : Runs numeric maxRetries s s') {o : String} {g : Saga} {row : OrderRow}
    (hg : s.sagas o = some g) (hreturned : Returned o g.thread.log row) :
    s'.orders.findById o = some row ∧ row.status = .confirmed ∧
      s'.getOrder o = createOrderReply (.ok row) := by
  have hinv : Inv numeric s := inv_runs (inv_init numeric) hrun
  have hevents : EventsInv s := eventsInv_runs (inv_init numeric) eventsInv_init hrun
  obtain ⟨hord, hrows, -, -⟩ :=
    rowsInv_runs (inv_init numeric) ordersInv_init rowsInv_init hrun
  obtain ⟨-, hrows', -, hlogs⟩ := rowsInv_runs hinv hord hrows hlater
  -- the saga still has that answer
  obtain ⟨g', hg', hlog⟩ := hlogs o g hg
  obtain ⟨order, hid, hst, hmem⟩ := hreturned
  have hreturned' : Returned o g'.thread.log row := ⟨order, hid, hst, hlog _ hmem⟩
  obtain ⟨-, hfound, hconfirmed⟩ := found_of_returned (inv_runs hinv hlater)
    (eventsInv_runs hinv hevents hlater) hrows' hg' hreturned'
  exact ⟨hfound, hconfirmed, getOrder_of_findById hfound⟩

end Step

/-- One pen, both of whose publishes have failed: its order stands. -/
theorem order_reads_back_onePen :
    ∃ (s : State) (row : OrderRow), s.orders.findById "o1" = some row ∧
      s.getOrder "o1" = createOrderReply (.ok row) := by
  obtain ⟨s, hrun, g, row, hg, hreturned, -⟩ := published_onePen
  obtain ⟨hfound, -, hreply⟩ := order_reads_back hrun .refl hg hreturned
  exact ⟨s, row, hfound, hreply⟩

/-- And has no second row. -/
theorem order_row_life_cycle_onePen :
    ∃ s : State, s.orders.ids.Nodup ∧ ∀ row ∈ s.orders, row.status = .cancelled →
      ∃ g, s.sagas row.id = some g ∧ g.Made (.updateStatus row.id .cancelled) := by
  obtain ⟨s, hrun, -⟩ := published_onePen
  obtain ⟨-, hunique, hcancelled, -⟩ := order_row_life_cycle .refl hrun
  exact ⟨s, hunique, fun row hrow hst => (hcancelled row hrow hst).2⟩

end Microservices.Order
