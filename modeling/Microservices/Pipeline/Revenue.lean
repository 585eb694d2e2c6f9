/-
  From a payment to the dashboard (payment-service/src/services/payment.service.js,
  order-service/src/sagas/create-order.saga.js, analytics-service/src/services/analytics.service.js,
  analytics-service/src/repositories/analytics.repository.js).

  An order that has been announced is one whose `INSERT` has returned, and its saga undoes nothing
  from then on: so the money is still there when the metric is stored, and the dashboard adds up
  money that was taken, whatever goes wrong with other orders.
-/
import Microservices.Pipeline.Calm

namespace Microservices

namespace Order

open Microservices.Payment (PaymentRow)

/-- The payment of an order: taken, of the order's own price. -/
structure Pays (payment : PaymentRow) (row : OrderRow) : Prop where
  id : payment.id = row.paymentId
  orderId : payment.orderId = row.id
  status : payment.status = .success
  amount : payment.amount = row.totalPrice

section Paid

variable {numeric : Float → Option Numeric} {s : State}

/-- An order whose `INSERT` has returned is paid: its saga has been told of a SUCCESS payment, and asks
    for no refund. -/
theorem paid_of_returned (hinv : Inv numeric s) (hord : OrdersInv numeric s) (hevents : EventsInv s)
    (hrows : RowsInv s) {o : String} {g : Saga} {row : OrderRow} (hg : s.sagas o = some g)
    (hreturned : Returned o g.thread.log row) :
    ∃ payment ∈ s.payment.payments, Pays payment row := by
  obtain ⟨hmem, -, -⟩ := found_of_returned hinv hevents hrows hg hreturned
  obtain ⟨hid, -⟩ := hevents.row_of_returned hg hreturned
  obtain ⟨-, -, hkept⟩ := (hevents.obeys o g hg).here.of_returned hreturned
  obtain ⟨new, hasked, hprice, hnewid, -, -, hpaymentId⟩ := hord.stored row hmem
  obtain ⟨g', hg', input, user, product, payment, hnew, -, hpayment, hsuccess⟩ := hord.backed new hasked
  obtain ⟨paid, hheld, hpaidid, hpaidorder, hstatus, hamount⟩ := hinv.told _ g' hg' _ hpayment hsuccess
  have horder : paid.orderId = row.id := hpaidorder.trans hnewid.symm
  have hin : paid ∈ s.payment.payments := by
    rcases hheld with hin | hintent
    · exact hin
    · rw [horder, hid] at hintent
      have hrefunded := hinv.made_of_asked hg rfl (hinv.intended o hintent)
      exact absurd hrefunded (hkept (.refundByOrderId o) trivial)
  -- what the order stores is what step 4 passed
  have hpaymentId' : row.paymentId = payment.id := by
    rw [hpaymentId]
    exact congrArg NewOrder.paymentId hnew
  have hprice' : numeric (input.amount product) = some row.totalPrice := by
    rw [← hprice]
    exact congrArg (numeric ·.totalPrice) hnew.symm
  exact ⟨paid, hin, hpaidid.trans hpaymentId'.symm, horder, hstatus,
    Option.some.inj (hamount.symm.trans hprice')⟩

end Paid

end Order

namespace Pipeline

open Microservices.Order (OrderRow Pays)
open Microservices.Payment (PaymentRow)
open Analytics (MetricRow)

section Revenue

variable {x : Setting} {s : State}

/-- The metric is about an order that was paid: the amount is what was taken for it. -/
structure Earned (s : State) (row : MetricRow) (payment : PaymentRow) : Prop where
  there : payment ∈ s.orders.payment.payments
  pays : ∃ order ∈ s.orders.orders, Pays payment order
  orderId : row.orderId = some payment.orderId
  amount : IsAmount payment.amount → row.totalPrice = payment.amount

/-- A CREATED metric is about an order that was paid. -/
theorem Joined.earned (h : Joined x s) {row : MetricRow} (hrow : row ∈ s.topic.effect.rows)
    (hstatus : row.status = .created) : ∃ payment, Earned s row payment := by
  obtain ⟨order, hmem, -, hfound, hpub, hrecords⟩ := h.created hrow hstatus
  obtain ⟨g, row', hg, hret, hid, -, hevent⟩ := h.events.created hpub trivial
  obtain ⟨-, hfound', -⟩ := Order.found_of_returned h.sound h.events h.rows hg hret
  -- the order of the event is the one that was returned
  have hsame : row' = order := Option.some.inj (hfound'.symm.trans hfound)
  obtain ⟨payment, hpayment, hpays⟩ :=
    Order.paid_of_returned h.sound h.ordered h.events h.rows hg hret
  rw [hsame] at hpays
  refine ⟨payment, hpayment, ⟨order, hmem, hpays⟩, ?_, fun hamount => ?_⟩
  · rw [hpays.orderId]
    exact hrecords.orderId
  · rw [hpays.amount] at hamount ⊢
    exact hrecords.price hamount

/-- What these payments have taken together. -/
def takings (payments : List PaymentRow) : Numeric :=
  (payments.map PaymentRow.amount).foldr Analytics.addNumeric (.hundredths 0)

/-- The payments of these metrics, one for each. -/
theorem payments_of_rows {rows : List MetricRow} (h : ∀ row ∈ rows, ∃ payment, Earned s row payment) :
    ∃ payments : List PaymentRow,
      (∀ payment ∈ payments, payment ∈ s.orders.payment.payments ∧
        ∃ order ∈ s.orders.orders, Pays payment order) ∧
      rows.map MetricRow.orderId = payments.map (fun payment => some payment.orderId) ∧
      ((∀ payment ∈ payments, IsAmount payment.amount) →
        rows.map MetricRow.totalPrice = payments.map PaymentRow.amount) := by
  induction rows with
  | nil => exact ⟨[], fun _ hp => (nomatch hp), rfl, fun _ => rfl⟩
  | cons row rows ih =>
    obtain ⟨payments, hall, hids, hamounts⟩ :=
      ih fun row' hrow' => h row' (List.mem_cons_of_mem _ hrow')
    obtain ⟨payment, hearned⟩ := h row List.mem_cons_self
    refine ⟨payment :: payments,
      List.forall_mem_cons.mpr ⟨⟨hearned.there, hearned.pays⟩, hall⟩, ?_, fun hfit => ?_⟩
    · rw [List.map_cons, List.map_cons, hids, hearned.orderId]
    · obtain ⟨hamount, hrest⟩ := List.forall_mem_cons.mp hfit
      rw [List.map_cons, List.map_cons, hamounts hrest, hearned.amount hamount]

end Revenue

end Pipeline

end Microservices
