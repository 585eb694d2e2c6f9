/-
  From an order to the dashboard (order-service/src/sagas/create-order.saga.js,
  order-service/src/messaging/kafka.producer.js, analytics-service/src/messaging/consumer.js,
  analytics-service/src/services/analytics.service.js,
  analytics-service/src/repositories/analytics.repository.js).

  Between the row of an order and the row of its metric lie two services, a broker, JSON and two
  databases; an event may be published twice, read twice and stored twice.  Through all of it a
  metric says what its order says.

  The crux is `metric_of_record`: the text of an event is read back into the `INSERT` of that event.
-/
import Microservices.Analytics.Summary
import Microservices.Pipeline.System

namespace Microservices

namespace Pipeline

open Microservices.Order (OrderEvent OrderRow Throwing buffer mapOrderToEvent arriving storedAmount
  parse_buffer tree_value created_value failed_value storedAmount_arriving)
open Analytics (MetricRow NewMetric metricOf RowOf)

/-! ## The `INSERT` of an event -/

/-- The parameters with which an event is inserted. -/
def metric : OrderEvent → NewMetric
  | .orderCreated id userId _ _ totalPrice _ productName _ =>
    .created (.str id) (.str userId) ((JsValue.str productName).orElse .null)
      ((arriving totalPrice).orElse (.num 0.0))
  | .orderFailed id _ => .failed (.str id)

/-- The product of a metric: an empty name is no name. -/
def shownName (name : String) : Option String := if name = "" then none else some name

/-- The row says what the event says. -/
def Says (row : MetricRow) : OrderEvent → Prop
  | .orderCreated id userId _ _ totalPrice _ productName _ =>
    row.orderId = some id ∧ row.userId = some userId ∧ row.productName = shownName productName ∧
      storedAmount (arriving totalPrice) = some row.totalPrice ∧ row.status = .created
  | .orderFailed id _ => row = ⟨some id, none, none, .hundredths 0, .failed⟩

section Event

variable {x : Setting} {now : Nat} {event : OrderEvent} {row : MetricRow}

/-- An event that is parsed gives its own metric. -/
theorem metricOf_tree : metricOf (event.tree x.toISOString now).value = .ok (some (metric event)) := by
  rw [tree_value]
  cases event with
  | orderCreated id userId productId quantity totalPrice userName productName createdAt =>
    rw [created_value]
    rfl
  | orderFailed id error =>
    rw [failed_value]
    rfl

/-- **The text of an event is read back** as the event it was made of. -/
theorem metric_of_record (p i : Nat) :
    ∃ value, x.reader.parse (((x.record now event).message p i).raw Utf8.decode) = .ok value ∧
      metricOf value = .ok (some (metric event)) :=
  ⟨_, parse_buffer x.reader _, metricOf_tree⟩

/-- What the database makes of an amount that arrives. -/
theorem amount_arriving (c : PgColumns) (total : Float) :
    c.amount ((arriving total).orElse (.num 0.0)) = storedAmount (arriving total) := by
  unfold storedAmount
  rcases Order.arriving_cases total with ⟨y, hy⟩ | hnull
  · rw [hy]
    unfold JsValue.orElse
    split
    · exact c.amount_num y
    · exact c.amount_num 0.0
  · rw [hnull]
    exact c.amount_num 0.0

/-- A row that is stored says what its event says. -/
theorem says_of_row (h : (metric event).row x.columns.toColumns = some row) : Says row event := by
  cases event with
  | orderCreated id userId productId quantity totalPrice userName productName createdAt =>
    simp only [metric, NewMetric.row, Option.bind_eq_bind, Option.bind_eq_some_iff] at h
    obtain ⟨orderId, hid, user, huser, product, hproduct, price, hprice, hrow⟩ := h
    cases hrow
    refine ⟨x.columns.text_str _ _ hid, x.columns.text_str _ _ huser, ?_, ?_, rfl⟩
    · unfold shownName
      -- an empty product name is stored as NULL
      by_cases hempty : productName = ""
      · rw [if_pos hempty]
        subst hempty
        exact Option.some.inj (hproduct.symm.trans x.columns.text_null)
      · rw [if_neg hempty]
        have htruthy : (JsValue.str productName).orElse .null = .str productName := by
          refine if_pos ?_
          simpa [JsValue.truthy] using hempty
        rw [htruthy] at hproduct
        exact x.columns.text_str _ _ hproduct
    · rw [← amount_arriving x.columns]
      exact hprice
  | orderFailed id error =>
    simp only [metric, NewMetric.row, Option.bind_eq_bind, Option.bind_eq_some_iff] at h
    obtain ⟨orderId, hid, hrow⟩ := h
    cases hrow
    rw [x.columns.text_str _ _ hid]
    rfl

/-- An event the service does not know is no metric. -/
theorem metricOf_of_unknown {value : JsValue} (h : Analytics.UnknownEvent value) :
    metricOf value = .ok none := by
  obtain ⟨eventType, htype, hcreated, hfailed⟩ := h
  unfold metricOf
  rw [htype]
  show (if eventType.isStr "ORDER_CREATED" = true then _ else
    if eventType.isStr "ORDER_FAILED" = true then _ else _ : Except JsError (Option NewMetric)) = _
  rw [hcreated, hfailed]
  rfl

/-- A row that was made of the record of an event says what the event says. -/
theorem says_of_record {p i : Nat} (h : RowOf Utf8.decode x.reader.parse x.columns.toColumns
    ((x.record now event).message p i) row) : Says row event := by
  obtain ⟨value, m, hvalue, hm, hrow⟩ := h
  obtain ⟨value', hvalue', hm'⟩ := @metric_of_record x now event p i
  cases Except.ok.inj (hvalue.symm.trans hvalue')
  cases Option.some.inj (Except.ok.inj (hm.symm.trans hm'))
  exact says_of_row hrow

end Event

/-! ## The metrics of orders -/

/-- The row is the metric of the order, its amount to the cent. -/
structure Records (row : MetricRow) (order : OrderRow) : Prop where
  status : row.status = .created
  orderId : row.orderId = some order.id
  userId : row.userId = some order.userId
  productName : row.productName = shownName order.productName
  totalPrice : ∀ n : ℕ, order.totalPrice = .hundredths n → n < 10 ^ 12 →
    row.totalPrice = .hundredths n

section Metrics

variable {x : Setting} {s : State}

/-- An `ORDER_CREATED` is about a row that stands, CONFIRMED. -/
theorem Joined.order_of_published (h : Joined x s) {event : OrderEvent}
    (hpub : s.orders.Published event) (hcreated : event.IsCreated) :
    ∃ order ∈ s.orders.orders, order.status = .confirmed ∧ s.orders.orders.findById order.id = some order ∧
      order.id = event.id ∧ event = mapOrderToEvent order := by
  obtain ⟨g, order, hg, hret, hid, -, hevent⟩ := h.events.created hpub hcreated
  obtain ⟨hmem, hfound, hconfirmed⟩ := Order.found_of_returned h.sound h.events h.rows hg hret
  rw [← hid] at hfound
  exact ⟨order, hmem, hconfirmed, hfound, hid, hevent⟩

/-- Every metric says what some event says that was handed to the broker. -/
theorem Joined.says (h : Joined x s) {row : MetricRow} (hrow : row ∈ s.topic.effect.rows) :
    ∃ event, s.orders.Published event ∧ Says row event := by
  obtain ⟨p, i, r, hr, hof⟩ := h.sourced.1 row hrow
  obtain ⟨now, event, hpub, rfl⟩ := h.records p i r hr
  exact ⟨event, hpub, says_of_record hof⟩

/-- A CREATED metric is that of an order. -/
theorem Joined.created (h : Joined x s) {row : MetricRow} (hrow : row ∈ s.topic.effect.rows)
    (hstatus : row.status = .created) :
    ∃ order ∈ s.orders.orders, order.status = .confirmed ∧
      s.orders.orders.findById order.id = some order ∧ s.orders.Published (mapOrderToEvent order) ∧
      Records row order := by
  obtain ⟨event, hpub, hsaid⟩ := h.says hrow
  cases event with
  | orderFailed id error =>
    rw [show row = _ from hsaid] at hstatus
    cases hstatus
  | orderCreated id userId productId quantity totalPrice userName productName createdAt =>
    obtain ⟨order, hmem, hconfirmed, hfound, -, hevent⟩ := h.order_of_published hpub trivial
    refine ⟨order, hmem, hconfirmed, hfound, hevent ▸ hpub, ?_⟩
    cases hevent
    obtain ⟨hid, huser, hproduct, hprice, -⟩ := hsaid
    refine ⟨hstatus, hid, huser, hproduct, fun n hn hlt => ?_⟩
    -- an amount of the column's range is read back as it was written
    rw [hn, storedAmount_arriving hlt] at hprice
    exact (Option.some.inj hprice).symm

/-- A FAILED metric is that of a saga that can only throw. -/
theorem Joined.failed (h : Joined x s) {row : MetricRow} (hrow : row ∈ s.topic.effect.rows)
    (hstatus : row.status = .failed) :
    ∃ o error, row.orderId = some o ∧ s.orders.Published (.orderFailed o error) := by
  obtain ⟨event, hpub, hsaid⟩ := h.says hrow
  cases event with
  | orderFailed id error =>
    refine ⟨id, error, ?_, hpub⟩
    rw [show row = _ from hsaid]
  | orderCreated id userId productId quantity totalPrice userName productName createdAt =>
    rw [hsaid.2.2.2.2] at hstatus
    cases hstatus

/-- **The dashboard agrees with the orders**, in every state of any run of all the services, with any
    failures, duplicates and redeliveries: a CREATED metric is that of an order that stands CONFIRMED,
    with its user, its product and its price to the cent; a FAILED metric is that of a saga that can
    only throw; no order has both. -/
theorem metrics_agree (hrun : Runs x State.init s) :
    (∀ row ∈ s.topic.effect.rows, row.status = .created →
      ∃ order ∈ s.orders.orders, order.status = .confirmed ∧ Records row order) ∧
    (∀ row ∈ s.topic.effect.rows, row.status = .failed →
      ∃ o g err, row.orderId = some o ∧ s.orders.sagas o = some g ∧
        Throwing o err g.thread.prog) ∧
    ∀ row ∈ s.topic.effect.rows, ∀ row' ∈ s.topic.effect.rows, row.status = .created →
      row'.status = .failed → row.orderId ≠ row'.orderId := by
  have h := joined_of_runs hrun
  refine ⟨fun row hrow hstatus => ?_, fun row hrow hstatus => ?_,
    fun row hrow row' hrow' hcreated hfailed hsame => ?_⟩
  · obtain ⟨order, hmem, hconfirmed, -, -, hrecords⟩ := h.created hrow hstatus
    exact ⟨order, hmem, hconfirmed, hrecords⟩
  · obtain ⟨o, error, hid, hpub⟩ := h.failed hrow hstatus
    obtain ⟨g, err, hg, -, -, hthrow⟩ := h.events.failed hpub
    exact ⟨o, g, err, hid, hg, hthrow⟩
  · obtain ⟨order, -, -, -, hpub, hrecords⟩ := h.created hrow hcreated
    obtain ⟨o, error, hid, hpub'⟩ := h.failed hrow' hfailed
    obtain ⟨g, returned, hg, ⟨order', -, -, hmem⟩, -⟩ := h.events.created hpub trivial
    obtain ⟨g', -, hg', -, hnone, -⟩ := h.events.failed hpub'
    -- both rows would be of one order, whose saga has returned and has thrown
    have ho : o = order.id := Option.some.inj (hid.symm.trans (hsame.symm.trans hrecords.orderId))
    subst ho
    cases hg.symm.trans hg'
    exact hnone order' returned hmem

/-! ## The figures -/

/-- The CREATED rows. -/
def createdRows (d : Analytics.Metrics) : Analytics.Metrics :=
  d.filter fun row => decide (row.status = .created)

/-- The prices of these orders together. -/
def total (orders : List OrderRow) : Numeric :=
  (orders.map OrderRow.totalPrice).foldr Analytics.addNumeric (.hundredths 0)

/-- An amount from zero on that the column holds: ten digits before the point, two after it. -/
def IsAmount (amount : Numeric) : Prop := ∃ n : ℕ, amount = .hundredths n ∧ n < 10 ^ 12

/-- Such a price is in the metric as it is in the order. -/
theorem Records.price {row : MetricRow} {order : OrderRow} (h : Records row order)
    (hamount : IsAmount order.totalPrice) : row.totalPrice = order.totalPrice := by
  obtain ⟨n, hn, hlt⟩ := hamount
  rw [h.totalPrice n hn hlt, hn]

/-- The orders of these metrics, one for each: their prices are the same if they are amounts. -/
theorem orders_of_rows {rows : List MetricRow} {P : OrderRow → Prop}
    (h : ∀ row ∈ rows, ∃ order, P order ∧ Records row order) :
    ∃ orders : List OrderRow, (∀ order ∈ orders, P order) ∧
      rows.map MetricRow.orderId = orders.map (fun order => some order.id) ∧
      rows.map MetricRow.productName = orders.map (fun order => shownName order.productName) ∧
      ((∀ order ∈ orders, IsAmount order.totalPrice) →
        rows.map MetricRow.totalPrice = orders.map OrderRow.totalPrice) := by
  induction rows with
  | nil => exact ⟨[], fun _ ho => (nomatch ho), rfl, rfl, fun _ => rfl⟩
  | cons row rows ih =>
    obtain ⟨orders, hall, hids, hproducts, hprices⟩ :=
      ih fun row' hrow' => h row' (List.mem_cons_of_mem _ hrow')
    obtain ⟨order, horder, hrecords⟩ := h row List.mem_cons_self
    refine ⟨order :: orders, List.forall_mem_cons.mpr ⟨horder, hall⟩, ?_, ?_, fun hamounts => ?_⟩
    · rw [List.map_cons, List.map_cons, hids, hrecords.orderId]
    · rw [List.map_cons, List.map_cons, hproducts, hrecords.productName]
    · obtain ⟨hamount, hrest⟩ := List.forall_mem_cons.mp hamounts
      rw [List.map_cons, List.map_cons, hprices hrest, hrecords.price hamount]

/-- **No event falls out on the way.**  What is appended to the topic and lies below a committed offset
    was handed over by a saga, and is a metric that says the same, or a record of the DLQ with the text
    of the event and its place in the topic; unless the DLQ itself was out of order when it was given
    up.  No event is one the service does not know. -/
theorem published_accounted (hrun : Runs x State.init s) {p i : Nat} {r : Analytics.Record}
    (hr : s.topic.Has p i r) (hi : i < s.topic.committed p) :
    ∃ now event, s.orders.Published event ∧ r = x.record now event ∧
      ((∃ row ∈ s.topic.effect.rows, Says row event) ∨
        (∃ record ∈ s.topic.effect.dlq,
          record.originalValue = some (event.tree x.toISOString now).stringify ∧
          record.originalPartition = p ∧ record.originalOffset = toString i) ∨
        (p, i) ∈ s.topic.effect.refused) := by
  have h := joined_of_runs hrun
  obtain ⟨now, event, hpub, rfl⟩ := h.records p i r hr
  refine ⟨now, event, hpub, rfl, ?_⟩
  rcases PartitionLog.accounted Analytics.accounts h.topic hr hi with hsettled | hrefused
  · cases hsettled with
    | unknown value hvalue hunknown =>
      -- its type is one of the two
      obtain ⟨value', hvalue', hm⟩ := @metric_of_record x now event p i
      cases Except.ok.inj (hvalue.symm.trans hvalue')
      rw [metricOf_of_unknown hunknown] at hm
      cases hm
    | recorded row hrow hof => exact Or.inl ⟨row, hrow, says_of_record hof⟩
    | dead record hrecord hof =>
      obtain ⟨error, n, rfl⟩ := hof
      refine Or.inr (Or.inl ⟨_, hrecord, ?_, rfl, rfl⟩)
      show some (Utf8.decode (buffer (event.tree x.toISOString now))) = _
      unfold buffer
      rw [Utf8.decode_encode]
  · exact Or.inr (Or.inr hrefused)

end Metrics

/-! ## One pen -/

/-- Where no query fails, the record of an event becomes its metric. -/
theorem alone_record {x : Setting} {k now : Nat} {event : OrderEvent} {row : MetricRow}
    (hretries : x.kafkaRetries = k + 1) (hrow : (metric event).row x.columns.toColumns = some row)
    (p i : Nat) (e : Analytics.Effect) :
    ∃ w', Analytics.alone (Analytics.quiet x.columns.toColumns) (Analytics.processMessage Utf8.decode
        x.reader.parse x.kafkaRetries x.kafkaDelay ((x.record now event).message p i)) e.world =
          (.ok (), w') ∧ w'.rows = e.rows ++ [row] ∧ w'.dlq = e.dlq := by
  obtain ⟨value, hvalue, hm⟩ := @metric_of_record x now event p i
  obtain ⟨r, w', hrun, hrows, hdlq, -, hok⟩ :=
    @Analytics.recording_stores (Analytics.quiet x.columns.toColumns) e.world _ _ rfl hrow
  cases hok.mpr ⟨rfl, rfl⟩
  refine ⟨w', ?_, hrows, hdlq⟩
  unfold Analytics.processMessage
  rw [hvalue]
  dsimp only
  rw [hretries, Analytics.alone_attempt, Analytics.handleEvent_eq, hm]
  dsimp only
  rw [hrun]

/-- A record of an event that the columns take adds its row. -/
theorem handles_record {x : Setting} {k now : Nat} {event : OrderEvent} {row : MetricRow}
    (hretries : x.kafkaRetries = k + 1) (hrow : (metric event).row x.columns.toColumns = some row)
    (p i : Nat) (e : Analytics.Effect) :
    x.consumer.handles p i (x.record now event) e ⟨e.rows ++ [row], e.dlq, e.refused⟩ := by
  obtain ⟨w', hrun, hrows, hdlq⟩ := @alone_record x k now event row hretries hrow p i e
  refine ⟨Analytics.quiet x.columns.toColumns, w', rfl, hrun, ?_⟩
  rw [hrows, hdlq]
  rfl

/-- Every order costs ten units. -/
theorem ten_units {s : State} (h : Joined plainSetting s) {order : OrderRow}
    (horder : order ∈ s.orders.orders) : order.totalPrice = .hundredths (1000 : ℕ) := by
  obtain ⟨new, -, hstored⟩ := h.ordered.stored order horder
  exact (Option.some.inj hstored.1).symm

/-- The metric of an order that costs ten units. -/
theorem row_of_order {order : OrderRow} (hprice : order.totalPrice = .hundredths (1000 : ℕ)) :
    ∃ row, (metric (mapOrderToEvent order)).row plainColumns.toColumns = some row := by
  have hamount := amount_arriving plainColumns order.totalPrice.toNumber
  rw [hprice, storedAmount_arriving (by decide), ← hprice] at hamount
  -- an empty name has a place in the column too
  have hname : ∃ name, plainColumns.text ((JsValue.str order.productName).orElse .null) = some name := by
    unfold JsValue.orElse
    split
    · exact ⟨_, rfl⟩
    · exact ⟨_, rfl⟩
  obtain ⟨name, hname⟩ := hname
  refine ⟨⟨some order.id, some order.userId, name, order.totalPrice, .created⟩, ?_⟩
  show (do
    let orderId ← plainColumns.text (.str order.id)
    let userId ← plainColumns.text (.str order.userId)
    let productName ← plainColumns.text ((JsValue.str order.productName).orElse .null)
    let totalPrice ← plainColumns.amount ((arriving order.totalPrice.toNumber).orElse (.num 0.0))
    return (⟨orderId, userId, productName, totalPrice, .created⟩ : MetricRow)) = _
  rw [hname, hamount]
  rfl

/-- A pen is ordered, its event is published and stored, and the offset is committed. -/
theorem runs_onePen :
    ∃ s row, Runs plainSetting State.init s ∧ s.topic.effect.rows = [row] ∧ row.status = .created ∧
      0 < s.topic.committed 0 ∧ ∃ r, s.topic.Has 0 0 r := by
  obtain ⟨orders, hrun, g, order, hg, hret, hpub⟩ := Order.published_onePen
  have hordered : Runs plainSetting State.init { State.init with orders := orders } :=
    @runs_orders plainSetting orders State.init hrun
  have h := joined_of_runs hordered
  obtain ⟨hmem, -, -⟩ := Order.found_of_returned h.sound h.events h.rows hg hret
  obtain ⟨row, hrow⟩ := row_of_order (ten_units h hmem)
  have hsaid := @says_of_row plainSetting _ _ hrow
  have happended := hordered.tail (.event hpub 0 0)
  have hhandled := happended.tail (.group (@PartitionLog.Step.handle _ _ _ _ _ _ 0 rfl
    (handles_record rfl hrow 0 0 Analytics.Effect.none)) rfl)
  have hcommitted := hhandled.tail (.group (.commit 0 1 (Nat.le_refl 1)) rfl)
  exact ⟨_, row, hcommitted, rfl, hsaid.2.2.2.2, Nat.one_pos, _, rfl⟩

/-- Its metric is that of an order. -/
theorem metrics_agree_onePen :
    ∃ (s : State) (row : MetricRow) (order : OrderRow), s.topic.effect.rows = [row] ∧
      order ∈ s.orders.orders ∧ order.status = .confirmed ∧ Records row order := by
  obtain ⟨s, row, hrun, hrows, hcreated, -⟩ := runs_onePen
  obtain ⟨hall, -, -⟩ := metrics_agree hrun
  obtain ⟨order, horder, hconfirmed, hrecords⟩ :=
    hall row (by rw [hrows]; exact List.mem_cons_self) hcreated
  exact ⟨s, row, order, hrows, horder, hconfirmed, hrecords⟩

/-- Its event is accounted for. -/
theorem published_accounted_onePen :
    ∃ (s : State) (r : Analytics.Record) (now : Nat) (event : OrderEvent), s.topic.Has 0 0 r ∧
      s.orders.Published event ∧ r = plainSetting.record now event := by
  obtain ⟨s, row, hrun, -, -, hcommitted, r, hr⟩ := runs_onePen
  obtain ⟨now, event, hpub, hrecord, -⟩ := published_accounted hrun hr hcommitted
  exact ⟨s, r, now, event, hr, hpub, hrecord⟩

end Pipeline

end Microservices
