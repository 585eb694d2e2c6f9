/-
  Days on which nothing goes wrong on the way to the dashboard (order-service/src/sagas/create-order.saga.js,
  order-service/src/messaging/kafka.producer.js, analytics-service/src/messaging/consumer.js,
  analytics-service/src/repositories/analytics.repository.js).

  The sagas may fail as they like, and so may the notifications.  But an event that is appended is
  appended once, no query of the metrics fails, and the group neither is cut off nor reads again.
  Then the dashboard is not only right about orders, as it always is, but about how many there are:
  the events that were read are those of different orders, and the rows are theirs, in that order.
-/
import Mathlib.Data.List.ReduceOption
import Microservices.Lib.Ranking
import Microservices.Order.Once
import Microservices.Pipeline.Metrics

namespace Microservices.Pipeline

open Microservices.Order (OrderEvent OrderRow mapOrderToEvent buffer)
open Analytics (MetricRow NewMetric Record Effect)
open PartitionLog (Forward ForwardRuns)

/-! ## Calm steps -/

section Steps

variable (x : Setting)

/-- `eachMessage` while no query fails. -/
def Setting.calmConsumer : PartitionLog.Consumer Record Effect where
  handles p i r e e' := ∃ w',
    Analytics.alone (Analytics.quiet x.columns.toColumns) (Analytics.processMessage Utf8.decode
      x.reader.parse x.kafkaRetries x.kafkaDelay (r.message p i)) e.world = (.ok (), w') ∧
    e' = ⟨w'.rows, w'.dlq, e.refused⟩
  interrupted _ _ _ _ _ := False

/-- A step of a calm run: of anything but the topic, or an event that is appended for the first time,
    or a record that is read to the end. -/
inductive CalmStep : State → State → Prop where
  | other {s s' : State} (h : Step x s s') (htopic : s'.topic = s.topic) : CalmStep s s'
  | event {s : State} {event : OrderEvent} (h : s.orders.Published event)
      (hnew : ∀ q j now, ¬ s.topic.Has q j (x.record now event)) (now p : Nat) :
      CalmStep s
        { s with
          topic :=
            { s.topic with
              log := Function.update s.topic.log p (s.topic.log p ++ [x.record now event]) } }
  | read {s : State} {topic : PartitionLog.State Record Effect}
      (h : Forward x.calmConsumer s.topic topic) (hlog : topic.log = s.topic.log) :
      CalmStep s { s with topic := topic }

/-- A calm run. -/
def CalmRuns : State → State → Prop := Relation.ReflTransGen (CalmStep x)

/-- What a record adds to the table, if it is tried at all. -/
def Setting.rowOf (r : Record) : Option MetricRow :=
  Analytics.rowOf Utf8.decode x.reader.parse 1 x.columns.toColumns (r.message 0 0)

/-- The row of an event, if the database takes it. -/
def Setting.eventRow (event : OrderEvent) : Option MetricRow :=
  (metric event).row x.columns.toColumns

/-- What a calm state has. -/
structure Calm (s : State) : Prop where
  joined : Joined x s
  once : Order.OnceInv s.orders
  forward : ForwardRuns x.calmConsumer (.start Effect.none) s.topic
  /-- no two records are about one order -/
  single : ∀ p i q j r r', s.topic.Has p i r → s.topic.Has q j r' → r.key = r'.key →
    p = q ∧ i = j

end Steps

section Calm

variable {x : Setting} {s s' : State}

/-- A calm step is a step. -/
theorem CalmStep.step (h : CalmStep x s s') : Step x s s' := by
  cases h with
  | other h htopic => exact h
  | event h hnew now p => exact .event h now p
  | read h hlog =>
    refine .group (@PartitionLog.Step.mono _ _ x.calmConsumer _ _ x.consumer ?_ False.elim h.step) hlog
    rintro p i r e e' ⟨w', hrun, rfl⟩
    exact ⟨Analytics.quiet x.columns.toColumns, w', rfl, hrun, rfl⟩

/-- A record of a log to which one has been appended. -/
theorem has_appended {log : Nat → List Record} {p q j : Nat} {r r' : Record}
    (h : (Function.update log p (log p ++ [r]) q)[j]? = some r') :
    (log q)[j]? = some r' ∨ q = p ∧ j = (log p).length ∧ r' = r := by
  by_cases hq : q = p
  · subst hq
    rw [Function.update_self] at h
    -- an old record, or the one just written
    rcases Nat.lt_trichotomy j (log q).length with hlt | heq | hgt
    · rw [List.getElem?_append_left hlt] at h
      exact Or.inl h
    · subst heq
      rw [List.getElem?_concat_length] at h
      exact Or.inr ⟨rfl, rfl, (Option.some.inj h).symm⟩
    · rw [List.getElem?_eq_none (by simp; omega)] at h
      cases h
  · rw [Function.update_of_ne hq] at h
    exact Or.inl h

/-- Two events that were handed over are one if their records have one key. -/
theorem event_of_key (hevents : Order.EventsInv s.orders) (h : Order.OnceInv s.orders)
    {event event' : OrderEvent} {now now' : Nat}
    (hpub : s.orders.Published event) (hpub' : s.orders.Published event')
    (hkey : (x.record now event).key = (x.record now' event').key) : event = event' := by
  have hid : event.id = event'.id := by
    have hdecoded := congrArg Utf8.decode (Option.some.inj hkey)
    rwa [Utf8.decode_encode, Utf8.decode_encode] at hdecoded
  exact h.unique hevents hpub hpub' hid

/-- A calm run begins calm. -/
theorem calm_init : Calm x State.init where
  joined := joined_init
  once := Order.onceInv_init
  forward := .refl
  single _ _ _ _ _ _ h := nomatch h

/-- **Every calm step keeps it so.** -/
theorem calm_step (h : Calm x s) (hstep : CalmStep x s s') : Calm x s' := by
  have hjoined := joined_step h.joined hstep.step
  cases hstep with
  | other hstep htopic =>
    refine ⟨hjoined, ?_, htopic ▸ h.forward, htopic ▸ h.single⟩
    cases hstep with
    | order ev hev => exact Order.onceInv_step h.joined.events h.once hev
    | event hpub now p => exact h.once
    | group hgroup hlog => exact h.once
    | notification hn now correlationId => exact h.once
    | queue hqueues hpublished => exact h.once
  | @event event hpub hnew now p =>
    refine ⟨hjoined, h.once, h.forward.tail ⟨.append s.topic p (x.record now event),
      fun q => Nat.le_refl _⟩, ?_⟩
    -- the new record is about an order of which there is none
    have hother : ∀ q j r, s.topic.Has q j r → r.key ≠ (x.record now event).key := by
      intro q j r hr hkey
      obtain ⟨now', event', hpub', rfl⟩ := h.joined.records q j r hr
      obtain rfl := event_of_key h.joined.events h.once hpub' hpub hkey
      exact hnew q j now' hr
    intro q i q' j r r' hr hr' hkey
    rcases has_appended hr with hold | ⟨rfl, rfl, rfl⟩
    · rcases has_appended hr' with hold' | ⟨rfl, rfl, rfl⟩
      · exact h.single q i q' j r r' hold hold' hkey
      · exact absurd hkey (hother q i r hold)
    · rcases has_appended hr' with hold' | ⟨rfl, rfl, rfl⟩
      · exact absurd hkey.symm (hother q' j r' hold')
      · exact ⟨rfl, rfl⟩
  | @read topic hforward hlog =>
    refine ⟨hjoined, h.once, h.forward.tail hforward, ?_⟩
    intro q i q' j r r' hr hr' hkey
    change (topic.log q)[i]? = some r at hr
    change (topic.log q')[j]? = some r' at hr'
    rw [hlog] at hr hr'
    exact h.single q i q' j r r' hr hr' hkey

/-- So it is calm in every state. -/
theorem calm_of_runs (hrun : CalmRuns x State.init s) : Calm x s := by
  induction hrun with
  | refl => exact calm_init
  | tail _ hstep ih => exact calm_step ih hstep

/-! ## What has been read -/

/-- A call that resolves has added the row of its record, at its first attempt. -/
theorem calm_rows {p i : Nat} {r : Record} {e e' : Effect} (h : x.calmConsumer.handles p i r e e') :
    e'.rows = e.rows ++ (x.rowOf r).toList := by
  obtain ⟨w', hrun, rfl⟩ := h
  have hrows : w'.rows = (Analytics.alone (Analytics.quiet x.columns.toColumns)
      (Analytics.processMessage Utf8.decode x.reader.parse x.kafkaRetries x.kafkaDelay
        (r.message p i)) e.world).2.rows := by rw [hrun]
  show w'.rows = e.world.rows ++ (x.rowOf r).toList
  unfold Setting.rowOf Analytics.rowOf
  have hraw : (r.message 0 0).raw Utf8.decode = (r.message p i).raw Utf8.decode := rfl
  rw [hrows, hraw]
  unfold Analytics.processMessage at hrun ⊢
  cases hevent : x.reader.parse ((r.message p i).raw Utf8.decode) with
  | error err =>
    show (Analytics.alone _ (Analytics.sendToDlq Utf8.decode _ _ 0) _).2.rows = _
    rw [Analytics.alone_sendToDlq rfl]
    exact (List.append_nil _).symm
  | ok event =>
    rw [hevent] at hrun
    cases hretries : x.kafkaRetries with
    | zero =>
      -- without an attempt there is nothing to resolve
      rw [hretries] at hrun
      cases hrun
    | succ k => exact Analytics.attempts_rows event k 1 e.world

/-- What the table holds are the rows of what has been read. -/
theorem Calm.rows (h : Calm x s) : s.topic.effect.rows = s.topic.read.filterMap x.rowOf := by
  refine @PartitionLog.read_runs _ _ x.calmConsumer _ (fun L e => e.rows = L.filterMap x.rowOf) _ rfl
    ?_ h.forward
  intro L p i r e e' htally hhandles
  rw [calm_rows hhandles, htally, List.filterMap_append]
  cases hrow : x.rowOf r with
  | none => simp [hrow]
  | some row => simp [hrow]

/-- The row of the record of an event. -/
theorem rowOf_record (now : Nat) (event : OrderEvent) :
    x.rowOf (x.record now event) = x.eventRow event := by
  obtain ⟨value, hvalue, hm⟩ := @metric_of_record x now event 0 0
  unfold Setting.rowOf Analytics.rowOf
  rw [hvalue]
  show Analytics.eventRow _ value = _
  unfold Analytics.eventRow
  rw [hm]
  rfl

/-- The event of a record, at its place in the log. -/
structure At (x : Setting) (s : State) (q : (Nat × Nat) × OrderEvent) : Prop where
  published : s.orders.Published q.2
  there : ∃ now, s.topic.Has q.1.1 q.1.2 (x.record now q.2)

/-- The events at these places are those of different orders. -/
theorem Calm.events_at (h : Calm x s) {places : List (Nat × Nat)} (hnodup : places.Nodup)
    (hhas : ∀ place ∈ places, ∃ r, s.topic.Has place.1 place.2 r) :
    ∃ l : List ((Nat × Nat) × OrderEvent), l.map Prod.fst = places ∧
      (l.map fun q => q.2.id).Nodup ∧ ∀ q ∈ l, At x s q := by
  induction places with
  | nil => exact ⟨[], rfl, List.nodup_nil, fun q hq => absurd hq List.not_mem_nil⟩
  | cons place places ih =>
    obtain ⟨hnew, hrest⟩ := List.nodup_cons.mp hnodup
    obtain ⟨l, hplaces, hids, hall⟩ := ih hrest fun q hq => hhas q (List.mem_cons_of_mem place hq)
    obtain ⟨r, hr⟩ := hhas place List.mem_cons_self
    obtain ⟨now, event, hpub, rfl⟩ := h.joined.records _ _ r hr
    refine ⟨(place, event) :: l, congrArg (place :: ·) hplaces, List.nodup_cons.mpr ⟨?_, hids⟩,
      List.forall_mem_cons.mpr ⟨⟨hpub, now, hr⟩, hall⟩⟩
    intro hmem
    obtain ⟨q, hq, hid⟩ := List.mem_map.mp hmem
    obtain ⟨now', hr'⟩ := (hall q hq).there
    have hkey : (x.record now event).key = (x.record now' q.2).key :=
      congrArg (fun id => some (Utf8.encode id)) hid.symm
    obtain ⟨hp, hi⟩ := h.single _ _ _ _ _ _ hr hr' hkey
    -- two records of one key stand at one place
    have hplace : place = q.1 := Prod.ext hp hi
    rw [hplace, ← hplaces] at hnew
    exact hnew (List.mem_map_of_mem hq)

/-- **What a calm table is made of**: the rows of events of different orders, all of which have been
    handed over, one row for each that the database takes, in the order in which they were read; and
    every event that has been read is among them. -/
theorem Calm.read_events (h : Calm x s) :
    ∃ events : List OrderEvent, (events.map OrderEvent.id).Nodup ∧
      s.topic.effect.rows = events.filterMap x.eventRow ∧
      (∀ event ∈ events, s.orders.Published event) ∧
      ∀ event p i now, s.orders.Published event → s.topic.Has p i (x.record now event) →
        i < s.topic.position p → event ∈ events := by
  have honce := PartitionLog.once_of_runs h.forward
  obtain ⟨l, hplaces, hids, hall⟩ := h.events_at honce.nodup
    fun place hplace => PartitionLog.handled_has h.forward hplace
  refine ⟨l.map Prod.snd, ?_, ?_, ?_, ?_⟩
  · rw [List.map_map]
    exact hids
  · rw [h.rows]
    unfold PartitionLog.State.read
    rw [← hplaces, List.filterMap_filterMap, List.filterMap_map, List.filterMap_map]
    refine List.filterMap_congr fun q hq => ?_
    obtain ⟨now, hr⟩ := (hall q hq).there
    show ((s.topic.log q.1.1)[q.1.2]?.bind x.rowOf) = _
    have hrecord : (s.topic.log q.1.1)[q.1.2]? = some (x.record now q.2) := hr
    rw [hrecord]
    exact rowOf_record now q.2
  · intro event hmem
    obtain ⟨q, hq, rfl⟩ := List.mem_map.mp hmem
    exact (hall q hq).published
  · intro event p i now hpub hr hi
    have hread : (p, i) ∈ l.map Prod.fst := hplaces ▸ (honce.below p i).mpr hi
    obtain ⟨q, hq, hplace⟩ := List.mem_map.mp hread
    obtain ⟨hpub', now', hr'⟩ := hall q hq
    rw [hplace] at hr'
    -- an order's event is published once, so the key tells it
    have hsame := event_of_key h.joined.events h.once hpub hpub' (congrArg Record.key (Option.some.inj (hr.symm.trans hr')))
    rw [hsame]
    exact List.mem_map_of_mem hq

/-! ## The figures of a calm day -/

/-- The events have all been appended and read, and the database takes them. -/
structure CaughtUp (x : Setting) (s : State) : Prop where
  appended : ∀ event, s.orders.Published event → ∃ p i now, s.topic.Has p i (x.record now event)
  read : ∀ p, s.topic.position p = (s.topic.log p).length
  taken : ∀ event, s.orders.Published event → x.eventRow event ≠ none

/-- The order stands, and its event has been handed over. -/
def Announced (s : State) (order : OrderRow) : Prop :=
  s.orders.orders.findById order.id = some order ∧ s.orders.Published (mapOrderToEvent order)

/-- The order of a failed event. -/
def failedId : OrderEvent → Option String
  | .orderFailed id _ => some id
  | .orderCreated .. => none

/-- The row of an event names its order. -/
theorem Says.orderId {row : MetricRow} {event : OrderEvent} (h : Says row event) :
    row.orderId = some event.id := by
  cases event with
  | orderCreated id userId productId quantity totalPrice userName productName createdAt => exact h.1
  | orderFailed id error =>
    rw [show row = _ from h]
    rfl

/-- What is filtered out of a list is a part of the list. -/
theorem filterMap_sublist {α β : Type} {f : α → Option β} {g : α → β}
    (h : ∀ a b, f a = some b → b = g a) (l : List α) : (l.filterMap f).Sublist (l.map g) := by
  induction l with
  | nil => exact List.Sublist.refl _
  | cons a l ih =>
    cases hb : f a with
    | none =>
      rw [List.filterMap_cons_none hb]
      exact ih.cons _
    | some b =>
      rw [List.filterMap_cons_some hb, List.map_cons, h a b hb]
      exact ih.cons_cons _

/-- Rows of events of different orders are rows of different orders. -/
theorem orderIds_sublist (events : List OrderEvent) :
    ((events.filterMap x.eventRow).map MetricRow.orderId).Sublist
      (events.map fun event => some event.id) := by
  rw [List.map_filterMap]
  refine filterMap_sublist (fun event id hid => ?_) events
  obtain ⟨row, hrow, rfl⟩ := Option.map_eq_some_iff.mp hid
  exact (says_of_row hrow).orderId

/-- Only a failure has a failed order. -/
theorem failedId_eq {event : OrderEvent} {o : String} (h : failedId event = some o) :
    ∃ error, event = .orderFailed o error := by
  cases event with
  | orderCreated id userId productId quantity totalPrice userName productName createdAt => cases h
  | orderFailed id error =>
    cases h
    exact ⟨error, rfl⟩

/-- No order has two rows. -/
theorem Calm.nodup_orderId (h : Calm x s) : (s.topic.effect.rows.map MetricRow.orderId).Nodup := by
  obtain ⟨events, hids, hrows, -, -⟩ := h.read_events
  have hsome : (events.map fun event => some event.id).Nodup := by
    have hmap := hids.map (Option.some_injective String)
    rwa [List.map_map] at hmap
  rw [hrows]
  exact (orderIds_sublist events).nodup hsome

/-- As many FAILED rows as events that failed, if the database takes them. -/
theorem count_failed {events : List OrderEvent}
    (htaken : ∀ event ∈ events, x.eventRow event ≠ none) :
    (events.filterMap x.eventRow).countP
      (fun row => decide (row.status = .failed)) = (events.filterMap failedId).length := by
  induction events with
  | nil => rfl
  | cons event events ih =>
    obtain ⟨row, hrow⟩ := Option.ne_none_iff_exists'.mp (htaken event List.mem_cons_self)
    have hsaid := says_of_row hrow
    have hrest := ih fun event' hevent' => htaken event' (List.mem_cons_of_mem event hevent')
    rw [List.filterMap_cons_some hrow]
    -- a row is counted where its event says that the order has failed
    cases event with
    | orderCreated id userId productId quantity totalPrice userName productName createdAt =>
      rw [List.countP_cons_of_neg (by simp [hsaid.2.2.2.2]), hrest]
      rfl
    | orderFailed id error =>
      have hstatus : row.status = .failed := by rw [show row = _ from hsaid]
      rw [List.countP_cons_of_pos (by simp [hstatus]), hrest]
      rfl

/-- The orders of the CREATED rows. -/
theorem Calm.created_orders (h : Calm x s) :
    ∃ orders : List OrderRow, (∀ order ∈ orders, Announced s order) ∧ orders.Nodup ∧
      (createdRows s.topic.effect.rows).map MetricRow.orderId = orders.map (fun order => some order.id) ∧
      (createdRows s.topic.effect.rows).map MetricRow.productName =
        orders.map (fun order => shownName order.productName) ∧
      ((∀ order ∈ orders, IsAmount order.totalPrice) →
        (createdRows s.topic.effect.rows).map MetricRow.totalPrice =
          orders.map OrderRow.totalPrice) := by
  have hrows : ∀ row ∈ createdRows s.topic.effect.rows, ∃ order,
      Announced s order ∧ Records row order := by
    intro row hrow
    obtain ⟨hmem, hstatus⟩ := List.mem_filter.mp hrow
    obtain ⟨order, -, -, hfound, hpub, hrecords⟩ :=
      h.joined.created hmem (of_decide_eq_true hstatus)
    exact ⟨order, ⟨hfound, hpub⟩, hrecords⟩
  obtain ⟨orders, hall, hids, hproducts, hprices⟩ := orders_of_rows hrows
  -- an event gives one row, so no order is counted twice
  have hnodup : (orders.map fun order => some order.id).Nodup := by
    rw [← hids]
    exact (List.filter_sublist.map _).nodup h.nodup_orderId
  exact ⟨orders, hall, hnodup.of_map _, hids, hproducts, hprices⟩

/-- Once all has been read, these are the events that were handed over. -/
theorem Calm.all_read (h : Calm x s) (hall : CaughtUp x s) :
    ∃ events : List OrderEvent, (events.map OrderEvent.id).Nodup ∧
      s.topic.effect.rows = events.filterMap x.eventRow ∧
      ∀ event, event ∈ events ↔ s.orders.Published event := by
  obtain ⟨events, hids, hrows, hpublished, hread⟩ := h.read_events
  refine ⟨events, hids, hrows, fun event => ⟨hpublished event, fun hpub => ?_⟩⟩
  obtain ⟨p, i, now, hr⟩ := hall.appended event hpub
  have hi : i < s.topic.position p := by
    rw [hall.read p]
    exact (List.getElem?_eq_some_iff.mp hr).1
  exact hread event p i now hpub hr hi

/-- An event that was handed over has its row. -/
theorem Calm.row_of_published (h : Calm x s) (hall : CaughtUp x s) {event : OrderEvent}
    (hpub : s.orders.Published event) : ∃ row ∈ s.topic.effect.rows, Says row event := by
  obtain ⟨events, -, hrows, hread⟩ := h.all_read hall
  obtain ⟨row, hrow⟩ := Option.ne_none_iff_exists'.mp (hall.taken event hpub)
  refine ⟨row, ?_, says_of_row hrow⟩
  rw [hrows]
  exact List.mem_filterMap.mpr ⟨event, (hread event).mpr hpub, hrow⟩

/-- Once all has been read, the orders of the CREATED rows are those that have been announced. -/
theorem Calm.mem_created (h : Calm x s) (hall : CaughtUp x s) {orders : List OrderRow}
    (hannounced : ∀ order ∈ orders, Announced s order)
    (hids : (createdRows s.topic.effect.rows).map MetricRow.orderId =
      orders.map (fun order => some order.id)) (order : OrderRow) :
    order ∈ orders ↔ Announced s order := by
  refine ⟨hannounced order, fun hord => ?_⟩
  obtain ⟨row, hrow, hsaid⟩ := h.row_of_published hall hord.2
  have hcreated : row ∈ createdRows s.topic.effect.rows :=
    List.mem_filter.mpr ⟨hrow, decide_eq_true hsaid.2.2.2.2⟩
  have hmem : row.orderId ∈ orders.map fun order => some order.id := by
    rw [← hids]
    exact List.mem_map_of_mem hcreated
  rw [hsaid.orderId] at hmem
  obtain ⟨order', horder', hid⟩ := List.mem_map.mp hmem
  -- orders of one id are one order
  have hfound : s.orders.orders.findById order.id = some order' := by
    have hsame : order'.id = order.id := Option.some.inj hid
    rw [← hsame]
    exact (hannounced order' horder').1
  cases hord.1.symm.trans hfound
  exact horder'

/-- Every row is CREATED or FAILED. -/
theorem length_rows (rows : Analytics.Metrics) :
    rows.length = rows.countP (fun row => decide (row.status = .created)) +
      rows.countP fun row => decide (row.status = .failed) := by
  rw [List.length_eq_countP_add_countP fun row : MetricRow => decide (row.status = .created)]
  congr 1
  refine List.countP_congr fun row _ => ?_
  cases row.status <;> decide

/-- The products of a table are those of its CREATED rows. -/
theorem productNames_eq (rows : Analytics.Metrics) :
    rows.productNames = ((createdRows rows).map MetricRow.productName).reduceOption := by
  induction rows with
  | nil => rfl
  | cons row rows ih =>
    have hnames : Analytics.Metrics.productNames (row :: rows) =
        (if row.status = .created then row.productName else none).toList ++
          Analytics.Metrics.productNames rows := by
      unfold Analytics.Metrics.productNames
      rw [List.filterMap_cons]
      cases hname : (if row.status = .created then row.productName else none) with
      | none => rfl
      | some name => rfl
    -- only the rows of success are ranked
    by_cases hstatus : row.status = .created
    · have hcreated : createdRows (row :: rows) = row :: createdRows rows :=
        List.filter_cons_of_pos (decide_eq_true hstatus)
      rw [hnames, hcreated, if_pos hstatus, ih, List.map_cons]
      cases row.productName with
      | none => rfl
      | some name => rfl
    · have hcreated : createdRows (row :: rows) = createdRows rows :=
        List.filter_cons_of_neg fun h => hstatus (of_decide_eq_true h)
      rw [hnames, hcreated, if_neg hstatus, ih]
      rfl

/-- How many of the orders are for this product. -/
def ordersOf (orders : List OrderRow) (product : String) : Nat :=
  orders.countP fun order => decide (order.productName = product)

/-- The dashboard counts the orders of every product that has a name. -/
theorem count_shown (orders : List OrderRow) (product : String) :
    ((orders.map fun order => shownName order.productName).reduceOption).count product =
      if product = "" then 0 else ordersOf orders product := by
  induction orders with
  | nil =>
    unfold ordersOf
    simp
  | cons order orders ih =>
    have hcount : ordersOf (order :: orders) product =
        ordersOf orders product + if order.productName = product then 1 else 0 := by
      unfold ordersOf
      rw [List.countP_cons]
      simp only [decide_eq_true_eq]
    rw [List.map_cons, hcount]
    -- an empty name is stored as NULL, and not ranked
    by_cases hname : order.productName = ""
    · have hnone : shownName order.productName = none := if_pos hname
      rw [hnone, List.reduceOption_cons_of_none, ih, hname]
      split_ifs with hempty hsame
      · rfl
      · exact absurd hsame.symm hempty
      · rfl
    · have hsome : shownName order.productName = some order.productName := if_neg hname
      rw [hsome, List.reduceOption_cons_of_some, List.count_cons, ih]
      simp only [beq_iff_eq]
      split_ifs with hempty hsame
      · exact absurd (hsame.trans hempty) hname
      · rfl
      · rfl
      · rfl

/-- A record of its own is appended and read. -/
theorem calm_publish {k : Nat} (hretries : x.kafkaRetries = k + 1) {event : OrderEvent}
    (hpub : s.orders.Published event) (htaken : x.eventRow event ≠ none)
    (hnew : ∀ q j now, ¬ s.topic.Has q j (x.record now event))
    (hread : ∀ p, s.topic.position p = (s.topic.log p).length) :
    ∃ s', CalmRuns x s s' ∧ s'.orders = s.orders ∧
      (∀ p, s'.topic.position p = (s'.topic.log p).length) ∧
      s'.topic.Has 0 (s.topic.log 0).length (x.record 0 event) ∧
      ∀ q j r, s.topic.Has q j r → s'.topic.Has q j r := by
  obtain ⟨row, hrow⟩ := Option.ne_none_iff_exists'.mp htaken
  obtain ⟨w', hrun, hrows, hdlq⟩ := @alone_record x k 0 event row hretries hrow 0
    (s.topic.position 0) s.topic.effect
  let log := Function.update s.topic.log 0 (s.topic.log 0 ++ [x.record 0 event])
  have hself : log 0 = s.topic.log 0 ++ [x.record 0 event] := Function.update_self _ _ _
  have hlast : (log 0)[(s.topic.log 0).length]? = some (x.record 0 event) := by
    rw [hself]
    exact List.getElem?_concat_length
  have hnext : (log 0)[s.topic.position 0]? = some (x.record 0 event) := by
    rw [hread 0]
    exact hlast
  have hforward : ∀ p, s.topic.position p ≤
      Function.update s.topic.position 0 (s.topic.position 0 + 1) p :=
    @PartitionLog.forall_update _ s.topic.position 0 _ (fun p n => s.topic.position p ≤ n)
      (fun p => Nat.le_refl _) (Nat.le_succ _)
  have happended := CalmStep.event hpub hnew 0 0
  have hhandled : CalmStep x { s with topic := { s.topic with log := log } } _ :=
    .read ⟨.handle 0 hnext ⟨w', hrun, rfl⟩, hforward⟩ rfl
  refine ⟨_, .tail (.single happended) hhandled, rfl, fun p => ?_, hlast, fun q j r hr => ?_⟩
  · show Function.update s.topic.position 0 (s.topic.position 0 + 1) p = (log p).length
    by_cases hp : p = 0
    · rw [hp, Function.update_self, hself, List.length_append, hread 0]
      rfl
    · rw [Function.update_of_ne hp, hread p]
      exact congrArg List.length (Function.update_of_ne hp _ _).symm
  · exact @PartitionLog.log_step _ _ x.calmConsumer _ _ (.append s.topic 0 (x.record 0 event)) q j r hr

/-- Whatever has been handed over may be read: event by event. -/
theorem calm_publish_all {k : Nat} (hretries : x.kafkaRetries = k + 1) (events : List OrderEvent)
    (hpub : ∀ event ∈ events, s.orders.Published event)
    (htaken : ∀ event ∈ events, x.eventRow event ≠ none)
    (hread : ∀ p, s.topic.position p = (s.topic.log p).length) :
    ∃ s', CalmRuns x s s' ∧ s'.orders = s.orders ∧
      (∀ p, s'.topic.position p = (s'.topic.log p).length) ∧
      (∀ event ∈ events, ∃ p i now, s'.topic.Has p i (x.record now event)) ∧
      ∀ q j r, s.topic.Has q j r → s'.topic.Has q j r := by
  induction events generalizing s with
  | nil => exact ⟨s, .refl, rfl, hread, fun event hmem => absurd hmem List.not_mem_nil, fun q j r hr => hr⟩
  | cons event events ih =>
    -- the state in which this one has been read
    obtain ⟨s₁, hrun₁, horders₁, hread₁, ⟨p, i, now, hhas⟩, hkept₁⟩ : ∃ s₁, CalmRuns x s s₁ ∧
        s₁.orders = s.orders ∧ (∀ p, s₁.topic.position p = (s₁.topic.log p).length) ∧
        (∃ p i now, s₁.topic.Has p i (x.record now event)) ∧
        ∀ q j r, s.topic.Has q j r → s₁.topic.Has q j r := by
      by_cases hold : ∃ p i now, s.topic.Has p i (x.record now event)
      · exact ⟨s, .refl, rfl, hread, hold, fun q j r hr => hr⟩
      · obtain ⟨s₁, hrun₁, horders₁, hread₁, hhas, hkept₁⟩ := calm_publish hretries
          (hpub event List.mem_cons_self) (htaken event List.mem_cons_self)
          (fun q j now hr => hold ⟨q, j, now, hr⟩) hread
        exact ⟨s₁, hrun₁, horders₁, hread₁, ⟨0, _, 0, hhas⟩, hkept₁⟩
    obtain ⟨s', hrun, horders, hread', hall, hkept⟩ := ih
      (fun event' hmem => horders₁ ▸ hpub event' (List.mem_cons_of_mem event hmem))
      (fun event' hmem => htaken event' (List.mem_cons_of_mem event hmem)) hread₁
    exact ⟨s', hrun₁.trans hrun, horders.trans horders₁, hread',
      List.forall_mem_cons.mpr ⟨⟨p, i, now, hkept p i _ hhas⟩, hall⟩,
      fun q j r hr => hkept q j r (hkept₁ q j r hr)⟩

/-- **A calm day can always be had**: whatever the sagas have done, the dashboard may catch up with
    them, if the database takes their events. -/
theorem caught_up {k : Nat} (hretries : x.kafkaRetries = k + 1) {orders : Order.State}
    (hrun : Order.Runs x.numeric x.paymentRetries Order.State.init orders)
    (htaken : ∀ event, orders.Published event → x.eventRow event ≠ none) :
    ∃ s, CalmRuns x State.init s ∧ s.orders = orders ∧ CaughtUp x s := by
  have hordered : CalmRuns x State.init { State.init with orders := orders } := by
    clear htaken
    induction hrun with
    | refl => exact .refl
    | tail _ hstep ih =>
      obtain ⟨ev, -, hev⟩ := hstep
      exact ih.tail (.other (.order ev hev) rfl)
  -- what has been handed over is what the calls carry
  have hpublished : ∀ event, event ∈ orders.calls.flatMap (fun c => c.op.events) ↔
      orders.Published event := fun event => List.mem_flatMap
  obtain ⟨s, hrun', horders, hread, hall, -⟩ := @calm_publish_all x { State.init with orders := orders }
    k hretries (orders.calls.flatMap fun c => c.op.events) (fun event h => (hpublished event).mp h)
    (fun event h => htaken event ((hpublished event).mp h)) fun p => rfl
  refine ⟨s, hordered.trans hrun', horders, fun event hpub => ?_, hread, fun event hpub => ?_⟩
  · rw [horders] at hpub
    exact hall event ((hpublished event).mpr hpub)
  · rw [horders] at hpub
    exact htaken event hpub

end Calm

/-! ## One pen -/

/-- Its event is taken. -/
theorem taken_ten_units {s : State} (h : Joined plainSetting s) {event : OrderEvent}
    (hpub : s.orders.Published event) : plainSetting.eventRow event ≠ none := by
  cases event with
  | orderFailed id error => exact Option.some_ne_none _
  | orderCreated id userId productId quantity totalPrice userName productName createdAt =>
    obtain ⟨order, hmem, -, -, -, hevent⟩ := h.order_of_published hpub trivial
    obtain ⟨row, hrow⟩ := row_of_order (ten_units h hmem)
    rw [hevent]
    exact Option.ne_none_iff_exists'.mpr ⟨row, hrow⟩

/-- A pen is ordered on a calm day, and the dashboard catches up. -/
theorem calm_onePen :
    ∃ s order, CalmRuns plainSetting State.init s ∧ CaughtUp plainSetting s ∧ Announced s order ∧
      ∀ order ∈ s.orders.orders, IsAmount order.totalPrice := by
  obtain ⟨orders, hrun, g, order, hg, hret, hpub⟩ := Order.published_onePen
  have h := joined_of_runs (@runs_orders plainSetting orders State.init hrun)
  obtain ⟨hmem, hfound, -⟩ := Order.found_of_returned h.sound h.events h.rows hg hret
  obtain ⟨s, hcalm, rfl, hall⟩ := @caught_up plainSetting 2 rfl orders hrun
    fun event hpub => taken_ten_units h hpub
  have h' := (calm_of_runs hcalm).joined
  obtain ⟨hid, -⟩ := h.events.row_of_returned hg hret
  rw [← hid] at hfound
  exact ⟨s, order, hcalm, hall, ⟨hfound, hpub⟩, fun order hmem => ⟨1000, ten_units h' hmem, by decide⟩⟩

end Microservices.Pipeline
