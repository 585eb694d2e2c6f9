/-
  The services together (order-service/src/messaging/kafka.producer.js,
  order-service/src/messaging/rabbitmq.publisher.js, analytics-service/src/messaging/consumer.js,
  notification-service/src/messaging/consumer.js).

  Sagas with the payment service and the orders table; the topic of events with the group that reads
  it; the queues of notifications with their consumers.  Each goes on by itself.  What joins them is
  text: the broker of events appends the text of an event that a saga has handed to it, the broker of
  notifications that of a notification, as often as a producer sends it again, as late as it likes,
  or never.

  `Joined` is what every reachable state has from its three parts.
-/
import Microservices.Analytics.Group
import Microservices.Notification.NeverLost
import Microservices.Notification.Relay
import Microservices.Order.ReadBack
import Microservices.Pipeline.Text

namespace Microservices

namespace Pipeline

open Microservices.Order (OrderEvent OrderRow buffer)

/-! ## Settings -/

/-- How Postgres reads the parameters of an `INSERT` of a metric: a text as it is, if it takes it, and
    a number by its digits. -/
structure PgColumns extends Analytics.Columns where
  text_str : ∀ s v, text (.str s) = some v → v = some s
  text_null : text .null = some none
  amount_num : ∀ x, amount (.num x) = numericColumn (numberText x)

/-- What the services are configured with, and what is not their code. -/
structure Setting where
  numeric : Float → Option Numeric
  paymentRetries : Nat
  toISOString : Nat → String
  reader : JsonReader
  columns : PgColumns
  kafkaRetries : Nat
  kafkaDelay : Nat
  number : Notification.Field → Except JsError Int
  encodes : Notification.Copy → Option JsError
  expired : Notification.Headers → Notification.Headers
  rejected : Notification.Headers → Notification.Headers
  notificationRetries : Nat

namespace Setting

variable (x : Setting)

/-- The consumer of events. -/
def consumer : PartitionLog.Consumer Analytics.Record Analytics.Effect :=
  Analytics.consumer Utf8.decode x.reader.parse x.kafkaRetries x.kafkaDelay x.columns.toColumns

/-- What the consumer of notifications runs on. -/
def outside : Notification.Outside where
  decode := Utf8.decode
  parse := x.reader.parse
  number := x.number
  encodes := x.encodes
  expired := x.expired
  rejected := x.rejected

/-- The message of `publishOrderEvent`; its headers are not read into a metric. -/
def record (now : Nat) (event : OrderEvent) : Analytics.Record where
  key := some (Utf8.encode event.id)
  value := some (buffer (event.tree x.toISOString now))

/-- The content of the message of `publishNotification`. -/
def content (now : Nat) (message : Order.Notification) : List UInt8 :=
  buffer (message.tree x.toISOString now)

end Setting

/-! ## The system -/

end Pipeline

namespace Order

section Step

variable {numeric : Float → Option Numeric} {maxRetries : Nat} {s s' : State} {ev : Event}

/-- What has been handed over stays so. -/
theorem published_step (hstep : Step numeric maxRetries s ev s') {event : OrderEvent}
    (h : s.Published event) : s'.Published event := by
  obtain ⟨c, hc, hmem⟩ := h
  obtain ⟨c', hc', hop⟩ := (asked_step hstep).1 ⟨c, hc, rfl⟩
  exact ⟨c', hc', hop ▸ hmem⟩

/-- What has been sent stays so. -/
theorem notified_step (hstep : Step numeric maxRetries s ev s') {message : Notification}
    (h : s.Notified message) : s'.Notified message := by
  obtain ⟨c, hc, hmem⟩ := h
  obtain ⟨c', hc', hop⟩ := (asked_step hstep).1 ⟨c, hc, rfl⟩
  exact ⟨c', hc', hop ▸ hmem⟩

end Step

end Order

namespace Pipeline

open Microservices.Order (OrderEvent OrderRow)

/-- The three parts. -/
structure State where
  orders : Order.State
  topic : PartitionLog.State Analytics.Record Analytics.Effect
  queues : Notification.State

/-- Nothing ordered. -/
def State.init : State := ⟨Order.State.init, .start Analytics.Effect.none, Notification.State.init⟩

section Steps

variable (x : Setting)

/-- One step of one of the parts, or a message on its way from the first to another. -/
inductive Step : State → State → Prop where
  | order {s : State} {orders : Order.State} (ev : Order.Event)
      (h : Order.Step x.numeric x.paymentRetries s.orders ev orders) :
      Step s { s with orders := orders }
  | event {s : State} {event : OrderEvent} (h : s.orders.Published event) (now p : Nat) :
      Step s
        { s with
          topic :=
            { s.topic with
              log := Function.update s.topic.log p (s.topic.log p ++ [x.record now event]) } }
  | group {s : State} {topic : PartitionLog.State Analytics.Record Analytics.Effect}
      (h : PartitionLog.Step x.consumer s.topic topic) (hlog : topic.log = s.topic.log) :
      Step s { s with topic := topic }
  | notification {s : State} {message : Order.Notification} (h : s.orders.Notified message)
      (now : Nat) (correlationId : Option String) :
      Step s
        { s with
          queues := s.queues.publish ⟨some message.orderId, correlationId, none, true⟩
            (x.content now message) }
  | queue {s : State} {queues : Notification.State}
      (h : Notification.Move x.outside x.notificationRetries s.queues queues ∨
        Notification.Fault s.queues queues)
      (hpublished : queues.published = s.queues.published) : Step s { s with queues := queues }

/-- Any run. -/
def Runs : State → State → Prop := Relation.ReflTransGen (Step x)

/-- A copy carries a notification that a saga has handed over, under the id of its order. -/
def Genuine (orders : Order.State) (m : Notification.Copy) : Prop :=
  ∃ message now, orders.Notified message ∧ m.content = x.content now message ∧
    m.properties.messageId = some message.orderId

/-- What a state has from its parts. -/
structure Joined (s : State) : Prop where
  sound : Order.Inv x.numeric s.orders
  ordered : Order.OrdersInv x.numeric s.orders
  events : Order.EventsInv s.orders
  rows : Order.RowsInv s.orders
  topic : PartitionLog.Runs x.consumer (.start Analytics.Effect.none) s.topic
  /-- a record of the log is the text of an event that was handed to the broker -/
  records : ∀ p i r, s.topic.Has p i r → ∃ now event, s.orders.Published event ∧ r = x.record now event
  reachable : Notification.Reachable x.outside x.notificationRetries s.queues
  copies : Notification.Everywhere (Genuine x s.orders) s.queues

end Steps

section Joined

variable {x : Setting} {s s' : State}

/-- A copy of a genuine notification is genuine. -/
theorem relayed_genuine (orders : Order.State) : Notification.Relayed (Genuine x orders) where
  retried _ h := h
  withHeaders _ _ h := h

/-- A notification that a saga sends is genuine. -/
theorem genuine_publish {orders : Order.State} {message : Order.Notification}
    (h : orders.Notified message) {now : Nat} {content : List UInt8}
    (hcontent : content = x.content now message) (i : Nat) (correlationId : Option String) :
    Genuine x orders ⟨i, ⟨some message.orderId, correlationId, none, true⟩, content⟩ :=
  ⟨message, now, h, hcontent, rfl⟩

/-- The services begin joined. -/
theorem joined_init : Joined x State.init where
  sound := Order.inv_init x.numeric
  ordered := Order.ordersInv_init
  events := Order.eventsInv_init
  rows := Order.rowsInv_init
  topic := .refl
  records _ _ _ h := nomatch h
  reachable := .refl
  copies := .init

/-- Each part goes its way, and what comes from another part stays true of it. -/
theorem joined_step (h : Joined x s) (hstep : Step x s s') : Joined x s' := by
  cases hstep with
  | order ev hev =>
    refine ⟨Order.inv_step h.sound hev, Order.ordersInv_step h.sound h.ordered hev,
      Order.eventsInv_step h.sound h.events hev, Order.rowsInv_step h.sound h.ordered h.rows hev,
      h.topic, fun p i r hr => ?_, h.reachable, h.copies.mono fun m hm => ?_⟩
    · obtain ⟨now, event, hpub, hrecord⟩ := h.records p i r hr
      exact ⟨now, event, Order.published_step hev hpub, hrecord⟩
    · obtain ⟨message, now, hnotified, hcontent⟩ := hm
      exact ⟨message, now, Order.notified_step hev hnotified, hcontent⟩
  | @event event hpub now p =>
    refine ⟨h.sound, h.ordered, h.events, h.rows,
      h.topic.tail (.append s.topic p (x.record now event)), ?_, h.reachable, h.copies⟩
    refine @PartitionLog.forall_update _ s.topic.log p _
      (fun _ l => ∀ i r, l[i]? = some r → ∃ now event, s.orders.Published event ∧ r = x.record now event)
      h.records ?_
    intro i r hr
    -- the new record is that of the event
    rcases List.mem_append.mp (List.mem_of_getElem? hr) with hold | hnew
    · obtain ⟨j, hj⟩ := List.getElem?_of_mem hold
      exact h.records p j r hj
    · exact ⟨now, event, hpub, List.mem_singleton.mp hnew⟩
  | @group topic hgroup hlog =>
    refine ⟨h.sound, h.ordered, h.events, h.rows, h.topic.tail hgroup, fun p i r hr => ?_, h.reachable,
      h.copies⟩
    change (topic.log p)[i]? = some r at hr
    rw [hlog] at hr
    exact h.records p i r hr
  | @notification message hnotified now correlationId =>
    have hgenuine := @genuine_publish x _ _ hnotified now _ rfl s.queues.published.length correlationId
    exact ⟨h.sound, h.ordered, h.events, h.rows, h.topic, h.records,
      h.reachable.tail (Or.inl (.publish s.queues _ _)), h.copies.publish _ _ hgenuine⟩
  | @queue queues hqueues hpublished =>
    refine ⟨h.sound, h.ordered, h.events, h.rows, h.topic, h.records, h.reachable.tail hqueues, ?_⟩
    rcases hqueues with hmove | hfault
    · exact h.copies.move (relayed_genuine s.orders) hmove hpublished
    · exact h.copies.fault hfault

/-- They are so in every state of a run. -/
theorem joined_of_runs (hrun : Runs x State.init s) : Joined x s := by
  induction hrun with
  | refl => exact joined_init
  | tail _ hstep ih => exact joined_step ih hstep

/-- What the group has done was done for records that are in the log. -/
theorem Joined.sourced (h : Joined x s) :
    Analytics.Sourced Utf8.decode x.reader.parse x.columns.toColumns s.topic.Has s.topic.effect := by
  refine PartitionLog.traced Analytics.traces ⟨fun row hrow => ?_, fun record hrecord => ?_⟩ h.topic
  · cases hrow
  · cases hrecord

end Joined

/-! ## Plain settings -/

/-- A server that takes every text. -/
def plainColumns : PgColumns where
  text := fun v =>
    match v with
    | .str s => some (some s)
    | .null => some none
    | _ => none
  amount := fun v =>
    match v with
    | .num y => numericColumn (numberText y)
    | _ => none
  text_str _ _ h := (Option.some.inj h).symm
  text_null := rfl
  amount_num _ := rfl

/-- Three attempts everywhere, a clock that stands, and prices of ten units. -/
def plainSetting : Setting where
  numeric := Order.tenUnits
  paymentRetries := 3
  toISOString := fun _ => "2024-01-01T00:00:00.000Z"
  reader := .plain "Unexpected token"
  columns := plainColumns
  kafkaRetries := 3
  kafkaDelay := 1000
  number := fun _ => .ok 0
  encodes := fun _ => none
  expired := fun headers => headers
  rejected := fun headers => headers
  notificationRetries := 3

/-- The sagas go on, and nobody else. -/
theorem runs_orders {x : Setting} {orders : Order.State} {s : State}
    (hrun : Order.Runs x.numeric x.paymentRetries s.orders orders) :
    Runs x s { s with orders := orders } := by
  induction hrun with
  | refl => exact .refl
  | tail _ hstep ih =>
    obtain ⟨ev, -, hev⟩ := hstep
    exact ih.tail (.order ev hev)

end Pipeline

end Microservices
