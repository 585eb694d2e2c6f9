/-
  From an order to the mail of its customer (notification-service/src/services/email.service.js,
  notification-service/src/handlers/notification.handler.js,
  notification-service/src/messaging/consumer.js, order-service/src/sagas/create-order.saga.js,
  order-service/src/messaging/rabbitmq.publisher.js).

  A notification goes through the main queue, any number of rounds through the retry queue, and
  redeliveries; its handler reads it without a schema.  `mails_agree` says what the mail is worth that
  comes out of this.
-/
import Microservices.Pipeline.System

namespace Microservices

namespace Notification

/-! ## The mail -/

/-- The mail of `sendOrderConfirmation`. -/
structure Mail where
  sender : String
  recipient : JsValue
  subject : String
  body : String

section Email

variable (c : Conversions) (sender : String)

/-- `sendOrderConfirmation`; `fails` is whether the provider fails this time. -/
def sendOrderConfirmation (fails : Bool) (orderData : JsValue) : Except JsError Mail := do
  let orderId ← orderData.destructure "orderData" "orderId"
  let userName := orderData.field "userName"
  let userEmail := orderData.field "userEmail"
  let productName := orderData.field "productName"
  let quantity := orderData.field "quantity"
  let totalPrice := orderData.field "totalPrice"
  if fails then
    throw { message := "Email provider temporary failure" }
  let subject := "Order Confirmation - #" ++ (← orderId.toText c)
  let body := "Hi " ++ (← userName.toText c) ++ ", your order " ++ (← orderId.toText c) ++ " (" ++
    (← productName.toText c) ++ " x" ++ (← quantity.toText c) ++ ", total $" ++
    (← totalPrice.toText c) ++ ") has been confirmed. Thank you!"
  return ⟨sender, userEmail, subject, body⟩

/-- How `sendOrderConfirmation` ends for its caller. -/
def sentOf (fails : Bool) (content : JsValue) : Except JsError Unit :=
  (sendOrderConfirmation c sender fails content).map fun _ => ()

end Email

end Notification

namespace Pipeline

open Microservices.Order (OrderRow notificationOf arriving)
open Notification (Mail sendOrderConfirmation sentOf safeParse process)

/-! ## What a notification becomes -/

/-- A number in a text: what cannot be said in JSON is `null`. -/
def numberIn (c : Conversions) (x : Float) : String :=
  match arriving x with
  | .num y => c.string y
  | _ => "null"

/-- The mail about an order. -/
def mailOf (c : Conversions) (sender : String) (order : OrderRow) : Mail where
  sender := sender
  recipient := .str (if order.userEmail = "" then "customer@example.com" else order.userEmail)
  subject := "Order Confirmation - #" ++ order.id
  body := "Hi " ++ order.userName ++ ", your order " ++ order.id ++ " (" ++ order.productName ++ " x" ++
    numberIn c (Float.ofInt order.quantity.toInt) ++ ", total $" ++
    numberIn c order.totalPrice.toNumber ++ ") has been confirmed. Thank you!"

section Mails

variable {x : Setting} {s : State} {c : Conversions} {sender : String}

/-- A notification as the consumer parses it. -/
theorem notification_value (message : Order.Notification) (now : Nat) :
    (message.tree x.toISOString now).value =
      .obj [("timestamp", .str (x.toISOString now)), ("totalPrice", arriving message.totalPrice),
        ("quantity", arriving (Float.ofInt message.quantity.toInt)),
        ("productName", .str message.productName), ("userEmail", .str message.userEmail),
        ("userName", .str message.userName), ("orderId", .str message.orderId)] := by
  unfold Order.Notification.tree arriving
  simp only [Json.Tree.value, Json.fieldValues, List.reverse_cons, List.reverse_nil, List.nil_append,
    List.cons_append]

/-- A number in a text is written as it arrives. -/
theorem toText_arriving (y : Float) : (arriving y).toText c = .ok (numberIn c y) := by
  unfold numberIn
  rcases Order.arriving_cases y with ⟨z, hz⟩ | hnull
  · rw [hz, JsValue.toText]
  · rw [hnull, JsValue.toText]

/-- The consumer reads what the publisher has written. -/
theorem safeParse_content (message : Order.Notification) (now : Nat) :
    safeParse Utf8.decode x.reader.parse (x.content now message) =
      (message.tree x.toISOString now).value := by
  unfold safeParse Setting.content
  rw [Order.parse_buffer]

/-- The mail of the notification of an order is the mail of the order. -/
theorem mail_of_notification (order : OrderRow) (now : Nat) :
    sendOrderConfirmation c sender false ((notificationOf order).tree x.toISOString now).value =
      .ok (mailOf c sender order) := by
  have hquantity := @toText_arriving c (Float.ofInt order.quantity.toInt)
  have htotal := @toText_arriving c order.totalPrice.toNumber
  rw [notification_value]
  unfold sendOrderConfirmation
  -- the template, with what each placeholder becomes
  show (do
    let subject := "Order Confirmation - #" ++ (← JsValue.toText c (.str order.id))
    let body := "Hi " ++ (← JsValue.toText c (.str order.userName)) ++ ", your order " ++
      (← JsValue.toText c (.str order.id)) ++ " (" ++ (← JsValue.toText c (.str order.productName)) ++
      " x" ++ (← (arriving (Float.ofInt order.quantity.toInt)).toText c) ++ ", total $" ++
      (← (arriving order.totalPrice.toNumber).toText c) ++ ") has been confirmed. Thank you!"
    return ⟨sender, .str (notificationOf order).userEmail, subject, body⟩ : Except JsError Mail) = _
  simp only [hquantity, htotal, JsValue.toText]
  rfl

/-- It is no invalid payload. -/
theorem process_notification (message : Order.Notification) (now : Nat) (sent : Except JsError Unit) :
    process sent (message.tree x.toISOString now).value = sent := by
  rw [notification_value]
  rfl

/-- The handler of this copy confirms an order that stands: it fails only where the provider does, and
    where that works its mail is the one about the order. -/
def Confirms (x : Setting) (orders : Order.State) (m : Notification.Copy) : Prop :=
  ∃ order ∈ orders.orders, order.status = .confirmed ∧ m.properties.messageId = some order.id ∧
    ∀ c sender, let content := safeParse Utf8.decode x.reader.parse m.content
      sendOrderConfirmation c sender false content = .ok (mailOf c sender order) ∧
      ∀ fails, process (sentOf c sender fails content) content =
        if fails then .error { message := "Email provider temporary failure" } else .ok ()

/-- **A customer hears of orders only, and of what was ordered.**  In every state of any run of all the
    services: whatever copy of whatever notification is delivered, for the first time or after any
    number of retries, its handler fails only if the provider does, its order stands CONFIRMED, and its
    mail goes to that order's customer and tells its id, product, quantity and price. -/
theorem mails_agree (hrun : Runs x State.init s) :
    Notification.Everywhere (Confirms x s.orders) s.queues := by
  have h := joined_of_runs hrun
  refine h.copies.mono fun m hm => ?_
  obtain ⟨message, now, hnotified, hcontent, hid⟩ := hm
  -- a copy carries a message that the saga of some order has sent
  obtain ⟨o, g, order, hg, hret, rfl⟩ := h.events.notified hnotified
  obtain ⟨hmem, -, hconfirmed⟩ := Order.found_of_returned h.sound h.events h.rows hg hret
  refine ⟨order, hmem, hconfirmed, hid, fun c sender => ?_⟩
  rw [hcontent, safeParse_content]
  refine ⟨mail_of_notification order now, fun fails => ?_⟩
  rw [process_notification]
  unfold sentOf
  cases fails with
  | true => rfl
  | false =>
    rw [mail_of_notification]
    rfl

end Mails

/-! ## One pen -/

/-- A pen is ordered, its notification is published and delivered. -/
theorem runs_delivered :
    ∃ s d, Runs plainSetting State.init s ∧ s.queues.handling = [d] := by
  obtain ⟨orders, hrun, g, order, hg, hret, hpub⟩ := Order.published_onePen
  have hordered : Runs plainSetting State.init { State.init with orders := orders } :=
    @runs_orders plainSetting orders State.init hrun
  have h := joined_of_runs hordered
  obtain ⟨c, hc, hmem⟩ := hpub
  -- the saga of one pen has sent its notification
  have hnotified : ∃ message, orders.Notified message := by
    obtain ⟨o, g', -, ⟨row, hop, -⟩ | ⟨err, hop, -⟩⟩ := h.events.published hc (Order.SagaOp.not_quiet_of_event hmem)
    · refine ⟨notificationOf row, c, hc, ?_⟩
      rw [hop]
      exact List.mem_cons_self
    · rw [hop] at hmem
      cases List.mem_singleton.mp hmem
  obtain ⟨message, hnotified⟩ := hnotified
  have hqueued := hordered.tail (.notification hnotified 0 none)
  have hdelivered := hqueued.tail (.queue (Or.inl (@Notification.Move.deliver _ _ _ _ [] [] 0 rfl rfl)) rfl)
  exact ⟨_, _, hdelivered, rfl⟩

/-- Its handler confirms the order. -/
theorem mails_agree_delivered :
    ∃ (s : State) (d : Notification.Delivery), s.queues.handling = [d] ∧
      Confirms plainSetting s.orders d.copy := by
  obtain ⟨s, d, hrun, hhandling⟩ := runs_delivered
  refine ⟨s, d, hhandling, (mails_agree hrun).handling d ?_⟩
  rw [hhandling]
  exact List.mem_cons_self

end Pipeline

end Microservices
