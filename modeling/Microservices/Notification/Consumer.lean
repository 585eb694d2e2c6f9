/-
  The notification consumer (notification-service/src/messaging/consumer.js,
  notification-service/src/handlers/notification.handler.js).

  `handleMessage` awaits one thing, `handler.process`.  What follows runs without an await: it acks,
  nacks, or publishes a copy to the retry queue and acks.  So a handler that completes writes all
  its frames at once, to a channel that is open or not.

  The handler is written once, over any channel that sends frames or throws (`Channel`).  Here it
  runs on one that is open or closed from its start to its end (`Side`), which is all that the model
  of the broker needs; its limit is the number that the configuration has read.

  amqplib decides what it cannot encode (`encodes`); `JSON.parse`, the decoding of a buffer, and
  `Number(v) || 0` of what is no integer (`number`, rounded down, which may throw) are any functions.
-/
import Microservices.Js
import Microservices.ParseInt

namespace Microservices.Notification

/-! ## Messages -/

/-- A value of an AMQP field table, as amqplib decodes it. -/
inductive Field : Type where
  | void
  | bool (b : Bool)
  | int (n : Int)
  | double (x : Float)
  | str (s : String)
  | bytes (b : List UInt8)
  | array (xs : List Field)
  | table (fields : List (String × Field))

namespace Field

/-- `v.name`; a void field is a JavaScript `null`. -/
def get (name : String) : Field → Except JsError (Option Field)
  | void => .error { message := "Cannot read properties of null (reading '" ++ name ++ "')" }
  | table fields => .ok ((fields.find? fun entry => decide (entry.1 = name)).map Prod.snd)
  | _ => .ok none

/-- `v === s` for a string `s`. -/
def isStr (s : String) : Option Field → Bool
  | some (str t) => decide (t = s)
  | _ => false

end Field

/-- The headers of a message, if it has any. -/
abbrev Headers : Type := Option (List (String × Field))

/-- `headers?.["x-death"]`. -/
def Headers.xDeath (headers : Headers) : Option Field :=
  headers.bind fun fields => (fields.find? fun entry => decide (entry.1 = "x-death")).map Prod.snd

/-- The AMQP properties this service reads or sets. -/
structure Properties where
  messageId : Option String
  correlationId : Option String
  headers : Headers
  persistent : Bool

/-- A message in a queue or on its way there.  `message` says which of the published messages it is
    a copy of; nobody reads it. -/
structure Copy where
  message : Nat
  properties : Properties
  content : List UInt8

/-- A delivery of a copy on a channel. -/
structure Delivery where
  channel : Nat
  deliveryTag : Nat
  copy : Copy

/-- What the consumer sends on a channel.  An ack or a nack carries the tag of its delivery only; the
    rest of the delivery is for the proofs.  Messages are published to the retry queue. -/
inductive Frame : Type where
  | publish (channel : Nat) (copy : Copy)
  | ack (msg : Delivery)
  | nack (msg : Delivery)

/-- The channel a frame is sent on. -/
def Frame.channel : Frame → Nat
  | .publish channel _ => channel
  | .ack msg => msg.channel
  | .nack msg => msg.channel

/-! ## The channel, on the side of the consumer -/

/-- What a handler does to the world, in a monad that throws: it sends a frame on its channel, and its
    call of `handler.process` comes to an end. -/
structure Channel (M : Type → Type) where
  send : Frame → M Unit
  processed : Bool → M Unit

/-- A handler at work: whether its channel is open, the frames it has sent, and the outcomes of its
    calls of `handler.process`. -/
structure Side where
  isOpen : Bool
  frames : List Frame
  processed : List Bool

/-- Code that runs without an await. -/
abbrev ChannelM (α : Type) : Type := ExceptT JsError (StateM Side) α

/-- What amqplib throws once the channel is closed. -/
def channelClosed : JsError := { message := "Channel closed" }

/-- A channel that stays as it is while a handler runs. -/
def Side.channel : Channel ChannelM where
  send frame := do
    let side ← get
    if side.isOpen then
      set { side with frames := side.frames ++ [frame] }
    else
      throw channelClosed
  processed ok := modify fun side => { side with processed := side.processed ++ [ok] }

/-! ## The consumer -/

/-- `config.rabbitmq.retryQueue`. -/
def retryQueue : String := "order_notifications_retry"

section Consumer

variable (decode : List UInt8 → String) (parse : String → Except JsError JsValue)
variable (number : Field → Except JsError Int) (encodes : Copy → Option JsError) (maxRetries : Whole)

/-- The test `retryCountOf` puts to each entry of `x-death`. -/
def isExpiry (d : Field) : Except JsError Bool := do
  if Field.isStr retryQueue (← d.get "queue") then
    return Field.isStr "expired" (← d.get "reason")
  else
    return false

/-- The first entry that passes. -/
def findExpiry : List Field → Except JsError (Option Field)
  | [] => return none
  | d :: deaths => do
    if ← isExpiry d then
      return some d
    else
      findExpiry deaths

/-- `Number(count) || 0`. -/
def countOf : Option Field → Except JsError Int
  | none => return 0
  | some (.int n) => return n
  | some v => number v

/-- `retryCountOf`. -/
def retryCountOf (headers : Headers) : Except JsError Int :=
  match headers.xDeath with
  | some (.array deaths) => do
    match ← findExpiry deaths with
    | some entry => countOf number (← entry.get "count")
    | none => return 0
  | _ => return 0

/-- `safeParse`. -/
def safeParse (content : List UInt8) : JsValue :=
  match parse (decode content) with
  | .ok value => value
  | .error _ => .null

/-- `handler.process`, if `sendOrderConfirmation` ends as `sent`. -/
def process (sent : Except JsError Unit) (content : JsValue) : Except JsError Unit :=
  if !content.truthy then .error { message := "Invalid message payload" } else sent

/-- What `scheduleRetry` sends of a delivery. -/
def retried (msg : Delivery) : Copy where
  message := msg.copy.message
  properties :=
    { messageId := msg.copy.properties.messageId
      correlationId := msg.copy.properties.correlationId
      headers := msg.copy.properties.headers
      persistent := true }
  content := msg.copy.content

section Handler

variable {M : Type → Type} [Monad M] [MonadExceptOf JsError M] (channel : Channel M)

/-- `channel.ack(msg)`. -/
def Channel.ack (msg : Delivery) : M Unit := channel.send (.ack msg)

/-- `channel.nack(msg, false, false)`: this delivery only, and no requeue. -/
def Channel.nack (msg : Delivery) : M Unit := channel.send (.nack msg)

/-- `channel.sendToQueue`. -/
def Channel.sendToQueue (number : Nat) (copy : Copy) : M Unit :=
  match encodes copy with
  | some e => throw e
  | none => channel.send (.publish number copy)

/-- `scheduleRetry`. -/
def scheduleRetry (msg : Delivery) : M Unit :=
  try
    channel.sendToQueue encodes msg.channel (retried msg)
    channel.ack msg
  catch _ => channel.nack msg

/-- `handleMessage`, if `sendOrderConfirmation` ends as `sent`. -/
def handleMessage (sent : Except JsError Unit) (msg : Delivery) : M Unit := do
  let content := safeParse decode parse msg.copy.content
  let retries ← liftExcept (retryCountOf number msg.copy.properties.headers)
  try
    let outcome := process sent content
    channel.processed outcome.toBool
    liftExcept outcome
    channel.ack msg
  catch _ =>
    if maxRetries.le (.int retries) then
      channel.nack msg
    else
      scheduleRetry encodes channel msg

end Handler

/-! ## What a completed handler has done -/

/-- The handler of a delivery, from the start to its end. -/
def handled (isOpen : Bool) (sent : Except JsError Unit) (msg : Delivery) : Side :=
  ((handleMessage decode parse number encodes maxRetries Side.channel sent msg).run.run
    ⟨isOpen, [], []⟩).2

/-- The frames that follow a failed run. -/
def failedFrames (retries : Int) (msg : Delivery) : List Frame :=
  if maxRetries.le (.int retries) then [.nack msg]
  else
    match encodes (retried msg) with
    | some _ => [.nack msg]
    | none => [.publish msg.channel (retried msg), .ack msg]

variable {decode parse number encodes maxRetries}
variable {isOpen : Bool} {sent : Except JsError Unit} {msg : Delivery} {retries : Int}

/-- Headers that cannot be read throw before anything is done. -/
theorem handled_unreadable {e : JsError}
    (h : retryCountOf number msg.copy.properties.headers = .error e) :
    handled decode parse number encodes maxRetries isOpen sent msg = ⟨isOpen, [], []⟩ := by
  unfold handled handleMessage
  rw [h]
  rfl

/-- `scheduleRetry` on an open channel. -/
theorem scheduleRetry_open (processed : List Bool) :
    ((scheduleRetry encodes Side.channel msg).run.run ⟨true, [], processed⟩).2 =
      ⟨true, match encodes (retried msg) with
        | some _ => [.nack msg]
        | none => [.publish msg.channel (retried msg), .ack msg], processed⟩ := by
  unfold scheduleRetry Channel.sendToQueue
  cases encodes (retried msg) with
  | some e => rfl
  | none => rfl

/-- `scheduleRetry` on a closed one. -/
theorem scheduleRetry_closed (processed : List Bool) :
    ((scheduleRetry encodes Side.channel msg).run.run ⟨false, [], processed⟩).2 = ⟨false, [], processed⟩ := by
  unfold scheduleRetry Channel.sendToQueue
  cases encodes (retried msg) with
  | some e => rfl
  | none => rfl

/-- On a closed channel nothing is sent. -/
theorem handled_closed (h : retryCountOf number msg.copy.properties.headers = .ok retries) :
    handled decode parse number encodes maxRetries false sent msg =
      ⟨false, [], [(process sent (safeParse decode parse msg.copy.content)).toBool]⟩ := by
  unfold handled handleMessage
  rw [h]
  dsimp only
  generalize process sent (safeParse decode parse msg.copy.content) = outcome
  -- a run that fails and an ack that cannot be sent end in the same `catch`
  have hcatch : ((if maxRetries.le (.int retries) then Side.channel.nack msg
      else scheduleRetry encodes Side.channel msg : ChannelM Unit).run.run
        ⟨false, [], [outcome.toBool]⟩).2 = ⟨false, [], [outcome.toBool]⟩ := by
    by_cases hmax : maxRetries.le (.int retries) = true
    · rw [if_pos hmax]
      rfl
    · rw [if_neg hmax]
      exact scheduleRetry_closed _
  cases outcome with
  | ok u => exact hcatch
  | error e => exact hcatch

/-- A run that succeeds is acked. -/
theorem handled_succeeds (h : retryCountOf number msg.copy.properties.headers = .ok retries)
    (hrun : process sent (safeParse decode parse msg.copy.content) = .ok ()) :
    handled decode parse number encodes maxRetries true sent msg = ⟨true, [.ack msg], [true]⟩ := by
  unfold handled handleMessage
  rw [h]
  dsimp only
  rw [hrun]
  rfl

/-- A run that fails is retried, or given up. -/
theorem handled_fails {e : JsError}
    (h : retryCountOf number msg.copy.properties.headers = .ok retries)
    (hrun : process sent (safeParse decode parse msg.copy.content) = .error e) :
    handled decode parse number encodes maxRetries true sent msg =
      ⟨true, failedFrames encodes maxRetries retries msg, [false]⟩ := by
  unfold handled handleMessage failedFrames
  rw [h]
  dsimp only
  rw [hrun]
  show ((if maxRetries.le (.int retries) then Side.channel.nack msg
    else scheduleRetry encodes Side.channel msg : ChannelM Unit).run.run ⟨true, [], [false]⟩).2 = _
  -- the test of the catch block
  by_cases hmax : maxRetries.le (.int retries) = true
  · rw [if_pos hmax, if_pos hmax]
    rfl
  · rw [if_neg hmax, if_neg hmax]
    exact scheduleRetry_open _

variable (number encodes maxRetries) in
/-- How a handler can end. -/
inductive Ends (isOpen : Bool) (msg : Delivery) : Side → Prop where
  | unreadable (e : JsError)
      (hcount : retryCountOf number msg.copy.properties.headers = .error e) :
      Ends isOpen msg ⟨isOpen, [], []⟩
  | closed (ok : Bool) (hclosed : isOpen = false) : Ends isOpen msg ⟨isOpen, [], [ok]⟩
  | acked (hopen : isOpen = true) : Ends isOpen msg ⟨isOpen, [.ack msg], [true]⟩
  | givenUp (retries : Int)
      (hcount : retryCountOf number msg.copy.properties.headers = .ok retries)
      (hgiveUp : maxRetries.le (.int retries) = true ∨ encodes (retried msg) ≠ none) (hopen : isOpen = true) :
      Ends isOpen msg ⟨isOpen, [.nack msg], [false]⟩
  | rescheduled (retries : Int)
      (hcount : retryCountOf number msg.copy.properties.headers = .ok retries)
      (hretry : maxRetries.le (.int retries) = false) (hopen : isOpen = true) :
      Ends isOpen msg ⟨isOpen, [.publish msg.channel (retried msg), .ack msg], [false]⟩

/-- Every handler ends in one of these ways. -/
theorem handled_ends :
    Ends number encodes maxRetries isOpen msg
      (handled decode parse number encodes maxRetries isOpen sent msg) := by
  -- in the order of the source: the count, the channel, the work, the limit, the copy
  cases hcount : retryCountOf number msg.copy.properties.headers with
  | error e =>
    rw [handled_unreadable hcount]
    exact .unreadable e hcount
  | ok retries =>
    cases isOpen with
    | false =>
      rw [handled_closed hcount]
      exact .closed _ rfl
    | true =>
      cases hrun : process sent (safeParse decode parse msg.copy.content) with
      | ok u =>
        rw [handled_succeeds hcount hrun]
        exact .acked rfl
      | error e =>
        rw [handled_fails hcount hrun]
        unfold failedFrames
        by_cases hmax : maxRetries.le (.int retries) = true
        · rw [if_pos hmax]
          exact .givenUp retries hcount (Or.inl hmax) rfl
        · rw [if_neg hmax]
          cases hencodes : encodes (retried msg) with
          | some e' =>
            have hne : encodes (retried msg) ≠ none := by
              rw [hencodes]
              exact Option.some_ne_none e'
            exact .givenUp retries hcount (Or.inr hne) rfl
          | none => exact .rescheduled retries hcount (Bool.eq_false_iff.mpr hmax) rfl

end Consumer

end Microservices.Notification
