/-
  The AMQP clients of the two services (order-service/src/messaging/rabbitmq.publisher.js with
  order-service/src/server.js, and notification-service/src/messaging/consumer.js with
  notification-service/src/app.js).

  A client is two references, to a connection and to a channel on it.  What they refer to is open or
  not, and the client is not told unless it listens.  Whether it is open is amqplib's business, so
  there are two layers here:

  * `Amqplib` is a parameter.  It says what a call leaves open when it resolves and when it is
    rejected, as the documentation of the library has it, and nothing else; how it numbers its
    connections, what it does to a channel when a call fails and which errors it throws are free.
  * `rabbitPublisher.connect`, `consumer.start` and what they call are the two services' own
    functions, over any such library.

  A start is a sequence of awaits, and an `Attempt` says which of them fails.  An `error` event of
  amqplib that nobody listens to may take the connection with it, or end the process; an `Attempt`
  says that too.
-/
import Microservices.Common
import Mathlib.Data.Finset.Lattice.Fold
import Mathlib.Order.Lattice.Nat

namespace Microservices.Amqp

/-- The two services. -/
inductive Service : Type where
  | orderService
  | notificationService
  deriving DecidableEq

/-- The queues; order-service knows the first as its notification queue. -/
inductive Queue : Type where
  | queue
  | retryQueue
  | deadLetterQueue
  deriving DecidableEq

/-- What a start awaits. -/
inductive Await : Type where
  | kafka
  | connect
  | createChannel
  | checkQueue (q : Queue)
  | prefetch
  | consume
  deriving DecidableEq

/-- What comes with a failure: nothing, the loss of the connection, or, when an `error` event finds
    no listener, the end of the process. -/
inductive Aftermath : Type where
  | stays
  | lost
  | exits
  deriving DecidableEq

/-- An attempt to start: every await succeeds, or one fails. -/
inductive Attempt : Type where
  | succeeds
  | fails (await : Await) (aftermath : Aftermath) (err : JsError)

/-- How the await `w` fails in the attempt, if it does. -/
def Attempt.failure (w : Await) : Attempt → Option (Aftermath × JsError)
  | .succeeds => none
  | .fails w' aftermath err => if w' = w then some (aftermath, err) else none

/-! ## amqplib -/

/-- What is open: connections by their numbers, and channels and consumers by the connection that
    they are on. -/
structure Sockets where
  connections : Finset Nat
  channels : Finset Nat
  consumers : Finset Nat

/-- Nothing is open. -/
def Sockets.none : Sockets := ⟨∅, ∅, ∅⟩

/-- The library with the broker behind it: what each call does to the sockets of the process, and
    what its documentation promises of that. -/
structure Amqplib where
  /-- The number of the connection that `amqp.connect` opens. -/
  fresh : Sockets → Nat
  /-- What a call on a connection leaves when it resolves. -/
  resolved : Await → Nat → Sockets → Sockets
  /-- What it leaves when it is rejected. -/
  rejected : Await → Nat → Sockets → Sockets
  /-- `connection.close()`. -/
  close : Nat → Sockets → Except JsError Unit × Sockets
  /-- `channel.close()`. -/
  closeChannel : Nat → Sockets → Except JsError Unit × Sockets
  /-- The connection is closed by the broker, or fails. -/
  lost : Nat → Sockets → Sockets
  /-- The channel on a connection is closed by the broker. -/
  channelLost : Nat → Sockets → Sockets
  /-- `channel.sendToQueue`, by what the broker answers to what it is sent. -/
  sendToQueue : Nat → Sockets → Except JsError Unit → Except JsError Unit
  /-- A new connection is none of those that are open. -/
  fresh_notMem : ∀ s, fresh s ∉ s.connections
  /-- Nothing opens a connection but `amqp.connect`. -/
  resolved_connections : ∀ w c s, (resolved w c s).connections =
    if w = .connect then insert c s.connections else s.connections
  /-- Nothing starts a consumer but `channel.consume`. -/
  resolved_consumers : ∀ w c s, (resolved w c s).consumers =
    if w = .consume then insert c s.consumers else s.consumers
  /-- `createChannel` resolves when there is a channel... -/
  createChannel_mem : ∀ c s, c ∈ (resolved .createChannel c s).channels
  /-- ... and no call that resolves closes one. -/
  channels_subset : ∀ w c s, s.channels ⊆ (resolved w c s).channels
  /-- A call that is rejected opens no connection, and by itself closes none... -/
  rejected_connections : ∀ w c s, (rejected w c s).connections = s.connections
  /-- ... and starts no consumer. -/
  rejected_consumers : ∀ w c s, (rejected w c s).consumers ⊆ s.consumers
  /-- What has been closed is closed, also where it was so before, and nothing is opened. -/
  close_connections : ∀ c s, (close c s).2.connections = s.connections.erase c
  /-- Closing a connection starts no consumer... -/
  close_consumers : ∀ c s, (close c s).2.consumers ⊆ s.consumers
  /-- ... and neither does closing a channel, ... -/
  closeChannel_consumers : ∀ c s, (closeChannel c s).2.consumers ⊆ s.consumers
  /-- ... which leaves the connections. -/
  closeChannel_connections : ∀ c s, (closeChannel c s).2.connections = s.connections
  /-- A connection that is lost takes with it what is on it, and nothing else. -/
  lost_connections : ∀ c s, (lost c s).connections = s.connections.erase c
  lost_channels : ∀ c s, (lost c s).channels = s.channels.erase c
  lost_consumers : ∀ c s, (lost c s).consumers = s.consumers.erase c
  /-- A channel that is lost takes its consumers with it, and nothing else. -/
  channelLost_channels : ∀ c s, (channelLost c s).channels = s.channels.erase c
  channelLost_consumers : ∀ c s, (channelLost c s).consumers = s.consumers.erase c
  /-- On an open channel a message is confirmed or not... -/
  sendToQueue_open : ∀ c s confirm, c ∈ s.channels → sendToQueue c s confirm = confirm
  /-- ... and on a closed one every call throws. -/
  sendToQueue_closed : ∀ c s confirm, c ∉ s.channels → ∃ err, sendToQueue c s confirm = .error err

/-! ## A client -/

/-- A process: its sockets, and the client's two references. -/
structure Process where
  sockets : Sockets
  connection : Option Nat
  channel : Option Nat

/-- A process that has just begun. -/
def Process.init : Process := ⟨.none, none, none⟩

/-- A function of a client: it returns, it throws, or the process ends in it. -/
abbrev ClientM (α : Type) : Type := ExceptT JsError (OptionT (StateM Process)) α

/-- The sockets change. -/
def sockets (f : Sockets → Sockets) : ClientM Unit :=
  modify fun s => { s with sockets := f s.sockets }

/-- The process ends; no `catch` of its own sees that, and its sockets are closed. -/
def exit {α : Type} : ClientM α := do
  sockets fun _ => .none
  ExceptT.lift OptionT.fail

section Start

variable (lib : Amqplib) (attempt : Attempt)

/-- An await of amqplib on the connection `c`. -/
def await (w : Await) (c : Nat) : ClientM Unit :=
  match attempt.failure w with
  | none => sockets (lib.resolved w c)
  | some (.stays, err) => do
    sockets (lib.rejected w c)
    throw err
  | some (.lost, err) => do
    sockets fun s => lib.lost c (lib.rejected w c s)
    throw err
  | some (.exits, _) => exit

/-- `amqp.connect`. -/
def amqp.connect : ClientM Nat := do
  let c := lib.fresh (← get).sockets
  await lib attempt .connect c
  return c

/-! ## order-service -/

/-- `connect` of the Kafka producer, whose connection is no AMQP connection. -/
def kafkaProducer.connect : ClientM Unit :=
  match attempt.failure .kafka with
  | none => pure ()
  | some (.exits, _) => exit
  | some (_, err) => throw err

/-- A queue that could not be checked. -/
def queueMissing (err : JsError) : JsError :=
  { message := "Queue \"order_notifications\" chưa tồn tại. Topology do rabbitmq-init tạo; " ++
      "chạy 'docker compose up rabbitmq-init' (hoặc tạo queue thủ công nếu chạy ngoài Docker). " ++
      "Chi tiết: " ++ err.message }

/-- `connect` of the publisher. -/
def rabbitPublisher.connect : ClientM Unit := do
  let connection ← amqp.connect lib attempt
  modify fun s => { s with connection := some connection }
  await lib attempt .createChannel connection
  modify fun s => { s with channel := some connection }
  try await lib attempt (.checkQueue .queue) connection
  catch err =>
    -- the reference to the channel is dropped; the connection stays
    modify fun s => { s with channel := none }
    throw (queueMissing err)

/-- What `connectBrokersWithRetry` tries. -/
def connectBrokers : ClientM Unit := do
  kafkaProducer.connect attempt
  rabbitPublisher.connect lib attempt

/-! ## notification-service -/

/-- `stop`: an error of a `close` is dropped. -/
def consumer.stop : ClientM Unit := do
  let s ← get
  match s.channel with
  | some c => sockets fun s => (lib.closeChannel c s).2
  | none => pure ()
  match s.connection with
  | some c => sockets fun s => (lib.close c s).2
  | none => pure ()
  modify fun s => { s with connection := none, channel := none }

/-- Queues that could not be checked. -/
def queuesMissing (err : JsError) : JsError :=
  { message := "Queue order_notifications_dlq / order_notifications_retry / order_notifications " ++
      "chưa tồn tại. Topology do rabbitmq-init tạo; chạy 'docker compose up rabbitmq-init'. " ++
      "Chi tiết: " ++ err.message }

/-- `checkTopology`. -/
def consumer.checkTopology (c : Nat) : ClientM Unit := do
  try
    await lib attempt (.checkQueue .deadLetterQueue) c
    await lib attempt (.checkQueue .retryQueue) c
    await lib attempt (.checkQueue .queue) c
  catch err =>
    consumer.stop lib
    throw (queuesMissing err)

/-- `start` of the consumer. -/
def consumer.start : ClientM Unit := do
  let connection ← amqp.connect lib attempt
  modify fun s => { s with connection := some connection }
  await lib attempt .createChannel connection
  modify fun s => { s with channel := some connection }
  consumer.checkTopology lib attempt connection
  await lib attempt .prefetch connection
  await lib attempt .consume connection

/-! ## Both -/

/-- What a service tries until it succeeds. -/
def Service.start : Service → ClientM Unit
  | .orderService => connectBrokers lib attempt
  | .notificationService => consumer.start lib attempt

/-- How a run of a client's function ends, if the process does not end in it. -/
abbrev Ending : Type := Option (Except JsError Unit)

/-- An attempt of a service. -/
def Service.try (service : Service) (s : Process) : Ending × Process :=
  ((service.start lib attempt).run.run.run s)

end Start

/-! ## A library -/

/-- A library that does what the documentation promises and no more: it numbers its connections
    upwards, and what is rejected changes nothing. -/
def Amqplib.plain : Amqplib where
  fresh s := s.connections.sup id + 1
  resolved w c s :=
    match w with
    | .connect => { s with connections := insert c s.connections }
    | .createChannel => { s with channels := insert c s.channels }
    | .consume => { s with consumers := insert c s.consumers }
    | _ => s
  rejected _ _ s := s
  close c s := (.ok (), ⟨s.connections.erase c, s.channels.erase c, s.consumers.erase c⟩)
  closeChannel c s := (.ok (), ⟨s.connections, s.channels.erase c, s.consumers.erase c⟩)
  lost c s := ⟨s.connections.erase c, s.channels.erase c, s.consumers.erase c⟩
  channelLost c s := ⟨s.connections, s.channels.erase c, s.consumers.erase c⟩
  sendToQueue c s confirm :=
    if c ∈ s.channels then confirm else .error { message := "Channel closed" }
  fresh_notMem s h := absurd (Finset.le_sup (f := id) h) (Nat.not_succ_le_self _)
  resolved_connections w c s := by cases w <;> rfl
  resolved_consumers w c s := by cases w <;> rfl
  createChannel_mem c s := Finset.mem_insert_self c s.channels
  channels_subset w c s := by
    cases w with
    | createChannel => exact Finset.subset_insert c s.channels
    | _ => exact Finset.Subset.refl _
  rejected_connections _ _ _ := rfl
  rejected_consumers _ _ _ := Finset.Subset.refl _
  close_connections _ _ := rfl
  close_consumers c s := Finset.erase_subset c s.consumers
  closeChannel_consumers c s := Finset.erase_subset c s.consumers
  closeChannel_connections _ _ := rfl
  lost_connections _ _ := rfl
  lost_channels _ _ := rfl
  lost_consumers _ _ := rfl
  channelLost_channels _ _ := rfl
  channelLost_consumers _ _ := rfl
  sendToQueue_open _ _ _ h := if_pos h
  sendToQueue_closed _ _ _ h := ⟨_, if_neg h⟩

end Microservices.Amqp
