/-
  The consumers on a broker that is set up by the script (infra/rabbitmq/init-topology.sh,
  notification-service/src/messaging/consumer.js, order-service/src/messaging/rabbitmq.publisher.js).

  Nothing here knows of three queues.  Everything is published to the default exchange under the name
  of a queue, a rejected delivery is dead-lettered, the head of a queue expires: where a message goes
  then is up to the arguments that the script has given to the queues.

  `wired_reachable`: this system does what the one with a main queue, a retry queue and a dead-letter
  queue does, so that what holds of that one holds of this one.  It is about a broker whose queues are
  empty when the script runs.

  `retry_delay` is about any broker, with old messages in any of its queues: a message leaves the retry
  queue at its head only, and after the whole delay, and none waits longer for the sake of another.
-/
import Microservices.Notification.NeverLost
import Microservices.Notification.Topology

namespace Microservices.Notification

open Queues

/-! ## States -/

/-- The dead-lettering of notifications. -/
def Outside.rules (out : Outside) (bindings : String → String → List String)
    (routingKey : Copy → String) : Rules Copy where
  bindings := bindings
  routingKey := routingKey
  marked := fun _ reason m => m.withHeaders
    (match reason with
      | .expired => out.expired m.properties.headers
      | .rejected => out.rejected m.properties.headers)

/-- The broker with its clock, and the consumers. -/
structure Wired where
  broker : Broker Copy
  now : Nat
  unacked : List Delivery
  handling : List Delivery
  wire : List Frame
  isOpen : Nat → Bool
  connected : Nat → Bool
  nextTag : Nat → Nat
  published : List Copy
  processed : List (Nat × Bool)
  expired : List Nat

/-- Before anything is published, the clock of the broker standing at `now`. -/
def Wired.start (now : Nat) (b : Broker Copy) : Wired where
  broker := b
  now := now
  unacked := []
  handling := []
  wire := []
  isOpen := fun _ => true
  connected := fun _ => true
  nextTag := fun _ => 1
  published := []
  processed := []
  expired := []

namespace Wired

/-- The same as a state of the three queues. -/
def state (w : Wired) : State where
  main := w.broker.messages mainQueue
  retry := w.broker.messages retryQueue
  dlq := w.broker.messages deadLetterQueue
  unacked := w.unacked
  handling := w.handling
  wire := w.wire
  isOpen := w.isOpen
  connected := w.connected
  nextTag := w.nextTag
  published := w.published
  processed := w.processed
  expired := w.expired

/-! ## Steps -/

section Steps

variable (out : Outside) (rules : Rules Copy) (readTtl : String → Option Nat) (maxRetries : Nat)

/-- What the broker makes of a frame. -/
inductive Takes : Frame → Wired → Wired → Prop where
  | publish (w : Wired) (channel : Nat) (m : Copy) :
      Takes (.publish channel m) w { w with broker := w.broker.publish rules w.now "" retryQueue m }
  | ack {w : Wired} {d : Delivery} {pre post : List Delivery} (msg : Delivery)
      (hunacked : w.unacked = pre ++ d :: post) (htag : d.SameTag msg) :
      Takes (.ack msg) w { w with unacked := pre ++ post }
  | nack {w : Wired} {d : Delivery} {pre post : List Delivery} (msg : Delivery)
      (hunacked : w.unacked = pre ++ d :: post) (htag : d.SameTag msg) :
      Takes (.nack msg) w
        { w with
          unacked := pre ++ post
          broker := w.broker.deadLetter rules w.now mainQueue .rejected d.copy }

/-- One step. -/
inductive Step : Wired → Wired → Prop where
  | tick (w : Wired) (ms : Nat) : Step w { w with now := w.now + ms }
  | initTopology (w : Wired) (env : Option Delay) :
      Step w { w with broker := (initTopology readTtl env w.broker).2 }
  | publish (w : Wired) (properties : Properties) (content : List UInt8) :
      Step w
        { w with
          published := w.published ++ [⟨w.published.length, properties, content⟩]
          broker := w.broker.publish rules w.now "" mainQueue
            ⟨w.published.length, properties, content⟩ }
  | deliver {w : Wired} {x : Stored Copy} {rest : List (Stored Copy)} (channel : Nat)
      (hconnected : w.connected channel = true) (hmain : w.broker.stored mainQueue = x :: rest) :
      Step w
        { w with
          broker := w.broker.modify mainQueue fun _ => rest
          unacked := w.unacked ++ [⟨channel, w.nextTag channel, x.message⟩]
          handling := w.handling ++ [⟨channel, w.nextTag channel, x.message⟩]
          nextTag := Function.update w.nextTag channel (w.nextTag channel + 1) }
  | complete {w : Wired} {d : Delivery} {pre post : List Delivery} (side : Side)
      (sent : Except JsError Unit) (hhandling : w.handling = pre ++ d :: post)
      (hside : side = handled out.decode out.parse out.number out.encodes (.int maxRetries)
        (w.isOpen d.channel) sent d) :
      Step w
        { w with
          handling := pre ++ post
          wire := w.wire ++ side.frames
          processed := w.processed ++ side.processed.map fun ok => (d.copy.message, ok) }
  | take {w w' : Wired} {frame : Frame} {pre post : List Frame}
      (hconnected : w.connected frame.channel = true) (hwire : w.wire = pre ++ frame :: post)
      (hfirst : ∀ f ∈ pre, f.channel ≠ frame.channel)
      (htakes : Takes rules frame { w with wire := pre ++ post } w') : Step w w'
  | expire {w : Wired} {b' : Broker Copy} {x : Stored Copy} {rest : List (Stored Copy)}
      (name : String) (hhead : w.broker.stored name = x :: rest)
      (hexpire : w.broker.expire rules w.now name = some b') :
      Step w { w with broker := b', expired := w.expired ++ [x.message.message] }
  | close (w : Wired) (channel : Nat) :
      Step w { w with isOpen := Function.update w.isOpen channel false }
  | lose (w : Wired) (channel : Nat) :
      Step w
        { w with
          connected := Function.update w.connected channel false
          unacked := w.unacked.filter fun d => !decide (d.channel = channel)
          broker := w.broker.modify mainQueue fun stored =>
            ((w.unacked.filter fun d => decide (d.channel = channel)).map
              fun d => ⟨d.copy, w.now⟩) ++ stored }

/-- Any run. -/
def Runs : Wired → Wired → Prop := Relation.ReflTransGen (Step out rules readTtl maxRetries)

end Steps

/-! ## What holds in every state -/

/-- The topology is in place, and the messages of the retry queue stand in the order in which they
    came. -/
structure Ready (ttl : Nat) (w : Wired) : Prop where
  topology : Topology ttl w.broker
  inOrder : Broker.InOrder w.now (w.broker.stored retryQueue)

/-- Only the three queues hold messages. -/
def Alone (b : Broker Copy) : Prop :=
  ∀ name, name ≠ mainQueue → name ≠ retryQueue → name ≠ deadLetterQueue → b.stored name = []

/-- The three queues have three names. -/
theorem retry_ne_main : retryQueue ≠ mainQueue := by decide

/-- The DLQ is not the main queue. -/
theorem dlq_ne_main : deadLetterQueue ≠ mainQueue := by decide

/-- It is not the retry queue either. -/
theorem dlq_ne_retry : deadLetterQueue ≠ retryQueue := by decide

section Ready

variable {ttl now : Nat} {w w' : Wired} {rules : Rules Copy} {m : Copy} {reason : Reason}

/-- A message of the retry queue goes to the main queue. -/
theorem deadLetter_retry (h : Topology ttl w.broker) (f : List (Stored Copy) → List (Stored Copy)) :
    (w.broker.modify retryQueue f).deadLetter rules now retryQueue reason m =
      (w.broker.modify retryQueue f).push now mainQueue (rules.marked retryQueue reason m) := by
  have hretry : (w.broker.modify retryQueue f).declared retryQueue =
      some (true, retryArguments ttl) := by
    rw [Broker.declared_modify]
    exact h.retry
  exact Broker.deadLetter_default hretry rfl rfl

/-- One of the main queue goes to the dead-letter queue. -/
theorem deadLetter_main (h : Topology ttl w.broker) :
    w.broker.deadLetter rules now mainQueue reason m =
      w.broker.push now deadLetterQueue (rules.marked mainQueue reason m) :=
  Broker.deadLetter_default h.main rfl rfl

variable {out : Outside} {readTtl : String → Option Nat} {maxRetries : Nat}

/-- The broker only takes a message from a frame, or dead-letters one. -/
theorem Takes.declared {frame : Frame} (htakes : Takes rules frame w w') :
    w'.broker.declared = w.broker.declared := by
  cases htakes with
  | publish _ channel m => exact Broker.declared_publish
  | ack msg hunacked htag => rfl
  | nack msg hunacked htag => exact Broker.declared_deadLetter

/-- Nothing takes the topology away. -/
theorem topology_step (h : Topology ttl w.broker)
    (hstep : Step out rules readTtl maxRetries w w') : Topology ttl w'.broker := by
  cases hstep with
  | tick ms => exact h
  | initTopology env =>
    show Topology ttl (initTopology readTtl env w.broker).2
    rw [(initTopology_again h).2]
    exact h
  | publish properties content => exact h.of_declared Broker.declared_publish
  | deliver channel hconnected hhead =>
    refine h.of_declared ?_
    dsimp only
    exact Broker.declared_modify
  | complete side sent hhandling hside => exact h
  -- publishing and dead-lettering move copies, not declarations
  | take hconnected hwire hfirst htakes => exact h.of_declared htakes.declared
  | expire name hhead hexpire =>
    obtain ⟨_, _, _, _, _, -, -, -, -, rfl⟩ := Broker.expire_spec hexpire
    exact h.of_declared (by rw [Broker.declared_deadLetter, Broker.declared_modify])
  | close channel => exact h
  | lose channel =>
    refine h.of_declared ?_
    dsimp only
    exact Broker.declared_modify

/-- What a step may do to the retry queue: messages come to its end, and its head goes if it has been
    there for the whole delay. -/
inductive Waits (ttl : Nat) (w w' : Wired) : Prop where
  | stay (hcome : Broker.Arrives w.now (w.broker.stored retryQueue) (w'.broker.stored retryQueue))
  | leave (x : Stored Copy) (rest : List (Stored Copy)) (hhead : w.broker.stored retryQueue = x :: rest)
      (hdue : x.since + ttl ≤ w.now)
      (hcome : Broker.Arrives w.now rest (w'.broker.stored retryQueue))

/-- A step that leaves the retry queue alone. -/
theorem Waits.same (h : w'.broker.stored retryQueue = w.broker.stored retryQueue) : Waits ttl w w' := by
  refine .stay ?_
  rw [h]
  exact .refl w.now _

/-- A frame that the broker takes brings a copy to it, or nothing. -/
theorem takes_waits {frame : Frame} (htakes : Takes rules frame w w') : Waits ttl w w' := by
  cases htakes with
  | publish _ channel m => exact .stay (Broker.arrives_publish _)
  | ack msg hunacked htag => exact .same rfl
  | nack msg hunacked htag => exact .stay (Broker.arrives_deadLetter _)

/-- **What a step does to the retry queue.** -/
theorem step_waits (h : Topology ttl w.broker)
    (hstep : Step out rules readTtl maxRetries w w') : Waits ttl w w' := by
  cases hstep with
  | tick ms => exact .same rfl
  | initTopology env =>
    refine .same ?_
    show (initTopology readTtl env w.broker).2.stored retryQueue = _
    rw [(initTopology_again h).2]
  | publish properties content => exact .stay (Broker.arrives_publish _)
  | deliver channel hconnected hhead =>
    refine .same ?_
    dsimp only
    exact Broker.stored_modify_of_ne retry_ne_main
  | complete side sent hhandling hside => exact .same rfl
  | take hconnected hwire hfirst htakes =>
    cases @takes_waits ttl _ _ _ _ htakes with
    | stay hcome => exact .stay hcome
    | leave x rest hhead hdue hcome => exact .leave x rest hhead hdue hcome
  | expire name hhead hexpire =>
    rcases Broker.expire_arrives hexpire retryQueue with hcome |
      ⟨_, _, _, x, rest, -, hdeclared, httl, hhead', hdue, hcome⟩
    · exact .stay hcome
    · -- the delay is the one that is declared
      rw [h.retry] at hdeclared
      cases hdeclared
      cases httl
      exact .leave x rest hhead' hdue hcome
  | close channel => exact .same rfl
  | lose channel =>
    refine .same ?_
    dsimp only
    exact Broker.stored_modify_of_ne retry_ne_main

/-- The clock does not go back. -/
theorem now_le (hstep : Step out rules readTtl maxRetries w w') : w.now ≤ w'.now := by
  cases hstep with
  | tick ms => exact Nat.le_add_right w.now ms
  | take hconnected hwire hfirst htakes => cases htakes <;> exact Nat.le_refl _
  | _ => exact Nat.le_refl _

/-- A step keeps the system ready. -/
theorem Ready.step (h : Ready ttl w) (hstep : Step out rules readTtl maxRetries w w') :
    Ready ttl w' where
  topology := topology_step h.topology hstep
  inOrder := by
    cases step_waits h.topology hstep with
    | stay hcome => exact (h.inOrder.arrives hcome).later (now_le hstep)
    | leave x rest hhead hdue hcome =>
      have hrest := h.inOrder.sublist (hhead ▸ List.sublist_cons_self x rest)
      exact (hrest.arrives hcome).later (now_le hstep)

/-- So does a run. -/
theorem Ready.runs (h : Ready ttl w) (hrun : Runs out rules readTtl maxRetries w w') :
    Ready ttl w' := by
  induction hrun with
  | refl => exact h
  | tail _ hstep ih => exact ih.step hstep

/-- The script has come to its end on a broker whose retry queue, if it had one, was in order. -/
theorem ready_start {env : Option Delay} {b : Broker Copy}
    (hinOrder : Broker.InOrder now (b.stored retryQueue))
    (hready : (initTopology readTtl env b).1 = true) :
    ∃ ttl, readTtl (retryDelayMs env) = some ttl ∧
      Ready ttl (.start now (initTopology readTtl env b).2) := by
  obtain ⟨ttl, hread, htopology⟩ := initTopology_ready hready
  refine ⟨ttl, hread, htopology, ?_⟩
  have hsame : (initTopology readTtl env b).2.stored = b.stored := Broker.stored_declareAll
  show Broker.InOrder now ((initTopology readTtl env b).2.stored retryQueue)
  rw [hsame]
  exact hinOrder

/-! ## The three queues alone -/

/-- Only a message of the retry queue expires. -/
theorem Ready.expire (h : Ready ttl w) (halone : Alone w.broker) {b' : Broker Copy} {x : Stored Copy}
    {rest : List (Stored Copy)} {name : String} (hhead : w.broker.stored name = x :: rest)
    (hexpire : w.broker.expire rules w.now name = some b') :
    name = retryQueue ∧ b' = (w.broker.modify retryQueue fun _ => rest).push w.now mainQueue
      (rules.marked retryQueue .expired x.message) := by
  obtain ⟨_, _, ttl', y, rest', hdeclared, httl, hstored, -, rfl⟩ := Broker.expire_spec hexpire
  cases hhead.symm.trans hstored
  -- of the declared queues only the retry queue has a time to live
  by_cases hretry : name = retryQueue
  · subst hretry
    exact ⟨rfl, deadLetter_retry h.topology _⟩
  by_cases hmain : name = mainQueue
  · subst hmain
    rw [h.topology.main] at hdeclared
    cases hdeclared
    cases httl
  by_cases hdlq : name = deadLetterQueue
  · subst hdlq
    rw [h.topology.dlq] at hdeclared
    cases hdeclared
    cases httl
  · rw [halone name hmain hretry hdlq] at hhead
    cases hhead

/-- Every step puts messages into the three queues only. -/
theorem alone_step (h : Ready ttl w) (halone : Alone w.broker)
    (hstep : Step out rules readTtl maxRetries w w') : Alone w'.broker := by
  intro name hmain hretry hdlq
  rw [← halone name hmain hretry hdlq]
  -- every step works on one of the three queues
  cases hstep with
  | tick ms => rfl
  | initTopology env =>
    show (initTopology readTtl env w.broker).2.stored name = _
    rw [(initTopology_again h.topology).2]
  | publish properties content => exact Broker.stored_push_of_ne hmain
  | deliver channel hconnected hhead =>
    dsimp only
    exact Broker.stored_modify_of_ne hmain
  | complete side sent hhandling hside => rfl
  | take hconnected hwire hfirst htakes =>
    cases htakes with
    | publish _ channel m => exact Broker.stored_push_of_ne hretry
    | ack msg hunacked htag => rfl
    | @nack _ d pre post msg hunacked htag =>
      show (w.broker.deadLetter rules w.now mainQueue .rejected d.copy).stored name = _
      rw [deadLetter_main h.topology, Broker.stored_push_of_ne hdlq]
  | expire name' hhead hexpire =>
    obtain ⟨rfl, rfl⟩ := h.expire halone hhead hexpire
    rw [Broker.stored_push_of_ne hmain, Broker.stored_modify_of_ne hretry]
  | close channel => rfl
  | lose channel =>
    dsimp only
    exact Broker.stored_modify_of_ne hmain

end Ready

/-! ## The system of three queues -/

section Refinement

variable {out : Outside} {bindings : String → String → List String} {routingKey : Copy → String}
variable {readTtl : String → Option Nat} {maxRetries ttl : Nat} {w w' : Wired}

/-- The messages of the three queues after one has come to the main queue. -/
theorem messages_main (h : Topology ttl w.broker) (now : Nat) (m : Copy) :
    (w.broker.push now mainQueue m).messages mainQueue = w.broker.messages mainQueue ++ [m] ∧
    (w.broker.push now mainQueue m).messages retryQueue = w.broker.messages retryQueue ∧
    (w.broker.push now mainQueue m).messages deadLetterQueue =
      w.broker.messages deadLetterQueue :=
  ⟨Broker.messages_push h.main, Broker.messages_push_of_ne retry_ne_main,
    Broker.messages_push_of_ne dlq_ne_main⟩

/-- A frame that is taken here is taken there. -/
theorem takes_refines {frame : Frame} (h : Ready ttl w)
    (htakes : Takes (out.rules bindings routingKey) frame w w') :
    Notification.Takes out frame w.state w'.state := by
  cases htakes with
  | publish _ channel m =>
    -- the retry queue is not among the queues that the other two fields show
    have hstate : state { w with
        broker := w.broker.publish (out.rules bindings routingKey) w.now "" retryQueue m } =
        { w.state with retry := w.state.retry ++ [m] } := by
      unfold state
      rw [State.mk.injEq]
      refine ⟨Broker.messages_push_of_ne retry_ne_main.symm, Broker.messages_push h.topology.retry,
        Broker.messages_push_of_ne dlq_ne_retry, rfl, rfl, rfl, rfl, rfl, rfl, rfl, rfl, rfl⟩
    rw [hstate]
    exact .publish w.state channel m
  | ack msg hunacked htag => exact .ack msg hunacked htag
  | @nack _ d pre post msg hunacked htag =>
    have hstate : state { w with
        unacked := pre ++ post
        broker := w.broker.deadLetter (out.rules bindings routingKey) w.now mainQueue .rejected
          d.copy } =
        { w.state with
          unacked := pre ++ post
          dlq := w.state.dlq ++ [d.copy.withHeaders (out.rejected d.copy.properties.headers)] } := by
      unfold state
      dsimp only
      rw [deadLetter_main h.topology, State.mk.injEq]
      exact ⟨Broker.messages_push_of_ne dlq_ne_main.symm,
        Broker.messages_push_of_ne dlq_ne_retry.symm, Broker.messages_push h.topology.dlq, rfl, rfl,
        rfl, rfl, rfl, rfl, rfl, rfl, rfl⟩
    rw [hstate]
    exact .nack msg hunacked htag

/-- A message is published there as it is here. -/
theorem publish_refines (h : Ready ttl w) (properties : Properties) (content : List UInt8) :
    state { w with
      published := w.published ++ [⟨w.published.length, properties, content⟩]
      broker := w.broker.publish (out.rules bindings routingKey) w.now "" mainQueue
        ⟨w.published.length, properties, content⟩ } = w.state.publish properties content := by
  obtain ⟨hmain, hretry, hdlq⟩ :=
    messages_main h.topology w.now ⟨w.published.length, properties, content⟩
  unfold state State.publish
  rw [State.mk.injEq]
  exact ⟨hmain, hretry, hdlq, rfl, rfl, rfl, rfl, rfl, rfl, rfl, rfl, rfl⟩

/-- The head of the main queue is a message of it. -/
theorem deliver_refines (h : Ready ttl w) {x : Stored Copy} {rest : List (Stored Copy)} (channel : Nat)
    (hconnected : w.connected channel = true) (hhead : w.broker.stored mainQueue = x :: rest) :
    Move out maxRetries w.state (state { w with
      broker := w.broker.modify mainQueue fun _ => rest
      unacked := w.unacked ++ [⟨channel, w.nextTag channel, x.message⟩]
      handling := w.handling ++ [⟨channel, w.nextTag channel, x.message⟩]
      nextTag := Function.update w.nextTag channel (w.nextTag channel + 1) }) := by
  -- the head of the main queue is delivered, with none in front of it
  have hmessages : w.state.main = [] ++ x.message :: rest.map Stored.message := by
    show (w.broker.stored mainQueue).map Stored.message = _
    rw [hhead]
    rfl
  have hmain : (w.broker.modify mainQueue fun _ => rest).messages mainQueue =
      rest.map Stored.message := by
    unfold Broker.messages
    rw [Broker.stored_modify h.topology.main]
  have hothers : ∀ name, name ≠ mainQueue →
      w.broker.messages name = (w.broker.modify mainQueue fun _ => rest).messages name :=
    fun name hne => (Broker.messages_modify_of_ne hne).symm
  have hmove := @Move.deliver out maxRetries _ _ _ _ channel hconnected hmessages
  refine Eq.mp (congrArg (Move out maxRetries w.state) ?_) hmove
  unfold state State.deliver
  rw [State.mk.injEq]
  exact ⟨hmain.symm, hothers _ retry_ne_main, hothers _ dlq_ne_main, rfl, rfl, rfl, rfl, rfl, rfl,
    rfl, rfl, rfl⟩

/-- The head of the retry queue is a message of it, and goes to the main queue. -/
theorem expire_refines (h : Ready ttl w) {x : Stored Copy} {rest : List (Stored Copy)}
    (hhead : w.broker.stored retryQueue = x :: rest) :
    Move out maxRetries w.state (state { w with
      broker := (w.broker.modify retryQueue fun _ => rest).push w.now mainQueue
        ((out.rules bindings routingKey).marked retryQueue .expired x.message)
      expired := w.expired ++ [x.message.message] }) := by
  -- the head of the retry queue expires
  have hmessages : w.state.retry = [] ++ x.message :: rest.map Stored.message := by
    show (w.broker.stored retryQueue).map Stored.message = _
    rw [hhead]
    rfl
  have hmain : (w.broker.modify retryQueue fun _ => rest).declared mainQueue =
      some (true, mainArguments) := by
    rw [Broker.declared_modify]
    exact h.topology.main
  have hmove := @Move.expire out maxRetries _ _ _ _ hmessages
  refine Eq.mp (congrArg (Move out maxRetries w.state) ?_) hmove
  unfold state State.expire
  rw [State.mk.injEq]
  refine ⟨?_, ?_, ?_, rfl, rfl, rfl, rfl, rfl, rfl, rfl, rfl, rfl⟩
  · rw [Broker.messages_push hmain, Broker.messages_modify_of_ne retry_ne_main.symm]
    rfl
  · rw [Broker.messages_push_of_ne retry_ne_main]
    unfold Broker.messages
    rw [Broker.stored_modify h.topology.retry]
    rfl
  · rw [Broker.messages_push_of_ne dlq_ne_main, Broker.messages_modify_of_ne dlq_ne_retry]

/-- The deliveries of a lost channel are requeued there as they are here. -/
theorem lose_refines (h : Ready ttl w) (channel : Nat) :
    w.state.lose channel = state { w with
      connected := Function.update w.connected channel false
      unacked := w.unacked.filter fun d => !decide (d.channel = channel)
      broker := w.broker.modify mainQueue fun stored =>
        ((w.unacked.filter fun d => decide (d.channel = channel)).map
          fun d => ⟨d.copy, w.now⟩) ++ stored } := by
  have hothers : ∀ (f : List (Stored Copy) → List (Stored Copy)) name, name ≠ mainQueue →
      w.broker.messages name = (w.broker.modify mainQueue f).messages name :=
    fun f name hne => (Broker.messages_modify_of_ne hne).symm
  unfold state State.lose
  rw [State.mk.injEq]
  refine ⟨?_, hothers _ _ retry_ne_main, hothers _ _ dlq_ne_main, rfl, rfl, rfl, rfl, rfl, rfl, rfl,
    rfl, rfl⟩
  -- what was unacknowledged is back at the front, in its order
  unfold Broker.messages
  rw [Broker.stored_modify h.topology.main, List.map_append, List.map_map]
  rfl

/-- A step here is a step there, or changes nothing that is seen there. -/
theorem step_refines (h : Ready ttl w) (halone : Alone w.broker)
    (hstep : Step out (out.rules bindings routingKey) readTtl maxRetries w w') :
    w'.state = w.state ∨ Move out maxRetries w.state w'.state ∨ Fault w.state w'.state := by
  cases hstep with
  | tick ms => exact Or.inl rfl
  | initTopology env =>
    left
    show state { w with broker := (initTopology readTtl env w.broker).2 } = w.state
    rw [(initTopology_again h.topology).2]
  | publish properties content =>
    rw [publish_refines h]
    exact Or.inr (Or.inl (.publish w.state properties content))
  | deliver channel hconnected hhead =>
    exact Or.inr (Or.inl (deliver_refines h channel hconnected hhead))
  | complete side sent hhandling hside =>
    subst hside
    exact Or.inr (Or.inl (Move.complete sent hhandling))
  | @take _ frame pre post hconnected hwire hfirst htakes =>
    have hwaiting : Ready ttl { w with wire := pre ++ post } := ⟨h.topology, h.inOrder⟩
    exact Or.inr (Or.inl (.take hconnected hwire hfirst (takes_refines hwaiting htakes)))
  -- the only queue that anything expires from
  | expire name hhead hexpire =>
    obtain ⟨rfl, rfl⟩ := h.expire halone hhead hexpire
    exact Or.inr (Or.inl (expire_refines h hhead))
  | close channel => exact Or.inr (Or.inr (.close w.state channel))
  | lose channel =>
    rw [← lose_refines h]
    exact Or.inr (Or.inr (.lose w.state channel))

variable {env : Option Delay} {b : Broker Copy} {now : Nat}

/-- A message that was published is in one of the three queues, or not acked. -/
def Holds (w : Wired) (message : Nat) : Prop :=
  (∃ name ∈ [mainQueue, retryQueue, deadLetterQueue],
    ∃ m ∈ w.broker.messages name, m.message = message) ∨
  ∃ d ∈ w.unacked, d.copy.message = message

/-- What is in a queue of the abstract system is in one of the broker's. -/
theorem holds_of_present {message : Nat} (h : Present message w.state) : w.Holds message := by
  rcases h with ⟨m, hm, hmessage⟩ | ⟨d, hd, hmessage⟩ | ⟨m, hm, hmessage⟩ | ⟨m, hm, hmessage⟩
  · exact Or.inl ⟨mainQueue, by simp, m, hm, hmessage⟩
  · exact Or.inr ⟨d, hd, hmessage⟩
  · exact Or.inl ⟨retryQueue, by simp, m, hm, hmessage⟩
  · exact Or.inl ⟨deadLetterQueue, by simp, m, hm, hmessage⟩

/-- A broker without messages is one of three empty queues. -/
theorem state_start (hempty : ∀ name, b.stored name = []) :
    state (.start now (initTopology readTtl env b).2) = State.init := by
  have hnone : ∀ name, (initTopology readTtl env b).2.messages name = [] := by
    intro name
    have hsame : (initTopology readTtl env b).2.stored = b.stored := Broker.stored_declareAll
    unfold Broker.messages
    rw [hsame, hempty name]
    rfl
  unfold state State.init
  rw [State.mk.injEq]
  exact ⟨hnone _, hnone _, hnone _, rfl, rfl, rfl, rfl, rfl, rfl, rfl, rfl, rfl⟩

/-- **The script wires the three queues.**  On a broker that the script has set up while no queue held
    a message, every run of the consumers is one of the system with a main, a retry and a dead-letter
    queue; so that no message is lost: it is in one of the queues of the broker, or not acked, or has
    been processed. -/
theorem wired_reachable (hempty : ∀ name, b.stored name = [])
    (hready : (initTopology readTtl env b).1 = true)
    (hrun : Runs out (out.rules bindings routingKey) readTtl maxRetries
      (.start now (initTopology readTtl env b).2) w) :
    Reachable out maxRetries w.state ∧
      ∀ message < w.published.length, w.Holds message ∨ (message, true) ∈ w.processed := by
  obtain ⟨ttl, -, hstart⟩ :=
    @ready_start now readTtl env b (by rw [hempty]; exact .nil) hready
  have halone : Alone (initTopology readTtl env b).2 := by
    intro name _ _ _
    have hsame : (initTopology readTtl env b).2.stored = b.stored := Broker.stored_declareAll
    rw [hsame]
    exact hempty name
  -- along the run, together with what each step's refinement needs
  have hreach : Ready ttl w ∧ Alone w.broker ∧ Reachable out maxRetries w.state := by
    induction hrun with
    | refl =>
      refine ⟨hstart, halone, ?_⟩
      rw [state_start hempty]
      exact .refl
    | tail _ hstep ih =>
      obtain ⟨hready', halone', hreach⟩ := ih
      refine ⟨hready'.step hstep, alone_step hready' halone' hstep, ?_⟩
      rcases step_refines hready' halone' hstep with hsame | hmove | hfault
      · rw [hsame]
        exact hreach
      · exact hreach.tail (Or.inl hmove)
      · exact hreach.tail (Or.inr hfault)
  refine ⟨hreach.2.2, fun message hmessage => ?_⟩
  exact ((hreach.2.2.allLive.live message hmessage).present).imp_left holds_of_present

/-! ## The delay -/

/-- Heads of the retry queue expire, one step each. -/
theorem runs_expireAll (rules : Rules Copy) (fuel : Nat) (w : Wired) :
    ∃ expired, Runs out rules readTtl maxRetries w
      { w with broker := w.broker.expireAll rules w.now retryQueue fuel, expired := expired } := by
  induction fuel generalizing w with
  | zero => exact ⟨w.expired, .refl⟩
  | succ fuel ih =>
    unfold Broker.expireAll
    cases hexpire : w.broker.expire rules w.now retryQueue with
    | none => exact ⟨w.expired, .refl⟩
    | some b' =>
      -- one step of the system for each copy that expires
      obtain ⟨_, _, _, x, rest, -, -, hhead, -, -⟩ := Broker.expire_spec hexpire
      obtain ⟨expired, hrun⟩ :=
        ih { w with broker := b', expired := w.expired ++ [x.message.message] }
      exact ⟨expired, .head (.expire retryQueue hhead hexpire) hrun⟩

/-- **A retry comes after its delay, and no other retry holds it up.**  In every state that a run
    reaches, on a broker that the script has set up and that may hold old messages: a step takes no
    message out of the retry queue but its head, once that has been there for the whole delay; and
    by expiries alone every message whose delay is over comes back to the main queue, in the order in
    which they went, and no other message does. -/
theorem retry_delay (hinOrder : Broker.InOrder now (b.stored retryQueue))
    (hready : (initTopology readTtl env b).1 = true)
    (hrun : Runs out (out.rules bindings routingKey) readTtl maxRetries
      (.start now (initTopology readTtl env b).2) w) :
    ∃ ttl, readTtl (retryDelayMs env) = some ttl ∧
      (∀ w', Step out (out.rules bindings routingKey) readTtl maxRetries w w' → Waits ttl w w') ∧
      ∃ w', Runs out (out.rules bindings routingKey) readTtl maxRetries w w' ∧ w'.now = w.now ∧
        w'.broker.stored retryQueue =
          (w.broker.stored retryQueue).filter (fun x => !decide (x.since + ttl ≤ w.now)) ∧
        w'.broker.messages mainQueue = w.broker.messages mainQueue ++
          ((w.broker.stored retryQueue).filter fun x => decide (x.since + ttl ≤ w.now)).map fun x =>
            x.message.withHeaders (out.expired x.message.properties.headers) := by
  obtain ⟨ttl, hread, hstart⟩ := ready_start hinOrder hready
  have h : Ready ttl w := hstart.runs hrun
  refine ⟨ttl, hread, fun w' hstep => step_waits h.topology hstep, ?_⟩
  obtain ⟨expired, hexpired⟩ := @runs_expireAll out readTtl maxRetries
    (out.rules bindings routingKey) (w.broker.stored retryQueue).length w
  -- the copies stand in the order of their times, so all that are due are at the front
  obtain ⟨hleft, hmoved⟩ := @Broker.expireAll_spec _ _ _ (out.rules bindings routingKey) _ _ _ _
    w.broker _ h.topology.retry rfl rfl rfl h.topology.main retry_ne_main.symm h.inOrder _
    (Nat.le_refl _)
  refine ⟨_, hexpired, rfl, hleft, ?_⟩
  unfold Broker.messages
  rw [hmoved, List.map_append, List.map_map]
  rfl

end Refinement

/-! ## One notification -/

/-- A broker on which nothing is declared. -/
def freshBroker : Broker Copy := fun _ => none

/-- The default delay, and no other. -/
def defaultDelay (delay : String) : Option Nat := if delay = "5000" then some 5000 else none

/-- The rules of the broker that counts. -/
def ordinaryRules : Rules Copy := ordinary.rules (fun _ _ => []) (fun _ => "")

/-- A notification is published and its handler fails; the broker takes the copy, and the delay
    passes. -/
theorem runs_waiting :
    ∃ w, Runs ordinary ordinaryRules defaultDelay 1
        (.start 0 (initTopology defaultDelay none freshBroker).2) w ∧
      w.now = 5000 ∧ w.published.length = 1 ∧ w.broker.messages mainQueue = [] ∧
      w.broker.stored retryQueue = [⟨notification, 0⟩] := by
  refine ⟨?w, ?hrun, ?hnow, ?hpublished, ?hmain, ?hretry⟩
  case hrun =>
    refine .head (.publish _ notification.properties notification.content) ?_
    refine .head (.deliver 0 rfl rfl) ?_
    refine .head (@Step.complete _ _ _ _ _ _ [] []
      ⟨true, [.publish 0 notification, .ack ⟨0, 1, notification⟩], [false]⟩
      (.error { message := "Email provider temporary failure" }) rfl rfl) ?_
    refine .head (@Step.take _ _ _ _ _ _ (.publish 0 notification) [] [.ack ⟨0, 1, notification⟩] rfl
      rfl (fun f hf => nomatch hf) (.publish _ 0 notification)) ?_
    refine .head (.tick _ 5000) ?_
    exact .refl
  case hnow => rfl
  case hpublished => rfl
  case hmain => rfl
  case hretry => rfl

/-- It comes back, with the expiry in its headers. -/
theorem retry_delay_waiting :
    ∃ w w', Runs ordinary ordinaryRules defaultDelay 1 w w' ∧
      w.broker.messages mainQueue = [] ∧ w'.broker.stored retryQueue = [] ∧
      w'.broker.messages mainQueue = [notification.withHeaders (ordinary.expired none)] := by
  obtain ⟨w, hrun, hnow, -, hmain, hretry⟩ := runs_waiting
  obtain ⟨ttl, hread, -, w', hrun', -, hleft, hback⟩ := retry_delay .nil rfl hrun
  cases Option.some.inj hread
  rw [hretry, hnow] at hleft hback
  refine ⟨w, w', hrun', hmain, hleft, ?_⟩
  rw [hback, hmain]
  rfl

/-- And is not lost meanwhile. -/
theorem wired_reachable_waiting :
    ∃ w : Wired, w.published.length = 1 ∧ (w.Holds 0 ∨ (0, true) ∈ w.processed) := by
  obtain ⟨w, hrun, -, hpublished, -⟩ := runs_waiting
  obtain ⟨-, hall⟩ := wired_reachable (fun _ => rfl) rfl hrun
  exact ⟨w, hpublished, hall 0 (by omega)⟩

end Wired

end Microservices.Notification
