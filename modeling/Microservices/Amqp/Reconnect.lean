/-
  After start-up (the listeners of `connect` and `start`, publishNotification and disconnect in
  order-service/src/messaging/rabbitmq.publisher.js, consumeMainQueue and stop in
  notification-service/src/messaging/consumer.js).

  What happens to its connection reaches a client through its listeners only.  The publisher's log,
  and at a `close` drop the channel; the consumer's log; none of them starts anything.  So a client
  holds an open channel until the first time that the broker takes it, and never again.

  1. **The program**: what a client does with its channel, and what its listeners do at an event.
     An `error` event without a listener, such as any of a channel, has an `Aftermath` of its own.

  2. **One event.**  A client either holds the channel it has started with (`Client.Holding`) or has
     lost it (`Client.Lost`): the events that take it lead from the first to the second, and no
     event leads back.

  3. **Whole runs** follow by induction on the events, and `holdsChannel_iff` puts them behind any
     number of attempts to start.
-/
import Microservices.Amqp.StartUp

namespace Microservices.Amqp

/-! ## What a client does with its channel -/

section Client

variable (lib : Amqplib)

/-- `publishNotification`; the broker confirms what it is sent, or does not. -/
def rabbitPublisher.publishNotification (confirm : Except JsError Unit) : ClientM Unit := do
  match (← get).channel with
  | none => throw { message := "RabbitMQ channel not available" }
  | some c => liftExcept (lib.sendToQueue c (← get).sockets confirm)

/-- `channel.close()`, awaited. -/
def closeChannel (c : Nat) : ClientM Unit := do
  let (answer, after) := lib.closeChannel c (← get).sockets
  sockets fun _ => after
  liftExcept answer

/-- `connection.close()`, awaited. -/
def close (c : Nat) : ClientM Unit := do
  let (answer, after) := lib.close c (← get).sockets
  sockets fun _ => after
  liftExcept answer

/-- `disconnect`. -/
def rabbitPublisher.disconnect : ClientM Unit := do
  let s ← get
  match s.channel with
  | some c => closeChannel lib c
  | none => pure ()
  match s.connection with
  | some c => close lib c
  | none => pure ()
  modify fun s => { s with connection := none, channel := none }

/-- What a service does at a signal. -/
def Service.stop : Service → ClientM Unit
  | .orderService => rabbitPublisher.disconnect lib
  | .notificationService => consumer.stop lib

end Client

/-- The listener of `close`; the consumer has none. -/
def Service.onClose : Service → Process → Process
  | .orderService, s => { s with channel := none }
  | .notificationService, s => s

section Publish

variable {lib : Amqplib} {confirm : Except JsError Unit} {s : Process} {c : Nat}

/-- Without a channel nothing is sent. -/
theorem publishNotification_none (h : s.channel = none) :
    (rabbitPublisher.publishNotification lib confirm).run.run.run s =
      (some (.error { message := "RabbitMQ channel not available" }), s) := by
  obtain ⟨sockets, connection, channel⟩ := s
  obtain rfl : channel = none := h
  rfl

/-- With one it is as the library answers. -/
theorem publishNotification_some (h : s.channel = some c) :
    (rabbitPublisher.publishNotification lib confirm).run.run.run s =
      (some (lib.sendToQueue c s.sockets confirm), s) := by
  obtain ⟨sockets, connection, channel⟩ := s
  obtain rfl : channel = some c := h
  show (liftExcept (lib.sendToQueue c sockets confirm) : ClientM Unit).run.run.run _ = _
  cases lib.sendToQueue c sockets confirm <;> rfl

end Publish

/-! ## Runs -/

/-- A process that has started: which connections it listens to, and whether the timer of its start
    is set. -/
structure Client where
  process : Process
  listening : List Nat
  pending : Bool
  exited : Bool

/-- What happens to it.  An `error` that nobody listens to has an aftermath. -/
inductive Event : Type where
  | connectionClosed (c : Nat)
  | connectionError (c : Nat) (err : JsError) (unheard : Aftermath)
  | channelClosed (c : Nat) (unheard : Aftermath)
  | timer (attempt : Attempt)
  | signal
  | uncaught (err : JsError)

section Steps

variable (lib : Amqplib) (service : Service)

/-- The connection `c` is gone. -/
def Process.lost (c : Nat) (s : Process) : Process := { s with sockets := lib.lost c s.sockets }

/-- Whoever listens to its `close` is told. -/
def Client.closed (c : Nat) (client : Client) : Client :=
  { client with
    process :=
      if c ∈ client.listening then service.onClose (client.process.lost lib c)
      else client.process.lost lib c }

/-- Nobody listens to an `error` on the connection `c`. -/
def Client.unheard (c : Nat) (client : Client) : Aftermath → Client
  | .stays => client
  | .lost => client.closed lib service c
  | .exits => { client with exited := true }

/-- The channel on `c` is gone; neither service listens to the `error` of its channel. -/
def Client.channelClosed (c : Nat) (client : Client) : Client :=
  { client with
    process := { client.process with sockets := lib.channelLost c client.process.sockets } }

/-- Another attempt. -/
def Client.retry (attempt : Attempt) (client : Client) : Client :=
  match service.try lib attempt client.process with
  | (some (.ok _), s) =>
    { client with
      process := s
      listening := client.listening ++ [lib.fresh client.process.sockets]
      pending := false }
  | (some (.error _), s) => { client with process := s, pending := true }
  | (none, s) => { client with process := s, exited := true }

/-- One event. -/
def Client.step (client : Client) (event : Event) : Client :=
  if client.exited then client
  else
    match event with
    | .connectionClosed c => client.closed lib service c
    | .connectionError c _ unheard =>
      -- the listener of `error` logs, and amqplib closes what is left
      if c ∈ client.listening then client.closed lib service c
      else client.unheard lib service c unheard
    | .channelClosed c unheard => (client.channelClosed lib c).unheard lib service c unheard
    | .timer attempt => if client.pending then client.retry lib service attempt else client
    | .signal =>
      { client with process := ((service.stop lib).run.run.run client.process).2, exited := true }
    | .uncaught _ => { client with exited := true }

/-- The events of a run, one after the other. -/
def Client.run (client : Client) (events : List Event) : Client :=
  events.foldl (Client.step lib service) client

/-- A client whose start has just succeeded. -/
def Made.client (made : Made) : Client :=
  ⟨made.after, [lib.fresh made.before.sockets], false, false⟩

/-- The client refers to a channel that is open. -/
def Client.HoldsChannel (client : Client) : Prop :=
  ∃ c, client.process.channel = some c ∧ c ∈ client.process.sockets.channels

/-- **The client is never permanently disconnected.** -/
def NeverDisconnected : Prop :=
  ∀ attempts, ∀ made ∈ connectWithRetry lib service attempts Process.init,
    made.result = some (.ok ()) →
      ∀ events, ((made.client lib).run lib service events).exited = false →
        ((made.client lib).run lib service events).HoldsChannel ∨
          ((made.client lib).run lib service events).pending = true

end Steps

/-! ## Start-up -/

/-- A process before an attempt that succeeds has no consumer. -/
theorem connectWithRetry_ok {lib : Amqplib} {service : Service} {attempts : List Attempt}
    {s : Process} {made : Made} (hmade : made ∈ connectWithRetry lib service attempts s)
    (hok : made.result = some (.ok ())) (hs : s.sockets.consumers = ∅) :
    made.after = service.started lib made.before ∧ made.before.sockets.consumers = ∅ := by
  -- over the attempts: as long as they fail no consumer is started
  induction attempts generalizing s with
  | nil => exact absurd hmade List.not_mem_nil
  | cons attempt attempts ih =>
    by_cases hfails : attempt.Fails service
    · obtain ⟨err, s', htry, hleaves⟩ := @try_fails lib service attempt s hfails
      rw [connectWithRetry_fails htry] at hmade
      rcases List.mem_cons.mp hmade with hfirst | hlater
      · rw [hfirst] at hok
        cases hok
      · exact ih hlater (Finset.subset_empty.mp (hs ▸ hleaves.consumers))
    · by_cases hsucceeds : attempt.Succeeds service
      · rw [connectWithRetry_succeeds hsucceeds, List.mem_singleton] at hmade
        rw [hmade]
        exact ⟨rfl, hs⟩
      · obtain ⟨s', htry, -⟩ := @try_ends lib service attempt s hsucceeds hfails
        rw [connectWithRetry_ends htry, List.mem_singleton] at hmade
        rw [hmade] at hok
        cases hok

/-! ## One event -/

/-- The event takes the channel on the connection `own`. -/
def Event.Takes (own : Nat) : Event → Prop
  | .connectionClosed c => c = own
  | .connectionError c _ _ => c = own
  | .channelClosed c _ => c = own
  | _ => False

/-- The consumers of a client that has started on the connection `own`. -/
def Service.consumers : Service → Nat → Finset Nat
  | .orderService, _ => ∅
  | .notificationService, own => {own}

/-- The client holds the channel that it has started with. -/
structure Client.Holding (service : Service) (own : Nat) (client : Client) : Prop where
  waits : client.pending = false
  listens : client.listening = [own]
  channel : client.process.channel = some own
  opened : own ∈ client.process.sockets.channels
  consumers : client.process.sockets.consumers = service.consumers own

/-- The client has lost it. -/
structure Client.Lost (own : Nat) (client : Client) : Prop where
  waits : client.pending = false
  reference : ∀ c, client.process.channel = some c → c = own
  closed : own ∉ client.process.sockets.channels
  consumers : client.process.sockets.consumers = ∅

section Step

variable {lib : Amqplib} {service : Service} {own c : Nat} {client : Client}

/-- The channel that it holds is open. -/
theorem Client.Holding.holdsChannel (h : client.Holding service own) : client.HoldsChannel :=
  ⟨own, h.channel, h.opened⟩

/-- The only channel it may still refer to is closed. -/
theorem Client.Lost.not_holdsChannel (h : client.Lost own) : ¬ client.HoldsChannel := by
  rintro ⟨c, hchannel, hopen⟩
  obtain rfl := h.reference c hchannel
  exact h.closed hopen

/-- The consumers of the channel go with it... -/
theorem Service.consumers_erase_self (service : Service) (own : Nat) :
    (service.consumers own).erase own = ∅ := by
  cases service with
  | orderService => rfl
  | notificationService => exact Finset.erase_singleton own

/-- ... and no others. -/
theorem Service.consumers_erase (service : Service) (h : c ≠ own) :
    (service.consumers own).erase c = service.consumers own := by
  cases service with
  | orderService => rfl
  | notificationService => exact Finset.erase_eq_of_notMem (by simpa [Service.consumers] using h)

/-- A close that the client listens to. -/
theorem closed_heard (h : c ∈ client.listening) :
    client.closed lib service c =
      { client with process := service.onClose (client.process.lost lib c) } := by
  unfold Client.closed
  rw [if_pos h]

/-- One that it does not. -/
theorem closed_unheard (h : c ∉ client.listening) :
    client.closed lib service c = { client with process := client.process.lost lib c } := by
  unfold Client.closed
  rw [if_neg h]

/-- Its listener leaves the client's reference or drops it. -/
theorem closed_channel (h : (client.closed lib service c).process.channel = some own) :
    client.process.channel = some own := by
  by_cases hlistens : c ∈ client.listening
  · rw [closed_heard hlistens] at h
    cases service with
    | orderService => cases h
    | notificationService => exact h
  · rw [closed_unheard hlistens] at h
    exact h

/-- What is closed does not depend on who is told. -/
theorem closed_sockets :
    (client.closed lib service c).process.sockets = lib.lost c client.process.sockets := by
  by_cases hlistens : c ∈ client.listening
  · rw [closed_heard hlistens]
    cases service <;> rfl
  · rw [closed_unheard hlistens]
    rfl

/-- A client that holds its channel listens to its own connection only. -/
theorem Client.Holding.quiet (h : client.Holding service own) (hc : c ≠ own) :
    c ∉ client.listening := by
  rw [h.listens]
  simpa using hc

/-- Another connection's close is nothing to the client. -/
theorem Client.Holding.closed_other (h : client.Holding service own) (hc : c ≠ own) :
    (client.closed lib service c).Holding service own := by
  rw [closed_unheard (h.quiet hc)]
  refine ⟨h.waits, h.listens, h.channel, ?_, ?_⟩
  · show own ∈ (lib.lost c client.process.sockets).channels
    rw [lib.lost_channels]
    exact Finset.mem_erase.mpr ⟨hc.symm, h.opened⟩
  · show (lib.lost c client.process.sockets).consumers = service.consumers own
    rw [lib.lost_consumers, h.consumers]
    exact service.consumers_erase hc

/-- Neither is the close of a channel that is not its own. -/
theorem Client.Holding.channelClosed_other (h : client.Holding service own) (hc : c ≠ own) :
    (client.channelClosed lib c).Holding service own := by
  refine ⟨h.waits, h.listens, h.channel, ?_, ?_⟩
  · show own ∈ (lib.channelLost c client.process.sockets).channels
    rw [lib.channelLost_channels]
    exact Finset.mem_erase.mpr ⟨hc.symm, h.opened⟩
  · show (lib.channelLost c client.process.sockets).consumers = service.consumers own
    rw [lib.channelLost_consumers, h.consumers]
    exact service.consumers_erase hc

/-- Nor an error that nobody listens to, unless it ends the process. -/
theorem Client.Holding.unheard_other (h : client.Holding service own) (hc : c ≠ own)
    {aftermath : Aftermath} (hlive : (client.unheard lib service c aftermath).exited = false) :
    (client.unheard lib service c aftermath).Holding service own := by
  cases aftermath with
  | stays => exact h
  | lost => exact h.closed_other hc
  | exits => cases hlive

/-- The client's own connection takes the channel with it. -/
theorem Client.Holding.closed_own (h : client.Holding service own) :
    (client.closed lib service own).Lost own := by
  refine ⟨h.waits, fun c hc => ?_, ?_, ?_⟩
  · exact Option.some.inj ((closed_channel hc).symm.trans h.channel)
  · rw [closed_sockets, lib.lost_channels]
    exact Finset.notMem_erase own _
  · rw [closed_sockets, lib.lost_consumers, h.consumers]
    exact service.consumers_erase_self own

/-- So does the close of the channel alone. -/
theorem Client.Holding.channelClosed_own (h : client.Holding service own) :
    (client.channelClosed lib own).Lost own := by
  refine ⟨h.waits, fun c hc => Option.some.inj (hc.symm.trans h.channel), ?_, ?_⟩
  · show own ∉ (lib.channelLost own client.process.sockets).channels
    rw [lib.channelLost_channels]
    exact Finset.notMem_erase own _
  · show (lib.channelLost own client.process.sockets).consumers = ∅
    rw [lib.channelLost_consumers, h.consumers]
    exact service.consumers_erase_self own

/-- What is lost stays lost at any later close... -/
theorem Client.Lost.closed_any (h : client.Lost own) :
    (client.closed lib service c).Lost own := by
  refine ⟨h.waits, fun c' hc' => h.reference c' (closed_channel hc'), ?_, ?_⟩
  · rw [closed_sockets, lib.lost_channels]
    exact fun hmem => h.closed (Finset.mem_of_mem_erase hmem)
  · rw [closed_sockets, lib.lost_consumers, h.consumers]
    exact Finset.erase_empty c

/-- ... of a channel too... -/
theorem Client.Lost.channelClosed_any (h : client.Lost own) :
    (client.channelClosed lib c).Lost own := by
  refine ⟨h.waits, h.reference, ?_, ?_⟩
  · show own ∉ (lib.channelLost c client.process.sockets).channels
    rw [lib.channelLost_channels]
    exact fun hmem => h.closed (Finset.mem_of_mem_erase hmem)
  · show (lib.channelLost c client.process.sockets).consumers = ∅
    rw [lib.channelLost_consumers, h.consumers]
    exact Finset.erase_empty c

/-- ... and at any error. -/
theorem Client.Lost.unheard_any (h : client.Lost own) (aftermath : Aftermath) :
    (client.unheard lib service c aftermath).Lost own := by
  cases aftermath with
  | stays => exact h
  | lost => exact h.closed_any
  | exits => exact ⟨h.waits, h.reference, h.closed, h.consumers⟩

/-- A step of a process that has not exited. -/
theorem step_live (h : client.exited = false) (event : Event) :
    client.step lib service event =
      match event with
      | .connectionClosed c => client.closed lib service c
      | .connectionError c _ unheard =>
        if c ∈ client.listening then client.closed lib service c
        else client.unheard lib service c unheard
      | .channelClosed c unheard => (client.channelClosed lib c).unheard lib service c unheard
      | .timer attempt => if client.pending then client.retry lib service attempt else client
      | .signal =>
        { client with process := ((service.stop lib).run.run.run client.process).2, exited := true }
      | .uncaught _ => { client with exited := true } := by
  unfold Client.step
  rw [h]
  rfl

/-- What has exited stays so. -/
theorem live_of_step {event : Event} (h : (client.step lib service event).exited = false) :
    client.exited = false := by
  cases hexited : client.exited with
  | false => rfl
  | true =>
    have hsame : client.step lib service event = client := if_pos hexited
    rw [hsame, hexited] at h
    cases h

/-- **An event that does not take the channel leaves it.** -/
theorem Client.Holding.step (h : client.Holding service own) {event : Event}
    (hkept : ¬ event.Takes own) (hlive : (client.step lib service event).exited = false) :
    (client.step lib service event).Holding service own := by
  have hbefore := live_of_step hlive
  rw [step_live hbefore] at hlive ⊢
  cases event with
  | connectionClosed c => exact h.closed_other hkept
  | connectionError c err unheard =>
    dsimp only at hlive ⊢
    rw [if_neg (h.quiet hkept)] at hlive ⊢
    exact h.unheard_other hkept hlive
  | channelClosed c unheard =>
    exact (h.channelClosed_other hkept).unheard_other hkept hlive
  | timer attempt =>
    -- no timer is set
    dsimp only
    rw [h.waits]
    exact h
  | signal => cases hlive
  | uncaught err => cases hlive

/-- **One that takes it leaves the client without.** -/
theorem Client.Holding.step_takes (h : client.Holding service own) {event : Event}
    (htakes : event.Takes own) (hlive : (client.step lib service event).exited = false) :
    (client.step lib service event).Lost own := by
  rw [step_live (live_of_step hlive)]
  cases event with
  | connectionClosed c =>
    obtain rfl : c = own := htakes
    exact h.closed_own
  -- the client listens to its own connection, so an error there is no unheard one
  | connectionError c err unheard =>
    obtain rfl : c = own := htakes
    have hlistens : c ∈ client.listening := by
      rw [h.listens]
      exact List.mem_cons_self
    dsimp only
    rw [if_pos hlistens]
    exact h.closed_own
  | channelClosed c unheard =>
    obtain rfl : c = own := htakes
    exact h.channelClosed_own.unheard_any unheard
  | timer attempt => exact absurd htakes id
  | signal => exact absurd htakes id
  | uncaught err => exact absurd htakes id

/-- **No event gives it back.** -/
theorem Client.Lost.step (h : client.Lost own) {event : Event}
    (hlive : (client.step lib service event).exited = false) :
    (client.step lib service event).Lost own := by
  have hbefore := live_of_step hlive
  rw [step_live hbefore] at hlive ⊢
  cases event with
  | connectionClosed c => exact h.closed_any
  | connectionError c err unheard =>
    dsimp only
    by_cases hlistens : c ∈ client.listening
    · rw [if_pos hlistens]
      exact h.closed_any
    · rw [if_neg hlistens]
      exact h.unheard_any unheard
  | channelClosed c unheard => exact h.channelClosed_any.unheard_any unheard
  -- a timer that is not set does nothing: this is where a reconnect would be
  | timer attempt =>
    dsimp only
    rw [h.waits]
    exact h
  | signal => cases hlive
  | uncaught err => cases hlive

end Step

/-! ## Whole runs -/

section Run

variable {lib : Amqplib} {service : Service} {own : Nat} {client : Client} {events : List Event}

/-- A process that has not exited at the end of a run had not at its beginning. -/
theorem live_of_run (h : (client.run lib service events).exited = false) :
    client.exited = false := by
  induction events generalizing client with
  | nil => exact h
  | cons event events ih => exact live_of_step (ih h)

/-- What is lost is lost for ever. -/
theorem Client.Lost.run (h : client.Lost own)
    (hlive : (client.run lib service events).exited = false) :
    (client.run lib service events).Lost own := by
  induction events generalizing client with
  | nil => exact h
  | cons event events ih => exact ih (h.step (live_of_run hlive)) hlive

/-- The client holds its channel until the first event that takes it. -/
theorem Client.Holding.run (h : client.Holding service own)
    (hlive : (client.run lib service events).exited = false) :
    (∀ event ∈ events, ¬ event.Takes own) ∧ (client.run lib service events).Holding service own ∨
      ¬ (∀ event ∈ events, ¬ event.Takes own) ∧ (client.run lib service events).Lost own := by
  induction events generalizing client with
  | nil => exact .inl ⟨fun _ hmem => absurd hmem List.not_mem_nil, h⟩
  | cons event events ih =>
    have hstep : (client.step lib service event).exited = false := live_of_run hlive
    rw [List.forall_mem_cons]
    by_cases htakes : event.Takes own
    · exact .inr ⟨fun hnone => hnone.1 htakes, (h.step_takes htakes hstep).run hlive⟩
    · rcases ih (h.step htakes hstep) hlive with ⟨hnone, hholding⟩ | ⟨hsome, hlost⟩
      · exact .inl ⟨⟨htakes, hnone⟩, hholding⟩
      · exact .inr ⟨fun hnone => hsome hnone.2, hlost⟩

end Run

/-- The service gets nothing over its client: every publish is rejected, or there is no consumer for
    the broker to deliver to. -/
def Service.Refused (lib : Amqplib) : Service → Process → Prop
  | .orderService, s => ∀ confirm, ∃ err,
      (rabbitPublisher.publishNotification lib confirm).run.run.run s = (some (.error err), s)
  | .notificationService, s => s.sockets.consumers = ∅

section Refused

variable {lib : Amqplib} {service : Service} {own : Nat} {client : Client}

/-- Over an open channel a publish is confirmed when the broker does, and messages are delivered. -/
theorem Client.Holding.not_refused (h : client.Holding service own) :
    ¬ service.Refused lib client.process := by
  cases service with
  | orderService =>
    intro hrefused
    obtain ⟨err, herr⟩ := hrefused (.ok ())
    rw [publishNotification_some h.channel, lib.sendToQueue_open _ _ _ h.opened] at herr
    cases herr
  | notificationService =>
    intro hrefused
    have hsome : client.process.sockets.consumers = {own} := h.consumers
    rw [show client.process.sockets.consumers = ∅ from hrefused] at hsome
    exact Finset.singleton_ne_empty own hsome.symm

/-- Without one every publish is rejected, and nothing is delivered. -/
theorem Client.Lost.refused (h : client.Lost own) : service.Refused lib client.process := by
  cases service with
  | orderService =>
    intro confirm
    cases hchannel : client.process.channel with
    | none => exact ⟨_, publishNotification_none hchannel⟩
    | some c =>
      -- the reference may still be there, but to a channel that is closed
      have hclosed : c ∉ client.process.sockets.channels := by
        rw [h.reference c hchannel]
        exact h.closed
      obtain ⟨err, herr⟩ := lib.sendToQueue_closed c client.process.sockets confirm hclosed
      exact ⟨err, (publishNotification_some hchannel).trans (by rw [herr])⟩
  | notificationService => exact h.consumers

end Refused

/-! ## From start-up on -/

/-- A client that has started holds its channel. -/
theorem Made.holding {lib : Amqplib} {service : Service} {made : Made}
    (hafter : made.after = service.started lib made.before)
    (hconsumers : made.before.sockets.consumers = ∅) :
    (made.client lib).Holding service (lib.fresh made.before.sockets) := by
  unfold Made.client
  rw [hafter]
  refine ⟨rfl, rfl, rfl, ?_, ?_⟩
  · -- both services create their channel first, and no later call closes it
    cases service <;> exact reached_channels
  · cases service with
    | orderService =>
      show (lib.reached (Service.calls .orderService) made.before.sockets).consumers = ∅
      rw [reached_consumers (by decide), hconsumers]
    | notificationService =>
      show (lib.resolved .consume (lib.fresh made.before.sockets)
        (lib.reached [.createChannel, .checkQueue .deadLetterQueue, .checkQueue .retryQueue,
          .checkQueue .queue, .prefetch] made.before.sockets)).consumers = _
      rw [lib.resolved_consumers, if_pos rfl, reached_consumers (by decide), hconsumers]
      rfl

/-- **What becomes of a client after start-up**, until its process ends: it holds an open channel
    exactly until its connection is closed or fails, or its channel is closed; it never has a
    reconnect attempt pending; and from then on every publish is rejected, and nothing is
    delivered. -/
theorem holdsChannel_iff (lib : Amqplib) (service : Service) (attempts : List Attempt)
    {made : Made} (hmade : made ∈ connectWithRetry lib service attempts Process.init)
    (hok : made.result = some (.ok ())) {events : List Event}
    (hlive : ((made.client lib).run lib service events).exited = false) :
    (((made.client lib).run lib service events).HoldsChannel ↔
        ∀ event ∈ events, ¬ event.Takes (lib.fresh made.before.sockets)) ∧
      ((made.client lib).run lib service events).pending = false ∧
      (service.Refused lib ((made.client lib).run lib service events).process ↔
        ¬ ((made.client lib).run lib service events).HoldsChannel) := by
  obtain ⟨hafter, hconsumers⟩ := connectWithRetry_ok hmade hok rfl
  -- after the start the one channel is held, and then as long as no event takes it
  rcases (Made.holding hafter hconsumers).run hlive with ⟨hnone, hholding⟩ | ⟨hsome, hlost⟩
  · exact ⟨iff_of_true hholding.holdsChannel hnone, hholding.waits,
      iff_of_false hholding.not_refused fun hlost => hlost hholding.holdsChannel⟩
  · exact ⟨iff_of_false hlost.not_holdsChannel hsome, hlost.waits,
      iff_of_true hlost.refused hlost.not_holdsChannel⟩

/-- A consumer that has started at its second attempt, and whose channel is closed. -/
theorem holdsChannel_second :
    let made : Made :=
      ⟨Process.init, some (.ok ()), Service.started .plain .notificationService Process.init⟩
    let client := (made.client .plain).run .plain .notificationService
      [.connectionClosed 7, .channelClosed 1 .stays]
    ¬ client.HoldsChannel ∧ client.pending = false := by
  intro made client
  have hruns := @holdsChannel_iff .plain .notificationService
    [.fails .connect .stays { message := "connect ECONNREFUSED" }, .succeeds] made
    (List.mem_cons_of_mem _ List.mem_cons_self) rfl
    [.connectionClosed 7, .channelClosed 1 .stays] rfl
  exact ⟨fun h => hruns.1.mp h _ (List.mem_cons_of_mem _ List.mem_cons_self) rfl, hruns.2.1⟩

/-- Neither service's client survives a close of its connection. -/
theorem not_neverDisconnected :
    ¬ NeverDisconnected .plain .orderService ∧ ¬ NeverDisconnected .plain .notificationService := by
  -- a start in which nothing fails, and a connection that closes after it
  have hnever : ∀ {service : Service},
      service.try .plain .succeeds Process.init =
          (some (.ok ()), Service.started .plain service Process.init) →
        ¬ NeverDisconnected .plain service := by
    intro service htry hnever
    let made : Made := ⟨Process.init, some (.ok ()), Service.started .plain service Process.init⟩
    have hmade : made ∈ connectWithRetry .plain service [.succeeds] Process.init := by
      rw [connectWithRetry, htry]
      exact List.mem_cons_self
    have hholding : (made.client .plain).Holding service 1 :=
      @Made.holding .plain service made rfl rfl
    have hlost : ((made.client .plain).run .plain service [.connectionClosed 1]).Lost 1 :=
      @Client.Holding.step_takes .plain service 1 _ hholding (.connectionClosed 1) rfl rfl
    rcases hnever [.succeeds] made hmade rfl [.connectionClosed 1] rfl with hholds | hpending
    · exact hlost.not_holdsChannel hholds
    · rw [hlost.waits] at hpending
      cases hpending
  exact ⟨hnever (try_succeeds trivial), hnever (try_succeeds trivial)⟩

end Microservices.Amqp
