/-
  Start-up, tried until it succeeds (connectBrokersWithRetry in order-service/src/server.js,
  connectWithRetry in notification-service/src/app.js).

  An attempt that fails is followed by another, which takes over the references of the client.  What
  the failed one has opened and not closed stays open with no reference to it.

  1. **One attempt.**  `try_succeeds` gives the process after an attempt that comes to its end,
     `try_exits` after one that ends the process, and `try_fails` what every other one leaves
     (`Leaves`): its connection is open exactly if the failure is not covered, and no consumer of
     its own is there.

  2. **The loop.**  `tidy_iff` is the induction over the attempts: as long as every failure is
     covered, each attempt begins with no connection.

  3. **The result**, `noLeak_iff`: start-up leaks no connection if and only if every attempt that
     fails is covered, for every library that keeps what amqplib's documentation promises.
-/
import Microservices.Amqp.Client

namespace Microservices.Amqp

/-! ## The loop -/

/-- An attempt that has been made. -/
structure Made where
  before : Process
  result : Ending
  after : Process

section Retry

variable (lib : Amqplib) (service : Service)

/-- `connectBrokersWithRetry` and `connectWithRetry`, for as many attempts as there are. -/
def connectWithRetry : List Attempt → Process → List Made
  | [], _ => []
  | attempt :: attempts, s =>
    match service.try lib attempt s with
    | (some (.error err), s') => ⟨s, some (.error err), s'⟩ :: connectWithRetry attempts s'
    | (result, s') => [⟨s, result, s'⟩]

/-- After a successful attempt there is one connection, and after another one nothing is open that
    it has opened. -/
def Made.Tidy (made : Made) : Prop :=
  match made.result with
  | some (.ok _) => ∃ c, made.after.sockets.connections = {c}
  | _ => made.after.sockets.connections ⊆ made.before.sockets.connections

/-- **Retries leak no connection.** -/
def NoLeak (attempts : List Attempt) : Prop :=
  ∀ made ∈ connectWithRetry lib service attempts Process.init, made.Tidy

end Retry

/-! ## Attempts -/

/-- What a start awaits on its connection. -/
def Service.calls : Service → List Await
  | .orderService => [.createChannel, .checkQueue .queue]
  | .notificationService => [.createChannel, .checkQueue .deadLetterQueue,
      .checkQueue .retryQueue, .checkQueue .queue, .prefetch, .consume]

/-- The awaits of a start. -/
def Service.awaits : Service → List Await
  | .orderService => .kafka :: .connect :: Service.calls .orderService
  | .notificationService => .connect :: Service.calls .notificationService

/-- The attempt comes to its end. -/
def Attempt.Succeeds (service : Service) : Attempt → Prop
  | .succeeds => True
  | .fails w _ _ => w ∉ service.awaits

/-- Whether it comes to its end is read off the attempt. -/
instance (service : Service) (attempt : Attempt) : Decidable (attempt.Succeeds service) :=
  match attempt with
  | .succeeds => inferInstanceAs (Decidable True)
  | .fails w _ _ => inferInstanceAs (Decidable (w ∉ service.awaits))

/-- The attempt fails, and another follows. -/
def Attempt.Fails (service : Service) : Attempt → Prop
  | .succeeds => False
  | .fails w aftermath _ => w ∈ service.awaits ∧ aftermath ≠ .exits

/-- So is whether another one follows. -/
instance (service : Service) (attempt : Attempt) : Decidable (attempt.Fails service) :=
  match attempt with
  | .succeeds => inferInstanceAs (Decidable False)
  | .fails w aftermath _ => inferInstanceAs (Decidable (w ∈ service.awaits ∧ aftermath ≠ .exits))

/-- Where an attempt may fail and leave no connection: there is none yet, or it is closed in a
    `catch`. -/
def Service.Covers : Service → Await → Prop
  | _, .kafka => True
  | _, .connect => True
  | .notificationService, .checkQueue _ => True
  | _, _ => False

/-- The attempt fails where that is covered, or loses its connection. -/
def Attempt.Covered (service : Service) : Attempt → Prop
  | .succeeds => True
  | .fails w aftermath _ => aftermath = .lost ∨ service.Covers w

/-! ## Calls on one connection -/

section Calls

variable {lib : Amqplib} {c : Nat} {s s' : Sockets} {ws : List Await} {w : Await}

/-- The calls `ws` on the connection `c`, all of which resolve. -/
def Amqplib.through (lib : Amqplib) (ws : List Await) (c : Nat) (s : Sockets) : Sockets :=
  ws.foldl (fun s w => lib.resolved w c s) s

/-- Calls on a connection open none. -/
theorem through_connections (h : .connect ∉ ws) :
    (lib.through ws c s).connections = s.connections := by
  induction ws generalizing s with
  | nil => rfl
  | cons w ws ih =>
    obtain ⟨hw, hws⟩ := List.ne_and_not_mem_of_not_mem_cons h
    calc (lib.through ws c (lib.resolved w c s)).connections
        = (lib.resolved w c s).connections := ih hws
      _ = s.connections := by rw [lib.resolved_connections, if_neg hw.symm]

/-- Calls other than `consume` start no consumer. -/
theorem through_consumers (h : .consume ∉ ws) :
    (lib.through ws c s).consumers = s.consumers := by
  induction ws generalizing s with
  | nil => rfl
  | cons w ws ih =>
    obtain ⟨hw, hws⟩ := List.ne_and_not_mem_of_not_mem_cons h
    calc (lib.through ws c (lib.resolved w c s)).consumers
        = (lib.resolved w c s).consumers := ih hws
      _ = s.consumers := by rw [lib.resolved_consumers, if_neg hw.symm]

/-- Calls that resolve keep every channel. -/
theorem through_channels : s.channels ⊆ (lib.through ws c s).channels := by
  induction ws generalizing s with
  | nil => exact Finset.Subset.refl _
  | cons w ws ih => exact Finset.Subset.trans (lib.channels_subset w c s) ih

/-- All that an attempt on the connection `c` may have added to the sockets `s` is that
    connection. -/
structure Sockets.Within (c : Nat) (s s' : Sockets) : Prop where
  connections : s'.connections ⊆ insert c s.connections
  consumers : s'.consumers ⊆ s.consumers

/-- A call that is rejected adds nothing to that. -/
theorem Sockets.Within.rejected (h : s.Within c s') : s.Within c (lib.rejected w c s') :=
  ⟨by rw [lib.rejected_connections]; exact h.connections,
    Finset.Subset.trans (lib.rejected_consumers w c s') h.consumers⟩

/-- Neither does the loss of the connection. -/
theorem Sockets.Within.lost (h : s.Within c s') : s.Within c (lib.lost c s') := by
  refine ⟨?_, ?_⟩
  · rw [lib.lost_connections]
    exact Finset.Subset.trans (Finset.erase_subset c _) h.connections
  · rw [lib.lost_consumers]
    exact Finset.Subset.trans (Finset.erase_subset c _) h.consumers

/-- `stop`. -/
theorem Sockets.Within.stop (h : s.Within c s') :
    s.Within c (lib.close c (lib.closeChannel c s').2).2 := by
  refine ⟨?_, ?_⟩
  · rw [lib.close_connections, lib.closeChannel_connections]
    exact Finset.Subset.trans (Finset.erase_subset c _) h.connections
  · exact Finset.Subset.trans (lib.close_consumers c _)
      (Finset.Subset.trans (lib.closeChannel_consumers c s') h.consumers)

/-- An attempt that has got its connection, and then made the calls `ws` on it. -/
def Amqplib.reached (lib : Amqplib) (ws : List Await) (s : Sockets) : Sockets :=
  lib.through ws (lib.fresh s) (lib.resolved .connect (lib.fresh s) s)

/-- What is open then is what was open before, and the connection. -/
theorem reached_connections (h : .connect ∉ ws) :
    (lib.reached ws s).connections = insert (lib.fresh s) s.connections := by
  unfold Amqplib.reached
  rw [through_connections h, lib.resolved_connections, if_pos rfl]

/-- Up to its last call it has no consumer. -/
theorem reached_consumers (h : .consume ∉ ws) : (lib.reached ws s).consumers = s.consumers := by
  unfold Amqplib.reached
  rw [through_consumers h, lib.resolved_consumers, if_neg (by decide)]

/-- An attempt that has created its channel has it from then on. -/
theorem reached_channels : lib.fresh s ∈ (lib.reached (.createChannel :: ws) s).channels := by
  show lib.fresh s ∈ (lib.through ws (lib.fresh s) (lib.resolved .createChannel (lib.fresh s)
    (lib.resolved .connect (lib.fresh s) s))).channels
  exact through_channels (lib.createChannel_mem _ _)

/-- Before it consumes it has added no more than its connection. -/
theorem within_reached (hconnect : .connect ∉ ws) (hconsume : .consume ∉ ws) :
    s.Within (lib.fresh s) (lib.reached ws s) :=
  ⟨(reached_connections hconnect).subset, (reached_consumers hconsume).subset⟩

end Calls

/-! ## What one attempt does -/

section Try

variable {lib : Amqplib} {service : Service} {attempt : Attempt} {s s' : Process}

/-- A process whose client has just started on a new connection. -/
def Service.started (lib : Amqplib) (service : Service) (s : Process) : Process where
  sockets := lib.reached service.calls s.sockets
  connection := some (lib.fresh s.sockets)
  channel := some (lib.fresh s.sockets)

/-- None of its awaits fails. -/
theorem Attempt.Succeeds.failure (h : attempt.Succeeds service) :
    ∀ w ∈ service.awaits, attempt.failure w = none := by
  intro w hw
  cases attempt with
  | succeeds => rfl
  | fails w' aftermath err => exact if_neg fun heq : w' = w => h (heq ▸ hw)

/-- **An attempt that comes to its end.** -/
theorem try_succeeds (h : attempt.Succeeds service) :
    service.try lib attempt s = (some (.ok ()), service.started lib s) := by
  have hnone := h.failure
  cases service with
  | orderService =>
    show (connectBrokers lib attempt).run.run.run s = _
    -- no await fails, so each step of the source is gone through
    simp only [connectBrokers, kafkaProducer.connect, rabbitPublisher.connect, amqp.connect, await,
      hnone .kafka (by decide), hnone .connect (by decide), hnone .createChannel (by decide),
      hnone (.checkQueue .queue) (by decide)]
    rfl
  | notificationService =>
    show (consumer.start lib attempt).run.run.run s = _
    simp only [consumer.start, consumer.checkTopology, amqp.connect, await,
      hnone .connect (by decide), hnone .createChannel (by decide),
      hnone (.checkQueue .deadLetterQueue) (by decide),
      hnone (.checkQueue .retryQueue) (by decide), hnone (.checkQueue .queue) (by decide),
      hnone .prefetch (by decide), hnone .consume (by decide)]
    rfl

/-- **An attempt that ends the process**: nothing is open any more. -/
theorem try_exits {w : Await} {err : JsError} (hw : w ∈ service.awaits) :
    (service.try lib (.fails w .exits err) s).1 = none ∧
      (service.try lib (.fails w .exits err) s).2.sockets = .none := by
  -- wherever the process ends, the sockets are closed at once: each case is a computation
  cases service with
  | orderService =>
    cases w with
    | kafka => exact ⟨rfl, rfl⟩
    | connect => exact ⟨rfl, rfl⟩
    | createChannel => exact ⟨rfl, rfl⟩
    | checkQueue q =>
      cases q with
      | queue => exact ⟨rfl, rfl⟩
      | retryQueue => exact absurd hw (by decide)
      | deadLetterQueue => exact absurd hw (by decide)
    | prefetch => exact absurd hw (by decide)
    | consume => exact absurd hw (by decide)
  | notificationService =>
    cases w with
    | kafka => exact absurd hw (by decide)
    | connect => exact ⟨rfl, rfl⟩
    | createChannel => exact ⟨rfl, rfl⟩
    | checkQueue q => cases q <;> exact ⟨rfl, rfl⟩
    | prefetch => exact ⟨rfl, rfl⟩
    | consume => exact ⟨rfl, rfl⟩

/-- What a failed attempt leaves: no consumer of its own, and no connection if it is covered. -/
structure Leaves (lib : Amqplib) (service : Service) (attempt : Attempt) (s s' : Process) :
    Prop where
  consumers : s'.sockets.consumers ⊆ s.sockets.consumers
  closed : attempt.Covered service → s'.sockets.connections ⊆ s.sockets.connections
  leaked : ¬ attempt.Covered service → lib.fresh s.sockets ∈ s'.sockets.connections

/-- Its connection is closed, or there never was one. -/
theorem Leaves.nothing {c : Nat} (hcovered : attempt.Covered service)
    (hwithin : s.sockets.Within c s'.sockets) (hclosed : c ∉ s'.sockets.connections) :
    Leaves lib service attempt s s' := by
  refine ⟨hwithin.consumers, fun _ c' hc' => ?_, fun hleaks => absurd hcovered hleaks⟩
  rcases Finset.mem_insert.mp (hwithin.connections hc') with rfl | hold
  · exact absurd hc' hclosed
  · exact hold

/-- The connection is lost with the call. -/
theorem Leaves.lost {w : Await} {err : JsError} (ws : List Await) (hconnect : .connect ∉ ws)
    (hconsume : .consume ∉ ws)
    (h : s'.sockets = lib.lost (lib.fresh s.sockets)
      (lib.rejected w (lib.fresh s.sockets) (lib.reached ws s.sockets))) :
    Leaves lib service (.fails w .lost err) s s' := by
  refine .nothing (.inl rfl) (c := lib.fresh s.sockets) ?_ ?_
  · rw [h]
    exact (within_reached hconnect hconsume).rejected.lost
  · rw [h, lib.lost_connections]
    exact Finset.notMem_erase _ _

/-- The references to it may be gone, the connection is not. -/
theorem Leaves.connection {w : Await} {err : JsError} (ws : List Await) (hw : ¬ service.Covers w)
    (hconnect : .connect ∉ ws) (hconsume : .consume ∉ ws)
    (h : s'.sockets = lib.rejected w (lib.fresh s.sockets) (lib.reached ws s.sockets)) :
    Leaves lib service (.fails w .stays err) s s' := by
  refine ⟨?_, fun hcovered => ?_, fun _ => ?_⟩
  · rw [h]
    exact (within_reached hconnect hconsume).rejected.consumers
  · rcases hcovered with hlost | hcovers
    · cases hlost
    · exact absurd hcovers hw
  · rw [h, lib.rejected_connections, reached_connections hconnect]
    exact Finset.mem_insert_self _ _

/-- `stop` closes the connection, whether or not the failure has done so. -/
theorem Leaves.stopped {w : Await} {aftermath : Aftermath} {err : JsError} {sockets : Sockets}
    (hw : service.Covers w) (hwithin : s.sockets.Within (lib.fresh s.sockets) sockets)
    (h : s'.sockets = (lib.close (lib.fresh s.sockets)
      (lib.closeChannel (lib.fresh s.sockets) sockets).2).2) :
    Leaves lib service (.fails w aftermath err) s s' := by
  refine .nothing (.inr hw) (c := lib.fresh s.sockets) ?_ ?_
  · rw [h]
    exact hwithin.stop
  · rw [h, lib.close_connections]
    exact Finset.notMem_erase _ _

/-- `amqp.connect` is rejected: there is no connection to close. -/
theorem Leaves.unconnected {w : Await} {aftermath : Aftermath} {err : JsError}
    (hw : service.Covers w)
    (h : s'.sockets = lib.rejected .connect (lib.fresh s.sockets) s.sockets ∨
      s'.sockets = lib.lost (lib.fresh s.sockets)
        (lib.rejected .connect (lib.fresh s.sockets) s.sockets)) :
    Leaves lib service (.fails w aftermath err) s s' := by
  have hwithin : s.sockets.Within (lib.fresh s.sockets) s.sockets :=
    ⟨Finset.subset_insert _ _, Finset.Subset.refl _⟩
  -- a connection that was refused is none, whether it is lost afterwards or not
  rcases h with h | h
  · refine .nothing (.inr hw) (by rw [h]; exact hwithin.rejected) ?_
    rw [h, lib.rejected_connections]
    exact lib.fresh_notMem s.sockets
  · refine .nothing (.inr hw) (by rw [h]; exact hwithin.rejected.lost) ?_
    rw [h, lib.lost_connections]
    exact Finset.notMem_erase _ _

/-- Kafka's connection is none of amqplib's. -/
theorem Leaves.kafka {aftermath : Aftermath} {err : JsError} (h : s'.sockets = s.sockets) :
    Leaves lib service (.fails .kafka aftermath err) s s' := by
  have hcovers : service.Covers .kafka := by cases service <;> trivial
  exact ⟨(congrArg Sockets.consumers h).subset, fun _ => (congrArg Sockets.connections h).subset,
    fun hleaks => absurd (.inr hcovers) hleaks⟩

/-- A failing await of order-service, case by case. -/
theorem connectBrokers_fails {w : Await} {aftermath : Aftermath} {err : JsError}
    (hw : w ∈ Service.awaits .orderService) (hlives : aftermath ≠ .exits) :
    ∃ err' s', Service.orderService.try lib (.fails w aftermath err) s = (some (.error err'), s') ∧
      Leaves lib .orderService (.fails w aftermath err) s s' := by
  cases aftermath with
  | exits => exact absurd rfl hlives
  -- before `createChannel` there is nothing to close; from there on nobody closes the connection
  | stays =>
    cases w with
    | kafka => exact ⟨_, _, rfl, .kafka rfl⟩
    | connect => exact ⟨_, _, rfl, .unconnected trivial (.inl rfl)⟩
    | createChannel => exact ⟨_, _, rfl, .connection [] id (by decide) (by decide) rfl⟩
    | checkQueue q =>
      cases q with
      | queue =>
        exact ⟨_, _, rfl, .connection [.createChannel] id (by decide) (by decide) rfl⟩
      | retryQueue => exact absurd hw (by decide)
      | deadLetterQueue => exact absurd hw (by decide)
    | prefetch => exact absurd hw (by decide)
    | consume => exact absurd hw (by decide)
  | lost =>
    cases w with
    | kafka => exact ⟨_, _, rfl, .kafka rfl⟩
    | connect => exact ⟨_, _, rfl, .unconnected trivial (.inr rfl)⟩
    | createChannel => exact ⟨_, _, rfl, .lost [] (by decide) (by decide) rfl⟩
    | checkQueue q =>
      cases q with
      | queue => exact ⟨_, _, rfl, .lost [.createChannel] (by decide) (by decide) rfl⟩
      | retryQueue => exact absurd hw (by decide)
      | deadLetterQueue => exact absurd hw (by decide)
    | prefetch => exact absurd hw (by decide)
    | consume => exact absurd hw (by decide)

/-- A queue that cannot be checked stops the consumer, which closes its connection. -/
theorem checkTopology_fails (q : Queue) {aftermath : Aftermath} {err : JsError}
    (hlives : aftermath ≠ .exits) :
    ∃ err' s', Service.notificationService.try lib (.fails (.checkQueue q) aftermath err) s =
        (some (.error err'), s') ∧
      Leaves lib .notificationService (.fails (.checkQueue q) aftermath err) s s' := by
  have hwithin : ∀ {ws : List Await}, .connect ∉ ws → .consume ∉ ws →
      s.sockets.Within (lib.fresh s.sockets)
        (lib.rejected (.checkQueue q) (lib.fresh s.sockets) (lib.reached ws s.sockets)) :=
    fun hconnect hconsume => (within_reached hconnect hconsume).rejected
  -- at each of the three queues the `catch` runs `stop`, on whatever the failure has left
  cases aftermath with
  | exits => exact absurd rfl hlives
  | stays =>
    cases q with
    | deadLetterQueue =>
      exact ⟨_, _, rfl, .stopped trivial (@hwithin [.createChannel] (by decide) (by decide)) rfl⟩
    | retryQueue =>
      exact ⟨_, _, rfl, .stopped trivial
        (@hwithin [.createChannel, .checkQueue .deadLetterQueue] (by decide) (by decide)) rfl⟩
    | queue =>
      exact ⟨_, _, rfl, .stopped trivial
        (@hwithin [.createChannel, .checkQueue .deadLetterQueue, .checkQueue .retryQueue]
          (by decide) (by decide)) rfl⟩
  | lost =>
    cases q with
    | deadLetterQueue =>
      exact ⟨_, _, rfl, .stopped trivial
        (@hwithin [.createChannel] (by decide) (by decide)).lost rfl⟩
    | retryQueue =>
      exact ⟨_, _, rfl, .stopped trivial
        (@hwithin [.createChannel, .checkQueue .deadLetterQueue] (by decide) (by decide)).lost rfl⟩
    | queue =>
      exact ⟨_, _, rfl, .stopped trivial
        (@hwithin [.createChannel, .checkQueue .deadLetterQueue, .checkQueue .retryQueue]
          (by decide) (by decide)).lost rfl⟩

/-- A failing await of notification-service, case by case. -/
theorem start_fails {w : Await} {aftermath : Aftermath} {err : JsError}
    (hw : w ∈ Service.awaits .notificationService) (hlives : aftermath ≠ .exits) :
    ∃ err' s', Service.notificationService.try lib (.fails w aftermath err) s =
        (some (.error err'), s') ∧
      Leaves lib .notificationService (.fails w aftermath err) s s' := by
  cases w with
  | kafka => exact absurd hw (by decide)
  | connect =>
    cases aftermath with
    | exits => exact absurd rfl hlives
    | stays => exact ⟨_, _, rfl, .unconnected trivial (.inl rfl)⟩
    | lost => exact ⟨_, _, rfl, .unconnected trivial (.inr rfl)⟩
  | createChannel =>
    cases aftermath with
    | exits => exact absurd rfl hlives
    | stays => exact ⟨_, _, rfl, .connection [] id (by decide) (by decide) rfl⟩
    | lost => exact ⟨_, _, rfl, .lost [] (by decide) (by decide) rfl⟩
  | checkQueue q => exact checkTopology_fails q hlives
  -- outside of `checkTopology` there is no `catch`: the connection stays unless it is lost
  | prefetch =>
    cases aftermath with
    | exits => exact absurd rfl hlives
    | stays => exact ⟨_, _, rfl, .connection [.createChannel, .checkQueue .deadLetterQueue,
        .checkQueue .retryQueue, .checkQueue .queue] id (by decide) (by decide) rfl⟩
    | lost => exact ⟨_, _, rfl, .lost [.createChannel, .checkQueue .deadLetterQueue,
        .checkQueue .retryQueue, .checkQueue .queue] (by decide) (by decide) rfl⟩
  | consume =>
    cases aftermath with
    | exits => exact absurd rfl hlives
    | stays => exact ⟨_, _, rfl, .connection [.createChannel, .checkQueue .deadLetterQueue,
        .checkQueue .retryQueue, .checkQueue .queue, .prefetch] id (by decide) (by decide) rfl⟩
    | lost => exact ⟨_, _, rfl, .lost [.createChannel, .checkQueue .deadLetterQueue,
        .checkQueue .retryQueue, .checkQueue .queue, .prefetch] (by decide) (by decide) rfl⟩

/-- **An attempt that fails and is followed by another.** -/
theorem try_fails (h : attempt.Fails service) :
    ∃ err s', service.try lib attempt s = (some (.error err), s') ∧
      Leaves lib service attempt s s' := by
  cases attempt with
  | succeeds => exact absurd h id
  | fails w aftermath err =>
    cases service with
    | orderService => exact connectBrokers_fails h.1 h.2
    | notificationService => exact start_fails h.1 h.2

/-- An attempt that neither succeeds nor is followed by another ends the process. -/
theorem try_ends (hsucceeds : ¬ attempt.Succeeds service) (hfails : ¬ attempt.Fails service) :
    ∃ s', service.try lib attempt s = (none, s') ∧ s'.sockets = .none := by
  cases attempt with
  | succeeds => exact absurd trivial hsucceeds
  | fails w aftermath err =>
    have hw : w ∈ service.awaits := Decidable.not_not.mp hsucceeds
    obtain rfl : aftermath = .exits := Decidable.not_not.mp fun hlives => hfails ⟨hw, hlives⟩
    obtain ⟨hnone, hsockets⟩ := @try_exits lib service s w err hw
    exact ⟨_, Prod.ext hnone rfl, hsockets⟩

end Try

/-! ## Exactly when nothing leaks -/

/-- The attempts that fail, up to the first that succeeds or ends the process. -/
def failed (service : Service) (attempts : List Attempt) : List Attempt :=
  attempts.takeWhile fun attempt => attempt.Fails service

section Loop

variable {lib : Amqplib} {service : Service} {attempt : Attempt} {attempts : List Attempt}
  {s s' : Process}

/-- An attempt that succeeds is the last. -/
theorem connectWithRetry_succeeds (h : attempt.Succeeds service) :
    connectWithRetry lib service (attempt :: attempts) s =
      [⟨s, some (.ok ()), service.started lib s⟩] := by
  rw [connectWithRetry, try_succeeds h]

/-- One that ends the process is the last too. -/
theorem connectWithRetry_ends (h : service.try lib attempt s = (none, s')) :
    connectWithRetry lib service (attempt :: attempts) s = [⟨s, none, s'⟩] := by
  rw [connectWithRetry, h]

/-- One that fails is followed by the rest. -/
theorem connectWithRetry_fails {err : JsError}
    (h : service.try lib attempt s = (some (.error err), s')) :
    connectWithRetry lib service (attempt :: attempts) s =
      ⟨s, some (.error err), s'⟩ :: connectWithRetry lib service attempts s' := by
  rw [connectWithRetry, h]

/-- Nothing follows an attempt that does not fail. -/
theorem failed_last (h : ¬ attempt.Fails service) : failed service (attempt :: attempts) = [] :=
  List.takeWhile_cons_of_neg (by simpa using h)

/-- An attempt that fails is counted, and so are those after it. -/
theorem failed_fails (h : attempt.Fails service) :
    failed service (attempt :: attempts) = attempt :: failed service attempts :=
  List.takeWhile_cons_of_pos (by simpa using h)

/-- From a process with no connection, nothing leaks if and only if every failure is covered. -/
theorem tidy_iff (hs : s.sockets.connections = ∅) :
    (∀ made ∈ connectWithRetry lib service attempts s, made.Tidy) ↔
      ∀ attempt ∈ failed service attempts, attempt.Covered service := by
  -- by induction on the attempts: as long as they are covered, each begins with no connection
  induction attempts generalizing s with
  | nil =>
    exact iff_of_true (fun _ h => absurd h List.not_mem_nil) fun _ h => absurd h List.not_mem_nil
  | cons attempt attempts ih =>
    by_cases hfails : attempt.Fails service
    · obtain ⟨err, s', htry, hleaves⟩ := @try_fails lib service attempt s hfails
      rw [connectWithRetry_fails htry, failed_fails hfails, List.forall_mem_cons,
        List.forall_mem_cons]
      by_cases hcovered : attempt.Covered service
      · have htidy : Made.Tidy ⟨s, some (.error err), s'⟩ := hleaves.closed hcovered
        have hnone : s'.sockets.connections = ∅ :=
          Finset.subset_empty.mp (hs ▸ hleaves.closed hcovered)
        rw [ih hnone]
        exact ⟨fun h => ⟨hcovered, h.2⟩, fun h => ⟨htidy, h.2⟩⟩
      · refine iff_of_false (fun h => ?_) fun h => hcovered h.1
        exact lib.fresh_notMem s.sockets (h.1 (hleaves.leaked hcovered))
    · rw [failed_last hfails]
      refine iff_of_true (fun made hmade => ?_) fun _ h => absurd h List.not_mem_nil
      by_cases hsucceeds : attempt.Succeeds service
      · rw [connectWithRetry_succeeds hsucceeds, List.mem_singleton] at hmade
        rw [hmade]
        have hcalls : Await.connect ∉ service.calls := by cases service <;> decide
        refine ⟨lib.fresh s.sockets, ?_⟩
        show (lib.reached service.calls s.sockets).connections = _
        rw [reached_connections hcalls, hs]
        rfl
      · obtain ⟨s', htry, hsockets⟩ := @try_ends lib service attempt s hsucceeds hfails
        rw [connectWithRetry_ends htry, List.mem_singleton] at hmade
        rw [hmade]
        show s'.sockets.connections ⊆ _
        rw [hsockets]
        exact Finset.empty_subset _

end Loop

/-- **Exactly when start-up leaks no connection**, whatever library keeps the promises of amqplib:
    every attempt that fails does so before it has a connection, or where the service closes it, or
    loses it. -/
theorem noLeak_iff (lib : Amqplib) (service : Service) (attempts : List Attempt) :
    NoLeak lib service attempts ↔
      ∀ attempt ∈ failed service attempts, attempt.Covered service :=
  tidy_iff rfl

/-- The error of an await that an example fails. -/
private def refused : JsError := { message := "Channel closed by server: 404 (NOT-FOUND)" }

/-- A queue that is not there costs order-service a connection; a channel that cannot be created, or
    a `consume` that is refused, costs notification-service one. -/
theorem not_noLeak :
    ¬ NoLeak .plain .orderService [.fails (.checkQueue .queue) .stays refused] ∧
      ¬ NoLeak .plain .notificationService [.fails .createChannel .stays refused] ∧
      ¬ NoLeak .plain .notificationService [.fails .consume .stays refused] := by
  -- in none of the three attempts is the failure covered
  have hleaks : ∀ {service : Service} {w : Await}, w ∈ service.awaits → ¬ service.Covers w →
      ¬ NoLeak .plain service [.fails w .stays refused] := by
    intro service w hw huncovered hnoLeak
    have hfails : (Attempt.fails w .stays refused).Fails service := ⟨hw, by decide⟩
    have hcovered := (tidy_iff rfl).mp hnoLeak (.fails w .stays refused) (by
      rw [failed_fails hfails]
      exact List.mem_cons_self)
    rcases hcovered with hlost | hcovers
    · cases hlost
    · exact huncovered hcovers
  exact ⟨hleaks (by decide) id, hleaks (by decide) id, hleaks (by decide) id⟩

end Microservices.Amqp
