/-
  What a message keeps on its way through the queues (`scheduleRetry` in
  notification-service/src/messaging/consumer.js, infra/rabbitmq/init-topology.sh).

  A retry makes the properties of its copy by hand, and the broker makes new headers when it
  dead-letters.  What neither of the two changes holds of every copy that can still be delivered, if
  it holds of what is published: through any number of rounds, and through redeliveries as well.

  `Relayed P` is that `P` passes both changes; `Everywhere P` that it holds of every copy in a
  queue, at a consumer or on the wire.  One lemma for each move and each fault of the broker, and
  from them `Everywhere.move` and `Everywhere.fault`: the content of a message and its correlation
  id are two such properties, and both are used where messages are traced.
-/
import Microservices.Notification.Broker

namespace Microservices.Notification

/-- What a retry and a dead-lettering keep. -/
structure Relayed (P : Copy → Prop) : Prop where
  retried : ∀ msg : Delivery, P msg.copy → P (retried msg)
  withHeaders : ∀ (m : Copy) (headers : Headers), P m → P (m.withHeaders headers)

/-- `P` holds of every copy that can still be delivered: in the main or the retry queue, delivered
    and not acked, with a handler, or on its way to the retry queue. -/
structure Everywhere (P : Copy → Prop) (s : State) : Prop where
  main : ∀ m ∈ s.main, P m
  retry : ∀ m ∈ s.retry, P m
  unacked : ∀ d ∈ s.unacked, P d.copy
  handling : ∀ d ∈ s.handling, P d.copy
  wire : ∀ channel m, Frame.publish channel m ∈ s.wire → P m

section Everywhere

variable {P Q : Copy → Prop} {out : Outside} {maxRetries : Nat} {s s' : State}

/-- At the start there is no copy anywhere. -/
theorem Everywhere.init : Everywhere P State.init where
  main _ h := nomatch h
  retry _ h := nomatch h
  unacked _ h := nomatch h
  handling _ h := nomatch h
  wire _ _ h := nomatch h

/-- What holds everywhere may be weakened. -/
theorem Everywhere.mono (h : Everywhere P s) (himp : ∀ m, P m → Q m) : Everywhere Q s where
  main m hm := himp m (h.main m hm)
  retry m hm := himp m (h.retry m hm)
  unacked d hd := himp d.copy (h.unacked d hd)
  handling d hd := himp d.copy (h.handling d hd)
  wire channel m hm := himp m (h.wire channel m hm)

/-- A publish keeps it if it holds of what is published. -/
theorem Everywhere.publish (h : Everywhere P s) (properties : Properties) (content : List UInt8)
    (hnew : P ⟨s.published.length, properties, content⟩) :
    Everywhere P (s.publish properties content) where
  main m hm := by
    rcases List.mem_append.mp hm with hm | hm
    · exact h.main m hm
    · rw [List.mem_singleton.mp hm]
      exact hnew
  retry := h.retry
  unacked := h.unacked
  handling := h.handling
  wire := h.wire

/-- A delivery keeps it. -/
theorem Everywhere.deliver (h : Everywhere P s) (channel : Nat) {m : Copy} {pre post : List Copy}
    (hmain : s.main = pre ++ m :: post) : Everywhere P (s.deliver channel m (pre ++ post)) where
  main m' hm' := h.main m' (mem_of_rest hmain hm')
  retry := h.retry
  unacked d hd := by
    rcases List.mem_append.mp hd with hd | hd
    · exact h.unacked d hd
    · rw [List.mem_singleton.mp hd]
      exact h.main m (mem_of_split hmain)
  handling d hd := by
    rcases List.mem_append.mp hd with hd | hd
    · exact h.handling d hd
    · rw [List.mem_singleton.mp hd]
      exact h.main m (mem_of_split hmain)
  wire := h.wire

/-- A handler publishes a retry of its own delivery, or nothing. -/
theorem Everywhere.complete (hP : Relayed P) (h : Everywhere P s) {d : Delivery} {side : Side}
    {pre post : List Delivery} (hhandling : s.handling = pre ++ d :: post)
    (hends : Ends out.number out.encodes (.int maxRetries) (s.isOpen d.channel) d side) :
    Everywhere P (s.complete d side (pre ++ post)) where
  main := h.main
  retry := h.retry
  unacked := h.unacked
  handling d' hd' := h.handling d' (mem_of_rest hhandling hd')
  wire channel m hm := by
    rcases List.mem_append.mp hm with hm | hm
    · exact h.wire channel m hm
    · cases hends with
      | unreadable e hcount => cases hm
      | closed ok hclosed => cases hm
      | acked hopen => simp at hm
      | givenUp retries hcount hgiveUp hopen => simp at hm
      | rescheduled retries hcount hretry hopen =>
        simp only [List.mem_cons, Frame.publish.injEq, reduceCtorEq, List.not_mem_nil, or_false]
          at hm
        -- the copy scheduled anew is that of the delivery, whose headers are kept
        rw [hm.2]
        exact hP.retried d (h.handling d (mem_of_split hhandling))

/-- A frame that the broker takes does. -/
theorem Everywhere.take (h : Everywhere P s) {frame : Frame} {pre post : List Frame}
    (hwire : s.wire = pre ++ frame :: post)
    (htakes : Takes out frame { s with wire := pre ++ post } s') : Everywhere P s' := by
  have hrest : ∀ channel m, Frame.publish channel m ∈ pre ++ post → P m := fun channel m hm =>
    h.wire channel m (mem_of_rest hwire hm)
  cases htakes with
  | publish _ channel m =>
    refine ⟨h.main, fun m' hm' => ?_, h.unacked, h.handling, hrest⟩
    rcases List.mem_append.mp hm' with hm' | hm'
    · exact h.retry m' hm'
    · -- from the wire to the retry queue
      rw [List.mem_singleton.mp hm']
      exact h.wire channel m (mem_of_split hwire)
  | ack msg hunacked htag =>
    exact ⟨h.main, h.retry, fun d hd => h.unacked d (mem_of_rest hunacked hd), h.handling, hrest⟩
  | nack msg hunacked htag =>
    exact ⟨h.main, h.retry, fun d hd => h.unacked d (mem_of_rest hunacked hd), h.handling, hrest⟩

/-- An expiry does, if it holds of a copy with one more death. -/
theorem Everywhere.expire (hP : Relayed P) (h : Everywhere P s) (headers : Headers) {m : Copy}
    {pre post : List Copy} (hretry : s.retry = pre ++ m :: post) :
    Everywhere P (s.expire headers m (pre ++ post)) where
  main m' hm' := by
    rcases List.mem_append.mp hm' with hm' | hm'
    · exact h.main m' hm'
    · rw [List.mem_singleton.mp hm']
      exact hP.withHeaders m headers (h.retry m (mem_of_split hretry))
  retry m' hm' := h.retry m' (mem_of_rest hretry hm')
  unacked := h.unacked
  handling := h.handling
  wire := h.wire

/-- What is requeued has been delivered before. -/
theorem Everywhere.fault (h : Everywhere P s) (hfault : Fault s s') : Everywhere P s' := by
  cases hfault with
  | close channel => exact ⟨h.main, h.retry, h.unacked, h.handling, h.wire⟩
  | lose channel =>
    refine ⟨fun m hm => ?_, h.retry, fun d hd => h.unacked d (List.mem_filter.mp hd).1, h.handling,
      h.wire⟩
    rcases List.mem_append.mp hm with hm | hm
    · obtain ⟨d, hd, rfl⟩ := List.mem_map.mp hm
      exact h.unacked d (List.mem_filter.mp hd).1
    · exact h.main m hm

/-- **A step keeps what is relayed**, if what it publishes has it. -/
theorem Everywhere.move (hP : Relayed P) (h : Everywhere P s) (hmove : Move out maxRetries s s')
    (hnew : s'.published = s.published) : Everywhere P s' := by
  cases hmove with
  | publish properties content =>
    have hlength := congrArg List.length hnew
    simp [State.publish] at hlength
  | deliver channel hconnected hmain => exact h.deliver channel hmain
  | complete sent hhandling => exact h.complete hP hhandling handled_ends
  | take hconnected hwire hfirst htakes => exact h.take hwire htakes
  | expire hretry => exact h.expire hP _ hretry

end Everywhere

end Microservices.Notification
