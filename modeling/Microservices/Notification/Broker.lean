/-
  The three queues and their consumers (infra/rabbitmq/init-topology.sh,
  `consumeMainQueue` in notification-service/src/messaging/consumer.js).

  A state has the queues, the deliveries that are not acked, the handlers at work, and the frames
  that are under way to the broker.  A step is one of these: something is published or delivered, a
  handler completes and writes its frames, the broker takes the next frame of a channel, a message
  of the retry queue expires.  A fault closes a channel on one of its two sides.

  Frames of one channel are taken in the order they were sent; frames of different channels are not
  ordered.  The prefetch count is not modelled: a channel may have any number of deliveries.
-/
import Mathlib.Logic.Function.Basic
import Mathlib.Logic.Relation
import Mathlib.Tactic.Tauto
import Microservices.Notification.Deaths

namespace Microservices.Notification

/-! ## States -/

/-- What is not code of the service: the standard library, amqplib, and what the broker writes into
    the headers of a message that expires or is rejected. -/
structure Outside where
  decode : List UInt8 → String
  parse : String → Except JsError JsValue
  number : Field → Except JsError Int
  encodes : Copy → Option JsError
  expired : Headers → Headers
  rejected : Headers → Headers

/-- The broker with its consumers.  The last three fields record what has happened: the messages
    published, the outcomes of `handler.process`, and the messages that expired. -/
structure State where
  main : List Copy
  retry : List Copy
  dlq : List Copy
  unacked : List Delivery
  handling : List Delivery
  wire : List Frame
  isOpen : Nat → Bool
  connected : Nat → Bool
  nextTag : Nat → Nat
  published : List Copy
  processed : List (Nat × Bool)
  expired : List Nat

/-- Nothing published, and every channel that will ever be used still unused. -/
def State.init : State where
  main := []
  retry := []
  dlq := []
  unacked := []
  handling := []
  wire := []
  isOpen := fun _ => true
  connected := fun _ => true
  nextTag := fun _ => 1
  published := []
  processed := []
  expired := []

/-- New headers for a copy. -/
def Copy.withHeaders (m : Copy) (headers : Headers) : Copy :=
  { m with properties := { m.properties with headers := headers } }

/-- Two deliveries the broker cannot tell apart: one channel and one tag. -/
def Delivery.SameTag (d d' : Delivery) : Prop :=
  d.channel = d'.channel ∧ d.deliveryTag = d'.deliveryTag

/-! ## What a step makes of a state -/

namespace State

variable (s : State)

/-- A new message in the main queue. -/
def publish (properties : Properties) (content : List UInt8) : State :=
  let copy : Copy := ⟨s.published.length, properties, content⟩
  { s with published := s.published ++ [copy], main := s.main ++ [copy] }

/-- The delivery of a copy on a channel. -/
def nextDelivery (channel : Nat) (m : Copy) : Delivery := ⟨channel, s.nextTag channel, m⟩

/-- The copy is delivered and its handler starts; `rest` stays in the main queue. -/
def deliver (channel : Nat) (m : Copy) (rest : List Copy) : State :=
  { s with
    main := rest
    unacked := s.unacked ++ [s.nextDelivery channel m]
    handling := s.handling ++ [s.nextDelivery channel m]
    nextTag := Function.update s.nextTag channel (s.nextTag channel + 1) }

/-- The handler of a delivery is over; `rest` are the handlers still at work. -/
def complete (d : Delivery) (side : Side) (rest : List Delivery) : State :=
  { s with
    handling := rest
    wire := s.wire ++ side.frames
    processed := s.processed ++ side.processed.map fun ok => (d.copy.message, ok) }

/-- A message of the retry queue is dead-lettered to the main queue. -/
def expire (headers : Headers) (m : Copy) (rest : List Copy) : State :=
  { s with
    retry := rest
    main := s.main ++ [m.withHeaders headers]
    expired := s.expired ++ [m.message] }

/-- The broker loses a channel: it takes no more of its frames and requeues its deliveries. -/
def lose (channel : Nat) : State :=
  { s with
    connected := Function.update s.connected channel false
    unacked := s.unacked.filter fun d => !decide (d.channel = channel)
    main := (s.unacked.filter fun d => decide (d.channel = channel)).map Delivery.copy ++ s.main }

end State

/-! ## Steps -/

section Steps

variable (out : Outside) (maxRetries : Nat)

/-- What the broker makes of a frame. -/
inductive Takes : Frame → State → State → Prop where
  | publish (s : State) (channel : Nat) (m : Copy) :
      Takes (.publish channel m) s { s with retry := s.retry ++ [m] }
  | ack {s : State} {d : Delivery} {pre post : List Delivery} (msg : Delivery)
      (hunacked : s.unacked = pre ++ d :: post) (htag : d.SameTag msg) :
      Takes (.ack msg) s { s with unacked := pre ++ post }
  | nack {s : State} {d : Delivery} {pre post : List Delivery} (msg : Delivery)
      (hunacked : s.unacked = pre ++ d :: post) (htag : d.SameTag msg) :
      Takes (.nack msg) s
        { s with
          unacked := pre ++ post
          dlq := s.dlq ++ [d.copy.withHeaders (out.rejected d.copy.properties.headers)] }

/-- A step while all channels work. -/
inductive Move : State → State → Prop where
  | publish (s : State) (properties : Properties) (content : List UInt8) :
      Move s (s.publish properties content)
  | deliver {s : State} {m : Copy} {pre post : List Copy} (channel : Nat)
      (hconnected : s.connected channel = true) (hmain : s.main = pre ++ m :: post) :
      Move s (s.deliver channel m (pre ++ post))
  | complete {s : State} {d : Delivery} {pre post : List Delivery} (sent : Except JsError Unit)
      (hhandling : s.handling = pre ++ d :: post) :
      Move s (s.complete d (handled out.decode out.parse out.number out.encodes (.int maxRetries)
        (s.isOpen d.channel) sent d) (pre ++ post))
  | take {s s' : State} {frame : Frame} {pre post : List Frame}
      (hconnected : s.connected frame.channel = true) (hwire : s.wire = pre ++ frame :: post)
      (hfirst : ∀ f ∈ pre, f.channel ≠ frame.channel)
      (htakes : Takes out frame { s with wire := pre ++ post } s') : Move s s'
  | expire {s : State} {m : Copy} {pre post : List Copy} (hretry : s.retry = pre ++ m :: post) :
      Move s (s.expire (out.expired m.properties.headers) m (pre ++ post))

/-- A channel is closed by its consumer, or lost by the broker. -/
inductive Fault : State → State → Prop where
  | close (s : State) (channel : Nat) :
      Fault s { s with isOpen := Function.update s.isOpen channel false }
  | lose (s : State) (channel : Nat) : Fault s (s.lose channel)

/-- The states a run with any faults can reach. -/
def Reachable : State → Prop :=
  Relation.ReflTransGen (fun s s' => Move out maxRetries s s' ∨ Fault s s') State.init

/-- The states a run without faults can reach. -/
def CalmlyReachable : State → Prop := Relation.ReflTransGen (Move out maxRetries) State.init

variable {out maxRetries} {s s' : State}

/-- A step publishes one message, or none. -/
theorem published_move (hmove : Move out maxRetries s s') :
    s'.published = s.published ∨
      ∃ properties content, s' = s.publish properties content := by
  cases hmove with
  | publish properties content => exact Or.inr ⟨properties, content, rfl⟩
  | deliver channel hconnected hmain => exact Or.inl rfl
  | complete sent hhandling => exact Or.inl rfl
  | take hconnected hwire hfirst htakes => cases htakes <;> exact Or.inl rfl
  | expire hretry => exact Or.inl rfl

end Steps

/-! ## The broker never confuses two deliveries -/

/-- The delivery a frame settles. -/
def Frame.settles : Frame → Option Delivery
  | .publish _ _ => none
  | .ack msg => some msg
  | .nack msg => some msg

/-- The deliveries that a handler or a frame still speaks of. -/
def State.references (s : State) : List Delivery := s.handling ++ s.wire.filterMap Frame.settles

/-- Tags are given out once: a delivery that is not acked is the one that is meant by its tag. -/
structure Tagged (s : State) : Prop where
  unacked : ∀ d ∈ s.unacked, d.deliveryTag < s.nextTag d.channel
  references : ∀ d ∈ s.references, d.deliveryTag < s.nextTag d.channel
  agree : ∀ d ∈ s.references, ∀ d' ∈ s.unacked, d'.SameTag d → d' = d

section Rest

variable {α : Type}

/-- What is left of a list without one of its elements. -/
theorem rest_sublist (pre : List α) (a : α) (post : List α) :
    (pre ++ post).Sublist (pre ++ a :: post) :=
  List.Sublist.append_left (List.sublist_cons_self a post) pre

/-- The element at which a list is split is in it. -/
theorem mem_of_split {l pre post : List α} {a : α} (h : l = pre ++ a :: post) : a ∈ l := by
  rw [h]
  exact List.mem_append_cons_self

/-- What is in the rest is in the list. -/
theorem mem_of_rest {l pre post : List α} {a x : α} (h : l = pre ++ a :: post)
    (hx : x ∈ pre ++ post) : x ∈ l := by
  rw [h]
  exact (rest_sublist pre a post).subset hx

/-- What is in the list is that element or in the rest. -/
theorem eq_or_mem_rest {pre post : List α} {a x : α} (h : x ∈ pre ++ a :: post) :
    x = a ∨ x ∈ pre ++ post := by
  rw [List.mem_append, List.mem_cons] at h
  rw [List.mem_append]
  tauto

end Rest

section Tagged

variable {out : Outside} {maxRetries : Nat} {s s' : State}

/-- Nothing has been delivered yet. -/
theorem Tagged.init : Tagged State.init where
  unacked _ h := nomatch h
  references _ h := nomatch h
  agree _ h := nomatch h

/-- Deliveries that disappear do no harm. -/
theorem Tagged.of_subset (h : Tagged s) (htags : s'.nextTag = s.nextTag)
    (hunacked : s'.unacked ⊆ s.unacked) (hreferences : s'.references ⊆ s.references) :
    Tagged s' where
  unacked d hd := by
    rw [htags]
    exact h.unacked d (hunacked hd)
  references d hd := by
    rw [htags]
    exact h.references d (hreferences hd)
  agree d hd d' hd' := h.agree d (hreferences hd) d' (hunacked hd')

/-- A new delivery has a new tag. -/
theorem Tagged.deliver (h : Tagged s) (channel : Nat) (m : Copy) (rest : List Copy) :
    Tagged (s.deliver channel m rest) := by
  have hlt : ∀ d : Delivery, d.deliveryTag < s.nextTag d.channel →
      d.deliveryTag < (s.deliver channel m rest).nextTag d.channel := by
    intro d hd
    show _ < Function.update s.nextTag channel (s.nextTag channel + 1) d.channel
    by_cases hc : d.channel = channel
    · rw [hc] at hd ⊢
      rw [Function.update_self]
      omega
    · rw [Function.update_of_ne hc]
      exact hd
  have hnew : (s.nextDelivery channel m).deliveryTag <
      (s.deliver channel m rest).nextTag (s.nextDelivery channel m).channel := by
    show s.nextTag channel < Function.update s.nextTag channel (s.nextTag channel + 1) channel
    rw [Function.update_self]
    omega
  -- an older delivery does not have the new tag
  have hfresh : ∀ d : Delivery, d.deliveryTag < s.nextTag d.channel →
      ¬ d.SameTag (s.nextDelivery channel m) := by
    rintro d hd ⟨hchannel, htag⟩
    have hchannel' : d.channel = channel := hchannel
    have htag' : d.deliveryTag = s.nextTag channel := htag
    rw [hchannel', htag'] at hd
    exact Nat.lt_irrefl _ hd
  have hold : ∀ d ∈ (s.deliver channel m rest).references,
      d ∈ s.references ∨ d = s.nextDelivery channel m := by
    intro d hd
    simp only [State.references, State.deliver, List.mem_append, List.mem_singleton] at hd ⊢
    tauto
  constructor
  · intro d hd
    rcases List.mem_append.mp hd with hd | hd
    · exact hlt d (h.unacked d hd)
    · rw [List.mem_singleton.mp hd]
      exact hnew
  · intro d hd
    rcases hold d hd with hd | rfl
    · exact hlt d (h.references d hd)
    · exact hnew
  · intro d hd d' hd' hsame
    rcases List.mem_append.mp hd' with hd' | hd'
    · rcases hold d hd with hd | rfl
      · exact h.agree d hd d' hd' hsame
      · exact absurd hsame (hfresh d' (h.unacked d' hd'))
    · rw [List.mem_singleton.mp hd'] at hsame ⊢
      rcases hold d hd with hd | rfl
      · exact absurd ⟨hsame.1.symm, hsame.2.symm⟩ (hfresh d (h.references d hd))
      · rfl

/-- A completed handler speaks of no other delivery than its own. -/
theorem references_complete {d : Delivery} {side : Side} {pre post : List Delivery}
    (hhandling : s.handling = pre ++ d :: post)
    (hends : Ends out.number out.encodes (.int maxRetries) (s.isOpen d.channel) d side) :
    (s.complete d side (pre ++ post)).references ⊆ s.references := by
  intro d' hd'
  unfold State.references at hd' ⊢
  -- a handler's frames settle its own delivery or none
  have hsettles : side.frames.filterMap Frame.settles = [] ∨
      side.frames.filterMap Frame.settles = [d] := by
    cases hends with
    | unreadable e hcount => exact Or.inl rfl
    | closed ok hclosed => exact Or.inl rfl
    | acked hopen => exact Or.inr rfl
    | givenUp retries hcount hgiveUp hopen => exact Or.inr rfl
    | rescheduled retries hcount hretry hopen => exact Or.inr rfl
  have hframes : d' ∈ side.frames.filterMap Frame.settles → d' = d := by
    intro hmem
    rcases hsettles with hnone | hone
    · rw [hnone] at hmem
      cases hmem
    · rw [hone] at hmem
      exact List.mem_singleton.mp hmem
  simp only [State.complete, hhandling, List.filterMap_append, List.mem_append, List.mem_cons]
    at hd' ⊢
  tauto

/-- A frame that the broker takes keeps the tags apart. -/
theorem Tagged.takes {frame : Frame} (h : Tagged s) (htakes : Takes out frame s s') : Tagged s' := by
  cases htakes with
  | publish _ channel m => exact h.of_subset rfl (List.Subset.refl _) (List.Subset.refl _)
  | ack msg hunacked htag =>
    refine h.of_subset rfl ?_ (List.Subset.refl _)
    rw [hunacked]
    exact (rest_sublist _ _ _).subset
  | nack msg hunacked htag =>
    refine h.of_subset rfl ?_ (List.Subset.refl _)
    rw [hunacked]
    exact (rest_sublist _ _ _).subset

/-- **Every move does**: only a delivery draws a tag, and a new one. -/
theorem Tagged.move (h : Tagged s) (hmove : Move out maxRetries s s') : Tagged s' := by
  cases hmove with
  | publish properties content =>
    exact h.of_subset rfl (List.Subset.refl _) (List.Subset.refl _)
  | deliver channel hconnected hmain => exact h.deliver channel _ _
  | complete sent hhandling =>
    exact h.of_subset rfl (List.Subset.refl _) (references_complete hhandling handled_ends)
  | @take _ frame pre post hconnected hwire hfirst htakes =>
    -- taking a frame off the wire only forgets a reference
    have hreferences : { s with wire := pre ++ post }.references ⊆ s.references := by
      unfold State.references
      rw [hwire]
      exact ((rest_sublist pre frame post).filterMap _ |>.append_left _).subset
    have hwaiting : Tagged { s with wire := pre ++ post } :=
      h.of_subset rfl (List.Subset.refl _) hreferences
    exact hwaiting.takes htakes
  | expire hretry => exact h.of_subset rfl (List.Subset.refl _) (List.Subset.refl _)

/-- So does every fault. -/
theorem Tagged.fault (h : Tagged s) (hfault : Fault s s') : Tagged s' := by
  cases hfault with
  | close channel => exact h.of_subset rfl (List.Subset.refl _) (List.Subset.refl _)
  | lose channel => exact h.of_subset rfl List.filter_sublist.subset (List.Subset.refl _)

end Tagged

/-! ## A run that begins -/

/-- A broker that counts, and a content of `\x7b\x7d`. -/
def ordinary : Outside where
  decode := ascii
  parse := fun text =>
    if text = "\x7b\x7d" then .ok (.obj []) else .error { message := "Unexpected token" }
  number := fun _ => .ok 0
  encodes := fun _ => none
  expired := deadLettered retryQueue "expired"
  rejected := deadLettered "order_notifications" "rejected"

/-- A notification as order-service publishes it. -/
def notification : Copy := ⟨0, ⟨some "o1", some "c1", none, true⟩, [123, 125]⟩

/-- It is published and delivered, and its handler fails for the first time. -/
def failedOnce : State :=
  { State.init with
    unacked := [⟨0, 1, notification⟩]
    wire := [.publish 0 notification, .ack ⟨0, 1, notification⟩]
    nextTag := Function.update State.init.nextTag 0 2
    published := [notification]
    processed := [(0, false)] }

/-- The state of the example after one failure is reached. -/
theorem failedOnce_reachable : CalmlyReachable ordinary 1 failedOnce := by
  let published : State := State.init.publish notification.properties notification.content
  let delivered : State := published.deliver 0 notification []
  have hpublish : Move ordinary 1 State.init published := .publish _ _ _
  have hdeliver : Move ordinary 1 published delivered :=
    @Move.deliver _ _ published notification [] [] 0 rfl rfl
  have hcomplete : Move ordinary 1 delivered failedOnce :=
    @Move.complete _ _ delivered ⟨0, 1, notification⟩ [] []
      (.error { message := "Email provider temporary failure" }) rfl
  exact ((Relation.ReflTransGen.single hpublish).tail hdeliver).tail hcomplete

/-- The copy is in the retry queue; the ack is still under way. -/
def copiedOnce : State :=
  { failedOnce with retry := [notification], wire := [.ack ⟨0, 1, notification⟩] }

/-- So is the one after its copy. -/
theorem copiedOnce_reachable : CalmlyReachable ordinary 1 copiedOnce := by
  have htake : Move ordinary 1 failedOnce copiedOnce :=
    @Move.take _ _ failedOnce _ (.publish 0 notification) [] [.ack ⟨0, 1, notification⟩] rfl rfl
      (fun f hf => nomatch hf) (.publish _ 0 notification)
  exact failedOnce_reachable.tail htake

end Microservices.Notification
