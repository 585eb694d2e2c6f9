/-
  Bounded retries with one outcome.

  `State.tally` counts what the queues, the handlers and the frames have of one message.  While no
  channel fails, every step of the system is a step of the tally of one message and leaves the
  others alone.  The guards of that step, `trips < maxRetries` or not, are the guard of
  `handleMessage`, because the headers of the message count its trips (`Tracked.counted`).

  1. **Abstraction**: `tally`, and one lemma for each move saying which step of the tally it is.
  2. **Invariant**: `Tracked`: the tally is one that `Notification.Tally` allows, and each copy that
     can come back says the number of its trips.
  3. **Crux**: a copy is counted by the broker before it is delivered again, so the count a handler
     reads is that of the trips so far, and the handler's test is the tally's guard.
-/
import Microservices.Notification.Broker
import Microservices.Notification.Deaths
import Microservices.Notification.Tally

namespace Microservices.Notification

/-! ## The tally of a message -/

/-- The message a frame is about. -/
def Frame.message : Frame → Nat
  | .publish _ m => m.message
  | .ack msg => msg.copy.message
  | .nack msg => msg.copy.message

/-- The frame publishes a copy of the message. -/
def Frame.publishes (i : Nat) : Frame → Bool
  | .publish _ m => decide (m.message = i)
  | _ => false

/-- The frame acks a delivery of the message. -/
def Frame.acks (i : Nat) : Frame → Bool
  | .ack msg => decide (msg.copy.message = i)
  | _ => false

/-- The frame nacks a delivery of the message. -/
def Frame.nacks (i : Nat) : Frame → Bool
  | .nack msg => decide (msg.copy.message = i)
  | _ => false

/-- A frame that publishes a copy of `i` is about `i`. -/
theorem Frame.message_of_publishes {i : Nat} {frame : Frame} (h : frame.publishes i = true) :
    frame.message = i := by
  cases frame with
  | publish channel m => exact of_decide_eq_true h
  | ack msg => cases h
  | nack msg => cases h

/-- So is one that acks a delivery of `i`. -/
theorem Frame.message_of_acks {i : Nat} {frame : Frame} (h : frame.acks i = true) :
    frame.message = i := by
  cases frame with
  | publish channel m => cases h
  | ack msg => exact of_decide_eq_true h
  | nack msg => cases h

/-- So is one that rejects it. -/
theorem Frame.message_of_nacks {i : Nat} {frame : Frame} (h : frame.nacks i = true) :
    frame.message = i := by
  cases frame with
  | publish channel m => cases h
  | ack msg => cases h
  | nack msg => exact of_decide_eq_true h

/-- What the system has of message `i`. -/
def State.tally (s : State) (i : Nat) : Tally where
  ready := s.main.countP fun m => decide (m.message = i)
  running := s.handling.countP fun d => decide (d.copy.message = i)
  publishing := s.wire.countP (Frame.publishes i)
  waiting := s.retry.countP fun m => decide (m.message = i)
  rejecting := s.wire.countP (Frame.nacks i)
  dead := s.dlq.countP fun m => decide (m.message = i)
  acking := s.wire.countP (Frame.acks i)
  unacked := s.unacked.countP fun d => decide (d.copy.message = i)
  failed := s.processed.countP fun run => decide (run = (i, false))
  succeeded := s.processed.countP fun run => decide (run = (i, true))
  trips := s.expired.countP fun j => decide (j = i)

section Steps

variable {out : Outside} {maxRetries i : Nat} {s : State}

/-- A publish does not change the tally of an older message. -/
theorem tally_publish_of_ne (properties : Properties) (content : List UInt8)
    (h : s.published.length ≠ i) : (s.publish properties content).tally i = s.tally i := by
  simp [State.tally, State.publish, h]

/-- It makes the tally of its own message one. -/
theorem tally_publish (properties : Properties) (content : List UInt8)
    (h : s.tally s.published.length = .zero) :
    (s.publish properties content).tally s.published.length = .one := by
  have hready : (s.publish properties content).tally s.published.length =
      { s.tally s.published.length with ready := (s.tally s.published.length).ready + 1 } := by
    simp [State.tally, State.publish]
  rw [hready, h]
  rfl

/-- A delivery does not change the tally of another message. -/
theorem tally_deliver_of_ne (channel : Nat) {m : Copy} {pre post : List Copy}
    (hmain : s.main = pre ++ m :: post) (h : m.message ≠ i) :
    (s.deliver channel m (pre ++ post)).tally i = s.tally i := by
  simp [State.tally, State.deliver, State.nextDelivery, hmain, h]

/-- It is a step of the tally of its own. -/
theorem tally_deliver (channel : Nat) {m : Copy} {pre post : List Copy}
    (hmain : s.main = pre ++ m :: post) (h : m.message = i) :
    Tally.Step maxRetries (s.tally i) ((s.deliver channel m (pre ++ post)).tally i) := by
  -- both tallies are read as that of the state without the copy, and one more
  have hfrom : s.tally i =
      { { s with main := pre ++ post }.tally i with
        ready := ({ s with main := pre ++ post }.tally i).ready + 1 } := by
    simp [State.tally, hmain, h, Nat.add_assoc]
  have hto : (s.deliver channel m (pre ++ post)).tally i =
      { { s with main := pre ++ post }.tally i with
        running := ({ s with main := pre ++ post }.tally i).running + 1
        unacked := ({ s with main := pre ++ post }.tally i).unacked + 1 } := by
    simp [State.tally, State.deliver, State.nextDelivery, h]
  rw [hfrom, hto]
  exact .deliver _

/-- A handler that ends does not change the tally of another message. -/
theorem tally_complete_of_ne {d : Delivery} {side : Side} {pre post : List Delivery}
    (hhandling : s.handling = pre ++ d :: post)
    (hends : Ends out.number out.encodes (.int maxRetries) (s.isOpen d.channel) d side)
    (h : d.copy.message ≠ i) : (s.complete d side (pre ++ post)).tally i = s.tally i := by
  cases hends <;>
    simp [State.tally, State.complete, hhandling, h, Frame.publishes, Frame.acks, Frame.nacks,
      retried]

/-- The handler of a message whose headers count its trips. -/
theorem tally_complete {d : Delivery} {side : Side} {pre post : List Delivery}
    (hhandling : s.handling = pre ++ d :: post)
    (hends : Ends out.number out.encodes (.int maxRetries) (s.isOpen d.channel) d side)
    (hopen : s.isOpen d.channel = true) (hencodes : ∀ m, m.message = i → out.encodes m = none)
    (hcount : retryCountOf out.number d.copy.properties.headers = .ok ((s.tally i).trips : Int))
    (h : d.copy.message = i) :
    Tally.Step maxRetries (s.tally i) ((s.complete d side (pre ++ post)).tally i) := by
  -- the state while the handler has left and its frames are not sent yet
  let b : State := { s with handling := pre ++ post }
  have hfrom : s.tally i = { b.tally i with running := (b.tally i).running + 1 } := by
    simp [b, State.tally, hhandling, h, Nat.add_assoc]
  have htrips : (s.tally i).trips = (b.tally i).trips := rfl
  rw [htrips] at hcount
  rw [hfrom]
  cases hends with
  -- the counts are readable and the channel is open, so these two do not occur
  | unreadable e hcount' =>
    rw [hcount] at hcount'
    cases hcount'
  | closed ok hclosed =>
    rw [hopen] at hclosed
    cases hclosed
  | acked _ =>
    have hto : (s.complete d ⟨s.isOpen d.channel, [.ack d], [true]⟩ (pre ++ post)).tally i =
        { b.tally i with
          acking := (b.tally i).acking + 1
          succeeded := (b.tally i).succeeded + 1 } := by
      simp [b, State.tally, State.complete, h, Frame.publishes, Frame.acks, Frame.nacks]
    rw [hto]
    exact .succeed _
  | givenUp retries hcount' hgiveUp _ =>
    have hto : (s.complete d ⟨s.isOpen d.channel, [.nack d], [false]⟩ (pre ++ post)).tally i =
        { b.tally i with
          rejecting := (b.tally i).rejecting + 1
          failed := (b.tally i).failed + 1 } := by
      simp [b, State.tally, State.complete, h, Frame.publishes, Frame.acks, Frame.nacks]
    rw [hto]
    -- its retries are used up; amqplib refuses no copy of this message
    refine .giveUp _ ?_
    rw [hcount] at hcount'
    cases hcount'
    rcases hgiveUp with hmax | hrefused
    · rw [Whole.le_int] at hmax
      exact of_decide_eq_true hmax
    · exact absurd (hencodes (retried d) h) hrefused
  | rescheduled retries hcount' hretry _ =>
    have hto : (s.complete d ⟨s.isOpen d.channel,
          [.publish d.channel (retried d), .ack d], [false]⟩ (pre ++ post)).tally i =
        { b.tally i with
          publishing := (b.tally i).publishing + 1
          acking := (b.tally i).acking + 1
          failed := (b.tally i).failed + 1 } := by
      simp [b, State.tally, State.complete, h, Frame.publishes, Frame.acks, Frame.nacks, retried]
    rw [hto]
    refine .retry _ ?_
    rw [hcount] at hcount'
    cases hcount'
    rw [Whole.le_int] at hretry
    exact Nat.lt_of_not_le (of_decide_eq_false hretry)

/-- What is settled is what was meant. -/
theorem settled_eq {msg d : Delivery} {pre post : List Delivery} (htagged : Tagged s)
    {frame : Frame} (hframe : frame ∈ s.wire) (hsettles : frame.settles = some msg)
    (hunacked : s.unacked = pre ++ d :: post) (htag : d.SameTag msg) : d = msg := by
  have hreference : msg ∈ s.references :=
    List.mem_append_right _ (List.mem_filterMap.mpr ⟨frame, hframe, hsettles⟩)
  have hd : d ∈ s.unacked := mem_of_split hunacked
  exact htagged.agree msg hreference d hd htag

/-- The broker takes a frame of another message. -/
theorem tally_take_of_ne {s' : State} {frame : Frame} {pre post : List Frame} (htagged : Tagged s)
    (hwire : s.wire = pre ++ frame :: post)
    (htakes : Takes out frame { s with wire := pre ++ post } s') (h : frame.message ≠ i) :
    s'.tally i = s.tally i := by
  have hframe : frame ∈ s.wire := mem_of_split hwire
  cases htakes with
  | publish _ channel m =>
    have hm : m.message ≠ i := h
    simp [State.tally, hwire, hm, Frame.publishes, Frame.acks, Frame.nacks]
  | ack msg hunacked htag =>
    -- the frame settles the delivery it was written for, hence no copy of this message
    have hd := settled_eq htagged hframe rfl hunacked htag
    have hunacked' : s.unacked = _ := hunacked
    have hm : msg.copy.message ≠ i := h
    simp [State.tally, hwire, hunacked', hd, hm, Frame.publishes, Frame.acks, Frame.nacks]
  | nack msg hunacked htag =>
    have hd := settled_eq htagged hframe rfl hunacked htag
    have hunacked' : s.unacked = _ := hunacked
    have hm : msg.copy.message ≠ i := h
    simp [State.tally, hwire, hunacked', hd, hm, Frame.publishes, Frame.acks, Frame.nacks,
      Copy.withHeaders]

/-- The broker takes a frame of the message. -/
theorem tally_take {s' : State} {frame : Frame} {pre post : List Frame} (htagged : Tagged s)
    (hwire : s.wire = pre ++ frame :: post)
    (htakes : Takes out frame { s with wire := pre ++ post } s') (h : frame.message = i) :
    Tally.Step maxRetries (s.tally i) (s'.tally i) := by
  have hframe : frame ∈ s.wire := mem_of_split hwire
  cases htakes with
  | publish _ channel m =>
    let b : State := { s with wire := pre ++ post }
    have hm : m.message = i := h
    have hfrom : s.tally i = { b.tally i with publishing := (b.tally i).publishing + 1 } := by
      simp [b, State.tally, hwire, hm, Frame.publishes, Frame.acks, Frame.nacks, Nat.add_assoc]
    have hto : { s with wire := pre ++ post, retry := s.retry ++ [m] }.tally i =
        { b.tally i with waiting := (b.tally i).waiting + 1 } := by
      simp [b, State.tally, hm]
    rw [hfrom]
    exact hto ▸ .copied _
  | @ack _ d pre' post' msg hunacked htag =>
    let b : State := { s with wire := pre ++ post, unacked := pre' ++ post' }
    have hd := settled_eq htagged hframe rfl hunacked htag
    have hunacked' : s.unacked = pre' ++ d :: post' := hunacked
    have hm : msg.copy.message = i := h
    have hfrom : s.tally i =
        { b.tally i with
          acking := (b.tally i).acking + 1
          unacked := (b.tally i).unacked + 1 } := by
      simp [b, State.tally, hwire, hunacked', hd, hm, Frame.publishes, Frame.acks, Frame.nacks,
        Nat.add_assoc]
    rw [hfrom]
    exact .acked (b.tally i)
  | @nack _ d pre' post' msg hunacked htag =>
    let b : State := { s with wire := pre ++ post, unacked := pre' ++ post' }
    have hd := settled_eq htagged hframe rfl hunacked htag
    have hunacked' : s.unacked = pre' ++ d :: post' := hunacked
    have hm : msg.copy.message = i := h
    have hfrom : s.tally i =
        { b.tally i with
          rejecting := (b.tally i).rejecting + 1
          unacked := (b.tally i).unacked + 1 } := by
      simp [b, State.tally, hwire, hunacked', hd, hm, Frame.publishes, Frame.acks, Frame.nacks,
        Nat.add_assoc]
    have hto : { s with
          wire := pre ++ post
          unacked := pre' ++ post'
          dlq := s.dlq ++ [d.copy.withHeaders (out.rejected d.copy.properties.headers)] }.tally i =
        { b.tally i with dead := (b.tally i).dead + 1 } := by
      simp [b, State.tally, hd, hm, Copy.withHeaders]
    rw [hfrom]
    exact hto ▸ .rejected _

/-- An expiry does not change the tally of another message. -/
theorem tally_expire_of_ne (headers : Headers) {m : Copy} {pre post : List Copy}
    (hretry : s.retry = pre ++ m :: post) (h : m.message ≠ i) :
    (s.expire headers m (pre ++ post)).tally i = s.tally i := by
  simp [State.tally, State.expire, Copy.withHeaders, hretry, h]

/-- It is a step of the tally of its own. -/
theorem tally_expire (headers : Headers) {m : Copy} {pre post : List Copy}
    (hretry : s.retry = pre ++ m :: post) (h : m.message = i) :
    Tally.Step maxRetries (s.tally i) ((s.expire headers m (pre ++ post)).tally i) := by
  let b : State := { s with retry := pre ++ post }
  have hfrom : s.tally i = { b.tally i with waiting := (b.tally i).waiting + 1 } := by
    simp [b, State.tally, hretry, h, Nat.add_assoc]
  have hto : (s.expire headers m (pre ++ post)).tally i =
      { b.tally i with ready := (b.tally i).ready + 1, trips := (b.tally i).trips + 1 } := by
    simp [b, State.tally, State.expire, Copy.withHeaders, h]
  rw [hfrom, hto]
  exact .expire _

end Steps

/-! ## Copies that can come back -/

/-- A copy that can still be delivered: in the main or the retry queue, with a handler, or on its way
    to the retry queue. -/
def State.Carries (s : State) (m : Copy) : Prop :=
  m ∈ s.main ∨ (∃ d ∈ s.handling, d.copy = m) ∨ m ∈ s.retry ∨
    ∃ channel, Frame.publish channel m ∈ s.wire

section Carries

variable {out : Outside} {maxRetries i : Nat} {s s' : State}

/-- Every copy of `s'` is one of `s`, or as good as one. -/
def CarriesOn (s s' : State) : Prop :=
  ∀ m', s'.Carries m' → ∃ m, s.Carries m ∧ m.message = m'.message ∧
    m.properties.headers = m'.properties.headers

/-- What the tally does not count is not there. -/
theorem message_ne_of_tally (hready : (s.tally i).ready = 0) (hrunning : (s.tally i).running = 0)
    (hpublishing : (s.tally i).publishing = 0) (hwaiting : (s.tally i).waiting = 0) {m : Copy}
    (hm : s.Carries m) : m.message ≠ i := by
  intro heq
  rcases hm with hm | ⟨d, hd, rfl⟩ | hm | ⟨channel, hm⟩
  · exact List.countP_eq_zero.mp hready m hm (decide_eq_true heq)
  · exact List.countP_eq_zero.mp hrunning d hd (decide_eq_true heq)
  · exact List.countP_eq_zero.mp hwaiting m hm (decide_eq_true heq)
  · exact List.countP_eq_zero.mp hpublishing _ hm (decide_eq_true heq)

/-- A delivery carries the copies on. -/
theorem carriesOn_deliver (channel : Nat) {m : Copy} {pre post : List Copy}
    (hmain : s.main = pre ++ m :: post) : CarriesOn s (s.deliver channel m (pre ++ post)) := by
  intro m' hm'
  refine ⟨m', ?_, rfl, rfl⟩
  have hin : m ∈ s.main := mem_of_split hmain
  rcases hm' with hm' | ⟨d, hd, rfl⟩ | hm' | hm'
  · left
    exact mem_of_rest hmain hm'
  · rcases List.mem_append.mp hd with hd | hd
    · exact Or.inr (Or.inl ⟨d, hd, rfl⟩)
    · rw [List.mem_singleton.mp hd]
      exact Or.inl hin
  · exact Or.inr (Or.inr (Or.inl hm'))
  · exact Or.inr (Or.inr (Or.inr hm'))

/-- What is retried has the headers of the delivery. -/
theorem carriesOn_complete {d : Delivery} {side : Side} {pre post : List Delivery}
    (hhandling : s.handling = pre ++ d :: post)
    (hends : Ends out.number out.encodes (.int maxRetries) (s.isOpen d.channel) d side) :
    CarriesOn s (s.complete d side (pre ++ post)) := by
  intro m' hm'
  have hcopy : s.Carries d.copy := by
    refine Or.inr (Or.inl ⟨d, ?_, rfl⟩)
    exact mem_of_split hhandling
  -- the one copy that is published anew has the headers of the one handled
  have hframes : ∀ channel, Frame.publish channel m' ∈ side.frames → m' = retried d := by
    intro channel hmem
    cases hends with
    | unreadable e hcount => cases hmem
    | closed ok hclosed => cases hmem
    | acked hopen => simp at hmem
    | givenUp retries hcount hgiveUp hopen => simp at hmem
    | rescheduled retries hcount hretry hopen =>
      simp only [List.mem_cons, Frame.publish.injEq, reduceCtorEq, List.not_mem_nil, or_false]
        at hmem
      exact hmem.2
  rcases hm' with hm' | ⟨d', hd', rfl⟩ | hm' | ⟨channel, hm'⟩
  · exact ⟨m', Or.inl hm', rfl, rfl⟩
  · refine ⟨d'.copy, Or.inr (Or.inl ⟨d', ?_, rfl⟩), rfl, rfl⟩
    exact mem_of_rest hhandling hd'
  · exact ⟨m', Or.inr (Or.inr (Or.inl hm')), rfl, rfl⟩
  · rcases List.mem_append.mp hm' with hm' | hm'
    · exact ⟨m', Or.inr (Or.inr (Or.inr ⟨channel, hm'⟩)), rfl, rfl⟩
    · rw [hframes channel hm']
      exact ⟨d.copy, hcopy, rfl, rfl⟩

/-- So does a frame that the broker takes. -/
theorem carriesOn_take {frame : Frame} {pre post : List Frame}
    (hwire : s.wire = pre ++ frame :: post)
    (htakes : Takes out frame { s with wire := pre ++ post } s') : CarriesOn s s' := by
  intro m' hm'
  refine ⟨m', ?_, rfl, rfl⟩
  have hrest : ∀ channel, Frame.publish channel m' ∈ pre ++ post →
      Frame.publish channel m' ∈ s.wire := by
    intro channel hmem
    exact mem_of_rest hwire hmem
  cases htakes with
  | publish _ channel m =>
    rcases hm' with hm' | hm' | hm' | ⟨channel', hm'⟩
    · exact Or.inl hm'
    · exact Or.inr (Or.inl hm')
    · rcases List.mem_append.mp hm' with hm' | hm'
      · exact Or.inr (Or.inr (Or.inl hm'))
      · -- the copy now in the retry queue was on the wire
        rw [List.mem_singleton.mp hm']
        refine Or.inr (Or.inr (Or.inr ⟨channel, ?_⟩))
        exact mem_of_split hwire
    · exact Or.inr (Or.inr (Or.inr ⟨channel', hrest channel' hm'⟩))
  | ack msg hunacked htag =>
    exact hm'.imp_right fun h => h.imp_right fun h => h.imp_right fun ⟨c, h⟩ => ⟨c, hrest c h⟩
  | nack msg hunacked htag =>
    exact hm'.imp_right fun h => h.imp_right fun h => h.imp_right fun ⟨c, h⟩ => ⟨c, hrest c h⟩

/-- After an expiry there is one new copy. -/
theorem carries_expire {headers : Headers} {m m' : Copy} {pre post : List Copy}
    (h : (s.expire headers m (pre ++ post)).Carries m') :
    m' = m.withHeaders headers ∨ { s with retry := pre ++ post }.Carries m' := by
  rcases h with h | h | h | h
  · rcases List.mem_append.mp h with h | h
    · exact Or.inr (Or.inl h)
    · exact Or.inl (List.mem_singleton.mp h)
  · exact Or.inr (Or.inr (Or.inl h))
  · exact Or.inr (Or.inr (Or.inr (Or.inl h)))
  · exact Or.inr (Or.inr (Or.inr (Or.inr h)))

end Carries

/-! ## The invariant -/

/-- What holds of the whole system while no channel fails. -/
structure Calm (s : State) : Prop where
  tagged : Tagged s
  isOpen : ∀ channel, s.isOpen channel = true
  numbered : ∀ i, s.published.length ≤ i → s.tally i = .zero

/-- What holds of one message that was published without an `x-death` header. -/
structure Tracked (maxRetries i : Nat) (s : State) : Prop where
  ok : (s.tally i).Ok maxRetries
  counted : ∀ m, s.Carries m → m.message = i →
    Counted m.properties.headers (s.tally i).trips

section Invariant

variable {out : Outside} {maxRetries i : Nat} {s s' : State}

/-- The tally goes a step or stays, and the copies carry on with their headers. -/
theorem Tracked.carriesOn (h : Tracked maxRetries i s)
    (htally : s'.tally i = s.tally i ∨ Tally.Step maxRetries (s.tally i) (s'.tally i))
    (htrips : (s'.tally i).trips = (s.tally i).trips) (hcarries : CarriesOn s s') :
    Tracked maxRetries i s' where
  ok := by
    rcases htally with heq | hstep
    · rw [heq]
      exact h.ok
    · exact h.ok.step hstep
  counted m' hm' hmessage := by
    obtain ⟨m, hm, heq, hheaders⟩ := hcarries m' hm'
    rw [htrips, ← hheaders]
    exact h.counted m hm (heq.trans hmessage)

/-- A message that has just been published. -/
theorem Tracked.published (hcalm : Calm s) (properties : Properties) (content : List UInt8)
    (h : properties.headers.xDeath = none) :
    Tracked maxRetries s.published.length (s.publish properties content) := by
  have hzero := hcalm.numbered s.published.length (Nat.le_refl _)
  have hone := tally_publish properties content hzero
  constructor
  · rw [hone]
    exact Tally.Ok.one
  · intro m hm hmessage
    rw [hone]
    -- the new copy, or one of the copies from before, of which none is this message's
    have hcases : m = ⟨s.published.length, properties, content⟩ ∨ s.Carries m := by
      rcases hm with hm | hm
      · rcases List.mem_append.mp hm with hm | hm
        · exact Or.inr (Or.inl hm)
        · exact Or.inl (List.mem_singleton.mp hm)
      · exact Or.inr (Or.inr hm)
    rcases hcases with rfl | hold
    · exact Counted.zero h
    · have hne : m.message ≠ s.published.length := by
        apply message_ne_of_tally _ _ _ _ hold <;> rw [hzero] <;> rfl
      exact absurd hmessage hne

/-- Another message is published. -/
theorem Tracked.publish (h : Tracked maxRetries i s) (properties : Properties)
    (content : List UInt8) (hi : s.published.length ≠ i) :
    Tracked maxRetries i (s.publish properties content) := by
  have heq := tally_publish_of_ne properties content hi
  constructor
  · rw [heq]
    exact h.ok
  · intro m hm hmessage
    rw [heq]
    -- a copy of this message is none of the new message's
    have hold : s.Carries m := by
      rcases hm with hm | hm
      · rcases List.mem_append.mp hm with hm | hm
        · exact Or.inl hm
        · rw [List.mem_singleton.mp hm] at hmessage
          exact absurd hmessage hi
      · exact Or.inr hm
    exact h.counted m hold hmessage

/-- A delivery keeps the message tracked. -/
theorem Tracked.deliver (h : Tracked maxRetries i s) (channel : Nat) {m : Copy}
    {pre post : List Copy} (hmain : s.main = pre ++ m :: post) :
    Tracked maxRetries i (s.deliver channel m (pre ++ post)) := by
  refine h.carriesOn ?_ rfl (carriesOn_deliver channel hmain)
  by_cases hm : m.message = i
  · exact Or.inr (tally_deliver channel hmain hm)
  · exact Or.inl (tally_deliver_of_ne channel hmain hm)

/-- A handler that ends does. -/
theorem Tracked.complete (h : Tracked maxRetries i s) (hcalm : Calm s)
    (hencodes : ∀ m, m.message = i → out.encodes m = none) {d : Delivery} {side : Side}
    {pre post : List Delivery} (hhandling : s.handling = pre ++ d :: post)
    (hends : Ends out.number out.encodes (.int maxRetries) (s.isOpen d.channel) d side) :
    Tracked maxRetries i (s.complete d side (pre ++ post)) := by
  refine h.carriesOn ?_ rfl (carriesOn_complete hhandling hends)
  by_cases hd : d.copy.message = i
  · have hcarries : s.Carries d.copy := by
      refine Or.inr (Or.inl ⟨d, ?_, rfl⟩)
      exact mem_of_split hhandling
    -- what the copy's headers say is the number of its trips
    have hcount : retryCountOf out.number d.copy.properties.headers =
        .ok ((s.tally i).trips : Int) := (h.counted d.copy hcarries hd).retryCountOf
    exact Or.inr (tally_complete hhandling hends (hcalm.isOpen _) hencodes hcount hd)
  · exact Or.inl (tally_complete_of_ne hhandling hends hd)

/-- A frame that the broker takes does. -/
theorem Tracked.take (h : Tracked maxRetries i s) (hcalm : Calm s) {frame : Frame}
    {pre post : List Frame} (hwire : s.wire = pre ++ frame :: post)
    (htakes : Takes out frame { s with wire := pre ++ post } s') : Tracked maxRetries i s' := by
  have htrips : (s'.tally i).trips = (s.tally i).trips := by cases htakes <;> rfl
  refine h.carriesOn ?_ htrips (carriesOn_take hwire htakes)
  by_cases hframe : frame.message = i
  · exact Or.inr (tally_take hcalm.tagged hwire htakes hframe)
  · exact Or.inl (tally_take_of_ne hcalm.tagged hwire htakes hframe)

/-- A copy that expires was the only one, and its headers count one trip more. -/
theorem Tracked.expire (h : Tracked maxRetries i s) {next : Nat → Nat}
    (hexpired : CountsExpiries next out.expired) (hexact : ∀ k < maxRetries, next k = k + 1)
    {m : Copy} {pre post : List Copy} (hretry : s.retry = pre ++ m :: post) :
    Tracked maxRetries i (s.expire (out.expired m.properties.headers) m (pre ++ post)) := by
  have hrest : ∀ m', { s with retry := pre ++ post }.Carries m' → s.Carries m' := by
    intro m' hm'
    refine hm'.imp_right fun h => h.imp_right fun h => h.imp_left fun h => ?_
    exact mem_of_rest hretry h
  by_cases hm : m.message = i
  · have hcarries : s.Carries m := Or.inr (Or.inr (Or.inl (mem_of_split hretry)))
    have hcounted := h.counted m hcarries hm
    have hstep : Tally.Step maxRetries (s.tally i) _ :=
      tally_expire (out.expired m.properties.headers) hretry hm
    refine ⟨h.ok.step hstep, ?_⟩
    intro m' hm' hmessage
    rcases carries_expire hm' with rfl | hold
    · have htrips : ((s.expire (out.expired m.properties.headers) m (pre ++ post)).tally i).trips =
          (s.tally i).trips + 1 := by
        simp [State.tally, State.expire, hm]
      -- a copy is retried only below the limit, where the counter is exact
      have hbelow : (s.tally i).trips < maxRetries := by
        refine (h.ok.late ?_).2
        have hwaiting : 0 < (s.tally i).waiting :=
          List.countP_pos_iff.mpr ⟨m, mem_of_split hretry, decide_eq_true hm⟩
        omega
      rw [htrips, ← hexact _ hbelow]
      exact hcounted.expired hexpired (hexact 0 (Nat.zero_lt_of_lt hbelow))
    · -- the message was in the retry queue, so it is nowhere else
      have hplace := h.ok.place
      have hwaiting : (s.tally i).waiting =
          ({ s with retry := pre ++ post }.tally i).waiting + 1 := by
        simp [State.tally, hretry, hm, Nat.add_assoc]
      have hne : m'.message ≠ i := by
        apply message_ne_of_tally _ _ _ _ hold
        · show (s.tally i).ready = 0
          omega
        · show (s.tally i).running = 0
          omega
        · show (s.tally i).publishing = 0
          omega
        · omega
      exact absurd hmessage hne
  · have heq := tally_expire_of_ne (out.expired m.properties.headers) hretry hm
    constructor
    · rw [heq]
      exact h.ok
    · intro m' hm' hmessage
      rw [heq]
      rcases carries_expire hm' with rfl | hold
      · exact absurd hmessage hm
      · exact h.counted m' (hrest m' hold) hmessage

/-- **Every move keeps a published message tracked**: one lemma for each kind of move. -/
theorem Tracked.move (h : Tracked maxRetries i s) (hcalm : Calm s)
    (hencodes : ∀ m, m.message = i → out.encodes m = none) {next : Nat → Nat}
    (hexpired : CountsExpiries next out.expired) (hexact : ∀ k < maxRetries, next k = k + 1)
    (hi : i < s.published.length) (hmove : Move out maxRetries s s') : Tracked maxRetries i s' := by
  cases hmove with
  | publish properties content => exact h.publish properties content (Nat.ne_of_gt hi)
  | deliver channel hconnected hmain => exact h.deliver channel hmain
  | complete sent hhandling => exact h.complete hcalm hencodes hhandling handled_ends
  | take hconnected hwire hfirst htakes => exact h.take hcalm hwire htakes
  | expire hretry => exact h.expire hexpired hexact hretry

/-- A step is not about a message that has not been published. -/
theorem tally_move_of_zero (htagged : Tagged s) (hmove : Move out maxRetries s s')
    (hzero : s.tally i = .zero) (hi : s'.published.length ≤ i) : s'.tally i = .zero := by
  -- nothing of the message is in any queue, at any consumer or on the wire
  have hmain : ∀ m ∈ s.main, m.message ≠ i := fun m hm heq =>
    List.countP_eq_zero.mp (congrArg Tally.ready hzero) m hm (decide_eq_true heq)
  have hretry : ∀ m ∈ s.retry, m.message ≠ i := fun m hm heq =>
    List.countP_eq_zero.mp (congrArg Tally.waiting hzero) m hm (decide_eq_true heq)
  have hhandling : ∀ d ∈ s.handling, d.copy.message ≠ i := fun d hd heq =>
    List.countP_eq_zero.mp (congrArg Tally.running hzero) d hd (decide_eq_true heq)
  have hwire : ∀ frame ∈ s.wire, frame.message ≠ i := by
    intro frame hframe heq
    cases frame with
    | publish channel m =>
      exact List.countP_eq_zero.mp (congrArg Tally.publishing hzero) _ hframe (decide_eq_true heq)
    | ack msg =>
      exact List.countP_eq_zero.mp (congrArg Tally.acking hzero) _ hframe (decide_eq_true heq)
    | nack msg =>
      exact List.countP_eq_zero.mp (congrArg Tally.rejecting hzero) _ hframe (decide_eq_true heq)
  rw [← hzero]
  cases hmove with
  | publish properties content =>
    have hlength : (s.publish properties content).published.length = s.published.length + 1 :=
      List.length_append
    exact tally_publish_of_ne properties content (by omega)
  | deliver channel hconnected h =>
    exact tally_deliver_of_ne channel h (hmain _ (mem_of_split h))
  | complete sent h =>
    exact tally_complete_of_ne h handled_ends (hhandling _ (mem_of_split h))
  | take hconnected h hfirst htakes =>
    exact tally_take_of_ne htagged h htakes (hwire _ (mem_of_split h))
  | expire h => exact tally_expire_of_ne _ h (hretry _ (mem_of_split h))

/-- At the start everything is calm. -/
theorem Calm.init : Calm State.init where
  tagged := Tagged.init
  isOpen _ := rfl
  numbered _ _ := rfl

/-- Every move keeps it so. -/
theorem Calm.move (h : Calm s) (hmove : Move out maxRetries s s') : Calm s' where
  tagged := h.tagged.move hmove
  isOpen := by
    have hsame : s'.isOpen = s.isOpen := by
      cases hmove with
      | take hconnected hwire hfirst htakes => cases htakes <;> rfl
      | _ => rfl
    rw [hsame]
    exact h.isOpen
  numbered i hi := by
    -- numbers are given out once
    have hle : s.published.length ≤ s'.published.length := by
      rcases published_move hmove with hsame | ⟨properties, content, rfl⟩
      · exact Nat.le_of_eq (congrArg List.length hsame.symm)
      · exact (List.prefix_append _ _).length_le
    exact tally_move_of_zero h.tagged hmove (h.numbered i (Nat.le_trans hle hi)) hi

end Invariant

/-! ## Every run -/

section Runs

variable {out : Outside} {maxRetries : Nat} {s : State}

/-- So every state that moves alone reach is calm. -/
theorem CalmlyReachable.calm (h : CalmlyReachable out maxRetries s) : Calm s := by
  induction h with
  | refl => exact Calm.init
  | tail _ hmove ih => exact ih.move hmove

/-- Every message published without an `x-death` header is tracked. -/
theorem CalmlyReachable.tracked (h : CalmlyReachable out maxRetries s) (i : Nat) (m : Copy)
    (hpublished : s.published[i]? = some m) (hheaders : m.properties.headers.xDeath = none)
    (hencodes : ∀ copy, copy.message = i → out.encodes copy = none) {next : Nat → Nat}
    (hexpired : CountsExpiries next out.expired) (hexact : ∀ k < maxRetries, next k = k + 1) :
    Tracked maxRetries i s := by
  -- by the last move, which may be the message's own publish
  induction h with
  | refl => cases hpublished
  | @tail s s' hreach hmove ih =>
    have hcalm : Calm s := CalmlyReachable.calm hreach
    have hold : s.published[i]? = some m → Tracked maxRetries i s' := fun hpublished =>
      (ih hpublished).move hcalm hencodes hexpired hexact (List.getElem?_eq_some_iff.mp hpublished).1 hmove
    rcases published_move hmove with hsame | ⟨properties, content, rfl⟩
    · rw [hsame] at hpublished
      exact hold hpublished
    · by_cases hi : i < s.published.length
      · apply hold
        rw [← hpublished]
        exact (List.getElem?_append_left hi).symm
      · have hnew : (s.published ++ [(⟨s.published.length, properties, content⟩ : Copy)])[i]? =
            some m := hpublished
        rw [List.getElem?_append_right (Nat.le_of_not_lt hi)] at hnew
        obtain ⟨hlt, heq⟩ := List.getElem?_eq_some_iff.mp hnew
        have hi' : i = s.published.length := by
          have hlt' : i - s.published.length < 1 := hlt
          omega
        subst hi'
        have hm : (⟨s.published.length, properties, content⟩ : Copy) = m := by simpa using heq
        rw [← hm] at hheaders
        exact Tracked.published hcalm properties content hheaders

/-- No frame of the message is under way: its handlers have completed, and the broker has taken what
    they sent. -/
def State.Quiet (s : State) (i : Nat) : Prop := ∀ frame ∈ s.wire, frame.message ≠ i

/-- **Bounded retries with one outcome**, with a broker whose counter adds one to each count below the
    limit.  A message that is published without an `x-death` header
    is delivered with the number of its trips through the retry queue; it is run once more than it
    may be retried at most; it is in one queue at most, up to deliveries whose ack is under way; and
    it leaves the main and the retry queue after its one successful run, or for the DLQ after
    `maxRetries + 1` runs that failed. -/
theorem retries_bounded (h : CalmlyReachable out maxRetries s) (i : Nat) (m : Copy)
    (hpublished : s.published[i]? = some m) (hheaders : m.properties.headers.xDeath = none)
    (hencodes : ∀ copy, copy.message = i → out.encodes copy = none) {next : Nat → Nat}
    (hexpired : CountsExpiries next out.expired) (hexact : ∀ k < maxRetries, next k = k + 1) :
    (∀ d ∈ s.handling, d.copy.message = i →
        retryCountOf out.number d.copy.properties.headers = .ok ((s.tally i).trips : Int)) ∧
      (s.tally i).runs ≤ maxRetries + 1 ∧
      (s.tally i).copies ≤ 1 + (s.tally i).acking ∧
      (s.Quiet i → (s.tally i).copies ≤ 1 ∧ (s.tally i).Settled maxRetries) := by
  have htracked : Tracked maxRetries i s :=
    CalmlyReachable.tracked h i m hpublished hheaders hencodes hexpired hexact
  have hcopies := htracked.ok.copies_le
  refine ⟨?_, htracked.ok.runs_le, hcopies, ?_⟩
  · intro d hd hmessage
    exact (htracked.counted d.copy (Or.inr (Or.inl ⟨d, hd, rfl⟩)) hmessage).retryCountOf
  · intro hquiet
    -- a quiet message has nothing on the wire
    have hpublishing : (s.tally i).publishing = 0 := List.countP_eq_zero.mpr
      fun frame hframe h => hquiet frame hframe (Frame.message_of_publishes h)
    have hacking : (s.tally i).acking = 0 := List.countP_eq_zero.mpr
      fun frame hframe h => hquiet frame hframe (Frame.message_of_acks h)
    have hrejecting : (s.tally i).rejecting = 0 := List.countP_eq_zero.mpr
      fun frame hframe h => hquiet frame hframe (Frame.message_of_nacks h)
    rw [hacking] at hcopies
    exact ⟨hcopies, htracked.ok.settled hpublishing hrejecting hacking⟩

end Runs

/-- The notification after one trip through the retry queue. -/
def notificationAgain : Copy := notification.withHeaders (ordinary.expired none)

/-- With one retry, two failed runs: the message has gone round once and is rejected. -/
def rejectedTwice : State :=
  { State.init with
    dlq := [notificationAgain.withHeaders (ordinary.rejected (ordinary.expired none))]
    nextTag := Function.update copiedOnce.nextTag 0 3
    published := [notification]
    processed := [(0, false), (0, false)]
    expired := [0] }

/-- The state of the example is reached. -/
theorem rejectedTwice_reachable : CalmlyReachable ordinary 1 rejectedTwice := by
  -- acknowledged, expired, delivered again, handled, rejected
  let acked : State := { copiedOnce with unacked := [], wire := [] }
  let again : State := acked.expire (ordinary.expired none) notification []
  let delivered : State := again.deliver 0 notificationAgain []
  let msg : Delivery := ⟨0, 2, notificationAgain⟩
  let nacked : State :=
    { delivered with handling := [], wire := [.nack msg], processed := [(0, false), (0, false)] }
  have hack : Move ordinary 1 copiedOnce acked :=
    @Move.take _ _ copiedOnce acked (.ack ⟨0, 1, notification⟩) [] [] rfl rfl
      (fun f hf => nomatch hf)
      (@Takes.ack _ _ ⟨0, 1, notification⟩ [] [] ⟨0, 1, notification⟩ rfl ⟨rfl, rfl⟩)
  have hexpire : Move ordinary 1 acked again := @Move.expire _ _ acked notification [] [] rfl
  have hdeliver : Move ordinary 1 again delivered :=
    @Move.deliver _ _ again notificationAgain [] [] 0 rfl rfl
  have hcomplete : Move ordinary 1 delivered nacked :=
    @Move.complete _ _ delivered msg [] [] (.error { message := "Email provider temporary failure" })
      rfl
  have hnack : Move ordinary 1 nacked rejectedTwice :=
    @Move.take _ _ nacked rejectedTwice (.nack msg) [] [] rfl rfl (fun f hf => nomatch hf)
      (@Takes.nack _ _ msg [] [] msg rfl ⟨rfl, rfl⟩)
  exact ((((copiedOnce_reachable.tail hack).tail hexpire).tail hdeliver).tail hcomplete).tail hnack

/-- In it the bound holds of the one message. -/
theorem retries_bounded_of_rejected :
    (∀ d ∈ rejectedTwice.handling, d.copy.message = 0 →
        retryCountOf ordinary.number d.copy.properties.headers =
          .ok ((rejectedTwice.tally 0).trips : Int)) ∧
      (rejectedTwice.tally 0).runs ≤ 1 + 1 ∧
      (rejectedTwice.tally 0).copies ≤ 1 + (rejectedTwice.tally 0).acking ∧
      (rejectedTwice.Quiet 0 →
        (rejectedTwice.tally 0).copies ≤ 1 ∧ (rejectedTwice.tally 0).Settled 1) :=
  retries_bounded rejectedTwice_reachable 0 notification rfl rfl (fun _ _ => rfl)
    countsExpiries_deadLettered fun k hk => increment_of_le (by omega)

end Microservices.Notification
