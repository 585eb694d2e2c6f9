/-
  No notification is lost.

  A retry is two frames: publish a copy, ack the original.  The broker may take the first and lose
  the channel before the second, or take neither; it then still has the original and requeues it.
  What has to be excluded is an ack that is taken when there is no copy and there was no success.

  `Covered` says that of one delivery and the frames under way: if one of them acks it, a copy of it
  was published before on the same channel.  `Live` is the invariant: every published message is in a
  queue, or has a delivery that is covered, or has been processed.  `Covered` matters for it because
  two deliveries of one message must not count on each other.
-/
import Microservices.Notification.Broker

namespace Microservices.Notification

/-! ## Where a message is -/

/-- A copy of the message is in one of the three queues; a delivery that is not acked is in the main
    queue. -/
def Present (message : Nat) (s : State) : Prop :=
  (∃ m ∈ s.main, m.message = message) ∨ (∃ d ∈ s.unacked, d.copy.message = message) ∨
    (∃ m ∈ s.retry, m.message = message) ∨ (∃ m ∈ s.dlq, m.message = message)

/-- Some delivery of the message was processed successfully. -/
def Processed (message : Nat) (s : State) : Prop := (message, true) ∈ s.processed

/-! ## Covered deliveries -/

/-- The delivery is not acked by these frames, or not before a copy of it is published. -/
def Covered (d : Delivery) : List Frame → Prop
  | [] => True
  | .publish channel m :: frames =>
    (channel = d.channel ∧ m.message = d.copy.message) ∨ Covered d frames
  | .ack msg :: frames => ¬ d.SameTag msg ∧ Covered d frames
  | .nack _ :: frames => Covered d frames

section Covered

variable {d msg : Delivery} {frame : Frame} {pre post frames frames' : List Frame}

/-- Frames that ack something else cover everything. -/
theorem covered_of_forall (h : ∀ msg, Frame.ack msg ∈ frames → ¬ d.SameTag msg) :
    Covered d frames := by
  induction frames with
  | nil => trivial
  | cons frame frames ih =>
    have hrest := ih fun msg hmsg => h msg (List.mem_cons_of_mem _ hmsg)
    cases frame with
    | publish channel m => exact Or.inr hrest
    | ack msg => exact ⟨h msg List.mem_cons_self, hrest⟩
    | nack msg => exact hrest

/-- Frames sent later can be judged alone. -/
theorem Covered.append (h : Covered d frames) (h' : Covered d frames') :
    Covered d (frames ++ frames') := by
  induction frames with
  | nil => exact h'
  | cons frame frames ih =>
    cases frame with
    | publish channel m => exact h.imp_right ih
    | ack msg => exact ⟨h.1, ih h.2⟩
    | nack msg => exact ih h

/-- A frame that is taken leaves the delivery covered, unless it was its copy. -/
theorem Covered.taken (h : Covered d (pre ++ frame :: post)) :
    Covered d (pre ++ post) ∨ ∃ channel m, frame = .publish channel m ∧
      m.message = d.copy.message := by
  -- by what was written before the frame; each ack in front of it keeps its promise
  induction pre with
  | nil =>
    cases frame with
    | publish channel m =>
      rcases h with ⟨-, hm⟩ | h
      · exact Or.inr ⟨channel, m, rfl, hm⟩
      · exact Or.inl h
    | ack msg => exact Or.inl h.2
    | nack msg => exact Or.inl h
  | cons g pre ih =>
    cases g with
    | publish channel m =>
      rcases h with h | h
      · exact Or.inl (Or.inl h)
      · exact (ih h).imp_left Or.inr
    | ack msg => exact (ih h.2).imp_left fun hrest => ⟨h.1, hrest⟩
    | nack msg => exact ih h

/-- A covered delivery is not the one whose ack comes first on its channel. -/
theorem Covered.not_sameTag (h : Covered d (pre ++ .ack msg :: post))
    (hfirst : ∀ f ∈ pre, f.channel ≠ msg.channel) : ¬ d.SameTag msg := by
  intro hsame
  induction pre with
  | nil => exact h.1 hsame
  | cons g pre ih =>
    have hrest : ∀ f ∈ pre, f.channel ≠ msg.channel :=
      fun f hf => hfirst f (List.mem_cons_of_mem _ hf)
    cases g with
    | publish channel m =>
      rcases h with ⟨hchannel, -⟩ | h
      · -- a publish in front on the same channel would have been taken first
        have hne : channel ≠ msg.channel := hfirst _ List.mem_cons_self
        exact hne (hchannel.trans hsame.1)
      · exact ih h hrest
    | ack msg' => exact ih h.2 hrest
    | nack msg' => exact ih h hrest

end Covered

/-! ## The invariant -/

/-- The message is in a queue, or has a covered delivery, or has been processed. -/
inductive Live (message : Nat) (s : State) : Prop where
  | main (m : Copy) (hm : m ∈ s.main) (h : m.message = message)
  | retry (m : Copy) (hm : m ∈ s.retry) (h : m.message = message)
  | dlq (m : Copy) (hm : m ∈ s.dlq) (h : m.message = message)
  | unacked (d : Delivery) (hd : d ∈ s.unacked) (h : d.copy.message = message)
      (hcovered : Covered d s.wire)
  | processed (h : Processed message s)

section Live

variable {out : Outside} {maxRetries message : Nat} {s s' : State}

/-- A message that is alive is where it should be. -/
theorem Live.present (h : Live message s) : Present message s ∨ Processed message s := by
  cases h with
  | main m hm h => exact Or.inl (Or.inl ⟨m, hm, h⟩)
  | retry m hm h => exact Or.inl (Or.inr (Or.inr (Or.inl ⟨m, hm, h⟩)))
  | dlq m hm h => exact Or.inl (Or.inr (Or.inr (Or.inr ⟨m, hm, h⟩)))
  | unacked d hd h _ => exact Or.inl (Or.inr (Or.inl ⟨d, hd, h⟩))
  | processed h => exact Or.inr h

/-- What is not a delivery only has to stay where it is. -/
theorem Live.mono (h : Live message s) (hmain : s.main ⊆ s'.main) (hretry : s.retry ⊆ s'.retry)
    (hdlq : s.dlq ⊆ s'.dlq) (hprocessed : s.processed ⊆ s'.processed)
    (hunacked : ∀ d ∈ s.unacked, d.copy.message = message → Covered d s.wire → Live message s') :
    Live message s' := by
  cases h with
  | main m hm h => exact .main m (hmain hm) h
  | retry m hm h => exact .retry m (hretry hm) h
  | dlq m hm h => exact .dlq m (hdlq hm) h
  | unacked d hd h hcovered => exact hunacked d hd h hcovered
  | processed h => exact .processed (hprocessed h)

/-- A publish leaves the other messages alive. -/
theorem Live.publish (h : Live message s) (properties : Properties) (content : List UInt8) :
    Live message (s.publish properties content) := by
  refine h.mono (List.subset_append_left _ _) (List.Subset.refl _) (List.Subset.refl _)
    (List.Subset.refl _) ?_
  intro d hd h hcovered
  exact .unacked d hd h hcovered

/-- A delivery has a new tag, so nothing acks it yet. -/
theorem Live.deliver (h : Live message s) (htagged : Tagged s) (channel : Nat) {m : Copy}
    {pre post : List Copy} (hmain : s.main = pre ++ m :: post) :
    Live message (s.deliver channel m (pre ++ post)) := by
  cases h with
  | main m' hm h =>
    rw [hmain] at hm
    rcases eq_or_mem_rest hm with rfl | hrest
    · refine .unacked (s.nextDelivery channel m') (List.mem_append_right _ List.mem_cons_self) h ?_
      refine covered_of_forall fun msg hmsg hsame => ?_
      -- a frame that settles the new tag would refer to it before it was given out
      have hreference : msg ∈ s.references :=
        List.mem_append_right _ (List.mem_filterMap.mpr ⟨_, hmsg, rfl⟩)
      have hlt := htagged.references msg hreference
      have htag : s.nextTag channel = msg.deliveryTag := hsame.2
      have hchannel : channel = msg.channel := hsame.1
      rw [← htag, ← hchannel] at hlt
      exact Nat.lt_irrefl _ hlt
    · exact .main m' hrest h
  | retry m' hm h => exact .retry m' hm h
  | dlq m' hm h => exact .dlq m' hm h
  | unacked d hd h hcovered => exact .unacked d (List.mem_append_left _ hd) h hcovered
  | processed h => exact .processed h

/-- A handler acks its delivery if it succeeded, or after it has published the copy. -/
theorem Live.complete (h : Live message s) (htagged : Tagged s) {d : Delivery} {side : Side}
    {pre post : List Delivery} (hhandling : s.handling = pre ++ d :: post)
    (hends : Ends out.number out.encodes (.int maxRetries) (s.isOpen d.channel) d side) :
    Live message (s.complete d side (pre ++ post)) := by
  refine h.mono (List.Subset.refl _) (List.Subset.refl _) (List.Subset.refl _)
    (List.subset_append_left _ _) ?_
  intro d' hd' h hcovered
  have hreference : d ∈ s.references := by
    refine List.mem_append_left _ ?_
    exact mem_of_split hhandling
  by_cases hsame : d'.SameTag d
  · -- it is this handler's delivery
    have heq : d' = d := htagged.agree d hreference d' hd' hsame
    subst heq
    cases hends with
    | unreadable e hcount => exact .unacked d' hd' h (hcovered.append trivial)
    | closed ok hclosed => exact .unacked d' hd' h (hcovered.append trivial)
    | acked hopen =>
      refine .processed (List.mem_append_right _ ?_)
      show (message, true) ∈ [(d'.copy.message, true)]
      rw [h]
      exact List.mem_cons_self
    | givenUp retries hcount hgiveUp hopen =>
      exact .unacked d' hd' h (hcovered.append trivial)
    | rescheduled retries hcount hretry hopen =>
      exact .unacked d' hd' h (hcovered.append (Or.inl ⟨rfl, rfl⟩))
  · have hother : Covered d' side.frames := by
      cases hends with
      | unreadable e hcount => trivial
      | closed ok hclosed => trivial
      | acked hopen => exact ⟨hsame, trivial⟩
      | givenUp retries hcount hgiveUp hopen => trivial
      | rescheduled retries hcount hretry hopen => exact Or.inr ⟨hsame, trivial⟩
    exact .unacked d' hd' h (hcovered.append hother)

/-- The broker takes a frame: a covered delivery is not the one that is acked. -/
theorem Live.take (h : Live message s) {frame : Frame} {pre post : List Frame}
    (hwire : s.wire = pre ++ frame :: post) (hfirst : ∀ f ∈ pre, f.channel ≠ frame.channel)
    (htakes : Takes out frame { s with wire := pre ++ post } s') : Live message s' := by
  cases htakes with
  | publish _ channel m =>
    refine h.mono (List.Subset.refl _) (List.subset_append_left _ _) (List.Subset.refl _)
      (List.Subset.refl _) ?_
    intro d hd h hcovered
    rw [hwire] at hcovered
    -- the publish was what covered it: its copy is in the retry queue now
    rcases hcovered.taken with hcovered | ⟨channel', m', hframe, hm'⟩
    · exact .unacked d hd h hcovered
    · cases hframe
      exact .retry m (List.mem_append_right _ List.mem_cons_self) (hm'.trans h)
  | @ack _ d pre' post' msg hunacked htag =>
    refine h.mono (List.Subset.refl _) (List.Subset.refl _) (List.Subset.refl _)
      (List.Subset.refl _) ?_
    intro d' hd' h hcovered
    rw [hwire] at hcovered
    -- an ack behind its own copy's publish cannot be taken before it
    have hnot : ¬ d'.SameTag msg := hcovered.not_sameTag hfirst
    have hmem : d' ∈ pre' ++ d :: post' := hunacked ▸ hd'
    rcases eq_or_mem_rest hmem with rfl | hstays
    · exact absurd htag hnot
    · rcases hcovered.taken with hcovered | ⟨channel', m', hframe, -⟩
      · exact .unacked d' hstays h hcovered
      · cases hframe
  | @nack _ d pre' post' msg hunacked htag =>
    refine h.mono (List.Subset.refl _) (List.Subset.refl _) (List.subset_append_left _ _)
      (List.Subset.refl _) ?_
    intro d' hd' h hcovered
    rw [hwire] at hcovered
    have hmem : d' ∈ pre' ++ d :: post' := hunacked ▸ hd'
    rcases eq_or_mem_rest hmem with rfl | hstays
    · exact .dlq _ (List.mem_append_right _ List.mem_cons_self) h
    · rcases hcovered.taken with hcovered | ⟨channel', m', hframe, -⟩
      · exact .unacked d' hstays h hcovered
      · cases hframe

/-- So does an expiry, of the message itself or of another one. -/
theorem Live.expire (h : Live message s) (headers : Headers) {m : Copy} {pre post : List Copy}
    (hretry : s.retry = pre ++ m :: post) :
    Live message (s.expire headers m (pre ++ post)) := by
  cases h with
  | main m' hm h => exact .main m' (List.mem_append_left _ hm) h
  | retry m' hm h =>
    rw [hretry] at hm
    rcases eq_or_mem_rest hm with rfl | hrest
    · exact .main _ (List.mem_append_right _ List.mem_cons_self) h
    · exact .retry m' hrest h
  | dlq m' hm h => exact .dlq m' hm h
  | unacked d hd h hcovered => exact .unacked d hd h hcovered
  | processed h => exact .processed h

/-- A lost channel gives its deliveries back to the main queue. -/
theorem Live.fault (h : Live message s) (hfault : Fault s s') : Live message s' := by
  cases hfault with
  | close channel =>
    refine h.mono (List.Subset.refl _) (List.Subset.refl _) (List.Subset.refl _)
      (List.Subset.refl _) ?_
    intro d hd h hcovered
    exact .unacked d hd h hcovered
  | lose channel =>
    refine h.mono (List.subset_append_right _ _) (List.Subset.refl _) (List.Subset.refl _)
      (List.Subset.refl _) ?_
    intro d hd h hcovered
    -- what a lost connection had not acknowledged goes back to the main queue
    by_cases hchannel : d.channel = channel
    · have hmem : d ∈ s.unacked.filter fun d => decide (d.channel = channel) :=
        List.mem_filter.mpr ⟨hd, decide_eq_true hchannel⟩
      exact .main d.copy (List.mem_append_left _ (List.mem_map_of_mem hmem)) h
    · have hmem : d ∈ s.unacked.filter fun d => !decide (d.channel = channel) := by
        rw [List.mem_filter]
        exact ⟨hd, by simpa using hchannel⟩
      exact .unacked d hmem h hcovered

/-- **Every move leaves a message alive**: one lemma for each kind of move. -/
theorem Live.move (h : Live message s) (htagged : Tagged s) (hmove : Move out maxRetries s s') :
    Live message s' := by
  cases hmove with
  | publish properties content => exact h.publish properties content
  | deliver channel hconnected hmain => exact h.deliver htagged channel hmain
  | complete sent hhandling => exact h.complete htagged hhandling handled_ends
  | take hconnected hwire hfirst htakes => exact h.take hwire hfirst htakes
  | expire hretry => exact h.expire _ hretry

end Live

/-! ## Every run -/

section Runs

variable {out : Outside} {maxRetries : Nat} {s s' : State}

/-- Every published message is alive. -/
structure AllLive (s : State) : Prop where
  tagged : Tagged s
  live : ∀ message < s.published.length, Live message s

/-- At the start no message has been published. -/
theorem AllLive.init : AllLive State.init where
  tagged := Tagged.init
  live _ h := absurd h (Nat.not_lt_zero _)

/-- Every move keeps them all alive; a publish adds one that is. -/
theorem AllLive.move (h : AllLive s) (hmove : Move out maxRetries s s') : AllLive s' where
  tagged := h.tagged.move hmove
  live message hlt := by
    rcases published_move hmove with hsame | ⟨properties, content, rfl⟩
    · rw [hsame] at hlt
      exact (h.live message hlt).move h.tagged hmove
    · have hlength : (s.publish properties content).published.length = s.published.length + 1 :=
        List.length_append
      by_cases hold : message < s.published.length
      · exact (h.live message hold).publish properties content
      · have hnew : s.published.length = message := by omega
        exact .main _ (List.mem_append_right _ List.mem_cons_self) hnew

/-- So does every fault. -/
theorem AllLive.fault (h : AllLive s) (hfault : Fault s s') : AllLive s' where
  tagged := h.tagged.fault hfault
  live message hlt := by
    have hsame : s'.published = s.published := by cases hfault <;> rfl
    rw [hsame] at hlt
    exact (h.live message hlt).fault hfault

/-- So all are in every reachable state. -/
theorem Reachable.allLive (h : Reachable out maxRetries s) : AllLive s := by
  induction h with
  | refl => exact AllLive.init
  | tail _ hstep ih =>
    rcases hstep with hmove | hfault
    · exact ih.move hmove
    · exact ih.fault hfault

/-- **No notification is ever lost.**  Whatever the handlers do, in whatever order deliveries and
    expiries happen, and wherever channels are closed or lost: a published message is in one of the
    queues, or some delivery of it has been processed. -/
theorem present_or_processed (h : Reachable out maxRetries s) (message : Nat)
    (hpublished : message < s.published.length) : Present message s ∨ Processed message s :=
  (h.allLive.live message hpublished).present

/-- The broker takes the copy and loses the channel before the ack: the message is there twice. -/
theorem present_of_lost_ack :
    Present 0 (copiedOnce.lose 0) ∨ Processed 0 (copiedOnce.lose 0) := by
  have hcopied : Reachable ordinary 1 copiedOnce :=
    Relation.ReflTransGen.mono (fun _ _ hmove => Or.inl hmove) _ _ copiedOnce_reachable
  exact present_or_processed (hcopied.tail (Or.inr (.lose copiedOnce 0))) 0 Nat.zero_lt_one

end Runs

end Microservices.Notification
