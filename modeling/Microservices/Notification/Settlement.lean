/-
  The settlement of one delivery (handleMessage, scheduleRetry and stop in
  notification-service/src/messaging/consumer.js), on a channel that may become unusable.

  The channel closes, or `stop` sets it to null, at any moment: from then on every call throws and
  transmits nothing.  The promise of `handleMessage` is dropped by consumeMainQueue, so that a
  rejection ends the process.

  `handleMessage_run` says what a handler has done by its end; the rest reads it off.
-/
import Microservices.Notification.Limits

namespace Microservices.Notification

/-! ## A channel that may become unusable -/

/-- What a handler does that can be seen from outside. -/
inductive Happening : Type where
  | processed (ok : Bool)
  | sent (frame : Frame)

/-- A handler at work: how many more calls its channel takes, if it does not stay usable, and what
    the handler has done. -/
structure Line where
  usable : Option Nat
  done : List Happening

namespace Line

/-- Code that runs without an await. -/
abbrev LineM (α : Type) : Type := ExceptT JsError (StateM Line) α

/-- The channel of a handler.  `gone` is what is thrown by a call on a closed channel, or on null. -/
def channel (gone : JsError) : Channel LineM where
  send frame := do
    let line ← get
    match line.usable with
    | none => set { line with done := line.done ++ [Happening.sent frame] }
    | some (k + 1) => set { usable := some k, done := line.done ++ [.sent frame] : Line }
    | some 0 => throw gone
  processed ok := modify fun line => { line with done := line.done ++ [.processed ok] }

section Handler

variable (out : Outside) (maxRetries : Whole) (gone : JsError)

/-- The handler of a delivery, from its start to its end: how its promise ends, and what it has
    done. -/
def handled (usable : Option Nat) (result : Except JsError Unit) (msg : Delivery) :
    Except JsError Unit × Line :=
  (handleMessage out.decode out.parse out.number out.encodes maxRetries (channel gone) result
    msg).run.run ⟨usable, []⟩

end Handler

/-! ## Settlement -/

/-- An ack or a nack. -/
def IsSettlement : Happening → Bool
  | .sent (.ack _) => true
  | .sent (.nack _) => true
  | _ => false

/-- The acks and nacks. -/
def settlements (done : List Happening) : List Happening := done.filter IsSettlement

/-- **Settlement is total**: at most one ack or nack, and exactly one on a channel that stays usable;
    an ack only for a message that has been processed or copied to the retry queue; and a promise
    that does not reject. -/
structure Settled (usable : Option Nat) (msg : Delivery) (r : Except JsError Unit × Line) :
    Prop where
  atMostOne : (settlements r.2.done).length ≤ 1
  exactlyOne : usable = none → (settlements r.2.done).length = 1
  ackedAfter : ∀ d before after, r.2.done = before ++ .sent (.ack d) :: after →
    .processed true ∈ before ∨ .sent (.publish msg.channel (retried msg)) ∈ before
  resolves : r.1 = .ok ()

/-- The channel takes `n` more calls. -/
def Takes (n : Nat) : Option Nat → Bool
  | none => true
  | some k => decide (n ≤ k)

section Calls

variable (out : Outside) (maxRetries : Whole) (retries : Int) (result : Except JsError Unit)
variable (msg : Delivery)

/-- The message is processed. -/
def processes : Bool := (process result (safeParse out.decode out.parse msg.copy.content)).toBool

/-- It cannot be retried: the limit is reached, or there is something in it that amqplib cannot
    encode. -/
def GivenUp : Prop := maxRetries.le (.int retries) = true ∨ (out.encodes (retried msg)).isSome = true

/-- Whether a failed message is given up can be computed. -/
instance : Decidable (GivenUp out maxRetries retries msg) := inferInstanceAs (Decidable (_ ∨ _))

/-- The calls that its settlement takes: the copy for the retry queue is one more. -/
def calls : Nat := if processes out result msg ∨ GivenUp out maxRetries retries msg then 1 else 2

/-- What is sent for it. -/
def frames : List Frame :=
  if processes out result msg then [.ack msg]
  else if GivenUp out maxRetries retries msg then [.nack msg]
  else [.publish msg.channel (retried msg), .ack msg]

end Calls

/-- The frames that the channel takes. -/
def taken (fs : List Frame) : Option Nat → List Frame
  | none => fs
  | some k => fs.take k

/-- Frames are sent one after the other, as far as the channel takes them. -/
def sends (gone : JsError) (usable : Option Nat) (done : List Happening) (fs : List Frame) :
    Except JsError Unit × Line :=
  (if Takes fs.length usable then .ok () else .error gone,
    ⟨usable.map (· - fs.length), done ++ (taken fs usable).map .sent⟩)

/-! ## A handler, from its start to its end -/

section Run

variable {out : Outside} {maxRetries : Whole} {gone : JsError} {usable : Option Nat}
variable {result : Except JsError Unit} {msg : Delivery} {retries : Int}

/-- There are as many frames as calls. -/
theorem length_frames :
    (frames out maxRetries retries result msg).length = calls out maxRetries retries result msg := by
  unfold frames calls
  by_cases hprocessed : processes out result msg = true
  · rw [if_pos hprocessed, if_pos (Or.inl hprocessed)]
    rfl
  · rw [if_neg hprocessed]
    by_cases hgivenUp : GivenUp out maxRetries retries msg
    · rw [if_pos hgivenUp, if_pos (Or.inr hgivenUp)]
      rfl
    · rw [if_neg hgivenUp, if_neg (not_or.mpr ⟨hprocessed, hgivenUp⟩)]
      rfl

/-- Headers that cannot be read reject before anything is done. -/
theorem handled_unreadable {e : JsError}
    (h : retryCountOf out.number msg.copy.properties.headers = .error e) :
    handled out maxRetries gone usable result msg = (.error e, ⟨usable, []⟩) := by
  unfold handled handleMessage
  rw [h]
  rfl

/-- A channel that takes `k + n` calls takes `n`. -/
theorem takes_add (n k : Nat) : Takes n (some (k + n)) = true :=
  decide_eq_true (Nat.le_add_left n k)

/-- A channel that takes all the frames. -/
theorem sends_of_takes {fs : List Frame} (h : Takes fs.length usable = true)
    (done : List Happening) : sends gone usable done fs =
      (.ok (), ⟨usable.map (· - fs.length), done ++ fs.map .sent⟩) := by
  unfold sends
  rw [if_pos h]
  cases usable with
  | none => rfl
  | some k =>
    have hle : fs.length ≤ k := of_decide_eq_true h
    show (_, Line.mk _ (done ++ (fs.take k).map .sent)) = _
    rw [List.take_of_length_le hle]

/-- A channel that takes none. -/
theorem sends_gone {fs : List Frame} (h : fs ≠ []) (done : List Happening) :
    sends gone (some 0) done fs = (.error gone, ⟨some 0, done⟩) := by
  have htakes : ¬ Takes fs.length (some 0) = true := by
    intro h0
    have hle : fs.length ≤ 0 := of_decide_eq_true h0
    exact h (List.length_eq_zero_iff.mp (Nat.le_zero.mp hle))
  unfold sends
  rw [if_neg htakes]
  show (_, Line.mk (some (0 - fs.length)) (done ++ (fs.take 0).map .sent)) = _
  rw [Nat.zero_sub, List.take_zero, List.map_nil, List.append_nil]

/-- One call on the channel. -/
theorem send_run (frame : Frame) (done : List Happening) :
    ((channel gone).send frame).run.run ⟨usable, done⟩ = sends gone usable done [frame] := by
  match usable with
  | none => rfl
  | some 0 =>
    rw [sends_gone (List.cons_ne_nil _ _)]
    rfl
  | some (k + 1) =>
    have htakes : Takes [frame].length (some (k + 1)) = true := takes_add 1 k
    rw [sends_of_takes htakes]
    rfl

/-- `scheduleRetry` sends a copy and an ack, or else a nack. -/
theorem scheduleRetry_run (done : List Happening) :
    (scheduleRetry out.encodes (channel gone) msg).run.run ⟨usable, done⟩ =
      sends gone usable done (if (out.encodes (retried msg)).isSome then [.nack msg]
        else [.publish msg.channel (retried msg), .ack msg]) := by
  unfold scheduleRetry Channel.sendToQueue
  cases out.encodes (retried msg) with
  | some e => exact send_run (.nack msg) done
  | none =>
    show _ = sends gone usable done [.publish msg.channel (retried msg), .ack msg]
    -- the publish and the ack are two calls; the channel may go between them
    match usable with
    | none =>
      rw [sends_of_takes rfl]
      show (Except.ok (), Line.mk none (done ++ [_] ++ [_])) = _
      rw [List.append_assoc]
      rfl
    | some 0 =>
      rw [sends_gone (List.cons_ne_nil _ _)]
      rfl
    | some 1 => rfl
    | some (k + 2) =>
      have htakes : Takes [Frame.publish msg.channel (retried msg), .ack msg].length
        (some (k + 2)) = true := takes_add 2 k
      rw [sends_of_takes htakes]
      show (Except.ok (), Line.mk (some k) (done ++ [_] ++ [_])) = _
      rw [List.append_assoc]
      rfl

/-- The `catch` of `handleMessage`. -/
theorem catch_run (done : List Happening) :
    (if maxRetries.le (.int retries) then (channel gone).nack msg
      else scheduleRetry out.encodes (channel gone) msg : LineM Unit).run.run ⟨usable, done⟩ =
      sends gone usable done (if GivenUp out maxRetries retries msg then [.nack msg]
        else [.publish msg.channel (retried msg), .ack msg]) := by
  by_cases hmax : maxRetries.le (.int retries) = true
  · have hgivenUp : GivenUp out maxRetries retries msg := Or.inl hmax
    rw [if_pos hmax, if_pos hgivenUp]
    exact send_run (.nack msg) done
  · rw [if_neg hmax, scheduleRetry_run]
    -- below the limit a message is given up where its copy cannot be encoded
    have hiff : GivenUp out maxRetries retries msg ↔ (out.encodes (retried msg)).isSome = true :=
      or_iff_right hmax
    simp only [hiff]

/-- **What a handler has done by its end**: processed the message, and sent its frames as far as the
    channel took them; and its promise rejects if the channel has not taken them all. -/
theorem handled_run (h : retryCountOf out.number msg.copy.properties.headers = .ok retries) :
    handled out maxRetries gone usable result msg =
      sends gone usable [.processed (processes out result msg)]
        (frames out maxRetries retries result msg) := by
  unfold handled handleMessage frames processes
  rw [h]
  dsimp only
  generalize process result (safeParse out.decode out.parse msg.copy.content) = outcome
  have hcatch := @catch_run out maxRetries gone usable msg retries [.processed outcome.toBool]
  cases outcome with
  | error e => exact hcatch
  | ok u =>
    show _ = sends gone usable [.processed true] [.ack msg]
    -- an ack that throws comes to the `catch`, where the channel takes nothing more
    match usable with
    | none => rfl
    | some 0 =>
      rw [sends_gone (List.cons_ne_nil _ _)]
      refine hcatch.trans (sends_gone ?_ _)
      split <;> exact List.cons_ne_nil _ _
    | some (k + 1) =>
      have htakes : Takes [Frame.ack msg].length (some (k + 1)) = true := takes_add 1 k
      rw [sends_of_takes htakes]
      rfl

/-- How many more calls a channel takes that stays open or stays closed. -/
def staying (isOpen : Bool) : Option Nat := if isOpen then none else some 0

/-- What follows a failed run in the model of the broker is what its settlement takes. -/
theorem failedFrames_eq :
    failedFrames out.encodes maxRetries retries msg =
      if GivenUp out maxRetries retries msg then [.nack msg]
      else [.publish msg.channel (retried msg), .ack msg] := by
  unfold failedFrames
  by_cases hmax : maxRetries.le (.int retries) = true
  · have hgivenUp : GivenUp out maxRetries retries msg := Or.inl hmax
    rw [if_pos hmax, if_pos hgivenUp]
  · have hiff : GivenUp out maxRetries retries msg ↔ (out.encodes (retried msg)).isSome = true :=
      or_iff_right hmax
    simp only [if_neg hmax, hiff]
    cases out.encodes (retried msg) <;> rfl

/-- **On a channel that stays as it is, a handler does what it does in the model of the broker**: the
    two runs of the one handler agree. -/
theorem handled_eq_side (isOpen : Bool) :
    (handled out maxRetries channelClosed (staying isOpen) result msg).2.done =
      (Notification.handled out.decode out.parse out.number out.encodes maxRetries isOpen result
          msg).processed.map .processed ++
        (Notification.handled out.decode out.parse out.number out.encodes maxRetries isOpen result
          msg).frames.map .sent := by
  cases hcount : retryCountOf out.number msg.copy.properties.headers with
  | error e =>
    rw [handled_unreadable hcount, Notification.handled_unreadable hcount]
    rfl
  | ok retries =>
    rw [handled_run hcount]
    cases isOpen with
    | false =>
      -- a closed channel takes no frame at all
      rw [handled_closed hcount]
      show [Happening.processed _] ++ ((frames out maxRetries retries result msg).take 0).map _ = _
      rw [List.take_zero]
      rfl
    | true =>
      unfold frames processes
      cases hrun : process result (safeParse out.decode out.parse msg.copy.content) with
      | ok u =>
        rw [handled_succeeds hcount hrun]
        rfl
      | error e =>
        rw [handled_fails hcount hrun]
        exact congrArg (fun fs => [Happening.processed false] ++ fs.map .sent) failedFrames_eq.symm

/-! ## Exactly when settlement is total -/

/-- The channel takes a beginning of what is sent. -/
theorem taken_initial (fs : List Frame) : taken fs usable <+: fs := by
  cases usable with
  | none => exact List.prefix_refl fs
  | some k => exact List.take_prefix k fs

/-- What a handler sends has one ack or nack. -/
theorem settlements_frames (done : List Happening) (hdone : settlements done = []) :
    (settlements (done ++ (frames out maxRetries retries result msg).map .sent)).length = 1 := by
  have hall : (settlements ((frames out maxRetries retries result msg).map .sent)).length = 1 := by
    unfold frames
    split
    · rfl
    · split
      · rfl
      · rfl
  unfold settlements at hdone hall ⊢
  rw [List.filter_append, hdone, List.nil_append]
  exact hall

/-- And no more if the channel does not take it all. -/
theorem settlements_taken (done : List Happening) (hdone : settlements done = []) :
    (settlements (done ++ (taken (frames out maxRetries retries result msg) usable).map
      .sent)).length ≤ 1 := by
  rw [← @settlements_frames out maxRetries result msg retries done hdone]
  refine List.Sublist.length_le (List.Sublist.filter _ ?_)
  exact (List.Sublist.refl done).append ((taken_initial _).sublist.map Happening.sent)

/-- The copy is sent before the ack, and without a copy only a message that was processed is acked. -/
theorem acked_after {d : Delivery} {before after : List Happening}
    (h : [.processed (processes out result msg)] ++
      (taken (frames out maxRetries retries result msg) usable).map .sent =
        before ++ .sent (.ack d) :: after) :
    .processed true ∈ before ∨ .sent (.publish msg.channel (retried msg)) ∈ before := by
  cases before with
  | nil => cases h
  | cons first before =>
    obtain ⟨rfl, htaken⟩ := List.cons.inj h
    obtain ⟨rest, hrest⟩ := @taken_initial usable (frames out maxRetries retries result msg)
    -- the calls that were made are the first of all that would be
    have hframes : (frames out maxRetries retries result msg).map Happening.sent =
        before ++ .sent (.ack d) :: (after ++ rest.map .sent) := by
      have hmap : (taken (frames out maxRetries retries result msg) usable).map Happening.sent =
          before ++ .sent (.ack d) :: after := htaken
      rw [← hrest, List.map_append, hmap, List.append_assoc]
      rfl
    unfold frames at hframes
    split at hframes
    · rename_i hprocessed
      rw [hprocessed]
      exact Or.inl List.mem_cons_self
    · split at hframes
      · cases before with
        | nil => cases hframes
        | cons second before =>
          have hnil := (List.cons.inj hframes).2
          exact absurd hnil.symm (by simp)
      · -- the ack comes after the copy's publish
        cases before with
        | nil => cases hframes
        | cons second before =>
          obtain ⟨rfl, -⟩ := List.cons.inj hframes
          exact Or.inr (List.mem_cons_of_mem _ List.mem_cons_self)

/-- **Exactly when settlement is total**: the headers can be read, and the channel takes the calls
    that the settlement needs. -/
theorem settled_iff (out : Outside) (maxRetries : Whole) (gone : JsError) (usable : Option Nat)
    (result : Except JsError Unit) (msg : Delivery) :
    Settled usable msg (handled out maxRetries gone usable result msg) ↔
      ∃ retries, retryCountOf out.number msg.copy.properties.headers = .ok retries ∧
        Takes (calls out maxRetries retries result msg) usable = true := by
  cases hcount : retryCountOf out.number msg.copy.properties.headers with
  | error e =>
    rw [handled_unreadable hcount]
    refine iff_of_false (fun h => ?_) fun ⟨retries, hretries, _⟩ => nomatch hretries
    cases h.resolves
  | ok retries =>
    have hrun := @handled_run out maxRetries gone usable result msg retries hcount
    rw [hrun]
    unfold sends
    rw [length_frames]
    constructor
    · intro h
      refine ⟨retries, rfl, ?_⟩
      by_contra hnot
      -- a call on a channel that is gone throws out of the catch block
      have hresolves := h.resolves
      rw [if_neg hnot] at hresolves
      cases hresolves
    · rintro ⟨_, heq, htakes⟩
      cases heq
      -- where every call is taken, the handler ends after one settlement
      refine ⟨settlements_taken _ rfl, fun husable => ?_, fun d before after h => acked_after h, ?_⟩
      · subst husable
        exact settlements_frames _ rfl
      · exact if_pos htakes

end Run

/-! ## A channel that closes while the mail is sent -/

/-- Its `x-death` holds a void. -/
def voidDeath : Copy :=
  { notification with properties :=
    { notification.properties with headers := some [("x-death", .array [.void])] } }

/-- The mail is sent, the ack throws, and so does every call of the `catch`; and a message whose
    `x-death` cannot be read is not settled on any channel. -/
theorem not_settled :
    ¬ Settled (some 0) ⟨0, 1, notification⟩
        (handled ordinary (.int 3) channelClosed (some 0) (.ok ()) ⟨0, 1, notification⟩) ∧
      ¬ Settled none ⟨0, 1, voidDeath⟩
        (handled ordinary (.int 3) channelClosed none (.ok ()) ⟨0, 1, voidDeath⟩) := by
  constructor
  · intro h
    have hresolves := h.resolves
    rw [@handled_run ordinary (.int 3) channelClosed (some 0) (.ok ()) ⟨0, 1, notification⟩ 0 rfl]
      at hresolves
    unfold sends at hresolves
    rw [length_frames] at hresolves
    cases hresolves
  · -- a death that is `undefined` has no queue to compare
    intro h
    cases h.resolves

end Line

end Microservices.Notification
