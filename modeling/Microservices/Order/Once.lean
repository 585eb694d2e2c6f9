/-
  Every order is published at most once (publishEventsBestEffort and safePublishFailed in
  order-service/src/sagas/create-order.saga.js).

  A saga that has made its publish stands at it until it is answered, and then has nothing left to
  ask.  So the calls of the system hold one publish of an order at most, whatever its clients give up
  on; a second event of an order could only come from a broker.

  1. **Of one saga**: `Eventful.not_answered`: at a publish, nothing loud has been asked before it.
  2. **Of the system**: `OnceInv`: what a saga stands at has no call yet, and no two calls publish
     events of one order.
  3. **Run**: one lemma for each kind of step, `onceInv_step`, and `published_once` by induction.
-/
import Microservices.Order.Events

namespace Microservices.Order

/-- The call hands an event of this order to Kafka. -/
def SagaOp.Publishes (op : SagaOp) (o : String) : Prop := ∃ event ∈ op.events, event.id = o

/-- A request that publishes is not quiet. -/
theorem SagaOp.Publishes.not_quiet {op : SagaOp} {o : String} (h : op.Publishes o) : ¬ op.Quiet := by
  obtain ⟨event, hmem, -⟩ := h
  exact SagaOp.not_quiet_of_event hmem

/-- What holds of the publishes: none has been sent for a saga that is about to send one, and of each
    order one at most is in the system. -/
structure OnceInv (s : State) : Prop where
  unsent : ∀ o g op k, s.sagas o = some g → g.thread.prog = .await op k → ¬ op.Quiet →
    g.call = none → ∀ c ∈ s.calls, ¬ c.op.Publishes o
  once : ∀ (i j : Nat) (c c' : Call) (o : String), s.calls[i]? = some c → s.calls[j]? = some c' →
    c.op.Publishes o → c'.op.Publishes o → i = j

section Once

variable {numeric : Float → Option Numeric} {maxRetries : Nat} {s s' : State} {ev : Event}

/-- A saga publishes events of its own order. -/
theorem EventsInv.publishes_own (h : EventsInv s) {o x : String} {g : Saga} {op : SagaOp}
    (hg : s.sagas o = some g) (hmade : g.Made op) (hop : op.Publishes x) : x = o := by
  have hloud := hop.not_quiet
  obtain ⟨event, hmem, rfl⟩ := hop
  rcases (h.obeys o g hg).here.published hloud hmade with ⟨row, rfl, hret, -⟩ | ⟨err, rfl, -⟩
  · rw [List.mem_singleton.mp hmem]
    exact (h.row_of_returned hg hret).1
  · rw [List.mem_singleton.mp hmem]
    rfl

/-- A saga that stands at a publish has had no answer to one. -/
theorem Eventful.not_answered {o : String} {L : SagaLog} {p : SagaProg} (h : Eventful o L p)
    {op op' : SagaOp} {k : SagaRes op → SagaProg} (hp : p = .await op k) (hop : ¬ op.Quiet)
    (hop' : ¬ op'.Quiet) : ¬ Answered op' L := by
  subst hp
  cases op with
  | allSettled first second =>
    obtain ⟨row, order, L₀, hjust, rfl, -⟩ := h
    intro hans
    -- only the publishes are not quiet, and they are the last that a saga asks
    rcases answered_cons.mp hans with rfl | ⟨r, hold⟩
    · exact hop' ⟨rfl, rfl⟩
    · exact hop' (hjust.undecided.silent _ hold)
  | publishOrderEvent event =>
    obtain ⟨hund, -⟩ := h
    rintro ⟨r, hr⟩
    exact hop' (hund.silent _ hr)
  | publishNotification message => exact h.elim
  | _ => exact absurd ⟨rfl, rfl⟩ hop

/-- At the start nothing has been published. -/
theorem onceInv_init : OnceInv State.init where
  unsent _ _ _ _ hg := nomatch hg
  once _ _ _ _ _ hi := nomatch hi

/-- The same sagas and the same requests. -/
theorem OnceInv.of_same (h : OnceInv s) (hsagas : s'.sagas = s.sagas)
    (hops : ∀ (i : Nat) c', s'.calls[i]? = some c' → ∃ c, s.calls[i]? = some c ∧ c.op = c'.op) :
    OnceInv s' where
  unsent o g op k hg hp hop hcall c' hc' hpub := by
    rw [hsagas] at hg
    obtain ⟨i, hi⟩ := List.getElem?_of_mem hc'
    obtain ⟨c, hc, hsame⟩ := hops i c' hi
    rw [← hsame] at hpub
    exact h.unsent o g op k hg hp hop hcall c (List.mem_of_getElem? hc) hpub
  once i j c c' o hi hj hpub hpub' := by
    obtain ⟨x, hx, hsame⟩ := hops i c hi
    obtain ⟨x', hx', hsame'⟩ := hops j c' hj
    rw [← hsame] at hpub
    rw [← hsame'] at hpub'
    exact h.once i j x x' o hx hx' hpub hpub'

/-- A call that gets further keeps its request. -/
theorem ops_set {calls : List Call} {i : Nat} {op : SagaOp} {stage stage' : Stage op}
    (hi : calls[i]? = some ⟨op, stage⟩) (j : Nat) (c' : Call)
    (hj : (calls.set i ⟨op, stage'⟩)[j]? = some c') : ∃ c, calls[j]? = some c ∧ c.op = c'.op := by
  by_cases hij : i = j
  · subst hij
    rw [List.getElem?_set_self (List.getElem?_eq_some_iff.mp hi).1] at hj
    cases hj
    exact ⟨_, hi, rfl⟩
  · rw [List.getElem?_set_ne hij] at hj
    exact ⟨c', hj, rfl⟩

/-- A saga that moves, or begins, stands at a publish that nobody has made. -/
theorem OnceInv.setSaga (h : OnceInv s) {o : String} {g' : Saga}
    (hnew : ∀ op k, g'.thread.prog = .await op k → ¬ op.Quiet →
      ∀ c ∈ s.calls, ¬ c.op.Publishes o) : OnceInv (s.setSaga o g') where
  unsent x g op k hg hp hop hcall := by
    rcases setSaga_some s o g' hg with ⟨rfl, rfl⟩ | ⟨-, hold⟩
    · exact hnew op k hp hop
    · exact h.unsent x g op k hold hp hop hcall
  once := h.once

/-- What a saga has just been answered it does not ask again. -/
theorem OnceInv.answered (h : OnceInv s) (hevents : EventsInv s) {o : String} {g : Saga} {op : SagaOp}
    {k : SagaRes op → SagaProg} (hg : s.sagas o = some g) (hp : g.thread.prog = .await op k)
    (r : SagaRes op) : OnceInv (s.setSaga o ⟨g.thread.answer op k r, none⟩) := by
  refine h.setSaga fun op' k' hp' hop' c hc hpub => ?_
  have hobeys := (hevents.obeys o g hg).answer hp r
  obtain ⟨x, g', hg', hmade⟩ := hevents.made c hc hpub.not_quiet
  obtain rfl := hevents.publishes_own hg' hmade hpub
  cases hg.symm.trans hg'
  -- an event published so far is that of a request answered by now
  have hanswered : Answered c.op (g.thread.answer op k r).log := by
    rcases hmade with ⟨k'', hk⟩ | hans
    · rw [hp] at hk
      cases hk
      exact answered_cons.mpr (Or.inl rfl)
    · exact answered_cons.mpr (Or.inr hans)
  exact hobeys.here.not_answered hp' hop' hpub.not_quiet hanswered

/-- A saga makes the publish it stands at. -/
theorem OnceInv.send (h : OnceInv s) (hevents : EventsInv s) {o : String} {g : Saga} {op : SagaOp}
    {k : SagaRes op → SagaProg} (hg : s.sagas o = some g) (hp : g.thread.prog = .await op k)
    (hc : g.call = none) :
    OnceInv { s.setSaga o ⟨g.thread, some s.calls.length⟩ with
      calls := s.calls ++ [⟨op, .sent⟩] } := by
  have hown : ∀ x, op.Publishes x → x = o := fun x hpub => hevents.publishes_own hg (Or.inl ⟨k, hp⟩) hpub
  -- the call with a number, an old one or the new one
  have hcall : ∀ (i : Nat) (c : Call), (s.calls ++ [⟨op, .sent⟩])[i]? = some c →
      s.calls[i]? = some c ∨ i = s.calls.length ∧ c.op = op := by
    intro i c hi
    rcases Nat.lt_trichotomy i s.calls.length with hlt | heq | hgt
    · rw [List.getElem?_append_left hlt] at hi
      exact Or.inl hi
    · subst heq
      rw [List.getElem?_concat_length] at hi
      cases hi
      exact Or.inr ⟨rfl, rfl⟩
    · rw [List.getElem?_eq_none (by simp; omega)] at hi
      cases hi
  -- no old call is a publish of an order of which the new one is
  have hnew : ∀ (i : Nat) (c : Call) (x : String), s.calls[i]? = some c → c.op.Publishes x →
      ¬ op.Publishes x := by
    intro i c x hi hpub hpub'
    have hx := hown x hpub'
    rw [hx] at hpub
    exact h.unsent o g op k hg hp hpub'.not_quiet hc c (List.mem_of_getElem? hi) hpub
  constructor
  · intro x g' op' k' hg' hp' hop' hcall' c hmem hpub
    rcases setSaga_some s o _ hg' with ⟨rfl, rfl⟩ | ⟨hne, hold⟩
    · cases hcall'
    · rcases List.mem_append.mp hmem with hmem | hmem
      · exact h.unsent x g' op' k' hold hp' hop' hcall' c hmem hpub
      · rw [List.mem_singleton.mp hmem] at hpub
        exact hne (hown x hpub)
  · intro i j c c' x hi hj hpub hpub'
    rcases hcall i c hi with hi | ⟨hi, hop⟩
    · rcases hcall j c' hj with hj | ⟨hj, hop'⟩
      · exact h.once i j c c' x hi hj hpub hpub'
      · rw [hop'] at hpub'
        exact absurd hpub' (hnew i c x hi hpub)
    · rw [hop] at hpub
      rcases hcall j c' hj with hj | ⟨hj, hop'⟩
      · exact absurd hpub (hnew j c' x hj hpub')
      · rw [hi, hj]

/-- **Every step keeps it.** -/
theorem onceInv_step (hevents : EventsInv s) (h : OnceInv s)
    (hstep : Step numeric maxRetries s ev s') : OnceInv s' := by
  cases hstep with
  | start o input hfresh =>
    refine h.setSaga fun op k hp hop c hc hpub => ?_
    obtain ⟨x, g, hg, hmade⟩ := hevents.made c hc hpub.not_quiet
    obtain rfl := hevents.publishes_own hg hmade hpub
    -- no saga has published an event of a new order
    rw [hfresh] at hg
    cases hg
  | send o hg hp hc => exact h.send hevents hg hp hc
  | arrive i hi hh => exact h.of_same rfl (ops_set hi)
  | serve i hi hp hd => exact h.of_same rfl (ops_set hi)
  | finish i hi hp => exact h.of_same rfl (ops_set hi)
  | execute i hi hd => exact h.of_same rfl (ops_set hi)
  | elsewhere i r hi he => exact h.of_same rfl (ops_set hi)
  | answer o hg hp hc hi => exact h.answered hevents hg hp _
  | giveUp o e hg hp => exact h.answered hevents hg hp _

/-- So it holds in every state of a run. -/
theorem onceInv_runs (hrun : Runs numeric maxRetries State.init s) : OnceInv s := by
  induction hrun with
  | refl => exact onceInv_init
  | tail hrun hstep ih =>
    obtain ⟨ev, -, hev⟩ := hstep
    exact onceInv_step (eventsInv_runs (inv_init numeric) eventsInv_init hrun) ih hev

/-- A call hands over one event. -/
theorem EventsInv.one_event (h : EventsInv s) {c : Call} (hc : c ∈ s.calls) {event event' : OrderEvent}
    (hmem : event ∈ c.op.events) (hmem' : event' ∈ c.op.events) : event = event' := by
  obtain ⟨o, g, -, ⟨row, hop, -⟩ | ⟨err, hop, -⟩⟩ := h.published hc (SagaOp.not_quiet_of_event hmem)
  · rw [hop] at hmem hmem'
    exact (List.mem_singleton.mp hmem).trans (List.mem_singleton.mp hmem').symm
  · rw [hop] at hmem hmem'
    exact (List.mem_singleton.mp hmem).trans (List.mem_singleton.mp hmem').symm

/-- Two events of one order that were handed over are one. -/
theorem OnceInv.unique (h : OnceInv s) (hevents : EventsInv s) {event event' : OrderEvent}
    (hpub : s.Published event) (hpub' : s.Published event') (hid : event.id = event'.id) :
    event = event' := by
  obtain ⟨c, hc, hmem⟩ := hpub
  obtain ⟨c', hc', hmem'⟩ := hpub'
  obtain ⟨i, hi⟩ := List.getElem?_of_mem hc
  obtain ⟨j, hj⟩ := List.getElem?_of_mem hc'
  obtain rfl := h.once i j c c' event.id hi hj ⟨event, hmem, rfl⟩ ⟨event', hmem', hid.symm⟩
  cases hi.symm.trans hj
  exact hevents.one_event hc hmem hmem'

/-- **Every order is published at most once**, over every run of any number of sagas: of all calls
    ever made one at most hands an event of an order to Kafka, whatever is given up, answered late or
    fails; and of two events of one order that were handed over, each is the other. -/
theorem published_once (hrun : Runs numeric maxRetries State.init s) :
    (∀ (i j : Nat) (c c' : Call) (o : String), s.calls[i]? = some c → s.calls[j]? = some c' →
      c.op.Publishes o → c'.op.Publishes o → i = j) ∧
    ∀ event event', s.Published event → s.Published event' → event.id = event'.id →
      event = event' :=
  ⟨(onceInv_runs hrun).once, fun _ _ hpub hpub' hid => (onceInv_runs hrun).unique
    (eventsInv_runs (inv_init numeric) eventsInv_init hrun) hpub hpub' hid⟩

end Once

/-- One pen: both of its publishes fail, and there is no second attempt. -/
theorem published_once_onePen :
    ∃ (s : State) (event : OrderEvent), s.Published event ∧
      ∀ event', s.Published event' → event.id = event'.id → event = event' := by
  obtain ⟨s, hrun, g, row, -, -, hpub⟩ := published_onePen
  obtain ⟨-, hall⟩ := published_once hrun
  exact ⟨s, _, hpub, fun event' hpub' hid => hall _ event' hpub hpub' hid⟩

end Microservices.Order
