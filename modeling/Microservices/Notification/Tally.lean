/-
  The life of one notification, as numbers.

  A message that is published is at one place at a time: ready, with a handler, on its way to the
  retry queue, waiting there, on its way to the DLQ, there, or done.  A tally counts what there is
  at each place, and what has happened: how many runs have failed, how many have succeeded, and how
  often the message went through the retry queue.

  `Tally.Step` is what may happen to it.  `Tally.Ok` is what then holds: one place, and a number of
  failed runs that the place and the trips decide.
-/
import Mathlib.Logic.Relation

namespace Microservices.Notification

/-- What there is of one message. -/
@[ext]
structure Tally where
  ready : Nat
  running : Nat
  publishing : Nat
  waiting : Nat
  rejecting : Nat
  dead : Nat
  acking : Nat
  unacked : Nat
  failed : Nat
  succeeded : Nat
  trips : Nat
  deriving DecidableEq

namespace Tally

/-- A message that has not been published. -/
def zero : Tally := ⟨0, 0, 0, 0, 0, 0, 0, 0, 0, 0, 0⟩

/-- A message that has just been published. -/
def one : Tally := { zero with ready := 1 }

/-- The copies in the three queues; what is not acked is in the main queue. -/
def copies (t : Tally) : Nat := t.ready + t.unacked + t.waiting + t.dead

/-- The runs of the handler, with those that are not over. -/
def runs (t : Tally) : Nat := t.failed + t.succeeded + t.running

/-- What may happen to a message, with at most `n` retries. -/
inductive Step (n : Nat) : Tally → Tally → Prop where
  | deliver (t : Tally) :
      Step n { t with ready := t.ready + 1 }
        { t with running := t.running + 1, unacked := t.unacked + 1 }
  | succeed (t : Tally) :
      Step n { t with running := t.running + 1 }
        { t with acking := t.acking + 1, succeeded := t.succeeded + 1 }
  | giveUp (t : Tally) (h : n ≤ t.trips) :
      Step n { t with running := t.running + 1 }
        { t with rejecting := t.rejecting + 1, failed := t.failed + 1 }
  | retry (t : Tally) (h : t.trips < n) :
      Step n { t with running := t.running + 1 }
        { t with publishing := t.publishing + 1, acking := t.acking + 1, failed := t.failed + 1 }
  | copied (t : Tally) :
      Step n { t with publishing := t.publishing + 1 } { t with waiting := t.waiting + 1 }
  | acked (t : Tally) :
      Step n { t with acking := t.acking + 1, unacked := t.unacked + 1 } t
  | rejected (t : Tally) :
      Step n { t with rejecting := t.rejecting + 1, unacked := t.unacked + 1 }
        { t with dead := t.dead + 1 }
  | expire (t : Tally) :
      Step n { t with waiting := t.waiting + 1 }
        { t with ready := t.ready + 1, trips := t.trips + 1 }

/-- What holds of a published message all its life. -/
structure Ok (n : Nat) (t : Tally) : Prop where
  place : t.ready + t.running + t.publishing + t.waiting + t.rejecting + t.dead + t.succeeded = 1
  unacked : t.unacked = t.running + t.rejecting + t.acking
  early : 0 < t.ready + t.running → t.failed = t.trips ∧ t.trips ≤ n
  late : 0 < t.publishing + t.waiting → t.failed = t.trips + 1 ∧ t.trips < n
  rejected : 0 < t.rejecting + t.dead → t.failed = n + 1
  done : 0 < t.succeeded → t.failed ≤ n

variable {n : Nat} {t t' : Tally}

/-- A message that has just been published is in bounds. -/
theorem Ok.one : Ok n one := by
  constructor <;> simp [Tally.one, zero]

/-- **Every step of a tally keeps it in bounds.** -/
theorem Ok.step (h : Ok n t) (hstep : Step n t t') : Ok n t' := by
  obtain ⟨hplace, hunacked, hearly, hlate, hrejected, hdone⟩ := h
  cases hstep <;> constructor <;> simp only at * <;> omega

/-- One copy at most, and deliveries whose ack is under way. -/
theorem Ok.copies_le (h : Ok n t) : t.copies ≤ 1 + t.acking := by
  obtain ⟨hplace, hunacked, -⟩ := h
  unfold copies
  omega

/-- One run more than retries at most. -/
theorem Ok.runs_le (h : Ok n t) : t.runs ≤ n + 1 := by
  obtain ⟨hplace, -, hearly, hlate, hrejected, hdone⟩ := h
  unfold runs
  omega

/-- Where a message is when no frame of it is under way: in the main or the retry queue with retries
    left, in the DLQ after `n + 1` failed runs, or nowhere after a run that succeeded. -/
def Settled (n : Nat) (t : Tally) : Prop :=
  (t.ready + t.unacked + t.waiting = 1 ∧ t.dead = 0 ∧ t.succeeded = 0 ∧ t.failed ≤ n) ∨
    (t.ready + t.unacked + t.waiting = 0 ∧ t.dead = 1 ∧ t.succeeded = 0 ∧ t.failed = n + 1) ∨
    (t.ready + t.unacked + t.waiting = 0 ∧ t.dead = 0 ∧ t.succeeded = 1 ∧ t.failed ≤ n)

/-- With nothing on its way the message is settled. -/
theorem Ok.settled (h : Ok n t) (hpublishing : t.publishing = 0) (hrejecting : t.rejecting = 0)
    (hacking : t.acking = 0) : t.Settled n := by
  obtain ⟨hplace, hunacked, hearly, hlate, hrejected, hdone⟩ := h
  unfold Settled
  omega

end Tally

end Microservices.Notification
