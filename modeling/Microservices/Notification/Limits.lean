/-
  A notification whose processing always fails, with the retry limit of the configuration
  (notification-service/src/messaging/consumer.js, notification-service/src/config/index.js).

  The loop goes through the broker: each failure is a copy in the retry queue, each expiry another
  delivery, and the limit is met by the count in `x-death`.  The copy reaches the DLQ exactly if some
  count is not below the limit: at once where it is zero or negative, never where it is `NaN`, and
  never where it is above `2 ^ 53`, since a count that is read as a double stands still there.
-/
import Microservices.Notification.Broker
import Microservices.ParseInt

namespace Microservices.Notification

section Limits

variable (out : Outside) (maxRetries : Whole)

/-- Where a delivery ends, by the frames of its handler. -/
inductive Fate : Type where
  | dlq
  | retry (copy : Copy)
  | unsettled

/-- What frames do with the delivery they are about. -/
def fateOf : List Frame → Fate
  | [.nack _] => .dlq
  | [.publish _ copy, .ack _] => .retry copy
  | _ => .unsettled

/-- The delivery number `n` of a copy, and what its processing throws. -/
structure Failing where
  channel : Nat → Nat
  deliveryTag : Nat → Nat
  err : Nat → JsError

/-- What becomes of delivery number `n`. -/
def fate (failing : Failing) (n : Nat) (copy : Copy) : Fate :=
  fateOf (handled out.decode out.parse out.number out.encodes maxRetries true
    (.error (failing.err n)) ⟨failing.channel n, failing.deliveryTag n, copy⟩).frames

/-- How many deliveries a copy takes into the DLQ, on fuel; `n` of them have been made. -/
def deliveriesToDlq (failing : Failing) : Nat → Nat → Copy → Option Nat
  | 0, _, _ => none
  | fuel + 1, n, copy =>
    match fate out maxRetries failing n copy with
    | .dlq => some (n + 1)
    | .retry copy' => deliveriesToDlq failing fuel (n + 1)
        (copy'.withHeaders (out.expired copy'.properties.headers))
    | .unsettled => none

/-- **A notification that always fails reaches the DLQ** after finitely many deliveries, with any
    broker that counts expiries, the counts being read as doubles. -/
def ReachesDlq : Prop :=
  ∀ (out : Outside) (failing : Failing) (copy : Copy), CountsExpiries increment out.expired →
    copy.properties.headers.xDeath = none →
      ∃ fuel, deliveriesToDlq out maxRetries failing fuel 0 copy ≠ none

variable {out maxRetries} {failing : Failing} {n k : Nat} {copy : Copy}

/-- A delivery that fails, by the count in its headers. -/
theorem fate_eq (hcounted : Counted copy.properties.headers k) :
    fate out maxRetries failing n copy =
      if maxRetries.le (.int k) then .dlq
      else match out.encodes (retried ⟨failing.channel n, failing.deliveryTag n, copy⟩) with
        | some _ => .dlq
        | none => .retry (retried ⟨failing.channel n, failing.deliveryTag n, copy⟩) := by
  -- the channel throws, or parsing has failed before
  obtain ⟨e, hfails⟩ : ∃ e, process (.error (failing.err n))
      (safeParse out.decode out.parse copy.content) = .error e := by
    unfold process
    split
    · exact ⟨_, rfl⟩
    · exact ⟨_, rfl⟩
  unfold fate
  rw [handled_fails hcounted.retryCountOf hfails]
  unfold failedFrames
  by_cases hle : maxRetries.le (.int k) = true
  · rw [if_pos hle, if_pos hle]
    rfl
  · rw [if_neg hle, if_neg hle]
    cases out.encodes (retried ⟨failing.channel n, failing.deliveryTag n, copy⟩) with
    | some err => rfl
    | none => rfl

/-- A copy that is retried comes back counted. -/
theorem counted_retried (hexpired : CountsExpiries increment out.expired)
    (hcounted : Counted copy.properties.headers k) (msg : Delivery) (hmsg : msg.copy = copy) :
    Counted ((retried msg).withHeaders
      (out.expired (retried msg).properties.headers)).properties.headers (increment k) := by
  show Counted (out.expired msg.copy.properties.headers) (increment k)
  rw [hmsg]
  exact hcounted.expired hexpired (increment_of_le (by decide))

/-- Up to the limit a copy has as many deliveries left as its count is below it. -/
theorem reaches_from (hexpired : CountsExpiries increment out.expired) {limit : Int}
    (hlimit : limit ≤ 2 ^ 53) {left : Nat} (hleft : limit ≤ k + left)
    (hcounted : Counted copy.properties.headers k) :
    deliveriesToDlq out (.int limit) failing (left + 1) n copy ≠ none := by
  induction left generalizing n k copy with
  | zero =>
    have hle : (Whole.int limit).le (.int k) = true := decide_eq_true (by omega)
    unfold deliveriesToDlq
    rw [fate_eq hcounted, if_pos hle]
    exact Option.some_ne_none _
  | succ left ih =>
    unfold deliveriesToDlq
    rw [fate_eq hcounted]
    by_cases hle : (Whole.int limit).le (.int k) = true
    · rw [if_pos hle]
      exact Option.some_ne_none _
    · rw [if_neg hle]
      have hbelow : ¬ limit ≤ k := fun h => hle (decide_eq_true h)
      -- below such a limit the count is exact
      have hnext : increment k = k + 1 := increment_of_le (by omega)
      cases out.encodes (retried ⟨failing.channel n, failing.deliveryTag n, copy⟩) with
      | some err => exact Option.some_ne_none _
      | none =>
        have hagain := counted_retried hexpired hcounted
          ⟨failing.channel n, failing.deliveryTag n, copy⟩ rfl
        rw [hnext] at hagain
        exact ih (by omega) hagain

/-- Below every count there is no end. -/
theorem never_from (hexpired : CountsExpiries increment out.expired)
    (hencodes : ∀ copy, out.encodes copy = none)
    (hnever : ∀ k : Nat, k ≤ 2 ^ 53 → maxRetries.le (.int k) = false) (fuel : Nat) (hk : k ≤ 2 ^ 53)
    (hcounted : Counted copy.properties.headers k) :
    deliveriesToDlq out maxRetries failing fuel n copy = none := by
  induction fuel generalizing n k copy with
  | zero => rfl
  | succ fuel ih =>
    unfold deliveriesToDlq
    rw [fate_eq hcounted, hnever k hk, hencodes]
    exact ih (increment_bounded hk) (counted_retried hexpired hcounted _ rfl)

end Limits

/-- The deliveries of an ordinary consumer on one channel. -/
def failingAlways : Failing where
  channel _ := 0
  deliveryTag n := n + 1
  err _ := { message := "Email provider temporary failure" }

/-- A limit that no count reaches. -/
theorem not_reached {limit : Whole} (h : ¬ limit.Reached) (k : Nat) (hk : k ≤ 2 ^ 53) :
    limit.le (.int k) = false := by
  cases limit with
  | nan => rfl
  | infinity => rfl
  | negInfinity => exact absurd (Or.inl rfl) h
  | int n =>
    have hlarge : ¬ n ≤ 2 ^ 53 := fun hle => h (Or.inr ⟨n, rfl, hle⟩)
    exact decide_eq_false (by omega)

/-- **Exactly for which limits it reaches the DLQ.** -/
theorem reachesDlq_iff_reached {limit : Whole} : ReachesDlq limit ↔ limit.Reached := by
  constructor
  · intro hall
    refine Classical.byContradiction fun h => ?_
    obtain ⟨fuel, hfuel⟩ := hall ordinary failingAlways notification countsExpiries_deadLettered rfl
    exact hfuel (never_from countsExpiries_deadLettered (fun _ => rfl) (not_reached h) fuel
      (Nat.zero_le _) (.zero rfl))
  · rintro (rfl | ⟨n, rfl, hle⟩) out failing copy hexpired hheaders
    · refine ⟨1, ?_⟩
      unfold deliveriesToDlq
      rw [fate_eq (.zero hheaders)]
      exact Option.some_ne_none 1
    · exact ⟨n.toNat + 1, reaches_from hexpired hle (by omega) (.zero hheaders)⟩

end Microservices.Notification
