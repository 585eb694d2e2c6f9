/-
  `processMessage` with the retry limit of the configuration
  (analytics-service/src/messaging/consumer.js, analytics-service/src/config/index.js).

  `processMessage` must not reject, or kafkajs redelivers the message and its partition stands still.
  Whatever its handler and the DLQ do, it resolves exactly if the limit is a number of attempts.

  1. **Program**: `configuredMessage`, the same loop with its limit any double and its count a
     double.
  2. **Specification**: `Resolves`: with fuel enough it ends, whatever its requests are answered.
  3. **Crux**: `attempt++` is exact below `2 ^ 53`, so a limit that is counted to is the limit of
     `attempts`; any other one either stops the loop before its first turn or never stops it.
-/
import Microservices.Analytics.Consumer
import Microservices.Lib.RetryLoop
import Microservices.ParseInt

namespace Microservices.Analytics

open Prog (outcome outcome_some outcome_some_ok outcome_tryCatch_ok outcome_tryCatch_error retryLoop
  retryLoop_total retryLoop_endless retryLoop_counted)

section Limits

variable (decode : List UInt8 → String) (parse : String → Except JsError JsValue)

/-- What follows the loop; where there is an error, the limit is a number of attempts. -/
def giveUp (maxRetries : Whole) (message : Message) : Option JsError → AnalyticsM Unit
  | none => throw messageOfUndefined
  | some lastError => sendToDlq decode message lastError.message maxRetries.toNat

/-- The wait after a failed attempt, if there is another one. -/
def waitAfter (maxRetries : Whole) (retryDelayMs attempt : Nat) : AnalyticsM Unit :=
  if (Whole.int attempt).lt maxRetries then request (.sleep (retryDelayMs * attempt)) else pure ()

/-- `processMessage` with the limit that the configuration has read, on fuel. -/
def configuredMessage (maxRetries : Whole) (retryDelayMs : Nat) (message : Message) (fuel : Nat) :
    AnalyticsM (Option Unit) :=
  match parse (message.raw decode) with
  | .error err => some <$> sendToDlq decode message ("Malformed JSON: " ++ err.message) 0
  | .ok event => retryLoop (fun attempt => (Whole.int attempt).le maxRetries) increment
      (handleEvent event) (waitAfter maxRetries retryDelayMs) (giveUp decode maxRetries message)
      fuel 1 none

/-- **`processMessage` resolves**, for every message, whatever its requests are answered; a sleep
    does not fail. -/
def Resolves (maxRetries : Whole) : Prop :=
  ∀ (retryDelayMs : Nat) (message : Message) (S : Type)
    (answers : (op : AnalyticsOp) → S → AnalyticsRes op × S) (s : S),
    (∀ ms s, (answers (.sleep ms) s).1 = .ok ()) →
    ∃ fuel s', outcome answers (configuredMessage decode parse maxRetries retryDelayMs message fuel)
      s = (.ok (some ()), s')

variable {decode parse} {limit : Whole}
variable {S : Type} {answers : (op : AnalyticsOp) → S → AnalyticsRes op × S}

/-- With a limit that is a number of attempts it is `processMessage`, and `n + 1` turns are enough. -/
theorem configuredMessage_int {n : Nat} (hlt : n < 2 ^ 53) (retryDelayMs : Nat) (message : Message)
    (s : S) :
    outcome answers (configuredMessage decode parse (.int n) retryDelayMs message (n + 1)) s =
      ((outcome answers (processMessage decode parse n retryDelayMs message) s).1.map some,
        (outcome answers (processMessage decode parse n retryDelayMs message) s).2) := by
  unfold configuredMessage processMessage
  cases parse (message.raw decode) with
  | error err => exact outcome_some _ s
  | ok event =>
    refine @retryLoop_counted _ _ _ _ _ answers _ _ _ _ _ n
      (attempts decode n retryDelayMs message event) (fun a => ?_)
      (fun a ha => increment_of_le (by omega)) (fun a le => ?_) (fun r a le ha => ?_) n 1 rfl none s
    · -- up to 2 ^ 53 the comparisons of doubles are those of the numbers
      rw [Whole.le_int, decide_eq_true_iff]
    · cases le with
      | none => rfl
      | some e => rfl
    · refine congrArg (tryCatch (handleEvent event)) ?_
      funext err
      unfold waitAfter
      rw [Whole.lt_int a n]
      by_cases hlast : a < n
      · rw [if_pos hlast, if_pos (decide_eq_true hlast)]
      · rw [if_neg hlast, decide_eq_false hlast]
        rfl

/-- A wait. -/
theorem wait_ends (hsleep : ∀ ms s, (answers (.sleep ms) s).1 = .ok ()) (retryDelayMs a : Nat)
    (s : S) : ∃ s', outcome answers (waitAfter limit retryDelayMs a) s = (.ok (), s') := by
  unfold waitAfter
  split
  · exact ⟨_, Prod.ext (hsleep (retryDelayMs * a) s) rfl⟩
  · exact ⟨s, rfl⟩

/-- `sendToDlq` never throws. -/
theorem sendToDlq_ends (message : Message) (error : String) (n : Nat) (s : S) :
    ∃ s', outcome answers (sendToDlq decode message error n) s = (.ok (), s') := by
  have hsend : ∃ r s', outcome answers (request (.send (failedRecord decode message error n))) s =
      (r, s') := ⟨_, _, rfl⟩
  obtain ⟨r, s', hrun⟩ := hsend
  cases r with
  | ok u => exact ⟨s', outcome_tryCatch_ok hrun⟩
  | error e => exact ⟨s', (outcome_tryCatch_error hrun).trans rfl⟩

/-- A limit that the loop can count up to makes every message resolve. -/
theorem resolves_of_countable (h : limit.Countable) : Resolves decode parse limit := by
  intro retryDelayMs message S answers s hsleep
  unfold configuredMessage
  cases parse (message.raw decode) with
  | error err =>
    obtain ⟨s', hrun⟩ := @sendToDlq_ends decode S answers message _ 0 s
    exact ⟨0, s', outcome_some_ok hrun⟩
  | ok event =>
    -- the three parts of the loop all end: the event, the wait, the DLQ
    obtain ⟨n, hpos, hlt, hmore⟩ := h.le
    have hbody : ∀ s, (∃ u s', outcome answers (handleEvent event) s = (.ok u, s') ∧ True) ∨
        ∃ e s', outcome answers (handleEvent event) s = (.error e, s') := by
      intro s
      rcases hrun : outcome answers (handleEvent event) s with ⟨e | u, s'⟩
      · exact Or.inr ⟨e, s', rfl⟩
      · exact Or.inl ⟨u, s', rfl, trivial⟩
    have hafter : ∀ e s, ∃ u s', outcome answers (giveUp decode limit message (some e)) s =
        (.ok u, s') ∧ True := by
      intro e s
      obtain ⟨s', hrun⟩ := @sendToDlq_ends decode S answers message e.message limit.toNat s
      exact ⟨(), s', hrun, trivial⟩
    obtain ⟨fuel, u, s', hrun, -⟩ := retryLoop_total hmore (fun a ha => increment_of_le (by omega))
      hbody (wait_ends hsleep retryDelayMs) hafter (Or.inl hpos)
    exact ⟨fuel, s', hrun⟩

variable (decode limit) in
/-- A message that says `null` fails every attempt.  With any other limit its `processMessage`
    rejects, or it does not end. -/
theorem nullMessage_of_not_countable {text : List UInt8} (hnull : parse (decode text) = .ok .null)
    (h : ¬ limit.Countable) (hsleep : ∀ ms s, (answers (.sleep ms) s).1 = .ok ())
    (retryDelayMs fuel : Nat) (s : S) :
    (outcome answers (configuredMessage decode parse limit retryDelayMs ⟨none, some text, "0", 0⟩
      fuel) s).1 = .ok none ∨
    (outcome answers (configuredMessage decode parse limit retryDelayMs ⟨none, some text, "0", 0⟩
      fuel) s).1 = .error messageOfUndefined := by
  unfold configuredMessage
  rw [show parse (Message.raw decode ⟨none, some text, "0", 0⟩) = .ok .null from hnull]
  simp only
  -- no attempt at all, or no last one
  rcases Whole.not_countable h with hstop | hgo
  · cases fuel with
    | zero => exact Or.inl rfl
    | succ fuel => exact Or.inr (congrArg Prod.fst (Prog.retryLoop_unstarted hstop))
  · left
    have hendless : ∃ s', outcome answers (retryLoop (fun a => (Whole.int a).le limit) increment
        (handleEvent .null) (waitAfter limit retryDelayMs)
        (giveUp decode limit ⟨none, some text, "0", 0⟩) fuel 1 none) s = (.ok none, s') :=
      retryLoop_endless (fun a => a ≤ 2 ^ 53) hgo (fun a ha => increment_bounded ha)
        (fun s => ⟨_, s, rfl⟩) (wait_ends hsleep retryDelayMs) (by decide) fuel none s
    obtain ⟨s', hrun⟩ := hendless
    rw [hrun]

/-- Whatever is requested succeeds. -/
def succeeding : (op : AnalyticsOp) → Unit → AnalyticsRes op × Unit
  | .insert _, s => (.ok (), s)
  | .getSummary, s => (.ok ⟨0, 0, 0, .hundredths 0⟩, s)
  | .getTopProducts _, s => (.ok [], s)
  | .send _, s => (.ok (), s)
  | .sleep _, s => (.ok (), s)

/-- **Exactly for which limits `processMessage` resolves.** -/
theorem resolves_iff_countable {text : List UInt8} (hnull : parse (decode text) = .ok .null) :
    Resolves decode parse limit ↔ limit.Countable := by
  constructor
  · intro hall
    refine Classical.byContradiction fun h => ?_
    obtain ⟨fuel, s', hrun⟩ := hall 1000 ⟨none, some text, "0", 0⟩ Unit succeeding ()
      fun ms s => rfl
    have hsleep : ∀ ms s, (succeeding (.sleep ms) s).1 = .ok () := fun ms s => rfl
    -- the null message, with every wait and every publish succeeding, is a case where it does not
    rcases nullMessage_of_not_countable decode limit hnull h hsleep 1000 fuel () with
      hnone | hthrow
    · rw [hrun] at hnone
      cases hnone
    · rw [hrun] at hthrow
      cases hthrow
  · exact resolves_of_countable

end Limits

end Microservices.Analytics
