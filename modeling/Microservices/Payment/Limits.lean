/-
  `processPayment` with the retry limit of the configuration
  (payment-service/src/services/payment.service.js, payment-service/src/config/index.js).

  With a limit that is a number of attempts the loop is the one of `attempts`.  With none, zero or a
  negative one the loop is not entered, and what follows it reads a property of `undefined`; with one
  that `attempt++` never passes the loop goes on for as long as the gateway declines.

  1. **Program**: `configuredPayment`, with fuel, since it need not end.
  2. **Specification**: `ReturnsRow`: with fuel enough, a row that is stored.
  3. **Crux**: `returnsRow_iff_countable`: the loop that ends does so at the first charge that is
     accepted, or after the last that is declined; the database takes every statement meanwhile.
-/
import Microservices.Lib.RetryLoop
import Microservices.ParseInt
import Microservices.Payment.Ledger

namespace Microservices.Payment

open Prog (outcome retryLoop retryLoop_total retryLoop_unstarted retryLoop_endless)

/-! ## The loop as configured -/

/-- What follows the loop. -/
def recordFailure (req : PaymentRequest) : Option JsError → Pay PaymentRow
  | none => throw messageOfUndefined
  | some lastError => pay (.create (failedPayment req lastError))

/-- The wait after a failed attempt, if there is another one. -/
def waitAfter (maxRetries : Whole) (attempt : Nat) : Pay Unit :=
  if (Whole.int attempt).lt maxRetries then pay (.sleep (backoff attempt)) else pure ()

/-- `processPayment` with the limit that the configuration has read, on fuel. -/
def configuredPayment (maxRetries : Whole) (req : PaymentRequest) (fuel : Nat) :
    Pay (Option PaymentRow) :=
  retryLoop (fun attempt => (Whole.int attempt).le maxRetries) increment (chargeAndRecord req)
    (waitAfter maxRetries) (recordFailure req) fuel 1 none

/-- The database takes every statement. -/
def Env.Available (env : Env) : Prop := (∀ n, env.txn n = .done) ∧ env.createOut = .done

/-- What other calls commit before request number `n`. -/
def World.among (others : Nat → Db → Db) (n : Nat) (w : World) : World :=
  { w with db := others n w.db }

/-- A call among others, to its end. -/
def amid {α : Type} (numeric : Float → Option Numeric) (env : Env) (others : Nat → Db → Db)
    (p : Pay α) (w : Nat × World) : Except JsError α × Nat × World :=
  outcome (Prog.interfered (answer numeric env) (World.among others)) p w

/-- **Each call returns a stored row**, while the database is available, whatever the gateway answers
    and other calls commit. -/
def ReturnsRow (maxRetries : Whole) : Prop :=
  ∀ (numeric : Float → Option Numeric) (env : Env) (others : Nat → Db → Db) (req : PaymentRequest)
    (d : Db), env.Available → numeric req.amount ≠ none →
    ∃ fuel row w, amid numeric env others (configuredPayment maxRetries req fuel)
      (0, World.start d) = (.ok (some row), w) ∧ row ∈ w.2.db.payments

/-! ## An attempt, a wait, the end -/

section Attempt

variable {numeric : Float → Option Numeric} {env : Env} {others : Nat → Db → Db}
variable {req : PaymentRequest}

/-- A charge is stored. -/
theorem answer_charged (henv : env.Available) {p : ChargedPayment} (hamount : numeric p.amount ≠ none)
    (w : World) : ∃ row b d, answer numeric env (.createChargedPayment p) w =
      (.ok (row, b), w.stored d) ∧ row ∈ d.payments := by
  obtain ⟨row, b, d, hcharge⟩ := @createChargedPayment_stored numeric (env.gen w.txns)
    (env.now w.txns) w.db p hamount
  have hrow : row ∈ d.payments := by
    rw [(createChargedPayment_spec hcharge).1]
    exact List.mem_append_right _ List.mem_cons_self
  exact ⟨row, b, d, answer_stored (henv.1 w.txns) hcharge, hrow⟩

/-- So is a failure. -/
theorem answer_failed (henv : env.Available) {p : NewPayment} (hamount : numeric p.amount ≠ none)
    (w : World) : ∃ row d, answer numeric env (.create p) w = (.ok row, { w with db := d }) ∧
      row ∈ d.payments := by
  obtain ⟨row, d, hcreate⟩ := @create_stored numeric env.createGen w.db p hamount
  have hrow : row ∈ d.payments := by
    rw [(create_spec hcreate).1]
    exact List.mem_append_right _ List.mem_cons_self
  exact ⟨row, d, answer_created henv.2 hcreate, hrow⟩

/-- What the gateway answers. -/
theorem answer_gateway (n : Nat) (w : World) :
    answer numeric env (.charge req.orderId req.amount) (w.among others n) =
      (gatewayCharge (env.gateway w.charges),
        (w.among others n).charged (env.gateway w.charges)) := rfl

/-- A declined attempt throws. -/
theorem attempt_declined {w : Nat × World} (h : env.gateway w.2.charges = .declined) :
    ∃ e w', amid numeric env others (chargeAndRecord req) w = (.error e, w') := by
  obtain ⟨n, w⟩ := w
  have hanswer := @answer_gateway numeric env others req n w
  rw [h] at hanswer
  exact ⟨_, _, Prog.run_interfered _ hanswer⟩

/-- An attempt on an available database returns its row, or throws. -/
theorem attempt_ends (henv : env.Available) (hamount : numeric req.amount ≠ none)
    (w : Nat × World) :
    (∃ row w', amid numeric env others (chargeAndRecord req) w = (.ok row, w') ∧
      row ∈ w'.2.db.payments) ∨
    ∃ e w', amid numeric env others (chargeAndRecord req) w = (.error e, w') := by
  -- a declined charge fails the attempt; an accepted one is stored, the database being there
  cases hgateway : env.gateway w.2.charges with
  | declined => exact Or.inr (attempt_declined hgateway)
  | accepted now suffix =>
    obtain ⟨n, w⟩ := w
    have hanswer := @answer_gateway numeric env others req n w
    rw [hgateway] at hanswer
    obtain ⟨row, b, d, hstore, hrow⟩ := @answer_charged numeric env henv
      (chargedPayment req (transactionIdOf now suffix)) hamount
      (((w.among others n).charged (.accepted now suffix)).among others (n + 1))
    exact Or.inl ⟨row, _, (Prog.run_interfered _ hanswer).trans (Prog.run_interfered _ hstore), hrow⟩

/-- A wait. -/
theorem wait_ends (maxRetries : Whole) (attempt : Nat) (w : Nat × World) :
    ∃ w', amid numeric env others (waitAfter maxRetries attempt) w = (.ok (), w') := by
  unfold waitAfter
  split
  · exact ⟨_, rfl⟩
  · exact ⟨_, rfl⟩

/-- The FAILED row is stored and returned. -/
theorem recordFailure_ends (henv : env.Available) (hamount : numeric req.amount ≠ none)
    (err : JsError) (w : Nat × World) :
    ∃ row w', amid numeric env others (recordFailure req (some err)) w = (.ok row, w') ∧
      row ∈ w'.2.db.payments := by
  obtain ⟨n, w⟩ := w
  obtain ⟨row, d, hanswer, hrow⟩ := @answer_failed numeric env henv (failedPayment req err) hamount
    (w.among others n)
  exact ⟨row, _, Prog.run_interfered _ hanswer, hrow⟩

end Attempt

/-! ## For which limits -/

section Limits

variable {limit : Whole}

/-- With a limit that is a number of attempts it is `processPayment`, and `n + 1` turns are enough. -/
theorem configuredPayment_int {numeric : Float → Option Numeric} {env : Env}
    {others : Nat → Db → Db} {req : PaymentRequest} {n : Nat} (hlt : n < 2 ^ 53)
    (w : Nat × World) :
    amid numeric env others (configuredPayment (.int n) req (n + 1)) w =
      ((amid numeric env others (processPayment n req) w).1.map some,
        (amid numeric env others (processPayment n req) w).2) := by
  -- below 2 ^ 53 the loop over doubles counts as the one over numbers
  refine @Prog.retryLoop_counted _ _ _ _ _ _ _ _ _ _ _ n (attempts n req) (fun a => ?_)
    (fun a ha => increment_of_le (by omega)) (fun a le => ?_) (fun r a le ha => ?_) n 1 rfl none w
  · rw [Whole.le_int, decide_eq_true_iff]
  · cases le with
    | none => rfl
    | some e => rfl
  · refine congrArg (tryCatch (chargeAndRecord req)) ?_
    funext err
    unfold waitAfter
    rw [Whole.lt_int a n]
    by_cases hlast : a < n
    · rw [if_pos hlast, if_pos (decide_eq_true hlast)]
    · rw [if_neg hlast, decide_eq_false hlast]
      rfl

/-- A limit that the loop can count up to makes every payment return a row. -/
theorem returnsRow_of_countable (h : limit.Countable) : ReturnsRow limit := by
  intro numeric env others req d henv hamount
  obtain ⟨n, hpos, hlt, hmore⟩ := h.le
  have hnext : ∀ a, a ≤ n → increment a = a + 1 := fun a ha => increment_of_le (by omega)
  exact retryLoop_total hmore hnext (attempt_ends henv hamount) (wait_ends limit)
    (recordFailure_ends henv hamount) (Or.inl hpos)

/-- A gateway that declines every charge, and a database that is available. -/
def declining : Env where
  gateway _ := .declined
  txn _ := .done
  gen _ := ⟨"pay1", 8⟩
  now _ := 8
  createOut := .done
  createGen := ⟨"pay1", 8⟩

/-- The call against it, with nobody else around. -/
def declinedPayment (maxRetries : Whole) (fuel : Nat) :
    Except JsError (Option PaymentRow) × Nat × World :=
  amid (fun _ => some (.hundredths 1000)) declining (fun _ d => d)
    (configuredPayment maxRetries tenUnits fuel) (0, World.start Db.empty)

/-- **With any other limit no row is returned** when the gateway declines: the call throws, or it
    does not end. -/
theorem declinedPayment_of_not_countable (h : ¬ limit.Countable) (fuel : Nat) :
    (declinedPayment limit fuel).1 = .ok none ∨
      (declinedPayment limit fuel).1 = .error messageOfUndefined := by
  rcases Whole.not_countable h with hstop | hgo
  · cases fuel with
    | zero => exact Or.inl rfl
    | succ fuel => exact Or.inr (congrArg Prod.fst (Prog.retryLoop_unstarted hstop))
  · -- the loop goes on for ever, a declined charge failing each attempt
    left
    have hendless : ∃ w, declinedPayment limit fuel = (.ok none, w) :=
      retryLoop_endless (fun a => a ≤ 2 ^ 53) hgo (fun a ha => increment_bounded ha)
        (fun w => attempt_declined rfl) (wait_ends limit) (by decide) fuel none _
    obtain ⟨w, hrun⟩ := hendless
    rw [hrun]

/-- **Exactly for which limits each call returns a stored row.** -/
theorem returnsRow_iff_countable : ReturnsRow limit ↔ limit.Countable := by
  constructor
  · intro hall
    by_contra h
    obtain ⟨fuel, row, w, hrun, -⟩ := hall (fun _ => some (.hundredths 1000)) declining
      (fun _ d => d) tenUnits Db.empty ⟨fun _ => rfl, rfl⟩ (Option.some_ne_none _)
    have hok : (declinedPayment limit fuel).1 = .ok (some row) := congrArg Prod.fst hrun
    rcases declinedPayment_of_not_countable h fuel with hnone | hthrow
    · cases hok.symm.trans hnone
    · cases hok.symm.trans hthrow
  · exact returnsRow_of_countable

end Limits

end Microservices.Payment
