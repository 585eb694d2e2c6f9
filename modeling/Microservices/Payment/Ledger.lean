/-
  One `processPayment` call, alone: the payments table against the money the gateway took.

  The retry loop wraps two effects with different failure meanings.  A declined charge took
  nothing and may be tried again.  A charge that was accepted and then could not be recorded is
  tried again too: the gateway is asked a second time, or the loop ends with a FAILED row for an
  order that was charged.

  `agrees_iff` is the exact condition under which neither happens.
-/
import Mathlib.Data.List.Basic
import Microservices.Payment.Service

namespace Microservices.Payment

/-! ## Running a service function alone -/

/-- Everything the call meets: the gateway's outcome at each charge, how each
    `createChargedPayment` and the last `create` end, and what the server generates for them. -/
structure Env where
  gateway : Nat → GatewayOutcome
  txn : Nat → DbOutcome
  gen : Nat → Gen
  now : Nat → Nat
  createOut : DbOutcome
  createGen : Gen

/-- The tables, and what the call has done outside them. -/
structure World where
  db : Db
  charges : Nat
  accepted : List String
  txns : Nat
  waited : Nat

/-- The tables `d` before the call has done anything. -/
def World.start (d : Db) : World := ⟨d, 0, [], 0, 0⟩

/-- The gateway has been asked once more. -/
def World.charged (w : World) (out : GatewayOutcome) : World :=
  { w with
    charges := w.charges + 1
    accepted := match out with
      | .declined => w.accepted
      | .accepted now suffix => w.accepted ++ [transactionIdOf now suffix] }

/-- One `createChargedPayment` has ended. -/
def World.stored (w : World) (d : Db) : World := { w with db := d, txns := w.txns + 1 }

/-- The backoff between two attempts; none after the last. -/
def World.slept (w : World) (maxRetries attempt : Nat) : World :=
  if attempt < maxRetries then { w with waited := w.waited + timerDelay (backoff attempt) } else w

section Slept

variable (w : World) (maxRetries attempt : Nat)

/-- A wait leaves the tables. -/
@[simp] theorem slept_db : (w.slept maxRetries attempt).db = w.db := by
  unfold World.slept; split <;> rfl

/-- A wait charges nothing. -/
@[simp] theorem slept_charges : (w.slept maxRetries attempt).charges = w.charges := by
  unfold World.slept; split <;> rfl

/-- Nothing is accepted in a wait. -/
@[simp] theorem slept_accepted : (w.slept maxRetries attempt).accepted = w.accepted := by
  unfold World.slept; split <;> rfl

/-- No transaction runs in it. -/
@[simp] theorem slept_txns : (w.slept maxRetries attempt).txns = w.txns := by
  unfold World.slept; split <;> rfl

end Slept

section Answer

variable (numeric : Float → Option Numeric) (env : Env)

/-- How the surroundings answer each request. -/
def answer : (o : PayOp) → World → PayRes o × World
  | .charge _ _, w => (gatewayCharge (env.gateway w.charges), w.charged (env.gateway w.charges))
  | .createChargedPayment p, w =>
    let out := settle (w.db.createChargedPayment numeric (env.gen w.txns) (env.now w.txns) p)
      (env.txn w.txns) w.db
    (out.1, w.stored out.2)
  | .create p, w =>
    let out := settle (w.db.create numeric env.createGen p) env.createOut w.db
    (out.1, { w with db := out.2 })
  | .requestRefundByOrderId o, w =>
    let out := w.db.requestRefundByOrderId env.createGen o
    (.ok out.1, { w with db := out.2 })
  | .findByOrderId o, w => (.ok (w.db.findByOrderId o), w)
  | .findById id, w => (.ok (w.db.payments.find? fun row => decide (row.id = id)), w)
  | .markRefunded id, w =>
    let out := w.db.markRefunded env.createGen id
    (.ok out.1, { w with db := out.2 })
  | .sleep ms, w => (.ok (), { w with waited := w.waited + timerDelay ms })

/-- A charge that is stored is reported as stored while the database is available. -/
theorem answer_stored {numeric : Float → Option Numeric} {env : Env} {w : World} {d' : Db}
    {p : ChargedPayment} {res : PaymentRow × Bool} (hdone : env.txn w.txns = .done)
    (h : w.db.createChargedPayment numeric (env.gen w.txns) (env.now w.txns) p = .ok (res, d')) :
    answer numeric env (.createChargedPayment p) w = (.ok res, w.stored d') := by
  show ((settle (w.db.createChargedPayment numeric (env.gen w.txns) (env.now w.txns) p)
    (env.txn w.txns) w.db).1, w.stored (settle (w.db.createChargedPayment numeric
      (env.gen w.txns) (env.now w.txns) p) (env.txn w.txns) w.db).2) = _
  rw [h, hdone]
  rfl

/-- So is a failure. -/
theorem answer_created {numeric : Float → Option Numeric} {env : Env} {w : World} {d' : Db}
    {p : NewPayment} {row : PaymentRow} (hdone : env.createOut = .done)
    (h : w.db.create numeric env.createGen p = .ok (row, d')) :
    answer numeric env (.create p) w = (.ok row, { w with db := d' }) := by
  show ((settle (w.db.create numeric env.createGen p) env.createOut w.db).1,
    { w with db := (settle (w.db.create numeric env.createGen p) env.createOut w.db).2 }) = _
  rw [h, hdone]
  rfl

/-- A service function run to its end with nobody else around. -/
def alone {α : Type} (p : Pay α) (w : World) : Except JsError α × World :=
  Prog.run (answer numeric env) p.run w

end Answer

/-! ## One attempt of the retry loop -/

section Attempt

variable {numeric : Float → Option Numeric} {env : Env}
variable {maxRetries attempt remaining : Nat} {req : PaymentRequest} {le : Option JsError}
variable {w : World}

/-- What the loop passes to `createChargedPayment`. -/
def chargedPayment (req : PaymentRequest) (transactionId : String) : ChargedPayment where
  orderId := req.orderId
  userId := req.userId
  amount := req.amount
  method := req.method
  transactionId := transactionId

/-- What the call passes to `create` after the last attempt. -/
def failedPayment (req : PaymentRequest) (lastError : JsError) : NewPayment where
  orderId := req.orderId
  userId := req.userId
  amount := req.amount
  method := req.method
  status := .failed
  transactionId := none
  error := some lastError.message

/-- Between two attempts there is a wait, and nothing else. -/
theorem alone_retry (err : JsError) :
    alone numeric env (do
      if attempt < maxRetries then
        pay (.sleep (backoff attempt))
      attempts maxRetries req remaining (attempt + 1) (some err)) w =
    alone numeric env (attempts maxRetries req remaining (attempt + 1) (some err))
      (w.slept maxRetries attempt) := by
  unfold World.slept
  split <;> rfl

/-- A declined charge: on to the next attempt. -/
theorem alone_declined (h : env.gateway w.charges = .declined) :
    alone numeric env (attempts maxRetries req (remaining + 1) attempt le) w =
      alone numeric env (attempts maxRetries req remaining (attempt + 1)
        (some { message := "Payment gateway timeout or declined" }))
        ((w.charged .declined).slept maxRetries attempt) := by
  rw [← alone_retry]
  unfold alone
  show Prog.run _ (Prog.await (PayOp.charge _ _) _) w = _
  rw [Prog.run_await]
  simp only [answer, h, gatewayCharge]
  rfl

/-- An accepted charge: the loop ends if its row is reported as stored, and asks the gateway again
    if it is not. -/
theorem alone_accepted {now : Nat} {suffix : String}
    (h : env.gateway w.charges = .accepted now suffix) :
    alone numeric env (attempts maxRetries req (remaining + 1) attempt le) w =
      match settle (w.db.createChargedPayment numeric (env.gen w.txns) (env.now w.txns)
        (chargedPayment req (transactionIdOf now suffix))) (env.txn w.txns) w.db with
      | (.ok stored, d) => (.ok stored.1, (w.charged (.accepted now suffix)).stored d)
      | (.error e, d) =>
        alone numeric env (attempts maxRetries req remaining (attempt + 1) (some e))
          (((w.charged (.accepted now suffix)).stored d).slept maxRetries attempt) := by
  have hcharge : alone numeric env (attempts maxRetries req (remaining + 1) attempt le) w =
      Prog.run (answer numeric env) (Prog.await
        (PayOp.createChargedPayment (chargedPayment req (transactionIdOf now suffix))) fun
          | .ok stored => pure (.ok stored.1)
          | .error err => (do
              if attempt < maxRetries then
                pay (.sleep (backoff attempt))
              attempts maxRetries req remaining (attempt + 1) (some err) : Pay PaymentRow).run)
        (w.charged (.accepted now suffix)) := by
    unfold alone
    show Prog.run _ (Prog.await (PayOp.charge _ _) _) w = _
    rw [Prog.run_await]
    simp only [answer, h, gatewayCharge]
    show Prog.run _ (Prog.await (PayOp.createChargedPayment _) _) _ = _
    congr 2
    funext r
    cases r <;> rfl
  rw [hcharge, Prog.run_await]
  have hanswer : answer numeric env (.createChargedPayment
      (chargedPayment req (transactionIdOf now suffix))) (w.charged (.accepted now suffix)) =
      ((settle (w.db.createChargedPayment numeric (env.gen w.txns) (env.now w.txns)
        (chargedPayment req (transactionIdOf now suffix))) (env.txn w.txns) w.db).1,
        (w.charged (.accepted now suffix)).stored
          (settle (w.db.createChargedPayment numeric (env.gen w.txns) (env.now w.txns)
            (chargedPayment req (transactionIdOf now suffix))) (env.txn w.txns) w.db).2) := rfl
  rw [hanswer]
  generalize settle _ _ w.db = res
  obtain ⟨r, d⟩ := res
  cases r with
  | ok stored => rfl
  | error e => exact alone_retry e

/-- An accepted charge whose row is stored: the loop ends. -/
theorem alone_recorded {now : Nat} {suffix : String} {row : PaymentRow} {b : Bool} {d : Db}
    (h : env.gateway w.charges = .accepted now suffix)
    (hs : settle (w.db.createChargedPayment numeric (env.gen w.txns) (env.now w.txns)
      (chargedPayment req (transactionIdOf now suffix))) (env.txn w.txns) w.db =
        (.ok (row, b), d)) :
    alone numeric env (attempts maxRetries req (remaining + 1) attempt le) w =
      (.ok row, (w.charged (.accepted now suffix)).stored d) := by
  rw [alone_accepted h, hs]

/-- An accepted charge whose row is not reported as stored: the gateway is asked again. -/
theorem alone_lost {now : Nat} {suffix : String} {e : JsError} {d : Db}
    (h : env.gateway w.charges = .accepted now suffix)
    (hs : settle (w.db.createChargedPayment numeric (env.gen w.txns) (env.now w.txns)
      (chargedPayment req (transactionIdOf now suffix))) (env.txn w.txns) w.db =
        (.error e, d)) :
    alone numeric env (attempts maxRetries req (remaining + 1) attempt le) w =
      alone numeric env (attempts maxRetries req remaining (attempt + 1) (some e))
        (((w.charged (.accepted now suffix)).stored d).slept maxRetries attempt) := by
  rw [alone_accepted h, hs]

/-- After the last attempt: the FAILED row. -/
theorem alone_create (e : JsError) :
    alone numeric env (attempts maxRetries req 0 attempt (some e)) w =
      ((settle (w.db.create numeric env.createGen (failedPayment req e)) env.createOut w.db).1,
        { w with
          db := (settle (w.db.create numeric env.createGen (failedPayment req e)) env.createOut
            w.db).2 }) :=
  rfl

/-- How `createChargedPayment` ends: its row is stored and reported, or an error is reported, and
    then the row is in the tables or not. -/
theorem settle_charged (g : Gen) (now : Nat) (p : ChargedPayment) (out : DbOutcome) (d : Db) :
    (∃ row b, settle (d.createChargedPayment numeric g now p) out d =
        (.ok (row, b), { d with payments := d.payments ++ [row] }) ∧
      row.transactionId = orNull p.transactionId ∧
      (row.status = .success ∨ row.status = .refunded) ∧
      (∃ amount, numeric p.amount = some amount) ∧ out = .done) ∨
    (∃ e d', settle (d.createChargedPayment numeric g now p) out d = (.error e, d') ∧
      (d'.payments = d.payments ∨ ∃ row, d'.payments = d.payments ++ [row]) ∧
      ¬ ((∃ amount, numeric p.amount = some amount) ∧ out = .done)) := by
  cases hc : d.createChargedPayment numeric g now p with
  | error e =>
    refine Or.inr ⟨e, d, rfl, Or.inl rfl, ?_⟩
    rintro ⟨⟨amount, hamount⟩, -⟩
    -- the column takes the amount, so the transaction would not have failed
    obtain ⟨row, b, d', hok⟩ := @createChargedPayment_stored numeric g now d p
      (hamount ▸ Option.some_ne_none amount)
    cases hok.symm.trans hc
  | ok res =>
    obtain ⟨⟨row, b⟩, d'⟩ := res
    obtain ⟨rfl, -, -, hamount, htx, hstatus⟩ := createChargedPayment_spec hc
    cases out with
    | done =>
      refine Or.inl ⟨row, b, rfl, htx, ?_, ⟨row.amount, hamount⟩, rfl⟩
      rcases hstatus with ⟨hs, -⟩ | ⟨hs, -⟩
      · exact Or.inr hs
      · exact Or.inl hs
    | rejected e committed =>
      -- an answer that is lost may have been committed
      cases committed with
      | true => exact Or.inr ⟨e, _, rfl, Or.inr ⟨row, rfl⟩, fun h => nomatch h.2⟩
      | false => exact Or.inr ⟨e, d, rfl, Or.inl rfl, fun h => nomatch h.2⟩

/-- The last `INSERT` fails: the amount does not fit, or the call is rejected. -/
def CreateFails (numeric : Float → Option Numeric) (env : Env) (req : PaymentRequest) : Prop :=
  numeric req.amount = none ∨ env.createOut ≠ .done

/-- The FAILED insert either stores its row or fails. -/
theorem settle_create (env : Env) (req : PaymentRequest) (g : Gen) (e : JsError) (d : Db) :
    (∃ row, settle (d.create numeric g (failedPayment req e)) env.createOut d =
        (.ok row, { d with payments := d.payments ++ [row] }) ∧
      row.transactionId = none ∧ ¬ CreateFails numeric env req) ∨
    (∃ e' d', settle (d.create numeric g (failedPayment req e)) env.createOut d = (.error e', d') ∧
      CreateFails numeric env req) := by
  cases hamount : numeric req.amount with
  | none =>
    refine Or.inr ⟨numericOverflow, d, ?_, Or.inl hamount⟩
    rw [@create_rejected numeric g d (failedPayment req e) hamount]
    rfl
  | some amount =>
    unfold Db.create
    simp only [failedPayment, hamount]
    cases hout : env.createOut with
    | done =>
      refine Or.inl ⟨_, rfl, rfl, ?_⟩
      rintro (h | h)
      · rw [hamount] at h
        cases h
      · exact h hout
    | rejected e' committed =>
      -- the answer is lost, whether the row was stored or not
      have hf : CreateFails numeric env req := by
        right
        rw [hout]
        exact nofun
      cases committed with
      | true => exact Or.inr ⟨e', _, rfl, hf⟩
      | false => exact Or.inr ⟨e', _, rfl, hf⟩

end Attempt

/-! ## After a charge that was accepted and not reported as stored -/

section Lost

variable (numeric : Float → Option Numeric) (env : Env)
variable (maxRetries : Nat) (req : PaymentRequest)

/-- What the gateway accepted stays accepted. -/
theorem accepted_mono (remaining : Nat) : ∀ (attempt : Nat) (le : Option JsError) (w : World),
    w.accepted.length ≤
      (alone numeric env (attempts maxRetries req remaining attempt le) w).2.accepted.length := by
  induction remaining with
  | zero =>
    intro attempt le w
    cases le with
    | none => exact Nat.le_refl _
    | some e => exact Nat.le_refl _
  | succ n ih =>
    intro attempt le w
    cases hg : env.gateway w.charges with
    | declined =>
      rw [alone_declined hg]
      refine Nat.le_trans ?_ (ih _ _ _)
      rw [slept_accepted]
      exact Nat.le_refl _
    | accepted now suffix =>
      have hgrow : w.accepted.length ≤ (w.charged (.accepted now suffix)).accepted.length := by
        show _ ≤ (w.accepted ++ [_]).length
        rw [List.length_append]
        omega
      rcases settle_charged (env.gen w.txns) (env.now w.txns)
        (chargedPayment req (transactionIdOf now suffix)) (env.txn w.txns) w.db with
        ⟨row, b, hs, -⟩ | ⟨e, d', hs, -⟩
      · rw [alone_recorded hg hs]
        exact hgrow
      · rw [alone_lost hg hs]
        refine Nat.le_trans ?_ (ih _ _ _)
        rw [slept_accepted]
        exact hgrow

/-- One more accepted charge is one more accepted charge. -/
theorem accepted_again (remaining : Nat) : ∀ (attempt : Nat) (le : Option JsError) (w : World),
    (∃ i < remaining, env.gateway (w.charges + i) ≠ .declined) →
    w.accepted.length + 1 ≤
      (alone numeric env (attempts maxRetries req remaining attempt le) w).2.accepted.length := by
  induction remaining with
  | zero =>
    rintro attempt le w ⟨i, hi, -⟩
    exact absurd hi (Nat.not_lt_zero i)
  | succ n ih =>
    rintro attempt le w ⟨i, hi, hacc⟩
    cases hg : env.gateway w.charges with
    | declined =>
      rw [alone_declined hg]
      cases i with
      | zero => exact absurd hg hacc
      | succ j =>
        have hnext : env.gateway
            (((w.charged .declined).slept maxRetries attempt).charges + j) ≠ .declined := by
          rw [slept_charges]
          show env.gateway (w.charges + 1 + j) ≠ _
          rw [show w.charges + 1 + j = w.charges + (j + 1) by omega]
          exact hacc
        have hlater := ih (attempt + 1) (some { message := "Payment gateway timeout or declined" })
          ((w.charged .declined).slept maxRetries attempt) ⟨j, by omega, hnext⟩
        rw [slept_accepted] at hlater
        exact hlater
    | accepted now suffix =>
      have hgrow : (w.charged (.accepted now suffix)).accepted.length = w.accepted.length + 1 := by
        show (w.accepted ++ [_]).length = _
        rw [List.length_append]
        rfl
      rcases settle_charged (env.gen w.txns) (env.now w.txns)
        (chargedPayment req (transactionIdOf now suffix)) (env.txn w.txns) w.db with
        ⟨row, b, hs, -⟩ | ⟨e, d', hs, -⟩
      · rw [alone_recorded hg hs]
        exact Nat.le_of_eq hgrow.symm
      · rw [alone_lost hg hs]
        refine Nat.le_trans (Nat.le_of_eq hgrow.symm) ?_
        refine Nat.le_trans ?_ (accepted_mono numeric env maxRetries req _ _ _ _)
        rw [slept_accepted]
        exact Nat.le_refl _

/-- Nothing more is accepted: the call ends with the FAILED insert. -/
theorem only_declined (remaining : Nat) : ∀ (attempt : Nat) (e : JsError) (w : World),
    (∀ i < remaining, env.gateway (w.charges + i) = .declined) →
    ∃ e' w', alone numeric env (attempts maxRetries req remaining attempt (some e)) w =
        alone numeric env (attempts maxRetries req 0 attempt (some e')) w' ∧
      w'.db = w.db ∧ w'.accepted = w.accepted := by
  induction remaining with
  | zero => exact fun attempt e w _ => ⟨e, w, rfl, rfl, rfl⟩
  | succ n ih =>
    intro attempt e w hdec
    have h0 : env.gateway w.charges = .declined := hdec 0 (Nat.succ_pos n)
    -- the next attempt's charge is the next of the gateway
    have hrest : ∀ i < n, env.gateway
        (((w.charged .declined).slept maxRetries attempt).charges + i) = .declined := by
      intro i hi
      rw [slept_charges]
      show env.gateway (w.charges + 1 + i) = _
      rw [show w.charges + 1 + i = w.charges + (i + 1) by omega]
      exact hdec (i + 1) (by omega)
    obtain ⟨e', w', heq, hdb, hacc⟩ := ih (attempt + 1)
      { message := "Payment gateway timeout or declined" }
      ((w.charged .declined).slept maxRetries attempt) hrest
    refine ⟨e', w', ?_, ?_, ?_⟩
    · rw [alone_declined h0, heq]
      rfl
    · rw [hdb, slept_db]
      rfl
    · rw [hacc, slept_accepted]
      rfl

end Lost

/-! ## When the table agrees with the gateway -/

section Agrees

variable (numeric : Float → Option Numeric) (env : Env) (req : PaymentRequest)

/-- The ledger after a call that began with the tables `d`: at most one charge was accepted, and
    if the call returned a payment after one was, the call added exactly one row, and it is the row
    of that charge. -/
def AgreesAfter (d : Db) (out : Except JsError PaymentRow × World) : Prop :=
  out.2.accepted.length ≤ 1 ∧
    ∀ tx payment, out.2.accepted = [tx] → out.1 = .ok payment →
      ∃ row, out.2.db.payments = d.payments ++ [row] ∧ row.transactionId = some tx ∧
        (row.status = .success ∨ row.status = .refunded)

/-- **The payments table agrees with the gateway** after `processPayment` on the tables `d`. -/
def Agrees (maxRetries : Nat) (d : Db) : Prop :=
  AgreesAfter d (alone numeric env (processPayment maxRetries req) (World.start d))

/-- The condition for `remaining` attempts from the gateway call number `c` on: the gateway
    declines all of them; or the first `createChargedPayment` is not disturbed; or it is, nothing
    else is accepted, and the FAILED insert fails as well. -/
def SafeFrom (remaining c : Nat) : Prop :=
  (∀ i < remaining, env.gateway (c + i) = .declined) ∨
  ((∃ amount, numeric req.amount = some amount) ∧ env.txn 0 = .done) ∨
  ((∃ k < remaining, env.gateway (c + k) ≠ .declined ∧
      ∀ i < remaining, i ≠ k → env.gateway (c + i) = .declined) ∧
    CreateFails numeric env req)

variable {numeric env req}
variable {maxRetries : Nat}

/-- A declined charge changes neither side. -/
theorem safeFrom_declined {remaining c : Nat} (h : env.gateway c = .declined) :
    SafeFrom numeric env req (remaining + 1) c ↔ SafeFrom numeric env req remaining (c + 1) := by
  have hshift : ∀ i, env.gateway (c + 1 + i) = env.gateway (c + (i + 1)) := by
    intro i
    rw [show c + 1 + i = c + (i + 1) by omega]
  -- one attempt fewer, counted from the next charge
  have hall : ∀ (P : Nat → Prop),
      (∀ i < remaining + 1, P i → env.gateway (c + i) = .declined) ↔
        ∀ i < remaining, P (i + 1) → env.gateway (c + 1 + i) = .declined := by
    intro P
    constructor
    · intro hP i hi hPi
      rw [hshift]
      exact hP (i + 1) (by omega) hPi
    · intro hP i hi hPi
      cases i with
      | zero => exact h
      | succ j =>
        rw [← hshift]
        exact hP j (by omega) hPi
  unfold SafeFrom
  refine or_congr ?_ (or_congr Iff.rfl (and_congr_left fun _ => ?_))
  · have := hall fun _ => True
    simpa using this
  · constructor
    · rintro ⟨k, hk, hacc, hothers⟩
      cases k with
      -- the only accepted charge is not the declined one
      | zero => exact absurd h hacc
      | succ j =>
        refine ⟨j, by omega, ?_, ?_⟩
        · rw [hshift]
          exact hacc
        · intro i hi hij
          rw [hshift]
          exact hothers (i + 1) (by omega) (by omega)
    · rintro ⟨k, hk, hacc, hothers⟩
      refine ⟨k + 1, by omega, ?_, ?_⟩
      · rw [← hshift]
        exact hacc
      · intro i hi hik
        cases i with
        | zero => exact h
        | succ j =>
          rw [← hshift]
          exact hothers j (by omega) (by omega)

/-- A transaction id is never empty, so it is stored as it is. -/
theorem orNull_transactionIdOf (now : Nat) (suffix : String) :
    orNull (transactionIdOf now suffix) = some (transactionIdOf now suffix) := by
  unfold orNull
  exact if_neg (transactionIdOf_ne_empty now suffix)

/-- An accepted charge that was not reported as stored leaves the table right only when nothing
    else is accepted and the call does not return. -/
theorem lost_agrees {d : Db} {tx : String} (remaining attempt : Nat) (e : JsError) (w : World)
    (hacc : w.accepted = [tx])
    (hrows : w.db.payments = d.payments ∨ ∃ row, w.db.payments = d.payments ++ [row]) :
    AgreesAfter d
        (alone numeric env (attempts maxRetries req remaining attempt (some e)) w) ↔
      (∀ i < remaining, env.gateway (w.charges + i) = .declined) ∧ CreateFails numeric env req := by
  by_cases hdec : ∀ i < remaining, env.gateway (w.charges + i) = .declined
  · obtain ⟨e', w', heq, hdb, hacc'⟩ := only_declined numeric env maxRetries req remaining
      attempt e w hdec
    rw [heq, alone_create]
    rcases settle_create env req env.createGen e' w'.db with
      ⟨row, hs, htx, hnf⟩ | ⟨e'', d'', hs, hf⟩
    · -- the call returns a FAILED row although the gateway took the money
      rw [hs]
      refine iff_of_false ?_ fun h => hnf h.2
      intro hagrees
      have hone : w'.accepted = [tx] := hacc'.trans hacc
      obtain ⟨row', hrow', htx', -⟩ := hagrees.2 tx row hone rfl
      have hp : w.db.payments ++ [row] = d.payments ++ [row'] := by
        rw [← hdb]
        exact hrow'
      rcases hrows with hsame | ⟨row₀, hmore⟩
      · -- then it is the row of the charge, but it carries no transaction
        rw [hsame] at hp
        have hrow : [row] = [row'] := List.append_cancel_left hp
        cases hrow
        rw [htx] at htx'
        cases htx'
      · -- then there are two rows
        have hl := congrArg List.length hp
        rw [hmore] at hl
        simp only [List.length_append, List.length_cons, List.length_nil] at hl
        omega
    · -- the call throws
      rw [hs]
      refine iff_of_true ⟨?_, ?_⟩ ⟨hdec, hf⟩
      · show w'.accepted.length ≤ 1
        rw [hacc', hacc]
        exact Nat.le_refl 1
      · intro tx payment _ hp
        cases hp
  · -- a second charge is accepted
    refine iff_of_false ?_ fun h => hdec h.1
    intro hagrees
    have hmore : ∃ i < remaining, env.gateway (w.charges + i) ≠ .declined := by
      by_contra hno
      apply hdec
      intro i hi
      by_contra hne
      exact hno ⟨i, hi, hne⟩
    have hagain := accepted_again numeric env maxRetries req remaining attempt (some e) w hmore
    have hone := hagrees.1
    rw [hacc] at hagain
    simp only [List.length_cons, List.length_nil] at hagain
    omega

/-- After an accepted charge whose record failed, the condition is on what follows alone. -/
theorem safeFrom_accepted {remaining c : Nat} (hgateway : env.gateway c ≠ .declined)
    (hfailed : ¬((∃ amount, numeric req.amount = some amount) ∧ env.txn 0 = .done)) :
    SafeFrom numeric env req (remaining + 1) c ↔
      (∀ i < remaining, env.gateway (c + 1 + i) = .declined) ∧ CreateFails numeric env req := by
  have hfirst : env.gateway (c + 0) ≠ .declined := by
    rw [Nat.add_zero]
    exact hgateway
  have hshift : ∀ i, env.gateway (c + 1 + i) = env.gateway (c + (i + 1)) := by
    intro i
    rw [show c + 1 + i = c + (i + 1) by omega]
  constructor
  · rintro (hall | hgood | ⟨⟨k, hk, hacc, hothers⟩, hfails⟩)
    · exact absurd (hall 0 (Nat.succ_pos remaining)) hfirst
    · exact absurd hgood hfailed
    · -- the only accepted charge is this one
      have hk0 : k = 0 := by
        by_contra hk0
        exact hfirst (hothers 0 (Nat.succ_pos remaining) (fun h => hk0 h.symm))
      subst hk0
      refine ⟨fun i hi => ?_, hfails⟩
      rw [hshift]
      exact hothers (i + 1) (by omega) (by omega)
  · rintro ⟨hdeclined, hfails⟩
    refine Or.inr (Or.inr ⟨⟨0, Nat.succ_pos remaining, hfirst, fun i hi hi0 => ?_⟩, hfails⟩)
    obtain ⟨j, rfl⟩ := Nat.exists_eq_succ_of_ne_zero hi0
    rw [← hshift]
    exact hdeclined j (by omega)

/-- No attempt is left and nothing has been accepted. -/
theorem agrees_exhausted {attempt : Nat} {le : Option JsError} {w : World}
    (hacc : w.accepted = []) :
    AgreesAfter w.db (alone numeric env (attempts maxRetries req 0 attempt le) w) := by
  have hnone : (alone numeric env (attempts maxRetries req 0 attempt le) w).2.accepted = [] := by
    cases le with
    | none => exact hacc
    | some e => rw [alone_create]; exact hacc
  constructor
  · rw [hnone]
    exact Nat.zero_le 1
  · intro tx payment h
    rw [hnone] at h
    cases h

/-- A charge that is recorded at once. -/
theorem agrees_recorded {w : World} {now : Nat} {suffix : String} {row : PaymentRow} {d : Db}
    (hacc : w.accepted = [])
    (hrow : row.transactionId = orNull (transactionIdOf now suffix))
    (hstatus : row.status = .success ∨ row.status = .refunded)
    (hpayments : d.payments = w.db.payments ++ [row]) :
    AgreesAfter w.db (.ok row, (w.charged (.accepted now suffix)).stored d) := by
  have hone : (w.charged (.accepted now suffix)).accepted = [transactionIdOf now suffix] := by
    show w.accepted ++ [_] = _
    rw [hacc]
    rfl
  refine ⟨?_, fun tx payment h _ => ⟨row, hpayments, ?_, hstatus⟩⟩
  · show (w.charged (.accepted now suffix)).accepted.length ≤ 1
    rw [hone]
    exact Nat.le_refl 1
  · -- the row carries the id of the only charge
    have htx : [transactionIdOf now suffix] = [tx] := hone.symm.trans h
    cases htx
    rw [hrow]
    exact orNull_transactionIdOf now suffix

/-- The loop from any attempt on, while nothing has been accepted. -/
theorem attempts_agrees (remaining : Nat) : ∀ (attempt : Nat) (le : Option JsError) (w : World),
    w.accepted = [] → w.txns = 0 →
    (AgreesAfter w.db (alone numeric env (attempts maxRetries req remaining attempt le) w) ↔
      SafeFrom numeric env req remaining w.charges) := by
  induction remaining with
  | zero =>
    intro attempt le w hacc htx
    exact iff_of_true (agrees_exhausted hacc) (Or.inl fun i hi => absurd hi (Nat.not_lt_zero i))
  | succ n ih =>
    intro attempt le w hacc htx
    cases hg : env.gateway w.charges with
    | declined =>
      -- the next attempt finds the same ledger
      rw [alone_declined hg, safeFrom_declined hg]
      have hacc' : ((w.charged .declined).slept maxRetries attempt).accepted = [] := by
        rw [slept_accepted]
        exact hacc
      have htx' : ((w.charged .declined).slept maxRetries attempt).txns = 0 := by
        rw [slept_txns]
        exact htx
      have hnext := ih (attempt + 1) (some { message := "Payment gateway timeout or declined" })
        ((w.charged .declined).slept maxRetries attempt) hacc' htx'
      rw [slept_db, slept_charges] at hnext
      exact hnext
    | accepted now suffix =>
      rcases settle_charged (env.gen w.txns) (env.now w.txns)
        (chargedPayment req (transactionIdOf now suffix)) (env.txn w.txns) w.db with
        ⟨row, b, hs, hrow, hstatus, hamount, hdone⟩ | ⟨e, d', hs, hrows, hnot⟩
      · rw [alone_recorded hg hs]
        rw [htx] at hdone
        exact iff_of_true (agrees_recorded hacc hrow hstatus rfl)
          (Or.inr (Or.inl ⟨hamount, hdone⟩))
      · -- accepted and not reported as stored: the loop goes on with one charge accepted
        have hlost : (((w.charged (.accepted now suffix)).stored d').slept maxRetries
            attempt).accepted = [transactionIdOf now suffix] := by
          rw [slept_accepted]
          show w.accepted ++ [_] = _
          rw [hacc]
          rfl
        have hrows' : (((w.charged (.accepted now suffix)).stored d').slept maxRetries
              attempt).db.payments = w.db.payments ∨
            ∃ row, (((w.charged (.accepted now suffix)).stored d').slept maxRetries
              attempt).db.payments = w.db.payments ++ [row] := by
          rw [slept_db]
          exact hrows
        have hne : env.gateway w.charges ≠ .declined := by
          rw [hg]
          exact nofun
        rw [htx] at hnot
        rw [alone_lost hg hs, lost_agrees n (attempt + 1) e _ hlost hrows', slept_charges,
          safeFrom_accepted hne hnot]
        exact Iff.rfl

/-- **Exactly when the payments table agrees with the gateway**: the gateway declines every
    attempt; or the `createChargedPayment` after the first accepted charge is not disturbed; or it
    is, nothing else is accepted, and the FAILED insert fails as well. -/
theorem agrees_iff (d : Db) :
    Agrees numeric env req maxRetries d ↔ SafeFrom numeric env req maxRetries 0 :=
  attempts_agrees maxRetries 1 none (World.start d) rfl rfl

end Agrees

/-! ## Two calls that leave the table wrong -/

/-- The connection is lost before the commit. -/
def connectionLost : DbOutcome := .rejected { message := "Connection terminated" } false

/-- The first charge is accepted and its transaction rolled back; the gateway then answers with
    `second`, and nothing else fails. -/
def lostOnce (second : GatewayOutcome) : Env where
  gateway n := if n = 0 then .accepted 1 "first" else second
  txn n := if n = 0 then connectionLost else .done
  gen n := ⟨"payment-" ++ toString n, 0⟩
  now _ := 0
  createOut := .done
  createGen := ⟨"payment-last", 0⟩

/-- A request for ten units of money. -/
def tenUnits : PaymentRequest := ⟨"o1", "u1", 10.0, "CREDIT_CARD"⟩

/-- One lost transaction is enough: the order is charged twice if the second charge is accepted,
    and ends as FAILED although the money is gone if it is declined. -/
theorem not_agrees_lostOnce :
    ¬ Agrees (fun _ => some (.hundredths 1000)) (lostOnce (.accepted 2 "second")) tenUnits 2
        Db.empty ∧
      ¬ Agrees (fun _ => some (.hundredths 1000)) (lostOnce .declined) tenUnits 2 Db.empty := by
  constructor
  · -- two charges accepted
    intro h
    exact absurd h.1 (by decide)
  · -- the only row is the FAILED one
    intro h
    obtain ⟨row, hrow, htx, -⟩ := h.2 (transactionIdOf 1 "first") _ rfl rfl
    cases hrow
    cases htx

end Microservices.Payment
