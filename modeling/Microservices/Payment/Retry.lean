/-
  `processPayment` against its retry specification (payment-service/src/services/payment.service.js),
  when no database operation fails.

  The loop leaves by one of two doors: the `return` inside the `try`, after the first accepted
  charge, or the `create` behind it, after the last declined one.  Meanwhile other calls may commit
  refunds of the order between any two of its requests; which status the row gets depends on
  whether one has committed before the insert.

  `run_declines` is the induction over the declined attempts, with the state after `i` of them
  written out; the two doors are one step from there.

  The waits double, and a timer holds 31 bits: the 23rd would be some 48 days, and Node makes one
  millisecond of it.  `waitedAfter` is what the waits really come to, `specifiedWaits` what they
  should; `processPayment_retries_iff` says that the call meets its specification exactly if it
  ends within 23 charges.
-/
import Microservices.Payment.Ledger

namespace Microservices.Payment

/-! ## The surroundings -/

/-- What the call meets: the outcome of each charge, the refunds of its order that commit before
    each of its requests, and what the server generates. -/
structure Surroundings where
  gateway : Nat → GatewayOutcome
  refunds : Nat → List Gen
  gen : Nat → Gen
  now : Nat → Nat
  createGen : Gen

/-- No database operation fails. -/
def Surroundings.env (σ : Surroundings) : Env where
  gateway := σ.gateway
  txn _ := .done
  gen := σ.gen
  now := σ.now
  createOut := .done
  createGen := σ.createGen

/-- Refunds of `o` commit, one after the other. -/
def Db.refunded (o : String) (gens : List Gen) (d : Db) : Db :=
  gens.foldl (fun d g => (d.requestRefundByOrderId g o).2) d

/-- The tables just before request number `n`, if the call has not written yet. -/
def Surroundings.before (σ : Surroundings) (o : String) (d : Db) (n : Nat) : Db :=
  d.refunded o ((List.range (n + 1)).flatMap σ.refunds)

/-- The refunds of `o` before request number `n`. -/
def Surroundings.interfere (σ : Surroundings) (o : String) (n : Nat) (w : World) : World :=
  { w with db := w.db.refunded o (σ.refunds n) }

/-- A function of the service among the refunds of `o`: its result, the number of its requests, and
    the world. -/
def Surroundings.run (σ : Surroundings) (numeric : Float → Option Numeric) (p : Pay PaymentRow)
    (o : String) (w : Nat × World) : Except JsError PaymentRow × Nat × World :=
  Prog.run (Prog.interfered (answer numeric σ.env) (σ.interfere o)) p.run w

/-- What a declined charge throws. -/
def declined : JsError := { message := "Payment gateway timeout or declined" }

section Refunded

variable {o : String} {gens gens' : List Gen} {d : Db}

/-- Refunds one after the other. -/
theorem refunded_append (o : String) (gens gens' : List Gen) (d : Db) :
    d.refunded o (gens ++ gens') = (d.refunded o gens).refunded o gens' := by
  unfold Db.refunded
  rw [List.foldl_append]

/-- A refund adds no payment. -/
theorem refunded_length : (d.refunded o gens).payments.length = d.payments.length := by
  induction gens generalizing d with
  | nil => rfl
  | cons g gens ih =>
    show ((d.requestRefundByOrderId g o).2.refunded o gens).payments.length = _
    rw [ih]
    exact List.length_map _

/-- The order has an intent exactly if it had one or one of the refunds has committed. -/
theorem intent_refunded :
    o ∈ (d.refunded o gens).refundIntents ↔ o ∈ d.refundIntents ∨ gens ≠ [] := by
  induction gens generalizing d with
  | nil =>
    show o ∈ d.refundIntents ↔ _
    simp
  | cons g gens ih =>
    show o ∈ ((d.requestRefundByOrderId g o).2.refunded o gens).refundIntents ↔ _
    rw [ih, mem_refundIntents_requestRefund]
    simp

variable (σ : Surroundings)

/-- One more attempt comes after one more list of refunds. -/
theorem before_succ (o : String) (d : Db) (n : Nat) :
    σ.before o d (n + 1) = (σ.before o d n).refunded o (σ.refunds (n + 1)) := by
  unfold Surroundings.before
  rw [List.range_succ, List.flatMap_append, refunded_append]
  simp

/-- The intent is there as soon as one refund has come. -/
theorem intent_before {n : Nat} :
    o ∈ (σ.before o d n).refundIntents ↔
      o ∈ d.refundIntents ∨ ∃ j, j ≤ n ∧ σ.refunds j ≠ [] := by
  unfold Surroundings.before
  rw [intent_refunded]
  refine or_congr Iff.rfl ?_
  simp only [ne_eq, List.flatMap_eq_nil_iff, List.mem_range, not_forall, exists_prop, Nat.lt_succ_iff]

end Refunded

/-! ## The waits -/

/-- The waits after `i` declined attempts that were not the last one, all together: each is twice the
    one before, and from the 23rd on they are one millisecond each. -/
def waitedAfter (i : Nat) : Nat := (2 ^ min i 22 - 1) * 1000 + (i - 22)

/-- What the waits between `m` charges should come to: 1 s, 2 s, 4 s, ... -/
def specifiedWaits (m : Nat) : Nat := (2 ^ (m - 1) - 1) * 1000

/-- One more wait. -/
theorem waitedAfter_succ (i : Nat) :
    waitedAfter i + timerDelay (backoff (i + 1)) = waitedAfter (i + 1) := by
  have hbackoff : backoff (i + 1) = 2 ^ i * 1000 := rfl
  have hpos : 0 < 2 ^ i := Nat.two_pow_pos i
  unfold waitedAfter
  rw [hbackoff]
  rcases Nat.lt_or_ge i 22 with hlt | hge
  · have hpow : 2 ^ i ≤ 2 ^ 21 := Nat.pow_le_pow_right Nat.zero_lt_two (by omega)
    have hdouble : 2 ^ (i + 1) = 2 * 2 ^ i := Nat.pow_succ'
    have hmin : min i 22 = i := Nat.min_eq_left (by omega)
    have hmin' : min (i + 1) 22 = i + 1 := Nat.min_eq_left (by omega)
    rw [timerDelay_of_lt (by omega) (by omega), hmin, hmin', hdouble]
    omega
  · have hpow : 2 ^ 22 ≤ 2 ^ i := Nat.pow_le_pow_right Nat.zero_lt_two hge
    have hmin : min i 22 = 22 := Nat.min_eq_right hge
    have hmin' : min (i + 1) 22 = 22 := Nat.min_eq_right (by omega)
    rw [timerDelay_of_ge (by omega), hmin, hmin']
    omega

/-- Waiting goes on. -/
theorem waitedAfter_mono {i j : Nat} (h : i ≤ j) : waitedAfter i ≤ waitedAfter j := by
  induction h with
  | refl => exact Nat.le_refl _
  | step _ ih =>
    rw [← waitedAfter_succ]
    exact Nat.le_trans ih (Nat.le_add_right _ _)

/-- The waits are the specified ones up to the 22nd, and then no more. -/
theorem waitedAfter_eq_iff (i : Nat) : waitedAfter i = (2 ^ i - 1) * 1000 ↔ i ≤ 22 := by
  unfold waitedAfter
  constructor
  · intro h
    by_contra hlt
    -- what is left out doubles, what takes its place grows by one
    obtain ⟨k, rfl⟩ : ∃ k, i = 22 + (k + 1) := ⟨i - 23, by omega⟩
    have hmin : min (22 + (k + 1)) 22 = 22 := Nat.min_eq_right (by omega)
    have hgrows : k + 1 < 2 ^ (k + 1) := Nat.lt_two_pow_self
    have hpow : 2 ^ (22 + (k + 1)) = 2 ^ 22 * 2 ^ (k + 1) := Nat.pow_add 2 22 (k + 1)
    rw [hmin, hpow] at h
    omega
  · intro hle
    rw [Nat.min_eq_left hle, Nat.sub_eq_zero_of_le hle, Nat.add_zero]

/-! ## The attempts -/

section Attempts

variable {numeric : Float → Option Numeric} {σ : Surroundings} {n : Nat} {req : PaymentRequest}
variable {d : Db}

/-- The world after `i` declined attempts that were not the last one: `i` charges and `i` waits. -/
def waiting (σ : Surroundings) (req : PaymentRequest) (d : Db) (i : Nat) : Nat × World :=
  (2 * i, { World.start (if i = 0 then d else σ.before req.orderId d (2 * i - 1)) with
    charges := i
    waited := waitedAfter i })

/-- The refunds before the next request. -/
theorem waiting_refunded (i : Nat) :
    (waiting σ req d i).2.db.refunded req.orderId (σ.refunds (2 * i)) =
      σ.before req.orderId d (2 * i) := by
  cases i with
  | zero =>
    show d.refunded req.orderId (σ.refunds 0) = _
    unfold Surroundings.before
    simp
  | succ i => exact (before_succ σ req.orderId d (2 * i + 1)).symm

/-- The world after `i + 1` charges and `i` waits. -/
def charging (σ : Surroundings) (req : PaymentRequest) (d : Db) (i : Nat) : Nat × World :=
  (2 * i + 1, { World.start (σ.before req.orderId d (2 * i)) with
    charges := i + 1
    waited := waitedAfter i })

/-- A declined charge. -/
theorem run_charge_declined {i m attempt : Nat} {le : Option JsError}
    (h : σ.gateway i = .declined) :
    σ.run numeric (attempts n req (m + 1) attempt le) req.orderId (waiting σ req d i) =
      σ.run numeric (do
        if attempt < n then
          pay (.sleep (backoff attempt))
        attempts n req m (attempt + 1) (some declined)) req.orderId (charging σ req d i) := by
  -- the gateway declines, after whatever refunds came in between
  have hanswer : answer numeric σ.env (.charge req.orderId req.amount)
      (σ.interfere req.orderId (2 * i) (waiting σ req d i).2) =
      (.error declined, (charging σ req d i).2) := by
    show (gatewayCharge (σ.gateway i), World.charged _ (σ.gateway i)) = _
    rw [h]
    unfold Surroundings.interfere
    rw [waiting_refunded]
    rfl
  unfold Surroundings.run
  exact Prog.run_interfered _ hanswer

/-- The wait after a declined charge. -/
theorem run_slept {i : Nat} {p : Pay PaymentRow} (hlt : i + 1 < n) :
    σ.run numeric (do
        if i + 1 < n then
          pay (.sleep (backoff (i + 1)))
        p) req.orderId (charging σ req d i) =
      σ.run numeric p req.orderId (waiting σ req d (i + 1)) := by
  -- the wait is answered in time; the refunds that come meanwhile are counted
  have hanswer : answer numeric σ.env (.sleep (backoff (i + 1)))
      (σ.interfere req.orderId (2 * i + 1) (charging σ req d i).2) =
      (.ok (), (waiting σ req d (i + 1)).2) := by
    have hdb : σ.before req.orderId d (2 * (i + 1) - 1) =
        (σ.before req.orderId d (2 * i)).refunded req.orderId (σ.refunds (2 * i + 1)) :=
      before_succ σ req.orderId d (2 * i)
    unfold waiting charging
    rw [← waitedAfter_succ, if_neg (Nat.succ_ne_zero i), hdb]
    rfl
  rw [if_pos hlt]
  unfold Surroundings.run
  exact Prog.run_interfered _ hanswer

/-- After `i` declined attempts, none of them the last. -/
theorem run_declines {i : Nat} (hi : i < n) (h : ∀ j < i, σ.gateway j = .declined) :
    ∃ le, (0 < i → le = some declined) ∧
      σ.run numeric (processPayment n req) req.orderId (0, World.start d) =
        σ.run numeric (attempts n req (n - i) (i + 1) le) req.orderId (waiting σ req d i) := by
  induction i with
  | zero => exact ⟨none, fun hlt => absurd hlt (Nat.lt_irrefl 0), rfl⟩
  | succ i ih =>
    obtain ⟨le, -, heq⟩ := ih (Nat.lt_of_succ_lt hi) fun j hj => h j (Nat.lt_succ_of_lt hj)
    refine ⟨some declined, fun _ => rfl, ?_⟩
    have hsub : n - i = (n - (i + 1)) + 1 := by omega
    rw [heq, hsub, run_charge_declined (h i (Nat.lt_succ_self i)), run_slept hi]

/-- The first accepted charge ends the loop with its row. -/
theorem run_accepted {i m attempt : Nat} {le : Option JsError} {now : Nat} {suffix : String}
    {amount : Numeric} (h : σ.gateway i = .accepted now suffix)
    (hamount : numeric req.amount = some amount) :
    ∃ row b d', (σ.before req.orderId d (2 * i + 1)).createChargedPayment numeric (σ.gen 0) (σ.now 0)
        (chargedPayment req (transactionIdOf now suffix)) = .ok ((row, b), d') ∧
      σ.run numeric (attempts n req (m + 1) attempt le) req.orderId (waiting σ req d i) =
        (.ok row, 2 * i + 2, { (charging σ req d i).2 with
          db := d', accepted := [transactionIdOf now suffix], txns := 1 }) := by
  have hfits : numeric req.amount ≠ none := hamount ▸ Option.some_ne_none amount
  obtain ⟨row, b, d', hcharge⟩ := @createChargedPayment_stored numeric (σ.gen 0) (σ.now 0)
    (σ.before req.orderId d (2 * i + 1)) (chargedPayment req (transactionIdOf now suffix)) hfits
  refine ⟨row, b, d', hcharge, ?_⟩
  have hanswer : answer numeric σ.env (.charge req.orderId req.amount)
      (σ.interfere req.orderId (2 * i) (waiting σ req d i).2) =
      (.ok (transactionIdOf now suffix),
        { (charging σ req d i).2 with accepted := [transactionIdOf now suffix] }) := by
    show (gatewayCharge (σ.gateway i), World.charged _ (σ.gateway i)) = _
    rw [h]
    unfold Surroundings.interfere
    rw [waiting_refunded]
    rfl
  -- and stored, with the intents that are there by then
  have hstored : answer numeric σ.env
      (.createChargedPayment (chargedPayment req (transactionIdOf now suffix)))
      (σ.interfere req.orderId (2 * i + 1)
        { (charging σ req d i).2 with accepted := [transactionIdOf now suffix] }) =
      (.ok (row, b), { (charging σ req d i).2 with
        db := d', accepted := [transactionIdOf now suffix], txns := 1 }) := by
    rw [before_succ] at hcharge
    exact answer_stored rfl hcharge
  unfold Surroundings.run
  exact (Prog.run_interfered _ hanswer).trans (Prog.run_interfered _ hstored)

/-- A FAILED row carries the last error. -/
theorem create_error {g : Gen} {err : JsError} {row : PaymentRow} {d' : Db} (hmessage : err.message ≠ "")
    (h : d.create numeric g (failedPayment req err) = .ok (row, d')) :
    row.error = some err.message := by
  unfold Db.create at h
  split at h
  · cases h
  · cases h
    exact if_neg hmessage

/-- After the last declined charge: the FAILED row. -/
theorem run_create {i attempt : Nat} {amount : Numeric} (hamount : numeric req.amount = some amount) :
    ∃ row d', (σ.before req.orderId d (2 * i + 1)).create numeric σ.createGen
        (failedPayment req declined) = .ok (row, d') ∧
      σ.run numeric (attempts n req 0 attempt (some declined)) req.orderId (charging σ req d i) =
        (.ok row, 2 * i + 2, { (charging σ req d i).2 with db := d' }) := by
  have hfits : numeric req.amount ≠ none := hamount ▸ Option.some_ne_none amount
  obtain ⟨row, d', hcreate⟩ := @create_stored numeric σ.createGen
    (σ.before req.orderId d (2 * i + 1)) (failedPayment req declined) hfits
  refine ⟨row, d', hcreate, ?_⟩
  -- the failed row is stored after the last wait
  have hstored : answer numeric σ.env (.create (failedPayment req declined))
      (σ.interfere req.orderId (2 * i + 1) (charging σ req d i).2) =
      (.ok row, { (charging σ req d i).2 with db := d' }) := by
    rw [before_succ] at hcreate
    exact answer_created rfl hcreate
  unfold Surroundings.run
  exact Prog.run_interfered _ hstored

/-- The call has ended after `m` charges: it has waited `waited` between them, and added the row `row`
    to the tables as the refunds before its last request have left them. -/
structure Ended (σ : Surroundings) (req : PaymentRequest) (d : Db) (m waited : Nat)
    (row : PaymentRow) (w : World) : Prop where
  charges : w.charges = m
  waited : w.waited = waited
  added : w.db = { σ.before req.orderId d (2 * m - 1) with
    payments := (σ.before req.orderId d (2 * m - 1)).payments ++ [row] }
  others : (σ.before req.orderId d (2 * m - 1)).payments.length = d.payments.length
  orderId : row.orderId = req.orderId

/-- **The retry specification** of a call with `n` attempts, whatever the gateway answers and wherever
    refunds of the order commit; `waits m` is what the waits between `m` charges come to.

    If charge number `i + 1` is the first to be accepted and there are that many attempts, the
    gateway is called `i + 1` times and the row added, and returned, is that charge: REFUNDED exactly
    if a refund had committed before its insert, SUCCESS otherwise.  If all are declined, the gateway
    is called `n` times and the row is FAILED with its error. -/
structure Retries (waits : Nat → Nat) (numeric : Float → Option Numeric) (σ : Surroundings) (n : Nat)
    (req : PaymentRequest) (d : Db) : Prop where
  accepted : ∀ i now suffix, i < n → (∀ j < i, σ.gateway j = .declined) →
    σ.gateway i = .accepted now suffix →
    ∃ row k w, σ.run numeric (processPayment n req) req.orderId (0, World.start d) =
        (.ok row, k, w) ∧
      Ended σ req d (i + 1) (waits (i + 1)) row w ∧
      row.transactionId = some (transactionIdOf now suffix) ∧
      (row.status = .refunded ∨ row.status = .success) ∧
      (row.status = .refunded ↔
        req.orderId ∈ d.refundIntents ∨ ∃ j, j ≤ 2 * i + 1 ∧ σ.refunds j ≠ [])
  declined : (∀ j < n, σ.gateway j = .declined) →
    ∃ row k w, σ.run numeric (processPayment n req) req.orderId (0, World.start d) =
        (.ok row, k, w) ∧
      Ended σ req d n (waits n) row w ∧ row.status = .failed ∧
      row.error = some "Payment gateway timeout or declined"

/-- The call meets it with the waits its timers make. -/
theorem processPayment_ends (numeric : Float → Option Numeric) (σ : Surroundings) (n : Nat)
    (req : PaymentRequest) (d : Db) (hn : 1 ≤ n) {amount : Numeric}
    (hamount : numeric req.amount = some amount) :
    Retries (fun m => waitedAfter (m - 1)) numeric σ n req d where
  accepted := by
    intro i now suffix hi hbefore haccepted
    obtain ⟨le, -, hrun⟩ := @run_declines numeric σ n req d i hi hbefore
    have hsub : n - i = (n - i - 1) + 1 := by omega
    rw [hsub] at hrun
    obtain ⟨row, b, d', hcharge, hdone⟩ := run_accepted haccepted hamount
    obtain ⟨rfl, -, ho, -, htx, hstatus⟩ := createChargedPayment_spec hcharge
    refine ⟨row, _, _, hrun.trans hdone, ⟨rfl, rfl, rfl, refunded_length, ho⟩,
      htx.trans (orNull_transactionIdOf now suffix),
      hstatus.imp And.left And.left, ?_⟩
    rw [← intent_before]
    rcases hstatus with ⟨hs, hintent⟩ | ⟨hs, hnone⟩
    · exact ⟨fun _ => hintent, fun _ => hs⟩
    · refine ⟨fun hr => ?_, fun hintent => absurd hintent hnone⟩
      rw [hs] at hr
      cases hr
  declined := by
    intro hall
    -- the last attempt is number `n`
    obtain ⟨m, rfl⟩ : ∃ m, n = m + 1 := ⟨n - 1, by omega⟩
    obtain ⟨le, -, hrun⟩ := @run_declines numeric σ (m + 1) req d m (Nat.lt_succ_self m)
      fun j hj => hall j (Nat.lt_succ_of_lt hj)
    have hsub : m + 1 - m = 0 + 1 := by omega
    rw [hsub, run_charge_declined (hall m (Nat.lt_succ_self m)), if_neg (Nat.lt_irrefl _)] at hrun
    obtain ⟨row, d', hcreate, hdone⟩ := run_create hamount
    have herror : row.error = some Payment.declined.message := create_error (by decide) hcreate
    obtain ⟨rfl, ho, hs⟩ := create_spec hcreate
    exact ⟨row, _, _, hrun.trans hdone, ⟨rfl, rfl, rfl, refunded_length, ho⟩, hs, herror⟩

/-- The number of charges decides whether the waits are right. -/
theorem waits_eq_iff (m : Nat) (hm : 1 ≤ m) :
    waitedAfter (m - 1) = specifiedWaits m ↔ m ≤ 23 := by
  unfold specifiedWaits
  rw [waitedAfter_eq_iff]
  omega

/-- The charge that ends the call: the first to be accepted, or the last of all. -/
theorem last_charge (σ : Surroundings) (n : Nat) :
    (∃ i now suffix, i < n ∧ (∀ j < i, σ.gateway j = .declined) ∧
        σ.gateway i = .accepted now suffix) ∨
      ∀ j < n, σ.gateway j = .declined := by
  induction n with
  | zero => exact Or.inr fun j hj => absurd hj (Nat.not_lt_zero j)
  | succ n ih =>
    -- the first accepted charge is among the first `n`, or it is the last, or there is none
    rcases ih with ⟨i, now, suffix, hi, hbefore, haccepted⟩ | hall
    · exact Or.inl ⟨i, now, suffix, Nat.lt_succ_of_lt hi, hbefore, haccepted⟩
    · cases hlast : σ.gateway n with
      | accepted now suffix => exact Or.inl ⟨n, now, suffix, Nat.lt_succ_self n, hall, hlast⟩
      | declined =>
        refine Or.inr fun j hj => ?_
        rcases Nat.lt_succ_iff_lt_or_eq.mp hj with hlt | rfl
        · exact hall j hlt
        · exact hlast

/-- **Exactly when `processPayment` meets its retry specification**: it has no more than 23 attempts,
    or one of the first 23 charges is accepted.  Then no wait is too long for its timer. -/
theorem processPayment_retries_iff (numeric : Float → Option Numeric) (σ : Surroundings) (n : Nat)
    (req : PaymentRequest) (d : Db) (hn : 1 ≤ n) {amount : Numeric}
    (hamount : numeric req.amount = some amount) :
    Retries specifiedWaits numeric σ n req d ↔ n ≤ 23 ∨ ∃ i < 23, σ.gateway i ≠ .declined := by
  have hends := processPayment_ends numeric σ n req d hn hamount
  constructor
  · intro h
    -- one run has two sums of waits
    rcases last_charge σ n with ⟨i, now, suffix, hi, hbefore, haccepted⟩ | hall
    · obtain ⟨row, k, w, hrun, hended, -⟩ := h.accepted i now suffix hi hbefore haccepted
      obtain ⟨row', k', w', hrun', hended', -⟩ := hends.accepted i now suffix hi hbefore haccepted
      cases hrun.symm.trans hrun'
      have hm := (waits_eq_iff (i + 1) (Nat.succ_pos i)).mp (hended'.waited.symm.trans hended.waited)
      refine Or.inr ⟨i, hm, ?_⟩
      rw [haccepted]
      exact nofun
    · obtain ⟨row, k, w, hrun, hended, -⟩ := h.declined hall
      obtain ⟨row', k', w', hrun', hended', -⟩ := hends.declined hall
      cases hrun.symm.trans hrun'
      exact Or.inl ((waits_eq_iff n hn).mp (hended'.waited.symm.trans hended.waited))
  · intro hfew
    constructor
    · intro i now suffix hi hbefore haccepted
      have hm : i + 1 ≤ 23 := by
        rcases hfew with hle | ⟨i', hi', haccepted'⟩
        · omega
        · -- no charge before the first accepted one is accepted
          have hfirst : ¬ i' < i := fun hlt => haccepted' (hbefore i' hlt)
          omega
      rw [← (waits_eq_iff (i + 1) (Nat.succ_pos i)).mpr hm]
      exact hends.accepted i now suffix hi hbefore haccepted
    · intro hall
      have hm : n ≤ 23 := by
        rcases hfew with hle | ⟨i', hi', haccepted'⟩
        · exact hle
        · have hlate : ¬ i' < n := fun hlt => haccepted' (hall i' hlt)
          omega
      rw [← (waits_eq_iff n hn).mpr hm]
      exact hends.declined hall

end Attempts

/-- One decline, then a charge that is accepted while a refund of the order commits. -/
def declinedOnce : Surroundings where
  gateway i := if i = 0 then .declined else .accepted 7 "tx"
  refunds n := if n = 3 then [⟨"", 9⟩] else []
  gen _ := ⟨"pay1", 8⟩
  now _ := 8
  createGen := ⟨"pay2", 8⟩

/-- A payment that is declined once, and refunded. -/
theorem processPayment_retries_iff_declinedOnce :
    ∃ row k w, declinedOnce.run (fun _ => some (.hundredths 1000)) (processPayment 3 tenUnits) "o1"
        (0, World.start Db.empty) = (.ok row, k, w) ∧
      w.charges = 2 ∧ w.waited = 1000 ∧ row.status = .refunded := by
  have hmeets := (processPayment_retries_iff (fun _ => some (.hundredths 1000)) declinedOnce 3
    tenUnits Db.empty (by decide) rfl).mpr (Or.inl (by decide))
  have hdeclined : ∀ j < 1, declinedOnce.gateway j = .declined := by
    intro j hj
    rw [Nat.lt_one_iff.mp hj]
    rfl
  obtain ⟨row, k, w, hrun, hended, -, -, hstatus⟩ :=
    hmeets.accepted 1 7 "tx" (by decide) hdeclined rfl
  exact ⟨row, k, w, hrun, hended.charges, hended.waited,
    hstatus.mpr (Or.inr ⟨3, Nat.le_refl 3, by decide⟩)⟩

/-- A gateway that declines every charge, and nobody else around. -/
def decliningAlways : Surroundings where
  gateway _ := .declined
  refunds _ := []
  gen _ := ⟨"pay1", 8⟩
  now _ := 8
  createGen := ⟨"pay1", 8⟩

/-- With 24 attempts, all declined, the last wait is one millisecond where it should be 48 days. -/
theorem not_retries_twentyFour :
    ¬ Retries specifiedWaits (fun _ => some (.hundredths 1000)) decliningAlways 24 tenUnits
      Db.empty := by
  intro h
  obtain ⟨row, k, w, hrun, hended, -⟩ := h.declined fun _ _ => rfl
  obtain ⟨row', k', w', hrun', hended', -⟩ := (processPayment_ends (fun _ => some (.hundredths 1000))
    decliningAlways 24 tenUnits Db.empty (by decide) rfl).declined fun _ _ => rfl
  cases hrun.symm.trans hrun'
  exact absurd (hended'.waited.symm.trans hended.waited) (by decide)

end Microservices.Payment
