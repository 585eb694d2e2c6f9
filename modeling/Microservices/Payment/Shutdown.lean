/-
  How long a payment takes, and shutting payment-service down (processPayment in
  payment-service/src/services/payment.service.js, payment-service/src/gateway/payment-gateway.js,
  setupGracefulShutdown in payment-service/src/server.js, grpcTimeouts in
  order-service/src/config/index.js).

  Two things are set against the time that the retry loop may need: the deadline order-service gives
  to ProcessPayment, and the ten seconds after which the process ends whatever is still going on.  The
  slowest run is one whose charges are all accepted, each at the last moment, and cannot be recorded;
  `slowest` is its time, and nothing takes longer.
-/
import Microservices.Lib.Duration
import Microservices.Order.Shutdown
import Microservices.Payment.Replies
import Microservices.Payment.Retry

namespace Microservices.Payment

/-! ## The time of a request -/

/-- A call of the repository. -/
def PayOp.AtRepository : PayOp → Prop
  | .charge _ _ => False
  | .sleep _ => False
  | _ => True

/-- The gateway takes `Math.random() * 2000`, in the whole milliseconds that `setTimeout` counts, so
    less than two seconds; a call of the repository takes up to `db` milliseconds, a sleep what its
    timer makes of the time it is given. -/
inductive Lasts (db : Nat) : (op : PayOp) → PayRes op → Nat → Prop where
  | charge {orderId amount t} (out : GatewayOutcome) (h : t < 2000) :
      Lasts db (.charge orderId amount) (gatewayCharge out) t
  | sleep {ms} : Lasts db (.sleep ms) (.ok ()) (timerDelay ms)
  | repository {op r t} (hop : op.AtRepository) (h : t ≤ db) : Lasts db op r t

/-- The most that a request takes. -/
def longest (db : Nat) : PayOp → Nat
  | .charge _ _ => 1999
  | .sleep ms => timerDelay ms
  | _ => db

/-- No request lasts longer than its bound. -/
theorem Lasts.le_longest {db : Nat} {op : PayOp} {r : PayRes op} {t : Nat} (h : Lasts db op r t) :
    t ≤ longest db op := by
  cases h with
  | charge out h => exact Nat.le_pred_of_lt h
  | sleep => exact Nat.le_refl _
  -- the two that are no queries have their own bounds
  | repository hop h =>
    cases op with
    | charge orderId amount => exact hop.elim
    | sleep ms => exact hop.elim
    | createChargedPayment p => exact h
    | create p => exact h
    | requestRefundByOrderId o => exact h
    | findByOrderId o => exact h
    | findById id => exact h
    | markRefunded id => exact h

/-! ## The time of the retry loop -/

/-- What a call of the repository throws whose connection goes away. -/
def connectionEnded : JsError := { message := "Connection terminated unexpectedly" }

/-- The wait after an attempt that failed; none after the last. -/
def waitAfterAttempt (maxRetries attempt : Nat) : Nat :=
  if attempt < maxRetries then timerDelay (backoff attempt) else 0

/-- The slowest that is left with `remaining` attempts, `attempt` being the next. -/
def slowestFrom (maxRetries db : Nat) : Nat → Nat → Nat
  | 0, _ => db
  | remaining + 1, attempt =>
    1999 + (db + (waitAfterAttempt maxRetries attempt +
      slowestFrom maxRetries db remaining (attempt + 1)))

/-- The slowest `processPayment`: every attempt, every wait, and the FAILED row. -/
def slowest (maxRetries db : Nat) : Nat :=
  maxRetries * (1999 + db) + waitedAfter (maxRetries - 1) + db

section Loop

variable {maxRetries db : Nat} {req : PaymentRequest}

/-- What is left of the slowest call, as the waits up to the last attempt less those before it. -/
theorem slowestFrom_eq (remaining attempt : Nat) (hattempt : 0 < attempt)
    (hsum : attempt + remaining = maxRetries + 1) :
    slowestFrom maxRetries db remaining attempt =
      remaining * (1999 + db) + (waitedAfter (maxRetries - 1) - waitedAfter (attempt - 1)) + db := by
  induction remaining generalizing attempt with
  | zero =>
    have hle : waitedAfter (maxRetries - 1) ≤ waitedAfter (attempt - 1) :=
      waitedAfter_mono (by omega)
    show db = _
    rw [Nat.sub_eq_zero_of_le hle]
    omega
  | succ remaining ih =>
    obtain ⟨i, rfl⟩ : ∃ i, attempt = i + 1 := ⟨attempt - 1, by omega⟩
    have hrest := ih (i + 1 + 1) (Nat.succ_pos _) (by omega)
    have hnext := waitedAfter_succ i
    show 1999 + (db + (waitAfterAttempt maxRetries (i + 1) +
      slowestFrom maxRetries db remaining (i + 1 + 1))) = _
    rw [hrest, Nat.add_sub_cancel, Nat.add_sub_cancel, Nat.succ_mul]
    unfold waitAfterAttempt
    by_cases hlt : i + 1 < maxRetries
    · -- there is another attempt, so a wait
      have hle : waitedAfter (i + 1) ≤ waitedAfter (maxRetries - 1) := waitedAfter_mono (by omega)
      rw [if_pos hlt]
      omega
    · have heq : maxRetries - 1 = i := by omega
      have hle : waitedAfter i ≤ waitedAfter (i + 1) := waitedAfter_mono (Nat.le_succ i)
      rw [if_neg hlt, heq, Nat.sub_self, Nat.sub_eq_zero_of_le hle]
      omega

/-- The slowest payment begins with its first attempt. -/
theorem slowestFrom_start : slowestFrom maxRetries db maxRetries 1 = slowest maxRetries db :=
  slowestFrom_eq maxRetries 1 Nat.one_pos (Nat.add_comm 1 maxRetries)

/-- No run of the loop takes longer. -/
theorem attempts_atMost (remaining attempt : Nat) (le : Option JsError) :
    (attempts maxRetries req remaining attempt le).run.AtMost (longest db)
      (slowestFrom maxRetries db remaining attempt) := by
  induction remaining generalizing attempt le with
  | zero =>
    cases le with
    | none => trivial
    | some e =>
      refine ⟨0, Nat.le_refl _, fun r => ?_⟩
      cases r <;> trivial
  | succ n ih =>
    -- what is left once an attempt has failed
    have hretry : ∀ err : JsError, (do
        if attempt < maxRetries then
          pay (.sleep (backoff attempt))
        attempts maxRetries req n (attempt + 1) (some err) : Pay PaymentRow).run.AtMost (longest db)
          (waitAfterAttempt maxRetries attempt + slowestFrom maxRetries db n (attempt + 1)) := by
      intro err
      unfold waitAfterAttempt
      split
      · refine ⟨_, Nat.le_refl _, fun r => ?_⟩
        cases r with
        | ok u => exact ih _ _
        | error e => trivial
      · rw [Nat.zero_add]
        exact ih _ _
    refine ⟨_, Nat.le_refl _, fun r => ?_⟩
    cases r with
    | error e => exact (hretry e).mono (Nat.le_add_left _ _)
    | ok transactionId =>
      refine ⟨_, Nat.le_refl _, fun r => ?_⟩
      cases r with
      | error e => exact hretry e
      | ok stored => trivial

/-- One run takes as long: every charge is accepted and none is recorded. -/
theorem attempts_takes (remaining attempt : Nat) (le : Option JsError)
    (hle : remaining = 0 → le ≠ none) :
    ∃ res, (attempts maxRetries req remaining attempt le).run.Takes (Lasts db) res
      (slowestFrom maxRetries db remaining attempt) := by
  induction remaining generalizing attempt le with
  | zero =>
    cases le with
    | none => exact absurd rfl (hle rfl)
    | some e =>
      exact ⟨.error connectionEnded, .error connectionEnded, db, 0,
        .repository trivial (Nat.le_refl db), ⟨rfl, rfl⟩, rfl⟩
  | succ n ih =>
    obtain ⟨res, hres⟩ := ih (attempt + 1) (some connectionEnded) fun _ => nofun
    have hretry : (do
        if attempt < maxRetries then
          pay (.sleep (backoff attempt))
        attempts maxRetries req n (attempt + 1) (some connectionEnded) :
          Pay PaymentRow).run.Takes (Lasts db) res
          (waitAfterAttempt maxRetries attempt + slowestFrom maxRetries db n (attempt + 1)) := by
      unfold waitAfterAttempt
      split
      · exact ⟨.ok (), timerDelay (backoff attempt), _, .sleep, hres, rfl⟩
      · rw [Nat.zero_add]
        exact hres
    -- the slowest attempt is charged at the last moment, and its INSERT fails in the end
    refine ⟨res, .ok (transactionIdOf 0 ""), 1999, _, .charge (.accepted 0 "") (Nat.le_refl 2000),
      ?_, rfl⟩
    exact ⟨.error connectionEnded, db, _, .repository trivial (Nat.le_refl db), hretry, rfl⟩

end Loop

/-! ## The time of a call -/

section Calls

variable {maxRetries db H : Nat}

/-- It takes at least one charge and one record. -/
theorem slowest_pos (hpos : 0 < maxRetries) : 1999 + db + db ≤ slowest maxRetries db := by
  have hone : 1999 + db ≤ maxRetries * (1999 + db) := Nat.le_mul_of_pos_left _ hpos
  unfold slowest
  omega

/-- The bound of `refundPayment`. -/
theorem refundPayment_atMost (id : String) :
    (refundPayment id).run.AtMost (longest db) (db + (500 + db)) := by
  refine ⟨500 + db, Nat.le_refl _, fun r => ?_⟩
  cases r with
  | error e => trivial
  | ok found =>
    cases found with
    | none => trivial
    | some row =>
      obtain ⟨x, orderId, userId, amount, method, status, tx, error, createdAt, refundedAt⟩ := row
      cases status with
      | failed => trivial
      | refunded => trivial
      -- the query, then half a second, then the UPDATE
      | success =>
        refine ⟨db, Nat.le_refl _, fun slept => ?_⟩
        cases slept with
        | error e => trivial
        | ok u =>
          refine ⟨0, Nat.le_refl _, fun r => ?_⟩
          cases r <;> trivial

/-- The bound of `refundByOrderId`. -/
theorem refundByOrderId_atMost (o : String) :
    (refundByOrderId o).run.AtMost (longest db) (db + db) := by
  refine ⟨db, Nat.le_refl _, fun r => ?_⟩
  cases r with
  | error e => trivial
  | ok rows =>
    cases rows with
    | cons row rest => trivial
    -- a second query is asked only where nothing was refunded
    | nil =>
      refine ⟨0, Nat.le_refl _, fun r => ?_⟩
      cases r with
      | error e => trivial
      | ok existing =>
        show Prog.AtMost _ (ExceptT.run (ite _ _ (ite _ _ _))) 0
        split
        · trivial
        · split <;> trivial

/-- No call takes longer than the slowest payment. -/
theorem program_atMost (hpos : 0 < maxRetries) (q : Request) :
    (program maxRetries q).AtMost (longest db) (slowest maxRetries db) := by
  have hslow := @slowest_pos maxRetries db hpos
  cases q with
  | processPayment req =>
    have h := @attempts_atMost maxRetries db req maxRetries 1 none
    rw [slowestFrom_start] at h
    exact h
  | refundPayment id => exact (refundPayment_atMost id).mono (by omega)
  | refundByOrderId o => exact (refundByOrderId_atMost o).mono (by omega)

/-- **No call takes longer than the slowest payment.** -/
theorem handlers_takes_le (hpos : 0 < maxRetries) {q : Request} {reply : Reply q} {t : Nat}
    (h : (handlers maxRetries q).Takes (Lasts db) reply t) : t ≤ slowest maxRetries db := by
  rw [handlers_eq, Prog.takes_map] at h
  obtain ⟨a, ha, -⟩ := h
  exact (program_atMost hpos q).takes Lasts.le_longest ha

/-- **Some payment takes that long.** -/
theorem handlers_takes_slowest (hpos : 0 < maxRetries) (req : PaymentRequest) :
    ∃ reply, (handlers maxRetries (.processPayment req)).Takes (Lasts db) reply
      (slowest maxRetries db) := by
  obtain ⟨res, hres⟩ := @attempts_takes maxRetries db req maxRetries 1 none
    fun h => absurd h (Nat.ne_of_gt hpos)
  rw [slowestFrom_start] at hres
  refine ⟨replyOf (.processPayment req) res, ?_⟩
  rw [handlers_eq, Prog.takes_map]
  exact ⟨res, hres, rfl⟩

/-- **The deadline of ProcessPayment**, for every number of attempts and every speed of the database:
    order-service gives up no call before its reply exactly if the deadline covers every attempt, every
    wait as its timer makes it, and the record of the failure. -/
theorem deadline_covers_iff (timeouts : Order.GrpcTimeouts) (hpos : 0 < maxRetries) :
    (∀ req reply t, (handlers maxRetries (.processPayment req)).Takes (Lasts db) reply t →
      t ≤ timeouts.payment) ↔
      maxRetries * (1999 + db) + waitedAfter (maxRetries - 1) + db ≤ timeouts.payment := by
  constructor
  · intro h
    obtain ⟨reply, hreply⟩ := @handlers_takes_slowest maxRetries db hpos ⟨"", "", 0, ""⟩
    exact h _ _ _ hreply
  · intro h req reply t ht
    exact Nat.le_trans (handlers_takes_le hpos ht) h

end Calls

/-- With three attempts and fifteen seconds it does while the database answers within a second and a
    half, and no longer. -/
theorem deadline_covers_configured :
    (∀ req reply t, (handlers 3 (.processPayment req)).Takes (Lasts 1500) reply t →
      t ≤ Order.grpcTimeouts.payment) ∧
    ¬ ∀ req reply t, (handlers 3 (.processPayment req)).Takes (Lasts 1501) reply t →
      t ≤ Order.grpcTimeouts.payment := by
  refine ⟨(deadline_covers_iff Order.grpcTimeouts (Nat.zero_lt_succ 2)).mpr (by decide), fun h => ?_⟩
  have hcovers := (deadline_covers_iff Order.grpcTimeouts (Nat.zero_lt_succ 2)).mp h
  exact absurd hcovers (by decide)

/-! ## Shutting down -/

/-- A call in progress when the signal arrives: how long it takes in all, how long ago it was made,
    and how long after the signal its client goes away, if it does. -/
structure InProgress (maxRetries db : Nat) where
  req : Request
  reply : Reply req
  duration : Nat
  takes : (handlers maxRetries req).Takes (Lasts db) reply duration
  age : Nat
  gone : Option Nat

section Shutdown

variable {maxRetries db : Nat}

/-- When its handler has replied, in milliseconds after the signal. -/
def InProgress.replied (c : InProgress maxRetries db) : Nat := c.duration - c.age

/-- When the server takes the call for ended. -/
def InProgress.ends (c : InProgress maxRetries db) : Nat :=
  match c.gone with
  | none => c.replied
  | some t => min t c.replied

/-- The time the process gives itself, in milliseconds. -/
def forcedExit : Nat := 10000

/-- When the process exits, in milliseconds after the signal.  `tryShutdown` says when the server calls
    back, given when each call in progress has ended; `poolEnd` is how long the pool takes. -/
def exitAfter (tryShutdown : List Nat → Nat) (poolEnd : Nat) (calls : List (InProgress maxRetries db)) :
    Nat :=
  min forcedExit (tryShutdown (calls.map InProgress.ends) + poolEnd)

/-- Within ten seconds no wait is too long for its timer. -/
theorem slowest_le_forcedExit_iff :
    slowest maxRetries db ≤ forcedExit ↔
      maxRetries * (1999 + db) + (2 ^ (maxRetries - 1) - 1) * 1000 + db ≤ forcedExit := by
  unfold slowest forcedExit
  by_cases hfew : maxRetries - 1 ≤ 22
  · rw [(waitedAfter_eq_iff _).mpr hfew]
  · have hcharges : 24 * 1999 ≤ maxRetries * (1999 + db) := Nat.mul_le_mul (by omega) (by omega)
    omega

/-- **Shutting down cuts no call off** whose client stays, whichever calls are in progress, exactly if
    the slowest payment fits into the ten seconds the process gives itself; provided that the server
    waits for the calls that have not ended. -/
theorem shutdown_completes_iff {tryShutdown : List Nat → Nat}
    (htry : ∀ ends, ∀ t ∈ ends, t ≤ tryShutdown ends) (hpos : 0 < maxRetries) (poolEnd : Nat) :
    (∀ calls : List (InProgress maxRetries db), ∀ c ∈ calls, c.gone = none →
      c.replied ≤ exitAfter tryShutdown poolEnd calls) ↔
      maxRetries * (1999 + db) + (2 ^ (maxRetries - 1) - 1) * 1000 + db ≤ forcedExit := by
  rw [← slowest_le_forcedExit_iff]
  constructor
  · intro h
    obtain ⟨reply, hreply⟩ := @handlers_takes_slowest maxRetries db hpos ⟨"", "", 0, ""⟩
    -- a payment that has just been asked for
    let c : InProgress maxRetries db := ⟨_, reply, _, hreply, 0, none⟩
    have hexit := h [c] c List.mem_cons_self rfl
    exact Nat.le_trans hexit (Nat.min_le_left _ _)
  · intro h calls c hc hgone
    have hslow : c.replied ≤ slowest maxRetries db :=
      Nat.le_trans (Nat.sub_le _ _) (handlers_takes_le hpos c.takes)
    have hwaits : c.replied ≤ tryShutdown (calls.map InProgress.ends) := by
      refine htry _ _ (List.mem_map.mpr ⟨c, hc, ?_⟩)
      unfold InProgress.ends
      rw [hgone]
    exact Nat.le_min.mpr ⟨Nat.le_trans hslow h, Nat.le_trans hwaits (Nat.le_add_right _ _)⟩

end Shutdown

/-- With three attempts none is cut off while the database answers within a quarter of a second. -/
theorem shutdown_completes_configured :
    (∀ calls : List (InProgress 3 250), ∀ c ∈ calls, c.gone = none →
      c.replied ≤ exitAfter Order.lastOf 0 calls) ∧
    ¬ ∀ calls : List (InProgress 3 251), ∀ c ∈ calls, c.gone = none →
      c.replied ≤ exitAfter Order.lastOf 0 calls := by
  refine ⟨(shutdown_completes_iff Order.le_lastOf (Nat.zero_lt_succ 2) 0).mpr (by decide),
    fun h => ?_⟩
  have hfits := (shutdown_completes_iff Order.le_lastOf (Nat.zero_lt_succ 2) 0).mp h
  exact absurd hfits (by decide)

end Microservices.Payment
