/-
  The per-order lock of the payment database (withOrderLock and its two callers in
  payment-service/src/repositories/payment.repository.js).

  Any number of `createChargedPayment` and `requestRefundByOrderId` transactions run statement by
  statement.  Without the lock the two would miss each other's uncommitted row.  With it:

  * `commits_job` — what a transaction commits is what the FUNCTION of the same name computes from
    the tables as they are at the commit;
  * `noStranded_of_interleaved` — so in no committed state does an order with a refund intent have
    a payment with status SUCCESS.

  Orders whose lock keys collide only wait for each other: `hashtext` is any function.
-/
import Microservices.Payment.Store

namespace Microservices.Payment

open ReadCommitted

/-! ## The transactions -/

/-- One call of one of the two locked repository functions. -/
inductive Job : Type where
  | charge (now : Nat) (p : ChargedPayment)
  | refund (orderId : String)

/-- The order a transaction is about. -/
def Job.orderId : Job → String
  | .charge _ p => p.orderId
  | .refund o => o

/-- What the two functions return. -/
abbrev JobResult : Type := (PaymentRow × Bool) ⊕ List (String × PaymentStatus)

/-- A client of the database. -/
abbrev PgClient : Type := Client JsError Int Stmt Rows (Except JsError JobResult)

/-- The repository function behind a call. -/
def Job.run (hashtext : String → Int) : Job → Pg JobResult
  | .charge now p => Sum.inl <$> createChargedPayment hashtext now p
  | .refund o => Sum.inr <$> requestRefundByOrderId hashtext o

/-- The program a call runs. -/
def Job.prog (hashtext : String → Int) (j : Job) : PgClient := (j.run hashtext).run

/-! ## What the statements of one lock key touch -/

/-- The order a statement is about. -/
def Stmt.orderId : Stmt → String
  | .selectRefundIntent o => o
  | .insertRefundIntent o => o
  | .insertPayment v => v.orderId
  | .refundPayments o => o

/-- The order a row write is about. -/
def Write.orderId : Write → String
  | .intent o => o
  | .payment row => row.orderId
  | .refund o _ _ => o

section Footprint

variable (hashtext : String → Int) (numeric : Float → Option Numeric)

/-- The rows of the orders under one lock key. -/
def Db.under (k : Int) (d : Db) : Db where
  payments := d.payments.filter fun row => decide (hashtext row.orderId = k)
  refundIntents := d.refundIntents.filter fun o => decide (hashtext o = k)

variable {hashtext numeric}

/-- The intents of an order are seen under its lock. -/
theorem mem_refundIntents_under {k : Int} {o : String} {d : Db} (ho : hashtext o = k) :
    o ∈ (d.under hashtext k).refundIntents ↔ o ∈ d.refundIntents := by
  show o ∈ d.refundIntents.filter _ ↔ _
  rw [List.mem_filter]
  exact ⟨fun h => h.1, fun h => ⟨h, decide_eq_true ho⟩⟩

/-- A filter for one order does not see the other orders. -/
theorem filter_under {β : Type} (hashtext : String → Int) (k : Int) (f : β → String)
    (q : β → Bool) (l : List β) (hq : ∀ b, q b = true → hashtext (f b) = k) :
    (l.filter fun b => decide (hashtext (f b) = k)).filter q = l.filter q := by
  rw [List.filter_filter]
  refine List.filter_congr fun b _ => ?_
  cases hb : q b with
  | false => rfl
  | true => rw [Bool.true_and]; exact decide_eq_true (hq b hb)

/-- A statement reads nothing outside its key. -/
theorem exec_under {s : Stmt} {k : Int} (hs : hashtext s.orderId = k) (g : Gen) (d : Db) :
    exec numeric s g (d.under hashtext k) = exec numeric s g d := by
  cases s with
  | selectRefundIntent o =>
    -- the intents of an order stand under its key
    have hown : ∀ x, decide (x = o) = true → hashtext (id x) = k := by
      intro x hx
      rw [show id x = o from of_decide_eq_true hx]
      exact hs
    have hf := filter_under hashtext k id (fun x => decide (x = o)) d.refundIntents hown
    show Except.ok (((d.under hashtext k).refundIntents.filter _).map _, _) = Except.ok _
    rw [show (d.under hashtext k).refundIntents.filter (fun x => decide (x = o)) =
      d.refundIntents.filter fun x => decide (x = o) from hf]
  | insertRefundIntent o =>
    have hm : (o ∈ (d.under hashtext k).refundIntents) = (o ∈ d.refundIntents) :=
      propext (mem_refundIntents_under hs)
    simp only [exec, hm]
  | insertPayment v => rfl
  | refundPayments o =>
    have hown : ∀ row : PaymentRow, decide (row.Refundable o) = true →
        hashtext row.orderId = k := by
      intro row hrow
      have ho : row.orderId = o := (of_decide_eq_true hrow).1
      rw [ho]
      exact hs
    have hf := filter_under hashtext k PaymentRow.orderId
      (fun row => decide (row.Refundable o)) d.payments hown
    simp only [exec, show (d.under hashtext k).payments.filter
      (fun row => decide (row.Refundable o)) = _ from hf]

/-- A statement writes rows of its own order only. -/
theorem exec_writes {s : Stmt} {g : Gen} {d : Db} {rows : Rows s} {ws : List Write} {w : Write}
    (h : exec numeric s g d = .ok (rows, ws)) (hw : w ∈ ws) : w.orderId = s.orderId := by
  -- every statement names its order
  cases s with
  | selectRefundIntent o => cases h; cases hw
  | insertRefundIntent o =>
    cases h
    split at hw
    · cases hw
    · rw [List.mem_singleton.mp hw]; rfl
  | insertPayment v =>
    simp only [exec] at h
    split at h
    · cases h
    · cases h
      rw [List.mem_singleton.mp hw]; rfl
  | refundPayments o =>
    cases h
    obtain ⟨row, -, rfl⟩ := List.mem_map.mp hw
    rfl

/-- A row write acts within its own key. -/
theorem apply_under (k : Int) (d : Db) (w : Write) :
    (apply d w).under hashtext k =
      if hashtext w.orderId = k then apply (d.under hashtext k) w else d.under hashtext k := by
  cases w with
  | intent o =>
    by_cases ho : hashtext o = k
    · rw [if_pos (show hashtext (Write.intent o).orderId = k from ho)]
      simp only [apply, mem_refundIntents_under ho]
      split
      · rfl
      · simp [Db.under, ho]
    · rw [if_neg (show ¬ hashtext (Write.intent o).orderId = k from ho)]
      simp only [apply]
      split
      · rfl
      · simp [Db.under, ho]
  | payment row =>
    by_cases ho : hashtext row.orderId = k
    · simp [apply, Db.under, Write.orderId, ho]
    · simp [apply, Db.under, Write.orderId, ho]
  | refund o id now =>
    -- the update keeps the order of every row, so it commutes with the filter
    have hkeep : ∀ row : PaymentRow,
        (if row.Refundable o ∧ row.id = id then row.refund now else row).orderId =
          row.orderId := by
      intro row
      split <;> rfl
    have hfilter : (apply d (.refund o id now)).under hashtext k =
        apply (d.under hashtext k) (.refund o id now) := by
      simp only [apply, Db.under, List.filter_map, Function.comp_def, hkeep]
    rw [hfilter]
    by_cases ho : hashtext o = k
    · rw [if_pos (show hashtext (Write.refund o id now).orderId = k from ho)]
    · rw [if_neg (show ¬ hashtext (Write.refund o id now).orderId = k from ho)]
      simp only [apply, Db.under]
      congr 1
      refine (List.map_congr_left fun row hrow => ?_).trans (List.map_id _)
      have hk : hashtext row.orderId = k := of_decide_eq_true (List.mem_filter.mp hrow).2
      rw [if_neg]
      · rfl
      · rintro ⟨⟨hr, -⟩, -⟩
        exact ho (hr ▸ hk)

variable (hashtext numeric)

/-- What the statements of one lock key read and write. -/
def footprint : Footprint (engine numeric) Int Db where
  view := Db.under hashtext
  Local k s := hashtext s.orderId = k
  exec_congr := by
    intro k s g d d' hs hv
    show exec numeric s g d = exec numeric s g d'
    rw [← exec_under hs g d, hv, exec_under hs]
  apply_congr := by
    intro k d d' w hv
    show (apply d w).under hashtext k = (apply d' w).under hashtext k
    rw [apply_under, apply_under, hv]
  apply_other := by
    intro k k' s g d rows ws w hs hx hw hk d₀
    show (apply d₀ w).under hashtext k' = d₀.under hashtext k'
    rw [apply_under, if_neg]
    rw [exec_writes hx hw, hs]
    exact hk.symm

end Footprint

/-! ## The two programs follow the locking discipline -/

/-- What is left of `withOrderLock` once something inside its transaction has failed. -/
def rollingBack {α : Type} (err : JsError) : Pg α := do
  try
    try query .rollback catch _ => pure ()
    throw err
  finally
    query .release

/-- What is left of `withOrderLock` once its function has returned. -/
def finishing {α : Type} (result : α) : Pg α := do
  try
    query .commit
    pure result
  catch err =>
    try query .rollback catch _ => pure ()
    throw err
  finally
    query .release

/-- `createChargedPayment` between its two statements. -/
def insertingCharge (now : Nat) (p : ChargedPayment) (refundRequested : Bool) : PgClient :=
  .await (.stmt (.insertPayment {
      orderId := p.orderId
      userId := p.userId
      amount := p.amount
      method := p.method
      status := if refundRequested then .refunded else .success
      transactionId := orNull p.transactionId
      error := none
      refundedAt := if refundRequested then some now else none })) fun
    | .ok row => (Sum.inl <$> finishing (row, refundRequested)).run
    | .error e => (Sum.inl <$> rollingBack e).run

/-- `createChargedPayment` once it holds the lock. -/
def chargeBody (now : Nat) (p : ChargedPayment) : PgClient :=
  .await (.stmt (.selectRefundIntent p.orderId)) fun
    | .ok intents => insertingCharge now p (decide (intents.length > 0))
    | .error e => (Sum.inl <$> rollingBack e).run

/-- `requestRefundByOrderId` between its two statements. -/
def updatingPayments (o : String) : PgClient :=
  .await (.stmt (.refundPayments o)) fun
    | .ok rows => (Sum.inr <$> finishing rows).run
    | .error e => (Sum.inr <$> rollingBack e).run

/-- `requestRefundByOrderId` once it holds the lock. -/
def refundBody (o : String) : PgClient :=
  .await (.stmt (.insertRefundIntent o)) fun
    | .ok _ => updatingPayments o
    | .error e => (Sum.inr <$> rollingBack e).run

/-- The transaction of a call once it holds the lock. -/
def Job.body : Job → PgClient
  | .charge now p => chargeBody now p
  | .refund o => refundBody o

section Guarded

variable {V : Type} {numeric : Float → Option Numeric}
variable {F : Footprint (engine numeric) Int V} {k : Int} {body : PgClient}

/-- Rolling back keeps to the locking discipline. -/
theorem rollingBack_guarded {α : Type} {f : α → JobResult} {err : JsError} {ph : Phase}
    (hph : ph = .broken ∨ ph = .closed) : Guarded F k body (f <$> rollingBack err).run ph := by
  refine ⟨hph, fun r => ?_⟩
  cases r with
  | ok u =>
    refine ⟨by decide, by decide, fun r => ?_⟩
    cases r <;> trivial
  | error e =>
    refine ⟨by decide, by decide, fun r => ?_⟩
    cases r <;> trivial

/-- So does the end of a transaction. -/
theorem finishing_guarded {α : Type} {f : α → JobResult} {result : α} :
    Guarded F k body (f <$> finishing result).run .locked := by
  refine ⟨rfl, fun r => ?_⟩
  cases r with
  | ok u =>
    refine ⟨by decide, by decide, fun r => ?_⟩
    cases r <;> trivial
  | error e => exact rollingBack_guarded (Or.inr rfl)

/-- Under the lock the two statements of a charge are statements of its order. -/
theorem chargeBody_guarded {now : Nat} {p : ChargedPayment}
    (hF : ∀ s : Stmt, s.orderId = p.orderId → F.Local k s) :
    Guarded F k body (chargeBody now p) .locked := by
  refine ⟨rfl, hF _ rfl, fun intents => ?_, fun e => rollingBack_guarded (Or.inl rfl)⟩
  exact ⟨rfl, hF _ rfl, fun row => finishing_guarded, fun e => rollingBack_guarded (Or.inl rfl)⟩

/-- So does the transaction of a refund. -/
theorem refundBody_guarded {o : String} (hF : ∀ s : Stmt, s.orderId = o → F.Local k s) :
    Guarded F k body (refundBody o) .locked := by
  refine ⟨rfl, hF _ rfl, fun u => ?_, fun e => rollingBack_guarded (Or.inl rfl)⟩
  exact ⟨rfl, hF _ rfl, fun rows => finishing_guarded, fun e => rollingBack_guarded (Or.inl rfl)⟩

end Guarded

/-- `withOrderLock` around the two functions: connect, begin, lock, and then the body. -/
theorem job_guarded (hashtext : String → Int) (numeric : Float → Option Numeric) (j : Job) :
    Guarded (footprint hashtext numeric) (hashtext j.orderId) j.body (j.prog hashtext) .idle := by
  have hF : ∀ s : Stmt, s.orderId = j.orderId →
      (footprint hashtext numeric).Local (hashtext j.orderId) s := by
    intro s hs
    show hashtext s.orderId = hashtext j.orderId
    rw [hs]
  cases j with
  | charge now p =>
    refine ⟨rfl, fun r => ?_⟩
    cases r with
    | error e => trivial
    | ok u =>
      -- BEGIN, the lock, and from there the statements of the body
      refine ⟨rfl, ⟨rfl, rfl, ?_, ?_, fun e => rollingBack_guarded (Or.inl rfl)⟩,
        fun e => rollingBack_guarded (Or.inl rfl)⟩
      · show Prog.await (TxOp.stmt (Stmt.selectRefundIntent p.orderId)) _ = Prog.await _ _
        congr 1
        funext r
        cases r with
        | error e => rfl
        | ok intents =>
          show Prog.await (TxOp.stmt (Stmt.insertPayment _)) _ = Prog.await _ _
          congr 1
          funext r
          cases r <;> rfl
      · exact chargeBody_guarded hF
  | refund o =>
    refine ⟨rfl, fun r => ?_⟩
    cases r with
    | error e => trivial
    | ok u =>
      refine ⟨rfl, ⟨rfl, rfl, ?_, ?_, fun e => rollingBack_guarded (Or.inl rfl)⟩,
        fun e => rollingBack_guarded (Or.inl rfl)⟩
      · show Prog.await (TxOp.stmt (Stmt.insertRefundIntent o)) _ = Prog.await _ _
        congr 1
        funext r
        cases r with
        | error e => rfl
        | ok u =>
          show Prog.await (TxOp.stmt (Stmt.refundPayments o)) _ = Prog.await _ _
          congr 1
          funext r
          cases r <;> rfl
      · exact refundBody_guarded hF

/-! ## What a transaction commits -/

section Commit

variable {numeric : Float → Option Numeric} {d : Db}

/-- Run alone on `d`, a charge stands before one of its two statements or at its commit, and then
    it has written the row that `Db.createChargedPayment` computes. -/
theorem charge_replay {now : Nat} {p : ChargedPayment} {q : PgClient} {ws : List Write}
    (h : Replay (engine numeric) d (chargeBody now p) q ws) :
    (q = chargeBody now p ∧ ws = []) ∨
    (q = insertingCharge now p (decide (p.orderId ∈ d.refundIntents)) ∧ ws = []) ∨
    ∃ g row b, q = (Sum.inl <$> finishing (row, b)).run ∧ ws = [.payment row] ∧
      d.createChargedPayment numeric g now p =
        .ok ((row, b), { d with payments := d.payments ++ [row] }) := by
  induction h with
  | start => exact Or.inl ⟨rfl, rfl⟩
  | @stmt st κ ws g rows ws' h hx ih =>
    rcases ih with ⟨hq, rfl⟩ | ⟨hq, rfl⟩ | ⟨g', row, b, hq, -, -⟩
    · -- the intents have been read
      unfold chargeBody at hq
      cases hq
      cases hx
      refine Or.inr (Or.inl ⟨?_, rfl⟩)
      show insertingCharge now p (decide (((d.refundIntents.filter
        fun x => decide (x = p.orderId)).map fun _ => ()).length > 0)) = _
      congr 1
      rw [List.length_map]
      refine decide_eq_decide.mpr (List.length_pos_iff_exists_mem.trans ?_)
      constructor
      · rintro ⟨x, hx⟩
        obtain ⟨hmem, heq⟩ := List.mem_filter.mp hx
        exact of_decide_eq_true heq ▸ hmem
      · exact fun hmem => ⟨_, List.mem_filter.mpr ⟨hmem, decide_eq_true rfl⟩⟩
    · -- the row has been inserted
      unfold insertingCharge at hq
      cases hq
      simp only [engine, exec, ReadCommitted.Engine.applyAll_nil] at hx
      split at hx
      · cases hx
      · rename_i amount hamount
        cases hx
        refine Or.inr (Or.inr ⟨g, _, _, rfl, rfl, ?_⟩)
        unfold Db.createChargedPayment
        rw [hamount]
        rfl
    · -- after that there is no statement
      cases hq

/-- The row updates of one `UPDATE`, applied to a table: the hit rows are refunded. -/
theorem applyAll_refunds (o : String) (now : Nat) (ids : List String) (d : Db) :
    (engine numeric).applyAll d (ids.map fun id => .refund o id now) =
      { d with
        payments := d.payments.map fun row =>
          if row.Refundable o ∧ row.id ∈ ids then row.refund now else row } := by
  induction ids generalizing d with
  | nil => simp [ReadCommitted.Engine.applyAll]
  | cons id ids ih =>
    show (engine numeric).applyAll (apply d (.refund o id now)) _ = _
    rw [ih]
    simp only [apply, List.map_map, Db.mk.injEq, and_true]
    refine List.map_congr_left fun row _ => ?_
    -- a refunded row is hit no second time
    have hdone : ¬ (row.refund now).Refundable o := fun h => nomatch h.2
    by_cases hr : row.Refundable o
    · by_cases hid : row.id = id
      · simp [hr, hid, hdone]
      · simp [hr, hid]
    · simp [hr]

/-- Run alone on `d`, a refund stands before one of its two statements or at its commit, and then
    its writes lead to the tables that `Db.requestRefundByOrderId` computes. -/
theorem refund_replay {o : String} {q : PgClient} {ws : List Write}
    (h : Replay (engine numeric) d (refundBody o) q ws) :
    (q = refundBody o ∧ ws = []) ∨
    (q = updatingPayments o ∧ ws = if o ∈ d.refundIntents then [] else [.intent o]) ∨
    ∃ g, q = (Sum.inr <$> finishing (d.requestRefundByOrderId g o).1).run ∧
      (engine numeric).applyAll d ws = (d.requestRefundByOrderId g o).2 := by
  induction h with
  | start => exact Or.inl ⟨rfl, rfl⟩
  | @stmt st κ ws g rows ws' h hx ih =>
    rcases ih with ⟨hq, rfl⟩ | ⟨hq, rfl⟩ | ⟨g', hq, -⟩
    · unfold refundBody at hq
      cases hq
      cases hx
      exact Or.inr (Or.inl ⟨rfl, rfl⟩)
    · unfold updatingPayments at hq
      cases hq
      cases hx
      -- the intent is the transaction's own write: it changes no payment
      have hown : (engine numeric).applyAll d
          (if o ∈ d.refundIntents then [] else [.intent o]) =
          { d with refundIntents :=
              if o ∈ d.refundIntents then d.refundIntents else d.refundIntents ++ [o] } := by
        by_cases ho : o ∈ d.refundIntents
        · simp [ho]
        · simp [ho, ReadCommitted.Engine.applyAll, engine, apply]
      refine Or.inr (Or.inr ⟨g, ?_, ?_⟩)
      · rw [hown]
        rfl
      · rw [ReadCommitted.Engine.applyAll_append, hown]
        have hids : ∀ l : List PaymentRow,
            l.map (fun row => Write.refund o row.id g.now) =
              (l.map PaymentRow.id).map fun id => Write.refund o id g.now :=
          fun l => by rw [List.map_map]; rfl
        rw [hids, applyAll_refunds]
        show Db.mk _ _ = Db.mk _ _
        congr 1
        refine List.map_congr_left fun row hrow => ?_
        by_cases hr : row.Refundable o
        · rw [if_pos hr, if_pos]
          exact ⟨hr, List.mem_map.mpr ⟨row, List.mem_filter.mpr ⟨hrow, decide_eq_true hr⟩, rfl⟩⟩
        · rw [if_neg hr, if_neg fun h => hr h.1]
    · cases hq

/-- The transaction-level reading of a call, with whatever identifier and time the server gives
    it. -/
def Job.Effect (numeric : Float → Option Numeric) (j : Job) (d d' : Db) : Prop :=
  match j with
  | .charge now p => ∃ g res, d.createChargedPayment numeric g now p = .ok (res, d')
  | .refund o => ∃ g, d' = (d.requestRefundByOrderId g o).2

/-- **What a transaction commits is what the function of the same name computes.** -/
theorem commits_job {j : Job} {d' : Db} (h : Commits (engine numeric) j.body d d') :
    j.Effect numeric d d' := by
  obtain ⟨κ, ws, hr, rfl⟩ := h
  cases j with
  | charge now p =>
    -- only a body that has reached its end commits
    rcases charge_replay hr with ⟨hq, -⟩ | ⟨hq, -⟩ | ⟨g, row, b, -, rfl, hc⟩
    · unfold chargeBody at hq
      cases hq
    · unfold insertingCharge at hq
      cases hq
    · exact ⟨g, (row, b), hc⟩
  | refund o =>
    rcases refund_replay hr with ⟨hq, -⟩ | ⟨hq, -⟩ | ⟨g, -, hws⟩
    · unfold refundBody at hq
      cases hq
    · unfold updatingPayments at hq
      cases hq
    · exact ⟨g, hws⟩

/-- A transaction taken as a whole keeps the refund protocol's safety condition. -/
theorem effect_noStranded {j : Job} {d' : Db} (hd : d.NoStranded) (h : j.Effect numeric d d') :
    d'.NoStranded := by
  cases j with
  | charge now p =>
    obtain ⟨g, res, hc⟩ := h
    exact createChargedPayment_noStranded hd hc
  | refund o =>
    obtain ⟨g, rfl⟩ := h
    exact requestRefund_noStranded hd

end Commit

/-! ## Any interleaving of the statements -/

section Interleaving

variable {ι : Type} [DecidableEq ι]

/-- A state that the transactions `job i` reach from the migrated tables, one request at a time in
    any order. -/
def Interleaved (hashtext : String → Int) (numeric : Float → Option Numeric) (job : ι → Job)
    (s : State JsError Int Stmt Db Write ι Rows (Except JsError JobResult)) : Prop :=
  Relation.ReflTransGen (Step (engine numeric))
    (State.init Db.empty fun i => (job i).prog hashtext) s

variable {hashtext : String → Int} {numeric : Float → Option Numeric} {job : ι → Job}
variable {s : State JsError Int Stmt Db Write ι Rows (Except JsError JobResult)}

/-- **The statement level refines the transaction level**: the committed tables are those of whole
    transactions run one after the other. -/
theorem interleaved_serial (h : Interleaved hashtext numeric job s) :
    Relation.ReflTransGen (fun d d' => ∃ i, (job i).Effect numeric d d') Db.empty s.committed := by
  have hserial := committed_serial (footprint hashtext numeric)
    (fun i => hashtext (job i).orderId) (fun i => (job i).body)
    (fun i => job_guarded hashtext numeric (job i)) h
  refine Relation.ReflTransGen.mono ?_ _ _ hserial
  rintro d d' ⟨i, hi⟩
  exact ⟨i, commits_job hi⟩

/-- **The per-order lock is enough.**  In no committed state does an order with a refund intent
    have a payment with status SUCCESS. -/
theorem noStranded_of_interleaved (h : Interleaved hashtext numeric job s) :
    s.committed.NoStranded := by
  have hserial := interleaved_serial h
  generalize s.committed = d at hserial
  induction hserial with
  | refl => exact noStranded_empty
  | tail _ hstep ih =>
    obtain ⟨i, hi⟩ := hstep
    exact effect_noStranded ih hi

/-- A refund and a charge of one order whose statements alternate: the charge waits for the lock,
    then sees the intent. -/
theorem noStranded_of_alternating :
    let job : Bool → Job := fun i =>
      if i then .charge 7 ⟨"o", "u", 15, "CREDIT_CARD", "TXN-1"⟩ else .refund "o"
    ∃ s, Interleaved (fun _ => 0) (fun _ => some (.hundredths 1500)) job s ∧
      s.committed.refundIntents = ["o"] ∧
      s.committed.payments.map PaymentRow.status = [.refunded] ∧ s.committed.NoStranded := by
  intro job
  have hrun : Interleaved (fun _ => 0) (fun _ => some (.hundredths 1500)) job _ :=
    -- the refund holds the lock when the charge begins
    .head (.connect false (.ok ()) rfl) <|
    .head (.beginOk false rfl rfl) <|
    .head (.connect true (.ok ()) rfl) <|
    .head (.lockOk false rfl rfl (Or.inl rfl)) <|
    .head (.beginOk true rfl rfl) <|
    .head (.stmtOk false ⟨"i", 1⟩ rfl rfl rfl) <|
    .head (.stmtOk false ⟨"i", 2⟩ rfl rfl rfl) <|
    .head (.commitOk false (.ok ()) rfl rfl) <|
    .head (.unlock false 0 rfl rfl) <|
    .head (.lockOk true rfl rfl (Or.inl rfl)) <|
    .head (.stmtOk true ⟨"i", 3⟩ rfl rfl rfl) <|
    .head (.stmtOk true ⟨"p", 4⟩ rfl rfl rfl) <|
    .head (.commitOk true (.ok ()) rfl rfl) .refl
  exact ⟨_, hrun, rfl, rfl, noStranded_of_interleaved hrun⟩

end Interleaving

end Microservices.Payment
