/-
  The payment database and its repository (payment-service/src/db/migrate.js,
  payment-service/src/repositories/payment.repository.js).

  Two readings of the two transactions that matter, `createChargedPayment` and
  `requestRefundByOrderId`:

  * as PROGRAMS of single statements over one connection (`withOrderLock` and its callers), for
    the interleavings of `Microservices.Payment.OrderLock`;
  * as FUNCTIONS of the whole database (`Db.createChargedPayment`, `Db.requestRefundByOrderId`),
    for everything above the database.

  `Microservices.Payment.OrderLock` proves that the first commits what the second computes.
-/
import Microservices.Common
import Microservices.Lib.ReadCommitted

namespace Microservices.Payment

open ReadCommitted (TxOp Reply Res Engine)

/-! ## Tables -/

/-- The values of the column `payments.status`. -/
inductive PaymentStatus : Type where
  | success
  | failed
  | refunded
  deriving DecidableEq, Repr

/-- A row of `payments`. -/
structure PaymentRow where
  id : String
  orderId : String
  userId : String
  amount : Numeric
  method : String
  status : PaymentStatus
  transactionId : Option String
  error : Option String
  createdAt : Nat
  refundedAt : Option Nat
  deriving DecidableEq, Repr

/-- The two tables; of a refund intent only its primary key `order_id` is ever read. -/
structure Db where
  payments : List PaymentRow
  refundIntents : List String
  deriving DecidableEq, Repr

/-- The tables as `migrate` creates them. -/
def Db.empty : Db := ⟨[], []⟩

/-- What the server generates while it runs a statement: `gen_random_uuid()` and `now()`. -/
structure Gen where
  uuid : String
  now : Nat
  deriving DecidableEq, Repr

/-- What a caller of `createChargedPayment` passes. -/
structure ChargedPayment where
  orderId : String
  userId : String
  amount : Float
  method : String
  transactionId : String
  deriving DecidableEq

/-- What a caller of `create` passes. -/
structure NewPayment where
  orderId : String
  userId : String
  amount : Float
  method : String
  status : PaymentStatus
  transactionId : Option String
  error : Option String
  deriving DecidableEq

/-- The JavaScript `s || null`: an empty string counts as absent. -/
def orNull (s : String) : Option String := if s = "" then none else some s

/-! ## Statements -/

/-- The parameters of an `INSERT INTO payments`. -/
structure InsertValues where
  orderId : String
  userId : String
  amount : Float
  method : String
  status : PaymentStatus
  transactionId : Option String
  error : Option String
  refundedAt : Option Nat
  deriving DecidableEq

/-- The statements the two locked transactions make. -/
inductive Stmt : Type where
  | selectRefundIntent (orderId : String)
  | insertRefundIntent (orderId : String)
  | insertPayment (v : InsertValues)
  | refundPayments (orderId : String)

/-- What a statement returns. -/
abbrev Rows : Stmt → Type
  | .selectRefundIntent _ => List Unit
  | .insertRefundIntent _ => Unit
  | .insertPayment _ => PaymentRow
  | .refundPayments _ => List (String × PaymentStatus)

/-- One row written by a statement. -/
inductive Write : Type where
  | intent (orderId : String)
  | payment (row : PaymentRow)
  | refund (orderId id : String) (now : Nat)

/-- `UPDATE payments SET status = 'REFUNDED', refunded_at = now()` of one row. -/
def PaymentRow.refund (row : PaymentRow) (now : Nat) : PaymentRow :=
  { row with status := .refunded, refundedAt := some now }

/-- The condition `order_id = $1 AND status = 'SUCCESS'`. -/
def PaymentRow.Refundable (row : PaymentRow) (orderId : String) : Prop :=
  row.orderId = orderId ∧ row.status = .success

/-- Whether a row can be refunded can be computed. -/
instance (row : PaymentRow) (orderId : String) : Decidable (row.Refundable orderId) :=
  inferInstanceAs (Decidable (_ ∧ _))

/-- The row an `INSERT INTO payments` makes once its amount is read. -/
def InsertValues.row (v : InsertValues) (amount : Numeric) (g : Gen) : PaymentRow where
  id := g.uuid
  orderId := v.orderId
  userId := v.userId
  amount := amount
  method := v.method
  status := v.status
  transactionId := v.transactionId
  error := v.error
  createdAt := g.now
  refundedAt := v.refundedAt

/-- What each statement reads and writes, on the tables it sees. -/
def exec (numeric : Float → Option Numeric) (s : Stmt) (g : Gen) (d : Db) :
    Except JsError (Rows s × List Write) :=
  match s with
  | .selectRefundIntent o => .ok ((d.refundIntents.filter (· = o)).map fun _ => (), [])
  | .insertRefundIntent o => .ok ((), if o ∈ d.refundIntents then [] else [.intent o])
  | .insertPayment v =>
    match numeric v.amount with
    | none => .error numericOverflow
    | some amount => .ok (v.row amount g, [.payment (v.row amount g)])
  | .refundPayments o =>
    let hit := d.payments.filter fun row => decide (row.Refundable o)
    .ok (hit.map fun row => (row.id, .refunded), hit.map fun row => .refund o row.id g.now)

/-- One row write.  The `UPDATE` checks its condition again on the row it finds, as READ COMMITTED
    does; a second intent of an order is dropped by `ON CONFLICT DO NOTHING`. -/
def apply (d : Db) : Write → Db
  | .intent o =>
    if o ∈ d.refundIntents then d else { d with refundIntents := d.refundIntents ++ [o] }
  | .payment row => { d with payments := d.payments ++ [row] }
  | .refund o id now =>
    { d with
      payments := d.payments.map fun row =>
        if row.Refundable o ∧ row.id = id then row.refund now else row }

/-- The payment database as a statement engine. -/
def engine (numeric : Float → Option Numeric) : Engine JsError Gen Db Write Stmt Rows :=
  ⟨exec numeric, apply⟩

/-! ## The repository, statement by statement -/

/-- A repository function: requests over one connection, or an error. -/
abbrev Pg (α : Type) : Type := ExceptT JsError (Prog (TxOp Int Stmt) (Res JsError Rows)) α

/-- `client.query(...)`, and likewise `pool.connect()` and `client.release()`. -/
def query (o : TxOp Int Stmt) : Pg (Reply Rows o) := ExceptT.mk (Prog.ask o)

/-- Run `fn` in a transaction that holds the advisory lock of `hashtext(orderId)`. -/
def withOrderLock {α : Type} (hashtext : String → Int) (orderId : String) (fn : Pg α) : Pg α := do
  query .connect
  try
    query .begin
    query (.lock (hashtext orderId))
    let result ← fn
    query .commit
    pure result
  catch err =>
    try query .rollback catch _ => pure ()
    throw err
  finally
    query .release

/-- Record a charge; REFUNDED at once if the saga has already asked for the refund.  `now` is the
    service's own clock (`new Date()`). -/
def createChargedPayment (hashtext : String → Int) (now : Nat) (p : ChargedPayment) :
    Pg (PaymentRow × Bool) :=
  withOrderLock hashtext p.orderId do
    let intents ← query (.stmt (.selectRefundIntent p.orderId))
    let refundRequested := decide (intents.length > 0)
    let row ← query (.stmt (.insertPayment {
      orderId := p.orderId
      userId := p.userId
      amount := p.amount
      method := p.method
      status := if refundRequested then .refunded else .success
      transactionId := orNull p.transactionId
      error := none
      refundedAt := if refundRequested then some now else none }))
    return (row, refundRequested)

/-- Record the refund intent, then refund every SUCCESS payment of the order. -/
def requestRefundByOrderId (hashtext : String → Int) (orderId : String) :
    Pg (List (String × PaymentStatus)) :=
  withOrderLock hashtext orderId do
    query (.stmt (.insertRefundIntent orderId))
    query (.stmt (.refundPayments orderId))

/-! ## The repository, transaction by transaction -/

/-- `createChargedPayment` as one transaction: the stored row, whether a refund had been
    requested, and the tables after the commit. -/
def Db.createChargedPayment (numeric : Float → Option Numeric) (g : Gen) (now : Nat)
    (p : ChargedPayment) (d : Db) : Except JsError ((PaymentRow × Bool) × Db) :=
  match numeric p.amount with
  | none => .error numericOverflow
  | some amount =>
    let refundRequested := decide (p.orderId ∈ d.refundIntents)
    let row : PaymentRow :=
      { id := g.uuid
        orderId := p.orderId
        userId := p.userId
        amount := amount
        method := p.method
        status := if refundRequested then .refunded else .success
        transactionId := orNull p.transactionId
        error := none
        createdAt := g.now
        refundedAt := if refundRequested then some now else none }
    .ok ((row, refundRequested), { d with payments := d.payments ++ [row] })

/-- `requestRefundByOrderId` as one transaction: the refunded rows and the tables after the
    commit. -/
def Db.requestRefundByOrderId (g : Gen) (orderId : String) (d : Db) :
    List (String × PaymentStatus) × Db :=
  ((d.payments.filter fun row => decide (row.Refundable orderId)).map
      fun row => (row.id, .refunded),
    { payments := d.payments.map fun row =>
        if row.Refundable orderId then row.refund g.now else row
      refundIntents :=
        if orderId ∈ d.refundIntents then d.refundIntents else d.refundIntents ++ [orderId] })

/-- `create`: one autocommitted `INSERT`. -/
def Db.create (numeric : Float → Option Numeric) (g : Gen) (p : NewPayment) (d : Db) :
    Except JsError (PaymentRow × Db) :=
  match numeric p.amount with
  | none => .error numericOverflow
  | some amount =>
    let row : PaymentRow :=
      { id := g.uuid
        orderId := p.orderId
        userId := p.userId
        amount := amount
        method := p.method
        status := p.status
        transactionId := p.transactionId.bind orNull
        error := p.error.bind orNull
        createdAt := g.now
        refundedAt := none }
    .ok (row, { d with payments := d.payments ++ [row] })

/-- `findByOrderId`: the rows of an order by `created_at`. -/
def Db.findByOrderId (orderId : String) (d : Db) : List PaymentRow :=
  (d.payments.filter fun row => decide (row.orderId = orderId)).mergeSort
    fun a b => decide (a.createdAt ≤ b.createdAt)

/-! ## The safety condition of the refund protocol -/

/-- An order whose refund has been requested has no payment that still counts as charged. -/
def Db.NoStranded (d : Db) : Prop :=
  ∀ row ∈ d.payments, row.orderId ∈ d.refundIntents → row.status ≠ .success

section NoStranded

variable {numeric : Float → Option Numeric} {g : Gen} {d d' : Db}

/-- In an empty ledger nothing is stranded. -/
theorem noStranded_empty : Db.empty.NoStranded := by
  intro row hrow
  cases hrow

/-- What a charge leaves behind: one more row, REFUNDED exactly if its order has an intent. -/
theorem createChargedPayment_spec {now : Nat} {p : ChargedPayment} {row : PaymentRow} {b : Bool}
    (h : d.createChargedPayment numeric g now p = .ok ((row, b), d')) :
    d' = { d with payments := d.payments ++ [row] } ∧ row.id = g.uuid ∧ row.orderId = p.orderId ∧
      numeric p.amount = some row.amount ∧ row.transactionId = orNull p.transactionId ∧
      (row.status = .refunded ∧ p.orderId ∈ d.refundIntents ∨
        row.status = .success ∧ p.orderId ∉ d.refundIntents) := by
  unfold Db.createChargedPayment at h
  split at h
  · cases h
  · rename_i amount hamount
    cases h
    refine ⟨rfl, rfl, rfl, hamount, rfl, ?_⟩
    by_cases hi : p.orderId ∈ d.refundIntents
    · exact Or.inl ⟨by simp [hi], hi⟩
    · exact Or.inr ⟨by simp [hi], hi⟩

/-- `createChargedPayment` strands no payment. -/
theorem createChargedPayment_noStranded {now : Nat} {p : ChargedPayment}
    {res : PaymentRow × Bool} (hd : d.NoStranded)
    (h : d.createChargedPayment numeric g now p = .ok (res, d')) : d'.NoStranded := by
  obtain ⟨row₀, b⟩ := res
  obtain ⟨rfl, -, ho, -, -, hstatus⟩ := createChargedPayment_spec h
  intro row hrow hintent
  rcases List.mem_append.mp hrow with hold | hnew
  · exact hd row hold hintent
  · rw [List.mem_singleton] at hnew
    subst hnew
    -- where there is an intent the row is stored as refunded
    rcases hstatus with ⟨hs, -⟩ | ⟨-, hni⟩
    · rw [hs]; decide
    · exact absurd (ho ▸ hintent) hni

/-- What a refund leaves behind, row by row. -/
theorem mem_requestRefund {o : String} {row : PaymentRow}
    (h : row ∈ (d.requestRefundByOrderId g o).2.payments) :
    (∃ old ∈ d.payments, old.Refundable o ∧ row = old.refund g.now) ∨
      ¬ row.Refundable o ∧ row ∈ d.payments := by
  obtain ⟨old, hold, heq⟩ := List.mem_map.mp h
  by_cases hr : old.Refundable o
  · rw [if_pos hr] at heq
    exact Or.inl ⟨old, hold, hr, heq.symm⟩
  · rw [if_neg hr] at heq
    subst heq
    exact Or.inr ⟨hr, hold⟩

/-- A refund adds the intent of its order, and no other. -/
theorem mem_refundIntents_requestRefund {o x : String} :
    x ∈ (d.requestRefundByOrderId g o).2.refundIntents ↔ x ∈ d.refundIntents ∨ x = o := by
  show x ∈ (if o ∈ d.refundIntents then d.refundIntents else d.refundIntents ++ [o]) ↔ _
  by_cases ho : o ∈ d.refundIntents
  · rw [if_pos ho]
    constructor
    · exact Or.inl
    · rintro (h | rfl)
      · exact h
      · exact ho
  · rw [if_neg ho, List.mem_append, List.mem_singleton]

/-- It strands no payment. -/
theorem requestRefund_noStranded {o : String} (hd : d.NoStranded) :
    (d.requestRefundByOrderId g o).2.NoStranded := by
  intro row hrow hintent
  rcases mem_requestRefund hrow with ⟨old, -, -, rfl⟩ | ⟨hnr, hold⟩
  · show PaymentStatus.refunded ≠ .success
    decide
  · rcases mem_refundIntents_requestRefund.mp hintent with hi | ho
    · exact hd row hold hi
    · exact fun hs => hnr ⟨ho, hs⟩

/-- A stored `create` is one more row, as asked. -/
theorem create_spec {p : NewPayment} {row : PaymentRow} (h : d.create numeric g p = .ok (row, d')) :
    d' = { d with payments := d.payments ++ [row] } ∧ row.orderId = p.orderId ∧
      row.status = p.status := by
  unfold Db.create at h
  split at h
  · cases h
  · cases h
    exact ⟨rfl, rfl, rfl⟩

/-- A FAILED row strands no charge. -/
theorem create_noStranded {p : NewPayment} {row : PaymentRow} (hd : d.NoStranded)
    (hp : p.status ≠ .success) (h : d.create numeric g p = .ok (row, d')) : d'.NoStranded := by
  obtain ⟨rfl, -, hs⟩ := create_spec h
  intro row' hrow hintent
  rcases List.mem_append.mp hrow with hold | hnew
  · exact hd row' hold hintent
  · rw [List.mem_singleton] at hnew
    subst hnew
    rw [hs]
    exact hp

end NoStranded

/-! ## An `INSERT` fails exactly if its amount does not fit -/

section Amount

variable {numeric : Float → Option Numeric} {g : Gen} {now : Nat} {d : Db}

/-- An amount that fits is stored. -/
theorem createChargedPayment_stored {p : ChargedPayment} (h : numeric p.amount ≠ none) :
    ∃ row b d', d.createChargedPayment numeric g now p = .ok ((row, b), d') := by
  obtain ⟨amount, hamount⟩ := Option.ne_none_iff_exists'.mp h
  unfold Db.createChargedPayment
  rw [hamount]
  exact ⟨_, _, _, rfl⟩

/-- One that does not makes the statement fail. -/
theorem createChargedPayment_rejected {p : ChargedPayment} (h : numeric p.amount = none) :
    d.createChargedPayment numeric g now p = .error numericOverflow := by
  unfold Db.createChargedPayment
  rw [h]

/-- The FAILED insert stores an amount that fits. -/
theorem create_stored {p : NewPayment} (h : numeric p.amount ≠ none) :
    ∃ row d', d.create numeric g p = .ok (row, d') := by
  obtain ⟨amount, hamount⟩ := Option.ne_none_iff_exists'.mp h
  unfold Db.create
  rw [hamount]
  exact ⟨_, _, rfl⟩

/-- It fails at one that does not. -/
theorem create_rejected {p : NewPayment} (h : numeric p.amount = none) :
    d.create numeric g p = .error numericOverflow := by
  unfold Db.create
  rw [h]

end Amount

end Microservices.Payment
