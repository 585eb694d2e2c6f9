/-
  The life cycle of a payments row (payment-service/src/repositories/payment.repository.js,
  payment-service/src/services/payment.service.js), among any number of calls of the three
  functions that write.

  `refundPayment` reads the status, sleeps, and then updates without a condition.  That it never
  turns a FAILED row into REFUNDED rests on what its read has TOLD it: a row that was SUCCESS is
  SUCCESS or REFUNDED for ever after, and a row id belongs to one row.  `lifecycle` is that
  argument as a protocol; what follows from it is in `row_life_cycle`.
-/
import Mathlib.Data.List.Nodup
import Microservices.Lib.Concurrent
import Microservices.Payment.Handlers

namespace Microservices.Payment

open Concurrent (Protocol Sys)

/-! ## The calls -/

/-- What the payment service is called for, apart from `getPayment`, which reads only. -/
inductive Request : Type where
  | processPayment (req : PaymentRequest)
  | refundPayment (paymentId : String)
  | refundByOrderId (orderId : String)

/-- What each returns, or the error it throws. -/
abbrev Answer : Request → Type
  | .processPayment _ => Except JsError PaymentRow
  | .refundPayment _ => Except JsError Bool
  | .refundByOrderId _ => Except JsError (Nat × String)

/-- The function that is called. -/
def program (maxRetries : Nat) : (q : Request) → Prog PayOp PayRes (Answer q)
  | .processPayment req => (processPayment maxRetries req).run
  | .refundPayment paymentId => (refundPayment paymentId).run
  | .refundByOrderId orderId => (refundByOrderId orderId).run

/-- `id UUID PRIMARY KEY`. -/
def Db.Keyed (d : Db) : Prop := (d.payments.map PaymentRow.id).Nodup

/-- Postgres commits nothing that violates the primary key. -/
def ServeKeyed (numeric : Float → Option Numeric) (op : PayOp) (d : Db) (r : PayRes op) (d' : Db) :
    Prop :=
  Serve numeric op d r d' ∧ d'.Keyed

/-- The service with its database. -/
abbrev PaySys : Type := Sys PayOp PayRes Answer Db

/-- Any interleaving of any number of calls. -/
abbrev PayRuns (numeric : Float → Option Numeric) (maxRetries : Nat) : PaySys → PaySys → Prop :=
  Concurrent.Runs (program maxRetries) (ServeKeyed numeric)

/-- One step of it. -/
abbrev PayStep (numeric : Float → Option Numeric) (maxRetries : Nat) :
    PaySys → Concurrent.Event PayOp PayRes Request → PaySys → Prop :=
  Concurrent.Step (program maxRetries) (ServeKeyed numeric)

/-- Empty tables, no call. -/
def PaySys.init : PaySys := Sys.start Db.empty

/-! ## Rows -/

/-- What may become of a row: it is refunded once, and nothing else about it changes. -/
structure PaymentRow.Becomes (row row' : PaymentRow) : Prop where
  id : row'.id = row.id
  orderId : row'.orderId = row.orderId
  userId : row'.userId = row.userId
  amount : row'.amount = row.amount
  method : row'.method = row.method
  transactionId : row'.transactionId = row.transactionId
  error : row'.error = row.error
  status : row'.status = row.status ∨ row.status = .success ∧ row'.status = .refunded

/-- The columns that depend on the status. -/
structure PaymentRow.WellFormed (row : PaymentRow) : Prop where
  refunded : row.refundedAt.isSome ↔ row.status = .refunded
  charged : row.transactionId.isSome ↔ row.status ≠ .failed

/-- The tables `d'` come after the tables `d`. -/
structure Db.Follows (d d' : Db) : Prop where
  rows : ∀ row ∈ d.payments, ∃ row' ∈ d'.payments, row.Becomes row'
  intents : ∀ o ∈ d.refundIntents, o ∈ d'.refundIntents

/-- What holds of the tables at any time. -/
structure Db.Valid (d : Db) : Prop where
  keyed : d.Keyed
  rows : ∀ row ∈ d.payments, row.WellFormed
  noStranded : d.NoStranded

/-- There is a row with this id, and it is REFUNDED. -/
def Db.IsRefunded (d : Db) (id : String) : Prop :=
  ∃ row ∈ d.payments, row.id = id ∧ row.status = .refunded

section Rows

variable {numeric : Float → Option Numeric} {d d' d'' : Db} {row row' row'' : PaymentRow}

/-- A row may stay what it is. -/
theorem PaymentRow.Becomes.refl (row : PaymentRow) : row.Becomes row :=
  ⟨rfl, rfl, rfl, rfl, rfl, rfl, rfl, Or.inl rfl⟩

/-- What becomes of a row in two steps may become of it. -/
theorem PaymentRow.Becomes.trans (h : row.Becomes row') (h' : row'.Becomes row'') :
    row.Becomes row'' where
  id := h'.id.trans h.id
  orderId := h'.orderId.trans h.orderId
  userId := h'.userId.trans h.userId
  amount := h'.amount.trans h.amount
  method := h'.method.trans h.method
  transactionId := h'.transactionId.trans h.transactionId
  error := h'.error.trans h.error
  status := by
    rcases h'.status with heq | ⟨hs, hr⟩
    · rw [heq]
      exact h.status
    · -- refunded once, before or after
      rcases h.status with heq | ⟨-, hr'⟩
      · exact Or.inr ⟨heq.symm.trans hs, hr⟩
      · rw [hr'] at hs
        cases hs

/-- A ledger follows itself. -/
theorem Db.Follows.refl (d : Db) : d.Follows d :=
  ⟨fun row hrow => ⟨row, hrow, .refl row⟩, fun _ ho => ho⟩

/-- What follows a later ledger follows the earlier one. -/
theorem Db.Follows.trans (h : d.Follows d') (h' : d'.Follows d'') : d.Follows d'' where
  rows row hrow := by
    obtain ⟨row', hrow', hb⟩ := h.rows row hrow
    obtain ⟨row'', hrow'', hb'⟩ := h'.rows row' hrow'
    exact ⟨row'', hrow'', hb.trans hb'⟩
  intents o ho := h'.intents o (h.intents o ho)

/-- REFUNDED is final. -/
theorem Db.Follows.isRefunded (h : d.Follows d') {id : String} (hid : d.IsRefunded id) :
    d'.IsRefunded id := by
  obtain ⟨row, hrow, hid, hs⟩ := hid
  obtain ⟨row', hrow', hb⟩ := h.rows row hrow
  refine ⟨row', hrow', hb.id.trans hid, ?_⟩
  rcases hb.status with heq | ⟨-, hr⟩
  · exact heq.trans hs
  · exact hr

/-- A refund of a SUCCESS row. -/
theorem PaymentRow.becomes_refund (hs : row.status = .success) (now : Nat) :
    row.Becomes (row.refund now) :=
  ⟨rfl, rfl, rfl, rfl, rfl, rfl, rfl, Or.inr ⟨hs, rfl⟩⟩

/-- So of a row that was refunded before; its `refunded_at` is another one then. -/
theorem PaymentRow.becomes_refund_again (hs : row.status = .refunded) (now : Nat) :
    row.Becomes (row.refund now) :=
  ⟨rfl, rfl, rfl, rfl, rfl, rfl, rfl, Or.inl hs.symm⟩

/-- A refund leaves a row well formed, unless it had failed. -/
theorem PaymentRow.WellFormed.refund (h : row.WellFormed) (hs : row.status ≠ .failed) (now : Nat) :
    (row.refund now).WellFormed where
  refunded := ⟨fun _ => rfl, fun _ => rfl⟩
  charged := ⟨fun _ => nofun, fun _ => h.charged.mpr hs⟩

/-- A row id belongs to one row. -/
theorem Db.Keyed.eq (h : d.Keyed) (hrow : row ∈ d.payments) (hrow' : row' ∈ d.payments)
    (hid : row.id = row'.id) : row = row' :=
  List.inj_on_of_nodup_map h hrow hrow' hid

/-- A row that is REFUNDED is not SUCCESS. -/
theorem Db.Keyed.not_success (h : d.Keyed) {id : String} (hid : d.IsRefunded id)
    (hrow : row ∈ d.payments) (hrowid : row.id = id) : row.status ≠ .success := by
  obtain ⟨old, hold, hid, hs⟩ := hid
  rw [h.eq hrow hold (hrowid.trans hid.symm), hs]
  nofun

/-- A charge adds a well-formed row. -/
theorem createChargedPayment_wellFormed {g : Gen} {now : Nat} {p : ChargedPayment}
    {b : Bool} (h : d.createChargedPayment numeric g now p = .ok ((row, b), d'))
    (htx : p.transactionId ≠ "") : row.WellFormed := by
  have hsome : (orNull p.transactionId).isSome := by
    unfold orNull
    rw [if_neg htx]
    rfl
  unfold Db.createChargedPayment at h
  split at h
  · cases h
  · cases h
    by_cases hi : p.orderId ∈ d.refundIntents <;> constructor <;> simp [hi, hsome]

/-- So does a failure. -/
theorem create_wellFormed {g : Gen} {p : NewPayment} (h : d.create numeric g p = .ok (row, d'))
    (hs : p.status = .failed) (htx : p.transactionId = none) : row.WellFormed := by
  unfold Db.create at h
  split at h
  · cases h
  · cases h
    constructor <;> simp [hs, htx]

/-- An `INSERT` leaves the other rows alone. -/
theorem follows_insert (d : Db) (row : PaymentRow) :
    d.Follows { d with payments := d.payments ++ [row] } :=
  ⟨fun old hold => ⟨old, List.mem_append_left _ hold, .refl old⟩, fun _ ho => ho⟩

/-- A row that is well formed leaves the ledger valid. -/
theorem Db.Valid.insert (h : d.Valid) (hrow : row.WellFormed)
    (hkeyed : Db.Keyed { d with payments := d.payments ++ [row] })
    (hstranded : Db.NoStranded { d with payments := d.payments ++ [row] }) :
    Db.Valid { d with payments := d.payments ++ [row] } where
  keyed := hkeyed
  rows old hold := by
    rcases List.mem_append.mp hold with hmem | hnew
    · exact h.rows old hmem
    · rw [List.mem_singleton.mp hnew]
      exact hrow
  noStranded := hstranded

/-- A refund by order turns SUCCESS rows into REFUNDED ones. -/
theorem follows_requestRefund (d : Db) (g : Gen) (o : String) :
    d.Follows (d.requestRefundByOrderId g o).2 where
  rows row hrow := by
    by_cases hr : row.Refundable o
    · refine ⟨row.refund g.now, List.mem_map.mpr ⟨row, hrow, if_pos hr⟩, ?_⟩
      exact row.becomes_refund hr.2 g.now
    · exact ⟨row, List.mem_map.mpr ⟨row, hrow, if_neg hr⟩, .refl row⟩
  intents _ ho := mem_refundIntents_requestRefund.mpr (Or.inl ho)

/-- So does a refund by order. -/
theorem Db.Valid.requestRefund (h : d.Valid) (g : Gen) (o : String)
    (hkeyed : (d.requestRefundByOrderId g o).2.Keyed) : (d.requestRefundByOrderId g o).2.Valid where
  keyed := hkeyed
  rows row hrow := by
    rcases mem_requestRefund hrow with ⟨old, hold, hr, rfl⟩ | ⟨-, hold⟩
    · refine (h.rows old hold).refund ?_ g.now
      rw [hr.2]
      nofun
    · exact h.rows row hold
  noStranded := requestRefund_noStranded h.noStranded

/-- Every row that a refund by order reports is REFUNDED afterwards. -/
theorem requestRefund_isRefunded {g : Gen} {o : String} {x : String × PaymentStatus}
    (hx : x ∈ (d.requestRefundByOrderId g o).1) :
    (d.requestRefundByOrderId g o).2.IsRefunded x.1 := by
  obtain ⟨row, hrow, rfl⟩ := List.mem_map.mp hx
  obtain ⟨hmem, hr⟩ := List.mem_filter.mp hrow
  exact ⟨row.refund g.now, List.mem_map.mpr ⟨row, hmem, if_pos (of_decide_eq_true hr)⟩, rfl, rfl⟩

end Rows

/-! ## What an answer tells -/

/-- What the answer to a request still says however late it is read. -/
def Tells (d : Db) : (op : PayOp) → PayRes op → Prop
  | .charge _ _, .ok transactionId => transactionId ≠ ""
  | .findById id, .ok (some row) => row.id = id ∧ ∃ row' ∈ d.payments, row.Becomes row'
  | .markRefunded id, .ok _ => d.IsRefunded id
  | .requestRefundByOrderId o, .ok rows => o ∈ d.refundIntents ∧ ∀ x ∈ rows, d.IsRefunded x.1
  | _, _ => True

/-- What the ledger has told stays true of what follows it. -/
theorem Tells.mono {d d' : Db} (h : d.Follows d') {op : PayOp} {r : PayRes op}
    (ht : Tells d op r) : Tells d' op r := by
  cases op with
  | charge orderId amount =>
    cases r with
    | error e => trivial
    | ok transactionId => exact ht
  | findById id =>
    cases r with
    | error e => trivial
    | ok row =>
      cases row with
      | none => trivial
      | some row =>
        obtain ⟨hid, row', hrow', hb⟩ := ht
        -- the row has become what it is now
        obtain ⟨row'', hrow'', hb'⟩ := h.rows row' hrow'
        exact ⟨hid, row'', hrow'', hb.trans hb'⟩
  | markRefunded id =>
    cases r with
    | error e => trivial
    | ok x => exact h.isRefunded ht
  | requestRefundByOrderId o =>
    cases r with
    | error e => trivial
    | ok rows => exact ⟨h.intents o ht.1, fun x hx => h.isRefunded (ht.2 x hx)⟩
  | createChargedPayment p => trivial
  | create p => trivial
  | findByOrderId o => trivial
  | sleep ms => trivial

/-! ## Where the programs may stand -/

/-- `processPayment` stores charges that were accepted, and failures. -/
def ChargeKeeps (L : PayLog) : PayProg PaymentRow → Prop
  | .await (.charge _ _) _ => True
  | .await (.sleep _) _ => True
  | .await (.createChargedPayment p) _ =>
    ∃ o amount, (⟨.charge o amount, .ok p.transactionId⟩ : Σ op, PayRes op) ∈ L
  | .await (.create p) _ => p.status = .failed ∧ p.transactionId = none
  | .await _ _ => False
  | .ret _ => True

/-- `refundPayment` updates a row that it has read as SUCCESS, and returns once it has. -/
def RefundKeeps (id : String) (L : PayLog) : PayProg Bool → Prop
  | .await (.findById x) _ => x = id
  | .await (.sleep _) _ => True
  | .await (.markRefunded x) _ => x = id ∧
    ∃ row, (⟨.findById id, .ok (some row)⟩ : Σ op, PayRes op) ∈ L ∧ row.status = .success
  | .await _ _ => False
  | .ret (.ok _) => ∃ r, (⟨.markRefunded id, .ok r⟩ : Σ op, PayRes op) ∈ L
  | .ret (.error _) => True

/-- `refundByOrderId` makes its refund first, looks the order up if that has updated no row, returns
    the number of rows updated, and throws only what a request has thrown. -/
def RefundByOrderKeeps (o : String) (L : PayLog) : PayProg (Nat × String) → Prop
  | .await (.requestRefundByOrderId x) _ => x = o ∧ L = []
  | .await (.findByOrderId x) _ => x = o ∧ L = [⟨.requestRefundByOrderId o, .ok []⟩]
  | .await _ _ => False
  | .ret (.ok (refunded, _)) =>
    ∃ rows, (⟨.requestRefundByOrderId o, .ok rows⟩ : Σ op, PayRes op) ∈ L ∧ refunded = rows.length
  | .ret (.error e) => ∃ op, (⟨op, .error e⟩ : Σ op, PayRes op) ∈ L

/-- Where the program of a request may stand after the answers `L`. -/
def Keeps : (q : Request) → PayLog → Prog PayOp PayRes (Answer q) → Prop
  | .processPayment _, L, p => ChargeKeeps L p
  | .refundPayment id, L, p => RefundKeeps id L p
  | .refundByOrderId o, L, p => RefundByOrderKeeps o L p

section Walk

variable {maxRetries : Nat} {req : PaymentRequest}

/-- The attempts of a payment keep the rules. -/
theorem chargeKeeps_allows : AllowsAttempts req ChargeKeeps where
  charge _ _ := trivial
  record _ _ _ := ⟨_, _, List.mem_cons_self⟩
  sleep _ _ _ := trivial
  fail _ _ _ := ⟨rfl, rfl⟩
  recorded _ _ _ _ _ := trivial
  failed _ _ _ _ := trivial
  throws _ _ := trivial

/-- `refundPayment` does. -/
theorem refundPayment_keeps (id : String) :
    Prog.Along (RefundKeeps id) [] (refundPayment id).run := by
  refine ⟨rfl, fun r => ?_⟩
  cases r with
  | error e => trivial
  | ok found =>
    cases found with
    | none => trivial
    | some row =>
      obtain ⟨x, orderId, userId, amount, method, status, tx, error, createdAt, refundedAt⟩ := row
      -- only a payment of success is refunded
      cases status with
      | failed => trivial
      | refunded => trivial
      | success =>
        refine ⟨trivial, fun slept => ?_⟩
        cases slept with
        | error e => trivial
        | ok u =>
          refine ⟨⟨rfl, _, List.mem_cons_of_mem _ List.mem_cons_self, rfl⟩, fun r => ?_⟩
          cases r with
          | error e => trivial
          | ok marked => exact ⟨marked, List.mem_cons_self⟩

/-- `refundByOrderId` does. -/
theorem refundByOrderId_keeps (o : String) :
    Prog.Along (RefundByOrderKeeps o) [] (refundByOrderId o).run := by
  -- nothing to refund: the payments are read to say why
  refine ⟨⟨rfl, rfl⟩, fun r => ?_⟩
  cases r with
  | error e => exact ⟨_, List.mem_cons_self⟩
  | ok rows =>
    cases rows with
    | cons row rest => exact ⟨_, List.mem_cons_self, rfl⟩
    | nil =>
      refine ⟨⟨rfl, rfl⟩, fun r => ?_⟩
      cases r with
      | error e => exact ⟨_, List.mem_cons_self⟩
      | ok existing =>
        show Prog.Along (RefundByOrderKeeps o) _ (ExceptT.run (ite _ _ (ite _ _ _)))
        split
        · exact ⟨_, List.mem_cons_of_mem _ List.mem_cons_self, rfl⟩
        · split
          · exact ⟨_, List.mem_cons_of_mem _ List.mem_cons_self, rfl⟩
          · exact ⟨_, List.mem_cons_of_mem _ List.mem_cons_self, rfl⟩

end Walk

/-- **Every function of the service keeps them.** -/
theorem program_keeps (maxRetries : Nat) (q : Request) :
    Prog.Along (Keeps q) [] (program maxRetries q) := by
  cases q with
  | processPayment req => exact chargeKeeps_allows.along maxRetries 1 none []
  | refundPayment id => exact refundPayment_keeps id
  | refundByOrderId o => exact refundByOrderId_keeps o

/-! ## One request of one call -/

section Serve

variable {numeric : Float → Option Numeric} {d d' : Db} {op : PayOp} {r : PayRes op}

/-- What a call standing at `op` may do, whichever call it is. -/
structure Entitled (d : Db) (op : PayOp) : Prop where
  charged : ∀ p, op = .createChargedPayment p → p.transactionId ≠ ""
  failed : ∀ p, op = .create p → p.status = .failed ∧ p.transactionId = none
  /-- the row that is marked is in the table, and is not FAILED -/
  marked : ∀ id, op = .markRefunded id → ∃ row ∈ d.payments, row.id = id ∧ row.status ≠ .failed

/-- A function that keeps them asks only for what it is entitled to. -/
theorem Keeps.entitled {q : Request} {L : PayLog} {k : PayRes op → Prog PayOp PayRes (Answer q)}
    (h : Keeps q L (.await op k)) (hL : ∀ e ∈ L, Tells d e.1 e.2) : Entitled d op := by
  cases q with
  | processPayment req =>
    have hown : ChargeKeeps L (.await op k) := h
    refine ⟨?_, ?_, ?_⟩
    · rintro p rfl
      obtain ⟨o, amount, hmem⟩ := hown
      exact hL _ hmem
    · rintro p rfl
      exact hown
    · rintro id rfl
      exact hown.elim
  | refundPayment id =>
    have hown : RefundKeeps id L (.await op k) := h
    refine ⟨?_, ?_, ?_⟩
    · rintro p rfl
      exact hown.elim
    · rintro p rfl
      exact hown.elim
    · rintro x rfl
      obtain ⟨rfl, row, hmem, hs⟩ := hown
      obtain ⟨hid, row', hrow', hb⟩ := hL _ hmem
      refine ⟨row', hrow', hb.id.trans hid, ?_⟩
      -- it was SUCCESS when it was read
      rcases hb.status with heq | ⟨-, hr⟩
      · rw [heq, hs]
        nofun
      · rw [hr]
        nofun
  | refundByOrderId o =>
    have hown : RefundByOrderKeeps o L (.await op k) := h
    refine ⟨?_, ?_, ?_⟩
    · rintro p rfl
      exact hown.elim
    · rintro p rfl
      exact hown.elim
    · rintro id rfl
      exact hown.elim

/-- The unguarded `UPDATE` of a row that is not FAILED. -/
theorem markRefunded_valid {g : Gen} {id : String} (h : d.Valid)
    (hid : ∃ row ∈ d.payments, row.id = id ∧ row.status ≠ .failed)
    (hkeyed : (d.markRefunded g id).2.Keyed) :
    (d.markRefunded g id).2.Valid ∧ d.Follows (d.markRefunded g id).2 ∧
      (d.markRefunded g id).2.IsRefunded id := by
  obtain ⟨row, hrow, hrowid, hs⟩ := hid
  have hmark : ∀ old ∈ d.payments, (if old.id = id then old.refund g.now else old) ∈
      (d.markRefunded g id).2.payments := fun old hold => List.mem_map.mpr ⟨old, hold, rfl⟩
  -- the row with that id is this one
  have hstatus : ∀ old ∈ d.payments, old.id = id → old.status ≠ .failed := by
    intro old hold hold_id
    rw [h.keyed.eq hold hrow (hold_id.trans hrowid.symm)]
    exact hs
  refine ⟨⟨hkeyed, fun row' hrow' => ?_, markRefunded_noStranded h.noStranded⟩,
    ⟨fun old hold => ⟨_, hmark old hold, ?_⟩, fun _ ho => ho⟩, ?_⟩
  · obtain ⟨old, hold, rfl⟩ := List.mem_map.mp hrow'
    split
    · rename_i hold_id
      exact (h.rows old hold).refund (hstatus old hold hold_id) g.now
    · exact h.rows old hold
  · split
    · rename_i hold_id
      cases hst : old.status with
      | success => exact old.becomes_refund hst g.now
      | refunded => exact old.becomes_refund_again hst g.now
      | failed => exact absurd hst (hstatus old hold hold_id)
    · exact .refl old
  · have hmem := hmark row hrow
    rw [if_pos hrowid] at hmem
    exact ⟨_, hmem, hrowid, rfl⟩

/-- One request keeps the tables valid and what they held. -/
theorem ServeKeyed.valid (h : ServeKeyed numeric op d r d') (hd : d.Valid)
    (hop : Entitled d op) : d'.Valid ∧ d.Follows d' := by
  obtain ⟨hserve, hkeyed⟩ := h
  cases hserve.effect with
  | none => exact ⟨hd, .refl d⟩
  | charged hcharge hx =>
    have hrow := createChargedPayment_wellFormed hx (hop.charged _ hcharge)
    -- the transaction has looked for the intent before storing
    have hstranded := createChargedPayment_noStranded hd.noStranded hx
    obtain ⟨rfl, -⟩ := createChargedPayment_spec hx
    exact ⟨hd.insert hrow hkeyed hstranded, follows_insert d _⟩
  | created hcreate hx =>
    obtain ⟨hs, htx⟩ := hop.failed _ hcreate
    have hrow := create_wellFormed hx hs htx
    have hstranded := create_noStranded hd.noStranded (by rw [hs]; nofun) hx
    obtain ⟨rfl, -⟩ := create_spec hx
    exact ⟨hd.insert hrow hkeyed hstranded, follows_insert d _⟩
  | refunded _ => exact ⟨hd.requestRefund _ _ hkeyed, follows_requestRefund d _ _⟩
  | marked hmark =>
    obtain ⟨hvalid, hfollows, -⟩ := markRefunded_valid hd (hop.marked _ hmark) hkeyed
    exact ⟨hvalid, hfollows⟩

/-- The row that is found is in the table. -/
theorem tells_findById {id : String} :
    Tells d (.findById id) (.ok (d.payments.find? fun row => decide (row.id = id))) := by
  cases hfind : d.payments.find? fun row => decide (row.id = id) with
  | none => trivial
  | some row =>
    have hid := List.find?_some hfind
    exact ⟨of_decide_eq_true hid, row, List.mem_of_find?_eq_some hfind, .refl row⟩

/-- An answer is true when it is given. -/
theorem ServeKeyed.tells (h : ServeKeyed numeric op d r d') (hd : d.Valid)
    (hop : Entitled d op) : Tells d' op r := by
  obtain ⟨hserve, hkeyed⟩ := h
  cases hserve with
  | charge out =>
    cases out with
    | declined => trivial
    | accepted now suffix =>
      exact transactionIdOf_ne_empty now suffix
  | createChargedPayment g now out => trivial
  | create g out => trivial
  | requestRefundByOrderId g out =>
    cases out with
    -- an error tells nothing
    | rejected e committed => cases committed <;> trivial
    | done =>
      exact ⟨mem_refundIntents_requestRefund.mpr (Or.inr rfl),
        fun x hx => requestRefund_isRefunded hx⟩
  | findByOrderId out => trivial
  | findById out =>
    cases out with
    | rejected e committed => cases committed <;> trivial
    | done => exact tells_findById
  | markRefunded g out =>
    cases out with
    | rejected e committed => cases committed <;> trivial
    | done => exact (markRefunded_valid hd (hop.marked _ rfl) hkeyed).2.2
  | sleep => trivial

end Serve

/-- The life cycle of a row, as a protocol. -/
def lifecycle (numeric : Float → Option Numeric) (maxRetries : Nat) :
    Protocol (program maxRetries) (ServeKeyed numeric) where
  Inv := Db.Valid
  Told := Tells
  Rely := Db.Follows
  Says := Keeps
  refl := Db.Follows.refl
  trans := Db.Follows.trans
  mono hfollows ht := ht.mono hfollows
  obeys := program_keeps maxRetries
  serve hd htext htold h :=
    have hop := htext.entitled htold
    ⟨(h.valid hd hop).1, (h.valid hd hop).2, h.tells hd hop⟩

/-- An empty ledger is valid. -/
theorem valid_empty : Db.empty.Valid where
  keyed := List.nodup_nil
  rows _ hrow := absurd hrow List.not_mem_nil
  noStranded := noStranded_empty

section Runs

variable {numeric : Float → Option Numeric} {maxRetries : Nat} {s s' : PaySys}

/-- Every reachable state is sound. -/
theorem sound_of_runs (hrun : PayRuns numeric maxRetries PaySys.init s) :
    (lifecycle numeric maxRetries).Sound s :=
  ((lifecycle numeric maxRetries).sound_runs ((lifecycle numeric maxRetries).sound_start valid_empty)
    hrun).1

/-- The tables of two states of a run, the later one after the earlier. -/
theorem follows_of_runs (hrun : PayRuns numeric maxRetries PaySys.init s)
    (hlater : PayRuns numeric maxRetries s s') : s.data.Follows s'.data :=
  ((lifecycle numeric maxRetries).sound_runs (sound_of_runs hrun) hlater).2

/-- **The life cycle of a payments row**, in every run of the service: `refunded_at` is set exactly
    if the row is REFUNDED and `transaction_id` exactly if it is not FAILED; and at any later time
    the row is still there, the same but that it may have gone from SUCCESS to REFUNDED. -/
theorem row_life_cycle (hrun : PayRuns numeric maxRetries PaySys.init s) :
    (∀ row ∈ s.data.payments, (row.refundedAt.isSome ↔ row.status = .refunded) ∧
      (row.transactionId.isSome ↔ row.status ≠ .failed)) ∧
    ∀ s', PayRuns numeric maxRetries s s' → ∀ row ∈ s.data.payments,
      ∃ row' ∈ s'.data.payments, row.Becomes row' ∧
        ∀ other ∈ s'.data.payments, other.id = row.id → other = row' := by
  refine ⟨fun row hrow => ?_, fun s' hlater row hrow => ?_⟩
  · have hrow := (sound_of_runs hrun).inv.rows row hrow
    exact ⟨hrow.refunded, hrow.charged⟩
  · obtain ⟨row', hrow', hb⟩ := (follows_of_runs hrun hlater).rows row hrow
    have hkeyed : s'.data.Keyed := (sound_of_runs (Relation.ReflTransGen.trans hrun hlater)).inv.keyed
    exact ⟨row', hrow', hb, fun other hother hid => hkeyed.eq hother hrow' (hid.trans hb.id.symm)⟩

end Runs

/-- A column that stores every amount as ten units. -/
def alwaysTen : Float → Option Numeric := fun _ => some (.hundredths 1000)

/-- A request to charge for a pen. -/
def penPayment : PaymentRequest := ⟨"o1", "u1", 10.0, "CREDIT_CARD"⟩

/-- A charge, stored as SUCCESS. -/
theorem penPayment_stored :
    ∃ s, PayRuns alwaysTen 3 PaySys.init s ∧ ∃ row, s.data.payments = [row] ∧ row.id = "pay1" ∧
      row.status = .success ∧ s.calls.length = 1 := by
  refine ⟨?s, ?hrun, ?row, ?hrows, ?hid, ?hs, ?hcalls⟩
  case hrun =>
    refine .cons (.call (.processPayment penPayment)) ?_
    refine .cons (.serve 0 rfl rfl ⟨.charge (.accepted 7 "tx"), List.nodup_nil⟩) ?_
    refine .cons (.serve 0 rfl rfl ⟨.createChargedPayment ⟨"pay1", 8⟩ 8 .done,
      List.nodup_singleton _⟩) ?_
    exact .refl
  case hrows => exact rfl
  case hid => exact rfl
  case hs => exact rfl
  case hcalls => exact rfl

/-- A ledger of one payment with its transaction, which is not refunded. -/
theorem row_life_cycle_pen :
    ∃ s : PaySys, ∃ row ∈ s.data.payments, row.transactionId.isSome ∧ row.refundedAt.isSome = false := by
  obtain ⟨s, hrun, row, hrows, -, hs, -⟩ := penPayment_stored
  have hrow : row ∈ s.data.payments := by
    rw [hrows]
    exact List.mem_cons_self
  obtain ⟨hwell, -⟩ := row_life_cycle hrun
  obtain ⟨hrefunded, hcharged⟩ := hwell row hrow
  refine ⟨s, row, hrow, hcharged.mpr (by rw [hs]; nofun), Bool.eq_false_iff.mpr fun hr => ?_⟩
  have hnot := hrefunded.mp hr
  rw [hs] at hnot
  cases hnot

end Microservices.Payment
