/-
  What the payment service has replied, and what holds of its tables ever after
  (payment-service/src/handlers/payment.handler.js, payment-service/src/services/payment.service.js).

  Every handler does one thing with the outcome of its service function (`handlers_eq`), so that the
  life cycle of a row is an argument about the handlers as well.  Two things are added to it: the row
  that an `INSERT` has returned, for `GetPayment` after `ProcessPayment`; and the rows that a refund
  by order has updated or found, for the messages of the two refunds.
-/
import Microservices.Gateway.Lookups
import Microservices.Payment.Lifecycle

namespace Microservices.Payment

open Concurrent (Protocol Sys)
open Microservices.Gateway (PaymentInfo)

/-! ## The handlers -/

/-- `CODE_MAP[err.code] || grpc.status.INTERNAL`. -/
def codeOf (err : JsError) : String :=
  match err.code with
  | some "NOT_FOUND" => "NOT_FOUND"
  | some "FAILED_PRECONDITION" => "FAILED_PRECONDITION"
  | _ => "INTERNAL"

/-- The handler of `RefundPayment`. -/
def handleRefundPayment (paymentId : String) : Pay RefundResponse :=
  try
    let _ ← refundPayment paymentId
    pure { success := true, message := "Payment refunded successfully" }
  catch err => throw { message := err.message, code := some (codeOf err) }

/-- What each handler passes to its callback. -/
abbrev Reply : Request → Type
  | .processPayment _ => Except JsError PaymentResponse
  | .refundPayment _ => Except JsError RefundResponse
  | .refundByOrderId _ => Except JsError RefundResponse

/-- The handler of each request. -/
def handlers (maxRetries : Nat) : (q : Request) → Prog PayOp PayRes (Reply q)
  | .processPayment req => (handleProcessPayment maxRetries req).run
  | .refundPayment paymentId => (handleRefundPayment paymentId).run
  | .refundByOrderId orderId => (handleRefundByOrderId orderId).run

/-- What it makes of the outcome of its service function. -/
def replyOf : (q : Request) → Answer q → Reply q
  | .processPayment _, .ok payment => .ok (toPaymentResponse payment)
  | .processPayment _, .error _ => .error internalError
  | .refundPayment _, .ok _ =>
    .ok { success := true, message := "Payment refunded successfully" }
  | .refundPayment _, .error err => .error { message := err.message, code := some (codeOf err) }
  | .refundByOrderId _, .ok result => .ok { success := true, message := result.2 }
  | .refundByOrderId _, .error _ => .error internalError

/-- A handler is its function, and then the reply. -/
theorem handlers_eq (maxRetries : Nat) (q : Request) :
    handlers maxRetries q = (program maxRetries q).bind fun a => .ret (replyOf q a) := by
  cases q with
  | processPayment req =>
    refine (Prog.bind_assoc _ _ _).trans (congrArg (Prog.bind _) (funext fun res => ?_))
    cases res <;> rfl
  | refundPayment id =>
    refine (Prog.bind_assoc _ _ _).trans (congrArg (Prog.bind _) (funext fun res => ?_))
    cases res <;> rfl
  | refundByOrderId o =>
    refine (Prog.bind_assoc _ _ _).trans (congrArg (Prog.bind _) (funext fun res => ?_))
    cases res <;> rfl

/-- The server with its database. -/
abbrev PaymentServer : Type := Sys PayOp PayRes Reply Db

/-- Any interleaving of any number of calls of the handlers. -/
abbrev ServerRuns (numeric : Float → Option Numeric) (maxRetries : Nat) :
    PaymentServer → PaymentServer → Prop :=
  Concurrent.Runs (handlers maxRetries) (ServeKeyed numeric)

/-- Empty tables, no call. -/
def PaymentServer.init : PaymentServer := Sys.start Db.empty

/-! ## The row that is returned -/

/-- What the columns of the row are taken from. -/
structure PaymentRow.Of (numeric : Float → Option Numeric) (row : PaymentRow)
    (req : PaymentRequest) : Prop where
  orderId : row.orderId = req.orderId
  userId : row.userId = req.userId
  amount : numeric req.amount = some row.amount
  method : row.method = req.method

/-- The row that an `INSERT` has returned, and what it was asked to store. -/
def insertedRow : (op : PayOp) → PayRes op → Option (PaymentRequest × PaymentRow)
  | .createChargedPayment p, .ok (row, _) => some (⟨p.orderId, p.userId, p.amount, p.method⟩, row)
  | .create p, .ok row => some (⟨p.orderId, p.userId, p.amount, p.method⟩, row)
  | _, _ => none

/-- The tables `d'` have the rows of `d` with their `created_at`. -/
def Db.Dated (d d' : Db) : Prop :=
  ∀ row ∈ d.payments, ∃ row' ∈ d'.payments, row'.id = row.id ∧ row'.createdAt = row.createdAt

section Rows

variable {numeric : Float → Option Numeric} {op : PayOp} {r : PayRes op} {d d' d'' : Db}

/-- A ledger keeps its own dates. -/
theorem Db.Dated.refl (d : Db) : d.Dated d := fun row hrow => ⟨row, hrow, rfl, rfl⟩

/-- Dates that are kept twice are kept. -/
theorem Db.Dated.trans (h : d.Dated d') (h' : d'.Dated d'') : d.Dated d'' := by
  intro row hrow
  obtain ⟨row', hrow', hid, hdate⟩ := h row hrow
  obtain ⟨row'', hrow'', hid', hdate'⟩ := h' row' hrow'
  exact ⟨row'', hrow'', hid'.trans hid, hdate'.trans hdate⟩

/-- An `UPDATE` that leaves the two columns alone. -/
theorem dated_map {f : PaymentRow → PaymentRow} (hd : d'.payments = d.payments.map f)
    (hid : ∀ row, (f row).id = row.id) (hdate : ∀ row, (f row).createdAt = row.createdAt) :
    d.Dated d' := by
  intro row hrow
  refine ⟨f row, ?_, hid row, hdate row⟩
  rw [hd]
  exact List.mem_map_of_mem hrow

/-- An `INSERT`. -/
theorem dated_insert (d : Db) (row : PaymentRow) :
    d.Dated { d with payments := d.payments ++ [row] } :=
  fun old hold => ⟨old, List.mem_append_left _ hold, rfl, rfl⟩

/-- No request changes a `created_at`. -/
theorem Serve.dated (h : Serve numeric op d r d') : d.Dated d' := by
  cases h.effect with
  | none => exact .refl d
  | charged hop hx =>
    obtain ⟨rfl, -⟩ := createChargedPayment_spec hx
    exact dated_insert d _
  | created hop hx =>
    obtain ⟨rfl, -⟩ := create_spec hx
    exact dated_insert d _
  | refunded hop =>
    refine dated_map rfl (fun row => ?_) (fun row => ?_)
    · split <;> rfl
    · split <;> rfl
  | marked hop =>
    refine dated_map rfl (fun row => ?_) (fun row => ?_)
    · split <;> rfl
    · split <;> rfl

/-- The row of a charge is the row of its request. -/
theorem createChargedPayment_of {g : Gen} {now : Nat} {p : ChargedPayment} {row : PaymentRow}
    {b : Bool} (h : d.createChargedPayment numeric g now p = .ok ((row, b), d')) :
    row.Of numeric ⟨p.orderId, p.userId, p.amount, p.method⟩ := by
  unfold Db.createChargedPayment at h
  split at h
  · cases h
  · rename_i amount hamount
    cases h
    exact ⟨rfl, rfl, hamount, rfl⟩

/-- So is the row of a failed payment. -/
theorem create_of {g : Gen} {p : NewPayment} {row : PaymentRow}
    (h : d.create numeric g p = .ok (row, d')) :
    row.Of numeric ⟨p.orderId, p.userId, p.amount, p.method⟩ := by
  unfold Db.create at h
  split at h
  · cases h
  · rename_i amount hamount
    cases h
    exact ⟨rfl, rfl, hamount, rfl⟩

/-- The row that is returned is in the table, as it was asked for. -/
theorem Serve.inserted (h : Serve numeric op d r d') {req : PaymentRequest} {row : PaymentRow}
    (hrow : insertedRow op r = some (req, row)) : row.Of numeric req ∧ row ∈ d'.payments := by
  cases h with
  | createChargedPayment g now out =>
    rename_i p
    cases hr : (settle (d.createChargedPayment numeric g now p) out d).1 with
    | error e =>
      rw [hr] at hrow
      cases hrow
    | ok stored =>
      rw [hr] at hrow
      cases hrow
      -- answered without error, so the row is in the table
      have hx := settle_ok hr
      obtain ⟨hd, -⟩ := createChargedPayment_spec hx
      refine ⟨createChargedPayment_of hx, ?_⟩
      rw [hd]
      exact List.mem_append_right _ List.mem_cons_self
  | create g out =>
    rename_i p
    cases hr : (settle (d.create numeric g p) out d).1 with
    | error e =>
      rw [hr] at hrow
      cases hrow
    | ok stored =>
      rw [hr] at hrow
      cases hrow
      have hx := settle_ok hr
      obtain ⟨hd, -⟩ := create_spec hx
      refine ⟨create_of hx, ?_⟩
      rw [hd]
      exact List.mem_append_right _ List.mem_cons_self
  | charge out => cases hrow
  | requestRefundByOrderId g out => cases hrow
  | findByOrderId out => cases hrow
  | findById out => cases hrow
  | markRefunded g out => cases hrow
  | sleep => cases hrow

end Rows

/-! ## What `processPayment` returns -/

/-- Whatever an `INSERT` of the call returns, it was asked to store `req`. -/
def Inserts (req : PaymentRequest) (op : PayOp) : Prop :=
  ∀ r req' row, insertedRow op r = some (req', row) → req' = req

/-- It returns what one of its `INSERT`s has returned, and these store the request. -/
def Returned (req : PaymentRequest) (L : PayLog) (p : PayProg PaymentRow) : Prop :=
  (∀ e ∈ L, Inserts req e.1) ∧
    ∀ row, p = .ret (.ok row) → ∃ e ∈ L, ∃ req', insertedRow e.1 e.2 = some (req', row)

section Walk

variable {req : PaymentRequest}

/-- A payment inserts rows of its own request only. -/
theorem inserts_allows : AllowsAttempts req (fun _ p => p.Next (Inserts req)) where
  charge _ _ := by
    intro r req' row h
    cases h
  record _ _ _ := by
    intro r req' row h
    -- the row answered is that of the request's own charge
    cases r with
    | error e => cases h
    | ok stored =>
      cases h
      rfl
  sleep _ _ _ := by
    intro r req' row h
    cases h
  fail _ _ _ := by
    intro r req' row h
    cases r with
    | error e => cases h
    | ok stored =>
      cases h
      rfl
  recorded _ _ _ _ _ := trivial
  failed _ _ _ _ := trivial
  throws _ _ := trivial

/-- A payment that is returned has been inserted. -/
theorem inserted_allows : AllowsAttempts req (fun L p => ∀ row, p = .ret (.ok row) →
    ∃ e ∈ L, ∃ req', insertedRow e.1 e.2 = some (req', row)) where
  charge _ _ := nofun
  record _ _ _ := nofun
  sleep _ _ _ := nofun
  fail _ _ _ := nofun
  recorded L p stored _ _ := by
    intro row h
    cases h
    exact ⟨_, List.mem_cons_self, _, rfl⟩
  failed L p row _ := by
    intro row' h
    cases h
    exact ⟨_, List.mem_cons_self, _, rfl⟩
  throws _ _ := nofun

/-- **What ProcessPayment returns it has stored.** -/
theorem processPayment_returned (maxRetries : Nat) :
    Prog.Along (Returned req) [] (processPayment maxRetries req).run :=
  ((inserts_allows.along maxRetries 1 none []).asks.answered
    fun _ he => absurd he List.not_mem_nil).and
    (inserted_allows.along maxRetries 1 none [])

end Walk

/-! ## What `GetPayment` answers after `ProcessPayment` -/

/-- The row that an answer has returned has been in the table ever since. -/
def Remains (numeric : Float → Option Numeric) (d : Db) (op : PayOp) (r : PayRes op) : Prop :=
  ∀ req row, insertedRow op r = some (req, row) →
    row.Of numeric req ∧ (∃ row' ∈ d.payments, row.Becomes row') ∧
      ∃ row' ∈ d.payments, row'.id = row.id ∧ row'.createdAt = row.createdAt

/-- Where the program of a request may stand. -/
def Returns : (q : Request) → PayLog → Prog PayOp PayRes (Answer q) → Prop
  | .processPayment req, L, p => Returned req L p
  | .refundPayment _, _, _ => True
  | .refundByOrderId _, _, _ => True

/-- What remains of a reply remains in what follows. -/
theorem Remains.mono {numeric : Float → Option Numeric} {d d' : Db} {op : PayOp} {r : PayRes op}
    (hfollows : d.Follows d') (hdated : d.Dated d') (h : Remains numeric d op r) :
    Remains numeric d' op r := by
  intro req row hrow
  obtain ⟨hof, ⟨row₁, hrow₁, hb⟩, row₂, hrow₂, hid, hdate⟩ := h req row hrow
  obtain ⟨row₁', hrow₁', hb'⟩ := hfollows.rows row₁ hrow₁
  obtain ⟨row₂', hrow₂', hid', hdate'⟩ := hdated row₂ hrow₂
  exact ⟨hof, ⟨row₁', hrow₁', hb.trans hb'⟩, row₂', hrow₂', hid'.trans hid, hdate'.trans hdate⟩

/-- **Every function returns what it has stored.** -/
theorem program_returns (maxRetries : Nat) (q : Request) :
    Prog.Along (Returns q) [] (program maxRetries q) := by
  cases q with
  | processPayment req => exact processPayment_returned maxRetries
  | refundPayment id => exact Prog.along_of_forall (fun _ _ => trivial) _
  | refundByOrderId o => exact Prog.along_of_forall (fun _ _ => trivial) _

/-- The life cycle of a row, from the answer on that has returned it. -/
def readBack (numeric : Float → Option Numeric) (maxRetries : Nat) :
    Protocol (handlers maxRetries) (ServeKeyed numeric) :=
  ((lifecycle numeric maxRetries).extend (Remains numeric) Db.Dated Returns Db.Dated.refl
    Db.Dated.trans Remains.mono (program_returns maxRetries) fun _ _ _ _ h =>
      ⟨h.1.dated, fun _ row hrow =>
        have hin := h.1.inserted hrow
        ⟨hin.1, ⟨row, hin.2, .refl row⟩, row, hin.2, rfl, rfl⟩⟩).finishing replyOf
          (handlers_eq maxRetries)

section ReadBack

variable {numeric : Float → Option Numeric} {maxRetries : Nat} {s s' : PaymentServer}
variable {req : PaymentRequest} {t : Thread PayOp PayRes (Reply (.processPayment req))}
variable {resp : PaymentResponse}

/-- The row behind a payment that has been replied, and what is found under its id later. -/
theorem replied_found (hrun : ServerRuns numeric maxRetries PaymentServer.init s)
    (hcall : ⟨.processPayment req, t⟩ ∈ s.calls) (hret : t.prog = .ret (.ok resp)) :
    ∃ row, resp = toPaymentResponse row ∧ row.Of numeric req ∧
      ∀ s', ServerRuns numeric maxRetries s s' → ∃ row',
        (s'.data.payments.find? fun p => decide (p.id = row.id)) = some row' ∧
          row.Becomes row' ∧ row'.createdAt = row.createdAt := by
  have hsound : (readBack numeric maxRetries).Sound s :=
    ((readBack numeric maxRetries).sound_runs
      ((readBack numeric maxRetries).sound_start valid_empty) hrun).1
  -- the answer of an `INSERT` that was returned
  obtain ⟨res, hreply, -, hasked, hreturned⟩ := (hsound.obeys _ hcall).standsAt hret
  cases res with
  | error e => cases hreply
  | ok row =>
    cases hreply
    obtain ⟨e, he, req', hrow⟩ := hreturned row rfl
    have htold : Remains numeric s.data e.1 e.2 := (hsound.told _ hcall e he).2
    obtain ⟨hof, -⟩ := htold req' row hrow
    rw [hasked e he e.2 req' row hrow] at hof
    refine ⟨row, rfl, hof, fun s' hlater => ?_⟩
    -- it still tells that the row is there
    obtain ⟨hsound', hfollows, hdated⟩ := (readBack numeric maxRetries).sound_runs hsound hlater
    obtain ⟨-, ⟨row₁, hrow₁, hb⟩, row₂, hrow₂, hid₂, hdate⟩ :=
      htold.mono hfollows hdated req' row hrow
    have hkeyed : s'.data.Keyed := hsound'.inv.keyed
    have heq : row₂ = row₁ := hkeyed.eq hrow₂ hrow₁ (hid₂.trans hb.id.symm)
    subst heq
    refine ⟨row₂, ?_, hb, hdate⟩
    rw [← hid₂]
    exact Gateway.find?_of_nodup hkeyed hrow₂

/-- **What `ProcessPayment` has replied, `GetPayment` answers ever after**, whatever the calls in
    between: a payment with that id and transaction id, for the order, the user, the amount and the
    method of the request, and always of the same time; its status is the one that was replied,
    unless a SUCCESS has been refunded. -/
theorem payment_reads_back (toISOString : Nat → String)
    (hrun : ServerRuns numeric maxRetries PaymentServer.init s)
    (hcall : ⟨.processPayment req, t⟩ ∈ s.calls) (hret : t.prog = .ret (.ok resp)) :
    ∃ amount createdAt, numeric req.amount = some amount ∧
      ∀ s', ServerRuns numeric maxRetries s s' → ∃ status : PaymentStatus,
        (status = resp.status ∨ resp.status = .success ∧ status = .refunded) ∧
        getPayment toISOString resp.id
            (.ok (s'.data.payments.find? fun p => decide (p.id = resp.id))) =
          .ok ⟨resp.id, req.orderId, req.userId, amount.toNumber, req.method, status.text,
            resp.transactionId, toISOString createdAt⟩ := by
  obtain ⟨row, rfl, hof, hfound⟩ := replied_found hrun hcall hret
  refine ⟨row.amount, row.createdAt, hof.amount, fun s' hlater => ?_⟩
  obtain ⟨row', hfind, hb, hdate⟩ := hfound s' hlater
  refine ⟨row'.status, hb.status, ?_⟩
  show getPayment toISOString row.id (.ok (s'.data.payments.find? fun p => decide (p.id = row.id))) = _
  rw [hfind]
  -- everything but the status is as it was stored
  show Except.ok (PaymentInfo.mk row'.id row'.orderId row'.userId row'.amount.toNumber row'.method
    row'.status.text (row'.transactionId.getD "") (toISOString row'.createdAt)) = _
  rw [hb.id, hb.orderId, hb.userId, hb.amount, hb.method, hb.transactionId, hdate, hof.orderId,
    hof.userId, hof.method]
  rfl

end ReadBack

/-- The pen is charged, and its saga asks for the refund. -/
theorem penPayment_replied :
    ∃ (s s' : PaymentServer) (t : Thread PayOp PayRes (Reply (.processPayment penPayment)))
      (t' : Thread PayOp PayRes (Reply (.refundByOrderId "o1"))) (resp : PaymentResponse),
      ServerRuns alwaysTen 3 PaymentServer.init s ∧ ⟨.processPayment penPayment, t⟩ ∈ s.calls ∧
        t.prog = .ret (.ok resp) ∧ ServerRuns alwaysTen 3 s s' ∧ s'.calls.length = 2 ∧
        ⟨.refundByOrderId "o1", t'⟩ ∈ s'.calls ∧
        t'.prog = .ret (.ok ⟨true, "Payment refunded"⟩) := by
  refine ⟨?s, ?s', ?t, ?t', ?resp, ?hrun, ?hcall, ?hret, ?hlater, ?hcalls, ?hcall', ?hret'⟩
  case hrun =>
    refine .cons (.call (.processPayment penPayment)) ?_
    refine .cons (.serve 0 rfl rfl ⟨.charge (.accepted 7 "tx"), List.nodup_nil⟩) ?_
    refine .cons (.serve 0 rfl rfl ⟨.createChargedPayment ⟨"pay1", 8⟩ 8 .done,
      List.nodup_singleton _⟩) ?_
    exact .refl
  case hlater =>
    refine .cons (.call (.refundByOrderId "o1")) ?_
    refine .cons (.serve 1 rfl rfl ⟨.requestRefundByOrderId ⟨"", 9⟩ .done,
      List.nodup_singleton _⟩) ?_
    exact .refl
  case hcall => exact List.mem_cons_self
  case hret => exact rfl
  case hcalls => exact rfl
  case hcall' =>
    refine @List.mem_of_getElem? _ _ 1 _ ?_
    exact rfl
  case hret' => exact rfl

/-- A payment that is answered by GetPayment as it was replied. -/
theorem payment_reads_back_pen :
    ∃ (s : PaymentServer) (resp : PaymentResponse) (amount : Numeric) (status : PaymentStatus),
      alwaysTen penPayment.amount = some amount ∧
        getPayment (fun _ => "") resp.id
            (.ok (s.data.payments.find? fun p => decide (p.id = resp.id))) =
          .ok ⟨resp.id, "o1", "u1", amount.toNumber, "CREDIT_CARD", status.text,
            resp.transactionId, ""⟩ := by
  obtain ⟨s, s', t, -, resp, hrun, hcall, hret, hlater, -⟩ := penPayment_replied
  obtain ⟨amount, -, hamount, hreads⟩ := payment_reads_back (fun _ => "") hrun hcall hret
  obtain ⟨status, -, hread⟩ := hreads s' hlater
  exact ⟨s', resp, amount, status, hamount, hread⟩

/-! ## What the refunds reply -/

/-- The message of `refundByOrderId` if it has updated no row and has found these. -/
def noRefund (existing : List PaymentRow) : String :=
  if existing.length = 0 then "No payment yet; refund intent recorded"
  else if existing.any fun row => decide (row.status = .refunded) then
    "Payment already refunded (idempotent no-op)"
  else "No successful payment to refund"

/-- Each of the three messages says what the rows are, if none of them is a successful payment. -/
theorem noRefund_cases {existing : List PaymentRow}
    (hfinal : ∀ row ∈ existing, row.status ≠ .success) :
    (noRefund existing = "Payment already refunded (idempotent no-op)" ∧
      ∃ row ∈ existing, row.status = .refunded) ∨
    (noRefund existing = "No successful payment to refund" ∧
      ∃ row ∈ existing, row.status = .failed) ∨
    noRefund existing = "No payment yet; refund intent recorded" ∧ existing = [] := by
  unfold noRefund
  split
  · rename_i hempty
    exact Or.inr (Or.inr ⟨rfl, List.length_eq_zero_iff.mp hempty⟩)
  · rename_i hlength
    split
    · rename_i hany
      obtain ⟨row, hrow, hs⟩ := List.any_eq_true.mp hany
      exact Or.inl ⟨rfl, row, hrow, of_decide_eq_true hs⟩
    · rename_i hany
      obtain ⟨row, hrow⟩ := List.exists_mem_of_ne_nil existing
        fun h => hlength (List.length_eq_zero_iff.mpr h)
      refine Or.inr (Or.inl ⟨rfl, row, hrow, ?_⟩)
      cases hs : row.status with
      | success => exact absurd hs (hfinal row hrow)
      | refunded => exact absurd (List.any_eq_true.mpr ⟨row, hrow, decide_eq_true hs⟩) hany
      | failed => rfl

/-- Whether `refundPayment` finds a payment it may refund. -/
def refusal (paymentId : String) : Option PaymentRow → Option JsError
  | none => some { message := "Payment not found: " ++ paymentId, code := some "NOT_FOUND" }
  | some payment =>
    if payment.status ≠ .success then
      some { message := "Cannot refund a non-successful payment",
             code := some "FAILED_PRECONDITION" }
    else none

/-- The table has a row of the order with the status. -/
def Db.Has (d : Db) (o : String) (status : PaymentStatus) : Prop :=
  ∃ row ∈ d.payments, row.orderId = o ∧ row.status = status

/-- The replies rest on what the refund has updated and found, or on the row that was read. -/
def RefundSays : (q : Request) → PayLog → Prog PayOp PayRes (Answer q) → Prop
  | .refundByOrderId o, L, .ret (.ok (_, message)) =>
    (∃ rows, (⟨.requestRefundByOrderId o, .ok rows⟩ : Σ op, PayRes op) ∈ L ∧ rows ≠ [] ∧
      message = "Payment refunded") ∨
    ∃ existing, (⟨.findByOrderId o, .ok existing⟩ : Σ op, PayRes op) ∈ L ∧
      message = noRefund existing
  | .refundPayment id, L, .ret (.error err) =>
    (∃ op, (⟨op, .error err⟩ : Σ op, PayRes op) ∈ L) ∨
    ∃ found, (⟨.findById id, .ok found⟩ : Σ op, PayRes op) ∈ L ∧ refusal id found = some err
  | _, _, _ => True

section Walk

variable {maxRetries : Nat}

/-- `refundPayment` says what it was told. -/
theorem refundPayment_says (id : String) :
    Prog.Along (RefundSays (.refundPayment id)) [] (refundPayment id).run := by
  refine ⟨trivial, fun r => ?_⟩
  cases r with
  | error e => exact Or.inl ⟨_, List.mem_cons_self⟩
  | ok found =>
    cases found with
    | none => exact Or.inr ⟨none, List.mem_cons_self, rfl⟩
    | some row =>
      obtain ⟨x, orderId, userId, amount, method, status, tx, error, createdAt, refundedAt⟩ := row
      cases status with
      | failed => exact Or.inr ⟨_, List.mem_cons_self, rfl⟩
      | refunded => exact Or.inr ⟨_, List.mem_cons_self, rfl⟩
      | success =>
        refine ⟨trivial, fun slept => ?_⟩
        cases slept with
        | error e => exact Or.inl ⟨_, List.mem_cons_self⟩
        | ok u =>
          refine ⟨trivial, fun r => ?_⟩
          cases r with
          | error e => exact Or.inl ⟨_, List.mem_cons_self⟩
          | ok marked => trivial

/-- `refundByOrderId` does. -/
theorem refundByOrderId_says (o : String) :
    Prog.Along (RefundSays (.refundByOrderId o)) [] (refundByOrderId o).run := by
  refine ⟨trivial, fun r => ?_⟩
  cases r with
  | error e => trivial
  | ok rows =>
    cases rows with
    | cons row rest => exact Or.inl ⟨_, List.mem_cons_self, nofun, rfl⟩
    | nil =>
      refine ⟨trivial, fun r => ?_⟩
      cases r with
      | error e => trivial
      | ok existing =>
        show Prog.Along (RefundSays (.refundByOrderId o)) _ (ExceptT.run (ite _ _ (ite _ _ _)))
        -- no row was refunded, so the message is decided by the rows there are
        have hsaid : ∀ message, message = noRefund existing → RefundSays (.refundByOrderId o)
            [⟨.findByOrderId o, .ok existing⟩, ⟨.requestRefundByOrderId o, .ok []⟩]
            (.ret (.ok (0, message))) :=
          fun message h => Or.inr ⟨existing, List.mem_cons_self, h⟩
        unfold noRefund at hsaid
        split
        · rename_i hnone
          exact hsaid _ (if_pos hnone).symm
        · rename_i hsome
          split
          · rename_i hany
            exact hsaid _ ((if_neg hsome).trans (if_pos hany)).symm
          · rename_i hany
            exact hsaid _ ((if_neg hsome).trans (if_neg hany)).symm

/-- **Every refund says what it was told.** -/
theorem program_refundSays (maxRetries : Nat) (q : Request) :
    Prog.Along (RefundSays q) [] (program maxRetries q) := by
  cases q with
  | processPayment req => exact Prog.along_of_forall (fun _ _ => trivial) _
  | refundPayment id => exact refundPayment_says id
  | refundByOrderId o => exact refundByOrderId_says o

end Walk

/-- The life cycle of a row, with what the refunds make of their answers. -/
def refunding (numeric : Float → Option Numeric) (maxRetries : Nat) :
    Protocol (handlers maxRetries) (ServeKeyed numeric) :=
  ((lifecycle numeric maxRetries).extend (fun _ _ _ => True) (fun _ _ => True) RefundSays
    (fun _ => trivial) (fun _ _ => trivial) (fun _ _ _ => trivial) (program_refundSays maxRetries)
    fun _ _ _ _ _ => ⟨trivial, trivial⟩).finishing replyOf (handlers_eq maxRetries)

section Answers

variable {numeric : Float → Option Numeric} {d d' : Db} {o id : String} {row row' : PaymentRow}

/-- FAILED and REFUNDED are final. -/
theorem PaymentRow.Becomes.final (h : row.Becomes row') (hs : row.status ≠ .success) :
    row'.status = row.status := by
  rcases h.status with heq | ⟨hsuccess, -⟩
  · exact heq
  · exact absurd hsuccess hs

/-- A row that is not SUCCESS keeps its status. -/
theorem Db.Follows.has (h : d.Follows d') {status : PaymentStatus} (hs : status ≠ .success)
    (hd : d.Has o status) : d'.Has o status := by
  obtain ⟨row, hrow, ho, rfl⟩ := hd
  obtain ⟨row', hrow', hb⟩ := h.rows row hrow
  exact ⟨row', hrow', hb.orderId.trans ho, hb.final hs⟩

/-- A refund by order that reports rows has refunded rows of the order. -/
theorem ServeKeyed.refunds {rows : List (String × PaymentStatus)}
    (h : ServeKeyed numeric (.requestRefundByOrderId o) d (.ok rows) d') (hrows : rows ≠ []) :
    d'.Has o .refunded := by
  obtain ⟨hserve, -⟩ := h
  generalize hr : (Except.ok rows : PayRes (.requestRefundByOrderId o)) = r at hserve
  cases hserve with
  | requestRefundByOrderId g out =>
    have heq := Except.ok.inj (settle_ok hr.symm)
    have hrows' : (d.requestRefundByOrderId g o).1 = rows := congrArg Prod.fst heq
    have hd' : (d.requestRefundByOrderId g o).2 =
        (settle (.ok (d.requestRefundByOrderId g o)) out d).2 := congrArg Prod.snd heq
    obtain ⟨x, hx⟩ := List.exists_mem_of_ne_nil _ hrows
    rw [← hrows'] at hx
    rw [← hd']
    -- a row that the transaction returns is one that it has refunded
    obtain ⟨row, hrow, -⟩ := List.mem_map.mp hx
    obtain ⟨hrow, hr⟩ := List.mem_filter.mp hrow
    have hr : row.Refundable o := of_decide_eq_true hr
    exact ⟨row.refund g.now, List.mem_map.mpr ⟨row, hrow, if_pos hr⟩, hr.1, rfl⟩

/-- The rows that are found are those of the order. -/
theorem ServeKeyed.found {rows : List PaymentRow}
    (h : ServeKeyed numeric (.findByOrderId o) d (.ok rows) d') (row : PaymentRow) :
    row ∈ rows ↔ row ∈ d.payments ∧ row.orderId = o := by
  obtain ⟨hserve, -⟩ := h
  generalize hr : (Except.ok rows : PayRes (.findByOrderId o)) = r at hserve
  cases hserve with
  | findByOrderId out =>
    have hrows : d.findByOrderId o = rows := (Prod.mk.inj (Except.ok.inj (settle_ok hr.symm))).1
    rw [← hrows]
    unfold Db.findByOrderId
    rw [List.mem_mergeSort, List.mem_filter, decide_eq_true_iff]

/-- The row that is read is the one with the id, if there is one. -/
theorem ServeKeyed.read {found : Option PaymentRow}
    (h : ServeKeyed numeric (.findById id) d (.ok found) d') :
    d.payments.find? (fun row => decide (row.id = id)) = found := by
  obtain ⟨hserve, -⟩ := h
  generalize hr : (Except.ok found : PayRes (.findById id)) = r at hserve
  cases hserve with
  | findById out => exact (Prod.mk.inj (Except.ok.inj (settle_ok hr.symm))).1

end Answers

section Replies

variable {numeric : Float → Option Numeric} {maxRetries : Nat} {s s' : PaymentServer}
variable {o id : String}

/-- Every state of a run is sound for the refunds. -/
theorem refunding_sound (hrun : ServerRuns numeric maxRetries PaymentServer.init s) :
    (refunding numeric maxRetries).Sound s :=
  ((refunding numeric maxRetries).sound_runs
    ((refunding numeric maxRetries).sound_start valid_empty) hrun).1

/-- A later ledger follows an earlier one. -/
theorem server_follows (hrun : ServerRuns numeric maxRetries PaymentServer.init s)
    (hlater : ServerRuns numeric maxRetries s s') : s.data.Follows s'.data :=
  ((refunding numeric maxRetries).sound_runs (refunding_sound hrun) hlater).2.1

/-- The state `m` in which a call was answered, and the tables after that. -/
structure AnsweredAt (numeric : Float → Option Numeric) (maxRetries : Nat) (s : PaymentServer)
    {op : PayOp} (r : PayRes op) (m : PaymentServer) (d : Db) : Prop where
  reached : ServerRuns numeric maxRetries PaymentServer.init m
  before : ServerRuns numeric maxRetries m s
  serve : ServeKeyed numeric op m.data r d
  after : ∀ s', ServerRuns numeric maxRetries s s' → d.Follows s'.data

/-- Every answer a call has had was given in some state, where the call stood at the request. -/
theorem answered_at (hrun : ServerRuns numeric maxRetries PaymentServer.init s)
    {c : Concurrent.Call PayOp PayRes Reply} (hc : c ∈ s.calls) {op : PayOp} {r : PayRes op}
    (he : (⟨op, r⟩ : Σ op, PayRes op) ∈ c.thread.log) :
    ∃ m d, AnsweredAt numeric maxRetries s r m d ∧
      ∃ L k, Keeps c.req L (.await op k) ∧ ∀ e ∈ L, Tells m.data e.1 e.2 := by
  obtain ⟨i, hi⟩ := List.getElem?_of_mem hc
  obtain ⟨m, m', t, k, hm, ht, hk, hserve, hgiven, hrest⟩ := hrun.given (Nat.zero_le i) hi he
  have hm' := Relation.ReflTransGen.trans hm hgiven
  have hmem := List.mem_of_getElem? ht
  -- what the call had been told by then was true by then
  obtain ⟨k', hkeeps, -⟩ := ((refunding_sound hm).obeys _ hmem).standsAt hk
  refine ⟨m, m'.data, ⟨hm, Relation.ReflTransGen.trans hgiven hrest, hserve, fun s' hlater => ?_⟩,
    t.log, k', hkeeps, fun e he => ((refunding_sound hm).told _ hmem e he).1⟩
  exact server_follows hm' (Relation.ReflTransGen.trans hrest hlater)

/-- What the four messages of `RefundByOrderId` say. -/
theorem refundByOrderId_replied (hrun : ServerRuns numeric maxRetries PaymentServer.init s)
    {t : Thread PayOp PayRes (Reply (.refundByOrderId o))} {resp : RefundResponse}
    (hcall : ⟨.refundByOrderId o, t⟩ ∈ s.calls) (hret : t.prog = .ret (.ok resp))
    (hlater : ServerRuns numeric maxRetries s s') :
    ¬ s'.data.Has o .success ∧
      (resp.message = "Payment refunded" ∧ s'.data.Has o .refunded ∨
        resp.message = "Payment already refunded (idempotent no-op)" ∧ s'.data.Has o .refunded ∨
        resp.message = "No successful payment to refund" ∧ s'.data.Has o .failed ∨
        resp.message = "No payment yet; refund intent recorded" ∧
          ∃ m, ServerRuns numeric maxRetries PaymentServer.init m ∧
            ServerRuns numeric maxRetries m s ∧ o ∈ m.data.refundIntents ∧
            ∀ row ∈ m.data.payments, row.orderId ≠ o) := by
  have hsound := refunding_sound hrun
  have hsound' := refunding_sound (Relation.ReflTransGen.trans hrun hlater)
  obtain ⟨res, hreply, hkeeps, hsaid⟩ := (hsound.obeys _ hcall).standsAt hret
  cases res with
  | error e => cases hreply
  | ok result =>
    obtain ⟨refunded, message⟩ := result
    cases hreply
    obtain ⟨rows, hrefund, -⟩ := hkeeps
    have hintent : o ∈ s.data.refundIntents := (hsound.told _ hcall _ hrefund).1.1
    refine ⟨?_, ?_⟩
    · rintro ⟨row, hrow, ho, hs⟩
      have hintent' := (server_follows hrun hlater).intents o hintent
      exact hsound'.inv.noStranded row hrow (ho ▸ hintent') hs
    rcases hsaid with ⟨rows, he, hsome, rfl⟩ | ⟨existing, he, rfl⟩
    · obtain ⟨m, d, hat, -⟩ := answered_at hrun hcall he
      exact Or.inl ⟨rfl, (hat.after s' hlater).has nofun (hat.serve.refunds hsome)⟩
    · obtain ⟨m, d, hat, L, k, ⟨-, hL⟩, htold⟩ := answered_at hrun hcall he
      -- the refund was answered before the rows were read
      have hbefore : o ∈ m.data.refundIntents := by
        rw [hL] at htold
        exact (htold _ List.mem_cons_self).1
      have hfinal : ∀ row ∈ existing, row.status ≠ .success := by
        intro row hrow
        obtain ⟨hmem, ho⟩ := (hat.serve.found row).mp hrow
        exact (refunding_sound hat.reached).inv.noStranded row hmem (ho.symm ▸ hbefore)
      have hlast : ∀ row ∈ existing, s'.data.Has o row.status := fun row hrow =>
        have ⟨hmem, ho⟩ := (hat.serve.found row).mp hrow
        (server_follows hat.reached (Relation.ReflTransGen.trans hat.before hlater)).has
          (hfinal row hrow) ⟨row, hmem, ho, rfl⟩
      -- each message names a status that some row has, and that row keeps it
      rcases noRefund_cases hfinal with ⟨hmessage, row, hrow, hs⟩ | ⟨hmessage, row, hrow, hs⟩ |
        ⟨hmessage, rfl⟩
      · exact Or.inr (Or.inl ⟨hmessage, hs ▸ hlast row hrow⟩)
      · exact Or.inr (Or.inr (Or.inl ⟨hmessage, hs ▸ hlast row hrow⟩))
      · refine Or.inr (Or.inr (Or.inr ⟨hmessage, m, hat.reached, hat.before, hbefore, ?_⟩))
        intro row hrow ho
        exact absurd ((hat.serve.found row).mpr ⟨hrow, ho⟩) List.not_mem_nil

/-- What the two refusals of `RefundPayment` say. -/
theorem refundPayment_refused (hrun : ServerRuns numeric maxRetries PaymentServer.init s)
    {t : Thread PayOp PayRes (Reply (.refundPayment id))} {err : JsError}
    (hcall : ⟨.refundPayment id, t⟩ ∈ s.calls) (hret : t.prog = .ret (.error err))
    (havailable : ∀ e ∈ t.log, ∃ a, e.2 = .ok a) (hlater : ServerRuns numeric maxRetries s s') :
    (err = ⟨"Payment not found: " ++ id, some "NOT_FOUND"⟩ ∧
      ∃ m, ServerRuns numeric maxRetries PaymentServer.init m ∧
        ServerRuns numeric maxRetries m s ∧ ∀ row ∈ m.data.payments, row.id ≠ id) ∨
    err = ⟨"Cannot refund a non-successful payment", some "FAILED_PRECONDITION"⟩ ∧
      ∃ row ∈ s'.data.payments, row.id = id ∧ row.status ≠ .success := by
  obtain ⟨res, hreply, -, hsaid⟩ := ((refunding_sound hrun).obeys _ hcall).standsAt hret
  cases res with
  | ok b => cases hreply
  | error e =>
    rcases hsaid with ⟨op, he⟩ | ⟨found, he, hrefusal⟩
    · obtain ⟨a, ha⟩ := havailable _ he
      cases ha
    · obtain ⟨m, d, hat, -⟩ := answered_at hrun hcall he
      have hread := hat.serve.read
      cases found with
      | none =>
        cases hrefusal
        cases hreply
        -- at the moment of the query the row was not there
        refine Or.inl ⟨rfl, m, hat.reached, hat.before, fun row hrow hid => ?_⟩
        exact List.find?_eq_none.mp hread row hrow (decide_eq_true hid)
      | some payment =>
        replace hrefusal : (if payment.status ≠ .success then some _ else none) = some e := hrefusal
        split at hrefusal
        · rename_i hs
          cases hrefusal
          cases hreply
          have hfollows :=
            server_follows hat.reached (Relation.ReflTransGen.trans hat.before hlater)
          obtain ⟨row, hrow, hb⟩ := hfollows.rows payment (List.mem_of_find?_eq_some hread)
          have hid := List.find?_some hread
          refine Or.inr ⟨rfl, row, hrow, hb.id.trans (of_decide_eq_true hid), ?_⟩
          -- a status other than SUCCESS is final
          rw [hb.final hs]
          exact hs
        · cases hrefusal

/-- A payment whose refund was replied is REFUNDED. -/
theorem refundPayment_replied (hrun : ServerRuns numeric maxRetries PaymentServer.init s)
    {t : Thread PayOp PayRes (Reply (.refundPayment id))} {resp : RefundResponse}
    (hcall : ⟨.refundPayment id, t⟩ ∈ s.calls) (hret : t.prog = .ret (.ok resp))
    (hlater : ServerRuns numeric maxRetries s s') : s'.data.IsRefunded id := by
  obtain ⟨res, hreply, hkeeps, -⟩ := ((refunding_sound hrun).obeys _ hcall).standsAt hret
  cases res with
  | error e => cases hreply
  | ok b =>
    obtain ⟨r, he⟩ := hkeeps
    exact (server_follows hrun hlater).isRefunded ((refunding_sound hrun).told _ hcall _ he).1

/-- **What the two refunds have replied stays true**, whatever the other calls do.  Once
    `RefundByOrderId` has replied, no payment of the order is SUCCESS, and its message tells which of
    the order's payments are REFUNDED or FAILED, or that there was none yet when the intent had been
    recorded.  Once `RefundPayment` has replied the payment is REFUNDED; where it was refused, by a
    database that answers, there was no such payment, or it is not SUCCESS. -/
theorem refund_replies_hold (hrun : ServerRuns numeric maxRetries PaymentServer.init s)
    (hlater : ServerRuns numeric maxRetries s s') :
    (∀ o t resp, (⟨.refundByOrderId o, t⟩ : Concurrent.Call PayOp PayRes Reply) ∈ s.calls →
      t.prog = .ret (.ok resp) → ¬ s'.data.Has o .success ∧
        (resp.message = "Payment refunded" ∧ s'.data.Has o .refunded ∨
          resp.message = "Payment already refunded (idempotent no-op)" ∧ s'.data.Has o .refunded ∨
          resp.message = "No successful payment to refund" ∧ s'.data.Has o .failed ∨
          resp.message = "No payment yet; refund intent recorded" ∧
            ∃ m, ServerRuns numeric maxRetries PaymentServer.init m ∧
              ServerRuns numeric maxRetries m s ∧ o ∈ m.data.refundIntents ∧
              ∀ row ∈ m.data.payments, row.orderId ≠ o)) ∧
    (∀ id t resp, (⟨.refundPayment id, t⟩ : Concurrent.Call PayOp PayRes Reply) ∈ s.calls →
      t.prog = .ret (.ok resp) → s'.data.IsRefunded id) ∧
    ∀ id t err, (⟨.refundPayment id, t⟩ : Concurrent.Call PayOp PayRes Reply) ∈ s.calls →
      t.prog = .ret (.error err) → (∀ e ∈ t.log, ∃ a, e.2 = .ok a) →
        (err = ⟨"Payment not found: " ++ id, some "NOT_FOUND"⟩ ∧
          ∃ m, ServerRuns numeric maxRetries PaymentServer.init m ∧
            ServerRuns numeric maxRetries m s ∧ ∀ row ∈ m.data.payments, row.id ≠ id) ∨
        err = ⟨"Cannot refund a non-successful payment", some "FAILED_PRECONDITION"⟩ ∧
          ∃ row ∈ s'.data.payments, row.id = id ∧ row.status ≠ .success := by
  refine ⟨?_, ?_, ?_⟩
  · intro o t resp hcall hret
    exact refundByOrderId_replied hrun hcall hret hlater
  · intro id t resp hcall hret
    exact refundPayment_replied hrun hcall hret hlater
  · intro id t err hcall hret havailable
    exact refundPayment_refused hrun hcall hret havailable hlater

end Replies

/-- A state with one order that is refunded for good. -/
theorem refund_replies_hold_pen :
    ∃ s : PaymentServer, s.calls.length = 2 ∧ ¬ s.data.Has "o1" .success ∧
      s.data.Has "o1" .refunded := by
  obtain ⟨s, s', t, t', resp, hrun, -, -, hlater, hcalls, hcall, hret⟩ := penPayment_replied
  obtain ⟨hrefunds, -⟩ := refund_replies_hold (Relation.ReflTransGen.trans hrun hlater) .refl
  obtain ⟨hnone, hmessage⟩ := hrefunds "o1" t' _ hcall hret
  refine ⟨s', hcalls, hnone, ?_⟩
  rcases hmessage with ⟨-, hhas⟩ | ⟨hother, -⟩ | ⟨hother, -⟩ | ⟨hother, -⟩
  · exact hhas
  · exact absurd hother (by decide)
  · exact absurd hother (by decide)
  · exact absurd hother (by decide)

end Microservices.Payment
