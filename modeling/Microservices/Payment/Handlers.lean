/-
  The two handlers the saga calls, among others.

  `Serve` says what a single request does to the tables; the first section says it once more as
  facts that survive whatever the other requests do: intents are never withdrawn, a stored row
  stays as it is until its order is refunded.

  The second walks the two handlers once: each asks for its own order only, and a handler that
  returns has had the answer its response claims.
-/
import Microservices.Payment.Service

namespace Microservices.Payment

/-! ## What one request does to the tables -/

section Serve

variable {numeric : Float → Option Numeric} {op : PayOp} {d d' : Db} {r : PayRes op}

/-- How a repository call leaves the tables: as they were, or as its transaction makes them. -/
theorem settle_tables {β : Type} (x : Except JsError (β × Db)) (out : DbOutcome) (d : Db) :
    (settle x out d).2 = d ∨ ∃ b d', x = .ok (b, d') ∧ (settle x out d).2 = d' := by
  cases x with
  | error e => exact Or.inl rfl
  | ok res =>
    obtain ⟨b, d'⟩ := res
    cases out with
    | done => exact Or.inr ⟨b, d', rfl, rfl⟩
    | rejected e committed =>
      cases committed with
      | true => exact Or.inr ⟨b, d', rfl, rfl⟩
      | false => exact Or.inl rfl

/-- A repository call that returns has taken effect. -/
theorem settle_ok {β : Type} {x : Except JsError (β × Db)} {out : DbOutcome} {b : β}
    (h : (settle x out d).1 = .ok b) : x = .ok (b, (settle x out d).2) := by
  cases x with
  | error e => cases h
  | ok res =>
    obtain ⟨b', d'⟩ := res
    cases out with
    | done => cases h; rfl
    | rejected e committed => cases committed <;> cases h

/-- What the request `op` may leave behind: nothing new, or the effect of its transaction. -/
inductive Effect (numeric : Float → Option Numeric) (op : PayOp) (d : Db) : Db → Prop where
  | none : Effect numeric op d d
  | charged {g now p row b d'} (hop : op = .createChargedPayment p)
      (h : d.createChargedPayment numeric g now p = .ok ((row, b), d')) : Effect numeric op d d'
  | created {g p row d'} (hop : op = .create p) (h : d.create numeric g p = .ok (row, d')) :
      Effect numeric op d d'
  | refunded {g o} (hop : op = .requestRefundByOrderId o) :
      Effect numeric op d (d.requestRefundByOrderId g o).2
  | marked {g id} (hop : op = .markRefunded id) : Effect numeric op d (d.markRefunded g id).2

/-- What the database answers comes with its effect. -/
theorem Serve.effect (h : Serve numeric op d r d') : Effect numeric op d d' := by
  -- each transaction has either left no trace or its whole effect
  cases h with
  | charge out => exact .none
  | createChargedPayment g now out =>
    rename_i p
    rcases settle_tables (d.createChargedPayment numeric g now p) out d with hn | ⟨b, d', hx, hd⟩
    · rw [hn]; exact .none
    · rw [hd]
      obtain ⟨row, refundRequested⟩ := b
      exact .charged rfl hx
  | create g out =>
    rename_i p
    rcases settle_tables (d.create numeric g p) out d with hn | ⟨b, d', hx, hd⟩
    · rw [hn]; exact .none
    · rw [hd]; exact .created rfl hx
  | requestRefundByOrderId g out =>
    rename_i o
    rcases settle_tables (.ok (d.requestRefundByOrderId g o)) out d with hn | ⟨b, d', hx, hd⟩
    · rw [hn]; exact .none
    · rw [hd]
      cases hx
      exact .refunded rfl
  | findByOrderId out => exact .none
  | findById out => exact .none
  | markRefunded g out =>
    rename_i id
    rcases settle_tables (.ok (d.markRefunded g id)) out d with hn | ⟨b, d', hx, hd⟩
    · rw [hn]; exact .none
    · rw [hd]
      cases hx
      exact .marked rfl
  | sleep => exact .none

/-- A charge that is reported as stored is stored. -/
theorem Serve.stored {p : ChargedPayment} {row : PaymentRow} {b : Bool}
    (h : Serve numeric (.createChargedPayment p) d (.ok (row, b)) d') :
    row ∈ d'.payments ∧ row.orderId = p.orderId ∧ numeric p.amount = some row.amount := by
  generalize hr : (Except.ok (row, b) : PayRes (.createChargedPayment p)) = r at h
  cases h with
  | createChargedPayment g now out =>
    have hx := settle_ok hr.symm
    obtain ⟨hd, -, ho, hamount, -⟩ := createChargedPayment_spec hx
    refine ⟨?_, ho, hamount⟩
    rw [hd]
    exact List.mem_append_right _ List.mem_cons_self

/-- A `create` that returns has the status it was given. -/
theorem Serve.created {p : NewPayment} {row : PaymentRow}
    (h : Serve numeric (.create p) d (.ok row) d') : row.status = p.status := by
  generalize hr : (Except.ok row : PayRes (.create p)) = r at h
  cases h with
  | create g out => exact (create_spec (settle_ok hr.symm)).2.2

/-- A refund that is reported has left its intent. -/
theorem Serve.intent {o : String} {rows : List (String × PaymentStatus)}
    (h : Serve numeric (.requestRefundByOrderId o) d (.ok rows) d') : o ∈ d'.refundIntents := by
  generalize hr : (Except.ok rows : PayRes (.requestRefundByOrderId o)) = r at h
  cases h with
  | requestRefundByOrderId g out =>
    -- an answer without error is that of a committed transaction
    have hx := settle_ok hr.symm
    cases hd : (settle (.ok (d.requestRefundByOrderId g o)) out d).2 with
    | mk payments refundIntents =>
      rw [hd] at hx
      have hx' := Except.ok.inj hx
      have : o ∈ (d.requestRefundByOrderId g o).2.refundIntents :=
        mem_refundIntents_requestRefund.mpr (Or.inr rfl)
      rw [hx'] at this
      exact this

/-- A REFUNDED row strands no charge. -/
theorem markRefunded_noStranded {g : Gen} {id : String} (hd : d.NoStranded) :
    (d.markRefunded g id).2.NoStranded := by
  intro row hrow hintent
  obtain ⟨old, hold, rfl⟩ := List.mem_map.mp hrow
  split at hintent
  · rename_i hid
    rw [if_pos hid]
    show PaymentStatus.refunded ≠ .success
    decide
  · rename_i hid
    rw [if_neg hid]
    exact hd old hold hintent

/-- No request strands a charge, as long as `create` is not given SUCCESS. -/
theorem Serve.noStranded (h : Serve numeric op d r d') (hd : d.NoStranded)
    (hop : ∀ p, op = .create p → p.status ≠ .success) : d'.NoStranded := by
  cases h.effect with
  | none => exact hd
  | charged _ hx => exact createChargedPayment_noStranded hd hx
  | created hp hx => exact create_noStranded hd (hop _ hp) hx
  | refunded _ => exact requestRefund_noStranded hd
  | marked _ => exact markRefunded_noStranded hd

/-- The refund intents afterwards. -/
theorem Serve.mem_refundIntents (h : Serve numeric op d r d') {x : String} :
    (x ∈ d.refundIntents → x ∈ d'.refundIntents) ∧
      (x ∈ d'.refundIntents → x ∈ d.refundIntents ∨ op = .requestRefundByOrderId x) := by
  cases h.effect with
  | none => exact ⟨id, Or.inl⟩
  | charged _ hx =>
    obtain ⟨rfl, -⟩ := createChargedPayment_spec hx
    exact ⟨id, Or.inl⟩
  | created _ hx =>
    obtain ⟨rfl, -⟩ := create_spec hx
    exact ⟨id, Or.inl⟩
  | refunded hop =>
    rw [mem_refundIntents_requestRefund]
    refine ⟨Or.inl, ?_⟩
    rintro (hold | rfl)
    · exact Or.inl hold
    · exact Or.inr hop
  | marked _ => exact ⟨id, Or.inl⟩

/-- A row afterwards is a row of an order that had one, or of the order the request is about. -/
theorem Serve.row_orderId (h : Serve numeric op d r d') {row : PaymentRow}
    (hrow : row ∈ d'.payments) :
    (∃ old ∈ d.payments, old.orderId = row.orderId) ∨
      (∃ p, op = .createChargedPayment p ∧ p.orderId = row.orderId) ∨
      ∃ p, op = .create p ∧ p.orderId = row.orderId := by
  cases h.effect with
  | none => exact Or.inl ⟨row, hrow, rfl⟩
  | charged hop hx =>
    obtain ⟨rfl, -, ho, -⟩ := createChargedPayment_spec hx
    rcases List.mem_append.mp hrow with hold | hnew
    · exact Or.inl ⟨row, hold, rfl⟩
    · rw [List.mem_singleton.mp hnew]
      exact Or.inr (Or.inl ⟨_, hop, ho.symm⟩)
  | created hop hx =>
    obtain ⟨rfl, ho, -⟩ := create_spec hx
    rcases List.mem_append.mp hrow with hold | hnew
    · exact Or.inl ⟨row, hold, rfl⟩
    · rw [List.mem_singleton.mp hnew]
      exact Or.inr (Or.inr ⟨_, hop, ho.symm⟩)
  | refunded _ =>
    rcases mem_requestRefund hrow with ⟨old, hold, -, rfl⟩ | ⟨-, hold⟩
    · exact Or.inl ⟨old, hold, rfl⟩
    · exact Or.inl ⟨row, hold, rfl⟩
  | marked _ =>
    obtain ⟨old, hold, rfl⟩ := List.mem_map.mp hrow
    refine Or.inl ⟨old, hold, ?_⟩
    split <;> rfl

/-- A row stays as it is until its order is refunded. -/
theorem Serve.keeps (h : Serve numeric op d r d') (hop : ∀ id, op ≠ .markRefunded id)
    {row : PaymentRow} (hrow : row ∈ d.payments) :
    row ∈ d'.payments ∨ row.orderId ∈ d'.refundIntents := by
  cases h.effect with
  | none => exact Or.inl hrow
  | charged _ hx =>
    obtain ⟨rfl, -⟩ := createChargedPayment_spec hx
    exact Or.inl (List.mem_append_left _ hrow)
  | created _ hx =>
    obtain ⟨rfl, -⟩ := create_spec hx
    exact Or.inl (List.mem_append_left _ hrow)
  | refunded _ =>
    rename_i o _
    -- a row that is refunded has its intent now
    by_cases ho : row.orderId = o
    · exact Or.inr (mem_refundIntents_requestRefund.mpr (Or.inr ho))
    · refine Or.inl (List.mem_map.mpr ⟨row, hrow, if_neg ?_⟩)
      rintro ⟨hr, -⟩
      exact ho hr
  | marked hid => exact absurd hid (hop _)

end Serve

/-! ## What an answer says for good -/

/-- The row is in the table as it is, unless its order has been refunded. -/
def Held (d : Db) (row : PaymentRow) : Prop := row ∈ d.payments ∨ row.orderId ∈ d.refundIntents

/-- What the answer to a request still says however late it is read. -/
def PayTold (numeric : Float → Option Numeric) (d : Db) : (op : PayOp) → PayRes op → Prop
  | .requestRefundByOrderId o, .ok _ => o ∈ d.refundIntents
  | .createChargedPayment p, .ok (row, _) =>
    row.orderId = p.orderId ∧ numeric p.amount = some row.amount ∧ Held d row
  | .create p, .ok row => row.status = p.status
  | _, _ => True

/-- The tables `d'` still hold what `d` held. -/
structure Grows (d d' : Db) : Prop where
  intents : ∀ x ∈ d.refundIntents, x ∈ d'.refundIntents
  held : ∀ row, Held d row → Held d' row

section Told

variable {numeric : Float → Option Numeric} {op : PayOp} {d d' : Db} {r : PayRes op}

/-- A ledger has grown into itself. -/
theorem Grows.refl (d : Db) : Grows d d := ⟨fun _ h => h, fun _ h => h⟩

/-- Without `markRefunded`, every request lets the tables grow. -/
theorem Serve.grows (h : Serve numeric op d r d') (hop : ∀ id, op ≠ .markRefunded id) :
    Grows d d' where
  intents _ hx := h.mem_refundIntents.1 hx
  held row hrow := by
    rcases hrow with hrow | hintent
    · exact h.keeps hop hrow
    · exact Or.inr (h.mem_refundIntents.1 hintent)

/-- What a handler has been told stays true of a ledger that has grown. -/
theorem PayTold.mono (hg : Grows d d') (h : PayTold numeric d op r) : PayTold numeric d' op r := by
  cases op with
  | requestRefundByOrderId o =>
    cases r with
    | ok rows => exact hg.intents o h
    | error e => trivial
  | createChargedPayment p =>
    cases r with
    -- the row may have been refunded since, but then there is an intent
    | ok res => exact ⟨h.1, h.2.1, hg.held _ h.2.2⟩
    | error e => trivial
  | create p =>
    cases r with
    | ok row => exact h
    | error e => trivial
  | charge orderId amount => trivial
  | findByOrderId o => trivial
  | findById id => trivial
  | markRefunded id => trivial
  | sleep ms => trivial

/-- An answer is true when it is given. -/
theorem Serve.told (h : Serve numeric op d r d') : PayTold numeric d' op r := by
  cases op with
  | requestRefundByOrderId o =>
    cases r with
    | ok rows => exact h.intent
    | error e => trivial
  | createChargedPayment p =>
    cases r with
    | ok res =>
      obtain ⟨row, b⟩ := res
      -- at the moment of the answer the row stands as it was returned
      obtain ⟨hrow, ho, hamount⟩ := h.stored
      exact ⟨ho, hamount, Or.inl hrow⟩
    | error e => trivial
  | create p =>
    cases r with
    | ok row => exact h.created
    | error e => trivial
  | charge orderId amount => trivial
  | findByOrderId o => trivial
  | findById id => trivial
  | markRefunded id => trivial
  | sleep ms => trivial

end Told

/-! ## What the handlers ask -/

/-- The answers a handler has had, the latest first. -/
abbrev PayLog : Type := Prog.Log PayOp PayRes

/-- What is left of a handler. -/
abbrev PayProg (α : Type) : Type := Prog PayOp PayRes (Except JsError α)

/-- What `ProcessPayment` may ask: charges, and rows of its own order and amount. -/
def ChargeOwn (req : PaymentRequest) : PayOp → Prop
  | .charge _ _ => True
  | .createChargedPayment p => p.orderId = req.orderId ∧ p.amount = req.amount
  | .create p => p.orderId = req.orderId ∧ p.status = .failed
  | .sleep _ => True
  | _ => False

/-- The row behind a payment that is returned: the charge that was stored, or the FAILED row. -/
def Recorded (req : PaymentRequest) (L : PayLog) (row : PaymentRow) : Prop :=
  (∃ p b, p.orderId = req.orderId ∧ p.amount = req.amount ∧
      (⟨.createChargedPayment p, .ok (row, b)⟩ : Σ op, PayRes op) ∈ L) ∨
    ∃ p, p.status = .failed ∧ (⟨.create p, .ok row⟩ : Σ op, PayRes op) ∈ L

/-- Where `processPayment` may stand after the answers `L`. -/
def Charging (req : PaymentRequest) (L : PayLog) : PayProg PaymentRow → Prop
  | .await op _ => ChargeOwn req op
  | .ret (.ok row) => Recorded req L row
  | .ret (.error _) => True

/-- Where the handler of `ProcessPayment` may stand after the answers `L`. -/
def ChargeDisciplined (req : PaymentRequest) (L : PayLog) : PayProg PaymentResponse → Prop
  | .await op _ => ChargeOwn req op
  | .ret (.ok resp) => ∃ row, resp = toPaymentResponse row ∧ Recorded req L row
  | .ret (.error _) => True

/-- Where `refundByOrderId` and its handler may stand after the answers `L`: they return only once
    the refund has been answered. -/
def RefundDisciplined {β : Type} (o : String) (L : PayLog) : PayProg β → Prop
  | .await (.requestRefundByOrderId x) _ => x = o
  | .await (.findByOrderId _) _ => True
  | .await _ _ => False
  | .ret (.ok _) => ∃ rows, (⟨.requestRefundByOrderId o, .ok rows⟩ : Σ op, PayRes op) ∈ L
  | .ret (.error _) => True

section Walk

variable {maxRetries : Nat} {req : PaymentRequest} {o : String}

/-- What a predicate must allow at the points of the retry loop: at each of its requests, and at
    each of its ends. -/
structure AllowsAttempts (req : PaymentRequest) (Φ : PayLog → PayProg PaymentRow → Prop) : Prop where
  charge : ∀ L k, Φ L (.await (.charge req.orderId req.amount) k)
  record : ∀ L transactionId k, Φ (⟨.charge req.orderId req.amount, .ok transactionId⟩ :: L)
    (.await (.createChargedPayment
      ⟨req.orderId, req.userId, req.amount, req.method, transactionId⟩) k)
  sleep : ∀ L ms k, Φ L (.await (.sleep ms) k)
  fail : ∀ L (e : JsError) k, Φ L (.await (.create
    ⟨req.orderId, req.userId, req.amount, req.method, .failed, none, some e.message⟩) k)
  recorded : ∀ L p stored, p.orderId = req.orderId → p.amount = req.amount →
    Φ (⟨.createChargedPayment p, .ok stored⟩ :: L) (.ret (.ok stored.1))
  failed : ∀ L p row, p.status = .failed → Φ (⟨.create p, .ok row⟩ :: L) (.ret (.ok row))
  throws : ∀ L e, Φ L (.ret (.error e))

/-- The retry loop walked once, from any attempt on. -/
theorem AllowsAttempts.along {Φ : PayLog → PayProg PaymentRow → Prop} (h : AllowsAttempts req Φ)
    (remaining : Nat) : ∀ (attempt : Nat) (le : Option JsError) (L : PayLog),
    Prog.Along Φ L (attempts maxRetries req remaining attempt le).run := by
  induction remaining with
  | zero =>
    intro attempt le L
    cases le with
    | none => exact h.throws L _
    | some e =>
      refine ⟨h.fail L e _, fun r => ?_⟩
      cases r with
      | ok row => exact h.failed L _ row rfl
      | error e' => exact h.throws _ e'
  | succ n ih =>
    intro attempt le L
    -- what is left once an attempt has failed
    have hretry : ∀ (err : JsError) (L' : PayLog), Prog.Along Φ L' (do
        if attempt < maxRetries then
          pay (.sleep (backoff attempt))
        attempts maxRetries req n (attempt + 1) (some err) : Pay PaymentRow).run := by
      intro err L'
      split
      · refine ⟨h.sleep L' _ _, fun r => ?_⟩
        cases r with
        | ok u => exact ih _ _ _
        | error e => exact h.throws _ e
      · exact ih _ _ _
    refine ⟨h.charge L _, fun r => ?_⟩
    cases r with
    | error e => exact hretry e _
    | ok transactionId =>
      refine ⟨h.record L transactionId _, fun r => ?_⟩
      cases r with
      | error e => exact hretry e _
      | ok stored => exact h.recorded _ _ stored rfl rfl

/-- The attempts of a payment charge and record, nothing else. -/
theorem charging_allows : AllowsAttempts req (Charging req) where
  charge _ _ := trivial
  record _ _ _ := ⟨rfl, rfl⟩
  sleep _ _ _ := trivial
  fail _ _ _ := ⟨rfl, rfl⟩
  recorded _ p stored ho hamount := Or.inl ⟨p, stored.2, ho, hamount, List.mem_cons_self⟩
  failed _ p _ hstatus := Or.inr ⟨p, hstatus, List.mem_cons_self⟩
  throws _ _ := trivial

/-- **ProcessPayment keeps to its discipline.** -/
theorem handleProcessPayment_disciplined (maxRetries : Nat) (req : PaymentRequest) :
    Prog.Along (ChargeDisciplined req) [] (handleProcessPayment maxRetries req).run := by
  -- the response of a payment, inside the `try`
  have hresp : Prog.Along (ChargeDisciplined req) [] (do
      let payment ← processPayment maxRetries req
      pure (toPaymentResponse payment) : Pay PaymentResponse).run := by
    refine (charging_allows.along maxRetries 1 none []).bind (fun L op k hop => hop) ?_
    intro L res hres
    cases res with
    | ok row => exact ⟨row, rfl, hres⟩
    | error e => trivial
  refine hresp.bind (fun L op k hop => hop) ?_
  intro L res hres
  cases res with
  | ok resp => exact hres
  | error e => trivial

/-- **RefundByOrderId keeps to its own.** -/
theorem refundByOrderId_disciplined (o : String) :
    Prog.Along (RefundDisciplined o) [] (refundByOrderId o).run := by
  refine ⟨rfl, fun r => ?_⟩
  cases r with
  | error e => trivial
  | ok rows =>
    cases rows with
    | cons row rest => exact ⟨_, List.mem_cons_self⟩
    | nil =>
      refine ⟨trivial, fun r => ?_⟩
      cases r with
      | error e => trivial
      | ok existing =>
        show Prog.Along (RefundDisciplined o) _ (ExceptT.run (ite _ _ (ite _ _ _)))
        -- whatever the message is, the refund has been answered
        split
        · exact ⟨_, List.mem_cons_of_mem _ List.mem_cons_self⟩
        · split
          · exact ⟨_, List.mem_cons_of_mem _ List.mem_cons_self⟩
          · exact ⟨_, List.mem_cons_of_mem _ List.mem_cons_self⟩

/-- So does its handler. -/
theorem handleRefundByOrderId_disciplined (o : String) :
    Prog.Along (RefundDisciplined o) [] (handleRefundByOrderId o).run := by
  -- the discipline looks at what is asked, not at what follows
  have hask : ∀ {β γ : Type} (L : PayLog) (op : PayOp) (k : PayRes op → PayProg β)
      (k' : PayRes op → PayProg γ), RefundDisciplined o L (.await op k) →
        RefundDisciplined o L (.await op k') := by
    intro β γ L op k k' h
    cases op <;> exact h
  refine ((refundByOrderId_disciplined o).bind (fun L op k h => hask L op k _ h) ?_).bind
    (fun L op k h => hask L op k _ h) ?_
  · intro L res hres
    cases res with
    | ok result => exact hres
    | error e => trivial
  · intro L res hres
    cases res with
    | ok resp => exact hres
    | error e => trivial

end Walk

end Microservices.Payment
