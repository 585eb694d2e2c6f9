/-
  Charges and refunds commute (`createChargedPayment`, `create` and `requestRefundByOrderId` in
  payment-service/src/repositories/payment.repository.js).

  A charge that comes after the refund sees the intent and inserts REFUNDED; a charge that comes
  before is inserted SUCCESS and refunded by the `UPDATE`.  `commitAll_payments` writes both ways
  down as one: the table after a list of commits is the old rows, each refunded if a refund of its
  order is in the list, and one new row for each charge and each failure, in which the list is
  only ever asked for MEMBERSHIP.  Whatever the order of the list, that is the same multiset.

  It holds from every state, stranded charges or not.
-/
import Microservices.Payment.Store

namespace Microservices.Payment

/-! ## Transactions -/

/-- What the service passes to `create`: a payment that has failed. -/
abbrev FailedPayment : Type := { p : NewPayment // p.status = .failed }

/-- The transactions of the repository that write. -/
inductive Txn : Type where
  | createCharged (p : ChargedPayment)
  | create (p : FailedPayment)
  | requestRefund (orderId : String)
  deriving DecidableEq

/-- A transaction commits, with whatever the server generates. -/
inductive CommitOne (numeric : Float → Option Numeric) : Txn → Db → Db → Prop where
  | createCharged {p d res d'} (g : Gen) (now : Nat)
      (h : d.createChargedPayment numeric g now p = .ok (res, d')) :
      CommitOne numeric (.createCharged p) d d'
  | create {p d row d'} (g : Gen) (h : d.create numeric g p.val = .ok (row, d')) :
      CommitOne numeric (.create p) d d'
  | requestRefund {o d} (g : Gen) :
      CommitOne numeric (.requestRefund o) d (d.requestRefundByOrderId g o).2

/-- Transactions commit one after the other. -/
inductive CommitAll (numeric : Float → Option Numeric) : List Txn → Db → Db → Prop where
  | nil {d} : CommitAll numeric [] d d
  | cons {t ts d d' d''} (h : CommitOne numeric t d d') (hs : CommitAll numeric ts d' d'') :
      CommitAll numeric (t :: ts) d d''

/-- A row without its id and its timestamps. -/
structure Entry : Type where
  orderId : String
  userId : String
  amount : Numeric
  method : String
  transactionId : Option String
  error : Option String
  status : PaymentStatus
  deriving DecidableEq

/-- What a row says apart from its id and its timestamps. -/
def PaymentRow.entry (row : PaymentRow) : Entry where
  orderId := row.orderId
  userId := row.userId
  amount := row.amount
  method := row.method
  transactionId := row.transactionId
  error := row.error
  status := row.status

/-! ## What a list of commits leaves behind -/

/-- The refund of `o` has been requested before or is requested by one of `ts`. -/
def requested (ts : List Txn) (d : Db) (o : String) : Bool :=
  decide (o ∈ d.refundIntents ∨ Txn.requestRefund o ∈ ts)

/-- A row once `ts` have been committed. -/
def PaymentRow.entryAfter (ts : List Txn) (row : PaymentRow) : Entry :=
  if row.status = .success ∧ .requestRefund row.orderId ∈ ts then
    { row.entry with status := .refunded }
  else row.entry

/-- The row a transaction adds, if the refund of its order is requested, then or later. -/
def Txn.entry (numeric : Float → Option Numeric) (refunded : String → Bool) : Txn → Option Entry
  | .createCharged p => (numeric p.amount).map fun amount =>
    { orderId := p.orderId
      userId := p.userId
      amount := amount
      method := p.method
      transactionId := orNull p.transactionId
      error := none
      status := if refunded p.orderId then .refunded else .success }
  | .create p => (numeric p.val.amount).map fun amount =>
    { orderId := p.val.orderId
      userId := p.val.userId
      amount := amount
      method := p.val.method
      transactionId := p.val.transactionId.bind orNull
      error := p.val.error.bind orNull
      status := .failed }
  | .requestRefund _ => none

section Commit

variable {numeric : Float → Option Numeric} {t : Txn} {ts ts' : List Txn} {d d' : Db}

/-- Of the list only the refund of the row's own order matters. -/
theorem entryAfter_congr {row : PaymentRow}
    (h : .requestRefund row.orderId ∈ ts ↔ .requestRefund row.orderId ∈ ts') :
    row.entryAfter ts = row.entryAfter ts' := by
  simp only [PaymentRow.entryAfter, h]

/-- A commit leaves the intents, and a refund adds its own. -/
theorem commitOne_intents (h : CommitOne numeric t d d') {o : String} :
    o ∈ d'.refundIntents ↔ o ∈ d.refundIntents ∨ t = .requestRefund o := by
  cases h with
  | createCharged g now h =>
    obtain ⟨rfl, -⟩ := createChargedPayment_spec h
    simp
  | create g h =>
    obtain ⟨rfl, -⟩ := create_spec h
    simp
  | requestRefund g =>
    rw [mem_refundIntents_requestRefund, Txn.requestRefund.injEq, eq_comm]

/-- What has been requested before the first commit or by it, and what is requested by the rest. -/
theorem requested_cons (h : CommitOne numeric t d d') : requested ts d' = requested (t :: ts) d := by
  funext o
  refine decide_eq_decide.mpr ?_
  rw [commitOne_intents h, List.mem_cons, or_assoc, @eq_comm _ t]

/-- One commit: it refunds old rows, or adds one that the rest may still refund. -/
theorem commitOne_payments (h : CommitOne numeric t d d') (ts : List Txn) :
    d'.payments.map (PaymentRow.entryAfter ts) =
      d.payments.map (PaymentRow.entryAfter (t :: ts)) ++
        (t.entry numeric (requested (t :: ts) d)).toList := by
  -- a transaction that is no refund leaves the old rows to the rest
  have hskip : ∀ row : PaymentRow, t ≠ .requestRefund row.orderId →
      row.entryAfter (t :: ts) = row.entryAfter ts := by
    intro row hne
    refine entryAfter_congr ?_
    rw [List.mem_cons, or_iff_right (Ne.symm hne)]
  cases h with
  | createCharged g now h =>
    rename_i p res
    unfold Db.createChargedPayment at h
    split at h
    · cases h
    · rename_i amount hamount
      cases h
      have hold : d.payments.map (PaymentRow.entryAfter (.createCharged p :: ts)) =
          d.payments.map (PaymentRow.entryAfter ts) :=
        List.map_congr_left fun row _ => hskip row nofun
      rw [hold, List.map_append]
      congr 1
      simp only [Txn.entry, hamount, Option.map_some, Option.toList_some, List.map_cons,
        List.map_nil, List.cons.injEq, and_true]
      by_cases hi : p.orderId ∈ d.refundIntents
      · simp [PaymentRow.entryAfter, PaymentRow.entry, requested, hi]
      · by_cases hr : Txn.requestRefund p.orderId ∈ ts <;>
          simp [PaymentRow.entryAfter, PaymentRow.entry, requested, hi, hr]
  | create g h =>
    rename_i p row
    unfold Db.create at h
    split at h
    · cases h
    · rename_i amount hamount
      cases h
      have hold : d.payments.map (PaymentRow.entryAfter (.create p :: ts)) =
          d.payments.map (PaymentRow.entryAfter ts) :=
        List.map_congr_left fun row _ => hskip row nofun
      rw [hold, List.map_append]
      congr 1
      simp [Txn.entry, hamount, PaymentRow.entryAfter, PaymentRow.entry, p.property]
  | requestRefund g =>
    rename_i o
    show (d.payments.map _).map _ = _ ++ []
    rw [List.append_nil, List.map_map]
    refine List.map_congr_left fun row _ => ?_
    show PaymentRow.entryAfter ts (if row.Refundable o then row.refund g.now else row) = _
    by_cases hr : row.Refundable o
    · obtain ⟨rfl, hs⟩ := hr
      rw [if_pos ⟨rfl, hs⟩]
      simp [PaymentRow.entryAfter, PaymentRow.refund, PaymentRow.entry, hs]
    · rw [if_neg hr]
      by_cases ho : row.orderId = o
      · have hs : row.status ≠ .success := fun hs => hr ⟨ho, hs⟩
        simp [PaymentRow.entryAfter, hs]
      · exact (hskip row fun heq => ho (Txn.requestRefund.inj heq).symm).symm

/-- **The payments after a list of commits**, in which the list is asked for membership only. -/
theorem commitAll_payments (h : CommitAll numeric ts d d') :
    d'.payments.map PaymentRow.entry =
      d.payments.map (PaymentRow.entryAfter ts) ++
        ts.filterMap (Txn.entry numeric (requested ts d)) := by
  induction h with
  | nil =>
    rw [List.filterMap_nil, List.append_nil]
    refine List.map_congr_left fun row _ => ?_
    simp [PaymentRow.entryAfter]
  | cons h hs ih =>
    -- a later refund changes the rows there are, a later charge adds one
    rw [ih, commitOne_payments h, requested_cons h, List.filterMap_cons, List.append_assoc]
    congr 1
    split <;> simp_all

/-- After all commits there are the old intents and those of the refunds. -/
theorem commitAll_intents (h : CommitAll numeric ts d d') {o : String} :
    o ∈ d'.refundIntents ↔ o ∈ d.refundIntents ∨ .requestRefund o ∈ ts := by
  induction h with
  | nil => simp
  | cons h hs ih =>
    rw [ih, commitOne_intents h, List.mem_cons, or_assoc, @eq_comm _ (Txn.requestRefund o)]

/-- CommitAll append intents that were not there, each once. -/
theorem commitAll_intents_append (h : CommitAll numeric ts d d') :
    ∃ added, d'.refundIntents = d.refundIntents ++ added ∧ added.Nodup ∧
      ∀ o ∈ added, o ∉ d.refundIntents := by
  induction h with
  | nil => exact ⟨[], by simp, List.nodup_nil, nofun⟩
  | @cons t ts d d' d'' h hs ih =>
    obtain ⟨added, hadded, hnodup, hnew⟩ := ih
    -- only a refund request that is new adds an intent
    have hsame : d'.refundIntents = d.refundIntents → ∃ added,
        d''.refundIntents = d.refundIntents ++ added ∧ added.Nodup ∧
          ∀ o ∈ added, o ∉ d.refundIntents := by
      intro heq
      rw [heq] at hadded hnew
      exact ⟨added, hadded, hnodup, hnew⟩
    cases h with
    | createCharged g now h =>
      obtain ⟨rfl, -⟩ := createChargedPayment_spec h
      exact hsame rfl
    | create g h =>
      obtain ⟨rfl, -⟩ := create_spec h
      exact hsame rfl
    | requestRefund g =>
      rename_i o
      by_cases ho : o ∈ d.refundIntents
      · exact hsame (if_pos ho)
      · have heq : (d.requestRefundByOrderId g o).2.refundIntents = d.refundIntents ++ [o] :=
          if_neg ho
        rw [heq] at hadded hnew
        refine ⟨o :: added, ?_, ?_, ?_⟩
        · rw [hadded, List.append_assoc, List.singleton_append]
        · refine List.nodup_cons.mpr ⟨fun hmem => ?_, hnodup⟩
          exact hnew o hmem (List.mem_append_right _ List.mem_cons_self)
        · intro x hx
          rcases List.mem_cons.mp hx with rfl | hold
          · exact ho
          · exact fun hmem => hnew x hold (List.mem_append_left _ hmem)

/-- Rows keep their places and their ids. -/
theorem commitAll_ids (h : CommitAll numeric ts d d') :
    d.payments.map PaymentRow.id <+: d'.payments.map PaymentRow.id := by
  induction h with
  | nil => exact List.prefix_rfl
  | @cons t ts d d' d'' h hs ih =>
    refine List.IsPrefix.trans ?_ ih
    cases h with
    | createCharged g now h =>
      obtain ⟨rfl, -⟩ := createChargedPayment_spec h
      rw [List.map_append]
      exact List.prefix_append _ _
    | create g h =>
      obtain ⟨rfl, -⟩ := create_spec h
      rw [List.map_append]
      exact List.prefix_append _ _
    | requestRefund g =>
      rename_i o
      -- a refund writes no id
      have heq : (d.requestRefundByOrderId g o).2.payments.map PaymentRow.id =
          d.payments.map PaymentRow.id := by
        show (d.payments.map _).map _ = _
        rw [List.map_map]
        refine List.map_congr_left fun row _ => ?_
        show PaymentRow.id (if row.Refundable o then row.refund g.now else row) = row.id
        split <;> rfl
      exact ⟨[], by rw [List.append_nil, heq]⟩

/-- Lists with the same transactions request the same refunds. -/
theorem requested_perm (h : ts.Perm ts') : requested ts d = requested ts' d := by
  funext o
  exact decide_eq_decide.mpr (or_congr_right h.mem_iff)

/-- What becomes of a row does not depend on the order of the commits. -/
theorem entryAfter_perm (h : ts.Perm ts') :
    PaymentRow.entryAfter ts = PaymentRow.entryAfter ts' := by
  funext row
  exact entryAfter_congr h.mem_iff

/-- The same intents and the same payments, whatever the order of the commits. -/
theorem commitAll_perm {d₁ d₂ : Db} (hperm : ts.Perm ts') (h₁ : CommitAll numeric ts d d₁)
    (h₂ : CommitAll numeric ts' d d₂) :
    d₁.refundIntents.Perm d₂.refundIntents ∧
      (d₁.payments.map PaymentRow.entry).Perm (d₂.payments.map PaymentRow.entry) := by
  constructor
  · obtain ⟨added₁, heq₁, hnodup₁, hnew₁⟩ := commitAll_intents_append h₁
    obtain ⟨added₂, heq₂, hnodup₂, hnew₂⟩ := commitAll_intents_append h₂
    rw [heq₁, heq₂]
    refine List.Perm.append_left _ ((List.perm_ext_iff_of_nodup hnodup₁ hnodup₂).mpr fun o => ?_)
    -- an added intent is one that was requested and was not there
    have hmem : ∀ {ts d' added}, CommitAll numeric ts d d' →
        d'.refundIntents = d.refundIntents ++ added → (∀ o ∈ added, o ∉ d.refundIntents) →
        (o ∈ added ↔ o ∉ d.refundIntents ∧ .requestRefund o ∈ ts) := by
      intro ts d' added h heq hnew
      have hiff : o ∈ d'.refundIntents ↔ o ∈ d.refundIntents ∨ .requestRefund o ∈ ts :=
        commitAll_intents h
      rw [heq, List.mem_append] at hiff
      constructor
      · intro ho
        exact ⟨hnew o ho, (hiff.mp (Or.inr ho)).resolve_left (hnew o ho)⟩
      · rintro ⟨hno, hr⟩
        exact (hiff.mpr (Or.inr hr)).resolve_left hno
    rw [hmem h₁ heq₁ hnew₁, hmem h₂ heq₂ hnew₂, hperm.mem_iff]
  · rw [commitAll_payments h₁, commitAll_payments h₂, entryAfter_perm hperm, requested_perm hperm]
    exact List.Perm.append_left _ (hperm.filterMap _)

/-- The row of a charge, at its place in the table after the other commits. -/
theorem commitAll_charge {ts₁ ts₂ : List Txn} {p : ChargedPayment} {dm dm' : Db} {g : Gen} {now : Nat}
    {row : PaymentRow} {b : Bool} (h₁ : CommitAll numeric ts₁ d dm)
    (hcharge : dm.createChargedPayment numeric g now p = .ok ((row, b), dm'))
    (h₂ : CommitAll numeric ts₂ dm' d') :
    ∃ row', d'.payments[dm.payments.length]? = some row' ∧ row'.id = row.id ∧
      row'.orderId = p.orderId ∧ row'.transactionId = orNull p.transactionId ∧
      ((row'.status = .refunded ∧ requested (ts₁ ++ .createCharged p :: ts₂) d p.orderId) ∨
        (row'.status = .success ∧ ¬ requested (ts₁ ++ .createCharged p :: ts₂) d p.orderId)) := by
  obtain ⟨rfl, -, ho, -, htx, hstatus⟩ := createChargedPayment_spec hcharge
  -- the row keeps its place, and later refunds decide its status
  have hat : (d'.payments.map PaymentRow.entry)[dm.payments.length]? =
      some (row.entryAfter ts₂) := by
    rw [commitAll_payments h₂, List.getElem?_append_left (by simp)]
    simp
  obtain ⟨row', hrow', hentry⟩ := Option.map_eq_some_iff.mp ((List.getElem?_map ..).symm.trans hat)
  have hid : row'.id = row.id := by
    obtain ⟨rest, hrest⟩ := commitAll_ids h₂
    have hplace : (d'.payments.map PaymentRow.id)[dm.payments.length]? = some row.id := by
      rw [← hrest, List.getElem?_append_left (by simp)]
      simp
    rw [List.getElem?_map, hrow'] at hplace
    exact Option.some.inj hplace
  have hiff : requested (ts₁ ++ .createCharged p :: ts₂) d p.orderId ↔
      p.orderId ∈ dm.refundIntents ∨ .requestRefund p.orderId ∈ ts₂ := by
    rw [commitAll_intents h₁]
    simp [requested, or_assoc]
  have horder : row'.orderId = row.orderId := by
    have := congrArg Entry.orderId hentry
    unfold PaymentRow.entryAfter at this
    split at this <;> exact this
  have htx' : row'.transactionId = row.transactionId := by
    have := congrArg Entry.transactionId hentry
    unfold PaymentRow.entryAfter at this
    split at this <;> exact this
  have hst : row'.status = (row.entryAfter ts₂).status := congrArg Entry.status hentry
  refine ⟨row', hrow', hid, horder.trans ho, htx'.trans htx, ?_⟩
  rw [hiff, hst]
  unfold PaymentRow.entryAfter
  rw [ho]
  -- the transaction itself has looked for an intent
  rcases hstatus with ⟨hs, hi⟩ | ⟨hs, hni⟩
  · exact Or.inl ⟨by simp [hs, PaymentRow.entry], Or.inl hi⟩
  · by_cases hr : Txn.requestRefund p.orderId ∈ ts₂
    · exact Or.inl ⟨by simp [hs, hr], Or.inr hr⟩
    · exact Or.inr ⟨by simp [hs, hr, PaymentRow.entry], not_or.mpr ⟨hni, hr⟩⟩

/-- **Charges and refunds commute**: two orders of committing the same transactions end in the same
    intents and the same payments, and in each the row of a charge is REFUNDED exactly if the refund
    of its order had been requested before or is requested by one of them. -/
theorem charges_refunds_commute {d₁ d₂ : Db} (hperm : ts.Perm ts')
    (h₁ : CommitAll numeric ts d d₁) (h₂ : CommitAll numeric ts' d d₂) :
    d₁.refundIntents.Perm d₂.refundIntents ∧
      (d₁.payments.map PaymentRow.entry).Perm (d₂.payments.map PaymentRow.entry) ∧
      ∀ before p after dm g now row b dm', ts = before ++ .createCharged p :: after →
        CommitAll numeric before d dm →
        dm.createChargedPayment numeric g now p = .ok ((row, b), dm') →
        CommitAll numeric after dm' d₁ →
        ∃ row', d₁.payments[dm.payments.length]? = some row' ∧ row'.id = row.id ∧
          row'.orderId = p.orderId ∧
          (row'.status = .refunded ↔
            p.orderId ∈ d.refundIntents ∨ .requestRefund p.orderId ∈ ts) := by
  obtain ⟨hintents, hpayments⟩ := commitAll_perm hperm h₁ h₂
  refine ⟨hintents, hpayments, ?_⟩
  rintro before p after dm g now row b dm' rfl hbefore hcharge hafter
  obtain ⟨row', hrow', hid, ho, -, hstatus⟩ := commitAll_charge hbefore hcharge hafter
  refine ⟨row', hrow', hid, ho, ?_⟩
  -- whether the order's refund is requested does not depend on the order of the commits
  rcases hstatus with ⟨hs, hreq⟩ | ⟨hs, hnot⟩
  · exact ⟨fun _ => of_decide_eq_true hreq, fun _ => hs⟩
  · refine ⟨fun hr => ?_, fun hreq => absurd (decide_eq_true hreq) hnot⟩
    rw [hs] at hr
    cases hr

end Commit

/-- A charge and the refund of its order, in both orders. -/
theorem charges_refunds_commute_pen :
    ∃ d₁ d₂ : Db, d₁ ≠ d₂ ∧
      (d₁.payments.map PaymentRow.entry).Perm (d₂.payments.map PaymentRow.entry) ∧
      ∀ row ∈ d₁.payments, row.status = .refunded := by
  let p : ChargedPayment := ⟨"o1", "u1", 10.0, "CREDIT_CARD", "TXN-7-tx"⟩
  let numeric : Float → Option Numeric := fun _ => some (.hundredths 1000)
  have hperm : [Txn.createCharged p, .requestRefund "o1"].Perm
      [.requestRefund "o1", .createCharged p] := List.Perm.swap _ _ _
  have h₁ : CommitAll numeric [Txn.createCharged p, .requestRefund "o1"] Db.empty _ :=
    .cons (.createCharged ⟨"pay1", 8⟩ 8 rfl) (.cons (.requestRefund ⟨"", 9⟩) .nil)
  -- requested first, so that the charge is stored as refunded
  have h₂ : CommitAll numeric [.requestRefund "o1", .createCharged p] Db.empty _ :=
    .cons (.requestRefund ⟨"", 8⟩) (.cons (.createCharged ⟨"pay1", 9⟩ 9 rfl) .nil)
  obtain ⟨-, hpayments, -⟩ := charges_refunds_commute hperm h₁ h₂
  exact ⟨_, _, by decide, hpayments, by decide⟩

end Microservices.Payment
