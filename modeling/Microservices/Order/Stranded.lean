/-
  No stranded charge after a failed saga.

  A saga that has thrown has either never asked for a charge, or has had its refund answered.  In
  the first case no row of its order can exist.  In the second the refund has left its intent, and
  from then on every charge of the order that is still to come is stored as REFUNDED
  (`Inv.noStranded`).

  The invariant is that of `Order.Invariant`, and nothing is added to it here; what is new is the
  run `late_charge`, in which the charge is stored after its refund was answered, the client of the
  charge having given up long before.
-/
import Microservices.Order.Invariant

namespace Microservices.Order

open Microservices.Payment

section Threw

variable {numeric : Float → Option Numeric} {maxRetries : Nat} {s s' : State} {ev : Event}
variable {o : String} {compensations : List Compensation} {L : SagaLog}

/-- A saga that has thrown stays as it is. -/
theorem threw_step (h : Threw s o compensations L) (hstep : Step numeric maxRetries s ev s') :
    Threw s' o compensations L := by
  obtain ⟨g, e, hg, hthread⟩ := h
  -- a saga that still awaits something is another one
  have hother : ∀ x g' op k, s.sagas x = some g' → g'.thread.prog = .await op k → o ≠ x := by
    rintro x g' op k hg' hp rfl
    cases hg.symm.trans hg'
    rw [hthread] at hp
    cases hp
  cases hstep with
  | start x input hfresh =>
    refine ⟨g, e, (setSaga_ne s x _ ?_).trans hg, hthread⟩
    rintro rfl
    rw [hfresh] at hg
    cases hg
  | send x hg' hp hc => exact ⟨g, e, (setSaga_ne s x _ (hother _ _ _ _ hg' hp)).trans hg, hthread⟩
  | arrive i hi hh => exact ⟨g, e, hg, hthread⟩
  | serve i hi hp hd => exact ⟨g, e, hg, hthread⟩
  | finish i hi hp => exact ⟨g, e, hg, hthread⟩
  | execute i hi hd => exact ⟨g, e, hg, hthread⟩
  | elsewhere i r hi he => exact ⟨g, e, hg, hthread⟩
  | answer x hg' hp hc hi =>
    exact ⟨g, e, (setSaga_ne s x _ (hother _ _ _ _ hg' hp)).trans hg, hthread⟩
  | giveUp x e' hg' hp =>
    exact ⟨g, e, (setSaga_ne s x _ (hother _ _ _ _ hg' hp)).trans hg, hthread⟩

/-- What has been thrown stays thrown over a whole run. -/
theorem threw_runs {P : State → Event → Prop} (h : Threw s o compensations L)
    (hrun : RunsUnder numeric maxRetries P s s') : Threw s' o compensations L := by
  induction hrun with
  | refl => exact h
  | tail _ hstep ih =>
    obtain ⟨ev, -, hev⟩ := hstep
    exact threw_step ih hev

/-- A saga that has thrown has undone what it had registered. -/
theorem Inv.undone (h : Inv numeric s) (ht : Threw s o compensations L) :
    Undone o L compensations := by
  obtain ⟨g, e, hg, hthread⟩ := ht
  have hends := (h.obeys o g hg).here
  rw [hthread] at hends
  exact hends

/-- What a saga that has thrown has asked for is in its answers. -/
theorem Inv.asked_threw (h : Inv numeric s) (ht : Threw s o compensations L) {op : SagaOp}
    (hop : op.orderId? = some o) (hasked : s.Asked op) : Answered op L := by
  obtain ⟨g, e, hg, hthread⟩ := ht
  rcases h.made_of_asked hg hop hasked with ⟨k, hp⟩ | hans
  · rw [hthread] at hp
    cases hp
  · rw [hthread] at hans
    exact hans

/-- The answers of a saga that has thrown are still true. -/
theorem Inv.told_threw (h : Inv numeric s) (ht : Threw s o compensations L) {op : SagaOp}
    {r : SagaRes op} (hmem : (⟨op, r⟩ : Σ op, SagaRes op) ∈ L) : Told numeric s.payment op r := by
  obtain ⟨g, e, hg, hthread⟩ := ht
  refine h.told o g hg ⟨op, r⟩ ?_
  rw [hthread]
  exact hmem

/-- **No stranded charge after a failed saga.**  Once the saga of `o` has thrown, having either
    never registered its refund or had the refund answered without error, no row of `o` is SUCCESS
    in any later state, however late its charges are stored. -/
theorem not_success_of_threw (hrun : Runs numeric maxRetries State.init s)
    (hthrew : Threw s o compensations L)
    (hrefund : Compensation.refundPayment o ∉ compensations ∨
      ∃ res, (⟨.refundByOrderId o, .ok res⟩ : Σ op, SagaRes op) ∈ L)
    (hlater : Runs numeric maxRetries s s') :
    ∀ row ∈ s'.payment.payments, row.orderId = o → row.status ≠ .success := by
  have hinv : Inv numeric s' := inv_runs (inv_runs (inv_init numeric) hrun) hlater
  have hthrew' : Threw s' o compensations L := threw_runs hthrew hlater
  intro row hrow ho
  rcases hrefund with hnever | ⟨res, hmem⟩
  · -- never registered, so no charge was asked for and the row cannot exist
    obtain ⟨req, hasked, hreq⟩ := hinv.charged row hrow
    have hans : Answered (.processPayment req) L :=
      hinv.asked_threw hthrew' (congrArg some (hreq.trans ho)) hasked
    exact absurd ((hinv.undone hthrew').charged ⟨req, hans⟩) hnever
  · -- refunded, so the intent is there
    have hintent : o ∈ s'.payment.refundIntents := hinv.told_threw hthrew' hmem
    exact hinv.noStranded row hrow (ho ▸ hintent)

end Threw

/-! ## A charge that is stored after its refund -/

/-- A column that takes every amount for ten units of money. -/
def tenUnits : Float → Option Numeric := fun _ => some (.hundredths 1000)

/-- One pen. -/
def onePen : CreateOrder := ⟨"u1", "p1", 1⟩

/-- What the client makes of an expired deadline. -/
def deadlineExceeded : JsError :=
  { message := "Deadline exceeded", code := some "DEADLINE_EXCEEDED" }

/-- `findByOrderId` that returns `rows`. -/
theorem serve_found {numeric : Float → Option Numeric} {d : Db} {o : String}
    {rows : List PaymentRow} (h : d.findByOrderId o = rows) :
    Serve numeric (.findByOrderId o) d (.ok rows) d :=
  h ▸ .findByOrderId .done

/-- The charge is given up before its handler starts, the refund is answered, the saga throws; then
    the handler starts, charges and stores. -/
theorem late_charge :
    ∃ s, Runs tenUnits 3 State.init s ∧
      (∃ compensations L, Threw s "o1" compensations L ∧
        ∃ res, (⟨.refundByOrderId "o1", .ok res⟩ : Σ op, SagaRes op) ∈ L) ∧
      ∃ s', Runs tenUnits 3 s s' ∧ ∃ row ∈ s'.payment.payments, row.orderId = "o1" := by
  have hnone : Db.findByOrderId "o1" ⟨[], ["o1"]⟩ = [] := by simp [Db.findByOrderId]
  refine ⟨?s, ?hrun, ?hthrew, ?s', ?hlater, ?hrow⟩
  case hrun =>
    refine .cons (.start "o1" onePen rfl) trivial ?_
    refine .cons (.send "o1" rfl rfl rfl) trivial ?_
    refine .cons (.elsewhere 0 (Except.ok ⟨"u1", "An", "an@mail"⟩) rfl (.getUser _ _)) trivial ?_
    refine .cons (.answer "o1" rfl rfl rfl rfl) trivial ?_
    refine .cons (.send "o1" rfl rfl rfl) trivial ?_
    refine .cons (.elsewhere 1 (Except.ok ⟨"p1", "Pen", 10.0⟩) rfl (.getProduct _ _)) trivial ?_
    refine .cons (.answer "o1" rfl rfl rfl rfl) trivial ?_
    -- the charge is call number 2
    refine .cons (.send "o1" rfl rfl rfl) trivial ?_
    refine .cons (.giveUp "o1" deadlineExceeded rfl rfl) trivial ?_
    -- the refund is call number 3
    refine .cons (.send "o1" rfl rfl rfl) trivial ?_
    refine .cons (.arrive 3 rfl rfl) trivial ?_
    refine .cons (.serve 3 rfl rfl (.requestRefundByOrderId ⟨"", 0⟩ .done)) trivial ?_
    refine .cons (.serve 3 rfl rfl (serve_found hnone)) trivial ?_
    refine .cons (.finish 3 rfl rfl) trivial ?_
    refine .cons (.answer "o1" rfl rfl rfl rfl) trivial ?_
    refine .cons (.giveUp "o1" deadlineExceeded rfl rfl) trivial ?_
    exact .refl
  case hthrew =>
    exact ⟨_, _, ⟨_, _, rfl, rfl⟩, _, List.mem_cons_of_mem _ List.mem_cons_self⟩
  case hlater =>
    refine .cons (.arrive 2 rfl rfl) trivial ?_
    refine .cons (.serve 2 rfl rfl (.charge (.accepted 7 "late"))) trivial ?_
    refine .cons (.serve 2 rfl rfl (.createChargedPayment ⟨"pay1", 8⟩ 8 .done)) trivial ?_
    exact .refl
  case hrow => exact ⟨_, List.mem_cons_self, rfl⟩

/-- Its row is not SUCCESS. -/
theorem not_success_of_late_charge :
    ∃ s : State, Runs tenUnits 3 State.init s ∧
      ∃ row ∈ s.payment.payments, row.orderId = "o1" ∧ row.status ≠ .success := by
  obtain ⟨s, hrun, ⟨compensations, L, hthrew, res, hmem⟩, s', hlater, row, hrow, ho⟩ := late_charge
  exact ⟨s', hrun.trans hlater, row, hrow, ho,
    not_success_of_threw hrun hthrew (Or.inr ⟨res, hmem⟩) hlater row hrow ho⟩

end Microservices.Order
