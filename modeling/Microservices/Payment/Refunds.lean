/-
  The two ways to refund (`refundPayment` and `refundByOrderId` in
  payment-service/src/services/payment.service.js), among any number of calls of the service.

  * `refundByOrderId_blind_safe` — once a refund of an order has committed, every later one of it
    changes nothing and returns 0: no SUCCESS row of the order can appear any more, and REFUNDED
    never reverts.
  * `refunded_once` — a row is reported as refunded by one call and keeps its `refunded_at`, as long
    as the unguarded `UPDATE` of `refundPayment` commits only while the row is still SUCCESS.
    `refunded_twice` is a run of two overlapping `refundPayment` calls in which it is not.
-/
import Microservices.Payment.Lifecycle

namespace Microservices.Payment

open Concurrent (Event Protocol)

/-! ## Refunds by order -/

section BlindSafe

variable {numeric : Float → Option Numeric} {maxRetries : Nat} {s s' : PaySys} {d d' : Db}
variable {o : String} {g : Gen}

/-- A refund of an order whose refund has been requested changes nothing. -/
theorem requestRefund_again (hd : d.NoStranded) (ho : o ∈ d.refundIntents) :
    d.requestRefundByOrderId g o = ([], d) := by
  -- no row of the order is SUCCESS
  have hnone : ∀ row ∈ d.payments, ¬ row.Refundable o := by
    rintro row hrow ⟨horder, hs⟩
    exact hd row hrow (horder ▸ ho) hs
  have hfilter : (d.payments.filter fun row => decide (row.Refundable o)) = [] :=
    List.filter_eq_nil_iff.mpr fun row hrow h => hnone row hrow (of_decide_eq_true h)
  have hmap : (d.payments.map fun row => if row.Refundable o then row.refund g.now else row) =
      d.payments := by
    conv_rhs => rw [← List.map_id d.payments]
    exact List.map_congr_left fun row hrow => if_neg (hnone row hrow)
  unfold Db.requestRefundByOrderId
  rw [hfilter, hmap, if_pos ho]
  rfl

/-- So whatever its answer is, the tables stay and no row is returned. -/
theorem ServeKeyed.refund_again {r : PayRes (.requestRefundByOrderId o)}
    (h : ServeKeyed numeric (.requestRefundByOrderId o) d r d') (hd : d.NoStranded)
    (ho : o ∈ d.refundIntents) : d' = d ∧ ∀ rows, r = .ok rows → rows = [] := by
  obtain ⟨hserve, -⟩ := h
  cases hserve with
  | requestRefundByOrderId g out =>
    rw [requestRefund_again hd ho]
    cases out with
    | done => exact ⟨rfl, fun rows hr => (Except.ok.inj hr).symm⟩
    | rejected e committed => cases committed <;> exact ⟨rfl, nofun⟩

/-- Reads leave the tables. -/
theorem ServeKeyed.find {r : PayRes (.findByOrderId o)}
    (h : ServeKeyed numeric (.findByOrderId o) d r d') : d' = d := by
  obtain ⟨hserve, -⟩ := h
  cases hserve
  rfl

/-- A refund of `o` commits in this step. -/
structure Refunds (numeric : Float → Option Numeric) (maxRetries : Nat) (s : PaySys) (o : String)
    (s' : PaySys) : Prop where
  step : ∃ i r, PayStep numeric maxRetries s (.serve i (.requestRefundByOrderId o) r) s'
  committed : ∃ g, s'.data = (s.data.requestRefundByOrderId g o).2

/-- And updates the row with this id. -/
def Updates (numeric : Float → Option Numeric) (maxRetries : Nat) (s : PaySys) (o id : String)
    (s' : PaySys) : Prop :=
  Refunds numeric maxRetries s o s' ∧ ∃ row ∈ s.data.payments, row.id = id ∧ row.Refundable o

/-- After a refund its intent is there. -/
theorem Refunds.intent (h : Refunds numeric maxRetries s o s') : o ∈ s'.data.refundIntents := by
  obtain ⟨g, hg⟩ := h.committed
  rw [hg]
  exact mem_refundIntents_requestRefund.mpr (Or.inr rfl)

/-- A refund is a run of the service. -/
theorem Refunds.run (h : Refunds numeric maxRetries s o s') : PayRuns numeric maxRetries s s' := by
  obtain ⟨i, r, hstep⟩ := h.step
  exact .single ⟨_, hstep⟩

/-- After the UPDATE the payment is REFUNDED. -/
theorem Updates.isRefunded {id : String} (h : Updates numeric maxRetries s o id s') :
    s'.data.IsRefunded id := by
  obtain ⟨hrefunds, row, hrow, hid, hr⟩ := h
  obtain ⟨g, hg⟩ := hrefunds.committed
  rw [hg]
  exact ⟨row.refund g.now, List.mem_map.mpr ⟨row, hrow, if_pos hr⟩, hid, rfl⟩

/-- A call that stands at its refund may have it committed next. -/
theorem refunds_of_awaits {i : Nat} {c : Concurrent.Call PayOp PayRes Answer}
    {k : PayRes (.requestRefundByOrderId o) → Prog PayOp PayRes (Answer c.req)} (g : Gen)
    (hi : s.calls[i]? = some c) (hp : c.thread.prog = .await (.requestRefundByOrderId o) k)
    (hkeyed : (s.data.requestRefundByOrderId g o).2.Keyed) :
    Refunds numeric maxRetries s o ⟨(s.data.requestRefundByOrderId g o).2, s.calls.set i
      ⟨c.req, c.thread.answer _ k (.ok (s.data.requestRefundByOrderId g o).1)⟩⟩ where
  step := ⟨i, _, .serve i hi hp ⟨.requestRefundByOrderId g .done, hkeyed⟩⟩
  committed := ⟨g, rfl⟩

/-- What a call of `refundByOrderId` asks, once the refund of its order has committed. -/
theorem refundByOrderId_step {i : Nat} {t : Thread PayOp PayRes (Answer (.refundByOrderId o))}
    {op : PayOp} {r : PayRes op} (hsound : (lifecycle numeric maxRetries).Sound s)
    (ho : o ∈ s.data.refundIntents) (hi : s.calls[i]? = some ⟨.refundByOrderId o, t⟩)
    (hstep : PayStep numeric maxRetries s (.serve i op r) s') : s'.data = s.data := by
  cases hstep with
  | serve _ hi' hp hd =>
    cases hi.symm.trans hi'
    have hown : RefundByOrderKeeps o t.log (.await op _) :=
      (hsound.obeys _ (List.mem_of_getElem? hi)).standsAt hp
    cases op with
    | requestRefundByOrderId x =>
      obtain ⟨rfl, -⟩ := hown
      -- the intent is there, and nothing is left to refund
      exact (hd.refund_again hsound.inv.noStranded ho).1
    | findByOrderId x => exact hd.find
    | charge orderId amount => exact hown.elim
    | createChargedPayment p => exact hown.elim
    | create p => exact hown.elim
    | findById x => exact hown.elim
    | markRefunded x => exact hown.elim
    | sleep ms => exact hown.elim

/-- A call of `refundByOrderId` that is made after a refund of its order has committed, and that the
    database answers, has returned 0 or still awaits one of its two answers. -/
theorem refundByOrderId_returns {i : Nat} {t : Thread PayOp PayRes (Answer (.refundByOrderId o))}
    (hsound : (lifecycle numeric maxRetries).Sound s) (ho : o ∈ s.data.refundIntents)
    (hrun : PayRuns numeric maxRetries s s') (hlate : s.calls.length ≤ i)
    (hi : s'.calls[i]? = some ⟨.refundByOrderId o, t⟩)
    (havailable : ∀ e ∈ t.log, ∃ a, e.2 = .ok a) :
    (∃ message, t.prog = .ret (.ok (0, message))) ∨
      t.log.length < 2 ∧ ∃ op k, t.prog = .await op k := by
  have hsound' := ((lifecycle numeric maxRetries).sound_runs hsound hrun).1
  have hown : RefundByOrderKeeps o t.log t.prog := (hsound'.obeys _ (List.mem_of_getElem? hi)).here
  generalize t.prog = p at hown
  cases p with
  | await op k =>
    refine Or.inr ⟨?_, op, k, rfl⟩
    cases op with
    | requestRefundByOrderId x =>
      obtain ⟨-, hL⟩ := hown
      rw [hL]
      exact Nat.zero_lt_two
    | findByOrderId x =>
      obtain ⟨-, hL⟩ := hown
      rw [hL]
      exact Nat.one_lt_two
    | charge orderId amount => exact hown.elim
    | createChargedPayment p => exact hown.elim
    | create p => exact hown.elim
    | findById x => exact hown.elim
    | markRefunded x => exact hown.elim
    | sleep ms => exact hown.elim
  | ret out =>
    cases out with
    | error e =>
      obtain ⟨op, hmem⟩ := hown
      obtain ⟨a, ha⟩ := havailable _ hmem
      cases ha
    | ok res =>
      obtain ⟨rows, hmem, hrows⟩ := hown
      -- the refund was answered after the one that has committed
      obtain ⟨m, d, hm, hserve⟩ := hrun.given_after hlate hi hmem
      obtain ⟨hsoundm, hfollows⟩ := (lifecycle numeric maxRetries).sound_runs hsound hm
      have hempty := (hserve.refund_again hsoundm.inv.noStranded (hfollows.intents o ho)).2 rows rfl
      obtain ⟨refunded, message⟩ := res
      rw [hempty] at hrows
      cases hrows
      exact Or.inl ⟨message, rfl⟩

/-- **`refundByOrderId` is idempotent and safe to call blindly**, in every run of the service.  Once
    one refund of `o` has committed, no step of a call for `o` changes the tables, and a call made
    later, if the database answers it, returns 0 after at most two answers; and no two commits ever
    update the same row. -/
theorem refundByOrderId_blind_safe (hrun : PayRuns numeric maxRetries PaySys.init s) :
    (∀ o s₁ s₂, Refunds numeric maxRetries s o s₁ → PayRuns numeric maxRetries s₁ s₂ →
      (∀ i t op r s₃, s₂.calls[i]? = some ⟨.refundByOrderId o, t⟩ →
        PayStep numeric maxRetries s₂ (.serve i op r) s₃ → s₃.data = s₂.data) ∧
      ∀ i t, s₁.calls.length ≤ i → s₂.calls[i]? = some ⟨.refundByOrderId o, t⟩ →
        (∀ e ∈ t.log, ∃ a, e.2 = .ok a) →
        (∃ message, t.prog = .ret (.ok (0, message))) ∨
          t.log.length < 2 ∧ ∃ op k, t.prog = .await op k) ∧
    ∀ o o' id s₁ s₂ s₃, Updates numeric maxRetries s o id s₁ →
      PayRuns numeric maxRetries s₁ s₂ → ¬ Updates numeric maxRetries s₂ o' id s₃ := by
  have hsound : (lifecycle numeric maxRetries).Sound s := sound_of_runs hrun
  refine ⟨fun o s₁ s₂ hrefunds hlater => ?_, fun o o' id s₁ s₂ s₃ hfirst hlater hsecond => ?_⟩
  · have hsound₁ := ((lifecycle numeric maxRetries).sound_runs hsound hrefunds.run).1
    obtain ⟨hsound₂, hfollows⟩ := (lifecycle numeric maxRetries).sound_runs hsound₁ hlater
    -- the first call's intent is still there
    have ho : o ∈ s₂.data.refundIntents := hfollows.intents o hrefunds.intent
    refine ⟨fun i t op r s₃ hi hstep => refundByOrderId_step hsound₂ ho hi hstep, ?_⟩
    intro i t hlate hi havailable
    exact refundByOrderId_returns hsound₁ hrefunds.intent hlater hlate hi havailable
  · have hsound₁ := ((lifecycle numeric maxRetries).sound_runs hsound hfirst.1.run).1
    obtain ⟨hsound₂, hfollows⟩ := (lifecycle numeric maxRetries).sound_runs hsound₁ hlater
    -- the second update would need the row to be of success again
    obtain ⟨-, row, hrow, hid, -, hs⟩ := hsecond
    exact hsound₂.inv.keyed.not_success (hfollows.isRefunded hfirst.isRefunded) hrow hid hs

end BlindSafe

/-- The pen is refunded. -/
theorem penPayment_refunded :
    ∃ s s' : PaySys, PayRuns alwaysTen 3 PaySys.init s ∧ Updates alwaysTen 3 s "o1" "pay1" s' := by
  refine ⟨?s, ?s', ?hrun, ?hrefunds, ?hrow⟩
  case hrun =>
    refine .cons (.call (.processPayment penPayment)) ?_
    refine .cons (.serve 0 rfl rfl ⟨.charge (.accepted 7 "tx"), List.nodup_nil⟩) ?_
    refine .cons (.serve 0 rfl rfl ⟨.createChargedPayment ⟨"pay1", 8⟩ 8 .done,
      List.nodup_singleton _⟩) ?_
    -- the refund is asked for once the payment stands
    refine .cons (.call (.refundByOrderId "o1")) ?_
    exact .refl
  case hrefunds =>
    refine @refunds_of_awaits _ _ _ _ 1 ?c ?k ⟨"", 9⟩ ?hi ?hp ?hkeyed
    case hi => exact rfl
    case hp => exact rfl
    case hkeyed => exact List.nodup_singleton _
  case hrow => exact ⟨_, List.mem_cons_self, rfl, rfl, rfl⟩

/-- A state in which the one payment of an order cannot be updated any more. -/
theorem refundByOrderId_blind_safe_pen :
    ∃ s : PaySys, ∀ o s₂, ¬ Updates alwaysTen 3 s o "pay1" s₂ := by
  obtain ⟨s, s₁, hrun, hupdates⟩ := penPayment_refunded
  obtain ⟨-, honce⟩ := refundByOrderId_blind_safe hrun
  exact ⟨s₁, fun o s₂ => honce "o1" o "pay1" s₁ s₁ s₂ hupdates .refl⟩

/-! ## Each payment is refunded at most once -/

/-- The call has reported the refund of the row with this id. -/
def Reports (c : Concurrent.Call PayOp PayRes Answer) (id : String) : Prop :=
  match c with
  | ⟨.refundPayment x, t⟩ => x = id ∧ t.prog = .ret (.ok true)
  | ⟨.refundByOrderId o, t⟩ => ∃ rows,
    (⟨.requestRefundByOrderId o, .ok rows⟩ : Σ op, PayRes op) ∈ t.log ∧ ∃ x ∈ rows, x.1 = id
  | ⟨.processPayment _, _⟩ => False

/-- In every run each row is reported as refunded by one call at most, and keeps its
    `refunded_at`. -/
def RefundedOnce (maxRetries : Nat) (serve : (op : PayOp) → Db → PayRes op → Db → Prop) : Prop :=
  ∀ s, Concurrent.Runs (program maxRetries) serve PaySys.init s →
    (∀ (i j : Nat) c c' id, s.calls[i]? = some c → s.calls[j]? = some c' →
      Reports c id → Reports c' id → i = j) ∧
    ∀ s', Concurrent.Runs (program maxRetries) serve s s' →
      ∀ row ∈ s.data.payments, ∀ t, row.refundedAt = some t →
        ∃ row' ∈ s'.data.payments, row'.id = row.id ∧ row'.refundedAt = some t

/-- Two overlapping calls of `refundPayment` for one row: both read SUCCESS, and both return. -/
theorem overlapping_refunds :
    ∃ s c c', PayRuns alwaysTen 3 PaySys.init s ∧ s.calls[1]? = some c ∧ s.calls[2]? = some c' ∧
      Reports c "pay1" ∧ Reports c' "pay1" := by
  refine ⟨?s, ?c, ?c', ?hrun, ?hc, ?hc', ?hreports, ?hreports'⟩
  case hrun =>
    refine .cons (.call (.processPayment penPayment)) ?_
    refine .cons (.serve 0 rfl rfl ⟨.charge (.accepted 7 "tx"), List.nodup_nil⟩) ?_
    refine .cons (.serve 0 rfl rfl ⟨.createChargedPayment ⟨"pay1", 8⟩ 8 .done,
      List.nodup_singleton _⟩) ?_
    -- both have read the row before either writes it
    refine .cons (.call (.refundPayment "pay1")) ?_
    refine .cons (.call (.refundPayment "pay1")) ?_
    refine .cons (.serve 1 rfl rfl ⟨.findById .done, List.nodup_singleton _⟩) ?_
    refine .cons (.serve 2 rfl rfl ⟨.findById .done, List.nodup_singleton _⟩) ?_
    refine .cons (.serve 1 rfl rfl ⟨.sleep, List.nodup_singleton _⟩) ?_
    refine .cons (.serve 2 rfl rfl ⟨.sleep, List.nodup_singleton _⟩) ?_
    refine .cons (.serve 1 rfl rfl ⟨.markRefunded ⟨"", 9⟩ .done, List.nodup_singleton _⟩) ?_
    refine .cons (.serve 2 rfl rfl ⟨.markRefunded ⟨"", 10⟩ .done, List.nodup_singleton _⟩) ?_
    exact .refl
  case hc => exact rfl
  case hc' => exact rfl
  case hreports => exact ⟨rfl, rfl⟩
  case hreports' => exact ⟨rfl, rfl⟩

/-- Two refunds that overlap both succeed. -/
theorem refunded_twice : ¬ RefundedOnce 3 (ServeKeyed alwaysTen) := by
  intro h
  obtain ⟨s, c, c', hrun, hc, hc', hreports, hreports'⟩ := overlapping_refunds
  have heq : 1 = 2 := (h s hrun).1 1 2 c c' "pay1" hc hc' hreports hreports'
  cases heq

/-- The unguarded `UPDATE` is rolled back unless its row is still SUCCESS. -/
def ServeGuarded (numeric : Float → Option Numeric) (op : PayOp) (d : Db) (r : PayRes op)
    (d' : Db) : Prop :=
  ServeKeyed numeric op d r d' ∧ ∀ id, op = .markRefunded id →
    (∀ row ∈ d.payments, row.id = id → row.status = .success) ∨ (∀ x, r ≠ .ok x) ∧ d' = d

section Once

variable {numeric : Float → Option Numeric} {maxRetries : Nat} {s s' : PaySys} {d d' : Db}

/-- The answer reports the refund of the row with this id. -/
def Reported : (op : PayOp) → PayRes op → String → Prop
  | .markRefunded x, .ok _, id => x = id
  | .requestRefundByOrderId _, .ok rows, id => ∃ x ∈ rows, x.1 = id
  | _, _, _ => False

/-- What has been reported is REFUNDED. -/
theorem Tells.isRefunded {op : PayOp} {r : PayRes op} {id : String} (h : Tells d op r)
    (hreported : Reported op r id) : d.IsRefunded id := by
  cases op with
  | markRefunded x =>
    cases r with
    | error e => exact hreported.elim
    | ok y =>
      -- reported is what the UPDATE was for
      have hid : x = id := hreported
      subst hid
      exact h
  | requestRefundByOrderId o =>
    cases r with
    | error e => exact hreported.elim
    | ok rows =>
      obtain ⟨x, hx, rfl⟩ := hreported
      exact h.2 x hx
  | charge orderId amount => exact hreported.elim
  | createChargedPayment p => exact hreported.elim
  | create p => exact hreported.elim
  | findByOrderId o => exact hreported.elim
  | findById x => exact hreported.elim
  | sleep ms => exact hreported.elim

/-- What is reported was SUCCESS before. -/
theorem ServeGuarded.not_isRefunded {op : PayOp} {r : PayRes op} {id : String}
    (h : ServeGuarded numeric op d r d') (hkeyed : d.Keyed) (hreported : Reported op r id) :
    ¬ d.IsRefunded id := by
  rintro hid
  obtain ⟨⟨hserve, -⟩, hguard⟩ := h
  cases hserve with
  | markRefunded g out =>
    rename_i x
    cases out with
    | rejected e committed => cases committed <;> exact hreported
    | done =>
      have hx : x = id := hreported
      subst hx
      rcases hguard x rfl with hsuccess | ⟨hno, -⟩
      · obtain ⟨row, hrow, hrowid, hs⟩ := hid
        have hs' := hsuccess row hrow hrowid
        rw [hs] at hs'
        cases hs'
      · exact hno _ rfl
  | requestRefundByOrderId g out =>
    cases out with
    | rejected e committed => cases committed <;> exact hreported
    | done =>
      obtain ⟨x, hx, rfl⟩ := hreported
      obtain ⟨row, hrow, rfl⟩ := List.mem_map.mp hx
      -- the refund by order updates payments of success alone
      obtain ⟨hmem, hr⟩ := List.mem_filter.mp hrow
      exact hkeyed.not_success hid hmem rfl (of_decide_eq_true hr).2
  | charge out => cases out <;> exact hreported
  | createChargedPayment g now out => exact hreported.elim
  | create g out => exact hreported.elim
  | findByOrderId out => exact hreported.elim
  | findById out => exact hreported.elim
  | sleep => exact hreported.elim

/-- A row that is REFUNDED stays as it is, `refunded_at` and all. -/
theorem ServeGuarded.keeps {op : PayOp} {r : PayRes op} {row : PaymentRow}
    (h : ServeGuarded numeric op d r d') (hrow : row ∈ d.payments) (hs : row.status = .refunded) :
    row ∈ d'.payments := by
  obtain ⟨⟨hserve, -⟩, hguard⟩ := h
  have hnot : row.status ≠ .success := by
    rw [hs]
    nofun
  cases hserve.effect with
  | none => exact hrow
  | charged _ hx =>
    obtain ⟨rfl, -⟩ := createChargedPayment_spec hx
    exact List.mem_append_left _ hrow
  | created _ hx =>
    obtain ⟨rfl, -⟩ := create_spec hx
    exact List.mem_append_left _ hrow
  | refunded _ => exact List.mem_map.mpr ⟨row, hrow, if_neg fun hr => hnot hr.2⟩
  | marked hmark =>
    rename_i g x
    -- a guarded UPDATE does not touch a refunded row
    rcases hguard x hmark with hsuccess | ⟨-, hsame⟩
    · exact List.mem_map.mpr ⟨row, hrow, if_neg fun hid => hnot (hsuccess row hrow hid)⟩
    · rw [hsame]
      exact hrow

/-- The same protocol under the guard. -/
def guarded (numeric : Float → Option Numeric) (maxRetries : Nat) :
    Protocol (program maxRetries) (ServeGuarded numeric) :=
  (lifecycle numeric maxRetries).restrict fun h => h.1

/-- A call that reports a refund has been told of it. -/
theorem Reports.marked {c : Concurrent.Call PayOp PayRes Answer} {id : String}
    (hobeys : c.thread.Obeys (Keeps c.req)) (h : Reports c id) :
    Protocol.Marked Reported c id := by
  obtain ⟨q, t⟩ := c
  cases q with
  | processPayment req => exact h.elim
  | refundPayment x =>
    obtain ⟨rfl, hp⟩ := h
    have hret : RefundKeeps x t.log (.ret (.ok true)) := hobeys.standsAt hp
    obtain ⟨r, hmem⟩ := hret
    exact ⟨_, hmem, rfl⟩
  | refundByOrderId o =>
    obtain ⟨rows, hmem, hx⟩ := h
    exact ⟨_, hmem, hx⟩

/-- **Each payment is refunded at most once**, as long as the unguarded `UPDATE` commits only while
    its row is SUCCESS. -/
theorem refunded_once (numeric : Float → Option Numeric) (maxRetries : Nat) :
    RefundedOnce maxRetries (ServeGuarded numeric) := by
  intro s hrun
  have hstart : (guarded numeric maxRetries).Sound PaySys.init :=
    (guarded numeric maxRetries).sound_start valid_empty
  have hsound := ((guarded numeric maxRetries).sound_runs hstart hrun).1
  constructor
  · have honce : Protocol.MarkedOnce Reported s := by
      refine (guarded numeric maxRetries).markedOnce_runs hstart ?_ ?_ hrun
      · intro i j c c' id hi
        cases hi
      · intro q L o k d r d' id hinv htext htold hserve hreported o' r' htells hmark
        exact hserve.not_isRefunded hinv.keyed hreported (htells.isRefunded hmark)
    intro i j c c' id hi hj hc hc'
    exact honce i j c c' id hi hj (hc.marked (hsound.obeys c (List.mem_of_getElem? hi)))
      (hc'.marked (hsound.obeys c' (List.mem_of_getElem? hj)))
  · intro s' hlater row hrow t ht
    have hs : row.status = .refunded := by
      refine (hsound.inv.rows row hrow).refunded.mp ?_
      rw [ht]
      rfl
    refine ⟨row, ?_, rfl, ht⟩
    -- by induction over the run: the row itself stays
    induction hlater with
    | refl => exact hrow
    | tail _ hstep ih =>
      obtain ⟨ev, hev⟩ := hstep
      cases hev with
      | call q => exact ih
      | serve i hi hp hd => exact hd.keeps ih hs

end Once

end Microservices.Payment
