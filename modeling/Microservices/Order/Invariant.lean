/-
  What holds in every state of the joint system, whatever fails and however late anything happens.

  * every call was made by the saga of its own order, at a point its text allows;
  * every answer, in a log or still on its way, says something about the payment tables that no
    later step takes back (`Told`);
  * the payment tables strand no charge, and hold rows and intents only of orders whose saga made
    the call.

  `inv_reachable` is the induction over the run; the rest of the development uses its fields.
-/
import Microservices.Order.System

namespace Microservices.Order

open Microservices.Payment

/-! ## Calls and the sagas that made them -/

/-- The saga has made the call `op`: it stands at it, or has its answer. -/
def Saga.Made (g : Saga) (op : SagaOp) : Prop :=
  (∃ k, g.thread.prog = .await op k) ∨ Answered op g.thread.log

/-- The call `op` is somewhere in the system. -/
def State.Asked (s : State) (op : SagaOp) : Prop := ∃ c ∈ s.calls, c.op = op

/-- The order a call is about. -/
def SagaOp.orderId? : SagaOp → Option String
  | .processPayment req => some req.orderId
  | .refundByOrderId o => some o
  | .create order => some order.id
  | .updateStatus id _ => some id
  | _ => none

/-! ## What an answer to a saga says for good -/

/-- A payment of `req` with this id has been stored as SUCCESS, and still is unless the order has
    been refunded. -/
def Paid (numeric : Float → Option Numeric) (d : Db) (req : PaymentRequest) (id : String) : Prop :=
  ∃ row, Held d row ∧ row.id = id ∧ row.orderId = req.orderId ∧ row.status = .success ∧
    numeric req.amount = some row.amount

/-- What the answer to a call of a saga still says however late it is read. -/
def Told (numeric : Float → Option Numeric) (d : Db) : (op : SagaOp) → SagaRes op → Prop
  | .refundByOrderId o, .ok _ => o ∈ d.refundIntents
  | .processPayment req, .ok resp => resp.status = .success → Paid numeric d req resp.id
  | _, _ => True

/-- The handler of a call keeps to its own text. -/
def HandlerObeys : (op : SagaOp) → Thread PayOp PayRes (SagaRes op) → Prop
  | .processPayment req, t => t.Obeys (ChargeDisciplined req)
  | .refundByOrderId o, t => t.Obeys (RefundDisciplined o)
  | _, _ => False

/-- What a call carries is true of the payment tables `d`. -/
def Call.Sound (numeric : Float → Option Numeric) (d : Db) (c : Call) : Prop :=
  match c.stage with
  | .sent => True
  | .running t => HandlerObeys c.op t ∧ ∀ e ∈ t.log, PayTold numeric d e.1 e.2
  | .finished r => Told numeric d c.op r

section Told

variable {numeric : Float → Option Numeric} {d d' : Db}

/-- What a saga has been told stays true of a ledger that has grown. -/
theorem Told.mono (hg : Grows d d') {op : SagaOp} {r : SagaRes op} (h : Told numeric d op r) :
    Told numeric d' op r := by
  cases op with
  | refundByOrderId o =>
    cases r with
    | ok resp => exact hg.intents o h
    | error e => trivial
  | processPayment req =>
    cases r with
    | ok resp =>
      intro hs
      -- a charge has been told a row that some payment of the order keeps
      obtain ⟨row, hheld, hrest⟩ := h hs
      exact ⟨row, hg.held row hheld, hrest⟩
    | error e => trivial
  | _ => trivial

/-- So does what a call has been told. -/
theorem Call.Sound.mono (hg : Grows d d') {c : Call} (h : c.Sound numeric d) :
    c.Sound numeric d' := by
  obtain ⟨op, stage⟩ := c
  cases stage with
  | sent => trivial
  | running t => exact ⟨h.1, fun e he => (h.2 e he).mono hg⟩
  | finished r => exact Told.mono hg h

/-- A call that was rejected says nothing. -/
theorem told_reject (op : SagaOp) (e : JsError) : Told numeric d op (op.reject e) := by
  cases op <;> trivial

/-- Nor does a call that goes elsewhere. -/
theorem told_elsewhere {op : SagaOp} {r : SagaRes op} (h : Elsewhere op r) :
    Told numeric d op r := by
  cases h <;> trivial

/-- Nor does a statement on the orders table. -/
theorem told_execute {op : SagaOp} {r : SagaRes op} {o o' : Orders}
    (h : Execute numeric op o r o') : Told numeric d op r := by
  cases h <;> trivial

/-- A handler that starts keeps to its text. -/
theorem handlerObeys_start {maxRetries : Nat} {op : SagaOp}
    {p : Prog PayOp PayRes (SagaRes op)} (h : handler maxRetries op = some p) :
    HandlerObeys op (Thread.start p) := by
  cases op with
  | processPayment req =>
    cases h
    exact handleProcessPayment_disciplined maxRetries req
  | refundByOrderId o =>
    cases h
    exact handleRefundByOrderId_disciplined o
  | _ => cases h

/-- A handler obeys its protocol after any answer. -/
theorem HandlerObeys.answer {op : SagaOp} {t : Thread PayOp PayRes (SagaRes op)} {po : PayOp}
    {pk : PayRes po → Prog PayOp PayRes (SagaRes op)} (h : HandlerObeys op t)
    (hp : t.prog = .await po pk) (r : PayRes po) : HandlerObeys op (t.answer po pk r) := by
  cases op with
  | processPayment req => exact Thread.Obeys.answer h hp r
  | refundByOrderId o => exact Thread.Obeys.answer h hp r
  | _ => exact h.elim

/-- What a handler may ask: of its own order, never `markRefunded`, no SUCCESS row by `create`. -/
theorem HandlerObeys.asks {op : SagaOp} {t : Thread PayOp PayRes (SagaRes op)} {po : PayOp}
    {pk : PayRes po → Prog PayOp PayRes (SagaRes op)} (h : HandlerObeys op t)
    (hp : t.prog = .await po pk) :
    (∀ id, po ≠ .markRefunded id) ∧ (∀ p, po = .create p → p.status ≠ .success) ∧
      (∀ x, po = .requestRefundByOrderId x → op = .refundByOrderId x) ∧
      (∀ p, po = .createChargedPayment p →
        ∃ req, op = .processPayment req ∧ req.orderId = p.orderId) ∧
      (∀ p, po = .create p → ∃ req, op = .processPayment req ∧ req.orderId = p.orderId) := by
  cases op with
  | processPayment req =>
    -- a charge asks for its own charge, its own row and its own failed row
    have hown : ChargeOwn req po := Thread.Obeys.standsAt h hp
    refine ⟨?_, ?_, ?_, ?_, ?_⟩
    · rintro id rfl
      exact hown
    · rintro p rfl
      rw [hown.2]
      decide
    · rintro x rfl
      exact hown.elim
    · rintro p rfl
      exact ⟨req, rfl, hown.1.symm⟩
    · rintro p rfl
      exact ⟨req, rfl, hown.1.symm⟩
  | refundByOrderId o =>
    have hown : RefundDisciplined o t.log (Prog.await po pk) := Thread.Obeys.standsAt h hp
    refine ⟨?_, ?_, ?_, ?_, ?_⟩
    · rintro id rfl
      exact hown
    · rintro p rfl
      exact hown.elim
    · rintro x rfl
      rw [show x = o from hown]
    · rintro p rfl
      exact hown.elim
    · rintro p rfl
      exact hown.elim
  | _ => exact h.elim

/-- What a handler returns is true. -/
theorem HandlerObeys.returns {op : SagaOp} {t : Thread PayOp PayRes (SagaRes op)} {r : SagaRes op}
    (h : HandlerObeys op t) (hp : t.prog = .ret r)
    (hlog : ∀ e ∈ t.log, PayTold numeric d e.1 e.2) : Told numeric d op r := by
  cases op with
  | processPayment req =>
    cases r with
    | error e => trivial
    | ok resp =>
      have hret : ChargeDisciplined req t.log (.ret (.ok resp)) := Thread.Obeys.standsAt h hp
      obtain ⟨row, rfl, hrec⟩ := hret
      intro hs
      -- the row returned has been recorded as paid, or as failed
      rcases hrec with ⟨p, b, ho, hamount, hmem⟩ | ⟨p, hfailed, hmem⟩
      · obtain ⟨hrow, hnum, hheld⟩ := hlog _ hmem
        exact ⟨row, hheld, rfl, hrow.trans ho, hs, hamount ▸ hnum⟩
      · have hst : row.status = p.status := hlog _ hmem
        rw [hfailed] at hst
        have hs' : row.status = .success := hs
        rw [hst] at hs'
        cases hs'
  | refundByOrderId o =>
    cases r with
    | error e => trivial
    | ok resp =>
      have hret : RefundDisciplined o t.log (.ret (.ok resp)) := Thread.Obeys.standsAt h hp
      obtain ⟨rows, hmem⟩ := hret
      exact hlog _ hmem
  | _ => trivial

end Told

/-! ## The invariant -/

/-- What holds in every reachable state. -/
structure Inv (numeric : Float → Option Numeric) (s : State) : Prop where
  /-- every saga keeps to its own text -/
  obeys : ∀ o g, s.sagas o = some g → g.thread.Obeys (Disciplined o)
  /-- every call about an order was made by the saga of that order -/
  made : ∀ c ∈ s.calls, ∀ o, c.op.orderId? = some o → ∃ g, s.sagas o = some g ∧ g.Made c.op
  /-- a saga that waits, waits for the call it stands at -/
  waits : ∀ o g i, s.sagas o = some g → g.call = some i →
    ∃ c k, s.calls[i]? = some c ∧ g.thread.prog = .await c.op k
  sound : ∀ c ∈ s.calls, c.Sound numeric s.payment
  told : ∀ o g, s.sagas o = some g → ∀ e ∈ g.thread.log, Told numeric s.payment e.1 e.2
  noStranded : s.payment.NoStranded
  /-- a row belongs to an order whose saga asked for a charge -/
  charged : ∀ row ∈ s.payment.payments,
    ∃ req, s.Asked (.processPayment req) ∧ req.orderId = row.orderId
  /-- an intent belongs to an order whose saga asked for a refund -/
  intended : ∀ x ∈ s.payment.refundIntents, s.Asked (.refundByOrderId x)

/-- What has been asked about an order was asked by the saga of that order. -/
theorem Inv.made_of_asked {numeric : Float → Option Numeric} {s : State} (h : Inv numeric s)
    {o : String} {g : Saga} {op : SagaOp} (hg : s.sagas o = some g) (hop : op.orderId? = some o)
    (hasked : s.Asked op) : g.Made op := by
  obtain ⟨c, hc, rfl⟩ := hasked
  obtain ⟨g', hg', hmade⟩ := h.made c hc o hop
  cases hg.symm.trans hg'
  exact hmade

/-- A saga that stands at another call has had the answer. -/
theorem Saga.Made.answered {g : Saga} {op op' : SagaOp} {k : SagaRes op' → SagaProg}
    (h : g.Made op) (hp : g.thread.prog = .await op' k) (hne : op' ≠ op) :
    Answered op g.thread.log := by
  rcases h with ⟨k', hp'⟩ | hans
  · rw [hp] at hp'
    cases hp'
    exact absurd rfl hne
  · exact hans

/-- At the start nothing has been asked for. -/
theorem not_asked_init {op : SagaOp} : ¬ State.init.Asked op :=
  fun ⟨_, hc, _⟩ => List.not_mem_nil hc

/-- The invariant holds of the empty system. -/
theorem inv_init (numeric : Float → Option Numeric) : Inv numeric State.init where
  obeys _ _ hg := nomatch hg
  made _ hc := absurd hc List.not_mem_nil
  waits _ _ _ hg := nomatch hg
  sound _ hc := absurd hc List.not_mem_nil
  told _ _ hg := nomatch hg
  noStranded := noStranded_empty
  charged _ hrow := absurd hrow List.not_mem_nil
  intended _ hx := absurd hx List.not_mem_nil

section Step

variable {numeric : Float → Option Numeric} {maxRetries : Nat} {s s' : State} {ev : Event}

/-- Another call than the one that is replaced stays. -/
theorem mem_set_of_ne {calls : List Call} {i j : Nat} {c x : Call} (hj : calls[j]? = some x)
    (hij : i ≠ j) : x ∈ calls.set i c := by
  apply List.mem_of_getElem?
  rw [List.getElem?_set_ne hij]
  exact hj

/-- Replacing a call by one with the same request: the calls of the system are the same. -/
theorem asked_set {calls : List Call} {i : Nat} {c c' : Call} (hi : calls[i]? = some c)
    (hop : c'.op = c.op) (op : SagaOp) :
    (∃ x ∈ calls.set i c', x.op = op) ↔ ∃ x ∈ calls, x.op = op := by
  constructor
  · rintro ⟨x, hx, rfl⟩
    rcases List.mem_or_eq_of_mem_set hx with hold | rfl
    · exact ⟨x, hold, rfl⟩
    · exact ⟨c, List.mem_of_getElem? hi, hop.symm⟩
  · rintro ⟨x, hx, rfl⟩
    obtain ⟨j, hj⟩ := List.getElem?_of_mem hx
    -- the call that has moved on still asks for the same
    by_cases hij : i = j
    · subst hij
      have hlt : i < calls.length := (List.getElem?_eq_some_iff.mp hi).1
      rw [hi] at hj
      cases hj
      exact ⟨c', List.mem_of_getElem? (List.getElem?_set_self hlt), hop⟩
    · exact ⟨x, mem_set_of_ne hj hij, rfl⟩

section SetSaga

variable (s) (o : String) (g : Saga)

/-- The saga that is set. -/
theorem setSaga_self : (s.setSaga o g).sagas o = some g := Function.update_self _ _ _

/-- Every other saga is as it was. -/
theorem setSaga_ne {x : String} (hx : x ≠ o) : (s.setSaga o g).sagas x = s.sagas x :=
  Function.update_of_ne hx _ _

/-- A saga after the replacement is the new one, or one of another order. -/
theorem setSaga_some {x : String} {g' : Saga} (h : (s.setSaga o g).sagas x = some g') :
    x = o ∧ g' = g ∨ x ≠ o ∧ s.sagas x = some g' := by
  by_cases hx : x = o
  · subst hx
    rw [setSaga_self] at h
    exact Or.inl ⟨rfl, (Option.some.inj h).symm⟩
  · rw [setSaga_ne s o g hx] at h
    exact Or.inr ⟨hx, h⟩

end SetSaga

/-- A call that has been made stays made. -/
theorem Saga.Made.answer {g : Saga} {op op' : SagaOp}
    {k : SagaRes op' → SagaProg} (hp : g.thread.prog = .await op' k)
    (h : g.Made op) (r : SagaRes op') (call : Option Nat) :
    (Saga.mk (g.thread.answer op' k r) call).Made op := by
  rcases h with ⟨k', hk⟩ | hans
  · rw [hp] at hk
    cases hk
    exact Or.inr (answered_cons.mpr (Or.inl rfl))
  · exact Or.inr (answered_cons.mpr (Or.inr hans))

/-- A saga moves on. -/
theorem Inv.setSaga (h : Inv numeric s) {o : String} {g' : Saga}
    (hobeys : g'.thread.Obeys (Disciplined o))
    (hmade : ∀ g, s.sagas o = some g → ∀ op, g.Made op → g'.Made op) (hcall : g'.call = none)
    (htold : ∀ e ∈ g'.thread.log, Told numeric s.payment e.1 e.2) :
    Inv numeric (s.setSaga o g') where
  obeys x g hg := by
    rcases setSaga_some s o g' hg with ⟨rfl, rfl⟩ | ⟨-, hold⟩
    · exact hobeys
    · exact h.obeys x g hold
  made c hc x hop := by
    obtain ⟨g, hg, hm⟩ := h.made c hc x hop
    by_cases hx : x = o
    · subst hx
      exact ⟨g', setSaga_self s x g', hmade g hg c.op hm⟩
    · exact ⟨g, (setSaga_ne s o g' hx).trans hg, hm⟩
  waits x g i hg hi := by
    rcases setSaga_some s o g' hg with ⟨rfl, rfl⟩ | ⟨-, hold⟩
    · -- the new saga waits for nothing
      rw [hcall] at hi
      cases hi
    · exact h.waits x g i hold hi
  sound := h.sound
  told x g hg := by
    rcases setSaga_some s o g' hg with ⟨rfl, rfl⟩ | ⟨-, hold⟩
    · exact htold
    · exact h.told x g hold
  noStranded := h.noStranded
  charged := h.charged
  intended := h.intended

/-- A call gets further; the tables may change. -/
theorem Inv.setCall (h : Inv numeric s) {i : Nat} {c c' : Call} {d : Db} {orders : Orders}
    (hi : s.calls[i]? = some c) (hop : c'.op = c.op) (hsound : c'.Sound numeric d)
    (hgrows : Grows s.payment d) (hnoStranded : d.NoStranded)
    (hcharged : ∀ row ∈ d.payments, (∃ old ∈ s.payment.payments, old.orderId = row.orderId) ∨
      ∃ req, c.op = .processPayment req ∧ req.orderId = row.orderId)
    (hintended : ∀ x ∈ d.refundIntents, x ∈ s.payment.refundIntents ∨ c.op = .refundByOrderId x) :
    Inv numeric { s.setCall i c' with payment := d, orders := orders } where
  obeys := h.obeys
  made x hx o ho := by
    rcases List.mem_or_eq_of_mem_set hx with hold | rfl
    · exact h.made x hold o ho
    · rw [hop] at ho ⊢
      exact h.made c (List.mem_of_getElem? hi) o ho
  waits o g j hg hj := by
    obtain ⟨x, k, hx, hp⟩ := h.waits o g j hg hj
    by_cases hij : i = j
    · subst hij
      have hlt : i < s.calls.length := (List.getElem?_eq_some_iff.mp hi).1
      rw [hi] at hx
      cases hx
      obtain ⟨op', stage'⟩ := c'
      -- the call that has moved on is still the one waited for
      cases hop
      exact ⟨⟨_, stage'⟩, k, List.getElem?_set_self hlt, hp⟩
    · exact ⟨x, k, (List.getElem?_set_ne hij).trans hx, hp⟩
  sound x hx := by
    rcases List.mem_or_eq_of_mem_set hx with hold | rfl
    · exact (h.sound x hold).mono hgrows
    · exact hsound
  told o g hg e he := (h.told o g hg e he).mono hgrows
  noStranded := hnoStranded
  charged row hrow := by
    rcases hcharged row hrow with ⟨old, hold, ho⟩ | ⟨req, hreq, ho⟩
    · obtain ⟨req, hasked, hreq⟩ := h.charged old hold
      exact ⟨req, (asked_set hi hop _).mpr hasked, hreq.trans ho⟩
    · exact ⟨req, (asked_set hi hop _).mpr ⟨c, List.mem_of_getElem? hi, hreq⟩, ho⟩
  intended x hx := by
    rcases hintended x hx with hold | hnew
    · exact (asked_set hi hop _).mpr (h.intended x hold)
    · exact (asked_set hi hop _).mpr ⟨c, List.mem_of_getElem? hi, hnew⟩

/-- A call gets further and the payment tables stay as they are. -/
theorem Inv.setCall_same (h : Inv numeric s) {i : Nat} {c c' : Call} {orders : Orders}
    (hi : s.calls[i]? = some c) (hop : c'.op = c.op) (hsound : c'.Sound numeric s.payment) :
    Inv numeric { s.setCall i c' with orders := orders } :=
  h.setCall hi hop hsound (Grows.refl _) h.noStranded (fun row hrow => Or.inl ⟨row, hrow, rfl⟩)
    (fun _ hx => Or.inl hx)

/-- A call is made. -/
theorem Inv.send (h : Inv numeric s) {o : String} {g : Saga} {op : SagaOp}
    {k : SagaRes op → SagaProg} (hg : s.sagas o = some g) (hp : g.thread.prog = .await op k) :
    Inv numeric { s.setSaga o ⟨g.thread, some s.calls.length⟩ with
      calls := s.calls ++ [⟨op, .sent⟩] } where
  obeys x g' hg' := by
    rcases setSaga_some s o _ hg' with ⟨rfl, rfl⟩ | ⟨-, hold⟩
    · exact h.obeys x g hg
    · exact h.obeys x g' hold
  made c hc x hop := by
    rcases List.mem_append.mp hc with hold | hnew
    · obtain ⟨g', hg', hm⟩ := h.made c hold x hop
      by_cases hx : x = o
      · subst hx
        cases hg.symm.trans hg'
        exact ⟨_, setSaga_self s x _, hm⟩
      · exact ⟨g', (setSaga_ne s o _ hx).trans hg', hm⟩
    · -- the new call is about the order of the saga that makes it
      rw [List.mem_singleton] at hnew
      subst hnew
      have hown : Own o g.thread.log op := (h.obeys o g hg).standsAt hp
      have hx : x = o := by
        cases op with
        | processPayment req => cases hop; exact hown.1
        | refundByOrderId y => cases hop; exact hown.1
        | create order => cases hop; exact hown.2.2.id
        | updateStatus id status => cases hop; exact hown.1
        | _ => cases hop
      subst hx
      exact ⟨_, setSaga_self s x _, Or.inl ⟨k, hp⟩⟩
  waits x g' i hg' hi := by
    rcases setSaga_some s o _ hg' with ⟨rfl, rfl⟩ | ⟨-, hold⟩
    · cases hi
      exact ⟨⟨op, .sent⟩, k, List.getElem?_concat_length, hp⟩
    · obtain ⟨c, k', hc, hp'⟩ := h.waits x g' i hold hi
      refine ⟨c, k', ?_, hp'⟩
      exact (List.getElem?_append_left (List.getElem?_eq_some_iff.mp hc).1).trans hc
  sound c hc := by
    rcases List.mem_append.mp hc with hold | hnew
    · exact h.sound c hold
    · rw [List.mem_singleton.mp hnew]
      trivial
  told x g' hg' := by
    rcases setSaga_some s o _ hg' with ⟨rfl, rfl⟩ | ⟨-, hold⟩
    · exact h.told x g hg
    · exact h.told x g' hold
  noStranded := h.noStranded
  charged row hrow := by
    obtain ⟨req, ⟨c, hc, hop⟩, ho⟩ := h.charged row hrow
    exact ⟨req, ⟨c, List.mem_append_left _ hc, hop⟩, ho⟩
  intended x hx := by
    obtain ⟨c, hc, hop⟩ := h.intended x hx
    exact ⟨c, List.mem_append_left _ hc, hop⟩

/-- The saga of `o` is answered. -/
theorem Inv.answered (h : Inv numeric s) {o : String} {g : Saga} {op : SagaOp}
    {k : SagaRes op → SagaProg} {r : SagaRes op} (hg : s.sagas o = some g)
    (hp : g.thread.prog = .await op k) (hr : Told numeric s.payment op r) :
    Inv numeric (s.setSaga o ⟨g.thread.answer op k r, none⟩) := by
  refine h.setSaga ((h.obeys o g hg).answer hp r) ?_ rfl ?_
  · intro g' hg' op' hm
    cases hg.symm.trans hg'
    exact hm.answer hp r none
  · intro e he
    rcases List.mem_cons.mp he with rfl | hold
    · exact hr
    · exact h.told o g hg e hold

/-- A handler is answered one request. -/
theorem Inv.serve (h : Inv numeric s) {i : Nat} {op : SagaOp}
    {t : Thread PayOp PayRes (SagaRes op)} {po : PayOp}
    {pk : PayRes po → Prog PayOp PayRes (SagaRes op)} {r : PayRes po} {d : Db}
    (hi : s.calls[i]? = some ⟨op, .running t⟩) (hp : t.prog = .await po pk)
    (hd : Serve numeric po s.payment r d) :
    Inv numeric { s.setCall i ⟨op, .running (t.answer po pk r)⟩ with payment := d } := by
  obtain ⟨hobeys, hlog⟩ := h.sound _ (List.mem_of_getElem? hi)
  obtain ⟨hmark, hcreate, hrefund, hcharge, hfailed⟩ := hobeys.asks hp
  have hgrows : Grows s.payment d := hd.grows hmark
  refine h.setCall hi rfl ⟨hobeys.answer hp r, fun e he => ?_⟩ hgrows
    (hd.noStranded h.noStranded hcreate) (fun row hrow => ?_) (fun x hx => ?_)
  · rcases List.mem_cons.mp he with rfl | hold
    · exact hd.told
    · exact (hlog e hold).mono hgrows
  · -- the row is an old one, a charged one or a failed one
    rcases hd.row_orderId hrow with hold | ⟨p, hpo, ho⟩ | ⟨p, hpo, ho⟩
    · exact Or.inl hold
    · obtain ⟨req, hreq, hro⟩ := hcharge p hpo
      exact Or.inr ⟨req, hreq, hro.trans ho⟩
    · obtain ⟨req, hreq, hro⟩ := hfailed p hpo
      exact Or.inr ⟨req, hreq, hro.trans ho⟩
  · rcases hd.mem_refundIntents.2 hx with hold | hpo
    · exact Or.inl hold
    · exact Or.inr (hrefund x hpo)

/-- Every step keeps the invariant. -/
theorem inv_step (h : Inv numeric s) (hstep : Step numeric maxRetries s ev s') :
    Inv numeric s' := by
  cases hstep with
  | start o input hfresh =>
    refine h.setSaga (saga_disciplined o input) (fun g hg => ?_) rfl (fun e he => nomatch he)
    rw [hfresh] at hg
    cases hg
  | send o hg hp hc => exact h.send hg hp
  | arrive i hi hh =>
    exact h.setCall_same hi rfl ⟨handlerObeys_start hh, fun e he => nomatch he⟩
  | serve i hi hp hd => exact h.serve hi hp hd
  | finish i hi hp =>
    obtain ⟨hobeys, hlog⟩ := h.sound _ (List.mem_of_getElem? hi)
    exact h.setCall_same hi rfl (hobeys.returns hp hlog)
  | execute i hi hd => exact h.setCall_same hi rfl (told_execute hd)
  | elsewhere i r hi he => exact h.setCall_same hi rfl (told_elsewhere he)
  -- a finished call was sound when it ended, and has stayed so
  | answer o hg hp hc hi => exact h.answered hg hp (h.sound _ (List.mem_of_getElem? hi))
  | giveUp o e hg hp => exact h.answered hg hp (told_reject _ e)

/-- So does every run. -/
theorem inv_runs {P : State → Event → Prop} (h : Inv numeric s)
    (hrun : RunsUnder numeric maxRetries P s s') : Inv numeric s' := by
  induction hrun with
  | refl => exact h
  | tail _ hstep ih =>
    obtain ⟨ev, -, hev⟩ := hstep
    exact inv_step ih hev

end Step

end Microservices.Order
