/-
  READ COMMITTED TRANSACTIONS UNDER AN ADVISORY LOCK, statement by statement.

  Any number of clients `i : ι` run a program each over a connection of its own: `BEGIN`, take
  an exclusive advisory lock, some statements, `COMMIT`, or `ROLLBACK` after a failure.  A
  statement sees the committed state as it is when the statement runs, with the client's own
  uncommitted writes on top; nobody else sees these writes before the commit.  Every request may
  fail, a `COMMIT` also after it took effect, and a lock is free again only some time after its
  holder's transaction has ended.

  At this isolation level alone two transactions may each miss what the other is about to
  commit.  The result of this file, `commit_atomic`, is that they cannot if each takes the lock of
  its key before its first statement (`Guarded`) and the statements of one key neither read nor
  write what another key's statements do (`Local`): when a client stands at its commit, its
  writes are those that its statements, run ALONE AND AT ONCE on the state as it is NOW, would
  have made (`Replay`).
-/
import Mathlib.Logic.Function.Basic
import Mathlib.Logic.Relation
import Microservices.Lib.Prog

namespace Microservices.ReadCommitted

/-! ## Clients, statements, connections -/

/-- What a client asks of its connection. -/
inductive TxOp (Key Stmt : Type) : Type where
  | connect
  | begin
  | lock (k : Key)
  | stmt (s : Stmt)
  | commit
  | rollback
  | release

variable {ε Key Stmt Gen D W ι α : Type} {Rows : Stmt → Type}

/-- Only a statement answers with rows. -/
abbrev Reply (Rows : Stmt → Type) : TxOp Key Stmt → Type
  | .stmt s => Rows s
  | _ => Unit

/-- Every request may be rejected. -/
abbrev Res (ε : Type) (Rows : Stmt → Type) (o : TxOp Key Stmt) : Type := Except ε (Reply Rows o)

/-- A client's program. -/
abbrev Client (ε Key Stmt : Type) (Rows : Stmt → Type) (α : Type) : Type :=
  Prog (TxOp Key Stmt) (Res ε Rows) α

/-- What the statements do: `exec` reads the state it sees (and what the server generates, such
    as identifiers and the time) and answers with rows and the row writes it makes; `apply` is one
    row write. -/
structure Engine (ε Gen D W Stmt : Type) (Rows : Stmt → Type) where
  exec : (s : Stmt) → Gen → D → Except ε (Rows s × List W)
  apply : D → W → D

/-- The writes of a transaction, in order, on top of a state. -/
def Engine.applyAll (E : Engine ε Gen D W Stmt Rows) (d : D) (ws : List W) : D :=
  ws.foldl E.apply d

/-- No writes change nothing. -/
@[simp] theorem Engine.applyAll_nil (E : Engine ε Gen D W Stmt Rows) (d : D) :
    E.applyAll d [] = d := rfl

/-- Two lists of writes one after the other. -/
theorem Engine.applyAll_append (E : Engine ε Gen D W Stmt Rows) (d : D) (ws ws' : List W) :
    E.applyAll d (ws ++ ws') = E.applyAll (E.applyAll d ws) ws' :=
  List.foldl_append

/-! ## The locking discipline -/

/-- What the statements of one key read and write: `view k` is all of the state that they read,
    and none of their writes touches the view of another key. -/
structure Footprint (E : Engine ε Gen D W Stmt Rows) (Key : Type) (V : Type) where
  view : Key → D → V
  Local : Key → Stmt → Prop
  exec_congr : ∀ {k s g d d'}, Local k s → view k d = view k d' → E.exec s g d = E.exec s g d'
  apply_congr : ∀ {k d d'} (w : W), view k d = view k d' →
    view k (E.apply d w) = view k (E.apply d' w)
  apply_other : ∀ {k k' s g d rows ws w}, Local k s → E.exec s g d = .ok (rows, ws) →
    w ∈ ws → k' ≠ k → ∀ d₀, view k' (E.apply d₀ w) = view k' d₀

/-- How far a client that follows the discipline has come. -/
inductive Phase : Type where
  | idle
  | opened
  | locked
  | broken
  | closed
  deriving DecidableEq, Repr

variable {V : Type} {E : Engine ε Gen D W Stmt Rows}

/-- From phase `ph` on, the program takes the lock of `k` before its first statement, is `body`
    once it has it, runs statements of `k` only, and makes no statement after its transaction broke
    or closed. -/
def Guarded (F : Footprint E Key V) (k : Key) (body : Client ε Key Stmt Rows α) :
    Client ε Key Stmt Rows α → Phase → Prop
  | .ret _, _ => True
  | .await .connect κ, ph => ph = .idle ∧ ∀ r, Guarded F k body (κ r) .idle
  | .await .begin κ, ph =>
      ph = .idle ∧ Guarded F k body (κ (.ok ())) .opened ∧
        ∀ e, Guarded F k body (κ (.error e)) .broken
  | .await (.lock k') κ, ph =>
      ph = .opened ∧ k' = k ∧ κ (.ok ()) = body ∧ Guarded F k body (κ (.ok ())) .locked ∧
        ∀ e, Guarded F k body (κ (.error e)) .broken
  | .await (.stmt st) κ, ph =>
      ph = .locked ∧ F.Local k st ∧ (∀ rows, Guarded F k body (κ (.ok rows)) .locked) ∧
        ∀ e, Guarded F k body (κ (.error e)) .broken
  | .await .commit κ, ph => ph = .locked ∧ ∀ r, Guarded F k body (κ r) .closed
  | .await .rollback κ, ph =>
      (ph = .broken ∨ ph = .closed) ∧ ∀ r, Guarded F k body (κ r) .closed
  | .await .release κ, ph => ph ≠ .locked ∧ ph ≠ .opened ∧ ∀ r, Guarded F k body (κ r) ph

/-! ## Running a transaction alone and at once -/

/-- `Replay E d body (p, ws)`: run alone on the state `d`, the statements from `body` on lead to
    the rest `p` with the writes `ws`. -/
inductive Replay (E : Engine ε Gen D W Stmt Rows) (d : D) (body : Client ε Key Stmt Rows α) :
    Client ε Key Stmt Rows α → List W → Prop where
  | start : Replay E d body body []
  | stmt {st κ ws g rows ws'} (h : Replay E d body (.await (.stmt st) κ) ws)
      (hx : E.exec st g (E.applyAll d ws) = .ok (rows, ws')) :
      Replay E d body (κ (.ok rows)) (ws ++ ws')

/-- What a key sees after some writes depends on what it saw before them only. -/
theorem applyAll_congr (F : Footprint E Key V) {k : Key} {d d' : D} (ws : List W)
    (h : F.view k d = F.view k d') : F.view k (E.applyAll d ws) = F.view k (E.applyAll d' ws) := by
  induction ws generalizing d d' with
  | nil => exact h
  | cons w ws ih => exact ih (F.apply_congr w h)

/-- Along a replay the program stays in its guarded part. -/
theorem Replay.guarded {F : Footprint E Key V} {k : Key} {d : D}
    {body p : Client ε Key Stmt Rows α} {ws : List W} (h : Replay E d body p ws)
    (hb : Guarded F k body body .locked) : Guarded F k body p .locked := by
  induction h with
  | start => exact hb
  | stmt h hx ih => exact ih.2.2.1 _

/-- A replay only depends on the view of the transaction's own key. -/
theorem Replay.congr {F : Footprint E Key V} {k : Key} {d d' : D}
    {body p : Client ε Key Stmt Rows α} {ws : List W} (h : Replay E d body p ws)
    (hb : Guarded F k body body .locked) (hv : F.view k d = F.view k d') : Replay E d' body p ws := by
  induction h with
  | start => exact .start
  | stmt h hx ih =>
    have hloc := (h.guarded hb).2.1
    rw [F.exec_congr hloc (applyAll_congr F _ hv)] at hx
    exact .stmt ih hx

/-- The writes of one key's transaction are invisible in the view of another key. -/
theorem Replay.view_other {F : Footprint E Key V} {k k' : Key} {d : D}
    {body p : Client ε Key Stmt Rows α} {ws : List W} (h : Replay E d body p ws)
    (hb : Guarded F k body body .locked) (hk : k' ≠ k) (d₀ : D) :
    F.view k' (E.applyAll d₀ ws) = F.view k' d₀ := by
  induction h with
  | start => rfl
  | stmt h hx ih =>
    have hloc := (h.guarded hb).2.1
    -- the writes of one statement touch the key they are asked for alone
    have hnew : ∀ (l : List W), (∀ w ∈ l, ∀ d₁, F.view k' (E.apply d₁ w) = F.view k' d₁) →
        ∀ d₁, F.view k' (E.applyAll d₁ l) = F.view k' d₁ := by
      intro l
      induction l with
      | nil => intro _ d₁; rfl
      | cons w l ihl =>
        intro hl d₁
        show F.view k' (E.applyAll (E.apply d₁ w) l) = _
        rw [ihl (fun w' hw' => hl w' (List.mem_cons_of_mem w hw')),
          hl w List.mem_cons_self]
    rw [E.applyAll_append, hnew _ (fun w hw => F.apply_other hloc hx hw hk), ih]

/-! ## One client -/

/-- Where a connection's transaction stands on the server. -/
inductive Status : Type where
  | idle
  | active
  | failed
  | ended
  deriving DecidableEq, Repr

/-- One client: what is left of its program, and its transaction on the server. -/
structure Session (ε Key Stmt W : Type) (Rows : Stmt → Type) (α : Type) : Type where
  prog : Client ε Key Stmt Rows α
  status : Status
  writes : List W

/-- One client: its transaction on the server is in the status of its phase, and under the lock it
    is a replay on the state committed NOW. -/
def ClientOk (F : Footprint E Key V) (k : Key) (body : Client ε Key Stmt Rows α) (d : D)
    (holds : Prop) (x : Session ε Key Stmt W Rows α) : Phase → Prop
  | .idle => x.status = .idle ∧ x.writes = []
  | .opened => x.status = .active ∧ x.writes = []
  | .locked => x.status = .active ∧ holds ∧ Guarded F k body body .locked ∧
      Replay E d body x.prog x.writes
  | .broken => x.status = .failed
  | .closed => x.status = .ended

/-- What others do to the database does not disturb a client that holds its lock, as long as they
    leave its lock and its view alone. -/
theorem ClientOk.mono {F : Footprint E Key V} {k : Key} {body : Client ε Key Stmt Rows α}
    {d d' : D} {holds holds' : Prop} {x : Session ε Key Stmt W Rows α} {ph : Phase}
    (h : ClientOk F k body d holds x ph)
    (hkeep : x.status = .active → holds → holds' ∧ F.view k d = F.view k d') :
    ClientOk F k body d' holds' x ph := by
  cases ph with
  | idle => exact h
  | opened => exact h
  | locked =>
    -- only a client that holds its lock depends on the committed data
    obtain ⟨hs, hh, hg, hr⟩ := h
    obtain ⟨hh', hv⟩ := hkeep hs hh
    exact ⟨hs, hh', hg, hr.congr hg hv⟩
  | broken => exact h
  | closed => exact h

/-! ## The server -/

/-- The database: the committed state, who holds which lock, and every client. -/
structure State (ε Key Stmt D W ι : Type) (Rows : Stmt → Type) (α : Type) : Type where
  committed : D
  owner : Key → Option ι
  session : ι → Session ε Key Stmt W Rows α

variable [DecidableEq ι]

/-- Replace one client's session. -/
def State.put (s : State ε Key Stmt D W ι Rows α) (i : ι)
    (x : Session ε Key Stmt W Rows α) : State ε Key Stmt D W ι Rows α :=
  { s with session := Function.update s.session i x }

section Put

variable (s : State ε Key Stmt D W ι Rows α) (i j : ι) (x : Session ε Key Stmt W Rows α)

/-- A session that is replaced commits nothing. -/
@[simp] theorem put_committed : (s.put i x).committed = s.committed := rfl

/-- It takes no lock. -/
@[simp] theorem put_owner : (s.put i x).owner = s.owner := rfl

/-- The session that is replaced. -/
@[simp] theorem put_session_self : (s.put i x).session i = x := by
  simp only [State.put, Function.update_self]

/-- Every other session is as it was. -/
theorem put_session_ne (h : j ≠ i) : (s.put i x).session j = s.session j := by
  simp only [State.put, Function.update_of_ne h]

end Put

variable [DecidableEq Key]

/-- One request of one client is served, or an ended transaction's lock becomes free. -/
inductive Step (E : Engine ε Gen D W Stmt Rows) :
    State ε Key Stmt D W ι Rows α → State ε Key Stmt D W ι Rows α → Prop where
  | connect {s κ} (i) (r) (h : (s.session i).prog = .await .connect κ) :
      Step E s (s.put i ⟨κ r, (s.session i).status, (s.session i).writes⟩)
  | beginOk {s κ} (i) (h : (s.session i).prog = .await .begin κ)
      (hs : (s.session i).status = .idle) :
      Step E s (s.put i ⟨κ (.ok ()), .active, []⟩)
  | beginErr {s κ} (i) (e) (h : (s.session i).prog = .await .begin κ) :
      Step E s (s.put i ⟨κ (.error e), .failed, []⟩)
  /-- The lock is granted only while nobody else holds it. -/
  | lockOk {s k κ} (i) (h : (s.session i).prog = .await (.lock k) κ)
      (hs : (s.session i).status = .active) (hfree : s.owner k = none ∨ s.owner k = some i) :
      Step E s { s.put i ⟨κ (.ok ()), .active, (s.session i).writes⟩ with
        owner := Function.update s.owner k (some i) }
  | lockErr {s k κ} (i) (e) (h : (s.session i).prog = .await (.lock k) κ) :
      Step E s (s.put i ⟨κ (.error e), .failed, (s.session i).writes⟩)
  /-- A statement sees the committed state of this moment under the client's own writes. -/
  | stmtOk {s st κ} {rows : Rows st} {ws : List W} (i) (g : Gen)
      (h : (s.session i).prog = .await (.stmt st) κ) (hs : (s.session i).status = .active)
      (hx : E.exec st g (E.applyAll s.committed (s.session i).writes) = .ok (rows, ws)) :
      Step E s (s.put i ⟨κ (.ok rows), .active, (s.session i).writes ++ ws⟩)
  | stmtErr {s st κ} (i) (e) (h : (s.session i).prog = .await (.stmt st) κ) :
      Step E s (s.put i ⟨κ (.error e), .failed, (s.session i).writes⟩)
  /-- The commit takes effect; the client may still be told that it failed. -/
  | commitOk {s κ} (i) (r) (h : (s.session i).prog = .await .commit κ)
      (hs : (s.session i).status = .active) :
      Step E s { s.put i ⟨κ r, .ended, []⟩ with
        committed := E.applyAll s.committed (s.session i).writes }
  /-- The commit does not take effect: the transaction is rolled back. -/
  | commitErr {s κ} (i) (r) (h : (s.session i).prog = .await .commit κ) :
      Step E s (s.put i ⟨κ r, .ended, []⟩)
  | rollback {s κ} (i) (r) (h : (s.session i).prog = .await .rollback κ) :
      Step E s (s.put i ⟨κ r, .ended, []⟩)
  | release {s κ} (i) (r) (h : (s.session i).prog = .await .release κ) :
      Step E s (s.put i ⟨κ r, (s.session i).status, (s.session i).writes⟩)
  /-- A lock becomes free only after its holder's transaction has ended. -/
  | unlock {s} (i k) (ho : s.owner k = some i) (hs : (s.session i).status = .ended) :
      Step E s { s with owner := Function.update s.owner k none }

/-- Every client at the beginning of its program, nothing locked. -/
def State.init (d : D) (prog : ι → Client ε Key Stmt Rows α) :
    State ε Key Stmt D W ι Rows α :=
  ⟨d, fun _ => none, fun i => ⟨prog i, .idle, []⟩⟩

/-! ## The invariant -/

/-- The invariant of the whole database. -/
structure Inv (F : Footprint E Key V) (key : ι → Key) (body : ι → Client ε Key Stmt Rows α)
    (s : State ε Key Stmt D W ι Rows α) : Prop where
  owner : ∀ k i, s.owner k = some i → k = key i
  client : ∀ i, ∃ ph, Guarded F (key i) (body i) (s.session i).prog ph ∧
    ClientOk F (key i) (body i) s.committed (s.owner (key i) = some i) (s.session i) ph

section Preservation

variable {F : Footprint E Key V} {key : ι → Key} {body prog : ι → Client ε Key Stmt Rows α}
variable {s s' : State ε Key Stmt D W ι Rows α}

omit [DecidableEq ι] [DecidableEq Key] in
/-- The invariant holds before the first step. -/
theorem inv_init (hprog : ∀ i, Guarded F (key i) (body i) (prog i) .idle) (d : D) :
    Inv F key body (State.init d prog) where
  owner := by intro k i h; cases h
  client := fun i => ⟨.idle, hprog i, rfl, rfl⟩

omit [DecidableEq Key] in
/-- A step of client `i` keeps the invariant if it is right for `i` and leaves the others' locks
    and views alone. -/
theorem Inv.update (h : Inv F key body s) (i : ι)
    (hother : ∀ j, j ≠ i → s'.session j = s.session j)
    (howner : ∀ k j, s'.owner k = some j → k = key j)
    (hkeep : ∀ j, j ≠ i → s.owner (key j) = some j →
      s'.owner (key j) = some j ∧ F.view (key j) s.committed = F.view (key j) s'.committed)
    (hi : ∃ ph, Guarded F (key i) (body i) (s'.session i).prog ph ∧
      ClientOk F (key i) (body i) s'.committed (s'.owner (key i) = some i) (s'.session i) ph) :
    Inv F key body s' where
  owner := howner
  client := by
    intro j
    -- the others keep their phase, since their lock and their data are kept
    by_cases hj : j = i
    · exact hj ▸ hi
    · obtain ⟨ph, hg, hc⟩ := h.client j
      rw [hother j hj]
      exact ⟨ph, hg, hc.mono fun _ hh => hkeep j hj hh⟩

omit [DecidableEq Key] in
/-- A step that changes nothing but the session of client `i`. -/
theorem Inv.put (h : Inv F key body s) {i : ι} {x : Session ε Key Stmt W Rows α} (ph : Phase)
    (hg : Guarded F (key i) (body i) x.prog ph)
    (hc : ClientOk F (key i) (body i) s.committed (s.owner (key i) = some i) x ph) :
    Inv F key body (s.put i x) := by
  refine h.update i (fun j hj => put_session_ne s i j x hj) h.owner (fun _ _ hh => ⟨hh, rfl⟩)
    ⟨ph, ?_, ?_⟩
  · rw [put_session_self]
    exact hg
  · rw [put_session_self]
    exact hc

omit [DecidableEq ι] [DecidableEq Key] in
/-- What client `i` asks for is what its phase lets it ask for. -/
theorem Inv.asks (h : Inv F key body s) {i : ι} {o : TxOp Key Stmt}
    {κ : Res ε Rows o → Client ε Key Stmt Rows α} (hp : (s.session i).prog = .await o κ) :
    ∃ ph, Guarded F (key i) (body i) (.await o κ) ph ∧
      ClientOk F (key i) (body i) s.committed (s.owner (key i) = some i) (s.session i) ph := by
  obtain ⟨ph, hg, hc⟩ := h.client i
  exact ⟨ph, hp ▸ hg, hc⟩

/-! ### One kind of step after the other -/

omit [DecidableEq Key] in
/-- A connection is made before any transaction. -/
theorem Inv.connect (h : Inv F key body s) {i : ι} {κ : Except ε Unit → Client ε Key Stmt Rows α}
    (hp : (s.session i).prog = .await .connect κ) (r : Except ε Unit) :
    Inv F key body (s.put i ⟨κ r, (s.session i).status, (s.session i).writes⟩) := by
  obtain ⟨ph, hg, hc⟩ := h.asks hp
  obtain ⟨rfl, hg⟩ := hg
  exact h.put .idle (hg r) hc

omit [DecidableEq Key] in
/-- A transaction begins. -/
theorem Inv.begin (h : Inv F key body s) {i : ι} {κ : Except ε Unit → Client ε Key Stmt Rows α}
    (hp : (s.session i).prog = .await .begin κ) :
    Inv F key body (s.put i ⟨κ (.ok ()), .active, []⟩) := by
  obtain ⟨ph, hg, -⟩ := h.asks hp
  exact h.put .opened hg.2.1 ⟨rfl, rfl⟩

omit [DecidableEq Key] in
/-- A transaction in which a request fails is broken from then on. -/
theorem Inv.break (h : Inv F key body s) {i : ι} {o : TxOp Key Stmt}
    {κ : Res ε Rows o → Client ε Key Stmt Rows α} (hp : (s.session i).prog = .await o κ)
    (ho : o = .begin ∨ (∃ k, o = .lock k) ∨ ∃ st, o = .stmt st) (e : ε) (ws : List W) :
    Inv F key body (s.put i ⟨κ (.error e), .failed, ws⟩) := by
  obtain ⟨ph, hg, -⟩ := h.asks hp
  rcases ho with rfl | ⟨k, rfl⟩ | ⟨st, rfl⟩
  · exact h.put .broken (hg.2.2 e) rfl
  · exact h.put .broken (hg.2.2.2.2 e) rfl
  · exact h.put .broken (hg.2.2.2 e) rfl

/-- The lock is granted: nobody else holds it. -/
theorem Inv.lock (h : Inv F key body s) {i : ι} {k : Key}
    {κ : Except ε Unit → Client ε Key Stmt Rows α} (hp : (s.session i).prog = .await (.lock k) κ)
    (hfree : s.owner k = none ∨ s.owner k = some i) :
    Inv F key body { s.put i ⟨κ (.ok ()), .active, (s.session i).writes⟩ with
      owner := Function.update s.owner k (some i) } := by
  obtain ⟨ph, hg, hc⟩ := h.asks hp
  obtain ⟨rfl, rfl, hbody, hg, -⟩ := hg
  refine h.update i (fun j hj => put_session_ne s i j _ hj) ?_ ?_ ⟨.locked, ?_, ?_⟩
  · intro k j hj
    by_cases hk : k = key i
    · subst hk
      simp only [Function.update_self] at hj
      cases hj
      rfl
    · simp only [Function.update_of_ne hk] at hj
      exact h.owner k j hj
  · intro j hj hh
    refine ⟨?_, rfl⟩
    have hk : key j ≠ key i := by
      intro hk
      rw [hk] at hh
      rcases hfree with hn | hn
      · rw [hn] at hh; cases hh
      · rw [hn] at hh; cases hh; exact hj rfl
    simp only [Function.update_of_ne hk]
    exact hh
  · show Guarded F (key i) (body i) ((s.put i _).session i).prog .locked
    rw [put_session_self]
    exact hg
  · show ClientOk F (key i) (body i) s.committed _ ((s.put i _).session i) .locked
    rw [put_session_self]
    refine ⟨rfl, by simp only [Function.update_self], hbody ▸ hg, ?_⟩
    show Replay E s.committed (body i) (κ (.ok ())) (s.session i).writes
    -- the transaction begins on the data committed by then
    rw [hc.2, hbody]
    exact .start

omit [DecidableEq Key] in
/-- A statement of a client that holds its lock continues its replay. -/
theorem Inv.stmt (h : Inv F key body s) {i : ι} {st : Stmt}
    {κ : Except ε (Rows st) → Client ε Key Stmt Rows α} {rows : Rows st} {ws : List W} {g : Gen}
    (hp : (s.session i).prog = .await (.stmt st) κ)
    (hx : E.exec st g (E.applyAll s.committed (s.session i).writes) = .ok (rows, ws)) :
    Inv F key body (s.put i ⟨κ (.ok rows), .active, (s.session i).writes ++ ws⟩) := by
  obtain ⟨ph, hg, hc⟩ := h.asks hp
  obtain ⟨rfl, -, hg, -⟩ := hg
  obtain ⟨-, hh, hbody, hr⟩ := hc
  rw [hp] at hr
  exact h.put .locked (hg rows) ⟨rfl, hh, hbody, .stmt hr hx⟩

omit [DecidableEq Key] in
/-- The commit takes effect: two holders have two keys, and what this key wrote is invisible under
    another. -/
theorem Inv.commit (h : Inv F key body s) {i : ι} {κ : Except ε Unit → Client ε Key Stmt Rows α}
    (hp : (s.session i).prog = .await .commit κ) (r : Except ε Unit) :
    Inv F key body { s.put i ⟨κ r, .ended, []⟩ with
      committed := E.applyAll s.committed (s.session i).writes } := by
  obtain ⟨ph, hg, hc⟩ := h.asks hp
  obtain ⟨rfl, hg⟩ := hg
  obtain ⟨-, hh, hbody, hr⟩ := hc
  refine h.update i (fun j hj => put_session_ne s i j _ hj) h.owner ?_ ⟨.closed, ?_, ?_⟩
  · intro j hj hhj
    refine ⟨hhj, ?_⟩
    -- whoever else holds a lock holds another one, whose view is not written to
    have hk : key j ≠ key i := by
      intro hk
      rw [hk, hh] at hhj
      cases hhj
      exact hj rfl
    exact (hr.view_other hbody hk s.committed).symm
  · show Guarded F (key i) (body i) ((s.put i _).session i).prog .closed
    rw [put_session_self]
    exact hg r
  · show ClientOk F (key i) (body i) _ _ ((s.put i _).session i) .closed
    rw [put_session_self]
    rfl

omit [DecidableEq Key] in
/-- The transaction is rolled back, at a `COMMIT` or at a `ROLLBACK`. -/
theorem Inv.roll (h : Inv F key body s) {i : ι} {o : TxOp Key Stmt}
    {κ : Res ε Rows o → Client ε Key Stmt Rows α} (hp : (s.session i).prog = .await o κ)
    (ho : o = .commit ∨ o = .rollback) (r : Res ε Rows o) :
    Inv F key body (s.put i ⟨κ r, .ended, []⟩) := by
  obtain ⟨ph, hg, -⟩ := h.asks hp
  rcases ho with rfl | rfl
  · exact h.put .closed (hg.2 r) rfl
  · exact h.put .closed (hg.2 r) rfl

omit [DecidableEq Key] in
/-- A connection is released outside of any transaction. -/
theorem Inv.release (h : Inv F key body s) {i : ι} {κ : Except ε Unit → Client ε Key Stmt Rows α}
    (hp : (s.session i).prog = .await .release κ) (r : Except ε Unit) :
    Inv F key body (s.put i ⟨κ r, (s.session i).status, (s.session i).writes⟩) := by
  obtain ⟨ph, hg, hc⟩ := h.asks hp
  obtain ⟨hlocked, hopened, hg⟩ := hg
  refine h.put ph (hg r) ?_
  -- a connection is given back after the transaction only
  cases ph with
  | idle => exact hc
  | opened => exact absurd rfl hopened
  | locked => exact absurd rfl hlocked
  | broken => exact hc
  | closed => exact hc

omit [DecidableEq ι] in
/-- A lock becomes free: its holder's transaction has ended, so nobody relies on it. -/
theorem Inv.unlock (h : Inv F key body s) {i : ι} {k : Key} (ho : s.owner k = some i)
    (hs : (s.session i).status = .ended) :
    Inv F key body { s with owner := Function.update s.owner k none } := by
  refine ⟨?_, ?_⟩
  · intro k' j hj
    by_cases hk : k' = k
    · subst hk
      simp only [Function.update_self] at hj
      cases hj
    · simp only [Function.update_of_ne hk] at hj
      exact h.owner k' j hj
  · intro j
    obtain ⟨ph, hg, hc⟩ := h.client j
    refine ⟨ph, hg, hc.mono fun ha hh => ⟨?_, rfl⟩⟩
    -- the lock is its former owner's, and its transaction has ended
    have hk : key j ≠ k := by
      intro hk
      rw [hk, ho] at hh
      cases hh
      rw [hs] at ha
      cases ha
    simp only [Function.update_of_ne hk]
    exact hh

/-- **Every step keeps the invariant.** -/
theorem inv_step (h : Inv F key body s) (hstep : Step E s s') : Inv F key body s' := by
  -- a statement that fails leaves the transaction broken, whichever it was
  cases hstep with
  | connect i r hp => exact h.connect hp r
  | beginOk i hp hs => exact h.begin hp
  | beginErr i e hp => exact h.break hp (.inl rfl) e []
  | lockOk i hp hs hfree => exact h.lock hp hfree
  | lockErr i e hp => exact h.break hp (.inr (.inl ⟨_, rfl⟩)) e _
  | stmtOk i g hp hs hx => exact h.stmt hp hx
  | stmtErr i e hp => exact h.break hp (.inr (.inr ⟨_, rfl⟩)) e _
  | commitOk i r hp hs => exact h.commit hp r
  | commitErr i r hp => exact h.roll hp (.inl rfl) r
  | rollback i r hp => exact h.roll hp (.inr rfl) r
  | release i r hp => exact h.release hp r
  | unlock i k ho hs => exact h.unlock ho hs

end Preservation

/-! ## Commits are atomic -/

/-- The transaction `body`, run alone and at once, leads from `d` to `d'`. -/
def Commits (E : Engine ε Gen D W Stmt Rows) (body : Client ε Key Stmt Rows α) (d d' : D) : Prop :=
  ∃ κ ws, Replay E d body (.await .commit κ) ws ∧ d' = E.applyAll d ws

section Commits

variable (F : Footprint E Key V) (key : ι → Key) (body : ι → Client ε Key Stmt Rows α)
variable {prog : ι → Client ε Key Stmt Rows α} {d : D} {s s' : State ε Key Stmt D W ι Rows α}

/-- **Commits are atomic.**  A step leaves the committed state alone, or it changes it as one
    client's whole transaction does when it is run alone and at once on that state. -/
theorem commit_atomic (h : Inv F key body s) (hstep : Step E s s') :
    s'.committed = s.committed ∨ ∃ i, Commits E (body i) s.committed s'.committed := by
  cases hstep with
  | @commitOk κ i r hp hs =>
    obtain ⟨ph, hg, hc⟩ := h.client i
    rw [hp] at hg
    obtain ⟨rfl, -⟩ := hg
    obtain ⟨-, -, -, hr⟩ := hc
    rw [hp] at hr
    exact Or.inr ⟨i, κ, (s.session i).writes, hr, rfl⟩
  | connect | beginOk | beginErr | lockOk | lockErr | stmtOk | stmtErr | commitErr | rollback
  | release | unlock => exact Or.inl rfl

/-- The invariant holds in every reachable state. -/
theorem inv_reachable (hprog : ∀ i, Guarded F (key i) (body i) (prog i) .idle)
    (h : Relation.ReflTransGen (Step E) (State.init d prog) s) : Inv F key body s := by
  induction h with
  | refl => exact inv_init hprog d
  | tail _ hstep ih => exact inv_step ih hstep

/-- **Serialisability.**  Whatever the interleaving, the committed state is reached by running
    whole transactions one after the other. -/
theorem committed_serial (hprog : ∀ i, Guarded F (key i) (body i) (prog i) .idle)
    (h : Relation.ReflTransGen (Step E) (State.init d prog) s) :
    Relation.ReflTransGen (fun d d' => ∃ i, Commits E (body i) d d') d s.committed := by
  induction h with
  | refl => exact .refl
  | tail hrun hstep ih =>
    rcases commit_atomic F key body (inv_reachable F key body hprog hrun) hstep with heq | hcommit
    · rw [heq]; exact ih
    · exact ih.tail hcommit

end Commits

end Microservices.ReadCommitted
