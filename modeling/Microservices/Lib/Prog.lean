/-
  RESUMPTION PROGRAMS: asynchronous functions as the tree of requests they make.

  A `Prog Op Res α` is an asynchronous function cut at its awaits: it is either finished
  (`ret a`) or stands at one request `o : Op` and goes on with whatever answer `r : Res o` the
  outside world gives (`await o k`).  One program has two readings:

  * ALONE, `run` threads a world state through it (a handler answers every request), and
    `timeline` is the case where the world is a clock;
  * AMONG OTHERS, a `Thread` holds what is left of the program and the log of the answers it has
    had, and a concurrent system answers one request of one thread at a time.

  What concurrency proofs need of a program is what it may do NEXT given what it has SEEN.
  `Along Φ L p` says that `Φ` holds of every (log, rest) pair that `p` can reach from the log
  `L`.  It is checked once, on the text of the program, and then travels with the thread for free
  (`Along.next`): whatever the rest of the system does, a thread's next request is one that its
  own text and its own log justify.
-/
import Mathlib.Logic.Basic

namespace Microservices

/-- An asynchronous function between two awaits: finished, or waiting for one answer. -/
inductive Prog (Op : Type) (Res : Op → Type) (α : Type) : Type where
  | ret (a : α) : Prog Op Res α
  | await (o : Op) (k : Res o → Prog Op Res α) : Prog Op Res α

namespace Prog

variable {Op : Type} {Res : Op → Type} {α β : Type}

/-! ## Programs as a monad -/

/-- Sequencing: when the first program finishes, go on with its value. -/
def bind : Prog Op Res α → (α → Prog Op Res β) → Prog Op Res β
  | ret a, f => f a
  | await o k, f => await o fun r => (k r).bind f

/-- Programs are put one after the other. -/
instance : Monad (Prog Op Res) where
  pure := ret
  bind := bind

/-- `finally` runs after the first program, however it ended. -/
instance : MonadFinally (Prog Op Res) where
  tryFinally' x f := x.bind fun a => (f (some a)).bind fun b => ret (a, b)

/-- Make one request and hand its answer on. -/
def ask (o : Op) : Prog Op Res (Res o) := await o ret

/-- Whatever follows a program that has returned begins at once. -/
@[simp] theorem bind_ret (a : α) (f : α → Prog Op Res β) : (ret a).bind f = f a := rfl

/-- Whatever follows a program that asks waits for its answer. -/
@[simp] theorem bind_await (o : Op) (k : Res o → Prog Op Res α) (f : α → Prog Op Res β) :
    (await o k).bind f = await o fun r => (k r).bind f := rfl

/-- It does not matter how a sequence is bracketed. -/
theorem bind_assoc {γ : Type} (p : Prog Op Res α) (f : α → Prog Op Res β)
    (g : β → Prog Op Res γ) : (p.bind f).bind g = p.bind fun a => (f a).bind g := by
  induction p with
  | ret a => rfl
  | await o k ih =>
    have hrest : (fun r => ((k r).bind f).bind g) = fun r => (k r).bind fun a => (f a).bind g :=
      funext ih
    show await o (fun r => ((k r).bind f).bind g) = _
    rw [hrest]
    rfl

/-! ## A program alone: threading a world state -/

/-- Run a program to its end, the handler `h` answering each request. -/
def run {S : Type} (h : (o : Op) → S → Res o × S) : Prog Op Res α → S → α × S
  | ret a, s => (a, s)
  | await o k, s => (k (h o s).1).run h (h o s).2

section Run

variable {S : Type} (h : (o : Op) → S → Res o × S)

/-- The run of a program that has returned leaves the state. -/
@[simp] theorem run_ret (a : α) (s : S) : (ret a : Prog Op Res α).run h s = (a, s) := rfl

/-- The run of a program that asks: the answer, and then the rest. -/
@[simp] theorem run_await (o : Op) (k : Res o → Prog Op Res α) (s : S) :
    (await o k).run h s = (k (h o s).1).run h (h o s).2 := rfl

/-- Running a sequence runs the parts one after the other. -/
theorem run_bind (p : Prog Op Res α) (f : α → Prog Op Res β) (s : S) :
    (p.bind f).run h s = (f (p.run h s).1).run h (p.run h s).2 := by
  induction p generalizing s with
  | ret a => rfl
  | await o k ih => exact ih (h o s).1 (h o s).2

/-- What every answer keeps, a run keeps. -/
theorem run_invariant {I : S → Prop} (hstep : ∀ o s, I s → I (h o s).2) (p : Prog Op Res α) {s : S}
    (hI : I s) : I (p.run h s).2 := by
  induction p generalizing s with
  | ret a => exact hI
  | await o k ih => exact ih (h o s).1 (hstep o s hI)

/-- Two worlds that answer alike where they are related, and stay so, run a program alike. -/
theorem run_related {T : Type} {h' : (o : Op) → T → Res o × T} {R : S → T → Prop}
    (hstep : ∀ o s t, R s t → (h o s).1 = (h' o t).1 ∧ R (h o s).2 (h' o t).2)
    (p : Prog Op Res α) {s : S} {t : T} (hR : R s t) :
    (p.run h s).1 = (p.run h' t).1 ∧ R (p.run h s).2 (p.run h' t).2 := by
  induction p generalizing s t with
  | ret a => exact ⟨rfl, hR⟩
  | await o k ih =>
    obtain ⟨hanswer, hafter⟩ := hstep o s t hR
    rw [run_await, run_await, hanswer]
    exact ih (h' o t).1 hafter

/-- The surroundings act on the state before request number `n` is answered. -/
def interfered (act : Nat → S → S) (o : Op) (w : Nat × S) : Res o × (Nat × S) :=
  ((h o (act w.1 w.2)).1, (w.1 + 1, (h o (act w.1 w.2)).2))

/-- A request that is answered `r` among them. -/
theorem run_interfered {act : Nat → S → S} {o : Op} {k : Res o → Prog Op Res α} {n : Nat} {s s' : S}
    {r : Res o} (hr : h o (act n s) = (r, s')) :
    (await o k).run (interfered h act) (n, s) = (k r).run (interfered h act) (n + 1, s') := by
  show (k (h o (act n s)).1).run (interfered h act) (n + 1, (h o (act n s)).2) = _
  rw [hr]

end Run

/-! ## A program alone, against a clock -/

/-- A request with its answer, when it was made and when it was answered. -/
structure Timed (Op : Type) (Res : Op → Type) : Type where
  op : Op
  res : Res op
  sent : Nat
  answered : Nat

/-- A moment, and what has been requested and answered up to it. -/
structure Clocked (Op : Type) (Res : Op → Type) : Type where
  now : Nat
  trace : List (Timed Op Res)

/-- How long each request takes and what it is answered. -/
abbrev Schedule (Op : Type) (Res : Op → Type) := (o : Op) → Nat × Res o

section Clocked

variable (σ : Schedule Op Res)

/-- The clock after one request. -/
def Clocked.after (w : Clocked Op Res) (o : Op) : Clocked Op Res where
  now := w.now + (σ o).1
  trace := w.trace ++ [⟨o, (σ o).2, w.now, w.now + (σ o).1⟩]

/-- Requests are answered on schedule. -/
def onSchedule (o : Op) (w : Clocked Op Res) : Res o × Clocked Op Res := ((σ o).2, w.after σ o)

/-- A program from start to end. -/
def timeline (p : Prog Op Res α) : Clocked Op Res := (p.run (onSchedule σ) ⟨0, []⟩).2

variable {σ} (w : Clocked Op Res) (o : Op)

/-- The clock moves by what the request takes. -/
@[simp] theorem after_now : (w.after σ o).now = w.now + (σ o).1 := rfl

/-- A program goes on with the answer that is scheduled. -/
theorem run_onSchedule {o : Op} {k : Res o → Prog Op Res α} {r : Res o} (h : (σ o).2 = r) :
    (await o k).run (onSchedule σ) w = (k r).run (onSchedule σ) (w.after σ o) := by
  subst h
  rfl

/-- One of the requests up to now: an earlier one, or the last. -/
theorem exists_after (P : Timed Op Res → Prop) :
    (∃ e ∈ (w.after σ o).trace, P e) ↔
      (∃ e ∈ w.trace, P e) ∨ P ⟨o, (σ o).2, w.now, w.now + (σ o).1⟩ := by
  show (∃ e ∈ w.trace ++ [_], P e) ↔ _
  constructor
  · rintro ⟨e, he, hP⟩
    rcases List.mem_append.mp he with hold | hnew
    · exact Or.inl ⟨e, hold, hP⟩
    · rw [List.mem_singleton.mp hnew] at hP
      exact Or.inr hP
  · rintro (⟨e, hold, hP⟩ | hP)
    · exact ⟨e, List.mem_append_left _ hold, hP⟩
    · exact ⟨_, List.mem_append_right _ List.mem_cons_self, hP⟩

end Clocked

/-! ## What a program may do next, given what it has seen -/

/-- The answers a program has had, the latest first. -/
abbrev Log (Op : Type) (Res : Op → Type) := List (Σ o : Op, Res o)

/-- `Φ` holds of every log and rest that the program can reach from the log `L`. -/
def Along (Φ : Log Op Res → Prog Op Res α → Prop) : Log Op Res → Prog Op Res α → Prop
  | L, ret a => Φ L (ret a)
  | L, await o k => Φ L (await o k) ∧ ∀ r, Along Φ (⟨o, r⟩ :: L) (k r)

variable {Φ Ψ : Log Op Res → Prog Op Res α → Prop} {L : Log Op Res}

/-- What holds along a program holds where it stands. -/
theorem Along.here {p : Prog Op Res α} (h : Along Φ L p) : Φ L p := by
  cases p with
  | ret a => exact h
  | await o k => exact h.1

/-- It holds along what the program does after any answer. -/
theorem Along.next {o : Op} {k : Res o → Prog Op Res α} (h : Along Φ L (await o k))
    (r : Res o) : Along Φ (⟨o, r⟩ :: L) (k r) :=
  h.2 r

/-- What holds of every program and log. -/
theorem along_of_forall (h : ∀ L p, Φ L p) (p : Prog Op Res α) : Along Φ L p := by
  induction p generalizing L with
  | ret a => exact h L _
  | await o k ih => exact ⟨h L _, fun r => ih r⟩

/-- Two checks of one program. -/
theorem Along.and {p : Prog Op Res α} (h : Along Φ L p) (h' : Along Ψ L p) :
    Along (fun L p => Φ L p ∧ Ψ L p) L p := by
  induction p generalizing L with
  | ret a => exact ⟨h, h'⟩
  | await o k ih => exact ⟨⟨h.1, h'.1⟩, fun r => ih r (h.2 r) (h'.2 r)⟩

/-- A sequence is checked part by part. -/
theorem Along.bind {Ψ : Log Op Res → Prog Op Res β → Prop} {f : α → Prog Op Res β}
    (hawait : ∀ L o k, Φ L (await o k) → Ψ L (await o fun r => (k r).bind f))
    (hret : ∀ L a, Φ L (ret a) → Along Ψ L (f a)) {p : Prog Op Res α} (h : Along Φ L p) :
    Along Ψ L (p.bind f) := by
  induction p generalizing L with
  | ret a => exact hret L a h
  | await o k ih => exact ⟨hawait L o k h.1, fun r => ih r (h.2 r)⟩

/-- Where a program may stand that hands the result of another on. -/
def Finishing (Φ : Log Op Res → Prog Op Res α → Prop) (f : α → β) (L : Log Op Res) :
    Prog Op Res β → Prop
  | ret b => ∃ a, b = f a ∧ Φ L (ret a)
  | await o _ => ∃ k, Φ L (await o k)

/-- A last step that asks for nothing keeps what holds along a program. -/
theorem Along.finishing {p : Prog Op Res α} (h : Along Φ L p) (f : α → β) :
    Along (Finishing Φ f) L (p.bind fun a => ret (f a)) := by
  refine h.bind (fun L o k hk => ⟨k, hk⟩) fun L a ha => ?_
  show Finishing Φ f L (ret (f a))
  exact ⟨a, rfl, ha⟩

/-! ## What a program on a schedule has asked -/

/-- The answers up to now. -/
def Clocked.log (w : Clocked Op Res) : Log Op Res := w.trace.reverse.map fun e => ⟨e.op, e.res⟩

section Scheduled

variable {σ : Schedule Op Res} {w : Clocked Op Res} {p : Prog Op Res α}

/-- The answer is noted. -/
theorem log_after (o : Op) : (w.after σ o).log = ⟨o, (σ o).2⟩ :: w.log := by
  unfold Clocked.log Clocked.after
  rw [List.reverse_append]
  rfl

/-- The answers are those of the schedule. -/
def Clocked.Follows (w : Clocked Op Res) (σ : Schedule Op Res) : Prop :=
  ∀ x ∈ w.log, (σ x.1).2 = x.2

/-- A run notes what the schedule says. -/
theorem follows_run (hw : w.Follows σ) : (p.run (onSchedule σ) w).2.Follows σ := by
  have hstep : ∀ o (w : Clocked Op Res), w.Follows σ → (onSchedule σ o w).2.Follows σ := by
    intro o w hw x hx
    have hx' : x ∈ (⟨o, (σ o).2⟩ : Σ o, Res o) :: w.log := by
      rw [← log_after]
      exact hx
    rcases List.mem_cons.mp hx' with rfl | hold
    · rfl
    · exact hw x hold
  exact run_invariant (onSchedule σ) hstep p hw

/-- What has been noted stays. -/
theorem log_mono {x : Σ o, Res o} (hx : x ∈ w.log) : x ∈ (p.run (onSchedule σ) w).2.log := by
  have hstep : ∀ o (w : Clocked Op Res), x ∈ w.log → x ∈ (onSchedule σ o w).2.log := by
    intro o w hw
    show x ∈ (w.after σ o).log
    rw [log_after]
    exact List.mem_cons_of_mem _ hw
  exact run_invariant (onSchedule σ) hstep p hx

/-- A program that has finished was checked with all its answers. -/
theorem Along.finished (h : Along Φ w.log p) :
    Φ (p.run (onSchedule σ) w).2.log (ret (p.run (onSchedule σ) w).1) := by
  induction p generalizing w with
  | ret a => exact h
  | await o k ih =>
    refine @ih (σ o).2 (w.after σ o) ?_
    rw [log_after]
    exact h.next _

/-- What it has requested it was checked for, with some of its answers. -/
theorem Along.requested (h : Along Φ w.log p) :
    ∀ e ∈ (p.run (onSchedule σ) w).2.trace, e ∈ w.trace ∨
      ∃ L k, Φ L (await e.op k) ∧ ∀ x ∈ L, x ∈ (p.run (onSchedule σ) w).2.log := by
  induction p generalizing w with
  | ret a => exact fun e he => Or.inl he
  | await o k ih =>
    have hnext : Along Φ (w.after σ o).log (k (σ o).2) := by
      rw [log_after]
      exact h.next _
    intro e he
    -- it is asked later, or now, or it was asked before
    rcases ih _ hnext e he with hafter | hasked
    · rcases List.mem_append.mp hafter with hold | hnew
      · exact Or.inl hold
      · rw [List.mem_singleton.mp hnew]
        exact Or.inr ⟨w.log, k, h.here, fun x hx => log_mono hx⟩
    · exact Or.inr hasked

end Scheduled

/-- Every request of a program satisfies `P`, whatever it is answered. -/
def Asks (P : Op → Prop) : Prog Op Res α → Prop
  | ret _ => True
  | await o k => P o ∧ ∀ r, Asks P (k r)

/-- What every request satisfies may be weakened. -/
theorem Asks.mono {P Q : Op → Prop} {p : Prog Op Res α} (h : p.Asks P) (hPQ : ∀ o, P o → Q o) :
    p.Asks Q := by
  induction p with
  | ret a => trivial
  | await o k ih => exact ⟨hPQ o h.1, fun r => ih r (h.2 r)⟩

/-- The request a program stands at satisfies `P`. -/
def Next (P : Op → Prop) : Prog Op Res α → Prop
  | ret _ => True
  | await o _ => P o

/-- What holds of the next request all along holds of every request. -/
theorem Along.asks {P : Op → Prop} {p : Prog Op Res α} (h : Along (fun _ p => p.Next P) L p) :
    p.Asks P := by
  induction p generalizing L with
  | ret a => trivial
  | await o k ih => exact ⟨h.1, fun r => ih r (h.2 r)⟩

/-- What has been answered had been asked. -/
theorem Asks.answered {P : Op → Prop} {p : Prog Op Res α} (h : p.Asks P) (hL : ∀ e ∈ L, P e.1) :
    Along (fun L _ => ∀ e ∈ L, P e.1) L p := by
  induction p generalizing L with
  | ret a => exact hL
  | await o k ih =>
    refine ⟨hL, fun r => ih r (h.2 r) fun e he => ?_⟩
    rcases List.mem_cons.mp he with rfl | hold
    · exact h.1
    · exact hL e hold

/-- A sequence asks for what its parts ask for. -/
theorem Asks.bind {P : Op → Prop} {p : Prog Op Res α} {f : α → Prog Op Res β} (hp : p.Asks P)
    (hf : ∀ a, (f a).Asks P) : (p.bind f).Asks P := by
  induction p with
  | ret a => exact hf a
  | await o k ih => exact ⟨hp.1, fun r => ih r (hp.2 r)⟩

/-! ## Runs that are cut off -/

section Cut

variable {S : Type} (h : (o : Op) → S → Res o × S)

/-- What is left of the world when a run is cut off after at most `n` answers. -/
def cut : Nat → Prog Op Res α → S → S
  | 0, _, s => s
  | _ + 1, ret _, s => s
  | n + 1, await o k, s => cut n (k (h o s).1) (h o s).2

variable {h} {P : Op → Prop} {I : S → Prop} {p : Prog Op Res α}

/-- What the answers to its own requests keep, a run keeps. -/
theorem Asks.run (hp : p.Asks P) (hstep : ∀ o s, P o → I s → I (h o s).2) {s : S} (hI : I s) :
    I (p.run h s).2 := by
  induction p generalizing s with
  | ret a => exact hI
  | await o k ih => exact ih (h o s).1 (hp.2 _) (hstep o s hp.1 hI)

/-- Wherever it is cut off. -/
theorem Asks.cut (hp : p.Asks P) (hstep : ∀ o s, P o → I s → I (h o s).2) (n : Nat) {s : S}
    (hI : I s) : I (p.cut h n s) := by
  induction p generalizing n s with
  | ret a =>
    cases n with
    | zero => exact hI
    | succ n => exact hI
  | await o k ih =>
    cases n with
    | zero => exact hI
    | succ n => exact ih (h o s).1 (hp.2 _) n (hstep o s hp.1 hI)

end Cut

end Prog

/-! ## Threads: a program among others -/

/-- A running program: what is left of it, and the answers it has had (latest first). -/
structure Thread (Op : Type) (Res : Op → Type) (α : Type) : Type where
  prog : Prog Op Res α
  log : Prog.Log Op Res

namespace Thread

variable {Op : Type} {Res : Op → Type} {α : Type}

/-- A program that has just been called. -/
def start (p : Prog Op Res α) : Thread Op Res α := ⟨p, []⟩

/-- The thread after the answer `r` to its pending request `o`. -/
def answer (t : Thread Op Res α) (o : Op) (k : Res o → Prog Op Res α) (r : Res o) :
    Thread Op Res α :=
  ⟨k r, ⟨o, r⟩ :: t.log⟩

/-- A thread never leaves what its program was checked for. -/
def Obeys (Φ : Prog.Log Op Res → Prog Op Res α → Prop) (t : Thread Op Res α) : Prop :=
  Prog.Along Φ t.log t.prog

variable {Φ : Prog.Log Op Res → Prog Op Res α → Prop}

/-- A thread obeys its protocol where it stands. -/
theorem Obeys.here {t : Thread Op Res α} (h : t.Obeys Φ) : Φ t.log t.prog := Prog.Along.here h

/-- The same, for a thread known to stand at `p`. -/
theorem Obeys.standsAt {t : Thread Op Res α} {p : Prog Op Res α} (h : t.Obeys Φ)
    (hp : t.prog = p) : Φ t.log p := by
  rw [← hp]
  exact h.here

/-- It obeys it after any answer. -/
theorem Obeys.answer {t : Thread Op Res α} {o : Op} {k : Res o → Prog Op Res α}
    (h : t.Obeys Φ) (hp : t.prog = .await o k) (r : Res o) : (t.answer o k r).Obeys Φ := by
  unfold Obeys at h
  rw [hp] at h
  exact h.next r

end Thread

end Microservices
