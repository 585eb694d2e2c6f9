/-
  ANY NUMBER OF CALLS over shared data, and the RELY-GUARANTEE rule for them.

  A service is a set of requests `Q`, a program for each (`program q`), and what answering one of
  their requests may do to the shared data (`serve o d r d'`).  A state of the system is the data
  and every call that has been made so far; one step starts a call or answers one request of one
  call.  Every interleaving of any number of calls is a run of this.

  A `Protocol` is what such a proof consists of:

  * `Inv`, of the data;
  * `Told d o r`, what the answer `r` says about the data however late it is read;
  * `Rely d d'`, what every step keeps to, so that `Told` is never taken back;
  * `Says q L p`, where the program of `q` may stand after the answers `L`: checked once, on the
    text of the program (`Prog.Along`).

  Its one obligation about steps, `Protocol.serve`, is about ONE request of ONE call.  `sound_runs`
  is the induction over the interleavings.
-/
import Mathlib.Logic.Relation
import Microservices.Lib.Prog

namespace Microservices.Concurrent

/-! ## Calls over shared data -/

/-- A call: what was requested, and how far its program has got. -/
structure Call (Op : Type) (Res : Op → Type) {Q : Type} (Ans : Q → Type) : Type where
  req : Q
  thread : Thread Op Res (Ans req)

/-- The shared data, and every call made so far. -/
structure Sys (Op : Type) (Res : Op → Type) {Q : Type} (Ans : Q → Type) (D : Type) : Type where
  data : D
  calls : List (Call Op Res Ans)

/-- What a step is about. -/
inductive Event (Op : Type) (Res : Op → Type) (Q : Type) : Type where
  | call (q : Q)
  | serve (i : Nat) (o : Op) (r : Res o)

variable {Op : Type} {Res : Op → Type} {Q : Type} {Ans : Q → Type} {D : Type}

/-- No call has been made. -/
def Sys.start (d : D) : Sys Op Res Ans D := ⟨d, []⟩

/-- One step: a call is made, or one request of one call is answered. -/
inductive Step (program : (q : Q) → Prog Op Res (Ans q)) (serve : (o : Op) → D → Res o → D → Prop) :
    Sys Op Res Ans D → Event Op Res Q → Sys Op Res Ans D → Prop where
  | call {s} (q : Q) :
      Step program serve s (.call q) { s with calls := s.calls ++ [⟨q, Thread.start (program q)⟩] }
  | serve {s c o k r d} (i : Nat) (hi : s.calls[i]? = some c) (hp : c.thread.prog = .await o k)
      (hd : serve o s.data r d) :
      Step program serve s (.serve i o r) ⟨d, s.calls.set i ⟨c.req, c.thread.answer o k r⟩⟩

/-- Any interleaving of any number of calls. -/
def Runs (program : (q : Q) → Prog Op Res (Ans q)) (serve : (o : Op) → D → Res o → D → Prop) :
    Sys Op Res Ans D → Sys Op Res Ans D → Prop :=
  Relation.ReflTransGen fun s s' => ∃ ev, Step program serve s ev s'

section Steps

variable {program : (q : Q) → Prog Op Res (Ans q)} {serve : (o : Op) → D → Res o → D → Prop}
variable {s s' s'' : Sys Op Res Ans D} {ev : Event Op Res Q}

/-- A step before a run. -/
theorem Runs.cons (hstep : Step program serve s ev s') (hrun : Runs program serve s' s'') :
    Runs program serve s s'' :=
  .head ⟨ev, hstep⟩ hrun

/-- A call after a step was there before, as it is or short of one answer, or has just been made. -/
theorem Step.call_inv (hstep : Step program serve s ev s') {i : Nat} {c' : Call Op Res Ans}
    (hi : s'.calls[i]? = some c') :
    s.calls[i]? = some c' ∨
      (∃ c o k r, s.calls[i]? = some c ∧ c.thread.prog = .await o k ∧ ev = .serve i o r ∧
        serve o s.data r s'.data ∧ c' = ⟨c.req, c.thread.answer o k r⟩) ∨
      ∃ q, i = s.calls.length ∧ c' = ⟨q, Thread.start (program q)⟩ := by
  cases hstep with
  | call q =>
    rcases Nat.lt_trichotomy i s.calls.length with hlt | heq | hgt
    · rw [List.getElem?_append_left hlt] at hi
      exact Or.inl hi
    · subst heq
      rw [List.getElem?_concat_length] at hi
      exact Or.inr (Or.inr ⟨q, rfl, (Option.some.inj hi).symm⟩)
    · rw [List.getElem?_eq_none (by simp; omega)] at hi
      cases hi
  | serve j hj hp hd =>
    -- only the call that is served moves
    by_cases hij : j = i
    · subst hij
      rw [List.getElem?_set_self (List.getElem?_eq_some_iff.mp hj).1] at hi
      exact Or.inr (Or.inl ⟨_, _, _, _, hj, hp, rfl, hd, (Option.some.inj hi).symm⟩)
    · rw [List.getElem?_set_ne hij] at hi
      exact Or.inl hi

/-- A call that is made after `s` has had its answers after `s`. -/
theorem Runs.given_after (hrun : Runs program serve s s') {i : Nat} {c : Call Op Res Ans}
    (hlate : s.calls.length ≤ i) (hi : s'.calls[i]? = some c) {e : Σ o, Res o}
    (he : e ∈ c.thread.log) : ∃ m d, Runs program serve s m ∧ serve e.1 m.data e.2 d := by
  induction hrun generalizing c with
  | refl =>
    rw [List.getElem?_eq_none hlate] at hi
    cases hi
  | tail hrun₁ hstep ih =>
    obtain ⟨ev, hev⟩ := hstep
    rcases hev.call_inv hi with hold | ⟨c₀, o, k, r, hc₀, -, -, hd, rfl⟩ | ⟨q, -, rfl⟩
    · exact ih hold he
    · rcases List.mem_cons.mp he with rfl | hold
      · exact ⟨_, _, hrun₁, hd⟩
      · exact ih hc₀ hold
    · exact absurd he List.not_mem_nil

/-- An answer was given on the way, to the call as it stood then. -/
theorem Runs.given (hrun : Runs program serve s s') {i : Nat} {c : Call Op Res Ans}
    (hlate : s.calls.length ≤ i) (hi : s'.calls[i]? = some c) {e : Σ o, Res o}
    (he : e ∈ c.thread.log) : ∃ m m' t k, Runs program serve s m ∧
      m.calls[i]? = some ⟨c.req, t⟩ ∧ t.prog = .await e.1 k ∧ serve e.1 m.data e.2 m'.data ∧
      Runs program serve m m' ∧ Runs program serve m' s' := by
  -- as above, keeping the run after the answer too
  induction hrun generalizing c with
  | refl =>
    rw [List.getElem?_eq_none hlate] at hi
    cases hi
  | tail hrun₁ hstep ih =>
    obtain ⟨ev, hev⟩ := hstep
    rcases hev.call_inv hi with hold | ⟨c₀, o, k, r, hc₀, hp, -, hd, rfl⟩ | ⟨q, -, rfl⟩
    · obtain ⟨m, m', t, k, hm, ht, hk, hserve, hgiven, hrest⟩ := ih hold he
      exact ⟨m, m', t, k, hm, ht, hk, hserve, hgiven, .tail hrest ⟨ev, hev⟩⟩
    · rcases List.mem_cons.mp he with rfl | hold
      · exact ⟨_, _, _, k, hrun₁, hc₀, hp, hd, .single ⟨ev, hev⟩, .refl⟩
      · obtain ⟨m, m', t, k, hm, ht, hk, hserve, hgiven, hrest⟩ := ih hc₀ hold
        exact ⟨m, m', t, k, hm, ht, hk, hserve, hgiven, .tail hrest ⟨ev, hev⟩⟩
    · exact absurd he List.not_mem_nil

end Steps

/-! ## The rule -/

/-- A rely-guarantee argument about a service. -/
structure Protocol (program : (q : Q) → Prog Op Res (Ans q))
    (serve : (o : Op) → D → Res o → D → Prop) where
  Inv : D → Prop
  Told : D → (o : Op) → Res o → Prop
  Rely : D → D → Prop
  Says : (q : Q) → Prog.Log Op Res → Prog Op Res (Ans q) → Prop
  refl : ∀ d, Rely d d
  trans : ∀ {d d' d''}, Rely d d' → Rely d' d'' → Rely d d''
  /-- what has been told is never taken back -/
  mono : ∀ {d d' o r}, Rely d d' → Told d o r → Told d' o r
  /-- every program keeps to its own text -/
  obeys : ∀ q, Prog.Along (Says q) [] (program q)
  /-- one request of one call, which is where its text allows it and has been told what it has -/
  serve : ∀ {q L o k d r d'}, Inv d → Says q L (.await o k) → (∀ e ∈ L, Told d e.1 e.2) →
    serve o d r d' → Inv d' ∧ Rely d d' ∧ Told d' o r

namespace Protocol

variable {program : (q : Q) → Prog Op Res (Ans q)} {serve : (o : Op) → D → Res o → D → Prop}
variable {s s' : Sys Op Res Ans D} {ev : Event Op Res Q}

/-- What holds in every reachable state. -/
structure Sound (P : Protocol program serve) (s : Sys Op Res Ans D) : Prop where
  inv : P.Inv s.data
  obeys : ∀ c ∈ s.calls, c.thread.Obeys (P.Says c.req)
  told : ∀ c ∈ s.calls, ∀ e ∈ c.thread.log, P.Told s.data e.1 e.2

variable (P : Protocol program serve)

/-- At the start nobody has been answered anything. -/
theorem sound_start {d : D} (hd : P.Inv d) : P.Sound (Sys.start d) where
  inv := hd
  obeys _ hc := absurd hc List.not_mem_nil
  told _ hc := absurd hc List.not_mem_nil

/-- Where the call that is answered stands, and what that does. -/
theorem served (h : P.Sound s) {i : Nat} {c : Call Op Res Ans} {o : Op}
    {k : Res o → Prog Op Res (Ans c.req)} {r : Res o} {d : D} (hi : s.calls[i]? = some c)
    (hp : c.thread.prog = .await o k) (hd : serve o s.data r d) :
    P.Says c.req c.thread.log (.await o k) ∧ P.Inv d ∧ P.Rely s.data d ∧ P.Told d o r := by
  have hc : c ∈ s.calls := List.mem_of_getElem? hi
  have htext : P.Says c.req c.thread.log (.await o k) := (h.obeys c hc).standsAt hp
  exact ⟨htext, P.serve h.inv htext (h.told c hc) hd⟩

/-- One step keeps the invariant and keeps to the rely. -/
theorem sound_step (h : P.Sound s) (hstep : Step program serve s ev s') :
    P.Sound s' ∧ P.Rely s.data s'.data := by
  cases hstep with
  | call q =>
    refine ⟨⟨h.inv, fun c hc => ?_, fun c hc => ?_⟩, P.refl _⟩
    · rcases List.mem_append.mp hc with hold | hnew
      · exact h.obeys c hold
      · rw [List.mem_singleton.mp hnew]
        exact P.obeys q
    · rcases List.mem_append.mp hc with hold | hnew
      · exact h.told c hold
      · rw [List.mem_singleton.mp hnew]
        exact fun e he => absurd he List.not_mem_nil
  | serve i hi hp hd =>
    -- the data changes as the step promises, so what others were told stays true
    obtain ⟨-, hinv, hrely, htold⟩ := P.served h hi hp hd
    refine ⟨⟨hinv, fun c hc => ?_, fun c hc e he => ?_⟩, hrely⟩
    · rcases List.mem_or_eq_of_mem_set hc with hold | rfl
      · exact h.obeys c hold
      · exact (h.obeys _ (List.mem_of_getElem? hi)).answer hp _
    · rcases List.mem_or_eq_of_mem_set hc with hold | rfl
      · exact P.mono hrely (h.told c hold e he)
      · rcases List.mem_cons.mp he with rfl | hold
        · exact htold
        · exact P.mono hrely (h.told _ (List.mem_of_getElem? hi) e hold)

/-- **The rule**: the invariant holds in every reachable state, and any two of them keep to the
    rely. -/
theorem sound_runs (h : P.Sound s) (hrun : Runs program serve s s') :
    P.Sound s' ∧ P.Rely s.data s'.data := by
  induction hrun with
  | refl => exact ⟨h, P.refl _⟩
  | tail _ hstep ih =>
    obtain ⟨ev, hev⟩ := hstep
    obtain ⟨hsound, hrely⟩ := P.sound_step ih.1 hev
    exact ⟨hsound, P.trans ih.2 hrely⟩

/-- A protocol for a service is one for the same service under a condition on its answers. -/
def restrict {serve' : (o : Op) → D → Res o → D → Prop}
    (hserve : ∀ {o d r d'}, serve' o d r d' → serve o d r d') : Protocol program serve' where
  Inv := P.Inv
  Told := P.Told
  Rely := P.Rely
  Says := P.Says
  refl := P.refl
  trans := P.trans
  mono := P.mono
  obeys := P.obeys
  serve hinv htext htold hd := P.serve hinv htext htold (hserve hd)

/-- More that the answers tell and the text says, where an argument is there already: `Told'` and
    `Rely'` may rest on what `P` has. -/
def extend (Told' : D → (o : Op) → Res o → Prop) (Rely' : D → D → Prop)
    (Says' : (q : Q) → Prog.Log Op Res → Prog Op Res (Ans q) → Prop)
    (hrefl : ∀ d, Rely' d d) (htrans : ∀ {d d' d''}, Rely' d d' → Rely' d' d'' → Rely' d d'')
    (hmono : ∀ {d d' o r}, P.Rely d d' → Rely' d d' → Told' d o r → Told' d' o r)
    (hobeys : ∀ q, Prog.Along (Says' q) [] (program q))
    (hserve : ∀ {q L o k d r d'}, P.Inv d → P.Says q L (.await o k) → Says' q L (.await o k) →
      (∀ e ∈ L, P.Told d e.1 e.2 ∧ Told' d e.1 e.2) → serve o d r d' →
        Rely' d d' ∧ Told' d' o r) : Protocol program serve where
  Inv := P.Inv
  Told d o r := P.Told d o r ∧ Told' d o r
  Rely d d' := P.Rely d d' ∧ Rely' d d'
  Says q L p := P.Says q L p ∧ Says' q L p
  refl d := ⟨P.refl d, hrefl d⟩
  trans h h' := ⟨P.trans h.1 h'.1, htrans h.2 h'.2⟩
  mono hrely ht := ⟨P.mono hrely.1 ht.1, hmono hrely.1 hrely.2 ht.2⟩
  obeys q := (P.obeys q).and (hobeys q)
  serve hinv htext htold hd :=
    have hold := P.serve hinv htext.1 (fun e he => (htold e he).1) hd
    have hnew := hserve hinv htext.1 htext.2 htold hd
    ⟨hold.1, ⟨hold.2.1, hnew.1⟩, hold.2.2, hnew.2⟩

/-- The same argument about programs that hand the results of the first on. -/
def finishing {Ans' : Q → Type} {program' : (q : Q) → Prog Op Res (Ans' q)}
    (f : (q : Q) → Ans q → Ans' q)
    (hprogram : ∀ q, program' q = (program q).bind fun a => .ret (f q a)) :
    Protocol program' serve where
  Inv := P.Inv
  Told := P.Told
  Rely := P.Rely
  Says q := Prog.Finishing (P.Says q) (f q)
  refl := P.refl
  trans := P.trans
  mono := P.mono
  obeys q := by
    rw [hprogram q]
    exact (P.obeys q).finishing (f q)
  serve hinv htext htold hd :=
    have ⟨_, hk⟩ := htext
    P.serve hinv hk htold hd

/-! ## At most one call -/

section Marks

variable {K : Type} (Mark : (o : Op) → Res o → K → Prop)

/-- The call has had an answer that marks `x`. -/
def Marked (c : Call Op Res Ans) (x : K) : Prop := ∃ e ∈ c.thread.log, Mark e.1 e.2 x

/-- No two calls have been given the same mark. -/
def MarkedOnce (s : Sys Op Res Ans D) : Prop :=
  ∀ (i j : Nat) (c c' : Call Op Res Ans) (x : K), s.calls[i]? = some c → s.calls[j]? = some c' →
    Marked Mark c x → Marked Mark c' x → i = j

variable {Mark}

/-- A mark was there before the step, or is the answer that the step gives. -/
theorem marked_step (hstep : Step program serve s ev s') {i : Nat} {c' : Call Op Res Ans} {x : K}
    (hi : s'.calls[i]? = some c') (hm : Marked Mark c' x) :
    (∃ c, s.calls[i]? = some c ∧ Marked Mark c x) ∨
      ∃ c o k r, s.calls[i]? = some c ∧ c.thread.prog = .await o k ∧ ev = .serve i o r ∧
        serve o s.data r s'.data ∧ Mark o r x := by
  obtain ⟨e, he, hmark⟩ := hm
  rcases hstep.call_inv hi with hold | ⟨c, o, k, r, hc, hp, hev, hd, rfl⟩ | ⟨q, -, rfl⟩
  · exact Or.inl ⟨c', hold, e, he, hmark⟩
  · rcases List.mem_cons.mp he with rfl | hold
    · exact Or.inr ⟨c, o, k, r, hc, hp, hev, hd, hmark⟩
    · exact Or.inl ⟨c, hc, e, hold, hmark⟩
  · exact absurd he List.not_mem_nil

/-- What is marked was not marked before, so it is marked in one call only. -/
theorem markedOnce_runs (h : P.Sound s) (hone : MarkedOnce Mark s)
    (hfresh : ∀ {q L o k d r d' x}, P.Inv d → P.Says q L (.await o k) →
      (∀ e ∈ L, P.Told d e.1 e.2) → serve o d r d' → Mark o r x →
      ∀ o' r', P.Told d o' r' → ¬ Mark o' r' x)
    (hrun : Runs program serve s s') : MarkedOnce Mark s' := by
  induction hrun with
  | refl => exact hone
  | @tail s₁ s₂ hrun₁ hstep ih =>
    obtain ⟨ev, hev⟩ := hstep
    have hsound : P.Sound s₁ := (P.sound_runs h hrun₁).1
    -- a new mark and an old one
    have hnot : ∀ {i j : Nat} {c c₀ : Call Op Res Ans} {o k r x}, s₁.calls[i]? = some c →
        c.thread.prog = .await o k → serve o s₁.data r s₂.data → Mark o r x →
        s₁.calls[j]? = some c₀ → ¬ Marked Mark c₀ x := by
      rintro i j c c₀ o k r x hi hp hd hmark hj ⟨e, he, hold⟩
      have hc : c ∈ s₁.calls := List.mem_of_getElem? hi
      have htext : P.Says c.req c.thread.log (.await o k) := (hsound.obeys c hc).standsAt hp
      exact hfresh hsound.inv htext (hsound.told c hc) hd hmark e.1 e.2
        (hsound.told c₀ (List.mem_of_getElem? hj) e he) hold
    intro i j c c' x hi hj hm hm'
    rcases marked_step hev hi hm with ⟨c₀, hi₀, hm₀⟩ | ⟨c₁, o, k, r, hi₁, hp, hev₁, hd, hmark⟩
    · rcases marked_step hev hj hm' with ⟨c₀', hj₀, hm₀'⟩ | ⟨c₂, o, k, r, hj₁, hp, -, hd, hmark⟩
      · exact ih i j c₀ c₀' x hi₀ hj₀ hm₀ hm₀'
      · exact absurd hm₀ (hnot hj₁ hp hd hmark hi₀)
    · rcases marked_step hev hj hm' with ⟨c₀', hj₀, hm₀'⟩ | ⟨c₂, o', k', r', -, -, hev₂, -, -⟩
      · exact absurd hm₀' (hnot hi₁ hp hd hmark hj₀)
      · rw [hev₁] at hev₂
        cases hev₂
        rfl

end Marks

end Protocol

end Microservices.Concurrent
