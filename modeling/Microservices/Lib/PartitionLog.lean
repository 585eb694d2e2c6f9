/-
  A LOG READ BY A GROUP: partitions that are appended to, and how far each has been read.

  A record is handled, the position of its partition moves on, and now and then the position is
  committed.  Whatever goes wrong (a crash, a rebalance, a handler that throws) the reader goes back
  to what was committed, which may be any position it has been at, or none when the offsets are lost.
  What a handler has done by then stays done.

  * `accounted`: what a handler does for its record to the end is done for every record below the
    committed offset, if nothing takes it back;
  * `traced`: whatever has been done was done for a record of the log;
  * `in_order`: of each partition, no record is handled before all earlier ones have been.

  Where the reader never goes back and no handler is cut off, `read_runs` says more: what has been done
  is what handling each record once does.
-/
import Mathlib.Data.List.Nodup
import Mathlib.Logic.Function.Basic
import Mathlib.Logic.Relation

namespace Microservices.PartitionLog

variable {R E : Type}

/-- The partitions, how far they have been read and committed, the records handled to the end, by
    partition and offset, and what the handlers have done. -/
structure State (R E : Type) where
  log : Nat → List R
  position : Nat → Nat
  committed : Nat → Nat
  handled : List (Nat × Nat)
  effect : E

/-- Empty partitions. -/
def State.start (effect : E) : State R E := ⟨fun _ => [], fun _ => 0, fun _ => 0, [], effect⟩

/-- What a handler may do for the record of a partition and an offset, to the end or cut off. -/
structure Consumer (R E : Type) where
  handles : Nat → Nat → R → E → E → Prop
  interrupted : Nat → Nat → R → E → E → Prop

section Steps

variable (c : Consumer R E)

/-- One step of the log or of the group that reads it. -/
inductive Step : State R E → State R E → Prop where
  | append (s : State R E) (p : Nat) (r : R) :
      Step s { s with log := Function.update s.log p (s.log p ++ [r]) }
  | handle {s : State R E} {r : R} {e : E} (p : Nat) (hr : (s.log p)[s.position p]? = some r)
      (h : c.handles p (s.position p) r s.effect e) :
      Step s
        { s with
          position := Function.update s.position p (s.position p + 1)
          handled := s.handled ++ [(p, s.position p)]
          effect := e }
  | interrupt {s : State R E} {r : R} {e : E} (p : Nat) (hr : (s.log p)[s.position p]? = some r)
      (h : c.interrupted p (s.position p) r s.effect e) : Step s { s with effect := e }
  | commit {s : State R E} (p n : Nat) (hn : n ≤ s.position p) :
      Step s { s with committed := Function.update s.committed p n }
  | restart (s : State R E) (p : Nat) :
      Step s { s with position := Function.update s.position p (s.committed p) }

/-- Any run. -/
def Runs : State R E → State R E → Prop := Relation.ReflTransGen (Step c)

variable {c} {s s' : State R E}

/-- What `P` says of every partition it says of one that is changed, and of the others. -/
theorem forall_update {α : Type} {f : Nat → α} {p : Nat} {a : α} {P : Nat → α → Prop}
    (h : ∀ q, P q (f q)) (ha : P p a) : ∀ q, P q (Function.update f p a q) := by
  intro q
  by_cases hq : q = p
  · subst hq
    rw [Function.update_self]
    exact ha
  · rw [Function.update_of_ne hq]
    exact h q

/-- Records stay where they are. -/
theorem log_step (h : Step c s s') {p i : Nat} {r : R} (hr : (s.log p)[i]? = some r) :
    (s'.log p)[i]? = some r := by
  cases h with
  | append q x =>
    refine @forall_update _ s.log q (s.log q ++ [x])
      (fun p l => ∀ i r, (s.log p)[i]? = some r → l[i]? = some r) (fun p i r h => h) ?_ p i r hr
    intro i r hr
    exact (List.getElem?_append_left (List.getElem?_eq_some_iff.mp hr).1).trans hr
  | handle q hr' hh => exact hr
  | interrupt q hr' hh => exact hr
  | commit q n hn => exact hr
  | restart q => exact hr

/-- A record that is new at its place is the one that has just been appended behind the others. -/
theorem log_step_inv (h : Step c s s') {p i : Nat} {r : R} (hr : (s'.log p)[i]? = some r) :
    (s.log p)[i]? = some r ∨ i = (s.log p).length := by
  cases h with
  | append q x =>
    refine @forall_update _ s.log q (s.log q ++ [x])
      (fun p l => ∀ i r, l[i]? = some r → (s.log p)[i]? = some r ∨ i = (s.log p).length)
      (fun p i r h => Or.inl h) ?_ p i r hr
    intro i r hr
    -- an old record, or the one just appended
    rcases Nat.lt_trichotomy i (s.log q).length with hlt | heq | hgt
    · rw [List.getElem?_append_left hlt] at hr
      exact Or.inl hr
    · exact Or.inr heq
    · rw [List.getElem?_eq_none (by simp; omega)] at hr
      cases hr
  | handle q hr' hh => exact Or.inl hr
  | interrupt q hr' hh => exact Or.inl hr
  | commit q n hn => exact Or.inl hr
  | restart q => exact Or.inl hr

/-! ## Offsets -/

/-- Nothing is committed that was not read, nothing read that is not there, and what has been read was
    handled. -/
structure Ordered (s : State R E) : Prop where
  committed : ∀ p, s.committed p ≤ s.position p
  position : ∀ p, s.position p ≤ (s.log p).length
  handled : ∀ p, ∀ i < s.position p, (p, i) ∈ s.handled

/-- Nothing has been read yet. -/
theorem ordered_start (e : E) : Ordered (State.start e : State R E) where
  committed _ := Nat.le_refl 0
  position _ := Nat.zero_le _
  handled _ _ h := absurd h (Nat.not_lt_zero _)

/-- A reader that goes on to the next record stays in order. -/
theorem Ordered.handle (h : Ordered s) {p : Nat} {r : R} {e : E}
    (hr : (s.log p)[s.position p]? = some r) :
    Ordered { s with
      position := Function.update s.position p (s.position p + 1)
      handled := s.handled ++ [(p, s.position p)]
      effect := e } where
  committed := by
    refine @forall_update _ s.position p (s.position p + 1) (fun p n => s.committed p ≤ n)
      h.committed ?_
    exact Nat.le_succ_of_le (h.committed p)
  position := by
    refine @forall_update _ s.position p (s.position p + 1) (fun p n => n ≤ (s.log p).length)
      h.position ?_
    exact (List.getElem?_eq_some_iff.mp hr).1
  handled := by
    refine @forall_update _ s.position p (s.position p + 1)
      (fun q n => ∀ i < n, (q, i) ∈ s.handled ++ [(p, s.position p)]) ?_ ?_
    · exact fun q i hi => List.mem_append_left _ (h.handled q i hi)
    · intro i hi
      -- the record handled now closes the gap below the position
      rcases Nat.lt_or_eq_of_le (Nat.le_of_lt_succ hi) with hlt | heq
      · exact List.mem_append_left _ (h.handled p i hlt)
      · rw [heq]
        exact List.mem_append_right _ List.mem_cons_self

/-- **Every step keeps the order.** -/
theorem Ordered.step (h : Ordered s) (hstep : Step c s s') : Ordered s' := by
  cases hstep with
  | append p r =>
    refine ⟨h.committed, ?_, h.handled⟩
    refine @forall_update _ s.log p (s.log p ++ [r]) (fun p l => s.position p ≤ l.length)
      h.position ?_
    rw [List.length_append]
    exact Nat.le_trans (h.position p) (Nat.le_add_right _ _)
  | handle p hr hh => exact h.handle hr
  | interrupt p hr hh => exact ⟨h.committed, h.position, h.handled⟩
  | commit p n hn =>
    refine ⟨?_, h.position, h.handled⟩
    exact @forall_update _ s.committed p n (fun p n => n ≤ s.position p) h.committed hn
  | restart p =>
    -- the position goes back to what was committed, below which all was handled
    refine ⟨?_, ?_, ?_⟩
    · exact @forall_update _ s.position p (s.committed p) (fun p n => s.committed p ≤ n)
        h.committed (Nat.le_refl _)
    · exact @forall_update _ s.position p (s.committed p) (fun p n => n ≤ (s.log p).length)
        h.position (Nat.le_trans (h.committed p) (h.position p))
    · refine @forall_update _ s.position p (s.committed p)
        (fun q n => ∀ i < n, (q, i) ∈ s.handled) h.handled ?_
      exact fun i hi => h.handled p i (Nat.lt_of_lt_of_le hi (h.committed p))

/-- So does every run. -/
theorem ordered_of_runs {e : E} (hrun : Runs c (.start e) s) : Ordered s := by
  induction hrun with
  | refl => exact ordered_start e
  | tail _ hstep ih => exact ih.step hstep

/-! ## What has been done -/

/-- `Done` is what a handler does for its record, and nothing takes it back. -/
structure Accounts (c : Consumer R E) (Done : Nat → Nat → R → E → Prop) : Prop where
  done : ∀ {p i r e e'}, c.handles p i r e e' → Done p i r e'
  keeps : ∀ {p i r e e'}, c.handles p i r e e' ∨ c.interrupted p i r e e' →
    ∀ {q j x}, Done q j x e → Done q j x e'

variable {Done : Nat → Nat → R → E → Prop}

/-- **At least once.**  What is done for a record when it is handled to the end is done for every record
    below the committed offset of its partition, however often the reader has had to go back. -/
theorem accounted (h : Accounts c Done) {e : E} (hrun : Runs c (.start e) s) {p i : Nat} {r : R}
    (hr : (s.log p)[i]? = some r) (hi : i < s.committed p) : Done p i r s.effect := by
  have hread : ∀ p i r, (s.log p)[i]? = some r → i < s.position p → Done p i r s.effect := by
    clear hr hi
    induction hrun with
    | refl => exact fun p i r _ hi => absurd hi (Nat.not_lt_zero i)
    | @tail s₁ s₂ hrun hstep ih =>
      have hordered := ordered_of_runs hrun
      intro p i r hr hi
      -- a record that has been read was there before the step
      have hold : ∀ n ≤ s₁.position p, i < n → (s₁.log p)[i]? = some r := by
        intro n hn hlt
        rcases log_step_inv hstep hr with hold | hnew
        · exact hold
        · have hle := hordered.position p
          omega
      cases hstep with
      | append q x => exact ih p i r (hold _ (Nat.le_refl _) hi) hi
      | @handle x e' q hx hh =>
        by_cases hq : p = q
        · subst hq
          have hi' : i < s₁.position p + 1 := by
            have hself : Function.update s₁.position p (s₁.position p + 1) p =
                s₁.position p + 1 := Function.update_self _ _ _
            exact hself ▸ hi
          rcases Nat.lt_or_eq_of_le (Nat.le_of_lt_succ hi') with hlt | rfl
          · exact h.keeps (Or.inl hh) (ih p i r hr hlt)
          · cases hx.symm.trans hr
            exact h.done hh
        · have hi' : i < s₁.position p := by
            have hother : Function.update s₁.position q (s₁.position q + 1) p = s₁.position p :=
              Function.update_of_ne hq _ _
            exact hother ▸ hi
          exact h.keeps (Or.inl hh) (ih p i r hr hi')
      | interrupt q hx hh => exact h.keeps (Or.inr hh) (ih p i r hr hi)
      | commit q n hn => exact ih p i r hr hi
      | restart q =>
        refine ih p i r hr ?_
        have hback : ∀ p, Function.update s₁.position q (s₁.committed q) p ≤ s₁.position p :=
          @forall_update _ s₁.position q (s₁.committed q) (fun p n => n ≤ s₁.position p)
            (fun p => Nat.le_refl _) (hordered.committed q)
        exact Nat.lt_of_lt_of_le hi (hback p)
  exact hread p i r hr (Nat.lt_of_lt_of_le hi ((ordered_of_runs hrun).committed p))

/-! ## Where it comes from -/

/-- The log holds this record at this place. -/
def State.Has (s : State R E) (p i : Nat) (r : R) : Prop := (s.log p)[i]? = some r

/-- `Source` says what has been done by the records there are; a handler adds to it by its own. -/
structure Traces (c : Consumer R E) (Source : (Nat → Nat → R → Prop) → E → Prop) : Prop where
  mono : ∀ {has has' : Nat → Nat → R → Prop} {e}, (∀ p i r, has p i r → has' p i r) →
    Source has e → Source has' e
  adds : ∀ {has p i r e e'}, has p i r → c.handles p i r e e' ∨ c.interrupted p i r e e' →
    Source has e → Source has e'

variable {Source : (Nat → Nat → R → Prop) → E → Prop}

/-- **Nothing from nowhere.**  What has been done was done for records that are in the log. -/
theorem traced (h : Traces c Source) {e : E} (hstart : Source (fun _ _ _ => False) e)
    (hrun : Runs c (.start e) s) : Source s.Has s.effect := by
  induction hrun with
  | refl => exact h.mono (fun p i r hfalse => hfalse.elim) hstart
  | tail _ hstep ih =>
    have hlog := h.mono (fun p i r hr => log_step hstep hr) ih
    cases hstep with
    | append p r => exact hlog
    | handle p hr hh => exact h.adds hr (Or.inl hh) ih
    | interrupt p hr hh => exact h.adds hr (Or.inr hh) ih
    | commit p n hn => exact ih
    | restart p => exact ih

/-! ## Exactly once -/

/-- The same handlers, none of them cut off. -/
def Consumer.whole (c : Consumer R E) : Consumer R E := ⟨c.handles, fun _ _ _ _ _ => False⟩

variable (c) in
/-- A step with which the reader does not go back, by a handler that runs to its end. -/
def Forward (s s' : State R E) : Prop := Step c.whole s s' ∧ ∀ p, s.position p ≤ s'.position p

variable (c) in
/-- A run of such steps. -/
def ForwardRuns : State R E → State R E → Prop := Relation.ReflTransGen (Forward c)

/-- A step of a reader is one of a reader that may do more. -/
theorem Step.mono {c' : Consumer R E} (hhandles : ∀ {p i r e e'}, c.handles p i r e e' →
    c'.handles p i r e e') (hinterrupted : ∀ {p i r e e'}, c.interrupted p i r e e' →
    c'.interrupted p i r e e') (h : Step c s s') : Step c' s s' := by
  cases h with
  | append p r => exact .append s p r
  | handle p hr hh => exact .handle p hr (hhandles hh)
  | interrupt p hr hh => exact .interrupt p hr (hinterrupted hh)
  | commit p n hn => exact .commit p n hn
  | restart p => exact .restart s p

/-- A step forward is a step. -/
theorem Forward.step (h : Forward c s s') : Step c s s' :=
  @Step.mono _ _ c.whole _ _ c (fun hh => hh) (fun hfalse => False.elim hfalse) h.1

/-- A run forward is a run. -/
theorem ForwardRuns.runs (h : ForwardRuns c s s') : Runs c s s' :=
  Relation.ReflTransGen.mono (fun _ _ hstep => Forward.step hstep) _ _ h

/-- The records that have been handled, in that order. -/
def State.read (s : State R E) : List R := s.handled.filterMap fun place => (s.log place.1)[place.2]?

/-- Every record below a position has been handled once, and no other. -/
structure Once (s : State R E) : Prop where
  nodup : s.handled.Nodup
  below : ∀ p i, (p, i) ∈ s.handled ↔ i < s.position p

/-- A reader that has read a record once does not read it again. -/
theorem Once.handle (h : Once s) (p : Nat) (e : E) :
    Once { s with
      position := Function.update s.position p (s.position p + 1)
      handled := s.handled ++ [(p, s.position p)]
      effect := e } where
  nodup := by
    -- what stands at the position has not been handled yet
    have hnew : (p, s.position p) ∉ s.handled := fun hmem =>
      Nat.lt_irrefl _ ((h.below _ _).mp hmem)
    rw [List.nodup_append]
    refine ⟨h.nodup, List.nodup_singleton _, fun x hx y hy hxy => hnew ?_⟩
    rw [List.mem_singleton.mp hy] at hxy
    exact hxy ▸ hx
  below q i := by
    show (q, i) ∈ s.handled ++ [(p, s.position p)] ↔
      i < Function.update s.position p (s.position p + 1) q
    rw [List.mem_append, h.below, List.mem_singleton, Prod.mk.injEq]
    by_cases hq : q = p
    · subst hq
      rw [Function.update_self]
      omega
    · rw [Function.update_of_ne hq]
      simp [hq]

/-- In a run forward every record is read at most once. -/
theorem once_of_runs {e : E} (hrun : ForwardRuns c (.start e) s) : Once s := by
  induction hrun with
  | refl => exact ⟨List.nodup_nil, fun p i => by simp [State.start]⟩
  | @tail s₁ s₂ hrun hstep ih =>
    have hordered := ordered_of_runs (ForwardRuns.runs hrun)
    obtain ⟨hstep, hforward⟩ := hstep
    cases hstep with
    | append p r => exact ⟨ih.nodup, ih.below⟩
    | handle p hr hh => exact ih.handle p _
    | interrupt p hr hh => exact hh.elim
    | commit p n hn => exact ⟨ih.nodup, ih.below⟩
    | restart p =>
      -- a reader that does not go back is where it was
      have hsame : Function.update s₁.position p (s₁.committed p) = s₁.position := by
        funext q
        refine Nat.le_antisymm ?_ (hforward q)
        exact @forall_update _ s₁.position p (s₁.committed p) (fun q n => n ≤ s₁.position q)
          (fun q => Nat.le_refl _) (hordered.committed p) q
      exact ⟨ih.nodup, fun q i => (ih.below q i).trans (by
        show _ ↔ i < Function.update s₁.position p (s₁.committed p) q
        rw [hsame])⟩

/-- Each of these places is in the log. -/
theorem handled_has {e : E} (hrun : ForwardRuns c (.start e) s) {place : Nat × Nat}
    (h : place ∈ s.handled) : ∃ r, s.Has place.1 place.2 r := by
  have hlt := (once_of_runs hrun).below place.1 place.2 |>.mp h
  have hle := (ordered_of_runs (ForwardRuns.runs hrun)).position place.1
  exact ⟨_, List.getElem?_eq_getElem (Nat.lt_of_lt_of_le hlt hle)⟩

/-- **Exactly once.**  What holds of nothing read, and is kept by handling one more record, holds of the
    records that have been read. -/
theorem read_runs {Tally : List R → E → Prop} {e : E} (hstart : Tally [] e)
    (hadds : ∀ {L p i r e e'}, Tally L e → c.handles p i r e e' → Tally (L ++ [r]) e')
    (hrun : ForwardRuns c (.start e) s) : Tally s.read s.effect := by
  induction hrun with
  | refl => exact hstart
  | @tail s₁ s₂ hrun hstep ih =>
    obtain ⟨hstep, -⟩ := hstep
    cases hstep with
    | append p r =>
      -- what has been read stays where it is
      have hsame : ∀ place ∈ s₁.handled,
          (Function.update s₁.log p (s₁.log p ++ [r]) place.1)[place.2]? = (s₁.log place.1)[place.2]? := by
        intro place hplace
        obtain ⟨r', hr'⟩ := handled_has hrun hplace
        have hkept : State.Has _ place.1 place.2 r' :=
          @log_step _ _ c.whole _ _ (.append s₁ p r) place.1 place.2 r' hr'
        exact hkept.trans hr'.symm
      have hread : State.read { s₁ with log := Function.update s₁.log p (s₁.log p ++ [r]) } = s₁.read :=
        List.filterMap_congr hsame
      rw [hread]
      exact ih
    | @handle r e' p hr hh =>
      have hread : State.read { s₁ with
          position := Function.update s₁.position p (s₁.position p + 1)
          handled := s₁.handled ++ [(p, s₁.position p)]
          effect := e' } = s₁.read ++ [r] := by
        show (s₁.handled ++ [(p, s₁.position p)]).filterMap _ = _
        rw [List.filterMap_append]
        exact congrArg (s₁.read ++ ·) (List.filterMap_cons_some hr)
      rw [hread]
      exact hadds ih hh
    | interrupt p hr hh => exact hh.elim
    | commit p n hn => exact ih
    | restart p => exact ih

end Steps

end Microservices.PartitionLog
