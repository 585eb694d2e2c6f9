/-
  A LOOP THAT RETRIES: the counted loop around a body that may throw.

      let lastError;
      for (let attempt = 1; more(attempt); attempt = next(attempt)) {
        try { return body() } catch (err) { lastError = err; wait(attempt) }
      }
      after(lastError)

  Neither the test nor the increment is trusted to count.  The loop runs on fuel, `none` being a loop
  that has not ended yet, and there is one rule for each way it can go:

  * `retryLoop_total`: a loop that counts to `n` ends, with the body's value or the last error's;
  * `retryLoop_unstarted`: a loop that is not entered hands on no error;
  * `retryLoop_endless`: a loop whose test always passes ends by its body only.
-/
import Microservices.Lib.Prog

namespace Microservices

namespace Prog

variable {Op : Type} {Res : Op → Type} {ε α β : Type}

/-- The loop, on fuel. -/
def retryLoop (more : Nat → Bool) (next : Nat → Nat) (body : ExceptT ε (Prog Op Res) α)
    (wait : Nat → ExceptT ε (Prog Op Res) Unit)
    (after : Option ε → ExceptT ε (Prog Op Res) α) :
    Nat → Nat → Option ε → ExceptT ε (Prog Op Res) (Option α)
  | 0, _, _ => pure none
  | fuel + 1, attempt, lastError =>
    if more attempt then
      tryCatch (some <$> body) fun err => do
        wait attempt
        retryLoop more next body wait after fuel (next attempt) (some err)
    else some <$> after lastError

section Loop

variable {S : Type} (h : (o : Op) → S → Res o × S)

/-- What a program that may throw ends with. -/
def outcome (p : ExceptT ε (Prog Op Res) α) (s : S) : Except ε α × S := p.run.run h s

variable {h}
variable {more : Nat → Bool} {next : Nat → Nat} {body : ExceptT ε (Prog Op Res) α}
variable {wait : Nat → ExceptT ε (Prog Op Res) Unit}
variable {after : Option ε → ExceptT ε (Prog Op Res) α}

/-- A result may be wrapped afterwards. -/
theorem outcome_some (p : ExceptT ε (Prog Op Res) α) (s : S) :
    outcome h (some <$> p) s = ((outcome h p s).1.map some, (outcome h p s).2) := by
  show Prog.run h (Prog.bind p.run _) s = _
  rw [run_bind]
  unfold outcome
  generalize Prog.run h p.run s = r
  obtain ⟨a, s'⟩ := r
  cases a with
  | ok a => rfl
  | error e => rfl

/-- The same for a program that returns. -/
theorem outcome_some_ok {p : ExceptT ε (Prog Op Res) α} {s s' : S} {a : α}
    (hp : outcome h p s = (.ok a, s')) : outcome h (some <$> p) s = (.ok (some a), s') := by
  rw [outcome_some, hp]
  rfl

/-- An attempt that returns. -/
theorem outcome_tryCatch_ok {p : ExceptT ε (Prog Op Res) α} {f : ε → ExceptT ε (Prog Op Res) α}
    {s s' : S} {a : α} (hp : outcome h p s = (.ok a, s')) :
    outcome h (tryCatch p f) s = (.ok a, s') := by
  show Prog.run h (Prog.bind p.run _) s = _
  rw [run_bind]
  unfold outcome at hp
  rw [hp]
  rfl

/-- One that throws. -/
theorem outcome_tryCatch_error {p : ExceptT ε (Prog Op Res) α} {f : ε → ExceptT ε (Prog Op Res) α}
    {s s' : S} {e : ε} (hp : outcome h p s = (.error e, s')) :
    outcome h (tryCatch p f) s = outcome h (f e) s' := by
  show Prog.run h (Prog.bind p.run _) s = _
  rw [run_bind]
  unfold outcome at hp
  rw [hp]
  rfl

/-- What follows a program that returns. -/
theorem outcome_bind_ok {p : ExceptT ε (Prog Op Res) α} {f : α → ExceptT ε (Prog Op Res) β}
    {s s' : S} {a : α} (hp : outcome h p s = (.ok a, s')) :
    outcome h (p >>= f) s = outcome h (f a) s' := by
  show Prog.run h (Prog.bind p.run _) s = _
  rw [run_bind]
  unfold outcome at hp
  rw [hp]
  rfl

/-- What follows a program that throws does not happen. -/
theorem outcome_bind_error {p : ExceptT ε (Prog Op Res) α} {f : α → ExceptT ε (Prog Op Res) β}
    {s s' : S} {e : ε} (hp : outcome h p s = (.error e, s')) :
    outcome h (p >>= f) s = (.error e, s') := by
  show Prog.run h (Prog.bind p.run _) s = _
  rw [run_bind]
  unfold outcome at hp
  rw [hp]
  rfl

/-! ## One turn -/

/-- An attempt that returns ends the loop. -/
theorem retryLoop_return {fuel a : Nat} {le : Option ε} {s s' : S} {x : α}
    (hmore : more a = true) (hbody : outcome h body s = (.ok x, s')) :
    outcome h (retryLoop more next body wait after (fuel + 1) a le) s = (.ok (some x), s') := by
  unfold retryLoop
  rw [if_pos hmore]
  exact outcome_tryCatch_ok (outcome_some_ok hbody)

/-- One that throws is followed by the wait and the rest. -/
theorem retryLoop_throw {fuel a : Nat} {le : Option ε} {s s' : S} {e : ε}
    (hmore : more a = true) (hbody : outcome h body s = (.error e, s')) :
    outcome h (retryLoop more next body wait after (fuel + 1) a le) s =
      outcome h (do
        wait a
        retryLoop more next body wait after fuel (next a) (some e)) s' := by
  have hthrow : outcome h (some <$> body) s = (.error e, s') := by
    rw [outcome_some, hbody]
    rfl
  rw [retryLoop, if_pos hmore, outcome_tryCatch_error hthrow]

/-- Both in one: an attempt that throws, and its wait. -/
theorem retryLoop_turn {fuel a : Nat} {le : Option ε} {s s' s'' : S} {e : ε}
    (hmore : more a = true) (hbody : outcome h body s = (.error e, s'))
    (hwait : outcome h (wait a) s' = (.ok (), s'')) :
    outcome h (retryLoop more next body wait after (fuel + 1) a le) s =
      outcome h (retryLoop more next body wait after fuel (next a) (some e)) s'' := by
  rw [retryLoop_throw hmore hbody]
  exact outcome_bind_ok hwait

/-- When no attempt is left, what comes after the loop happens. -/
theorem retryLoop_leave {fuel a : Nat} {le : Option ε} (hmore : more a = false) :
    retryLoop more next body wait after (fuel + 1) a le = some <$> after le := by
  rw [retryLoop, hmore]
  rfl

/-! ## Whole loops -/

/-- **A loop that counts to `n` ends**: every attempt throws or returns with `P`, every wait returns,
    and what follows the last error returns with `P`. -/
theorem retryLoop_total {n : Nat} {P : α → S → Prop}
    (hmore : ∀ a, more a = true ↔ a ≤ n) (hnext : ∀ a, a ≤ n → next a = a + 1)
    (hbody : ∀ s, (∃ x s', outcome h body s = (.ok x, s') ∧ P x s') ∨
      ∃ e s', outcome h body s = (.error e, s'))
    (hwait : ∀ a s, ∃ s', outcome h (wait a) s = (.ok (), s'))
    (hafter : ∀ e s, ∃ x s', outcome h (after (some e)) s = (.ok x, s') ∧ P x s')
    {a : Nat} {le : Option ε} {s : S} (hle : a ≤ n ∨ le ≠ none) :
    ∃ fuel x s', outcome h (retryLoop more next body wait after fuel a le) s =
      (.ok (some x), s') ∧ P x s' := by
  -- the attempts that are left
  induction hleft : n + 1 - a generalizing a le s with
  | zero =>
    have hne : le ≠ none := hle.resolve_left (by omega)
    obtain ⟨e, rfl⟩ := Option.ne_none_iff_exists'.mp hne
    obtain ⟨x, s', hrun, hP⟩ := hafter e s
    have hpast : more a = false := by
      rw [Bool.eq_false_iff]
      intro hgo
      have hbound := (hmore a).mp hgo
      omega
    refine ⟨1, x, s', ?_, hP⟩
    rw [retryLoop_leave hpast]
    exact outcome_some_ok hrun
  | succ k ih =>
    have hgo : more a = true := (hmore a).mpr (by omega)
    rcases hbody s with ⟨x, s', hrun, hP⟩ | ⟨e, s', hrun⟩
    · exact ⟨1, x, s', retryLoop_return hgo hrun, hP⟩
    · obtain ⟨s'', hslept⟩ := hwait a s'
      have hcount : next a = a + 1 := hnext a (by omega)
      obtain ⟨fuel, x, t, hrest, hP⟩ :=
        @ih (next a) (some e) s'' (Or.inr (Option.some_ne_none e)) (by omega)
      exact ⟨fuel + 1, x, t, (retryLoop_turn hgo hrun hslept).trans hrest, hP⟩

/-- **A loop that is not entered** hands on no error. -/
theorem retryLoop_unstarted {fuel a : Nat} {s : S} (hmore : more a = false) :
    outcome h (retryLoop more next body wait after (fuel + 1) a none) s =
      outcome h (some <$> after none) s := by
  rw [retryLoop_leave hmore]

/-- **A loop whose test always passes** never ends while its body throws. -/
theorem retryLoop_endless (J : Nat → Prop) (hmore : ∀ a, J a → more a = true)
    (hnext : ∀ a, J a → J (next a)) (hbody : ∀ s, ∃ e s', outcome h body s = (.error e, s'))
    (hwait : ∀ a s, ∃ s', outcome h (wait a) s = (.ok (), s')) {a : Nat} (hJ : J a) (fuel : Nat)
    (le : Option ε) (s : S) :
    ∃ s', outcome h (retryLoop more next body wait after fuel a le) s = (.ok none, s') := by
  -- `J` holds of every count, so no fuel is enough
  induction fuel generalizing a le s with
  | zero => exact ⟨s, rfl⟩
  | succ fuel ih =>
    obtain ⟨e, s', hrun⟩ := hbody s
    obtain ⟨s'', hslept⟩ := hwait a s'
    rw [retryLoop_turn (hmore a hJ) hrun hslept]
    exact ih (hnext a hJ) (some e) s''

/-- **A loop that counts to `n` is the recursion over the attempts that are left.** -/
theorem retryLoop_counted {n : Nat} {f : Nat → Nat → Option ε → ExceptT ε (Prog Op Res) α}
    (hmore : ∀ a, more a = true ↔ a ≤ n) (hnext : ∀ a, a ≤ n → next a = a + 1)
    (hstop : ∀ a le, f 0 a le = after le)
    (hturn : ∀ r a le, a ≤ n →
      f (r + 1) a le = tryCatch body fun e => do wait a; f r (a + 1) (some e))
    {r a : Nat} (hleft : r + a = n + 1) (le : Option ε) (s : S) :
    outcome h (retryLoop more next body wait after (r + 1) a le) s =
      ((outcome h (f r a le) s).1.map some, (outcome h (f r a le) s).2) := by
  induction r generalizing a le s with
  | zero =>
    have hpast : more a = false := by
      rw [Bool.eq_false_iff]
      intro hgo
      have hbound := (hmore a).mp hgo
      omega
    rw [retryLoop_leave hpast, outcome_some, hstop]
  | succ r ih =>
    have hle : a ≤ n := by omega
    have hgo : more a = true := (hmore a).mpr hle
    rw [hturn r a le hle]
    -- both turn in the same way: it returns, or waits and goes on
    rcases hbody : outcome h body s with ⟨e | x, s'⟩
    · rw [retryLoop_throw hgo hbody, outcome_tryCatch_error hbody]
      rcases hwait : outcome h (wait a) s' with ⟨e' | u, s''⟩
      · rw [outcome_bind_error hwait, outcome_bind_error hwait]
        rfl
      · rw [outcome_bind_ok hwait, outcome_bind_ok hwait, hnext a hle]
        exact ih (by omega) (some e) s''
    · rw [retryLoop_return hgo hbody, outcome_tryCatch_ok hbody]
      rfl

end Loop

end Prog

end Microservices
