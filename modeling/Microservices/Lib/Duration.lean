/-
  HOW LONG A PROGRAM TAKES, where its requests may take more or less time.

  `lasts o r t` says that the request `o` may be answered `r` after the time `t`.  `Takes` is what the
  program may return, and after how long.  `AtMost c` bounds that on the text of the program, `c o`
  being a bound for each request `o`: the answers need not be known for it.

  The two meet in `AtMost.takes`: what is bounded on the text is bounded in every run.  The other
  direction, that a bound is reached, is shown by a run of `Takes`; `takes_bind` puts it together
  from the runs of the parts.
-/
import Microservices.Lib.Prog

namespace Microservices.Prog

variable {Op : Type} {Res : Op → Type} {α β : Type}

/-- The program may return `a` after the time `t`. -/
def Takes (lasts : (o : Op) → Res o → Nat → Prop) : Prog Op Res α → α → Nat → Prop
  | ret a, b, t => b = a ∧ t = 0
  | await o k, b, t => ∃ r t₁ t₂, lasts o r t₁ ∧ Takes lasts (k r) b t₂ ∧ t = t₁ + t₂

/-- Whatever its requests are answered, the program asks for less than `n` in all. -/
def AtMost (c : Op → Nat) : Prog Op Res α → Nat → Prop
  | ret _, _ => True
  | await o k, n => ∃ m, c o + m ≤ n ∧ ∀ r, AtMost c (k r) m

variable {lasts : (o : Op) → Res o → Nat → Prop} {c : Op → Nat} {p : Prog Op Res α} {n m t : Nat}

/-- A sequence takes as long as its parts. -/
theorem takes_bind {f : α → Prog Op Res β} {b : β} : (p.bind f).Takes lasts b t ↔
    ∃ a t₁ t₂, p.Takes lasts a t₁ ∧ (f a).Takes lasts b t₂ ∧ t = t₁ + t₂ := by
  induction p generalizing t with
  | ret a =>
    constructor
    · intro h
      exact ⟨a, 0, t, ⟨rfl, rfl⟩, h, (Nat.zero_add t).symm⟩
    · rintro ⟨a', t₁, t₂, ⟨rfl, rfl⟩, h, rfl⟩
      rw [Nat.zero_add]
      exact h
  | await o k ih =>
    constructor
    · rintro ⟨r, t₁, t₂, hr, hk, rfl⟩
      -- the first request's time goes to the first program
      obtain ⟨a, t₃, t₄, ha, hb, rfl⟩ := (ih r).mp hk
      exact ⟨a, t₁ + t₃, t₄, ⟨r, t₁, t₃, hr, ha, rfl⟩, hb, (Nat.add_assoc t₁ t₃ t₄).symm⟩
    · rintro ⟨a, t₁, t₂, ⟨r, t₃, t₄, hr, ha, rfl⟩, hb, rfl⟩
      exact ⟨r, t₃, t₄ + t₂, hr, (ih r).mpr ⟨a, t₄, t₂, ha, hb, rfl⟩, Nat.add_assoc t₃ t₄ t₂⟩

/-- Handing the result on takes no time. -/
theorem takes_map {f : α → β} {b : β} :
    (p.bind fun a => ret (f a)).Takes lasts b t ↔ ∃ a, p.Takes lasts a t ∧ b = f a := by
  rw [takes_bind]
  constructor
  · rintro ⟨a, t₁, t₂, ha, ⟨hb, rfl⟩, rfl⟩
    exact ⟨a, ha, hb⟩
  · rintro ⟨a, ha, hb⟩
    exact ⟨a, t, 0, ha, ⟨hb, rfl⟩, rfl⟩

/-- What takes at most `n` takes at most more. -/
theorem AtMost.mono (h : p.AtMost c n) (hle : n ≤ m) : p.AtMost c m := by
  cases p with
  | ret a => trivial
  | await o k =>
    obtain ⟨rest, hn, hk⟩ := h
    exact ⟨rest, Nat.le_trans hn hle, hk⟩

/-- **The bound**: a program is no slower than its requests may be. -/
theorem AtMost.takes (h : p.AtMost c n) (hlasts : ∀ {o r t}, lasts o r t → t ≤ c o) {a : α}
    (ht : p.Takes lasts a t) : t ≤ n := by
  induction p generalizing n t with
  | ret b =>
    rw [ht.2]
    exact Nat.zero_le n
  | await o k ih =>
    obtain ⟨m, hn, hk⟩ := h
    obtain ⟨r, t₁, t₂, hr, hrest, rfl⟩ := ht
    have hfirst := hlasts hr
    have hrest := ih r (hk r) hrest
    omega

end Microservices.Prog
