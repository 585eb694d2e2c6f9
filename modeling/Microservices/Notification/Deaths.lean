/-
  The retry counter in the headers.

  The service does not keep the counter.  The broker writes it into the `x-death` header when a
  message expires, and `scheduleRetry` carries the headers on; `CountsExpiries` is what is known of
  the broker.  `Counted` is the invariant: an `x-death` without an entry of the retry queue stands
  for 0, and one entry with count `k` for `k`, whatever other entries there are and in which order.

  The broker adds one, exactly; but the sum comes to the consumer, and goes back with the copy, as a
  JavaScript number.  So the count goes on by `increment` and stands still at `2 ^ 53`.  What is
  proved of fewer trips holds of any counter that adds one until then, which is why `CountsExpiries`
  leaves open how it goes on.
-/
import Microservices.Notification.Consumer

namespace Microservices.Notification

/-! ## Entries -/

/-- The entries of `x-death`, if it is absent or a list. -/
def Headers.deaths (headers : Headers) : Option (List Field) :=
  match headers.xDeath with
  | none => some []
  | some (.array deaths) => some deaths
  | some _ => none

/-- An entry of another queue, or with another reason. -/
def OtherDeath (d : Field) : Prop := isExpiry d = .ok false

/-- The entry of the retry queue for `expired`, with its count. -/
structure ExpiryOf (d : Field) (k : Nat) : Prop where
  isExpiry : isExpiry d = .ok true
  count : d.get "count" = .ok (some (.int k))

/-- One entry of the retry queue, with its count, among others. -/
def OneExpiry (deaths : List Field) (k : Nat) : Prop :=
  ∃ before entry after, deaths = before ++ entry :: after ∧ (∀ d ∈ before, OtherDeath d) ∧
    (∀ d ∈ after, OtherDeath d) ∧ ExpiryOf entry k

/-- What happens to the headers of a message that expires in the retry queue, as the consumer reads
    them: the count of the entry that is there goes on from `k` to `next k`, or an entry is added with
    count 1. -/
structure CountsExpiries (next : Nat → Nat) (expired : Headers → Headers) : Prop where
  adds : ∀ headers deaths, headers.deaths = some deaths → (∀ d ∈ deaths, OtherDeath d) →
    ∃ deaths', (expired headers).deaths = some deaths' ∧ OneExpiry deaths' 1
  increments : ∀ headers deaths k, headers.deaths = some deaths → OneExpiry deaths k →
    ∃ deaths', (expired headers).deaths = some deaths' ∧ OneExpiry deaths' (next k)

/-! ## The count -/

/-- The headers say that the message has expired `k` times. -/
def Counted (headers : Headers) (k : Nat) : Prop :=
  ∃ deaths, headers.deaths = some deaths ∧
    ((k = 0 ∧ ∀ d ∈ deaths, OtherDeath d) ∨ OneExpiry deaths k)

section Counted

variable {number : Field → Except JsError Int} {headers : Headers} {deaths : List Field} {k : Nat}

/-- Other entries are passed over. -/
theorem findExpiry_append {before rest : List Field} (h : ∀ d ∈ before, OtherDeath d) :
    findExpiry (before ++ rest) = findExpiry rest := by
  induction before with
  | nil => rfl
  | cons d before ih =>
    have hd : isExpiry d = .ok false := h d List.mem_cons_self
    have hrest := ih fun d' hd' => h d' (List.mem_cons_of_mem _ hd')
    rw [List.cons_append, findExpiry, hd]
    exact hrest

/-- Where there are only other deaths, no expiry is found. -/
theorem findExpiry_none (h : ∀ d ∈ deaths, OtherDeath d) : findExpiry deaths = .ok none := by
  have happend : findExpiry (deaths ++ []) = findExpiry [] := findExpiry_append h
  rw [List.append_nil] at happend
  exact happend

/-- The first entry for the retry queue is found behind other deaths. -/
theorem findExpiry_some {before after : List Field} {entry : Field}
    (h : ∀ d ∈ before, OtherDeath d) (hentry : isExpiry entry = .ok true) :
    findExpiry (before ++ entry :: after) = .ok (some entry) := by
  rw [findExpiry_append h, findExpiry, hentry]
  rfl

/-- `retryCountOf` on a list of entries. -/
theorem retryCountOf_deaths (h : headers.deaths = some deaths) :
    retryCountOf number headers = do
      match ← findExpiry deaths with
      | some entry => countOf number (← entry.get "count")
      | none => return 0 := by
  unfold Headers.deaths at h
  unfold retryCountOf
  generalize headers.xDeath = xDeath at h ⊢
  -- a header that is no array has no list of deaths
  cases xDeath with
  | none =>
    cases h
    rfl
  | some field =>
    cases field with
    | array deaths' =>
      cases h
      rfl
    | _ => cases h

/-- `retryCountOf` reads the number of trips. -/
theorem Counted.retryCountOf (h : Counted headers k) :
    Notification.retryCountOf number headers = .ok (k : Int) := by
  obtain ⟨deaths, hdeaths, ⟨rfl, hothers⟩ | ⟨before, entry, after, rfl, hbefore, -, hentry⟩⟩ := h
  · rw [retryCountOf_deaths hdeaths, findExpiry_none hothers]
    rfl
  · rw [retryCountOf_deaths hdeaths, findExpiry_some hbefore hentry.isExpiry]
    show (do countOf number (← entry.get "count")) = _
    rw [hentry.count]
    rfl

/-- A message published without an `x-death` header has made no trip. -/
theorem Counted.zero (h : headers.xDeath = none) : Counted headers 0 := by
  refine ⟨[], ?_, Or.inl ⟨rfl, fun d hd => nomatch hd⟩⟩
  unfold Headers.deaths
  rw [h]

/-- An expiry is one more trip, as far as the counter counts. -/
theorem Counted.expired {next : Nat → Nat} {expired : Headers → Headers}
    (hexpired : CountsExpiries next expired) (hfirst : next 0 = 1) (h : Counted headers k) :
    Counted (expired headers) (next k) := by
  obtain ⟨deaths, hdeaths, ⟨rfl, hothers⟩ | hone⟩ := h
  · obtain ⟨deaths', hdeaths', hone'⟩ := hexpired.adds headers deaths hdeaths hothers
    rw [hfirst]
    exact ⟨deaths', hdeaths', Or.inr hone'⟩
  · obtain ⟨deaths', hdeaths', hone'⟩ := hexpired.increments headers deaths k hdeaths hone
    exact ⟨deaths', hdeaths', Or.inr hone'⟩

end Counted

/-! ## A broker that counts -/

/-- An entry of `x-death`, without its time. -/
def death (queue reason : String) (count : Int) : Field :=
  .table [("count", .int count), ("reason", .str reason), ("queue", .str queue),
    ("exchange", .str ""), ("routing-keys", .array [.str queue])]

/-- The entry is one of this queue and this reason. -/
def sameDeath (queue reason : String) (d : Field) : Bool :=
  match d.get "queue", d.get "reason" with
  | .ok queue', .ok reason' => Field.isStr queue queue' && Field.isStr reason reason'
  | _, _ => false

/-- The count of an entry. -/
def deathCount (d : Field) : Nat :=
  match d.get "count" with
  | .ok (some (.int k)) => k.toNat
  | _ => 0

/-- One more death of a message in a queue; the sum is read as a double. -/
def noteDeath (queue reason : String) : List Field → List Field
  | [] => [death queue reason 1]
  | d :: deaths =>
    if sameDeath queue reason d then death queue reason (increment (deathCount d)) :: deaths
    else d :: noteDeath queue reason deaths

/-- The headers of a message that is dead-lettered. -/
def deadLettered (queue reason : String) (headers : Headers) : Headers :=
  some (("x-death", .array (noteDeath queue reason (headers.deaths.getD []))) ::
    (headers.getD []).filter fun entry => !decide (entry.1 = "x-death"))

/-- The consumer looks for the entry that the broker counts up. -/
theorem sameDeath_of_isExpiry {d : Field} {b : Bool} (h : isExpiry d = .ok b) :
    sameDeath retryQueue "expired" d = b := by
  unfold isExpiry at h
  unfold sameDeath
  cases hqueue : d.get "queue" with
  | error e =>
    rw [hqueue] at h
    cases h
  | ok queue =>
    rw [hqueue] at h
    change (if Field.isStr retryQueue queue then _ else pure false : Except JsError Bool) = .ok b at h
    -- the source reads the reason only of the retry queue's own deaths
    by_cases hmatch : Field.isStr retryQueue queue = true
    · rw [if_pos hmatch] at h
      cases hreason : d.get "reason" with
      | error e =>
        rw [hreason] at h
        cases h
      | ok reason =>
        rw [hreason] at h
        cases h
        show (Field.isStr retryQueue queue && Field.isStr "expired" reason) = _
        rw [hmatch, Bool.true_and]
    · rw [if_neg hmatch] at h
      cases h
      cases d.get "reason" with
      | error e => rfl
      | ok reason =>
        show (Field.isStr retryQueue queue && Field.isStr "expired" reason) = false
        rw [Bool.eq_false_iff.mpr hmatch, Bool.false_and]

/-- The broker leaves the entries of other deaths alone. -/
theorem noteDeath_others {deaths rest : List Field} (h : ∀ d ∈ deaths, OtherDeath d) :
    noteDeath retryQueue "expired" (deaths ++ rest) =
      deaths ++ noteDeath retryQueue "expired" rest := by
  induction deaths with
  | nil => rfl
  | cons d deaths ih =>
    have hd : sameDeath retryQueue "expired" d = false :=
      sameDeath_of_isExpiry (h d List.mem_cons_self)
    have hrest := ih fun d' hd' => h d' (List.mem_cons_of_mem _ hd')
    rw [List.cons_append, noteDeath, hd, hrest]
    rfl

/-- A message that is dead-lettered has its deaths with one more noted. -/
theorem deaths_deadLettered {headers : Headers} {deaths : List Field}
    (h : headers.deaths = some deaths) :
    (deadLettered retryQueue "expired" headers).deaths =
      some (noteDeath retryQueue "expired" deaths) := by
  unfold deadLettered
  rw [h]
  rfl

/-- The entry that the broker makes is one of an expiry. -/
theorem expiryOf_death (k : Nat) : ExpiryOf (death retryQueue "expired" k) k := ⟨rfl, rfl⟩

/-- Such a broker counts expiries, whatever is in the headers. -/
theorem countsExpiries_deadLettered :
    CountsExpiries increment (deadLettered retryQueue "expired") where
  adds headers deaths hdeaths hothers := by
    -- the first expiry adds an entry of its own
    have hnoted : noteDeath retryQueue "expired" deaths =
        deaths ++ [death retryQueue "expired" 1] := by
      have happend : noteDeath retryQueue "expired" (deaths ++ []) = _ := noteDeath_others hothers
      rw [List.append_nil] at happend
      exact happend
    rw [deaths_deadLettered hdeaths, hnoted]
    exact ⟨_, rfl, deaths, _, [], rfl, hothers, (fun d hd => nomatch hd), expiryOf_death 1⟩
  increments headers deaths k hdeaths hone := by
    obtain ⟨before, entry, after, rfl, hbefore, hafter, hentry⟩ := hone
    have hcount : deathCount entry = k := by
      unfold deathCount
      rw [hentry.count]
      exact Int.toNat_natCast k
    have hnoted : noteDeath retryQueue "expired" (before ++ entry :: after) =
        before ++ death retryQueue "expired" (increment k) :: after := by
      rw [noteDeath_others hbefore, noteDeath, sameDeath_of_isExpiry hentry.isExpiry, hcount]
      rfl
    rw [deaths_deadLettered hdeaths, hnoted]
    exact ⟨_, rfl, before, _, after, rfl, hbefore, hafter, expiryOf_death (increment k)⟩

end Microservices.Notification
