/-
  What becomes of one Kafka message.

  `processMessage` is run alone, with any pattern of failures of its three queries.  A failed query
  has no effect; one that succeeds does.  The message should end as one row of the metrics, as one
  record of the DLQ, or be ignored.

  `oneOutcome_iff` says when it does: no `INSERT` goes through, or the dashboard after the first
  that does.  Otherwise the event is counted twice, or counted and dead-lettered.
-/
import Mathlib.Data.List.Basic
import Microservices.Analytics.Consumer

namespace Microservices.Analytics

/-! ## Running the consumer alone -/

/-- How the queries of the call end, each kind counted for itself, how the server orders the products
    of one count, and whether the DLQ takes its record. -/
structure Env where
  columns : Columns
  insert : Nat → Option JsError
  summary : Nat → Option JsError
  topProducts : Nat → Option JsError
  ties : Nat → Ranking.Arrangement String
  dlq : Option JsError

/-- The table, the DLQ, and how many queries of each kind have been made. -/
structure World where
  rows : Metrics
  dlq : List DlqRecord
  inserts : Nat
  summaries : Nat
  topProducts : Nat
  waited : Nat

/-- The table `d` before the call has done anything. -/
def World.start (d : Metrics) : World := ⟨d, [], 0, 0, 0, 0⟩

/-- One more `INSERT`, with the rows it leaves. -/
def World.inserted (w : World) (rows : Metrics) : World :=
  { w with rows := rows, inserts := w.inserts + 1 }

/-- The backoff between two attempts; none after the last. -/
def World.slept (w : World) (maxRetries retryDelayMs attempt : Nat) : World :=
  { w with waited := w.waited +
    if attempt < maxRetries then timerDelay (retryDelayMs * attempt) else 0 }

section Answer

variable (env : Env)

/-- How the surroundings answer each request. -/
def answer : (op : AnalyticsOp) → World → AnalyticsRes op × World
  | .insert metric, w =>
    match env.insert w.inserts, metric.row env.columns with
    | some e, _ => (.error e, w.inserted w.rows)
    | none, none => (.error invalidParameter, w.inserted w.rows)
    | none, some row => (.ok (), w.inserted (w.rows ++ [row]))
  | .getSummary, w =>
    let w' := { w with summaries := w.summaries + 1 }
    match env.summary w.summaries with
    | some e => (.error e, w')
    | none => (.ok w.rows.getSummary, w')
  | .getTopProducts limit, w =>
    let w' := { w with topProducts := w.topProducts + 1 }
    match env.topProducts w.topProducts with
    | some e => (.error e, w')
    | none => (.ok (w.rows.getTopProducts (env.ties w.topProducts) limit), w')
  | .send record, w =>
    match env.dlq with
    | some e => (.error e, w)
    | none => (.ok (), { w with dlq := w.dlq ++ [record] })
  | .sleep ms, w => (.ok (), { w with waited := w.waited + timerDelay ms })

/-- A function of the consumer run to its end. -/
def alone {α : Type} (p : AnalyticsM α) (w : World) : Except JsError α × World :=
  p.run.run (answer env) w

end Answer

/-! ## What one attempt does -/

/-- The `INSERT` of an event: `none` if its type is unknown, an error if it cannot be read. -/
def metricOf (event : JsValue) : Except JsError (Option NewMetric) := do
  let eventType ← event.destructure "event" "eventType"
  let data := event.field "data"
  if eventType.isStr "ORDER_CREATED" then
    let id ← data.get "id"
    return some (.created id (data.field "userId")
      ((data.field "productName").orElse .null) ((data.field "totalPrice").orElse (.num 0.0)))
  else if eventType.isStr "ORDER_FAILED" then
    let id ← data.get "id"
    return some (.failed id)
  else
    return none

/-- One `INSERT`, and the dashboard. -/
def recording (metric : NewMetric) : AnalyticsM Unit := do
  request (.insert metric)
  logDashboard

/-- `handleEvent` throws at once, ignores the event, or records it. -/
theorem handleEvent_eq (event : JsValue) :
    handleEvent event =
      match metricOf event with
      | .error e => throw e
      | .ok none => pure ()
      | .ok (some metric) => recording metric := by
  unfold handleEvent metricOf
  cases event.destructure "event" "eventType" with
  | error e => rfl
  | ok eventType =>
    show (if eventType.isStr "ORDER_CREATED" then _ else if eventType.isStr "ORDER_FAILED" then _
      else _ : AnalyticsM Unit) = (match (if eventType.isStr "ORDER_CREATED" then _
        else if eventType.isStr "ORDER_FAILED" then _ else _ : Except JsError (Option NewMetric)) with
      | .error e => throw e
      | .ok none => pure ()
      | .ok (some metric) => recording metric)
    -- the source tests the types one after the other, and reads `data.id` before it inserts
    by_cases hc : eventType.isStr "ORDER_CREATED" = true
    · rw [if_pos hc, if_pos hc]
      unfold recordOrderCreated
      cases (event.field "data").get "id" with
      | error e => rfl
      | ok id => rfl
    · rw [if_neg hc, if_neg hc]
      by_cases hf : eventType.isStr "ORDER_FAILED" = true
      · rw [if_pos hf, if_pos hf]
        unfold recordOrderFailed
        cases (event.field "data").get "id" with
        | error e => rfl
        | ok id => rfl
      · rw [if_neg hf, if_neg hf]
        rfl

section Attempt

variable {env : Env} {decode : List UInt8 → String} {parse : String → Except JsError JsValue}
variable {maxRetries retryDelayMs : Nat} {message : Message} {event : JsValue} {w : World}

/-- The `INSERT` number `i` of `metric` fails: the query does, or its parameters are refused. -/
def InsertFails (env : Env) (metric : NewMetric) (i : Nat) : Prop :=
  env.insert i ≠ none ∨ metric.row env.columns = none

/-- An INSERT that does not fail stores the row of its metric. -/
theorem stores_of_not_insertFails {metric : NewMetric} {i : Nat} (h : ¬ InsertFails env metric i) :
    ∃ row, env.insert i = none ∧ metric.row env.columns = some row := by
  unfold InsertFails at h
  push Not at h
  obtain ⟨row, hrow⟩ := Option.ne_none_iff_exists'.mp h.2
  exact ⟨row, h.1, hrow⟩

/-- A failed `INSERT` leaves nothing. -/
theorem recording_fails {metric : NewMetric} (h : InsertFails env metric w.inserts) :
    ∃ e, alone env (recording metric) w = (.error e, w.inserted w.rows) := by
  have hrun : alone env (recording metric) w =
      match answer env (.insert metric) w with
      | (.error e, w') => (.error e, w')
      | (.ok _, w') => alone env logDashboard w' := by
    show Prog.run _ (Prog.await (AnalyticsOp.insert metric) _) w = _
    rw [Prog.run_await]
    rcases answer env (.insert metric) w with ⟨r, w'⟩
    cases r with
    | error e => rfl
    | ok u => rfl
  rw [hrun]
  simp only [answer]
  -- the INSERT fails, or the columns do not take its row
  cases hi : env.insert w.inserts with
  | some e => exact ⟨e, rfl⟩
  | none =>
    cases hrow : metric.row env.columns with
    | none => exact ⟨invalidParameter, rfl⟩
    | some row =>
      rcases h with h | h
      · exact absurd hi h
      · rw [hrow] at h
        cases h

/-- An `INSERT` that goes through leaves its row, whatever becomes of the dashboard; the attempt
    succeeds exactly if both queries do. -/
theorem recording_stores {metric : NewMetric} {row : MetricRow} (hi : env.insert w.inserts = none)
    (hrow : metric.row env.columns = some row) :
    ∃ r w', alone env (recording metric) w = (r, w') ∧ w'.rows = w.rows ++ [row] ∧
      w'.dlq = w.dlq ∧ w'.inserts = w.inserts + 1 ∧
      (r = .ok () ↔ env.summary w.summaries = none ∧ env.topProducts w.topProducts = none) := by
  have hrun : alone env (recording metric) w =
      alone env logDashboard (w.inserted (w.rows ++ [row])) := by
    show Prog.run _ (Prog.await (AnalyticsOp.insert metric) _) w = _
    rw [Prog.run_await]
    simp only [answer, hi, hrow]
    rfl
  rw [hrun]
  show ∃ r w', Prog.run _ (Prog.await AnalyticsOp.getSummary _) _ = _ ∧ _
  rw [Prog.run_await]
  -- the row is stored before the first query of the dashboard can fail
  cases hs : env.summary w.summaries with
  | some e =>
    have hs' : env.summary (w.inserted (w.rows ++ [row])).summaries = some e := hs
    simp only [answer, hs']
    exact ⟨_, _, rfl, rfl, rfl, rfl, nofun, nofun⟩
  | none =>
    have hs' : env.summary (w.inserted (w.rows ++ [row])).summaries = none := hs
    simp only [answer, hs']
    show ∃ r w', Prog.run _ (Prog.await (AnalyticsOp.getTopProducts 5) _) _ = _ ∧ _
    rw [Prog.run_await]
    cases ht : env.topProducts w.topProducts with
    | some e =>
      have ht' : env.topProducts (w.inserted (w.rows ++ [row])).topProducts = some e := ht
      simp only [answer, ht']
      exact ⟨_, _, rfl, rfl, rfl, rfl, nofun, nofun⟩
    | none =>
      have ht' : env.topProducts (w.inserted (w.rows ++ [row])).topProducts = none := ht
      simp only [answer, ht']
      exact ⟨_, _, rfl, rfl, rfl, rfl, fun _ => ⟨trivial, trivial⟩, fun _ => rfl⟩

/-- One attempt of the loop: done, or the next one after a wait. -/
theorem alone_attempt (remaining attempt : Nat) (le : Option JsError) :
    alone env (attempts decode maxRetries retryDelayMs message event (remaining + 1) attempt le) w =
      match alone env (handleEvent event) w with
      | (.ok u, w') => (.ok u, w')
      | (.error e, w') =>
        alone env (attempts decode maxRetries retryDelayMs message event remaining (attempt + 1)
          (some e)) (w'.slept maxRetries retryDelayMs attempt) := by
  show Prog.run _ (Prog.bind (handleEvent event).run _) w = _
  rw [Prog.run_bind]
  unfold alone
  generalize Prog.run (answer env) (handleEvent event).run w = out
  obtain ⟨r, w'⟩ := out
  cases r with
  | ok u => rfl
  | error e =>
    unfold World.slept
    -- after the last attempt there is no wait
    by_cases hlt : attempt < maxRetries
    · simp only [if_pos hlt]
      rfl
    · simp only [if_neg hlt]
      rfl

/-- A message that is given up is in the DLQ, if the DLQ takes it. -/
theorem alone_sendToDlq (hdlq : env.dlq = none) (error : String) (n : Nat) :
    alone env (sendToDlq decode message error n) w =
      (.ok (), { w with dlq := w.dlq ++ [failedRecord decode message error n] }) := by
  show Prog.run _ (Prog.await (AnalyticsOp.send _) _) w = _
  rw [Prog.run_await]
  simp only [answer, hdlq]
  rfl

end Attempt

/-! ## The outcomes -/

section Outcome

variable (decode : List UInt8 → String) (parse : String → Except JsError JsValue)
variable (message : Message) (before : Metrics) (w : World)

/-- One row was added and nothing went to the DLQ. -/
def Recorded : Prop := (∃ row, w.rows = before ++ [row]) ∧ w.dlq = []

/-- No row was added and one record carrying the message went to the DLQ. -/
def DeadLettered : Prop :=
  w.rows = before ∧ ∃ error attempts, w.dlq = [failedRecord decode message error attempts]

/-- An event whose type the service does not know. -/
def UnknownEvent (event : JsValue) : Prop :=
  ∃ eventType, event.destructure "event" "eventType" = .ok eventType ∧
    eventType.isStr "ORDER_CREATED" = false ∧ eventType.isStr "ORDER_FAILED" = false

/-- The message says an unknown event, and nothing happened. -/
def Ignored : Prop :=
  (∃ event, parse (message.raw decode) = .ok event ∧ UnknownEvent event) ∧
    w.rows = before ∧ w.dlq = []

/-- **One outcome**: when `processMessage` resolves, exactly one of the three holds. -/
def OneOutcome (out : Except JsError Unit × World) : Prop :=
  out.1 = .ok () →
    (Recorded before out.2 ∧ ¬ DeadLettered decode message before out.2 ∧
      ¬ Ignored decode parse message before out.2) ∨
    (DeadLettered decode message before out.2 ∧ ¬ Recorded before out.2 ∧
      ¬ Ignored decode parse message before out.2) ∨
    (Ignored decode parse message before out.2 ∧ ¬ Recorded before out.2 ∧
      ¬ DeadLettered decode message before out.2)

end Outcome

section Outcomes

variable {decode : List UInt8 → String} {parse : String → Except JsError JsValue}
variable {message : Message} {before : Metrics} {w : World} {r : Except JsError Unit}

/-- A message with one more row has one outcome. -/
theorem Recorded.oneOutcome (h : Recorded before w) :
    OneOutcome decode parse message before (r, w) := by
  intro _
  obtain ⟨⟨row, hrows⟩, hdlq⟩ := h
  have hne : w.rows ≠ before := by
    rw [hrows]
    simp
  exact Or.inl ⟨⟨⟨row, hrows⟩, hdlq⟩, fun hd => hne hd.1, fun hi => hne hi.2.1⟩

/-- So has one with a DLQ record. -/
theorem DeadLettered.oneOutcome (h : DeadLettered decode message before w) :
    OneOutcome decode parse message before (r, w) := by
  intro _
  obtain ⟨hrows, error, n, hdlq⟩ := h
  have hne : w.dlq ≠ [] := by
    rw [hdlq]
    simp
  exact Or.inr (Or.inl ⟨⟨hrows, error, n, hdlq⟩, fun hr => hne hr.2, fun hi => hne hi.2.2⟩)

/-- So has one whose event type is not known. -/
theorem Ignored.oneOutcome (h : Ignored decode parse message before w) :
    OneOutcome decode parse message before (r, w) := by
  intro _
  have hrec : ¬ Recorded before w := by
    rintro ⟨⟨row, hrow⟩, -⟩
    rw [h.2.1] at hrow
    simp at hrow
  have hdead : ¬ DeadLettered decode message before w := by
    rintro ⟨-, error, n, hdlq⟩
    rw [h.2.2] at hdlq
    cases hdlq
  exact Or.inr (Or.inr ⟨h, hrec, hdead⟩)

/-- A row stored, and then another one or a record of the DLQ. -/
def CountedTwice (before : Metrics) (w : World) : Prop :=
  ∃ row more, w.rows = before ++ row :: more ∧ (more ≠ [] ∨ w.dlq ≠ [])

/-- That is none of the outcomes. -/
theorem CountedTwice.not_oneOutcome (h : CountedTwice before w) :
    ¬ OneOutcome decode parse message before (.ok (), w) := by
  obtain ⟨row, more, hrows, hmore⟩ := h
  have hne : w.rows ≠ before := by
    rw [hrows]
    simp
  intro hone
  -- counted once would leave one row and an empty DLQ
  rcases hone rfl with ⟨⟨⟨row', hrow'⟩, hdlq⟩, -⟩ | ⟨hd, -⟩ | ⟨hi, -⟩
  · rcases hmore with hmore | hmore
    · rw [hrows] at hrow'
      have hone := List.append_cancel_left hrow'
      exact hmore (List.cons.inj hone).2
    · exact hmore hdlq
  · exact hne hd.1
  · exact hne hi.2.1

end Outcomes

/-! ## The loop -/

section Loop

variable {env : Env} {decode : List UInt8 → String} {parse : String → Except JsError JsValue}
variable {maxRetries retryDelayMs : Nat} {message : Message} {event : JsValue}
variable {before : Metrics} {metric : NewMetric}

/-- What is neither thrown at nor recorded is unknown. -/
theorem unknownEvent_of_metricOf (hm : metricOf event = .ok none) : UnknownEvent event := by
  unfold metricOf at hm
  unfold UnknownEvent
  cases htype : event.destructure "event" "eventType" with
  | error e =>
    rw [htype] at hm
    cases hm
  | ok eventType =>
    rw [htype] at hm
    change (if eventType.isStr "ORDER_CREATED" then _ else if eventType.isStr "ORDER_FAILED" then _
      else _ : Except JsError (Option NewMetric)) = _ at hm
    -- a known type gives a metric or an error, never nothing
    have hsome : ∀ metric : JsValue → NewMetric,
        (do let id ← (event.field "data").get "id"
            return some (metric id) : Except JsError (Option NewMetric)) ≠ .ok none := by
      intro metric
      cases (event.field "data").get "id" <;> exact fun h => nomatch h
    by_cases hc : eventType.isStr "ORDER_CREATED" = true
    · rw [if_pos hc] at hm
      exact absurd hm (hsome _)
    by_cases hf : eventType.isStr "ORDER_FAILED" = true
    · rw [if_neg hc, if_pos hf] at hm
      exact absurd hm (hsome _)
    exact ⟨eventType, rfl, Bool.eq_false_iff.mpr hc, Bool.eq_false_iff.mpr hf⟩

/-- A call that has done nothing yet but failed `INSERT`s. -/
structure Clean (before : Metrics) (w : World) : Prop where
  rows : w.rows = before
  dlq : w.dlq = []
  summaries : w.summaries = 0
  topProducts : w.topProducts = 0

/-- A call begins clean. -/
theorem Clean.start : Clean before (World.start before) := ⟨rfl, rfl, rfl, rfl⟩

/-- An INSERT that stored nothing leaves it so. -/
theorem Clean.inserted {w : World} (h : Clean before w) : Clean before (w.inserted w.rows) :=
  ⟨h.rows, h.dlq, h.summaries, h.topProducts⟩

/-- A wait leaves it so. -/
theorem Clean.slept {w : World} (h : Clean before w) (maxRetries retryDelayMs attempt : Nat) :
    Clean before (w.slept maxRetries retryDelayMs attempt) where
  rows := h.rows
  dlq := h.dlq
  summaries := h.summaries
  topProducts := h.topProducts

/-- A clean call that writes its DLQ record has done nothing else. -/
theorem Clean.deadLettered {w : World} (h : Clean before w) (error : String) (n : Nat) :
    DeadLettered decode message before
      { w with dlq := w.dlq ++ [failedRecord decode message error n] } := by
  have hdlq : w.dlq ++ [failedRecord decode message error n] =
      [failedRecord decode message error n] := by rw [h.dlq, List.nil_append]
  exact ⟨h.rows, error, n, hdlq⟩

/-- Out of attempts, a message that did nothing goes to the DLQ. -/
theorem attempts_exhausted (hdlq : env.dlq = none) {w : World} (h : Clean before w) (attempt : Nat)
    (le : Option JsError) :
    OneOutcome decode parse message before
      (alone env (attempts decode maxRetries retryDelayMs message event 0 attempt le) w) := by
  cases le with
  | none => exact fun hok => nomatch hok
  | some e =>
    show OneOutcome decode parse message before
      (alone env (sendToDlq decode message e.message maxRetries) w)
    rw [alone_sendToDlq hdlq]
    exact (h.deadLettered _ _).oneOutcome

/-- An event that cannot be read fails every attempt and goes to the DLQ. -/
theorem attempts_unreadable (hdlq : env.dlq = none) {e : JsError} (he : metricOf event = .error e)
    (remaining : Nat) {w : World} (h : Clean before w) (attempt : Nat) (le : Option JsError) :
    OneOutcome decode parse message before
      (alone env (attempts decode maxRetries retryDelayMs message event remaining attempt le) w) := by
  induction remaining generalizing w attempt le with
  | zero => exact attempts_exhausted hdlq h attempt le
  | succ k ih =>
    have hfail : alone env (handleEvent event) w = (.error e, w) := by
      rw [handleEvent_eq, he]
      rfl
    rw [alone_attempt, hfail]
    exact ih (h.slept _ _ attempt) (attempt + 1) (some e)

variable (decode maxRetries retryDelayMs message) in
/-- After a failed attempt the loop ends with one more row or with a record in the DLQ. -/
theorem attempts_after_failure (hdlq : env.dlq = none) (hm : metricOf event = .ok (some metric))
    (remaining : Nat) (w : World) (attempt : Nat) (e : JsError) :
    ∃ w', alone env (attempts decode maxRetries retryDelayMs message event remaining attempt
        (some e)) w = (.ok (), w') ∧
      ∃ more, w'.rows = w.rows ++ more ∧ (more ≠ [] ∨ w'.dlq ≠ []) := by
  -- over the attempts that are left; each may add a row of its own
  induction remaining generalizing w attempt e with
  | zero => exact ⟨_, alone_sendToDlq hdlq _ _, [], by simp, Or.inr (by simp)⟩
  | succ k ih =>
    have hrec : handleEvent event = recording metric := by rw [handleEvent_eq, hm]
    rw [alone_attempt, hrec]
    by_cases hf : InsertFails env metric w.inserts
    · obtain ⟨e', he'⟩ := recording_fails hf
      rw [he']
      obtain ⟨w', hrun, more, hrows, hmore⟩ :=
        ih ((w.inserted w.rows).slept maxRetries retryDelayMs attempt) (attempt + 1) e'
      exact ⟨w', hrun, more, hrows, hmore⟩
    · obtain ⟨row, hi, hrow⟩ := stores_of_not_insertFails hf
      obtain ⟨r, w₁, hrun₁, hrows₁, -⟩ := recording_stores hi hrow
      rw [hrun₁]
      cases r with
      | ok u => exact ⟨w₁, rfl, [row], hrows₁, Or.inl (by simp)⟩
      | error e' =>
        obtain ⟨w', hrun, more, hrows, hmore⟩ :=
          ih (w₁.slept maxRetries retryDelayMs attempt) (attempt + 1) e'
        -- stored again, after a row that a failed summary had left behind
        have hboth : w'.rows = (w.rows ++ [row]) ++ more := by
          rw [hrows, ← hrows₁]
          rfl
        refine ⟨w', hrun, row :: more, ?_, Or.inl (by simp)⟩
        rw [hboth, List.append_assoc]
        rfl

/-- The loop from a clean state: one outcome exactly if every `INSERT` it would make fails or the
    dashboard after the first that goes through succeeds. -/
theorem attempts_oneOutcome_iff (hdlq : env.dlq = none) (hm : metricOf event = .ok (some metric))
    (remaining : Nat) {w : World} (h : Clean before w) (attempt : Nat) (le : Option JsError) :
    OneOutcome decode parse message before
        (alone env (attempts decode maxRetries retryDelayMs message event remaining attempt le) w) ↔
      (∀ i, w.inserts ≤ i → i < w.inserts + remaining → InsertFails env metric i) ∨
        (env.summary 0 = none ∧ env.topProducts 0 = none) := by
  induction remaining generalizing w attempt le with
  | zero =>
    have hnone : ∀ i, w.inserts ≤ i → i < w.inserts + 0 → InsertFails env metric i := by omega
    exact ⟨fun _ => Or.inl hnone, fun _ => attempts_exhausted hdlq h attempt le⟩
  | succ k ih =>
    have hrec : handleEvent event = recording metric := by rw [handleEvent_eq, hm]
    rw [alone_attempt, hrec]
    by_cases hf : InsertFails env metric w.inserts
    · obtain ⟨e, he⟩ := recording_fails hf
      rw [he]
      have hnext := ih (h.inserted.slept maxRetries retryDelayMs attempt) (attempt + 1) (some e)
      -- the attempt made one of the failures; the others are the rest of the loop's
      have hrange : (∀ i, w.inserts + 1 ≤ i → i < w.inserts + 1 + k → InsertFails env metric i) ↔
          ∀ i, w.inserts ≤ i → i < w.inserts + (k + 1) → InsertFails env metric i := by
        constructor
        · intro hall i hle hlt
          rcases Nat.eq_or_lt_of_le hle with heq | hgt
          · rw [← heq]
            exact hf
          · exact hall i hgt (by omega)
        · intro hall i hle hlt
          exact hall i (by omega) (by omega)
      rw [← hrange]
      exact hnext
    · obtain ⟨row, hi, hrow⟩ := stores_of_not_insertFails hf
      obtain ⟨r, w₁, hrun₁, hrows₁, hdlq₁, -, hok⟩ := recording_stores hi hrow
      rw [hrun₁]
      rw [h.summaries, h.topProducts] at hok
      rw [h.rows] at hrows₁
      rw [h.dlq] at hdlq₁
      cases r with
      | ok u =>
        have hone : Recorded before w₁ := ⟨⟨row, hrows₁⟩, hdlq₁⟩
        exact ⟨fun _ => Or.inr (hok.mp rfl), fun _ => hone.oneOutcome⟩
      | error e =>
        show OneOutcome decode parse message before (alone env (attempts decode maxRetries
          retryDelayMs message event k (attempt + 1) (some e)) _) ↔ _
        obtain ⟨w', hrun, more, hrows, hmore⟩ := attempts_after_failure decode maxRetries
          retryDelayMs message hdlq hm k (w₁.slept maxRetries retryDelayMs attempt) (attempt + 1) e
        rw [hrun]
        have htwice : CountedTwice before w' := by
          have hboth : w'.rows = (before ++ [row]) ++ more := by
            rw [hrows, ← hrows₁]
            rfl
          refine ⟨row, more, ?_, hmore⟩
          rw [hboth, List.append_assoc]
          rfl
        constructor
        · intro hone
          exact absurd hone htwice.not_oneOutcome
        · rintro (hall | hboth)
          · exact absurd (hall w.inserts (Nat.le_refl _) (by omega)) hf
          · exact nomatch hok.mpr hboth

/-- An event the service does not know succeeds at once and does nothing. -/
theorem attempts_unknown (hevent : parse (message.raw decode) = .ok event)
    (hm : metricOf event = .ok none) (remaining : Nat) {w : World} (h : Clean before w)
    (attempt : Nat) :
    OneOutcome decode parse message before
      (alone env (attempts decode maxRetries retryDelayMs message event remaining attempt none) w) := by
  cases remaining with
  | zero => exact fun hok => nomatch hok
  | succ k =>
    have hdone : alone env (handleEvent event) w = (.ok (), w) := by
      rw [handleEvent_eq, hm]
      rfl
    rw [alone_attempt, hdone]
    have hignored : Ignored decode parse message before w :=
      ⟨⟨event, hevent, unknownEvent_of_metricOf hm⟩, h.rows, h.dlq⟩
    exact hignored.oneOutcome

end Loop

/-! ## The message -/

section Message

variable {env : Env} (decode : List UInt8 → String) (parse : String → Except JsError JsValue)
variable (maxRetries retryDelayMs : Nat) (message : Message) (before : Metrics)

/-- **When a message has one outcome.**  A message that is an event the service records has one
    exactly if none of its `INSERT`s goes through, or the dashboard does after the first; every
    other message has one. -/
theorem oneOutcome_iff (hdlq : env.dlq = none) :
    OneOutcome decode parse message before
        (alone env (processMessage decode parse maxRetries retryDelayMs message)
          (World.start before)) ↔
      ∀ event metric, parse (message.raw decode) = .ok event →
        metricOf event = .ok (some metric) →
        (∀ i < maxRetries, InsertFails env metric i) ∨
          (env.summary 0 = none ∧ env.topProducts 0 = none) := by
  cases hparse : parse (message.raw decode) with
  | error e =>
    have hrun : processMessage decode parse maxRetries retryDelayMs message =
        sendToDlq decode message ("Malformed JSON: " ++ e.message) 0 := by
      unfold processMessage
      rw [hparse]
    rw [hrun, alone_sendToDlq hdlq]
    constructor
    · intro _ event metric hevent
      cases hevent
    · intro _
      exact (Clean.start.deadLettered _ _).oneOutcome
  | ok event =>
    have hrun : processMessage decode parse maxRetries retryDelayMs message =
        attempts decode maxRetries retryDelayMs message event maxRetries 1 none := by
      unfold processMessage
      rw [hparse]
    rw [hrun]
    cases hm : metricOf event with
    | error e =>
      constructor
      · intro _ event' metric hevent hmetric
        cases hevent
        rw [hm] at hmetric
        cases hmetric
      · intro _
        exact attempts_unreadable hdlq hm maxRetries Clean.start 1 none
    | ok recorded =>
      cases recorded with
      | none =>
        constructor
        · intro _ event' metric hevent hmetric
          cases hevent
          rw [hm] at hmetric
          cases hmetric
        · intro _
          exact attempts_unknown hparse hm maxRetries Clean.start 1
      -- the only case with a condition: a known event, whose INSERT is tried
      | some metric =>
        rw [attempts_oneOutcome_iff hdlq hm maxRetries Clean.start 1 none]
        show (∀ i, 0 ≤ i → i < 0 + maxRetries → _) ∨ _ ↔ _
        constructor
        · intro hcond event' metric' hevent hmetric
          cases hevent
          rw [hm] at hmetric
          cases hmetric
          refine hcond.imp_left fun hall i hlt => hall i (Nat.zero_le i) (by omega)
        · intro hcond
          refine (hcond event metric rfl hm).imp_left fun hall i _ hlt => hall i (by omega)

end Message

/-! ## One order that failed -/

/-- `{"eventType":"ORDER_FAILED","data":{"id":"o1"}}`. -/
def failedText : List UInt8 :=
  [123, 34, 101, 118, 101, 110, 116, 84, 121, 112, 101, 34, 58, 34, 79, 82, 68, 69, 82, 95, 70, 65,
   73, 76, 69, 68, 34, 44, 34, 100, 97, 116, 97, 34, 58, 123, 34, 105, 100, 34, 58, 34, 111, 49, 34,
   125, 125]

/-- The event of the example. -/
def failedEvent : JsValue :=
  .obj [("eventType", .str "ORDER_FAILED"), ("data", .obj [("id", .str "o1")])]

/-- The message that carries it. -/
def failedMessage : Message := ⟨none, some failedText, "7", 0⟩

/-- `JSON.parse` on that text. -/
def parseFailed (text : String) : Except JsError JsValue :=
  if text = ascii failedText then .ok failedEvent
  else .error { message := "Unexpected end of JSON input" }

/-- A `TEXT` parameter. -/
def textColumn : JsValue → Option (Option String)
  | .undefined => some none
  | .null => some none
  | .str s => some (some s)
  | _ => none

/-- The first of the queries of a kind is cut off. -/
def firstCutOff (i : Nat) : Option JsError :=
  if i = 0 then some { message := "Connection terminated unexpectedly" } else none

/-- Postgres restarts: only these `INSERT`s and these `getSummary`s fail. -/
def restarting (insert summary : Nat → Option JsError) : Env where
  columns := ⟨textColumn, fun _ => none⟩
  insert := insert
  summary := summary
  topProducts := fun _ => none
  ties := fun _ => .stable String
  dlq := none

/-- If Postgres restarts before the `INSERT`, the retry does what it is for. -/
theorem oneOutcome_of_failed_insert :
    OneOutcome ascii parseFailed failedMessage []
      (alone (restarting firstCutOff fun _ => none)
        (processMessage ascii parseFailed 3 1000 failedMessage) (World.start [])) :=
  (oneOutcome_iff ascii parseFailed 3 1000 failedMessage [] rfl).mpr
    fun _ _ _ _ => Or.inr ⟨rfl, rfl⟩

/-- If it restarts between the `INSERT` and the dashboard, the failed order is counted twice. -/
theorem not_oneOutcome_of_failed_summary :
    ¬ OneOutcome ascii parseFailed failedMessage []
      (alone (restarting (fun _ => none) firstCutOff)
        (processMessage ascii parseFailed 3 1000 failedMessage) (World.start [])) := by
  -- the INSERT is done, the summary after it fails, and the message is retried
  have hrun : alone (restarting (fun _ => none) firstCutOff)
      (processMessage ascii parseFailed 3 1000 failedMessage) (World.start []) =
      (.ok (), ⟨[⟨some "o1", none, none, .hundredths 0, .failed⟩,
        ⟨some "o1", none, none, .hundredths 0, .failed⟩], [], 2, 2, 1, 1000⟩) := rfl
  have htwice : CountedTwice [] ⟨[⟨some "o1", none, none, .hundredths 0, .failed⟩,
      ⟨some "o1", none, none, .hundredths 0, .failed⟩], [], 2, 2, 1, 1000⟩ :=
    ⟨_, [⟨some "o1", none, none, .hundredths 0, .failed⟩], rfl, Or.inl (List.cons_ne_nil _ _)⟩
  rw [hrun]
  exact htwice.not_oneOutcome

end Microservices.Analytics
