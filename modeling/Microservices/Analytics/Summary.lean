/-
  The metrics after a history of deliveries.

  kafkajs hands the messages of all partitions over one at a time, so a history is a list: the order
  in which the partitions interleave, with every redelivery in it.  No query fails here.

  A delivery adds `rowOf` of its message and nothing else (`delivered_rows`), and nothing in the
  table says that the order is there already.  So the summary does not depend on the order of the
  deliveries (`getSummary_consume`), and does depend on how often each of them is made
  (`not_getSummary_consume_of_set`).
-/
import Mathlib.Data.List.Perm.Basic
import Microservices.Analytics.Outcome

namespace Microservices.Analytics

/-! ## The summary of a table -/

/-- Amounts may be added in any order; `NaN` stays. -/
instance : LeftCommutative addNumeric where
  left_comm a b c := by
    cases a <;> cases b <;> cases c <;> simp only [addNumeric]
    congr 1
    omega

/-- The summary of a table does not depend on the order of its rows. -/
theorem getSummary_perm {d d' : Metrics} (h : d.Perm d') : d.getSummary = d'.getSummary := by
  have htotal : d.length = d'.length := h.length_eq
  have hcreated := h.countP_eq fun row => decide (row.status = .created)
  have hfailed := h.countP_eq fun row => decide (row.status = .failed)
  have hprices := (h.filter fun row => decide (row.status = .created)).map MetricRow.totalPrice
  unfold Metrics.getSummary
  rw [htotal, hcreated, hfailed, hprices.foldr_eq]

/-- The rows of one order. -/
def Metrics.rowsOf (orderId : Option String) (d : Metrics) : Nat :=
  d.countP fun row => decide (row.orderId = orderId)

/-! ## Deliveries -/

/-- No query fails, and the DLQ takes its records. -/
def quiet (columns : Columns) : Env where
  columns := columns
  insert := fun _ => none
  summary := fun _ => none
  topProducts := fun _ => none
  ties := fun _ => .stable String
  dlq := none

section Deliveries

variable (decode : List UInt8 → String) (parse : String → Except JsError JsValue)
variable (maxRetries retryDelayMs : Nat) (columns : Columns)

/-- The table `d` after the deliveries of `history`. -/
def consume (history : List Message) (d : Metrics) : Metrics :=
  history.foldl (fun rows message => (alone (quiet columns)
    (processMessage decode parse maxRetries retryDelayMs message) (World.start rows)).2.rows) d

/-- What the `INSERT` of an event adds to the table: nothing if there is none, or if its parameters
    are refused. -/
def eventRow (event : JsValue) : Option MetricRow :=
  match metricOf event with
  | .ok (some metric) => metric.row columns
  | _ => none

/-- What a delivery of the message adds, as long as it is tried at all. -/
def rowOf (message : Message) : Option MetricRow :=
  match parse (message.raw decode) with
  | .error _ => none
  | .ok event => if maxRetries = 0 then none else eventRow columns event

/-- The deliveries of events of one order. -/
def deliveriesOf (orderId : Option String) (history : List Message) : Nat :=
  history.countP fun message => (rowOf decode parse maxRetries columns message).any fun row =>
    decide (row.orderId = orderId)

end Deliveries

section Delivered

variable {decode : List UInt8 → String} {parse : String → Except JsError JsValue}
variable {maxRetries retryDelayMs : Nat} {columns : Columns} {message : Message}

/-- Attempts that all fail without a row leave the table as it is. -/
theorem attempts_rows_of_failing {env : Env} (hdlq : env.dlq = none) {event : JsValue}
    (hfail : ∀ w, ∃ e w', alone env (handleEvent event) w = (.error e, w') ∧ w'.rows = w.rows)
    (remaining attempt : Nat) (le : Option JsError) (w : World) :
    (alone env (attempts decode maxRetries retryDelayMs message event remaining attempt le) w).2.rows
      = w.rows := by
  -- over the attempts: none of them adds a row, and neither does the DLQ
  induction remaining generalizing attempt le w with
  | zero =>
    cases le with
    | none => rfl
    | some e =>
      show (alone env (sendToDlq decode message e.message maxRetries) w).2.rows = w.rows
      rw [alone_sendToDlq hdlq]
  | succ k ih =>
    obtain ⟨e, w', hrun, hrows⟩ := hfail w
    rw [alone_attempt, hrun]
    show (alone env (attempts decode maxRetries retryDelayMs message event k (attempt + 1) (some e))
      (w'.slept maxRetries retryDelayMs attempt)).2.rows = w.rows
    rw [ih]
    exact hrows

/-- The loop adds the row of its event at the first attempt, or never. -/
theorem attempts_rows (event : JsValue) (k attempt : Nat) (w : World) :
    (alone (quiet columns)
        (attempts decode maxRetries retryDelayMs message event (k + 1) attempt none) w).2.rows =
      w.rows ++ (eventRow columns event).toList := by
  unfold eventRow
  cases hm : metricOf event with
  | error e =>
    have hfail : ∀ w, ∃ e w', alone (quiet columns) (handleEvent event) w = (.error e, w') ∧
        w'.rows = w.rows := by
      intro w
      rw [handleEvent_eq, hm]
      exact ⟨e, w, rfl, rfl⟩
    rw [attempts_rows_of_failing rfl hfail]
    exact (List.append_nil _).symm
  | ok recorded =>
    cases recorded with
    | none =>
      have hdone : alone (quiet columns) (handleEvent event) w = (.ok (), w) := by
        rw [handleEvent_eq, hm]
        rfl
      rw [alone_attempt, hdone]
      exact (List.append_nil _).symm
    | some metric =>
      have hrec : handleEvent event = recording metric := by rw [handleEvent_eq, hm]
      show _ = w.rows ++ (metric.row columns).toList
      cases hrow : metric.row columns with
      | none =>
        have hfail : ∀ w, ∃ e w', alone (quiet columns) (handleEvent event) w = (.error e, w') ∧
            w'.rows = w.rows := by
          intro w
          obtain ⟨e, he⟩ := @recording_fails (quiet columns) w metric (Or.inr hrow)
          rw [hrec]
          exact ⟨e, _, he, rfl⟩
        rw [attempts_rows_of_failing rfl hfail]
        exact (List.append_nil _).symm
      | some row =>
        obtain ⟨r, w', hrun, hrows, -, -, hok⟩ :=
          @recording_stores (quiet columns) w metric row rfl hrow
        -- no query fails, so the first attempt is the last
        rw [hok.mpr ⟨rfl, rfl⟩] at hrun
        rw [alone_attempt, hrec, hrun]
        exact hrows

/-- One delivery adds the row of its message. -/
theorem delivered_rows (d : Metrics) :
    (alone (quiet columns) (processMessage decode parse maxRetries retryDelayMs message)
        (World.start d)).2.rows =
      d ++ (rowOf decode parse maxRetries columns message).toList := by
  unfold processMessage rowOf
  cases parse (message.raw decode) with
  | error e =>
    show (alone _ (sendToDlq decode message _ 0) _).2.rows = _
    rw [alone_sendToDlq rfl]
    exact (List.append_nil _).symm
  | ok event =>
    cases maxRetries with
    | zero => exact (List.append_nil _).symm
    | succ k => exact attempts_rows event k 1 (World.start d)

/-- A history adds the rows of its deliveries. -/
theorem consume_eq (history : List Message) (d : Metrics) :
    consume decode parse maxRetries retryDelayMs columns history d =
      d ++ history.filterMap (rowOf decode parse maxRetries columns) := by
  induction history generalizing d with
  | nil => exact (List.append_nil d).symm
  | cons message rest ih =>
    have hcons : consume decode parse maxRetries retryDelayMs columns (message :: rest) d =
        consume decode parse maxRetries retryDelayMs columns rest (alone (quiet columns)
          (processMessage decode parse maxRetries retryDelayMs message) (World.start d)).2.rows := rfl
    -- the first message's row, and then those of the others
    rw [hcons, ih, delivered_rows, List.append_assoc]
    cases hrow : rowOf decode parse maxRetries columns message with
    | none =>
      rw [List.filterMap_cons_none hrow]
      rfl
    | some row =>
      rw [List.filterMap_cons_some hrow]
      rfl

/-- The rows of an order are those that were there and one for each delivery of its events. -/
theorem rowsOf_consume (orderId : Option String) (history : List Message) (d : Metrics) :
    (consume decode parse maxRetries retryDelayMs columns history d).rowsOf orderId =
      d.rowsOf orderId + deliveriesOf decode parse maxRetries columns orderId history := by
  unfold Metrics.rowsOf deliveriesOf
  rw [consume_eq, List.countP_append, List.countP_filterMap]
  congr 2
  funext message
  cases rowOf decode parse maxRetries columns message with
  | none => rfl
  | some row => rfl

end Delivered

/-! ## Two histories -/

section Histories

variable (decode : List UInt8 → String) (parse : String → Except JsError JsValue)
variable (maxRetries retryDelayMs : Nat) (columns : Columns)

/-- **The summary depends on how often each message is delivered, not on the order.**  Two histories
    that deliver every message equally often leave the same summary, in which each delivery of an
    order's events is counted once. -/
theorem getSummary_consume (h₁ h₂ : List Message) (d : Metrics)
    (hcount : ∀ message, h₁.count message = h₂.count message) :
    (consume decode parse maxRetries retryDelayMs columns h₁ d).getSummary =
        (consume decode parse maxRetries retryDelayMs columns h₂ d).getSummary ∧
      ∀ orderId, (consume decode parse maxRetries retryDelayMs columns h₁ d).rowsOf orderId =
        d.rowsOf orderId + deliveriesOf decode parse maxRetries columns orderId h₁ := by
  -- equal counts make one list a permutation of the other
  have hperm : h₁.Perm h₂ := List.perm_iff_count.mpr hcount
  have hrows := hperm.filterMap (rowOf decode parse maxRetries columns)
  constructor
  · rw [consume_eq, consume_eq]
    exact getSummary_perm (hrows.append_left d)
  · intro orderId
    exact rowsOf_consume orderId h₁ d

end Histories

/-- A copy of the message on another partition. -/
def otherPartition : Message := { failedMessage with partition := 1 }

/-- Two partitions, and one message of them delivered twice: the order does not matter. -/
theorem getSummary_consume_redelivered :
    (consume ascii parseFailed 3 1000 ⟨textColumn, fun _ => none⟩
        [failedMessage, otherPartition, failedMessage] []).getSummary =
        (consume ascii parseFailed 3 1000 ⟨textColumn, fun _ => none⟩
          [otherPartition, failedMessage, failedMessage] []).getSummary ∧
      ∀ orderId, Metrics.rowsOf orderId (consume ascii parseFailed 3 1000
          ⟨textColumn, fun _ => none⟩ [failedMessage, otherPartition, failedMessage] []) =
        Metrics.rowsOf orderId [] + deliveriesOf ascii parseFailed 3 ⟨textColumn, fun _ => none⟩
          orderId [failedMessage, otherPartition, failedMessage] :=
  getSummary_consume ascii parseFailed 3 1000 ⟨textColumn, fun _ => none⟩ _ _ []
    (List.perm_iff_count.mp (List.Perm.swap _ _ _))

/-- The summary is not one of the set of messages: a redelivery counts again. -/
theorem not_getSummary_consume_of_set :
    ¬ ∀ h₁ h₂ : List Message, (∀ message, message ∈ h₁ ↔ message ∈ h₂) →
      (consume ascii parseFailed 3 1000 ⟨textColumn, fun _ => none⟩ h₁ []).getSummary =
        (consume ascii parseFailed 3 1000 ⟨textColumn, fun _ => none⟩ h₂ []).getSummary := by
  intro hset
  have hsame : ∀ message, message ∈ [failedMessage] ↔ message ∈ [failedMessage, failedMessage] := by
    simp
  have honce : (consume ascii parseFailed 3 1000 ⟨textColumn, fun _ => none⟩
      [failedMessage] []).getSummary.totalOrders = 1 := rfl
  have htwice : (consume ascii parseFailed 3 1000 ⟨textColumn, fun _ => none⟩
      [failedMessage, failedMessage] []).getSummary.totalOrders = 2 := rfl
  have heq := hset [failedMessage] [failedMessage, failedMessage] hsame
  rw [heq, htwice] at honce
  cases honce

end Microservices.Analytics
