/-
  The analytics consumer on the partitions of its topic (analytics-service/src/messaging/consumer.js,
  analytics-service/src/app.js, infra/kafka/init-topics.sh).

  kafkajs calls `eachMessage` for one record after the other of a partition, and commits an offset
  that all the calls before it have resolved.  A process may be killed at any await, a rebalance may
  take a partition away, `processMessage` may reject: then the records above the committed offset are
  delivered again.  An offset that is lost is 0 again, since the group reads from the beginning.

  `committed_accounted` and `effects_traced` say what the tables are worth after all that.
-/
import Microservices.Analytics.Outcome
import Microservices.Lib.PartitionLog

namespace Microservices.Analytics

open PartitionLog (Consumer)

/-! ## The consumer -/

/-- A record of the topic. -/
structure Record where
  key : Option (List UInt8)
  value : Option (List UInt8)
  deriving DecidableEq, Repr

/-- A record as `eachMessage` gets it. -/
def Record.message (r : Record) (p i : Nat) : Message := ⟨r.key, r.value, toString i, p⟩

/-- What the consumer leaves behind: the metrics, the DLQ, and the places in the log of the records
    that were handled while the DLQ took nothing. -/
structure Effect where
  rows : Metrics
  dlq : List DlqRecord
  refused : List (Nat × Nat)

/-- Nothing yet. -/
def Effect.none : Effect := ⟨[], [], []⟩

/-- The world in which one call begins. -/
def Effect.world (e : Effect) : World := ⟨e.rows, e.dlq, 0, 0, 0, 0⟩

section Group

variable (decode : List UInt8 → String) (parse : String → Except JsError JsValue)
variable (maxRetries retryDelayMs : Nat) (columns : Columns)

/-- `processMessage` run to its end or cut off, with any failures of its queries. -/
def consumer : Consumer Record Effect where
  handles p i r e e' := ∃ env w', env.columns = columns ∧
    alone env (processMessage decode parse maxRetries retryDelayMs (r.message p i)) e.world =
      (.ok (), w') ∧
    e' = ⟨w'.rows, w'.dlq, if env.dlq = Option.none then e.refused else e.refused ++ [(p, i)]⟩
  interrupted p i r e e' := ∃ env n w', env.columns = columns ∧
    Prog.cut (answer env) n
      (processMessage decode parse maxRetries retryDelayMs (r.message p i)).run e.world = w' ∧
    e' = ⟨w'.rows, w'.dlq, e.refused⟩

/-! ## What a call asks for -/

/-- What `processMessage` may ask for: the `INSERT` of its event, a record of its own for the DLQ. -/
def Justified (message : Message) : AnalyticsOp → Prop
  | .insert metric =>
    ∃ event, parse (message.raw decode) = .ok event ∧ metricOf event = .ok (some metric)
  | .send record => ∃ error n, record = failedRecord decode message error n
  | _ => True

end Group

section Asks

variable {decode : List UInt8 → String} {parse : String → Except JsError JsValue}
variable {maxRetries retryDelayMs : Nat} {message : Message} {event : JsValue}

/-- The DLQ is asked for the record of the message, and for nothing else. -/
theorem sendToDlq_asks (error : String) (n : Nat) :
    (sendToDlq decode message error n).run.Asks (Justified decode parse message) := by
  show Prog.Asks _ (Prog.await (AnalyticsOp.send _) _)
  refine ⟨⟨error, n, rfl⟩, fun r => ?_⟩
  cases r with
  | ok u => trivial
  | error e => trivial

/-- An event asks for its metric and for the two queries of the dashboard. -/
theorem handleEvent_asks (hevent : parse (message.raw decode) = .ok event) :
    (handleEvent event).run.Asks (Justified decode parse message) := by
  rw [handleEvent_eq]
  cases hm : metricOf event with
  | error e => trivial
  | ok recorded =>
    cases recorded with
    | none => trivial
    | some metric =>
      show Prog.Asks _ (Prog.await (AnalyticsOp.insert metric) _)
      refine ⟨⟨event, hevent, hm⟩, fun r => ?_⟩
      -- the dashboard asks for no change
      cases r with
      | error e => trivial
      | ok u =>
        refine ⟨trivial, fun r => ?_⟩
        cases r with
        | error e => trivial
        | ok summary =>
          refine ⟨trivial, fun r => ?_⟩
          cases r with
          | error e => trivial
          | ok products => trivial

/-- By induction on the attempts: each of them asks for what is justified. -/
theorem attempts_asks (hevent : parse (message.raw decode) = .ok event)
    (remaining attempt : Nat) (le : Option JsError) :
    (attempts decode maxRetries retryDelayMs message event remaining attempt le).run.Asks
      (Justified decode parse message) := by
  induction remaining generalizing attempt le with
  | zero =>
    cases le with
    | none => trivial
    | some e => exact sendToDlq_asks e.message maxRetries
  | succ k ih =>
    show Prog.Asks _ (Prog.bind (handleEvent event).run _)
    refine (handleEvent_asks hevent).bind fun out => ?_
    cases out with
    | ok u => trivial
    | error e =>
      by_cases hlt : attempt < maxRetries
      · -- a wait between two attempts; where the timer throws, so does the call
        simp only [if_pos hlt]
        refine ⟨trivial, fun r => ?_⟩
        cases r with
        | ok u => exact ih (attempt + 1) (some e)
        | error e' => trivial
      · simp only [if_neg hlt]
        exact ih (attempt + 1) (some e)

/-- **All that a message asks for is justified**, whatever it is answered. -/
theorem processMessage_asks :
    (processMessage decode parse maxRetries retryDelayMs message).run.Asks
      (Justified decode parse message) := by
  unfold processMessage
  cases hevent : parse (message.raw decode) with
  | error e => exact sendToDlq_asks _ 0
  | ok event => exact attempts_asks hevent maxRetries 1 none

end Asks

/-! ## What a call leaves behind -/

section Call

variable {decode : List UInt8 → String} {parse : String → Except JsError JsValue}
variable {maxRetries retryDelayMs : Nat} {message : Message} {event : JsValue} {env : Env}

/-- What was there before a call is there after it. -/
structure World.Kept (w w' : World) : Prop where
  rows : w.rows ⊆ w'.rows
  dlq : w.dlq ⊆ w'.dlq

/-- A world keeps what it holds. -/
theorem World.Kept.refl (w : World) : w.Kept w := ⟨List.Subset.refl _, List.Subset.refl _⟩

/-- No answer takes anything away. -/
theorem kept_answer {w₀ : World} (op : AnalyticsOp) (w : World) (h : w₀.Kept w) :
    w₀.Kept (answer env op w).2 := by
  cases op with
  -- the three ways an INSERT ends: rejected, out of range for its columns, stored
  | insert metric =>
    simp only [answer]
    split
    · exact ⟨h.rows, h.dlq⟩
    · exact ⟨h.rows, h.dlq⟩
    · exact ⟨fun row hrow => List.mem_append_left _ (h.rows hrow), h.dlq⟩
  | getSummary =>
    simp only [answer]
    split <;> exact ⟨h.rows, h.dlq⟩
  | getTopProducts limit =>
    simp only [answer]
    split <;> exact ⟨h.rows, h.dlq⟩
  | send record =>
    simp only [answer]
    split
    · exact h
    · exact ⟨h.rows, fun x hx => List.mem_append_left _ (h.dlq hx)⟩
  | sleep ms => exact ⟨h.rows, h.dlq⟩

variable (decode parse) in
/-- A row is the one of this message's event. -/
def RowOf (columns : Columns) (message : Message) (row : MetricRow) : Prop :=
  ∃ event metric, parse (message.raw decode) = .ok event ∧ metricOf event = .ok (some metric) ∧
    metric.row columns = some row

variable (decode) in
/-- A record of the DLQ carries this message. -/
def DeadOf (message : Message) (record : DlqRecord) : Prop :=
  ∃ error n, record = failedRecord decode message error n

/-- What a call adds is its message's. -/
theorem added_answer {P : MetricRow → Prop} {Q : DlqRecord → Prop}
    (hP : ∀ row, RowOf decode parse env.columns message row → P row)
    (hQ : ∀ record, DeadOf decode message record → Q record) (op : AnalyticsOp) (w : World)
    (hop : Justified decode parse message op)
    (h : (∀ row ∈ w.rows, P row) ∧ ∀ record ∈ w.dlq, Q record) :
    (∀ row ∈ (answer env op w).2.rows, P row) ∧ ∀ record ∈ (answer env op w).2.dlq, Q record := by
  cases op with
  | insert metric =>
    simp only [answer]
    split
    · exact h
    · exact h
    · -- only an INSERT that is stored adds a row, that of the metric it was asked for
      rename_i row _ hrow
      refine ⟨fun x hx => ?_, h.2⟩
      rcases List.mem_append.mp hx with hold | hnew
      · exact h.1 x hold
      · obtain ⟨event, hevent, hm⟩ := hop
        rw [List.mem_singleton.mp hnew]
        exact hP row ⟨event, metric, hevent, hm, hrow⟩
  | getSummary =>
    simp only [answer]
    split <;> exact h
  | getTopProducts limit =>
    simp only [answer]
    split <;> exact h
  | send record =>
    simp only [answer]
    split
    · exact h
    · refine ⟨h.1, fun x hx => ?_⟩
      rcases List.mem_append.mp hx with hold | hnew
      · exact h.2 x hold
      · rw [List.mem_singleton.mp hnew]
        exact hQ record hop
  | sleep ms => exact h

/-- A loop that resolves has stored the row of its event or sent a record to the DLQ: by induction on
    the attempts that are left. -/
theorem attempts_settle (hdlq : env.dlq = none) {metric : NewMetric}
    (hm : metricOf event = .ok (some metric)) (remaining attempt : Nat) (le : Option JsError)
    {w w' : World}
    (hrun : alone env (attempts decode maxRetries retryDelayMs message event remaining attempt le) w =
      (.ok (), w')) :
    (∃ row ∈ w'.rows, metric.row env.columns = some row) ∨
      ∃ record ∈ w'.dlq, DeadOf decode message record := by
  -- over the attempts that are left: the last thing to be done is the DLQ record
  induction remaining generalizing attempt le w with
  | zero =>
    cases le with
    | none => cases hrun
    | some e =>
      have hsent := @alone_sendToDlq env decode message w hdlq e.message maxRetries
      change alone env (sendToDlq decode message e.message maxRetries) w = _ at hrun
      rw [hsent] at hrun
      cases hrun
      exact Or.inr ⟨_, List.mem_append_right _ List.mem_cons_self, e.message, maxRetries, rfl⟩
  | succ k ih =>
    have hrec : handleEvent event = recording metric := by rw [handleEvent_eq, hm]
    rw [alone_attempt, hrec] at hrun
    by_cases hf : InsertFails env metric w.inserts
    · obtain ⟨e, he⟩ := recording_fails hf
      rw [he] at hrun
      exact ih (attempt + 1) (some e) hrun
    · obtain ⟨row, hi, hrow⟩ := stores_of_not_insertFails hf
      obtain ⟨r, w₁, hrun₁, hrows₁, -⟩ := recording_stores hi hrow
      rw [hrun₁] at hrun
      have hin : row ∈ w₁.rows := by
        rw [hrows₁]
        exact List.mem_append_right _ List.mem_cons_self
      cases r with
      -- the row is there, whatever becomes of the dashboard's queries
      | ok u =>
        cases hrun
        exact Or.inl ⟨row, hin, hrow⟩
      | error e => exact ih (attempt + 1) (some e) hrun

/-- An event that cannot be read ends in the DLQ. -/
theorem attempts_settle_unreadable (hdlq : env.dlq = none) {e : JsError}
    (hm : metricOf event = .error e) (remaining attempt : Nat) (le : Option JsError) {w w' : World}
    (hrun : alone env (attempts decode maxRetries retryDelayMs message event remaining attempt le) w =
      (.ok (), w')) : ∃ record ∈ w'.dlq, DeadOf decode message record := by
  -- an event that cannot be read fails at every attempt, and changes nothing
  induction remaining generalizing attempt le w with
  | zero =>
    cases le with
    | none => cases hrun
    | some e =>
      have hsent := @alone_sendToDlq env decode message w hdlq e.message maxRetries
      change alone env (sendToDlq decode message e.message maxRetries) w = _ at hrun
      rw [hsent] at hrun
      cases hrun
      exact ⟨_, List.mem_append_right _ List.mem_cons_self, e.message, maxRetries, rfl⟩
  | succ k ih =>
    have hfail : alone env (handleEvent event) w = (.error e, w) := by
      rw [handleEvent_eq, hm]
      rfl
    rw [alone_attempt, hfail] at hrun
    exact ih (attempt + 1) (some e) hrun

/-- A message is settled by these rows and these records: it says an event the service does not know,
    or the row of its event is stored, or a record carries it. -/
inductive Settled (decode : List UInt8 → String) (parse : String → Except JsError JsValue)
    (columns : Columns) (message : Message) (rows : Metrics) (dlq : List DlqRecord) : Prop where
  | unknown (event : JsValue) (hevent : parse (message.raw decode) = .ok event)
      (hunknown : UnknownEvent event)
  | recorded (row : MetricRow) (hrow : row ∈ rows) (hof : RowOf decode parse columns message row)
  | dead (record : DlqRecord) (hrecord : record ∈ dlq) (hof : DeadOf decode message record)

/-- **A call that resolves has settled its message**, if the DLQ takes what it is sent. -/
theorem processMessage_settles (hdlq : env.dlq = none) {w w' : World}
    (hrun : alone env (processMessage decode parse maxRetries retryDelayMs message) w = (.ok (), w')) :
    Settled decode parse env.columns message w'.rows w'.dlq := by
  unfold processMessage at hrun
  cases hevent : parse (message.raw decode) with
  | error e =>
    rw [hevent] at hrun
    have hsent := @alone_sendToDlq env decode message w hdlq ("Malformed JSON: " ++ e.message) 0
    change alone env (sendToDlq decode message ("Malformed JSON: " ++ e.message) 0) w = _ at hrun
    rw [hsent] at hrun
    cases hrun
    exact .dead _ (List.mem_append_right _ List.mem_cons_self) ⟨_, 0, rfl⟩
  | ok event =>
    rw [hevent] at hrun
    -- an event without an id, one of an unknown type, one with a metric
    cases hm : metricOf event with
    | error e =>
      obtain ⟨record, hrecord, hof⟩ := attempts_settle_unreadable hdlq hm maxRetries 1 none hrun
      exact .dead record hrecord hof
    | ok recorded =>
      cases recorded with
      | none => exact .unknown event hevent (unknownEvent_of_metricOf hm)
      | some metric =>
        rcases attempts_settle hdlq hm maxRetries 1 none hrun with
          ⟨row, hrow, hof⟩ | ⟨record, hrecord, hof⟩
        · exact .recorded row hrow ⟨event, metric, hevent, hm, hof⟩
        · exact .dead record hrecord hof

/-- What is settled stays so while rows and DLQ records only come. -/
theorem Settled.mono {columns : Columns} {rows rows' : Metrics} {dlq dlq' : List DlqRecord}
    (h : Settled decode parse columns message rows dlq) (hrows : rows ⊆ rows') (hdlq : dlq ⊆ dlq') :
    Settled decode parse columns message rows' dlq' := by
  cases h with
  | unknown event hevent hunknown => exact .unknown event hevent hunknown
  | recorded row hrow hof => exact .recorded row (hrows hrow) hof
  | dead record hrecord hof => exact .dead record (hdlq hrecord) hof

end Call

/-! ## Whole runs -/

section Runs

variable (decode : List UInt8 → String) (parse : String → Except JsError JsValue)
variable (maxRetries retryDelayMs : Nat) (columns : Columns)

/-- The record at this place has been settled, or was handled while the DLQ took nothing. -/
def Accounted (p i : Nat) (r : Record) (e : Effect) : Prop :=
  Settled decode parse columns (r.message p i) e.rows e.dlq ∨ (p, i) ∈ e.refused

/-- Every row and every record of the DLQ is that of a record of the log. -/
def Sourced (has : Nat → Nat → Record → Prop) (e : Effect) : Prop :=
  (∀ row ∈ e.rows, ∃ p i r, has p i r ∧ RowOf decode parse columns (r.message p i) row) ∧
    ∀ record ∈ e.dlq, ∃ p i r, has p i r ∧ DeadOf decode (r.message p i) record

variable {decode parse maxRetries retryDelayMs columns}

/-- A call, whole or cut off, takes nothing away. -/
theorem consumer_kept {p i : Nat} {r : Record} {e e' : Effect}
    (h : (consumer decode parse maxRetries retryDelayMs columns).handles p i r e e' ∨
      (consumer decode parse maxRetries retryDelayMs columns).interrupted p i r e e') :
    e.rows ⊆ e'.rows ∧ e.dlq ⊆ e'.dlq ∧ e.refused ⊆ e'.refused := by
  rcases h with ⟨env, w', -, hrun, rfl⟩ | ⟨env, n, w', -, hcut, rfl⟩
  · -- the call runs to its end: what one request keeps the whole run keeps
    have hkept : e.world.Kept w' := by
      have hinv := Prog.run_invariant (answer env) (fun op w h => kept_answer op w h)
        (processMessage decode parse maxRetries retryDelayMs (r.message p i)).run (World.Kept.refl e.world)
      have hsnd : w' = ((processMessage decode parse maxRetries retryDelayMs (r.message p i)).run.run
          (answer env) e.world).2 := (congrArg Prod.snd hrun).symm
      rw [hsnd]
      exact hinv
    refine ⟨hkept.rows, hkept.dlq, ?_⟩
    dsimp only
    split
    · exact List.Subset.refl _
    · exact List.subset_append_left _ _
  · have hkept : e.world.Kept w' := by
      rw [← hcut]
      exact processMessage_asks.cut (fun op w _ h => kept_answer op w h) n (World.Kept.refl e.world)
    exact ⟨hkept.rows, hkept.dlq, List.Subset.refl _⟩

/-- A call that resolves has accounted for its record, which later calls leave so. -/
theorem accounts :
    PartitionLog.Accounts (consumer decode parse maxRetries retryDelayMs columns)
      (Accounted decode parse columns) where
  done := by
    rintro p i r e e' ⟨env, w', rfl, hrun, rfl⟩
    -- a DLQ publish that fails is refused, which the account allows
    by_cases hdlq : env.dlq = none
    · exact Or.inl (processMessage_settles hdlq hrun)
    · right
      dsimp only
      rw [if_neg hdlq]
      exact List.mem_append_right _ List.mem_cons_self
  keeps := by
    intro p i r e e' hstep q j x hx
    obtain ⟨hrows, hdlq, hrefused⟩ := consumer_kept hstep
    exact hx.imp (fun h => h.mono hrows hdlq) fun h => hrefused h

/-- What a call adds comes from its own record. -/
theorem traces :
    PartitionLog.Traces (consumer decode parse maxRetries retryDelayMs columns)
      (Sourced decode parse columns) where
  mono := by
    rintro has has' e hmono ⟨hrows, hdlq⟩
    refine ⟨fun row hrow => ?_, fun record hrecord => ?_⟩
    · obtain ⟨p, i, r, hr, hof⟩ := hrows row hrow
      exact ⟨p, i, r, hmono p i r hr, hof⟩
    · obtain ⟨p, i, r, hr, hof⟩ := hdlq record hrecord
      exact ⟨p, i, r, hmono p i r hr, hof⟩
  adds := by
    intro has p i r e e' hr hstep hsourced
    have hP : ∀ row, RowOf decode parse columns (r.message p i) row →
        ∃ p i r, has p i r ∧ RowOf decode parse columns (r.message p i) row :=
      fun row hof => ⟨p, i, r, hr, hof⟩
    have hQ : ∀ record, DeadOf decode (r.message p i) record →
        ∃ p i r, has p i r ∧ DeadOf decode (Record.message r p i) record :=
      fun record hof => ⟨p, i, r, hr, hof⟩
    -- a call to its end, and one that is cut off
    rcases hstep with ⟨env, w', rfl, hrun, rfl⟩ | ⟨env, n, w', rfl, hcut, rfl⟩
    · have hsnd : w' = ((processMessage decode parse maxRetries retryDelayMs (r.message p i)).run.run
          (answer env) e.world).2 := (congrArg Prod.snd hrun).symm
      rw [hsnd]
      exact processMessage_asks.run (fun op w hop h => added_answer hP hQ op w hop h) hsourced
    · rw [← hcut]
      exact processMessage_asks.cut (fun op w hop h => added_answer hP hQ op w hop h) n hsourced

variable {s : PartitionLog.State Record Effect}

/-- **No event is lost behind a committed offset.**  Whatever is appended, wherever processes are
    killed and partitions change hands, however often offsets are lost and whichever queries fail: a
    record below the committed offset of its partition says an event the service does not know, or the
    row of its event is in the metrics, or a record of the DLQ carries it, or it was handled while the
    DLQ took nothing. -/
theorem committed_accounted
    (hrun : PartitionLog.Runs (consumer decode parse maxRetries retryDelayMs columns)
      (.start .none) s) {p i : Nat} {r : Record} (hr : (s.log p)[i]? = some r)
    (hi : i < s.committed p) : Accounted decode parse columns p i r s.effect :=
  PartitionLog.accounted accounts hrun hr hi

/-- **No event is made up.**  In the same runs every row of the metrics is the row of the event of a
    record of the topic, and every record of the DLQ carries one, with its partition and offset. -/
theorem effects_traced
    (hrun : PartitionLog.Runs (consumer decode parse maxRetries retryDelayMs columns)
      (.start .none) s) : Sourced decode parse columns s.Has s.effect := by
  have hstart : Sourced decode parse columns (fun _ _ _ => False) Effect.none :=
    ⟨fun row hrow => (nomatch hrow), fun record hrecord => (nomatch hrecord)⟩
  exact PartitionLog.traced traces hstart hrun

end Runs

/-! ## One order that failed, and a process that is killed -/

/-- The record of that order. -/
def failedRecordOf : Record := ⟨none, some failedText⟩

/-- The process is killed after its `INSERT`, and the record is delivered again. -/
theorem runs_killed :
    ∃ s, PartitionLog.Runs (consumer ascii parseFailed 3 1000 ⟨textColumn, fun _ => none⟩)
        (.start .none) s ∧ (s.log 1)[0]? = some failedRecordOf ∧ 0 < s.committed 1 ∧
      s.effect.rows.length = 2 := by
  refine ⟨?s, ?hrun, ?hlog, ?hcommitted, ?hrows⟩
  case hrun =>
    refine .head (.append _ 1 failedRecordOf) ?_
    -- killed after the INSERT, before the commit
    refine .head (@PartitionLog.Step.interrupt _ _ _ _ failedRecordOf _ 1 rfl
      ⟨restarting (fun _ => none) fun _ => none, 1, _, rfl, rfl, rfl⟩) ?_
    refine .head (.restart _ 1) ?_
    refine .head (@PartitionLog.Step.handle _ _ _ _ failedRecordOf _ 1 rfl
      ⟨restarting (fun _ => none) fun _ => none, _, rfl, rfl, rfl⟩) ?_
    refine .head (.commit 1 1 (Nat.le_refl 1)) ?_
    exact .refl
  case hlog => rfl
  case hcommitted => exact Nat.zero_lt_one
  case hrows => rfl

/-- It is accounted for, twice over. -/
theorem committed_accounted_killed :
    ∃ e : Effect, e.rows.length = 2 ∧
      Accounted ascii parseFailed ⟨textColumn, fun _ => none⟩ 1 0 failedRecordOf e := by
  obtain ⟨s, hrun, hlog, hcommitted, hrows⟩ := runs_killed
  exact ⟨s.effect, hrows, committed_accounted hrun hlog hcommitted⟩

/-- After a kill in the middle of a message there are two rows, both of records of the topic. -/
theorem effects_traced_killed :
    ∃ s : PartitionLog.State Record Effect, s.effect.rows.length = 2 ∧
      Sourced ascii parseFailed ⟨textColumn, fun _ => none⟩ s.Has s.effect := by
  obtain ⟨s, hrun, -, -, hrows⟩ := runs_killed
  exact ⟨s, hrows, effects_traced hrun⟩

end Microservices.Analytics
