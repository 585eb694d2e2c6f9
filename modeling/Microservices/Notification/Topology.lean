/-
  The three queues as the broker has them (infra/rabbitmq/init-topology.sh).

  The script declares a queue for each of the three and ends at the first command that fails.  It is
  run on every start of the stack, on a broker that may have queues from earlier versions and
  messages in them.  How `rabbitmqadmin` and the broker read a delay is any function here.  A delay
  is pasted into the JSON text of the arguments as it is; one with a comma in it, which could bring
  arguments of its own, is not considered (`Delay`).

  `topology_kept`: once the script has come to its end, whatever the broker does afterwards, a later
  run of it does nothing: it ends well for the same delay, and for another one it fails.
-/
import Mathlib.Logic.Relation
import Microservices.Lib.Queues
import Microservices.Notification.Consumer

namespace Microservices.Notification

open Queues

/-! ## The script -/

/-- `MAIN_QUEUE`. -/
def mainQueue : String := "order_notifications"

/-- `DLQ`. -/
def deadLetterQueue : String := "order_notifications_dlq"

/-- A value of `RETRY_DELAY_MS`: in the arguments it is one value, or makes them unreadable. -/
structure Delay where
  text : String
  single : ',' ∉ text.toList

/-- `${RETRY_DELAY_MS:-5000}`. -/
def retryDelayMs (env : Option Delay) : String :=
  match env with
  | none => "5000"
  | some delay => if delay.text = "" then "5000" else delay.text

/-- The arguments of the retry queue. -/
def retryArguments (ttl : Nat) : Arguments := ⟨some ttl, some "", some mainQueue⟩

/-- The arguments of the main queue. -/
def mainArguments : Arguments := ⟨none, some "", some deadLetterQueue⟩

/-- The commands of the script. -/
def declarations (readTtl : String → Option Nat) (env : Option Delay) : List Declaration :=
  [⟨deadLetterQueue, true, some .none⟩,
    ⟨retryQueue, true, (readTtl (retryDelayMs env)).map retryArguments⟩,
    ⟨mainQueue, true, some mainArguments⟩]

variable {M : Type}

/-- `init-topology.sh`: whether it says that the topology is ready. -/
def initTopology (readTtl : String → Option Nat) (env : Option Delay) (b : Broker M) :
    Bool × Broker M :=
  b.declareAll (declarations readTtl env)

/-! ## The topology -/

/-- The three queues are declared as the script does it with the delay `ttl`. -/
structure Topology (ttl : Nat) (b : Broker M) : Prop where
  dlq : b.declared deadLetterQueue = some (true, .none)
  retry : b.declared retryQueue = some (true, retryArguments ttl)
  main : b.declared mainQueue = some (true, mainArguments)

section Topology

variable {readTtl : String → Option Nat} {env : Option Delay} {ttl : Nat} {b b' : Broker M}

/-- The topology is a matter of what is declared. -/
theorem Topology.of_declared (h : Topology ttl b) (hsame : b'.declared = b.declared) :
    Topology ttl b' where
  dlq := hsame ▸ h.dlq
  retry := hsame ▸ h.retry
  main := hsame ▸ h.main

/-- All three commands find their queue. -/
theorem Topology.meets (h : Topology ttl b) (hread : readTtl (retryDelayMs env) = some ttl) :
    ∀ d ∈ declarations readTtl env, b.Meets d := by
  intro d hd
  unfold declarations at hd
  rw [hread] at hd
  simp only [Option.map_some, List.mem_cons, List.not_mem_nil, or_false] at hd
  rcases hd with rfl | rfl | rfl
  · exact ⟨_, rfl, h.dlq⟩
  · exact ⟨_, rfl, h.retry⟩
  · exact ⟨_, rfl, h.main⟩

/-- A script that came to its end has read the delay and made the topology. -/
theorem initTopology_ready (h : (initTopology readTtl env b).1 = true) :
    ∃ ttl, readTtl (retryDelayMs env) = some ttl ∧ Topology ttl (initTopology readTtl env b).2 := by
  have hmeets := Broker.declareAll_meets h
  obtain ⟨dlqArguments, hdlq, hdlq'⟩ := hmeets _ List.mem_cons_self
  obtain ⟨arguments, hretry, hretry'⟩ := hmeets _ (List.mem_cons_of_mem _ List.mem_cons_self)
  obtain ⟨arguments', hmain, hmain'⟩ :=
    hmeets _ (List.mem_cons_of_mem _ (List.mem_cons_of_mem _ List.mem_cons_self))
  obtain ⟨ttl, hread, rfl⟩ := Option.map_eq_some_iff.mp hretry
  cases hdlq
  cases hmain
  exact ⟨ttl, hread, hdlq', hretry', hmain'⟩

/-- With the topology in place the script ends well exactly for the delay that is in place. -/
theorem initTopology_again (h : Topology ttl b) :
    ((initTopology readTtl env b).1 = true ↔ readTtl (retryDelayMs env) = some ttl) ∧
      (initTopology readTtl env b).2 = b := by
  have hdlq : b.declare ⟨deadLetterQueue, true, some .none⟩ = some b :=
    Broker.declare_of_meets ⟨_, rfl, h.dlq⟩
  -- the second command decides
  by_cases hread : readTtl (retryDelayMs env) = some ttl
  · have hagain : initTopology readTtl env b = (true, b) :=
      Broker.declareAll_of_meets (h.meets hread)
    rw [hagain]
    exact ⟨⟨fun _ => hread, fun _ => rfl⟩, rfl⟩
  · have hrefused : b.declare ⟨retryQueue, true,
        (readTtl (retryDelayMs env)).map retryArguments⟩ = none := by
      rw [Option.eq_none_iff_forall_not_mem]
      intro b' hb'
      rcases Broker.declare_isSome_iff.mp ⟨b', hb'⟩ with ⟨_, -, hnone⟩ | ⟨arguments, harg, hmeets⟩
      · have hretry := h.retry
        unfold Broker.declared at hretry
        rw [hnone] at hretry
        cases hretry
      · obtain ⟨ttl', hread', rfl⟩ := Option.map_eq_some_iff.mp harg
        rw [h.retry] at hmeets
        cases hmeets
        exact hread hread'
    have hstop : initTopology readTtl env b = (false, b) := by
      unfold initTopology declarations Broker.declareAll
      rw [hdlq]
      unfold Broker.declareAll
      simp only [hrefused]
    rw [hstop]
    exact ⟨⟨fun hfalse => absurd hfalse Bool.false_ne_true, fun hsome => absurd hsome hread⟩, rfl⟩

end Topology

/-! ## A broker at work -/

/-- What changes the queues: messages come, are taken out and put back, expire and are rejected; and
    the script is run once more, with any environment. -/
inductive Works (rules : Rules M) (readTtl : String → Option Nat) : Broker M → Broker M → Prop where
  | publish (now : Nat) (exchange key : String) (m : M) (b : Broker M) :
      Works rules readTtl b (b.publish rules now exchange key m)
  | modify (name : String) (f : List (Stored M) → List (Stored M)) (b : Broker M) :
      Works rules readTtl b (b.modify name f)
  | expire {b b' : Broker M} (now : Nat) (name : String) (h : b.expire rules now name = some b') :
      Works rules readTtl b b'
  | deadLetter (now : Nat) (name : String) (reason : Reason) (m : M) (b : Broker M) :
      Works rules readTtl b (b.deadLetter rules now name reason m)
  | initTopology (env : Option Delay) (b : Broker M) :
      Works rules readTtl b (initTopology readTtl env b).2

section Works

variable {rules : Rules M} {readTtl : String → Option Nat} {ttl : Nat} {b b' : Broker M}

/-- Whatever works on the broker leaves it. -/
theorem Topology.works (h : Topology ttl b) (hstep : Works rules readTtl b b') :
    Topology ttl b' := by
  cases hstep with
  | publish now exchange key m => exact h.of_declared Broker.declared_publish
  | modify name f => exact h.of_declared Broker.declared_modify
  | expire now name hexpire =>
    obtain ⟨_, _, _, _, _, -, -, -, -, rfl⟩ := Broker.expire_spec hexpire
    exact h.of_declared (by rw [Broker.declared_deadLetter, Broker.declared_modify])
  | deadLetter now name reason m => exact h.of_declared Broker.declared_deadLetter
  | initTopology env =>
    rw [(initTopology_again h).2]
    exact h

/-- **Declared once and for all.**  The script takes no queue and no message away, wherever it ends.
    Once it has come to its end the topology stays as it is, whatever the broker does: a later run
    ends well exactly for the delay of the first, and changes nothing in any case. -/
theorem topology_kept (readTtl : String → Option Nat) (rules : Rules M) (env : Option Delay)
    (b : Broker M) :
    b.Kept (initTopology readTtl env b).2 ∧
    ((initTopology readTtl env b).1 = true →
      ∃ ttl, readTtl (retryDelayMs env) = some ttl ∧
        ∀ b', Relation.ReflTransGen (Works rules readTtl) (initTopology readTtl env b).2 b' →
          Topology ttl b' ∧
          ∀ env', (initTopology readTtl env' b').2 = b' ∧
            ((initTopology readTtl env' b').1 = true ↔
              readTtl (retryDelayMs env') = readTtl (retryDelayMs env))) := by
  refine ⟨Broker.declareAll_kept, fun hready => ?_⟩
  obtain ⟨ttl, hread, htopology⟩ := initTopology_ready hready
  refine ⟨ttl, hread, fun b' hrun => ?_⟩
  -- along the run, by what each operation does to the declarations
  have hkept : Topology ttl b' := by
    induction hrun with
    | refl => exact htopology
    | tail _ hstep ih => exact ih.works hstep
  refine ⟨hkept, fun env' => ⟨(initTopology_again hkept).2, ?_⟩⟩
  rw [hread]
  exact (initTopology_again hkept).1

/-- **When the script ends well**: the delay can be read, and each of the three queues is new or is
    declared as the script declares it.  A queue with other arguments stops it. -/
theorem initTopology_iff (readTtl : String → Option Nat) (env : Option Delay) (b : Broker M) :
    (initTopology readTtl env b).1 = true ↔
      ∃ ttl, readTtl (retryDelayMs env) = some ttl ∧
        (b deadLetterQueue = none ∨ b.declared deadLetterQueue = some (true, .none)) ∧
        (b retryQueue = none ∨ b.declared retryQueue = some (true, retryArguments ttl)) ∧
        (b mainQueue = none ∨ b.declared mainQueue = some (true, mainArguments)) := by
  have hnodup : ((declarations readTtl env).map Declaration.name).Nodup := by
    show [deadLetterQueue, retryQueue, mainQueue].Nodup
    decide
  -- a declaration is admitted where the queue is new, or declared alike
  have hadmits : ∀ (name : String) (arguments : Arguments),
      b.Admits ⟨name, true, some arguments⟩ ↔
        b name = none ∨ b.declared name = some (true, arguments) := by
    intro name arguments
    constructor
    · rintro (⟨_, -, hnone⟩ | ⟨_, hread, hdeclared⟩)
      · exact Or.inl hnone
      · cases hread
        exact Or.inr hdeclared
    · rintro (hnone | hdeclared)
      · exact Or.inl ⟨_, rfl, hnone⟩
      · exact Or.inr ⟨_, rfl, hdeclared⟩
  have hunread : ∀ name : String, ¬ b.Admits ⟨name, true, none⟩ := by
    rintro name (⟨_, hread, -⟩ | ⟨_, hread, -⟩)
    · cases hread
    · cases hread
  unfold initTopology
  rw [Broker.declareAll_iff hnodup]
  unfold declarations
  rw [List.forall_mem_cons, List.forall_mem_cons, List.forall_mem_singleton, hadmits, hadmits]
  cases readTtl (retryDelayMs env) with
  | none =>
    constructor
    · rintro ⟨-, hretry, -⟩
      exact absurd hretry (hunread _)
    · rintro ⟨_, hread, -⟩
      cases hread
  | some ttl =>
    show _ ∧ b.Admits ⟨retryQueue, true, some (retryArguments ttl)⟩ ∧ _ ↔ _
    rw [hadmits]
    constructor
    · exact fun h => ⟨ttl, rfl, h⟩
    · rintro ⟨_, hread, h⟩
      cases hread
      exact h

end Works

end Microservices.Notification
