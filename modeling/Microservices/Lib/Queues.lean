/-
  QUEUES WITH ARGUMENTS: the part of a broker that is set up by declarations.

  A queue is declared with arguments: how long its messages may stay, and where those go that may
  not stay or are rejected.  To declare it once more is allowed with the same arguments only.  A
  message is dead-lettered through an exchange, and the default exchange routes to the queue that
  has the routing key for its name; what no queue takes is dropped.

  A broker looks at the head of a queue only, to see whether a message has to go.  In a queue where
  all messages may stay as long as each other, that is enough: `expireAll_spec`.
-/
import Mathlib.Data.List.Basic
import Mathlib.Logic.Function.Basic

namespace Microservices.Queues

/-! ## Queues -/

/-- The optional arguments of a queue. -/
structure Arguments where
  messageTtl : Option Nat
  deadLetterExchange : Option String
  deadLetterRoutingKey : Option String
  deriving DecidableEq, Repr

/-- A declaration with no arguments. -/
def Arguments.none : Arguments := ⟨Option.none, Option.none, Option.none⟩

/-- Why a message is dead-lettered. -/
inductive Reason : Type where
  | expired
  | rejected
  deriving DecidableEq, Repr

variable {M : Type}

/-- A message in a queue, and since when it is there. -/
structure Stored (M : Type) where
  message : M
  since : Nat

/-- A queue as it was declared, with what it holds. -/
structure Queue (M : Type) where
  durable : Bool
  arguments : Arguments
  stored : List (Stored M)

/-- The queues that are declared, by name. -/
abbrev Broker (M : Type) : Type := String → Option (Queue M)

/-- What a broker does with messages apart from storing them: the bindings of its named exchanges,
    the routing key of a message, and what it writes into one that it dead-letters. -/
structure Rules (M : Type) where
  bindings : String → String → List String
  routingKey : M → String
  marked : String → Reason → M → M

/-- A command that declares a queue; `none` for arguments it cannot read. -/
structure Declaration where
  name : String
  durable : Bool
  arguments : Option Arguments

namespace Broker

/-! ## Operations -/

/-- Change the messages of a queue. -/
def modify (name : String) (f : List (Stored M) → List (Stored M)) (b : Broker M) : Broker M :=
  Function.update b name ((b name).map fun q => { q with stored := f q.stored })

/-- What is stored in a queue; nothing in one that is not declared. -/
def stored (b : Broker M) (name : String) : List (Stored M) :=
  match b name with
  | some q => q.stored
  | none => []

/-- The messages of a queue, without the times at which they came. -/
def messages (b : Broker M) (name : String) : List M := (b.stored name).map Stored.message

/-- How a queue is declared. -/
def declared (b : Broker M) (name : String) : Option (Bool × Arguments) :=
  (b name).map fun q => (q.durable, q.arguments)

/-- A message for a queue; dropped if there is none of that name. -/
def push (now : Nat) (name : String) (m : M) (b : Broker M) : Broker M :=
  b.modify name fun stored => stored ++ [⟨m, now⟩]

section Rules

variable (rules : Rules M) (now : Nat)

/-- The queues an exchange routes to; the default exchange has no name. -/
def route (exchange key : String) : List String :=
  if exchange = "" then [key] else rules.bindings exchange key

/-- `basic.publish`: the exchange finds the queue, or drops the message. -/
def publish (exchange key : String) (m : M) (b : Broker M) : Broker M :=
  (route rules exchange key).foldl (fun b name => b.push now name m) b

/-- A message that leaves the queue `name` for this reason; dropped if the queue has no dead-letter
    exchange. -/
def deadLetter (name : String) (reason : Reason) (m : M) (b : Broker M) : Broker M :=
  match b.declared name with
  | none => b
  | some (_, arguments) =>
    match arguments.deadLetterExchange with
    | none => b
    | some exchange =>
      b.publish rules now exchange (arguments.deadLetterRoutingKey.getD (rules.routingKey m))
        (rules.marked name reason m)

/-- A message has been in its queue for `ttl`. -/
def Due (ttl : Nat) (x : Stored M) : Prop := x.since + ttl ≤ now

/-- Whether a message has expired can be computed. -/
instance (ttl : Nat) (x : Stored M) : Decidable (Due now ttl x) := inferInstanceAs (Decidable (_ ≤ _))

/-- The head of a queue expires; `none` if it is not due, or never is. -/
def expire (name : String) (b : Broker M) : Option (Broker M) :=
  match b.declared name, b.stored name with
  | some (_, ⟨some ttl, _, _⟩), x :: rest =>
    if Due now ttl x then
      some ((b.modify name fun _ => rest).deadLetter rules now name .expired x.message)
    else none
  | _, _ => none

/-- Heads expire, at most `fuel` of them. -/
def expireAll (name : String) : Nat → Broker M → Broker M
  | 0, b => b
  | fuel + 1, b =>
    match b.expire rules now name with
    | some b' => expireAll name fuel b'
    | none => b

end Rules

/-! ## What an operation leaves alone -/

section Frame

variable {b : Broker M} {name : String} {f : List (Stored M) → List (Stored M)}

/-- The queue that is changed. -/
@[simp] theorem modify_self : b.modify name f name =
    (b name).map fun q => { q with stored := f q.stored } := Function.update_self _ _ _

/-- Every other queue is as it was. -/
@[simp] theorem modify_of_ne {x : String} (h : x ≠ name) : b.modify name f x = b x :=
  Function.update_of_ne h _ _

/-- A change of what is stored declares nothing. -/
@[simp] theorem declared_modify : (b.modify name f).declared = b.declared := by
  funext x
  unfold declared
  by_cases h : x = name
  · subst h
    rw [modify_self, Option.map_map]
    rfl
  · rw [modify_of_ne h]

/-- Every other queue stores what it stored. -/
theorem stored_modify_of_ne {x : String} (h : x ≠ name) :
    (b.modify name f).stored x = b.stored x := by
  unfold stored
  rw [modify_of_ne h]

/-- A declared queue stores what the change makes of it. -/
theorem stored_modify {d : Bool × Arguments} (h : b.declared name = some d) :
    (b.modify name f).stored name = f (b.stored name) := by
  unfold declared at h
  unfold stored
  rw [modify_self]
  cases hq : b name with
  | none =>
    rw [hq] at h
    cases h
  | some q => rfl

variable {rules : Rules M} {now : Nat} {m : M} {reason : Reason} {exchange key : String}

/-- A message that comes declares nothing. -/
@[simp] theorem declared_push : (b.push now name m).declared = b.declared := declared_modify

/-- A publish declares nothing. -/
@[simp] theorem declared_publish :
    (b.publish rules now exchange key m).declared = b.declared := by
  unfold publish
  generalize route rules exchange key = names
  induction names generalizing b with
  | nil => rfl
  | cons x names ih =>
    rw [List.foldl_cons, ih, declared_push]

/-- Neither does a dead-lettered message. -/
@[simp] theorem declared_deadLetter :
    (b.deadLetter rules now name reason m).declared = b.declared := by
  unfold deadLetter
  split
  · rfl
  · split
    · rfl
    · exact declared_publish

/-- What a message does that expires. -/
theorem expire_spec {b' : Broker M} (h : b.expire rules now name = some b') :
    ∃ durable arguments ttl x rest, b.declared name = some (durable, arguments) ∧
      arguments.messageTtl = some ttl ∧ b.stored name = x :: rest ∧ Due now ttl x ∧
      b' = (b.modify name fun _ => rest).deadLetter rules now name .expired x.message := by
  unfold expire at h
  split at h
  · rename_i durable ttl exchange key x rest hdeclared hstored
    split at h
    · rename_i hdue
      exact ⟨durable, _, ttl, x, rest, hdeclared, rfl, hstored, hdue, (Option.some.inj h).symm⟩
    · cases h
  · cases h

/-- And that it does, if it is due. -/
theorem expire_due {durable : Bool} {arguments : Arguments} {ttl : Nat} {x : Stored M}
    {rest : List (Stored M)} (hdeclared : b.declared name = some (durable, arguments))
    (httl : arguments.messageTtl = some ttl) (hstored : b.stored name = x :: rest)
    (hdue : Due now ttl x) :
    b.expire rules now name =
      some ((b.modify name fun _ => rest).deadLetter rules now name .expired x.message) := by
  obtain ⟨_, _, _⟩ := arguments
  cases httl
  unfold expire
  rw [hdeclared, hstored]
  exact if_pos hdue

/-- While the head of a queue is not due, nothing expires. -/
theorem expire_none {durable : Bool} {arguments : Arguments} {ttl : Nat}
    (hdeclared : b.declared name = some (durable, arguments))
    (httl : arguments.messageTtl = some ttl)
    (hhead : ∀ x ∈ (b.stored name).head?, ¬ Due now ttl x) : b.expire rules now name = none := by
  cases h : b.expire rules now name with
  | none => rfl
  | some b' =>
    obtain ⟨_, _, _, x, rest, hdeclared', httl', hstored, hdue, -⟩ := expire_spec h
    rw [hdeclared] at hdeclared'
    cases hdeclared'
    rw [httl] at httl'
    cases httl'
    rw [hstored] at hhead
    exact absurd hdue (hhead x rfl)

/-- Through the default exchange, to the queue that the declaration names. -/
theorem deadLetter_default {durable : Bool} {arguments : Arguments} {target : String}
    (hdeclared : b.declared name = some (durable, arguments))
    (hexchange : arguments.deadLetterExchange = some "")
    (hkey : arguments.deadLetterRoutingKey = some target) :
    b.deadLetter rules now name reason m = b.push now target (rules.marked name reason m) := by
  unfold deadLetter
  rw [hdeclared]
  show (match arguments.deadLetterExchange with
    | none => b
    | some exchange => b.publish rules now exchange
        (arguments.deadLetterRoutingKey.getD (rules.routingKey m))
        (rules.marked name reason m)) = _
  -- the default exchange routes by the queue's name
  rw [hexchange, hkey]
  rfl

/-- A message comes to the end of its queue. -/
theorem stored_push {d : Bool × Arguments} (h : b.declared name = some d) :
    (b.push now name m).stored name = b.stored name ++ [⟨m, now⟩] := stored_modify h

/-- It comes to no other queue. -/
theorem stored_push_of_ne {x : String} (h : x ≠ name) :
    (b.push now name m).stored x = b.stored x := stored_modify_of_ne h

/-- Messages have come to a queue: they stand at its end, and came now. -/
def Arrives (now : Nat) (l l' : List (Stored M)) : Prop :=
  ∃ added, l' = l ++ added ∧ ∀ x ∈ added, x.since = now

/-- Nothing has come. -/
theorem Arrives.refl (now : Nat) (l : List (Stored M)) : Arrives now l l :=
  ⟨[], (List.append_nil l).symm, fun _ h => nomatch h⟩

/-- What comes later comes behind what came before. -/
theorem Arrives.trans {l l' l'' : List (Stored M)} (h : Arrives now l l') (h' : Arrives now l' l'') :
    Arrives now l l'' := by
  obtain ⟨added, rfl, hadded⟩ := h
  obtain ⟨added', rfl, hadded'⟩ := h'
  refine ⟨added ++ added', List.append_assoc _ _ _, fun x hx => ?_⟩
  exact (List.mem_append.mp hx).elim (hadded x) (hadded' x)

/-- A message comes to the queue it is for, if that is declared, and to no other. -/
theorem arrives_push (x : String) : Arrives now (b.stored x) ((b.push now name m).stored x) := by
  by_cases h : x = name
  · subst h
    cases hq : b x with
    | none =>
      -- a queue that does not exist takes nothing
      have hdropped : (b.push now x m).stored x = b.stored x := by
        unfold push stored
        rw [modify_self, hq]
        rfl
      rw [hdropped]
      exact .refl now _
    | some q =>
      have hdeclared : b.declared x = some (q.durable, q.arguments) := congrArg (Option.map _) hq
      refine ⟨[⟨m, now⟩], stored_push hdeclared, fun y hy => ?_⟩
      rw [List.mem_singleton.mp hy]
  · rw [stored_push_of_ne h]
    exact .refl now _

/-- A publish brings a message to the end of a queue, or to none. -/
theorem arrives_publish (x : String) :
    Arrives now (b.stored x) ((b.publish rules now exchange key m).stored x) := by
  unfold publish
  generalize route rules exchange key = names
  induction names generalizing b with
  | nil => exact .refl now _
  | cons y names ih => exact (arrives_push x).trans ih

/-- So does a message that is dead-lettered. -/
theorem arrives_deadLetter (x : String) :
    Arrives now (b.stored x) ((b.deadLetter rules now name reason m).stored x) := by
  unfold deadLetter
  split
  · exact .refl now _
  · split
    · exact .refl now _
    · exact arrives_publish x

/-- **What an expiry does to a queue**: to its own, that its head goes, which was due; and apart from
    that messages may come. -/
theorem expire_arrives {b' : Broker M} (h : b.expire rules now name = some b') (x : String) :
    Arrives now (b.stored x) (b'.stored x) ∨
      ∃ durable arguments ttl head rest, name = x ∧ b.declared x = some (durable, arguments) ∧
        arguments.messageTtl = some ttl ∧ b.stored x = head :: rest ∧ Due now ttl head ∧
        Arrives now rest (b'.stored x) := by
  obtain ⟨durable, arguments, ttl, head, rest, hdeclared, httl, hstored, hdue, rfl⟩ := expire_spec h
  -- the head is taken out first, then published to where it goes
  have hcome := @arrives_deadLetter _ (b.modify name fun _ => rest) name rules now head.message
    .expired x
  by_cases hx : x = name
  · subst hx
    rw [stored_modify hdeclared] at hcome
    exact Or.inr ⟨durable, arguments, ttl, head, rest, rfl, hdeclared, httl, hstored, hdue, hcome⟩
  · rw [stored_modify_of_ne hx] at hcome
    exact Or.inl hcome

/-- The message is the last of its queue. -/
theorem messages_push {d : Bool × Arguments} (h : b.declared name = some d) :
    (b.push now name m).messages name = b.messages name ++ [m] := by
  unfold messages
  rw [stored_push h, List.map_append]
  rfl

/-- The other queues hold the same messages. -/
theorem messages_push_of_ne {x : String} (h : x ≠ name) :
    (b.push now name m).messages x = b.messages x := by
  unfold messages
  rw [stored_push_of_ne h]

/-- The other queues hold the same messages after any change of one. -/
theorem messages_modify_of_ne {x : String} (h : x ≠ name) :
    (b.modify name f).messages x = b.messages x := by
  unfold messages
  rw [stored_modify_of_ne h]

end Frame

/-! ## Declarations -/

/-- One declaration: `none` if the command fails, for a queue that exists with other arguments
    (406 PRECONDITION_FAILED) among others. -/
def declare (d : Declaration) (b : Broker M) : Option (Broker M) :=
  match d.arguments, b d.name with
  | none, _ => none
  | some arguments, none => some (Function.update b d.name (some ⟨d.durable, arguments, []⟩))
  | some arguments, some q =>
    if q.durable = d.durable ∧ q.arguments = arguments then some b else none

/-- A script of declarations that ends at the first that fails: whether it came to its end. -/
def declareAll : List Declaration → Broker M → Bool × Broker M
  | [], b => (true, b)
  | d :: ds, b =>
    match b.declare d with
    | none => (false, b)
    | some b' => declareAll ds b'

/-- The queue is declared as the command says. -/
def Meets (b : Broker M) (d : Declaration) : Prop :=
  ∃ arguments, d.arguments = some arguments ∧ b.declared d.name = some (d.durable, arguments)

/-- The command can be carried out. -/
def Admits (b : Broker M) (d : Declaration) : Prop :=
  (∃ arguments, d.arguments = some arguments ∧ b d.name = none) ∨ b.Meets d

/-- All that there was is still there. -/
def Kept (b b' : Broker M) : Prop := ∀ name q, b name = some q → b' name = some q

section Declare

variable {b b' : Broker M} {d : Declaration} {ds : List Declaration}

/-- A broker keeps what it has. -/
theorem Kept.refl (b : Broker M) : b.Kept b := fun _ _ h => h

/-- What is kept twice is kept. -/
theorem Kept.trans {b'' : Broker M} (h : b.Kept b') (h' : b'.Kept b'') : b.Kept b'' :=
  fun name q hq => h' name q (h name q hq)

/-- A declaration that is met is met by whatever keeps the queues. -/
theorem Kept.meets (h : b.Kept b') (hd : b.Meets d) : b'.Meets d := by
  obtain ⟨arguments, hread, hdeclared⟩ := hd
  refine ⟨arguments, hread, ?_⟩
  unfold declared at hdeclared ⊢
  obtain ⟨q, hq, hq'⟩ := Option.map_eq_some_iff.mp hdeclared
  rw [h d.name q hq]
  exact congrArg some hq'

/-- A new queue is empty: no declaration touches a message. -/
theorem stored_declare (h : b.declare d = some b') : b'.stored = b.stored := by
  unfold declare at h
  split at h
  · cases h
  · rename_i arguments _ hnone
    cases h
    funext x
    unfold stored
    -- a queue just declared is empty, as it was while there was none
    by_cases hx : x = d.name
    · subst hx
      rw [Function.update_self, hnone]
    · rw [Function.update_of_ne hx]
  · split at h
    · cases h
      rfl
    · cases h

/-- Declarations move no message. -/
theorem stored_declareAll : (b.declareAll ds).2.stored = b.stored := by
  induction ds generalizing b with
  | nil => rfl
  | cons d ds ih =>
    unfold declareAll
    split
    · rfl
    · rename_i b' h
      rw [ih, stored_declare h]

/-- A queue that is declared so is not touched. -/
theorem declare_of_meets (h : b.Meets d) : b.declare d = some b := by
  obtain ⟨arguments, hread, hdeclared⟩ := h
  unfold declared at hdeclared
  obtain ⟨q, hq, hq'⟩ := Option.map_eq_some_iff.mp hdeclared
  obtain ⟨hdurable, harguments⟩ := Prod.mk.inj hq'
  unfold declare
  rw [hread, hq]
  exact if_pos ⟨hdurable, harguments⟩

/-- A declaration makes a queue or finds it; it touches no other and no message. -/
theorem declare_spec (h : b.declare d = some b') :
    b'.Meets d ∧ b.Kept b' ∧ ∀ x, x ≠ d.name → b' x = b x := by
  unfold declare at h
  split at h
  · cases h
  · rename_i arguments hread hnone
    cases h
    -- it is new: the other queues are as they were
    refine ⟨⟨arguments, hread, ?_⟩, fun name q hq => ?_, fun x hx => Function.update_of_ne hx _ _⟩
    · unfold declared
      rw [Function.update_self]
      rfl
    · have hname : name ≠ d.name := by
        rintro rfl
        rw [hnone] at hq
        cases hq
      rw [Function.update_of_ne hname]
      exact hq
  · rename_i arguments q hread hq
    split at h
    · rename_i hsame
      cases h
      refine ⟨⟨arguments, hread, ?_⟩, Kept.refl b, fun x _ => rfl⟩
      unfold declared
      rw [hq, ← hsame.1, ← hsame.2]
      rfl
    · cases h

/-- A declaration goes through exactly if the queue is new or declared with the same arguments. -/
theorem declare_isSome_iff : (∃ b', b.declare d = some b') ↔ b.Admits d := by
  constructor
  · rintro ⟨b', h⟩
    cases hq : b d.name with
    | none =>
      obtain ⟨⟨arguments, hread, -⟩, -⟩ := declare_spec h
      exact Or.inl ⟨arguments, hread, hq⟩
    | some q =>
      -- it is the queue that was there
      obtain ⟨⟨arguments, hread, hdeclared⟩, hkept, -⟩ := declare_spec h
      refine Or.inr ⟨arguments, hread, ?_⟩
      unfold declared at hdeclared ⊢
      rw [hkept d.name q hq] at hdeclared
      rw [hq]
      exact hdeclared
  · rintro (⟨arguments, hread, hnone⟩ | hmeets)
    · unfold declare
      rw [hread, hnone]
      exact ⟨_, rfl⟩
    · exact ⟨b, declare_of_meets hmeets⟩

/-- A script takes nothing away, wherever it ends. -/
theorem declareAll_kept : b.Kept (b.declareAll ds).2 := by
  induction ds generalizing b with
  | nil => exact Kept.refl b
  | cons d ds ih =>
    unfold declareAll
    split
    · exact Kept.refl b
    · rename_i b' h
      exact (declare_spec h).2.1.trans ih

/-- A script that comes to its end leaves every queue declared as it says. -/
theorem declareAll_meets (h : (b.declareAll ds).1 = true) :
    ∀ d ∈ ds, (b.declareAll ds).2.Meets d := by
  induction ds generalizing b with
  | nil => exact fun d hd => nomatch hd
  | cons d ds ih =>
    unfold declareAll at h ⊢
    cases hdeclare : b.declare d with
    | none =>
      rw [hdeclare] at h
      cases h
    | some b' =>
      rw [hdeclare] at h
      intro x hx
      -- a later declaration keeps what an earlier one has made
      rcases List.mem_cons.mp hx with rfl | hx
      · exact declareAll_kept.meets (declare_spec hdeclare).1
      · exact ih h x hx

/-- A script that is run where all is declared changes nothing. -/
theorem declareAll_of_meets (h : ∀ d ∈ ds, b.Meets d) : b.declareAll ds = (true, b) := by
  induction ds with
  | nil => rfl
  | cons d ds ih =>
    unfold declareAll
    rw [declare_of_meets (h d List.mem_cons_self)]
    exact ih fun x hx => h x (List.mem_cons_of_mem d hx)

/-- It comes to its end exactly if it could carry out each command at its start. -/
theorem declareAll_iff (hnodup : (ds.map Declaration.name).Nodup) :
    (b.declareAll ds).1 = true ↔ ∀ d ∈ ds, b.Admits d := by
  induction ds generalizing b with
  | nil => exact ⟨fun _ d hd => (nomatch hd), fun _ => rfl⟩
  | cons d ds ih =>
    rw [List.map_cons, List.nodup_cons] at hnodup
    obtain ⟨hfresh, hnodup⟩ := hnodup
    -- what the first command does the others do not see
    have hothers : ∀ b', b.declare d = some b' →
        ((∀ x ∈ ds, b'.Admits x) ↔ ∀ x ∈ ds, b.Admits x) := by
      intro b' h
      have hsame : ∀ x ∈ ds, b'.Admits x ↔ b.Admits x := by
        intro x hx
        have hname : x.name ≠ d.name := by
          intro heq
          exact hfresh (heq ▸ List.mem_map_of_mem hx)
        unfold Admits Meets declared
        rw [(declare_spec h).2.2 x.name hname]
      exact forall₂_congr hsame
    unfold declareAll
    cases h : b.declare d with
    | none =>
      refine ⟨fun hfalse => (nomatch hfalse), fun hall => ?_⟩
      obtain ⟨b', hb'⟩ := declare_isSome_iff.mpr (hall d List.mem_cons_self)
      rw [h] at hb'
      cases hb'
    | some b' =>
      show (b'.declareAll ds).1 = true ↔ _
      rw [ih hnodup, hothers b' h, List.forall_mem_cons]
      exact (and_iff_right (declare_isSome_iff.mp ⟨b', h⟩)).symm

end Declare

/-! ## Heads only -/

section Heads

/-- The messages stand in the order in which they came, none of them later than now. -/
structure InOrder (now : Nat) (l : List (Stored M)) : Prop where
  sorted : l.Pairwise fun x y => x.since ≤ y.since
  past : ∀ x ∈ l, x.since ≤ now

variable {now ttl : Nat} {l : List (Stored M)}

/-- An empty queue is in order. -/
theorem InOrder.nil : InOrder now ([] : List (Stored M)) := ⟨List.Pairwise.nil, fun _ h => nomatch h⟩

/-- So is a part of one that is. -/
theorem InOrder.sublist {l' : List (Stored M)} (h : InOrder now l) (hsub : l'.Sublist l) :
    InOrder now l' :=
  ⟨h.sorted.sublist hsub, fun x hx => h.past x (hsub.subset hx)⟩

/-- A queue stays in order as time goes by. -/
theorem InOrder.later {now' : Nat} (h : InOrder now l) (hle : now ≤ now') : InOrder now' l :=
  ⟨h.sorted, fun x hx => Nat.le_trans (h.past x hx) hle⟩

/-- What comes now comes last. -/
theorem InOrder.arrives {l' : List (Stored M)} (h : InOrder now l) (hcome : Arrives now l l') :
    InOrder now l' := by
  obtain ⟨added, rfl, hadded⟩ := hcome
  constructor
  · refine List.pairwise_append.mpr ⟨h.sorted, List.pairwise_of_forall_mem_list ?_, ?_⟩
    · intro x hx y hy
      exact Nat.le_of_eq ((hadded x hx).trans (hadded y hy).symm)
    · intro x hx y hy
      rw [hadded y hy]
      exact h.past x hx
  · intro x hx
    rcases List.mem_append.mp hx with hx | hx
    · exact h.past x hx
    · exact Nat.le_of_eq (hadded x hx)

/-- Behind a head that is not due nothing is. -/
theorem InOrder.not_due {x : Stored M} {rest : List (Stored M)} (h : InOrder now (x :: rest))
    (hx : ¬ Due now ttl x) : ∀ y ∈ x :: rest, ¬ Due now ttl y := by
  intro y hy
  rcases List.mem_cons.mp hy with rfl | hy
  · exact hx
  · have hle : x.since ≤ y.since := List.rel_of_pairwise_cons h.sorted hy
    unfold Due at hx ⊢
    omega

variable {rules : Rules M} {name target : String} {durable : Bool} {arguments : Arguments}

/-- **One expiry**: a head whose time is over goes to the queue it expires to, behind what is there. -/
theorem expire_head {b : Broker M} {dt : Bool × Arguments} {x : Stored M} {rest : List (Stored M)}
    (hdeclared : b.declared name = some (durable, arguments))
    (httl : arguments.messageTtl = some ttl) (hexchange : arguments.deadLetterExchange = some "")
    (hkey : arguments.deadLetterRoutingKey = some target) (htarget : b.declared target = some dt)
    (hne : target ≠ name) (hstored : b.stored name = x :: rest) (hdue : Due now ttl x) :
    ∃ b', b.expire rules now name = some b' ∧ b'.declared = b.declared ∧ b'.stored name = rest ∧
      b'.stored target = b.stored target ++ [⟨rules.marked name .expired x.message, now⟩] := by
  have hrest : (b.modify name fun _ => rest).declared name = some (durable, arguments) := by
    rw [declared_modify]
    exact hdeclared
  have hd : (b.modify name fun _ => rest).declared target = some dt := by
    rw [declared_modify]
    exact htarget
  refine ⟨(b.modify name fun _ => rest).push now target (rules.marked name .expired x.message),
    ?_, ?_, ?_, ?_⟩
  · rw [expire_due hdeclared httl hstored hdue, deadLetter_default hrest hexchange hkey]
  · rw [declared_push, declared_modify]
  · rw [stored_push_of_ne hne.symm, stored_modify hdeclared]
  · rw [stored_push hd, stored_modify_of_ne hne]

/-- Where nothing expires the heads stay, however often they are looked at. -/
theorem expireAll_none {b : Broker M} (h : b.expire rules now name = none) (fuel : Nat) :
    b.expireAll rules now name fuel = b := by
  cases fuel with
  | zero => rfl
  | succ fuel =>
    unfold expireAll
    rw [h]

/-- **Heads are enough.**  In a queue whose messages may all stay for `ttl`, a broker that looks at
    the head only, again and again, moves every message whose time is over to the queue they
    expire to, in the order in which they came, and no other. -/
theorem expireAll_spec {b : Broker M} {dt : Bool × Arguments}
    (hdeclared : b.declared name = some (durable, arguments))
    (httl : arguments.messageTtl = some ttl) (hexchange : arguments.deadLetterExchange = some "")
    (hkey : arguments.deadLetterRoutingKey = some target) (htarget : b.declared target = some dt)
    (hne : target ≠ name) (hinOrder : InOrder now (b.stored name)) {fuel : Nat}
    (hfuel : (b.stored name).length ≤ fuel) :
    (b.expireAll rules now name fuel).stored name =
        (b.stored name).filter (fun x => !decide (Due now ttl x)) ∧
      (b.expireAll rules now name fuel).stored target = b.stored target ++
        ((b.stored name).filter fun x => decide (Due now ttl x)).map fun x =>
          ⟨rules.marked name .expired x.message, now⟩ := by
  generalize hl : b.stored name = l at hinOrder hfuel
  induction l generalizing b fuel with
  | nil =>
    have hnone : b.expire rules now name = none := by
      refine expire_none hdeclared httl fun x hx => ?_
      rw [hl] at hx
      cases hx
    rw [expireAll_none hnone, hl]
    exact ⟨rfl, (List.append_nil _).symm⟩
  | cons x rest ih =>
    obtain ⟨fuel, rfl⟩ := Nat.exists_eq_add_of_le' (Nat.le_trans (Nat.le_add_left 1 _) hfuel)
    by_cases hdue : Due now ttl x
    · -- the head goes, and the rest is a shorter queue
      obtain ⟨b', hexpire, hdeclared', hname, htarget'⟩ :=
        @expire_head _ _ _ rules _ _ _ _ _ _ _ _ hdeclared httl hexchange hkey htarget hne hl hdue
      unfold expireAll
      rw [hexpire]
      obtain ⟨hleft, hmoved⟩ := ih (hdeclared' ▸ hdeclared) (hdeclared' ▸ htarget) hname
        (hinOrder.sublist (List.sublist_cons_self x rest)) (Nat.le_of_succ_le_succ hfuel)
      constructor
      · show (b'.expireAll rules now name fuel).stored name = _
        rw [hleft, List.filter_cons_of_neg (by simpa using hdue)]
      · show (b'.expireAll rules now name fuel).stored target = _
        rw [hmoved, htarget', List.filter_cons_of_pos (by simpa using hdue), List.map_cons,
          List.append_assoc]
        rfl
    · -- the head stays, and with it all that came later
      have hnone : b.expire rules now name = none := by
        refine expire_none hdeclared httl fun y hy => ?_
        rw [hl] at hy
        cases hy
        exact hdue
      have hall := hinOrder.not_due hdue
      have hkept : (x :: rest).filter (fun y => !decide (Due now ttl y)) = x :: rest :=
        List.filter_eq_self.mpr fun y hy => by simpa using hall y hy
      have hgone : (x :: rest).filter (fun y => decide (Due now ttl y)) = [] :=
        List.filter_eq_nil_iff.mpr fun y hy => by simpa using hall y hy
      rw [expireAll_none hnone, hkept, hgone]
      exact ⟨hl, (List.append_nil _).symm⟩

end Heads

end Broker

end Microservices.Queues
