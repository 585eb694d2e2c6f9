/-
  Two runs that differ in the correlation id of the request.

  What the client is answered, what is written and what the brokers accept are compared up to the id
  that a message carries.  All that a run makes of its id is which kind it is of: gRPC refuses a
  string that is not printable ASCII, so every route that calls a service fails; AMQP refuses one of
  more than 255 bytes, so the notification of an order that stands is dropped.  Within one kind the
  id has no influence.
-/
import Microservices.Gateway.Kept

namespace Microservices.Gateway

open Microservices.Order
open Microservices.Payment (PaymentResponse RefundResponse)

/-! ## The two runs -/

section Runs

variable {deps : Dependencies} {α : Type}

/-- The same state, and the same messages up to the ids they carry. -/
structure System.Alike (s t : System deps) : Prop where
  state : s.state = t.state
  events : s.events.map Prod.fst = t.events.map Prod.fst
  notifications : s.notifications.map Prod.fst = t.notifications.map Prod.fst

/-- Two runs with one outcome. -/
def SameOutcome (r₁ r₂ : α × System deps) : Prop := r₁.1 = r₂.1 ∧ r₁.2.Alike r₂.2

/-- **The correlation id does not influence the outcome**: whatever the request, the dependencies and
    the ids that are drawn, the two headers make no difference. -/
def Uninfluenced (v₁ v₂ : Option HeaderValue) : Prop :=
  ∀ (deps : Dependencies) (s : System deps) (route : Route) (body : Except JsError JsValue)
    (gatewayId₁ gatewayId₂ orderServiceId₁ orderServiceId₂ : Uuid),
    SameOutcome (app gatewayId₁ orderServiceId₁ ⟨route, body, v₁⟩ s)
      (app gatewayId₂ orderServiceId₂ ⟨route, body, v₂⟩ s)

/-- A system is like itself. -/
theorem System.Alike.refl (s : System deps) : s.Alike s := ⟨rfl, rfl, rfl⟩

/-- A dependency does the same to both. -/
theorem System.Alike.act {s t : System deps} (h : s.Alike t) (f : deps.State → α × deps.State) :
    SameOutcome (s.act f) (t.act f) := by
  obtain ⟨hstate, hevents, hnotifications⟩ := h
  unfold SameOutcome System.act
  rw [hstate]
  exact ⟨rfl, rfl, hevents, hnotifications⟩

/-! ## order-service -/

variable {c₁ c₂ : String}

/-- Two runs that publish an event under usable ids have the same outcome. -/
theorem publishOrderEvent_alike (event : OrderEvent) {s t : System deps} (h : s.Alike t) :
    SameOutcome (publishOrderEvent c₁ event s) (publishOrderEvent c₂ event t) := by
  obtain ⟨hstate, hevents, hnotifications⟩ := h
  unfold publishOrderEvent
  rw [hstate]
  split
  · refine ⟨rfl, rfl, ?_, hnotifications⟩
    show List.map Prod.fst (if _ then _ else _) = List.map Prod.fst (if _ then _ else _)
    split
    · rw [List.map_append, List.map_append, hevents]
      rfl
    · exact hevents
  · exact ⟨rfl, hstate, hevents, hnotifications⟩

/-- Both ids fit into the property, or neither does. -/
theorem publishNotification_alike (hlength : byteLength c₁ ≤ 255 ↔ byteLength c₂ ≤ 255)
    (message : Notification) {s t : System deps} (h : s.Alike t) :
    SameOutcome (publishNotification c₁ message s) (publishNotification c₂ message t) := by
  obtain ⟨hstate, hevents, hnotifications⟩ := h
  unfold publishNotification
  -- an id of more than 255 bytes cannot be a property of AMQP
  rw [hstate, if_congr hlength rfl rfl]
  split
  · split
    · refine ⟨rfl, rfl, hevents, ?_⟩
      show List.map Prod.fst (if _ then _ else _) = List.map Prod.fst (if _ then _ else _)
      split
      · rw [List.map_append, List.map_append, hnotifications]
        rfl
      · exact hnotifications
    · exact ⟨rfl, hstate, hevents, hnotifications⟩
  · exact ⟨rfl, hstate, hevents, hnotifications⟩

/-- Neither run makes anything of metadata that both may send. -/
theorem overGrpc_alike {β : Type} (h₁ : correlationMetadata c₁ = .ok (some c₁))
    (h₂ : correlationMetadata c₂ = .ok (some c₂))
    (call : deps.State → Except JsError β × deps.State) {s t : System deps} (h : s.Alike t) :
    SameOutcome (overGrpc c₁ call s) (overGrpc c₂ call t) := by
  unfold overGrpc
  rw [h₁, h₂]
  exact h.act call

/-- Ids that pass gRPC, and both pass AMQP or neither does. -/
structure Interchangeable (c₁ c₂ : String) : Prop where
  metadata₁ : correlationMetadata c₁ = .ok (some c₁)
  metadata₂ : correlationMetadata c₂ = .ok (some c₂)
  length : byteLength c₁ ≤ 255 ↔ byteLength c₂ ≤ 255

/-- Whatever the saga awaits. -/
theorem answer_alike (hc : Interchangeable c₁ c₂) (op : SagaOp) {s t : System deps}
    (h : s.Alike t) : SameOutcome (answer c₁ op s) (answer c₂ op t) := by
  induction op generalizing s t with
  | getUser id => exact overGrpc_alike hc.metadata₁ hc.metadata₂ _ h
  | getProduct id => exact overGrpc_alike hc.metadata₁ hc.metadata₂ _ h
  | processPayment req => exact overGrpc_alike hc.metadata₁ hc.metadata₂ _ h
  | refundByOrderId id => exact overGrpc_alike hc.metadata₁ hc.metadata₂ _ h
  | create order => exact h.act _
  | updateStatus id status => exact h.act _
  | publishOrderEvent event => exact publishOrderEvent_alike event h
  | publishNotification message => exact publishNotification_alike hc.length message h
  | allSettled first second ih₁ ih₂ =>
    obtain ⟨hfirst, hafter⟩ := ih₁ h
    obtain ⟨hsecond, hend⟩ := ih₂ hafter
    exact ⟨Prod.ext hfirst hsecond, hend⟩

/-- **Nothing is notified under an id that is too long**, whatever the dependencies answer. -/
theorem unnotified {c : String} (hlong : ¬ byteLength c ≤ 255) (s : System deps) :
    Kept c fun t : System deps => t.notifications = s.notifications where
  act _ _ h := h
  publishOrderEvent event t h := by
    refine Eq.trans ?_ h
    unfold publishOrderEvent
    split <;> rfl
  publishNotification message t h := by
    refine Eq.trans ?_ h
    unfold publishNotification
    rw [if_neg hlong]
    split <;> rfl

/-- A saga with the id it has drawn. -/
theorem createOrder_accepted {input : CreateOrder} (h : input.Accepted) (c : String)
    (s : System deps) : createOrder input c s =
      let r := (saga (s.act deps.orderId).1 input).run (answer c) (s.act deps.orderId).2
      (createOrderReply r.1.1, r.2) :=
  if_pos h

/-- A whole saga. -/
theorem createOrder_alike (hc : Interchangeable c₁ c₂) (input : CreateOrder) {s t : System deps}
    (h : s.Alike t) : SameOutcome (createOrder input c₁ s) (createOrder input c₂ t) := by
  by_cases haccepted : input.Accepted
  · obtain ⟨hid, hdrawn⟩ := h.act deps.orderId
    obtain ⟨hout, hend⟩ := Prog.run_related (answer c₁) (fun op _ _ => answer_alike hc op)
      (saga (t.act deps.orderId).1 input) hdrawn
    rw [createOrder_accepted haccepted, createOrder_accepted haccepted, hid]
    exact ⟨congrArg (fun r => createOrderReply r.1) hout, hend⟩
  · unfold createOrder
    rw [if_neg haccepted, if_neg haccepted]
    exact ⟨rfl, h⟩

/-- Reading an order does not depend on the id under which it is read. -/
theorem getOrder_alike (id : String) {s t : System deps} (h : s.Alike t) :
    SameOutcome (getOrder id c₁ s) (getOrder id c₂ t) := by
  obtain ⟨hfound, hafter⟩ := h.act (deps.findById id)
  exact ⟨congrArg (getOrderReply id) hfound, hafter⟩

/-! ## api-gateway -/

variable {u₁ u₂ : Uuid}

/-- A handler runs under the id that came with the call. -/
theorem withCorrelation_some {β : Type} (u : Uuid) {c : String}
    (h : correlationMetadata c = .ok (some c)) (handler : String → β) :
    withCorrelation u (some c) handler = handler c := by
  have hne : c ≠ "" := by
    rintro rfl
    cases h
  exact runWithCorrelationId_some u handler hne

/-- A handler that makes nothing of its id is not called differently. -/
theorem toOrderService_alike (hc : Interchangeable c₁ c₂)
    {handler : String → System deps → Except Failure OrderResponse × System deps}
    (hhandler : ∀ s t, s.Alike t → SameOutcome (handler c₁ s) (handler c₂ t)) {s t : System deps}
    (h : s.Alike t) :
    SameOutcome (toOrderService u₁ handler (some c₁) s) (toOrderService u₂ handler (some c₂) t) := by
  unfold toOrderService
  rw [withCorrelation_some u₁ hc.metadata₁, withCorrelation_some u₂ hc.metadata₂]
  -- whether the call reaches the service is the same for both ids
  obtain ⟨hunreached, hs⟩ := h.act deps.unreached
  generalize s.act deps.unreached = r₁ at hunreached hs
  generalize t.act deps.unreached = r₂ at hunreached hs
  obtain ⟨a₁, s⟩ := r₁
  obtain ⟨a₂, t⟩ := r₂
  cases hunreached
  cases a₁ with
  | some err => exact ⟨rfl, hs⟩
  | none =>
    obtain ⟨hreply, hs'⟩ := hhandler s t hs
    simp only
    obtain ⟨hunanswered, hend⟩ := hs'.act deps.unanswered
    generalize (handler c₁ s).2.act deps.unanswered = r₁ at hunanswered hend
    generalize (handler c₂ t).2.act deps.unanswered = r₂ at hunanswered hend
    obtain ⟨a₁, s'⟩ := r₁
    obtain ⟨a₂, t'⟩ := r₂
    cases hunanswered
    cases a₁ with
    | some err => exact ⟨rfl, hend⟩
    | none =>
      simp only
      rw [hreply]
      cases (handler c₂ t).1 with
      | ok order => exact ⟨rfl, hend⟩
      | error failure => exact ⟨rfl, hend⟩

/-- A call that both runs make. -/
theorem createCaller_alike (hc : Interchangeable c₁ c₂)
    {call₁ call₂ : Option String → System deps → Except GrpcError α × System deps}
    (s : System deps) (hcall : SameOutcome (call₁ (some c₁) s) (call₂ (some c₂) s)) :
    SameOutcome (createCaller c₁ call₁ s) (createCaller c₂ call₂ s) := by
  unfold createCaller
  -- both ids are carried as metadata
  rw [hc.metadata₁, hc.metadata₂]
  obtain ⟨hanswer, hend⟩ := hcall
  simp only
  generalize call₁ (some c₁) s = r₁ at hanswer hend
  generalize call₂ (some c₂) s = r₂ at hanswer hend
  obtain ⟨a₁, s₁⟩ := r₁
  obtain ⟨a₂, s₂⟩ := r₂
  cases hanswer
  cases a₁ with
  | ok response => exact ⟨rfl, hend⟩
  | error err => exact ⟨rfl, hend⟩

/-- The same outcome gives the same response. -/
theorem json_alike {r₁ r₂ : Except Thrown α × System deps} (h : SameOutcome r₁ r₂) (status : Nat)
    (body : α → Body) : SameOutcome (json status body r₁) (json status body r₂) :=
  ⟨congrArg (respond status body) h.1, h.2⟩

/-- A call whose metadata cannot be made. -/
theorem json_refused {c : String} (h : ¬ MetadataLegal c) (status : Nat) (body : α → Body)
    (call : Option String → System deps → Except GrpcError α × System deps) (s : System deps) :
    json status body (createCaller c call s) = (⟨500, .error "Internal server error"⟩, s) := by
  unfold createCaller
  rw [metadata_of_not_legal h]
  rfl

/-- A call under two ids of one kind: gRPC refuses both, or they are interchangeable. -/
theorem call_alike (hkind : IdKind.of c₁ = IdKind.of c₂) (h₁ : c₁ ≠ "") (h₂ : c₂ ≠ "")
    (status : Nat) (body : α → Body)
    {call₁ call₂ : Option String → System deps → Except GrpcError α × System deps}
    (s : System deps)
    (hcall : Interchangeable c₁ c₂ → SameOutcome (call₁ (some c₁) s) (call₂ (some c₂) s)) :
    SameOutcome (json status body (createCaller c₁ call₁ s))
      (json status body (createCaller c₂ call₂ s)) := by
  have hlegal : ¬ MetadataLegal c₁ ↔ ¬ MetadataLegal c₂ := by
    rw [← IdKind.of_eq_refused, ← IdKind.of_eq_refused, hkind]
  -- two legal ids are sent, two illegal ones are refused before anything is sent
  by_cases hrefused : MetadataLegal c₁
  · have hlegal₂ : MetadataLegal c₂ := not_not.mp fun h => hlegal.mpr h hrefused
    have hlength : byteLength c₁ ≤ 255 ↔ byteLength c₂ ≤ 255 := by
      have husable : IdKind.of c₁ = .usable ↔ IdKind.of c₂ = .usable := by rw [hkind]
      rw [IdKind.of_eq_usable, IdKind.of_eq_usable] at husable
      constructor
      · exact fun h => (husable.mp ⟨hrefused, h⟩).2
      · exact fun h => (husable.mpr ⟨hlegal₂, h⟩).2
    have hc : Interchangeable c₁ c₂ := ⟨hrefused.metadata h₁, hlegal₂.metadata h₂, hlength⟩
    exact json_alike (createCaller_alike hc s (hcall hc)) status body
  · rw [json_refused hrefused, json_refused (hlegal.mp hrefused)]
    exact ⟨rfl, .refl s⟩

/-- Every route, one by one. -/
theorem handle_alike (hkind : IdKind.of c₁ = IdKind.of c₂) (h₁ : c₁ ≠ "") (h₂ : c₂ ≠ "")
    (body : JsValue) (s : System deps) (route : Route) :
    SameOutcome (route.handle u₁ body c₁ s) (route.handle u₂ body c₂ s) := by
  have hsend : ∀ call : Upstream,
      SameOutcome (call.send (some c₁) s) (call.send (some c₂) s) := fun call => ⟨rfl, .refl _⟩
  cases route with
  | health => exact ⟨rfl, .refl s⟩
  | createUser => exact call_alike hkind h₁ h₂ 201 Body.user s fun _ => hsend _
  | getUser id => exact call_alike hkind h₁ h₂ 200 Body.user s fun _ => hsend _
  | createProduct => exact call_alike hkind h₁ h₂ 201 Body.product s fun _ => hsend _
  | getProduct id => exact call_alike hkind h₁ h₂ 200 Body.product s fun _ => hsend _
  -- the only route whose answer could depend on what is published
  | createOrder =>
    refine call_alike hkind h₁ h₂ 201 Body.order s fun hc => ?_
    unfold orderClient.createOrder
    cases deps.encode (body.field "userId") (body.field "productId")
        (deps.number (body.field "quantity")) with
    | error err => exact ⟨rfl, .refl s⟩
    | ok input =>
      exact toOrderService_alike hc (fun _ _ => createOrder_alike hc input) (.refl s)
  | getOrder id =>
    refine call_alike hkind h₁ h₂ 200 Body.order s fun hc => ?_
    exact toOrderService_alike hc (fun _ _ => getOrder_alike id) (.refl s)
  | getPayment id => exact call_alike hkind h₁ h₂ 200 Body.payment s fun _ => hsend _
  | notFound => exact ⟨rfl, .refl s⟩

/-- The gateway under two headers of one kind. -/
theorem app_alike {v₁ v₂ : Option HeaderValue} (hkind : IdKind.ofHeader v₁ = IdKind.ofHeader v₂)
    (gatewayId₁ gatewayId₂ : Uuid) (route : Route) (body : Except JsError JsValue)
    (s : System deps) : SameOutcome (app gatewayId₁ u₁ ⟨route, body, v₁⟩ s)
      (app gatewayId₂ u₂ ⟨route, body, v₂⟩ s) := by
  cases body with
  | error err => exact ⟨rfl, .refl s⟩
  | ok body =>
    -- the context has an id of the header's kind, one's own where there is none
    obtain ⟨c₁, hrun₁, h₁, hkind₁⟩ := runWithCorrelationId_header gatewayId₁ v₁ fun c =>
      route.serve u₁ body c s
    obtain ⟨c₂, hrun₂, h₂, hkind₂⟩ := runWithCorrelationId_header gatewayId₂ v₂ fun c =>
      route.serve u₂ body c s
    unfold app
    simp only
    rw [hrun₁, hrun₂]
    unfold Route.serve
    cases validateBody route.requiredFields body with
    | some response => exact ⟨rfl, .refl s⟩
    | none =>
      refine handle_alike ?_ h₁ h₂ body s route
      rw [hkind₁, hkind₂, hkind]

end Runs

/-! ## A system that shows the kind -/

/-- Every call of a saga succeeds. -/
def obliged : (op : SagaOp) → SagaRes op
  | .getUser id => .ok ⟨id, "Ann", "ann@example.com"⟩
  | .getProduct id => .ok ⟨id, "Pen", 1⟩
  | .processPayment _ => .ok ⟨"pay1", .success, "TXN-1", ""⟩
  | .refundByOrderId _ => .ok ⟨true, ""⟩
  | .create order => .ok (order.row (.hundredths 100) 0)
  | .updateStatus _ _ => .ok none
  | .publishOrderEvent _ => .ok ()
  | .publishNotification _ => .ok ()
  | .allSettled first second => (obliged first, obliged second)

/-- Every call succeeds. -/
def obliging : Dependencies where
  State := Unit
  number _ := 1
  grpcJs := grpcJs
  upstream call s :=
    (.ok (match call with
      | .createUser _ _ => ⟨"u1", "Ann", "ann@example.com"⟩
      | .getUser id => ⟨id, "Ann", "ann@example.com"⟩
      | .createProduct _ price => ⟨"p1", "Pen", price⟩
      | .getProduct id => ⟨id, "Pen", 1⟩
      | .getPayment id => ⟨id, "o1", "u1", 1, "CREDIT_CARD", "SUCCESS", "TXN-1", "0"⟩), s)
  encode _ _ _ := .ok ⟨"u1", "p1", 1⟩
  unreached s := (none, s)
  unanswered s := (none, s)
  orderId s := ("o1", s)
  call op s := (obliged op, s)
  findById _ s := (.ok none, s)
  connected _ := true
  send _ s := ((true, .ok ()), s)
  channel _ := true
  sendToQueue _ s := ((true, .ok ()), s)

/-- Nothing has been accepted yet. -/
def obliging.start : System obliging := ⟨(), [], []⟩

/-- Looking up a user under `v`. -/
def lookup (u : Uuid) (v : Option HeaderValue) : HttpResponse × System obliging :=
  app u u ⟨.getUser "u1", .ok .undefined, v⟩ obliging.start

/-- Ordering a pen under `v`. -/
def purchase (u : Uuid) (v : Option HeaderValue) : HttpResponse × System obliging :=
  app u u ⟨.createOrder, .ok (.obj [("userId", .str "u1"), ("productId", .str "p1"),
    ("quantity", .str "1")]), v⟩ obliging.start

/-- A UUID. -/
def someUuid : Uuid := ⟨"6f0c8b1e-3d52-4b7a-9c41-0a2f5e7d9b36", by decide⟩

/-- A name with an accent, as a client may send it. -/
def accented : HeaderValue := ⟨"café", by decide⟩

/-- 256 letters. -/
def overlong : HeaderValue :=
  ⟨String.ofList (List.replicate 256 'a'), by
    intro c hc
    rw [String.toList_ofList] at hc
    rw [List.eq_of_mem_replicate hc]
    decide⟩

/-- AMQP does not take them. -/
theorem overlong_not_usable : IdKind.ofHeader (some overlong) ≠ .usable := by
  have hletters : overlong.1.toList = List.replicate 256 'a' := String.toList_ofList
  have hlegal : MetadataLegal overlong.1 := by
    intro c hc
    rw [hletters] at hc
    rw [List.eq_of_mem_replicate hc]
    decide
  -- letters are one byte each, so the id has 256
  have hbytes : byteLength overlong.1 = 256 := by
    rw [byteLength_of_legal hlegal, ← String.length_toList, hletters, List.length_replicate]
  have hne : overlong.1 ≠ "" := by
    intro h
    rw [h] at hbytes
    exact absurd hbytes (by decide)
  show (if overlong.1 = "" then IdKind.usable else IdKind.of overlong.1) ≠ .usable
  rw [if_neg hne]
  intro h
  have hlength : byteLength overlong.1 ≤ 255 := (IdKind.of_eq_usable.mp h).2
  omega

section Obliging

variable {u : Uuid} {v : Option HeaderValue}

/-- The lookup fails under an id that gRPC refuses, and only then. -/
theorem lookup_status : (lookup u v).1.status = 500 ↔ IdKind.ofHeader v = .refused := by
  obtain ⟨c, hrun, hne, hkind⟩ := runWithCorrelationId_header u v fun c =>
    (Route.getUser "u1").serve u .undefined c obliging.start
  have hlookup : lookup u v =
      json 200 Body.user (createCaller c (Upstream.getUser "u1").send obliging.start) := hrun
  rw [hlookup, ← hkind, IdKind.of_eq_refused]
  by_cases hlegal : MetadataLegal c
  · refine iff_of_false ?_ (not_not.mpr hlegal)
    unfold createCaller
    rw [hlegal.metadata hne]
    exact (by decide : 200 ≠ 500)
  · rw [json_refused hlegal]
    exact iff_of_true rfl hlegal

/-- Headers of one kind notify alike. -/
theorem purchase_length {v' : Option HeaderValue} (h : IdKind.ofHeader v = IdKind.ofHeader v') :
    (purchase u v).2.notifications.length = (purchase someUuid v').2.notifications.length := by
  have halike := (@app_alike _ u someUuid v v' h u someUuid .createOrder (.ok (.obj
    [("userId", .str "u1"), ("productId", .str "p1"), ("quantity", .str "1")])) obliging.start).2
  have hlength := congrArg List.length halike.notifications
  rw [List.length_map, List.length_map] at hlength
  exact hlength

/-- The purchase is notified under a usable id, and only then. -/
theorem purchase_notified :
    (purchase u v).2.notifications.length = 1 ↔ IdKind.ofHeader v = .usable := by
  cases hv : IdKind.ofHeader v with
  | usable =>
    rw [@purchase_length u v none hv]
    exact iff_of_true rfl rfl
  | refused =>
    rw [@purchase_length u v (some accented) hv]
    exact iff_of_false (by decide) (nomatch ·)
  -- the only kind of id that loses the notification alone
  | tooLong =>
    obtain ⟨c, hrun, hne, hkind⟩ := runWithCorrelationId_header u v id
    obtain ⟨-, hlong⟩ := IdKind.of_eq_tooLong.mp (hkind.trans hv)
    have hdropped : (purchase u v).2.notifications = [] :=
      (unnotified hlong obliging.start).app hne u hrun rfl
    rw [hdropped]
    exact iff_of_false (by decide) (nomatch ·)

end Obliging

/-- **Exactly when the correlation id has no influence**: the two headers are of one kind. -/
theorem uninfluenced_iff (v₁ v₂ : Option HeaderValue) :
    Uninfluenced v₁ v₂ ↔ IdKind.ofHeader v₁ = IdKind.ofHeader v₂ := by
  constructor
  · intro h
    -- a lookup tells refused ids from the others by its status
    have hrefused : IdKind.ofHeader v₁ = .refused ↔ IdKind.ofHeader v₂ = .refused := by
      rw [← @lookup_status someUuid v₁, ← @lookup_status someUuid v₂]
      have hsame : (lookup someUuid v₁).1 = (lookup someUuid v₂).1 := (h _ _ _ _ _ _ _ _).1
      rw [hsame]
    -- an order tells usable ids from overlong ones by its notification
    have husable : IdKind.ofHeader v₁ = .usable ↔ IdKind.ofHeader v₂ = .usable := by
      rw [← @purchase_notified someUuid v₁, ← @purchase_notified someUuid v₂]
      have hsame : (purchase someUuid v₁).2.Alike (purchase someUuid v₂).2 := (h _ _ _ _ _ _ _ _).2
      have hlength := congrArg List.length hsame.notifications
      rw [List.length_map, List.length_map] at hlength
      rw [hlength]
    cases hkind : IdKind.ofHeader v₁ with
    | usable => exact (husable.mp hkind).symm
    | refused => exact (hrefused.mp hkind).symm
    | tooLong =>
      cases hkind₂ : IdKind.ofHeader v₂ with
      | usable => exact hkind.symm.trans (husable.mpr hkind₂)
      | refused => exact hkind.symm.trans (hrefused.mpr hkind₂)
      | tooLong => rfl
  · intro h deps s route body gatewayId₁ gatewayId₂ orderServiceId₁ orderServiceId₂
    exact app_alike h gatewayId₁ gatewayId₂ route body s

/-- A header with an accent fails a lookup, and one of 256 letters drops a notification. -/
theorem influenced :
    ¬ Uninfluenced (some accented) none ∧ ¬ Uninfluenced (some overlong) none := by
  constructor
  · intro h
    have hsame : (lookup someUuid (some accented)).1 = (lookup someUuid none).1 :=
      (h _ _ _ _ _ _ _ _).1
    -- an accented letter cannot be metadata
    have hstatus : 500 = 200 := congrArg HttpResponse.status hsame
    exact absurd hstatus (by decide)
  · intro h
    have hsame : (purchase someUuid (some overlong)).2.Alike (purchase someUuid none).2 :=
      (h _ _ _ _ _ _ _ _).2
    -- an id of 256 letters cannot be a property of AMQP
    have hlength := congrArg List.length hsame.notifications
    rw [List.length_map, List.length_map] at hlength
    have husable := purchase_notified.mp (hlength.trans (purchase_notified.mpr rfl))
    exact absurd husable overlong_not_usable

end Microservices.Gateway
