/-
  What the four services answer a lookup by id, and the gateway in front of them
  (user-service/internal/handler/user_handler.go, user-service/internal/service/user_service.go,
  user-service/internal/repository/user_repository.go, product-service/src/product/product.service.ts,
  product-service/src/product/dto/get-product.dto.ts, order-service/src/handlers/order.handler.js,
  payment-service/src/handlers/payment.handler.js).

  Three services compare `id::text` with the parameter, so that any string may be looked up, but a
  UUID is found in one of its spellings only; product-service compares the UUID, and Postgres rejects
  a string that is none.  Each service says for itself which errors of its query mean that nothing was
  found.

  `notFoundMeansAbsent_iff` says when a 404 means that the table has no row with the id, whichever way
  the id is spelled: a row that is there is answered 404 for a product whose query has failed, and for
  any of the others under another spelling than Postgres's own.
-/
import Microservices.Gateway.Correlation
import Microservices.Lib.Hex
import Microservices.Product.Store

namespace Microservices

/-! ## UUIDs, as Postgres reads them -/

/-- `n` more bytes of a UUID and what follows them; a hyphen may follow every second byte. -/
def uuidBytes : Nat → List Char → Option (List (Nat × Nat) × List Char)
  | 0, cs => some ([], cs)
  | n + 1, a :: b :: cs => do
    let hi ← hexValue a
    let lo ← hexValue b
    let cs := if n ≠ 0 ∧ n % 2 = 0 ∧ cs.head? = some '-' then cs.tail else cs
    let (bytes, rest) ← uuidBytes n cs
    return ((hi, lo) :: bytes, rest)
  | _, _ => none

/-- The text of the bytes of a UUID, `i` of them being written already. -/
def uuidText : Nat → List (Nat × Nat) → List Char
  | _, [] => []
  | i, (hi, lo) :: bytes =>
    let byte := hexDigit hi :: hexDigit lo :: uuidText (i + 1) bytes
    if i = 4 ∨ i = 6 ∨ i = 8 ∨ i = 10 then '-' :: byte else byte

/-- The text Postgres writes for the UUID that it reads in a string, if there is one. -/
def uuidIn (id : String) : Option String :=
  match id.toList with
  | '{' :: cs =>
    match uuidBytes 16 cs with
    | some (bytes, ['}']) => some (String.ofList (uuidText 0 bytes))
    | _ => none
  | cs =>
    match uuidBytes 16 cs with
    | some (bytes, []) => some (String.ofList (uuidText 0 bytes))
    | _ => none

/-- A column `id UUID` holds the id. -/
def StoredId (id : String) : Prop := uuidIn id = some id

/-- Whether an id is written as it is stored can be computed. -/
instance (id : String) : Decidable (StoredId id) := inferInstanceAs (Decidable (_ = _))

/-- What Postgres says of a string that is no UUID. -/
def invalidUuid (id : String) : JsError :=
  { message := "invalid input syntax for type uuid: \"" ++ id ++ "\"", code := some "22P02" }

example : uuidIn "{6F0C8B1E3D524B7A-9C41-0A2F5E7D9B36}" =
    some "6f0c8b1e-3d52-4b7a-9c41-0a2f5e7d9b36" := by decide +kernel

/-! ## user-service -/

namespace User

open Microservices.Order (Failure UserResponse)

/-- A row of `users`. -/
structure UserRow where
  id : String
  name : String
  email : String
  deriving DecidableEq, Repr

/-- The errors the domain tells apart, and any other. -/
inductive UserError : Type where
  | userNotFound
  | validation (msg : String)
  | other (err : JsError)

/-- `unicode.IsSpace`. -/
def isSpace (c : Char) : Bool :=
  [0x09, 0x0A, 0x0B, 0x0C, 0x0D, 0x20, 0x85, 0xA0, 0x1680, 0x2028, 0x2029, 0x202F, 0x205F,
    0x3000].contains c.toNat || (0x2000 ≤ c.toNat && c.toNat ≤ 0x200A)

/-- `GetByID`, if its query ends as `query`. -/
def getByID (query : Except JsError (Option UserRow)) : Except UserError UserRow :=
  match query with
  | .ok (some u) => .ok u
  | .ok none => .error .userNotFound
  | .error err => .error (.other err)

/-- `GetUser` of the service; `strings.TrimSpace` leaves nothing of blanks. -/
def service.getUser (id : String) (query : Except JsError (Option UserRow)) :
    Except UserError UserRow :=
  if id.toList.all isSpace then .error (.validation "id is required") else getByID query

/-- `toGRPCError`. -/
def toGRPCError : UserError → Failure
  | .userNotFound => ⟨.notFound, "user not found"⟩
  | .validation msg => ⟨.invalidArgument, msg⟩
  | .other _ => ⟨.internal, "internal error"⟩

/-- `GetUser` of the handler. -/
def getUser (id : String) (query : Except JsError (Option UserRow)) : Except Failure UserResponse :=
  match service.getUser id query with
  | .ok u => .ok ⟨u.id, u.name, u.email⟩
  | .error err => .error (toGRPCError err)

end User

/-! ## product-service -/

namespace Product

open Microservices.Order (Failure ProductResponse)

/-- The rows with the id, the parameter read as a UUID. -/
def Products.select (id : String) (d : Products) : Except JsError (Option ProductRow) :=
  match uuidIn id with
  | none => .error (invalidUuid id)
  | some uuid => .ok (d.find? fun row => decide (row.id = uuid))

/-- `findOne`, if its query ends as `query`: what the query throws is taken for a string that is no
    UUID. -/
def findOne (id : String) (query : Except JsError (Option ProductRow)) :
    Except Failure ProductRow :=
  let product := match query with
    | .ok product => product
    | .error _ => none
  match product with
  | some product => .ok product
  | none => .error ⟨.notFound, "Product not found: " ++ id⟩

/-- `getProduct`, behind the validation of `GetProductDto`. -/
def getProduct (id : String) (query : Except JsError (Option ProductRow)) :
    Except Failure ProductResponse :=
  if 1 ≤ id.length then ProductRow.response <$> findOne id query
  else .error ⟨.unknown, "Internal server error"⟩

end Product

/-! ## payment-service -/

namespace Payment

open Microservices.Gateway (PaymentInfo)
open Microservices.Order (Failure)

/-- A status as text. -/
def PaymentStatus.text : PaymentStatus → String
  | .success => "SUCCESS"
  | .failed => "FAILED"
  | .refunded => "REFUNDED"

/-- `getPayment`, if its query ends as `query`. -/
def getPayment (toISOString : Nat → String) (id : String)
    (query : Except JsError (Option PaymentRow)) : Except Failure PaymentInfo :=
  match query with
  | .ok (some p) => .ok ⟨p.id, p.orderId, p.userId, p.amount.toNumber, p.method, p.status.text,
      p.transactionId.getD "", toISOString p.createdAt⟩
  | .ok none => .error ⟨.notFound, "Payment not found: " ++ id⟩
  | .error _ => .error ⟨.internal, "internal error"⟩

end Payment

/-! ## The gateway in front of them -/

namespace Gateway

open Microservices.Order (Failure OrderResponse Orders getOrderReply)
open Microservices.Payment (PaymentRow)
open Microservices.Product (ProductRow Products)
open Microservices.User (UserRow)

/-- The four tables, whose ids are UUIDs. -/
structure Stores where
  users : List UserRow
  products : Products
  orders : Orders
  payments : List PaymentRow
  users_id : ∀ row ∈ users, StoredId row.id
  products_id : ∀ row ∈ products, StoredId row.id
  orders_id : ∀ row ∈ orders, StoredId row.id
  payments_id : ∀ row ∈ payments, StoredId row.id

/-- What a query ends with: its result, unless the database fails. -/
def queried {α : Type} (failure : Option JsError) (result : Except JsError α) : Except JsError α :=
  match failure with
  | some err => .error err
  | none => result

/-- The system with these tables, every query of them failing or none. -/
def Dependencies.reading (deps : Dependencies) (toISOString : Nat → String) (stores : Stores)
    (failure : Option JsError) : Dependencies :=
  { deps with
    upstream := fun call s =>
      match call with
      | .getUser id => ((User.getUser id (queried failure
          (.ok (stores.users.find? fun row => decide (row.id = id))))).mapError deps.grpcJs.error, s)
      | .getProduct id => ((Product.getProduct id (queried failure
          (stores.products.select id))).mapError deps.grpcJs.error, s)
      | .getPayment id => ((Payment.getPayment toISOString id (queried failure
          (.ok (stores.payments.find? fun row => decide (row.id = id))))).mapError
            deps.grpcJs.error, s)
      | .createUser name email => deps.upstream (.createUser name email) s
      | .createProduct name price => deps.upstream (.createProduct name price) s
    findById := fun id s => (queried failure (.ok (stores.orders.findById id)), s)
    unreached := fun s => (none, s)
    unanswered := fun s => (none, s) }

/-- The four lookups by id. -/
inductive Lookup : Type where
  | user
  | product
  | order
  | payment
  deriving DecidableEq, Repr

/-- The route of a lookup. -/
def Lookup.route (id : String) : Lookup → Route
  | .user => .getUser id
  | .product => .getProduct id
  | .order => .getOrder id
  | .payment => .getPayment id

/-- The table of a lookup has a row with the id: the string is a UUID, and the row's. -/
def Stores.Has (stores : Stores) (id : String) : Lookup → Prop
  | .user => ∃ row ∈ stores.users, uuidIn id = some row.id
  | .product => ∃ row ∈ stores.products, uuidIn id = some row.id
  | .order => ∃ row ∈ stores.orders, uuidIn id = some row.id
  | .payment => ∃ row ∈ stores.payments, uuidIn id = some row.id

/-- **404 means absent**: whatever else is in the request, a lookup is answered 404 only if its query
    has completed, or has no UUID to look for, and there is no such row; and with a 5xx if its query
    has failed and there is one. -/
def NotFoundMeansAbsent (lookup : Lookup) (id : String) (stores : Stores)
    (failure : Option JsError) : Prop :=
  ∀ (deps : Dependencies) (toISOString : Nat → String) (gatewayId orderServiceId : Uuid)
    (body : Except JsError JsValue) (header : Option HeaderValue)
    (s : System (deps.reading toISOString stores failure)),
    let status := (app gatewayId orderServiceId ⟨lookup.route id, body, header⟩ s).1.status
    (status = 404 → (failure = none ∨ uuidIn id = none) ∧ ¬ stores.Has id lookup) ∧
      (failure ≠ none → stores.Has id lookup → 500 ≤ status ∧ status < 600)

/-! ## The status of a lookup -/

/-- The status for what a handler calls back with. -/
def statusOf {α : Type} : Except Failure α → Nat
  | .ok _ => 200
  | .error failure => grpcToHttpStatus failure.code

/-- The status for what the handler of a lookup calls back with. -/
def Lookup.status (toISOString : Nat → String) (id : String) (stores : Stores)
    (failure : Option JsError) : Lookup → Nat
  | .user => statusOf (User.getUser id (queried failure
      (.ok (stores.users.find? fun row => decide (row.id = id)))))
  | .product => statusOf (Product.getProduct id (queried failure (stores.products.select id)))
  | .order => statusOf (getOrderReply id (queried failure (.ok (stores.orders.findById id))))
  | .payment => statusOf (Payment.getPayment toISOString id (queried failure
      (.ok (stores.payments.find? fun row => decide (row.id = id)))))

section Status

variable {deps : Dependencies} {α : Type} {toISOString : Nat → String} {id : String}
variable {stores : Stores} {failure : Option JsError}

/-- A call of the gateway, unless its metadata are refused. -/
theorem json_status (c : String) (body : α → Body)
    {call : Option String → System deps → Except GrpcError α × System deps} {s : System deps}
    {reply : Except Failure α}
    (hcall : ∀ metadata, (call metadata s).1 = reply.mapError deps.grpcJs.error) :
    (json 200 body (createCaller c call s)).1.status =
      if MetadataLegal c then statusOf reply else 500 := by
  by_cases hlegal : MetadataLegal c
  · -- an empty id is sent as no metadata at all
    obtain ⟨metadata, hmetadata⟩ : ∃ metadata, correlationMetadata c = .ok metadata := by
      by_cases hempty : c = ""
      · exact ⟨none, if_pos hempty⟩
      · exact ⟨some c, hlegal.metadata hempty⟩
    have hanswer := hcall metadata
    rw [if_pos hlegal]
    unfold json createCaller
    rw [hmetadata]
    simp only
    generalize call metadata s = r at hanswer
    obtain ⟨a, t⟩ := r
    subst hanswer
    cases reply with
    | ok a => rfl
    | error failure => rfl
  · rw [json_refused hlegal, if_neg hlegal]

/-- A call to order-service that gets through. -/
theorem toOrderService_reply {reply : Except Failure OrderResponse} (u : Uuid)
    {handler : String → System deps → Except Failure OrderResponse × System deps}
    (hunreached : ∀ s, (deps.unreached s).1 = none) (hunanswered : ∀ s, (deps.unanswered s).1 = none)
    (hhandler : ∀ c s, (handler c s).1 = reply) (metadata : Option String) (s : System deps) :
    (toOrderService u handler metadata s).1 = reply.mapError deps.grpcJs.error := by
  -- the handler's answer does not depend on the id it runs under
  have hcontext : withCorrelation u metadata handler =
      handler (runWithCorrelationId u metadata id) :=
    runWithCorrelationId_apply u handler metadata
  unfold toOrderService System.act
  rw [hcontext, hunreached]
  simp only
  rw [hunanswered]
  simp only
  rw [hhandler]
  cases reply with
  | ok order => rfl
  | error failure => rfl

/-- A lookup is answered 500, or with the status of its handler; and with the latter if its body can
    be read and it has no header. -/
theorem app_status (lookup : Lookup) (gatewayId orderServiceId : Uuid)
    (body : Except JsError JsValue) (header : Option HeaderValue)
    (s : System (deps.reading toISOString stores failure)) :
    ∃ refused : Bool, (app gatewayId orderServiceId ⟨lookup.route id, body, header⟩ s).1.status =
        (if refused then 500 else lookup.status toISOString id stores failure) ∧
      (header = none → body.isOk → refused = false) := by
  cases body with
  | error err => exact ⟨true, rfl, fun _ hok => nomatch hok⟩
  | ok body =>
    obtain ⟨c, hrun, -, hkind⟩ := runWithCorrelationId_header gatewayId header fun c =>
      (lookup.route id).serve orderServiceId body c s
    -- the middleware's id decides whether anything is asked; the answer does not depend on it
    have hserve : (app gatewayId orderServiceId ⟨lookup.route id, .ok body, header⟩ s).1.status =
        if MetadataLegal c then lookup.status toISOString id stores failure else 500 := by
      show (runWithCorrelationId _ _ _ : HttpResponse × System _).1.status = _
      rw [hrun]
      cases lookup with
      | user => exact json_status c Body.user fun _ => rfl
      | product => exact json_status c Body.product fun _ => rfl
      | order =>
        refine json_status c Body.order fun metadata => ?_
        exact @toOrderService_reply _ (getOrderReply id (queried failure
          (.ok (stores.orders.findById id)))) orderServiceId (getOrder id) (fun _ => rfl)
            (fun _ => rfl) (fun _ _ => rfl) metadata s
      | payment => exact json_status c Body.payment fun _ => rfl
    refine ⟨!decide (MetadataLegal c), ?_, ?_⟩
    · rw [hserve]
      by_cases hlegal : MetadataLegal c <;> simp [hlegal]
    · rintro rfl -
      have husable : IdKind.of c = .usable := hkind
      simp [(IdKind.of_eq_usable.mp husable).1]

/-! ## What a 404 means -/

variable {lookup : Lookup}

/-- A row with the key is found. -/
theorem find?_ne_none {rows : List α} {key : α → String} {key' : String}
    (h : ∃ row ∈ rows, key row = key') :
    ∃ row, rows.find? (fun row => decide (key row = key')) = some row := by
  obtain ⟨row, hrow, hkey⟩ := h
  refine Option.ne_none_iff_exists'.mp fun hnone => ?_
  have hne := List.find?_eq_none.mp hnone row hrow
  exact hne (decide_eq_true hkey)

/-- With a key of its own a row is the one that is found. -/
theorem find?_of_nodup {rows : List α} {key : α → String} {row : α} (h : (rows.map key).Nodup)
    (hrow : row ∈ rows) : rows.find? (fun r => decide (key r = key row)) = some row := by
  obtain ⟨found, hfound⟩ := @find?_ne_none _ rows key (key row) ⟨row, hrow, rfl⟩
  have hkey := List.find?_some hfound
  have hsame := List.inj_on_of_nodup_map h (List.mem_of_find?_eq_some hfound) hrow
    (of_decide_eq_true hkey)
  rw [hfound, hsame]

/-- A blank is below the digits and letters, or above them. -/
theorem isSpace_bounds {c : Char} (h : User.isSpace c = true) : c.toNat ≤ 0x20 ∨ 0x85 ≤ c.toNat := by
  unfold User.isSpace at h
  simp only [List.contains_cons, List.contains_nil, Bool.or_false, Bool.or_eq_true, beq_iff_eq,
    Bool.and_eq_true, decide_eq_true_eq] at h
  omega

/-- A UUID is not blank: it begins with a brace or a digit. -/
theorem not_blank (h : uuidIn id ≠ none) : id.toList.all User.isSpace = false := by
  rw [Bool.eq_false_iff]
  intro hblank
  rw [List.all_eq_true] at hblank
  -- two characters of white space are no two hexadecimal digits
  have hfirst : ∀ cs, (∀ c ∈ cs, User.isSpace c = true) → uuidBytes 16 cs = none := by
    intro cs hcs
    match cs with
    | [] => rfl
    | [_] => rfl
    | a :: b :: cs =>
      have hvalue : hexValue a = none := by
        by_contra hne
        have hdigit := hexValue_bounds hne
        rcases isSpace_bounds (hcs a List.mem_cons_self) with hlow | hhigh <;> omega
      unfold uuidBytes
      rw [hvalue]
      rfl
  unfold uuidIn at h
  split at h
  · rename_i cs hbrace
    have hspace := hblank '{' (by rw [hbrace]; exact List.mem_cons_self)
    exact absurd hspace (by decide)
  · rw [hfirst _ hblank] at h
    exact h rfl

/-- Only a UUID is in a table. -/
theorem has_uuid (h : stores.Has id lookup) : uuidIn id ≠ none := by
  cases lookup with
  | user =>
    obtain ⟨row, -, huuid⟩ := h
    exact huuid ▸ Option.some_ne_none row.id
  | product =>
    obtain ⟨row, -, huuid⟩ := h
    exact huuid ▸ Option.some_ne_none row.id
  | order =>
    obtain ⟨row, -, huuid⟩ := h
    exact huuid ▸ Option.some_ne_none row.id
  | payment =>
    obtain ⟨row, -, huuid⟩ := h
    exact huuid ▸ Option.some_ne_none row.id

/-- What a query by text finds of a row that is there: the row, if the id is spelled as Postgres
    spells it, and nothing otherwise. -/
theorem find?_text {rows : List α} {key : α → String} (hkeys : ∀ row ∈ rows, StoredId (key row))
    (h : ∃ row ∈ rows, uuidIn id = some (key row)) :
    (StoredId id → ∃ row, rows.find? (fun row => decide (key row = id)) = some row) ∧
      (¬ StoredId id → rows.find? (fun row => decide (key row = id)) = none) := by
  obtain ⟨row, hrow, huuid⟩ := h
  constructor
  · intro hstored
    have hkey : some (key row) = some id := huuid.symm.trans hstored
    exact find?_ne_none ⟨row, hrow, Option.some.inj hkey⟩
  · intro hspelled
    refine List.find?_eq_none.mpr fun r hr hkey => hspelled ?_
    -- a row of the table has Postgres's spelling
    rw [← of_decide_eq_true hkey]
    exact hkeys r hr

/-- What a completed query of a row that is there is answered: anything but 404 for a product, and for
    the others exactly if the id is spelled as Postgres spells it. -/
theorem status_completed (h : stores.Has id lookup) :
    lookup.status toISOString id stores none = 404 ↔ lookup ≠ .product ∧ ¬ StoredId id := by
  have hne := has_uuid h
  cases lookup with
  | user =>
    obtain ⟨hfound, hmissed⟩ := find?_text stores.users_id h
    unfold Lookup.status User.getUser User.service.getUser
    rw [not_blank hne]
    by_cases hstored : StoredId id
    · obtain ⟨row, hrow⟩ := hfound hstored
      rw [hrow]
      exact iff_of_false (by decide : ¬ 200 = 404) fun hmiss => hmiss.2 hstored
    · rw [hmissed hstored]
      exact iff_of_true rfl ⟨nofun, hstored⟩
  -- the only query that compares the ids as UUIDs
  | product =>
    obtain ⟨row, hrow, huuid⟩ := h
    obtain ⟨found, hfound⟩ := find?_ne_none ⟨row, hrow, rfl⟩
    have hquery : queried none (stores.products.select id) = .ok (some found) := by
      unfold queried Product.Products.select
      rw [huuid]
      exact congrArg Except.ok hfound
    refine iff_of_false ?_ fun hmiss => hmiss.1 rfl
    show statusOf (Product.getProduct id _) ≠ 404
    rw [hquery]
    unfold Product.getProduct
    split
    · exact (by decide : 200 ≠ 404)
    · exact (by decide : 500 ≠ 404)
  | order =>
    obtain ⟨hfound, hmissed⟩ := find?_text stores.orders_id h
    show statusOf (getOrderReply id (.ok (stores.orders.find? _))) = 404 ↔ _
    by_cases hstored : StoredId id
    · obtain ⟨row, hrow⟩ := hfound hstored
      rw [hrow]
      exact iff_of_false (by decide : ¬ 200 = 404) fun hmiss => hmiss.2 hstored
    · rw [hmissed hstored]
      exact iff_of_true rfl ⟨nofun, hstored⟩
  | payment =>
    obtain ⟨hfound, hmissed⟩ := find?_text stores.payments_id h
    show statusOf (Payment.getPayment toISOString id (.ok (stores.payments.find? _))) = 404 ↔ _
    by_cases hstored : StoredId id
    · obtain ⟨row, hrow⟩ := hfound hstored
      rw [hrow]
      exact iff_of_false (by decide : ¬ 200 = 404) fun hmiss => hmiss.2 hstored
    · rw [hmissed hstored]
      exact iff_of_true rfl ⟨nofun, hstored⟩

/-- A failed query is answered 404 for a product, and 500 otherwise. -/
theorem status_failed {err : JsError} (h : uuidIn id ≠ none) :
    lookup.status toISOString id stores (some err) = if lookup = .product then 404 else 500 := by
  cases lookup with
  | user =>
    unfold Lookup.status User.getUser User.service.getUser
    rw [not_blank h]
    rfl
  | product =>
    -- the DTO's check lets every UUID pass
    have hlength : 1 ≤ id.length := by
      by_contra hlt
      have hempty : id = "" := String.length_eq_zero_iff.mp (by omega)
      rw [hempty] at h
      exact h rfl
    unfold Lookup.status Product.getProduct
    rw [if_pos hlength]
    rfl
  | order => rfl
  | payment => rfl

/-- A lookup that is answered 404 although its row is there: a product whose query fails, or one of the
    others that is asked for in another spelling. -/
def Misses (lookup : Lookup) (id : String) (stores : Stores) (failure : Option JsError) : Prop :=
  if lookup = .product then uuidIn id ≠ none ∧ failure ≠ none
  else failure = none ∧ stores.Has id lookup ∧ ¬ StoredId id

/-- What is answered with its own status to a request without a header. -/
theorem status_of_notFoundMeansAbsent (h : NotFoundMeansAbsent lookup id stores failure)
    (h404 : lookup.status toISOString id stores failure = 404) :
    (failure = none ∨ uuidIn id = none) ∧ ¬ stores.Has id lookup := by
  let s : System (obliging.reading toISOString stores failure) := ⟨(), [], []⟩
  obtain ⟨refused, hstatus, hserved⟩ := @app_status obliging toISOString id stores failure lookup
    someUuid someUuid (.ok .undefined) none s
  rw [hserved rfl rfl] at hstatus
  exact (h obliging toISOString someUuid someUuid (.ok .undefined) none s).1 (hstatus.trans h404)

/-- **Exactly when 404 means absent**: unless the products query of a UUID fails, or a user, an order or
    a payment that is there is asked for in another spelling of its id. -/
theorem notFoundMeansAbsent_iff (lookup : Lookup) (id : String) (stores : Stores)
    (failure : Option JsError) :
    NotFoundMeansAbsent lookup id stores failure ↔ ¬ Misses lookup id stores failure := by
  unfold Misses
  constructor
  · intro h
    split
    · rename_i hproduct
      subst hproduct
      rintro ⟨huuid, hfailed⟩
      obtain ⟨err, rfl⟩ := Option.ne_none_iff_exists'.mp hfailed
      have h404 : Lookup.status (fun _ => "") id stores (some err) .product = 404 :=
        status_failed huuid
      rcases (status_of_notFoundMeansAbsent h h404).1 with hcompleted | hnone
      · cases hcompleted
      · exact huuid hnone
    · rename_i hother
      rintro ⟨rfl, hhas, hspelled⟩
      have h404 : lookup.status (fun _ => "") id stores none = 404 :=
        (status_completed hhas).mpr ⟨hother, hspelled⟩
      exact (status_of_notFoundMeansAbsent h h404).2 hhas
  · intro h deps toISOString gatewayId orderServiceId body header s
    obtain ⟨refused, hstatus, -⟩ :=
      @app_status deps toISOString id stores failure lookup gatewayId orderServiceId body header s
    show (_ = 404 → _) ∧ (_ → _ → 500 ≤ _ ∧ _ < 600)
    rw [hstatus]
    cases refused with
    | true =>
      -- the gateway has refused the request itself
      rw [if_pos rfl]
      exact ⟨(nomatch ·), fun _ _ => by decide⟩
    | false =>
      rw [if_neg Bool.false_ne_true]
      cases failure with
      | none =>
        refine ⟨fun h404 => ⟨Or.inl rfl, fun hhas => ?_⟩, fun hne => absurd rfl hne⟩
        obtain ⟨hother, hspelled⟩ := (status_completed hhas).mp h404
        rw [if_neg hother] at h
        exact h ⟨rfl, hhas, hspelled⟩
      | some err =>
        by_cases huuid : uuidIn id = none
        · have habsent : ¬ stores.Has id lookup := fun hhas => has_uuid hhas huuid
          exact ⟨fun _ => ⟨Or.inr huuid, habsent⟩, fun _ hhas => absurd hhas habsent⟩
        · have hother : lookup ≠ .product := by
            rintro rfl
            rw [if_pos rfl] at h
            exact h ⟨huuid, Option.some_ne_none err⟩
          rw [status_failed huuid, if_neg hother]
          exact ⟨(nomatch ·), fun _ _ => by decide⟩

end Status

/-- One user and one pen. -/
def annAndPen : Stores where
  users := [⟨"6f0c8b1e-3d52-4b7a-9c41-0a2f5e7d9b36", "Ann", "ann@mail"⟩]
  products := [⟨"6f0c8b1e-3d52-4b7a-9c41-0a2f5e7d9b36", "Pen", .hundredths 150⟩]
  orders := []
  payments := []
  users_id := by decide +kernel
  products_id := by decide +kernel
  orders_id := nofun
  payments_id := nofun

/-- With the database gone the pen is answered 404; with the database there the user is, if her id is
    written in capitals, which find the pen. -/
theorem pen_not_found :
    ¬ NotFoundMeansAbsent .product "6f0c8b1e-3d52-4b7a-9c41-0a2f5e7d9b36" annAndPen
        (some { message := "Connection terminated unexpectedly" }) ∧
      ¬ NotFoundMeansAbsent .user "6F0C8B1E-3D52-4B7A-9C41-0A2F5E7D9B36" annAndPen none := by
  constructor
  · intro h
    have hhas : annAndPen.Has "6f0c8b1e-3d52-4b7a-9c41-0a2f5e7d9b36" .product :=
      ⟨_, List.mem_cons_self, annAndPen.products_id _ List.mem_cons_self⟩
    have hstatus := (h obliging (fun _ => "") someUuid someUuid (.ok .undefined) none
      ⟨(), [], []⟩).2 (Option.some_ne_none _) hhas
    exact absurd hstatus.1 (by decide)
  · intro h
    have hhas : annAndPen.Has "6F0C8B1E-3D52-4B7A-9C41-0A2F5E7D9B36" .user :=
      ⟨_, List.mem_cons_self, by decide +kernel⟩
    -- the user is there too, in small letters
    have hspelled : ¬ StoredId "6F0C8B1E-3D52-4B7A-9C41-0A2F5E7D9B36" := by decide +kernel
    have h404 : Lookup.status (fun _ => "") "6F0C8B1E-3D52-4B7A-9C41-0A2F5E7D9B36" annAndPen none
        .user = 404 := (status_completed hhas).mpr ⟨nofun, hspelled⟩
    exact (status_of_notFoundMeansAbsent h h404).2 hhas

end Gateway

end Microservices
