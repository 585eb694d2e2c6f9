/-
  The gRPC handlers of order-service (order-service/src/handlers/order.handler.js).

  `createOrder` checks its request and runs a saga, `getOrder` makes one query.  Both answer with
  the row that they have got, or with a failure: a request that is refused, an order that does not
  exist, and everything else as INTERNAL, with the text of the saga's error in one case and without
  any in the other.

  What a saga is, and what it returns, is `Order.Saga`; here are only the two ends of it.
-/
import Microservices.Grpc
import Microservices.Order.Saga

namespace Microservices.Order

/-- `OrderResponse` of order.proto. -/
structure OrderResponse where
  id : String
  userId : String
  productId : String
  quantity : Int32
  totalPrice : Float
  userName : String
  productName : String
  deriving DecidableEq

/-- A row of `orders` as a response. -/
def toResponse (order : OrderRow) : OrderResponse where
  id := order.id
  userId := order.userId
  productId := order.productId
  quantity := order.quantity
  totalPrice := order.totalPrice.toNumber
  userName := order.userName
  productName := order.productName

/-- What a handler calls back with: a status and its details. -/
structure Failure where
  code : GrpcStatus
  details : String
  deriving DecidableEq

/-- The request passes the check of `createOrder`. -/
def CreateOrder.Accepted (input : CreateOrder) : Prop :=
  input.userId ≠ "" ∧ input.productId ≠ "" ∧ input.quantity ≠ 0 ∧ ¬ input.quantity ≤ 0

/-- Whether a request is accepted can be computed. -/
instance (input : CreateOrder) : Decidable input.Accepted :=
  inferInstanceAs (Decidable (_ ∧ _ ∧ _ ∧ _))

/-- What `createOrder` calls back with for a request it does not accept. -/
def notAccepted : Failure :=
  ⟨.invalidArgument, "userId, productId and a positive quantity are required"⟩

/-- What `createOrder` calls back with when the saga has ended. -/
def createOrderReply : Except JsError OrderRow → Except Failure OrderResponse
  | .ok order => .ok (toResponse order)
  | .error err => .error ⟨.internal, "Failed to create order: " ++ err.message⟩

/-- What `getOrder` calls back with when the `SELECT` has ended. -/
def getOrderReply (id : String) : Except JsError (Option OrderRow) → Except Failure OrderResponse
  | .ok (some order) => .ok (toResponse order)
  | .ok none => .error ⟨.notFound, "Order not found: " ++ id⟩
  | .error _ => .error ⟨.internal, "internal error"⟩

end Microservices.Order
