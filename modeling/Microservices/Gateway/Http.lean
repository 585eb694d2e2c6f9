/-
  The HTTP side of the gateway (api-gateway/src/middlewares/error-handler.js,
  api-gateway/src/middlewares/validate.js, api-gateway/src/utils/grpc-error.js).

  1. **Requests**: `validateBody` refuses a body in which a field is missing, before anything is
     called.
  2. **Answers**: a body with a status, or an error whose status is that of gRPC in the words of
     HTTP.
  3. **Deadlines**: `GrpcClient` is what the gateway's calls rest on: an answer in time is passed
     on, and one that is late is the error of grpc-js instead.
-/
import Microservices.Js
import Microservices.Order.Handler

namespace Microservices.Gateway

open Microservices.Order (OrderResponse UserResponse ProductResponse Failure)

/-- `Payment` of payment.proto. -/
structure PaymentInfo where
  id : String
  orderId : String
  userId : String
  amount : Float
  method : String
  status : String
  transactionId : String
  timestamp : String
  deriving DecidableEq

/-- What the gateway sends as JSON. -/
inductive Body : Type where
  | error (message : String)
  | health (status service : String)
  | user (user : UserResponse)
  | product (product : ProductResponse)
  | order (order : OrderResponse)
  | payment (payment : PaymentInfo)
  deriving DecidableEq

/-- A response, without its headers. -/
structure HttpResponse where
  status : Nat
  body : Body
  deriving DecidableEq

/-- `GRPC_TO_HTTP`, and 500 for what is not in it. -/
def grpcToHttpStatus : GrpcStatus → Nat
  | .ok => 200
  | .invalidArgument => 400
  | .failedPrecondition => 400
  | .outOfRange => 400
  | .unauthenticated => 401
  | .permissionDenied => 403
  | .notFound => 404
  | .alreadyExists => 409
  | .aborted => 409
  | .resourceExhausted => 429
  | .unimplemented => 501
  | .unavailable => 503
  | .deadlineExceeded => 504
  | _ => 500

/-- The errors grpc-js makes: of what a handler has called back with, it composes the message; and
    the one for a call whose deadline has passed. -/
structure GrpcClient where
  message : Failure → String
  late : GrpcError
  late_code : late.code = .deadlineExceeded

/-- What a handler has called back with, at its client. -/
def GrpcClient.error (client : GrpcClient) (failure : Failure) : GrpcError :=
  ⟨failure.code, failure.details, client.message failure⟩

/-- The errors as grpc-js composes them. -/
def grpcJs : GrpcClient where
  message failure := failure.details
  late := ⟨.deadlineExceeded, "Deadline exceeded", "4 DEADLINE_EXCEEDED: Deadline exceeded"⟩
  late_code := rfl

/-- What a route may throw: an error with a numeric code, which is one of gRPC, or any other. -/
inductive Thrown : Type where
  | grpc (err : GrpcError)
  | other (err : JsError)
  deriving DecidableEq

/-- `errorHandler`. -/
def errorHandler : Thrown → HttpResponse
  | .grpc err =>
    let message :=
      if err.details ≠ "" then err.details
      else if err.message ≠ "" then err.message
      else "Upstream service error"
    ⟨grpcToHttpStatus err.code, .error message⟩
  | .other _ => ⟨500, .error "Internal server error"⟩

/-- The end of a route: the response of an upstream call, or its error. -/
def respond {α : Type} (status : Nat) (body : α → Body) : Except Thrown α → HttpResponse
  | .ok a => ⟨status, body a⟩
  | .error err => errorHandler err

/-- `field` is `undefined`, `null` or empty in the body. -/
def isMissing (body : JsValue) (field : String) : Bool :=
  match body.field field with
  | .undefined => true
  | .null => true
  | .str "" => true
  | _ => false

/-- `validateBody`: the response for a body in which a required field is missing. -/
def validateBody (requiredFields : List String) (body : JsValue) : Option HttpResponse :=
  let missing := requiredFields.filter (isMissing (body.orElse (.obj [])))
  if missing.length > 0 then
    some ⟨400, .error ("Missing required fields: " ++ String.intercalate ", " missing)⟩
  else none

end Microservices.Gateway
