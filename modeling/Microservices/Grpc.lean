/-
  What the services say to each other over gRPC: status codes and errors.

  A handler calls back with a status and its details.  What a client is given is an error of its own
  making, with the same status; an answer that comes too late is given as one of status
  DEADLINE_EXCEEDED.  The codes are those of grpc-js, of which the services use a few and the
  gateway translates all.
-/

namespace Microservices

/-- `grpc.status`. -/
inductive GrpcStatus : Type where
  | ok
  | cancelled
  | unknown
  | invalidArgument
  | deadlineExceeded
  | notFound
  | alreadyExists
  | permissionDenied
  | resourceExhausted
  | failedPrecondition
  | aborted
  | outOfRange
  | unimplemented
  | internal
  | unavailable
  | dataLoss
  | unauthenticated
  deriving DecidableEq, Repr

/-- The error a client is given: the status, its details, and the message made of both. -/
structure GrpcError where
  code : GrpcStatus
  details : String
  message : String
  deriving DecidableEq, Repr

end Microservices
