import ToolGateway.Backend

/-!
# Status codes of remote calls

A remote call that fails ends with a status code and a message. Codes that say that the service is
out of reach or broke down count as unavailability; all others are the service's own refusals.
-/

namespace ToolGateway

/-- The status code of a remote call. -/
inductive StatusCode where
  | ok
  | cancelled
  | unknown
  | invalidArgument
  | deadlineExceeded
  | notFound
  | alreadyExists
  | permissionDenied
  | resourceExhausted
  | failedPrecondition
  | aborted
  | outOfRange
  | unimplemented
  | internal
  | unavailable
  | dataLoss
  | unauthenticated
deriving DecidableEq, Inhabited

namespace StatusCode

/-- The codes in the order of their numbers, from zero. -/
def all : List StatusCode :=
  [ok, cancelled, unknown, invalidArgument, deadlineExceeded, notFound, alreadyExists,
    permissionDenied, resourceExhausted, failedPrecondition, aborted, outOfRange, unimplemented,
    internal, unavailable, dataLoss, unauthenticated]

/-- The code of a number; a number without one is unknown. -/
def ofNumber (number : Int) : StatusCode :=
  if number < 0 then unknown else all[number.toNat]?.getD unknown

def label : StatusCode → String
  | ok => "OK"
  | cancelled => "CANCELLED"
  | unknown => "UNKNOWN"
  | invalidArgument => "INVALID_ARGUMENT"
  | deadlineExceeded => "DEADLINE_EXCEEDED"
  | notFound => "NOT_FOUND"
  | alreadyExists => "ALREADY_EXISTS"
  | permissionDenied => "PERMISSION_DENIED"
  | resourceExhausted => "RESOURCE_EXHAUSTED"
  | failedPrecondition => "FAILED_PRECONDITION"
  | aborted => "ABORTED"
  | outOfRange => "OUT_OF_RANGE"
  | unimplemented => "UNIMPLEMENTED"
  | internal => "INTERNAL"
  | unavailable => "UNAVAILABLE"
  | dataLoss => "DATA_LOSS"
  | unauthenticated => "UNAUTHENTICATED"

/-- Whether a code says that the service is out of reach or broke down. -/
def meansUnavailable : StatusCode → Bool
  | unavailable | deadlineExceeded | unknown | internal | cancelled => true
  | _ => false

end StatusCode

/-- How a remote call fails. -/
structure RemoteStatus where
  code : StatusCode
  message : String
deriving DecidableEq, Inhabited

/-- The failure a backend reports for a failed remote call. -/
def RemoteStatus.toBackendError (status : RemoteStatus) : BackendError :=
  if status.code.meansUnavailable then .unavailable status.message
  else .domain status.code.label status.message

end ToolGateway
