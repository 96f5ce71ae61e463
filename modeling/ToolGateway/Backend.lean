import ToolGateway.Json.Basic

/-!
# Backends

A backend is whatever carries out the methods of a service. It has a state of its own, and a call
ends with a result, with a refusal by the service, with the service out of reach, or by breaking off
in the middle.
-/

namespace ToolGateway

/-- The failure a backend reports. -/
inductive BackendError where
  /-- The service understood the call and refused it. -/
  | domain (kind message : String)
  /-- The service could not be reached or failed unexpectedly. -/
  | unavailable (message : String)
deriving DecidableEq, Inhabited

namespace BackendError

def notFound (message : String) : BackendError := domain "NOT_FOUND" message

def invalidArgument (message : String) : BackendError := domain "INVALID_ARGUMENT" message

def unimplemented (message : String) : BackendError := domain "UNIMPLEMENTED" message

def message : BackendError → String
  | domain _ message => message
  | unavailable message => message

def display : BackendError → String
  | domain kind message => kind ++ ": " ++ message
  | unavailable message => "Backend unavailable: " ++ message

end BackendError

/-- How a call ends. -/
inductive Outcome (α : Type) where
  | done (result : α)
  | failed (error : BackendError)
  /-- The backend broke off without an answer. -/
  | aborted
deriving Inhabited

/-- The outcome of a call that does not break off. -/
def Outcome.ofExcept {α : Type} : Except BackendError α → Outcome α
  | .ok result => .done result
  | .error error => .failed error

/-- A service implementation with states `σ`. -/
structure Backend (σ : Type) where
  /-- Carries out a method with the arguments of a request. -/
  invoke : String → Json.Object → σ → Outcome Json × σ
  /-- The representation of a resource type. -/
  materialize : String → σ → Outcome String × σ

/-- A call that reached a backend. -/
inductive Call where
  | invoke (method : String) (request : Json.Object)
  | materialize (typeName : String)
deriving Inhabited

/-- A backend that keeps the calls that reached it, the last one first. -/
def Backend.recorded {σ : Type} (backend : Backend σ) : Backend (σ × List Call) where
  invoke method request state :=
    let (outcome, inner) := backend.invoke method request state.1
    (outcome, inner, .invoke method request :: state.2)
  materialize typeName state :=
    let (outcome, inner) := backend.materialize typeName state.1
    (outcome, inner, .materialize typeName :: state.2)

end ToolGateway
