import Diplomacy.Repository.Error

/-!
Failures of the service. A mutation fails in one of three kinds, by which
callers branch, and carries what caused it.
-/

namespace Diplomacy

namespace Failure

inductive Kind where
  /-- The repository holds another version of the record. -/
  | conflict
  | cancelled
  | general
deriving DecidableEq, Repr

def Kind.name : Kind → String
  | .conflict => "CONFLICT"
  | .cancelled => "CANCELLED"
  | .general => "GENERAL"

inductive Cause where
  | repository (error : RepositoryError)
  | veto (reason : String)
  /-- A cause from elsewhere, with the causes below it. -/
  | other (message : String) (deeper : List String)
deriving DecidableEq

namespace Cause

def message : Cause → String
  | .repository error => error.message
  | .veto reason => s!"Event cancelled: {reason}"
  | .other message _ => message

/-- The causes below a cause, outermost first. -/
def deeper : Cause → List String
  | .repository error => error.causes
  | .veto _ => []
  | .other _ deeper => deeper

end Cause

end Failure

structure Failure where
  kind : Failure.Kind
  cause : Failure.Cause
deriving DecidableEq

namespace Failure

def cancelled (reason : String) : Failure := { kind := .cancelled, cause := .veto reason }

def ofRepositoryError (error : RepositoryError) : Failure where
  kind := if error.isConflict then .conflict else .general
  cause := .repository error

variable (failure : Failure)

def message : String := s!"Service error: {failure.cause.message}"

/-- The causes of a failure, outermost first. -/
def causes : List String := failure.cause.message :: failure.cause.deeper

def isConflict : Bool := failure.kind = .conflict

def isCancelled : Bool := failure.kind = .cancelled

end Failure

/-- Why a service could not be built: its repository could not be listed. -/
structure LoadFailure where
  error : RepositoryError
deriving DecidableEq

namespace LoadFailure

variable (failure : LoadFailure)

def message : String := s!"Failed to load faction relationships: {failure.error.message}"

/-- The causes of a failed load, outermost first. -/
def causes : List String := failure.error.message :: failure.error.causes

end LoadFailure

end Diplomacy
