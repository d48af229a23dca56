import Diplomacy.Identifier.Text
import Diplomacy.Relationship

/-!
Why a repository refuses an operation.
-/

namespace Diplomacy

inductive RepositoryError where
  /-- The stored version differs from the submitted one. -/
  | conflict (id : RelationshipId) (expected actual : Version)
  | notFound (id : RelationshipId)
  /-- The storage below failed. The causes are texts, each explaining the one before. -/
  | storage (description : String) (causes : List String)
deriving DecidableEq

namespace RepositoryError

def isConflict : RepositoryError → Bool
  | .conflict _ _ _ => true
  | _ => false

def message : RepositoryError → String
  | .conflict id expected actual =>
      s!"Optimistic locking failure for relationship {id}: "
        ++ s!"expected version {expected}, found {actual}"
  | .notFound id => s!"Relationship not found: {id}"
  | .storage description _ => s!"Storage error: {description}"

/-- The causes below an error, outermost first. -/
def causes : RepositoryError → List String
  | .storage _ causes => causes
  | _ => []

end RepositoryError

end Diplomacy
