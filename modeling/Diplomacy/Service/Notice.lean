import Diplomacy.Event
import Diplomacy.Hierarchy.Warning
import Diplomacy.Repository.Error

/-!
What the service reports while it works, and how a report is written as a log
record.
-/

namespace Diplomacy

structure LogRecord where
  level : String
  message : String
  fields : List (String × String)
deriving DecidableEq, Repr

namespace Hierarchy.Warning

def record (warning : Warning) : LogRecord :=
  let write (message : String) (fields : List (String × String)) : LogRecord :=
    { level := "WARN", message, fields }
  match warning with
  | .multipleLieges faction count =>
      write "Faction records multiple liege relationships; only the first is used"
        [("faction", toString faction), ("liege_edges", toString count)]
  | .treeDepth faction maxDepth =>
      write "Vassal tree depth limit reached, truncating"
        [("faction", toString faction), ("max_depth", toString maxDepth)]
  | .treeCycle faction vassal =>
      write "Cycle in vassal relationships, not expanding"
        [("faction", toString faction), ("vassal", toString vassal)]
  | .treeBudget faction maxNodes =>
      write "Vassal tree node budget exhausted, truncating"
        [("faction", toString faction), ("max_nodes", toString maxNodes)]
  | .chainCycle faction liege =>
      write "Cycle in liege relationships, stopping chain"
        [("faction", toString faction), ("liege", toString liege)]
  | .chainDepth start maxDepth =>
      write "Liege chain depth limit reached, truncating"
        [("faction", toString start), ("max_depth", toString maxDepth)]

end Hierarchy.Warning

inductive Notice where
  | loading
  | loaded (count : Nat)
  | warning (raised : Hierarchy.Warning)
  | cancelled (event : Event) (reason : String)
  | saveFailed (id : RelationshipId) (error : RepositoryError)
  /-- A commit came too late for the index, which holds a newer one. -/
  | superseded (id : RelationshipId) (version : Version)
  | saved (id : RelationshipId) (committed : Relationship)
  | deleteFailed (id : RelationshipId) (error : RepositoryError)
  | deleted (id : RelationshipId)
deriving DecidableEq

namespace Notice

/-- A report as a log record. Where the time that a load took would stand, it says `T`. -/
def record : Notice → LogRecord
  | .loading => { level := "INFO", message := "Loading faction relationships...", fields := [] }
  | .loaded count =>
      { level := "INFO", message := s!"{count} faction relationships loaded (Tms)", fields := [] }
  | .warning raised => raised.record
  | .cancelled event reason =>
      { level := "INFO"
        message := s!"Relationship {event.kind} cancelled by hook: {reason}"
        fields := [("relationship", toString event.id), ("event", event.kind)] }
  | .saveFailed id error =>
      { level := "WARN"
        message := s!"Failed to save relationship: {error.message}"
        fields := [("relationship", toString id)] }
  | .superseded id version =>
      { level := "DEBUG"
        message := "Newer revision already indexed"
        fields := [("relationship", toString id), ("version", toString version)] }
  | .saved id committed =>
      { level := "DEBUG"
        message := "Relationship saved"
        fields :=
          [("relationship", toString id), ("faction", toString committed.faction),
           ("target", toString committed.target), ("kind", toString committed.stance),
           ("version", toString committed.version)] }
  | .deleteFailed id error =>
      { level := "WARN"
        message := s!"Failed to delete relationship: {error.message}"
        fields := [("relationship", toString id)] }
  | .deleted id =>
      { level := "DEBUG"
        message := "Relationship deleted"
        fields := [("relationship", toString id)] }

end Notice

end Diplomacy
