import Diplomacy.Hierarchy.Limits
import Diplomacy.Text.Blank

/-!
The configuration of the relationship service. Every field has a default, and a
configuration is valid if both bounds are at least one and the log filter says
something.
-/

namespace Diplomacy

structure Config where
  /-- The deepest level that a derivation descends to. -/
  maxTreeDepth : Nat := 64
  /-- The most nodes of a single vassal tree. -/
  maxTreeNodes : Nat := 4096
  /-- Whether to warn about a faction that records more than one `LIEGE` edge. -/
  warnOnMultipleLieges : Bool := true
  /-- The directives by which log records are filtered. -/
  logFilter : String := "info"
deriving DecidableEq, Repr, Inhabited

namespace Config

inductive Invalid where
  | depthIsZero
  | nodesAreZero
  | filterIsBlank
deriving DecidableEq, Repr

def Invalid.message : Invalid → String
  | .depthIsZero => "Invalid configuration: max_tree_depth must be at least 1"
  | .nodesAreZero => "Invalid configuration: max_tree_nodes must be at least 1"
  | .filterIsBlank => "Invalid configuration: log_filter must not be empty"

variable (config : Config)

/-- The first thing that is wrong with a configuration, or nothing. -/
def validate : Except Invalid Unit :=
  if config.maxTreeDepth = 0 then .error .depthIsZero
  else if config.maxTreeNodes = 0 then .error .nodesAreZero
  else if Blank.isBlankText config.logFilter then .error .filterIsBlank
  else .ok ()

/-- The bounds that a configuration sets for derivations. -/
def limits : Hierarchy.Limits where
  maxDepth := config.maxTreeDepth
  maxNodes := config.maxTreeNodes
  warnOnMultipleLieges := config.warnOnMultipleLieges

theorem validate_eq_ok_iff {config : Config} :
    config.validate = .ok () ↔
      0 < config.maxTreeDepth ∧ 0 < config.maxTreeNodes ∧
        Blank.isBlankText config.logFilter = false := by
  unfold validate
  split
  · simp [*]
  · split
    · simp [*]
    · split
      · simp [*]
      · simp [*]
        omega

end Config

end Diplomacy
