import Diplomacy.Index
import Diplomacy.Repository.Basic
import Diplomacy.Service.Notice
import Diplomacy.Service.Reaction
import Diplomacy.Service.Registry
import Diplomacy.Text.Quoted

/-!
The relationship service: a repository, the index of its records, and the hooks
that are consulted before a mutation. A service is built by loading the whole
repository; if that fails there is no service at all. Its questions read the
index only.
-/

namespace Diplomacy

/-- The state of a service over a repository with state `σ`, in an application
with state `ω`. -/
structure Service (σ ω : Type) where
  repository : σ
  index : Index
  hooks : Registry (Hook σ ω)
  config : Config
  /-- The thread on which mutations do not count as asynchronous. -/
  primaryThread : ThreadId
  /-- The reports made so far, in order. -/
  journal : List Notice

namespace Service

variable {σ ω : Type}

/-- Load every record of a repository and build the service. -/
def load [Repository σ] (repository : σ) (config : Config) (primaryThread : ThreadId) :
    Except LoadFailure (Service σ ω) :=
  match Repository.listAll repository with
  | .error error => .error { error }
  | .ok records =>
      let index := Index.ofRecords records
      .ok
        { repository
          index
          hooks := {}
          config
          primaryThread
          journal := [.loading, .loaded index.size] }

variable (service : Service σ ω)

def note (notices : List Notice) : Service σ ω :=
  { service with journal := service.journal ++ notices }

/-- Add a hook after all others. -/
def register (hook : Hook σ ω) : Service σ ω :=
  { service with hooks := service.hooks.register hook }

def isAsync (caller : ThreadId) : Bool := caller ≠ service.primaryThread

def edges : EdgeList := service.index.toList

def describe : String :=
  "RelationshipService \x7b relationships: " ++ toString service.index.size
    ++ ", hooks: " ++ toString service.hooks.size
    ++ ", config: RelationsConfig \x7b max_tree_depth: " ++ toString service.config.maxTreeDepth
    ++ ", max_tree_nodes: " ++ toString service.config.maxTreeNodes
    ++ ", warn_on_multiple_lieges: " ++ toString service.config.warnOnMultipleLieges
    ++ ", log_filter: " ++ Quoted.write service.config.logFilter ++ " \x7d \x7d"

/-- The answer to a question, and the warnings raised on the way. -/
def ask : (query : Query) → query.Answer × List Hierarchy.Warning
  | .get id => (service.index.get? id, [])
  | .list => (service.index.toList, [])
  | .between faction target => (service.edges.between faction target, [])
  | .outgoing faction => (service.edges.outgoing faction, [])
  | .outgoingOfStance faction stance => (service.edges.outgoingOfStance faction stance, [])
  | .liege faction => service.edges.auditedLiegeOf faction service.config.warnOnMultipleLieges
  | .vassals faction => (service.edges.vassalsOf faction, [])
  | .allies faction => (service.edges.alliesOf faction, [])
  | .atWarWith faction => (service.edges.atWarWith faction, [])
  | .isAtWar left right => (service.edges.isAtWar left right, [])
  | .areAllied left right => (service.edges.areAllied left right, [])
  | .vassalTree root => Hierarchy.vassalTree service.edges service.config.limits root
  | .liegeChain start => Hierarchy.liegeChain service.edges service.config.limits start
  | .hookCount => (service.hooks.size, [])
  | .config => (service.config, [])
  | .describe => (service.describe, [])

end Service

end Diplomacy
