import Diplomacy.Event

/-!
The hooks that are consulted before a mutation, in registration order. A
dispatch works on the hooks that were registered when it began: it consults them
one after another until one vetoes, and what is registered meanwhile takes part
only in later dispatches.
-/

namespace Diplomacy

/-- Registered hooks of type `η`, first registered first. -/
structure Registry (η : Type) where
  hooks : List η := []

namespace Registry

variable {η : Type}

instance : Inhabited (Registry η) := ⟨{}⟩

/-- Add a hook after all others. -/
def register (registry : Registry η) (hook : η) : Registry η :=
  { hooks := registry.hooks ++ [hook] }

def size (registry : Registry η) : Nat := registry.hooks.length

def isEmpty (registry : Registry η) : Bool := registry.hooks.isEmpty

/-- Consult hooks one after another until one vetoes. -/
def consultUntilVeto {m : Type → Type} [Monad m] (consult : η → Event → m Decision)
    (event : Event) : List η → m Decision
  | [] => pure .proceed
  | hook :: hooks => do
      match ← consult hook event with
      | .cancel reason => pure (.cancel reason)
      | .proceed => consultUntilVeto consult event hooks

/-- Announce an event to the hooks that are registered now. `consult` runs a
hook, which may have effects of its own. -/
def dispatch {m : Type → Type} [Monad m] (registry : Registry η)
    (consult : η → Event → m Decision) (event : Event) : m Decision :=
  consultUntilVeto consult event registry.hooks

def describe (registry : Registry η) : String :=
  "HookRegistry \x7b hooks: " ++ toString registry.size ++ " \x7d"

end Registry

end Diplomacy
