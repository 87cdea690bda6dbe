import FabricHost.Bytes
import Std.Data.ExtTreeMap

/-!
# Named variables

Stored records live in named byte strings. `VariableStore` says what a place that keeps them can do; a write or a
removal may fail, and then says so.
-/

namespace FabricHost

inductive VariableError where
  /-- The place that keeps the variables failed at this file. -/
  | io (file : String)
  | invalidName (name : String)
deriving DecidableEq, Repr

/-- A place that keeps named byte strings. -/
class VariableStore (S : Type) where
  /-- The value of a variable, none if it was never written. -/
  get : (name : String) → (store : S) → Except VariableError (Option Bytes)
  /-- Creates or replaces a variable. -/
  set : (name : String) → (value : Bytes) → (store : S) → Except VariableError Unit × S
  /-- Deletes a variable. Deleting a missing one is no error. -/
  remove : (name : String) → (store : S) → Except VariableError Unit × S

/-- Variables kept in memory. Every name is good, and nothing fails. -/
structure MemoryVariables where
  values : Std.ExtTreeMap String Bytes := ∅

namespace MemoryVariables

instance : VariableStore MemoryVariables where
  get name store := .ok store.values[name]?
  set name value store := (.ok (), { values := store.values.insert name value })
  remove name store := (.ok (), { values := store.values.erase name })

end MemoryVariables

end FabricHost
