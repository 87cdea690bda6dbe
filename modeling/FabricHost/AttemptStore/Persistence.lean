import FabricHost.AttemptStore.Basic
import FabricHost.Record.Layout
import FabricHost.Variables.Directory

/-!
# Keeping a store in variables

A store is kept in two variables, the defaults in one and the attempts in the other. Both are encoded before either is
written, and the attempts are written first, so that a save which fails on the way leaves records that load again.
Loading checks each attempt against those before it.
-/

namespace FabricHost

inductive PersistenceError where
  | storage (error : VariableError)
  | record (variableName : String) (error : RecordError)
  | attempt (index : Nat) (error : AttemptError)
deriving DecidableEq, Repr

namespace PersistenceError

def message : PersistenceError → String
  | storage error => error.message
  | record variableName error => s!"Record {variableName}: {error.message}"
  | attempt index error => s!"Stored attempt {index}: {error.message}"

end PersistenceError

namespace AttemptStore

variable {S : Type} [VariableStore S]

def defaultsVariable : String := "NvmeofGlobalData"

def attemptsVariable : String := "NvmeofAttemptData"

/-- Checks each attempt against those before it. -/
def checkStored : (earlier later : List Attempt) → Except PersistenceError Unit
  | _, [] => .ok ()
  | earlier, attempt :: later => do
    (attempt.check (earlier.map Attempt.name)).mapError (.attempt earlier.length)
    checkStored (earlier ++ [attempt]) later

/-- Reads a store. Without stored defaults there is nothing stored yet, and the store is a fresh one under the given
identifier. -/
def load (freshId : Uuid) (vars : S) : Except PersistenceError AttemptStore := do
  match ← (VariableStore.get defaultsVariable vars).mapError .storage with
  | none => return fresh freshId
  | some raw =>
    let defaults ← (HostDefaults.decode raw).mapError (.record defaultsVariable)
    let attempts ← match ← (VariableStore.get attemptsVariable vars).mapError .storage with
      | none => pure []
      | some raw => (Attempt.decodeSet raw).mapError (.record attemptsVariable)
    checkStored [] attempts
    return recount { defaults, attempts }

/-- Reads a store, or makes a fresh one where what is stored cannot be used. -/
def loadOrFresh (freshId : Uuid) (vars : S) : AttemptStore :=
  match load freshId vars with
  | .ok store => store
  | .error _ => fresh freshId

def encode (store : AttemptStore) : Except PersistenceError (Bytes × Bytes) := do
  let defaults ← store.defaults.encode.mapError (.record defaultsVariable)
  let attempts ← (Attempt.encodeSet store.attempts).mapError (.record attemptsVariable)
  return (defaults, attempts)

def save (store : AttemptStore) (vars : S) : Except PersistenceError Unit × S :=
  match store.encode with
  | .error error => (.error error, vars)
  | .ok (defaults, attempts) =>
    match VariableStore.set attemptsVariable attempts vars with
    | (.error error, vars) => (.error (.storage error), vars)
    | (.ok (), vars) =>
      let (written, vars) := VariableStore.set defaultsVariable defaults vars
      (written.mapError .storage, vars)

end AttemptStore

end FabricHost
