import FabricHost.Attempt.Rules

/-!
# The store of attempts

The named attempts of this host in the order they were added, with the host defaults. Every operation checks what it
lets in, so names stay distinct, and the count among the defaults follows the number of attempts.
-/

namespace FabricHost

/-- The named attempts of a host and its defaults. -/
structure AttemptStore where
  defaults : HostDefaults
  attempts : List Attempt := []
deriving DecidableEq, Repr

namespace AttemptStore

/-- The store of a host that never stored anything, under an identifier made for it. -/
def fresh (hostId : Uuid) : AttemptStore where
  defaults := { enabled := true, hostId }

def names (store : AttemptStore) : List String := store.attempts.map Attempt.name

/-- The store with its count brought up to date. A count that does not fit stays at the largest. -/
def recount (store : AttemptStore) : AttemptStore :=
  { store with
    defaults := { store.defaults with targetCount := UInt16.ofNat (min store.attempts.length Limits.setCount) } }

def get? (store : AttemptStore) (name : String) : Option Attempt := store.attempts.find? (·.name = name)

def enabled (store : AttemptStore) : List Attempt := store.attempts.filter Attempt.enabled

/-- Where the attempt of a name stands. -/
def position? (store : AttemptStore) (name : String) : Option Nat := store.attempts.findIdx? (·.name = name)

def add (store : AttemptStore) (attempt : Attempt) : Except AttemptError AttemptStore := do
  attempt.check store.names
  return recount { store with attempts := store.attempts ++ [attempt] }

/-- Replaces the attempt of a name by another, which may have another name. -/
def update (store : AttemptStore) (name : String) (attempt : Attempt) : Except AttemptError AttemptStore :=
  match store.position? name with
  | none => .error (.unknownAttempt name)
  | some i => do
    attempt.check (store.names.eraseIdx i)
    return { store with attempts := store.attempts.set i attempt }

def remove (store : AttemptStore) (name : String) : Except AttemptError (Attempt × AttemptStore) :=
  match store.attempts.find? (·.name = name) with
  | none => .error (.unknownAttempt name)
  | some attempt =>
    .ok (attempt, recount { store with attempts := store.attempts.eraseP (·.name = name) })

/-- Changes the defaults. The count among them is not theirs to change. -/
def updateDefaults (store : AttemptStore) (change : HostDefaults → HostDefaults) : AttemptStore :=
  recount { store with defaults := change store.defaults }

end AttemptStore

end FabricHost
