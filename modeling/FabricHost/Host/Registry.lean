import FabricHost.Session.Basic

/-!
# The registry of sessions

The sessions of a host in the order they were connected, each under a key of its own, and no more than a fixed number.
-/

namespace FabricHost

structure Registry (C Q : Type) where
  limit : Nat
  sessions : List (Session C Q) := []

namespace Registry

variable {C Q : Type}

def keys (registry : Registry C Q) : List SessionKey := registry.sessions.map Session.key

def size (registry : Registry C Q) : Nat := registry.sessions.length

def isFull (registry : Registry C Q) : Bool := registry.limit ≤ registry.size

def find? (registry : Registry C Q) (key : SessionKey) : Option (Session C Q) :=
  registry.sessions.find? (·.key = key)

def contains (registry : Registry C Q) (key : SessionKey) : Bool := (registry.find? key).isSome

def insert (registry : Registry C Q) (session : Session C Q) : Except HostError (Registry C Q) :=
  if registry.contains session.key then .error (.duplicateSession session.key)
  else if registry.isFull then .error (.outOfResources (.sessions registry.limit))
  else .ok { registry with sessions := registry.sessions ++ [session] }

def erase (registry : Registry C Q) (key : SessionKey) : Registry C Q :=
  { registry with sessions := registry.sessions.eraseP (·.key = key) }

/-- Puts a session in the place of the one of the same key. -/
def replace (registry : Registry C Q) (session : Session C Q) : Registry C Q :=
  { registry with
    sessions := registry.sessions.map fun other => if other.key = session.key then session else other }

end Registry

end FabricHost
