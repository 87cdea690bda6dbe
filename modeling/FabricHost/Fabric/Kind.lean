/-!
# Kinds of fabric

The networks that can carry the protocol. Their names are read without regard to ASCII case.
-/

namespace FabricHost

/-- A network that can carry the protocol. -/
inductive FabricKind where
  | tcp
  | rdma
deriving DecidableEq, Repr

namespace FabricKind

def text : FabricKind → String
  | tcp => "tcp"
  | rdma => "rdma"

/-- The name with its ASCII letters in lower case. -/
def lowerCase (name : String) : String := String.ofList (name.toList.map Char.toLower)

/-- The kind of a name. -/
def parse? (name : String) : Option FabricKind :=
  if lowerCase name = "tcp" then some tcp
  else if lowerCase name = "rdma" then some rdma
  else none

theorem parse?_text (kind : FabricKind) : parse? kind.text = some kind := by cases kind <;> decide

end FabricKind

end FabricHost
