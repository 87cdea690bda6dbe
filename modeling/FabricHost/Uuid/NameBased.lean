import FabricHost.Digest.Sha1
import FabricHost.Text.Utf8
import FabricHost.Uuid.Basic

/-!
# Name-based identifiers

The identifier of a name inside a namespace is cut from the digest of the namespace followed by the name, so equal
names have equal identifiers.
-/

namespace FabricHost.Uuid

/-- The identifier of a name in a namespace. -/
def ofName (space : Uuid) (name : String) : Uuid :=
  withVersion 5 ((ofBytes? ((Sha1.digest (space.toBytes ++ Utf8.encode name)).take 16)).getD nil)

end FabricHost.Uuid
