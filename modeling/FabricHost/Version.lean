import FabricHost.Record.Limits

/-!
# Versions

What the program says about its own version and the formats it speaks.
-/

namespace FabricHost

structure Revision where
  major : UInt16
  minor : UInt8
  tertiary : UInt8
deriving DecidableEq, Repr

namespace Revision

/-- The numbers with dots between them. A third number of zero is left out. -/
def text (revision : Revision) : String :=
  if revision.tertiary = 0 then s!"{revision.major}.{revision.minor}"
  else s!"{revision.major}.{revision.minor}.{revision.tertiary}"

end Revision

/-- The versions of the program and of what it reads, writes and speaks. -/
structure VersionInfo where
  program : String := "0.1.0"
  record : UInt16 := UInt16.ofNat Limits.recordVersion
  protocol : Revision := ⟨1, 1, 0⟩
deriving DecidableEq, Repr

namespace VersionInfo

def text (version : VersionInfo) : String :=
  s!"nvmf-initiator {version.program} (record v{version.record}, NVMe-oF {version.protocol.text})"

end VersionInfo

end FabricHost
