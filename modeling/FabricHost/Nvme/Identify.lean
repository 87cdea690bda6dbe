import FabricHost.Text.Utf8

/-!
# Identify pages

A controller describes itself and its namespaces in pages of 4096 bytes. The fields that are read here stand at fixed
positions; what is between them is zero when a page is written and ignored when one is read. Texts are padded with
spaces, and spaces and NUL bytes behind a text are not part of it.
-/

namespace FabricHost

/-- Why a page cannot be read. -/
inductive PageError where
  | short (length : Nat)
  | unusableBlockSize (nsid : UInt32) (shift : UInt8)
deriving DecidableEq, Repr

namespace Page

def length : Nat := 4096

end Page

namespace PageError

def message : PageError → String
  | short n => s!"identify page is {n} bytes, expected {Page.length}"
  | unusableBlockSize nsid shift => s!"namespace {nsid} reports unusable LBA data size 2^{shift}"

end PageError

namespace Page

/-- The number in `width` bytes from `start`, low byte first. -/
def number (page : Bytes) (start width : Nat) : Nat := Bytes.toNatLE (Bytes.slice page start width)

/-- A text without the padding behind it. -/
def trimPadding (s : String) : String :=
  String.ofList (s.toList.reverse.dropWhile fun c => c = ' ' ∨ c = '\x00').reverse

def text (page : Bytes) (start width : Nat) : String :=
  trimPadding (Utf8.decodeLossy (Bytes.slice page start width))

/-- A text cut or padded to `width` bytes. -/
def padText (width : Nat) (s : String) : Bytes :=
  let bytes := (Utf8.encode s).take width
  bytes ++ List.replicate (width - bytes.length) 0x20

/-- Refuses pages that are too short. Longer ones are read to the size of a page. -/
def check (page : Bytes) : Except PageError Unit :=
  if page.length < length then .error (.short page.length) else .ok ()

/-- The smallest and largest binary logarithm of a block size that can be used. -/
def minShift : UInt8 := 9
def maxShift : UInt8 := 16

end Page

structure ControllerInfo where
  vendorId : UInt16 := 0
  serialNumber : String := ""
  modelNumber : String := ""
  firmwareRevision : String := ""
  controllerId : UInt16 := 0
  namespaceCount : UInt32 := 0
deriving DecidableEq, Repr

namespace ControllerInfo

def toPage (info : ControllerInfo) : Bytes :=
  Bytes.ofNatLE 2 info.vendorId.toNat ++ Bytes.zeros 2 ++
    Page.padText 20 info.serialNumber ++ Page.padText 40 info.modelNumber ++ Page.padText 8 info.firmwareRevision ++
    Bytes.zeros 6 ++ Bytes.ofNatLE 2 info.controllerId.toNat ++ Bytes.zeros 436 ++
    Bytes.ofNatLE 4 info.namespaceCount.toNat ++ Bytes.zeros 3576

def ofPage (page : Bytes) : Except PageError ControllerInfo := do
  Page.check page
  return {
    vendorId := UInt16.ofNat (Page.number page 0 2)
    serialNumber := Page.text page 4 20
    modelNumber := Page.text page 24 40
    firmwareRevision := Page.text page 64 8
    controllerId := UInt16.ofNat (Page.number page 78 2)
    namespaceCount := UInt32.ofNat (Page.number page 516 4) }

end ControllerInfo

structure NamespaceInfo where
  nsid : UInt32 := 0
  sizeBlocks : UInt64 := 0
  capacityBlocks : UInt64 := 0
  utilizationBlocks : UInt64 := 0
  /-- The binary logarithm of the block size. -/
  blockShift : UInt8 := 0
  /-- The globally unique identifier. -/
  guid : Vector UInt8 16 := Vector.replicate 16 0
deriving DecidableEq, Repr

namespace NamespaceInfo

def blockSize (info : NamespaceInfo) : Nat := 1 <<< info.blockShift.toNat

/-- The page of a namespace that has one block format. -/
def toPage (info : NamespaceInfo) : Bytes :=
  Bytes.ofNatLE 8 info.sizeBlocks.toNat ++ Bytes.ofNatLE 8 info.capacityBlocks.toNat ++
    Bytes.ofNatLE 8 info.utilizationBlocks.toNat ++ Bytes.zeros 80 ++ info.guid.toList ++ Bytes.zeros 10 ++
    [info.blockShift] ++ Bytes.zeros 3965

/-- The binary logarithm of the block size in the format that the namespace uses, one of sixteen. -/
def shiftOfPage (page : Bytes) : Nat :=
  let format := Page.number page 26 1 % 16
  Page.number page (128 + 4 * format + 2) 1

/-- The sixteen bytes of the globally unique identifier. -/
def guidOfPage (page : Bytes) : Vector UInt8 16 := Vector.ofFn fun i => page.getD (104 + i.val) 0

/-- Reads the page of namespace `nsid`. -/
def ofPage (nsid : UInt32) (page : Bytes) : Except PageError NamespaceInfo := do
  Page.check page
  let shift := UInt8.ofNat (shiftOfPage page)
  if shift < Page.minShift ∨ Page.maxShift < shift then
    throw (.unusableBlockSize nsid shift)
  return {
    nsid
    sizeBlocks := UInt64.ofNat (Page.number page 0 8)
    capacityBlocks := UInt64.ofNat (Page.number page 8 8)
    utilizationBlocks := UInt64.ofNat (Page.number page 16 8)
    blockShift := shift
    guid := guidOfPage page }

end NamespaceInfo

end FabricHost
