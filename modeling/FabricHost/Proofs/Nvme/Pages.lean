import FabricHost.Nvme.Identify
import Mathlib.Data.List.DropRight
import Mathlib.Tactic.Lemma

/-!
# Identify pages are read back, and read inside their bytes

What is written in a page stands where it is looked for, so a page gives back what it was made of: texts if they fit their
fields and do not end in padding, and the block size of a namespace if it is one that can be used. A `scan` reads a page
and trusts that the bytes it asks for are there. The readers of pages are scans that count the bytes first, so there is
no page that they read past the end of, whichever block format it selects.
-/

namespace FabricHost

namespace Bytes

variable {front rest : Bytes} {start n : Nat}

@[simp] lemma slice_skip (h : front.length ≤ start) : slice (front ++ rest) start n = slice rest (start - front.length) n := by
  rw [slice, slice, List.drop_append, List.drop_of_length_le h, List.nil_append]

@[simp] lemma slice_front (h : front.length = n) : slice (front ++ rest) 0 n = front := by
  rw [slice, List.drop_zero, List.take_left' h]

@[simp] lemma slice_zeros {m : Nat} (h : start + n ≤ m) : slice (zeros m ++ rest) start n = zeros n := by
  have hstart : start ≤ (zeros m).length := by rw [length_zeros]; omega
  have hrest : n ≤ ((zeros m).drop start).length := by rw [List.length_drop, length_zeros]; omega
  rw [slice, List.drop_append_of_le_length hstart, List.take_append_of_le_length hrest, zeros, List.drop_replicate,
    List.take_replicate, Nat.min_eq_left (by omega), zeros]

@[simp] lemma slice_cons (first : UInt8) (rest : Bytes) : slice (first :: rest) 0 1 = [first] := rfl

/-- One byte is cut out by its position. -/
lemma slice_one {bytes : Bytes} (h : start < bytes.length) : slice bytes start 1 = [bytes[start]] := by
  rw [slice, List.drop_eq_getElem_cons h, List.take_succ_cons, List.take_zero]

lemma getD_slice {bytes : Bytes} {i : Nat} (h : i < n) : (slice bytes start n).getD i 0 = bytes.getD (start + i) 0 := by
  rw [List.getD_eq_getElem?_getD, List.getD_eq_getElem?_getD, slice, List.getElem?_take_of_lt h, List.getElem?_drop]

end Bytes

lemma Utf8.encode_append (s t : String) : encode (s ++ t) = encode s ++ encode t := by
  simp only [encode, String.toByteArray_append, ByteArray.data_append, Array.toList_append]

namespace Page

variable {page : Bytes} {start width : Nat}

@[simp] lemma length_padText (width : Nat) (s : String) : (padText width s).length = width := by
  rw [padText, List.length_append, List.length_replicate, List.length_take]
  omega

lemma check_of_le (h : length ≤ page.length) : check page = .ok () :=
  if_neg (Nat.not_lt.mpr h)

lemma check_of_lt (h : page.length < length) : check page = .error (.short page.length) :=
  if_pos h

lemma number_of_slice {n : Nat} (h : Bytes.slice page start width = Bytes.ofNatLE width n)
    (hn : n < Bytes.reach width) : number page start width = n := by
  rw [number, h, Bytes.toNatLE_ofNatLE, Nat.mod_eq_of_lt hn]

lemma number_one (h : start < page.length) : number page start 1 = page[start].toNat := by
  rw [number, Bytes.slice_one h, Bytes.toNatLE, Bytes.toNatLE]
  omega

/-! ### Padded texts -/

/-- A text that a field of `width` bytes holds: it is not too long, and none of it is taken for padding. -/
structure Holds (width : Nat) (s : String) : Prop where
  fits : s.utf8ByteSize ≤ width
  ends : ∀ c, s.toList.getLast? = some c → c ≠ ' ' ∧ c ≠ '\x00'

lemma encode_spaces (n : Nat) : Utf8.encode (String.ofList (List.replicate n ' ')) = List.replicate n 0x20 := by
  induction n with
  | zero => rfl
  | succ n ih =>
    rw [List.replicate_succ, String.ofList_cons, Utf8.encode_append, ih]
    rfl

/-- A text that is not too long is padded to a text with spaces behind it. -/
lemma padText_eq {s : String} (h : s.utf8ByteSize ≤ width) :
    padText width s = Utf8.encode (s ++ String.ofList (List.replicate (width - s.utf8ByteSize) ' ')) := by
  have hwhole : (Utf8.encode s).take width = Utf8.encode s := List.take_of_length_le h
  rw [Utf8.encode_append, encode_spaces, padText, hwhole, Utf8.length_encode]

lemma Holds.trimPadding_spaces {s : String} (h : Holds width s) (n : Nat) :
    trimPadding (s ++ String.ofList (List.replicate n ' ')) = s := by
  have hspaces : ∀ c ∈ List.replicate n ' ', decide (c = ' ' ∨ c = '\x00') = true := by
    intro c hc
    rw [List.eq_of_mem_replicate hc]
    rfl
  have hends : s.toList.reverse.dropWhile (fun c => c = ' ' ∨ c = '\x00') = s.toList.reverse := by
    rw [List.dropWhile_eq_self_iff]
    intro hpos hpadding
    -- The first character from behind is the last one, which is none of padding.
    have hlast := h.ends s.toList.reverse[0] (by
      rw [List.getLast?_eq_head?_reverse, List.head?_eq_getElem?, List.getElem?_eq_getElem])
    rcases of_decide_eq_true hpadding with hspace | hnul
    · exact hlast.1 hspace
    · exact hlast.2 hnul
  rw [trimPadding, String.toList_append, String.toList_ofList, List.reverse_append, List.reverse_replicate,
    List.dropWhile_append_of_pos hspaces, hends, List.reverse_reverse, String.ofList_toList]

lemma text_of_slice {s : String} (h : Bytes.slice page start width = padText width s) (hs : Holds width s) :
    text page start width = s := by
  rw [text, h, padText_eq hs.fits, Utf8.decodeLossy_encode, hs.trimPadding_spaces]

/-- A space at the end of a text is lost. -/
example : trimPadding (Utf8.decodeLossy (padText 8 "1.0 ")) = "1.0" := by decide +kernel

/-! ### Trusting readers -/

/-- Cuts out bytes of a page; nothing comes of it if the page ends before them. -/
def cut? (page : Bytes) (start width : Nat) : Option Bytes :=
  if start + width ≤ page.length then some (Bytes.slice page start width) else none

lemma cut?_of_le (h : start + width ≤ page.length) : cut? page start width = some (Bytes.slice page start width) :=
  if_pos h

end Page

namespace ControllerInfo

/-- The texts of a controller are held by their fields. -/
structure Fits (info : ControllerInfo) : Prop where
  serialNumber : Page.Holds 20 info.serialNumber
  modelNumber : Page.Holds 40 info.modelNumber
  firmwareRevision : Page.Holds 8 info.firmwareRevision

lemma length_toPage (info : ControllerInfo) : info.toPage.length = Page.length := by
  simp [toPage, Page.length]

lemma ofPage_of_le {page : Bytes} (h : Page.length ≤ page.length) : ofPage page = .ok {
    vendorId := UInt16.ofNat (Page.number page 0 2)
    serialNumber := Page.text page 4 20
    modelNumber := Page.text page 24 40
    firmwareRevision := Page.text page 64 8
    controllerId := UInt16.ofNat (Page.number page 78 2)
    namespaceCount := UInt32.ofNat (Page.number page 516 4) } := by
  rw [ofPage, Page.check_of_le h]
  rfl

lemma ofPage_of_lt {page : Bytes} (h : page.length < Page.length) : ofPage page = .error (.short page.length) := by
  rw [ofPage, Page.check_of_lt h]
  rfl

lemma rejects_iff {page : Bytes} : (∃ error, ofPage page = .error error) ↔ page.length < Page.length := by
  rcases Nat.lt_or_ge page.length Page.length with hshort | hlong
  · exact ⟨fun _ => hshort, fun _ => ⟨_, ofPage_of_lt hshort⟩⟩
  · rw [ofPage_of_le hlong]
    simp [hlong]

/-- A page gives back what it was made of. -/
lemma ofPage_toPage {info : ControllerInfo} (h : info.Fits) : ofPage info.toPage = .ok info := by
  have hvendor : Page.number info.toPage 0 2 = info.vendorId.toNat :=
    Page.number_of_slice (by simp [toPage]) info.vendorId.toNat_lt
  have hserial : Page.text info.toPage 4 20 = info.serialNumber :=
    Page.text_of_slice (by simp [toPage]) h.serialNumber
  have hmodel : Page.text info.toPage 24 40 = info.modelNumber :=
    Page.text_of_slice (by simp [toPage]) h.modelNumber
  have hfirmware : Page.text info.toPage 64 8 = info.firmwareRevision :=
    Page.text_of_slice (by simp [toPage]) h.firmwareRevision
  have hcontroller : Page.number info.toPage 78 2 = info.controllerId.toNat :=
    Page.number_of_slice (by simp [toPage]) info.controllerId.toNat_lt
  have hcount : Page.number info.toPage 516 4 = info.namespaceCount.toNat :=
    Page.number_of_slice (by simp [toPage]) info.namespaceCount.toNat_lt
  rw [ofPage_of_le (Nat.le_of_eq (length_toPage info).symm), hvendor, hserial, hmodel, hfirmware, hcontroller, hcount,
    UInt16.ofNat_toNat, UInt16.ofNat_toNat, UInt32.ofNat_toNat]

/-- Reads the page of a controller where each field stands. -/
def scan (page : Bytes) : Option (Except PageError ControllerInfo) :=
  if page.length < Page.length then some (.error (.short page.length))
  else do
    let vendorId ← Page.cut? page 0 2
    let serialNumber ← Page.cut? page 4 20
    let modelNumber ← Page.cut? page 24 40
    let firmwareRevision ← Page.cut? page 64 8
    let controllerId ← Page.cut? page 78 2
    let namespaceCount ← Page.cut? page 516 4
    return .ok {
      vendorId := UInt16.ofNat (Bytes.toNatLE vendorId)
      serialNumber := Page.trimPadding (Utf8.decodeLossy serialNumber)
      modelNumber := Page.trimPadding (Utf8.decodeLossy modelNumber)
      firmwareRevision := Page.trimPadding (Utf8.decodeLossy firmwareRevision)
      controllerId := UInt16.ofNat (Bytes.toNatLE controllerId)
      namespaceCount := UInt32.ofNat (Bytes.toNatLE namespaceCount) }

lemma scan_eq (page : Bytes) : scan page = some (ofPage page) := by
  unfold scan
  by_cases hshort : page.length < Page.length
  · rw [if_pos hshort, ofPage_of_lt hshort]
  · have hlong : 4096 ≤ page.length := Nat.not_lt.mp hshort
    rw [if_neg hshort, ofPage_of_le hlong, Page.cut?_of_le (by omega), Page.cut?_of_le (by omega),
      Page.cut?_of_le (by omega), Page.cut?_of_le (by omega), Page.cut?_of_le (by omega), Page.cut?_of_le (by omega)]
    rfl

end ControllerInfo

namespace NamespaceInfo

variable {page : Bytes} {nsid : UInt32}

/-- The binary logarithm of the block size, of the format that the low four bits of byte 26 select. -/
def selectedShift? (page : Bytes) : Option UInt8 := do
  let selection ← page[26]?
  page[128 + 4 * (selection &&& 0x0F).toNat + 2]?

lemma toNat_and_0x0F (n : UInt8) : (n &&& 0x0F).toNat = n.toNat % 16 := by
  rw [UInt8.toNat_and]
  exact Nat.and_two_pow_sub_one_eq_mod _ 4

lemma selectedShift?_of_le (h : Page.length ≤ page.length) :
    selectedShift? page = some (UInt8.ofNat (shiftOfPage page)) := by
  have hlong : 4096 ≤ page.length := h
  have hselection : 26 < page.length := by omega
  have hformat : 128 + 4 * (page[26].toNat % 16) + 2 < page.length := by omega
  rw [selectedShift?, List.getElem?_eq_getElem hselection, Option.bind_eq_bind, Option.bind_some, toNat_and_0x0F,
    List.getElem?_eq_getElem hformat, shiftOfPage, Page.number_one hselection]
  simp only [Page.number_one hformat, UInt8.ofNat_toNat]

/-- The block size can be used. -/
def Usable (shift : UInt8) : Prop := 9 ≤ shift ∧ shift ≤ 16

instance (shift : UInt8) : Decidable (Usable shift) := inferInstanceAs (Decidable (_ ∧ _))

lemma unusable_iff {shift : UInt8} : shift < Page.minShift ∨ Page.maxShift < shift ↔ ¬Usable shift := by
  rw [Usable, not_and_or, UInt8.not_le, UInt8.not_le]
  rfl

lemma ofPage_of_lt (h : page.length < Page.length) : ofPage nsid page = .error (.short page.length) := by
  rw [ofPage, Page.check_of_lt h]
  rfl

lemma ofPage_of_le (h : Page.length ≤ page.length) : ofPage nsid page =
    if Usable (UInt8.ofNat (shiftOfPage page)) then .ok {
      nsid
      sizeBlocks := UInt64.ofNat (Page.number page 0 8)
      capacityBlocks := UInt64.ofNat (Page.number page 8 8)
      utilizationBlocks := UInt64.ofNat (Page.number page 16 8)
      blockShift := UInt8.ofNat (shiftOfPage page)
      guid := guidOfPage page }
    else .error (.unusableBlockSize nsid (UInt8.ofNat (shiftOfPage page))) := by
  rw [ofPage, Page.check_of_le h]
  by_cases husable : Usable (UInt8.ofNat (shiftOfPage page))
  · rw [if_pos husable]
    exact if_neg fun hout => unusable_iff.mp hout husable
  · rw [if_neg husable]
    exact if_pos (unusable_iff.mpr husable)

lemma guidOfPage_eq {guid : Vector UInt8 16} (h : Bytes.slice page 104 16 = guid.toList) : guidOfPage page = guid := by
  ext i hi
  rw [guidOfPage, Vector.getElem_ofFn, ← Bytes.getD_slice hi, h]
  simp [hi]

lemma length_toPage (info : NamespaceInfo) : info.toPage.length = Page.length := by
  simp [toPage, Page.length]

lemma shiftOfPage_toPage (info : NamespaceInfo) : shiftOfPage info.toPage = info.blockShift.toNat := by
  have hselection : Bytes.slice info.toPage 26 1 = Bytes.zeros 1 := by simp [toPage]
  have hshift : Bytes.slice info.toPage 130 1 = [info.blockShift] := by simp [toPage]
  have hformat : Page.number info.toPage 26 1 = 0 := by
    rw [Page.number, hselection]
    rfl
  rw [shiftOfPage, hformat]
  simp only [Nat.zero_mod, Nat.mul_zero, Nat.add_zero, Nat.reduceAdd]
  rw [Page.number, hshift, Bytes.toNatLE, Bytes.toNatLE, Nat.mul_zero, Nat.add_zero]

/-- A page gives back what it was made of, except for block sizes that cannot be used. -/
lemma ofPage_toPage (nsid : UInt32) (info : NamespaceInfo) : ofPage nsid info.toPage =
    if Usable info.blockShift then .ok { info with nsid } else .error (.unusableBlockSize nsid info.blockShift) := by
  have hsize : Page.number info.toPage 0 8 = info.sizeBlocks.toNat :=
    Page.number_of_slice (by simp [toPage]) info.sizeBlocks.toNat_lt
  have hcapacity : Page.number info.toPage 8 8 = info.capacityBlocks.toNat :=
    Page.number_of_slice (by simp [toPage]) info.capacityBlocks.toNat_lt
  have hutilization : Page.number info.toPage 16 8 = info.utilizationBlocks.toNat :=
    Page.number_of_slice (by simp [toPage]) info.utilizationBlocks.toNat_lt
  have hguid : guidOfPage info.toPage = info.guid := guidOfPage_eq (by simp [toPage])
  rw [ofPage_of_le (Nat.le_of_eq (length_toPage info).symm), shiftOfPage_toPage, hsize, hcapacity, hutilization, hguid,
    UInt8.ofNat_toNat, UInt64.ofNat_toNat, UInt64.ofNat_toNat, UInt64.ofNat_toNat]

/-- Reads the page of a namespace where each field stands. -/
def scan (nsid : UInt32) (page : Bytes) : Option (Except PageError NamespaceInfo) :=
  if page.length < Page.length then some (.error (.short page.length))
  else do
    let sizeBlocks ← Page.cut? page 0 8
    let capacityBlocks ← Page.cut? page 8 8
    let utilizationBlocks ← Page.cut? page 16 8
    let shift ← selectedShift? page
    let guid ← Page.cut? page 104 16
    return if Usable shift then .ok {
        nsid
        sizeBlocks := UInt64.ofNat (Bytes.toNatLE sizeBlocks)
        capacityBlocks := UInt64.ofNat (Bytes.toNatLE capacityBlocks)
        utilizationBlocks := UInt64.ofNat (Bytes.toNatLE utilizationBlocks)
        blockShift := shift
        guid := Vector.ofFn fun i => guid.getD i.val 0 }
      else .error (.unusableBlockSize nsid shift)

lemma scan_eq (nsid : UInt32) (page : Bytes) : scan nsid page = some (ofPage nsid page) := by
  unfold scan
  by_cases hshort : page.length < Page.length
  · rw [if_pos hshort, ofPage_of_lt hshort]
  · have hlong : 4096 ≤ page.length := Nat.not_lt.mp hshort
    have hguid : (Vector.ofFn fun i : Fin 16 => (Bytes.slice page 104 16).getD i.val 0) = guidOfPage page :=
      congrArg Vector.ofFn (funext fun i => Bytes.getD_slice i.isLt)
    rw [if_neg hshort, ofPage_of_le hlong, selectedShift?_of_le hlong, Page.cut?_of_le (by omega),
      Page.cut?_of_le (by omega), Page.cut?_of_le (by omega), Page.cut?_of_le (by omega)]
    simp only [Option.bind_eq_bind, Option.bind_some, hguid]
    rfl

lemma rejects_iff : (∃ error, ofPage nsid page = .error error) ↔
    page.length < Page.length ∨ ∃ shift, selectedShift? page = some shift ∧ ¬Usable shift := by
  rcases Nat.lt_or_ge page.length Page.length with hshort | hlong
  · exact ⟨fun _ => .inl hshort, fun _ => ⟨_, ofPage_of_lt hshort⟩⟩
  · rw [ofPage_of_le hlong, selectedShift?_of_le hlong]
    by_cases husable : Usable (UInt8.ofNat (shiftOfPage page))
    · simp [husable, hlong]
    · simp [husable]

lemma usable_of_ofPage {info : NamespaceInfo} (h : ofPage nsid page = .ok info) : Usable info.blockShift := by
  rcases Nat.lt_or_ge page.length Page.length with hshort | hlong
  · rw [ofPage_of_lt hshort] at h
    cases h
  · rw [ofPage_of_le hlong] at h
    split at h
    · rename_i husable
      cases h
      exact husable
    · cases h

lemma Usable.blockSize_bounds {info : NamespaceInfo} (h : Usable info.blockShift) :
    Nat.isPowerOfTwo info.blockSize ∧ 512 ≤ info.blockSize ∧ info.blockSize ≤ 65536 := by
  have hsmallest : 9 ≤ info.blockShift.toNat := UInt8.le_iff_toNat_le.mp h.1
  have hlargest : info.blockShift.toNat ≤ 16 := UInt8.le_iff_toNat_le.mp h.2
  rw [NamespaceInfo.blockSize, Nat.one_shiftLeft]
  have htwo : 0 < 2 := by decide
  exact ⟨⟨_, rfl⟩, Nat.pow_le_pow_right htwo hsmallest, Nat.pow_le_pow_right htwo hlargest⟩

end NamespaceInfo

/-- Identify pages are read back. A controller whose texts are held by their fields is read from its page, and so is a
namespace whose block size can be used. Nothing else is rejected than short pages and, for namespaces, selected block
sizes that cannot be used; reading stays inside the page; and blocks of a namespace that is read are of 512 bytes to
64 KiB. -/
theorem identify_pages_read_back :
    (∀ info : ControllerInfo, info.Fits → ControllerInfo.ofPage info.toPage = .ok info) ∧
    (∀ info : NamespaceInfo, NamespaceInfo.ofPage info.nsid info.toPage =
      if 9 ≤ info.blockShift ∧ info.blockShift ≤ 16 then .ok info
      else .error (.unusableBlockSize info.nsid info.blockShift)) ∧
    (∀ page, (∃ error, ControllerInfo.ofPage page = .error error) ↔ page.length < 4096) ∧
    (∀ nsid page, (∃ error, NamespaceInfo.ofPage nsid page = .error error) ↔
      page.length < 4096 ∨ ∃ shift, NamespaceInfo.selectedShift? page = some shift ∧ ¬(9 ≤ shift ∧ shift ≤ 16)) ∧
    (∀ page, ControllerInfo.scan page = some (ControllerInfo.ofPage page)) ∧
    (∀ nsid page, NamespaceInfo.scan nsid page = some (NamespaceInfo.ofPage nsid page)) ∧
    ∀ nsid page info, NamespaceInfo.ofPage nsid page = .ok info →
      Nat.isPowerOfTwo info.blockSize ∧ 512 ≤ info.blockSize ∧ info.blockSize ≤ 65536 :=
  ⟨fun _ h => ControllerInfo.ofPage_toPage h, fun info => NamespaceInfo.ofPage_toPage info.nsid info,
    fun _ => ControllerInfo.rejects_iff, fun _ _ => NamespaceInfo.rejects_iff, ControllerInfo.scan_eq,
    NamespaceInfo.scan_eq, fun _ _ _ h => (NamespaceInfo.usable_of_ofPage h).blockSize_bounds⟩

end FabricHost
