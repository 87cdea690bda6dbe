import FabricHost.Proofs.Host.Registry
import FabricHost.Proofs.Uuid.Text

/-!
# Keys by rising suffix, and their texts

The keys of a hash differ in their last two digits only. The search for one that is free finds the one with the smallest
suffix, and fails only if all 256 are taken. A text is that of a key if it consists of eight lower-case digits, and no
two keys share one.
-/

namespace FabricHost

namespace Hex

/-- The digits that bytes are written with. -/
def lower : List Char := "0123456789abcdef".toList

lemma lower_eq : lower = (List.range 16).map digit := by decide

lemma mem_lower_iff {c : Char} : c ∈ lower ↔ ∃ d < 16, digit d = c := by
  rw [lower_eq, List.mem_map]
  simp only [List.mem_range]

lemma utf8Size_digit : ∀ d < 16, (digit d).utf8Size = 1 := by decide

lemma utf8Size_of_mem_lower {c : Char} (h : c ∈ lower) : c.utf8Size = 1 := by
  obtain ⟨d, hd, rfl⟩ := mem_lower_iff.mp h
  exact utf8Size_digit d hd

lemma ofByte_ofNat {high low : Nat} (hhigh : high < 16) (hlow : low < 16) :
    ofByte (UInt8.ofNat (16 * high + low)) = [digit high, digit low] := by
  have hnumber : (UInt8.ofNat (16 * high + low)).toNat = 16 * high + low := by
    rw [UInt8.toNat_ofNat']
    omega
  have hdiv : (16 * high + low) / 16 = high := by omega
  have hmod : (16 * high + low) % 16 = low := by omega
  rw [ofByte, hnumber, hdiv, hmod]

lemma mem_lower_of_mem_ofBytes {c : Char} {bytes : Bytes} (h : c ∈ ofBytes bytes) : c ∈ lower := by
  obtain ⟨d, hd, rfl⟩ := Uuid.exists_digit_of_mem_ofBytes h
  exact mem_lower_iff.mpr ⟨d, hd, rfl⟩

/-- An even number of lower-case digits is what some bytes are written as. -/
lemma exists_ofBytes_eq (n : Nat) {digits : List Char} (hlength : digits.length = 2 * n)
    (hlower : ∀ c ∈ digits, c ∈ lower) : ∃ bytes : Bytes, bytes.length = n ∧ ofBytes bytes = digits := by
  induction n generalizing digits with
  | zero => exact ⟨[], rfl, (List.eq_nil_of_length_eq_zero hlength).symm⟩
  | succ n ih =>
    match digits, hlength, hlower with
    | first :: second :: rest, hlength, hlower =>
      simp only [List.mem_cons, forall_eq_or_imp] at hlower
      obtain ⟨hfirst, hsecond, hrest⟩ := hlower
      obtain ⟨high, hhigh, rfl⟩ := mem_lower_iff.mp hfirst
      obtain ⟨low, hlow, rfl⟩ := mem_lower_iff.mp hsecond
      obtain ⟨bytes, hbytes, rfl⟩ := ih (by simpa [Nat.mul_succ] using hlength) hrest
      refine ⟨UInt8.ofNat (16 * high + low) :: bytes, by rw [List.length_cons, hbytes], ?_⟩
      rw [ofBytes, List.flatMap_cons, ofByte_ofNat hhigh hlow]
      rfl

end Hex

namespace SessionKey

variable {hash : Vector UInt8 3} {taken : SessionKey → Bool} {key : SessionKey}

/-! ### The search for a free key -/

lemma length_candidates (hash : Vector UInt8 3) : (candidates hash).length = 256 := by
  rw [candidates, List.length_map, List.length_range]
  rfl

lemma hash_of_mem_candidates (h : key ∈ candidates hash) : key.hash = hash := by
  obtain ⟨i, -, rfl⟩ := List.mem_map.mp h
  rfl

/-- A free candidate with the smallest suffix of all free ones. -/
structure FirstFree (hash : Vector UInt8 3) (taken : SessionKey → Bool) (key : SessionKey) : Prop where
  candidate : key ∈ candidates hash
  free : taken key = false
  least : ∀ other ∈ candidates hash, taken other = false → key.suffix ≤ other.suffix

lemma FirstFree.eq {other : SessionKey} (h : FirstFree hash taken key) (hother : FirstFree hash taken other) :
    key = other := by
  have hhash : key.hash = other.hash := by
    rw [hash_of_mem_candidates h.candidate, hash_of_mem_candidates hother.candidate]
  have hsuffix : key.suffix = other.suffix :=
    UInt8.le_antisymm (h.least other hother.candidate hother.free) (hother.least key h.candidate h.free)
  cases key
  cases other
  simp_all

lemma firstFree_of_firstFree?_eq_some (h : firstFree? hash taken = some key) : FirstFree hash taken key := by
  obtain ⟨hfree, before, behind, hsplit, hbefore⟩ := List.find?_eq_some_iff_append.mp h
  refine ⟨?_, by simpa using hfree, ?_⟩
  · rw [hsplit]
    simp
  · -- What comes before the key is taken, and what comes behind it has a larger suffix.
    intro other hother hnot
    have hsorted := candidates_pairwise hash
    rw [hsplit, List.pairwise_append, List.pairwise_cons] at hsorted
    rw [hsplit, List.mem_append, List.mem_cons] at hother
    rcases hother with hmem | rfl | hmem
    · have htaken : taken other = true := by simpa using hbefore other hmem
      rw [htaken] at hnot
      cases hnot
    · exact UInt8.le_refl _
    · exact UInt8.le_of_lt (hsorted.2.1.1 other hmem)

lemma firstFree?_isSome_iff : (firstFree? hash taken).isSome ↔ ∃ key ∈ candidates hash, taken key = false := by
  simp [firstFree?, List.find?_isSome]

lemma firstFree?_eq_some_iff : firstFree? hash taken = some key ↔ FirstFree hash taken key := by
  refine ⟨firstFree_of_firstFree?_eq_some, fun h => ?_⟩
  obtain ⟨found, hfound⟩ := Option.isSome_iff_exists.mp (firstFree?_isSome_iff.mpr ⟨key, h.candidate, h.free⟩)
  rw [hfound, (firstFree_of_firstFree?_eq_some hfound).eq h]

/-- What is expected of a search for a free key among the candidates of a hash. -/
structure Searches (hash : Vector UInt8 3) (search : (SessionKey → Bool) → Option SessionKey) : Prop where
  first : ∀ taken key, search taken = some key ↔ FirstFree hash taken key
  found : ∀ taken, (search taken).isSome ↔ ∃ key ∈ candidates hash, taken key = false
  exhausted : ∀ taken, search taken = none ↔ ∀ key ∈ candidates hash, taken key = true
  /-- Fewer than 256 keys do not take all candidates. -/
  room : ∀ taken (keys : List SessionKey), (∀ key, taken key = true → key ∈ keys) → keys.length < 256 →
    search taken ≠ none

lemma firstFree?_searches (hash : Vector UInt8 3) : Searches hash (firstFree? hash) where
  first _ _ := firstFree?_eq_some_iff
  found _ := firstFree?_isSome_iff
  exhausted taken := by simp [firstFree?]
  room taken keys htaken hlength hnone :=
    absurd (variants_le_of_firstFree?_eq_none htaken hnone) (Nat.not_le_of_lt hlength)

/-! ### Texts of keys -/

@[simp] lemma toList_text (key : SessionKey) : key.text.toList = Hex.ofBytes key.hash.toList ++ Hex.ofByte key.suffix := by
  rw [text, String.toList_ofList, chars, bytes, Hex.ofBytes, List.flatMap_append, List.flatMap_singleton]
  rfl

@[simp] lemma parse?_text (key : SessionKey) : parse? key.text = some key := by
  obtain ⟨⟨⟨digits⟩, hsize⟩, suffix⟩ := key
  match digits, hsize with
  | [a, b, c], _ =>
    unfold parse? text chars
    rw [String.toList_ofList, Hex.toBytes?_ofBytes]
    exact if_pos rfl

lemma text_of_parse? {s : String} (h : parse? s = some key) : key.text = s := by
  unfold parse? at h
  split at h
  · rw [Option.ite_none_right_eq_some] at h
    obtain ⟨hchars, hkey⟩ := h
    cases hkey
    rw [text, hchars, String.ofList_toList]
  · cases h

lemma text_injective : Function.Injective text := by
  intro key other heq
  rw [← Option.some_inj, ← parse?_text key, ← parse?_text other, heq]

lemma mem_lower_of_mem_text {c : Char} (h : c ∈ key.text.toList) : c ∈ Hex.lower := by
  rw [text, String.toList_ofList] at h
  exact Hex.mem_lower_of_mem_ofBytes h

lemma utf8ByteSize_text (key : SessionKey) : key.text.utf8ByteSize = 8 := by
  have hsize : ∀ c ∈ key.chars, c.utf8Size = 1 := fun c hc =>
    Hex.utf8Size_of_mem_lower (Hex.mem_lower_of_mem_ofBytes hc)
  rw [text, utf8ByteSize_ofList hsize, chars, Hex.length_ofBytes, bytes, List.length_append, Vector.length_toList]
  rfl

/-- Eight lower-case digits are the text of a key. -/
lemma exists_text_eq {s : String} (hsize : s.utf8ByteSize = 8) (hlower : ∀ c ∈ s.toList, c ∈ Hex.lower) :
    ∃ key : SessionKey, key.text = s := by
  have hlength : s.toList.length = 2 * 4 := by
    rw [← utf8ByteSize_ofList fun c hc => Hex.utf8Size_of_mem_lower (hlower c hc), String.ofList_toList, hsize]
  obtain ⟨bytes, hbytes, hdigits⟩ := Hex.exists_ofBytes_eq 4 hlength hlower
  match bytes, hbytes with
  | [a, b, c, suffix], _ =>
    refine ⟨⟨#v[a, b, c], suffix⟩, ?_⟩
    rw [← String.toList_inj, ← hdigits, text, String.toList_ofList]
    rfl

lemma parse?_isSome_iff (s : String) :
    (parse? s).isSome ↔ s.utf8ByteSize = 8 ∧ ∀ c ∈ s.toList, c ∈ Hex.lower := by
  constructor
  · intro h
    obtain ⟨key, hkey⟩ := Option.isSome_iff_exists.mp h
    obtain rfl := text_of_parse? hkey
    exact ⟨utf8ByteSize_text key, fun c => mem_lower_of_mem_text⟩
  · rintro ⟨hsize, hlower⟩
    obtain ⟨key, rfl⟩ := exists_text_eq hsize hlower
    rw [parse?_text]
    rfl

/-- Session keys, whatever the hash is. The candidates are 256 keys with different texts of the same first six digits.
The search for a key finds the free candidate with the smallest suffix, and finds one unless all of them are taken.
The texts that can be read are the eight lower-case digits, and each is that of the key that is read. -/
theorem searched_and_read :
    (∀ hash : Vector UInt8 3, (candidates hash).length = 256 ∧ ((candidates hash).map text).Nodup ∧
      (∀ key ∈ candidates hash, key.text.toList.take 6 = Hex.ofBytes hash.toList ∧
        key.text.toList.drop 6 = Hex.ofByte key.suffix) ∧
      Searches hash (firstFree? hash)) ∧
    (∀ address port subsystemNqn, Searches (hashOf address port subsystemNqn) (derive? address port subsystemNqn)) ∧
    (∀ s, (parse? s).isSome ↔ s.utf8ByteSize = 8 ∧ ∀ c ∈ s.toList, c ∈ Hex.lower) ∧
    (∀ key, parse? key.text = some key) ∧
    ∀ s key, parse? s = some key → key.text = s := by
  refine ⟨fun hash => ⟨length_candidates hash, ?_, fun key hkey => ?_, firstFree?_searches hash⟩,
    fun address port subsystemNqn => firstFree?_searches _, parse?_isSome_iff, parse?_text, fun s key => text_of_parse?⟩
  · exact (candidates_nodup hash).map text_injective
  · have hsix : (Hex.ofBytes hash.toList).length = 6 := by
      rw [Hex.length_ofBytes, Vector.length_toList]
    rw [toList_text, hash_of_mem_candidates hkey]
    exact ⟨List.take_left' hsix, List.drop_left' hsix⟩

/-- Upper-case digits would spell the bytes of a key as well, but are not read. -/
example : Hex.toBytes? "ABCDEF00".toList = some [0xAB, 0xCD, 0xEF, 0] ∧ parse? "ABCDEF00" = none := by
  decide

end SessionKey

end FabricHost
