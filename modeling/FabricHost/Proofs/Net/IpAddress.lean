import FabricHost.Net.IpAddress
import FabricHost.Record.Capacity
import Mathlib.Tactic.Lemma

/-!
# Written addresses are read back

The text of an address is read as that address, and as one of its own family only. Groups and octets are read digit by
digit; the gap of a version 6 text is the only place where two colons meet, and stands for the zero groups left out.
-/

namespace FabricHost

/-- Digits in any base are those of a character table. -/
lemma exists_digit_of_mem_toDigits {base n : Nat} (hbase : 1 < base) {c : Char} (h : c ∈ Nat.toDigits base n) :
    ∃ d < base, c = Nat.digitChar d := by
  induction n using Nat.strongRecOn with
  | _ n ih =>
    rw [Nat.toDigits_eq_if hbase] at h
    by_cases hlt : n < base
    · rw [if_pos hlt, List.mem_singleton] at h
      exact ⟨n, hlt, h⟩
    · rw [if_neg hlt, List.mem_append, List.mem_singleton] at h
      rcases h with h | h
      · exact ih (n / base) (Nat.div_lt_self (by omega) hbase) h
      · exact ⟨n % base, Nat.mod_lt n (by omega), h⟩

/-- Reading digits one after another gives the number that they were written for. -/
lemma foldlM_toDigits {base : Nat} {value? : Char → Option Nat} (hbase : 1 < base)
    (hvalue : ∀ d < base, value? (Nat.digitChar d) = some d) (n : Nat) :
    (Nat.toDigits base n).foldlM (fun n c => (value? c).map (base * n + ·)) 0 = some n := by
  induction n using Nat.strongRecOn with
  | _ n ih =>
    rw [Nat.toDigits_eq_if hbase]
    by_cases hlt : n < base
    · rw [if_pos hlt]
      simp [hvalue n hlt]
    · have hdigit := hvalue (n % base) (Nat.mod_lt n (by omega))
      rw [if_neg hlt, List.foldlM_append, ih (n / base) (Nat.div_lt_self (by omega) hbase)]
      simp [hdigit, Nat.div_add_mod]

namespace Ipv4

lemma octet?_digits (octet : UInt8) : octet? (Decimal.digits octet.toNat) = some octet := by
  have hall : ∀ n < 256, octet? (Decimal.digits n) = some (UInt8.ofNat n) := by decide +kernel
  rw [hall _ octet.toNat_lt, UInt8.ofNat_toNat]

lemma length_digits_le (octet : UInt8) : (Decimal.digits octet.toNat).length ≤ 3 := by
  have hlt := octet.toNat_lt
  exact (Nat.length_toDigits_le_iff (by decide) (by decide)).mpr (by omega)

lemma dot_notMem_digits (n : Nat) : '.' ∉ Decimal.digits n := by
  intro h
  obtain ⟨d, hd, heq⟩ := exists_digit_of_mem_toDigits (by decide) h
  revert d
  decide

lemma exists_octets (address : Ipv4) : ∃ a b c d, address = ⟨#v[a, b, c, d]⟩ := by
  obtain ⟨⟨⟨octets⟩, hlength⟩⟩ := address
  match octets, hlength with
  | [a, b, c, d], _ => exact ⟨a, b, c, d, rfl⟩

/-- The text of an address is read as that address. -/
lemma ofChars?_chars (address : Ipv4) : ofChars? address.chars = some address := by
  obtain ⟨a, b, c, d, rfl⟩ := address.exists_octets
  have hparts : Separated.parts '.' (chars ⟨#v[a, b, c, d]⟩) =
      [Decimal.digits a.toNat, Decimal.digits b.toNat, Decimal.digits c.toNat, Decimal.digits d.toNat] := by
    apply Separated.parts_join
    · simp
    · intro part hpart
      obtain ⟨octet, -, rfl⟩ := List.mem_map.mp hpart
      exact dot_notMem_digits _
  rw [ofChars?, hparts]
  simp [octet?_digits]

/-- Octets have only digits. -/
lemma colon_notMem_of_octet? {cs : List Char} {octet : UInt8} (h : octet? cs = some octet) : ':' ∉ cs := by
  intro hmem
  have hfold : ∀ n : Nat, cs.foldlM (fun n c => (Decimal.value? c).map (10 * n + ·)) n = none := by
    clear h
    induction cs with
    | nil => exact absurd hmem List.not_mem_nil
    | cons c rest ih =>
      intro n
      rcases List.mem_cons.mp hmem with rfl | hmem
      · rfl
      · rw [List.foldlM_cons]
        cases Decimal.value? c with
        | none => rfl
        | some digit => exact ih hmem _
  have hnone : Decimal.toNat? cs = none := by
    unfold Decimal.toNat?
    split
    · rfl
    · exact hfold 0
  unfold octet? at h
  rw [hnone] at h
  split at h <;> cases h

/-- A text with a colon is no version 4 address. -/
lemma ofChars?_of_colon {cs : List Char} (h : ':' ∈ cs) : ofChars? cs = none := by
  obtain ⟨part, hpart, hmem⟩ := Separated.mem_parts_of_mem h (show ':' ≠ '.' by decide)
  have hnone : octet? part = none := by
    cases hoctet : octet? part with
    | none => rfl
    | some octet => exact absurd hmem (colon_notMem_of_octet? hoctet)
  unfold ofChars?
  split
  · rename_i a b c d hparts
    rw [hparts] at hpart
    simp only [List.mem_cons, List.not_mem_nil, or_false] at hpart
    rcases hpart with rfl | rfl | rfl | rfl
    · simp [hnone]
    · cases octet? a <;> simp [hnone]
    · cases octet? a <;> cases octet? b <;> simp [hnone]
    · cases octet? a <;> cases octet? b <;> cases octet? c <;> simp [hnone]
  · rfl

/-- A written address has at most three digits to the octet. -/
lemma length_chars_le (address : Ipv4) : address.chars.length ≤ 16 := by
  have hparts : ∀ part ∈ address.octets.toList.map fun octet => Decimal.digits octet.toNat, part.length ≤ 3 := by
    intro part hpart
    obtain ⟨octet, -, rfl⟩ := List.mem_map.mp hpart
    exact length_digits_le octet
  have h : address.chars.length ≤ _ := Separated.length_join_le hparts
  rwa [List.length_map, Vector.length_toList] at h

lemma mem_chars {address : Ipv4} {c : Char} (h : c ∈ address.chars) : c = '.' ∨ ∃ d < 10, c = Nat.digitChar d := by
  rcases Separated.mem_of_mem_join h with h | ⟨part, hpart, h⟩
  · exact .inl h
  · obtain ⟨octet, -, rfl⟩ := List.mem_map.mp hpart
    exact .inr (exists_digit_of_mem_toDigits (by decide) h)

lemma colon_notMem_chars (address : Ipv4) : ':' ∉ address.chars := by
  intro h
  rcases mem_chars h with h | ⟨d, hd, h⟩
  · exact absurd h (by decide)
  · revert d
    decide

/-- A written address is longer than a group can be. -/
lemma lt_length_chars (address : Ipv4) : 4 < address.chars.length := by
  obtain ⟨a, b, c, d, rfl⟩ := address.exists_octets
  have hpos : ∀ octet : UInt8, 0 < (Decimal.digits octet.toNat).length := fun octet => Nat.length_toDigits_pos
  have ha := hpos a
  have hb := hpos b
  have hc := hpos c
  have hd := hpos d
  simp only [chars, Vector.toList_mk, List.map_cons, List.map_nil, Separated.join, List.length_append, List.length_cons]
  omega

end Ipv4

namespace Ipv6

lemma value?_digitChar : ∀ d < 16, Hex.value? (Nat.digitChar d) = some d := by decide

lemma length_digits_le (group : UInt16) : (Nat.toDigits 16 group.toNat).length ≤ 4 := by
  have hlt := group.toNat_lt
  exact (Nat.length_toDigits_le_iff (by decide) (by decide)).mpr (by omega)

lemma group?_digits (group : UInt16) : group? (Nat.toDigits 16 group.toNat) = some group := by
  have hpos : 0 < (Nat.toDigits 16 group.toNat).length := Nat.length_toDigits_pos
  rw [group?, if_pos ⟨hpos, length_digits_le group⟩, foldlM_toDigits (by decide) value?_digitChar]
  simp

/-- The parts that groups are written as. -/
def groupParts (groups : List UInt16) : List (List Char) := groups.map fun group => Nat.toDigits 16 group.toNat

lemma mapM_groupParts (groups : List UInt16) : (groupParts groups).mapM group? = some groups := by
  induction groups with
  | nil => rfl
  | cons group rest ih =>
    rw [groupParts] at ih
    simp [groupParts, List.mapM_cons, group?_digits, ih]

lemma mixedGroups?_groupParts (groups : List UInt16) : mixedGroups? (groupParts groups) = some groups := by
  induction groups with
  | nil => rfl
  | cons group rest ih =>
    cases rest with
    | nil => simp [groupParts, mixedGroups?, group?_digits]
    | cons next rest =>
      rw [groupParts, List.map_cons] at ih
      rw [groupParts, List.map_cons, List.map_cons, mixedGroups?, group?_digits, ih]
      · rfl
      · simp

/-- Parts that a text can have between single colons. -/
def Plain (part : List Char) : Prop := part ≠ [] ∧ ':' ∉ part

lemma plain_groupParts (groups : List UInt16) : ∀ part ∈ groupParts groups, Plain part := by
  intro part hpart
  obtain ⟨group, -, rfl⟩ := List.mem_map.mp hpart
  constructor
  · exact Nat.toDigits_ne_nil
  · intro hmem
    obtain ⟨d, hd, heq⟩ := exists_digit_of_mem_toDigits (by decide) hmem
    revert d
    decide

lemma splitGap_cons_of_ne {c : Char} {rest : List Char} (h : c ≠ ':') :
    splitGap (c :: rest) = (splitGap rest).map fun (before, after) => (c :: before, after) := by
  rw [splitGap]
  exact fun _ hc _ => h hc

lemma splitGap_colon {c : Char} {rest : List Char} (h : c ≠ ':') :
    splitGap (':' :: c :: rest) = (splitGap (c :: rest)).map fun (before, after) => (':' :: before, after) := by
  rw [splitGap]
  exact fun _ _ hrest => h (List.cons.inj hrest).1

lemma exists_join_eq_cons {part : List Char} (h : Plain part) (more : List (List Char)) :
    ∃ c rest, Separated.join ':' (part :: more) = c :: rest ∧ c ≠ ':' := by
  obtain ⟨hne, hcolon⟩ := h
  obtain ⟨c, rest, rfl⟩ := List.exists_cons_of_ne_nil hne
  rw [List.mem_cons, not_or] at hcolon
  cases more with
  | nil => exact ⟨c, rest, rfl, Ne.symm hcolon.1⟩
  | cons next more =>
    exact ⟨c, rest ++ ':' :: Separated.join ':' (next :: more), by simp [Separated.join], Ne.symm hcolon.1⟩

lemma splitGap_append {part : List Char} (h : ':' ∉ part) (rest : List Char) :
    splitGap (part ++ rest) = (splitGap rest).map fun (before, after) => (part ++ before, after) := by
  induction part with
  | nil => simp
  | cons c part ih =>
    rw [List.mem_cons, not_or] at h
    rw [List.cons_append, splitGap_cons_of_ne (Ne.symm h.1), ih h.2, Option.map_map]
    rfl

/-- Single colons between plain parts are no gap. -/
lemma splitGap_join {ps : List (List Char)} (h : ∀ part ∈ ps, Plain part) (rest : List Char) :
    splitGap (Separated.join ':' ps ++ rest) =
      (splitGap rest).map fun (before, after) => (Separated.join ':' ps ++ before, after) := by
  induction ps with
  | nil => simp [Separated.join]
  | cons part more ih =>
    have hpart := h part List.mem_cons_self
    cases more with
    | nil => exact splitGap_append hpart.2 rest
    | cons next more =>
      have hmore := ih fun other hother => h other (List.mem_cons_of_mem _ hother)
      have hnext := h next (by simp)
      obtain ⟨c, tail, hjoin, hc⟩ := exists_join_eq_cons hnext more
      rw [hjoin] at hmore
      rw [Separated.join, List.append_assoc, splitGap_append hpart.2, hjoin, List.cons_append, List.cons_append,
        splitGap_colon hc, ← List.cons_append, hmore, Option.map_map, Option.map_map]
      · congr 1
        funext pair
        simp
      · simp

lemma colonParts_join {ps : List (List Char)} (h : ∀ part ∈ ps, Plain part) :
    colonParts (Separated.join ':' ps) = ps := by
  cases ps with
  | nil => rfl
  | cons part more =>
    obtain ⟨c, tail, hjoin, -⟩ := exists_join_eq_cons (h part List.mem_cons_self) more
    rw [colonParts, if_neg (by simp [hjoin]), Separated.parts_join]
    · simp
    · exact fun other hother => (h other hother).2

/-- Groups with single colons between them are read back. -/
lemma groupList?_groupChars (groups : List UInt16) : groupList? (groupChars groups) = some groups := by
  have hsplit := splitGap_join (plain_groupParts groups) []
  rw [List.append_nil] at hsplit
  rw [groupList?, groupChars, ← groupParts, hsplit]
  exact (congrArg mixedGroups? (colonParts_join (plain_groupParts _))).trans (mixedGroups?_groupParts groups)

/-- Groups around a gap are read back with zero groups in the gap. -/
lemma groupList?_gap {front back : List UInt16} (h : front.length + back.length ≤ 7) :
    groupList? (groupChars front ++ [':', ':'] ++ groupChars back) =
      some (front ++ List.replicate (8 - front.length - back.length) 0 ++ back) := by
  have hsplit := splitGap_join (plain_groupParts front) (':' :: ':' :: groupChars back)
  rw [splitGap] at hsplit
  have hfront : colonParts (groupChars front) = groupParts front := colonParts_join (plain_groupParts _)
  have hback : colonParts (groupChars back) = groupParts back := colonParts_join (plain_groupParts _)
  have hcut : splitGap (groupChars front ++ [':', ':'] ++ groupChars back) =
      some (groupChars front, groupChars back) := by
    rw [List.append_assoc]
    simpa [groupChars, groupParts] using hsplit
  rw [groupList?, hcut]
  simp only [hfront, hback, mapM_groupParts, mixedGroups?_groupParts, Option.bind_eq_bind, Option.bind_some, if_pos h]
  rfl

lemma eq_leadingZeros_append (groups : List UInt16) :
    groups = List.replicate (leadingZeros groups) 0 ++ groups.drop (leadingZeros groups) := by
  induction groups with
  | nil => rfl
  | cons group rest ih =>
    rw [leadingZeros, List.takeWhile_cons]
    by_cases h : group = 0
    · rw [if_pos (by simp [h]), List.length_cons, List.replicate_succ, List.drop_succ_cons, List.cons_append,
        ← leadingZeros, ← ih, h]
    · rw [if_neg (by simp [h])]
      rfl

/-- The longest run is where it is said to be, and all its groups are zero. -/
lemma eq_longestZeros_append (groups : List UInt16) :
    groups = groups.take (longestZeros groups).1 ++ List.replicate (longestZeros groups).2 0 ++
      groups.drop ((longestZeros groups).1 + (longestZeros groups).2) := by
  induction groups with
  | nil => rfl
  | cons group rest ih =>
    rw [longestZeros]
    by_cases h : (longestZeros rest).2 ≤ leadingZeros (group :: rest)
    · simp only [h, if_true, List.take_zero, List.nil_append, Nat.zero_add]
      exact eq_leadingZeros_append _
    · simp only [h, if_false, List.take_succ_cons, List.cons_append, Nat.succ_add, List.drop_succ_cons]
      rw [← ih]

lemma ofChars?_of_groupList? {cs : List Char} {address : Ipv6} (h : groupList? cs = some address.groups.toList) :
    ofChars? cs = some address := by
  have hlength : address.groups.toList.length = 8 := Vector.length_toList
  rw [ofChars?, h]
  simp only [Option.bind_eq_bind, Option.bind_some, hlength, dite_true]
  obtain ⟨⟨⟨groups⟩, hsize⟩⟩ := address
  rfl

lemma ofNat_halves (group : UInt16) :
    UInt16.ofNat (256 * (UInt8.ofNat (group.toNat / 256)).toNat + (UInt8.ofNat group.toNat).toNat) = group := by
  have hlt := group.toNat_lt
  rw [UInt8.toNat_ofNat', UInt8.toNat_ofNat', Nat.mod_eq_of_lt (by omega : group.toNat / 256 < 2 ^ 8), Nat.div_add_mod]
  exact UInt16.ofNat_toNat

/-- The groups that an embedded version 4 address stands for. -/
lemma groups_of_mapped? {address : Ipv6} {embedded : Ipv4} (h : address.mapped? = some embedded) :
    address.groups.toList = [0, 0, 0, 0, 0, 0xFFFF] ++ ofIpv4 embedded := by
  unfold mapped? at h
  split at h
  · rename_i high low hgroups
    cases h
    have hhigh := ofNat_halves high
    have hlow := ofNat_halves low
    rw [hgroups]
    simp only [ofIpv4, List.cons_append, List.nil_append, List.cons.injEq, true_and, and_true]
    exact ⟨hhigh.symm, hlow.symm⟩
  · cases h

lemma groupList?_mapped (embedded : Ipv4) :
    groupList? ("::ffff:".toList ++ embedded.chars) = some ([0, 0, 0, 0, 0, 0xFFFF] ++ ofIpv4 embedded) := by
  have hparts : colonParts ("ffff:".toList ++ embedded.chars) = ["ffff".toList, embedded.chars] := by
    have hsplit := Separated.parts_append ':' "ffff".toList embedded.chars (by decide)
    rw [Separated.parts_of_not_mem _ _ embedded.colon_notMem_chars] at hsplit
    exact hsplit
  have hgroup : group? embedded.chars = none := if_neg fun h => Nat.not_lt.mpr h.2 embedded.lt_length_chars
  have hmark : group? "ffff".toList = some 0xFFFF := by decide
  have hcut : splitGap ("::ffff:".toList ++ embedded.chars) = some ([], "ffff:".toList ++ embedded.chars) := rfl
  have hback : mixedGroups? ["ffff".toList, embedded.chars] = some (0xFFFF :: ofIpv4 embedded) := by
    simp only [mixedGroups?, hmark, hgroup, embedded.ofChars?_chars]
    rfl
  rw [groupList?, hcut]
  simp only [hparts, hback, Option.bind_eq_bind]
  rfl

/-- The text of an address is read as that address. -/
lemma ofChars?_chars (address : Ipv6) : ofChars? address.chars = some address := by
  apply ofChars?_of_groupList?
  rw [chars]
  cases hmapped : address.mapped? with
  | some embedded => rw [groups_of_mapped? hmapped]; exact groupList?_mapped embedded
  | none =>
    have hlength : address.groups.toList.length = 8 := Vector.length_toList
    have hzeros := eq_longestZeros_append address.groups.toList
    simp only
    by_cases hgap : 1 < (longestZeros address.groups.toList).2
    · have hcount := congrArg List.length hzeros
      simp only [List.length_append, List.length_take, List.length_replicate, List.length_drop, hlength] at hcount
      rw [if_pos hgap, groupList?_gap]
      · have hfilled : 8 - (address.groups.toList.take (longestZeros address.groups.toList).1).length -
            (address.groups.toList.drop ((longestZeros address.groups.toList).1 +
              (longestZeros address.groups.toList).2)).length = (longestZeros address.groups.toList).2 := by
          simp only [List.length_take, List.length_drop, hlength]
          omega
        rw [hfilled, ← hzeros]
      · simp only [List.length_take, List.length_drop, hlength]
        omega
    · rw [if_neg hgap]
      exact groupList?_groupChars _

lemma mem_groupChars {groups : List UInt16} {c : Char} (h : c ∈ groupChars groups) :
    c = ':' ∨ ∃ d < 16, c = Nat.digitChar d := by
  rcases Separated.mem_of_mem_join h with h | ⟨part, hpart, h⟩
  · exact .inl h
  · obtain ⟨group, -, rfl⟩ := List.mem_map.mp hpart
    exact .inr (exists_digit_of_mem_toDigits (by decide) h)

lemma length_groupChars_le (groups : List UInt16) : (groupChars groups).length ≤ 5 * groups.length := by
  have hparts : ∀ part ∈ groupParts groups, part.length ≤ 4 := by
    intro part hpart
    obtain ⟨group, -, rfl⟩ := List.mem_map.mp hpart
    exact length_digits_le group
  have h : (groupChars groups).length ≤ _ := Separated.length_join_le hparts
  rwa [List.length_map] at h

lemma length_chars_le (address : Ipv6) : address.chars.length ≤ 42 := by
  have hlength : address.groups.toList.length = 8 := Vector.length_toList
  unfold chars
  split
  · rename_i embedded _
    have hembedded := embedded.length_chars_le
    rw [List.length_append]
    change 7 + _ ≤ _
    omega
  · simp only
    have hall := length_groupChars_le address.groups.toList
    have hfront := length_groupChars_le (address.groups.toList.take (longestZeros address.groups.toList).1)
    have hback := length_groupChars_le (address.groups.toList.drop
      ((longestZeros address.groups.toList).1 + (longestZeros address.groups.toList).2))
    rw [List.length_take, hlength] at hfront
    rw [List.length_drop, hlength] at hback
    rw [hlength] at hall
    split
    · simp only [List.length_append, List.length_cons, List.length_nil]
      omega
    · omega

lemma mem_chars {address : Ipv6} {c : Char} (h : c ∈ address.chars) :
    c = '.' ∨ c = ':' ∨ ∃ d < 16, c = Nat.digitChar d := by
  unfold chars at h
  split at h
  · have hmark : ∀ c ∈ "::ffff:".toList, c = ':' ∨ c = 'f' := by simp
    rcases List.mem_append.mp h with h | h
    · rcases hmark c h with h | h
      · exact .inr (.inl h)
      · exact .inr (.inr ⟨15, by decide, h⟩)
    · rcases Ipv4.mem_chars h with h | ⟨d, hd, h⟩
      · exact .inl h
      · exact .inr (.inr ⟨d, by omega, h⟩)
  · right
    simp only at h
    split at h
    · simp only [List.mem_append, List.mem_cons, List.not_mem_nil, or_false, or_self] at h
      rcases h with (h | h) | h
      · exact mem_groupChars h
      · exact .inl h
      · exact mem_groupChars h
    · exact mem_groupChars h

/-- Without colons there are at most the two groups of a version 4 address. -/
lemma colon_mem_of_ofChars? {cs : List Char} {address : Ipv6} (h : ofChars? cs = some address) : ':' ∈ cs := by
  apply Decidable.byContradiction
  intro hcolon
  have hsplit := splitGap_append hcolon []
  rw [List.append_nil] at hsplit
  have hgroups : groupList? cs = mixedGroups? (colonParts cs) := by
    rw [groupList?, hsplit]
    rfl
  have hshort : ∀ groups, mixedGroups? (colonParts cs) = some groups → groups.length ≤ 2 := by
    intro groups hread
    rw [colonParts] at hread
    split at hread
    · cases hread
      simp
    · rw [Separated.parts_of_not_mem _ _ hcolon, mixedGroups?] at hread
      rcases Option.or_eq_some_iff.mp hread with hread | ⟨-, hread⟩
      · obtain ⟨group, -, rfl⟩ := Option.map_eq_some_iff.mp hread
        simp
      · obtain ⟨embedded, -, rfl⟩ := Option.map_eq_some_iff.mp hread
        simp [ofIpv4]
  rw [ofChars?, hgroups] at h
  obtain ⟨groups, hread, h⟩ := Option.bind_eq_some_iff.mp h
  have hle := hshort groups hread
  rw [dif_neg (by omega)] at h
  cases h

end Ipv6

namespace IpAddress

lemma parseAs?_v6_of_v4 {s : String} {address : IpAddress} (h : parseAs? .v4 s = some address) :
    parseAs? .v6 s = none := by
  cases hsix : Ipv6.parse? s with
  | none => simp [parseAs?, hsix]
  | some _ =>
    have hnone : Ipv4.parse? s = none := Ipv4.ofChars?_of_colon (Ipv6.colon_mem_of_ofChars? hsix)
    simp [parseAs?, hnone] at h

/-- A text is read as an address exactly where it is read as one of that address's family. -/
theorem parse?_eq_some_iff {s : String} {address : IpAddress} :
    parse? s = some address ↔ parseAs? address.family s = some address := by
  unfold parse?
  rw [Option.or_eq_some_iff]
  constructor
  · rintro (h | ⟨-, h⟩) <;> rw [family_of_parseAs? h] <;> exact h
  · intro h
    cases hfamily : address.family with
    | v4 =>
      rw [hfamily] at h
      exact .inl h
    | v6 =>
      rw [hfamily] at h
      cases hfour : parseAs? .v4 s with
      | none => exact .inr ⟨rfl, h⟩
      | some other =>
        rw [parseAs?_v6_of_v4 hfour] at h
        cases h

lemma parseAs?_eq_some_iff {family : IpFamily} {s : String} {address : IpAddress} :
    parseAs? family s = some address ↔ parse? s = some address ∧ address.family = family := by
  rw [parse?_eq_some_iff]
  constructor
  · intro h
    have hfamily := family_of_parseAs? h
    exact ⟨hfamily ▸ h, hfamily⟩
  · rintro ⟨h, rfl⟩
    exact h

/-- The text of an address is read as that address, and as one of its family. -/
theorem parseAs?_text (address : IpAddress) : parseAs? address.family address.text = some address := by
  cases address with
  | v4 address => simp [parseAs?, family, text, chars, Ipv4.parse?, Ipv4.ofChars?_chars]
  | v6 address => simp [parseAs?, family, text, chars, Ipv6.parse?, Ipv6.ofChars?_chars]

theorem parse?_text (address : IpAddress) : parse? address.text = some address :=
  parse?_eq_some_iff.mpr (parseAs?_text address)

theorem fits_text (address : IpAddress) {capacity : Nat} (h : 42 ≤ capacity) : Fits capacity address.text := by
  have hdigit : ∀ d < 16, (Nat.digitChar d).utf8Size = 1 ∧ Nat.digitChar d ≠ '\x00' := by decide
  apply fits_ofList
  · intro c hc
    cases address with
    | v4 address =>
      rcases Ipv4.mem_chars hc with rfl | ⟨d, hd, rfl⟩
      · decide
      · exact hdigit d (by omega)
    | v6 address =>
      rcases Ipv6.mem_chars hc with rfl | rfl | ⟨d, hd, rfl⟩
      · decide
      · decide
      · exact hdigit d hd
  · apply Nat.le_trans ?_ h
    cases address with
    | v4 address => exact Nat.le_trans address.length_chars_le (by decide)
    | v6 address => exact address.length_chars_le

end IpAddress

end FabricHost
