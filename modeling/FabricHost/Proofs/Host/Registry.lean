import FabricHost.Host.Connect
import Mathlib.Data.List.Nodup
import Mathlib.Data.List.Perm.Subperm

/-!
# The registry and its keys

Sessions are looked up by keys that are not shared, so taking one out or putting one back concerns one place of the list.
A new key is one that is not in use, and there is one unless all 256 variants of a hash are.
-/

namespace FabricHost

namespace SessionKey

/-- The candidates come by rising suffix. -/
lemma candidates_pairwise (hash : Vector UInt8 3) :
    (candidates hash).Pairwise fun a b => a.suffix < b.suffix := by
  refine List.pairwise_map.mpr (List.pairwise_lt_range.imp_of_mem ?_)
  intro i j hi hj hlt
  have hvariants : variants = 256 := rfl
  rw [List.mem_range] at hi hj
  rw [UInt8.lt_iff_toNat_lt, UInt8.toNat_ofNat', UInt8.toNat_ofNat']
  omega

lemma candidates_nodup (hash : Vector UInt8 3) : (candidates hash).Nodup := by
  refine (candidates_pairwise hash).imp ?_
  rintro a _ hlt rfl
  exact UInt8.lt_irrefl a.suffix hlt

lemma derive?_eq_some {address : String} {port : UInt16} {subsystemNqn : String} {taken : SessionKey → Bool}
    {key : SessionKey} (h : derive? address port subsystemNqn taken = some key) : taken key = false := by
  have hfree := List.find?_some h
  simpa using hfree

/-- No key is left only if all variants of a hash are taken. -/
lemma variants_le_of_firstFree?_eq_none {hash : Vector UInt8 3} {taken : SessionKey → Bool} {keys : List SessionKey}
    (htaken : ∀ key, taken key = true → key ∈ keys) (h : firstFree? hash taken = none) : variants ≤ keys.length := by
  have hall : candidates hash ⊆ keys := by
    intro key hkey
    have hused := List.find?_eq_none.mp h key hkey
    exact htaken key (by simpa using hused)
  have hlength := (List.subperm_of_subset (candidates_nodup _) hall).length_le
  rwa [candidates, List.length_map, List.length_range] at hlength

end SessionKey

namespace Registry

variable {C Q : Type} {registry : Registry C Q} {key : SessionKey} {session : Session C Q}

lemma key_of_find? (h : registry.find? key = some session) : session.key = key := by
  have hkey := List.find?_some h
  simpa using hkey

lemma contains_iff (registry : Registry C Q) (key : SessionKey) : registry.contains key = true ↔ key ∈ registry.keys := by
  unfold contains find? keys
  rw [List.find?_isSome, List.mem_map]
  simp

lemma find?_eq_none_iff : registry.find? key = none ↔ key ∉ registry.keys := by
  rw [← contains_iff, contains]
  cases registry.find? key <;> simp

/-- Where a session is found, and that no other one has its key. -/
lemma find?_split (hnodup : registry.keys.Nodup) (h : registry.find? key = some session) :
    ∃ before behind, registry.sessions = before ++ session :: behind ∧
      (∀ other ∈ before, other.key ≠ key) ∧ ∀ other ∈ behind, other.key ≠ key := by
  obtain ⟨-, before, behind, hsplit, hbefore⟩ := List.find?_eq_some_iff_append.mp h
  refine ⟨before, behind, hsplit, fun other hother => by simpa using hbefore other hother, ?_⟩
  intro other hother heq
  unfold keys at hnodup
  rw [hsplit, List.map_append, List.map_cons] at hnodup
  have hbehind := (List.nodup_cons.mp (List.nodup_append'.mp hnodup).2.1).1
  rw [key_of_find? h, ← heq] at hbehind
  exact hbehind (List.mem_map_of_mem hother)

lemma find?_of_mem (hnodup : registry.keys.Nodup) (h : session ∈ registry.sessions) :
    registry.find? session.key = some session := by
  obtain ⟨other, hother⟩ : ∃ other, registry.find? session.key = some other := by
    rw [← Option.ne_none_iff_exists', ne_eq, find?_eq_none_iff, not_not]
    exact List.mem_map_of_mem h
  obtain ⟨before, behind, hsplit, hbefore, hbehind⟩ := find?_split hnodup hother
  rw [hsplit] at h
  rcases List.mem_append.mp h with hmem | hmem
  · exact (hbefore session hmem rfl).elim
  · rcases List.mem_cons.mp hmem with rfl | hmem
    · exact hother
    · exact (hbehind session hmem rfl).elim

section

variable {before behind : List (Session C Q)} (hsplit : registry.sessions = before ++ session :: behind)
  (hbefore : ∀ other ∈ before, other.key ≠ key) (hbehind : ∀ other ∈ behind, other.key ≠ key)
  (hkey : session.key = key)
include hsplit hbefore hkey

lemma erase_split : (registry.erase key).sessions = before ++ behind := by
  simp only [erase]
  rw [hsplit, List.eraseP_append_right, List.eraseP_cons_of_pos (by simpa using hkey)]
  intro other hother
  simpa using hbefore other hother

include hbehind

lemma replace_split {session' : Session C Q} (hkey' : session'.key = key) :
    (registry.replace session').sessions = before ++ session' :: behind := by
  have hsame : ∀ others : List (Session C Q), (∀ other ∈ others, other.key ≠ key) →
      (others.map fun other => if other.key = session'.key then session' else other) = others := by
    intro others hothers
    refine (List.map_congr_left fun other hother => ?_).trans (List.map_id _)
    rw [if_neg (hkey' ▸ hothers other hother)]
    rfl
  simp only [replace]
  rw [hsplit, List.map_append, List.map_cons, hsame before hbefore, hsame behind hbehind,
    if_pos (hkey.trans hkey'.symm)]

end

/-- Looking up a key among sessions of which one in the middle has no other of its key before it. -/
lemma find?_middle (hbefore : ∀ other ∈ before, other.key ≠ session.key) (limit : Nat) (key : SessionKey) :
    ({ limit, sessions := before ++ session :: behind } : Registry C Q).find? key =
      if session.key = key then some session else ({ limit, sessions := before ++ behind } : Registry C Q).find? key := by
  simp only [find?, List.find?_append, List.find?_cons]
  by_cases hkey : session.key = key
  · have hnone : before.find? (·.key = key) = none := by simpa [← hkey] using hbefore
    simp [hkey, hnone]
  · simp [hkey]

lemma find?_append (limit : Nat) (sessions : List (Session C Q)) (session : Session C Q) (key : SessionKey) :
    ({ limit, sessions := sessions ++ [session] } : Registry C Q).find? key =
      (({ limit, sessions } : Registry C Q).find? key).or (if session.key = key then some session else none) := by
  simp [find?, List.find?_append, List.find?_cons]
  split <;> simp_all

/-- Putting a session back leads to looking it up, and looking up others is not affected. -/
lemma find?_replace (registry : Registry C Q) (session : Session C Q) (key : SessionKey) :
    (registry.replace session).find? key =
      (registry.find? key).map fun other => if key = session.key then session else other := by
  have hkeys : (fun other : Session C Q => decide (other.key = key)) ∘
      (fun other => if other.key = session.key then session else other) = fun other => decide (other.key = key) := by
    funext other
    simp only [Function.comp_apply]
    split
    · rename_i heq
      rw [heq]
    · rfl
  simp only [find?, replace, List.find?_map, hkeys]
  refine Option.map_congr fun other hother => ?_
  have hother : other.key = key := by simpa using List.find?_some hother
  rw [hother]

lemma keys_replace (registry : Registry C Q) (session : Session C Q) :
    (registry.replace session).keys = registry.keys := by
  simp only [keys, replace, List.map_map]
  refine List.map_congr_left fun other _ => ?_
  simp only [Function.comp_apply]
  split
  · rename_i heq
    exact heq.symm
  · rfl

end Registry

namespace Host

variable {W C Q : Type} {host : Host C Q} (hnodup : host.registry.keys.Nodup)
include hnodup

/-- What is done to the session of a key concerns one place of the registry. -/
lemma onSession_cases {α : Type} (key : SessionKey) (missing : HostError)
    (action : Session C Q → W → Except HostError α × Session C Q × W)
    (haction : ∀ session world, (action session world).2.1.key = session.key) (world : W) :
    key ∉ host.registry.keys ∧ host.onSession key missing action world = (.error missing, host, world) ∨
      ∃ before session behind, host.registry.sessions = before ++ session :: behind ∧ session.key = key ∧
        (∀ other ∈ before ++ behind, other.key ≠ key) ∧
        host.onSession key missing action world = ((action session world).1,
          { host with registry := { host.registry with sessions := before ++ (action session world).2.1 :: behind } },
          (action session world).2.2) := by
  unfold onSession
  split
  · rename_i hnone
    exact .inl ⟨Registry.find?_eq_none_iff.mp hnone, rfl⟩
  · rename_i session hfind
    obtain ⟨before, behind, hsplit, hbefore, hbehind⟩ := Registry.find?_split hnodup hfind
    have hkey := Registry.key_of_find? hfind
    have hreplace := Registry.replace_split hsplit hbefore hbehind hkey ((haction session world).trans hkey)
    refine .inr ⟨before, session, behind, hsplit, hkey, ?_, ?_⟩
    · exact fun other hother => (List.mem_append.mp hother).elim (hbefore other) (hbehind other)
    · simp only [← hreplace]
      rfl

lemma onLive_cases {α : Type} (key : SessionKey)
    (action : RequestId → Session C Q → W → Except HostError α × RequestId × Session C Q × W)
    (haction : ∀ last session world, (action last session world).2.2.1.key = session.key) (world : W) :
    key ∉ host.registry.keys ∧ host.onLive key action world = (.error .sessionClosed, host, world) ∨
      ∃ before session behind, host.registry.sessions = before ++ session :: behind ∧ session.key = key ∧
        (∀ other ∈ before ++ behind, other.key ≠ key) ∧
        (session.state.acceptsIo = false ∧ host.onLive key action world = (.error .sessionClosed, host, world) ∨
          session.state.acceptsIo = true ∧ host.onLive key action world = ((action host.lastRequest session world).1,
            { host with
              registry := { host.registry with
                sessions := before ++ (action host.lastRequest session world).2.2.1 :: behind }
              lastRequest := (action host.lastRequest session world).2.1 },
            (action host.lastRequest session world).2.2.2)) := by
  unfold onLive
  split
  · rename_i hnone
    exact .inl ⟨Registry.find?_eq_none_iff.mp hnone, rfl⟩
  · rename_i session hfind
    obtain ⟨before, behind, hsplit, hbefore, hbehind⟩ := Registry.find?_split hnodup hfind
    have hkey := Registry.key_of_find? hfind
    have hreplace := Registry.replace_split hsplit hbefore hbehind hkey
      ((haction host.lastRequest session world).trans hkey)
    refine .inr ⟨before, session, behind, hsplit, hkey, ?_, ?_⟩
    · exact fun other hother => (List.mem_append.mp hother).elim (hbefore other) (hbehind other)
    · split
      · rename_i hlive
        refine .inr ⟨hlive, ?_⟩
        simp only [← hreplace]
        rfl
      · rename_i hlive
        exact .inl ⟨eq_false_of_ne_true hlive, rfl⟩

/-- A disconnect takes one session out of the registry. -/
lemma disconnect_cases [Fabric W C Q] (key : SessionKey) (world : W) :
    key ∉ host.registry.keys ∧ host.disconnect key world = (.error (.notFound (.session key)), host, world) ∨
      ∃ before session behind, host.registry.sessions = before ++ session :: behind ∧ session.key = key ∧
        (∀ other ∈ before ++ behind, other.key ≠ key) ∧
        host.disconnect key world = (.ok (),
          { host with registry := { host.registry with sessions := before ++ behind } }, session.release world) := by
  unfold disconnect
  split
  · rename_i hnone
    exact .inl ⟨Registry.find?_eq_none_iff.mp hnone, rfl⟩
  · rename_i session hfind
    obtain ⟨before, behind, hsplit, hbefore, hbehind⟩ := Registry.find?_split hnodup hfind
    have hkey := Registry.key_of_find? hfind
    have herase := Registry.erase_split hsplit hbefore hkey
    refine .inr ⟨before, session, behind, hsplit, hkey, ?_, ?_⟩
    · exact fun other hother => (List.mem_append.mp hother).elim (hbefore other) (hbehind other)
    · simp only [← herase]
      rfl

end Host

end FabricHost
