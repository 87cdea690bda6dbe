import FabricHost.Loopback.Network
import FabricHost.Proofs.Loopback.Pending
import Mathlib.Data.Nat.Find
import Mathlib.Data.PFun

/-!
# The search for a free id ends

A queue pair looks for an id from its counter on, round after round, and nothing in the loop bounds the rounds. The
search ends exactly if some id is free, and then with the first free one behind the counter, across the point where the
counter wraps around. However a queue pair was made and used, fewer commands are pending on it than there are ids. So
its searches end, wherever the counter stands, and the bounded search that `submit` makes finds the same id.
-/

namespace FabricHost.LoopbackQueue

/-- A round of the search. It takes the counter's id and moves the counter on; if the id is free, the search ends with
the id and the counter behind it. -/
def searchRound (taken : List CommandId) (counter : CommandId) : (CommandId × CommandId) ⊕ CommandId :=
  if counter ∈ taken then .inr (counter + 1) else .inl (counter, counter + 1)

/-- The search for an id that is not taken: round after round, for as long as it takes. It has no answer if the rounds
never end. -/
def allocate (taken : List CommandId) : CommandId →. CommandId × CommandId :=
  PFun.fix (PFun.lift (searchRound taken))

/-- An id is free, and so many ids from the counter up to it are not. -/
structure FirstFree (taken : List CommandId) (counter : CommandId) (steps : Nat) (id : CommandId) : Prop where
  reached : id = counter + UInt16.ofNat steps
  passed : ∀ j < steps, counter + UInt16.ofNat j ∈ taken
  free : id ∉ taken

variable {taken : List CommandId} {counter id next : CommandId} {steps : Nat}

/-- Behind a taken id the search goes on as from the next one, which may be zero. -/
lemma firstFree_succ_iff (hcounter : counter ∈ taken) :
    FirstFree taken counter (steps + 1) id ↔ FirstFree taken (counter + 1) steps id := by
  have hnext : ∀ j, counter + UInt16.ofNat (j + 1) = counter + 1 + UInt16.ofNat j := by
    intro j
    rw [UInt16.ofNat_add, UInt16.add_assoc, UInt16.add_comm 1]
    rfl
  constructor
  · intro h
    refine ⟨(hnext steps) ▸ h.reached, fun j hj => ?_, h.free⟩
    rw [← hnext]
    exact h.passed (j + 1) (Nat.succ_lt_succ hj)
  · intro h
    refine ⟨(hnext steps).symm ▸ h.reached, fun j hj => ?_, h.free⟩
    cases j with
    | zero => simpa using hcounter
    | succ j =>
      rw [hnext]
      exact h.passed j (Nat.lt_of_succ_lt_succ hj)

lemma inl_mem_searchRound {counter : CommandId} :
    Sum.inl (id, next) ∈ PFun.lift (searchRound taken) counter ↔
      counter ∉ taken ∧ id = counter ∧ next = counter + 1 := by
  simp only [PFun.coe_val, Part.mem_some_iff, searchRound]
  split <;> simp_all

lemma inr_mem_searchRound {counter later : CommandId} :
    Sum.inr later ∈ PFun.lift (searchRound taken) counter ↔ counter ∈ taken ∧ later = counter + 1 := by
  simp only [PFun.coe_val, Part.mem_some_iff, searchRound]
  split <;> simp_all

/-- A search with a free id before it gets there. -/
lemma FirstFree.mem_allocate (h : FirstFree taken counter steps id) : (id, id + 1) ∈ allocate taken counter := by
  induction steps generalizing counter with
  | zero =>
    have hid : id = counter := by simpa using h.reached
    subst hid
    exact PFun.fix_stop (inl_mem_searchRound.mpr ⟨h.free, rfl, rfl⟩)
  | succ steps ih =>
    have hcounter : counter ∈ taken := by simpa using h.passed 0 (Nat.zero_lt_succ steps)
    have hround := inr_mem_searchRound.mpr ⟨hcounter, rfl⟩
    rw [allocate, PFun.fix_fwd_eq hround]
    exact ih ((firstFree_succ_iff hcounter).mp h)

/-- A search that ends has passed taken ids only, and leaves the counter behind a free one. -/
lemma firstFree_of_mem_allocate (h : (id, next) ∈ allocate taken counter) :
    next = id + 1 ∧ ∃ steps, FirstFree taken counter steps id := by
  refine PFun.fixInduction' h (fun last hround => ?_) fun before later _ hround ih => ?_
  · obtain ⟨hfree, rfl, rfl⟩ := inl_mem_searchRound.mp hround
    exact ⟨rfl, 0, by simp, by simp, hfree⟩
  · obtain ⟨hbefore, rfl⟩ := inr_mem_searchRound.mp hround
    obtain ⟨hnext, steps, hfirst⟩ := ih
    exact ⟨hnext, steps + 1, (firstFree_succ_iff hbefore).mpr hfirst⟩

/-- The search ends exactly if not all ids are taken. -/
theorem allocate_dom_iff : (allocate taken counter).Dom ↔ ∃ id, id ∉ taken := by
  rw [Part.dom_iff_mem]
  constructor
  · rintro ⟨answer, h⟩
    obtain ⟨-, steps, hfirst⟩ := firstFree_of_mem_allocate h
    exact ⟨answer.1, hfirst.free⟩
  · rintro ⟨id, hid⟩
    -- the id lies some way behind the counter, so there is a first free one
    have hsome : ∃ steps, counter + UInt16.ofNat steps ∉ taken := by
      refine ⟨(id - counter).toNat, ?_⟩
      rwa [UInt16.ofNat_toNat, UInt16.add_comm, UInt16.sub_add_cancel]
    have hfirst : FirstFree taken counter (Nat.find hsome) (counter + UInt16.ofNat (Nat.find hsome)) :=
      ⟨rfl, fun j hj => not_not.mp (Nat.find_min hsome hj), Nat.find_spec hsome⟩
    exact ⟨_, hfirst.mem_allocate⟩

/-- The bounded search finds the first free id, if it is given a try for each id that is taken. -/
lemma firstFree_freeIdFrom {tries : Nat} (counter : CommandId) (htaken : taken.length ≤ tries) (htries : tries < 65536) :
    ∃ steps ≤ tries, FirstFree taken counter steps (freeIdFrom taken tries counter) := by
  obtain ⟨steps, hle, hreached, hpassed, -⟩ := freeIdFrom_reaches taken tries counter
  exact ⟨steps, hle, hreached, hpassed, freeIdFrom_notMem counter htaken htries⟩

example : freeIdFrom [65535, 0] 2 65535 = 1 := by decide

/-- The queue pairs that a handshake brings or that are made for a controller, however they were used since. -/
inductive Reachable : LoopbackQueue → Prop
  | admin {net net' : Loopback} {params : HandshakeParams} {association : Association LoopbackController LoopbackQueue} :
    net.handshake params = (.ok association, net') → Reachable association.admin
  | io {controller controller' : LoopbackController} {depth : UInt16} {net net' : Loopback} {queue : LoopbackQueue} :
    Loopback.createIoQueue controller depth net = (.ok queue, controller', net') → Reachable queue
  | submitted {queue : LoopbackQueue} (command : Command) (net : Loopback) :
    Reachable queue → Reachable (queue.submit command net).2.1
  | processed {queue : LoopbackQueue} (limit : Nat) (net : Loopback) :
    Reachable queue → Reachable (queue.process limit net).2.1

lemma Reachable.apart {queue : LoopbackQueue} (reachable : queue.Reachable) : queue.Apart := by
  induction reachable with
  | admin h => exact Loopback.handshake_apart h
  | io h => exact Loopback.createIoQueue_apart h
  | submitted command net _ ih => exact ih.submit command net
  | processed limit net _ ih => exact ih.process limit net

/-- A command that suits an attached queue pair with a free slot is accepted under the free id. -/
lemma submit_of_room {queue : LoopbackQueue} {command : Command} {net : Loopback} {attachment : Attachment}
    (hattached : queue.attachment net = .ok attachment) (hkind : command.isAdmin = queue.isAdmin)
    (hroom : queue.pending.length < queue.depth) :
    (queue.submit command net).1 = .ok queue.freeId ∧ (queue.submit command net).2.1.nextId = queue.freeId + 1 := by
  unfold submit
  simp only [hattached, hkind, ne_eq, not_true_eq_false, if_false, if_neg (Nat.not_le_of_lt hroom), and_self]

/-- However a queue pair came about, and wherever its counter stands, the search for an id ends within one round more than
commands are pending. It finds the first free id behind the counter, which no pending command has. That is the id under
which a command is accepted if there is a slot for it, and the counter goes on behind it. -/
theorem allocation_ends {queue : LoopbackQueue} (reachable : queue.Reachable) (counter : CommandId) :
    let standing := { queue with nextId := counter }
    let taken := queue.pending.map PendingCommand.id
    ∃ id, (id, id + 1) ∈ allocate taken counter ∧ (∀ entry ∈ queue.pending, entry.id ≠ id) ∧
      (∃ steps ≤ queue.pending.length, FirstFree taken counter steps id) ∧
      ∀ command net attachment, standing.attachment net = .ok attachment → command.isAdmin = standing.isAdmin →
        queue.pending.length < queue.depth →
          (standing.submit command net).1 = .ok id ∧ (standing.submit command net).2.1.nextId = id + 1 := by
  intro standing taken
  have apart := reachable.apart
  have hpending : queue.pending.length < 65536 := Nat.lt_of_le_of_lt apart.length_le apart.depth_lt
  obtain ⟨steps, hsteps, hfirst⟩ :=
    firstFree_freeIdFrom counter (Nat.le_of_eq (List.length_map PendingCommand.id)) hpending
  refine ⟨standing.freeId, hfirst.mem_allocate, ?_, ⟨steps, hsteps, hfirst⟩, ?_⟩
  · rintro entry hentry heq
    have hpending : entry.id ∈ taken := List.mem_map_of_mem hentry
    rw [heq] at hpending
    exact hfirst.free hpending
  · intro command net attachment hattached hkind hroom
    exact submit_of_room hattached hkind hroom

/-- An I/O queue pair with two commands that have the first two ids. -/
def twoPending : LoopbackQueue where
  controllerId := 1
  generation := some 0
  depth := 8
  nextId := 2
  pending := [⟨0, .read 1 0 1, 0⟩, ⟨1, .read 1 1 1, 0⟩]

lemma twoPending_reachable : twoPending.Reachable := by
  have hmade : Loopback.createIoQueue ⟨1⟩ 8 (Loopback.attached 0) =
      (.ok { controllerId := 1, generation := some 0, depth := 8 }, ⟨1⟩,
        (Loopback.attached 0).count fun stats => { stats with liveIoQueues := stats.liveIoQueues + 1 }) := rfl
  exact .submitted (.read 1 1 1) (Loopback.attached 0) (.submitted (.read 1 0 1) (Loopback.attached 0) (.io hmade))

theorem allocation_ends_twoPending : twoPending.Reachable ∧ twoPending.pending.map PendingCommand.id = [0, 1] ∧
    (2, 3) ∈ allocate [0, 1] 0 := by
  obtain ⟨id, hallocate, -, -, hsubmit⟩ := allocation_ends twoPending_reachable 0
  have haccepted := (hsubmit (.read 1 2 1) (Loopback.attached 0) ⟨⟨Loopback.portal, "nqn.subsystem"⟩, 0⟩ rfl rfl
    (by decide)).1
  cases haccepted
  exact ⟨twoPending_reachable, rfl, hallocate⟩

end FabricHost.LoopbackQueue
