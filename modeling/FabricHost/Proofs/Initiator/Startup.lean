import FabricHost.Initiator
import FabricHost.Loopback.Network
import FabricHost.Proofs.Attempts.Calls
import FabricHost.Proofs.Host.Calls
import FabricHost.Proofs.Requests.Lifecycle

/-!
# Connecting at startup, name by name

An initiator is asked to connect, to use what is connected, and to change its attempts. Whatever is asked, the names of its
attempts stay distinct, and connecting does not touch the attempts. So the pass that connects all enabled attempts as they
were at its beginning does what looking up their names does, one after the other: each lookup finds the attempt that the
pass took, on a host that has come as far.
-/

namespace FabricHost

/-- What is asked of an initiator. -/
inductive InitiatorCall where
  | connect (command : ConnectCommand)
  | connectAttempt (name : String)
  | connectAttempts
  /-- What concerns the host alone. -/
  | ofHost (call : HostCall) (h : call.connects = false)
  | edit (call : StoreCall)
  /-- Puts another store in the place of the present one. -/
  | replace (store : AttemptStore) (reachable : store.Reachable)

namespace Initiator

variable {W C Q : Type} [Fabric W C Q] [Clock W]

/-- The initiator after a call that is made in a world. -/
def after (initiator : Initiator C Q) (world : W) : InitiatorCall → Initiator C Q
  | .connect command => (initiator.connect command world).2.1
  | .connectAttempt name => (initiator.connectAttempt name world).2.1
  | .connectAttempts => (initiator.connectAttempts world).2.1
  | .ofHost call _ => (initiator.onHost (fun host => host.perform call) world).2.1
  | .edit call => { initiator with attempts := (initiator.attempts.perform call).2 }
  | .replace store _ => { initiator with attempts := store }

/-- The initiators that come from one without sessions by calls. Between two calls the world may change in any way. -/
inductive Reachable (W : Type) {C Q : Type} [Fabric W C Q] [Clock W] : Initiator C Q → Prop
  | start (config : Config) {store : AttemptStore} : store.Reachable → Reachable W (ofConfig config store)
  | called {initiator : Initiator C Q} (world : W) (call : InitiatorCall) :
    Reachable W initiator → Reachable W (initiator.after world call)

/-- Connects the attempts of several names one after the other, each looked up when its turn comes. One that fails does
not stop the others. -/
def connectNamed (initiator : Initiator C Q) : List String → (world : W) →
    List (String × Except HostError SessionKey) × Initiator C Q × W
  | [], world => ([], initiator, world)
  | name :: rest, world =>
    let (result, initiator, world) := initiator.connectAttempt name world
    let (results, initiator, world) := initiator.connectNamed rest world
    ((name, result) :: results, initiator, world)

variable {initiator : Initiator C Q}

lemma attempts_connectAttempt (initiator : Initiator C Q) (name : String) (world : W) :
    (initiator.connectAttempt name world).2.1.attempts = initiator.attempts := by
  unfold connectAttempt
  split <;> rfl

lemma attempts_connectEach (initiator : Initiator C Q) (attempts : List Attempt) (world : W) :
    (initiator.connectEach attempts world).2.1.attempts = initiator.attempts := by
  induction attempts generalizing initiator world with
  | nil => rfl
  | cons attempt rest ih =>
    simp only [connectEach, ih]
    rfl

lemma attempts_connectAttempts (initiator : Initiator C Q) (world : W) :
    (initiator.connectAttempts world).2.1.attempts = initiator.attempts := by
  unfold connectAttempts
  split
  · exact attempts_connectEach initiator _ world
  · rfl

/-- Attempts come about by accepted changes of the store only, whatever is asked. -/
lemma Reachable.attempts (reachable : Reachable W initiator) : initiator.attempts.Reachable := by
  induction reachable with
  | start config h => exact h
  | @called initiator world call _ ih =>
    cases call with
    | connect command => exact ih
    | connectAttempt name => exact (initiator.attempts_connectAttempt name world).symm ▸ ih
    | connectAttempts => exact (initiator.attempts_connectAttempts world).symm ▸ ih
    | ofHost call h => exact ih
    | edit call => exact ih.perform call
    | replace store h => exact h

/-- One attempt, connected by its name. -/
lemma connectAttempt_of_get? {attempt : Attempt} (h : initiator.attempts.get? attempt.name = some attempt) (world : W) :
    initiator.connectAttempt attempt.name world =
      initiator.onHost (fun host => host.connectAttempt attempt initiator.attempts.defaults) world := by
  simp only [connectAttempt, h]

/-- As long as each name leads to its attempt, attempts are connected by their names. -/
lemma connectNamed_eq_connectEach {attempts : List Attempt}
    (h : ∀ attempt ∈ attempts, initiator.attempts.get? attempt.name = some attempt) (world : W) :
    initiator.connectNamed (attempts.map Attempt.name) world = initiator.connectEach attempts world := by
  induction attempts generalizing initiator world with
  | nil => rfl
  | cons attempt rest ih =>
    rw [List.forall_mem_cons] at h
    -- what the first attempt leaves behind has the same attempts to look up
    have hrest : ∀ (host : Host C Q) (world : W), ({ initiator with host } : Initiator C Q).connectNamed
        (rest.map Attempt.name) world = ({ initiator with host } : Initiator C Q).connectEach rest world := by
      intro host world
      apply ih
      exact h.2
    simp only [List.map_cons, connectNamed, connectEach, connectAttempt_of_get? h.1]
    simp only [onHost, hrest]

/-- Wherever an initiator that connects at startup stands, and whatever its fabric does, its pass over the enabled attempts
answers the same, and leaves the same initiator and the same world, as connecting the attempts by their names one after the
other, in the order of the store. -/
theorem connectAttempts_eq_connectNamed (reachable : Reachable W initiator)
    (enabled : initiator.attempts.defaults.enabled = true) (world : W) :
    initiator.connectAttempts world = initiator.connectNamed (initiator.attempts.enabled.map Attempt.name) world := by
  have sound := reachable.attempts.sound
  have hfound : ∀ attempt ∈ initiator.attempts.enabled, initiator.attempts.get? attempt.name = some attempt :=
    fun attempt h => sound.get?_of_mem (List.mem_of_mem_filter h)
  rw [connectAttempts, if_pos enabled, connectNamed_eq_connectEach hfound]

/-- Two attempts at the same target and one that is not enabled. -/
def bootAttempts : List StoreCall :=
  [.add { name := "boot0", enabled := true, targetAddress := "192.0.2.1", subsystemNqn := "nqn.2014-08.example:disk" },
    .add { name := "spare", targetAddress := "192.0.2.1" },
    .add { name := "boot1", enabled := true, targetAddress := "192.0.2.1", subsystemNqn := "nqn.2014-08.example:disk" }]

/-- An initiator with these attempts that has room for a single session. -/
def crowded : Initiator LoopbackController LoopbackQueue :=
  .ofConfig { maxSessions := 1 } ((AttemptStore.fresh .nil).run bootAttempts)

lemma crowded_reachable : Reachable Simulation crowded := .start _ (AttemptStore.Reachable.run (.fresh .nil) bootAttempts)

set_option maxRecDepth 10000 in
/-- The first attempt takes the only place, and the second fails for want of one. -/
theorem connectAttempts_eq_connectNamed_crowded :
    Reachable Simulation crowded ∧ crowded.attempts.defaults.enabled = true ∧
      (crowded.connectAttempts Simulation.single).1 =
        [("boot0", .ok Simulation.singleKey), ("boot1", .error (.outOfResources (.sessions 1)))] ∧
      crowded.connectAttempts Simulation.single = crowded.connectNamed ["boot0", "boot1"] Simulation.single := by
  have enabled : crowded.attempts.defaults.enabled = true := by decide +kernel
  have hnames : crowded.attempts.enabled.map Attempt.name = ["boot0", "boot1"] := by decide +kernel
  have hpass := connectAttempts_eq_connectNamed crowded_reachable enabled Simulation.single
  rw [hnames] at hpass
  exact ⟨crowded_reachable, enabled, by decide +kernel, hpass⟩

end Initiator

end FabricHost
