import FabricHost.Proofs.Host.Views
import FabricHost.Proofs.Ownership.Tracing

/-!
# Fabrics that note down answers

What queue pairs are asked to do can be noted down with every answer that they give, completions and ids included. Apart
from the notes, the fabric is the one it is made from, and so is what a host does to it.
-/

namespace FabricHost

/-- What a queue pair was asked to do, with its answer. -/
inductive QueueNote where
  | processed (queue limit : Nat) (answer : Except TransportFailure (List Completion))
  | submitted (queue : Nat) (command : Command) (answer : Except SubmitError CommandId)

/-- A world with the notes that were made in it. -/
structure Noted (W : Type) where
  world : W
  notes : List QueueNote := []

namespace Noted

variable {W C Q : Type}

instance [Clock W] : Clock (Noted W) where
  now noted :=
    let (tick, world) := Clock.now noted.world
    (tick, { noted with world })

instance [QueuePairs W (Numbered Q)] : QueuePairs (Noted W) (Numbered Q) where
  submit queue command noted :=
    let (answer, queue', world) := QueuePairs.submit queue command noted.world
    (answer, queue', { world, notes := noted.notes ++ [.submitted queue.number command answer] })
  process queue limit noted :=
    let (answer, queue', world) := QueuePairs.process queue limit noted.world
    (answer, queue', { world, notes := noted.notes ++ [.processed queue.number limit answer] })
  outstanding queue noted := QueuePairs.outstanding queue noted.world
  release queue noted := { noted with world := QueuePairs.release queue noted.world }

variable [Fabric W C (Numbered Q)]

instance : Fabric (Noted W) C (Numbered Q) where
  name noted := Fabric.name noted.world
  supports kind noted := Fabric.supports kind noted.world
  resolve host noted := (Fabric.resolve host noted.world).map id fun world => { noted with world }
  connect params timeoutMs noted := (Fabric.connect params timeoutMs noted.world).map id fun world => { noted with world }
  wait ms noted := { noted with world := Fabric.wait ms noted.world }
  createIoQueue controller depth noted :=
    (Fabric.createIoQueue controller depth noted.world).map id (Prod.map id fun world => { noted with world })
  resetController controller noted :=
    (Fabric.resetController controller noted.world).map id (Prod.map id fun world => { noted with world })
  releaseController controller noted := { noted with world := Fabric.releaseController controller noted.world }

/-- The fabric without the notes. -/
def plain (W C Q : Type) [Fabric W C (Numbered Q)] [Clock W] : View (Noted W) C (Numbered Q) W C (Numbered Q) where
  world := Noted.world
  controller := id
  queue := id
  now_eq _ := rfl
  submit_eq _ _ _ := rfl
  process_eq _ _ _ := rfl
  release_eq _ _ := rfl
  name_eq _ := rfl
  supports_eq _ _ := rfl
  resolve_eq _ _ := rfl
  connect_eq params timeoutMs noted := by
    simp only [Fabric.connect]
    rcases Fabric.connect params timeoutMs noted.world with ⟨_ | _ | _, world⟩ <;> rfl
  wait_eq _ _ := rfl
  createIoQueue_eq controller depth noted := by
    simp only [Fabric.createIoQueue, id_eq]
    rcases Fabric.createIoQueue controller depth noted.world with ⟨_ | _, controller, world⟩ <;> rfl
  resetController_eq _ _ := rfl
  releaseController_eq _ _ := rfl

variable [Clock W]

lemma plain_session (session : Session C (Numbered Q)) : (plain W C Q).blur.session session = session := by
  rcases session with ⟨_, _, _, io, _⟩
  cases io <;> rfl

lemma plain_host (host : Host C (Numbered Q)) : (plain W C Q).blur.host host = host := by
  have hsessions : host.registry.sessions.map (plain W C Q).blur.session = host.registry.sessions := by
    rw [funext plain_session]
    exact List.map_id _
  exact congrArg (fun sessions => { host with registry := { host.registry with sessions } }) hsessions

/-- Notes do not change what a call does. -/
lemma perform_plain (host : Host C (Numbered Q)) (call : HostCall) (noted : Noted W) :
    host.perform call noted.world = (host.perform call noted).map id (Prod.map id Noted.world) := by
  have hview := (plain W C Q).blur.host_perform host noted call
  rwa [plain_host, funext plain_host] at hview

end Noted

end FabricHost
