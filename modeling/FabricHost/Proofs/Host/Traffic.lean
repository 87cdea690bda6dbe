import FabricHost.Proofs.Host.Steps
import FabricHost.Proofs.Session.Traffic
import Mathlib.Data.List.Forall2

/-!
# Traffic on a host

Traffic moves commands and leaves to every session what it owns.
-/

namespace FabricHost

variable {W C Q L : Type} [Fabric W C Q] [Clock W]

namespace Labelling

/-- The sessions of a host own what they owned, and the record stays. -/
structure Unmoved (labels : Labelling W Q L) (before after : Host C Q × W) : Prop where
  config : after.1.config = before.1.config
  limit : after.1.registry.limit = before.1.registry.limit
  sessions : List.Forall₂ labels.Like before.1.registry.sessions after.1.registry.sessions
  record : labels.record after.2 = labels.record before.2

variable {labels : Labelling W Q L}

lemma forall₂_like_refl (sessions : List (Session C Q)) : List.Forall₂ labels.Like sessions sessions :=
  List.forall₂_same.mpr fun session _ => .refl session

lemma forall₂_like_trans {first second third : List (Session C Q)} (h : List.Forall₂ labels.Like first second)
    (h' : List.Forall₂ labels.Like second third) : List.Forall₂ labels.Like first third := by
  induction h generalizing third with
  | nil => exact h'
  | cons hlike _ ih =>
    cases h' with
    | cons hlike' hrest => exact .cons (hlike.trans hlike') (ih hrest)

lemma Unmoved.refl (before : Host C Q × W) : labels.Unmoved before before := ⟨rfl, rfl, forall₂_like_refl _, rfl⟩

lemma Unmoved.trans {first second third : Host C Q × W} (h : labels.Unmoved first second)
    (h' : labels.Unmoved second third) : labels.Unmoved first third where
  config := h'.config.trans h.config
  limit := h'.limit.trans h.limit
  sessions := forall₂_like_trans h.sessions h'.sessions
  record := h'.record.trans h.record

end Labelling

variable {labels : Labelling W Q L} {own : SessionKey → RequestId → Prop} {sends : Command → Prop}
  {before after : Host C Q × W}

lemma Host.Step.unmoved (h : Host.Step own sends before after) : labels.Unmoved before after := by
  cases h with
  | now => exact ⟨rfl, rfl, Labelling.forall₂_like_refl _, labels.now_record _⟩
  | number => exact ⟨rfl, rfl, Labelling.forall₂_like_refl _, rfl⟩
  | session hsplit h =>
    have halike : labels.Alike _ _ := h.alike
    refine ⟨rfl, rfl, ?_, halike.record⟩
    rw [hsplit]
    exact List.rel_append (Labelling.forall₂_like_refl _) (.cons halike.like (Labelling.forall₂_like_refl _))

lemma Host.Steps.unmoved (h : Host.Steps own sends before after) : labels.Unmoved before after := by
  induction h with
  | refl => exact .refl _
  | tail _ hstep ih => exact ih.trans hstep.unmoved

/-- Traffic leaves to every session what it owns. -/
lemma Labelling.perform_unmoved (labels : Labelling W Q L) {host : Host C Q} (hnodup : host.registry.keys.Nodup)
    {call : HostCall} (htraffic : call.isTraffic) (world : W) :
    labels.Unmoved (host, world) (host.perform call world).2 :=
  (Host.perform_steps hnodup htraffic world).unmoved

end FabricHost
