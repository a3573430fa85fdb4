import HandleLedger.Interception.Request
import HandleLedger.Proofs.Ledger.Effect

/-!
# Runs of the layer

A run is a list of turns: the driver gives handles their dispatch keys, or a call is taken through
the layer (`Layer.play`). What every operation on the books keeps, every run keeps
(`Layer.keeps_play`), so the ledger stays `Ledger.Filed` (`Layer.filed_play`).
-/

set_option autoImplicit false

namespace HandleLedger

/-! ## What passages keep -/

namespace Passage

variable {s : Shape} {p : Passage s} {I : Ledger → Prop}

theorem run_of_skip (h : p.check.skip = true) (outcome : s.Outcome) (l : Ledger) :
    p.run outcome l = ⟨s.skipped, l, p.check.trace⟩ :=
  if_pos h

theorem run_of_not_skip (h : p.check.skip = false) (outcome : s.Outcome) (l : Ledger) :
    p.run outcome l =
      ⟨outcome, (p.record outcome (p.prepare l).ledger).ledger,
        p.check.trace ++ (p.prepare l).trace ++
          .call (p.prepare l).ledger :: (p.record outcome (p.prepare l).ledger).trace⟩ :=
  if_neg (Bool.eq_false_iff.mp h)

/-- An invariant has to be kept only by calls that run. -/
theorem run_induction {outcome : s.Outcome} {l : Ledger} (hl : I l)
    (h : p.check.skip = false → I (p.record outcome (p.prepare l).ledger).ledger) :
    I (p.run outcome l).ledger := by
  cases hskip : p.check.skip with
  | true =>
    -- a skipped call leaves the books alone
    rw [run_of_skip hskip]
    exact hl
  | false =>
    rw [run_of_not_skip hskip]
    exact h hskip

/-- Neither part of the passage breaks the invariant. -/
structure Keeps (I : Ledger → Prop) (p : Passage s) : Prop where
  prepare : p.prepare.Keeps I
  record : ∀ outcome, (p.record outcome).Keeps I

theorem Keeps.run (hp : p.Keeps I) (outcome : s.Outcome) : (p.run outcome).Keeps I := by
  intro l hl
  refine run_induction hl fun _ => ?_
  exact hp.record outcome _ (hp.prepare l hl)

theorem keeps_checking (check : Check) : (checking check : Passage s).Keeps I :=
  ⟨Action.keeps_pure (), fun _ => Action.keeps_pure ()⟩

theorem keeps_creating (check : Check) {record : Handle → Action Unit}
    (h : ∀ o, (record o).Keeps I) : (creating check record).Keeps I where
  prepare := Action.keeps_pure ()
  record
    | .error _ => Action.keeps_pure ()
    | .ok o => h o

theorem keeps_listing (check : Check) {record : List Handle → Action Unit}
    (h : ∀ os, (record os).Keeps I) : (listing check record).Keeps I where
  prepare := Action.keeps_pure ()
  record
    | .error _ => Action.keeps_pure ()
    | .ok os => h os

end Passage

/-! ## What every operation keeps -/

namespace Layer

section Keeps

variable {I : Ledger → Prop} (hI : ∀ op : Ledger.Operation, op.run.Keeps I) (l : Layer)

include hI

theorem keeps_createDevice (physicalDevice : Handle) (families : List UInt32) (custom : Bool) :
    (l.createDevice physicalDevice families custom).Keeps I := by
  refine Passage.keeps_creating _ fun o => ?_
  refine (hI (.openDevice ..)).of_map.bind fun known => ?_
  cases known with
  | true =>
    refine (hI (.registerObject ..)).of_returning.bind fun _ => ?_
    exact (hI (.noteFamilyFlags ..)).of_returning
  | false => exact Action.keeps_emit _

theorem keeps_createFrom (scope : Scope) (owner : Handle) (kind : Kind) (ownerCode : Code)
    (custom : Bool) : (l.createFrom scope owner kind ownerCode custom).Keeps I :=
  Passage.keeps_creating _ fun _ => (hI (.registerObject ..)).of_returning

theorem keeps_getDeviceQueue (device : Handle) (family : UInt32) :
    (l.getDeviceQueue device family).Keeps I where
  prepare := Action.keeps_pure ()
  record queue := by
    show Action.Keeps I (if queue = nullHandle then pure () else _)
    split
    · exact Action.keeps_pure ()
    · refine (hI (.registerQueue ..)).of_returning.bind fun _ => ?_
      exact (hI (.noteQueueFamily ..)).of_returning

theorem keeps_destroyInstance (h : Handle) (custom : Bool) :
    (l.destroyInstance h custom).Keeps I := by
  rw [destroyInstance]
  split
  · exact Passage.keeps_checking _
  · constructor
    · refine (Action.keeps_ofSurvey _).bind fun _ => ?_
      exact (Action.keeps_ofSurvey _).bind fun _ => Action.keeps_pure ()
    · exact fun _ => (hI (.closeInstance _)).of_returning

theorem keeps_destroyDevice (h : Handle) (custom : Bool) :
    (l.destroyDevice h custom).Keeps I := by
  simp only [destroyDevice]
  split
  · exact Passage.keeps_checking _
  · -- a device of an unknown instance is only noted
    split
    · exact Passage.keeps_checking _
    · constructor
      · refine (Action.keeps_ofSurvey _).bind fun _ => ?_
        exact (hI (.dropOwned _)).of_returning.bind fun _ => (hI (.dropQueues _)).of_returning
      · intro _
        exact (hI (.release ..)).of_returning.bind fun _ => (hI (.closeDevice _)).of_returning

theorem keeps_dropWith (child : Child) (device : DispatchKey) (h : Handle) :
    (dropWith child device h).Keeps I := by
  unfold dropWith
  split
  · exact Action.keeps_pure ()
  · split
    · exact (hI (.dropChildren ..)).of_map.bind fun _ => Action.keeps_pure ()
    · exact (hI (.dropChildren ..)).of_map.bind fun _ => Action.keeps_pure ()
    · exact (hI (.dropImages ..)).of_map.bind fun _ => Action.keeps_pure ()
    · exact Action.keeps_pure ()

theorem keeps_destroy (child : Child) (owner h : Handle) (custom : Bool) :
    (l.destroy child owner h custom).Keeps I where
  prepare := Action.keeps_pure ()
  record _ := (hI (.release ..)).of_returning.bind fun _ => keeps_dropWith hI child _ _

theorem keeps_freeDescriptorSets (device pool : Handle) (hs : List Handle) :
    (l.freeDescriptorSets device pool hs).Keeps I where
  prepare := Action.keeps_pure ()
  record
    | .error _ => Action.keeps_pure ()
    | .ok () => Action.keeps_each fun _ _ => (hI (.release ..)).of_returning

/-- What every operation on the books keeps, every passage keeps. -/
theorem keeps_passage (r : Request) : (r.passage l).Keeps I := by
  cases r with
  | createInstance custom sink =>
    refine Passage.keeps_creating _ fun _ => ?_
    exact (hI (.openInstance ..)).of_returning.bind fun _ => (hI (.registerObject ..)).of_returning
  | destroyInstance h custom => exact l.keeps_destroyInstance hI h custom
  | enumeratePhysicalDevices h =>
    exact Passage.keeps_listing _ fun _ =>
      Action.keeps_each fun _ _ => (hI (.registerObject ..)).of_returning
  | createDevice h families custom => exact l.keeps_createDevice hI h families custom
  | destroyDevice h custom => exact l.keeps_destroyDevice hI h custom
  | getDeviceQueue device family => exact l.keeps_getDeviceQueue hI device family
  | queueSubmit => exact Passage.keeps_checking _
  | queueBindSparse => exact Passage.keeps_checking _
  | createDeviceChild => exact l.keeps_createFrom hI _ _ _ _ _
  | destroyDeviceChild => exact ⟨Action.keeps_pure (), fun _ => (hI (.release ..)).of_returning⟩
  | create what owner custom =>
    exact ⟨Action.keeps_pure (), (l.keeps_createFrom hI _ _ _ what.child.creationCode _).record⟩
  | destroy child owner h custom => exact l.keeps_destroy hI child owner h custom
  | getSwapchainImages =>
    exact Passage.keeps_listing _ fun _ =>
      Action.keeps_each fun _ _ => (hI (.registerImage ..)).of_returning
  | allocateCommandBuffers =>
    exact Passage.keeps_listing _ fun _ =>
      Action.keeps_each fun _ _ => (hI (.registerCommandBuffer ..)).of_returning
  | freeCommandBuffers =>
    exact ⟨Action.keeps_pure (), fun _ =>
      Action.keeps_each fun _ _ => (hI (.release ..)).of_returning⟩
  | beginCommandBuffer => exact Passage.keeps_checking _
  | resetDescriptorPool =>
    refine ⟨?_, fun _ => Action.keeps_pure ()⟩
    exact (hI (.dropChildren ..)).of_map.bind fun _ => Action.keeps_pure ()
  | allocateDescriptorSets =>
    exact Passage.keeps_listing _ fun _ =>
      Action.keeps_each fun _ _ => (hI (.registerDescriptorSet ..)).of_returning
  | freeDescriptorSets device pool hs => exact l.keeps_freeDescriptorSets hI device pool hs
  | bindImageMemory => exact Passage.keeps_checking _
  | bindBufferMemory => exact Passage.keeps_checking _
  | mapMemory => exact Passage.keeps_checking _
  | waitForFences => exact Passage.keeps_checking _

end Keeps

end Layer

/-! ## Runs -/

/-- What can happen to a layer. -/
inductive Turn
  /-- The driver gives handles their dispatch keys. -/
  | bind (pairs : List (Handle × DispatchKey))
  | call (c : Call)

namespace Layer

/-- The layer after a turn. -/
def take (l : Layer) : Turn → Layer
  | .bind pairs => l.bind pairs
  | .call c => (l.intercept c).layer

/-- The layer after a run. -/
def play (l : Layer) (ts : List Turn) : Layer := ts.foldl take l

theorem config_take (l : Layer) (t : Turn) : (l.take t).config = l.config := by
  cases t <;> rfl

/-- What each turn of a run keeps, the run keeps. -/
theorem play_induction {P : Layer → Prop} {ts : List Turn}
    (hstep : ∀ l, ∀ t ∈ ts, P l → P (l.take t)) {l : Layer} (hl : P l) : P (l.play ts) := by
  induction ts generalizing l with
  | nil => exact hl
  | cons t ts ih =>
    apply ih
    · intro l u hu hl
      exact hstep l u (List.mem_cons_of_mem _ hu) hl
    · exact hstep l t (List.mem_cons_self ..) hl

/-- What every operation on the books keeps, every turn keeps. -/
theorem keeps_take {I : Ledger → Prop} (hI : ∀ op : Ledger.Operation, op.run.Keeps I) {l : Layer}
    (hl : I l.ledger) (t : Turn) : I (l.take t).ledger := by
  cases t with
  | bind pairs => exact hl
  | call c => exact (l.keeps_passage hI c.request).run c.outcome l.ledger hl

theorem keeps_play {I : Ledger → Prop} (hI : ∀ op : Ledger.Operation, op.run.Keeps I) {l : Layer}
    (hl : I l.ledger) (ts : List Turn) : I (l.play ts).ledger :=
  play_induction (P := fun m => I m.ledger) (fun _ t _ hm => keeps_take hI hm t) hl

theorem filed_take {l : Layer} (hl : l.ledger.Filed) (t : Turn) : (l.take t).ledger.Filed :=
  keeps_take Ledger.Filed.keeps_run hl t

theorem filed_play {l : Layer} (hl : l.ledger.Filed) (ts : List Turn) :
    (l.play ts).ledger.Filed :=
  keeps_play Ledger.Filed.keeps_run hl ts

theorem filed_play_ofConfig (config : Config) (ts : List Turn) :
    ((ofConfig config).play ts).ledger.Filed :=
  filed_play (l := ofConfig config) (Ledger.every_empty _) ts

end Layer

end HandleLedger
