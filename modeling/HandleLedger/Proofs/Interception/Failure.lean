import HandleLedger.Proofs.Interception.Gate
import HandleLedger.Proofs.Ledger.Replay
import HandleLedger.Proofs.Lifetime.Clearance

/-!
# Calls that fail

The books follow a call once it has succeeded, so a call that runs and fails changes nothing
(`Layer.settle_of_failure`). One request does not keep to that. The reset of a descriptor pool
takes the sets of the pool out of the books before the call and leaves them out whatever comes of
it, so that a reset that fails leaves the same books as one that succeeds.
-/

set_option autoImplicit false

namespace HandleLedger

/-- The number by which an outcome says why the call failed. -/
def Shape.failure? : (s : Shape) → s.Outcome → Option ResultCode
  | .handle, .error code => some code
  | .handle, .ok _ => none
  | .handles, .error code => some code
  | .handles, .ok _ => none
  | .status, .error code => some code
  | .status, .ok _ => none
  | .nothing, _ => none
  | .queue, _ => none

/-- The number by which a call says why it failed. -/
def Call.failure? (c : Call) : Option ResultCode := c.request.shape.failure? c.outcome

namespace Passage

variable {code : ResultCode} {l : Ledger}

theorem settle_creating_of_failure (check : Check) (record : Handle → Action Unit)
    {outcome : Shape.handle.Outcome} (h : Shape.handle.failure? outcome = some code) :
    (creating check record).settle outcome l = l := by
  cases outcome with
  | error _ => rfl
  | ok _ => cases h

theorem settle_listing_of_failure (check : Check) (record : List Handle → Action Unit)
    {outcome : Shape.handles.Outcome} (h : Shape.handles.failure? outcome = some code) :
    (listing check record).settle outcome l = l := by
  cases outcome with
  | error _ => rfl
  | ok _ => cases h

end Passage

namespace Ledger

theorem nextIndex_dropChildren (device : DispatchKey) (pool : Handle) (k : Kind) (l : Ledger) :
    (dropChildren device pool k l).ledger.nextIndex = l.nextIndex := by
  rw [dropChildren]
  cases hc : l.context? (.ofDevice device) with
  | none => rw [Action.within_of_eq_none hc]
  | some c =>
    rw [Action.within_of_eq_some hc]
    rfl

/-- What is known besides the children of the pool stays known. -/
theorem tracks_dropChildren {l : Ledger} (hl : l.Filed) (device : DispatchKey) (pool : Handle)
    {k : Kind} (hk : k ≠ .image) (id : ContextId) (k' : Kind) (h : Handle) :
    (dropChildren device pool k l).ledger.tracks id k' h = true ↔
      l.tracks id k' h = true ∧
        ¬(.ofDevice device = id ∧ k = k' ∧ ∃ e, l.record? id k' h = some e ∧ e.parent = pool) := by
  have hu := updates_dropChildren device pool k l
  by_cases hid : .ofDevice device = id
  · subst hid
    rw [tracks, tracks, hu.context?_self]
    cases hc : l.context? (.ofDevice device) with
    | none => simp
    | some c =>
      have hr : c.registry.Filed := (hl _ c hc).2
      have himages : (c.registry.removeAll k (c.registry.childrenOf k pool)).image? h =
          c.registry.image? h := by
        rw [Registry.image?, Registry.images_removeAll]
        rfl
      simp only [Option.map_some, Option.elim_some, Context.mapRegistry_registry,
        Registry.tracks_iff, Registry.Holds, himages, hr.find?_dropChildren, record?_of_eq_some hc,
        true_and]
      by_cases hkk : k = k'
      · subst hkk
        cases he : c.registry.find? k h with
        | none => simp [hk]
        | some e => by_cases hp : e.parent = pool <;> simp [hk, hp]
      · simp [hkk]
  · rw [tracks, tracks, hu.context?_of_ne hid]
    simp [hid]

/-- Where the pool has no children nothing changes. -/
theorem dropChildren_of_childless {l : Ledger} (hl : l.Filed) {device : DispatchKey}
    {pool : Handle} {k : Kind}
    (h : ∀ o e, l.record? (.ofDevice device) k o = some e → e.parent ≠ pool) :
    (dropChildren device pool k l).ledger = l := by
  refine eq_of_context? (fun id => ?_) (nextIndex_dropChildren device pool k l)
  have hnone : ∀ c, l.context? (.ofDevice device) = some c →
      c.registry.removeAll k (c.registry.childrenOf k pool) = c.registry := by
    intro c hc
    have hnil : c.registry.childrenOf k pool = [] := by
      refine List.eq_nil_iff_forall_not_mem.mpr fun o ho => ?_
      obtain ⟨e, he, hp⟩ := ((hl _ c hc).2.mem_childrenOf k pool o).mp ho
      exact h o e ((record?_of_eq_some hc k o).trans he) hp
    rw [hnil]
    rfl
  exact ((updates_dropChildren device pool k l).congr hnone id).trans (Updates.rfl' id).symm

end Ledger

namespace Layer

variable {l : Layer}

/-- The call is the reset of the pool that the object came from. -/
def Resets (l : Layer) : Request → ContextId → Kind → Handle → Prop
  | .resetDescriptorPool device pool, id, k, h =>
    l.deviceId device = id ∧ .descriptorSet = k ∧
      ∃ e, l.ledger.record? id k h = some e ∧ e.parent = pool
  | _, _, _, _ => False

/-- A call that fails leaves the books alone, if it is not a reset. -/
theorem settle_of_failure {r : Request} (hr : ∀ device pool, r ≠ .resetDescriptorPool device pool)
    {outcome : r.shape.Outcome} {code : ResultCode}
    (hfail : r.shape.failure? outcome = some code) :
    (r.passage l).settle outcome l.ledger = l.ledger := by
  cases r with
  | createInstance => exact Passage.settle_creating_of_failure _ _ hfail
  | destroyInstance => cases hfail
  | enumeratePhysicalDevices => exact Passage.settle_listing_of_failure _ _ hfail
  | createDevice => exact Passage.settle_creating_of_failure _ _ hfail
  | destroyDevice => cases hfail
  | getDeviceQueue => cases hfail
  | queueSubmit => rfl
  | queueBindSparse => rfl
  | createDeviceChild => exact Passage.settle_creating_of_failure _ _ hfail
  | destroyDeviceChild => cases hfail
  | create => exact Passage.settle_creating_of_failure .pass _ hfail
  | destroy => cases hfail
  | getSwapchainImages => exact Passage.settle_listing_of_failure _ _ hfail
  | allocateCommandBuffers => exact Passage.settle_listing_of_failure _ _ hfail
  | freeCommandBuffers => cases hfail
  | beginCommandBuffer => rfl
  | resetDescriptorPool device pool => exact absurd rfl (hr device pool)
  | allocateDescriptorSets => exact Passage.settle_listing_of_failure _ _ hfail
  | freeDescriptorSets =>
    cases outcome with
    | error _ => rfl
    | ok _ => cases hfail
  | bindImageMemory => rfl
  | bindBufferMemory => rfl
  | mapMemory => rfl
  | waitForFences => rfl

theorem not_resets {r : Request} (hr : ∀ device pool, r ≠ .resetDescriptorPool device pool)
    (id : ContextId) (k : Kind) (h : Handle) : ¬l.Resets r id k h := by
  intro hreset
  unfold Resets at hreset
  split at hreset
  · exact hr _ _ rfl
  · exact hreset

/-- A reset is of objects on the books. -/
theorem Resets.tracks {r : Request} {id : ContextId} {k : Kind} {h : Handle}
    (hr : l.Resets r id k h) : l.ledger.tracks id k h = true := by
  unfold Resets at hr
  split at hr
  · obtain ⟨-, -, e, he, -⟩ := hr
    obtain ⟨c, hc, hfind⟩ := Option.bind_eq_some_iff.mp he
    rw [Ledger.tracks, hc]
    exact (Registry.tracks_iff ..).mpr (.inl (Option.isSome_of_eq_some hfind))
  · exact hr.elim

/-- What is known after a call that failed is what was known before it, but for the sets of a pool
that it was to reset. -/
theorem tracks_settle_of_failure (hl : l.ledger.Filed) {r : Request} {outcome : r.shape.Outcome}
    {code : ResultCode} (hfail : r.shape.failure? outcome = some code) (id : ContextId) (k : Kind)
    (h : Handle) :
    ((r.passage l).settle outcome l.ledger).tracks id k h = true ↔
      l.ledger.tracks id k h = true ∧ ¬l.Resets r id k h := by
  by_cases hr : ∃ device pool, r = .resetDescriptorPool device pool
  · obtain ⟨device, pool, rfl⟩ := hr
    exact Ledger.tracks_dropChildren hl (l.keyOf device) pool (by decide) id k h
  · have hr' : ∀ device pool, r ≠ .resetDescriptorPool device pool :=
      fun device pool heq => hr ⟨device, pool, heq⟩
    rw [settle_of_failure hr' hfail]
    exact (and_iff_left (not_resets hr' id k h)).symm

/-- Such a call leaves the books as they are exactly if there is nothing to reset. -/
theorem settle_eq_self_iff (hl : l.ledger.Filed) {r : Request} {outcome : r.shape.Outcome}
    {code : ResultCode} (hfail : r.shape.failure? outcome = some code) :
    (r.passage l).settle outcome l.ledger = l.ledger ↔ ∀ id k h, ¬l.Resets r id k h := by
  constructor
  · intro hself id k h hreset
    have hafter := (tracks_settle_of_failure hl hfail id k h).mp (hself.symm ▸ hreset.tracks)
    exact hafter.2 hreset
  · intro hnone
    by_cases hr : ∃ device pool, r = .resetDescriptorPool device pool
    · obtain ⟨device, pool, rfl⟩ := hr
      refine Ledger.dropChildren_of_childless hl fun o e he hp => ?_
      exact hnone _ .descriptorSet o ⟨rfl, rfl, e, he, hp⟩
    · exact settle_of_failure (fun device pool heq => hr ⟨device, pool, heq⟩) hfail

/-- A call that runs and fails gives its failure back. It leaves the layer as it was exactly if it
is not the reset of a pool with sets on the books. What is known after it is what was known before,
but for those sets, and such a reset leaves what one that succeeds leaves. -/
theorem unchanged_after_failure_iff (config : Config) (ts : List Turn) {c : Call}
    {code : ResultCode} (hfail : c.failure? = some code)
    (hruns : ((ofConfig config).play ts).Runs c) :
    let l := (ofConfig config).play ts
    let i := l.intercept c
    c.request.shape.failure? i.result = some code ∧
      (i.layer = l ↔ ∀ id k h, ¬l.Resets c.request id k h) ∧
      (∀ id k h, i.layer.ledger.tracks id k h = true ↔
        l.ledger.tracks id k h = true ∧ ¬l.Resets c.request id k h) ∧
      ∀ device pool, c.request = .resetDescriptorPool device pool →
        i.layer = (l.intercept ⟨.resetDescriptorPool device pool, .ok ()⟩).layer := by
  intro l i
  have hl : l.ledger.Filed := filed_play_ofConfig config ts
  obtain ⟨request, outcome⟩ := c
  have hskip : (request.passage l).check.skip = false := (l.runs_iff _).mp hruns
  have hresult : i.result = outcome :=
    congrArg Step.value (Passage.run_of_not_skip hskip outcome l.ledger)
  have hledger : i.layer.ledger = (request.passage l).settle outcome l.ledger :=
    Passage.ledger_run hskip outcome l.ledger
  have hlayer : ∀ m : Ledger, i.layer = { l with ledger := m } ↔ i.layer.ledger = m :=
    fun m => ⟨fun h => congrArg ledger h, fun h => congrArg (fun m => { l with ledger := m }) h⟩
  refine ⟨hresult.symm ▸ hfail, ?_, fun id k h => ?_, ?_⟩
  · rw [← settle_eq_self_iff hl hfail, ← hledger]
    exact hlayer l.ledger
  · rw [hledger]
    exact tracks_settle_of_failure hl hfail id k h
  · rintro device pool ⟨⟩
    refine (hlayer _).mpr ?_
    rw [hledger]
    exact (Passage.ledger_run hskip (.ok ()) l.ledger).symm

/-- A descriptor set is allocated. -/
def allocatedSet : List Turn :=
  [.bind [(1, 10), (2, 10), (3, 20)],
    .call ⟨.createInstance false (some ⟨some 0, .memory⟩), .ok 1⟩,
    .call ⟨.enumeratePhysicalDevices 1, .ok [2]⟩,
    .call ⟨.createDevice 2 [] false, .ok 3⟩,
    .call ⟨.createDeviceChild 3 .descriptorSetLayout
      "VUID-vkCreateDescriptorSetLayout-device-parameter" false, .ok 4⟩,
    .call ⟨.create .descriptorPool 3 false, .ok 5⟩,
    .call ⟨.allocateDescriptorSets 3 5 [4], .ok [6]⟩]

/-- The reset of the pool fails, and the set, which is still alive, is not known any more. -/
theorem set_lost_by_failure :
    (⟨.resetDescriptorPool 3 5, .error (-2)⟩ : Call).failure? = some (-2) ∧
      ((ofConfig ⟨.default⟩).play allocatedSet).Runs ⟨.resetDescriptorPool 3 5, .error (-2)⟩ ∧
      ((ofConfig ⟨.default⟩).play allocatedSet).ledger.tracks (.ofDevice 20) .descriptorSet 6 ∧
      (((ofConfig ⟨.default⟩).play allocatedSet).intercept
        ⟨.resetDescriptorPool 3 5, .error (-2)⟩).layer ≠
          (ofConfig ⟨.default⟩).play allocatedSet := by
  have hruns : ((ofConfig ⟨.default⟩).play allocatedSet).Runs
      ⟨.resetDescriptorPool 3 5, .error (-2)⟩ :=
    (runs_iff _ _).mpr (by decide +kernel)
  have hknown : ((ofConfig ⟨.default⟩).play allocatedSet).ledger.tracks (.ofDevice 20)
      .descriptorSet 6 = true := by decide +kernel
  have hgone : (((ofConfig ⟨.default⟩).play allocatedSet).intercept
      ⟨.resetDescriptorPool 3 5, .error (-2)⟩).layer.ledger.tracks (.ofDevice 20)
        .descriptorSet 6 = false := by decide +kernel
  have hfail : (⟨.resetDescriptorPool 3 5, .error (-2)⟩ : Call).failure? = some (-2) := rfl
  obtain ⟨-, hself, htracks, -⟩ :=
    unchanged_after_failure_iff ⟨.default⟩ allocatedSet hfail hruns
  refine ⟨hfail, hruns, hknown, fun hsame => ?_⟩
  refine Bool.eq_false_iff.mp hgone ((htracks _ _ _).mpr ⟨hknown, ?_⟩)
  exact hself.mp hsame _ _ _

end Layer

end HandleLedger
