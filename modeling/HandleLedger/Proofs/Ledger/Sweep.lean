import HandleLedger.Proofs.Ledger.Leakage
import HandleLedger.Proofs.Registry.Remainder

/-!
# Sweeps

Four operations take out many entries of one context at once: what came from a pool, the images of a
swapchain, the objects of a kind, and the queues with their families (`Sweep`). Each goes about it in
a way of its own. The main statement, `sweep_filters`, says that all the same each of them filters
the books: what the sweep is for is gone (`Sweep.takes`, `Sweep.takesImage`), all else is as it was,
and the counters and the answer agree with what is gone.
-/

set_option autoImplicit false

namespace HandleLedger

namespace Registry

/-- Of the images that remain none is to go. -/
theorem Remainder.not_imageGone {r r' : Registry} {gone : Kind → Record → Bool}
    {imageGone : Record → Bool} (h : r.Remainder gone imageGone r') :
    r'.images.values.countP imageGone = 0 := by
  have hvalues : r'.images.values = r.images.values.filter fun e => !imageGone e := by
    rw [h.images]
    exact Table.values_filter fun _ _ _ => rfl
  rw [hvalues, List.countP_eq_zero]
  intro e he
  rw [List.mem_filter, Bool.not_eq_true'] at he
  rw [he.2]
  exact Bool.false_ne_true

/-- The images that go are counted by the difference of two sizes. -/
theorem Reckoned.imageCount_removeImages {r : Registry} (hr : r.Reckoned) (swapchain : Handle) :
    r.imageCount - (r.removeImages swapchain).imageCount =
      r.images.values.countP (·.parent == swapchain) := by
  obtain ⟨a, ha⟩ := hr
  rw [ha.imageCount_removeImages, ha.images.values.countP_eq]
  simp only [beq_eq_decide]

theorem length_childrenOf (r : Registry) (k : Kind) (pool : Handle) :
    (r.childrenOf k pool).length =
      r.records.values.countP fun e => e.kind = k && e.parent == pool := by
  rw [childrenOf, List.length_map, recordsOf, List.filter_filter, List.countP_eq_length_filter]
  simp only [Bool.and_comm, beq_eq_decide]

end Registry

namespace Ledger

/-- An operation that takes out many entries of a context at once. -/
inductive Sweep
  /-- The objects of a kind that came from a pool. -/
  | children (device : DispatchKey) (pool : Handle) (k : Kind)
  /-- The images of a swapchain. -/
  | images (device : DispatchKey) (swapchain : Handle)
  /-- The objects of a kind. -/
  | kind (id : ContextId) (k : Kind)
  /-- The queues of a device, and their families with them. -/
  | queues (device : DispatchKey)

namespace Sweep

/-- The operation that makes the sweep. -/
def operation : Sweep → Operation
  | children device pool k => .dropChildren device pool k
  | images device swapchain => .dropImages device swapchain
  | kind id k => .dropKind id k
  | queues device => .dropQueues device

/-- The context that is swept. -/
def home : Sweep → ContextId
  | children device .. => .ofDevice device
  | images device _ => .ofDevice device
  | kind id _ => id
  | queues device => .ofDevice device

/-- Whether the sweep is for a record that stands among those of a kind. -/
def takes : Sweep → Kind → Record → Bool
  | children _ pool k, k', e => k' = k && e.parent == pool
  | images .., _, _ => false
  | kind _ k, k', _ => k' = k
  | queues _, k', _ => k' = .queue

/-- Whether the sweep is for an image of a swapchain. -/
def takesImage : Sweep → Record → Bool
  | images _ swapchain, e => e.parent == swapchain
  | _, _ => false

/-- The families of the queues after the sweep. -/
def families : Sweep → Table Handle UInt32 → Table Handle UInt32
  | queues _, _ => .empty
  | _, families => families

/-- The number of objects and images of a registry that the sweep is for. -/
def size (s : Sweep) (r : Registry) : Nat :=
  r.records.values.countP (fun e => s.takes e.kind e) + r.images.values.countP s.takesImage

/-- The answer of a sweep that has taken out so many. Only two of them say how many. -/
def answer : Sweep → Nat → Answer
  | children .., n => .number n
  | images .., n => .number n
  | _, _ => .done

theorem home?_operation (s : Sweep) : s.operation.home? = some s.home := by
  cases s <;> rfl

theorem entry?_operation (s : Sweep) : s.operation.entry? = none := by
  cases s <;> rfl

/-! ## The registry -/

variable {r : Registry}

theorem find?_revise (s : Sweep) (hf : r.Filed) (k : Kind) (h : Handle) :
    (s.operation.revise r).find? k h = (r.find? k h).filter fun e => !s.takes k e := by
  -- a sweep that asks for the kind alone takes all records of the kind or none
  have hkind : ∀ k', (if k' = k then none else r.find? k h) =
      (r.find? k h).filter fun _ => !decide (k = k') := by
    intro k'
    by_cases hk : k' = k
    · rw [if_pos hk, decide_eq_true hk.symm]
      cases r.find? k h <;> rfl
    · rw [if_neg hk, decide_eq_false (Ne.symm hk)]
      cases r.find? k h <;> rfl
  cases s with
  | children device pool k' =>
    refine (hf.find?_dropChildren k' k pool h).trans ?_
    by_cases hk : k' = k
    · rw [if_pos hk]
      simp only [takes, decide_eq_true hk.symm, Bool.true_and]
      rfl
    · rw [if_neg hk]
      simp only [takes, decide_eq_false (Ne.symm hk), Bool.false_and, Bool.not_false]
      cases r.find? k h <;> rfl
  | images device swapchain =>
    show r.find? k h = _
    cases r.find? k h <;> rfl
  | kind id k' => exact (hf.find?_dropKind k' k h).trans (hkind k')
  | queues device => exact (hf.find?_dropKind .queue k h).trans (hkind .queue)

theorem images_revise (s : Sweep) (r : Registry) :
    (s.operation.revise r).images = r.images.filter fun _ e => !s.takesImage e := by
  cases s with
  | images device swapchain => rfl
  | children device pool k => exact (Registry.images_removeAll k _ r).trans r.images.filter_true.symm
  | kind id k => exact (Registry.images_removeAll k _ r).trans r.images.filter_true.symm
  | queues device => exact (Registry.images_dropKinds _ r).trans r.images.filter_true.symm

theorem familyFlags_revise (s : Sweep) (r : Registry) :
    (s.operation.revise r).familyFlags = r.familyFlags := by
  cases s with
  | images device swapchain => rfl
  | children device pool k => exact Registry.familyFlags_removeAll k _ r
  | kind id k => exact Registry.familyFlags_removeAll k _ r
  | queues device => exact Registry.familyFlags_dropKinds _ r

theorem queueFamilies_revise (s : Sweep) (r : Registry) :
    (s.operation.revise r).queueFamilies = s.families r.queueFamilies := by
  cases s with
  | images device swapchain => rfl
  | children device pool k => exact Registry.queueFamilies_removeAll k _ r
  | kind id k => exact Registry.queueFamilies_removeAll k _ r
  | queues device => rfl

theorem reckoned_revise (s : Sweep) (hr : r.Reckoned) : (s.operation.revise r).Reckoned := by
  cases s with
  | images device swapchain => exact hr.run (.removeImages swapchain)
  | children device pool k => exact hr.removeAll k _
  | kind id k => exact hr.removeAll k _
  | queues device => exact (hr.dropKinds [.queue]).run .clearQueueFamilies

theorem filed_revise (s : Sweep) (hf : r.Filed) : (s.operation.revise r).Filed := by
  cases s with
  | images device swapchain => exact hf.removeImages swapchain
  | children device pool k => exact Registry.Filed.removeAll k _ hf
  | kind id k => exact Registry.Filed.removeAll k _ hf
  | queues device => exact (Registry.Filed.dropKinds [.queue] hf).clearQueueFamilies

/-- A sweep filters the registry. -/
theorem remainder (s : Sweep) (hf : r.Filed) (hr : r.Reckoned) :
    r.Remainder s.takes s.takesImage (s.operation.revise r) :=
  hr.remainder (s.reckoned_revise hr) hf (s.find?_revise hf) (s.images_revise r)
    (s.familyFlags_revise r)

theorem families_families (s : Sweep) (families : Table Handle UInt32) :
    s.families (s.families families) = s.families families := by
  cases s <;> rfl

/-- A second sweep changes nothing. -/
theorem revise_revise (s : Sweep) (hf : r.Filed) (hr : r.Reckoned) :
    s.operation.revise (s.operation.revise r) = s.operation.revise r := by
  have hf' := s.filed_revise hf
  have hr' := s.reckoned_revise hr
  refine (s.remainder hf hr).eq_of_again (s.remainder hf' hr') hr' (s.reckoned_revise hr') ?_
  rw [queueFamilies_revise, queueFamilies_revise, families_families]

/-- A second sweep finds nothing. -/
theorem size_revise (s : Sweep) (hf : r.Filed) (hr : r.Reckoned) :
    s.size (s.operation.revise r) = 0 := by
  have hagain := (s.remainder (s.filed_revise hf) (s.reckoned_revise hr)).total
  rw [s.revise_revise hf hr] at hagain
  rw [size, (s.remainder hf hr).not_imageGone]
  omega

/-! ## The step -/

theorem size_children (device : DispatchKey) (pool : Handle) (k : Kind) (r : Registry) :
    (children device pool k).size r = (r.childrenOf k pool).length := by
  rw [r.length_childrenOf, size]
  show _ + r.images.values.countP (fun _ => false) = _
  rw [List.countP_false]
  rfl

theorem size_images (device : DispatchKey) (swapchain : Handle) (hr : r.Reckoned) :
    (images device swapchain).size r = r.imageCount - (r.removeImages swapchain).imageCount := by
  rw [hr.imageCount_removeImages, size]
  show r.records.values.countP (fun _ => false) + _ = _
  rw [List.countP_false]
  exact Nat.zero_add _

variable {l : Ledger} {c : Context}

/-- A sweep of a known context says nothing, and it answers how many it has taken out. -/
theorem run_operation (s : Sweep) (hc : l.context? s.home = some c) (hr : c.registry.Reckoned) :
    s.operation.run l = ⟨s.answer (s.size c.registry), (s.operation.run l).ledger, []⟩ := by
  cases s with
  | children device pool k =>
    have hdevice : l.context? (.ofDevice device) = some c := hc
    have hdrop : dropChildren device pool k l =
        ⟨(c.registry.childrenOf k pool).length, (dropChildren device pool k l).ledger, []⟩ := by
      rw [dropChildren, Action.within_of_eq_some hdevice]
      rfl
    rw [size_children]
    exact Action.bind_of_eq (f := fun n => pure (Answer.number n)) hdrop rfl
  | images device swapchain =>
    have hdevice : l.context? (.ofDevice device) = some c := hc
    have hdrop : dropImages device swapchain l =
        ⟨c.registry.imageCount - (c.registry.removeImages swapchain).imageCount,
          (dropImages device swapchain l).ledger, []⟩ := by
      rw [dropImages, Action.within_of_eq_some hdevice]
      rfl
    rw [size_images device swapchain hr]
    exact Action.bind_of_eq (f := fun n => pure (Answer.number n)) hdrop rfl
  | kind id k =>
    have hdrop := Action.eq_of_trace_eq_nil (trace_onRegistry (Option.isSome_of_eq_some hc)
      fun r => r.removeAll k (r.handlesOf k))
    exact Action.bind_of_eq (f := fun _ => pure Answer.done) hdrop rfl
  | queues device =>
    have hdrop := Action.eq_of_trace_eq_nil (trace_dropQueues (Option.isSome_of_eq_some hc))
    exact Action.bind_of_eq (f := fun _ => pure Answer.done) hdrop rfl

theorem updates_operation (s : Sweep) (l : Ledger) :
    Updates s.home s.operation.revise l (s.operation.run l).ledger := by
  have hupdates := updates_run s.home?_operation l
  rw [Operation.rewrite_of_eq_none s.entry?_operation] at hupdates
  exact hupdates

theorem context?_home (s : Sweep) (hc : l.context? s.home = some c) :
    (s.operation.run l).ledger.context? s.home = some (c.mapRegistry s.operation.revise) := by
  rw [(s.updates_operation l).context?_self, hc]
  rfl

end Sweep

/-- After any history, a sweep of a known context leaves its tables as they were without the records
and images that it is for. The counters fall by the number of these records, its answer is their
number with that of the images, and it reports nothing. The families of queues go only with the
queues; the creation index, all that the context knows besides and all other contexts stay. To take
the records out one at a time, in whatever order, would leave the same records and counters, and
another sweep takes out nothing. -/
theorem sweep_filters (ops : List Operation) (s : Sweep) {c : Context}
    (hc : (after ops).context? s.home = some c) :
    let l := after ops
    let left := (s.operation.run l).ledger
    ∃ r : Registry,
      c.registry.Remainder s.takes s.takesImage r ∧
      r.queueFamilies = s.families c.registry.queueFamilies ∧
      s.operation.run l = ⟨s.answer (s.size c.registry), left, []⟩ ∧
      left.context? s.home = some { c with registry := r } ∧
      (∀ id, s.home ≠ id → left.context? id = l.context? id) ∧
      left.nextIndex = l.nextIndex ∧
      (∀ es : List Record,
        es.Perm (c.registry.records.values.filter fun e => s.takes e.kind e) →
          (c.registry.removeEach es).records = r.records ∧
            (c.registry.removeEach es).tally = r.tally) ∧
      s.operation.run left = ⟨s.answer 0, left, []⟩ := by
  intro l left
  have hfiled : c.registry.Filed := (filed_after ops).registry hc
  have hreckoned : c.registry.Reckoned := lasting_reckoned.after ops _ c hc
  have hleft : left.context? s.home = some (c.mapRegistry s.operation.revise) := s.context?_home hc
  have hremainder := s.remainder hfiled hreckoned
  have hnextIndex : left.nextIndex = l.nextIndex :=
    keeps_nextIndex_run s.entry?_operation l rfl
  refine ⟨s.operation.revise c.registry, hremainder, s.queueFamilies_revise _,
    s.run_operation hc hreckoned, hleft, fun id hne => (s.updates_operation l).context?_of_ne hne,
    hnextIndex, fun es hes => hremainder.removeEach_eq hreckoned (s.reckoned_revise hreckoned)
      hfiled hes, ?again⟩
  case again =>
    have hagain := s.run_operation hleft (s.reckoned_revise hreckoned)
    have hsame : (s.operation.run left).ledger = left := by
      refine eq_of_context? (fun id => ?_) (keeps_nextIndex_run s.entry?_operation left rfl)
      have hstays : ∀ d, left.context? s.home = some d →
          s.operation.revise d.registry = d.registry := by
        intro d hd
        rw [hleft, Option.some.injEq] at hd
        rw [← hd]
        exact s.revise_revise hfiled hreckoned
      exact ((s.updates_operation left).congr hstays id).trans (Updates.rfl' id).symm
    rw [hsame, Context.mapRegistry_registry, s.size_revise hfiled hreckoned] at hagain
    exact hagain

/-- A device with two command buffers of one pool, one of another, a queue under the handle of the
first, and an image of a swapchain. -/
def twoPools : List Operation :=
  [.openInstance 1 10 ⟨none, .memory⟩, .openDevice 1 2 20,
    .registerCommandBuffer 2 5 6 0, .registerCommandBuffer 2 9 7 1,
    .registerCommandBuffer 2 5 8 0, .registerQueue 2 6, .registerImage 2 30 5]

/-- Two of the four objects came from the pool, and the image of the swapchain that has the handle
of the pool did not. -/
theorem pool_swept :
    let left := ((Operation.dropChildren 2 5 .commandBuffer).run (after twoPools)).ledger
    ((after twoPools).context? (.ofDevice 2)).isSome ∧
      (after twoPools).totalCount (.ofDevice 2) = 4 ∧
      (Operation.dropChildren 2 5 .commandBuffer).run (after twoPools) = ⟨.number 2, left, []⟩ ∧
      left.totalCount (.ofDevice 2) = 2 ∧ left.imageCount (.ofDevice 2) = 1 ∧
      (Operation.dropChildren 2 5 .commandBuffer).run left = ⟨.number 0, left, []⟩ := by
  intro left
  have hknown : ((after twoPools).context? (.ofDevice 2)).isSome := by decide +kernel
  obtain ⟨c, hc⟩ := Option.isSome_iff_exists.mp hknown
  obtain ⟨r, -, -, hrun, -, -, -, -, hagain⟩ :=
    sweep_filters twoPools (.children 2 5 .commandBuffer) hc
  have htwo : (Sweep.children 2 5 .commandBuffer).size c.registry = 2 := by
    have hsize : ((Operation.dropChildren 2 5 .commandBuffer).run (after twoPools)).value =
        .number 2 := by
      decide +kernel
    exact Answer.number.inj ((congrArg Step.value hrun).symm.trans hsize)
  rw [htwo] at hrun
  exact ⟨hknown, by decide +kernel, hrun, by decide +kernel, by decide +kernel, hagain⟩

end Ledger

end HandleLedger
