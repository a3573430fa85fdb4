import HandleLedger.Proofs.Ledger.Replay

/-!
# Operations that touch one registry

Four operations open or close contexts. Every other one has a home, the context that it is addressed
to, and changes nothing but the registry of its home (`updates_run`). What it does to that registry
depends on the books only through the next creation index (`Operation.rewrite`), and it puts
something into the registry only if it registers something. What an operation registers, and where,
is its `Operation.entry?`.
-/

set_option autoImplicit false

namespace HandleLedger

namespace ContextId

variable {key key' : DispatchKey}

theorem ofInstance_inj : ofInstance key = ofInstance key' ↔ key = key' := by
  simp [ofInstance]

theorem ofDevice_inj : ofDevice key = ofDevice key' ↔ key = key' := by
  simp [ofDevice]

theorem ofInstance_ne_ofDevice : ofInstance key ≠ ofDevice key' :=
  fun heq => Scope.noConfusion (congrArg scope heq)

end ContextId

namespace Registry

/-- The registry holds no record that the other one does not hold. -/
structure Within (r r' : Registry) : Prop where
  records : ∀ k h e, r.find? k h = some e → r'.find? k h = some e
  images : ∀ h e, r.image? h = some e → r'.image? h = some e

namespace Within

variable {r r' r'' : Registry}

theorem refl (r : Registry) : r.Within r := ⟨fun _ _ _ he => he, fun _ _ he => he⟩

theorem trans (h : r.Within r') (h' : r'.Within r'') : r.Within r'' where
  records k o e he := h'.records k o e (h.records k o e he)
  images o e he := h'.images o e (h.images o e he)

end Within

variable (r : Registry)

theorem within_removeAll (k : Kind) (hs : List Handle) : (r.removeAll k hs).Within r where
  records k' h' e he := by
    rw [find?_removeAll] at he
    split at he
    · cases he
    · exact he
  images h' e he := by
    rw [image?, images_removeAll] at he
    exact he

theorem within_remove (k : Kind) (h : Handle) : (r.remove k h).Within r :=
  r.within_removeAll k [h]

theorem within_removeImages (swapchain : Handle) : (r.removeImages swapchain).Within r where
  records _ _ _ he := he
  images h e he := by
    rw [image?_removeImages, Option.filter_eq_some_iff] at he
    exact he.1

theorem within_setQueueFamily (queue : Handle) (family : UInt32) :
    (r.setQueueFamily queue family).Within r :=
  ⟨fun _ _ _ he => he, fun _ _ he => he⟩

theorem within_setFamilyFlags (flags : List UInt32) : (r.setFamilyFlags flags).Within r :=
  ⟨fun _ _ _ he => he, fun _ _ he => he⟩

theorem within_clearQueueFamilies : r.clearQueueFamilies.Within r :=
  ⟨fun _ _ _ he => he, fun _ _ he => he⟩

theorem within_dropKinds (r : Registry) : ∀ ks : List Kind, (r.dropKinds ks).Within r
  | [] => .refl r
  | k :: ks => (within_dropKinds _ ks).trans (r.within_removeAll k (r.handlesOf k))

end Registry

namespace Ledger

/-- A place in the books, for an object or for an image of a swapchain. -/
inductive Place
  | object (id : ContextId) (k : Kind) (h : Handle)
  | image (device : DispatchKey) (h : Handle)
  deriving DecidableEq

namespace Place

/-- The context that a place belongs to. -/
def context : Place → ContextId
  | .object id _ _ => id
  | .image device _ => .ofDevice device

/-- The kind of what may stand at a place. -/
def kind : Place → Kind
  | .object _ k _ => k
  | .image .. => .image

/-- The handle of what may stand at a place. -/
def handle : Place → Handle
  | .object _ _ h => h
  | .image _ h => h

/-- Put a record into a registry, among the objects or the images. -/
def enter (e : Record) : Place → Registry → Registry
  | .object .. => (·.insert e)
  | .image .. => (·.insertImage e)

end Place

/-- Something to be entered at a place. -/
structure Entry where
  place : Place
  status : Status
  parent : Handle

/-- The record that an entry becomes. -/
def Entry.record (n : Entry) (index : UInt64) : Record :=
  ⟨n.place.kind, n.place.handle, n.status, n.parent, index⟩

/-- An object at its place. -/
def Registration.entry (r : Registration) : Entry :=
  ⟨.object r.id r.kind r.handle, r.status, r.parent⟩

namespace Operation

/-- What an operation enters into the books, if its context is known and the place is free. -/
def entry? : Operation → Option Entry
  | .registerImage device image swapchain => some ⟨.image device image, .none, swapchain⟩
  | op => op.registration?.map Registration.entry

/-- Whether an operation opens or closes contexts. -/
def movesContexts : Operation → Bool
  | .openInstance .. => true
  | .openDevice .. => true
  | .closeDevice _ => true
  | .closeInstance _ => true
  | _ => false

/-- The context that an operation is addressed to, unless it opens or closes contexts. -/
def home? : Operation → Option ContextId
  | .openInstance .. => none
  | .openDevice .. => none
  | .closeDevice _ => none
  | .closeInstance _ => none
  | .registerObject id .. => some id
  | .registerCommandBuffer device .. => some (.ofDevice device)
  | .registerDescriptorSet device .. => some (.ofDevice device)
  | .registerQueue device _ => some (.ofDevice device)
  | .registerImage device .. => some (.ofDevice device)
  | .noteQueueFamily device .. => some (.ofDevice device)
  | .noteFamilyFlags device _ => some (.ofDevice device)
  | .checkArgument id _ => some id
  | .checkDevice id .. => some id
  | .checkDestroy id .. => some id
  | .checkCommandBuffer device .. => some (.ofDevice device)
  | .checkDescriptorSet device .. => some (.ofDevice device)
  | .checkSparse device .. => some (.ofDevice device)
  | .release id .. => some id
  | .discard id .. => some id
  | .dropChildren device .. => some (.ofDevice device)
  | .dropImages device _ => some (.ofDevice device)
  | .dropKind id _ => some id
  | .dropOwned id => some id
  | .dropQueues device => some (.ofDevice device)
  | .reportKind id .. => some id
  | .reportOwned id _ => some id
  | .reportDevices instanceKey _ => some (.ofInstance instanceKey)

/-- What an operation that registers nothing does to the registry of its home. -/
def revise : Operation → Registry → Registry
  | .noteQueueFamily _ family queue => (·.setQueueFamily queue family)
  | .noteFamilyFlags _ flags => (·.setFamilyFlags flags)
  | .release _ k h => if h = nullHandle then id else (·.remove k h)
  | .discard _ k h => (·.remove k h)
  | .dropChildren _ pool k => fun r => r.removeAll k (r.childrenOf k pool)
  | .dropImages _ swapchain => (·.removeImages swapchain)
  | .dropKind _ k => fun r => r.removeAll k (r.handlesOf k)
  | .dropOwned id => (·.dropKinds id.scope.ownedKinds)
  | .dropQueues _ => fun r => (r.dropKinds [.queue]).clearQueueFamilies
  | _ => id

/-- What an operation does to the registry of its home if this is the next creation index. -/
def rewrite (op : Operation) (index : UInt64) : Registry → Registry :=
  match op.entry? with
  | some n => n.place.enter (n.record index)
  | none => op.revise

variable {op : Operation}

theorem exists_home? (h : op.movesContexts = false) : ∃ id, op.home? = some id := by
  cases op <;> first | exact ⟨_, rfl⟩ | cases h

theorem home?_of_eq_some {n : Entry} (h : op.entry? = some n) :
    op.home? = some n.place.context := by
  cases op <;> cases h <;> rfl

theorem rewrite_of_eq_some {n : Entry} (h : op.entry? = some n) (index : UInt64) :
    op.rewrite index = n.place.enter (n.record index) := by
  rw [rewrite, h]

theorem rewrite_of_eq_none (h : op.entry? = none) (index : UInt64) :
    op.rewrite index = op.revise := by
  rw [rewrite, h]

/-- Without a registration nothing gets into the registry. -/
theorem within_revise (op : Operation) (r : Registry) : (op.revise r).Within r := by
  cases op with
  | noteQueueFamily device family queue => exact r.within_setQueueFamily queue family
  | noteFamilyFlags device flags => exact r.within_setFamilyFlags flags
  | release id k h =>
    rw [revise]
    split
    · exact .refl r
    · exact r.within_remove k h
  | discard id k h => exact r.within_remove k h
  | dropChildren device pool k => exact r.within_removeAll k _
  | dropImages device swapchain => exact r.within_removeImages swapchain
  | dropKind id k => exact r.within_removeAll k _
  | dropOwned id => exact r.within_dropKinds _
  | dropQueues device =>
    exact (r.dropKinds [.queue]).within_clearQueueFamilies.trans (r.within_dropKinds [.queue])
  | _ => exact .refl r

end Operation

variable {l l' : Ledger}

namespace Updates

variable {id id' : ContextId} {f : Registry → Registry} {c' : Context}

/-- A context after the change is the one from before, with its registry changed or not. -/
theorem eq_or_eq_mapRegistry (hu : Updates id f l l') (hc : l'.context? id' = some c') :
    ∃ c, l.context? id' = some c ∧ (c' = c ∨ c' = c.mapRegistry f) := by
  by_cases hid : id = id'
  · subst hid
    rw [hu.context?_self] at hc
    obtain ⟨c, hold, heq⟩ := Option.map_eq_some_iff.mp hc
    exact ⟨c, hold, Or.inr heq.symm⟩
  · rw [hu.context?_of_ne hid] at hc
    exact ⟨c', hc, Or.inl rfl⟩

theorem isSome_context? (hu : Updates id f l l') (id' : ContextId) :
    (l'.context? id').isSome = (l.context? id').isSome := by
  rw [hu id']
  split
  · exact Option.isSome_map
  · rfl

end Updates

/-- An operation changes nothing but the registry of its home. -/
theorem updates_run {op : Operation} {id : ContextId} (hop : op.home? = some id) (l : Ledger) :
    Updates id (op.rewrite l.nextIndex) l (op.run l).ledger := by
  cases op with
  | openInstance => cases hop
  | openDevice => cases hop
  | closeDevice => cases hop
  | closeInstance => cases hop
  | registerObject id' k h custom =>
    cases hop
    exact updates_register _ k h (.ofAllocator custom) nullHandle l
  | registerCommandBuffer device pool buffer level =>
    cases hop
    exact updates_register _ .commandBuffer buffer (.ofLevel level) pool l
  | registerDescriptorSet device pool set =>
    cases hop
    exact updates_register _ .descriptorSet set .none pool l
  | registerQueue device queue =>
    cases hop
    exact updates_register _ .queue queue .none nullHandle l
  | registerImage device image swapchain =>
    cases hop
    exact updates_registerImage device image swapchain l
  | noteQueueFamily device family queue =>
    cases hop
    exact updates_onRegistry _ _ l
  | noteFamilyFlags device flags =>
    cases hop
    exact updates_onRegistry _ _ l
  | release id' k h =>
    cases hop
    rw [Operation.rewrite_of_eq_none rfl, Operation.revise]
    by_cases hh : h = nullHandle
    · rw [if_pos hh, hh]
      exact Updates.rfl'
    · rw [if_neg hh]
      exact updates_release _ k hh l
  | discard id' k h =>
    cases hop
    exact updates_discard _ k h l
  | dropChildren device pool k =>
    cases hop
    exact updates_dropChildren device pool k l
  | dropImages device swapchain =>
    cases hop
    exact updates_dropImages device swapchain l
  | dropKind id' k =>
    cases hop
    exact updates_dropKind _ k l
  | dropOwned id' =>
    cases hop
    exact updates_dropOwned _ l
  | dropQueues device =>
    cases hop
    exact updates_dropQueues device l
  | _ => exact Updates.rfl'

/-- An operation that opens and closes no context changes one registry at most, and one that
registers nothing puts nothing into it. -/
theorem exists_updates_run {op : Operation} (hop : op.movesContexts = false) (l : Ledger) :
    ∃ id f, Updates id f l (op.run l).ledger ∧
      (op.entry? = none → ∀ r : Registry, (f r).Within r) := by
  obtain ⟨id, hid⟩ := Operation.exists_home? hop
  refine ⟨id, _, updates_run hid l, fun hnone r => ?_⟩
  rw [Operation.rewrite_of_eq_none hnone]
  exact op.within_revise r

/-! ## What holds of every context -/

/-- A property of contexts that holds of those that are opened and that no operation breaks. -/
structure Lasting (P : ContextId → Context → Prop) : Prop where
  newInstance : ∀ key handle sink, P (.ofInstance key) (newInstance key handle sink)
  newDevice : ∀ instanceKey key handle sink,
    P (.ofDevice key) (newDevice instanceKey key handle sink)
  rewrite : ∀ {op : Operation} {id : ContextId}, op.home? = some id → ∀ index c, P id c →
    P id (c.mapRegistry (op.rewrite index))

namespace Lasting

variable {P : ContextId → Context → Prop}

theorem every_run (hP : Lasting P) (op : Operation) (hfiled : l.Filed) (hl : Every P l) :
    Every P (op.run l).ledger := by
  cases hop : op.movesContexts with
  | false =>
    obtain ⟨id, hid⟩ := Operation.exists_home? hop
    exact hl.updates (updates_run hid l) fun c _ hc => hP.rewrite hid l.nextIndex c hc
  | true =>
    cases op with
    | openInstance key handle sink =>
      exact hl.openContext (c := Ledger.newInstance key handle sink)
        (hP.newInstance key handle sink) (.registeringInstance key handle)
    | openDevice instanceKey key handle =>
      cases hroot : l.context? (.ofInstance instanceKey) with
      | none =>
        rw [Operation.run, Action.ledger_map, (openDevice_of_eq_none hroot key handle).2]
        exact hl
      | some root =>
        intro id c hc
        have hopen := ((openDevice_of_eq_some hroot key handle).2 id).symm.trans hc
        split at hopen
        · rename_i hid
          cases hopen
          exact hid ▸ hP.newDevice instanceKey key handle root.sink
        · exact hl id c hopen
    | closeDevice key =>
      refine Every.of_imp hl fun id c hc => ?_
      have hopen := (context?_closeContext (.ofDevice key) l id).symm.trans hc
      split at hopen
      · cases hopen
      · exact hopen
    | closeInstance key =>
      exact Every.of_imp hl fun id c hc => ((hfiled.context?_closeInstance key id c).mp hc).1
    | _ => cases hop

theorem keeps_run (hP : Lasting P) (op : Operation) :
    op.run.Keeps fun l => l.Filed ∧ Every P l :=
  fun l hl => ⟨Filed.keeps_run op l hl.1, hP.every_run op hl.1 hl.2⟩

theorem after (hP : Lasting P) (ops : List Operation) : Every P (after ops) := by
  induction ops using List.reverseRecOn with
  | nil => exact every_empty P
  | append_singleton ops op ih =>
    rw [after_append_singleton]
    exact hP.every_run op (filed_after ops) ih

end Lasting

end Ledger

end HandleLedger
