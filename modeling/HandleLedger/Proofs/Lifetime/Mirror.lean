import HandleLedger.Proofs.Lifetime.World

/-!
# The books as a mirror of what is alive

Reading the records as live objects turns the books into a world (`Layer.world`). Each action on the
books is then a change of what is alive, and a call that runs changes the books as it changes the
world (`Layer.world_intercept`). The one exception is a descriptor pool whose reset fails: its sets
stay alive and leave the books all the same, as if the reset had succeeded (`Turn.deemed`).
-/

set_option autoImplicit false

namespace HandleLedger

/-! ## Reading the books -/

/-- The object behind a record. -/
def Record.life (e : Record) : Life := ⟨e.custom, e.parent⟩

/-- What the books of a context say is alive. -/
def Context.domain (c : Context) : Domain where
  handle := c.handle
  parent := c.parent
  sink := c.sink
  live k h := (c.registry.find? k h).map Record.life
  images h := (c.registry.image? h).map (·.parent)
  family := c.registry.queueFamily?
  capabilities := c.registry.familyFlags

/-- What the books say is alive. -/
def Ledger.domains (l : Ledger) : Domains := fun id => (l.context? id).map Context.domain

/-- The world as the layer knows it. -/
def Layer.world (l : Layer) : World := ⟨l.dispatch, l.defaultSink, l.ledger.domains⟩

namespace Ledger

theorem domains_of_eq_some {l : Ledger} {id : ContextId} {c : Context}
    (hc : l.context? id = some c) : l.domains id = some c.domain := by
  rw [domains, hc]
  rfl

theorem domains_of_eq_none {l : Ledger} {id : ContextId} (hc : l.context? id = none) :
    l.domains id = none := by
  rw [domains, hc]
  rfl

theorem domains_eq_some_iff {l : Ledger} {id : ContextId} {d : Domain} :
    l.domains id = some d ↔ ∃ c, l.context? id = some c ∧ c.domain = d :=
  Option.map_eq_some_iff

end Ledger

/-! ## Changes of one registry -/

namespace Context

variable (c : Context)

theorem domain_insert (e : Record) :
    (c.mapRegistry (·.insert e)).domain = c.domain.enter e.kind e.handle e.life := by
  simp only [domain, Domain.enter, mapRegistry_registry, mapRegistry_handle, mapRegistry_parent,
    mapRegistry_sink, Registry.familyFlags_insert, Domain.mk.injEq, true_and, and_true]
  refine ⟨?_, ?_, ?_⟩
  · funext k h
    rw [Registry.find?_insert, Option.map_or]
    split <;> rfl
  · -- images of swapchains and families of queues are kept apart from the records
    funext h
    rw [Registry.image?, Registry.images_insert]
    rfl
  · funext queue
    rw [Registry.queueFamily?, Registry.queueFamilies_insert]
    rfl

theorem domain_insertImage (e : Record) :
    (c.mapRegistry (·.insertImage e)).domain = c.domain.enterImage e.handle e.parent := by
  simp only [domain, Domain.enterImage, mapRegistry_registry, mapRegistry_handle,
    mapRegistry_parent, mapRegistry_sink, Registry.familyFlags_insertImage,
    Registry.find?_insertImage, Domain.mk.injEq, true_and, and_true]
  refine ⟨?_, ?_⟩
  · funext h
    rw [Registry.image?_insertImage, Option.map_or]
    split <;> rfl
  · funext queue
    rw [Registry.queueFamily?, Registry.queueFamilies_insertImage]
    rfl

theorem domain_remove (k : Kind) (h : Handle) :
    (c.mapRegistry (·.remove k h)).domain = c.domain.remove k h := by
  simp only [domain, Domain.remove, mapRegistry_registry, mapRegistry_handle, mapRegistry_parent,
    mapRegistry_sink, Registry.familyFlags_remove, Domain.mk.injEq, true_and, and_true]
  refine ⟨?_, ?_, ?_⟩
  · funext k' h'
    rw [Registry.find?_remove]
    split <;> rfl
  · funext h'
    rw [Registry.image?, Registry.images_remove]
    rfl
  · funext queue
    rw [Registry.queueFamily?, Registry.queueFamilies_remove]
    rfl

theorem domain_dropChildren (hc : c.registry.Filed) (k : Kind) (pool : Handle) :
    (c.mapRegistry fun r => r.removeAll k (r.childrenOf k pool)).domain =
      c.domain.removeChildren k pool := by
  simp only [domain, Domain.removeChildren, mapRegistry_registry, mapRegistry_handle,
    mapRegistry_parent, mapRegistry_sink, Registry.familyFlags_removeAll, Domain.mk.injEq,
    true_and, and_true]
  refine ⟨?_, ?_, ?_⟩
  · funext k' h
    -- that the right records go depends on each standing under its own slot
    rw [hc.find?_dropChildren]
    split
    · rw [Option.filter_map]
      rfl
    · rfl
  · funext h
    rw [Registry.image?, Registry.images_removeAll]
    rfl
  · funext queue
    rw [Registry.queueFamily?, Registry.queueFamilies_removeAll]
    rfl

theorem domain_removeImages (swapchain : Handle) :
    (c.mapRegistry (·.removeImages swapchain)).domain = c.domain.removeImages swapchain := by
  simp only [domain, Domain.removeImages, mapRegistry_registry, mapRegistry_handle,
    mapRegistry_parent, mapRegistry_sink, Domain.mk.injEq, true_and]
  refine ⟨rfl, ?_, rfl, rfl⟩
  funext h
  rw [Registry.image?_removeImages, Option.filter_map]
  rfl

theorem domain_setQueueFamily (queue : Handle) (family : UInt32) :
    (c.mapRegistry (·.setQueueFamily queue family)).domain = c.domain.setFamily queue family := by
  simp only [domain, Domain.setFamily, mapRegistry_registry, mapRegistry_handle,
    mapRegistry_parent, mapRegistry_sink, Domain.mk.injEq, true_and]
  refine ⟨rfl, rfl, ?_, rfl⟩
  funext h
  show (c.registry.queueFamilies.insert queue family).find? h = _
  simp only [Table.find?_insert, Ranked.rank_eq_iff]
  rfl

end Context

namespace Ledger

variable {l l' : Ledger} {id : ContextId}

theorem Updates.domains_eq {f : Registry → Registry} {g : Domain → Domain}
    (hu : Updates id f l l')
    (hfg : ∀ c, l.context? id = some c → (c.mapRegistry f).domain = g c.domain) :
    l'.domains = l.domains.modify id g := by
  funext id'
  rw [domains, Domains.modify, hu id']
  by_cases hid : id = id'
  · subst hid
    rw [if_pos rfl, if_pos rfl, domains]
    cases hc : l.context? id with
    | none => rfl
    | some c => exact congrArg some (hfg c hc)
  · rw [if_neg hid, if_neg hid]
    rfl

theorem domains_register (id : ContextId) (k : Kind) (h : Handle) (status : Status)
    (parent : Handle) (l : Ledger) :
    (register id k h status parent l).ledger.domains =
      l.domains.modify id (·.enter k h ⟨status.contains .customAllocator, parent⟩) :=
  (updates_register id k h status parent l).domains_eq fun c _ => c.domain_insert _

theorem domains_registerObject (id : ContextId) (k : Kind) (h : Handle) (custom : Bool)
    (l : Ledger) :
    (registerObject id k h custom l).ledger.domains =
      l.domains.modify id (·.enter k h ⟨custom, nullHandle⟩) := by
  rw [registerObject, domains_register, Status.custom_ofAllocator]

theorem domains_registerCommandBuffer (device : DispatchKey) (pool buffer : Handle)
    (level : Int32) (l : Ledger) :
    (registerCommandBuffer device pool buffer level l).ledger.domains =
      l.domains.modify (.ofDevice device) (·.enter .commandBuffer buffer ⟨false, pool⟩) := by
  rw [registerCommandBuffer, domains_register, Status.custom_ofLevel]

theorem domains_registerDescriptorSet (device : DispatchKey) (pool set : Handle) (l : Ledger) :
    (registerDescriptorSet device pool set l).ledger.domains =
      l.domains.modify (.ofDevice device) (·.enter .descriptorSet set ⟨false, pool⟩) :=
  domains_register ..

theorem domains_registerQueue (device : DispatchKey) (queue : Handle) (l : Ledger) :
    (registerQueue device queue l).ledger.domains =
      l.domains.modify (.ofDevice device) (·.enter .queue queue ⟨false, nullHandle⟩) :=
  domains_register ..

theorem domains_registerImage (device : DispatchKey) (image swapchain : Handle) (l : Ledger) :
    (registerImage device image swapchain l).ledger.domains =
      l.domains.modify (.ofDevice device) (·.enterImage image swapchain) :=
  (updates_registerImage device image swapchain l).domains_eq fun c _ => c.domain_insertImage _

theorem domains_noteQueueFamily (device : DispatchKey) (family : UInt32) (queue : Handle)
    (l : Ledger) :
    (noteQueueFamily device family queue l).ledger.domains =
      l.domains.modify (.ofDevice device) (·.setFamily queue family) :=
  (updates_onRegistry _ _ l).domains_eq fun c _ => c.domain_setQueueFamily queue family

theorem domains_noteFamilyFlags (device : DispatchKey) (flags : List UInt32) (l : Ledger) :
    (noteFamilyFlags device flags l).ledger.domains =
      l.domains.modify (.ofDevice device) fun d => { d with capabilities := flags } :=
  (updates_onRegistry _ _ l).domains_eq fun _ _ => rfl

theorem domains_release (id : ContextId) (k : Kind) {h : Handle} (hh : h ≠ nullHandle)
    (l : Ledger) :
    (release id k h l).ledger.domains = l.domains.modify id (·.remove k h) :=
  (updates_release id k hh l).domains_eq fun c _ => c.domain_remove k h

theorem domains_dropChildren (hl : l.Filed) (device : DispatchKey) (pool : Handle) (k : Kind) :
    (dropChildren device pool k l).ledger.domains =
      l.domains.modify (.ofDevice device) (·.removeChildren k pool) :=
  (updates_dropChildren device pool k l).domains_eq fun c hc =>
    c.domain_dropChildren (hl.registry hc) k pool

theorem domains_dropImages (device : DispatchKey) (swapchain : Handle) (l : Ledger) :
    (dropImages device swapchain l).ledger.domains =
      l.domains.modify (.ofDevice device) (·.removeImages swapchain) :=
  (updates_dropImages device swapchain l).domains_eq fun c _ => c.domain_removeImages swapchain

theorem domains_each {act : Handle → Action Unit} {g : Handle → Domain → Domain} :
    ∀ (hs : List Handle),
      (∀ h ∈ hs, ∀ l, (act h l).ledger.domains = l.domains.modify id (g h)) → ∀ l : Ledger,
      (Action.each hs act l).ledger.domains =
        hs.foldl (fun D h => D.modify id (g h)) l.domains
  | [], _, _ => rfl
  | h :: hs, hact, l => by
    show (Action.each hs act (act h l).ledger).ledger.domains = _
    rw [domains_each hs fun o ho => hact o (List.mem_cons_of_mem _ ho),
      hact h (List.mem_cons_self ..)]
    rfl

/-! ## Opening and closing -/

theorem domains_openInstance (key : DispatchKey) (handle : Handle) (sink : Sink) (l : Ledger) :
    (openInstance key handle sink l).ledger.domains =
      l.domains.found (.ofInstance key) (.barren handle none sink []) := by
  funext id
  rw [domains, context?_openInstance, Domains.found]
  split <;> rfl

theorem domains_openDevice {instanceKey : DispatchKey} {parent : Context}
    (hc : l.context? (.ofInstance instanceKey) = some parent) (key : DispatchKey)
    (handle : Handle) :
    (openDevice instanceKey key handle l).ledger.domains =
      l.domains.found (.ofDevice key) (.barren handle (some instanceKey) parent.sink []) := by
  funext id
  rw [domains, (openDevice_of_eq_some hc key handle).2, Domains.found]
  split <;> rfl

theorem domains_closeDevice (key : DispatchKey) (l : Ledger) :
    (closeDevice key l).ledger.domains = l.domains.lose (.ofDevice key) := by
  funext id
  rw [domains, closeDevice, context?_closeContext, Domains.lose]
  split <;> rfl

theorem domains_closeInstance (hl : l.Filed) (key : DispatchKey) :
    (closeInstance key l).ledger.domains = l.domains.loseInstance key := by
  funext id
  rw [domains, Domains.loseInstance, domains]
  cases hc : l.context? id with
  | none =>
    -- what was not open before is not open afterwards
    have hclosed : (closeInstance key l).ledger.context? id = none := by
      cases hd : (closeInstance key l).ledger.context? id with
      | none => rfl
      | some d =>
        have hold := ((hl.context?_closeInstance key id d).mp hd).1
        rw [hc] at hold
        cases hold
    rw [hclosed]
    exact (ite_self none).symm
  | some c =>
    have hparent : ((some c.domain).any fun d => decide (d.parent = some key)) = true ↔
        c.parent = some key := by
      rw [Option.any_some, decide_eq_true_iff]
      rfl
    split
    · -- the context is the instance, or a device of it
      rename_i hgone
      cases hd : (closeInstance key l).ledger.context? id with
      | none => rfl
      | some d =>
        obtain ⟨hd, hne, hkept⟩ := (hl.context?_closeInstance key id d).mp hd
        rw [hc, Option.some.injEq] at hd
        subst hd
        rcases hgone with hid | ⟨hscope, hany⟩
        · exact absurd hid.symm hne
        · exact absurd ⟨(hl.scope_eq hc).trans hscope, hparent.mp hany⟩ hkept
    · -- the context is neither, and stays
      rename_i hstays
      have hkept : (closeInstance key l).ledger.context? id = some c := by
        refine (hl.context?_closeInstance key id c).mpr ⟨hc, ?_, ?_⟩
        · exact fun e => hstays (Or.inl e.symm)
        · rintro ⟨hscope, hp⟩
          exact hstays (Or.inr ⟨(hl.scope_eq hc).symm.trans hscope, hparent.mpr hp⟩)
      rw [hkept]

end Ledger

/-! ## Changes of what is alive -/

namespace Domains

variable {D D' : Domains} {id id' : ContextId} {g g' : Domain → Domain}

theorem modify_modify : (D.modify id g).modify id g' = D.modify id fun d => g' (g d) := by
  funext i
  simp only [modify]
  split
  · rw [Option.map_map]
    rfl
  · rfl

theorem modify_comm (h : id ≠ id') :
    (D.modify id g).modify id' g' = (D.modify id' g').modify id g := by
  funext i
  simp only [modify]
  split
  · rename_i hi
    rw [if_neg fun e => h (e.trans hi.symm), if_neg fun e => h (e.trans hi.symm)]
  · rfl

theorem modify_found (d : Domain) : (D.found id d).modify id g = D.found id (g d) := by
  funext i
  simp only [modify, found]
  split <;> rfl

/-- What is lost may have changed before. -/
theorem lose_congr (h : ∀ i, id ≠ i → D i = D' i) : D.lose id = D'.lose id := by
  funext i
  rw [lose, lose]
  split
  · rfl
  · rename_i hi
    exact h i hi

end Domains

/-! ## Calls that run -/

/-- The books after a call that ran. -/
def Passage.settle {s : Shape} (p : Passage s) (outcome : s.Outcome) (l : Ledger) : Ledger :=
  (p.record outcome (p.prepare l).ledger).ledger

namespace Passage

variable {s : Shape}

theorem ledger_run {p : Passage s} (hskip : p.check.skip = false) (outcome : s.Outcome)
    (l : Ledger) : (p.run outcome l).ledger = p.settle outcome l := by
  rw [run_of_not_skip hskip]
  rfl

theorem domains_creating (check : Check) (record : Handle → Action Unit)
    (outcome : Shape.handle.Outcome) (l : Ledger) :
    ((creating check record).settle outcome l).domains =
      given outcome l.domains fun h => (record h l).ledger.domains := by
  cases outcome <;> rfl

/-- Handles that a call gives back are entered one after another. -/
theorem domains_listing (check : Check) {act : Handle → Action Unit} {id : ContextId}
    {g : Handle → Domain → Domain}
    (hact : ∀ h l, (act h l).ledger.domains = l.domains.modify id (g h))
    (outcome : Shape.handles.Outcome) (l : Ledger) :
    ((listing check fun hs => Action.each hs act).settle outcome l).domains =
      given outcome l.domains fun hs => hs.foldl (fun D h => D.modify id (g h)) l.domains := by
  cases outcome with
  | error code => rfl
  | ok hs => exact Ledger.domains_each hs (fun h _ => hact h) l

end Passage

namespace Layer

variable (l : Layer)

/-- The call changes the books as it changes what is alive if no reset fails. -/
def Mirrored (r : Request) (outcome : r.shape.Outcome) : Prop :=
  ((r.passage l).settle outcome l.ledger).domains = r.effect l.world (r.deemed outcome)

theorem mirrored_createInstance (custom : Bool) (sink : Option Sink)
    (outcome : Shape.handle.Outcome) : l.Mirrored (.createInstance custom sink) outcome := by
  refine (Passage.domains_creating _ _ outcome l.ledger).trans ?_
  refine congrArg (given outcome l.ledger.domains) (funext fun h => ?_)
  refine (Ledger.domains_registerObject (l.instanceId h) .apiInstance h custom _).trans ?_
  rw [Ledger.domains_openInstance]
  exact Domains.modify_found _

theorem mirrored_destroyInstance {l : Layer} (hl : l.ledger.Filed) (h : Handle) (custom : Bool) :
    l.Mirrored (.destroyInstance h custom) () := by
  show ((l.destroyInstance h custom).settle () l.ledger).domains =
    if h = nullHandle then l.ledger.domains else l.ledger.domains.loseInstance (l.keyOf h)
  rw [destroyInstance]
  split
  · rfl
  · exact Ledger.domains_closeInstance hl (l.keyOf h)

theorem mirrored_createDevice (physicalDevice : Handle) (families : List UInt32) (custom : Bool)
    (outcome : Shape.handle.Outcome) :
    l.Mirrored (.createDevice physicalDevice families custom) outcome := by
  refine (Passage.domains_creating _ _ outcome l.ledger).trans ?_
  refine congrArg (given outcome l.ledger.domains) (funext fun h => ?_)
  show _ = (l.ledger.domains (l.instanceId physicalDevice)).elim l.ledger.domains fun parent =>
    (l.ledger.domains.found (l.deviceId h)
      (.barren h (some (l.keyOf physicalDevice)) parent.sink families)).modify
        (l.instanceId physicalDevice) (·.enter .device h ⟨custom, nullHandle⟩)
  cases hc : l.ledger.context? (l.instanceId physicalDevice) with
  | none =>
    -- a device of an unknown instance is not opened, and nothing begins
    have hvalue : (Ledger.openDevice (l.instanceId physicalDevice).key (l.keyOf h) h
        l.ledger).value = false :=
      (Ledger.openDevice_of_eq_none hc _ h).1
    have hledger : (Ledger.openDevice (l.instanceId physicalDevice).key (l.keyOf h) h
        l.ledger).ledger = l.ledger :=
      (Ledger.openDevice_of_eq_none hc _ h).2
    rw [Ledger.domains_of_eq_none hc, Action.ledger_bind, hvalue, hledger]
    rfl
  | some parent =>
    have hvalue : (Ledger.openDevice (l.instanceId physicalDevice).key (l.keyOf h) h
        l.ledger).value = true :=
      (Ledger.openDevice_of_eq_some hc _ h).1
    have hopened : (Ledger.openDevice (l.instanceId physicalDevice).key (l.keyOf h) h
        l.ledger).ledger.domains = _ :=
      Ledger.domains_openDevice hc (l.keyOf h) h
    have hne : l.deviceId h ≠ l.instanceId physicalDevice := fun e =>
      Scope.noConfusion (congrArg ContextId.scope e)
    rw [Ledger.domains_of_eq_some hc, Action.ledger_bind, hvalue]
    -- the books enter the device in its instance before they note its capabilities
    refine (Ledger.domains_noteFamilyFlags (l.keyOf h) families _).trans ?_
    rw [Ledger.domains_registerObject, hopened]
    refine (Domains.modify_comm hne.symm).trans ?_
    exact congrArg (Domains.modify _ _) (Domains.modify_found _)

theorem domains_createFrom (check : Check) (id : ContextId) (kind : Kind) (custom : Bool)
    (outcome : Shape.handle.Outcome) :
    ((Passage.creating check fun h => Ledger.registerObject id kind h custom).settle outcome
        l.ledger).domains =
      given outcome l.ledger.domains fun h =>
        l.ledger.domains.modify id (·.enter kind h ⟨custom, nullHandle⟩) := by
  refine (Passage.domains_creating _ _ outcome l.ledger).trans ?_
  exact congrArg (given outcome l.ledger.domains)
    (funext fun h => Ledger.domains_registerObject id kind h custom l.ledger)

theorem world_instanceOf (device : Handle) :
    l.world.instanceOf device = (l.ledger.instanceOf (l.keyOf device)).map .ofInstance := by
  show (((l.ledger.context? (l.deviceId device)).map Context.domain).bind (·.parent)).map _ = _
  rw [Option.bind_map]
  rfl

/-- What is torn down before a device goes is gone with the device. -/
theorem mirrored_destroyDevice (h : Handle) (custom : Bool) :
    l.Mirrored (.destroyDevice h custom) () := by
  show ((l.destroyDevice h custom).settle () l.ledger).domains =
    if h = nullHandle then l.ledger.domains
    else (l.world.instanceOf h).elim l.ledger.domains fun id =>
      (l.ledger.domains.modify id (·.remove .device h)).lose (l.deviceId h)
  rw [world_instanceOf]
  simp only [destroyDevice]
  split
  · rfl
  · rename_i hh
    split
    · rename_i hinstance
      rw [hinstance]
      rfl
    · rename_i instanceKey hinstance
      rw [hinstance]
      simp only [Passage.settle, Action.ledger_bind, Action.ledger_ofSurvey,
        Ledger.domains_closeDevice, Ledger.domains_release _ _ hh, Option.map_some]
      -- only the context of the device has been emptied, and it is the one that is closed
      refine Domains.lose_congr fun i hi => ?_
      have hdropped : (Ledger.dropQueues (l.keyOf h) (Ledger.dropOwned (.ofDevice (l.keyOf h))
          l.ledger).ledger).ledger.domains i = l.ledger.domains i := by
        rw [Ledger.domains, Ledger.domains,
          (Ledger.updates_dropQueues (l.keyOf h) _).context?_of_ne hi,
          (Ledger.updates_dropOwned (.ofDevice (l.keyOf h)) l.ledger).context?_of_ne hi]
      simp only [Domains.modify, hdropped]

theorem mirrored_getDeviceQueue (device queue : Handle) (family : UInt32) :
    l.Mirrored (.getDeviceQueue device family) queue := by
  show (((if queue = nullHandle then pure () else do
      Ledger.registerQueue (l.keyOf device) queue
      Ledger.noteQueueFamily (l.keyOf device) family queue : Action Unit) l.ledger).ledger).domains =
    if queue = nullHandle then l.ledger.domains
    else l.ledger.domains.modify (l.deviceId device) fun d =>
      (d.enter .queue queue ⟨false, nullHandle⟩).setFamily queue family
  split
  · rfl
  · refine (Ledger.domains_noteQueueFamily _ _ _ _).trans ?_
    rw [Ledger.domains_registerQueue]
    exact Domains.modify_modify

theorem domains_release_or_null (id : ContextId) (k : Kind) (h : Handle) :
    (Ledger.release id k h l.ledger).ledger.domains = l.world.ended id k h := by
  rw [World.ended]
  split
  · rename_i hh
    rw [hh, Ledger.release_null]
    rfl
  · rename_i hh
    exact Ledger.domains_release id k hh l.ledger

/-- A child leaves the books with what came out of it. -/
theorem mirrored_destroy {l : Layer} (hl : l.ledger.Filed) (child : Child) (owner h : Handle)
    (custom : Bool) : l.Mirrored (.destroy child owner h custom) () := by
  show (dropWith child (l.keyOf owner) h
      (Ledger.release (l.ownerId child.scope owner) child.kind h l.ledger).ledger).ledger.domains =
    if h = nullHandle then l.ledger.domains
    else l.ledger.domains.modify (l.ownerId child.scope owner)
      fun d => child.takeAlong h (d.remove child.kind h)
  split
  · rename_i hh
    rw [hh]
    rfl
  · rename_i hh
    have hfiled := Ledger.Filed.keeps_release (l.ownerId child.scope owner) child.kind h l.ledger hl
    have hremoved := Ledger.domains_release (l.ownerId child.scope owner) child.kind hh l.ledger
    unfold dropWith
    rw [if_neg hh]
    -- the books remove the child first and then what came out of it, the world both at once
    cases child with
    | commandPool =>
      refine (Ledger.domains_dropChildren hfiled (l.keyOf owner) h .commandBuffer).trans ?_
      rw [hremoved]
      exact Domains.modify_modify
    | descriptorPool =>
      refine (Ledger.domains_dropChildren hfiled (l.keyOf owner) h .descriptorSet).trans ?_
      rw [hremoved]
      exact Domains.modify_modify
    | swapchain =>
      refine (Ledger.domains_dropImages (l.keyOf owner) h _).trans ?_
      rw [hremoved]
      exact Domains.modify_modify
    | _ => exact hremoved

/-- Freed handles leave the books. -/
theorem domains_releaseAll (id : ContextId) (k : Kind) (hs : List Handle) (l : Ledger) :
    (Action.each (nonNull hs) (Ledger.release id k) l).ledger.domains =
      l.domains.removeAll id k (nonNull hs) := by
  refine Ledger.domains_each (nonNull hs) (fun h hh l => ?_) l
  exact Ledger.domains_release id k (bne_iff_ne.mp (List.mem_filter.mp hh).2) l

theorem mirrored_freeDescriptorSets (device pool : Handle) (hs : List Handle)
    (outcome : Shape.status.Outcome) :
    l.Mirrored (.freeDescriptorSets device pool hs) outcome := by
  cases outcome with
  | error code => rfl
  | ok u => exact domains_releaseAll (l.deviceId device) .descriptorSet hs l.ledger

/-- The sets of a pool leave the books whatever comes of the reset. -/
theorem mirrored_resetDescriptorPool {l : Layer} (hl : l.ledger.Filed) (device pool : Handle)
    (outcome : Shape.status.Outcome) : l.Mirrored (.resetDescriptorPool device pool) outcome :=
  Ledger.domains_dropChildren hl (l.keyOf device) pool .descriptorSet

/-- Every call that runs changes the books as it changes what is alive if no reset fails. -/
theorem mirrored {l : Layer} (hl : l.ledger.Filed) (r : Request) (outcome : r.shape.Outcome) :
    l.Mirrored r outcome := by
  cases r with
  | createInstance custom sink => exact l.mirrored_createInstance custom sink outcome
  | destroyInstance h custom => exact mirrored_destroyInstance hl h custom
  | enumeratePhysicalDevices i =>
    exact Passage.domains_listing _ (fun h => Ledger.domains_registerObject _ _ h false) outcome _
  | createDevice physicalDevice families custom =>
    exact l.mirrored_createDevice physicalDevice families custom outcome
  | destroyDevice h custom => exact l.mirrored_destroyDevice h custom
  | getDeviceQueue device family => exact l.mirrored_getDeviceQueue device outcome family
  | queueSubmit => rfl
  | queueBindSparse => rfl
  | createDeviceChild device kind code custom =>
    exact l.domains_createFrom _ (l.deviceId device) kind custom outcome
  | destroyDeviceChild device h kind custom codes =>
    exact l.domains_release_or_null (l.deviceId device) kind h
  | create what owner custom =>
    exact l.domains_createFrom _ (l.ownerId what.child.scope owner) what.child.kind custom outcome
  | destroy child owner h custom => exact mirrored_destroy hl child owner h custom
  | getSwapchainImages device swapchain =>
    exact Passage.domains_listing _ (fun h => Ledger.domains_registerImage _ h swapchain) outcome _
  | allocateCommandBuffers device pool level =>
    exact Passage.domains_listing _
      (fun h => Ledger.domains_registerCommandBuffer _ pool h level) outcome _
  | freeCommandBuffers device pool hs =>
    exact domains_releaseAll (l.deviceId device) .commandBuffer hs l.ledger
  | beginCommandBuffer => rfl
  | resetDescriptorPool device pool => exact mirrored_resetDescriptorPool hl device pool outcome
  | allocateDescriptorSets device pool layouts =>
    exact Passage.domains_listing _ (fun h => Ledger.domains_registerDescriptorSet _ pool h) outcome _
  | freeDescriptorSets device pool hs => exact l.mirrored_freeDescriptorSets device pool hs outcome
  | bindImageMemory => rfl
  | bindBufferMemory => rfl
  | mapMemory => cases outcome <;> rfl
  | waitForFences => rfl

/-- A call that runs takes the books to the world after it, with its reset taken to succeed. -/
theorem world_intercept {l : Layer} (hl : l.ledger.Filed) {c : Call}
    (hskip : (c.request.passage l).check.skip = false) :
    (l.take (.call c)).world = l.world.after (Turn.call c).deemed := by
  have hledger := Passage.ledger_run hskip c.outcome l.ledger
  have hdomains : (l.take (.call c)).ledger.domains =
      c.request.effect l.world (c.request.deemed c.outcome) := by
    refine Eq.trans (congrArg Ledger.domains hledger) ?_
    exact mirrored hl c.request c.outcome
  exact congrArg (World.mk l.dispatch l.defaultSink) hdomains

end Layer

end HandleLedger
