import HandleLedger.Ledger.Operation
import HandleLedger.Proofs.Registry.LookUp

/-!
# What actions do to the contexts

Most actions change the registry of one context and leave all others alone; `Ledger.Updates` says
so, and names the change. The actions that open and close contexts are described by their effect on
`Ledger.context?`. Nothing further has to open an action.

The ledger invariant `Ledger.Filed`, every context under its own identity with a registry that is
`Registry.Filed`, is kept by every operation (`Filed.keeps_run`).
-/

set_option autoImplicit false

namespace HandleLedger

/-! ## Steps of composed actions -/

namespace Action

variable {α β : Type}

@[simp] theorem ledger_pure (a : α) (l : Ledger) : ((pure a : Action α) l).ledger = l := rfl

@[simp] theorem value_pure (a : α) (l : Ledger) : ((pure a : Action α) l).value = a := rfl

@[simp] theorem ledger_bind (m : Action α) (f : α → Action β) (l : Ledger) :
    ((m >>= f) l).ledger = (f (m l).value (m l).ledger).ledger := rfl

@[simp] theorem value_bind (m : Action α) (f : α → Action β) (l : Ledger) :
    ((m >>= f) l).value = (f (m l).value (m l).ledger).value := rfl

@[simp] theorem ledger_map (f : α → β) (m : Action α) (l : Ledger) :
    ((f <$> m) l).ledger = (m l).ledger := rfl

@[simp] theorem trace_map (f : α → β) (m : Action α) (l : Ledger) :
    ((f <$> m) l).trace = (m l).trace :=
  List.append_nil _

@[simp] theorem ledger_emit (t : Trace) (l : Ledger) : (emit t l).ledger = l := rfl

@[simp] theorem ledger_ofCheck (check : Ledger → Check) (l : Ledger) :
    (ofCheck check l).ledger = l := rfl

@[simp] theorem ledger_ofSurvey (survey : Ledger → Survey) (l : Ledger) :
    (ofSurvey survey l).ledger = l := rfl

/-- A check as a step: the books stay as they are. -/
theorem map_ofCheck (f : Bool → β) (check : Ledger → Check) (l : Ledger) :
    (f <$> ofCheck check) l = ⟨f (check l).skip, l, (check l).trace⟩ :=
  congrArg (Step.mk _ l) (trace_map f (ofCheck check) l)

/-- A survey as a step: the books stay as they are. -/
theorem map_ofSurvey (f : Bool → β) (survey : Ledger → Survey) (l : Ledger) :
    (f <$> ofSurvey survey) l = ⟨f (survey l).found, l, (survey l).trace⟩ :=
  congrArg (Step.mk _ l) (trace_map f (ofSurvey survey) l)

theorem bind_of_eq {l l' l'' : Ledger} {t u : Trace} {m : Action α} {f : α → Action β} {a : α}
    {b : β} (hm : m l = ⟨a, l', t⟩) (hf : f a l' = ⟨b, l'', u⟩) :
    (m >>= f) l = ⟨b, l'', t ++ u⟩ := by
  show Step.mk (f (m l).value (m l).ledger).value _ _ = _
  rw [hm, hf]

theorem eq_of_trace_eq_nil {l : Ledger} {m : Action Unit} (h : (m l).trace = []) :
    m l = ⟨(), (m l).ledger, []⟩ := by
  rw [← h]

theorem within_of_eq_none {id : ContextId} {l : Ledger} (h : l.context? id = none) (fallback : α)
    (act : Context → Action α) :
    within id fallback act l = ⟨fallback, l, [.log (.unknownContext id)]⟩ := by
  rw [within, h]

theorem within_of_eq_some {id : ContextId} {l : Ledger} {c : Context} (h : l.context? id = some c)
    (fallback : α) (act : Context → Action α) : within id fallback act l = act c l := by
  rw [within, h]

/-- The action never breaks the invariant. -/
def Keeps (I : Ledger → Prop) (a : Action α) : Prop := ∀ l, I l → I (a l).ledger

variable {I : Ledger → Prop}

theorem keeps_pure (a : α) : Keeps I (pure a : Action α) := fun _ h => h

theorem Keeps.bind {m : Action α} {f : α → Action β} (hm : Keeps I m) (hf : ∀ a, Keeps I (f a)) :
    Keeps I (m >>= f) :=
  fun l h => hf _ _ (hm l h)

theorem Keeps.of_map {m : Action α} {f : α → β} (h : Keeps I (f <$> m)) : Keeps I m :=
  fun l hl => h l hl

theorem Keeps.of_returning {m : Action Unit} {b : β} (h : Keeps I (do m; return b)) : Keeps I m :=
  fun l hl => h l hl

theorem keeps_each {act : α → Action Unit} {xs : List α} (h : ∀ x ∈ xs, Keeps I (act x)) :
    Keeps I (each xs act) := by
  induction xs with
  | nil => exact keeps_pure ()
  | cons x xs ih =>
    exact (h x (List.mem_cons_self ..)).bind fun _ =>
      ih fun y hy => h y (List.mem_cons_of_mem _ hy)

theorem keeps_within {id : ContextId} {fallback : α} {act : Context → Action α}
    (h : ∀ c, Keeps I (act c)) : Keeps I (within id fallback act) := by
  intro l hl
  cases hc : l.context? id with
  | none =>
    rw [within_of_eq_none hc]
    exact hl
  | some c =>
    rw [within_of_eq_some hc]
    exact h c l hl

theorem keeps_emit (t : Trace) : Keeps I (emit t) := fun _ h => h

theorem keeps_ofSurvey (survey : Ledger → Survey) : Keeps I (ofSurvey survey) := fun _ h => h

end Action

/-- The context with a changed registry. -/
def Context.mapRegistry (f : Registry → Registry) (c : Context) : Context :=
  { c with registry := f c.registry }

@[simp] theorem Context.mapRegistry_registry (f : Registry → Registry) (c : Context) :
    (c.mapRegistry f).registry = f c.registry := rfl

@[simp] theorem Context.mapRegistry_id (f : Registry → Registry) (c : Context) :
    (c.mapRegistry f).id = c.id := rfl

@[simp] theorem Context.mapRegistry_scope (f : Registry → Registry) (c : Context) :
    (c.mapRegistry f).scope = c.scope := rfl

@[simp] theorem Context.mapRegistry_handle (f : Registry → Registry) (c : Context) :
    (c.mapRegistry f).handle = c.handle := rfl

@[simp] theorem Context.mapRegistry_parent (f : Registry → Registry) (c : Context) :
    (c.mapRegistry f).parent = c.parent := rfl

@[simp] theorem Context.mapRegistry_sink (f : Registry → Registry) (c : Context) :
    (c.mapRegistry f).sink = c.sink := rfl

namespace Ledger

/-- A ledger is known by its contexts and its next creation index. -/
theorem eq_of_context? {l l' : Ledger} (hcontexts : ∀ id, l'.context? id = l.context? id)
    (hindex : l'.nextIndex = l.nextIndex) : l' = l := by
  obtain ⟨contexts, index⟩ := l
  obtain ⟨contexts', index'⟩ := l'
  have htable : contexts' = contexts := Table.ext_find? hcontexts
  rw [htable, show index' = index from hindex]

/-! ## Changes of one registry -/

/-- The second ledger has the contexts of the first, with the registry of one of them changed. -/
def Updates (id : ContextId) (f : Registry → Registry) (l l' : Ledger) : Prop :=
  ∀ id', l'.context? id' =
    if id = id' then (l.context? id').map (Context.mapRegistry f) else l.context? id'

namespace Updates

variable {id : ContextId} {f g : Registry → Registry} {l l' l'' : Ledger}

theorem context?_self (h : Updates id f l l') :
    l'.context? id = (l.context? id).map (Context.mapRegistry f) :=
  (h id).trans (if_pos rfl)

theorem context?_of_ne (h : Updates id f l l') {id' : ContextId} (hne : id ≠ id') :
    l'.context? id' = l.context? id' :=
  (h id').trans (if_neg hne)

theorem rfl' : Updates id (fun r => r) l l := by
  intro id'
  split
  · cases l.context? id' <;> rfl
  · rfl

theorem of_eq_none (h : l.context? id = none) : Updates id f l l := by
  intro id'
  split
  · rename_i hid
    subst hid
    rw [h]
    rfl
  · rfl

theorem trans (hf : Updates id f l l') (hg : Updates id g l' l'') :
    Updates id (fun r => g (f r)) l l'' := by
  intro id'
  rw [hg id', hf id']
  split
  · cases l.context? id' <;> rfl
  · rfl

/-- The change matters only at the registry that is there. -/
theorem congr (hf : Updates id f l l')
    (hfg : ∀ c, l.context? id = some c → f c.registry = g c.registry) : Updates id g l l' := by
  intro id'
  rw [hf id']
  split
  · rename_i hid
    subst hid
    cases hc : l.context? id with
    | none => rfl
    | some c =>
      have hreg := hfg c hc
      show some (c.mapRegistry f) = some (c.mapRegistry g)
      rw [Context.mapRegistry, Context.mapRegistry, hreg]
  · rfl

end Updates

theorem updates_modifyRegistry (id : ContextId) (f : Registry → Registry) (l : Ledger) :
    Updates id f l (l.modifyRegistry id f) := by
  intro id'
  show (l.contexts.adjust id _).find? id' = _
  simp only [Table.find?_adjust, Ranked.rank_eq_iff]
  rfl

theorem updates_onRegistry (id : ContextId) (f : Registry → Registry) (l : Ledger) :
    Updates id f l (Action.onRegistry id f l).ledger := by
  rw [Action.onRegistry]
  cases hc : l.context? id with
  | none =>
    rw [Action.within_of_eq_none hc]
    exact Updates.of_eq_none hc
  | some c =>
    rw [Action.within_of_eq_some hc]
    exact updates_modifyRegistry id f l

/-! ### Registration -/

/-- The record of a new object. -/
def newRecord (l : Ledger) (k : Kind) (h : Handle) (status : Status) (parent : Handle) : Record :=
  ⟨k, h, status, parent, l.nextIndex⟩

/-- The books after a new record of a context. -/
def entered (l : Ledger) (id : ContextId) (f : Registry → Registry) : Ledger :=
  { l.modifyRegistry id f with nextIndex := l.nextIndex + 1 }

theorem updates_entered (l : Ledger) (id : ContextId) (f : Registry → Registry) :
    Updates id f l (l.entered id f) :=
  fun id' => updates_modifyRegistry id f l id'

theorem register_of_eq_none {id : ContextId} {l : Ledger} (hl : l.context? id = none) (k : Kind)
    (h : Handle) (status : Status) (parent : Handle) :
    register id k h status parent l = ⟨(), l, [.log (.unknownContext id)]⟩ :=
  Action.within_of_eq_none hl () _

/-- An object that is entered already stays as it is. -/
theorem register_of_contains {id : ContextId} {l : Ledger} {c : Context}
    (hl : l.context? id = some c) {k : Kind} {h : Handle} (hk : c.registry.contains k h = true)
    (status : Status) (parent : Handle) :
    register id k h status parent l = ⟨(), l, []⟩ :=
  (Action.within_of_eq_some hl () _).trans (if_pos hk)

theorem register_of_not_contains {id : ContextId} {l : Ledger} {c : Context}
    (hl : l.context? id = some c) {k : Kind} {h : Handle} (hk : c.registry.contains k h = false)
    (status : Status) (parent : Handle) :
    register id k h status parent l =
      ⟨(), l.entered id (·.insert (l.newRecord k h status parent)),
        [.report c.sink (.created (l.newRecord k h status parent))]⟩ :=
  (Action.within_of_eq_some hl () _).trans (if_neg (Bool.eq_false_iff.mp hk))

theorem updates_register (id : ContextId) (k : Kind) (h : Handle) (status : Status)
    (parent : Handle) (l : Ledger) :
    Updates id (·.insert (l.newRecord k h status parent)) l
      (register id k h status parent l).ledger := by
  cases hc : l.context? id with
  | none =>
    rw [register_of_eq_none hc]
    exact Updates.of_eq_none hc
  | some c =>
    cases hk : c.registry.contains k h with
    | true =>
      rw [register_of_contains hc hk]
      -- the slot is taken, so entering the record changes nothing
      refine Updates.rfl'.congr fun d hd => ?_
      rw [hc, Option.some.injEq] at hd
      subst hd
      exact (if_pos hk).symm
    | false =>
      rw [register_of_not_contains hc hk]
      exact updates_entered l id _

theorem registerImage_of_eq_none {device : DispatchKey} {l : Ledger}
    (hl : l.context? (.ofDevice device) = none) (image swapchain : Handle) :
    registerImage device image swapchain l = ⟨(), l, [.log (.unknownContext (.ofDevice device))]⟩ := by
  simp only [registerImage]
  exact Action.within_of_eq_none hl () _

theorem registerImage_of_contains {device : DispatchKey} {l : Ledger} {c : Context}
    (hl : l.context? (.ofDevice device) = some c) {image : Handle}
    (hk : c.registry.images.contains image = true) (swapchain : Handle) :
    registerImage device image swapchain l = ⟨(), l, []⟩ := by
  simp only [registerImage]
  exact (Action.within_of_eq_some hl () _).trans (if_pos hk)

theorem registerImage_of_not_contains {device : DispatchKey} {l : Ledger} {c : Context}
    (hl : l.context? (.ofDevice device) = some c) {image : Handle}
    (hk : c.registry.images.contains image = false) (swapchain : Handle) :
    registerImage device image swapchain l =
      ⟨(), l.entered (.ofDevice device) (·.insertImage (l.newRecord .image image .none swapchain)),
        [.report c.sink (.imageCreated (l.newRecord .image image .none swapchain))]⟩ := by
  simp only [registerImage]
  exact (Action.within_of_eq_some hl () _).trans (if_neg (Bool.eq_false_iff.mp hk))

theorem updates_registerImage (device : DispatchKey) (image swapchain : Handle) (l : Ledger) :
    Updates (.ofDevice device) (·.insertImage (l.newRecord .image image .none swapchain)) l
      (registerImage device image swapchain l).ledger := by
  cases hc : l.context? (.ofDevice device) with
  | none =>
    rw [registerImage_of_eq_none hc]
    exact Updates.of_eq_none hc
  | some c =>
    cases hk : c.registry.images.contains image with
    | true =>
      rw [registerImage_of_contains hc hk]
      refine Updates.rfl'.congr fun d hd => ?_
      rw [hc, Option.some.injEq] at hd
      subst hd
      exact (if_pos hk).symm
    | false =>
      rw [registerImage_of_not_contains hc hk]
      exact updates_entered l _ _

/-! ### Removal -/

theorem release_null (id : ContextId) (k : Kind) (l : Ledger) :
    (release id k nullHandle l).ledger = l := rfl

theorem updates_release (id : ContextId) (k : Kind) {h : Handle} (hh : h ≠ nullHandle)
    (l : Ledger) : Updates id (·.remove k h) l (release id k h l).ledger := by
  rw [release, if_neg hh]
  exact updates_onRegistry id _ l

theorem updates_discard (id : ContextId) (k : Kind) (h : Handle) (l : Ledger) :
    Updates id (·.remove k h) l (discard id k h l).ledger := by
  rw [discard]
  cases hc : l.context? id with
  | none =>
    rw [Action.within_of_eq_none hc]
    exact Updates.of_eq_none hc
  | some c =>
    rw [Action.within_of_eq_some hc]
    exact updates_modifyRegistry id _ l

theorem updates_dropChildren (device : DispatchKey) (pool : Handle) (k : Kind) (l : Ledger) :
    Updates (.ofDevice device) (fun r => r.removeAll k (r.childrenOf k pool)) l
      (dropChildren device pool k l).ledger := by
  rw [dropChildren]
  cases hc : l.context? (.ofDevice device) with
  | none =>
    rw [Action.within_of_eq_none hc]
    exact Updates.of_eq_none hc
  | some c =>
    rw [Action.within_of_eq_some hc]
    refine Updates.congr (updates_modifyRegistry _ _ l) fun d hd => ?_
    rw [hc, Option.some.injEq] at hd
    rw [hd]

theorem updates_dropImages (device : DispatchKey) (swapchain : Handle) (l : Ledger) :
    Updates (.ofDevice device) (·.removeImages swapchain) l
      (dropImages device swapchain l).ledger := by
  rw [dropImages]
  cases hc : l.context? (.ofDevice device) with
  | none =>
    rw [Action.within_of_eq_none hc]
    exact Updates.of_eq_none hc
  | some c =>
    rw [Action.within_of_eq_some hc]
    exact updates_modifyRegistry _ _ l

theorem updates_dropKind (id : ContextId) (k : Kind) (l : Ledger) :
    Updates id (fun r => r.removeAll k (r.handlesOf k)) l (dropKind id k l).ledger :=
  updates_onRegistry id _ l

theorem ledger_each_dropKind (id : ContextId) :
    ∀ (ks : List Kind) (l : Ledger),
      Updates id (·.dropKinds ks) l (Action.each ks (dropKind id) l).ledger
  | [], _ => Updates.rfl'
  | k :: ks, l => (updates_dropKind id k l).trans (ledger_each_dropKind id ks _)

theorem updates_dropOwned (id : ContextId) (l : Ledger) :
    Updates id (·.dropKinds id.scope.ownedKinds) l (dropOwned id l).ledger :=
  ledger_each_dropKind id _ l

theorem updates_dropQueues (device : DispatchKey) (l : Ledger) :
    Updates (.ofDevice device) (fun r => (r.dropKinds [.queue]).clearQueueFamilies) l
      (dropQueues device l).ledger :=
  updates_onRegistry _ _ l

/-! ## Opening and closing -/

section InstanceOf

variable {l : Ledger} {device : DispatchKey}

theorem instanceOf_of_eq_none (hc : l.context? (.ofDevice device) = none) :
    l.instanceOf device = none := by
  rw [instanceOf, hc]
  rfl

theorem instanceOf_of_eq_some {c : Context} (hc : l.context? (.ofDevice device) = some c) :
    l.instanceOf device = c.parent := by
  rw [instanceOf, hc]
  rfl

end InstanceOf

theorem context?_openContext (c : Context) (opening : Log) (l : Ledger) (id : ContextId) :
    (openContext c opening l).ledger.context? id =
      if c.id = id then some c else l.context? id := by
  show (l.contexts.insert c.id c).find? id = _
  simp only [Table.find?_insert, Ranked.rank_eq_iff]
  rfl

/-- The context of a new instance. -/
def newInstance (key : DispatchKey) (handle : Handle) (sink : Sink) : Context :=
  ⟨.instanceLevel, key, handle, none, sink, .empty⟩

/-- The context of a new device, which hears and reports like its instance. -/
def newDevice (instanceKey key : DispatchKey) (handle : Handle) (sink : Sink) : Context :=
  ⟨.deviceLevel, key, handle, some instanceKey, sink, .empty⟩

theorem context?_openInstance (key : DispatchKey) (handle : Handle) (sink : Sink) (l : Ledger)
    (id : ContextId) :
    (openInstance key handle sink l).ledger.context? id =
      if .ofInstance key = id then some (newInstance key handle sink) else l.context? id :=
  context?_openContext (newInstance key handle sink) _ l id

theorem openDevice_of_eq_none {instanceKey : DispatchKey} {l : Ledger}
    (hl : l.context? (.ofInstance instanceKey) = none) (key : DispatchKey) (handle : Handle) :
    (openDevice instanceKey key handle l).value = false ∧
      (openDevice instanceKey key handle l).ledger = l := by
  rw [openDevice, Action.within_of_eq_none hl]
  exact ⟨rfl, rfl⟩

theorem openDevice_of_eq_some {instanceKey : DispatchKey} {l : Ledger} {parent : Context}
    (hl : l.context? (.ofInstance instanceKey) = some parent) (key : DispatchKey)
    (handle : Handle) :
    (openDevice instanceKey key handle l).value = true ∧
      ∀ id, (openDevice instanceKey key handle l).ledger.context? id =
        if .ofDevice key = id then some (newDevice instanceKey key handle parent.sink)
        else l.context? id := by
  rw [openDevice, Action.within_of_eq_some hl]
  refine ⟨rfl, fun id => ?_⟩
  exact context?_openContext (newDevice instanceKey key handle parent.sink)
    (.registeringDevice instanceKey key handle) l id

theorem context?_closeContext (id : ContextId) (l : Ledger) (id' : ContextId) :
    (closeContext id l).ledger.context? id' = if id = id' then none else l.context? id' := by
  rw [closeContext]
  cases hc : l.context? id with
  | none =>
    show l.context? id' = _
    split
    · rename_i hid
      exact hid ▸ hc
    · rfl
  | some c =>
    show (l.contexts.erase id).find? id' = _
    simp only [Table.find?_erase, Ranked.rank_eq_iff]
    rfl

theorem context?_each_closeDevice (id : ContextId) :
    ∀ (keys : List DispatchKey) (l : Ledger),
      (Action.each keys closeDevice l).ledger.context? id =
        if id.scope = .deviceLevel ∧ id.key ∈ keys then none else l.context? id
  | [], l => by
    rw [if_neg fun h => List.not_mem_nil h.2]
    rfl
  | key :: keys, l => by
    show (Action.each keys closeDevice (closeDevice key l).ledger).ledger.context? id = _
    rw [context?_each_closeDevice id keys, closeDevice, context?_closeContext]
    obtain ⟨scope, key'⟩ := id
    cases scope with
    | instanceLevel => simp [ContextId.ofDevice]
    | deviceLevel =>
      by_cases hk : key = key'
      · simp [ContextId.ofDevice, hk]
      · have hk' : ¬key' = key := fun e => hk e.symm
        simp [ContextId.ofDevice, hk, hk']

/-! ## Contexts under their own identities -/

/-- Every context satisfies a predicate of its identity and itself. -/
def Every (P : ContextId → Context → Prop) (l : Ledger) : Prop :=
  ∀ id c, l.context? id = some c → P id c

theorem every_empty (P : ContextId → Context → Prop) : Every P empty := by
  intro id c hc
  cases hc

/-- A changed registry has to satisfy the predicate only in the context that was addressed. -/
theorem Every.updates {P : ContextId → Context → Prop} {id : ContextId}
    {f : Registry → Registry} {l l' : Ledger} (hl : Every P l) (hu : Updates id f l l')
    (hf : ∀ c, l.context? id = some c → P id c → P id (c.mapRegistry f)) : Every P l' := by
  intro id' c' hc'
  by_cases hid : id = id'
  · subst hid
    rw [hu.context?_self] at hc'
    obtain ⟨c, hc, rfl⟩ := Option.map_eq_some_iff.mp hc'
    exact hf c hc (hl id c hc)
  · rw [hu.context?_of_ne hid] at hc'
    exact hl id' c' hc'

/-- Opening a context keeps what holds of it and of all others. -/
theorem Every.openContext {P : ContextId → Context → Prop} {l : Ledger} (hl : Every P l)
    {c : Context} (hc : P c.id c) (opening : Log) : Every P (openContext c opening l).ledger := by
  intro id d hd
  rw [context?_openContext] at hd
  split at hd
  · rename_i hid
    cases hd
    exact hid ▸ hc
  · exact hl id d hd

/-- Contexts that are closed are of no matter. -/
theorem Every.of_imp {P : ContextId → Context → Prop} {l l' : Ledger} (hl : Every P l)
    (h : ∀ id c, l'.context? id = some c → l.context? id = some c) : Every P l' :=
  fun id c hc => hl id c (h id c hc)

/-- Each context stands under its own identity, and its records stand in their own places. -/
def Filed : Ledger → Prop := Every fun id c => c.id = id ∧ c.registry.Filed

namespace Filed

variable {l l' : Ledger}

theorem id_eq (hl : l.Filed) {id : ContextId} {c : Context} (hc : l.context? id = some c) :
    c.id = id :=
  (hl id c hc).1

theorem registry (hl : l.Filed) {id : ContextId} {c : Context} (hc : l.context? id = some c) :
    c.registry.Filed :=
  (hl id c hc).2

theorem scope_eq (hl : l.Filed) {id : ContextId} {c : Context} (hc : l.context? id = some c) :
    c.scope = id.scope :=
  congrArg ContextId.scope (hl.id_eq hc)

theorem key_eq (hl : l.Filed) {id : ContextId} {c : Context} (hc : l.context? id = some c) :
    c.key = id.key :=
  congrArg ContextId.key (hl.id_eq hc)

theorem updates (hl : l.Filed) {id : ContextId} {f : Registry → Registry} (hu : Updates id f l l')
    (hf : ∀ r : Registry, r.Filed → (f r).Filed) : l'.Filed :=
  Every.updates hl hu fun c _ hc => ⟨hc.1, hf c.registry hc.2⟩

theorem mem_devicesOf (hl : l.Filed) (instanceKey : DispatchKey) (c : Context) :
    c ∈ l.contexts.devicesOf instanceKey ↔
      l.context? c.id = some c ∧ c.scope = .deviceLevel ∧ c.parent = some instanceKey := by
  -- the list forgets under which identity the context stands, but it can only be its own
  simp only [Directory.devicesOf, Directory.devices, List.mem_filter, Table.mem_values_iff,
    decide_eq_true_eq]
  constructor
  · rintro ⟨⟨⟨id, hc⟩, hs⟩, hp⟩
    have hid : c.id = id := hl.id_eq hc
    exact ⟨hid ▸ hc, hs, hp⟩
  · rintro ⟨hc, hs, hp⟩
    exact ⟨⟨⟨c.id, hc⟩, hs⟩, hp⟩

theorem mem_instances (hl : l.Filed) (c : Context) :
    c ∈ l.contexts.instances ↔ l.context? c.id = some c ∧ c.scope = .instanceLevel := by
  simp only [Directory.instances, List.mem_filter, Table.mem_values_iff, decide_eq_true_eq]
  constructor
  · rintro ⟨⟨id, hc⟩, hs⟩
    have hid : c.id = id := hl.id_eq hc
    exact ⟨hid ▸ hc, hs⟩
  · rintro ⟨hc, hs⟩
    exact ⟨⟨c.id, hc⟩, hs⟩

/-- Closing an instance leaves the contexts that are neither it nor one of its devices. -/
theorem context?_closeInstance (hl : l.Filed) (key : DispatchKey) (id : ContextId)
    (c : Context) :
    (closeInstance key l).ledger.context? id = some c ↔
      l.context? id = some c ∧ id ≠ .ofInstance key ∧
        ¬(c.scope = .deviceLevel ∧ c.parent = some key) := by
  show (closeContext (.ofInstance key) (Action.each _ closeDevice l).ledger).ledger.context? id =
    some c ↔ _
  rw [context?_closeContext, context?_each_closeDevice]
  -- the devices to be closed are listed by key, and only a device under its own key is meant
  have hmem : l.context? id = some c →
      ((id.scope = .deviceLevel ∧ id.key ∈ (l.contexts.devicesOf key).map (·.key)) ↔
        c.scope = .deviceLevel ∧ c.parent = some key) := by
    intro hc
    rw [hl.scope_eq hc]
    refine and_congr_right fun hs => ?_
    rw [List.mem_map]
    constructor
    · rintro ⟨d, hd, hk⟩
      obtain ⟨hd, hds, hdp⟩ := (hl.mem_devicesOf key d).mp hd
      have hid : d.id = id := by
        rw [Context.id, hds, hk, ← hs]
      rw [hid, hc, Option.some.injEq] at hd
      rw [hd, hdp]
    · intro hp
      have hs' : c.scope = .deviceLevel := (hl.scope_eq hc).trans hs
      exact ⟨c, (hl.mem_devicesOf key c).mpr ⟨(hl.id_eq hc).symm ▸ hc, hs', hp⟩, hl.key_eq hc⟩
  by_cases hid : ContextId.ofInstance key = id
  · simp [hid]
  · rw [if_neg hid]
    have hid' : id ≠ .ofInstance key := fun e => hid e.symm
    split
    · rename_i hclosed
      constructor
      · intro h
        cases h
      · rintro ⟨hc, -, hopen⟩
        exact absurd ((hmem hc).mp hclosed) hopen
    · rename_i hopen
      constructor
      · intro hc
        exact ⟨hc, hid', fun h => hopen ((hmem hc).mpr h)⟩
      · exact fun h => h.1

/-! ### Every operation keeps the order of the files -/

theorem keeps_register (id : ContextId) (k : Kind) (h : Handle) (status : Status)
    (parent : Handle) : Action.Keeps Filed (register id k h status parent) :=
  fun l hl => hl.updates (updates_register id k h status parent l) fun _ hr => hr.insert _

theorem keeps_registerImage (device : DispatchKey) (image swapchain : Handle) :
    Action.Keeps Filed (registerImage device image swapchain) :=
  fun l hl => hl.updates (updates_registerImage device image swapchain l) fun _ hr =>
    hr.insertImage rfl

theorem keeps_onRegistry {f : Registry → Registry} (hf : ∀ r : Registry, r.Filed → (f r).Filed)
    (id : ContextId) : Action.Keeps Filed (Action.onRegistry id f) :=
  fun l hl => hl.updates (updates_onRegistry id f l) hf

theorem keeps_noteQueueFamily (device : DispatchKey) (family : UInt32) (queue : Handle) :
    Action.Keeps Filed (noteQueueFamily device family queue) :=
  keeps_onRegistry (fun _ hr => hr.setQueueFamily queue family) _

theorem keeps_noteFamilyFlags (device : DispatchKey) (flags : List UInt32) :
    Action.Keeps Filed (noteFamilyFlags device flags) :=
  keeps_onRegistry (fun _ hr => hr.setFamilyFlags flags) _

theorem keeps_release (id : ContextId) (k : Kind) (h : Handle) :
    Action.Keeps Filed (release id k h) := by
  intro l hl
  by_cases hh : h = nullHandle
  · rw [hh, release_null]
    exact hl
  · exact hl.updates (updates_release id k hh l) fun _ hr => hr.remove k h

theorem keeps_discard (id : ContextId) (k : Kind) (h : Handle) :
    Action.Keeps Filed (discard id k h) :=
  fun l hl => hl.updates (updates_discard id k h l) fun _ hr => hr.remove k h

theorem keeps_dropChildren (device : DispatchKey) (pool : Handle) (k : Kind) :
    Action.Keeps Filed (dropChildren device pool k) :=
  fun l hl => hl.updates (updates_dropChildren device pool k l) fun _ hr =>
    Registry.Filed.removeAll k _ hr

theorem keeps_dropImages (device : DispatchKey) (swapchain : Handle) :
    Action.Keeps Filed (dropImages device swapchain) :=
  fun l hl => hl.updates (updates_dropImages device swapchain l) fun _ hr =>
    hr.removeImages swapchain

theorem keeps_dropKind (id : ContextId) (k : Kind) : Action.Keeps Filed (dropKind id k) :=
  fun l hl => hl.updates (updates_dropKind id k l) fun _ hr => Registry.Filed.removeAll k _ hr

theorem keeps_dropOwned (id : ContextId) : Action.Keeps Filed (dropOwned id) :=
  Action.keeps_each fun k _ => keeps_dropKind id k

theorem keeps_dropQueues (device : DispatchKey) : Action.Keeps Filed (dropQueues device) :=
  fun l hl => hl.updates (updates_dropQueues device l) fun _ hr =>
    (Registry.Filed.dropKinds _ hr).clearQueueFamilies

theorem keeps_openInstance (key : DispatchKey) (handle : Handle) (sink : Sink) :
    Action.Keeps Filed (openInstance key handle sink) :=
  fun _ hl => Every.openContext hl ⟨rfl, Registry.filed_empty⟩ _

theorem keeps_openDevice (instanceKey key : DispatchKey) (handle : Handle) :
    Action.Keeps Filed (openDevice instanceKey key handle) := by
  intro l hl
  cases hc : l.context? (.ofInstance instanceKey) with
  | none =>
    -- a device of an unknown instance is not opened
    rw [(openDevice_of_eq_none hc key handle).2]
    exact hl
  | some parent =>
    intro id c hid
    rw [(openDevice_of_eq_some hc key handle).2] at hid
    split at hid
    · rename_i hk
      cases hid
      exact ⟨hk, Registry.filed_empty⟩
    · exact hl id c hid

theorem keeps_closeContext (id : ContextId) : Action.Keeps Filed (closeContext id) := by
  intro l hl
  refine Every.of_imp hl fun id' c hc => ?_
  rw [context?_closeContext] at hc
  split at hc
  · cases hc
  · exact hc

theorem keeps_closeInstance (key : DispatchKey) : Action.Keeps Filed (closeInstance key) :=
  fun _ hl => Every.of_imp hl fun id c hc => ((hl.context?_closeInstance key id c).mp hc).1

/-- No operation misfiles a context or a record. -/
theorem keeps_run : ∀ op : Operation, Action.Keeps Filed op.run
  | .openInstance key handle sink => keeps_openInstance key handle sink
  | .openDevice instanceKey key handle => keeps_openDevice instanceKey key handle
  | .closeDevice key => keeps_closeContext (.ofDevice key)
  | .closeInstance key => keeps_closeInstance key
  | .registerObject id k h custom => keeps_register id k h (.ofAllocator custom) nullHandle
  | .registerCommandBuffer device pool buffer level =>
    keeps_register (.ofDevice device) .commandBuffer buffer (.ofLevel level) pool
  | .registerDescriptorSet device pool set =>
    keeps_register (.ofDevice device) .descriptorSet set .none pool
  | .registerQueue device queue => keeps_register (.ofDevice device) .queue queue .none nullHandle
  | .registerImage device image swapchain => keeps_registerImage device image swapchain
  | .noteQueueFamily device family queue => keeps_noteQueueFamily device family queue
  | .noteFamilyFlags device flags => keeps_noteFamilyFlags device flags
  | .checkArgument .. => fun _ hl => hl
  | .checkDevice .. => fun _ hl => hl
  | .checkDestroy .. => fun _ hl => hl
  | .checkCommandBuffer .. => fun _ hl => hl
  | .checkDescriptorSet .. => fun _ hl => hl
  | .checkSparse .. => fun _ hl => hl
  | .release id k h => keeps_release id k h
  | .discard id k h => keeps_discard id k h
  | .dropChildren device pool k => keeps_dropChildren device pool k
  | .dropImages device swapchain => keeps_dropImages device swapchain
  | .dropKind id k => keeps_dropKind id k
  | .dropOwned id => keeps_dropOwned id
  | .dropQueues device => keeps_dropQueues device
  | .reportKind .. => fun _ hl => hl
  | .reportOwned .. => fun _ hl => hl
  | .reportDevices .. => fun _ hl => hl

end Filed

end Ledger

end HandleLedger
