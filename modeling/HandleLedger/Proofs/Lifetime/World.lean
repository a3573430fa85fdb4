import HandleLedger.Proofs.Interception.Run

/-!
# What is alive

A reference account of the objects that calls have given back and that no later call has ended. It
has no checks, no reports and no books: every call runs, and its outcome says what begins and what
ends (`Request.effect`). An object ends when it is destroyed or freed, when its pool is reset with
success, and with its pool, its swapchain, its device or its instance.

A run is well behaved (`WellBehaved`) if each of its calls is given live objects only and gives back
new ones (`Request.Permitted`). Then no null handle is alive and every sink is a memory sink
(`World.Sound`).
-/

set_option autoImplicit false

namespace HandleLedger

/-! ## Live objects -/

/-- A live object. -/
structure Life where
  /-- Whether the object was created with allocation callbacks. -/
  custom : Bool
  /-- The pool that the object came from, null when there is none. -/
  origin : Handle

/-- What is alive of an instance or a device. -/
structure Domain where
  /-- The handle of the instance or device itself. -/
  handle : Handle
  /-- The key of the instance that a device was created from. -/
  parent : Option DispatchKey
  sink : Sink
  live : Kind → Handle → Option Life
  /-- The swapchain of each image that a swapchain has handed out. -/
  images : Handle → Option Handle
  /-- The family that a queue was last retrieved from. -/
  family : Handle → Option UInt32
  /-- The capability bits of each queue family, by its number. -/
  capabilities : List UInt32

namespace Domain

/-- A domain without objects. -/
def barren (handle : Handle) (parent : Option DispatchKey) (sink : Sink)
    (capabilities : List UInt32) : Domain :=
  ⟨handle, parent, sink, fun _ _ => none, fun _ => none, fun _ => none, capabilities⟩

/-- An object begins. One that is alive stays as it is. -/
def enter (k : Kind) (h : Handle) (life : Life) (d : Domain) : Domain :=
  { d with live := fun k' h' => (d.live k' h').or (if k = k' ∧ h = h' then some life else none) }

/-- A swapchain hands an image out. -/
def enterImage (image swapchain : Handle) (d : Domain) : Domain :=
  { d with images := fun h => (d.images h).or (if image = h then some swapchain else none) }

/-- An object ends. -/
def remove (k : Kind) (h : Handle) (d : Domain) : Domain :=
  { d with live := fun k' h' => if k = k' ∧ h = h' then none else d.live k' h' }

/-- The objects of a kind that came from a pool end. -/
def removeChildren (k : Kind) (pool : Handle) (d : Domain) : Domain :=
  { d with
    live := fun k' h' =>
      if k = k' then (d.live k' h').filter fun life => life.origin != pool else d.live k' h' }

/-- The images of a swapchain end. -/
def removeImages (swapchain : Handle) (d : Domain) : Domain :=
  { d with images := fun h => (d.images h).filter (· != swapchain) }

/-- A queue is retrieved from a family. -/
def setFamily (queue : Handle) (family : UInt32) (d : Domain) : Domain :=
  { d with family := fun h => if queue = h then some family else d.family h }

end Domain

/-- The instances and devices that are alive. -/
abbrev Domains := ContextId → Option Domain

namespace Domains

/-- What is alive of one instance or device changes. -/
def modify (id : ContextId) (g : Domain → Domain) (D : Domains) : Domains :=
  fun id' => if id = id' then (D id').map g else D id'

/-- An instance or device begins. -/
def found (id : ContextId) (d : Domain) (D : Domains) : Domains :=
  fun id' => if id = id' then some d else D id'

/-- An instance or device ends. -/
def lose (id : ContextId) (D : Domains) : Domains :=
  fun id' => if id = id' then none else D id'

/-- An instance ends, and its devices with it. -/
def loseInstance (key : DispatchKey) (D : Domains) : Domains := fun id' =>
  if .ofInstance key = id' ∨
      id'.scope = .deviceLevel ∧ ((D id').any fun d => d.parent = some key) = true
  then none else D id'

/-- Objects of a kind begin. -/
def enterAll (id : ContextId) (k : Kind) (hs : List Handle) (life : Life) (D : Domains) :
    Domains :=
  hs.foldl (fun D h => D.modify id (·.enter k h life)) D

/-- A swapchain hands images out. -/
def enterImages (id : ContextId) (images : List Handle) (swapchain : Handle) (D : Domains) :
    Domains :=
  images.foldl (fun D h => D.modify id (·.enterImage h swapchain)) D

/-- Objects of a kind end. -/
def removeAll (id : ContextId) (k : Kind) (hs : List Handle) (D : Domains) : Domains :=
  hs.foldl (fun D h => D.modify id (·.remove k h)) D

theorem modify_self (D : Domains) (id : ContextId) (g : Domain → Domain) :
    D.modify id g id = (D id).map g :=
  if_pos rfl

section Elsewhere

variable {D : Domains} {id id' : ContextId} (hne : id ≠ id')
include hne

theorem modify_of_ne {g : Domain → Domain} : D.modify id g id' = D id' := if_neg hne

theorem found_of_ne {d : Domain} : D.found id d id' = D id' := if_neg hne

theorem lose_of_ne : D.lose id id' = D id' := if_neg hne

end Elsewhere

end Domains

/-- What is alive, and the surroundings: the dispatch keys of handles, and the sink of an instance
that is created without one. -/
structure World where
  dispatch : Table Handle DispatchKey
  fallback : Sink
  domains : Domains

namespace World

/-- The dispatch key of a dispatchable handle. -/
def keyOf (w : World) (h : Handle) : DispatchKey := (w.dispatch.find? h).getD 0

/-- The identity of the instance that a handle belongs to. -/
def instanceId (w : World) (h : Handle) : ContextId := .ofInstance (w.keyOf h)

/-- The identity of the device that a handle belongs to. -/
def deviceId (w : World) (h : Handle) : ContextId := .ofDevice (w.keyOf h)

/-- The identity of what a handle belongs to. -/
def ownerId (w : World) (scope : Scope) (h : Handle) : ContextId := ⟨scope, w.keyOf h⟩

/-- The identity of the instance that a device was created from. -/
def instanceOf (w : World) (device : Handle) : Option ContextId :=
  ((w.domains (w.deviceId device)).bind (·.parent)).map .ofInstance

end World

/-! ## What calls do -/

/-- What is alive after a call that begins objects when it succeeds. -/
def given {α : Type} (outcome : Except ResultCode α) (before : Domains) (change : α → Domains) :
    Domains :=
  match outcome with
  | .error _ => before
  | .ok a => change a

/-- What is alive after an object of some kind has ended. Null is no object. -/
def World.ended (w : World) (id : ContextId) (k : Kind) (h : Handle) : Domains :=
  if h = nullHandle then w.domains else w.domains.modify id (·.remove k h)

/-- What goes with a child. -/
def Child.takeAlong (child : Child) (h : Handle) (d : Domain) : Domain :=
  match child with
  | .commandPool => d.removeChildren .commandBuffer h
  | .descriptorPool => d.removeChildren .descriptorSet h
  | .swapchain => d.removeImages h
  | _ => d

/-- What is alive after a call. -/
def Request.effect (w : World) : (r : Request) → r.shape.Outcome → Domains
  | .createInstance custom sink => fun o => given o w.domains fun h =>
    w.domains.found (w.instanceId h)
      ((Domain.barren h none (sink.getD w.fallback) []).enter .apiInstance h ⟨custom, nullHandle⟩)
  | .destroyInstance h _ => fun _ =>
    if h = nullHandle then w.domains else w.domains.loseInstance (w.keyOf h)
  | .enumeratePhysicalDevices i => fun o => given o w.domains fun hs =>
    w.domains.enterAll (w.instanceId i) .physicalDevice hs ⟨false, nullHandle⟩
  | .createDevice physicalDevice families custom => fun o => given o w.domains fun h =>
    (w.domains (w.instanceId physicalDevice)).elim w.domains fun parent =>
      (w.domains.found (w.deviceId h)
        (.barren h (some (w.keyOf physicalDevice)) parent.sink families)).modify
          (w.instanceId physicalDevice) (·.enter .device h ⟨custom, nullHandle⟩)
  | .destroyDevice h _ => fun _ =>
    if h = nullHandle then w.domains
    else (w.instanceOf h).elim w.domains fun id =>
      (w.domains.modify id (·.remove .device h)).lose (w.deviceId h)
  | .getDeviceQueue device family => fun (queue : Handle) =>
    if queue = nullHandle then w.domains
    else w.domains.modify (w.deviceId device)
      fun d => (d.enter .queue queue ⟨false, nullHandle⟩).setFamily queue family
  | .queueSubmit .. => fun _ => w.domains
  | .queueBindSparse .. => fun _ => w.domains
  | .createDeviceChild device kind _ custom => fun o => given o w.domains fun h =>
    w.domains.modify (w.deviceId device) (·.enter kind h ⟨custom, nullHandle⟩)
  | .destroyDeviceChild device h kind _ _ => fun _ => w.ended (w.deviceId device) kind h
  | .create what owner custom => fun o => given o w.domains fun h =>
    w.domains.modify (w.ownerId what.child.scope owner)
      (·.enter what.child.kind h ⟨custom, nullHandle⟩)
  | .destroy child owner h _ => fun _ =>
    if h = nullHandle then w.domains
    else w.domains.modify (w.ownerId child.scope owner)
      fun d => child.takeAlong h (d.remove child.kind h)
  | .getSwapchainImages device swapchain => fun o => given o w.domains fun hs =>
    w.domains.enterImages (w.deviceId device) hs swapchain
  | .allocateCommandBuffers device pool _ => fun o => given o w.domains fun hs =>
    w.domains.enterAll (w.deviceId device) .commandBuffer hs ⟨false, pool⟩
  | .freeCommandBuffers device _ hs => fun _ =>
    w.domains.removeAll (w.deviceId device) .commandBuffer (Layer.nonNull hs)
  | .beginCommandBuffer .. => fun _ => w.domains
  | .resetDescriptorPool device pool => fun o => given o w.domains fun _ =>
    w.domains.modify (w.deviceId device) (·.removeChildren .descriptorSet pool)
  | .allocateDescriptorSets device pool _ => fun o => given o w.domains fun hs =>
    w.domains.enterAll (w.deviceId device) .descriptorSet hs ⟨false, pool⟩
  | .freeDescriptorSets device _ hs => fun o => given o w.domains fun _ =>
    w.domains.removeAll (w.deviceId device) .descriptorSet (Layer.nonNull hs)
  | .bindImageMemory .. => fun _ => w.domains
  | .bindBufferMemory .. => fun _ => w.domains
  | .mapMemory .. => fun _ => w.domains
  | .waitForFences .. => fun _ => w.domains

/-! ## Well-behaved calls -/

namespace World

variable (w : World)

/-- The object is alive. The images that swapchains have handed out are live images. -/
def Live (id : ContextId) (k : Kind) (h : Handle) : Prop :=
  ∃ d, w.domains id = some d ∧ ((d.live k h).isSome ∨ k = .image ∧ (d.images h).isSome)

def LiveOrNull (id : ContextId) (k : Kind) (h : Handle) : Prop := h = nullHandle ∨ w.Live id k h

/-- The instance is alive and carries its own key. -/
def LiveInstance (h : Handle) : Prop :=
  (∃ d, w.domains (w.instanceId h) = some d ∧ d.handle = h) ∧
    w.Live (w.instanceId h) .apiInstance h

/-- The device is alive in its instance and carries its own key. -/
def LiveDevice (h : Handle) : Prop :=
  (∃ d, w.domains (w.deviceId h) = some d ∧ d.handle = h) ∧
    ∃ id, w.instanceOf h = some id ∧ w.Live id .device h

/-- The instance or device is alive. -/
def LiveOwner : Scope → Handle → Prop
  | .instanceLevel => w.LiveInstance
  | .deviceLevel => w.LiveDevice

/-- The handle may be given to a new object. -/
def Fresh (id : ContextId) (k : Kind) (h : Handle) : Prop :=
  h ≠ nullHandle ∧ ∀ d, w.domains id = some d → d.live k h = none

/-- Allocation callbacks are passed exactly if they were at the creation of the object. -/
def CreatedWith (id : ContextId) (k : Kind) (h : Handle) (custom : Bool) : Prop :=
  ∀ d life, w.domains id = some d → d.live k h = some life → life.custom = custom

/-- The handles that are not null name live objects that came from the pool. -/
def CameFrom (id : ContextId) (k : Kind) (pool : Handle) (hs : List Handle) : Prop :=
  ∀ h ∈ hs, h = nullHandle ∨
    ∃ d life, w.domains id = some d ∧ d.live k h = some life ∧ life.origin = pool

/-- The family of the queue supports sparse binding, if its capabilities are known. -/
def Sparse (queue : Handle) : Prop :=
  ∀ d family flags, w.domains (w.deviceId queue) = some d → d.family queue = some family →
    d.capabilities[family.toNat]? = some flags → flags &&& Ledger.sparseBit = Ledger.sparseBit

/-- The handles of a creation besides its owner are alive. -/
def Ready (owner : Handle) : Creation → Prop
  | .imageView image => w.Live (w.deviceId owner) .image image
  | .swapchain surface old =>
    (∀ id, w.instanceOf owner = some id → w.Live id .surface surface) ∧
      w.LiveOrNull (w.deviceId owner) .swapchain old
  | _ => True

/-- The handles of a batch are alive. -/
def LiveBatch (id : ContextId) (s : Submit) : Prop :=
  (∀ h ∈ s.wait.handles, w.Live id .semaphore h) ∧
    (∀ h ∈ s.commands.handles, w.Live id .commandBuffer h) ∧
      ∀ h ∈ s.signal.handles, w.Live id .semaphore h

end World

/-- A call is well behaved: it is given live objects, or null where null will do, of the owners that
it names, and gives back new ones that carry the keys of their owners. Pools and swapchains are
destroyed by calls of their own. Sinks are memory sinks. -/
def Request.Permitted (w : World) : (r : Request) → r.shape.Outcome → Prop
  | .createInstance _ sink => fun o =>
    (∃ s, sink = some s ∧ s.policy = .memory) ∧
      ∀ h, o = .ok h → h ≠ nullHandle ∧ w.domains (w.instanceId h) = none
  | .destroyInstance h custom => fun _ =>
    h = nullHandle ∨
      w.LiveInstance h ∧ w.CreatedWith (w.instanceId h) .apiInstance h custom
  | .enumeratePhysicalDevices i => fun o =>
    w.LiveInstance i ∧ ∀ hs, o = .ok hs → ∀ h ∈ hs, h ≠ nullHandle ∧ w.keyOf h = w.keyOf i
  | .createDevice physicalDevice _ _ => fun o =>
    w.Live (w.instanceId physicalDevice) .physicalDevice physicalDevice ∧
      ∀ h, o = .ok h →
        w.Fresh (w.instanceId physicalDevice) .device h ∧ w.domains (w.deviceId h) = none
  | .destroyDevice h custom => fun _ =>
    h = nullHandle ∨
      w.LiveDevice h ∧ ∀ id, w.instanceOf h = some id → w.CreatedWith id .device h custom
  | .getDeviceQueue device _ => fun (queue : Handle) =>
    w.LiveDevice device ∧ (queue ≠ nullHandle → w.keyOf queue = w.keyOf device)
  | .queueSubmit queue fence submits => fun _ =>
    w.Live (w.deviceId queue) .queue queue ∧ w.LiveOrNull (w.deviceId queue) .fence fence ∧
      ∀ s ∈ submits, w.LiveBatch (w.deviceId queue) s
  | .queueBindSparse queue fence => fun _ =>
    w.Live (w.deviceId queue) .queue queue ∧ w.LiveOrNull (w.deviceId queue) .fence fence ∧
      w.Sparse queue
  | .createDeviceChild device kind _ _ => fun o =>
    w.LiveDevice device ∧ kind ∈ Kind.deviceChildren ∧
      ∀ h, o = .ok h → w.Fresh (w.deviceId device) kind h
  | .destroyDeviceChild device h kind custom _ => fun _ =>
    w.LiveDevice device ∧
      (kind ∈ Kind.deviceChildren ∧
        kind ≠ .commandPool ∧ kind ≠ .descriptorPool ∧ kind ≠ .swapchain) ∧
        w.LiveOrNull (w.deviceId device) kind h ∧ w.CreatedWith (w.deviceId device) kind h custom
  | .create what owner _ => fun o =>
    w.LiveOwner what.child.scope owner ∧ w.Ready owner what ∧
      ∀ h, o = .ok h → w.Fresh (w.ownerId what.child.scope owner) what.child.kind h
  | .destroy child owner h custom => fun _ =>
    w.LiveOwner child.scope owner ∧ w.LiveOrNull (w.ownerId child.scope owner) child.kind h ∧
      w.CreatedWith (w.ownerId child.scope owner) child.kind h custom
  | .getSwapchainImages device swapchain => fun o =>
    w.LiveDevice device ∧ w.Live (w.deviceId device) .swapchain swapchain ∧
      ∀ hs, o = .ok hs → ∀ h ∈ hs, h ≠ nullHandle ∧
        ∀ d s, w.domains (w.deviceId device) = some d → d.images h = some s → s = swapchain
  | .allocateCommandBuffers device pool _ => fun o =>
    w.LiveDevice device ∧ w.Live (w.deviceId device) .commandPool pool ∧
      ∀ hs, o = .ok hs → ∀ h ∈ hs,
        w.Fresh (w.deviceId device) .commandBuffer h ∧ w.keyOf h = w.keyOf device
  | .freeCommandBuffers device pool hs => fun _ =>
    w.LiveDevice device ∧ w.Live (w.deviceId device) .commandPool pool ∧
      w.CameFrom (w.deviceId device) .commandBuffer pool hs
  | .beginCommandBuffer buffer inheritance => fun _ =>
    w.Live (w.deviceId buffer) .commandBuffer buffer ∧
      ∀ i, inheritance = some i →
        w.LiveOrNull (w.deviceId buffer) .framebuffer i.framebuffer ∧
          w.LiveOrNull (w.deviceId buffer) .renderPass i.renderPass
  | .resetDescriptorPool device pool => fun _ =>
    w.LiveDevice device ∧ w.Live (w.deviceId device) .descriptorPool pool
  | .allocateDescriptorSets device pool layouts => fun o =>
    w.LiveDevice device ∧ w.Live (w.deviceId device) .descriptorPool pool ∧
      (∀ h ∈ layouts, w.Live (w.deviceId device) .descriptorSetLayout h) ∧
        ∀ hs, o = .ok hs → ∀ h ∈ hs, w.Fresh (w.deviceId device) .descriptorSet h
  | .freeDescriptorSets device pool hs => fun _ =>
    w.LiveDevice device ∧ w.Live (w.deviceId device) .descriptorPool pool ∧
      w.CameFrom (w.deviceId device) .descriptorSet pool hs
  | .bindImageMemory device image memory => fun _ =>
    w.LiveDevice device ∧ w.Live (w.deviceId device) .image image ∧
      w.Live (w.deviceId device) .deviceMemory memory
  | .bindBufferMemory device buffer memory => fun _ =>
    w.LiveDevice device ∧ w.Live (w.deviceId device) .buffer buffer ∧
      w.Live (w.deviceId device) .deviceMemory memory
  | .mapMemory device memory => fun _ =>
    w.LiveDevice device ∧ w.Live (w.deviceId device) .deviceMemory memory
  | .waitForFences device fences => fun _ =>
    w.LiveDevice device ∧ ∀ h ∈ fences, w.Live (w.deviceId device) .fence h

/-! ## Runs of the world -/

namespace World

/-- A world in which nothing is alive. -/
def initial (fallback : Sink) : World := ⟨.empty, fallback, fun _ => none⟩

/-- The world after a turn. -/
def after (w : World) : Turn → World
  | .bind pairs => { w with dispatch := pairs.foldl (fun d p => d.insert p.1 p.2) w.dispatch }
  | .call c => { w with domains := c.request.effect w c.outcome }

/-- A turn is well behaved. Handles may be given dispatch keys at any time. -/
def Permits (w : World) : Turn → Prop
  | .bind _ => True
  | .call c => c.request.Permitted w c.outcome

/-- Every turn of a run is well behaved when it comes. -/
def WellBehaved : World → List Turn → Prop
  | _, [] => True
  | w, t :: ts => w.Permits t ∧ WellBehaved (w.after t) ts

end World

/-! ## Resets that are taken to succeed -/

/-- The outcome of a call on the assumption that the reset of a pool does not fail. -/
def Request.deemed : (r : Request) → r.shape.Outcome → r.shape.Outcome
  | .resetDescriptorPool .. => fun _ => .ok ()
  | _ => fun outcome => outcome

/-- The turn on the assumption that the reset of a pool does not fail. -/
def Turn.deemed : Turn → Turn
  | .bind pairs => .bind pairs
  | .call c => .call ⟨c.request, c.request.deemed c.outcome⟩

/-! ## Null is never alive, and sinks are memory sinks -/

namespace Domain

/-- Null is not alive, and reports go to a memory sink. -/
structure Sound (d : Domain) : Prop where
  null : ∀ k, d.live k nullHandle = none
  sink : d.sink.policy = .memory

namespace Sound

variable {d : Domain}

theorem barren {sink : Sink} (hs : sink.policy = .memory) (handle : Handle)
    (parent : Option DispatchKey) (capabilities : List UInt32) :
    (Domain.barren handle parent sink capabilities).Sound :=
  ⟨fun _ => rfl, hs⟩

theorem enter (hd : d.Sound) {h : Handle} (hh : h ≠ nullHandle) (k : Kind) (life : Life) :
    (d.enter k h life).Sound where
  null k' := by
    -- the object that begins is not null
    show (d.live k' nullHandle).or (if k = k' ∧ h = nullHandle then some life else none) = none
    rw [hd.null, if_neg fun hs => hh hs.2]
    rfl
  sink := hd.sink

theorem remove (hd : d.Sound) (k : Kind) (h : Handle) : (d.remove k h).Sound where
  null k' := by
    show (if k = k' ∧ h = nullHandle then none else d.live k' nullHandle) = none
    rw [hd.null, ite_self]
  sink := hd.sink

theorem removeChildren (hd : d.Sound) (k : Kind) (pool : Handle) :
    (d.removeChildren k pool).Sound where
  null k' := by
    show (if k = k' then (d.live k' nullHandle).filter _ else d.live k' nullHandle) = none
    rw [hd.null, Option.filter_none, ite_self]
  sink := hd.sink

theorem takeAlong (hd : d.Sound) (child : Child) (h : Handle) : (child.takeAlong h d).Sound := by
  unfold Child.takeAlong
  split
  · exact hd.removeChildren _ h
  · exact hd.removeChildren _ h
  · exact ⟨hd.null, hd.sink⟩
  · exact hd

end Sound

end Domain

namespace Domains

/-- Every domain is sound. -/
def Sound (D : Domains) : Prop := ∀ id d, D id = some d → d.Sound

namespace Sound

variable {D : Domains}

theorem modify (hD : D.Sound) {g : Domain → Domain} (hg : ∀ d, d.Sound → (g d).Sound)
    (id : ContextId) : (D.modify id g).Sound := by
  intro id' d hd
  rw [Domains.modify] at hd
  split at hd
  · obtain ⟨d', hd', rfl⟩ := Option.map_eq_some_iff.mp hd
    exact hg d' (hD id' d' hd')
  · exact hD id' d hd

theorem found (hD : D.Sound) {d : Domain} (hd : d.Sound) (id : ContextId) :
    (D.found id d).Sound := by
  intro id' d' hd'
  rw [Domains.found] at hd'
  split at hd'
  · cases hd'
    exact hd
  · exact hD id' d' hd'

theorem lose (hD : D.Sound) (id : ContextId) : (D.lose id).Sound := by
  intro id' d hd
  rw [Domains.lose] at hd
  split at hd
  · cases hd
  · exact hD id' d hd

theorem loseInstance (hD : D.Sound) (key : DispatchKey) : (D.loseInstance key).Sound := by
  intro id' d hd
  rw [Domains.loseInstance] at hd
  split at hd
  · cases hd
  · exact hD id' d hd

theorem enterAll (id : ContextId) (k : Kind) (life : Life) :
    ∀ {hs : List Handle}, (∀ h ∈ hs, h ≠ nullHandle) → ∀ {D : Domains}, D.Sound →
      (D.enterAll id k hs life).Sound
  | [], _, _, hD => hD
  | h :: hs, hhs, D, hD => by
    apply enterAll id k life fun o ho => hhs o (List.mem_cons_of_mem _ ho)
    exact hD.modify (fun d hd => hd.enter (hhs h (List.mem_cons_self ..)) k life) id

theorem enterImages (id : ContextId) (swapchain : Handle) :
    ∀ (hs : List Handle) {D : Domains}, D.Sound → (D.enterImages id hs swapchain).Sound
  | [], _, hD => hD
  | h :: hs, _, hD =>
    enterImages id swapchain hs
      (modify (g := Domain.enterImage h swapchain) hD (fun _ hd => ⟨hd.null, hd.sink⟩) id)

theorem removeAll (id : ContextId) (k : Kind) :
    ∀ (hs : List Handle) {D : Domains}, D.Sound → (D.removeAll id k hs).Sound
  | [], _, hD => hD
  | h :: hs, _, hD => removeAll id k hs (hD.modify (fun _ hd => hd.remove k h) id)

end Sound

end Domains

namespace World

/-- Null is never alive, and all sinks are memory sinks. -/
def Sound (w : World) : Prop := w.domains.Sound

variable {w : World}

theorem Sound.ended (hw : w.Sound) (id : ContextId) (k : Kind) (h : Handle) :
    (w.ended id k h).Sound := by
  rw [World.ended]
  split
  · exact hw
  · exact Domains.Sound.modify hw (fun _ hd => hd.remove k h) id

theorem Sound.given (hw : w.Sound) {α : Type} {outcome : Except ResultCode α}
    {change : α → Domains} (h : ∀ a, outcome = .ok a → (change a).Sound) :
    (given outcome w.domains change).Sound := by
  cases outcome with
  | error code => exact hw
  | ok a => exact h a rfl

theorem Sound.createDevice (hw : w.Sound) {physicalDevice h : Handle} {families : List UInt32}
    {custom : Bool} (hh : h ≠ nullHandle) :
    Domains.Sound (Request.effect w (.createDevice physicalDevice families custom) (.ok h)) := by
  show Domains.Sound ((w.domains (w.instanceId physicalDevice)).elim w.domains fun parent =>
    (w.domains.found (w.deviceId h)
      (.barren h (some (w.keyOf physicalDevice)) parent.sink families)).modify
        (w.instanceId physicalDevice) (·.enter .device h ⟨custom, nullHandle⟩))
  cases hparent : w.domains (w.instanceId physicalDevice) with
  | none => exact hw
  | some parent =>
    -- the device reports to the sink of its instance
    have hsink := (hw _ parent hparent).sink
    refine Domains.Sound.modify ?_ (fun d hd => hd.enter hh .device _) _
    exact Domains.Sound.found hw (Domain.Sound.barren hsink _ _ _) _

theorem Sound.getDeviceQueue (hw : w.Sound) (device queue : Handle) (family : UInt32) :
    Domains.Sound (Request.effect w (.getDeviceQueue device family) queue) := by
  show Domains.Sound (if queue = nullHandle then w.domains else _)
  split
  · exact hw
  · rename_i hq
    refine Domains.Sound.modify hw (fun d hd => ?_) _
    have hentered := hd.enter hq .queue ⟨false, nullHandle⟩
    exact ⟨hentered.null, hentered.sink⟩

theorem Sound.destroyDevice (hw : w.Sound) (h : Handle) (custom : Bool) :
    Domains.Sound (Request.effect w (.destroyDevice h custom) ()) := by
  show Domains.Sound (if h = nullHandle then w.domains
    else (w.instanceOf h).elim w.domains fun id =>
      (w.domains.modify id (·.remove .device h)).lose (w.deviceId h))
  split
  · exact hw
  · cases w.instanceOf h with
    | none => exact hw
    | some id => exact (Domains.Sound.modify hw (fun _ hd => hd.remove .device h) _).lose _

/-- Well-behaved calls keep the world sound. -/
theorem Sound.effect (hw : w.Sound) {r : Request} {outcome : r.shape.Outcome}
    (hr : r.Permitted w outcome) : Domains.Sound (r.effect w outcome) := by
  cases r with
  | createInstance custom sink =>
    -- the only sink that is new to the world is that of a new instance
    obtain ⟨⟨s, rfl, hs⟩, hfresh⟩ := hr
    refine hw.given fun h ho => Domains.Sound.found hw ?_ _
    exact (Domain.Sound.barren hs h none []).enter (hfresh h ho).1 _ _
  | destroyInstance h custom =>
    show Domains.Sound (if h = nullHandle then w.domains else _)
    split
    · exact hw
    · exact Domains.Sound.loseInstance hw _
  | enumeratePhysicalDevices i =>
    refine hw.given fun hs ho => Domains.Sound.enterAll _ _ _ ?_ hw
    exact fun h hh => (hr.2 hs ho h hh).1
  | createDevice physicalDevice families custom =>
    cases outcome with
    | error code => exact hw
    | ok h => exact hw.createDevice (hr.2 h rfl).1.1
  | destroyDevice h custom => exact hw.destroyDevice h custom
  | getDeviceQueue device family => exact hw.getDeviceQueue device outcome family
  | queueSubmit => exact hw
  | queueBindSparse => exact hw
  | createDeviceChild device kind code custom =>
    refine hw.given fun h ho => Domains.Sound.modify hw (fun d hd => ?_) _
    exact hd.enter (hr.2.2 h ho).1 _ _
  | destroyDeviceChild device h kind custom codes => exact hw.ended _ _ _
  | create what owner custom =>
    refine hw.given fun h ho => Domains.Sound.modify hw (fun d hd => ?_) _
    exact hd.enter (hr.2.2 h ho).1 _ _
  | destroy child owner h custom =>
    show Domains.Sound (if h = nullHandle then w.domains else _)
    split
    · exact hw
    · exact Domains.Sound.modify hw (fun d hd => (hd.remove _ h).takeAlong child h) _
  | getSwapchainImages => exact hw.given fun hs _ => Domains.Sound.enterImages _ _ hs hw
  | allocateCommandBuffers =>
    refine hw.given fun hs ho => Domains.Sound.enterAll _ _ _ ?_ hw
    exact fun h hh => (hr.2.2 hs ho h hh).1.1
  | freeCommandBuffers => exact Domains.Sound.removeAll _ _ _ hw
  | beginCommandBuffer => exact hw
  | resetDescriptorPool device pool =>
    exact hw.given fun _ _ => Domains.Sound.modify hw (fun d hd => hd.removeChildren _ _) _
  | allocateDescriptorSets =>
    refine hw.given fun hs ho => Domains.Sound.enterAll _ _ _ ?_ hw
    exact fun h hh => (hr.2.2.2 hs ho h hh).1
  | freeDescriptorSets => exact hw.given fun _ _ => Domains.Sound.removeAll _ _ _ hw
  | bindImageMemory => exact hw
  | bindBufferMemory => exact hw
  | mapMemory => exact hw
  | waitForFences => exact hw

theorem Sound.after (hw : w.Sound) {t : Turn} (ht : w.Permits t) : (w.after t).Sound := by
  cases t with
  | bind pairs => exact hw
  | call c => exact hw.effect ht

end World

end HandleLedger
