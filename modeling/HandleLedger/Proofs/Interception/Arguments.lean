import HandleLedger.Proofs.Lifetime.Clearance
import HandleLedger.Proofs.Lifetime.Lineage

/-!
# What a call that runs was given

`Layer.given` lists the handles that a request is given, each with the place where it has to be
known. It is read off the meaning of the requests and not off their checks. A call that runs under
strict sinks was given handles that are known, or null where null will do (`Layer.Vouches`), but for
one kind of handle: seven requests do not have their device checked, or do not heed the check
(`Request.uncheckedDevice?`). They run whatever handle stands for the device
(`Layer.vouches_of_runs`).
-/

set_option autoImplicit false

namespace HandleLedger

/-! ## Handles and where they have to be known -/

/-- Where a handle has to be known. -/
inductive Home
  /-- On the books of an instance or device. -/
  | books (id : ContextId)
  /-- On the books of the instance that a device was created from. -/
  | root (device : DispatchKey)

/-- A handle that a request is given. -/
structure Given where
  home : Home
  kind : Kind
  handle : Handle
  /-- Whether null will do. -/
  nullable : Bool
  /-- Whether an object that another device knows will do, as there is no rule against it. -/
  shared : Bool

namespace Given

variable (id : ContextId) (k : Kind) (h : Handle)

/-- An object of the instance or device that is addressed. -/
def own : Given := ⟨.books id, k, h, false, false⟩

/-- An object of the instance or device that is addressed, or null. -/
def ownOrNull : Given := ⟨.books id, k, h, true, false⟩

/-- An object under no rule about other devices. -/
def free : Given := ⟨.books id, k, h, false, true⟩

end Given

/-- The handles of a batch. -/
def Submit.given (id : ContextId) (s : Submit) : List Given :=
  s.wait.handles.map (.own id .semaphore) ++ s.commands.handles.map (.own id .commandBuffer) ++
    s.signal.handles.map (.own id .semaphore)

namespace Layer

variable (l : Layer)

/-- What a command buffer inherits, if it is on the books as a secondary one. -/
def givenInheritance (buffer : Handle) (inheritance : Option Inheritance) : List Given :=
  let id := l.deviceId buffer
  match l.ledger.status? id .commandBuffer buffer, inheritance with
  | some status, some i =>
    if status.contains .secondaryCommandBuffer then
      [.ownOrNull id .framebuffer i.framebuffer, .ownOrNull id .renderPass i.renderPass]
    else []
  | _, _ => []

/-- The handles of a creation besides its owner. -/
def givenCreation (owner : Handle) : Creation → List Given
  | .imageView image => [.own (l.deviceId owner) .image image]
  | .swapchain surface old =>
    [⟨.root (l.keyOf owner), .surface, surface, false, true⟩,
      .ownOrNull (l.deviceId owner) .swapchain old]
  | _ => []

/-- The handles that a request is given. -/
def given : Request → List Given
  | .createInstance .. => []
  | .destroyInstance h _ => [⟨.books (l.instanceId h), .apiInstance, h, true, true⟩]
  | .enumeratePhysicalDevices i => [.free (l.instanceId i) .apiInstance i]
  | .createDevice physicalDevice .. =>
    [.free (l.instanceId physicalDevice) .physicalDevice physicalDevice]
  | .destroyDevice h _ => [⟨.books (l.deviceId h), .device, h, true, true⟩]
  | .getDeviceQueue device _ => [.free (l.deviceId device) .device device]
  | .queueSubmit queue fence submits =>
    [.own (l.deviceId queue) .queue queue, .ownOrNull (l.deviceId queue) .fence fence] ++
      submits.flatMap (·.given (l.deviceId queue))
  | .queueBindSparse queue fence =>
    [.own (l.deviceId queue) .queue queue, .ownOrNull (l.deviceId queue) .fence fence]
  | .createDeviceChild device .. => [.free (l.deviceId device) .device device]
  | .destroyDeviceChild device h kind _ codes =>
    [.free (l.deviceId device) .device device,
      ⟨.books (l.deviceId device), kind, h, true, codes.parent.isNone || kind == .surface⟩]
  | .create what owner _ =>
    .free (l.ownerId what.child.scope owner) what.child.scope.ownerKind owner ::
      l.givenCreation owner what
  | .destroy child owner h _ =>
    [.free (l.ownerId child.scope owner) child.scope.ownerKind owner,
      ⟨.books (l.ownerId child.scope owner), child.kind, h, true, child.destroyCodes.parent.isNone⟩]
  | .getSwapchainImages device swapchain =>
    [.free (l.deviceId device) .device device, .own (l.deviceId device) .swapchain swapchain]
  | .allocateCommandBuffers device pool _ =>
    [.free (l.deviceId device) .device device, .own (l.deviceId device) .commandPool pool]
  | .freeCommandBuffers device pool hs =>
    [.free (l.deviceId device) .device device, .own (l.deviceId device) .commandPool pool] ++
      hs.map (.ownOrNull (l.deviceId device) .commandBuffer)
  | .beginCommandBuffer buffer inheritance =>
    .free (l.deviceId buffer) .commandBuffer buffer :: l.givenInheritance buffer inheritance
  | .resetDescriptorPool device pool =>
    [.free (l.deviceId device) .device device, .own (l.deviceId device) .descriptorPool pool]
  | .allocateDescriptorSets device pool layouts =>
    [.free (l.deviceId device) .device device, .own (l.deviceId device) .descriptorPool pool] ++
      layouts.map (.own (l.deviceId device) .descriptorSetLayout)
  | .freeDescriptorSets device pool hs =>
    [.free (l.deviceId device) .device device, .own (l.deviceId device) .descriptorPool pool] ++
      hs.map (.ownOrNull (l.deviceId device) .descriptorSet)
  | .bindImageMemory device image memory =>
    [.free (l.deviceId device) .device device, .own (l.deviceId device) .image image,
      .own (l.deviceId device) .deviceMemory memory]
  | .bindBufferMemory device buffer memory =>
    [.free (l.deviceId device) .device device, .own (l.deviceId device) .buffer buffer,
      .own (l.deviceId device) .deviceMemory memory]
  | .mapMemory device memory =>
    [.free (l.deviceId device) .device device, .own (l.deviceId device) .deviceMemory memory]
  | .waitForFences device fences =>
    .free (l.deviceId device) .device device :: fences.map (.own (l.deviceId device) .fence)

/-- The instance or device that a request addresses. The creation of an instance addresses none. -/
def addressed : Request → Option ContextId
  | .createInstance .. => none
  | .destroyInstance h _ => l.instanceId h
  | .enumeratePhysicalDevices i => l.instanceId i
  | .createDevice physicalDevice .. => l.instanceId physicalDevice
  | .destroyDevice h _ => l.deviceId h
  | .getDeviceQueue device _ => l.deviceId device
  | .queueSubmit queue .. => l.deviceId queue
  | .queueBindSparse queue _ => l.deviceId queue
  | .createDeviceChild device .. => l.deviceId device
  | .destroyDeviceChild device .. => l.deviceId device
  | .create what owner _ => l.ownerId what.child.scope owner
  | .destroy child owner .. => l.ownerId child.scope owner
  | .getSwapchainImages device _ => l.deviceId device
  | .allocateCommandBuffers device .. => l.deviceId device
  | .freeCommandBuffers device .. => l.deviceId device
  | .beginCommandBuffer buffer _ => l.deviceId buffer
  | .resetDescriptorPool device _ => l.deviceId device
  | .allocateDescriptorSets device .. => l.deviceId device
  | .freeDescriptorSets device .. => l.deviceId device
  | .bindImageMemory device .. => l.deviceId device
  | .bindBufferMemory device .. => l.deviceId device
  | .mapMemory device _ => l.deviceId device
  | .waitForFences device _ => l.deviceId device

/-- The identity of the books in which a handle has to be known. -/
def homeId? : Home → Option ContextId
  | .books id => id
  | .root device => (l.ledger.instanceOf device).map .ofInstance

/-- The handle is known. A device is on the books of some instance. Anything else is on the books
where it has to be, or another device knows it and that will do. -/
def Knows (g : Given) : Prop :=
  if g.kind = .device then l.ledger.knowsDevice g.handle = true
  else ∃ id, l.homeId? g.home = some id ∧
    (l.ledger.tracks id g.kind g.handle = true ∨
      g.shared = true ∧ l.ledger.knownElsewhere id g.kind g.handle = true)

/-- The handle is known, or null where null will do. -/
def Vouches (g : Given) : Prop := (g.nullable = true ∧ g.handle = nullHandle) ∨ l.Knows g

end Layer

namespace Request

/-- The device of a request that runs whatever is found about its device. -/
def uncheckedDevice? : Request → Option Handle
  | .getDeviceQueue device _ => device
  | .getSwapchainImages device _ => device
  | .freeCommandBuffers device .. => device
  | .freeDescriptorSets device .. => device
  | .bindBufferMemory device .. => device
  | .mapMemory device _ => device
  | .waitForFences device _ => device
  | _ => none

/-- The request with another handle for such a device. -/
def onDevice (other : Handle) : Request → Request
  | .getDeviceQueue _ family => .getDeviceQueue other family
  | .getSwapchainImages _ swapchain => .getSwapchainImages other swapchain
  | .freeCommandBuffers _ pool hs => .freeCommandBuffers other pool hs
  | .freeDescriptorSets _ pool hs => .freeDescriptorSets other pool hs
  | .bindBufferMemory _ buffer memory => .bindBufferMemory other buffer memory
  | .mapMemory _ memory => .mapMemory other memory
  | .waitForFences _ fences => .waitForFences other fences
  | r => r

end Request

/-! ## What a passed check vouches for -/

/-- What an argument asks to be known. -/
def Argument.given (home : Home) (a : Argument) : Given :=
  ⟨home, a.kind, a.handle, a.nullAllowed, a.wrongDevice.isNone || a.kind == .surface⟩

namespace Layer

variable {l : Layer} {id : ContextId} {c : Context}

theorem knows_iff_of_ne_device {g : Given} (hdevice : g.kind ≠ .device) :
    l.Knows g ↔ ∃ id, l.homeId? g.home = some id ∧
      (l.ledger.tracks id g.kind g.handle = true ∨
        g.shared = true ∧ l.ledger.knownElsewhere id g.kind g.handle = true) := by
  rw [Knows, if_neg hdevice]

/-- A handle that the addressed instance or device tracks is known there. -/
theorem vouches_of_tracks (hc : l.ledger.context? id = some c) {g : Given}
    (hhome : l.homeId? g.home = some id) (hdevice : g.kind ≠ .device)
    (htracks : c.registry.tracks g.kind g.handle = true) : l.Vouches g := by
  refine .inr ((knows_iff_of_ne_device hdevice).mpr ⟨id, hhome, .inl ?_⟩)
  rw [Ledger.tracks, hc]
  exact htracks

theorem vouches_of_checkArgument (hc : l.ledger.context? id = some c) (hs : c.sink.Strict)
    {home : Home} (hhome : l.homeId? home = some id) {a : Argument}
    (hpass : (l.ledger.checkArgument id a).skip = false) : l.Vouches (a.given home) := by
  by_cases hdevice : a.kind = .device
  · rcases Ledger.knowsDevice_of_checkArgument hpass hc hs hdevice with hnull | hknown
    · exact .inl hnull
    · refine .inr ?_
      rw [Knows, if_pos (show (a.given home).kind = .device from hdevice)]
      exact hknown
  · rcases Ledger.known_of_checkArgument hpass hc hs hdevice with hnull | htracks | ⟨hrule, helse⟩
    · exact .inl hnull
    · exact vouches_of_tracks hc hhome hdevice htracks
    · refine .inr ((knows_iff_of_ne_device hdevice).mpr ⟨id, hhome, .inr ⟨?_, helse⟩⟩)
      show (a.wrongDevice.isNone || a.kind == .surface) = true
      rw [Bool.or_eq_true, Option.isNone_iff_eq_none, beq_iff_eq]
      exact hrule

theorem vouches_of_checkArguments (hc : l.ledger.context? id = some c) (hs : c.sink.Strict)
    {as : List Argument} (hpass : (l.ledger.checkArguments id as).skip = false) :
    ∀ g ∈ as.map (Argument.given (.books id)), l.Vouches g := by
  refine List.forall_mem_map.mpr fun a ha => ?_
  exact vouches_of_checkArgument hc hs rfl (Ledger.skip_of_mem_checkArguments hpass ha)

/-- What is freed to a pool is on the books, null apart. -/
theorem vouches_of_checkPoolChildren {device : DispatchKey} {k : Kind}
    {pool : Handle} {handles : List Handle} {invalid foreign : Code}
    (hc : l.ledger.context? (.ofDevice device) = some c) (hs : c.sink.Strict)
    (hdevice : k ≠ .device)
    (hpass : (Check.all ((nonNull handles).map fun h =>
      l.ledger.checkPoolChild device k pool h invalid foreign)).skip = false) :
    ∀ g ∈ handles.map (Given.ownOrNull (.ofDevice device) k), l.Vouches g := by
  refine List.forall_mem_map.mpr fun h hmem => ?_
  by_cases hnull : h = nullHandle
  · exact .inl ⟨rfl, hnull⟩
  · -- null handles are not looked at, all others are
    have hchild : (l.ledger.checkPoolChild device k pool h invalid foreign).skip = false := by
      rw [Check.skip_all, List.any_eq_false] at hpass
      have hnonNull : h ∈ nonNull handles := List.mem_filter.mpr ⟨hmem, bne_iff_ne.mpr hnull⟩
      exact Bool.eq_false_iff.mpr (hpass _ (List.mem_map_of_mem hnonNull))
    obtain ⟨e, he⟩ := Ledger.found_of_checkPoolChild hchild hc hs
    refine vouches_of_tracks hc rfl hdevice ?_
    exact (Registry.tracks_iff c.registry k h).mpr (.inl (Option.isSome_of_eq_some he))

/-! ## The requests -/

theorem vouches_of_destroyInstance {h : Handle} {custom : Bool}
    (hc : l.ledger.context? (l.instanceId h) = some c) (hs : c.sink.Strict)
    (hpass : (l.destroyInstance h custom).check.skip = false) :
    ∀ g ∈ l.given (.destroyInstance h custom), l.Vouches g := by
  refine List.forall_mem_singleton.mpr ?_
  rw [destroyInstance] at hpass
  split at hpass
  · rename_i hnull
    exact .inl ⟨rfl, hnull⟩
  · exact vouches_of_checkArgument hc hs rfl (Check.skip_append_eq_false.mp hpass).1

/-- A device that no instance claims would not be looked at. -/
theorem vouches_of_destroyDevice {h : Handle} {custom : Bool} {instanceKey : DispatchKey}
    (hc : l.ledger.context? (l.deviceId h) = some c) (hs : c.sink.Strict)
    (hroot : l.ledger.instanceOf (l.keyOf h) = some instanceKey)
    (hpass : (l.destroyDevice h custom).check.skip = false) :
    ∀ g ∈ l.given (.destroyDevice h custom), l.Vouches g := by
  refine List.forall_mem_singleton.mpr ?_
  simp only [destroyDevice, hroot] at hpass
  split at hpass
  · rename_i hnull
    exact .inl ⟨rfl, hnull⟩
  · exact vouches_of_checkArgument hc hs rfl (Check.skip_append_eq_false.mp hpass).1

theorem vouches_of_destroyFrom {scope : Scope} {owner h : Handle} {k : Kind} {custom : Bool}
    {codes : DestroyCodes} (hc : l.ledger.context? (l.ownerId scope owner) = some c)
    (hs : c.sink.Strict) (hpass : (l.destroyFrom scope owner h k custom codes).check.skip = false) :
    ∀ g ∈ [Given.free (l.ownerId scope owner) scope.ownerKind owner,
      ⟨.books (l.ownerId scope owner), k, h, true, codes.parent.isNone || k == .surface⟩],
      l.Vouches g :=
  vouches_of_checkArguments hc hs (Check.skip_append_eq_false.mp hpass).1

/-- A surface may be destroyed under no rule about other devices anyway. -/
theorem shared_surface (child : Child) :
    (child.destroyCodes.parent.isNone || child.kind == .surface) =
      child.destroyCodes.parent.isNone := by
  cases child <;> rfl

/-- The surface of a swapchain is looked up on the books of the instance. -/
theorem vouches_of_creationCheck {owner : Handle} {what : Creation}
    (hc : l.ledger.context? (l.ownerId what.child.scope owner) = some c) (hs : c.sink.Strict)
    (hroot : ∀ key c, l.ledger.context? (.ofDevice key) = some c → ∃ instanceKey root,
      l.ledger.instanceOf key = some instanceKey ∧
        l.ledger.context? (.ofInstance instanceKey) = some root ∧ root.sink.Strict)
    (hpass : (l.creationCheck owner what).skip = false) :
    ∀ g ∈ l.givenCreation owner what, l.Vouches g := by
  cases what with
  | imageView image =>
    exact List.forall_mem_singleton.mpr (vouches_of_checkArgument hc hs rfl hpass)
  | swapchain surface old =>
    obtain ⟨instanceKey, root, hkey, hc', hs'⟩ := hroot _ c hc
    obtain ⟨hsurface, hold⟩ := Check.skip_append_eq_false.mp hpass
    rw [hkey] at hsurface
    have hhome : l.homeId? (.root (l.keyOf owner)) = some (.ofInstance instanceKey) :=
      congrArg (Option.map ContextId.ofInstance) hkey
    refine List.forall_mem_cons.mpr ⟨vouches_of_checkArgument hc' hs' hhome hsurface, ?_⟩
    exact List.forall_mem_singleton.mpr (vouches_of_checkArgument hc hs rfl hold)
  | _ => exact fun g hg => absurd hg List.not_mem_nil

/-- The owner of a creation is looked at if its further handles are in order. -/
theorem skip_of_create {what : Creation} {owner : Handle} {custom : Bool}
    (hpass : (l.create what owner custom).check.skip = false) :
    (l.creationCheck owner what).skip = false ∧
      (l.createFrom what.child.scope owner what.child.kind what.child.creationCode
        custom).check.skip = false := by
  rw [create, Check.andThen] at hpass
  split at hpass
  · rename_i hskip
    rw [hskip] at hpass
    cases hpass
  · exact Check.skip_append_eq_false.mp hpass

/-- What a secondary command buffer inherits is looked at. -/
theorem vouches_of_beginCommandBuffer {buffer : Handle} {inheritance : Option Inheritance}
    (hc : l.ledger.context? (l.deviceId buffer) = some c) (hs : c.sink.Strict)
    (hpass : (l.beginCommandBuffer buffer inheritance).check.skip = false) :
    ∀ g ∈ l.given (.beginCommandBuffer buffer inheritance), l.Vouches g := by
  have hvouches := vouches_of_checkArguments hc hs hpass
  rw [List.map_cons, List.forall_mem_cons] at hvouches
  obtain ⟨hbuffer, hinherited⟩ := hvouches
  refine List.forall_mem_cons.mpr ⟨hbuffer, ?_⟩
  simp only [givenInheritance]
  split
  · rename_i status i hstatus
    split
    · rename_i hsecondary
      rw [hstatus, Option.any_some, hsecondary] at hinherited
      exact hinherited
    · exact fun g hg => absurd hg List.not_mem_nil
  · exact fun g hg => absurd hg List.not_mem_nil

end Layer

theorem Submit.map_arguments (id : ContextId) (s : Submit) :
    s.arguments.map (Argument.given (.books id)) = s.given id := by
  rw [arguments, List.map_append, List.map_append, List.map_map, List.map_map, List.map_map]
  rfl

namespace Layer

variable {l : Layer} {id : ContextId} {c : Context}

theorem vouches_of_queueSubmit {queue fence : Handle} {submits : List Submit}
    (hc : l.ledger.context? (l.deviceId queue) = some c) (hs : c.sink.Strict)
    (hpass : (l.queueSubmit queue fence submits).check.skip = false) :
    ∀ g ∈ l.given (.queueSubmit queue fence submits), l.Vouches g := by
  have hvouches := vouches_of_checkArguments hc hs hpass
  rw [List.map_append, List.map_flatMap] at hvouches
  simp only [Submit.map_arguments] at hvouches
  exact hvouches

/-- A call that its check lets through was given known handles, but for the device of a call that
does not have it checked. -/
theorem vouches_of_passage {r : Request} (haddr : l.addressed r = some id)
    (hc : l.ledger.context? id = some c)
    (hstrict : ∀ id c, l.ledger.context? id = some c → c.sink.Strict)
    (hroot : ∀ key c, l.ledger.context? (.ofDevice key) = some c → ∃ instanceKey root,
      l.ledger.instanceOf key = some instanceKey ∧
        l.ledger.context? (.ofInstance instanceKey) = some root)
    (hpass : (r.passage l).check.skip = false) :
    ∀ g ∈ l.given r,
      l.Vouches g ∨ g.kind = .device ∧ r.uncheckedDevice? = some g.handle := by
  have hs := hstrict id c hc
  have hchecked : (∀ g ∈ l.given r, l.Vouches g) → ∀ g ∈ l.given r,
      l.Vouches g ∨ g.kind = .device ∧ r.uncheckedDevice? = some g.handle :=
    fun h g hg => .inl (h g hg)
  -- the first handle is the unchecked device, the others are looked at
  have hunchecked : ∀ {device : Handle} {gs : List Given}, r.uncheckedDevice? = some device →
      (∀ g ∈ gs, l.Vouches g) → ∀ g ∈ Given.free id .device device :: gs,
        l.Vouches g ∨ g.kind = .device ∧ r.uncheckedDevice? = some g.handle := by
    intro device gs hdevice hgs
    exact List.forall_mem_cons.mpr ⟨.inr ⟨rfl, hdevice⟩, fun g hg => .inl (hgs g hg)⟩
  cases r with
  | createInstance => cases haddr
  | destroyInstance h custom =>
    cases haddr
    exact hchecked (vouches_of_destroyInstance hc hs hpass)
  | enumeratePhysicalDevices i =>
    cases haddr
    exact hchecked (List.forall_mem_singleton.mpr (vouches_of_checkArgument hc hs rfl hpass))
  | createDevice physicalDevice families custom =>
    cases haddr
    exact hchecked (List.forall_mem_singleton.mpr (vouches_of_checkArgument hc hs rfl hpass))
  | destroyDevice h custom =>
    cases haddr
    obtain ⟨instanceKey, -, hkey, -⟩ := hroot _ c hc
    exact hchecked (vouches_of_destroyDevice hc hs hkey hpass)
  | getDeviceQueue device family =>
    cases haddr
    exact hunchecked rfl fun g hg => absurd hg List.not_mem_nil
  | queueSubmit queue fence submits =>
    cases haddr
    exact hchecked (vouches_of_queueSubmit hc hs hpass)
  | queueBindSparse queue fence =>
    cases haddr
    have harguments := (Check.skip_append_eq_false.mp hpass).1
    exact hchecked (vouches_of_checkArguments hc hs harguments)
  | createDeviceChild device kind code custom =>
    cases haddr
    exact hchecked (List.forall_mem_singleton.mpr (vouches_of_checkArgument hc hs rfl hpass))
  | destroyDeviceChild device h kind custom codes =>
    cases haddr
    exact hchecked (vouches_of_destroyFrom hc hs hpass)
  | create what owner custom =>
    cases haddr
    obtain ⟨hcreation, howner⟩ := skip_of_create hpass
    refine hchecked (List.forall_mem_cons.mpr ⟨vouches_of_checkArgument hc hs rfl howner, ?_⟩)
    refine vouches_of_creationCheck hc hs (fun key c hc => ?_) hcreation
    obtain ⟨instanceKey, root, hkey, hroot⟩ := hroot key c hc
    exact ⟨instanceKey, root, hkey, hroot, hstrict _ root hroot⟩
  | destroy child owner h custom =>
    cases haddr
    have hvouches := vouches_of_destroyFrom hc hs hpass
    rw [shared_surface] at hvouches
    exact hchecked hvouches
  | getSwapchainImages device swapchain =>
    cases haddr
    refine hunchecked rfl (List.forall_mem_singleton.mpr ?_)
    exact vouches_of_checkArgument hc hs rfl hpass
  | allocateCommandBuffers device pool level =>
    cases haddr
    exact hchecked (vouches_of_checkArguments hc hs hpass)
  | freeCommandBuffers device pool handles =>
    cases haddr
    obtain ⟨hpool, hbuffers⟩ := Check.skip_append_eq_false.mp hpass
    refine hunchecked rfl (List.forall_mem_cons.mpr ⟨?_, ?_⟩)
    · exact vouches_of_checkArgument hc hs rfl hpool
    · exact vouches_of_checkPoolChildren hc hs (by decide) hbuffers
  | beginCommandBuffer buffer inheritance =>
    cases haddr
    exact hchecked (vouches_of_beginCommandBuffer hc hs hpass)
  | resetDescriptorPool device pool =>
    cases haddr
    exact hchecked (vouches_of_checkArguments hc hs hpass)
  | allocateDescriptorSets device pool layouts =>
    cases haddr
    have hvouches := vouches_of_checkArguments hc hs hpass
    rw [List.map_append, List.map_map] at hvouches
    exact hchecked hvouches
  | freeDescriptorSets device pool handles =>
    cases haddr
    obtain ⟨hpool, hsets⟩ := Check.skip_append_eq_false.mp hpass
    refine hunchecked rfl (List.forall_mem_cons.mpr ⟨?_, ?_⟩)
    · exact vouches_of_checkArgument hc hs rfl hpool
    · exact vouches_of_checkPoolChildren hc hs (by decide) hsets
  | bindImageMemory device image memory =>
    cases haddr
    exact hchecked (vouches_of_checkArguments hc hs hpass)
  | bindBufferMemory device buffer memory =>
    cases haddr
    exact hunchecked rfl (vouches_of_checkArguments hc hs hpass)
  | mapMemory device memory =>
    cases haddr
    refine hunchecked rfl (List.forall_mem_singleton.mpr ?_)
    exact vouches_of_checkArgument hc hs rfl hpass
  | waitForFences device fences =>
    cases haddr
    have hvouches := vouches_of_checkArguments hc hs hpass
    rw [List.map_map] at hvouches
    exact hunchecked rfl hvouches

/-- What stands for an unchecked device makes no difference, as long as the same device is
addressed. -/
theorem skip_onDevice {r : Request} {device other : Handle}
    (hdevice : r.uncheckedDevice? = some device) (hkey : l.keyOf other = l.keyOf device) :
    ((r.onDevice other).passage l).check.skip = (r.passage l).check.skip := by
  have hid : l.deviceId other = l.deviceId device := congrArg ContextId.ofDevice hkey
  cases r with
  | getDeviceQueue => exact (Check.skip_advisory _).trans (Check.skip_advisory _).symm
  | getSwapchainImages | freeCommandBuffers | freeDescriptorSets | bindBufferMemory | mapMemory
  | waitForFences =>
    -- only the dispatch key of the device is looked at
    cases hdevice
    simp only [Request.onDevice, Request.passage, getSwapchainImages, Layer.freeCommandBuffers,
      Layer.freeDescriptorSets, Layer.bindBufferMemory, Layer.mapMemory, Layer.waitForFences, hid,
      hkey]
  | _ => cases hdevice

/-- The device of a request that does not have it checked can be any handle. -/
theorem runs_onDevice {r : Request} {device other : Handle} {outcome : r.shape.Outcome}
    (hruns : l.Runs ⟨r, outcome⟩) (hdevice : r.uncheckedDevice? = some device)
    (hkey : l.keyOf other = l.keyOf device) (outcome' : (r.onDevice other).shape.Outcome) :
    l.Runs ⟨r.onDevice other, outcome'⟩ := by
  rw [runs_iff] at hruns ⊢
  exact (skip_onDevice hdevice hkey).trans hruns

/-- If every instance is created with a strict sink, a call that runs was given handles that were
known when it was entered, or null where null will do. The device of a request that does not have
it checked is the exception: with any other handle in its place, the call runs just the same. -/
theorem vouches_of_runs (config : Config) (ts : List Turn)
    (hts : ∀ t ∈ ts, t.Strict (ofConfig config).defaultSink) (c : Call) (id : ContextId)
    (haddr : ((ofConfig config).play ts).addressed c.request = some id)
    (hknown : (((ofConfig config).play ts).ledger.context? id).isSome)
    (hruns : ((ofConfig config).play ts).Runs c) :
    (∀ g ∈ ((ofConfig config).play ts).given c.request,
      ((ofConfig config).play ts).Vouches g ∨
        g.kind = .device ∧ c.request.uncheckedDevice? = some g.handle) ∧
    ∀ device, c.request.uncheckedDevice? = some device → ∀ other,
      ((ofConfig config).play ts).keyOf other = ((ofConfig config).play ts).keyOf device →
        ∀ outcome, ((ofConfig config).play ts).Runs ⟨c.request.onDevice other, outcome⟩ := by
  constructor
  · obtain ⟨context, hcontext⟩ := Option.isSome_iff_exists.mp hknown
    refine vouches_of_passage haddr hcontext (fun _ _ h => strict_play config hts h) ?_
      ((runs_iff _ c).mp hruns)
    exact fun key _ h => rooted_play config ts h
  · exact fun device hdevice other hkey => runs_onDevice hruns hdevice hkey

/-- Memory is allocated from a device, which is known as 3. Another handle has its dispatch key. -/
def allocatedMemory : List Turn :=
  [.bind [(1, 10), (2, 10), (3, 20), (4, 20)],
    .call ⟨.createInstance false (some ⟨some 0, .memory⟩), .ok 1⟩,
    .call ⟨.enumeratePhysicalDevices 1, .ok [2]⟩,
    .call ⟨.createDevice 2 [] false, .ok 3⟩,
    .call ⟨.create .memory 3 false, .ok 5⟩]

/-- Memory that is known is mapped for a device that is not. -/
theorem mapped_for_unknown_device :
    ((ofConfig ⟨.default⟩).play allocatedMemory).Vouches (.own (.ofDevice 20) .deviceMemory 5) ∧
      ((ofConfig ⟨.default⟩).play allocatedMemory).ledger.knowsDevice 4 = false ∧
      ((ofConfig ⟨.default⟩).play allocatedMemory).Runs ⟨.mapMemory 4 5, .ok 6⟩ := by
  have hstrict := Turn.strict_of_toMemory (show allocatedMemory.all Turn.toMemory = true from rfl)
    (ofConfig ⟨.default⟩).defaultSink
  have hruns : ((ofConfig ⟨.default⟩).play allocatedMemory).Runs ⟨.mapMemory 3 5, .ok 6⟩ := by
    decide +kernel
  obtain ⟨hgiven, hother⟩ := vouches_of_runs ⟨.default⟩ allocatedMemory hstrict
    ⟨.mapMemory 3 5, .ok 6⟩ (.ofDevice 20) (by decide +kernel) (by decide +kernel) hruns
  refine ⟨?_, by decide +kernel, hother 3 rfl 4 (by decide +kernel) (.ok 6)⟩
  have hkey : ((ofConfig ⟨.default⟩).play allocatedMemory).deviceId 3 = .ofDevice 20 := by
    decide +kernel
  rcases hgiven (.own _ .deviceMemory 5) (List.mem_cons_of_mem _ (List.mem_singleton_self _)) with
    hvouches | ⟨hdevice, -⟩
  · exact hkey ▸ hvouches
  · cases hdevice

end Layer

end HandleLedger
