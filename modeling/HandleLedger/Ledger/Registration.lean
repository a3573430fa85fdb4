import HandleLedger.Action

/-!
# Registration

Every object that comes into being is entered with the next creation index and reported. An object
that is entered already stays as it is: nothing is reported and no index is used.
-/

set_option autoImplicit false

namespace HandleLedger.Ledger

/-- Enter an object in a context. -/
def register (id : ContextId) (k : Kind) (h : Handle) (status : Status) (parent : Handle) :
    Action Unit :=
  Action.within id () fun c l =>
    if c.registry.contains k h then ⟨(), l, []⟩
    else
      let e : Record := ⟨k, h, status, parent, l.nextIndex⟩
      let l := l.modifyRegistry id (·.insert e)
      ⟨(), { l with nextIndex := l.nextIndex + 1 }, [.report c.sink (.created e)]⟩

/-- Enter an object that was created with or without allocation callbacks. -/
def registerObject (id : ContextId) (k : Kind) (h : Handle) (custom : Bool) : Action Unit :=
  register id k h (.ofAllocator custom) nullHandle

/-- Enter a command buffer of a pool. -/
def registerCommandBuffer (device : DispatchKey) (pool buffer : Handle) (level : Int32) :
    Action Unit :=
  register (.ofDevice device) .commandBuffer buffer (.ofLevel level) pool

/-- Enter a descriptor set of a pool. -/
def registerDescriptorSet (device : DispatchKey) (pool set : Handle) : Action Unit :=
  register (.ofDevice device) .descriptorSet set .none pool

/-- Enter a queue. A queue may be retrieved any number of times. -/
def registerQueue (device : DispatchKey) (queue : Handle) : Action Unit :=
  register (.ofDevice device) .queue queue .none nullHandle

/-- Enter an image that a swapchain has handed out. Such images stand apart from the objects. -/
def registerImage (device : DispatchKey) (image swapchain : Handle) : Action Unit :=
  let id := ContextId.ofDevice device
  Action.within id () fun c l =>
    if c.registry.images.contains image then ⟨(), l, []⟩
    else
      let e : Record := ⟨.image, image, .none, swapchain, l.nextIndex⟩
      let l := l.modifyRegistry id (·.insertImage e)
      ⟨(), { l with nextIndex := l.nextIndex + 1 }, [.report c.sink (.imageCreated e)]⟩

/-- Note the family that a queue was retrieved from. -/
def noteQueueFamily (device : DispatchKey) (family : UInt32) (queue : Handle) : Action Unit :=
  Action.onRegistry (.ofDevice device) (·.setQueueFamily queue family)

/-- Note the capabilities of the queue families of a device. -/
def noteFamilyFlags (device : DispatchKey) (flags : List UInt32) : Action Unit :=
  Action.onRegistry (.ofDevice device) (·.setFamilyFlags flags)

end HandleLedger.Ledger
