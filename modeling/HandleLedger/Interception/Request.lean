import HandleLedger.Interception.Destruction
import HandleLedger.Interception.Use

/-!
# Requests

The intercepted calls as data. A request is a call with its arguments; what the real call would
come to is its outcome, of a type that depends on the request. `Layer.intercept` takes a request
through its passage.
-/

set_option autoImplicit false

namespace HandleLedger

/-- An intercepted call with its arguments. -/
inductive Request
  | createInstance (custom : Bool) (sink : Option Sink)
  | destroyInstance (h : Handle) (custom : Bool)
  | enumeratePhysicalDevices (instanceHandle : Handle)
  | createDevice (physicalDevice : Handle) (families : List UInt32) (custom : Bool)
  | destroyDevice (h : Handle) (custom : Bool)
  | getDeviceQueue (device : Handle) (family : UInt32)
  | queueSubmit (queue fence : Handle) (submits : List Submit)
  | queueBindSparse (queue fence : Handle)
  /-- The creation of a device child of any kind. -/
  | createDeviceChild (device : Handle) (kind : Kind) (code : Code) (custom : Bool)
  /-- The destruction of a device child of any kind. -/
  | destroyDeviceChild (device h : Handle) (kind : Kind) (custom : Bool) (codes : DestroyCodes)
  | create (what : Creation) (owner : Handle) (custom : Bool)
  | destroy (child : Child) (owner h : Handle) (custom : Bool)
  | getSwapchainImages (device swapchain : Handle)
  | allocateCommandBuffers (device pool : Handle) (level : Int32)
  | freeCommandBuffers (device pool : Handle) (hs : List Handle)
  | beginCommandBuffer (buffer : Handle) (inheritance : Option Inheritance)
  | resetDescriptorPool (device pool : Handle)
  | allocateDescriptorSets (device pool : Handle) (layouts : List Handle)
  | freeDescriptorSets (device pool : Handle) (hs : List Handle)
  | bindImageMemory (device image memory : Handle)
  | bindBufferMemory (device buffer memory : Handle)
  | mapMemory (device memory : Handle)
  | waitForFences (device : Handle) (fences : List Handle)

namespace Request

/-- What kind of outcome a request has. -/
def shape : Request → Shape
  | .createInstance .. => .handle
  | .destroyInstance .. => .nothing
  | .enumeratePhysicalDevices .. => .handles
  | .createDevice .. => .handle
  | .destroyDevice .. => .nothing
  | .getDeviceQueue .. => .queue
  | .queueSubmit .. => .status
  | .queueBindSparse .. => .status
  | .createDeviceChild .. => .handle
  | .destroyDeviceChild .. => .nothing
  | .create .. => .handle
  | .destroy .. => .nothing
  | .getSwapchainImages .. => .handles
  | .allocateCommandBuffers .. => .handles
  | .freeCommandBuffers .. => .nothing
  | .beginCommandBuffer .. => .status
  | .resetDescriptorPool .. => .status
  | .allocateDescriptorSets .. => .handles
  | .freeDescriptorSets .. => .status
  | .bindImageMemory .. => .status
  | .bindBufferMemory .. => .status
  | .mapMemory .. => .handle
  | .waitForFences .. => .status

/-- The passage of a request through the layer. -/
def passage (l : Layer) : (r : Request) → Passage r.shape
  | .createInstance custom sink => l.createInstance custom sink
  | .destroyInstance h custom => l.destroyInstance h custom
  | .enumeratePhysicalDevices h => l.enumeratePhysicalDevices h
  | .createDevice h families custom => l.createDevice h families custom
  | .destroyDevice h custom => l.destroyDevice h custom
  | .getDeviceQueue device family => l.getDeviceQueue device family
  | .queueSubmit queue fence submits => l.queueSubmit queue fence submits
  | .queueBindSparse queue fence => l.queueBindSparse queue fence
  | .createDeviceChild device kind code custom =>
    l.createFrom .deviceLevel device kind code custom
  | .destroyDeviceChild device h kind custom codes =>
    l.destroyFrom .deviceLevel device h kind custom codes
  | .create what owner custom => l.create what owner custom
  | .destroy child owner h custom => l.destroy child owner h custom
  | .getSwapchainImages device swapchain => l.getSwapchainImages device swapchain
  | .allocateCommandBuffers device pool level => l.allocateCommandBuffers device pool level
  | .freeCommandBuffers device pool hs => l.freeCommandBuffers device pool hs
  | .beginCommandBuffer buffer inheritance => l.beginCommandBuffer buffer inheritance
  | .resetDescriptorPool device pool => l.resetDescriptorPool device pool
  | .allocateDescriptorSets device pool layouts => l.allocateDescriptorSets device pool layouts
  | .freeDescriptorSets device pool hs => l.freeDescriptorSets device pool hs
  | .bindImageMemory device image memory => l.bindImageMemory device image memory
  | .bindBufferMemory device buffer memory => l.bindBufferMemory device buffer memory
  | .mapMemory device memory => l.mapMemory device memory
  | .waitForFences device fences => l.waitForFences device fences

end Request

/-- A request with the outcome of the real call. -/
structure Call where
  request : Request
  outcome : request.shape.Outcome

namespace Layer

/-- What an intercepted call comes to: its result, the layer after it and its trace. -/
structure Interception (s : Shape) where
  result : s.Outcome
  /-- Whether the real call was made. This is the answer to the destruction of a device child of any
  kind, which has no other result. -/
  ran : Bool
  layer : Layer
  trace : Trace

/-- Take a call through the layer. -/
def intercept (l : Layer) (c : Call) : Interception c.request.shape :=
  let passage := c.request.passage l
  let step := passage.run c.outcome l.ledger
  ⟨step.value, !passage.check.skip, { l with ledger := step.ledger }, step.trace⟩

/-- Carry an action of the ledger out within the layer. -/
def act {α : Type} (l : Layer) (action : Action α) : α × Layer × Trace :=
  let step := action l.ledger
  (step.value, { l with ledger := step.ledger }, step.trace)

end Layer

end HandleLedger
