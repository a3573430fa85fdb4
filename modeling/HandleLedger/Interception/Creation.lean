import HandleLedger.Interception.Child
import HandleLedger.Interception.Layer
import HandleLedger.Ledger.Lifecycle
import HandleLedger.Ledger.Registration
import HandleLedger.Ledger.Validation

/-!
# Calls that create

The passages of calls that create, allocate, enumerate or retrieve objects. The owner is checked
before the call, and what the call gives back is entered after it. A call that fails enters
nothing.
-/

set_option autoImplicit false

namespace HandleLedger

/-- A child with the handles that its creation needs besides its owner. -/
inductive Creation
  | surface
  | debugReportCallback
  | commandPool
  | descriptorPool
  | memory
  | image
  | imageView (image : Handle)
  | buffer
  | fence
  | semaphore
  | swapchain (surface old : Handle)
  deriving DecidableEq

/-- The child that a creation makes. -/
def Creation.child : Creation → Child
  | .surface => .surface
  | .debugReportCallback => .debugReportCallback
  | .commandPool => .commandPool
  | .descriptorPool => .descriptorPool
  | .memory => .memory
  | .image => .image
  | .imageView _ => .imageView
  | .buffer => .buffer
  | .fence => .fence
  | .semaphore => .semaphore
  | .swapchain .. => .swapchain

/-- The kind of an owner. -/
def Scope.ownerKind : Scope → Kind
  | .instanceLevel => .apiInstance
  | .deviceLevel => .device

namespace Layer

/-! ## Instances and devices -/

/-- The creation of an instance. Nothing is known before it, so nothing is checked. -/
def createInstance (l : Layer) (custom : Bool) (sink : Option Sink) : Passage .handle :=
  .creating .pass fun h => do
    Ledger.openInstance (l.keyOf h) h (sink.getD l.defaultSink)
    Ledger.registerObject (l.instanceId h) .apiInstance h custom

/-- The enumeration of the physical devices of an instance. -/
def enumeratePhysicalDevices (l : Layer) (instanceHandle : Handle) : Passage .handles :=
  let id := l.instanceId instanceHandle
  .listing
    (l.ledger.checkArgument id (.required .apiInstance instanceHandle
      "VUID-vkEnumeratePhysicalDevices-instance-parameter" none))
    fun hs => Action.each hs fun h => Ledger.registerObject id .physicalDevice h false

/-- The creation of a device. It is entered in its instance and gets books of its own; the
capabilities of its queue families are noted there. A device of an unknown instance is left
alone. -/
def createDevice (l : Layer) (physicalDevice : Handle) (families : List UInt32) (custom : Bool) :
    Passage .handle :=
  let id := l.instanceId physicalDevice
  .creating
    (l.ledger.checkArgument id (.required .physicalDevice physicalDevice
      "VUID-vkCreateDevice-physicalDevice-parameter" none))
    fun h => do
      let key := l.keyOf h
      if ← Ledger.openDevice id.key key h then
        Ledger.registerObject id .device h custom
        Ledger.noteFamilyFlags key families
      else Action.emit [.log (.untrackedInstance key)]

/-! ## Children -/

/-- The creation of an object of any kind from an owner. -/
def createFrom (l : Layer) (scope : Scope) (owner : Handle) (kind : Kind) (ownerCode : Code)
    (custom : Bool) : Passage .handle :=
  let id := l.ownerId scope owner
  .creating
    (l.ledger.checkArgument id (.required scope.ownerKind owner ownerCode none))
    fun h => Ledger.registerObject id kind h custom

/-- The check of the further handles of a creation. The surface of a swapchain belongs to the
instance of the device, if that is known. -/
def creationCheck (l : Layer) (owner : Handle) : Creation → Check
  | .imageView image =>
    l.ledger.checkArgument (l.deviceId owner) (.required .image image
      "VUID-VkImageViewCreateInfo-image-parameter" (some "VUID-vkCreateImageView-image-09179"))
  | .swapchain surface old =>
    (match l.ledger.instanceOf (l.keyOf owner) with
      | none => .pass
      | some instanceKey =>
        l.ledger.checkArgument (.ofInstance instanceKey) (.required .surface surface
          "VUID-VkSwapchainCreateInfoKHR-surface-parameter" none)) ++
      l.ledger.checkArgument (l.deviceId owner) (.nullable .swapchain old
        "VUID-VkSwapchainCreateInfoKHR-oldSwapchain-parameter"
        (some "VUID-VkSwapchainCreateInfoKHR-commonparent"))
  | _ => .pass

/-- The creation of a child. Its owner is checked only if its further handles are in order. -/
def create (l : Layer) (what : Creation) (owner : Handle) (custom : Bool) : Passage .handle :=
  let child := what.child
  let passage := l.createFrom child.scope owner child.kind child.creationCode custom
  { passage with check := (l.creationCheck owner what).andThen passage.check }

/-! ## Retrieval and allocation -/

/-- The retrieval of a queue. Whatever is found about the device, the queue is retrieved. -/
def getDeviceQueue (l : Layer) (device : Handle) (family : UInt32) : Passage .queue where
  check := Check.advisory (l.ledger.checkArgument (l.deviceId device)
    (.required .device device "VUID-vkGetDeviceQueue-device-parameter" none))
  prepare := pure ()
  record queue :=
    if queue = nullHandle then pure ()
    else do
      Ledger.registerQueue (l.keyOf device) queue
      Ledger.noteQueueFamily (l.keyOf device) family queue

/-- The retrieval of the images of a swapchain. -/
def getSwapchainImages (l : Layer) (device swapchain : Handle) : Passage .handles :=
  .listing
    (l.ledger.checkArgument (l.deviceId device) (.required .swapchain swapchain
      "VUID-vkGetSwapchainImagesKHR-swapchain-parameter"
      (some "VUID-vkGetSwapchainImagesKHR-commonparent")))
    fun hs => Action.each hs fun h => Ledger.registerImage (l.keyOf device) h swapchain

/-- The allocation of command buffers from a pool. -/
def allocateCommandBuffers (l : Layer) (device pool : Handle) (level : Int32) :
    Passage .handles :=
  .listing
    (l.ledger.checkArguments (l.deviceId device)
      [.required .device device "VUID-vkAllocateCommandBuffers-device-parameter" none,
        .required .commandPool pool "VUID-VkCommandBufferAllocateInfo-commandPool-parameter"
          (some "VUID-vkAllocateCommandBuffers-commonparent")])
    fun hs => Action.each hs fun h =>
      Ledger.registerCommandBuffer (l.keyOf device) pool h level

/-- The allocation of descriptor sets from a pool. -/
def allocateDescriptorSets (l : Layer) (device pool : Handle) (layouts : List Handle) :
    Passage .handles :=
  .listing
    (l.ledger.checkArguments (l.deviceId device)
      ([.required .device device "VUID-vkAllocateDescriptorSets-device-parameter" none,
        .required .descriptorPool pool "VUID-VkDescriptorSetAllocateInfo-descriptorPool-parameter"
          (some "VUID-VkDescriptorSetAllocateInfo-commonparent")] ++
        layouts.map (.required .descriptorSetLayout ·
          "VUID-VkDescriptorSetAllocateInfo-pSetLayouts-parameter"
          (some "VUID-VkDescriptorSetAllocateInfo-commonparent"))))
    fun hs => Action.each hs fun h => Ledger.registerDescriptorSet (l.keyOf device) pool h

end Layer

end HandleLedger
