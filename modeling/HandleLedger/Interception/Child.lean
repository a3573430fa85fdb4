import HandleLedger.Code
import HandleLedger.ContextId

/-!
# Children

The objects that have calls of their own to create and to destroy them, with the rules that those
calls have to obey.
-/

set_option autoImplicit false

namespace HandleLedger

/-- The rules of a call that destroys an object. -/
structure DestroyCodes where
  /-- The owner, an instance or a device, is unknown. -/
  owner : Code
  /-- The object is unknown. -/
  object : Code
  /-- The object belongs to another device. -/
  parent : Option Code
  /-- The object was created with allocation callbacks and is destroyed without. -/
  expectedCustom : Option Code
  /-- The object was created without allocation callbacks and is destroyed with some. -/
  expectedDefault : Option Code
  deriving DecidableEq

/-- An object with calls of its own. -/
inductive Child
  | surface
  | debugReportCallback
  | commandPool
  | descriptorPool
  | memory
  | image
  | imageView
  | buffer
  | fence
  | semaphore
  | swapchain
  deriving DecidableEq, Repr

namespace Child

/-- The kind of a child. -/
def kind : Child → Kind
  | .surface => .surface
  | .debugReportCallback => .debugReportCallback
  | .commandPool => .commandPool
  | .descriptorPool => .descriptorPool
  | .memory => .deviceMemory
  | .image => .image
  | .imageView => .imageView
  | .buffer => .buffer
  | .fence => .fence
  | .semaphore => .semaphore
  | .swapchain => .swapchain

/-- What a child is created from. -/
def scope : Child → Scope
  | .surface => .instanceLevel
  | .debugReportCallback => .instanceLevel
  | _ => .deviceLevel

/-- The rule that is broken by creating a child from an unknown owner. -/
def creationCode : Child → Code
  | .surface => "VUID-vkCreateSurfaceKHR-instance-parameter"
  | .debugReportCallback => "VUID-vkCreateDebugReportCallbackEXT-instance-parameter"
  | .commandPool => "VUID-vkCreateCommandPool-device-parameter"
  | .descriptorPool => "VUID-vkCreateDescriptorPool-device-parameter"
  | .memory => "VUID-vkAllocateMemory-device-parameter"
  | .image => "VUID-vkCreateImage-device-parameter"
  | .imageView => "VUID-vkCreateImageView-device-parameter"
  | .buffer => "VUID-vkCreateBuffer-device-parameter"
  | .fence => "VUID-vkCreateFence-device-parameter"
  | .semaphore => "VUID-vkCreateSemaphore-device-parameter"
  | .swapchain => "VUID-vkCreateSwapchainKHR-device-parameter"

/-- The rules of destroying a child. Memory has no rule about allocation callbacks. -/
def destroyCodes : Child → DestroyCodes
  | .surface =>
    { owner := "VUID-vkDestroySurfaceKHR-instance-parameter"
      object := "VUID-vkDestroySurfaceKHR-surface-parameter"
      parent := none
      expectedCustom := some "VUID-vkDestroySurfaceKHR-surface-01267"
      expectedDefault := some "VUID-vkDestroySurfaceKHR-surface-01268" }
  | .debugReportCallback =>
    { owner := "VUID-vkDestroyDebugReportCallbackEXT-instance-parameter"
      object := "VUID-vkDestroyDebugReportCallbackEXT-callback-parameter"
      parent := none
      expectedCustom := some "VUID-vkDestroyDebugReportCallbackEXT-instance-01242"
      expectedDefault := some "VUID-vkDestroyDebugReportCallbackEXT-instance-01243" }
  | .commandPool =>
    { owner := "VUID-vkDestroyCommandPool-device-parameter"
      object := "VUID-vkDestroyCommandPool-commandPool-parameter"
      parent := some "VUID-vkDestroyCommandPool-commandPool-parent"
      expectedCustom := some "VUID-vkDestroyCommandPool-commandPool-00042"
      expectedDefault := some "VUID-vkDestroyCommandPool-commandPool-00043" }
  | .descriptorPool =>
    { owner := "VUID-vkDestroyDescriptorPool-device-parameter"
      object := "VUID-vkDestroyDescriptorPool-descriptorPool-parameter"
      parent := some "VUID-vkDestroyDescriptorPool-descriptorPool-parent"
      expectedCustom := some "VUID-vkDestroyDescriptorPool-descriptorPool-00304"
      expectedDefault := some "VUID-vkDestroyDescriptorPool-descriptorPool-00305" }
  | .memory =>
    { owner := "VUID-vkFreeMemory-device-parameter"
      object := "VUID-vkFreeMemory-memory-parameter"
      parent := some "VUID-vkFreeMemory-memory-parent"
      expectedCustom := none
      expectedDefault := none }
  | .image =>
    { owner := "VUID-vkDestroyImage-device-parameter"
      object := "VUID-vkDestroyImage-image-parameter"
      parent := some "VUID-vkDestroyImage-image-parent"
      expectedCustom := some "VUID-vkDestroyImage-image-01001"
      expectedDefault := some "VUID-vkDestroyImage-image-01002" }
  | .imageView =>
    { owner := "VUID-vkDestroyImageView-device-parameter"
      object := "VUID-vkDestroyImageView-imageView-parameter"
      parent := some "VUID-vkDestroyImageView-imageView-parent"
      expectedCustom := some "VUID-vkDestroyImageView-imageView-01027"
      expectedDefault := some "VUID-vkDestroyImageView-imageView-01028" }
  | .buffer =>
    { owner := "VUID-vkDestroyBuffer-device-parameter"
      object := "VUID-vkDestroyBuffer-buffer-parameter"
      parent := some "VUID-vkDestroyBuffer-buffer-parent"
      expectedCustom := some "VUID-vkDestroyBuffer-buffer-00923"
      expectedDefault := some "VUID-vkDestroyBuffer-buffer-00924" }
  | .fence =>
    { owner := "VUID-vkDestroyFence-device-parameter"
      object := "VUID-vkDestroyFence-fence-parameter"
      parent := some "VUID-vkDestroyFence-fence-parent"
      expectedCustom := some "VUID-vkDestroyFence-fence-01121"
      expectedDefault := some "VUID-vkDestroyFence-fence-01122" }
  | .semaphore =>
    { owner := "VUID-vkDestroySemaphore-device-parameter"
      object := "VUID-vkDestroySemaphore-semaphore-parameter"
      parent := some "VUID-vkDestroySemaphore-semaphore-parent"
      expectedCustom := some "VUID-vkDestroySemaphore-semaphore-01138"
      expectedDefault := some "VUID-vkDestroySemaphore-semaphore-01139" }
  | .swapchain =>
    { owner := "VUID-vkDestroySwapchainKHR-device-parameter"
      object := "VUID-vkDestroySwapchainKHR-swapchain-parameter"
      parent := some "VUID-vkDestroySwapchainKHR-commonparent"
      expectedCustom := some "VUID-vkDestroySwapchainKHR-swapchain-01283"
      expectedDefault := some "VUID-vkDestroySwapchainKHR-swapchain-01284" }

end Child

end HandleLedger
