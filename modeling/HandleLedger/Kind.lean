/-!
# Kinds of objects

The closed set of object kinds whose handles are tracked, with their names and codes, and the two
tables that say which kinds an application has to destroy before it destroys their device
(`Kind.deviceChildren`) or their instance (`Kind.instanceChildren`).
-/

set_option autoImplicit false

namespace HandleLedger

/-- The kind of an object. The order of the constructors is the order of every table by kind. -/
inductive Kind
  | unknown
  | buffer
  | image
  | apiInstance
  | physicalDevice
  | device
  | semaphore
  | queue
  | commandBuffer
  | fence
  | deviceMemory
  | event
  | queryPool
  | bufferView
  | imageView
  | shaderModule
  | pipelineCache
  | pipelineLayout
  | renderPass
  | pipeline
  | descriptorSetLayout
  | sampler
  | descriptorPool
  | descriptorSet
  | framebuffer
  | commandPool
  | samplerYcbcrConversion
  | descriptorUpdateTemplate
  | surface
  | swapchain
  | display
  | displayMode
  | debugReportCallback
  | debugUtilsMessenger
  | validationCache
  deriving DecidableEq, Repr

namespace Kind

/-- The number of kinds. -/
def count : Nat := 35

/-- Every kind, in table order. -/
def all : List Kind :=
  [.unknown, .buffer, .image, .apiInstance, .physicalDevice, .device, .semaphore, .queue,
   .commandBuffer, .fence, .deviceMemory, .event, .queryPool, .bufferView, .imageView,
   .shaderModule, .pipelineCache, .pipelineLayout, .renderPass, .pipeline, .descriptorSetLayout,
   .sampler, .descriptorPool, .descriptorSet, .framebuffer, .commandPool, .samplerYcbcrConversion,
   .descriptorUpdateTemplate, .surface, .swapchain, .display, .displayMode, .debugReportCallback,
   .debugUtilsMessenger, .validationCache]

/-- The place of a kind in table order. -/
def index (k : Kind) : Nat := k.ctorIdx

theorem index_lt_count (k : Kind) : k.index < count := by
  cases k <;> decide

theorem index_inj {a b : Kind} (h : a.index = b.index) : a = b := by
  have look : ∀ k : Kind, all[k.index]? = some k := by
    intro k
    cases k <;> rfl
  exact Option.some.inj ((look a).symm.trans (h ▸ look b))

/-- Every place below the count is the place of a kind. -/
theorem exists_index_eq {i : Nat} (h : i < count) : ∃ k : Kind, k.index = i := by
  have look : ∀ i, i < 35 → ∃ k ∈ all, k.index = i := by decide
  obtain ⟨k, _, hk⟩ := look i h
  exact ⟨k, hk⟩

/-- The name that stands in diagnostics. -/
def name : Kind → String
  | .unknown => "Unknown"
  | .buffer => "Buffer"
  | .image => "Image"
  | .apiInstance => "Instance"
  | .physicalDevice => "PhysicalDevice"
  | .device => "Device"
  | .semaphore => "Semaphore"
  | .queue => "Queue"
  | .commandBuffer => "CommandBuffer"
  | .fence => "Fence"
  | .deviceMemory => "DeviceMemory"
  | .event => "Event"
  | .queryPool => "QueryPool"
  | .bufferView => "BufferView"
  | .imageView => "ImageView"
  | .shaderModule => "ShaderModule"
  | .pipelineCache => "PipelineCache"
  | .pipelineLayout => "PipelineLayout"
  | .renderPass => "RenderPass"
  | .pipeline => "Pipeline"
  | .descriptorSetLayout => "DescriptorSetLayout"
  | .sampler => "Sampler"
  | .descriptorPool => "DescriptorPool"
  | .descriptorSet => "DescriptorSet"
  | .framebuffer => "Framebuffer"
  | .commandPool => "CommandPool"
  | .samplerYcbcrConversion => "SamplerYcbcrConversion"
  | .descriptorUpdateTemplate => "DescriptorUpdateTemplate"
  | .surface => "SurfaceKHR"
  | .swapchain => "SwapchainKHR"
  | .display => "DisplayKHR"
  | .displayMode => "DisplayModeKHR"
  | .debugReportCallback => "DebugReportCallbackEXT"
  | .debugUtilsMessenger => "DebugUtilsMessengerEXT"
  | .validationCache => "ValidationCacheEXT"

/-- The kind of a name. -/
def ofName? (text : String) : Option Kind := all.find? (·.name == text)

/-- The identifier of a kind, in which a vendor suffix is written as a word. -/
def identifier : Kind → String
  | .surface => "SurfaceKhr"
  | .swapchain => "SwapchainKhr"
  | .display => "DisplayKhr"
  | .displayMode => "DisplayModeKhr"
  | .debugReportCallback => "DebugReportCallbackExt"
  | .debugUtilsMessenger => "DebugUtilsMessengerExt"
  | .validationCache => "ValidationCacheExt"
  | k => k.name

/-- The number by which the debug report extension knows a kind. Messengers came after that
extension and share the number of unknown objects. -/
def reportCode : Kind → Nat
  | .unknown => 0
  | .buffer => 9
  | .image => 10
  | .apiInstance => 1
  | .physicalDevice => 2
  | .device => 3
  | .semaphore => 5
  | .queue => 4
  | .commandBuffer => 6
  | .fence => 7
  | .deviceMemory => 8
  | .event => 11
  | .queryPool => 12
  | .bufferView => 13
  | .imageView => 14
  | .shaderModule => 15
  | .pipelineCache => 16
  | .pipelineLayout => 17
  | .renderPass => 18
  | .pipeline => 19
  | .descriptorSetLayout => 20
  | .sampler => 21
  | .descriptorPool => 22
  | .descriptorSet => 23
  | .framebuffer => 24
  | .commandPool => 25
  | .samplerYcbcrConversion => 1000156000
  | .descriptorUpdateTemplate => 1000085000
  | .surface => 26
  | .swapchain => 27
  | .display => 29
  | .displayMode => 30
  | .debugReportCallback => 28
  | .debugUtilsMessenger => 0
  | .validationCache => 33

/-- The kinds that a device owns and the application destroys. Queues are retrieved and not
created, so they are not among them. -/
def deviceChildren : List Kind :=
  [.commandBuffer, .semaphore, .fence, .deviceMemory, .buffer, .event, .queryPool, .bufferView,
   .image, .imageView, .shaderModule, .pipelineCache, .pipelineLayout, .renderPass, .pipeline,
   .descriptorSetLayout, .sampler, .descriptorPool, .descriptorSet, .framebuffer, .commandPool,
   .samplerYcbcrConversion, .descriptorUpdateTemplate, .swapchain, .validationCache]

/-- The kinds that an instance owns and the application destroys. Physical devices and displays
are enumerated and not created, so they are not among them. -/
def instanceChildren : List Kind :=
  [.surface, .debugReportCallback, .debugUtilsMessenger]

end Kind

end HandleLedger
