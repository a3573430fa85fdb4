import HandleLedger.Interception.Layer
import HandleLedger.Ledger.Validation

/-!
# Calls that use

The passages of calls that use objects and leave the books as they are. Every handle is checked,
none is entered or taken out.
-/

set_option autoImplicit false

namespace HandleLedger

/-- Handles as a call is given them: a count with a pointer that may be null. -/
inductive Span
  | null (count : UInt32)
  | at (hs : List Handle)

/-- The handles that can be read. A null pointer stands for none, whatever the count. -/
def Span.handles : Span → List Handle
  | .null _ => []
  | .at hs => hs

/-- One batch of a submission. -/
structure Submit where
  wait : Span
  commands : Span
  signal : Span

/-- What a secondary command buffer inherits. -/
structure Inheritance where
  framebuffer : Handle
  renderPass : Handle
  deriving DecidableEq

namespace Submit

/-- The rule that the objects of a batch belong to one device. -/
def parentCode : Code := "VUID-VkSubmitInfo-commonparent"

/-- The handles of a batch, in order. -/
def arguments (s : Submit) : List Argument :=
  s.wait.handles.map (.required .semaphore · "VUID-VkSubmitInfo-pWaitSemaphores-parameter"
    (some parentCode)) ++
  s.commands.handles.map (.required .commandBuffer ·
    "VUID-VkSubmitInfo-pCommandBuffers-parameter" (some parentCode)) ++
  s.signal.handles.map (.required .semaphore · "VUID-VkSubmitInfo-pSignalSemaphores-parameter"
    (some parentCode))

end Submit

namespace Layer

/-! ## Queues -/

/-- The submission of batches to a queue. -/
def queueSubmit (l : Layer) (queue fence : Handle) (submits : List Submit) : Passage .status :=
  .checking (l.ledger.checkArguments (l.deviceId queue)
    ([.required .queue queue "VUID-vkQueueSubmit-queue-parameter"
        (some "VUID-vkQueueSubmit-commonparent"),
      .nullable .fence fence "VUID-vkQueueSubmit-fence-parameter"
        (some "VUID-vkQueueSubmit-commonparent")] ++
      submits.flatMap Submit.arguments))

/-- Sparse binding on a queue, which has to be capable of it. -/
def queueBindSparse (l : Layer) (queue fence : Handle) : Passage .status :=
  let id := l.deviceId queue
  .checking (l.ledger.checkArguments id
    [.required .queue queue "VUID-vkQueueBindSparse-queue-parameter"
        (some "VUID-vkQueueBindSparse-commonparent"),
      .nullable .fence fence "VUID-vkQueueBindSparse-fence-parameter"
        (some "VUID-vkQueueBindSparse-commonparent")] ++
    l.ledger.checkSparse id.key queue "vkQueueBindSparse")

/-- Waiting for fences. -/
def waitForFences (l : Layer) (device : Handle) (fences : List Handle) : Passage .status :=
  .checking (l.ledger.checkArguments (l.deviceId device)
    (fences.map (.required .fence · "VUID-vkWaitForFences-pFences-parameter"
      (some "VUID-vkWaitForFences-pFences-parent"))))

/-! ## Command buffers -/

/-- The handles that a command buffer inherits, which matter only for a secondary one. -/
def inherited (secondary : Bool) (inheritance : Option Inheritance) : List Argument :=
  match secondary, inheritance with
  | true, some i =>
    [.nullable .framebuffer i.framebuffer "VUID-VkCommandBufferBeginInfo-flags-00055"
        (some "VUID-VkCommandBufferInheritanceInfo-commonparent"),
      .nullable .renderPass i.renderPass "VUID-VkCommandBufferBeginInfo-flags-06000"
        (some "VUID-VkCommandBufferInheritanceInfo-commonparent")]
  | _, _ => []

/-- The beginning of a command buffer. -/
def beginCommandBuffer (l : Layer) (buffer : Handle) (inheritance : Option Inheritance) :
    Passage .status :=
  let id := l.deviceId buffer
  let secondary := (l.ledger.status? id .commandBuffer buffer).any
    (·.contains .secondaryCommandBuffer)
  .checking (l.ledger.checkArguments id
    (.required .commandBuffer buffer "VUID-vkBeginCommandBuffer-commandBuffer-parameter" none ::
      inherited secondary inheritance))

/-! ## Memory -/

/-- Binding memory to an image. -/
def bindImageMemory (l : Layer) (device image memory : Handle) : Passage .status :=
  .checking (l.ledger.checkArguments (l.deviceId device)
    [.required .device device "VUID-vkBindImageMemory-device-parameter" none,
      .required .image image "VUID-vkBindImageMemory-image-parameter"
        (some "VUID-vkBindImageMemory-image-parent"),
      .required .deviceMemory memory "VUID-vkBindImageMemory-memory-parameter"
        (some "VUID-vkBindImageMemory-memory-parent")])

/-- Binding memory to a buffer. The device itself is not checked. -/
def bindBufferMemory (l : Layer) (device buffer memory : Handle) : Passage .status :=
  .checking (l.ledger.checkArguments (l.deviceId device)
    [.required .buffer buffer "VUID-vkBindBufferMemory-buffer-parameter"
        (some "VUID-vkBindBufferMemory-buffer-parent"),
      .required .deviceMemory memory "VUID-vkBindBufferMemory-memory-parameter"
        (some "VUID-vkBindBufferMemory-memory-parent")])

/-- Mapping memory, which gives a pointer back. The device itself is not checked. -/
def mapMemory (l : Layer) (device memory : Handle) : Passage .handle :=
  .checking (l.ledger.checkArgument (l.deviceId device)
    (.required .deviceMemory memory "VUID-vkMapMemory-memory-parameter"
      (some "VUID-vkMapMemory-memory-parent")))

end Layer

end HandleLedger
