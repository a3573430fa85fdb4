/-!
# Diagnostic codes

A code names the rule that a diagnostic is about. The codes of this module are the ones raised
whatever the entry point; those of a single entry point stand beside it.
-/

set_option autoImplicit false

namespace HandleLedger

/-- The name of a rule. -/
abbrev Code := String

namespace Code

/-- An object came or went. -/
def info : Code := "UNASSIGNED-ObjectTracker-Info"

/-- The ledger was asked for something that its callers never ask for. -/
def internalError : Code := "UNASSIGNED-ObjectTracker-InternalError"

/-- A device outlived its instance. -/
def objectLeak : Code := "UNASSIGNED-ObjectTracker-ObjectLeak"

/-- A command buffer to be freed is unknown. -/
def freedCommandBuffer : Code := "VUID-vkFreeCommandBuffers-pCommandBuffers-00048"

/-- A command buffer to be freed belongs to another pool. -/
def freedCommandBufferPool : Code := "VUID-vkFreeCommandBuffers-pCommandBuffers-parent"

/-- A descriptor set to be freed is unknown. -/
def freedDescriptorSet : Code := "VUID-vkFreeDescriptorSets-pDescriptorSets-00310"

/-- A descriptor set to be freed belongs to another pool. -/
def freedDescriptorSetPool : Code := "VUID-vkFreeDescriptorSets-pDescriptorSets-parent"

/-- The family of a queue does not support sparse binding. -/
def sparseQueue : Code := "VUID-vkQueueBindSparse-queuetype"

end Code

end HandleLedger
