import HandleLedger.Action

/-!
# Removal

Objects leave the books when they are destroyed, when the pool or swapchain that they came from
goes, and when their owner is torn down. Only the removal of single objects says anything, and
only if there is nothing to remove.
-/

set_option autoImplicit false

namespace HandleLedger.Ledger

/-- Take out an object that has been destroyed. Null and unknown handles are ignored. -/
def release (id : ContextId) (k : Kind) (h : Handle) : Action Unit :=
  if h = nullHandle then pure () else Action.onRegistry id (·.remove k h)

/-- Take out an object that has to be there. One that is not is an error of the caller. -/
def discard (id : ContextId) (k : Kind) (h : Handle) : Action Unit :=
  Action.within id () fun c => do
    Action.modify (·.modifyRegistry id (·.remove k h))
    Action.emit (if c.registry.contains k h then []
      else [.log (.untracked k h), .report c.sink (.error k h Code.internalError .untracked)])

/-- Take out what came from a pool, and say how many objects that were. -/
def dropChildren (device : DispatchKey) (pool : Handle) (k : Kind) : Action Nat :=
  let id := ContextId.ofDevice device
  Action.within id 0 fun c => do
    let children := c.registry.childrenOf k pool
    Action.modify (·.modifyRegistry id (·.removeAll k children))
    return children.length

/-- Forget the images of a swapchain, and say how many they were. -/
def dropImages (device : DispatchKey) (swapchain : Handle) : Action Nat :=
  let id := ContextId.ofDevice device
  Action.within id 0 fun c => do
    Action.modify (·.modifyRegistry id (·.removeImages swapchain))
    return c.registry.imageCount - (c.registry.removeImages swapchain).imageCount

/-- Take out every object of a kind. -/
def dropKind (id : ContextId) (k : Kind) : Action Unit :=
  Action.onRegistry id fun r => r.removeAll k (r.handlesOf k)

/-- Take out every object that the application had to destroy before the owner of the context. -/
def dropOwned (id : ContextId) : Action Unit := Action.each id.scope.ownedKinds (dropKind id)

/-- Take out the queues of a device and forget their families. -/
def dropQueues (device : DispatchKey) : Action Unit :=
  Action.onRegistry (.ofDevice device) fun r =>
    (r.removeAll .queue (r.handlesOf .queue)).clearQueueFamilies

end HandleLedger.Ledger
