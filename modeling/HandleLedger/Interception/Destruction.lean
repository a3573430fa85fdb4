import HandleLedger.Interception.Child
import HandleLedger.Interception.Creation
import HandleLedger.Ledger.Leak
import HandleLedger.Ledger.Removal

/-!
# Calls that destroy

The passages of calls that destroy, free or reset objects. All checks are made before the call,
and the objects leave the books after it, those of a destroyed pool or swapchain with their owner.
The destruction of an instance or device reports what is left of it.
-/

set_option autoImplicit false

namespace HandleLedger.Layer

/-! ## Instances and devices -/

/-- The rule that an instance outlives what is created from it. -/
def instanceLeakCode : Code := "VUID-vkDestroyInstance-instance-00629"

/-- The rule that a device outlives what is created from it. -/
def deviceLeakCode : Code := "VUID-vkDestroyDevice-device-00378"

/-- The destruction of an instance. -/
def destroyInstance (l : Layer) (h : Handle) (custom : Bool) : Passage .nothing :=
  if h = nullHandle then .checking .pass
  else
    let id := l.instanceId h
    { check :=
        l.ledger.checkArgument id
          (.nullable .apiInstance h "VUID-vkDestroyInstance-instance-parameter" none) ++
        l.ledger.checkDestroy id .apiInstance h custom
          (some "VUID-vkDestroyInstance-instance-00630")
          (some "VUID-vkDestroyInstance-instance-00631")
      prepare := do
        let _ ← Action.ofSurvey (·.reportDevices id.key instanceLeakCode)
        let _ ← Action.ofSurvey (·.reportOwned id instanceLeakCode)
      record _ := Ledger.closeInstance id.key }

/-- The destruction of a device. What is left of it is dropped before the call. -/
def destroyDevice (l : Layer) (h : Handle) (custom : Bool) : Passage .nothing :=
  if h = nullHandle then .checking .pass
  else
    let key := l.keyOf h
    match l.ledger.instanceOf key with
    | none => .checking (.note (.unknownDevice key))
    | some instanceKey =>
      let id := ContextId.ofDevice key
      let instanceId := ContextId.ofInstance instanceKey
      { check :=
          l.ledger.checkArgument id
            (.nullable .device h "VUID-vkDestroyDevice-device-parameter" none) ++
          l.ledger.checkDestroy instanceId .device h custom
            (some "VUID-vkDestroyDevice-device-00379")
            (some "VUID-vkDestroyDevice-device-00380")
        prepare := do
          let _ ← Action.ofSurvey (·.reportOwned id deviceLeakCode)
          Ledger.dropOwned id
          Ledger.dropQueues key
        record _ := do
          Ledger.release instanceId .device h
          Ledger.closeDevice key }

/-! ## Children -/

/-- The destruction of an object of any kind. -/
def destroyFrom (l : Layer) (scope : Scope) (owner h : Handle) (kind : Kind) (custom : Bool)
    (codes : DestroyCodes) : Passage .nothing :=
  let id := l.ownerId scope owner
  { check :=
      l.ledger.checkArguments id
        [.required scope.ownerKind owner codes.owner none,
          .nullable kind h codes.object codes.parent] ++
      l.ledger.checkDestroy id kind h custom codes.expectedCustom codes.expectedDefault
    prepare := pure ()
    record _ := Ledger.release id kind h }

/-- What goes with a child: the objects that came out of it. -/
def dropWith (child : Child) (device : DispatchKey) (h : Handle) : Action Unit :=
  if h = nullHandle then pure ()
  else
    match child with
    | .commandPool => do
      let _ ← Ledger.dropChildren device h .commandBuffer
    | .descriptorPool => do
      let _ ← Ledger.dropChildren device h .descriptorSet
    | .swapchain => do
      let _ ← Ledger.dropImages device h
    | _ => pure ()

/-- The destruction of a child. -/
def destroy (l : Layer) (child : Child) (owner h : Handle) (custom : Bool) : Passage .nothing :=
  let passage := l.destroyFrom child.scope owner h child.kind custom child.destroyCodes
  { passage with
    record := fun outcome => do
      passage.record outcome
      dropWith child (l.keyOf owner) h }

/-! ## Pools -/

/-- The handles of a list that are not null. -/
def nonNull (hs : List Handle) : List Handle := hs.filter (· != nullHandle)

/-- Freeing command buffers to their pool. -/
def freeCommandBuffers (l : Layer) (device pool : Handle) (hs : List Handle) : Passage .nothing :=
  let id := l.deviceId device
  { check :=
      l.ledger.checkArgument id (.required .commandPool pool
        "VUID-vkFreeCommandBuffers-commandPool-parameter"
        (some "VUID-vkFreeCommandBuffers-commandPool-parent")) ++
      .all ((nonNull hs).map (l.ledger.checkCommandBuffer id.key pool))
    prepare := pure ()
    record _ := Action.each (nonNull hs) (Ledger.release id .commandBuffer) }

/-- Freeing descriptor sets to their pool. -/
def freeDescriptorSets (l : Layer) (device pool : Handle) (hs : List Handle) : Passage .status :=
  let id := l.deviceId device
  { check :=
      l.ledger.checkArgument id (.required .descriptorPool pool
        "VUID-vkFreeDescriptorSets-descriptorPool-parameter"
        (some "VUID-vkFreeDescriptorSets-descriptorPool-parent")) ++
      .all ((nonNull hs).map (l.ledger.checkDescriptorSet id.key pool))
    prepare := pure ()
    record
      | .error _ => pure ()
      | .ok () => Action.each (nonNull hs) (Ledger.release id .descriptorSet) }

/-- Resetting a descriptor pool. Its sets leave the books before the call, whatever comes of
it. -/
def resetDescriptorPool (l : Layer) (device pool : Handle) : Passage .status :=
  let id := l.deviceId device
  { check :=
      l.ledger.checkArguments id
        [.required .device device "VUID-vkResetDescriptorPool-device-parameter" none,
          .required .descriptorPool pool "VUID-vkResetDescriptorPool-descriptorPool-parameter"
            (some "VUID-vkResetDescriptorPool-descriptorPool-parent")]
    prepare := do
      let _ ← Ledger.dropChildren id.key pool .descriptorSet
    record _ := pure () }

end HandleLedger.Layer
