import HandleLedger.Ledger.Leak
import HandleLedger.Ledger.Lifecycle
import HandleLedger.Ledger.Registration
import HandleLedger.Ledger.Removal
import HandleLedger.Ledger.Validation

/-!
# Operations on the ledger

The operations of the ledger as data, so that a history is a list of operations and its effect a
fold (`Ledger.history`).
-/

set_option autoImplicit false

namespace HandleLedger.Ledger

/-- An operation on the ledger. -/
inductive Operation
  | openInstance (key : DispatchKey) (handle : Handle) (sink : Sink)
  | openDevice (instanceKey key : DispatchKey) (handle : Handle)
  | closeDevice (key : DispatchKey)
  | closeInstance (key : DispatchKey)
  | registerObject (id : ContextId) (k : Kind) (h : Handle) (custom : Bool)
  | registerCommandBuffer (device : DispatchKey) (pool buffer : Handle) (level : Int32)
  | registerDescriptorSet (device : DispatchKey) (pool set : Handle)
  | registerQueue (device : DispatchKey) (queue : Handle)
  | registerImage (device : DispatchKey) (image swapchain : Handle)
  | noteQueueFamily (device : DispatchKey) (family : UInt32) (queue : Handle)
  | noteFamilyFlags (device : DispatchKey) (flags : List UInt32)
  | checkArgument (id : ContextId) (a : Argument)
  | checkDevice (id : ContextId) (device : Handle) (invalid : Code)
  | checkDestroy (id : ContextId) (k : Kind) (h : Handle) (custom : Bool)
    (customCode defaultCode : Option Code)
  | checkCommandBuffer (device : DispatchKey) (pool buffer : Handle)
  | checkDescriptorSet (device : DispatchKey) (pool set : Handle)
  | checkSparse (device : DispatchKey) (queue : Handle) (call : String)
  | release (id : ContextId) (k : Kind) (h : Handle)
  | discard (id : ContextId) (k : Kind) (h : Handle)
  | dropChildren (device : DispatchKey) (pool : Handle) (k : Kind)
  | dropImages (device : DispatchKey) (swapchain : Handle)
  | dropKind (id : ContextId) (k : Kind)
  | dropOwned (id : ContextId)
  | dropQueues (device : DispatchKey)
  | reportKind (id : ContextId) (k : Kind) (code : Code)
  | reportOwned (id : ContextId) (code : Code)
  | reportDevices (instanceKey : DispatchKey) (code : Code)

/-- The answer of an operation. -/
inductive Answer
  | done
  | flag (b : Bool)
  | number (n : Nat)
  deriving DecidableEq

namespace Operation

/-- Carry an operation out. -/
def run : Operation → Action Answer
  | .openInstance key handle sink => do
    Ledger.openInstance key handle sink
    return .done
  | .openDevice instanceKey key handle =>
    Answer.flag <$> Ledger.openDevice instanceKey key handle
  | .closeDevice key => do
    Ledger.closeDevice key
    return .done
  | .closeInstance key => do
    Ledger.closeInstance key
    return .done
  | .registerObject id k h custom => do
    Ledger.registerObject id k h custom
    return .done
  | .registerCommandBuffer device pool buffer level => do
    Ledger.registerCommandBuffer device pool buffer level
    return .done
  | .registerDescriptorSet device pool set => do
    Ledger.registerDescriptorSet device pool set
    return .done
  | .registerQueue device queue => do
    Ledger.registerQueue device queue
    return .done
  | .registerImage device image swapchain => do
    Ledger.registerImage device image swapchain
    return .done
  | .noteQueueFamily device family queue => do
    Ledger.noteQueueFamily device family queue
    return .done
  | .noteFamilyFlags device flags => do
    Ledger.noteFamilyFlags device flags
    return .done
  | .checkArgument id a => Answer.flag <$> Action.ofCheck (·.checkArgument id a)
  | .checkDevice id device invalid =>
    Answer.flag <$> Action.ofCheck (·.checkDevice id device invalid)
  | .checkDestroy id k h custom customCode defaultCode =>
    Answer.flag <$> Action.ofCheck (·.checkDestroy id k h custom customCode defaultCode)
  | .checkCommandBuffer device pool buffer =>
    Answer.flag <$> Action.ofCheck (·.checkCommandBuffer device pool buffer)
  | .checkDescriptorSet device pool set =>
    Answer.flag <$> Action.ofCheck (·.checkDescriptorSet device pool set)
  | .checkSparse device queue call =>
    Answer.flag <$> Action.ofCheck (·.checkSparse device queue call)
  | .release id k h => do
    Ledger.release id k h
    return .done
  | .discard id k h => do
    Ledger.discard id k h
    return .done
  | .dropChildren device pool k => Answer.number <$> Ledger.dropChildren device pool k
  | .dropImages device swapchain => Answer.number <$> Ledger.dropImages device swapchain
  | .dropKind id k => do
    Ledger.dropKind id k
    return .done
  | .dropOwned id => do
    Ledger.dropOwned id
    return .done
  | .dropQueues device => do
    Ledger.dropQueues device
    return .done
  | .reportKind id k code => Answer.flag <$> Action.ofSurvey (·.reportKinds id [k] code)
  | .reportOwned id code => Answer.flag <$> Action.ofSurvey (·.reportOwned id code)
  | .reportDevices instanceKey code =>
    Answer.flag <$> Action.ofSurvey (·.reportDevices instanceKey code)

end Operation

/-- Carry operations out one after another. -/
def history : List Operation → Action (List Answer)
  | [] => pure []
  | op :: ops => do
    let answer ← op.run
    let answers ← history ops
    return answer :: answers

end HandleLedger.Ledger
