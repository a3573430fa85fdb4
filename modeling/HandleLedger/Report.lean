import HandleLedger.Code
import HandleLedger.ContextId
import HandleLedger.Record
import HandleLedger.Severity
import HandleLedger.Text.Hexadecimal

/-!
# Reports

A report is a diagnostic about one object. What it has to say is a `Finding`; the wording of every
finding is in `Finding.message`.
-/

set_option autoImplicit false

namespace HandleLedger

open Text (hexadecimal)

/-- What a report has to say about its object. -/
inductive Finding
  /-- The object was entered with this creation index. -/
  | created (index : UInt64)
  /-- The image of a swapchain was entered with this creation index. -/
  | imageCreated (index : UInt64)
  /-- The object is about to go, which leaves so many objects and so many of its kind. -/
  | departing (total ofKind : Nat)
  /-- The handle is unknown. -/
  | invalid
  /-- The handle is known to another device only. -/
  | wrongDevice
  /-- The object was created with allocation callbacks and is destroyed without. -/
  | allocatorMissing
  /-- The object was created without allocation callbacks and is destroyed with some. -/
  | allocatorUnexpected
  /-- The object is freed to a pool that it does not belong to. -/
  | foreignPool (owner pool : Handle)
  /-- The queue of a call is not capable of sparse binding. -/
  | notSparse (call : String)
  /-- An object was to be dropped that has no record. -/
  | untracked
  /-- The object outlives its owner, the instance or device with this handle. -/
  | leaked (scope : Scope) (owner : Handle) (index : UInt64)
  /-- The device outlives its instance. -/
  | deviceLeaked
  /-- A remark of the embedder. -/
  | remark (text : String)
  deriving DecidableEq

/-- The call that frees objects of a kind to a pool, and the kind of that pool. -/
def Kind.poolCall : Kind → String × Kind
  | .commandBuffer => ("FreeCommandBuffers", .commandPool)
  | _ => ("FreeDescriptorSets", .descriptorPool)

/-- The wording of a finding about an object. -/
def Finding.message (kind : Kind) (handle : Handle) : Finding → String
  | .created index =>
    s!"OBJ[{hexadecimal index}] : CREATE {kind.name} object {hexadecimal handle}"
  | .imageCreated index =>
    s!"OBJ[{hexadecimal index}] : CREATE SwapchainImage object {hexadecimal handle}"
  | .departing total ofKind =>
    s!"OBJ_STAT Destroy {kind.name} obj {hexadecimal handle} ({total} total objs remain & " ++
      s!"{ofKind} {kind.name} objs)."
  | .invalid => s!"Invalid {kind.name} Object {hexadecimal handle}."
  | .wrongDevice =>
    s!"Object {hexadecimal handle} was not created, allocated or retrieved from the " ++
      "correct device."
  | .allocatorMissing =>
    s!"Custom allocator not specified while destroying {kind.name} obj {hexadecimal handle} " ++
      "but specified at creation."
  | .allocatorUnexpected =>
    s!"Custom allocator specified while destroying {kind.name} obj {hexadecimal handle} " ++
      "but not specified at creation."
  | .foreignPool owner pool =>
    s!"{kind.poolCall.1} is attempting to free {kind.name} {hexadecimal handle} belonging to " ++
      s!"{kind.poolCall.2.name} {hexadecimal owner} from pool {hexadecimal pool}."
  | .notSparse call =>
    s!"Attempting {call} on a non-memory-management capable queue -- " ++
      "VK_QUEUE_SPARSE_BINDING_BIT not set."
  | .untracked => s!"Attempted to remove untracked {kind.name} object {hexadecimal handle}."
  | .leaked scope owner index =>
    s!"OBJ ERROR : For {scope.name} {hexadecimal owner}, {kind.name} object " ++
      s!"{hexadecimal handle} (OBJ[{hexadecimal index}]) has not been destroyed."
  | .deviceLeaked =>
    s!"OBJ ERROR : {kind.name} object {hexadecimal handle} has not been destroyed."
  | .remark text => text

/-- A diagnostic about one object. -/
structure Report where
  severity : Severity
  kind : Kind
  handle : Handle
  code : Code
  finding : Finding
  deriving DecidableEq

namespace Report

/-- The wording of a report. -/
def message (r : Report) : String := r.finding.message r.kind r.handle

/-- An object has been entered. -/
def created (e : Record) : Report :=
  ⟨.information, e.kind, e.handle, Code.info, .created e.index⟩

/-- The image of a swapchain has been entered. -/
def imageCreated (e : Record) : Report :=
  ⟨.information, e.kind, e.handle, Code.info, .imageCreated e.index⟩

/-- An object is about to go. -/
def departing (k : Kind) (h : Handle) (total ofKind : Nat) : Report :=
  ⟨.information, k, h, Code.info, .departing total ofKind⟩

/-- A rule has been broken. -/
def error (k : Kind) (h : Handle) (code : Code) (finding : Finding) : Report :=
  ⟨.error, k, h, code, finding⟩

/-- An object outlives its owner. -/
def leaked (scope : Scope) (owner : Handle) (code : Code) (e : Record) : Report :=
  error e.kind e.handle code (.leaked scope owner e.index)

/-- A device outlives its instance. -/
def deviceLeaked (device : Handle) : Report :=
  error .device device Code.objectLeak .deviceLeaked

end Report

end HandleLedger
