import HandleLedger.Check

/-!
# Validation

The checks that are made before a call. Each handle that a call is given has to name a live object
of the right kind in the addressed context (`Ledger.checkArgument`); an object that is destroyed
has to be destroyed the way it was created (`Ledger.checkDestroy`); an object that is freed has to
belong to the named pool (`Ledger.checkPoolChild`); and a queue has to be capable of what it is
asked to do (`Ledger.checkSparse`).
-/

set_option autoImplicit false

namespace HandleLedger

/-- A handle that a call is given, and the rule that it has to obey. -/
structure Argument where
  handle : Handle
  kind : Kind
  /-- Whether the null handle will do. -/
  nullAllowed : Bool
  /-- What is broken by a handle that no device knows. -/
  invalid : Code
  /-- What is broken by a handle that only another device knows, if anything. -/
  wrongDevice : Option Code

namespace Argument

/-- An argument that has to be there. -/
def required (k : Kind) (h : Handle) (invalid : Code) (wrongDevice : Option Code) :
    Argument :=
  ⟨h, k, false, invalid, wrongDevice⟩

/-- An argument that may be null. -/
def nullable (k : Kind) (h : Handle) (invalid : Code) (wrongDevice : Option Code) :
    Argument :=
  ⟨h, k, true, invalid, wrongDevice⟩

/-- The report of a handle that no device knows. -/
def invalidReport (a : Argument) : Report := .error a.kind a.handle a.invalid .invalid

end Argument

/-- The key of a device whose own registry a search among the devices leaves out. -/
def ContextId.ownDevice (id : ContextId) : Option DispatchKey :=
  match id.scope with
  | .instanceLevel => none
  | .deviceLevel => some id.key

namespace Ledger

/-- Whether the registry of some instance holds this device. -/
def knowsDevice (l : Ledger) (device : Handle) : Bool :=
  l.contexts.instances.any (·.registry.contains .device device)

/-- Whether a device other than the addressed context knows the object. -/
def knownElsewhere (l : Ledger) (id : ContextId) (k : Kind) (h : Handle) : Bool :=
  (l.contexts.devicesExcept id.ownDevice).any (·.registry.tracks k h)

/-- Check a device. It is valid if any instance holds it, whatever context is addressed. -/
def checkDevice (l : Ledger) (id : ContextId) (device : Handle) (invalid : Code) : Check :=
  if l.knowsDevice device then .pass
  else l.within id fun c => .ask c.sink (.error .device device invalid .invalid)

/-- Check an argument. An object that only another device knows breaks a rule of its own, if the
call has one; surfaces are shared between devices. -/
def checkArgument (l : Ledger) (id : ContextId) (a : Argument) : Check :=
  if a.nullAllowed ∧ a.handle = nullHandle then .pass
  else if a.kind = .device then l.checkDevice id a.handle a.invalid
  else l.within id fun c =>
    if c.registry.tracks a.kind a.handle then .pass
    else if l.knownElsewhere id a.kind a.handle then
      match a.wrongDevice with
      | none => .pass
      | some code =>
        if a.kind = .surface then .pass
        else .ask c.sink (.error a.kind a.handle code .wrongDevice)
    else .ask c.sink a.invalidReport

/-- Check every argument, in order. -/
def checkArguments (l : Ledger) (id : ContextId) (as : List Argument) : Check :=
  .all (as.map (l.checkArgument id))

/-- The finding about the allocation callbacks of an object and of its destruction, if the one has
some and the other has none. -/
def allocatorFinding (created destroyed : Bool) (customCode defaultCode : Option Code) :
    Option (Code × Finding) :=
  match created, destroyed with
  | true, false => customCode.map (·, .allocatorMissing)
  | false, true => defaultCode.map (·, .allocatorUnexpected)
  | _, _ => none

/-- Announce that an object goes, and check that allocation callbacks are passed exactly if they
were at its creation. Null and unknown handles pass. -/
def checkDestroy (l : Ledger) (id : ContextId) (k : Kind) (h : Handle) (custom : Bool)
    (customCode defaultCode : Option Code) : Check :=
  if h = nullHandle then .pass
  else l.within id fun c =>
    match c.registry.find? k h with
    | none => .pass
    | some e =>
      Check.ask c.sink (.departing k h (c.registry.total - 1) (c.registry.count k - 1)) ++
        match allocatorFinding e.custom custom customCode defaultCode with
        | none => .pass
        | some (code, finding) => .ask c.sink (.error k h code finding)

/-- Check that an object belongs to the pool that it is freed to. -/
def checkPoolChild (l : Ledger) (device : DispatchKey) (k : Kind) (pool h : Handle)
    (invalid foreign : Code) : Check :=
  l.within (.ofDevice device) fun c =>
    match c.registry.find? k h with
    | none => .ask c.sink (.error k h invalid .invalid)
    | some e =>
      if e.parent = pool then .pass
      else .ask c.sink (.error k h foreign (.foreignPool e.parent pool))

/-- Check that a command buffer belongs to a pool. -/
def checkCommandBuffer (l : Ledger) (device : DispatchKey) (pool buffer : Handle) : Check :=
  l.checkPoolChild device .commandBuffer pool buffer Code.freedCommandBuffer
    Code.freedCommandBufferPool

/-- Check that a descriptor set belongs to a pool. -/
def checkDescriptorSet (l : Ledger) (device : DispatchKey) (pool set : Handle) : Check :=
  l.checkPoolChild device .descriptorSet pool set Code.freedDescriptorSet
    Code.freedDescriptorSetPool

/-- The capability bit of sparse binding. -/
def sparseBit : UInt32 := 8

/-- The capabilities of a queue, if its family and the capabilities of that are known. -/
def queueFlags? (c : Context) (queue : Handle) : Option UInt32 :=
  (c.registry.queueFamily? queue).bind c.registry.familyFlags?

/-- Check that a queue is capable of sparse binding. One whose capabilities are not known
passes. -/
def checkSparse (l : Ledger) (device : DispatchKey) (queue : Handle) (call : String) : Check :=
  l.within (.ofDevice device) fun c =>
    match queueFlags? c queue with
    | none => .pass
    | some flags =>
      if flags &&& sparseBit = sparseBit then .pass
      else .ask c.sink (.error .queue queue Code.sparseQueue (.notSparse call))

end Ledger

end HandleLedger
