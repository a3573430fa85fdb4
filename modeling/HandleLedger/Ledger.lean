import HandleLedger.Context

/-!
# The ledger

The ledger is the directory of contexts and the creation index that the next object gets, whatever
its context. The index is a machine word and starts again at zero after `2 ^ 64` objects.
-/

set_option autoImplicit false

namespace HandleLedger

/-- The books of all contexts, and the next creation index. -/
structure Ledger where
  contexts : Directory
  nextIndex : UInt64

namespace Ledger

/-- The ledger of a process that has created nothing. -/
def empty : Ledger := ⟨.empty, 0⟩

/-- The context with this identity. -/
def context? (l : Ledger) (id : ContextId) : Option Context := l.contexts.find? id

/-- The key of the instance that a device was created from. -/
def instanceOf (l : Ledger) (device : DispatchKey) : Option DispatchKey :=
  (l.context? (.ofDevice device)).bind (·.parent)

/-- Change the registry of a context, if it is known. -/
def modifyRegistry (l : Ledger) (id : ContextId) (f : Registry → Registry) : Ledger :=
  { l with contexts := l.contexts.adjust id fun c => { c with registry := f c.registry } }

/-! ## Counts -/

/-- The number of objects of a kind in a context. -/
def objectCount (l : Ledger) (id : ContextId) (k : Kind) : Nat :=
  (l.context? id).elim 0 (·.registry.count k)

/-- The number of objects in a context. -/
def totalCount (l : Ledger) (id : ContextId) : Nat :=
  (l.context? id).elim 0 (·.registry.total)

/-- The number of images of swapchains in a context. -/
def imageCount (l : Ledger) (id : ContextId) : Nat :=
  (l.context? id).elim 0 (·.registry.imageCount)

/-- Whether a context knows the handle as an object of the kind. -/
def tracks (l : Ledger) (id : ContextId) (k : Kind) (h : Handle) : Bool :=
  (l.context? id).elim false (·.registry.tracks k h)

/-- The status bits of an object of a context. -/
def status? (l : Ledger) (id : ContextId) (k : Kind) (h : Handle) : Option Status :=
  (l.context? id).bind fun c => (c.registry.find? k h).map (·.status)

end Ledger

end HandleLedger
