import HandleLedger.Action

/-!
# The life of a context

Books are opened for an instance or a device when it is created, in place of books that were open
under the same identity, and closed when it is destroyed. Closing the books of an instance closes
those of its devices first.
-/

set_option autoImplicit false

namespace HandleLedger.Ledger

/-- File a new context, with a note in the log if another one was filed there. -/
def openContext (c : Context) (opening : Log) : Action Unit := fun l =>
  let replaced := if l.contexts.contains c.id then [.log (.replaced c.id)] else []
  ⟨(), { l with contexts := l.contexts.file c }, .log opening :: replaced⟩

/-- Open the books of an instance. Its reports, and those of its devices, go to the sink. -/
def openInstance (key : DispatchKey) (handle : Handle) (sink : Sink) : Action Unit :=
  openContext ⟨.instanceLevel, key, handle, none, sink, .empty⟩ (.registeringInstance key handle)

/-- Open the books of a device, if its instance is known, and say whether it is. -/
def openDevice (instanceKey key : DispatchKey) (handle : Handle) : Action Bool :=
  Action.within (.ofInstance instanceKey) false fun parent => do
    openContext ⟨.deviceLevel, key, handle, some instanceKey, parent.sink, .empty⟩
      (.registeringDevice instanceKey key handle)
    return true

/-- Close the books of a context, if it is known. What it still holds is forgotten. -/
def closeContext (id : ContextId) : Action Unit := fun l =>
  match l.context? id with
  | none => ⟨(), l, []⟩
  | some c =>
    ⟨(), { l with contexts := l.contexts.erase id }, [.log (.destroyed id c.registry.total)]⟩

/-- Close the books of a device. -/
def closeDevice (key : DispatchKey) : Action Unit := closeContext (.ofDevice key)

/-- Close the books of an instance and before that those of its devices. -/
def closeInstance (key : DispatchKey) : Action Unit := fun l =>
  (do
    Action.each ((l.contexts.devicesOf key).map (·.key)) closeDevice
    closeContext (.ofInstance key) : Action Unit) l

end HandleLedger.Ledger
