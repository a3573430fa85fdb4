import HandleLedger.Kind
import HandleLedger.Status
import HandleLedger.Table

/-!
# Records

A record is the entry of one live object. Objects of different kinds may share a handle, so a
record is filed under its `Slot`, the pair of kind and handle. Slots stand in order of kind, then
of handle.
-/

set_option autoImplicit false

namespace HandleLedger

/-- The value of a handle. -/
abbrev Handle := UInt64

/-- The handle of no object. -/
def nullHandle : Handle := 0

/-- The place under which an object is filed. -/
structure Slot where
  kind : Kind
  handle : Handle
  deriving DecidableEq, Repr

instance : Ranked Slot where
  rank s := s.kind.index * UInt64.size + s.handle.toNat
  eq_of_rank_eq := by
    rintro ⟨k, h⟩ ⟨k', h'⟩ e
    have lt := h.toNat_lt_size
    have lt' := h'.toNat_lt_size
    simp only [UInt64.size] at e lt lt'
    have hk : k = k' := Kind.index_inj (by omega)
    have hh : h = h' := UInt64.toNat_inj.mp (by omega)
    rw [hk, hh]

/-- The entry of one live object. -/
structure Record where
  kind : Kind
  handle : Handle
  status : Status
  /-- The pool or swapchain that the object came from, null when there is none. -/
  parent : Handle
  /-- The creation index of the object. -/
  index : UInt64
  deriving DecidableEq, Repr

namespace Record

/-- Where a record is filed. -/
def slot (r : Record) : Slot := ⟨r.kind, r.handle⟩

/-- Whether the object was created with allocation callbacks. -/
def custom (r : Record) : Bool := r.status.contains .customAllocator

end Record

end HandleLedger
