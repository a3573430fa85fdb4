/-!
# Status bits

Each record carries a word of status bits. Two bits have a meaning here; all others are kept as
they are.
-/

set_option autoImplicit false

namespace HandleLedger

/-- The status bits of a record. -/
structure Status where
  bits : UInt32
  deriving DecidableEq, Repr

namespace Status

/-- No bit set. -/
def none : Status := ⟨0⟩

/-- The bit of a command buffer of secondary level. -/
def secondaryCommandBuffer : Status := ⟨0x40⟩

/-- The bit of an object that was created with allocation callbacks. -/
def customAllocator : Status := ⟨0x80⟩

/-- Whether every bit of `part` is set. -/
def contains (s part : Status) : Bool := s.bits &&& part.bits == part.bits

/-- The status of an object created with or without allocation callbacks. -/
def ofAllocator (custom : Bool) : Status := if custom then customAllocator else none

/-- The status of a command buffer of a level; level one is the secondary level. -/
def ofLevel (level : Int32) : Status := if level = 1 then secondaryCommandBuffer else none

theorem custom_ofAllocator (custom : Bool) :
    (ofAllocator custom).contains .customAllocator = custom := by
  cases custom <;> decide

theorem custom_ofLevel (level : Int32) : (ofLevel level).contains .customAllocator = false := by
  rw [ofLevel]
  split <;> decide

end Status

end HandleLedger
