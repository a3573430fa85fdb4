import HandleLedger.Record
import HandleLedger.Registry.Tally

/-!
# Registries

The registry of a context holds the records of its live objects. Three more tables stand beside
the records: the images that swapchains have handed out, which are not counted as objects; the
family of each retrieved queue; and the capabilities of each queue family.

The first record of a slot stays until it is removed: entering a slot that is taken changes
nothing.
-/

set_option autoImplicit false

namespace HandleLedger

/-- The books of one instance or device. -/
structure Registry where
  records : Table Slot Record
  tally : Tally
  /-- The images of swapchains, whose parent is the swapchain. -/
  images : Table Handle Record
  /-- The family of each retrieved queue. -/
  queueFamilies : Table Handle UInt32
  /-- The capability bits of each queue family, by its number. -/
  familyFlags : List UInt32

namespace Registry

/-- The registry of a context that has just come into being. -/
def empty : Registry := ⟨.empty, .zero, .empty, .empty, []⟩

/-! ## Objects -/

/-- The record of an object. -/
def find? (r : Registry) (k : Kind) (h : Handle) : Option Record := r.records.find? ⟨k, h⟩

/-- Whether there is a record of the object. -/
def contains (r : Registry) (k : Kind) (h : Handle) : Bool := r.records.contains ⟨k, h⟩

/-- Whether the handle is known as an object of the kind. Images of swapchains are known as
images. -/
def tracks (r : Registry) (k : Kind) (h : Handle) : Bool :=
  r.contains k h || (k == .image && r.images.contains h)

/-- Enter a record, unless its slot is taken. -/
def insert (r : Registry) (e : Record) : Registry :=
  if r.contains e.kind e.handle then r
  else { r with records := r.records.insert e.slot e, tally := r.tally.increment e.kind }

/-- Take the record of an object out, if there is one. -/
def remove (r : Registry) (k : Kind) (h : Handle) : Registry :=
  if r.contains k h then
    { r with records := r.records.erase ⟨k, h⟩, tally := r.tally.decrement k }
  else r

/-- Take the records of several objects of a kind out. -/
def removeAll (r : Registry) (k : Kind) (hs : List Handle) : Registry :=
  hs.foldl (·.remove k ·) r

/-- The number of objects of a kind. -/
def count (r : Registry) (k : Kind) : Nat := r.tally.count k

/-- The number of objects. -/
def total (r : Registry) : Nat := r.tally.total

/-- The records of a kind, by handle. -/
def recordsOf (r : Registry) (k : Kind) : List Record := r.records.values.filter (·.kind = k)

/-- The objects of a kind, by handle. -/
def handlesOf (r : Registry) (k : Kind) : List Handle := (r.recordsOf k).map (·.handle)

/-- The objects of a kind that came out of a pool, by handle. -/
def childrenOf (r : Registry) (k : Kind) (pool : Handle) : List Handle :=
  ((r.recordsOf k).filter (·.parent = pool)).map (·.handle)

/-- Forget everything but the capabilities of the queue families. -/
def drain (r : Registry) : Registry := { empty with familyFlags := r.familyFlags }

/-! ## Images of swapchains -/

/-- The record of an image of a swapchain. -/
def image? (r : Registry) (h : Handle) : Option Record := r.images.find? h

/-- Enter an image of a swapchain, unless it is known already. -/
def insertImage (r : Registry) (e : Record) : Registry :=
  if r.images.contains e.handle then r
  else { r with images := r.images.insert e.handle e }

/-- The number of images of swapchains. -/
def imageCount (r : Registry) : Nat := r.images.size

/-- Forget the images of a swapchain. -/
def removeImages (r : Registry) (swapchain : Handle) : Registry :=
  { r with images := r.images.filter fun _ e => e.parent != swapchain }

/-! ## Queues -/

/-- Note the family that a queue was retrieved from, in place of an earlier note. -/
def setQueueFamily (r : Registry) (queue : Handle) (family : UInt32) : Registry :=
  { r with queueFamilies := r.queueFamilies.insert queue family }

/-- The family that a queue was retrieved from. -/
def queueFamily? (r : Registry) (queue : Handle) : Option UInt32 := r.queueFamilies.find? queue

/-- Forget the families of all queues. -/
def clearQueueFamilies (r : Registry) : Registry := { r with queueFamilies := .empty }

/-- Note the capabilities of the queue families. -/
def setFamilyFlags (r : Registry) (flags : List UInt32) : Registry :=
  { r with familyFlags := flags }

/-- The capabilities of a queue family. -/
def familyFlags? (r : Registry) (family : UInt32) : Option UInt32 := r.familyFlags[family.toNat]?

end Registry

end HandleLedger
