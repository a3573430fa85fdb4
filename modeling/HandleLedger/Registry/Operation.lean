import HandleLedger.Registry

/-!
# Operations on a registry

The operations of a registry as data, each with its answer, so that a history of a registry is a
list and its effect a fold.
-/

set_option autoImplicit false

namespace HandleLedger.Registry

/-- An operation on a registry. -/
inductive Operation
  | insert (e : Record)
  | remove (k : Kind) (h : Handle)
  | drain
  | insertImage (e : Record)
  | removeImages (swapchain : Handle)
  | setQueueFamily (queue : Handle) (family : UInt32)
  | clearQueueFamilies
  | setFamilyFlags (flags : List UInt32)
  | find (k : Kind) (h : Handle)
  | contains (k : Kind) (h : Handle)
  | tracks (k : Kind) (h : Handle)
  | count (k : Kind)
  | total
  | recordsOf (k : Kind)
  | childrenOf (k : Kind) (pool : Handle)
  | image (h : Handle)
  | imageCount
  | queueFamily (queue : Handle)
  | familyFlags (family : UInt32)

/-- The answer of an operation. -/
inductive Answer
  | done
  | flag (b : Bool)
  | number (n : Nat)
  | record (e : Option Record)
  | records (es : List Record)
  | handles (hs : List Handle)
  | word (w : Option UInt32)
  deriving DecidableEq

namespace Operation

/-- The answer of an operation and the registry after it. -/
def run (op : Operation) (r : Registry) : Answer × Registry :=
  match op with
  | .insert e => (.flag (!r.contains e.kind e.handle), r.insert e)
  | .remove k h => (.record (r.find? k h), r.remove k h)
  | .drain => (.number r.total, r.drain)
  | .insertImage e => (.flag (!r.images.contains e.handle), r.insertImage e)
  | .removeImages swapchain =>
    (.number (r.imageCount - (r.removeImages swapchain).imageCount), r.removeImages swapchain)
  | .setQueueFamily queue family => (.done, r.setQueueFamily queue family)
  | .clearQueueFamilies => (.done, r.clearQueueFamilies)
  | .setFamilyFlags flags => (.done, r.setFamilyFlags flags)
  | .find k h => (.record (r.find? k h), r)
  | .contains k h => (.flag (r.contains k h), r)
  | .tracks k h => (.flag (r.tracks k h), r)
  | .count k => (.number (r.count k), r)
  | .total => (.number r.total, r)
  | .recordsOf k => (.records (r.recordsOf k), r)
  | .childrenOf k pool => (.handles (r.childrenOf k pool), r)
  | .image h => (.record (r.image? h), r)
  | .imageCount => (.number r.imageCount, r)
  | .queueFamily queue => (.word (r.queueFamily? queue), r)
  | .familyFlags family => (.word (r.familyFlags? family), r)

/-- The answers of a history, in order, and the registry after it. -/
def runAll : List Operation → Registry → List Answer × Registry
  | [], r => ([], r)
  | op :: ops, r =>
    let (answer, r) := op.run r
    let (answers, r) := runAll ops r
    (answer :: answers, r)

end Operation

end HandleLedger.Registry
