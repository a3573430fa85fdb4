import HandleLedger.Proofs.Registry.LookUp

/-!
# Owners within a registry

Command buffers and descriptor sets come out of pools, images out of swapchains. A registry is
`Registry.Housed` if it holds the owner of each of them. Taking an owner out breaks this unless its
children go as well (`Housed.removePool`, `Housed.removeSwapchain`).
-/

set_option autoImplicit false

namespace HandleLedger

/-- The kind of the pool that objects of a kind come out of, if they do. -/
def Kind.pool? : Kind → Option Kind
  | .commandBuffer => some .commandPool
  | .descriptorSet => some .descriptorPool
  | _ => none

namespace Kind

@[simp] theorem pool?_commandBuffer : pool? .commandBuffer = some .commandPool := rfl

@[simp] theorem pool?_descriptorSet : pool? .descriptorSet = some .descriptorPool := rfl

theorem pool?_inj {k k' p : Kind} (h : k.pool? = some p) (h' : k'.pool? = some p) : k = k' := by
  cases k <;> cases h <;> cases k' <;> cases h' <;> rfl

/-- Whether other objects come out of the objects of a kind. -/
def owns : Kind → Bool
  | .commandPool => true
  | .descriptorPool => true
  | .swapchain => true
  | _ => false

theorem owns_of_pool? {k p : Kind} (h : k.pool? = some p) : p.owns = true := by
  cases k <;> cases h <;> rfl

theorem owns_eq_false_of_pool? {k p : Kind} (h : k.pool? = some p) : k.owns = false := by
  cases k <;> cases h <;> rfl

theorem ne_of_owns {k k' : Kind} (h : k.owns = false) (h' : k'.owns = true) : k ≠ k' := by
  rintro rfl
  rw [h] at h'
  cases h'

end Kind

namespace Registry

variable {r r' : Registry} {k k' : Kind} {h h' : Handle}

theorem contains_insert_of_contains (hc : r.contains k h = true) (e : Record) :
    (r.insert e).contains k h = true := by
  obtain ⟨d, hd⟩ := (contains_iff ..).mp hc
  refine (contains_iff ..).mpr ⟨d, ?_⟩
  rw [find?_insert, hd]
  rfl

theorem contains_congr (hf : r'.find? k h = r.find? k h) : r'.contains k h = r.contains k h :=
  congrArg Option.isSome hf

theorem contains_remove (hne : ¬(k = k' ∧ h = h')) :
    (r.remove k h).contains k' h' = r.contains k' h' :=
  contains_congr ((find?_remove ..).trans (if_neg hne))

theorem contains_removeAll (hk : k ≠ k') (hs : List Handle) :
    (r.removeAll k hs).contains k' h' = r.contains k' h' :=
  contains_congr ((find?_removeAll k k' h' hs r).trans (if_neg fun hmem => hk hmem.1))

/-- The registry holds the pool of each pool child and the swapchain of each image. -/
structure Housed (r : Registry) : Prop where
  records : ∀ k p h e, k.pool? = some p → r.find? k h = some e → r.contains p e.parent = true
  images : ∀ h e, r.image? h = some e → r.contains .swapchain e.parent = true

theorem housed_empty : empty.Housed where
  records _ _ _ _ _ he := by cases he
  images _ _ he := by cases he

namespace Housed

theorem insert (hr : r.Housed) {e : Record}
    (he : ∀ p, e.kind.pool? = some p → r.contains p e.parent = true) : (r.insert e).Housed where
  records k p h d hp hd := by
    apply contains_insert_of_contains
    rw [find?_insert, Option.or_eq_some_iff] at hd
    -- the record is an old one, or it is the new one and its pool is there
    rcases hd with hd | ⟨-, hd⟩
    · exact hr.records k p h d hp hd
    · split at hd
      · rename_i hs
        obtain ⟨rfl, -⟩ := hs
        cases hd
        exact he p hp
      · cases hd
  images h d hd := by
    apply contains_insert_of_contains
    rw [image?, images_insert] at hd
    exact hr.images h d hd

theorem insertImage (hr : r.Housed) {e : Record}
    (he : r.contains .swapchain e.parent = true) : (r.insertImage e).Housed where
  records k p h d hp hd := by
    rw [contains_congr (find?_insertImage ..)]
    rw [find?_insertImage] at hd
    exact hr.records k p h d hp hd
  images h d hd := by
    rw [contains_congr (find?_insertImage ..)]
    rw [image?_insertImage, Option.or_eq_some_iff] at hd
    rcases hd with hd | ⟨-, hd⟩
    · exact hr.images h d hd
    · split at hd
      · cases hd
        exact he
      · cases hd

theorem setQueueFamily (hr : r.Housed) (queue : Handle) (family : UInt32) :
    (r.setQueueFamily queue family).Housed :=
  ⟨hr.records, hr.images⟩

theorem setFamilyFlags (hr : r.Housed) (flags : List UInt32) : (r.setFamilyFlags flags).Housed :=
  ⟨hr.records, hr.images⟩

/-- Objects that own nothing may go. -/
theorem remove (hr : r.Housed) (hk : k.owns = false) (h : Handle) : (r.remove k h).Housed where
  records k' p h' e hp he := by
    -- what goes owns nothing, so it is not the pool of the record
    rw [contains_remove fun hs => Kind.ne_of_owns hk (Kind.owns_of_pool? hp) hs.1]
    rw [find?_remove] at he
    split at he
    · cases he
    · exact hr.records k' p h' e hp he
  images h' e he := by
    rw [contains_remove fun hs => Kind.ne_of_owns hk rfl hs.1]
    rw [image?, images_remove] at he
    exact hr.images h' e he

theorem removeAll (hr : r.Housed) (hk : k.owns = false) (hs : List Handle) :
    (r.removeAll k hs).Housed where
  records k' p h' e hp he := by
    rw [contains_removeAll (Kind.ne_of_owns hk (Kind.owns_of_pool? hp))]
    rw [find?_removeAll] at he
    split at he
    · cases he
    · exact hr.records k' p h' e hp he
  images h' e he := by
    rw [contains_removeAll (Kind.ne_of_owns hk rfl)]
    rw [image?, images_removeAll] at he
    exact hr.images h' e he

/-- A pool may go together with its children. -/
theorem removePool (hr : r.Housed) (hf : r.Filed) {child : Kind} (hchild : child.pool? = some k)
    (h : Handle) :
    ((r.remove k h).removeAll child ((r.remove k h).childrenOf child h)).Housed where
  records k' p h' e hp he := by
    rw [contains_removeAll
      (Kind.ne_of_owns (Kind.owns_eq_false_of_pool? hchild) (Kind.owns_of_pool? hp))]
    rw [(hf.remove k h).find?_dropChildren] at he
    split at he
    · rename_i hkind
      subst hkind
      obtain ⟨he, hparent⟩ := Option.filter_eq_some_iff.mp he
      -- a child that is left came out of another pool
      have hother : ¬(k = p ∧ h = e.parent) := by
        rintro ⟨-, rfl⟩
        exact bne_iff_ne.mp hparent rfl
      rw [contains_remove hother]
      rw [find?_remove] at he
      split at he
      · cases he
      · exact hr.records child p h' e hp he
    · rename_i hkind
      -- objects of another kind come out of pools of another kind
      have hother : ¬(k = p ∧ h = e.parent) := by
        rintro ⟨rfl, -⟩
        exact hkind (Kind.pool?_inj hchild hp)
      rw [contains_remove hother]
      rw [find?_remove] at he
      split at he
      · cases he
      · exact hr.records k' p h' e hp he
  images h' e he := by
    have hne : k ≠ .swapchain := by
      rintro rfl
      cases child <;> cases hchild
    rw [contains_removeAll (Kind.ne_of_owns (Kind.owns_eq_false_of_pool? hchild) rfl),
      contains_remove fun hs => hne hs.1]
    rw [image?, images_removeAll, images_remove] at he
    exact hr.images h' e he

/-- A swapchain may go together with its images. -/
theorem removeSwapchain (hr : r.Housed) (h : Handle) :
    ((r.remove .swapchain h).removeImages h).Housed where
  records k' p h' e hp he := by
    have hne : Kind.swapchain ≠ p := by
      rintro rfl
      cases k' <;> cases hp
    show (r.remove .swapchain h).contains p e.parent = true
    rw [contains_remove fun hs => hne hs.1]
    have he' : (r.remove .swapchain h).find? k' h' = some e := he
    rw [find?_remove] at he'
    split at he'
    · cases he'
    · exact hr.records k' p h' e hp he'
  images h' e he := by
    rw [image?_removeImages, Option.filter_eq_some_iff] at he
    obtain ⟨he, hparent⟩ := he
    -- an image that is left was handed out by another swapchain
    show (r.remove .swapchain h).contains .swapchain e.parent = true
    rw [contains_remove fun hs => bne_iff_ne.mp hparent hs.2.symm]
    rw [image?, images_remove] at he
    exact hr.images h' e he

end Housed

end Registry

end HandleLedger
