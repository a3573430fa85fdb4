import HandleLedger.Proofs.Registry.Inventory

/-!
# Dropping kinds

Kinds are dropped from a registry one record at a time. `Filed.find?_dropKinds` says which records
are left; this module says what becomes of the counters (`Reckoned.count_dropKinds`,
`Reckoned.total_dropKinds`), and that a walk through the handles of each kind in any other order
would leave the same registry (`Drops.eq_dropKinds`).

The counters are true before and after, so their change is read off the records and not followed
from one removal to the next.
-/

set_option autoImplicit false

namespace HandleLedger

theorem Tally.decrement_comm (t : Tally) (k k' : Kind) :
    (t.decrement k).decrement k' = (t.decrement k').decrement k := by
  apply Tally.ext_count
  · intro l
    simp only [Tally.count_decrement]
    split <;> split <;> rfl
  · rfl

namespace Registry

/-! ## The order of removals -/

theorem contains_remove_of_ne {k k' : Kind} {h h' : Handle} (hne : ¬(k = k' ∧ h = h'))
    (r : Registry) : (r.remove k h).contains k' h' = r.contains k' h' := by
  have hfind := r.find?_remove k k' h h'
  rw [if_neg hne] at hfind
  exact congrArg Option.isSome hfind

theorem tally_remove (r : Registry) (k : Kind) (h : Handle) :
    (r.remove k h).tally = if r.contains k h then r.tally.decrement k else r.tally := by
  rw [remove]
  split <;> rfl

/-- Registries with the same tables and counters are equal. -/
theorem ext_find? {r r' : Registry} (hfind : ∀ k h, r.find? k h = r'.find? k h)
    (htally : r.tally = r'.tally) (himages : r.images = r'.images)
    (hqueues : r.queueFamilies = r'.queueFamilies) (hflags : r.familyFlags = r'.familyFlags) :
    r = r' := by
  obtain ⟨records, tally, images, queues, flags⟩ := r
  obtain ⟨records', tally', images', queues', flags'⟩ := r'
  have hrecords : records = records' := Table.ext_find? fun s => hfind s.kind s.handle
  cases hrecords
  cases htally
  cases himages
  cases hqueues
  cases hflags
  rfl

/-- Removals commute. -/
theorem remove_comm (r : Registry) (k k' : Kind) (h h' : Handle) :
    (r.remove k h).remove k' h' = (r.remove k' h').remove k h := by
  by_cases hsame : k = k' ∧ h = h'
  · obtain ⟨rfl, rfl⟩ := hsame
    rfl
  have hother : ¬(k' = k ∧ h' = h) := fun he => hsame ⟨he.1.symm, he.2.symm⟩
  apply ext_find?
  · intro l o
    simp only [find?_remove]
    split <;> split <;> rfl
  · -- either removal finds its record or not, whether the other has been made or not
    simp only [tally_remove, contains_remove_of_ne hsame, contains_remove_of_ne hother]
    split <;> split
    · exact Tally.decrement_comm ..
    · rfl
    · rfl
    · rfl
  · simp
  · simp
  · simp

theorem removeAll_perm (k : Kind) {hs hs' : List Handle} (h : hs.Perm hs') (r : Registry) :
    r.removeAll k hs = r.removeAll k hs' :=
  h.foldl_eq' (fun x _ y _ r => remove_comm r k k x y) r

/-- The second registry is what is left of the first by a walk through these kinds that takes the
records of each kind out in some order. -/
inductive Drops : List Kind → Registry → Registry → Prop
  | nil (r : Registry) : Drops [] r r
  | cons {k : Kind} {ks : List Kind} {r r' : Registry} (hs : List Handle)
    (hperm : hs.Perm (r.handlesOf k)) (hrest : Drops ks (r.removeAll k hs) r') :
    Drops (k :: ks) r r'

/-- All walks leave the same. -/
theorem Drops.eq_dropKinds {ks : List Kind} {r r' : Registry} (h : Drops ks r r') :
    r' = r.dropKinds ks := by
  induction h with
  | nil r => rfl
  | cons hs hperm hrest ih =>
    rw [ih, removeAll_perm _ hperm]
    rfl

/-! ## What is left -/

theorem images_dropKinds : ∀ (ks : List Kind) (r : Registry), (r.dropKinds ks).images = r.images
  | [], _ => rfl
  | k :: ks, r => (images_dropKinds ks _).trans (images_removeAll k _ r)

theorem queueFamilies_dropKinds :
    ∀ (ks : List Kind) (r : Registry), (r.dropKinds ks).queueFamilies = r.queueFamilies
  | [], _ => rfl
  | k :: ks, r => (queueFamilies_dropKinds ks _).trans (queueFamilies_removeAll k _ r)

theorem familyFlags_dropKinds :
    ∀ (ks : List Kind) (r : Registry), (r.dropKinds ks).familyFlags = r.familyFlags
  | [], _ => rfl
  | k :: ks, r => (familyFlags_dropKinds ks _).trans (familyFlags_removeAll k _ r)

/-- Kinds that are not there are dropped without a change. -/
theorem dropKinds_eq_self (r : Registry) :
    ∀ ks : List Kind, (∀ k ∈ ks, r.recordsOf k = []) → r.dropKinds ks = r
  | [], _ => rfl
  | k :: ks, h => by
    have hnone : r.handlesOf k = [] := by
      rw [handlesOf, h k List.mem_cons_self]
      rfl
    show (r.removeAll k (r.handlesOf k)).dropKinds ks = r
    rw [hnone]
    exact dropKinds_eq_self r ks fun k' hk' => h k' (List.mem_cons_of_mem _ hk')

namespace Filed

variable {r : Registry}

/-- An inventory of some kinds and one of the others are together an inventory of all. -/
theorem perm_values (hr : r.Filed) {P : Kind → Prop} {es fs : List Record} (hes : r.Lists P es)
    (hfs : r.Lists (fun k => ¬P k) fs) : (es ++ fs).Perm r.records.values := by
  have hdisjoint : ∀ e ∈ es, ∀ e' ∈ fs, e ≠ e' := by
    rintro e he e' he' rfl
    exact ((hfs.mem_iff e).mp he').1 ((hes.mem_iff e).mp he).1
  have hnodup : (es ++ fs).Nodup := List.nodup_append.mpr ⟨hes.nodup, hfs.nodup, hdisjoint⟩
  refine (List.perm_ext_iff_of_nodup hnodup hr.nodup_values).mpr fun e => ?_
  rw [List.mem_append, hes.mem_iff, hfs.mem_iff, hr.lists_values.mem_iff, ← or_and_right]
  exact and_congr_left fun _ => iff_of_true (em _) trivial

theorem recordsOf_dropKinds (hr : r.Filed) (ks : List Kind) (k : Kind) :
    ((r.dropKinds ks).recordsOf k).Perm (if k ∈ ks then [] else r.recordsOf k) := by
  have hleft : (r.dropKinds ks).Filed := .dropKinds ks hr
  have hnodup : (if k ∈ ks then [] else r.recordsOf k).Nodup := by
    split
    · exact List.nodup_nil
    · exact hr.nodup_recordsOf k
  refine (List.perm_ext_iff_of_nodup (hleft.nodup_recordsOf k) hnodup).mpr fun e => ?_
  rw [hleft.mem_recordsOf, hr.find?_dropKinds]
  split
  · exact iff_of_false (Option.some_ne_none e).symm List.not_mem_nil
  · exact (hr.mem_recordsOf k e).symm

theorem recordsOf_dropKinds_of_mem (hr : r.Filed) {ks : List Kind} {k : Kind} (hk : k ∈ ks) :
    (r.dropKinds ks).recordsOf k = [] := by
  have hperm := hr.recordsOf_dropKinds ks k
  rw [if_pos hk] at hperm
  exact hperm.eq_nil

/-- To drop kinds again changes nothing. -/
theorem dropKinds_dropKinds (hr : r.Filed) (ks : List Kind) :
    (r.dropKinds ks).dropKinds ks = r.dropKinds ks :=
  dropKinds_eq_self _ ks fun _ => hr.recordsOf_dropKinds_of_mem

end Filed

/-! ## The counters -/

namespace Reckoned

variable {r : Registry}

theorem count_eq (hr : r.Reckoned) (k : Kind) : r.count k = (r.recordsOf k).length := by
  obtain ⟨a, ha⟩ := hr
  exact ha.balanced.count k

theorem count_dropKinds (hr : r.Reckoned) (hfiled : r.Filed) (ks : List Kind) (k : Kind) :
    (r.dropKinds ks).count k = if k ∈ ks then 0 else r.count k := by
  rw [(hr.dropKinds ks).count_eq, (hfiled.recordsOf_dropKinds ks k).length_eq]
  split
  · rfl
  · exact (hr.count_eq k).symm

/-- The total falls by as many as there were records of the kinds. -/
theorem total_dropKinds (hr : r.Reckoned) (hfiled : r.Filed) {ks : List Kind} {es : List Record}
    (hes : r.Lists (· ∈ ks) es) : (r.dropKinds ks).total + es.length = r.total := by
  have hleft : (r.dropKinds ks).Filed := .dropKinds ks hfiled
  have hothers := hfiled.lists_dropKinds.mp hleft.lists_values
  simp only [true_and] at hothers
  have hall := (hfiled.perm_values hes hothers).length_eq
  rw [List.length_append] at hall
  rw [(hr.dropKinds ks).total_eq, hr.total_eq]
  omega

/-- A walk kind by kind meets as many records of each kind as the tally shows. -/
theorem map_kind_flatMap (hr : r.Reckoned) (ks : List Kind) :
    (ks.flatMap r.recordsOf).map (·.kind) = ks.flatMap fun k => .replicate (r.count k) k := by
  rw [List.map_flatMap]
  refine congrArg (List.flatMap · ks) (funext fun k => ?_)
  rw [hr.count_eq, List.eq_replicate_iff]
  refine ⟨List.length_map .., fun k' hk' => ?_⟩
  obtain ⟨e, he, rfl⟩ := List.mem_map.mp hk'
  exact of_decide_eq_true (List.mem_filter.mp he).2

end Reckoned

end Registry

end HandleLedger
