import HandleLedger.Registry

/-!
# Look-ups in a registry

Each operation of a registry is described by what it does to the look-ups, so that nothing further
has to open a table. The bulk removals act as filters of the records (`Filed.find?_dropKind`,
`Filed.find?_dropChildren`). That needs the representation invariant `Registry.Filed`: a record
stands under its own slot, an image under its own handle.
-/

set_option autoImplicit false

namespace HandleLedger

universe u v

theorem Ranked.rank_eq_iff {κ : Type u} [Ranked κ] {a b : κ} : rank a = rank b ↔ a = b :=
  ⟨Ranked.eq_of_rank_eq, fun h => h ▸ rfl⟩

namespace Table

variable {κ : Type u} {α : Type v} [Ranked κ]

theorem contains_iff (t : Table κ α) (k : κ) : t.contains k = true ↔ ∃ a, t.find? k = some a :=
  Option.isSome_iff_exists

theorem contains_eq_false_iff (t : Table κ α) (k : κ) :
    t.contains k = false ↔ t.find? k = none := by
  rw [contains, Option.isSome_eq_false_iff, Option.isNone_iff_eq_none]

/-- Keeping the entries that pass a test filters the look-ups. -/
theorem find?_filter (t : Table κ α) (p : κ → α → Bool) (k : κ) :
    (t.filter p).find? k = (t.find? k).filter (p k) := by
  -- both look-ups are read off the entries, in which a key stands at most once
  have key : ∀ a, (t.filter p).find? k = some a ↔ (t.find? k).filter (p k) = some a := by
    intro a
    rw [← mem_entries_iff, Option.filter_eq_some_iff, ← mem_entries_iff]
    exact List.mem_filter
  exact Option.ext key

theorem mem_values_iff (t : Table κ α) (a : α) : a ∈ t.values ↔ ∃ k, t.find? k = some a := by
  constructor
  · intro h
    obtain ⟨⟨k, b⟩, he, rfl⟩ := List.mem_map.mp h
    exact ⟨k, (mem_entries_iff t k b).mp he⟩
  · rintro ⟨k, h⟩
    exact List.mem_map.mpr ⟨(k, a), (mem_entries_iff t k a).mpr h, rfl⟩

end Table

namespace Registry

/-! ## Entering -/

theorem contains_iff (r : Registry) (k : Kind) (h : Handle) :
    r.contains k h = true ↔ ∃ e, r.find? k h = some e :=
  Table.contains_iff r.records ⟨k, h⟩

theorem contains_eq_false_iff (r : Registry) (k : Kind) (h : Handle) :
    r.contains k h = false ↔ r.find? k h = none :=
  Table.contains_eq_false_iff r.records ⟨k, h⟩

/-- The handle is known as an object of the kind, by its record or as an image of a swapchain. -/
def Holds (r : Registry) (k : Kind) (h : Handle) : Prop :=
  (r.find? k h).isSome ∨ k = .image ∧ (r.image? h).isSome

theorem tracks_iff (r : Registry) (k : Kind) (h : Handle) :
    r.tracks k h = true ↔ r.Holds k h := by
  rw [tracks, Bool.or_eq_true, Bool.and_eq_true, beq_iff_eq]
  exact Iff.rfl

/-- The first record of a slot stays. -/
theorem find?_insert (r : Registry) (e : Record) (k : Kind) (h : Handle) :
    (r.insert e).find? k h =
      (r.find? k h).or (if e.kind = k ∧ e.handle = h then some e else none) := by
  by_cases hs : e.kind = k ∧ e.handle = h
  · obtain ⟨rfl, rfl⟩ := hs
    rw [if_pos ⟨rfl, rfl⟩, insert]
    cases hc : r.contains e.kind e.handle with
    | true =>
      -- the slot is taken, and its record stays
      obtain ⟨d, hd⟩ := (contains_iff ..).mp hc
      rw [if_pos rfl, hd]
      rfl
    | false =>
      have hn := (contains_eq_false_iff ..).mp hc
      rw [if_neg Bool.false_ne_true, hn]
      exact Table.find?_insert_self ..
  · rw [if_neg hs, Option.or_none, insert]
    split
    · rfl
    · refine Table.find?_insert_of_ne _ (fun heq => hs ?_) e
      have heq' : (⟨e.kind, e.handle⟩ : Slot) = ⟨k, h⟩ := heq
      rw [Slot.mk.injEq] at heq'
      exact heq'

@[simp] theorem images_insert (r : Registry) (e : Record) : (r.insert e).images = r.images := by
  rw [insert]
  split <;> rfl

@[simp] theorem queueFamilies_insert (r : Registry) (e : Record) :
    (r.insert e).queueFamilies = r.queueFamilies := by
  rw [insert]
  split <;> rfl

@[simp] theorem familyFlags_insert (r : Registry) (e : Record) :
    (r.insert e).familyFlags = r.familyFlags := by
  rw [insert]
  split <;> rfl

@[simp] theorem records_insertImage (r : Registry) (e : Record) :
    (r.insertImage e).records = r.records := by
  rw [insertImage]
  split <;> rfl

@[simp] theorem queueFamilies_insertImage (r : Registry) (e : Record) :
    (r.insertImage e).queueFamilies = r.queueFamilies := by
  rw [insertImage]
  split <;> rfl

@[simp] theorem familyFlags_insertImage (r : Registry) (e : Record) :
    (r.insertImage e).familyFlags = r.familyFlags := by
  rw [insertImage]
  split <;> rfl

@[simp] theorem find?_insertImage (r : Registry) (e : Record) (k : Kind) (h : Handle) :
    (r.insertImage e).find? k h = r.find? k h := by
  rw [find?, records_insertImage]
  rfl

/-- The first owner of an image stays. -/
theorem image?_insertImage (r : Registry) (e : Record) (h : Handle) :
    (r.insertImage e).image? h = (r.image? h).or (if e.handle = h then some e else none) := by
  by_cases hh : e.handle = h
  · subst hh
    rw [if_pos rfl, insertImage]
    cases hc : r.images.contains e.handle with
    | true =>
      obtain ⟨d, hd⟩ := (Table.contains_iff ..).mp hc
      rw [if_pos rfl, image?, hd]
      rfl
    | false =>
      have hn := (Table.contains_eq_false_iff ..).mp hc
      rw [if_neg Bool.false_ne_true, image?, image?, hn]
      exact Table.find?_insert_self ..
  · rw [if_neg hh, Option.or_none, insertImage]
    split
    · rfl
    · exact Table.find?_insert_of_ne _ hh e

/-! ## Taking out -/

theorem find?_remove (r : Registry) (k k' : Kind) (h h' : Handle) :
    (r.remove k h).find? k' h' = if k = k' ∧ h = h' then none else r.find? k' h' := by
  rw [remove]
  cases hc : r.contains k h with
  | true =>
    rw [if_pos rfl]
    show (r.records.erase ⟨k, h⟩).find? ⟨k', h'⟩ = _
    simp only [Table.find?_erase, Ranked.rank_eq_iff, Slot.mk.injEq]
    rfl
  | false =>
    -- nothing is taken out, and the slot was empty before
    rw [if_neg Bool.false_ne_true]
    split
    · rename_i hs
      obtain ⟨rfl, rfl⟩ := hs
      exact (contains_eq_false_iff ..).mp hc
    · rfl

@[simp] theorem images_remove (r : Registry) (k : Kind) (h : Handle) :
    (r.remove k h).images = r.images := by
  rw [remove]
  split <;> rfl

@[simp] theorem queueFamilies_remove (r : Registry) (k : Kind) (h : Handle) :
    (r.remove k h).queueFamilies = r.queueFamilies := by
  rw [remove]
  split <;> rfl

@[simp] theorem familyFlags_remove (r : Registry) (k : Kind) (h : Handle) :
    (r.remove k h).familyFlags = r.familyFlags := by
  rw [remove]
  split <;> rfl

theorem find?_removeAll (k k' : Kind) (h' : Handle) :
    ∀ (hs : List Handle) (r : Registry),
      (r.removeAll k hs).find? k' h' = if k = k' ∧ h' ∈ hs then none else r.find? k' h'
  | [], r => by
    rw [if_neg fun h => List.not_mem_nil h.2]
    rfl
  | h :: hs, r => by
    show ((r.remove k h).removeAll k hs).find? k' h' = _
    simp only [find?_removeAll k k' h' hs, find?_remove, List.mem_cons]
    by_cases hk : k = k'
    · by_cases hh : h = h'
      · simp [hk, hh]
      · have hh' : ¬h' = h := fun e => hh e.symm
        simp [hk, hh, hh']
    · simp [hk]

@[simp] theorem images_removeAll (k : Kind) :
    ∀ (hs : List Handle) (r : Registry), (r.removeAll k hs).images = r.images
  | [], _ => rfl
  | h :: hs, r => (images_removeAll k hs (r.remove k h)).trans (images_remove r k h)

@[simp] theorem queueFamilies_removeAll (k : Kind) :
    ∀ (hs : List Handle) (r : Registry), (r.removeAll k hs).queueFamilies = r.queueFamilies
  | [], _ => rfl
  | h :: hs, r =>
    (queueFamilies_removeAll k hs (r.remove k h)).trans (queueFamilies_remove r k h)

@[simp] theorem familyFlags_removeAll (k : Kind) :
    ∀ (hs : List Handle) (r : Registry), (r.removeAll k hs).familyFlags = r.familyFlags
  | [], _ => rfl
  | h :: hs, r => (familyFlags_removeAll k hs (r.remove k h)).trans (familyFlags_remove r k h)

/-- The images that stay are those of other swapchains. -/
theorem image?_removeImages (r : Registry) (swapchain h : Handle) :
    (r.removeImages swapchain).image? h =
      (r.image? h).filter fun e => e.parent != swapchain :=
  Table.find?_filter ..

/-! ## Records under their own slots -/

/-- A record stands under its own slot, an image of a swapchain under its own handle. -/
structure Filed (r : Registry) : Prop where
  records : ∀ s e, r.records.find? s = some e → e.slot = s
  images : ∀ h e, r.image? h = some e → e.kind = .image ∧ e.handle = h

namespace Filed

variable {r : Registry}

theorem kind_eq (hr : r.Filed) {k : Kind} {h : Handle} {e : Record} (he : r.find? k h = some e) :
    e.kind = k := by
  have hs : (⟨e.kind, e.handle⟩ : Slot) = ⟨k, h⟩ := hr.records _ e he
  rw [Slot.mk.injEq] at hs
  exact hs.1

theorem handle_eq (hr : r.Filed) {k : Kind} {h : Handle} {e : Record}
    (he : r.find? k h = some e) : e.handle = h := by
  have hs : (⟨e.kind, e.handle⟩ : Slot) = ⟨k, h⟩ := hr.records _ e he
  rw [Slot.mk.injEq] at hs
  exact hs.2

theorem mem_recordsOf (hr : r.Filed) (k : Kind) (e : Record) :
    e ∈ r.recordsOf k ↔ r.find? k e.handle = some e := by
  rw [recordsOf, List.mem_filter, Table.mem_values_iff, decide_eq_true_iff]
  constructor
  · rintro ⟨⟨s, hs⟩, rfl⟩
    have hslot : (⟨e.kind, e.handle⟩ : Slot) = s := hr.records s e hs
    rw [find?, hslot]
    exact hs
  · intro he
    exact ⟨⟨_, he⟩, hr.kind_eq he⟩

theorem mem_handlesOf (hr : r.Filed) (k : Kind) (h : Handle) :
    h ∈ r.handlesOf k ↔ ∃ e, r.find? k h = some e := by
  rw [handlesOf, List.mem_map]
  constructor
  · rintro ⟨e, he, rfl⟩
    exact ⟨e, (hr.mem_recordsOf k e).mp he⟩
  · rintro ⟨e, he⟩
    have hh := hr.handle_eq he
    exact ⟨e, (hr.mem_recordsOf k e).mpr (hh ▸ he), hh⟩

theorem mem_childrenOf (hr : r.Filed) (k : Kind) (pool h : Handle) :
    h ∈ r.childrenOf k pool ↔ ∃ e, r.find? k h = some e ∧ e.parent = pool := by
  simp only [childrenOf, List.mem_map, List.mem_filter, decide_eq_true_eq]
  constructor
  · rintro ⟨e, ⟨he, hp⟩, rfl⟩
    exact ⟨e, (hr.mem_recordsOf k e).mp he, hp⟩
  · rintro ⟨e, he, hp⟩
    have hh := hr.handle_eq he
    exact ⟨e, ⟨(hr.mem_recordsOf k e).mpr (hh ▸ he), hp⟩, hh⟩

/-- Dropping a kind keeps the records of other kinds. -/
theorem find?_dropKind (hr : r.Filed) (k k' : Kind) (h : Handle) :
    (r.removeAll k (r.handlesOf k)).find? k' h = if k = k' then none else r.find? k' h := by
  rw [find?_removeAll]
  by_cases hk : k = k'
  · subst hk
    rw [if_pos rfl]
    cases he : r.find? k h with
    | none => exact ite_self none
    | some e => exact if_pos ⟨rfl, (hr.mem_handlesOf k h).mpr ⟨e, he⟩⟩
  · rw [if_neg hk, if_neg fun hmem => hk hmem.1]

/-- Dropping the children of a pool keeps the records of other kinds and of other pools. -/
theorem find?_dropChildren (hr : r.Filed) (k k' : Kind) (pool h : Handle) :
    (r.removeAll k (r.childrenOf k pool)).find? k' h =
      if k = k' then (r.find? k' h).filter fun e => e.parent != pool else r.find? k' h := by
  rw [find?_removeAll]
  by_cases hk : k = k'
  · subst hk
    rw [if_pos rfl]
    cases he : r.find? k h with
    | none => exact ite_self none
    | some e =>
      -- a record of the kind goes exactly if its parent is the pool
      by_cases hp : e.parent = pool
      · rw [if_pos ⟨rfl, (hr.mem_childrenOf k pool h).mpr ⟨e, he, hp⟩⟩, Option.filter_some, hp,
          bne_self_eq_false]
        rfl
      · have hnot : ¬(k = k ∧ h ∈ r.childrenOf k pool) := by
          rintro ⟨-, hmem⟩
          obtain ⟨d, hd, hdp⟩ := (hr.mem_childrenOf k pool h).mp hmem
          rw [he, Option.some.injEq] at hd
          exact hp (hd ▸ hdp)
        rw [if_neg hnot, Option.filter_some, bne_iff_ne.mpr hp]
        rfl
  · rw [if_neg hk, if_neg fun hmem => hk hmem.1]

end Filed

/-- The registry without the records of some kinds. -/
def dropKinds (ks : List Kind) (r : Registry) : Registry :=
  ks.foldl (fun r k => r.removeAll k (r.handlesOf k)) r

/-! ## The invariant under the operations -/

theorem filed_empty : empty.Filed where
  records _ _ h := by cases h
  images _ _ h := by cases h

namespace Filed

variable {r : Registry}

theorem insert (hr : r.Filed) (e : Record) : (r.insert e).Filed where
  records s d h := by
    rw [Registry.insert] at h
    split at h
    · exact hr.records s d h
    · have hfind : (r.records.insert e.slot e).find? s = some d := h
      simp only [Table.find?_insert, Ranked.rank_eq_iff] at hfind
      split at hfind
      · rename_i hs
        cases hfind
        exact hs
      · exact hr.records s d hfind
  images h d hd := by
    rw [image?, images_insert] at hd
    exact hr.images h d hd

theorem insertImage (hr : r.Filed) {e : Record} (he : e.kind = .image) :
    (r.insertImage e).Filed where
  records s d h := by
    rw [records_insertImage] at h
    exact hr.records s d h
  images h d hd := by
    rw [image?_insertImage] at hd
    rcases Option.or_eq_some_iff.mp hd with hd | ⟨-, hd⟩
    · exact hr.images h d hd
    · split at hd
      · rename_i hh
        cases hd
        exact ⟨he, hh⟩
      · cases hd

theorem remove (hr : r.Filed) (k : Kind) (h : Handle) : (r.remove k h).Filed where
  records s d hd := by
    obtain ⟨k', h'⟩ := s
    have hfind : (r.remove k h).find? k' h' = some d := hd
    rw [find?_remove] at hfind
    split at hfind
    · cases hfind
    · exact hr.records _ d hfind
  images h' d hd := by
    rw [image?, images_remove] at hd
    exact hr.images h' d hd

theorem removeAll (k : Kind) :
    ∀ (hs : List Handle) {r : Registry}, r.Filed → (r.removeAll k hs).Filed
  | [], _, hr => hr
  | h :: hs, _, hr => removeAll k hs (hr.remove k h)

theorem removeImages (hr : r.Filed) (swapchain : Handle) : (r.removeImages swapchain).Filed where
  records := hr.records
  images h d hd := by
    rw [image?_removeImages, Option.filter_eq_some_iff] at hd
    exact hr.images h d hd.1

theorem setQueueFamily (hr : r.Filed) (queue : Handle) (family : UInt32) :
    (r.setQueueFamily queue family).Filed :=
  ⟨hr.records, hr.images⟩

theorem clearQueueFamilies (hr : r.Filed) : r.clearQueueFamilies.Filed :=
  ⟨hr.records, hr.images⟩

theorem setFamilyFlags (hr : r.Filed) (flags : List UInt32) : (r.setFamilyFlags flags).Filed :=
  ⟨hr.records, hr.images⟩

theorem dropKinds : ∀ (ks : List Kind) {r : Registry}, r.Filed → (r.dropKinds ks).Filed
  | [], _, hr => hr
  | k :: ks, r, hr => dropKinds ks (hr.removeAll k (r.handlesOf k))

/-- Dropping kinds keeps the records of other kinds. -/
theorem find?_dropKinds (k' : Kind) (h : Handle) :
    ∀ (ks : List Kind) {r : Registry}, r.Filed →
      (r.dropKinds ks).find? k' h = if k' ∈ ks then none else r.find? k' h
  | [], _, _ => (if_neg List.not_mem_nil).symm
  | k :: ks, r, hr => by
    have hr' : (r.removeAll k (r.handlesOf k)).Filed := Filed.removeAll k _ hr
    show (Registry.dropKinds ks (r.removeAll k (r.handlesOf k))).find? k' h = _
    rw [find?_dropKinds k' h ks hr', hr.find?_dropKind]
    by_cases hk : k = k'
    · subst hk
      simp
    · have hk' : ¬k' = k := fun e => hk e.symm
      simp [hk, hk']

end Filed

end Registry

end HandleLedger
