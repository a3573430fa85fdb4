import HandleLedger.Proofs.Registry.LookUp

/-!
# Registries under other creation indexes

`Registry.renumber f` gives every record of a registry, and every image of a swapchain, the index
that `f` assigns to its own. No operation of a registry looks at an index, so each commutes with
renumbering. Only the indexes in use matter (`Registry.renumber_congr`).
-/

set_option autoImplicit false

namespace HandleLedger

universe u v w

namespace Table

variable {κ : Type u} {α : Type v} {β : Type w} [Ranked κ]

/-- Change every value. -/
def map (t : Table κ α) (f : α → β) : Table κ β :=
  ⟨t.entries.map fun e => (e.1, f e.2), List.pairwise_map.mpr t.ascending⟩

theorem find?_map (t : Table κ α) (f : α → β) (k : κ) :
    (t.map f).find? k = (t.find? k).map f := by
  simp only [find?, map]
  induction t.entries with
  | nil => rfl
  | cons e es ih =>
    simp only [List.map_cons, look]
    split
    · rfl
    · exact ih

theorem contains_map (t : Table κ α) (f : α → β) (k : κ) :
    (t.map f).contains k = t.contains k := by
  rw [contains, find?_map, Option.isSome_map, contains]

theorem values_map (t : Table κ α) (f : α → β) : (t.map f).values = t.values.map f := by
  simp only [values, map, List.map_map]
  rfl

theorem map_insert (t : Table κ α) (f : α → β) (k : κ) (a : α) :
    (t.insert k a).map f = (t.map f).insert k (f a) := by
  refine ext_find? fun l => ?_
  simp only [find?_map, find?_insert]
  split <;> rfl

theorem map_erase (t : Table κ α) (f : α → β) (k : κ) :
    (t.erase k).map f = (t.map f).erase k := by
  refine ext_find? fun l => ?_
  simp only [find?_map, find?_erase]
  split <;> rfl

theorem map_adjust (t : Table κ α) (f : α → β) (k : κ) {g : α → α} {g' : β → β}
    (h : ∀ a, f (g a) = g' (f a)) : (t.adjust k g).map f = (t.map f).adjust k g' := by
  refine ext_find? fun l => ?_
  simp only [find?_map, find?_adjust]
  split
  · cases t.find? l with
    | none => rfl
    | some a => exact congrArg some (h a)
  · rfl

/-- A test that the change cannot influence keeps the same entries. -/
theorem map_filter (t : Table κ α) (f : α → β) {p : κ → α → Bool} {q : κ → β → Bool}
    (hpq : ∀ k a, q k (f a) = p k a) : (t.filter p).map f = (t.map f).filter q := by
  refine ext_find? fun l => ?_
  rw [find?_map, find?_filter, find?_filter, find?_map, Option.filter_map]
  have hp : q l ∘ f = p l := funext (hpq l)
  rw [hp]

theorem map_eq_self (t : Table κ α) {f : α → α} (h : ∀ a, f a = a) : t.map f = t := by
  refine ext_find? fun k => ?_
  have hf : f = id := funext h
  rw [find?_map, hf, Option.map_id_apply]

theorem map_congr {t : Table κ α} {f g : α → β}
    (h : ∀ k a, t.find? k = some a → f a = g a) : t.map f = t.map g := by
  refine ext_find? fun k => ?_
  rw [find?_map, find?_map]
  exact Option.map_congr fun a ha => h k a ha

end Table

/-- The record under another creation index. -/
def Record.renumber (f : UInt64 → UInt64) (e : Record) : Record := { e with index := f e.index }

namespace Registry

variable (f : UInt64 → UInt64) (r : Registry)

/-- The registry with other creation indexes. -/
def renumber : Registry :=
  { r with records := r.records.map (·.renumber f), images := r.images.map (·.renumber f) }

/-! ## Reading -/

theorem find?_renumber (k : Kind) (h : Handle) :
    (r.renumber f).find? k h = (r.find? k h).map (Record.renumber f) :=
  Table.find?_map ..

theorem image?_renumber (h : Handle) :
    (r.renumber f).image? h = (r.image? h).map (Record.renumber f) :=
  Table.find?_map ..

theorem contains_renumber (k : Kind) (h : Handle) :
    (r.renumber f).contains k h = r.contains k h :=
  Table.contains_map ..

theorem containsImage_renumber (h : Handle) :
    (r.renumber f).images.contains h = r.images.contains h :=
  Table.contains_map ..

theorem recordsOf_renumber (k : Kind) :
    (r.renumber f).recordsOf k = (r.recordsOf k).map (Record.renumber f) :=
  (congrArg (List.filter _) (Table.values_map ..)).trans List.filter_map

theorem handlesOf_renumber (k : Kind) : (r.renumber f).handlesOf k = r.handlesOf k := by
  rw [handlesOf, recordsOf_renumber, List.map_map]
  rfl

theorem childrenOf_renumber (k : Kind) (pool : Handle) :
    (r.renumber f).childrenOf k pool = r.childrenOf k pool := by
  rw [childrenOf, recordsOf_renumber, List.filter_map, List.map_map]
  rfl

/-! ## Changing -/

theorem renumber_insert (e : Record) :
    (r.insert e).renumber f = (r.renumber f).insert (e.renumber f) := by
  have hcontains : (r.renumber f).contains (e.renumber f).kind (e.renumber f).handle =
      r.contains e.kind e.handle := r.contains_renumber f e.kind e.handle
  rw [insert, insert, hcontains]
  split
  · rfl
  · simp only [renumber, Table.map_insert]
    rfl

theorem renumber_insertImage (e : Record) :
    (r.insertImage e).renumber f = (r.renumber f).insertImage (e.renumber f) := by
  have hcontains : (r.renumber f).images.contains (e.renumber f).handle =
      r.images.contains e.handle := r.containsImage_renumber f e.handle
  rw [insertImage, insertImage, hcontains]
  split
  · rfl
  · simp only [renumber, Table.map_insert]
    rfl

theorem renumber_remove (k : Kind) (h : Handle) :
    (r.remove k h).renumber f = (r.renumber f).remove k h := by
  rw [remove, remove, contains_renumber]
  split
  · simp only [renumber, Table.map_erase]
  · rfl

theorem renumber_removeAll (k : Kind) :
    ∀ (hs : List Handle) (r : Registry),
      (r.removeAll k hs).renumber f = (r.renumber f).removeAll k hs
  | [], _ => rfl
  | h :: hs, r =>
    (renumber_removeAll k hs (r.remove k h)).trans
      (congrArg (·.removeAll k hs) (r.renumber_remove f k h))

theorem renumber_dropKinds :
    ∀ (ks : List Kind) (r : Registry),
      (r.dropKinds ks).renumber f = (r.renumber f).dropKinds ks
  | [], _ => rfl
  | k :: ks, r => by
    show (dropKinds ks (r.removeAll k (r.handlesOf k))).renumber f =
      dropKinds ks ((r.renumber f).removeAll k ((r.renumber f).handlesOf k))
    rw [renumber_dropKinds ks, renumber_removeAll, handlesOf_renumber]

theorem renumber_removeImages (swapchain : Handle) :
    (r.removeImages swapchain).renumber f = (r.renumber f).removeImages swapchain := by
  have hfilter : (r.images.filter fun _ e => e.parent != swapchain).map (Record.renumber f) =
      (r.images.map (Record.renumber f)).filter fun _ e => e.parent != swapchain :=
    Table.map_filter _ _ fun _ _ => rfl
  simp only [renumber, removeImages, hfilter]

/-! ## Indexes in use -/

variable {f} {g : UInt64 → UInt64} {r}

/-- A record or an image of a swapchain has this creation index. -/
def Uses (r : Registry) (index : UInt64) : Prop :=
  (∃ k h e, r.find? k h = some e ∧ e.index = index) ∨ ∃ h e, r.image? h = some e ∧ e.index = index

theorem Uses.of_insert {index : UInt64} {e : Record} (h : (r.insert e).Uses index) :
    r.Uses index ∨ index = e.index := by
  rcases h with ⟨k, o, d, hd, rfl⟩ | ⟨o, d, hd, rfl⟩
  · rw [find?_insert] at hd
    rcases Option.or_eq_some_iff.mp hd with hd | ⟨-, hd⟩
    · exact .inl (.inl ⟨k, o, d, hd, rfl⟩)
    · split at hd
      · cases hd
        exact .inr rfl
      · cases hd
  · rw [image?, images_insert] at hd
    exact .inl (.inr ⟨o, d, hd, rfl⟩)

theorem Uses.of_insertImage {index : UInt64} {e : Record} (h : (r.insertImage e).Uses index) :
    r.Uses index ∨ index = e.index := by
  rcases h with ⟨k, o, d, hd, rfl⟩ | ⟨o, d, hd, rfl⟩
  · rw [find?_insertImage] at hd
    exact .inl (.inl ⟨k, o, d, hd, rfl⟩)
  · rw [image?_insertImage] at hd
    rcases Option.or_eq_some_iff.mp hd with hd | ⟨-, hd⟩
    · exact .inl (.inr ⟨o, d, hd, rfl⟩)
    · split at hd
      · cases hd
        exact .inr rfl
      · cases hd

/-- The indexes in use after renumbering are those that were in use, renumbered. -/
theorem Uses.renumber {index : UInt64} (h : r.Uses index) : (r.renumber f).Uses (f index) := by
  rcases h with ⟨k, o, e, he, rfl⟩ | ⟨o, e, he, rfl⟩
  · exact .inl ⟨k, o, e.renumber f, by rw [find?_renumber, he]; rfl, rfl⟩
  · exact .inr ⟨o, e.renumber f, by rw [image?_renumber, he]; rfl, rfl⟩

theorem renumber_self (r : Registry) : r.renumber (fun index => index) = r := by
  have hself : ∀ e : Record, (e.renumber fun index => index) = e := fun _ => rfl
  rw [Registry.renumber, Table.map_eq_self _ hself, Table.map_eq_self _ hself]

theorem renumber_congr (h : ∀ index, r.Uses index → f index = g index) :
    r.renumber f = r.renumber g := by
  have hrecord : ∀ e : Record, f e.index = g e.index → e.renumber f = e.renumber g := by
    intro e he
    rw [Record.renumber, he, Record.renumber]
  have hrecords : r.records.map (Record.renumber f) = r.records.map (Record.renumber g) :=
    Table.map_congr fun s e he => hrecord e (h _ (.inl ⟨s.kind, s.handle, e, he, rfl⟩))
  have himages : r.images.map (Record.renumber f) = r.images.map (Record.renumber g) :=
    Table.map_congr fun o e he => hrecord e (h _ (.inr ⟨o, e, he, rfl⟩))
  rw [renumber, hrecords, himages, renumber]

end Registry

end HandleLedger
