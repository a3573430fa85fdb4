import HandleLedger.Proofs.Registry.Drop
import Mathlib.Data.List.Basic

/-!
# What remains after a removal

Records leave a registry one at a time, and the counters are brought up to date with each. All the
same a removal of many records can be described at once: the tables are filtered, and each counter
falls by the number of records that are gone (`Registry.Remainder`). The tables alone decide this,
because true counters are read off them (`Reckoned.remainder`), so it makes no difference in which
order the records were taken out (`Remainder.removeEach_eq`).
-/

set_option autoImplicit false

namespace HandleLedger

universe u v

namespace Table

variable {κ : Type u} {α : Type v} [Ranked κ] {t : Table κ α}

/-- The values that stay are those whose entries stay. -/
theorem values_filter {p : κ → α → Bool} {q : α → Bool}
    (h : ∀ k a, t.find? k = some a → p k a = q a) : (t.filter p).values = t.values.filter q := by
  have hentries : t.entries.filter (fun e => p e.1 e.2) = t.entries.filter (q ∘ Prod.snd) :=
    List.filter_congr fun e he => h e.1 e.2 ((mem_entries_iff ..).mp he)
  show (t.entries.filter fun e => p e.1 e.2).map Prod.snd = (t.entries.map Prod.snd).filter q
  rw [hentries, List.filter_map]

theorem filter_filter_self (t : Table κ α) (p : κ → α → Bool) :
    (t.filter p).filter p = t.filter p := by
  refine ext_find? fun k => ?_
  rw [find?_filter, find?_filter, Option.filter_filter]
  simp only [Bool.and_self]

theorem filter_true (t : Table κ α) : t.filter (fun _ _ => true) = t := by
  refine ext_find? fun k => ?_
  rw [find?_filter]
  cases t.find? k <;> rfl

end Table

namespace Registry

/-- The second registry is the first without the records and the images that are gone. The
capabilities of the families stay, and the counters fall by the number of records. -/
structure Remainder (r : Registry) (gone : Kind → Record → Bool) (imageGone : Record → Bool)
    (r' : Registry) : Prop where
  records : r'.records = r.records.filter fun s e => !gone s.kind e
  images : r'.images = r.images.filter fun _ e => !imageGone e
  familyFlags : r'.familyFlags = r.familyFlags
  count : ∀ k, r'.count k + (r.recordsOf k).countP (gone k) = r.count k
  total : r'.total + r.records.values.countP (fun e => gone e.kind e) = r.total

/-- Take records out one at a time. -/
def removeEach (r : Registry) (es : List Record) : Registry :=
  es.foldl (fun r e => r.remove e.kind e.handle) r

variable {r r' : Registry} {gone : Kind → Record → Bool} {imageGone : Record → Bool}

/-- True counters are read off the records. -/
theorem Reckoned.tally_congr (hr : r.Reckoned) (hr' : r'.Reckoned)
    (h : r'.records = r.records) : r'.tally = r.tally := by
  refine Tally.ext_count (fun k => ?_) ?_
  · have hcount : r'.count k = r.count k := by
      rw [hr'.count_eq, hr.count_eq, recordsOf, recordsOf, h]
    exact hcount
  · have htotal : r'.total = r.total := by
      rw [hr'.total_eq, hr.total_eq, h]
    exact htotal

/-- A removal is described by the tables that it leaves, if the counters are true. -/
theorem Reckoned.remainder (hr : r.Reckoned) (hr' : r'.Reckoned) (hfiled : r.Filed)
    (hrecords : ∀ k h, r'.find? k h = (r.find? k h).filter fun e => !gone k e)
    (himages : r'.images = r.images.filter fun _ e => !imageGone e)
    (hflags : r'.familyFlags = r.familyFlags) : r.Remainder gone imageGone r' := by
  have htable : r'.records = r.records.filter fun s e => !gone s.kind e := by
    refine Table.ext_find? fun s => ?_
    rw [Table.find?_filter]
    exact hrecords s.kind s.handle
  -- a record stands under its own kind, so that the record alone tells whether it is gone
  have hvalues : r'.records.values = r.records.values.filter fun e => !gone e.kind e := by
    rw [htable]
    refine Table.values_filter fun s e hs => ?_
    rw [← hfiled.records s e hs]
    rfl
  have hkind : ∀ k, r'.recordsOf k = (r.recordsOf k).filter fun e => !gone k e := by
    intro k
    rw [recordsOf, recordsOf, hvalues, List.filter_comm]
    refine List.filter_congr fun e he => ?_
    rw [of_decide_eq_true (List.mem_filter.mp he).2]
  refine ⟨htable, himages, hflags, fun k => ?_, ?_⟩
  · rw [hr'.count_eq, hr.count_eq, hkind, List.countP_eq_length_filter, Nat.add_comm]
    exact (List.length_eq_length_filter_add (gone k)).symm
  · rw [hr'.total_eq, hr.total_eq, hvalues, List.countP_eq_length_filter, Nat.add_comm]
    exact (List.length_eq_length_filter_add fun e => gone e.kind e).symm

namespace Remainder

/-- Nothing is left to be removed again. -/
theorem eq_of_again {r'' : Registry} (h : r.Remainder gone imageGone r')
    (h' : r'.Remainder gone imageGone r'') (hr' : r'.Reckoned) (hr'' : r''.Reckoned)
    (hqueues : r''.queueFamilies = r'.queueFamilies) : r'' = r' := by
  have hrecords : r''.records = r'.records := by
    rw [h'.records, h.records, Table.filter_filter_self]
  have himages : r''.images = r'.images := by
    rw [h'.images, h.images, Table.filter_filter_self]
  refine ext_find? (fun k o => ?_) (hr'.tally_congr hr'' hrecords) himages hqueues h'.familyFlags
  rw [find?, hrecords]
  rfl

end Remainder

/-! ## One record at a time -/

theorem find?_removeEach (k : Kind) (h : Handle) :
    ∀ (es : List Record) (r : Registry),
      (r.removeEach es).find? k h = if ⟨k, h⟩ ∈ es.map Record.slot then none else r.find? k h
  | [], r => (if_neg List.not_mem_nil).symm
  | e :: es, r => by
    show ((r.remove e.kind e.handle).removeEach es).find? k h = _
    rw [find?_removeEach k h es, find?_remove]
    simp only [List.map_cons, List.mem_cons, Record.slot, Slot.mk.injEq, eq_comm (a := k),
      eq_comm (a := h)]
    by_cases hrest : ⟨k, h⟩ ∈ es.map Record.slot
    · rw [if_pos hrest, if_pos (.inr hrest)]
    · rw [if_neg hrest]
      by_cases hfirst : e.kind = k ∧ e.handle = h
      · rw [if_pos hfirst, if_pos (.inl hfirst)]
      · rw [if_neg hfirst, if_neg (not_or.mpr ⟨hfirst, hrest⟩)]

theorem Reckoned.removeEach :
    ∀ (es : List Record) {r : Registry}, r.Reckoned → (r.removeEach es).Reckoned
  | [], _, hr => hr
  | e :: es, _, hr => removeEach es (hr.run (.remove e.kind e.handle))

/-- In whatever order the records are taken out, the same records and counters remain. -/
theorem Remainder.removeEach_eq (h : r.Remainder gone imageGone r') (hr : r.Reckoned)
    (hr' : r'.Reckoned) (hfiled : r.Filed) {es : List Record}
    (hes : es.Perm (r.records.values.filter fun e => gone e.kind e)) :
    (r.removeEach es).records = r'.records ∧ (r.removeEach es).tally = r'.tally := by
  have hmem : ∀ k o e, r.find? k o = some e →
      (⟨k, o⟩ ∈ es.map Record.slot ↔ gone k e = true) := by
    intro k o e he
    have hkind := hfiled.kind_eq he
    have hslot : e.slot = ⟨k, o⟩ := hfiled.records _ e he
    rw [List.mem_map]
    constructor
    · rintro ⟨d, hd, hds⟩
      obtain ⟨hvalue, hgone⟩ := List.mem_filter.mp (hes.mem_iff.mp hd)
      -- the list names a record of this slot, and there is only one
      obtain ⟨s, hs⟩ := (Table.mem_values_iff ..).mp hvalue
      obtain rfl : s = ⟨k, o⟩ := (hfiled.records s d hs).symm.trans hds
      obtain rfl : d = e := Option.some.inj (hs.symm.trans he)
      exact hkind ▸ hgone
    · intro hgone
      have hvalue : e ∈ r.records.values := (Table.mem_values_iff ..).mpr ⟨_, he⟩
      refine ⟨e, hes.mem_iff.mpr (List.mem_filter.mpr ⟨hvalue, ?_⟩), hslot⟩
      rw [hkind]
      exact hgone
  have hrecords : (r.removeEach es).records = r'.records := by
    rw [h.records]
    refine Table.ext_find? fun s => ?_
    rw [Table.find?_filter]
    show (r.removeEach es).find? s.kind s.handle = (r.find? s.kind s.handle).filter _
    rw [find?_removeEach]
    cases he : r.find? s.kind s.handle with
    | none => exact ite_self none
    | some e =>
      rw [Option.filter_some]
      cases hgone : gone s.kind e with
      | true => exact if_pos ((hmem _ _ e he).mpr hgone)
      | false =>
        refine if_neg fun hnamed => ?_
        rw [(hmem _ _ e he).mp hnamed] at hgone
        cases hgone
  exact ⟨hrecords, hr'.tally_congr (hr.removeEach es) hrecords⟩

end Registry

end HandleLedger
