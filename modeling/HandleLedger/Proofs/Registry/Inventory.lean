import HandleLedger.Proofs.Registry.Account

/-!
# Inventories

A list takes stock of some kinds of a registry if it names each of their records exactly once
(`Registry.Lists`). The walk through the records kind by kind is such a list
(`Filed.lists_kinds`), and so is the walk through all of them (`Filed.lists_values`), whose length
is the total that the tally shows (`Reckoned.total_eq`). What remains of a device when it is
destroyed is taken stock of in the same way (`Filed.lists_remains`).
-/

set_option autoImplicit false

namespace HandleLedger

universe u v

/-- If each value tells its key, no value stands twice in a table. -/
theorem Table.nodup_values {κ : Type u} {α : Type v} [Ranked κ] {t : Table κ α} {key : α → κ}
    (h : ∀ k a, t.find? k = some a → key a = k) : t.values.Nodup := by
  refine List.pairwise_map.mpr (t.ascending.imp_of_mem ?_)
  intro a b ha hb hlt heq
  have hkey : a.1 = b.1 := by
    rw [← h a.1 a.2 ((mem_entries_iff ..).mp ha), heq, h b.1 b.2 ((mem_entries_iff ..).mp hb)]
  rw [hkey] at hlt
  exact Nat.lt_irrefl _ hlt

namespace Registry

/-- The list names each record of these kinds exactly once. -/
structure Lists (r : Registry) (P : Kind → Prop) (es : List Record) : Prop where
  nodup : es.Nodup
  mem_iff : ∀ e, e ∈ es ↔ P e.kind ∧ r.find? e.kind e.handle = some e

/-- What a registry holds when what a device has to outlive and its queues have been dropped. -/
def remains (r : Registry) : Registry :=
  ((r.dropKinds Kind.deviceChildren).dropKinds [.queue]).clearQueueFamilies

theorem records_clearQueueFamilies (r : Registry) : r.clearQueueFamilies.records = r.records := rfl

namespace Filed

variable {r : Registry}

theorem nodup_values (hr : r.Filed) : r.records.values.Nodup := Table.nodup_values hr.records

theorem nodup_recordsOf (hr : r.Filed) (k : Kind) : (r.recordsOf k).Nodup :=
  hr.nodup_values.filter _

theorem lists_values (hr : r.Filed) : r.Lists (fun _ => True) r.records.values where
  nodup := hr.nodup_values
  mem_iff e := by
    rw [Table.mem_values_iff, true_and]
    constructor
    · rintro ⟨s, hs⟩
      rw [← hr.records s e hs] at hs
      exact hs
    · exact fun he => ⟨e.slot, he⟩

theorem lists_kinds (hr : r.Filed) {ks : List Kind} (hks : ks.Nodup) :
    r.Lists (· ∈ ks) (ks.flatMap r.recordsOf) where
  nodup := by
    refine List.nodup_flatMap.mpr ⟨fun k _ => hr.nodup_recordsOf k, hks.imp ?_⟩
    -- records of different kinds are different
    intro k k' hne e he he'
    rw [hr.mem_recordsOf] at he he'
    exact hne ((hr.kind_eq he).symm.trans (hr.kind_eq he'))
  mem_iff e := by
    rw [List.mem_flatMap]
    constructor
    · rintro ⟨k, hk, he⟩
      rw [hr.mem_recordsOf] at he
      have hkind := hr.kind_eq he
      subst hkind
      exact ⟨hk, he⟩
    · rintro ⟨hk, he⟩
      exact ⟨e.kind, hk, (hr.mem_recordsOf e.kind e).mpr he⟩

/-- What is left after some kinds are dropped is what the registry held of the others. -/
theorem lists_dropKinds (hr : r.Filed) {ks : List Kind} {P : Kind → Prop} {es : List Record} :
    (r.dropKinds ks).Lists P es ↔ r.Lists (fun k => P k ∧ k ∉ ks) es := by
  have hiff : ∀ e : Record,
      (P e.kind ∧ (r.dropKinds ks).find? e.kind e.handle = some e ↔
        (P e.kind ∧ e.kind ∉ ks) ∧ r.find? e.kind e.handle = some e) := by
    intro e
    rw [find?_dropKinds e.kind e.handle ks hr, and_assoc]
    refine and_congr_right fun _ => ?_
    split
    · rename_i hk
      exact iff_of_false (Option.some_ne_none e).symm fun h => h.1 hk
    · rename_i hk
      exact (and_iff_right hk).symm
  constructor
  · exact fun h => ⟨h.nodup, fun e => (h.mem_iff e).trans (hiff e)⟩
  · exact fun h => ⟨h.nodup, fun e => (h.mem_iff e).trans (hiff e).symm⟩

theorem lists_dropKinds_dropKinds (hr : r.Filed) (ks ks' : List Kind) :
    r.Lists (fun k => k ∉ ks ∧ k ∉ ks') ((r.dropKinds ks).dropKinds ks').records.values := by
  have hks : (r.dropKinds ks).Filed := .dropKinds ks hr
  have hks' : ((r.dropKinds ks).dropKinds ks').Filed := .dropKinds ks' hks
  have hlists := hr.lists_dropKinds.mp (hks.lists_dropKinds.mp hks'.lists_values)
  refine ⟨hlists.nodup, fun e => (hlists.mem_iff e).trans (and_congr_left fun _ => ?_)⟩
  rw [true_and, and_comm]

/-- What remains is neither a queue nor an object that a device has to outlive. -/
theorem lists_remains (hr : r.Filed) :
    r.Lists (fun k => k ∉ Kind.deviceChildren ∧ k ≠ .queue) r.remains.records.values := by
  -- the lists of kinds stay variables up to here, since unfolding the drops of 25 kinds is costly
  have hlists := hr.lists_dropKinds_dropKinds Kind.deviceChildren [.queue]
  simp only [List.mem_singleton] at hlists
  rw [remains, records_clearQueueFamilies]
  exact hlists

end Filed

/-! ## Registries with true counters -/

/-- The tally of the registry shows what there is. -/
def Reckoned (r : Registry) : Prop := ∃ a, r.Reckons a

namespace Reckoned

variable {r : Registry}

theorem total_eq (hr : r.Reckoned) : r.total = r.records.values.length := by
  obtain ⟨a, ha⟩ := hr
  exact ha.balanced.size.trans (List.length_map ..).symm

/-- Every operation keeps the counters true. -/
theorem run (hr : r.Reckoned) (op : Operation) : (op.run r).2.Reckoned := by
  obtain ⟨a, ha⟩ := hr
  exact ⟨_, (ha.step op).2⟩

theorem removeAll (k : Kind) :
    ∀ (hs : List Handle) {r : Registry}, r.Reckoned → (r.removeAll k hs).Reckoned
  | [], _, hr => hr
  | h :: hs, _, hr => removeAll k hs (hr.run (.remove k h))

theorem dropKinds : ∀ (ks : List Kind) {r : Registry}, r.Reckoned → (r.dropKinds ks).Reckoned
  | [], _, hr => hr
  | k :: ks, r, hr => dropKinds ks (hr.removeAll k (r.handlesOf k))

theorem remains (hr : r.Reckoned) : r.remains.Reckoned := by
  have hchildren := hr.dropKinds Kind.deviceChildren
  have hqueues := hchildren.dropKinds [.queue]
  exact hqueues.run .clearQueueFamilies

end Reckoned

end Registry

end HandleLedger
