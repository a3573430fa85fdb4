/-!
# Ordered finite tables

A `Table κ α` is a finite map whose entries are kept in strictly ascending order of their keys.
Two consequences follow from the order. A table is determined by its look-ups
(`Table.ext_find?`), so two ledgers that answer alike are equal. A walk over the entries is a walk
in key order, so nothing that is read off a table depends on the order of its updates.

The order comes from `Ranked`, which places each key at a natural number of its own.
-/

set_option autoImplicit false

namespace HandleLedger

universe u v

/-- Keys with a place among the natural numbers, each at a place of its own. -/
class Ranked (κ : Type u) where
  /-- The place of a key. -/
  rank : κ → Nat
  /-- Keys at one place are equal. -/
  eq_of_rank_eq : ∀ {a b : κ}, rank a = rank b → a = b

export Ranked (rank)

/-- Machine words stand at their value. -/
instance : Ranked UInt64 where
  rank := UInt64.toNat
  eq_of_rank_eq := UInt64.toNat_inj.mp

/-- A finite map, its entries in strictly ascending order of their keys. -/
structure Table (κ : Type u) (α : Type v) [Ranked κ] where
  /-- The entries in key order. -/
  entries : List (κ × α)
  ascending : entries.Pairwise fun a b => rank a.1 < rank b.1

namespace Table

variable {κ : Type u} {α : Type v} [Ranked κ]

/-! ## Entries in ascending order -/

/-- Put an entry at its place, over an entry of the same key. -/
def place (k : κ) (a : α) : List (κ × α) → List (κ × α)
  | [] => [(k, a)]
  | e :: es =>
    if rank k < rank e.1 then (k, a) :: e :: es
    else if rank k = rank e.1 then (k, a) :: es
    else e :: place k a es

/-- The value of the first entry with this key. -/
def look (k : κ) : List (κ × α) → Option α
  | [] => none
  | e :: es => if rank e.1 = rank k then some e.2 else look k es

/-- A bound on the keys is a bound after placing a key within it. -/
theorem lt_of_mem_place {n : Nat} {k : κ} {a : α} (hk : n < rank k) :
    ∀ {es : List (κ × α)}, (∀ e ∈ es, n < rank e.1) → ∀ e ∈ place k a es, n < rank e.1
  | [], _, e, he => by
    simp only [place, List.mem_singleton] at he
    exact he ▸ hk
  | d :: es, hes, e, he => by
    simp only [place] at he
    have hd : n < rank d.1 := hes d (List.mem_cons_self ..)
    have hrest : ∀ e ∈ es, n < rank e.1 := fun e h => hes e (List.mem_cons_of_mem _ h)
    split at he
    · rcases List.mem_cons.mp he with rfl | he
      · exact hk
      · exact hes e he
    · split at he
      · rcases List.mem_cons.mp he with rfl | he
        · exact hk
        · exact hrest e he
      · rcases List.mem_cons.mp he with rfl | he
        · exact hd
        · exact lt_of_mem_place hk hrest e he

/-- Placing an entry keeps the order. -/
theorem pairwise_place (k : κ) (a : α) :
    ∀ {es : List (κ × α)}, es.Pairwise (fun a b => rank a.1 < rank b.1) →
      (place k a es).Pairwise fun a b => rank a.1 < rank b.1
  | [], _ => by simp [place]
  | d :: es, h => by
    obtain ⟨hd, hes⟩ := List.pairwise_cons.mp h
    simp only [place]
    split
    · rename_i hlt
      refine List.pairwise_cons.mpr ⟨fun e he => ?_, h⟩
      rcases List.mem_cons.mp he with rfl | he
      · exact hlt
      · exact Nat.lt_trans hlt (hd e he)
    · split
      · rename_i heq
        refine List.pairwise_cons.mpr ⟨fun e he => ?_, hes⟩
        show rank k < rank e.1
        rw [heq]
        exact hd e he
      · rename_i hlt hne
        have hgt : rank d.1 < rank k := by omega
        exact List.pairwise_cons.mpr ⟨lt_of_mem_place hgt hd, pairwise_place k a hes⟩

/-- What placing an entry does to the look-ups. -/
theorem look_place (k l : κ) (a : α) (es : List (κ × α)) :
    look l (place k a es) = if rank k = rank l then some a else look l es := by
  induction es with
  | nil => simp [place, look]
  | cons d es ih =>
    simp only [place]
    split
    · simp [look]
    · split
      · rename_i heq
        by_cases h : rank k = rank l
        · simp [look, h]
        · have : rank d.1 ≠ rank l := by omega
          simp [look, h, this]
      · rename_i hne
        simp only [look, ih]
        by_cases h : rank k = rank l
        · have : rank d.1 ≠ rank l := by omega
          simp [h, this]
        · simp [h]

/-- What keeping the entries that pass a test on the key does to the look-ups. -/
theorem look_filter_key (p : Nat → Bool) (l : κ) (es : List (κ × α)) :
    look l (es.filter fun e => p (rank e.1)) = if p (rank l) then look l es else none := by
  induction es with
  | nil => simp [look]
  | cons d es ih =>
    by_cases h : rank d.1 = rank l
    · by_cases hl : p (rank l) = true
      · have hd : p (rank d.1) = true := h ▸ hl
        simp [hl, look, h]
      · have hd : ¬p (rank d.1) = true := h ▸ hl
        simpa [hd, hl] using ih
    · by_cases hd : p (rank d.1) = true
      · simpa [hd, look, h] using ih
      · simpa [hd, look, h] using ih

/-! ## Tables -/

/-- The table without entries. -/
def empty : Table κ α := ⟨[], List.Pairwise.nil⟩

instance : EmptyCollection (Table κ α) := ⟨empty⟩

instance : Inhabited (Table κ α) := ⟨empty⟩

/-- The value at a key. -/
def find? (t : Table κ α) (k : κ) : Option α := look k t.entries

/-- Whether the key has a value. -/
def contains (t : Table κ α) (k : κ) : Bool := (t.find? k).isSome

/-- Give the key this value, whether or not it had one. -/
def insert (t : Table κ α) (k : κ) (a : α) : Table κ α :=
  ⟨place k a t.entries, pairwise_place k a t.ascending⟩

/-- Keep the entries that pass the test. -/
def filter (t : Table κ α) (p : κ → α → Bool) : Table κ α :=
  ⟨t.entries.filter fun e => p e.1 e.2, t.ascending.filter _⟩

/-- Take the key out. -/
def erase (t : Table κ α) (k : κ) : Table κ α :=
  ⟨t.entries.filter fun e => rank e.1 != rank k, t.ascending.filter _⟩

/-- Change the value at a key, if it has one. -/
def adjust (t : Table κ α) (k : κ) (f : α → α) : Table κ α :=
  ⟨t.entries.map fun e => if rank e.1 = rank k then (e.1, f e.2) else e, by
    refine List.pairwise_map.mpr (t.ascending.imp ?_)
    intro a b h
    have fst : ∀ e : κ × α, (if rank e.1 = rank k then (e.1, f e.2) else e).1 = e.1 := by
      intro e
      split <;> rfl
    rw [fst a, fst b]
    exact h⟩

/-- The number of entries. -/
def size (t : Table κ α) : Nat := t.entries.length

/-- The keys in ascending order. -/
def keys (t : Table κ α) : List κ := t.entries.map (·.1)

/-- The values in key order. -/
def values (t : Table κ α) : List α := t.entries.map (·.2)

/-! ## Look-ups -/

@[simp] theorem find?_empty (k : κ) : (empty : Table κ α).find? k = none := rfl

theorem find?_insert (t : Table κ α) (k l : κ) (a : α) :
    (t.insert k a).find? l = if rank k = rank l then some a else t.find? l :=
  look_place k l a t.entries

@[simp] theorem find?_insert_self (t : Table κ α) (k : κ) (a : α) :
    (t.insert k a).find? k = some a := by
  simp [find?_insert]

theorem find?_insert_of_ne (t : Table κ α) {k l : κ} (h : k ≠ l) (a : α) :
    (t.insert k a).find? l = t.find? l := by
  have : rank k ≠ rank l := fun e => h (Ranked.eq_of_rank_eq e)
  simp [find?_insert, this]

theorem find?_erase (t : Table κ α) (k l : κ) :
    (t.erase k).find? l = if rank k = rank l then none else t.find? l := by
  have h := look_filter_key (fun n => n != rank k) l t.entries
  by_cases hkl : rank k = rank l
  · simpa [find?, erase, hkl] using h
  · have : rank l ≠ rank k := fun e => hkl e.symm
    simpa [find?, erase, hkl, this] using h

theorem find?_adjust (t : Table κ α) (k l : κ) (f : α → α) :
    (t.adjust k f).find? l = if rank k = rank l then (t.find? l).map f else t.find? l := by
  simp only [find?, adjust]
  induction t.entries with
  | nil => simp [look]
  | cons d es ih =>
    have fst : (if rank d.1 = rank k then (d.1, f d.2) else d).1 = d.1 := by
      split <;> rfl
    by_cases hl : rank d.1 = rank l
    · by_cases hk : rank k = rank l
      · have : rank d.1 = rank k := by omega
        simp [look, hl, hk]
      · have : rank l ≠ rank k := fun e => hk e.symm
        simp [look, hl, hk, this]
    · simp only [List.map_cons, look, fst, hl, if_false]
      exact ih

/-! ## Equality -/

/-- The entries of a table are the pairs of its look-ups. -/
theorem mem_entries_iff (t : Table κ α) (k : κ) (a : α) :
    (k, a) ∈ t.entries ↔ t.find? k = some a := by
  obtain ⟨es, h⟩ := t
  simp only [find?]
  induction es with
  | nil => simp [look]
  | cons d es ih =>
    obtain ⟨hd, hes⟩ := List.pairwise_cons.mp h
    by_cases hk : rank d.1 = rank k
    · have hkd : d.1 = k := Ranked.eq_of_rank_eq hk
      have hnot : (k, a) ∉ es := fun hm => by
        have : rank d.1 < rank k := hd _ hm
        omega
      simp only [look, hk, if_true, List.mem_cons, hnot, or_false, Option.some.injEq]
      constructor
      · intro e
        rw [← e]
      · intro e
        rw [← hkd, ← e]
    · have hne : (k, a) ≠ d := fun e => hk (by rw [← e])
      simp [look, hk, hne, ih hes]

/-- Tables with the same look-ups are equal. -/
theorem ext_find? {s t : Table κ α} (h : ∀ k, s.find? k = t.find? k) : s = t := by
  have hmem : ∀ e, e ∈ s.entries ↔ e ∈ t.entries := fun e => by
    obtain ⟨k, a⟩ := e
    rw [mem_entries_iff, mem_entries_iff, h k]
  have hentries : s.entries = t.entries := by
    obtain ⟨es, hs⟩ := s
    obtain ⟨fs, ht⟩ := t
    simp only at hmem ⊢
    clear h
    induction es generalizing fs with
    | nil =>
      cases fs with
      | nil => rfl
      | cons f fs => exact absurd ((hmem f).mpr (List.mem_cons_self ..)) (by simp)
    | cons e es ih =>
      cases fs with
      | nil => exact absurd ((hmem e).mp (List.mem_cons_self ..)) (by simp)
      | cons f fs =>
        obtain ⟨he, hes⟩ := List.pairwise_cons.mp hs
        obtain ⟨hf, hfs⟩ := List.pairwise_cons.mp ht
        have hef : e = f := by
          rcases List.mem_cons.mp ((hmem e).mp (List.mem_cons_self ..)) with h | h
          · exact h
          · rcases List.mem_cons.mp ((hmem f).mpr (List.mem_cons_self ..)) with h' | h'
            · exact h'.symm
            · have h₁ := hf e h
              have h₂ := he f h'
              omega
        subst hef
        rw [ih hes fs hfs]
        intro x
        constructor
        · intro hx
          rcases List.mem_cons.mp ((hmem x).mp (List.mem_cons_of_mem _ hx)) with rfl | h
          · exact absurd (he x hx) (Nat.lt_irrefl _)
          · exact h
        · intro hx
          rcases List.mem_cons.mp ((hmem x).mpr (List.mem_cons_of_mem _ hx)) with rfl | h
          · exact absurd (hf x hx) (Nat.lt_irrefl _)
          · exact h
  cases s
  cases t
  cases hentries
  rfl

end Table

end HandleLedger
