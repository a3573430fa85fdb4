import HandleLedger.Kind

/-!
# Tallies

A tally counts the objects of each kind and of all kinds together. It is kept up to date one
object at a time, so that a count is read off and not recomputed.

The numbers have no bound. What counters of 64 bits show below 2^64 records is the same, as
`Registry.wordsAll_exact` says.
-/

set_option autoImplicit false

namespace HandleLedger

/-- The number of objects, by kind and in total. -/
structure Tally where
  byKind : Vector Nat Kind.count
  total : Nat
  deriving DecidableEq

namespace Tally

/-- The tally of no objects. -/
def zero : Tally := ⟨Vector.replicate Kind.count 0, 0⟩

/-- The number of objects of a kind. -/
def count (t : Tally) (k : Kind) : Nat := t.byKind.get ⟨k.index, k.index_lt_count⟩

/-- The tally with another count of a kind. -/
def withCount (t : Tally) (k : Kind) (n : Nat) : Tally :=
  { t with byKind := t.byKind.set k.index n k.index_lt_count }

/-- The tally after an object has come. -/
def increment (t : Tally) (k : Kind) : Tally :=
  { t.withCount k (t.count k + 1) with total := t.total + 1 }

/-- The tally after an object has gone. A count of zero stays zero. -/
def decrement (t : Tally) (k : Kind) : Tally :=
  { t.withCount k (t.count k - 1) with total := t.total - 1 }

/-! ## Counts -/

theorem count_eq_getElem (t : Tally) (k : Kind) (h : k.index < Kind.count) :
    t.count k = t.byKind[k.index] := rfl

@[simp] theorem count_zero (k : Kind) : zero.count k = 0 := by
  rw [count_eq_getElem _ _ k.index_lt_count]
  exact Vector.getElem_replicate ..

@[simp] theorem total_zero : zero.total = 0 := rfl

theorem count_withCount (t : Tally) (k l : Kind) (n : Nat) :
    (t.withCount k n).count l = if k = l then n else t.count l := by
  rw [count_eq_getElem _ _ l.index_lt_count, count_eq_getElem _ _ l.index_lt_count]
  by_cases h : k = l
  · subst h
    simp [withCount]
  · have : k.index ≠ l.index := fun e => h (Kind.index_inj e)
    simp [withCount, h, this]

theorem count_increment (t : Tally) (k l : Kind) :
    (t.increment k).count l = if k = l then t.count l + 1 else t.count l := by
  have h : (t.increment k).count l = if k = l then t.count k + 1 else t.count l :=
    count_withCount t k l (t.count k + 1)
  by_cases e : k = l
  · subst e
    simpa using h
  · simpa [e] using h

theorem count_decrement (t : Tally) (k l : Kind) :
    (t.decrement k).count l = if k = l then t.count l - 1 else t.count l := by
  have h : (t.decrement k).count l = if k = l then t.count k - 1 else t.count l :=
    count_withCount t k l (t.count k - 1)
  by_cases e : k = l
  · subst e
    simpa using h
  · simpa [e] using h

@[simp] theorem total_increment (t : Tally) (k : Kind) :
    (t.increment k).total = t.total + 1 := rfl

@[simp] theorem total_decrement (t : Tally) (k : Kind) :
    (t.decrement k).total = t.total - 1 := rfl

/-- Tallies with the same counts and total are equal. -/
theorem ext_count {s t : Tally} (hcount : ∀ k, s.count k = t.count k)
    (htotal : s.total = t.total) : s = t := by
  obtain ⟨sv, st⟩ := s
  obtain ⟨tv, tt⟩ := t
  have hv : sv = tv := by
    refine Vector.ext fun i hi => ?_
    obtain ⟨k, hk⟩ : ∃ k : Kind, k.index = i := Kind.exists_index_eq hi
    subst hk
    exact hcount k
  rw [hv, show st = tt from htotal]

end Tally

end HandleLedger
