import HandleLedger.Proofs.Registry.Account

/-!
# Counters of machine width

A tally counts in natural numbers. Counters of 64 bits that are kept alongside begin again at zero
when they are full, but they show the same numbers as long as a registry never holds 2^64 records.
The main statement is `wordsAll_exact`; one operation is `shows_step`.
-/

set_option autoImplicit false

namespace HandleLedger

/-- The number of objects in words of 64 bits, by kind and in total. -/
structure WordTally where
  byKind : Kind → UInt64
  total : UInt64

namespace WordTally

/-- The tally of no objects. -/
def zero : WordTally := ⟨fun _ => 0, 0⟩

/-- The tally after an object has come. A counter that is full begins again at zero. -/
def increment (w : WordTally) (k : Kind) : WordTally where
  byKind l := if k = l then w.byKind l + 1 else w.byKind l
  total := w.total + 1

/-- One less, but not less than zero. -/
def pred (n : UInt64) : UInt64 := if n = 0 then 0 else n - 1

/-- The tally after an object has gone. A counter of zero stays zero. -/
def decrement (w : WordTally) (k : Kind) : WordTally where
  byKind l := if k = l then pred (w.byKind l) else w.byKind l
  total := pred w.total

/-- The words show the numbers of the tally. -/
structure Shows (w : WordTally) (t : Tally) : Prop where
  count : ∀ k, (w.byKind k).toNat = t.count k
  total : w.total.toNat = t.total

/-! ## One counter -/

theorem toNat_succ {n : UInt64} (h : n.toNat + 1 < UInt64.size) : (n + 1).toNat = n.toNat + 1 := by
  rw [UInt64.toNat_add]
  exact Nat.mod_eq_of_lt h

theorem toNat_pred (n : UInt64) : (pred n).toNat = n.toNat - 1 := by
  rw [pred]
  split
  · rename_i hzero
    rw [hzero]
    rfl
  · rename_i hne
    have hpos : 1 ≤ n := by
      rw [UInt64.le_iff_toNat_le]
      exact Nat.pos_of_ne_zero fun h => hne (UInt64.toNat_inj.mp h)
    exact UInt64.toNat_sub_of_le _ _ hpos

/-! ## Tallies -/

variable {w : WordTally} {t : Tally} {k : Kind}

theorem shows_zero : zero.Shows .zero where
  count k := (Tally.count_zero k).symm
  total := rfl

theorem Shows.increment (h : w.Shows t) (hcount : t.count k + 1 < UInt64.size)
    (htotal : t.total + 1 < UInt64.size) : (w.increment k).Shows (t.increment k) where
  count l := by
    rw [Tally.count_increment]
    show (if k = l then w.byKind l + 1 else w.byKind l).toNat = _
    split
    · rename_i hkl
      subst hkl
      rw [← h.count k] at hcount ⊢
      exact toNat_succ hcount
    · exact h.count l
  total := by
    rw [Tally.total_increment]
    rw [← h.total] at htotal ⊢
    exact toNat_succ htotal

theorem Shows.decrement (h : w.Shows t) : (w.decrement k).Shows (t.decrement k) where
  count l := by
    rw [Tally.count_decrement, ← h.count l]
    show (if k = l then pred (w.byKind l) else w.byKind l).toNat = _
    split
    · exact toNat_pred _
    · rfl
  total := by
    rw [Tally.total_decrement, ← h.total]
    exact toNat_pred _

end WordTally

namespace Registry

/-- The words after an operation on the registry that they count. -/
def Operation.words (op : Operation) (r : Registry) (w : WordTally) : WordTally :=
  match op with
  | .insert e => if r.contains e.kind e.handle then w else w.increment e.kind
  | .remove k h => if r.contains k h then w.decrement k else w
  | .drain => .zero
  | _ => w

/-- The words after a history. -/
def Operation.wordsAll : List Operation → Registry → WordTally → WordTally
  | [], _, w => w
  | op :: ops, r, w => wordsAll ops (op.run r).2 (op.words r w)

variable {r : Registry} {a : Account} {w : WordTally}

theorem Reckons.count_le_total (hr : r.Reckons a) (k : Kind) : r.count k ≤ r.total := by
  rw [hr.count k, hr.total]
  exact List.countP_le_length

/-- An operation after which there are fewer than 2^64 records overflows no word. -/
theorem shows_step (hr : r.Reckons a) (hw : w.Shows r.tally) (op : Operation)
    (hfew : (op.run r).2.total < UInt64.size) : (op.words r w).Shows (op.run r).2.tally := by
  cases op with
  | insert e =>
    show (if r.contains e.kind e.handle then w else _).Shows (r.insert e).tally
    replace hfew : (r.insert e).total < UInt64.size := hfew
    rw [Registry.insert] at hfew ⊢
    split
    · exact hw
    · rename_i hnew
      rw [if_neg hnew] at hfew
      have htotal : r.total + 1 < UInt64.size := hfew
      have hcount := Nat.lt_of_le_of_lt (Nat.succ_le_succ (hr.count_le_total e.kind)) htotal
      exact hw.increment hcount htotal
  | remove k h =>
    show (if r.contains k h then _ else w).Shows (r.remove k h).tally
    rw [Registry.remove]
    split
    · exact hw.decrement
    · exact hw
  | drain => exact WordTally.shows_zero
  | insertImage e =>
    show w.Shows (r.insertImage e).tally
    rw [Registry.insertImage]
    split
    · exact hw
    · exact hw
  | _ => exact hw

theorem shows_wordsAll (hr : r.Reckons a) (hw : w.Shows r.tally) (ops : List Operation)
    (hfew : ∀ n, (Operation.runAll (ops.take n) r).2.total < UInt64.size) :
    (Operation.wordsAll ops r w).Shows (Operation.runAll ops r).2.tally := by
  induction ops generalizing r a w with
  | nil => exact hw
  | cons op ops ih =>
    obtain ⟨-, hstep⟩ := hr.step op
    exact ih hstep (shows_step hr hw op (hfew 1)) fun n => hfew (n + 1)

/-- Counters of 64 bits are exact after every history in which the registry holds fewer than 2^64
records at any time. -/
theorem wordsAll_exact (ops : List Operation)
    (hfew : ∀ n, (Operation.runAll (ops.take n) empty).2.records.size < 2 ^ 64) :
    let r := (Operation.runAll ops empty).2
    let w := Operation.wordsAll ops empty .zero
    (∀ k, (w.byKind k).toNat = r.count k) ∧ w.total.toNat = r.total := by
  have hshows := shows_wordsAll Reckons.empty WordTally.shows_zero ops fun n => by
    rw [(Reckons.empty.runAll (ops.take n)).2.balanced.size]
    exact hfew n
  exact ⟨hshows.count, hshows.total⟩

end Registry

end HandleLedger
