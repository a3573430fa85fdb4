import HandleLedger.Proofs.Ledger.Recognition

/-!
# One handle under several kinds

A registry files its records by kind and handle, and a registration looks at the records of its own
kind alone. So one handle may stand under several kinds at once. The main statement,
`overlap_iff_crosses`, says exactly when it does: some step has registered the handle under one kind
while it stood under the other (`CrossesAt`), and both records have been left alone since. A history
without such a step keeps every handle of a context under one kind, and the context validates it
as an object of that kind only.

A record stands until a step removes it: `isSome_record?_take_succ` for one step,
`isSome_record?_take_of_le` for a stretch of the history. The validation by one context is the check
without the search among the others; `validatesAlone_iff_silent` compares it with the full check.
-/

set_option autoImplicit false

namespace HandleLedger.Ledger

/-- Step `n` of the history registers the handle as an object of kind `k` while the context holds it
as one of kind `k'`, and no later step removes either. -/
structure CrossesAt (ops : List Operation) (id : ContextId) (h : Handle) (k k' : Kind)
    (n : Nat) : Prop where
  enters : ∃ status parent, EntersAt ops id k h n status parent
  stands : ((after (ops.take n)).record? id k' h).isSome
  stays : ∀ m, n < m → ¬RemovesAt ops id k h m ∧ ¬RemovesAt ops id k' h m

/-- The addressed context by itself validates an argument that has to be there, and not because of
the images of a swapchain: the check that searches no other context reports nothing. -/
def ValidatesAlone (l : Ledger) (id : ContextId) (a : Argument) : Prop :=
  ∃ c, l.context? id = some c ∧ a.nullAllowed = false ∧
    (a.kind = .image → c.registry.image? a.handle = none) ∧
    (l.checkArgumentAmong [c] [] id a).trace.reports = []

/-! ## How long a record stands -/

section Standing

variable {ops : List Operation} {id : ContextId} {k : Kind} {h : Handle} {n m : Nat}
  {status : Status} {parent : Handle}

/-- A step that does not remove an object lets it stand. -/
theorem isSome_record?_take_succ (hstands : ((after (ops.take n)).record? id k h).isSome)
    (hkept : ¬RemovesAt ops id k h n) :
    ((after (ops.take (n + 1))).record? id k h).isSome := by
  cases hop : ops[n]? with
  | none =>
    rw [after_take_succ_of_eq_none hop]
    exact hstands
  | some op =>
    obtain ⟨e, he⟩ := Option.isSome_iff_exists.mp hstands
    have hnot : ¬op.Removes (after (ops.take n)) id k h := fun hrem => hkept ⟨op, hop, hrem⟩
    rw [after_take_succ hop]
    exact Option.isSome_of_eq_some
      ((record?_run_of_not_removes (filed_after _) hnot e).mpr (Or.inl he))

/-- An object stands as long as no step removes it. -/
theorem isSome_record?_take_of_le (hstands : ((after (ops.take n)).record? id k h).isSome)
    (hnm : n ≤ m) (hkept : ∀ i, n ≤ i → i < m → ¬RemovesAt ops id k h i) :
    ((after (ops.take m)).record? id k h).isSome := by
  induction hnm with
  | refl => exact hstands
  | @step m hnm ih =>
    have hbefore := ih fun i hni him => hkept i hni (Nat.lt_succ_of_lt him)
    exact isSome_record?_take_succ hbefore (hkept m hnm (Nat.lt_succ_self m))

/-- An object that no later step removes stands in the end. -/
theorem isSome_record?_after (hstands : ((after (ops.take n)).record? id k h).isSome)
    (hkept : ∀ i, n ≤ i → ¬RemovesAt ops id k h i) : ((after ops).record? id k h).isSome := by
  rcases Nat.le_total n ops.length with hle | hle
  · have hlast := isSome_record?_take_of_le hstands hle fun i hni _ => hkept i hni
    rwa [List.take_length] at hlast
  · rwa [List.take_of_length_le hle] at hstands

/-- A registration in a known context leaves a record, the new one or an old one. -/
theorem EntersAt.isSome_record? (he : EntersAt ops id k h n status parent) :
    ((after (ops.take (n + 1))).record? id k h).isSome := by
  obtain ⟨op, hop, hreg, hctx⟩ := he
  have hnot : ¬op.Removes (after (ops.take n)) id k h := not_removes_of_registration? hreg
  have hrecord := record?_run_of_not_removes (filed_after (ops.take n)) hnot
  rw [after_take_succ hop]
  cases hold : (after (ops.take n)).record? id k h with
  | some e => exact Option.isSome_of_eq_some ((hrecord e).mpr (Or.inl hold))
  | none =>
    have hnew := (hrecord _).mpr (Or.inr ⟨hold, hctx, status, parent, hreg, rfl⟩)
    exact Option.isSome_of_eq_some hnew

/-- A step registers under one kind at most. -/
theorem EntersAt.kind_eq {k' : Kind} {status' : Status} {parent' : Handle}
    (he : EntersAt ops id k h n status parent) (he' : EntersAt ops id k' h n status' parent') :
    k = k' := by
  obtain ⟨op, hop, hreg, -⟩ := he
  obtain ⟨op', hop', hreg', -⟩ := he'
  rw [hop, Option.some.injEq] at hop'
  subst hop'
  exact congrArg Registration.kind (Option.some.inj (hreg.symm.trans hreg'))

end Standing

/-! ## Crossing registrations -/

section Crossing

variable {ops : List Operation} {id : ContextId} {h : Handle} {k k' : Kind} {n n' : Nat}
  {status status' : Status} {parent parent' : Handle}

/-- Of two registrations that last, the later one crosses the record of the earlier one. -/
theorem Lasts.crossesAt_of_lt (hn : Lasts ops id k h n status parent)
    (hn' : Lasts ops id k' h n' status' parent') (hlt : n < n') :
    CrossesAt ops id h k' k n' where
  enters := ⟨status', parent', hn'.enters⟩
  stands := isSome_record?_take_of_le hn.enters.isSome_record? hlt fun i hi _ => hn.stays i hi
  stays m hm := ⟨hn'.stays m hm, hn.stays m (Nat.lt_trans hlt hm)⟩

/-- Both records of a crossing registration stand in the end. -/
theorem CrossesAt.isSome_record? (hc : CrossesAt ops id h k k' n) :
    ((after ops).record? id k h).isSome ∧ ((after ops).record? id k' h).isSome := by
  obtain ⟨status, parent, henters⟩ := hc.enters
  -- the crossing step is a registration, so it leaves the record that it crosses alone
  have hother := isSome_record?_take_succ hc.stands henters.not_removesAt
  exact ⟨isSome_record?_after henters.isSome_record? fun i hi => (hc.stays i hi).1,
    isSome_record?_after hother fun i hi => (hc.stays i hi).2⟩

theorem exists_lasts (hsome : ((after ops).record? id k h).isSome) :
    ∃ n status parent, Lasts ops id k h n status parent := by
  obtain ⟨e, he⟩ := Option.isSome_iff_exists.mp hsome
  obtain ⟨n, status, parent, hn, -⟩ := (record?_after ops id k h e).mp he
  exact ⟨n, status, parent, hn.toLasts⟩

/-- A handle stands under two kinds exactly if a registration under one has crossed the record under
the other. -/
theorem isSome_record?_and_iff (hne : k ≠ k') :
    ((after ops).record? id k h).isSome ∧ ((after ops).record? id k' h).isSome ↔
      ∃ n, CrossesAt ops id h k k' n ∨ CrossesAt ops id h k' k n := by
  constructor
  · rintro ⟨hk, hk'⟩
    obtain ⟨n, s, p, hn⟩ := exists_lasts hk
    obtain ⟨n', s', p', hn'⟩ := exists_lasts hk'
    -- whichever of the two registrations came later has crossed the other
    rcases Nat.lt_trichotomy n n' with hlt | rfl | hgt
    · exact ⟨n', Or.inr (hn.crossesAt_of_lt hn' hlt)⟩
    · exact absurd (hn.enters.kind_eq hn'.enters) hne
    · exact ⟨n, Or.inl (hn'.crossesAt_of_lt hn hgt)⟩
  · rintro ⟨n, hc | hc⟩
    · exact hc.isSome_record?
    · exact hc.isSome_record?.symm

end Crossing

/-! ## Validation by one context -/

section Alone

variable {l : Ledger} {id : ContextId} {c : Context} {a : Argument}

/-- A check that searches the addressed context only is silent exactly if the context holds the
object. -/
theorem silent_among_self_iff (hc : l.context? id = some c) (hnull : a.nullAllowed = false) :
    (l.checkArgumentAmong [c] [] id a).trace.reports = [] ↔ c.registry.Holds a.kind a.handle := by
  have hrequired : ¬(a.nullAllowed = true ∧ a.handle = nullHandle) := by
    rw [hnull]
    exact fun h => Bool.false_ne_true h.1
  rw [checkArgumentAmong, if_neg hrequired, within_of_eq_some hc, within_of_eq_some hc]
  by_cases hk : a.kind = .device
  · have hknown : [c].any (·.registry.contains .device a.handle) = true ↔
        c.registry.Holds a.kind a.handle := by
      rw [hk, List.any_cons, List.any_nil, Bool.or_false]
      exact (or_iff_left fun himage => by cases himage.1).symm
    -- either the check passes, or it has a report, so that its trace is not empty
    rw [if_pos hk]
    split
    · exact iff_of_true rfl (hknown.mp (by assumption))
    · exact iff_of_false (List.cons_ne_nil _ _) (mt hknown.mpr (by assumption))
  · rw [if_neg hk, ← Registry.tracks_iff]
    split
    · exact iff_of_true rfl (by assumption)
    · exact iff_of_false (List.cons_ne_nil _ _) (by assumption)

/-- A context that validates an argument by itself has a record of the object. -/
theorem ValidatesAlone.isSome_record? (hv : l.ValidatesAlone id a) :
    (l.record? id a.kind a.handle).isSome := by
  obtain ⟨c, hc, hnull, himage, hsilent⟩ := hv
  rw [record?_of_eq_some hc]
  rcases (silent_among_self_iff hc hnull).mp hsilent with hrecord | ⟨hk, halias⟩
  · exact hrecord
  · rw [himage hk] at halias
    cases halias

/-- Where no other device knows the object, the full check of an argument is silent exactly if the
addressed context validates it by itself. -/
theorem validatesAlone_iff_silent (hl : l.Filed) (hc : l.context? id = some c)
    (hnull : a.nullAllowed = false) (hk : a.kind ≠ .device)
    (himage : a.kind = .image → c.registry.image? a.handle = none)
    (halone : ¬l.HeldElsewhere id a.kind a.handle) :
    l.ValidatesAlone id a ↔ ((Operation.checkArgument id a).run l).trace.reports = [] := by
  rw [run_checkArgument_of_eq rfl]
  constructor
  · rintro ⟨c', hc', -, -, hsilent⟩
    have hholds := (silent_among_self_iff hc' hnull).mp hsilent
    exact (checkArgument_of_undisputed hl (.own hk c' hc' hholds)).2
  · intro hsilent
    refine ⟨c, hc, hnull, himage, (silent_among_self_iff hc hnull).mpr ?_⟩
    apply Classical.byContradiction
    intro hnot
    have hr : ¬l.Recognizes id a.kind a.handle := by
      intro hr
      cases hr with
      | device hdevice => exact hk hdevice
      | own _ c' hc' hh =>
        obtain rfl : c = c' := Option.some.inj (hc.symm.trans hc')
        exact hnot hh
      | elsewhere _ he => exact halone he
    rw [checkArgument_of_not_recognizes hl hnull hc hr] at hsilent
    cases hsilent

end Alone

/-- After any history, a handle of a context stands under two kinds exactly if some step registered
it under one of them while it stood under the other, and no later step removed it from either. If no
step did so, the handle stands under one kind at most, and the context by itself validates it as an
object of one kind at most. -/
theorem overlap_iff_crosses (ops : List Operation) (id : ContextId) (h : Handle) :
    let l := after ops
    (∀ k k', k ≠ k' →
      ((l.record? id k h).isSome ∧ (l.record? id k' h).isSome ↔
        ∃ n, CrossesAt ops id h k k' n ∨ CrossesAt ops id h k' k n)) ∧
    ((∀ k k' n, k ≠ k' → ¬CrossesAt ops id h k k' n) →
      (∀ k k', (l.record? id k h).isSome → (l.record? id k' h).isSome → k = k') ∧
      ∀ a a' : Argument, a.handle = h → a'.handle = h → l.ValidatesAlone id a →
        l.ValidatesAlone id a' → a.kind = a'.kind) := by
  refine ⟨fun k k' hne => isSome_record?_and_iff hne, ?_⟩
  intro hnever
  have hone : ∀ k k', ((after ops).record? id k h).isSome →
      ((after ops).record? id k' h).isSome → k = k' := by
    intro k k' hk hk'
    by_cases hne : k = k'
    · exact hne
    · obtain ⟨n, hc | hc⟩ := (isSome_record?_and_iff hne).mp ⟨hk, hk'⟩
      · exact absurd hc (hnever k k' n hne)
      · exact absurd hc (hnever k' k n (Ne.symm hne))
  refine ⟨hone, ?_⟩
  rintro a a' rfl ha' hv hv'
  have hrecord' := hv'.isSome_record?
  rw [ha'] at hrecord'
  exact hone _ _ hv.isSome_record? hrecord'

/-- A device registers one handle as a buffer and as a fence at once, and another one as a buffer
first and, when that is gone, as a fence. -/
def bufferAndFence : List Operation :=
  [.openInstance 1 10 ⟨none, .memory⟩, .openDevice 1 2 20,
    .registerObject (.ofDevice 2) .buffer 5 false, .registerObject (.ofDevice 2) .fence 5 false,
    .registerObject (.ofDevice 2) .buffer 6 false, .release (.ofDevice 2) .buffer 6,
    .registerObject (.ofDevice 2) .fence 6 false]

/-- A handle of a context need not stand under one kind alone. -/
theorem not_one_kind :
    ¬∀ (ops : List Operation) (id : ContextId) (h : Handle) (k k' : Kind),
      ((after ops).record? id k h).isSome → ((after ops).record? id k' h).isSome → k = k' := by
  intro hone
  have heq := hone bufferAndFence (.ofDevice 2) 5 .buffer .fence (by decide +kernel)
    (by decide +kernel)
  cases heq

theorem eq_fence_of_isSome_record? (k : Kind) :
    ((after bufferAndFence).record? (.ofDevice 2) k 6).isSome → k = .fence := by
  cases k <;> decide +kernel

/-- The first handle stands under both kinds, as one registration has crossed the other. The second
one has been used for one kind after the other, and is validated as a fence only. -/
theorem buffer_crosses_fence :
    (∃ n, CrossesAt bufferAndFence (.ofDevice 2) 5 .buffer .fence n ∨
      CrossesAt bufferAndFence (.ofDevice 2) 5 .fence .buffer n) ∧
    ∀ a : Argument, a.handle = 6 → (after bufferAndFence).ValidatesAlone (.ofDevice 2) a →
      a.kind = .fence := by
  constructor
  · have hboth : ((after bufferAndFence).record? (.ofDevice 2) .buffer 5).isSome ∧
        ((after bufferAndFence).record? (.ofDevice 2) .fence 5).isSome := by
      decide +kernel
    exact ((overlap_iff_crosses bufferAndFence (.ofDevice 2) 5).1 _ _ (by decide)).mp hboth
  · have hnever : ∀ k k' n, k ≠ k' → ¬CrossesAt bufferAndFence (.ofDevice 2) 6 k k' n := by
      intro k k' n hne hc
      obtain ⟨hk, hk'⟩ := hc.isSome_record?
      exact hne ((eq_fence_of_isSome_record? k hk).trans (eq_fence_of_isSome_record? k' hk').symm)
    obtain ⟨c, hc, hholds⟩ := exists_holds_of_tracks
      (show (after bufferAndFence).tracks (.ofDevice 2) .fence 6 = true by decide +kernel)
    have hfence : (after bufferAndFence).ValidatesAlone (.ofDevice 2)
        (.required .fence 6 Code.objectLeak none) := by
      refine ⟨c, hc, rfl, ?_, (silent_among_self_iff hc rfl).mpr hholds⟩
      intro himage
      cases himage
    intro a ha hv
    exact ((overlap_iff_crosses bufferAndFence (.ofDevice 2) 6).2 hnever).2 a
      (.required .fence 6 Code.objectLeak none) ha rfl hv hfence

end HandleLedger.Ledger
