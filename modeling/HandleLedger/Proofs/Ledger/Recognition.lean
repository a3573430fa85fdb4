import HandleLedger.Proofs.Ledger.Classification
import HandleLedger.Proofs.Ledger.Interleaving

/-!
# The handles that a check recognizes

A check reports a handle as invalid exactly if it does not recognize it as an object of the kind
(`refers_invalid_iff`), and whatever it recognizes was registered by an operation of the history
(`Recognizes.exists_enters`). Both hold for the null handle as for any other: nothing keeps the null
handle from being registered, and `release` ignores it, so that only an explicit `discard` or the
removal of its pool, kind or context takes it out again. The main statement, `null_refers_iff`, says
exactly when a null handle is reported where null will not do.
-/

set_option autoImplicit false

namespace HandleLedger.Ledger

/-- A check that is addressed to the context finds the handle as an object of the kind: among the
devices of some instance, in the context itself, or in another device. -/
inductive Recognizes (l : Ledger) (id : ContextId) (k : Kind) (h : Handle) : Prop
  | device (hk : k = .device) (hd : l.HoldsDevice h)
  | own (hk : k ≠ .device) (c : Context) (hc : l.context? id = some c) (hh : c.registry.Holds k h)
  | elsewhere (hk : k ≠ .device) (he : l.HeldElsewhere id k h)

/-- The operation asks for the handle to be entered as an object of the kind, in some context. -/
def Operation.Enters (op : Operation) (k : Kind) (h : Handle) : Prop :=
  ∃ x, op.entry? = some x ∧ x.place.kind = k ∧ x.place.handle = h

/-- What a context tracks, its registry holds. -/
theorem exists_holds_of_tracks {l : Ledger} {id : ContextId} {k : Kind} {h : Handle}
    (ht : l.tracks id k h = true) : ∃ c, l.context? id = some c ∧ c.registry.Holds k h := by
  rw [tracks] at ht
  cases hc : l.context? id with
  | none =>
    rw [hc] at ht
    cases ht
  | some c =>
    rw [hc] at ht
    exact ⟨c, rfl, (c.registry.tracks_iff k h).mp ht⟩

/-! ## Where a handle comes from -/

section Origin

variable {ops : List Operation} {id : ContextId} {k : Kind} {h : Handle}

/-- What a registry holds stands at a place in the books. -/
theorem exists_recordAt?_of_holds {c : Context} (hc : (after ops).context? id = some c)
    (hh : c.registry.Holds k h) :
    ∃ p, p.kind = k ∧ p.handle = h ∧ ((after ops).recordAt? p).isSome := by
  rcases hh with hrecord | ⟨rfl, himage⟩
  · refine ⟨.object id k h, rfl, rfl, ?_⟩
    rw [recordAt?, Place.context, hc]
    exact hrecord
  · obtain ⟨scope, key⟩ := id
    cases scope with
    | instanceLevel =>
      -- only devices have images of swapchains
      rw [lasting_imageless.after ops _ c hc rfl h] at himage
      cases himage
    | deviceLevel =>
      refine ⟨.image key h, rfl, rfl, ?_⟩
      rw [recordAt?, Place.context, ContextId.ofDevice, hc]
      exact himage

/-- Whatever stands in the books was entered by an operation of the history. -/
theorem exists_entry_of_recordAt? {p : Place} (hp : ((after ops).recordAt? p).isSome) :
    ∃ op ∈ ops, ∃ x, op.entry? = some x ∧ x.place = p := by
  obtain ⟨e, he⟩ := Option.isSome_iff_exists.mp hp
  rw [← List.take_length (l := ops)] at he
  obtain ⟨owner, hstands⟩ := recordAt?_eq_some_iff.mp he
  obtain ⟨m, -, hadds, -⟩ := stands_take hstands
  obtain ⟨x, hx, hplace, -⟩ := addsAt_iff.mp hadds
  obtain ⟨op, hop, harrival⟩ := Option.bind_eq_some_iff.mp hx
  exact ⟨op, List.mem_of_getElem? hop, x, (arrival?_eq_some_iff.mp harrival).1, hplace⟩

theorem exists_enters_of_holds {c : Context} (hc : (after ops).context? id = some c)
    (hh : c.registry.Holds k h) : ∃ op ∈ ops, op.Enters k h := by
  obtain ⟨p, hkind, hhandle, hp⟩ := exists_recordAt?_of_holds hc hh
  obtain ⟨op, hop, x, hx, rfl⟩ := exists_entry_of_recordAt? hp
  exact ⟨op, hop, x, hx, hkind, hhandle⟩

/-- Whatever a check finds was entered by an operation of the history. -/
theorem Recognizes.exists_enters (hr : (after ops).Recognizes id k h) :
    ∃ op ∈ ops, op.Enters k h := by
  cases hr with
  | device hk hd =>
    obtain ⟨key, c, hc, hfound⟩ := hd
    exact exists_enters_of_holds hc (Or.inl (hk ▸ hfound))
  | own hk c hc hh => exact exists_enters_of_holds hc hh
  | elsewhere hk he =>
    obtain ⟨key, c, -, hc, hh⟩ := he
    exact exists_enters_of_holds hc hh

end Origin

/-! ## The check -/

section Check

variable {l : Ledger} {id : ContextId} {a : Argument}

/-- What the check does not find is disputed, unless null will do. -/
theorem not_undisputed_of_not_recognizes (hnull : a.nullAllowed = false) {c : Context}
    (hc : l.context? id = some c) (hr : ¬l.Recognizes id a.kind a.handle) :
    ¬l.Undisputed id a := by
  intro hu
  cases hu with
  | null hallowed => cases hnull.symm.trans hallowed
  | unknown hnone => cases hnone.symm.trans hc
  | device hk hd => exact hr (.device hk hd)
  | own hk c hc hh => exact hr (.own hk c hc hh)

/-- What the check does not find is reported as invalid. -/
theorem checkArgument_of_not_recognizes (hl : l.Filed) (hnull : a.nullAllowed = false)
    {c : Context} (hc : l.context? id = some c) (hr : ¬l.Recognizes id a.kind a.handle) :
    l.checkArgument id a = .ask c.sink a.invalidReport := by
  have hdisputed := not_undisputed_of_not_recognizes hnull hc hr
  -- devices are searched for in the instances only, anything else in the other devices too
  by_cases hk : a.kind = .device
  · exact checkArgument_of_device hl hdisputed hk hc
  · have hunknown : ¬l.knownElsewhere id a.kind a.handle = true := by
      intro hknown
      exact hr (.elsewhere hk ((knownElsewhere_iff hl ..).mp hknown))
    rw [checkArgument_of_disputed hdisputed hk hc, if_neg hunknown]

/-- What the check finds is not reported as invalid, even if it belongs to another device. -/
theorem invalidReport_not_mem_of_recognizes (hl : l.Filed)
    (hr : l.Recognizes id a.kind a.handle) :
    a.invalidReport ∉ (l.checkArgument id a).trace.reports := by
  by_cases hu : l.Undisputed id a
  · rw [(checkArgument_of_undisputed hl hu).2]
    exact List.not_mem_nil
  · cases hr with
    | device hk hd => exact absurd (.device hk hd) hu
    | own hk c hc hh => exact absurd (.own hk c hc hh) hu
    | elsewhere hk he =>
      obtain ⟨c, hc⟩ := exists_context_of_disputed hu
      rw [checkArgument_of_disputed hu hk hc, if_pos ((knownElsewhere_iff hl ..).mpr he)]
      cases a.wrongDevice with
      | none => exact List.not_mem_nil
      | some code =>
        dsimp only
        split
        · exact List.not_mem_nil
        · -- the one report there is has another finding
          intro hmem
          cases congrArg Report.finding (List.mem_singleton.mp hmem)

/-- An argument for which null will not do is reported as invalid exactly if it is not found. -/
theorem refers_invalid_iff (hl : l.Filed) (hnull : a.nullAllowed = false)
    (hid : (l.context? id).isSome) :
    l.Refers id a.invalidReport ((Operation.checkArgument id a).run l) ↔
      ¬l.Recognizes id a.kind a.handle := by
  constructor
  · rintro ⟨c, -, hstep⟩ hr
    apply invalidReport_not_mem_of_recognizes hl hr
    have htrace := congrArg Step.trace ((run_checkArgument_of_eq rfl).symm.trans hstep)
    rw [show (l.checkArgument id a).trace = [.report c.sink a.invalidReport] from htrace]
    exact List.mem_singleton_self _
  · intro hr
    obtain ⟨c, hc⟩ := Option.isSome_iff_exists.mp hid
    exact refers_of_ask hc (checkArgument_of_not_recognizes hl hnull hc hr)

end Check

/-- After any history, a null handle for which null will not do is reported as invalid, by one error
on which the sink of the addressed context decides, exactly if the check does not find the null
handle on the books. Every null handle that it finds was registered by an operation of the history,
so that all are reported after a history that registers none. -/
theorem null_refers_iff (ops : List Operation) (id : ContextId) (k : Kind) (invalid : Code)
    (wrongDevice : Option Code) (hid : ((after ops).context? id).isSome) :
    let l := after ops
    let step := (Operation.checkArgument id (.required k nullHandle invalid wrongDevice)).run l
    (l.Refers id (.error k nullHandle invalid .invalid) step ↔ ¬l.Recognizes id k nullHandle) ∧
    (l.Recognizes id k nullHandle → ∃ op ∈ ops, op.Enters k nullHandle) ∧
    ((∀ op ∈ ops, ¬op.Enters k nullHandle) →
      l.Refers id (.error k nullHandle invalid .invalid) step) := by
  have hrefers := refers_invalid_iff (a := .required k nullHandle invalid wrongDevice)
    (filed_after ops) rfl hid
  refine ⟨hrefers, Recognizes.exists_enters, ?_⟩
  intro hnever
  refine hrefers.mpr fun hr => ?_
  obtain ⟨op, hop, henters⟩ := hr.exists_enters
  exact hnever op hop henters

/-- The null handle is registered as a buffer of a device. -/
def nullBuffer : List Operation :=
  [.openInstance 1 10 ⟨none, .memory⟩, .openDevice 1 2 20,
    .registerObject (.ofDevice 2) .buffer nullHandle false]

/-- From then on the null handle passes for a buffer, and for nothing else. -/
theorem null_passes_for_registered :
    ¬(after nullBuffer).Refers (.ofDevice 2) (.error .buffer nullHandle Code.objectLeak .invalid)
      ((Operation.checkArgument (.ofDevice 2)
        (.required .buffer nullHandle Code.objectLeak none)).run (after nullBuffer)) ∧
    (after nullBuffer).Refers (.ofDevice 2) (.error .fence nullHandle Code.objectLeak .invalid)
      ((Operation.checkArgument (.ofDevice 2)
        (.required .fence nullHandle Code.objectLeak none)).run (after nullBuffer)) := by
  have hid : ((after nullBuffer).context? (.ofDevice 2)).isSome := by decide +kernel
  constructor
  · obtain ⟨c, hc, hholds⟩ := exists_holds_of_tracks
      (show (after nullBuffer).tracks (.ofDevice 2) .buffer nullHandle = true by decide +kernel)
    intro hrefers
    exact (null_refers_iff nullBuffer (.ofDevice 2) .buffer Code.objectLeak none hid).1.mp hrefers
      (.own (by decide) c hc hholds)
  · have hnever : ∀ op ∈ nullBuffer, ¬op.Enters .fence nullHandle := by
      rintro op hop ⟨x, hx, hkind, -⟩
      simp only [nullBuffer, List.mem_cons, List.not_mem_nil, or_false] at hop
      rcases hop with rfl | rfl | rfl
      · cases hx
      · cases hx
      · cases hx
        cases hkind
    exact (null_refers_iff nullBuffer (.ofDevice 2) .fence Code.objectLeak none hid).2.2 hnever

end HandleLedger.Ledger
