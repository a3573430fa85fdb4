import HandleLedger.Proofs.Ledger.Confinement

/-!
# Devices and their instances

The directory holds no orphans: whatever operations have been carried out, the parent of a device is
the key of an instance that is known, and an instance has no parent (`Ledger.Rooted`). The main
statement, `after_descends`, adds that every context stands under its own identity and that closing
an instance takes out its devices and nothing else.

An instance that is opened again in place of itself keeps its devices, since they name it by its key
alone. So the invariant asks for an instance under that key and not for any particular one.
-/

set_option autoImplicit false

namespace HandleLedger

namespace Ledger

/-- Every context stands under its own identity, and every device belongs to a known instance. -/
structure Rooted (l : Ledger) : Prop where
  filed : l.Filed
  parentless : ∀ key c, l.context? (.ofInstance key) = some c → c.parent = none
  descends : ∀ key c, l.context? (.ofDevice key) = some c →
    ∃ instanceKey, c.parent = some instanceKey ∧ (l.context? (.ofInstance instanceKey)).isSome

theorem rooted_empty : empty.Rooted where
  filed := every_empty _
  parentless _ _ hc := by cases hc
  descends _ _ hc := by cases hc

namespace Rooted

variable {l l' : Ledger}

/-- A device is a context with an instance. -/
theorem isSome_instanceOf (hl : l.Rooted) (key : DispatchKey) :
    (l.instanceOf key).isSome = (l.context? (.ofDevice key)).isSome := by
  cases hc : l.context? (.ofDevice key) with
  | none =>
    rw [instanceOf_of_eq_none hc]
    rfl
  | some c =>
    obtain ⟨instanceKey, hparent, -⟩ := hl.descends key c hc
    rw [instanceOf_of_eq_some hc, hparent]
    rfl

theorem isSome_of_instanceOf (hl : l.Rooted) {key instanceKey : DispatchKey}
    (h : l.instanceOf key = some instanceKey) :
    (l.context? (.ofInstance instanceKey)).isSome := by
  obtain ⟨c, hc, hparent⟩ := Option.bind_eq_some_iff.mp h
  obtain ⟨key', hparent', hsome⟩ := hl.descends key c hc
  rw [hparent, Option.some.injEq] at hparent'
  exact hparent' ▸ hsome

/-! ## Steps -/

/-- A change of one registry moves no context. -/
theorem updates (hl : l.Rooted) (hfiled : l'.Filed) {id : ContextId} {f : Registry → Registry}
    (hu : Updates id f l l') : l'.Rooted where
  filed := hfiled
  parentless key c' hc' := by
    obtain ⟨c, hc, rfl | rfl⟩ := hu.eq_or_eq_mapRegistry hc'
    · exact hl.parentless key c' hc
    · exact hl.parentless key c hc
  descends key c' hc' := by
    obtain ⟨c, hc, hcc⟩ := hu.eq_or_eq_mapRegistry hc'
    obtain ⟨instanceKey, hparent, hsome⟩ := hl.descends key c hc
    refine ⟨instanceKey, ?_, (hu.isSome_context? _).trans hsome⟩
    rcases hcc with rfl | rfl
    · exact hparent
    · exact hparent

theorem openInstance (hl : l.Rooted) (key : DispatchKey) (handle : Handle) (sink : Sink) :
    (openInstance key handle sink l).ledger.Rooted where
  filed := Filed.keeps_openInstance key handle sink l hl.filed
  parentless key' c hc := by
    rw [context?_openInstance] at hc
    split at hc
    · cases hc
      rfl
    · exact hl.parentless key' c hc
  descends key' c hc := by
    rw [context?_openInstance, if_neg ContextId.ofInstance_ne_ofDevice] at hc
    obtain ⟨instanceKey, hparent, hsome⟩ := hl.descends key' c hc
    refine ⟨instanceKey, hparent, ?_⟩
    -- the device may belong to the instance that is replaced, whose key stays known
    rw [context?_openInstance]
    split
    · rfl
    · exact hsome

theorem openDevice (hl : l.Rooted) (instanceKey key : DispatchKey) (handle : Handle) :
    (openDevice instanceKey key handle l).ledger.Rooted := by
  cases hroot : l.context? (.ofInstance instanceKey) with
  | none =>
    rw [(openDevice_of_eq_none hroot key handle).2]
    exact hl
  | some root =>
    obtain ⟨-, hopen⟩ := openDevice_of_eq_some hroot key handle
    have hinstance : ∀ key', (Ledger.openDevice instanceKey key handle l).ledger.context?
        (.ofInstance key') = l.context? (.ofInstance key') :=
      fun key' => (hopen _).trans (if_neg ContextId.ofInstance_ne_ofDevice.symm)
    refine ⟨Filed.keeps_openDevice instanceKey key handle l hl.filed, ?_, ?_⟩
    · intro key' c hc
      rw [hinstance] at hc
      exact hl.parentless key' c hc
    · intro key' c hc
      rw [hopen] at hc
      split at hc
      · cases hc
        exact ⟨instanceKey, rfl, by rw [hinstance, hroot]; rfl⟩
      · obtain ⟨other, hparent, hsome⟩ := hl.descends key' c hc
        exact ⟨other, hparent, by rw [hinstance]; exact hsome⟩

theorem closeDevice (hl : l.Rooted) (key : DispatchKey) :
    (closeDevice key l).ledger.Rooted where
  filed := Filed.keeps_closeContext (.ofDevice key) l hl.filed
  parentless key' c hc := by
    rw [Ledger.closeDevice, context?_closeContext,
      if_neg ContextId.ofInstance_ne_ofDevice.symm] at hc
    exact hl.parentless key' c hc
  descends key' c hc := by
    rw [Ledger.closeDevice, context?_closeContext] at hc
    split at hc
    · cases hc
    · obtain ⟨instanceKey, hparent, hsome⟩ := hl.descends key' c hc
      refine ⟨instanceKey, hparent, ?_⟩
      rw [Ledger.closeDevice, context?_closeContext,
      if_neg ContextId.ofInstance_ne_ofDevice.symm]
      exact hsome

/-- With every device under its instance, closing an instance leaves exactly the contexts that are
neither it nor name it as their parent. -/
theorem context?_closeInstance (hl : l.Rooted) (key : DispatchKey) (id : ContextId) (c : Context) :
    (Ledger.closeInstance key l).ledger.context? id = some c ↔
      l.context? id = some c ∧ id ≠ .ofInstance key ∧ c.parent ≠ some key := by
  rw [hl.filed.context?_closeInstance]
  refine and_congr_right fun hc => and_congr_right fun _ => not_congr ?_
  refine ⟨fun h => h.2, fun hparent => ⟨?_, hparent⟩⟩
  -- only devices have a parent
  obtain ⟨scope, key'⟩ := id
  cases scope with
  | instanceLevel =>
    rw [hl.parentless key' c hc] at hparent
    cases hparent
  | deviceLevel => exact hl.filed.scope_eq hc

theorem closeInstance (hl : l.Rooted) (key : DispatchKey) :
    (closeInstance key l).ledger.Rooted where
  filed := Filed.keeps_closeInstance key l hl.filed
  parentless key' c hc := hl.parentless key' c ((hl.context?_closeInstance ..).mp hc).1
  descends key' c hc := by
    obtain ⟨hc, -, hne⟩ := (hl.context?_closeInstance ..).mp hc
    obtain ⟨instanceKey, hparent, hsome⟩ := hl.descends key' c hc
    obtain ⟨root, hroot⟩ := Option.isSome_iff_exists.mp hsome
    -- a device that is left has another instance, and that one is left as well
    have hother : ContextId.ofInstance instanceKey ≠ .ofInstance key := by
      intro heq
      rw [ContextId.ofInstance_inj.mp heq] at hparent
      exact hne hparent
    have hroot' : root.parent ≠ some key := by
      rw [hl.parentless instanceKey root hroot]
      exact (Option.some_ne_none key).symm
    have hleft := (hl.context?_closeInstance key _ root).mpr ⟨hroot, hother, hroot'⟩
    exact ⟨instanceKey, hparent, Option.isSome_iff_exists.mpr ⟨root, hleft⟩⟩

/-- No operation makes an orphan. -/
theorem keeps_run (op : Operation) : op.run.Keeps Rooted := by
  intro l hl
  cases hop : op.movesContexts with
  | false =>
    obtain ⟨id, f, hu, -⟩ := exists_updates_run hop l
    exact hl.updates (Filed.keeps_run op l hl.filed) hu
  | true =>
    cases op with
    | openInstance key handle sink => exact hl.openInstance key handle sink
    | openDevice instanceKey key handle => exact hl.openDevice instanceKey key handle
    | closeDevice key => exact hl.closeDevice key
    | closeInstance key => exact hl.closeInstance key
    | _ => cases hop

end Rooted

theorem rooted_after (ops : List Operation) : (after ops).Rooted := by
  induction ops using List.reverseRecOn with
  | nil => exact rooted_empty
  | append_singleton ops op ih =>
    rw [after_append_singleton]
    exact Rooted.keeps_run op _ ih

/-- After any history each instance stands under its own key and has no parent, and each device
stands under its own key and has a parent that is known. Closing an instance takes out the instance
and the devices with that parent, and leaves every other context as it is. -/
theorem after_descends (ops : List Operation) :
    (∀ key c, (after ops).context? (.ofInstance key) = some c →
      c.scope = .instanceLevel ∧ c.key = key ∧ c.parent = none) ∧
    (∀ key c, (after ops).context? (.ofDevice key) = some c →
      c.scope = .deviceLevel ∧ c.key = key ∧ ∃ instanceKey root,
        c.parent = some instanceKey ∧
          (after ops).context? (.ofInstance instanceKey) = some root) ∧
    (∀ key, ((after ops).instanceOf key).isSome = ((after ops).context? (.ofDevice key)).isSome) ∧
    (∀ key instanceKey, (after ops).instanceOf key = some instanceKey →
      ((after ops).context? (.ofInstance instanceKey)).isSome) ∧
    ∀ key,
      (∀ device, (after (ops ++ [.closeInstance key])).instanceOf device ≠ some key) ∧
      ∀ id c, (after (ops ++ [.closeInstance key])).context? id = some c ↔
        (after ops).context? id = some c ∧ id ≠ .ofInstance key ∧ c.parent ≠ some key := by
  have hl := rooted_after ops
  have hclose : ∀ key id c, (after (ops ++ [.closeInstance key])).context? id = some c ↔
      (after ops).context? id = some c ∧ id ≠ .ofInstance key ∧ c.parent ≠ some key := by
    intro key id c
    rw [after_append_singleton]
    exact hl.context?_closeInstance key id c
  refine ⟨?_, ?_, hl.isSome_instanceOf, fun _ _ => hl.isSome_of_instanceOf, ?_⟩
  · intro key c hc
    exact ⟨hl.filed.scope_eq hc, hl.filed.key_eq hc, hl.parentless key c hc⟩
  · intro key c hc
    obtain ⟨instanceKey, hparent, hsome⟩ := hl.descends key c hc
    obtain ⟨root, hroot⟩ := Option.isSome_iff_exists.mp hsome
    exact ⟨hl.filed.scope_eq hc, hl.filed.key_eq hc, instanceKey, root, hparent, hroot⟩
  · intro key
    refine ⟨fun device hdevice => ?_, hclose key⟩
    obtain ⟨c, hc, hparent⟩ := Option.bind_eq_some_iff.mp hdevice
    exact ((hclose key _ c).mp hc).2.2 hparent

/-- Two instances with a device each, one of which has the key of its instance. That instance is
opened again in the end. -/
def reopening : List Operation :=
  [.openInstance 1 10 ⟨none, .memory⟩, .openInstance 2 11 ⟨none, .memory⟩,
    .openDevice 1 1 20, .openDevice 2 3 30, .openInstance 1 12 ⟨none, .memory⟩]

/-- The device of the instance that was opened again has kept its parent. It goes when that instance
is closed, and the other device stays. -/
theorem device_of_reopened :
    (after reopening).instanceOf 1 = some 1 ∧
      ((after reopening).context? (.ofInstance 1)).isSome ∧
      (∀ device, (after (reopening ++ [.closeInstance 1])).instanceOf device ≠ some 1) ∧
      ((after (reopening ++ [.closeInstance 1])).context? (.ofDevice 3)).isSome := by
  obtain ⟨-, -, hdevices, hroots, hclose⟩ := after_descends reopening
  have hparent : (after reopening).instanceOf 1 = some 1 := by decide +kernel
  have hother : (after reopening).instanceOf 3 = some 2 := by decide +kernel
  have hknown : ((after reopening).context? (.ofDevice 3)).isSome := by
    rw [← hdevices, hother]
    rfl
  obtain ⟨c, hc⟩ := Option.isSome_iff_exists.mp hknown
  have hc2 : c.parent = some 2 := by rw [← instanceOf_of_eq_some hc, hother]
  obtain ⟨hgone, hleft⟩ := hclose 1
  refine ⟨hparent, hroots 1 1 hparent, hgone, Option.isSome_iff_exists.mpr ⟨c, ?_⟩⟩
  refine (hleft _ c).mpr ⟨hc, ?_, ?_⟩
  · intro heq
    cases heq
  · rw [hc2]
    decide

end Ledger

end HandleLedger
