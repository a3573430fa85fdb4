import HandleLedger.Proofs.Ledger.Leakage
import HandleLedger.Proofs.Ledger.Validation

/-!
# What the check of a destruction foretells

Before an object is destroyed its departure is announced, and afterwards it is released. The check
and the release look for the object on their own. The main statement, `checkDestroy_foretells`, says
that they agree: the check speaks up exactly if the release takes a record out, and the numbers that
it gives are the counts after the release.

The numbers are differences. They are exact because the counters of the registry are true after any
history (`lasting_reckoned`), and so count the object that goes. Whether the object was created with
allocation callbacks is read off its status, which is that of the step that founded the record
(`record?_after`).
-/

set_option autoImplicit false

namespace HandleLedger.Ledger

/-- Whether an operation enters an object as one that was created with allocation callbacks. -/
def Operation.custom : Operation → Bool
  | .registerObject _ _ _ custom => custom
  | _ => false

variable {l : Ledger} {id : ContextId} {k : Kind} {h : Handle}

/-- The status with which an operation enters an object tells whether there were callbacks. -/
theorem Operation.Registers.custom_eq {op : Operation} {status : Status} {parent : Handle}
    (hop : op.Registers id k h status parent) :
    status.contains .customAllocator = op.custom := by
  cases op with
  | registerObject id' k' h' custom =>
    cases hop
    exact Status.custom_ofAllocator custom
  | registerCommandBuffer device pool buffer level =>
    cases hop
    exact Status.custom_ofLevel level
  | registerDescriptorSet device pool set =>
    cases hop
    rfl
  | registerQueue device queue =>
    cases hop
    rfl
  | _ => cases hop

/-! ## The release -/

/-- A release takes out the object that it names, if that has a record, and no other. -/
theorem release_removes_iff (hl : l.Filed) :
    (∃ id' k' h' e, l.record? id' k' h' = some e ∧
        ((Operation.release id k h).run l).ledger.record? id' k' h' = none) ↔
      h ≠ nullHandle ∧ ∃ e, l.record? id k h = some e := by
  constructor
  · rintro ⟨id', k', h', e, he, hgone⟩
    by_cases hop : (Operation.release id k h).Removes l id' k' h'
    · obtain ⟨rfl, rfl, rfl, hh⟩ := hop
      exact ⟨hh, e, he⟩
    · -- whatever else there is stands
      rw [record?_run_of_registration?_eq_none hl rfl hop, he] at hgone
      cases hgone
  · rintro ⟨hh, e, he⟩
    exact ⟨id, k, h, e, he, record?_run_of_removes hl ⟨rfl, rfl, rfl, hh⟩⟩

/-- A release lowers the total and the count of the kind by one if it finds the object. -/
theorem counts_release {c : Context} (hc : l.context? id = some c)
    (hreckoned : c.registry.Reckoned) (hh : h ≠ nullHandle) {e : Record}
    (he : c.registry.find? k h = some e) :
    ((Operation.release id k h).run l).ledger.totalCount id + 1 = l.totalCount id ∧
      ((Operation.release id k h).run l).ledger.objectCount id k + 1 = l.objectCount id k := by
  have hleft : ((Operation.release id k h).run l).ledger.context? id =
      some (c.mapRegistry (·.remove k h)) := by
    have hupdates := (updates_release id k hh l).context?_self
    rw [hc] at hupdates
    exact hupdates
  obtain ⟨a, ha⟩ := hreckoned
  have hcontains : c.registry.contains k h = true := (Registry.contains_iff ..).mpr ⟨e, he⟩
  obtain ⟨hcount, htotal⟩ := ha.balanced.remove k h hcontains
  simp only [totalCount, objectCount, hleft, hc]
  exact ⟨htotal, hcount⟩

/-! ## The check -/

section Check

variable {custom : Bool} {customCode defaultCode : Option Code}

/-- The errors about the allocation callbacks of an object and of its destruction. -/
def allocatorErrors (k : Kind) (h : Handle) (created destroyed : Bool)
    (customCode defaultCode : Option Code) : List Report :=
  (allocatorFinding created destroyed customCode defaultCode).toList.map fun f =>
    .error k h f.1 f.2

theorem allocatorErrors_of_eq (created : Bool) :
    allocatorErrors k h created created customCode defaultCode = [] := by
  cases created <;> rfl

theorem allocatorErrors_missing :
    allocatorErrors k h true false customCode defaultCode =
      customCode.toList.map (.error k h · .allocatorMissing) := by
  cases customCode <;> rfl

theorem allocatorErrors_unexpected :
    allocatorErrors k h false true customCode defaultCode =
      defaultCode.toList.map (.error k h · .allocatorUnexpected) := by
  cases defaultCode <;> rfl

/-- An object that has no record is not announced. -/
theorem checkDestroy_of_unknown (hnone : ¬(h ≠ nullHandle ∧ ∃ e, l.record? id k h = some e)) :
    (l.checkDestroy id k h custom customCode defaultCode).skip = false ∧
      (l.checkDestroy id k h custom customCode defaultCode).trace.reports = [] := by
  by_cases hh : h = nullHandle
  · rw [checkDestroy, if_pos hh]
    exact ⟨rfl, rfl⟩
  rw [checkDestroy, if_neg hh]
  cases hc : l.context? id with
  | none =>
    rw [within_of_eq_none hc]
    exact ⟨rfl, rfl⟩
  | some c =>
    have hfind : c.registry.find? k h = none := by
      rw [← record?_of_eq_some hc, Option.eq_none_iff_forall_ne_some]
      exact fun e he => hnone ⟨hh, e, he⟩
    rw [within_of_eq_some hc, hfind]
    exact ⟨rfl, rfl⟩

/-- An object that has a record is announced, with one less of it, and then its callbacks are
judged. -/
theorem checkDestroy_of_known {c : Context} (hc : l.context? id = some c) (hh : h ≠ nullHandle)
    {e : Record} (he : c.registry.find? k h = some e) :
    l.checkDestroy id k h custom customCode defaultCode =
      let rs := .departing k h (l.totalCount id - 1) (l.objectCount id k - 1) ::
        allocatorErrors k h e.custom custom customCode defaultCode
      ⟨rs.any c.sink.verdict, rs.map (.report c.sink)⟩ := by
  simp only [checkDestroy, if_neg hh, within_of_eq_some hc, he, allocatorErrors, totalCount,
    objectCount, hc]
  cases allocatorFinding e.custom custom customCode defaultCode with
  | none => rfl
  | some f =>
    show Check.mk (_ || _) _ = Check.mk (_ || (_ || false)) _
    rw [Bool.or_false]
    rfl

end Check

/-- After any history, the check of a destruction changes nothing, and it reports something exactly
if the release of the same object would take a record out of the books. It then announces the total
and the count of the kind as they are after that release, each one less than before. One error
follows if the first registration of the object came with allocation callbacks and the destruction
comes without, or the other way round, if there is a code for it, and no error otherwise. The sink
of the context hears all of it, and the answer is yes if it refuses any of it. -/
theorem checkDestroy_foretells (ops : List Operation) (id : ContextId) (k : Kind) (h : Handle)
    (custom : Bool) (customCode defaultCode : Option Code) :
    let l := after ops
    let released := ((Operation.release id k h).run l).ledger
    let step := (Operation.checkDestroy id k h custom customCode defaultCode).run l
    step.ledger = l ∧
    (step.trace.reports ≠ [] ↔
      ∃ id' k' h' e, l.record? id' k' h' = some e ∧ released.record? id' k' h' = none) ∧
    (step.trace.reports = [] → step.value = .flag false) ∧
    (step.trace.reports ≠ [] →
      ∃ (c : Context) (n : Nat) (op : Operation) (status : Status) (parent : Handle)
          (errors : List Report),
        l.context? id = some c ∧
        Founds ops id k h n status parent ∧ ops[n]? = some op ∧
        released.totalCount id + 1 = l.totalCount id ∧
        released.objectCount id k + 1 = l.objectCount id k ∧
        (op.custom = true → custom = false →
          errors = customCode.toList.map fun code => .error k h code .allocatorMissing) ∧
        (op.custom = false → custom = true →
          errors = defaultCode.toList.map fun code => .error k h code .allocatorUnexpected) ∧
        (op.custom = custom → errors = []) ∧
        let reports := ⟨.information, k, h, Code.info,
          .departing (released.totalCount id) (released.objectCount id k)⟩ :: errors
        step = ⟨.flag (reports.any c.sink.verdict), l, reports.map (.report c.sink)⟩) := by
  intro l released step
  have hl : l.Filed := filed_after ops
  have hstep : step = ⟨.flag (l.checkDestroy id k h custom customCode defaultCode).skip, l,
      (l.checkDestroy id k h custom customCode defaultCode).trace⟩ :=
    Action.map_ofCheck Answer.flag (·.checkDestroy id k h custom customCode defaultCode) l
  by_cases hknown : h ≠ nullHandle ∧ ∃ e, l.record? id k h = some e
  · -- the record tells which step founded it, and with what callbacks
    obtain ⟨hh, e, he⟩ := hknown
    obtain ⟨c, hc, hfind⟩ := Option.bind_eq_some_iff.mp he
    obtain ⟨n, status, parent, hfounds, rfl⟩ := (record?_after ops id k h e).mp he
    obtain ⟨op, hop, hregisters, -⟩ := hfounds.enters
    have hcustom : status.contains .customAllocator = op.custom := hregisters.custom_eq
    obtain ⟨htotal, hcount⟩ := counts_release hc (lasting_reckoned.after ops id c hc) hh hfind
    have hcheck : l.checkDestroy id k h custom customCode defaultCode = _ :=
      checkDestroy_of_known hc hh hfind
    -- the differences that are announced are the counts after the release
    rw [← htotal, ← hcount, Nat.add_sub_cancel, Nat.add_sub_cancel] at hcheck
    rw [hcheck] at hstep
    have hreports : step.trace.reports ≠ [] := by
      rw [hstep]
      exact List.cons_ne_nil _ _
    refine ⟨rfl, iff_of_true hreports ((release_removes_iff hl).mpr ⟨hh, _, he⟩),
      fun hnil => absurd hnil hreports, fun _ => ?_⟩
    refine ⟨c, n, op, status, parent, allocatorErrors k h op.custom custom customCode defaultCode,
      hc, hfounds, hop, htotal, hcount, ?_, ?_, ?_, ?_⟩
    · intro hcreated hdestroyed
      rw [hcreated, hdestroyed]
      exact allocatorErrors_missing
    · intro hcreated hdestroyed
      rw [hcreated, hdestroyed]
      exact allocatorErrors_unexpected
    · intro hsame
      rw [hsame]
      exact allocatorErrors_of_eq custom
    · rw [hstep, ← hcustom]
      rfl
  · obtain ⟨hskip, hnil⟩ : (l.checkDestroy id k h custom customCode defaultCode).skip = false ∧
        (l.checkDestroy id k h custom customCode defaultCode).trace.reports = [] :=
      checkDestroy_of_unknown hknown
    have hreports : step.trace.reports = [] := by
      rw [hstep]
      exact hnil
    refine ⟨rfl, iff_of_false (fun hsome => hsome hreports)
      fun hgone => hknown ((release_removes_iff hl).mp hgone), fun _ => ?_,
      fun hsome => absurd hreports hsome⟩
    rw [hstep]
    exact congrArg Answer.flag hskip

/-- A buffer that is registered without callbacks and then again with some. -/
def registeredTwice : List Operation :=
  [.openInstance 1 10 ⟨none, .memory⟩, .openDevice 1 2 20,
    .registerObject (.ofDevice 2) .buffer 5 false, .registerObject (.ofDevice 2) .buffer 5 true,
    .registerQueue 2 8]

/-- The first registration counts, so the callbacks of the destruction are unexpected. -/
theorem first_registration_judged :
    let l := after registeredTwice
    let step := (Operation.checkDestroy (.ofDevice 2) .buffer 5 true (some Code.internalError)
      (some Code.objectLeak)).run l
    step.trace.reports = [.departing .buffer 5 1 0,
        .error .buffer 5 Code.objectLeak .allocatorUnexpected] ∧
      ∃ id' k' h' e, l.record? id' k' h' = some e ∧
        ((Operation.release (.ofDevice 2) .buffer 5).run l).ledger.record? id' k' h' = none := by
  intro l step
  have hreports : step.trace.reports = [.departing .buffer 5 1 0,
      .error .buffer 5 Code.objectLeak .allocatorUnexpected] := by
    decide +kernel
  obtain ⟨-, hremoves, -, -⟩ := checkDestroy_foretells registeredTwice (.ofDevice 2) .buffer 5 true
    (some Code.internalError) (some Code.objectLeak)
  refine ⟨hreports, hremoves.mp fun hnil => ?_⟩
  have hboth := hreports.symm.trans hnil
  cases hboth

end HandleLedger.Ledger
