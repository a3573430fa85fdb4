import HandleLedger.Proofs.Interception.Run
import HandleLedger.Proofs.Ledger.Phase

/-!
# The gate before a call

The main statement, `intercept_gate`, says that the verdicts on the findings of the check decide
alone: if no sink refuses one of them the call runs exactly once and its outcome is handed back, and
if a sink does the call does not run, it is answered with the error of a failed validation
(`Shape.Declined`) and the layer stays as it was.

The check of every passage heeds its sinks (`Passage.Gated`), except for the retrieval of a queue,
whose check is advisory.
-/

set_option autoImplicit false

namespace HandleLedger

/-! ## Gated passages -/

namespace Passage

/-- Each part of the passage reports only what is its own. -/
structure Sorted {s : Shape} (p : Passage s) : Prop where
  check : Trace.Of .check p.check.trace
  prepare : p.prepare.Emits .prepare
  record : ∀ outcome, (p.record outcome).Emits .record

/-- The passage is sorted and its check heeds its sinks. -/
structure Gated {s : Shape} (p : Passage s) : Prop where
  heeds : p.check.Heeds
  prepare : p.prepare.Emits .prepare
  record : ∀ outcome, (p.record outcome).Emits .record

theorem Gated.sorted {s : Shape} {p : Passage s} (hp : p.Gated) : p.Sorted :=
  ⟨hp.heeds.trace_of, hp.prepare, hp.record⟩

variable {s : Shape} {check : Check}

theorem gated_checking (h : check.Heeds) : (checking check : Passage s).Gated :=
  ⟨h, Action.emits_pure (), fun _ => Action.emits_pure ()⟩

theorem gated_creating (h : check.Heeds) {record : Handle → Action Unit}
    (hrecord : ∀ o, (record o).Emits .record) : (creating check record).Gated where
  heeds := h
  prepare := Action.emits_pure ()
  record
    | .error _ => Action.emits_pure ()
    | .ok o => hrecord o

theorem gated_listing (h : check.Heeds) {record : List Handle → Action Unit}
    (hrecord : ∀ os, (record os).Emits .record) : (listing check record).Gated where
  heeds := h
  prepare := Action.emits_pure ()
  record
    | .error _ => Action.emits_pure ()
    | .ok os => hrecord os

/-! ### Running a gated passage -/

variable {p : Passage s} {outcome : s.Outcome} {l : Ledger}

/-- A call that is let through runs once, on the books that the preparation leaves. -/
theorem Sorted.calls_of_not_skip (hp : p.Sorted) (hskip : p.check.skip = false) :
    (p.run outcome l).trace.calls = [(p.prepare l).ledger] := by
  have hcheck := hp.check.calls_eq_nil
  have hprepare := (hp.prepare l).calls_eq_nil
  have hrecord := (hp.record outcome (p.prepare l).ledger).calls_eq_nil
  rw [run_of_not_skip hskip, Trace.calls_append, Trace.calls_append, Trace.calls_call_cons, hcheck,
    hprepare, hrecord]
  rfl

namespace Gated

/-- Findings of the check are reported nowhere else. -/
theorem mem_check_trace (hp : p.Gated) {e : Event} (he : e ∈ (p.run outcome l).trace)
    (hphase : e.phase? = some .check) : e ∈ p.check.trace := by
  cases hskip : p.check.skip with
  | true =>
    rw [run_of_skip hskip] at he
    exact he
  | false =>
    rw [run_of_not_skip hskip] at he
    rcases List.mem_append.mp he with he | he
    · rcases List.mem_append.mp he with he | he
      · exact he
      · -- what is torn down is reported in a phase of its own
        cases (hp.prepare l e he).phase?_eq hphase
    · rcases List.mem_cons.mp he with rfl | he
      · cases hphase
      · cases (hp.record outcome _ e he).phase?_eq hphase

theorem mem_run_trace {e : Event} (he : e ∈ p.check.trace) : e ∈ (p.run outcome l).trace := by
  cases hskip : p.check.skip with
  | true =>
    rw [run_of_skip hskip]
    exact he
  | false =>
    rw [run_of_not_skip hskip]
    exact List.mem_append_left _ (List.mem_append_left _ he)

/-- The call is skipped exactly if a finding of the check has been refused. -/
theorem skip_iff (hp : p.Gated) :
    p.check.skip = true ↔
      ∃ e ∈ (p.run outcome l).trace, e.phase? = some .check ∧ e.refused = true := by
  rw [hp.heeds.skip_eq, List.any_eq_true]
  constructor
  · rintro ⟨e, he, href⟩
    exact ⟨e, mem_run_trace he, (hp.heeds.trace_of e he).phase?_of_refused href, href⟩
  · rintro ⟨e, he, hphase, href⟩
    exact ⟨e, hp.mem_check_trace he hphase, href⟩

theorem calls_of_skip (hp : p.Gated) (hskip : p.check.skip = true) :
    (p.run outcome l).trace.calls = [] := by
  rw [run_of_skip hskip]
  exact hp.heeds.trace_of.calls_eq_nil

/-- What is torn down is reported only once the check has let the call through. -/
theorem not_skip_of_prepare (hp : p.Gated) {e : Event} (he : e ∈ (p.run outcome l).trace)
    (hphase : e.phase? = some .prepare) : p.check.skip = false := by
  rw [Bool.eq_false_iff]
  intro hskip
  -- a skipped call has reported nothing but findings of the check
  rw [run_of_skip hskip] at he
  cases (hp.heeds.trace_of e he).phase?_eq hphase

end Gated

end Passage

/-! ## Answers to calls that do not run -/

/-- The answer to a call that was kept from running: the error of a failed validation, where the
call has a result at all. A call for a queue is never kept from running. -/
def Shape.Declined : (s : Shape) → s.Outcome → Prop
  | .handle, result => result = .error (-1000011001)
  | .handles, result => result = .error (-1000011001)
  | .status, result => result = .error (-1000011001)
  | .nothing, _ => True
  | .queue, _ => False

theorem Shape.declined_skipped {s : Shape} (hs : s ≠ .queue) : s.Declined s.skipped := by
  cases s with
  | handle => rfl
  | handles => rfl
  | status => rfl
  | nothing => trivial
  | queue => exact absurd rfl hs

theorem Request.shape_ne_queue {r : Request}
    (hr : ∀ device family, r ≠ .getDeviceQueue device family) : r.shape ≠ .queue := by
  intro hshape
  cases r with
  | getDeviceQueue device family => exact hr device family rfl
  | _ => cases hshape

namespace Layer

variable (l : Layer)

theorem gated_createInstance (custom : Bool) (sink : Option Sink) :
    (l.createInstance custom sink).Gated :=
  Passage.gated_creating Check.heeds_pass fun _ =>
    (Ledger.emits_openContext _ _).bind fun _ => Ledger.emits_register _ _ _ _ _

theorem gated_enumeratePhysicalDevices (instanceHandle : Handle) :
    (l.enumeratePhysicalDevices instanceHandle).Gated :=
  Passage.gated_listing (l.ledger.heeds_checkArgument _ _) fun os =>
    Action.emits_each (fun _ => Ledger.emits_register _ _ _ _ _) os

theorem gated_createDevice (physicalDevice : Handle) (families : List UInt32) (custom : Bool) :
    (l.createDevice physicalDevice families custom).Gated := by
  refine Passage.gated_creating (l.ledger.heeds_checkArgument _ _) fun o => ?_
  refine (Ledger.emits_openDevice _ _ _).bind fun known => ?_
  cases known with
  | true =>
    refine (Ledger.emits_register _ _ _ _ _).bind fun _ => ?_
    exact Action.emits_onRegistry _ _
  | false => exact Action.emits_emit (Trace.of_log _)

theorem gated_createFrom (scope : Scope) (owner : Handle) (kind : Kind) (ownerCode : Code)
    (custom : Bool) : (l.createFrom scope owner kind ownerCode custom).Gated :=
  Passage.gated_creating (l.ledger.heeds_checkArgument _ _) fun _ =>
    Ledger.emits_register _ _ _ _ _

theorem heeds_creationCheck (owner : Handle) (what : Creation) :
    (l.creationCheck owner what).Heeds := by
  cases what with
  | imageView image => exact l.ledger.heeds_checkArgument _ _
  | swapchain surface old =>
    refine Check.Heeds.append ?_ (l.ledger.heeds_checkArgument _ _)
    split
    · exact Check.heeds_pass
    · exact l.ledger.heeds_checkArgument _ _
  | _ => exact Check.heeds_pass

theorem gated_create (what : Creation) (owner : Handle) (custom : Bool) :
    (l.create what owner custom).Gated := by
  obtain ⟨hcheck, hprepare, hrecord⟩ := l.gated_createFrom what.child.scope owner what.child.kind
    what.child.creationCode custom
  exact ⟨(l.heeds_creationCheck owner what).andThen hcheck, hprepare, hrecord⟩

theorem gated_getSwapchainImages (device swapchain : Handle) :
    (l.getSwapchainImages device swapchain).Gated :=
  Passage.gated_listing (l.ledger.heeds_checkArgument _ _) fun os =>
    Action.emits_each (fun _ => Ledger.emits_registerImage _ _ _) os

theorem gated_allocateCommandBuffers (device pool : Handle) (level : Int32) :
    (l.allocateCommandBuffers device pool level).Gated :=
  Passage.gated_listing (l.ledger.heeds_checkArguments _ _) fun os =>
    Action.emits_each (fun _ => Ledger.emits_register _ _ _ _ _) os

theorem gated_allocateDescriptorSets (device pool : Handle) (layouts : List Handle) :
    (l.allocateDescriptorSets device pool layouts).Gated :=
  Passage.gated_listing (l.ledger.heeds_checkArguments _ _) fun os =>
    Action.emits_each (fun _ => Ledger.emits_register _ _ _ _ _) os

theorem gated_destroyInstance (h : Handle) (custom : Bool) :
    (l.destroyInstance h custom).Gated := by
  rw [destroyInstance]
  split
  · exact Passage.gated_checking Check.heeds_pass
  · constructor
    · exact (l.ledger.heeds_checkArgument _ _).append (l.ledger.heeds_checkDestroy _ _ _ _ _ _)
    · refine (Ledger.emits_reportDevices _ _).bind fun _ => ?_
      exact (Ledger.emits_reportOwned _ _).bind fun _ => Action.emits_pure ()
    · exact fun _ => Ledger.emits_closeInstance _

theorem gated_destroyDevice (h : Handle) (custom : Bool) : (l.destroyDevice h custom).Gated := by
  simp only [destroyDevice]
  split
  · exact Passage.gated_checking Check.heeds_pass
  · -- a device of an unknown instance is only noted
    split
    · exact Passage.gated_checking (Check.heeds_note _)
    · constructor
      · exact (l.ledger.heeds_checkArgument _ _).append (l.ledger.heeds_checkDestroy _ _ _ _ _ _)
      · refine (Ledger.emits_reportOwned _ _).bind fun _ => ?_
        exact (Ledger.emits_dropOwned _).bind fun _ => Ledger.emits_dropQueues _
      · intro _
        exact (Ledger.emits_release _ _ _).bind fun _ => Ledger.emits_closeContext _

theorem gated_destroyFrom (scope : Scope) (owner h : Handle) (kind : Kind) (custom : Bool)
    (codes : DestroyCodes) : (l.destroyFrom scope owner h kind custom codes).Gated where
  heeds := (l.ledger.heeds_checkArguments _ _).append (l.ledger.heeds_checkDestroy _ _ _ _ _ _)
  prepare := Action.emits_pure ()
  record _ := Ledger.emits_release _ _ _

theorem emits_dropWith (child : Child) (device : DispatchKey) (h : Handle) :
    Action.Emits .record (dropWith child device h) := by
  unfold dropWith
  split
  · exact Action.emits_pure ()
  · split
    · exact (Ledger.emits_dropChildren _ _ _).bind fun _ => Action.emits_pure ()
    · exact (Ledger.emits_dropChildren _ _ _).bind fun _ => Action.emits_pure ()
    · exact (Ledger.emits_dropImages _ _).bind fun _ => Action.emits_pure ()
    · exact Action.emits_pure ()

theorem gated_destroy (child : Child) (owner h : Handle) (custom : Bool) :
    (l.destroy child owner h custom).Gated := by
  obtain ⟨hcheck, hprepare, hrecord⟩ := l.gated_destroyFrom child.scope owner h child.kind custom
    child.destroyCodes
  exact ⟨hcheck, hprepare, fun outcome => (hrecord outcome).bind fun _ => emits_dropWith _ _ _⟩

theorem gated_freeCommandBuffers (device pool : Handle) (hs : List Handle) :
    (l.freeCommandBuffers device pool hs).Gated where
  heeds := by
    refine (l.ledger.heeds_checkArgument _ _).append (Check.heeds_all fun c hc => ?_)
    obtain ⟨h, -, rfl⟩ := List.mem_map.mp hc
    exact l.ledger.heeds_checkPoolChild _ _ _ _ _ _
  prepare := Action.emits_pure ()
  record _ := Action.emits_each (fun _ => Ledger.emits_release _ _ _) _

theorem gated_freeDescriptorSets (device pool : Handle) (hs : List Handle) :
    (l.freeDescriptorSets device pool hs).Gated where
  heeds := by
    refine (l.ledger.heeds_checkArgument _ _).append (Check.heeds_all fun c hc => ?_)
    obtain ⟨h, -, rfl⟩ := List.mem_map.mp hc
    exact l.ledger.heeds_checkPoolChild _ _ _ _ _ _
  prepare := Action.emits_pure ()
  record
    | .error _ => Action.emits_pure ()
    | .ok () => Action.emits_each (fun _ => Ledger.emits_release _ _ _) _

theorem gated_resetDescriptorPool (device pool : Handle) :
    (l.resetDescriptorPool device pool).Gated where
  heeds := l.ledger.heeds_checkArguments _ _
  prepare := (Ledger.emits_dropChildren _ _ _).bind fun _ => Action.emits_pure ()
  record _ := Action.emits_pure ()

/-- Every passage is gated but that of a call for a queue. -/
theorem gated_passage {r : Request} (hr : ∀ device family, r ≠ .getDeviceQueue device family) :
    (r.passage l).Gated := by
  cases r with
  | createInstance custom sink => exact l.gated_createInstance custom sink
  | destroyInstance h custom => exact l.gated_destroyInstance h custom
  | enumeratePhysicalDevices h => exact l.gated_enumeratePhysicalDevices h
  | createDevice h families custom => exact l.gated_createDevice h families custom
  | destroyDevice h custom => exact l.gated_destroyDevice h custom
  | getDeviceQueue device family => exact absurd rfl (hr device family)
  | queueSubmit => exact Passage.gated_checking (l.ledger.heeds_checkArguments _ _)
  | queueBindSparse =>
    refine Passage.gated_checking ((l.ledger.heeds_checkArguments _ _).append ?_)
    exact l.ledger.heeds_checkSparse _ _ _
  | createDeviceChild => exact l.gated_createFrom _ _ _ _ _
  | destroyDeviceChild => exact l.gated_destroyFrom _ _ _ _ _ _
  | create what owner custom => exact l.gated_create what owner custom
  | destroy child owner h custom => exact l.gated_destroy child owner h custom
  | getSwapchainImages device swapchain => exact l.gated_getSwapchainImages device swapchain
  | allocateCommandBuffers => exact l.gated_allocateCommandBuffers _ _ _
  | freeCommandBuffers device pool hs => exact l.gated_freeCommandBuffers device pool hs
  | beginCommandBuffer => exact Passage.gated_checking (l.ledger.heeds_checkArguments _ _)
  | resetDescriptorPool device pool => exact l.gated_resetDescriptorPool device pool
  | allocateDescriptorSets => exact l.gated_allocateDescriptorSets _ _ _
  | freeDescriptorSets device pool hs => exact l.gated_freeDescriptorSets device pool hs
  | bindImageMemory => exact Passage.gated_checking (l.ledger.heeds_checkArguments _ _)
  | bindBufferMemory => exact Passage.gated_checking (l.ledger.heeds_checkArguments _ _)
  | mapMemory => exact Passage.gated_checking (l.ledger.heeds_checkArgument _ _)
  | waitForFences => exact Passage.gated_checking (l.ledger.heeds_checkArguments _ _)

/-- The passage of a call for a queue is sorted, although its check is advisory. -/
theorem sorted_getDeviceQueue (device : Handle) (family : UInt32) :
    (l.getDeviceQueue device family).Sorted where
  check := (l.ledger.heeds_checkArgument _ _).trace_of
  prepare := Action.emits_pure ()
  record queue := by
    show Action.Emits .record (if queue = nullHandle then pure () else _)
    split
    · exact Action.emits_pure ()
    · refine (Ledger.emits_register _ _ _ _ _).bind fun _ => ?_
      exact Action.emits_onRegistry _ _

theorem sorted_passage (r : Request) : (r.passage l).Sorted := by
  -- the check of a call for a queue does not heed its sinks, but it is sorted all the same
  by_cases hr : ∃ device family, r = .getDeviceQueue device family
  · obtain ⟨device, family, rfl⟩ := hr
    exact l.sorted_getDeviceQueue device family
  · apply Passage.Gated.sorted
    apply l.gated_passage
    intro device family heq
    exact hr ⟨device, family, heq⟩

/-- The real call is made. -/
def Runs (c : Call) : Prop := (l.intercept c).trace.calls ≠ []

/-- A call runs if its check does not ask for a skip. -/
theorem runs_iff (c : Call) : l.Runs c ↔ (c.request.passage l).check.skip = false := by
  constructor
  · refine fun hruns => Bool.eq_false_iff.mpr fun hskip => hruns ?_
    show ((c.request.passage l).run c.outcome l.ledger).trace.calls = []
    rw [Passage.run_of_skip hskip]
    exact (l.sorted_passage c.request).check.calls_eq_nil
  · intro hskip hnil
    have hcalls : (l.intercept c).trace.calls = _ :=
      (l.sorted_passage c.request).calls_of_not_skip hskip
    exact List.cons_ne_nil _ _ (hcalls.symm.trans hnil)

instance (c : Call) : Decidable (l.Runs c) := decidable_of_iff _ (l.runs_iff c).symm

/-- If no sink refuses a finding of the check, the call runs exactly once and its outcome is handed
back. If a sink does, the call does not run, the answer is the error of a failed validation and the
layer stays as it was. Leaks are reported only by calls that run, whatever the sinks answer. -/
theorem intercept_gate (c : Call)
    (hc : ∀ device family, c.request ≠ .getDeviceQueue device family) :
    ((∀ e ∈ (l.intercept c).trace, e.phase? = some .check → e.refused = false) →
      (l.intercept c).trace.calls.length = 1 ∧ (l.intercept c).ran = true ∧
        (l.intercept c).result = c.outcome) ∧
    ((∃ e ∈ (l.intercept c).trace, e.phase? = some .check ∧ e.refused = true) →
      (l.intercept c).trace.calls = [] ∧ (l.intercept c).ran = false ∧
        c.request.shape.Declined (l.intercept c).result ∧ (l.intercept c).layer = l) ∧
    ((∃ e ∈ (l.intercept c).trace, e.phase? = some .prepare) →
      (l.intercept c).trace.calls.length = 1 ∧ (l.intercept c).ran = true ∧
        (l.intercept c).result = c.outcome) := by
  have hgated : (c.request.passage l).Gated := l.gated_passage hc
  have hruns : (c.request.passage l).check.skip = false →
      (l.intercept c).trace.calls.length = 1 ∧ (l.intercept c).ran = true ∧
        (l.intercept c).result = c.outcome := by
    intro hskip
    refine ⟨?_, congrArg (!·) hskip, ?_⟩
    · exact congrArg List.length (hgated.sorted.calls_of_not_skip hskip)
    · exact congrArg Step.value (Passage.run_of_not_skip hskip c.outcome l.ledger)
  refine ⟨?_, ?_, ?_⟩
  · intro hpassed
    apply hruns
    rw [Bool.eq_false_iff]
    intro hskip
    -- a check asks for a skip only on the word of a sink
    obtain ⟨e, he, hphase, href⟩ := hgated.skip_iff.mp hskip
    exact absurd href (Bool.eq_false_iff.mp (hpassed e he hphase))
  · intro hrefused
    -- one refusal is enough, and the books are not reached
    have hskip := hgated.skip_iff.mpr hrefused
    have hrun := Passage.run_of_skip hskip c.outcome l.ledger
    have hresult : (l.intercept c).result = c.request.shape.skipped := congrArg Step.value hrun
    refine ⟨hgated.calls_of_skip hskip, congrArg (!·) hskip, ?_, ?_⟩
    · rw [hresult]
      exact Shape.declined_skipped (Request.shape_ne_queue hc)
    · exact congrArg (fun step : Step c.request.shape.Outcome =>
        { l with ledger := step.ledger }) hrun
  · rintro ⟨e, he, hphase⟩
    -- leaks are looked for after the check, so it has let the call through
    exact hruns (hgated.not_skip_of_prepare he hphase)

/-- A layer that knows a single instance and a single device. -/
def lonePair (sink : Sink) : Layer :=
  { ofConfig ⟨.default⟩ with
    ledger := (Ledger.openDevice 0 0 2 (Ledger.openInstance 0 1 sink .empty).ledger).ledger }

/-- A memory sink refuses what the layer does not know: an instance whose devices are to be
enumerated, memory that is to be mapped and a fence that is to be waited for. Each call is answered
with the error of a failed validation. -/
theorem unknown_handles_refused :
    let l := lonePair ⟨none, .memory⟩
    let enumerate := l.intercept ⟨.enumeratePhysicalDevices 7, .ok [8]⟩
    let map := l.intercept ⟨.mapMemory 2 7, .ok 9⟩
    let wait := l.intercept ⟨.waitForFences 2 [7], .ok ()⟩
    (enumerate.trace.calls = [] ∧ enumerate.ran = false ∧
      enumerate.result = .error (-1000011001) ∧ enumerate.layer = l) ∧
    (map.trace.calls = [] ∧ map.ran = false ∧
      map.result = .error (-1000011001) ∧ map.layer = l) ∧
    wait.trace.calls = [] ∧ wait.ran = false ∧
      wait.result = .error (-1000011001) ∧ wait.layer = l := by
  intro l enumerate map wait
  have hrefused : ∀ {c : Call}, ((l.intercept c).trace.any fun e =>
      decide (e.phase? = some .check) && e.refused) = true →
        ∃ e ∈ (l.intercept c).trace, e.phase? = some .check ∧ e.refused = true := by
    intro c hany
    simpa only [List.any_eq_true, Bool.and_eq_true, decide_eq_true_eq] using hany
  refine ⟨?enumerate, ?map, ?wait⟩
  case enumerate =>
    exact (l.intercept_gate ⟨.enumeratePhysicalDevices 7, .ok [8]⟩ fun _ _ h => by cases h).2.1
      (hrefused (by decide +kernel))
  case map =>
    exact (l.intercept_gate ⟨.mapMemory 2 7, .ok 9⟩ fun _ _ h => by cases h).2.1
      (hrefused (by decide +kernel))
  case wait =>
    exact (l.intercept_gate ⟨.waitForFences 2 [7], .ok ()⟩ fun _ _ h => by cases h).2.1
      (hrefused (by decide +kernel))

end Layer

end HandleLedger
