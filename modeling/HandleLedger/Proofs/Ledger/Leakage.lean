import HandleLedger.Proofs.Ledger.Arrival
import HandleLedger.Proofs.Registry.Drop

/-!
# What an owner leaves behind

The objects that an application has to destroy before their owner are reported and dropped by two
separate walks through the same kinds. The main statement, `owned_reported_then_dropped`, says that
the two agree: an inventory of those objects (`Registry.Lists`) is what is reported, and what it does
not name is what the drop leaves.

That the total falls by the number of reports needs the counters of the registry to be true, which
they are after any history (`lasting_reckoned`).
-/

set_option autoImplicit false

namespace HandleLedger.Ledger

variable {l : Ledger} {id : ContextId} {c : Context}

/-- The counters of every registry are true. -/
theorem lasting_reckoned : Lasting fun _ c => c.registry.Reckoned where
  newInstance _ _ _ := ⟨_, Registry.Reckons.empty⟩
  newDevice _ _ _ _ := ⟨_, Registry.Reckons.empty⟩
  rewrite := by
    intro op id _ index c hc
    show (op.rewrite index c.registry).Reckoned
    cases hentry : op.entry? with
    | some n =>
      rw [Operation.rewrite_of_eq_some hentry]
      cases n.place with
      | object => exact hc.run (.insert _)
      | image => exact hc.run (.insertImage _)
    | none =>
      rw [Operation.rewrite_of_eq_none hentry]
      cases op with
      | noteQueueFamily device family queue => exact hc.run (.setQueueFamily queue family)
      | noteFamilyFlags device flags => exact hc.run (.setFamilyFlags flags)
      | release id k h =>
        rw [Operation.revise]
        split
        · exact hc
        · exact hc.run (.remove k h)
      | discard id k h => exact hc.run (.remove k h)
      | dropChildren device pool k => exact hc.removeAll k _
      | dropImages device swapchain => exact hc.run (.removeImages swapchain)
      | dropKind id k => exact hc.removeAll k _
      | dropOwned id => exact hc.dropKinds _
      | dropQueues device => exact (hc.dropKinds [.queue]).run .clearQueueFamilies
      | _ => exact hc

theorem nextIndex_dropOwned (id : ContextId) (l : Ledger) :
    (dropOwned id l).ledger.nextIndex = l.nextIndex := by
  have hkeeps : (dropOwned id).Keeps (·.nextIndex = l.nextIndex) :=
    Action.keeps_each fun _ _ => keeps_nextIndex_onRegistry _ _
  exact hkeeps l rfl

theorem nextIndex_dropQueues (device : DispatchKey) (l : Ledger) :
    (dropQueues device l).ledger.nextIndex = l.nextIndex := by
  have hkeeps : (dropQueues device).Keeps (·.nextIndex = l.nextIndex) :=
    keeps_nextIndex_onRegistry _ _
  exact hkeeps l rfl

/-! ## Traces -/

theorem trace_onRegistry (hc : (l.context? id).isSome) (f : Registry → Registry) :
    (Action.onRegistry id f l).trace = [] := by
  obtain ⟨c, hc⟩ := Option.isSome_iff_exists.mp hc
  rw [Action.onRegistry, Action.within_of_eq_some hc]
  rfl

theorem trace_each_dropKind :
    ∀ (ks : List Kind) {l : Ledger}, (l.context? id).isSome →
      (Action.each ks (dropKind id) l).trace = []
  | [], _, _ => rfl
  | k :: ks, l, hc => by
    have hknown := ((updates_dropKind id k l).isSome_context? id).trans hc
    show (dropKind id k l).trace ++
      (Action.each ks (dropKind id) (dropKind id k l).ledger).trace = []
    rw [trace_each_dropKind ks hknown, List.append_nil]
    exact trace_onRegistry hc _

theorem trace_dropOwned (hc : (l.context? id).isSome) : (dropOwned id l).trace = [] :=
  trace_each_dropKind _ hc

theorem trace_dropQueues {device : DispatchKey} (hc : (l.context? (.ofDevice device)).isSome) :
    (dropQueues device l).trace = [] :=
  trace_onRegistry hc _

theorem trace_release (hc : (l.context? id).isSome) (k : Kind) {h : Handle} (hh : h ≠ nullHandle) :
    (release id k h l).trace = [] := by
  rw [release, if_neg hh]
  exact trace_onRegistry hc _

/-- The leak reports of a context go through its records kind by kind. -/
theorem leakTrace_eq (c : Context) (ks : List Kind) (code : Code) :
    leakTrace c ks code = (ks.flatMap c.registry.recordsOf).map fun e =>
      .report c.sink (.leaked c.scope c.handle code e) := by
  rw [leakTrace, Context.leaks, List.map_flatMap, List.map_flatMap]
  exact congrArg (List.flatMap · ks) (funext fun k => List.map_map)

theorem surveyed_of_eq_some (hc : l.context? id = some c) (survey : Context → Survey) :
    l.surveyed id survey = survey c := by
  rw [surveyed, hc]

/-! ## The report -/

/-- The report of what an owner leaves behind, as a step. -/
theorem run_reportOwned (hc : l.context? id = some c) (code : Code) :
    (Operation.reportOwned id code).run l =
      let es := id.scope.ownedKinds.flatMap c.registry.recordsOf
      ⟨.flag !es.isEmpty, l, es.map fun e => .report c.sink (.leaked c.scope c.handle code e)⟩ := by
  have hsurvey : l.reportOwned id code =
      ⟨!(c.leaks id.scope.ownedKinds code).isEmpty, leakTrace c id.scope.ownedKinds code⟩ :=
    surveyed_of_eq_some hc _
  have hleaks : c.leaks id.scope.ownedKinds code =
      (id.scope.ownedKinds.flatMap c.registry.recordsOf).map (.leaked c.scope c.handle code) := by
    rw [Context.leaks, List.map_flatMap]
  rw [Operation.run, Action.map_ofSurvey, hsurvey, leakTrace_eq, hleaks, List.isEmpty_map]

/-! ## The drop -/

/-- The drop of what an owner leaves behind, as a step. -/
theorem run_dropOwned (hc : (l.context? id).isSome) :
    (Operation.dropOwned id).run l = ⟨.done, (dropOwned id l).ledger, []⟩ := by
  have hdrop := Action.eq_of_trace_eq_nil (trace_dropOwned hc)
  exact Action.bind_of_eq (f := fun _ => pure Answer.done) hdrop rfl

theorem context?_dropOwned (hc : l.context? id = some c) :
    (dropOwned id l).ledger.context? id =
      some (c.mapRegistry (·.dropKinds id.scope.ownedKinds)) := by
  rw [(updates_dropOwned id l).context?_self, hc]
  rfl

/-- What has been dropped once is not dropped again. -/
theorem dropOwned_dropOwned (hl : l.Filed) (id : ContextId) :
    (dropOwned id (dropOwned id l).ledger).ledger = (dropOwned id l).ledger := by
  refine eq_of_context? (fun id' => ?_) (nextIndex_dropOwned id _)
  have hsame : ∀ d, (dropOwned id l).ledger.context? id = some d →
      d.registry.dropKinds id.scope.ownedKinds = d.registry := by
    intro d hd
    rw [(updates_dropOwned id l).context?_self] at hd
    obtain ⟨c, hc, rfl⟩ := Option.map_eq_some_iff.mp hd
    exact (hl.registry hc).dropKinds_dropKinds _
  exact ((updates_dropOwned id _).congr hsame id').trans (Updates.rfl' id').symm

/-! ## The two together -/

/-- After any history, the report about a known context hands to its sink one error for each record
of a kind that has to be destroyed before the owner, by kinds in the order of the table, and for
nothing else. The drop takes exactly those records out. It leaves the other records, the images of
swapchains, the notes about queues and every other context, and it lowers the total by the number of
reports; to walk through the handles of a kind in another order would leave the same. A report
after the drop finds nothing, and another drop changes nothing. -/
theorem owned_reported_then_dropped (ops : List Operation) {id : ContextId} {c : Context}
    (hc : (after ops).context? id = some c) :
    let l := after ops
    let left := ((Operation.dropOwned id).run l).ledger
    ∃ (es : List Record) (r : Registry),
      (es.Nodup ∧ ∀ e, e ∈ es ↔
        e.kind ∈ id.scope.ownedKinds ∧ c.registry.find? e.kind e.handle = some e) ∧
      es.map (·.kind) =
        id.scope.ownedKinds.flatMap (fun k => .replicate (c.registry.count k) k) ∧
      (∀ code, (Operation.reportOwned id code).run l =
        ⟨.flag !es.isEmpty, l, es.map fun e => .report c.sink
          (.error e.kind e.handle code (.leaked id.scope c.handle e.index))⟩) ∧
      (Operation.dropOwned id).run l = ⟨.done, left, []⟩ ∧
      left.nextIndex = l.nextIndex ∧
      (∀ id', id ≠ id' → left.context? id' = l.context? id') ∧
      left.context? id = some { c with registry := r } ∧
      (∀ k h, r.find? k h =
        if k ∈ id.scope.ownedKinds then none else c.registry.find? k h) ∧
      r.images = c.registry.images ∧
      r.queueFamilies = c.registry.queueFamilies ∧
      r.familyFlags = c.registry.familyFlags ∧
      (∀ k, r.count k = if k ∈ id.scope.ownedKinds then 0 else c.registry.count k) ∧
      r.total + es.length = c.registry.total ∧
      (∀ r', c.registry.Drops id.scope.ownedKinds r' → r' = r) ∧
      (∀ code, (Operation.reportOwned id code).run left = ⟨.flag false, left, []⟩) ∧
      (Operation.dropOwned id).run left = ⟨.done, left, []⟩ := by
  intro l left
  have hl : l.Filed := filed_after ops
  have hfiled : c.registry.Filed := hl.registry hc
  have hreckoned : c.registry.Reckoned := lasting_reckoned.after ops id c hc
  have hknown : (l.context? id).isSome := Option.isSome_of_eq_some hc
  have hleft : left.context? id = some (c.mapRegistry (·.dropKinds id.scope.ownedKinds)) :=
    context?_dropOwned hc
  have hkinds : id.scope.ownedKinds.Nodup := by
    cases id.scope <;> decide
  have hlists := hfiled.lists_kinds hkinds
  -- nothing of those kinds is left for a second walk
  have hnothing : id.scope.ownedKinds.flatMap
      (c.registry.dropKinds id.scope.ownedKinds).recordsOf = [] := by
    rw [List.flatMap_eq_nil_iff]
    exact fun k => hfiled.recordsOf_dropKinds_of_mem
  refine ⟨id.scope.ownedKinds.flatMap c.registry.recordsOf,
    c.registry.dropKinds id.scope.ownedKinds, ⟨hlists.nodup, hlists.mem_iff⟩,
    hreckoned.map_kind_flatMap _, ?report, run_dropOwned hknown, nextIndex_dropOwned id l,
    fun id' hne => (updates_dropOwned id l).context?_of_ne hne, hleft,
    fun k h => hfiled.find?_dropKinds k h _, Registry.images_dropKinds _ _,
    Registry.queueFamilies_dropKinds _ _, Registry.familyFlags_dropKinds _ _,
    hreckoned.count_dropKinds hfiled _, hreckoned.total_dropKinds hfiled hlists,
    fun r' hdrops => hdrops.eq_dropKinds, ?again, ?twice⟩
  case report =>
    intro code
    rw [run_reportOwned hc, hl.scope_eq hc]
    rfl
  case again =>
    intro code
    rw [run_reportOwned hleft]
    simp only [Context.mapRegistry_registry]
    rw [hnothing]
    rfl
  case twice =>
    rw [run_dropOwned (Option.isSome_of_eq_some hleft)]
    exact congrArg (Step.mk _ · _) (dropOwned_dropOwned hl id)

/-- A device with two buffers and a queue, and an image of a swapchain. -/
def leavings : List Operation :=
  [.openInstance 1 10 ⟨none, .memory⟩, .openDevice 1 2 20,
    .registerObject (.ofDevice 2) .buffer 5 false, .registerQueue 2 8,
    .registerImage 2 7 6, .registerObject (.ofDevice 2) .buffer 6 true]

/-- The queue is neither reported nor dropped, and the image is no object. -/
theorem buffers_left_behind : ∃ c, (after leavings).context? (.ofDevice 2) = some c ∧
    c.registry.total = 3 ∧
    ((Operation.reportOwned (.ofDevice 2) Code.objectLeak).run (after leavings)).trace.reports =
      [.error .buffer 5 Code.objectLeak (.leaked .deviceLevel 20 0),
        .error .buffer 6 Code.objectLeak (.leaked .deviceLevel 20 3)] ∧
    ((Operation.dropOwned (.ofDevice 2)).run (after leavings)).ledger.totalCount (.ofDevice 2) =
      1 := by
  have hknown : ((after leavings).context? (.ofDevice 2)).isSome := by decide +kernel
  obtain ⟨c, hc⟩ := Option.isSome_iff_exists.mp hknown
  have htotal : (after leavings).totalCount (.ofDevice 2) = 3 := by decide +kernel
  rw [totalCount, hc] at htotal
  have hreports : ((Operation.reportOwned (.ofDevice 2) Code.objectLeak).run
      (after leavings)).trace.reports =
        [.error .buffer 5 Code.objectLeak (.leaked .deviceLevel 20 0),
          .error .buffer 6 Code.objectLeak (.leaked .deviceLevel 20 3)] := by
    decide +kernel
  obtain ⟨es, r, -, -, hreport, -, -, -, hleft, -, -, -, -, -, hfall, -⟩ :=
    owned_reported_then_dropped leavings hc
  refine ⟨c, hc, htotal, hreports, ?_⟩
  -- two reports are two records, and by so many the total has fallen
  have hlength : es.length = 2 := by
    have htwo := congrArg List.length hreports
    rw [hreport, Trace.reports, List.filterMap_map] at htwo
    simpa [Function.comp_def, Event.report?] using htwo
  have hthree : c.registry.total = 3 := htotal
  rw [totalCount, hleft]
  show r.total = 1
  omega

end HandleLedger.Ledger
