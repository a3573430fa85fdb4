import HandleLedger.Ledger.Operation

/-!
# Where reports come from

A call is checked, what it destroys is torn down, and what it created is entered into the books.
Every finding belongs to one of these parts (`Finding.phase?`), and each check and each action on
the books reports only in its own (`Trace.Of`, `Action.Emits`).

A check heeds its sinks (`Check.Heeds`) if it asks for a skip exactly when one of them refused.
Every check of the books does.
-/

set_option autoImplicit false

namespace HandleLedger

/-- The part of a passage. -/
inductive Phase
  | check
  | prepare
  | record
  deriving DecidableEq

/-- The part of a passage in which a finding is made. Two findings are made by no passage. -/
def Finding.phase? : Finding → Option Phase
  | .departing .. => some .check
  | .invalid => some .check
  | .wrongDevice => some .check
  | .allocatorMissing => some .check
  | .allocatorUnexpected => some .check
  | .foreignPool .. => some .check
  | .notSparse _ => some .check
  | .leaked .. => some .prepare
  | .deviceLeaked => some .prepare
  | .created _ => some .record
  | .imageCreated _ => some .record
  | .untracked => none
  | .remark _ => none

/-- The severity with which passages report a finding. -/
def Finding.severity : Finding → Severity
  | .departing .. => .information
  | .created _ => .information
  | .imageCreated _ => .information
  | _ => .error

/-- The report is of a part of a passage. -/
structure Report.Of (p : Phase) (r : Report) : Prop where
  phase?_eq : r.finding.phase? = some p
  severity_eq : r.severity = r.finding.severity

namespace Event

/-- The part of a passage that a report comes from. -/
def phase? (e : Event) : Option Phase := e.report?.bind (·.finding.phase?)

/-- The event is no call, and a report only of this part of a passage. -/
def Of (p : Phase) : Event → Prop
  | .report _ r => r.Of p
  | .log _ => True
  | .call _ => False

variable {p : Phase} {e : Event}

theorem Of.phase?_eq (he : e.Of p) {q : Phase} (hq : e.phase? = some q) : q = p := by
  cases e with
  | report sink r => exact Option.some.inj (hq.symm.trans (Report.Of.phase?_eq he))
  | log entry => cases hq
  | call seen => exact he.elim

theorem Of.seen?_eq_none (he : e.Of p) : e.seen? = none := by
  cases e with
  | report sink r => rfl
  | log entry => rfl
  | call seen => exact he.elim

/-- Only reports are refused. -/
theorem Of.phase?_of_refused (he : e.Of p) (hr : e.refused = true) : e.phase? = some p := by
  cases e with
  | report sink r => exact Report.Of.phase?_eq he
  | log entry => cases hr
  | call seen => cases hr

end Event

namespace Trace

/-- A trace of no call, with reports only of one part of a passage. -/
def Of (p : Phase) (t : Trace) : Prop := ∀ e ∈ t, e.Of p

variable {p : Phase} {t u : Trace}

theorem of_nil : Of p [] := fun _ h => absurd h List.not_mem_nil

theorem of_cons {e : Event} (he : e.Of p) (ht : Of p t) : Of p (e :: t) := by
  intro d hd
  rcases List.mem_cons.mp hd with rfl | hd
  · exact he
  · exact ht d hd

theorem Of.append (ht : Of p t) (hu : Of p u) : Of p (t ++ u) := by
  intro e he
  rcases List.mem_append.mp he with he | he
  · exact ht e he
  · exact hu e he

theorem of_log (entry : Log) : Of p [.log entry] := of_cons trivial of_nil

theorem mem_reports {r : Report} : r ∈ t.reports ↔ ∃ sink, .report sink r ∈ t := by
  rw [reports, List.mem_filterMap]
  constructor
  · rintro ⟨e, he, heq⟩
    cases e with
    | report sink r' =>
      cases heq
      exact ⟨sink, he⟩
    | log entry => cases heq
    | call seen => cases heq
  · rintro ⟨sink, he⟩
    exact ⟨_, he, rfl⟩

theorem calls_append (t u : Trace) : (t ++ u).calls = t.calls ++ u.calls :=
  List.filterMap_append

theorem calls_call_cons (seen : Ledger) (t : Trace) : calls (.call seen :: t) = seen :: t.calls :=
  rfl

theorem Of.calls_eq_nil (ht : Of p t) : t.calls = [] := by
  rw [calls, List.filterMap_eq_nil_iff]
  intro e he
  exact (ht e he).seen?_eq_none

end Trace

/-! ## Checks that heed their sinks -/

namespace Check

/-- The check asks for a skip exactly if a sink refused one of its findings. -/
structure Heeds (c : Check) : Prop where
  skip_eq : c.skip = c.trace.any Event.refused
  trace_of : Trace.Of .check c.trace

variable {c d : Check}

theorem heeds_pass : pass.Heeds := ⟨rfl, Trace.of_nil⟩

theorem heeds_note (entry : Log) : (note entry).Heeds := ⟨rfl, Trace.of_log entry⟩

theorem heeds_ask (sink : Sink) {r : Report} (hr : r.Of .check) : (ask sink r).Heeds :=
  ⟨(Bool.or_false _).symm, Trace.of_cons hr Trace.of_nil⟩

theorem Heeds.append (hc : c.Heeds) (hd : d.Heeds) : (c ++ d).Heeds where
  skip_eq := by
    rw [skip_append, trace_append, List.any_append, hc.skip_eq, hd.skip_eq]
  trace_of := hc.trace_of.append hd.trace_of

theorem heeds_all {cs : List Check} (h : ∀ c ∈ cs, c.Heeds) : (all cs).Heeds := by
  induction cs with
  | nil => exact heeds_pass
  | cons c cs ih =>
    rw [all_cons]
    refine (h c (List.mem_cons_self ..)).append (ih fun d hd => ?_)
    exact h d (List.mem_cons_of_mem _ hd)

theorem Heeds.andThen (hc : c.Heeds) (hd : d.Heeds) : (c.andThen d).Heeds := by
  rw [Check.andThen]
  split
  · exact hc
  · exact hc.append hd

end Check

namespace Ledger

variable (l : Ledger)

theorem heeds_within (id : ContextId) {check : Context → Check} (h : ∀ c, (check c).Heeds) :
    (l.within id check).Heeds := by
  rw [within]
  split
  · exact Check.heeds_note _
  · exact h _

theorem heeds_checkDevice (id : ContextId) (device : Handle) (invalid : Code) :
    (l.checkDevice id device invalid).Heeds := by
  rw [checkDevice]
  split
  · exact Check.heeds_pass
  · exact l.heeds_within id fun c => Check.heeds_ask c.sink ⟨rfl, rfl⟩

theorem heeds_checkArgument (id : ContextId) (a : Argument) : (l.checkArgument id a).Heeds := by
  rw [checkArgument]
  split
  · exact Check.heeds_pass
  · split
    · exact l.heeds_checkDevice id a.handle a.invalid
    · refine l.heeds_within id fun c => ?_
      -- the object is known here, or to another device, or to none
      split
      · exact Check.heeds_pass
      · split
        · split
          · exact Check.heeds_pass
          · split
            · exact Check.heeds_pass
            · exact Check.heeds_ask c.sink ⟨rfl, rfl⟩
        · exact Check.heeds_ask c.sink ⟨rfl, rfl⟩

theorem heeds_checkArguments (id : ContextId) (as : List Argument) :
    (l.checkArguments id as).Heeds := by
  refine Check.heeds_all fun c hc => ?_
  obtain ⟨a, -, rfl⟩ := List.mem_map.mp hc
  exact l.heeds_checkArgument id a

/-- Both findings about allocation callbacks are errors that the check makes. -/
theorem of_allocatorFinding {created destroyed : Bool} {customCode defaultCode : Option Code}
    {code : Code} {finding : Finding}
    (h : allocatorFinding created destroyed customCode defaultCode = some (code, finding))
    (k : Kind) (o : Handle) : (Report.error k o code finding).Of .check := by
  unfold allocatorFinding at h
  split at h
  · obtain ⟨_, -, h⟩ := Option.map_eq_some_iff.mp h
    cases h
    exact ⟨rfl, rfl⟩
  · obtain ⟨_, -, h⟩ := Option.map_eq_some_iff.mp h
    cases h
    exact ⟨rfl, rfl⟩
  · cases h

theorem heeds_checkDestroy (id : ContextId) (k : Kind) (h : Handle) (custom : Bool)
    (customCode defaultCode : Option Code) :
    (l.checkDestroy id k h custom customCode defaultCode).Heeds := by
  rw [checkDestroy]
  split
  · exact Check.heeds_pass
  · refine l.heeds_within id fun c => ?_
    split
    · exact Check.heeds_pass
    · refine (Check.heeds_ask c.sink ⟨rfl, rfl⟩).append ?_
      split
      · exact Check.heeds_pass
      · rename_i hfinding
        exact Check.heeds_ask c.sink (of_allocatorFinding hfinding _ _)

theorem heeds_checkPoolChild (device : DispatchKey) (k : Kind) (pool h : Handle)
    (invalid foreign : Code) : (l.checkPoolChild device k pool h invalid foreign).Heeds := by
  refine l.heeds_within _ fun c => ?_
  split
  · exact Check.heeds_ask c.sink ⟨rfl, rfl⟩
  · split
    · exact Check.heeds_pass
    · exact Check.heeds_ask c.sink ⟨rfl, rfl⟩

theorem heeds_checkSparse (device : DispatchKey) (queue : Handle) (call : String) :
    (l.checkSparse device queue call).Heeds := by
  refine l.heeds_within _ fun c => ?_
  split
  · exact Check.heeds_pass
  · split
    · exact Check.heeds_pass
    · exact Check.heeds_ask c.sink ⟨rfl, rfl⟩

end Ledger

/-! ## Actions that report only in their own part -/

namespace Action

variable {α β : Type} {p : Phase}

/-- The action makes no call and reports only findings of this part of a passage. -/
def Emits (p : Phase) (a : Action α) : Prop := ∀ l, Trace.Of p (a l).trace

theorem emits_pure (a : α) : Emits p (pure a : Action α) := fun _ => Trace.of_nil

theorem Emits.bind {m : Action α} {f : α → Action β} (hm : Emits p m) (hf : ∀ a, Emits p (f a)) :
    Emits p (m >>= f) :=
  fun l => (hm l).append (hf _ _)

theorem Emits.map {m : Action α} (hm : Emits p m) (f : α → β) : Emits p (f <$> m) :=
  hm.bind fun _ => emits_pure _

theorem Emits.returning {m : Action Unit} (hm : Emits p m) (b : β) :
    Emits p (do m; return b) :=
  hm.bind fun _ => emits_pure b

theorem emits_emit {t : Trace} (ht : Trace.Of p t) : Emits p (emit t) := fun _ => ht

theorem emits_ofSurvey {survey : Ledger → Survey} (h : ∀ l, Trace.Of p (survey l).trace) :
    Emits p (ofSurvey survey) :=
  h

theorem emits_ofCheck {check : Ledger → Check} (h : ∀ l, (check l).Heeds) :
    Emits .check (ofCheck check) :=
  fun l => (h l).trace_of

theorem emits_modify (f : Ledger → Ledger) : Emits p (modify f) := fun _ => Trace.of_nil

theorem emits_within {id : ContextId} {fallback : α} {act : Context → Action α}
    (h : ∀ c, Emits p (act c)) : Emits p (within id fallback act) := by
  intro l
  rw [within]
  split
  · exact Trace.of_log _
  · exact h _ l

theorem emits_onRegistry (id : ContextId) (f : Registry → Registry) :
    Emits p (onRegistry id f) :=
  emits_within fun _ => emits_modify _

theorem emits_each {act : α → Action Unit} (h : ∀ a, Emits p (act a)) :
    ∀ xs : List α, Emits p (each xs act)
  | [] => emits_pure ()
  | x :: xs => (h x).bind fun _ => emits_each h xs

end Action

namespace Ledger

theorem emits_register (id : ContextId) (k : Kind) (h : Handle) (status : Status)
    (parent : Handle) : Action.Emits .record (register id k h status parent) := by
  refine Action.emits_within fun c l => ?_
  split
  · exact Trace.of_nil
  · exact Trace.of_cons ⟨rfl, rfl⟩ Trace.of_nil

theorem emits_registerImage (device : DispatchKey) (image swapchain : Handle) :
    Action.Emits .record (registerImage device image swapchain) := by
  refine Action.emits_within fun c l => ?_
  split
  · exact Trace.of_nil
  · exact Trace.of_cons ⟨rfl, rfl⟩ Trace.of_nil

variable {p : Phase}

theorem emits_openContext (c : Context) (opening : Log) :
    Action.Emits p (openContext c opening) := by
  intro l
  refine Trace.of_cons trivial ?_
  split
  · exact Trace.of_log _
  · exact Trace.of_nil

theorem emits_openDevice (instanceKey key : DispatchKey) (handle : Handle) :
    Action.Emits p (openDevice instanceKey key handle) :=
  Action.emits_within fun _ => (emits_openContext _ _).bind fun _ => Action.emits_pure true

theorem emits_closeContext (id : ContextId) : Action.Emits p (closeContext id) := by
  intro l
  rw [closeContext]
  split
  · exact Trace.of_nil
  · exact Trace.of_log _

theorem emits_closeInstance (key : DispatchKey) : Action.Emits p (closeInstance key) := by
  intro l
  have hdevices := Action.emits_each (p := p) (fun device => emits_closeContext (.ofDevice device))
    ((l.contexts.devicesOf key).map (·.key))
  exact (hdevices.bind fun _ => emits_closeContext (.ofInstance key)) l

theorem emits_release (id : ContextId) (k : Kind) (h : Handle) :
    Action.Emits p (release id k h) := by
  rw [release]
  split
  · exact Action.emits_pure ()
  · exact Action.emits_onRegistry id _

theorem emits_dropChildren (device : DispatchKey) (pool : Handle) (k : Kind) :
    Action.Emits p (dropChildren device pool k) :=
  Action.emits_within fun _ => (Action.emits_modify _).bind fun _ => Action.emits_pure _

theorem emits_dropImages (device : DispatchKey) (swapchain : Handle) :
    Action.Emits p (dropImages device swapchain) :=
  Action.emits_within fun _ => (Action.emits_modify _).bind fun _ => Action.emits_pure _

theorem emits_dropOwned (id : ContextId) : Action.Emits p (dropOwned id) :=
  Action.emits_each (fun _ => Action.emits_onRegistry id _) _

theorem emits_dropQueues (device : DispatchKey) : Action.Emits p (dropQueues device) :=
  Action.emits_onRegistry _ _

/-! ### Leaks -/

theorem of_leakTrace (c : Context) (kinds : List Kind) (code : Code) :
    Trace.Of .prepare (leakTrace c kinds code) := by
  intro e he
  obtain ⟨r, hr, rfl⟩ := List.mem_map.mp he
  obtain ⟨k, -, hr⟩ := List.mem_flatMap.mp hr
  obtain ⟨d, -, rfl⟩ := List.mem_map.mp hr
  exact ⟨rfl, rfl⟩

theorem of_surveyed (l : Ledger) (id : ContextId) {survey : Context → Survey}
    (h : ∀ c, Trace.Of p (survey c).trace) : Trace.Of p (l.surveyed id survey).trace := by
  rw [surveyed]
  split
  · exact Trace.of_log _
  · exact h _

theorem emits_reportKinds (id : ContextId) (kinds : List Kind) (code : Code) :
    Action.Emits .prepare (Action.ofSurvey (·.reportKinds id kinds code)) :=
  Action.emits_ofSurvey fun l => l.of_surveyed id fun _ => of_leakTrace _ _ code

theorem emits_reportOwned (id : ContextId) (code : Code) :
    Action.Emits .prepare (Action.ofSurvey (·.reportOwned id code)) :=
  emits_reportKinds id id.scope.ownedKinds code

theorem emits_reportDevices (key : DispatchKey) (code : Code) :
    Action.Emits .prepare (Action.ofSurvey (·.reportDevices key code)) := by
  refine Action.emits_ofSurvey fun l => l.of_surveyed _ fun _ e he => ?_
  obtain ⟨d, -, he⟩ := List.mem_flatMap.mp he
  rcases List.mem_cons.mp he with rfl | he
  · exact ⟨rfl, rfl⟩
  · exact of_leakTrace d _ code e he

/-! ## Operations -/

namespace Operation

/-- The part of a passage whose findings an operation reports, if it reports any. -/
def phase? : Operation → Option Phase
  | .registerObject .. => some .record
  | .registerCommandBuffer .. => some .record
  | .registerDescriptorSet .. => some .record
  | .registerQueue .. => some .record
  | .registerImage .. => some .record
  | .checkArgument .. => some .check
  | .checkDevice .. => some .check
  | .checkDestroy .. => some .check
  | .checkCommandBuffer .. => some .check
  | .checkDescriptorSet .. => some .check
  | .checkSparse .. => some .check
  | .reportKind .. => some .prepare
  | .reportOwned .. => some .prepare
  | .reportDevices .. => some .prepare
  | _ => none

/-- Every finding that an operation makes is in its part of a passage, or in none. -/
def Speaks (op : Operation) : Prop :=
  ∀ l, ∀ e ∈ (op.run l).trace, ∀ p, e.phase? = some p → op.phase? = some p

variable {op : Operation}

theorem speaks_of_emits {p : Phase} (hp : op.phase? = some p) (hop : op.run.Emits p) :
    op.Speaks := by
  intro l e he q hq
  rw [hp, (hop l e he).phase?_eq hq]

/-- What can be said in any part of a passage is no finding. -/
theorem speaks_of_silent (hop : ∀ p, op.run.Emits p) : op.Speaks := by
  intro l e he q hq
  have hcheck := (hop .check l e he).phase?_eq hq
  have hrecord := (hop .record l e he).phase?_eq hq
  cases hcheck.symm.trans hrecord

theorem speaks_discard (id : ContextId) (k : Kind) (h : Handle) : (discard id k h).Speaks := by
  intro l e he q hq
  have hmem : e ∈ (Ledger.discard id k h l).trace := by
    have happend : e ∈ (Ledger.discard id k h l).trace ++ [] := he
    rwa [List.append_nil] at happend
  rw [Ledger.discard, Action.within] at hmem
  split at hmem
  · rw [List.mem_singleton.mp hmem] at hq
    cases hq
  · rename_i c _
    -- an object that is not there is an error, but of no part of a passage
    have hentry : e ∈ (if c.registry.contains k h then []
        else [.log (.untracked k h), .report c.sink (.error k h Code.internalError .untracked)] :
          Trace) := hmem
    split at hentry
    · cases hentry
    · rcases List.mem_cons.mp hentry with rfl | hentry
      · cases hq
      · rw [List.mem_singleton.mp hentry] at hq
        cases hq

theorem speaks : ∀ op : Operation, op.Speaks
  | .openInstance .. => speaks_of_silent fun _ => (emits_openContext _ _).returning _
  | .openDevice .. => speaks_of_silent fun _ => (emits_openDevice _ _ _).map _
  | .closeDevice _ => speaks_of_silent fun _ => (emits_closeContext _).returning _
  | .closeInstance _ => speaks_of_silent fun _ => (emits_closeInstance _).returning _
  | .registerObject .. => speaks_of_emits rfl ((emits_register _ _ _ _ _).returning _)
  | .registerCommandBuffer .. => speaks_of_emits rfl ((emits_register _ _ _ _ _).returning _)
  | .registerDescriptorSet .. => speaks_of_emits rfl ((emits_register _ _ _ _ _).returning _)
  | .registerQueue .. => speaks_of_emits rfl ((emits_register _ _ _ _ _).returning _)
  | .registerImage .. => speaks_of_emits rfl ((emits_registerImage _ _ _).returning _)
  | .noteQueueFamily .. => speaks_of_silent fun _ => (Action.emits_onRegistry _ _).returning _
  | .noteFamilyFlags .. => speaks_of_silent fun _ => (Action.emits_onRegistry _ _).returning _
  | .checkArgument id a =>
    speaks_of_emits rfl ((Action.emits_ofCheck fun l => l.heeds_checkArgument id a).map _)
  | .checkDevice .. =>
    speaks_of_emits rfl ((Action.emits_ofCheck fun l => l.heeds_checkDevice _ _ _).map _)
  | .checkDestroy .. =>
    speaks_of_emits rfl ((Action.emits_ofCheck fun l => l.heeds_checkDestroy _ _ _ _ _ _).map _)
  | .checkCommandBuffer .. =>
    speaks_of_emits rfl ((Action.emits_ofCheck fun l => l.heeds_checkPoolChild _ _ _ _ _ _).map _)
  | .checkDescriptorSet .. =>
    speaks_of_emits rfl ((Action.emits_ofCheck fun l => l.heeds_checkPoolChild _ _ _ _ _ _).map _)
  | .checkSparse .. =>
    speaks_of_emits rfl ((Action.emits_ofCheck fun l => l.heeds_checkSparse _ _ _).map _)
  | .release .. => speaks_of_silent fun _ => (emits_release _ _ _).returning _
  | .discard id k h => speaks_discard id k h
  | .dropChildren .. => speaks_of_silent fun _ => (emits_dropChildren _ _ _).map _
  | .dropImages .. => speaks_of_silent fun _ => (emits_dropImages _ _).map _
  | .dropKind .. => speaks_of_silent fun _ => (Action.emits_onRegistry _ _).returning _
  | .dropOwned _ => speaks_of_silent fun _ => (emits_dropOwned _).returning _
  | .dropQueues _ => speaks_of_silent fun _ => (emits_dropQueues _).returning _
  | .reportKind id k code => speaks_of_emits rfl ((emits_reportKinds id [k] code).map _)
  | .reportOwned id code => speaks_of_emits rfl ((emits_reportOwned id code).map _)
  | .reportDevices key code => speaks_of_emits rfl ((emits_reportDevices key code).map _)

end Operation

end Ledger

end HandleLedger
