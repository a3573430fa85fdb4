import HandleLedger.Proofs.Interception.Failure
import HandleLedger.Proofs.Interception.Unknown
import HandleLedger.Proofs.Ledger.Classification
import Mathlib.Data.List.Basic
import Mathlib.Data.List.TakeWhile

/-!
# Calls with lists of handles

A submission, a wait for fences and an allocation of descriptor sets are given lists of handles. The
main statement, `lists_diagnosed`, says that what they report before the call is what the checks of
the single handles report, each by itself on the books as they are, one after the other, and that the
call runs if there is nothing to report. That the allocation reports its new sets after the call is
all that is added (`allocation_announced`).

To a strict sink a check of handles asks for a skip exactly if it reports something
(`Check.Decisive`), and checks that are made together keep that.
-/

set_option autoImplicit false

namespace HandleLedger

/-! ## Decisive checks -/

namespace Check

/-- The check asks for a skip exactly if it reports something. -/
def Decisive (c : Check) : Prop := c.skip = !c.trace.reports.isEmpty

variable {c d : Check}

theorem Decisive.skip_eq_false_iff (hc : c.Decisive) : c.skip = false ↔ c.trace.reports = [] := by
  rw [hc, Bool.not_eq_false', List.isEmpty_iff]

theorem decisive_pass : pass.Decisive := rfl

theorem decisive_ask {s : Sink} (hs : s.Strict) {r : Report} (hr : r.severity = .error) :
    (ask s r).Decisive :=
  hs.skip_ask hr

theorem Decisive.append (hc : c.Decisive) (hd : d.Decisive) : (c ++ d).Decisive := by
  rw [Decisive, skip_append, trace_append, Trace.reports_append, hc, hd]
  cases c.trace.reports with
  | nil => rfl
  | cons r rs => rfl

theorem decisive_all {cs : List Check} (h : ∀ c ∈ cs, c.Decisive) : (all cs).Decisive := by
  induction cs with
  | nil => exact decisive_pass
  | cons c cs ih =>
    rw [all_cons]
    exact (h c List.mem_cons_self).append (ih fun d hd => h d (List.mem_cons_of_mem _ hd))

theorem reports_all (cs : List Check) :
    (all cs).trace.reports = cs.flatMap (·.trace.reports) := by
  induction cs with
  | nil => rfl
  | cons c cs ih => rw [all_cons, trace_append, Trace.reports_append, ih, List.flatMap_cons]

end Check

namespace Ledger

variable {l : Ledger} {id : ContextId} {c : Context}

/-- A known context lets an argument pass, or it reports an error about it under one of the codes of
the argument. -/
theorem checkArgument_eq_pass_or_ask (hc : l.context? id = some c) (a : Argument) :
    l.checkArgument id a = .pass ∨
      ∃ code finding, (a.invalid = code ∨ a.wrongDevice = some code) ∧
        l.checkArgument id a = .ask c.sink (.error a.kind a.handle code finding) := by
  rw [checkArgument]
  split
  · exact .inl rfl
  · rw [checkDevice, within_of_eq_some hc, within_of_eq_some hc]
    -- a device is looked for among the instances, any other object among the devices
    split
    · rename_i hdevice
      split
      · exact .inl rfl
      · exact .inr ⟨a.invalid, .invalid, .inl rfl, by rw [hdevice]⟩
    · split
      · exact .inl rfl
      · split
        · cases hwrong : a.wrongDevice with
          | none => exact .inl rfl
          | some code =>
            by_cases hsurface : a.kind = .surface
            · exact .inl (if_pos hsurface)
            · exact .inr ⟨code, .wrongDevice, .inr rfl, if_neg hsurface⟩
        · exact .inr ⟨a.invalid, .invalid, .inl rfl, rfl⟩

/-- To a strict sink the check of an argument is decisive. -/
theorem decisive_checkArgument (hc : l.context? id = some c) (hs : c.sink.Strict) (a : Argument) :
    (l.checkArgument id a).Decisive := by
  rcases checkArgument_eq_pass_or_ask hc a with hpass | ⟨code, finding, -, hask⟩
  · rw [hpass]
    exact Check.decisive_pass
  · rw [hask]
    exact Check.decisive_ask hs rfl

theorem decisive_checkArguments (hc : l.context? id = some c) (hs : c.sink.Strict)
    (as : List Argument) : (l.checkArguments id as).Decisive := by
  refine Check.decisive_all fun d hd => ?_
  obtain ⟨a, -, rfl⟩ := List.mem_map.mp hd
  exact decisive_checkArgument hc hs a

/-- A handle that may be null is checked only if it is not. -/
theorem checkArguments_nullable (l : Ledger) (id : ContextId) (k : Kind) (h : Handle) (invalid : Code)
    (wrongDevice : Option Code) (as : List Argument) :
    l.checkArguments id (.nullable k h invalid wrongDevice :: as) =
      l.checkArguments id
        ((if h = nullHandle then [] else [.required k h invalid wrongDevice]) ++ as) := by
  by_cases hh : h = nullHandle
  · have hpass : l.checkArgument id (.nullable k h invalid wrongDevice) = .pass :=
      if_pos ⟨rfl, hh⟩
    rw [if_pos hh]
    show l.checkArgument id _ ++ l.checkArguments id as = _
    rw [hpass]
    rfl
  · have hsame : l.checkArgument id (.nullable k h invalid wrongDevice) =
        l.checkArgument id (.required k h invalid wrongDevice) := by
      have hnull : ∀ allowed : Bool, ¬(allowed = true ∧ h = nullHandle) := fun _ he => hh he.2
      exact (if_neg (hnull true)).trans (if_neg (hnull false)).symm
    rw [if_neg hh]
    show l.checkArgument id _ ++ l.checkArguments id as = _
    rw [hsame]
    rfl

/-- What is reported about several arguments is what is reported about each, in order. -/
theorem reports_checkArguments (as : List Argument) :
    (l.checkArguments id as).trace.reports =
      as.flatMap fun a => ((Operation.checkArgument id a).run l).trace.reports := by
  rw [checkArguments, Check.reports_all, List.flatMap_map]
  refine List.flatMap_congr fun a _ => ?_
  rw [run_checkArgument_of_eq rfl]

/-- A handle that no device knows is invalid. -/
theorem reports_of_unknown (hl : l.Filed) {device : DispatchKey}
    (hc : l.context? (.ofDevice device) = some c) {a : Argument} (hnull : a.nullAllowed = false)
    (hk : a.kind ≠ .device)
    (hnone : ∀ key d, l.context? (.ofDevice key) = some d → ¬d.registry.Holds a.kind a.handle) :
    ((Operation.checkArgument (.ofDevice device) a).run l).trace.reports = [a.invalidReport] := by
  have hdisputed : ¬l.Undisputed (.ofDevice device) a := by
    intro ha
    cases ha with
    | null hallowed _ =>
      rw [hnull] at hallowed
      cases hallowed
    | unknown hunknown =>
      rw [hc] at hunknown
      cases hunknown
    | device hdevice _ => exact hk hdevice
    | own _ d hd hh => exact hnone device d hd hh
  have helsewhere : ¬l.knownElsewhere (.ofDevice device) a.kind a.handle = true := by
    rw [knownElsewhere_iff hl]
    rintro ⟨key, d, -, hd, hh⟩
    exact hnone key d hd hh
  have hcheck := checkArgument_of_disputed hdisputed hk hc
  rw [if_neg helsewhere] at hcheck
  rw [run_checkArgument_of_eq hcheck]
  rfl

/-- The registration of an object reports nothing but the object. -/
theorem exists_of_mem_reports_register {k : Kind} {h : Handle} {status : Status} {parent : Handle}
    {r : Report} (hr : r ∈ (register id k h status parent l).trace.reports) :
    ∃ e : Record, e.kind = k ∧ e.handle = h ∧ e.parent = parent ∧ r = .created e := by
  cases hc : l.context? id with
  | none =>
    rw [register_of_eq_none hc] at hr
    cases hr
  | some c =>
    cases hk : c.registry.contains k h with
    | true =>
      rw [register_of_contains hc hk] at hr
      cases hr
    | false =>
      rw [register_of_not_contains hc hk] at hr
      exact ⟨l.newRecord k h status parent, rfl, rfl, rfl, List.mem_singleton.mp hr⟩

end Ledger

theorem Action.exists_of_mem_reports_each {α : Type} {act : α → Action Unit} {r : Report} :
    ∀ {xs : List α} {l : Ledger}, r ∈ (each xs act l).trace.reports →
      ∃ x ∈ xs, ∃ seen, r ∈ (act x seen).trace.reports
  | [], _, hr => absurd hr List.not_mem_nil
  | x :: xs, l, hr => by
    have hr' : r ∈ Trace.reports ((act x l).trace ++ (each xs act (act x l).ledger).trace) := hr
    rw [Trace.reports_append, List.mem_append] at hr'
    rcases hr' with hr' | hr'
    · exact ⟨x, List.mem_cons_self, l, hr'⟩
    · obtain ⟨y, hy, hseen⟩ := exists_of_mem_reports_each hr'
      exact ⟨y, List.mem_cons_of_mem _ hy, hseen⟩

/-! ## What happens before a call -/

namespace Trace

theorem Of.beforeCall_eq {p : Phase} {t : Trace} (ht : t.Of p) : t.beforeCall = t := by
  refine List.takeWhile_eq_self_iff.mpr fun e he => ?_
  rw [(ht e he).seen?_eq_none]
  rfl

theorem Of.beforeCall_append_call {p : Phase} {t : Trace} (ht : t.Of p) (seen : Ledger)
    (u : Trace) : (t ++ .call seen :: u).beforeCall = t := by
  refine (List.takeWhile_append_of_pos fun e he => ?_).trans (List.append_nil t)
  rw [(ht e he).seen?_eq_none]
  rfl

end Trace

namespace Passage

variable {s : Shape} {p : Passage s}

/-- A passage that tears nothing down only checks before the call, and only records after it. -/
theorem Sorted.trace_run (hp : p.Sorted) (hprepare : p.prepare = pure ()) (outcome : s.Outcome)
    (l : Ledger) :
    (p.run outcome l).trace.beforeCall = p.check.trace ∧
      (p.run outcome l).trace.reports = p.check.trace.reports ++
        if p.check.skip then [] else (p.record outcome l).trace.reports := by
  cases hskip : p.check.skip with
  | true =>
    rw [run_of_skip hskip]
    exact ⟨hp.check.beforeCall_eq, (List.append_nil _).symm⟩
  | false =>
    have htrace : (p.run outcome l).trace =
        p.check.trace ++ .call l :: (p.record outcome l).trace := by
      rw [run_of_not_skip hskip, hprepare]
      exact congrArg (· ++ _) (List.append_nil _)
    rw [htrace]
    exact ⟨hp.check.beforeCall_append_call l _, Trace.reports_append _ _⟩

end Passage

/-! ## Calls that are given lists -/

/-- The handles that a call is given, in order, and the handle whose key tells the device. -/
structure Scan where
  owner : Handle
  arguments : List Argument

/-- What a call that is given lists of handles has to have checked. A fence that is null is no
handle. -/
def Request.scan? : Request → Option Scan
  | .queueSubmit queue fence submits =>
    some ⟨queue,
      .required .queue queue "VUID-vkQueueSubmit-queue-parameter"
          (some "VUID-vkQueueSubmit-commonparent") ::
        (if fence = nullHandle then []
          else [.required .fence fence "VUID-vkQueueSubmit-fence-parameter"
            (some "VUID-vkQueueSubmit-commonparent")]) ++
        submits.flatMap Submit.arguments⟩
  | .waitForFences device fences =>
    some ⟨device, fences.map (.required .fence · "VUID-vkWaitForFences-pFences-parameter"
      (some "VUID-vkWaitForFences-pFences-parent"))⟩
  | .allocateDescriptorSets device pool layouts =>
    some ⟨device,
      .required .device device "VUID-vkAllocateDescriptorSets-device-parameter" none ::
        .required .descriptorPool pool
          "VUID-VkDescriptorSetAllocateInfo-descriptorPool-parameter"
          (some "VUID-VkDescriptorSetAllocateInfo-commonparent") ::
        layouts.map (.required .descriptorSetLayout ·
          "VUID-VkDescriptorSetAllocateInfo-pSetLayouts-parameter"
          (some "VUID-VkDescriptorSetAllocateInfo-commonparent"))⟩
  | _ => none

theorem Submit.nullAllowed_of_mem_arguments {s : Submit} {a : Argument} (ha : a ∈ s.arguments) :
    a.nullAllowed = false := by
  simp only [Submit.arguments, List.mem_append, List.mem_map] at ha
  rcases ha with (⟨h, -, rfl⟩ | ⟨h, -, rfl⟩) | ⟨h, -, rfl⟩
  · rfl
  · rfl
  · rfl

/-- No handle of a scan may be null. -/
theorem Request.nullAllowed_of_scan? {r : Request} {scan : Scan} (h : r.scan? = some scan)
    {a : Argument} (ha : a ∈ scan.arguments) : a.nullAllowed = false := by
  cases r with
  | queueSubmit queue fence submits =>
    cases h
    rcases List.mem_append.mp ha with ha | ha
    · rcases List.mem_cons.mp ha with rfl | ha
      · rfl
      · split at ha
        · cases ha
        · exact List.mem_singleton.mp ha ▸ rfl
    · obtain ⟨s, -, ha⟩ := List.mem_flatMap.mp ha
      exact Submit.nullAllowed_of_mem_arguments ha
  | waitForFences device fences =>
    cases h
    obtain ⟨fence, -, rfl⟩ := List.mem_map.mp ha
    rfl
  | allocateDescriptorSets device pool layouts =>
    cases h
    rcases List.mem_cons.mp ha with rfl | ha
    · rfl
    · rcases List.mem_cons.mp ha with rfl | ha
      · rfl
      · obtain ⟨layout, -, rfl⟩ := List.mem_map.mp ha
        rfl
  | _ => cases h

namespace Layer

variable {l : Layer}

/-- The check of a call that is given lists is the check of its scan. -/
theorem check_of_scan? {r : Request} {scan : Scan} (h : r.scan? = some scan) :
    (r.passage l).check = l.ledger.checkArguments (l.deviceId scan.owner) scan.arguments := by
  cases r with
  | queueSubmit queue fence submits =>
    cases h
    have hfence := l.ledger.checkArguments_nullable (l.deviceId queue) .fence fence
      "VUID-vkQueueSubmit-fence-parameter" (some "VUID-vkQueueSubmit-commonparent")
      (submits.flatMap Submit.arguments)
    exact congrArg (l.ledger.checkArgument _ _ ++ ·) hfence
  | waitForFences device fences =>
    cases h
    rfl
  | allocateDescriptorSets device pool layouts =>
    cases h
    rfl
  | _ => cases h

theorem prepare_of_scan? {r : Request} {scan : Scan} (h : r.scan? = some scan) :
    (r.passage l).prepare = pure () := by
  cases r with
  | queueSubmit => rfl
  | waitForFences => rfl
  | allocateDescriptorSets => rfl
  | _ => cases h

/-- Of the calls that are given lists only an allocation that succeeds reports anything after it has
run. -/
theorem exists_of_mem_record {c : Call} {scan : Scan} (h : c.request.scan? = some scan) {r : Report}
    (hr : r ∈ ((c.request.passage l).record c.outcome l.ledger).trace.reports) :
    ∃ device pool layouts sets, c = ⟨.allocateDescriptorSets device pool layouts, .ok sets⟩ ∧
      ∃ e : Record, e.kind = .descriptorSet ∧ e.handle ∈ sets ∧ e.parent = pool ∧
        r = .created e := by
  obtain ⟨request, outcome⟩ := c
  cases request with
  | queueSubmit => cases hr
  | waitForFences => cases hr
  | allocateDescriptorSets device pool layouts =>
    cases outcome with
    | error _ => cases hr
    | ok sets =>
      obtain ⟨set, hset, seen, hr⟩ := Action.exists_of_mem_reports_each hr
      obtain ⟨e, hk, rfl, hparent, rfl⟩ := Ledger.exists_of_mem_reports_register hr
      exact ⟨device, pool, layouts, sets, rfl, e, hk, hset, hparent, rfl⟩
  | _ => cases h

/-- In any run, take a submission, a wait for fences or an allocation of descriptor sets that
addresses a known device with a strict sink. What it reports before the call is what the checks of
its handles report, each by itself on the books as they are, in order and once for each time that a
handle is given; and it runs exactly if that is nothing. After the call only an allocation that
succeeds reports anything, and that is the sets it has entered. No check changes the books, and a
handle that no device knows, null or not, is invalid. -/
theorem lists_diagnosed (config : Config) (ts : List Turn) {c : Call} {scan : Scan} {d : Context}
    (hscan : c.request.scan? = some scan)
    (hd : ((ofConfig config).play ts).ledger.context?
      (((ofConfig config).play ts).deviceId scan.owner) = some d)
    (hs : d.sink.Strict) :
    let l := (ofConfig config).play ts
    let id := l.deviceId scan.owner
    let alone (a : Argument) := (Ledger.Operation.checkArgument id a).run l.ledger
    let found := scan.arguments.flatMap fun a => (alone a).trace.reports
    (l.intercept c).trace.beforeCall.reports = found ∧
      (l.Runs c ↔ found = []) ∧
      (∃ entered : List Report, (l.intercept c).trace.reports = found ++ entered ∧
        (entered ≠ [] → l.Runs c) ∧
        ∀ r ∈ entered, ∃ device pool layouts sets,
          c = ⟨.allocateDescriptorSets device pool layouts, .ok sets⟩ ∧
          ∃ e : Record, e.kind = .descriptorSet ∧ e.handle ∈ sets ∧ e.parent = pool ∧
            r = .created e) ∧
      (∀ a ∈ scan.arguments, (alone a).ledger = l.ledger) ∧
      ∀ a ∈ scan.arguments, a.kind ≠ .device →
        (∀ key d', l.ledger.context? (.ofDevice key) = some d' →
          ¬d'.registry.Holds a.kind a.handle) →
        (alone a).trace.reports = [.error a.kind a.handle a.invalid .invalid] := by
  intro l id alone found
  have hcheck : (c.request.passage l).check = l.ledger.checkArguments id scan.arguments :=
    check_of_scan? hscan
  have hfound : (c.request.passage l).check.trace.reports = found := by
    rw [hcheck]
    exact Ledger.reports_checkArguments _
  have hdecisive : (c.request.passage l).check.Decisive := by
    rw [hcheck]
    exact Ledger.decisive_checkArguments hd hs _
  obtain ⟨hbefore, hreports⟩ := (l.sorted_passage c.request).trace_run (prepare_of_scan? hscan)
    c.outcome l.ledger
  refine ⟨(congrArg Trace.reports hbefore).trans hfound, ?runs,
    ⟨if (c.request.passage l).check.skip then []
      else ((c.request.passage l).record c.outcome l.ledger).trace.reports, ?all, ?ran, ?entered⟩,
    fun _ _ => rfl, ?unknown⟩
  case runs => rw [runs_iff, hdecisive.skip_eq_false_iff, hfound]
  case all => exact hreports.trans (congrArg (· ++ _) hfound)
  case ran =>
    rw [runs_iff]
    split
    · exact fun h => absurd rfl h
    · rename_i hskip
      exact fun _ => Bool.eq_false_iff.mpr hskip
  case entered =>
    intro r hr
    split at hr
    · cases hr
    · exact exists_of_mem_record hscan hr
  case unknown =>
    intro a ha hk hnone
    exact Ledger.reports_of_unknown (filed_play_ofConfig config ts) hd
      (Request.nullAllowed_of_scan? hscan ha) hk hnone

/-- A device has a queue and a semaphore. -/
def semaphoreCreation : List Turn :=
  allocatedSet ++
    [.bind [(9, 20)], .call ⟨.getDeviceQueue 3 0, (9 : Handle)⟩,
      .call ⟨.create .semaphore 3 false, .ok 7⟩]

/-- Two batches. The first one waits for the semaphore and for null, the second one has a command
buffer that nobody knows, and signals null. -/
def strayBatches : Call :=
  ⟨.queueSubmit 9 nullHandle
    [⟨.at [7, nullHandle], .null 2, .at [7]⟩, ⟨.at [], .at [8], .at [nullHandle]⟩], .ok ()⟩

/-- The three handles are found, one after the other, and the submission is skipped. -/
theorem stray_batches_diagnosed :
    let l := (ofConfig ⟨.default⟩).play semaphoreCreation
    (∃ scan d, strayBatches.request.scan? = some scan ∧
      l.ledger.context? (l.deviceId scan.owner) = some d ∧ d.sink.Strict) ∧
      ((l.intercept strayBatches).trace.beforeCall.reports.map fun r => (r.kind, r.handle)) =
        [(.semaphore, nullHandle), (.commandBuffer, 8), (.semaphore, nullHandle)] ∧
      ¬l.Runs strayBatches := by
  intro l
  have hscan : strayBatches.request.scan? = some ⟨9, _⟩ := rfl
  have hknown : (l.ledger.context? (l.deviceId 9)).isSome := by decide +kernel
  obtain ⟨d, hd⟩ := Option.isSome_iff_exists.mp hknown
  have hs : d.sink.Strict := strict_play ⟨.default⟩
    (Turn.strict_of_toMemory (show semaphoreCreation.all Turn.toMemory = true from rfl) _) hd
  obtain ⟨hbefore, hruns, -⟩ := lists_diagnosed ⟨.default⟩ semaphoreCreation hscan hd hs
  have hthree : ((l.intercept strayBatches).trace.beforeCall.reports.map
      fun r => (r.kind, r.handle)) =
        [(.semaphore, nullHandle), (.commandBuffer, 8), (.semaphore, nullHandle)] := by
    decide +kernel
  refine ⟨⟨_, d, hscan, hd, hs⟩, hthree, fun hrun => ?_⟩
  rw [hbefore, hruns.mp hrun] at hthree
  cases hthree

/-- What is reported after the call is no diagnosis: an allocation whose handles are in order reports
the set that it has entered. -/
theorem allocation_announced :
    let l := (ofConfig ⟨.default⟩).play allocatedSet
    let c : Call := ⟨.allocateDescriptorSets 3 5 [4], .ok [7]⟩
    ∃ scan d, c.request.scan? = some scan ∧
      l.ledger.context? (l.deviceId scan.owner) = some d ∧ d.sink.Strict ∧
      (l.intercept c).trace.reports ≠ scan.arguments.flatMap fun a =>
        ((Ledger.Operation.checkArgument (l.deviceId scan.owner) a).run l.ledger).trace.reports := by
  intro l c
  have hknown : (l.ledger.context? (l.deviceId 3)).isSome := by decide +kernel
  obtain ⟨d, hd⟩ := Option.isSome_iff_exists.mp hknown
  have hs : d.sink.Strict := strict_play ⟨.default⟩
    (Turn.strict_of_toMemory (show allocatedSet.all Turn.toMemory = true from rfl) _) hd
  exact ⟨_, d, rfl, hd, hs, by decide +kernel⟩

end Layer

end HandleLedger
