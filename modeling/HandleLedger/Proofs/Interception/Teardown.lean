import HandleLedger.Proofs.Ledger.Leakage
import HandleLedger.Proofs.Lifetime.Return

/-!
# Instances and devices that are destroyed

What is left of an instance or a device is reported when it is destroyed, each object once and
nothing else, and then its books are closed. The main statements are `Layer.destroyInstance_settles`
and `Layer.destroyDevice_settles`. They give the whole trace of the call and the whole ledger after
it, so what they do not name stays as it was.

The lists in them are inventories (`Registry.Lists`). That the last entry in the log counts what the
device still held needs the counters of its registry to be true (`Ledger.lasting_reckoned`).
-/

set_option autoImplicit false

namespace HandleLedger

namespace Ledger

variable {l : Ledger} {id : ContextId} {c : Context}

/-! ## Devices of an instance -/

/-- The devices of an instance are listed once each. -/
theorem Filed.nodup_devicesOf (hl : l.Filed) (key : DispatchKey) :
    (l.contexts.devicesOf key).Nodup := by
  have hvalues : l.contexts.values.Nodup := Table.nodup_values fun _ _ => hl.id_eq
  exact (hvalues.filter _).filter _

theorem Filed.mem_devicesOf_iff (hl : l.Filed) (key : DispatchKey) (d : Context) :
    d ∈ l.contexts.devicesOf key ↔
      ∃ device, l.context? (.ofDevice device) = some d ∧ d.parent = some key := by
  rw [hl.mem_devicesOf]
  constructor
  · rintro ⟨hd, hscope, hparent⟩
    refine ⟨d.key, ?_, hparent⟩
    rwa [Context.id, hscope] at hd
  · rintro ⟨device, hd, hparent⟩
    exact ⟨(hl.id_eq hd).symm ▸ hd, hl.scope_eq hd, hparent⟩

/-! ## Traces -/

theorem trace_closeContext (hc : l.context? id = some c) :
    (closeContext id l).trace = [.log (.destroyed id c.registry.total)] := by
  rw [closeContext, hc]

/-- Closing an instance is not reported. -/
theorem reports_closeInstance (key : DispatchKey) (l : Ledger) :
    (closeInstance key l).trace.reports = [] := by
  rw [List.eq_nil_iff_forall_not_mem]
  intro r hr
  obtain ⟨sink, hr⟩ := Trace.mem_reports.mp hr
  -- a report would belong to any part of a passage
  have hcheck : r.Of .check := emits_closeInstance key l _ hr
  have hrecord : r.Of .record := emits_closeInstance key l _ hr
  cases hcheck.phase?_eq.symm.trans hrecord.phase?_eq

end Ledger

namespace Layer

variable {l : Layer} {h : Handle} {custom : Bool}

/-- The trace and the ledger of a call that runs. -/
theorem intercept_of_runs {c : Call} (hruns : l.Runs c) {seen : Ledger} {t : Trace}
    (hprepare : (c.request.passage l).prepare l.ledger = ⟨(), seen, t⟩) :
    (l.intercept c).trace = (c.request.passage l).check.trace ++ t ++
        .call seen :: ((c.request.passage l).record c.outcome seen).trace ∧
      (l.intercept c).trace.calls = [seen] ∧
      (l.intercept c).layer.ledger = ((c.request.passage l).record c.outcome seen).ledger := by
  have hskip := (l.runs_iff c).mp hruns
  have hrun := Passage.run_of_not_skip hskip c.outcome l.ledger
  have hcalls : ((c.request.passage l).run c.outcome l.ledger).trace.calls =
      [((c.request.passage l).prepare l.ledger).ledger] :=
    (l.sorted_passage c.request).calls_of_not_skip hskip
  rw [hprepare] at hrun hcalls
  exact ⟨congrArg Step.trace hrun, hcalls, congrArg Step.ledger hrun⟩

/-! ## Instances -/

/-- What the destruction of an instance reports: each device with what it still holds, and then what
the instance itself still holds. -/
def instanceLeaks (c : Context) (devices : List Context) : Trace :=
  devices.flatMap (fun d =>
    .report c.sink (.deviceLeaked d.handle) ::
      Ledger.leakTrace d Kind.deviceChildren instanceLeakCode) ++
    Ledger.leakTrace c Kind.instanceChildren instanceLeakCode

theorem instanceLeaks_eq {c : Context} {devices : List Context} (hc : c.scope = .instanceLevel)
    (hdevices : ∀ d ∈ devices, d.scope = .deviceLevel) :
    instanceLeaks c devices =
      devices.flatMap (fun d => .report c.sink (.deviceLeaked d.handle) ::
        (Kind.deviceChildren.flatMap d.registry.recordsOf).map fun e =>
          .report d.sink (.leaked .deviceLevel d.handle instanceLeakCode e)) ++
      (Kind.instanceChildren.flatMap c.registry.recordsOf).map fun e =>
        .report c.sink (.leaked .instanceLevel c.handle instanceLeakCode e) := by
  have heach : ∀ d ∈ devices, Event.report c.sink (.deviceLeaked d.handle) ::
      Ledger.leakTrace d Kind.deviceChildren instanceLeakCode =
        .report c.sink (.deviceLeaked d.handle) ::
          (Kind.deviceChildren.flatMap d.registry.recordsOf).map fun e =>
            .report d.sink (.leaked .deviceLevel d.handle instanceLeakCode e) := by
    intro d hd
    rw [Ledger.leakTrace_eq, hdevices d hd]
  rw [instanceLeaks, List.flatMap_congr heach, Ledger.leakTrace_eq, hc]

theorem prepare_destroyInstance {c : Context} (hh : h ≠ nullHandle)
    (hc : l.ledger.context? (l.instanceId h) = some c) :
    (l.destroyInstance h custom).prepare l.ledger =
      ⟨(), l.ledger, instanceLeaks c (l.ledger.contexts.devicesOf (l.keyOf h))⟩ := by
  simp only [destroyInstance, if_neg hh]
  show Step.mk () l.ledger ((l.ledger.reportDevices (l.keyOf h) instanceLeakCode).trace ++
    ((l.ledger.reportOwned (l.instanceId h) instanceLeakCode).trace ++ [])) = _
  have hinstance : l.ledger.context? (.ofInstance (l.keyOf h)) = some c := hc
  rw [List.append_nil, Ledger.reportDevices, Ledger.reportOwned, Ledger.reportKinds,
    Ledger.surveyed_of_eq_some hc, Ledger.surveyed_of_eq_some hinstance]
  rfl

theorem record_destroyInstance (hh : h ≠ nullHandle) :
    (l.destroyInstance h custom).record () = Ledger.closeInstance (l.keyOf h) := by
  simp only [destroyInstance, if_neg hh]
  rfl

/-! ## Devices -/

theorem instanceOf_eq {c : Context} {i : DispatchKey}
    (hc : l.ledger.context? (l.deviceId h) = some c) (hparent : c.parent = some i) :
    l.ledger.instanceOf (l.keyOf h) = some i :=
  (Ledger.instanceOf_of_eq_some hc).trans hparent

/-- The books when a device is destroyed: what is left of it has been dropped. -/
def emptied (l : Layer) (h : Handle) : Ledger :=
  (Ledger.dropQueues (l.keyOf h) (Ledger.dropOwned (l.deviceId h) l.ledger).ledger).ledger

theorem prepare_destroyDevice {c : Context} {i : DispatchKey} (hh : h ≠ nullHandle)
    (hc : l.ledger.context? (l.deviceId h) = some c) (hparent : c.parent = some i) :
    (l.destroyDevice h custom).prepare l.ledger =
      ⟨(), l.emptied h, Ledger.leakTrace c Kind.deviceChildren deviceLeakCode⟩ := by
  have hprepare : (l.destroyDevice h custom).prepare = (do
      let _ ← Action.ofSurvey (·.reportOwned (l.deviceId h) deviceLeakCode)
      Ledger.dropOwned (l.deviceId h)
      Ledger.dropQueues (l.keyOf h)) := by
    simp only [destroyDevice, if_neg hh, instanceOf_eq hc hparent]
    rfl
  have hknown : (l.ledger.context? (l.deviceId h)).isSome := Option.isSome_of_eq_some hc
  have hstill : ((Ledger.dropOwned (l.deviceId h) l.ledger).ledger.context?
      (l.deviceId h)).isSome :=
    ((Ledger.updates_dropOwned _ _).isSome_context? _).trans hknown
  obtain ⟨found, hreported⟩ : ∃ found,
      Action.ofSurvey (·.reportOwned (l.deviceId h) deviceLeakCode) l.ledger =
        ⟨found, l.ledger, Ledger.leakTrace c Kind.deviceChildren deviceLeakCode⟩ := by
    rw [Action.ofSurvey, Ledger.reportOwned, Ledger.reportKinds, Ledger.surveyed_of_eq_some hc]
    exact ⟨_, rfl⟩
  -- neither drop is reported, since the device is known all along
  have howned := Action.eq_of_trace_eq_nil (Ledger.trace_dropOwned hknown)
  have hqueues := Action.eq_of_trace_eq_nil (Ledger.trace_dropQueues hstill)
  have hdropped := Action.bind_of_eq (f := fun _ => Ledger.dropQueues (l.keyOf h)) howned hqueues
  have hall := Action.bind_of_eq (f := fun _ => do
    Ledger.dropOwned (l.deviceId h)
    Ledger.dropQueues (l.keyOf h)) hreported hdropped
  rw [List.append_nil, List.append_nil] at hall
  rw [hprepare]
  exact hall

theorem updates_emptied (l : Layer) (h : Handle) :
    Ledger.Updates (l.deviceId h) Registry.remains l.ledger (l.emptied h) := by
  have howned := Ledger.updates_dropOwned (l.deviceId h) l.ledger
  have hkinds : (l.deviceId h).scope.ownedKinds = Kind.deviceChildren := rfl
  rw [hkinds] at howned
  have hqueues := Ledger.updates_dropQueues (l.keyOf h)
    (Ledger.dropOwned (l.deviceId h) l.ledger).ledger
  -- put together before it meets the goal, or the drops are unfolded to compare the two
  have hall := howned.trans hqueues
  exact hall

theorem nextIndex_emptied (l : Layer) (h : Handle) :
    (l.emptied h).nextIndex = l.ledger.nextIndex := by
  rw [emptied, Ledger.nextIndex_dropQueues, Ledger.nextIndex_dropOwned]

theorem record_destroyDevice {c : Context} {i : DispatchKey} (hh : h ≠ nullHandle)
    (hc : l.ledger.context? (l.deviceId h) = some c) (hparent : c.parent = some i) :
    (l.destroyDevice h custom).record () = (do
      Ledger.release (.ofInstance i) .device h
      Ledger.closeDevice (l.keyOf h)) := by
  simp only [destroyDevice, if_neg hh, instanceOf_eq hc hparent]

/-- After the call the device leaves the books of its instance, and its own books are closed. -/
theorem closed_of_emptied {c : Context} {i : DispatchKey} (hh : h ≠ nullHandle)
    (hc : l.ledger.context? (l.deviceId h) = some c)
    (hroot : (l.ledger.context? (.ofInstance i)).isSome) :
    let closing : Action Unit := do
      Ledger.release (.ofInstance i) .device h
      Ledger.closeDevice (l.keyOf h)
    let closed := closing (l.emptied h)
    closed.trace = [.log (.destroyed (l.deviceId h) c.registry.remains.total)] ∧
      (∀ id, closed.ledger.context? id =
        if l.deviceId h = id then none
        else if .ofInstance i = id then
          (l.ledger.context? id).map (Context.mapRegistry (·.remove .device h))
        else l.ledger.context? id) ∧
      closed.ledger.nextIndex = l.ledger.nextIndex := by
  intro closing closed
  have hempty := l.updates_emptied h
  have hreleased := Ledger.updates_release (.ofInstance i) .device hh (l.emptied h)
  have hne : ContextId.ofInstance i ≠ l.deviceId h := ContextId.ofInstance_ne_ofDevice
  -- the release touches the instance only, so the device is closed as it was left
  have hleft : (Ledger.release (.ofInstance i) .device h (l.emptied h)).ledger.context?
      (l.deviceId h) = some (c.mapRegistry Registry.remains) := by
    rw [hreleased.context?_of_ne hne, hempty.context?_self, hc]
    rfl
  refine ⟨?_, fun id => ?_, ?_⟩
  · have hsilent := Ledger.trace_release ((hempty.isSome_context? (.ofInstance i)).trans hroot)
      .device hh
    have hclosed := Ledger.trace_closeContext hleft
    show (Ledger.release (.ofInstance i) .device h (l.emptied h)).trace ++
      (Ledger.closeContext (l.deviceId h) _).trace = _
    rw [hsilent, hclosed]
    rfl
  · show (Ledger.closeContext (l.deviceId h) _).ledger.context? id = _
    rw [Ledger.context?_closeContext]
    split
    · rfl
    · rename_i hdevice
      rw [hreleased id, hempty.context?_of_ne hdevice]
  · have hindex : (Ledger.release (.ofInstance i) .device h (l.emptied h)).ledger.nextIndex =
        l.ledger.nextIndex := by
      rw [Ledger.release, if_neg hh]
      exact Ledger.keeps_nextIndex_onRegistry _ _ _ (l.nextIndex_emptied h)
    exact Ledger.keeps_nextIndex_closeContext (.ofDevice (l.keyOf h)) _ hindex

/-! ## What calls give back to devices -/

theorem kind_mem_deviceChildren {child : Child} (hscope : child.scope = .deviceLevel) :
    child.kind ∈ Kind.deviceChildren := by
  have hall : ∀ child : Child, child.scope = .deviceLevel → child.kind ∈ Kind.deviceChildren := by
    intro child
    cases child <;> decide
  exact hall child hscope

/-- Of all calls only the creation of a child of any kind can give a device something that is
neither a queue nor an object that the device has to outlive. -/
theorem kind_of_returns {c : Call} {device : DispatchKey} {k : Kind} {o : Handle}
    (hreturns : c.request.Returns l c.outcome (.ofDevice device) k o)
    (hchild : ∀ owner kind code custom, c.request = .createDeviceChild owner kind code custom →
      kind ∈ Kind.deviceChildren) : k ∈ Kind.deviceChildren ∨ k = .queue := by
  obtain ⟨r, outcome⟩ := c
  cases r with
  | createInstance => exact absurd hreturns.2.1 ContextId.ofInstance_ne_ofDevice
  | enumeratePhysicalDevices => exact absurd hreturns.2.1 ContextId.ofInstance_ne_ofDevice
  | createDevice => exact absurd hreturns.2.1 ContextId.ofInstance_ne_ofDevice
  | getDeviceQueue => exact .inr hreturns.2.2.symm
  | createDeviceChild owner kind code custom =>
    exact .inl (hreturns.2.2 ▸ hchild owner kind code custom rfl)
  | create what owner custom =>
    obtain ⟨-, howner, rfl⟩ := hreturns
    -- what is created from an instance does not go to a device
    exact .inl (kind_mem_deviceChildren (congrArg ContextId.scope howner))
  | getSwapchainImages => exact .inl (hreturns.2.2 ▸ by decide)
  | allocateCommandBuffers => exact .inl (hreturns.2.2 ▸ by decide)
  | allocateDescriptorSets => exact .inl (hreturns.2.2 ▸ by decide)
  | _ => exact hreturns.elim

/-- If children of any kind are only ever of the kinds that a device has to outlive, a device holds
nothing else but queues. -/
theorem kind_of_record? (config : Config) {ts : List Turn}
    (hts : ∀ owner kind code custom outcome,
      Turn.call ⟨.createDeviceChild owner kind code custom, outcome⟩ ∈ ts →
        kind ∈ Kind.deviceChildren)
    {device : DispatchKey} {k : Kind} {o : Handle}
    (hrecord : (((ofConfig config).play ts).ledger.record? (.ofDevice device) k o).isSome) :
    k ∈ Kind.deviceChildren ∨ k = .queue := by
  have hfiled : (ofConfig config).ledger.Filed := Ledger.every_empty _
  rcases record?_play hfiled hrecord with hempty | ⟨before, c, after, rfl, -, hc⟩
  · cases hempty
  · refine kind_of_returns hc fun owner kind code custom hrequest => ?_
    obtain ⟨r, outcome⟩ := c
    cases hrequest
    exact hts owner kind code custom outcome (by simp)

/-! ## The two calls -/

/-- In any run, an instance that is destroyed reports, after its check and before the call, each of
its devices to its own sink, directly followed by each object of the device that the device had to
outlive, to the sink of the device, and then each object of its own that it had to outlive; each
once and nothing else. The call runs once. Afterwards neither the instance nor any device of it is
on the books, and every other context and the next creation index are as they were. -/
theorem destroyInstance_settles (config : Config) (ts : List Turn) {h : Handle} {custom : Bool}
    {c : Context} (hh : h ≠ nullHandle)
    (hc : ((ofConfig config).play ts).ledger.context? (((ofConfig config).play ts).instanceId h) =
      some c)
    (hruns : ((ofConfig config).play ts).Runs ⟨.destroyInstance h custom, ()⟩) :
    let l := (ofConfig config).play ts
    let i := l.keyOf h
    let checks := ((Request.destroyInstance h custom).passage l).check.trace
    let step := l.intercept ⟨.destroyInstance h custom, ()⟩
    (∃ (closing : Trace) (devices : List Context) (held : Context → List Record)
        (own : List Record),
      (devices.Nodup ∧ ∀ d, d ∈ devices ↔
        ∃ key, l.ledger.context? (.ofDevice key) = some d ∧ d.parent = some i) ∧
      (∀ d ∈ devices, d.registry.Lists (· ∈ Kind.deviceChildren) (held d)) ∧
      c.registry.Lists (· ∈ Kind.instanceChildren) own ∧
      step.trace = checks ++
        (devices.flatMap (fun d =>
          .report c.sink
              (.error .device d.handle "UNASSIGNED-ObjectTracker-ObjectLeak" .deviceLeaked) ::
            (held d).map fun e => .report d.sink
              (.leaked .deviceLevel d.handle "VUID-vkDestroyInstance-instance-00629" e)) ++
          own.map fun e => .report c.sink
            (.leaked .instanceLevel c.handle "VUID-vkDestroyInstance-instance-00629" e)) ++
        .call l.ledger :: closing ∧
      checks.Of .check ∧ closing.reports = []) ∧
    step.trace.calls = [l.ledger] ∧
    (∀ id d, step.layer.ledger.context? id = some d ↔
      l.ledger.context? id = some d ∧ id ≠ .ofInstance i ∧ d.parent ≠ some i) ∧
    step.layer.ledger.nextIndex = l.ledger.nextIndex := by
  intro l i checks step
  have hrooted : l.ledger.Rooted := rooted_play_ofConfig config ts
  have hsorted := l.sorted_passage (.destroyInstance h custom)
  have hprepare : ((Request.destroyInstance h custom).passage l).prepare l.ledger =
      ⟨(), l.ledger, instanceLeaks c (l.ledger.contexts.devicesOf i)⟩ :=
    prepare_destroyInstance hh hc
  have hrecord : ((Request.destroyInstance h custom).passage l).record () =
      Ledger.closeInstance i := record_destroyInstance hh
  obtain ⟨htrace, hcalls, hledger⟩ := intercept_of_runs hruns hprepare
  rw [hrecord] at htrace hledger
  have hscope : c.scope = .instanceLevel := hrooted.filed.scope_eq hc
  -- the call walks through lists of its own, and these are shown to be inventories
  refine ⟨⟨(Ledger.closeInstance i l.ledger).trace, l.ledger.contexts.devicesOf i,
    fun d => Kind.deviceChildren.flatMap d.registry.recordsOf,
    Kind.instanceChildren.flatMap c.registry.recordsOf, ⟨hrooted.filed.nodup_devicesOf i, ?devices⟩,
    ?held, ?own, ?trace, hsorted.check, Ledger.reports_closeInstance i l.ledger⟩, hcalls, ?after,
    ?index⟩
  case devices => exact hrooted.filed.mem_devicesOf_iff i
  case held =>
    intro d hd
    obtain ⟨key, hd, -⟩ := (hrooted.filed.mem_devicesOf_iff i d).mp hd
    exact (hrooted.filed.registry hd).lists_kinds (by decide)
  case own => exact (hrooted.filed.registry hc).lists_kinds (by decide)
  case trace =>
    have hleaks := instanceLeaks_eq hscope fun d hd =>
      (((hrooted.filed.mem_devicesOf i d).mp hd).2.1 : d.scope = .deviceLevel)
    rw [hleaks] at htrace
    exact htrace
  case after =>
    intro id d
    rw [hledger]
    exact hrooted.context?_closeInstance i id d
  case index =>
    rw [hledger]
    exact Ledger.keeps_nextIndex_closeInstance i l.ledger rfl

/-- A buffer, a queue and a surface are left of a device and its instance. -/
def leftovers : List Turn :=
  deviceCreation ++
    [.call ⟨.create .buffer 3 false, .ok 5⟩,
      .call ⟨.getDeviceQueue 3 0, (4 : Handle)⟩,
      .call ⟨.create .surface 1 false, .ok 6⟩]

/-- The instance is destroyed: the device, the buffer and the surface are reported, and the queue is
not. -/
theorem instance_settled :
    let l := (ofConfig ⟨.default⟩).play leftovers
    let step := l.intercept ⟨.destroyInstance 1 false, ()⟩
    (1 : Handle) ≠ nullHandle ∧ (l.ledger.context? (l.instanceId 1)).isSome ∧
      l.Runs ⟨.destroyInstance 1 false, ()⟩ ∧
      ((step.trace.reports.filter (·.severity = .error)).map fun r => (r.kind, r.handle)) =
        [(.device, 3), (.buffer, 5), (.surface, 6)] ∧
      step.trace.calls.length = 1 ∧
      (step.layer.ledger.context? (.ofInstance 10)).isNone ∧
      (step.layer.ledger.context? (.ofDevice 20)).isNone := by
  intro l step
  have hknown : (l.ledger.context? (l.instanceId 1)).isSome := by decide +kernel
  have hruns : l.Runs ⟨.destroyInstance 1 false, ()⟩ := by decide +kernel
  obtain ⟨c, hc⟩ := Option.isSome_iff_exists.mp hknown
  obtain ⟨-, hcalls, hafter, -⟩ :=
    destroyInstance_settles ⟨.default⟩ leftovers (by decide) hc hruns
  refine ⟨by decide, hknown, hruns, by decide +kernel, congrArg List.length hcalls, ?_, ?_⟩
  · rw [Option.isNone_iff_eq_none, Option.eq_none_iff_forall_ne_some]
    intro d hd
    exact ((hafter _ d).mp hd).2.1 (by decide +kernel)
  · rw [Option.isNone_iff_eq_none, Option.eq_none_iff_forall_ne_some]
    intro d hd
    obtain ⟨hd, -, hparent⟩ := (hafter _ d).mp hd
    have hlinked : l.ledger.instanceOf 20 = some 10 := by decide +kernel
    exact hparent ((Ledger.instanceOf_of_eq_some hd).symm.trans hlinked)

theorem reckoned_play_ofConfig (config : Config) (ts : List Turn) {id : ContextId} {c : Context}
    (hc : ((ofConfig config).play ts).ledger.context? id = some c) : c.registry.Reckoned := by
  have hfiled : (ofConfig config).ledger.Filed := Ledger.every_empty _
  have hplay := keeps_play Ledger.lasting_reckoned.keeps_run ⟨hfiled, Ledger.every_empty _⟩ ts
  exact hplay.2 id c hc

/-- In any run, a device that is destroyed reports, after its check and before the call, each object
that it had to outlive, to its own sink, once and nothing else. The call runs once. The log entry
that follows counts the objects that are neither queues nor to be outlived, and there are none
unless children of any kind are of other kinds. Afterwards the device is on the books neither by itself nor
as an object of its instance, and every other context and the next creation index are as they
were. -/
theorem destroyDevice_settles (config : Config) (ts : List Turn) {h : Handle} {custom : Bool}
    {c : Context} {i : DispatchKey} (hh : h ≠ nullHandle)
    (hc : ((ofConfig config).play ts).ledger.context? (((ofConfig config).play ts).deviceId h) =
      some c)
    (hparent : c.parent = some i)
    (hruns : ((ofConfig config).play ts).Runs ⟨.destroyDevice h custom, ()⟩) :
    let l := (ofConfig config).play ts
    let checks := ((Request.destroyDevice h custom).passage l).check.trace
    let step := l.intercept ⟨.destroyDevice h custom, ()⟩
    (∃ (held rest : List Record) (seen : Ledger),
      c.registry.Lists (· ∈ Kind.deviceChildren) held ∧
      c.registry.Lists (fun k => k ∉ Kind.deviceChildren ∧ k ≠ .queue) rest ∧
      step.trace = checks ++
        held.map (fun e => .report c.sink
          (.leaked .deviceLevel c.handle "VUID-vkDestroyDevice-device-00378" e)) ++
        [.call seen, .log (.destroyed (l.deviceId h) rest.length)] ∧
      checks.Of .check ∧ step.trace.calls = [seen] ∧
      ((∀ owner kind code custom outcome,
        Turn.call ⟨.createDeviceChild owner kind code custom, outcome⟩ ∈ ts →
          kind ∈ Kind.deviceChildren) → rest = [])) ∧
    step.layer.ledger.context? (l.deviceId h) = none ∧
    (∃ root, l.ledger.context? (.ofInstance i) = some root ∧
      step.layer.ledger.context? (.ofInstance i) =
        some { root with registry := root.registry.remove .device h }) ∧
    (∀ id, id ≠ l.deviceId h → id ≠ .ofInstance i →
      step.layer.ledger.context? id = l.ledger.context? id) ∧
    step.layer.ledger.nextIndex = l.ledger.nextIndex := by
  intro l checks step
  have hrooted : l.ledger.Rooted := rooted_play_ofConfig config ts
  have hsorted := l.sorted_passage (.destroyDevice h custom)
  have hfiled : c.registry.Filed := hrooted.filed.registry hc
  have hscope : c.scope = .deviceLevel := hrooted.filed.scope_eq hc
  have hroot : (l.ledger.context? (.ofInstance i)).isSome :=
    hrooted.isSome_of_instanceOf (instanceOf_eq hc hparent)
  have hne : ContextId.ofInstance i ≠ l.deviceId h := ContextId.ofInstance_ne_ofDevice
  have hprepare : ((Request.destroyDevice h custom).passage l).prepare l.ledger =
      ⟨(), l.emptied h, Ledger.leakTrace c Kind.deviceChildren deviceLeakCode⟩ :=
    prepare_destroyDevice hh hc hparent
  have hrecord : ((Request.destroyDevice h custom).passage l).record () = (do
      Ledger.release (.ofInstance i) .device h
      Ledger.closeDevice (l.keyOf h)) := record_destroyDevice hh hc hparent
  obtain ⟨htrace, hcalls, hledger⟩ := intercept_of_runs hruns hprepare
  obtain ⟨hclosing, hclosed, hindex⟩ := closed_of_emptied hh hc hroot
  rw [hrecord] at htrace hledger
  have hrest := hfiled.lists_remains
  have htotal : c.registry.remains.total = c.registry.remains.records.values.length :=
    (reckoned_play_ofConfig config ts hc).remains.total_eq
  refine ⟨⟨Kind.deviceChildren.flatMap c.registry.recordsOf, c.registry.remains.records.values,
    l.emptied h, hfiled.lists_kinds (by decide), hrest, ?trace, hsorted.check, hcalls, ?none⟩,
    ?device, ?root, ?other, ?index⟩
  case trace =>
    rw [hclosing, htotal, Ledger.leakTrace_eq, hscope] at htrace
    exact htrace
  case none =>
    intro hts
    -- an object that remains would be of a kind that no call has given to the device
    refine List.eq_nil_iff_forall_not_mem.mpr fun e he => ?_
    obtain ⟨⟨hchild, hqueue⟩, hfind⟩ := (hrest.mem_iff e).mp he
    have hrecorded := Ledger.record?_of_eq_some hc e.kind e.handle
    rw [hfind] at hrecorded
    rcases kind_of_record? config hts (Option.isSome_of_eq_some hrecorded) with hkind | hkind
    · exact hchild hkind
    · exact hqueue hkind
  case device =>
    rw [hledger, hclosed, if_pos rfl]
  case root =>
    obtain ⟨root, hroot⟩ := Option.isSome_iff_exists.mp hroot
    refine ⟨root, hroot, ?_⟩
    rw [hledger, hclosed, if_neg hne.symm, if_pos rfl, hroot]
    rfl
  case other =>
    intro id hdevice hinstance
    rw [hledger, hclosed, if_neg hdevice.symm, if_neg hinstance.symm]
  case index =>
    rw [hledger, hindex]

/-- The device is destroyed: the buffer is reported, and the queue is not. -/
theorem device_settled :
    let l := (ofConfig ⟨.default⟩).play leftovers
    let step := l.intercept ⟨.destroyDevice 3 false, ()⟩
    (3 : Handle) ≠ nullHandle ∧
      (∃ c, l.ledger.context? (l.deviceId 3) = some c ∧ c.parent = some 10) ∧
      l.Runs ⟨.destroyDevice 3 false, ()⟩ ∧
      ((step.trace.reports.filter (·.severity = .error)).map fun r => (r.kind, r.handle)) =
        [(.buffer, 5)] ∧
      step.trace.calls.length = 1 ∧
      step.layer.ledger.context? (l.deviceId 3) = none ∧
      (step.layer.ledger.context? (.ofInstance 10)).isSome := by
  intro l step
  have hruns : l.Runs ⟨.destroyDevice 3 false, ()⟩ := by decide +kernel
  have hlinked : l.ledger.instanceOf (l.keyOf 3) = some 10 := by decide +kernel
  obtain ⟨c, hc, hparent⟩ := Option.bind_eq_some_iff.mp hlinked
  obtain ⟨⟨held, rest, seen, -, -, -, -, hcalls, -⟩, hdevice, ⟨root, -, hroot⟩, -⟩ :=
    destroyDevice_settles ⟨.default⟩ leftovers (by decide) hc hparent hruns
  exact ⟨by decide, ⟨c, hc, hparent⟩, hruns, by decide +kernel, congrArg List.length hcalls,
    hdevice, Option.isSome_of_eq_some hroot⟩

end Layer

end HandleLedger
