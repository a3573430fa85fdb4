import HandleLedger.Proofs.Ledger.Effect
import HandleLedger.Proofs.Registry.Renumber

/-!
# Other sinks

`Ledger.exchange f` gives each context the sink that `f` puts in the place of its own, and
`Event.exchange f` does the same to the reports of a trace. A change of the books never looks at a
sink, it only hands over reports. So it commutes with every exchange (`Action.Exchanges`).

A check asks for a verdict as well. It commutes with the exchanges that leave verdicts alone
(`Sink.Faithful`).
-/

set_option autoImplicit false

namespace HandleLedger

/-- Each sink judges as the one in its place does. -/
def Sink.Faithful (f : Sink → Sink) : Prop := ∀ s r, (f s).verdict r = s.verdict r

/-- The context with another sink. -/
def Context.exchange (f : Sink → Sink) (c : Context) : Context := { c with sink := f c.sink }

@[simp] theorem Context.exchange_registry (f : Sink → Sink) (c : Context) :
    (c.exchange f).registry = c.registry := rfl

@[simp] theorem Context.exchange_sink (f : Sink → Sink) (c : Context) :
    (c.exchange f).sink = f c.sink := rfl

/-- The books with other sinks. -/
def Ledger.exchange (f : Sink → Sink) (l : Ledger) : Ledger :=
  { l with contexts := l.contexts.map (Context.exchange f) }

/-- The event with another sink. -/
def Event.exchange (f : Sink → Sink) : Event → Event
  | .report s r => .report (f s) r
  | .log entry => .log entry
  | .call seen => .call (seen.exchange f)

/-- The trace with other sinks. -/
def Trace.exchange (f : Sink → Sink) (t : Trace) : Trace := t.map (Event.exchange f)

/-- The check with other sinks in its trace. -/
def Check.exchange (f : Sink → Sink) (c : Check) : Check := ⟨c.skip, Trace.exchange f c.trace⟩

/-- The survey with other sinks in its trace. -/
def Survey.exchange (f : Sink → Sink) (s : Survey) : Survey := ⟨s.found, Trace.exchange f s.trace⟩

/-- The step with other sinks in what it leaves. -/
def Step.exchange {α : Type} (f : Sink → Sink) (s : Step α) : Step α :=
  ⟨s.value, s.ledger.exchange f, Trace.exchange f s.trace⟩

variable {f : Sink → Sink}

/-! ## Reading the books -/

namespace Ledger

@[simp] theorem context?_exchange (f : Sink → Sink) (l : Ledger) (id : ContextId) :
    (l.exchange f).context? id = (l.context? id).map (Context.exchange f) :=
  Table.find?_map ..

/-- Of two exchanges after each other the second has the last word. -/
theorem exchange_exchange (f g : Sink → Sink) (l : Ledger) :
    (l.exchange f).exchange g = l.exchange fun s => g (f s) := by
  refine eq_of_context? (fun id => ?_) rfl
  simp only [context?_exchange, Option.map_map]
  rfl

theorem instances_exchange (f : Sink → Sink) (l : Ledger) :
    (l.exchange f).contexts.instances = l.contexts.instances.map (Context.exchange f) := by
  rw [Directory.instances, exchange, Table.values_map, List.filter_map]
  rfl

theorem devices_exchange (f : Sink → Sink) (l : Ledger) :
    (l.exchange f).contexts.devices = l.contexts.devices.map (Context.exchange f) := by
  rw [Directory.devices, exchange, Table.values_map, List.filter_map]
  rfl

theorem devicesExcept_exchange (f : Sink → Sink) (l : Ledger) (excluded : Option DispatchKey) :
    (l.exchange f).contexts.devicesExcept excluded =
      (l.contexts.devicesExcept excluded).map (Context.exchange f) := by
  rw [Directory.devicesExcept, devices_exchange, List.filter_map]
  rfl

theorem devicesOf_exchange (f : Sink → Sink) (l : Ledger) (key : DispatchKey) :
    (l.exchange f).contexts.devicesOf key =
      (l.contexts.devicesOf key).map (Context.exchange f) := by
  rw [Directory.devicesOf, devices_exchange, List.filter_map]
  rfl

theorem instanceOf_exchange (f : Sink → Sink) (l : Ledger) (device : DispatchKey) :
    (l.exchange f).instanceOf device = l.instanceOf device := by
  rw [instanceOf, instanceOf, context?_exchange]
  cases l.context? (.ofDevice device) <;> rfl

theorem status?_exchange (f : Sink → Sink) (l : Ledger) (id : ContextId) (k : Kind)
    (h : Handle) : (l.exchange f).status? id k h = l.status? id k h := by
  rw [status?, status?, context?_exchange]
  cases l.context? id <;> rfl

theorem knowsDevice_exchange (f : Sink → Sink) (l : Ledger) (device : Handle) :
    (l.exchange f).knowsDevice device = l.knowsDevice device := by
  rw [knowsDevice, instances_exchange, List.any_map]
  rfl

theorem knownElsewhere_exchange (f : Sink → Sink) (l : Ledger) (id : ContextId) (k : Kind)
    (h : Handle) : (l.exchange f).knownElsewhere id k h = l.knownElsewhere id k h := by
  rw [knownElsewhere, devicesExcept_exchange, List.any_map]
  rfl

end Ledger

/-! ## Checks -/

namespace Trace

theorem exchange_append (f : Sink → Sink) (t u : Trace) :
    exchange f (t ++ u) = exchange f t ++ exchange f u :=
  List.map_append

theorem calls_exchange (f : Sink → Sink) (t : Trace) :
    calls (exchange f t) = t.calls.map (Ledger.exchange f) := by
  rw [calls, calls, exchange, List.filterMap_map, List.map_filterMap]
  congr 1
  funext e
  cases e <;> rfl

end Trace

namespace Check

theorem ask_eq_exchange (hf : Sink.Faithful f) (s : Sink) (r : Report) :
    ask (f s) r = (ask s r).exchange f := by
  rw [ask, ask, hf s r]
  rfl

theorem exchange_append (c d : Check) : (c ++ d).exchange f = c.exchange f ++ d.exchange f :=
  congrArg (Check.mk _) (Trace.exchange_append f c.trace d.trace)

theorem append_eq_exchange {c c' d d' : Check} (hc : c' = c.exchange f) (hd : d' = d.exchange f) :
    c' ++ d' = (c ++ d).exchange f := by
  rw [hc, hd, exchange_append]

theorem ite_eq_exchange {p : Prop} [Decidable p] {c c' d d' : Check} (hc : c' = c.exchange f)
    (hd : d' = d.exchange f) : (if p then c' else d') = (if p then c else d).exchange f := by
  rw [hc, hd, apply_ite (exchange f)]

theorem exchange_all (cs : List Check) : (all cs).exchange f = all (cs.map (exchange f)) := by
  induction cs with
  | nil => rfl
  | cons c cs ih => rw [all_cons, exchange_append, ih, List.map_cons, all_cons]

theorem exchange_andThen (c d : Check) :
    (c.andThen d).exchange f = (c.exchange f).andThen (d.exchange f) := by
  rw [andThen, andThen]
  by_cases hskip : c.skip = true
  · rw [if_pos hskip, if_pos (show (c.exchange f).skip = true from hskip)]
  · rw [if_neg hskip, if_neg (show ¬(c.exchange f).skip = true from hskip), exchange_append]

end Check

namespace Ledger

variable (l : Ledger)

/-- A check of a context commutes if it does so at the context that is there. -/
theorem within_exchange (id : ContextId) {check : Context → Check}
    (h : ∀ c, check (c.exchange f) = (check c).exchange f) :
    (l.exchange f).within id check = (l.within id check).exchange f := by
  rw [within, within, context?_exchange]
  cases l.context? id with
  | none => rfl
  | some c => exact h c

section Faithful

variable (hf : Sink.Faithful f)

include hf

theorem checkDevice_exchange (id : ContextId) (device : Handle) (invalid : Code) :
    (l.exchange f).checkDevice id device invalid = (l.checkDevice id device invalid).exchange f := by
  rw [checkDevice, checkDevice, knowsDevice_exchange]
  refine Check.ite_eq_exchange rfl ?_
  exact l.within_exchange id fun c => Check.ask_eq_exchange hf c.sink _

theorem checkArgument_exchange (id : ContextId) (a : Argument) :
    (l.exchange f).checkArgument id a = (l.checkArgument id a).exchange f := by
  rw [checkArgument, checkArgument, knownElsewhere_exchange]
  refine Check.ite_eq_exchange rfl (Check.ite_eq_exchange (l.checkDevice_exchange hf ..) ?_)
  refine l.within_exchange id fun c => ?_
  have hask := Check.ask_eq_exchange hf c.sink
  -- the registry is the same, so the sink is asked in the same cases
  refine Check.ite_eq_exchange rfl (Check.ite_eq_exchange ?_ (hask _))
  cases a.wrongDevice with
  | none => rfl
  | some code => exact Check.ite_eq_exchange rfl (hask _)

theorem checkArguments_exchange (id : ContextId) (as : List Argument) :
    (l.exchange f).checkArguments id as = (l.checkArguments id as).exchange f := by
  rw [checkArguments, checkArguments, Check.exchange_all, List.map_map]
  refine congrArg Check.all (List.map_congr_left fun a _ => ?_)
  exact l.checkArgument_exchange hf id a

theorem checkDestroy_exchange (id : ContextId) (k : Kind) (h : Handle) (custom : Bool)
    (customCode defaultCode : Option Code) :
    (l.exchange f).checkDestroy id k h custom customCode defaultCode =
      (l.checkDestroy id k h custom customCode defaultCode).exchange f := by
  refine Check.ite_eq_exchange rfl (l.within_exchange id fun c => ?_)
  have hask := Check.ask_eq_exchange hf c.sink
  simp only [Context.exchange_registry, Context.exchange_sink]
  cases c.registry.find? k h with
  | none => rfl
  | some e =>
    -- the departure is announced in any case, and the sink is asked again if callbacks differ
    refine Check.append_eq_exchange (hask _) ?_
    cases allocatorFinding e.custom custom customCode defaultCode with
    | none => rfl
    | some finding => exact hask _

theorem checkPoolChild_exchange (device : DispatchKey) (k : Kind) (pool h : Handle)
    (invalid foreign : Code) :
    (l.exchange f).checkPoolChild device k pool h invalid foreign =
      (l.checkPoolChild device k pool h invalid foreign).exchange f := by
  refine l.within_exchange _ fun c => ?_
  have hask := Check.ask_eq_exchange hf c.sink
  simp only [Context.exchange_registry, Context.exchange_sink]
  cases c.registry.find? k h with
  | none => exact hask _
  | some e => exact Check.ite_eq_exchange rfl (hask _)

theorem checkSparse_exchange (device : DispatchKey) (queue : Handle) (call : String) :
    (l.exchange f).checkSparse device queue call = (l.checkSparse device queue call).exchange f := by
  refine l.within_exchange _ fun c => ?_
  have hflags : queueFlags? (c.exchange f) queue = queueFlags? c queue := rfl
  simp only [hflags, Context.exchange_sink]
  cases queueFlags? c queue with
  | none => rfl
  | some flags => exact Check.ite_eq_exchange rfl (Check.ask_eq_exchange hf c.sink _)

end Faithful

/-! ## Surveys -/

theorem surveyed_exchange (id : ContextId) {survey survey' : Context → Survey}
    (h : ∀ c, survey' (c.exchange f) = (survey c).exchange f) :
    (l.exchange f).surveyed id survey' = (l.surveyed id survey).exchange f := by
  rw [surveyed, surveyed, context?_exchange]
  cases l.context? id with
  | none => rfl
  | some c => exact h c

theorem leakTrace_exchange (c : Context) (kinds : List Kind) (code : Code) :
    leakTrace (c.exchange f) kinds code = Trace.exchange f (leakTrace c kinds code) := by
  rw [leakTrace, leakTrace, Trace.exchange, List.map_map]
  rfl

theorem reportOwned_exchange (id : ContextId) (code : Code) :
    (l.exchange f).reportOwned id code = (l.reportOwned id code).exchange f :=
  l.surveyed_exchange id fun c => congrArg (Survey.mk _) (leakTrace_exchange c _ code)

theorem reportDevices_exchange (key : DispatchKey) (code : Code) :
    (l.exchange f).reportDevices key code = (l.reportDevices key code).exchange f := by
  refine l.surveyed_exchange _ fun c => ?_
  simp only [devicesOf_exchange, List.isEmpty_map, Survey.exchange, Trace.exchange,
    List.flatMap_map, List.map_flatMap, List.map_cons]
  congr 2
  funext d
  -- what a device still holds is reported to its own sink
  rw [leakTrace_exchange]
  rfl

end Ledger

/-! ## Actions -/

namespace Action

variable {α β : Type}

/-- The second action does on the books with other sinks what the first does on the books. -/
def Exchanges (f : Sink → Sink) (a b : Action α) : Prop := ∀ l, b (l.exchange f) = (a l).exchange f

theorem exchanges_pure (a : α) : Exchanges f (pure a) (pure a) := fun _ => rfl

theorem Exchanges.bind {m m' : Action α} {k k' : α → Action β} (hm : Exchanges f m m')
    (hk : ∀ a, Exchanges f (k a) (k' a)) : Exchanges f (m >>= k) (m' >>= k') := by
  intro l
  -- the second part begins with the books that the first has left, with other sinks
  have hboth := bind_of_eq (hm l) (hk (m l).value (m l).ledger)
  rw [hboth, ← Trace.exchange_append]
  rfl

theorem exchanges_modify {g : Ledger → Ledger} (hg : ∀ l, g (l.exchange f) = (g l).exchange f) :
    Exchanges f (modify g) (modify g) :=
  fun l => congrArg (Step.mk () · []) (hg l)

theorem exchanges_emit_log (entry : Log) : Exchanges f (emit [.log entry]) (emit [.log entry]) :=
  fun _ => rfl

theorem exchanges_within (id : ContextId) (fallback : α) {act act' : Context → Action α}
    (h : ∀ c, Exchanges f (act c) (act' (c.exchange f))) :
    Exchanges f (within id fallback act) (within id fallback act') := by
  intro l
  rw [within, within, Ledger.context?_exchange]
  cases l.context? id with
  | none => rfl
  | some c => exact h c l

theorem exchanges_each (xs : List β) {act act' : β → Action Unit}
    (h : ∀ x, Exchanges f (act x) (act' x)) : Exchanges f (each xs act) (each xs act') := by
  induction xs with
  | nil => exact exchanges_pure ()
  | cons x xs ih => exact (h x).bind fun _ => ih

theorem exchanges_ofSurvey {survey : Ledger → Survey}
    (h : ∀ l, survey (l.exchange f) = (survey l).exchange f) :
    Exchanges f (ofSurvey survey) (ofSurvey survey) := by
  intro l
  rw [ofSurvey, ofSurvey, h l]
  rfl

end Action

namespace Ledger

theorem modifyRegistry_exchange (l : Ledger) (id : ContextId) (g : Registry → Registry) :
    (l.exchange f).modifyRegistry id g = (l.modifyRegistry id g).exchange f := by
  have hadjust : (l.contexts.adjust id (Context.mapRegistry g)).map (Context.exchange f) =
      (l.contexts.map (Context.exchange f)).adjust id (Context.mapRegistry g) :=
    Table.map_adjust l.contexts _ id fun _ => rfl
  exact congrArg (Ledger.mk · l.nextIndex) hadjust.symm

theorem exchanges_modifyRegistry (id : ContextId) (g : Registry → Registry) :
    Action.Exchanges f (Action.modify (·.modifyRegistry id g))
      (Action.modify (·.modifyRegistry id g)) :=
  Action.exchanges_modify fun l => l.modifyRegistry_exchange id g

theorem exchanges_onRegistry (id : ContextId) (g : Registry → Registry) :
    Action.Exchanges f (Action.onRegistry id g) (Action.onRegistry id g) :=
  Action.exchanges_within id () fun _ => exchanges_modifyRegistry id g

/-- An entry is announced to whatever sink is there. -/
theorem exchanges_entering (id : ContextId) (c : Context) (known : Registry → Bool)
    (place : Registry → Record → Registry) (e : UInt64 → Record) (announce : Record → Report) :
    Action.Exchanges f
      (fun l => if known c.registry then ⟨(), l, []⟩
        else ⟨(), { l.modifyRegistry id (place · (e l.nextIndex)) with
          nextIndex := l.nextIndex + 1 }, [.report c.sink (announce (e l.nextIndex))]⟩)
      (fun l => if known c.registry then ⟨(), l, []⟩
        else ⟨(), { l.modifyRegistry id (place · (e l.nextIndex)) with
          nextIndex := l.nextIndex + 1 }, [.report (f c.sink) (announce (e l.nextIndex))]⟩) := by
  intro l
  show (if known c.registry then _ else _) = Step.exchange f (if known c.registry then _ else _)
  split
  · rfl
  · simp only [modifyRegistry_exchange]
    rfl

theorem exchanges_register (id : ContextId) (k : Kind) (h : Handle) (status : Status)
    (parent : Handle) :
    Action.Exchanges f (register id k h status parent) (register id k h status parent) :=
  Action.exchanges_within id () fun c =>
    exchanges_entering id c (·.contains k h) .insert (⟨k, h, status, parent, ·⟩) .created

theorem exchanges_registerImage (device : DispatchKey) (image swapchain : Handle) :
    Action.Exchanges f (registerImage device image swapchain)
      (registerImage device image swapchain) :=
  Action.exchanges_within _ () fun c =>
    exchanges_entering _ c (·.images.contains image) .insertImage
      (⟨.image, image, .none, swapchain, ·⟩) .imageCreated

theorem exchanges_release (id : ContextId) (k : Kind) (h : Handle) :
    Action.Exchanges f (release id k h) (release id k h) := by
  rw [release]
  split
  · exact Action.exchanges_pure ()
  · exact exchanges_onRegistry id _

theorem exchanges_dropChildren (device : DispatchKey) (pool : Handle) (k : Kind) :
    Action.Exchanges f (dropChildren device pool k) (dropChildren device pool k) :=
  Action.exchanges_within _ 0 fun _ =>
    (exchanges_modifyRegistry _ _).bind fun _ => Action.exchanges_pure _

theorem exchanges_dropImages (device : DispatchKey) (swapchain : Handle) :
    Action.Exchanges f (dropImages device swapchain) (dropImages device swapchain) :=
  Action.exchanges_within _ 0 fun _ =>
    (exchanges_modifyRegistry _ _).bind fun _ => Action.exchanges_pure _

theorem exchanges_dropOwned (id : ContextId) :
    Action.Exchanges f (dropOwned id) (dropOwned id) :=
  Action.exchanges_each _ fun _ => exchanges_onRegistry id _

theorem exchanges_dropQueues (device : DispatchKey) :
    Action.Exchanges f (dropQueues device) (dropQueues device) :=
  exchanges_onRegistry _ _

theorem exchanges_openContext (c : Context) (opening : Log) :
    Action.Exchanges f (openContext c opening) (openContext (c.exchange f) opening) := by
  intro l
  have hcontains : (l.exchange f).contexts.contains c.id = l.contexts.contains c.id :=
    Table.contains_map ..
  have hfile : (l.exchange f).contexts.file (c.exchange f) =
      (l.contexts.file c).map (Context.exchange f) :=
    (Table.map_insert ..).symm
  have hid : (c.exchange f).id = c.id := rfl
  rw [openContext, openContext, hid, hcontains, hfile]
  split <;> rfl

theorem exchanges_openInstance (key : DispatchKey) (handle : Handle) (sink : Sink) :
    Action.Exchanges f (openInstance key handle sink) (openInstance key handle (f sink)) :=
  exchanges_openContext _ _

/-- A device gets the sink of its instance, whichever that is. -/
theorem exchanges_openDevice (instanceKey key : DispatchKey) (handle : Handle) :
    Action.Exchanges f (openDevice instanceKey key handle)
      (openDevice instanceKey key handle) :=
  Action.exchanges_within _ false fun _ =>
    (exchanges_openContext _ _).bind fun _ => Action.exchanges_pure true

theorem exchanges_closeContext (id : ContextId) :
    Action.Exchanges f (closeContext id) (closeContext id) := by
  intro l
  rw [closeContext, closeContext, context?_exchange]
  cases l.context? id with
  | none => rfl
  | some c =>
    have herase : (l.exchange f).contexts.erase id =
        (l.contexts.erase id).map (Context.exchange f) :=
      (Table.map_erase ..).symm
    simp only [Option.map_some, herase]
    rfl

theorem exchanges_closeInstance (key : DispatchKey) :
    Action.Exchanges f (closeInstance key) (closeInstance key) := by
  intro l
  -- the devices to be closed are listed by key
  have hkeys : ((l.exchange f).contexts.devicesOf key).map (·.key) =
      (l.contexts.devicesOf key).map (·.key) := by
    rw [devicesOf_exchange, List.map_map]
    rfl
  have hclose : Action.Exchanges f _ _ :=
    (Action.exchanges_each ((l.contexts.devicesOf key).map (·.key)) fun device =>
      exchanges_closeContext (f := f) (.ofDevice device)).bind fun _ =>
        exchanges_closeContext (.ofInstance key)
  rw [closeInstance, hkeys]
  exact hclose l

end Ledger

end HandleLedger
