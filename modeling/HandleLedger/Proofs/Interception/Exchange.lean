import HandleLedger.Proofs.Interception.Gate
import HandleLedger.Proofs.Ledger.Exchange

/-!
# Calls under other sinks

`Layer.exchange f` is the layer whose contexts report to other sinks. A passage checks, prepares and
records as before (`Passage.Exchanges`) if the exchange leaves verdicts alone. That holds for every
request but the creation of an instance, which brings a sink of its own
(`Layer.exchanges_passage`, `Layer.exchanges_createInstance`).
-/

set_option autoImplicit false

namespace HandleLedger

variable {f : Sink → Sink}

/-! ## Passages -/

namespace Passage

variable {s : Shape}

/-- The second passage is the first one with other sinks. -/
structure Exchanges (f : Sink → Sink) (p q : Passage s) : Prop where
  check : q.check = p.check.exchange f
  prepare : Action.Exchanges f p.prepare q.prepare
  record : ∀ outcome, Action.Exchanges f (p.record outcome) (q.record outcome)

theorem exchanges_checking {check check' : Check} (h : check' = check.exchange f) :
    Exchanges f (checking check : Passage s) (checking check') :=
  ⟨h, Action.exchanges_pure (), fun _ => Action.exchanges_pure ()⟩

theorem exchanges_creating {check check' : Check} (h : check' = check.exchange f)
    {record record' : Handle → Action Unit}
    (hrecord : ∀ o, Action.Exchanges f (record o) (record' o)) :
    Exchanges f (creating check record) (creating check' record') where
  check := h
  prepare := Action.exchanges_pure ()
  record
    | .error _ => Action.exchanges_pure ()
    | .ok o => hrecord o

theorem exchanges_listing {check check' : Check} (h : check' = check.exchange f)
    {record record' : List Handle → Action Unit}
    (hrecord : ∀ os, Action.Exchanges f (record os) (record' os)) :
    Exchanges f (listing check record) (listing check' record') where
  check := h
  prepare := Action.exchanges_pure ()
  record
    | .error _ => Action.exchanges_pure ()
    | .ok os => hrecord os

/-- The verdict of the check is the same, so the call runs in both or in neither. -/
theorem Exchanges.run {p q : Passage s} (h : Exchanges f p q) (outcome : s.Outcome) :
    Action.Exchanges f (p.run outcome) (q.run outcome) := by
  intro l
  have hverdict : q.check.skip = p.check.skip := by
    rw [h.check]
    rfl
  have htrace : q.check.trace = Trace.exchange f p.check.trace := congrArg Check.trace h.check
  cases hskip : p.check.skip with
  | true =>
    rw [run_of_skip hskip, run_of_skip (hverdict.trans hskip), htrace]
    rfl
  | false =>
    -- the record is made in the books that the preparation leaves
    rw [run_of_not_skip hskip, run_of_not_skip (hverdict.trans hskip), h.prepare l, htrace]
    show Step.mk outcome (q.record outcome ((p.prepare l).ledger.exchange f)).ledger _ = _
    simp only [h.record outcome (p.prepare l).ledger, Step.exchange, Trace.exchange_append]
    rfl

end Passage

namespace Layer

/-- The layer with other sinks in its books, and any configuration. -/
def exchange (f : Sink → Sink) (config : Config) (l : Layer) : Layer :=
  ⟨l.ledger.exchange f, config, l.dispatch⟩

theorem instanceOf_exchange (f : Sink → Sink) (config : Config) (l : Layer) (h : Handle) :
    (l.exchange f config).ledger.instanceOf ((l.exchange f config).keyOf h) =
      l.ledger.instanceOf (l.keyOf h) :=
  Ledger.instanceOf_exchange f l.ledger (l.keyOf h)

section Passages

variable (l : Layer) (config : Config)

/-- The creation of an instance is the one call that is given a sink. -/
theorem exchanges_createInstance (custom : Bool) (sink : Option Sink) :
    (l.createInstance custom sink).Exchanges f
      ((l.exchange f config).createInstance custom (some (f (sink.getD l.defaultSink)))) := by
  refine Passage.exchanges_creating rfl fun h => ?_
  refine (Ledger.exchanges_openInstance _ h _).bind fun _ => ?_
  exact Ledger.exchanges_register _ _ h _ _

theorem exchanges_dropWith (child : Child) (device : DispatchKey) (h : Handle) :
    Action.Exchanges f (dropWith child device h) (dropWith child device h) := by
  unfold dropWith
  split
  · exact Action.exchanges_pure ()
  · split
    · exact (Ledger.exchanges_dropChildren _ _ _).bind fun _ => Action.exchanges_pure ()
    · exact (Ledger.exchanges_dropChildren _ _ _).bind fun _ => Action.exchanges_pure ()
    · exact (Ledger.exchanges_dropImages _ _).bind fun _ => Action.exchanges_pure ()
    · exact Action.exchanges_pure ()

variable (hf : Sink.Faithful f)

include hf

theorem exchanges_createDevice (physicalDevice : Handle) (families : List UInt32)
    (custom : Bool) :
    (l.createDevice physicalDevice families custom).Exchanges f
      ((l.exchange f config).createDevice physicalDevice families custom) := by
  refine Passage.exchanges_creating (l.ledger.checkArgument_exchange hf _ _) fun h => ?_
  refine (Ledger.exchanges_openDevice _ _ h).bind fun known => ?_
  cases known with
  | true =>
    refine (Ledger.exchanges_register _ _ h _ _).bind fun _ => ?_
    exact Ledger.exchanges_onRegistry _ _
  | false => exact Action.exchanges_emit_log _

theorem exchanges_createFrom (scope : Scope) (owner : Handle) (kind : Kind) (ownerCode : Code)
    (custom : Bool) :
    (l.createFrom scope owner kind ownerCode custom).Exchanges f
      ((l.exchange f config).createFrom scope owner kind ownerCode custom) :=
  Passage.exchanges_creating (l.ledger.checkArgument_exchange hf _ _) fun h =>
    Ledger.exchanges_register _ _ h _ _

theorem creationCheck_exchange (owner : Handle) (what : Creation) :
    (l.exchange f config).creationCheck owner what = (l.creationCheck owner what).exchange f := by
  cases what with
  | imageView image => exact l.ledger.checkArgument_exchange hf _ _
  | swapchain surface old =>
    refine Check.append_eq_exchange ?_ (l.ledger.checkArgument_exchange hf _ _)
    simp only [instanceOf_exchange]
    cases l.ledger.instanceOf (l.keyOf owner) with
    | none => rfl
    | some instanceKey => exact l.ledger.checkArgument_exchange hf (.ofInstance instanceKey) _
  | _ => rfl

theorem exchanges_create (what : Creation) (owner : Handle) (custom : Bool) :
    (l.create what owner custom).Exchanges f
      ((l.exchange f config).create what owner custom) := by
  have hfrom := l.exchanges_createFrom config hf what.child.scope owner what.child.kind
    what.child.creationCode custom
  refine ⟨?_, hfrom.prepare, hfrom.record⟩
  show ((l.exchange f config).creationCheck owner what).andThen _ = _
  rw [l.creationCheck_exchange config hf, hfrom.check]
  exact (Check.exchange_andThen _ _).symm

theorem exchanges_getDeviceQueue (device : Handle) (family : UInt32) :
    (l.getDeviceQueue device family).Exchanges f
      ((l.exchange f config).getDeviceQueue device family) where
  check := congrArg Check.advisory (l.ledger.checkArgument_exchange hf _ _)
  prepare := Action.exchanges_pure ()
  record queue := by
    show Action.Exchanges f (if queue = nullHandle then pure () else _)
      (if queue = nullHandle then pure () else _)
    split
    · exact Action.exchanges_pure ()
    · refine (Ledger.exchanges_register _ _ _ _ _).bind fun _ => ?_
      exact Ledger.exchanges_onRegistry _ _

theorem exchanges_destroyInstance (h : Handle) (custom : Bool) :
    (l.destroyInstance h custom).Exchanges f
      ((l.exchange f config).destroyInstance h custom) := by
  rw [destroyInstance, destroyInstance]
  split
  · exact Passage.exchanges_checking rfl
  · constructor
    · exact Check.append_eq_exchange (l.ledger.checkArgument_exchange hf _ _)
        (l.ledger.checkDestroy_exchange hf _ _ _ _ _ _)
    · refine (Action.exchanges_ofSurvey fun m => m.reportDevices_exchange _ _).bind fun _ => ?_
      refine (Action.exchanges_ofSurvey fun m => m.reportOwned_exchange _ _).bind fun _ => ?_
      exact Action.exchanges_pure ()
    · exact fun _ => Ledger.exchanges_closeInstance _

theorem exchanges_destroyDevice (h : Handle) (custom : Bool) :
    (l.destroyDevice h custom).Exchanges f
      ((l.exchange f config).destroyDevice h custom) := by
  simp only [destroyDevice, instanceOf_exchange]
  split
  · exact Passage.exchanges_checking rfl
  · cases l.ledger.instanceOf (l.keyOf h) with
    | none =>
      -- a device of an unknown instance is only noted
      exact Passage.exchanges_checking rfl
    | some instanceKey =>
      constructor
      · exact Check.append_eq_exchange (l.ledger.checkArgument_exchange hf _ _)
          (l.ledger.checkDestroy_exchange hf _ _ _ _ _ _)
      · refine (Action.exchanges_ofSurvey fun m => m.reportOwned_exchange _ _).bind fun _ => ?_
        refine (Ledger.exchanges_dropOwned _).bind fun _ => ?_
        exact Ledger.exchanges_dropQueues _
      · intro _
        refine (Ledger.exchanges_release _ _ h).bind fun _ => ?_
        exact Ledger.exchanges_closeContext _

theorem exchanges_destroyFrom (scope : Scope) (owner h : Handle) (kind : Kind) (custom : Bool)
    (codes : DestroyCodes) :
    (l.destroyFrom scope owner h kind custom codes).Exchanges f
      ((l.exchange f config).destroyFrom scope owner h kind custom codes) where
  check := Check.append_eq_exchange (l.ledger.checkArguments_exchange hf _ _)
    (l.ledger.checkDestroy_exchange hf _ _ _ _ _ _)
  prepare := Action.exchanges_pure ()
  record _ := Ledger.exchanges_release _ _ _

theorem exchanges_destroy (child : Child) (owner h : Handle) (custom : Bool) :
    (l.destroy child owner h custom).Exchanges f
      ((l.exchange f config).destroy child owner h custom) := by
  have hfrom := l.exchanges_destroyFrom config hf child.scope owner h child.kind custom
    child.destroyCodes
  refine ⟨hfrom.check, hfrom.prepare, fun _ => ?_⟩
  exact (hfrom.record ()).bind fun _ => exchanges_dropWith child _ h

/-- The check of a list of handles that go back to their pool. -/
theorem all_checkPoolChild_exchange (device : DispatchKey) (k : Kind) (pool : Handle)
    (invalid foreign : Code) (hs : List Handle) :
    Check.all (hs.map fun h =>
        (l.ledger.exchange f).checkPoolChild device k pool h invalid foreign) =
      (Check.all (hs.map fun h =>
        l.ledger.checkPoolChild device k pool h invalid foreign)).exchange f := by
  rw [Check.exchange_all, List.map_map]
  refine congrArg Check.all (List.map_congr_left fun h _ => ?_)
  exact l.ledger.checkPoolChild_exchange hf device k pool h invalid foreign

theorem exchanges_freeCommandBuffers (device pool : Handle) (hs : List Handle) :
    (l.freeCommandBuffers device pool hs).Exchanges f
      ((l.exchange f config).freeCommandBuffers device pool hs) where
  check := Check.append_eq_exchange (l.ledger.checkArgument_exchange hf _ _)
    (l.all_checkPoolChild_exchange hf _ _ pool _ _ _)
  prepare := Action.exchanges_pure ()
  record _ := Action.exchanges_each _ fun h => Ledger.exchanges_release _ _ h

theorem exchanges_freeDescriptorSets (device pool : Handle) (hs : List Handle) :
    (l.freeDescriptorSets device pool hs).Exchanges f
      ((l.exchange f config).freeDescriptorSets device pool hs) where
  check := Check.append_eq_exchange (l.ledger.checkArgument_exchange hf _ _)
    (l.all_checkPoolChild_exchange hf _ _ pool _ _ _)
  prepare := Action.exchanges_pure ()
  record
    | .error _ => Action.exchanges_pure ()
    | .ok () => Action.exchanges_each _ fun h => Ledger.exchanges_release _ _ h

theorem exchanges_beginCommandBuffer (buffer : Handle) (inheritance : Option Inheritance) :
    (l.beginCommandBuffer buffer inheritance).Exchanges f
      ((l.exchange f config).beginCommandBuffer buffer inheritance) := by
  apply Passage.exchanges_checking
  rw [← l.ledger.checkArguments_exchange hf, ← Ledger.status?_exchange f l.ledger]
  rfl

/-- Every call but the creation of an instance treats all sinks alike. -/
theorem exchanges_passage {r : Request} (hr : ∀ custom sink, r ≠ .createInstance custom sink) :
    (r.passage l).Exchanges f (r.passage (l.exchange f config)) := by
  have hargument := fun id a => l.ledger.checkArgument_exchange hf id a
  have harguments := fun id as => l.ledger.checkArguments_exchange hf id as
  cases r with
  | createInstance custom sink => exact absurd rfl (hr custom sink)
  | destroyInstance h custom => exact l.exchanges_destroyInstance config hf h custom
  | enumeratePhysicalDevices i =>
    refine Passage.exchanges_listing (hargument _ _) fun hs => ?_
    exact Action.exchanges_each hs fun h => Ledger.exchanges_register _ _ h _ _
  | createDevice => exact l.exchanges_createDevice config hf _ _ _
  | destroyDevice h custom => exact l.exchanges_destroyDevice config hf h custom
  | getDeviceQueue => exact l.exchanges_getDeviceQueue config hf _ _
  | queueSubmit => exact Passage.exchanges_checking (harguments _ _)
  | queueBindSparse queue fence =>
    apply Passage.exchanges_checking
    exact Check.append_eq_exchange (harguments _ _) (l.ledger.checkSparse_exchange hf _ _ _)
  | createDeviceChild => exact l.exchanges_createFrom config hf _ _ _ _ _
  | destroyDeviceChild => exact l.exchanges_destroyFrom config hf _ _ _ _ _ _
  | create what owner custom => exact l.exchanges_create config hf what owner custom
  | destroy child owner h custom => exact l.exchanges_destroy config hf child owner h custom
  | getSwapchainImages =>
    refine Passage.exchanges_listing (hargument _ _) fun hs => ?_
    exact Action.exchanges_each hs fun h => Ledger.exchanges_registerImage _ h _
  | allocateCommandBuffers =>
    refine Passage.exchanges_listing (harguments _ _) fun hs => ?_
    exact Action.exchanges_each hs fun h => Ledger.exchanges_register _ _ h _ _
  | freeCommandBuffers => exact l.exchanges_freeCommandBuffers config hf _ _ _
  | beginCommandBuffer => exact l.exchanges_beginCommandBuffer config hf _ _
  | resetDescriptorPool =>
    refine ⟨harguments _ _, ?_, fun _ => Action.exchanges_pure ()⟩
    exact (Ledger.exchanges_dropChildren _ _ _).bind fun _ => Action.exchanges_pure ()
  | allocateDescriptorSets =>
    refine Passage.exchanges_listing (harguments _ _) fun hs => ?_
    exact Action.exchanges_each hs fun h => Ledger.exchanges_register _ _ h _ _
  | freeDescriptorSets => exact l.exchanges_freeDescriptorSets config hf _ _ _
  | bindImageMemory => exact Passage.exchanges_checking (harguments _ _)
  | bindBufferMemory => exact Passage.exchanges_checking (harguments _ _)
  | mapMemory => exact Passage.exchanges_checking (hargument _ _)
  | waitForFences => exact Passage.exchanges_checking (harguments _ _)

end Passages

end Layer

end HandleLedger
