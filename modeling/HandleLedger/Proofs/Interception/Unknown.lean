import HandleLedger.Proofs.Interception.Arguments

/-!
# Calls on contexts that are not on the books

An application may have made instances and devices before the layer was there. The main statement,
`passes_unknown`, says that a call that addresses one of them passes straight through: it runs once,
its outcome is handed back, nothing is reported and the layer stays as it was.

A check or an action that addresses an unknown context is idle (`Check.Idle`, `Action.Idle`). There
is one exception: closing an instance closes the devices that name it as their parent, whether it is
known itself or not. There are none of those, since no device outlives its instance
(`Ledger.Rooted`).
-/

set_option autoImplicit false

namespace HandleLedger

theorem Trace.reports_append (t u : Trace) : (t ++ u).reports = t.reports ++ u.reports :=
  List.filterMap_append

/-! ## Idle checks -/

/-- The check lets the call through and reports nothing. -/
structure Check.Idle (c : Check) : Prop where
  skip : c.skip = false
  reports : c.trace.reports = []

namespace Check

variable {c d : Check}

theorem idle_pass : pass.Idle := ⟨rfl, rfl⟩

theorem idle_note (entry : Log) : (note entry).Idle := ⟨rfl, rfl⟩

theorem Idle.append (hc : c.Idle) (hd : d.Idle) : (c ++ d).Idle where
  skip := skip_append_eq_false.mpr ⟨hc.skip, hd.skip⟩
  reports := by
    rw [trace_append, Trace.reports_append, hc.reports, hd.reports]
    rfl

theorem idle_all {cs : List Check} (h : ∀ c ∈ cs, c.Idle) : (all cs).Idle := by
  induction cs with
  | nil => exact idle_pass
  | cons c cs ih =>
    rw [all_cons]
    refine (h c (List.mem_cons_self ..)).append (ih fun d hd => ?_)
    exact h d (List.mem_cons_of_mem _ hd)

theorem Idle.andThen (hc : c.Idle) (hd : d.Idle) : (c.andThen d).Idle := by
  rw [Check.andThen, hc.skip]
  exact hc.append hd

end Check

namespace Ledger

variable {l : Ledger} {id : ContextId} (hid : l.context? id = none)

include hid

theorem idle_within (check : Context → Check) : (l.within id check).Idle := by
  rw [within_of_eq_none hid]
  exact Check.idle_note _

theorem idle_checkArgument (a : Argument) : (l.checkArgument id a).Idle := by
  rw [checkArgument]
  split
  · exact Check.idle_pass
  · split
    · rw [checkDevice]
      split
      · exact Check.idle_pass
      · exact idle_within hid _
    · exact idle_within hid _

theorem idle_checkArguments (as : List Argument) : (l.checkArguments id as).Idle := by
  refine Check.idle_all fun c hc => ?_
  obtain ⟨a, -, rfl⟩ := List.mem_map.mp hc
  exact idle_checkArgument hid a

theorem idle_checkDestroy (k : Kind) (h : Handle) (custom : Bool)
    (customCode defaultCode : Option Code) :
    (l.checkDestroy id k h custom customCode defaultCode).Idle := by
  rw [checkDestroy]
  split
  · exact Check.idle_pass
  · exact idle_within hid _

end Ledger

/-! ## Idle actions -/

/-- The action leaves these books as they are and reports nothing. -/
structure Action.Idle {α : Type} (a : Action α) (l : Ledger) : Prop where
  ledger : (a l).ledger = l
  reports : (a l).trace.reports = []

namespace Action

variable {α β : Type} {l : Ledger} {id : ContextId}

theorem idle_pure (a : α) : (pure a : Action α).Idle l := ⟨rfl, rfl⟩

theorem idle_emit (entry : Log) : (emit [.log entry]).Idle l := ⟨rfl, rfl⟩

/-- What follows has to be idle only for the value that is given. -/
theorem Idle.bind_value {m : Action α} {f : α → Action β} (hm : m.Idle l)
    (hf : (f (m l).value).Idle l) : (m >>= f).Idle l where
  ledger := by
    rw [ledger_bind, hm.ledger]
    exact hf.ledger
  reports := by
    show Trace.reports ((m l).trace ++ (f (m l).value (m l).ledger).trace) = []
    rw [Trace.reports_append, hm.reports, hm.ledger, hf.reports]
    rfl

theorem Idle.bind {m : Action α} {f : α → Action β} (hm : m.Idle l) (hf : ∀ a, (f a).Idle l) :
    (m >>= f).Idle l :=
  hm.bind_value (hf _)

theorem idle_within (hid : l.context? id = none) (fallback : α) (act : Context → Action α) :
    (within id fallback act).Idle l := by
  constructor
  · rw [within_of_eq_none hid]
  · rw [within_of_eq_none hid]
    rfl

theorem idle_surveyed (hid : l.context? id = none) (survey : Ledger → Context → Survey) :
    (ofSurvey fun l => l.surveyed id (survey l)).Idle l where
  ledger := rfl
  reports := by
    show Trace.reports (l.surveyed id (survey l)).trace = []
    rw [Ledger.surveyed, hid]
    rfl

theorem idle_each {act : α → Action Unit} (h : ∀ a, (act a).Idle l) :
    ∀ xs : List α, (each xs act).Idle l
  | [] => idle_pure ()
  | x :: xs => (h x).bind fun _ => idle_each h xs

end Action

namespace Ledger

variable {l : Ledger} {id : ContextId} {device : DispatchKey}

theorem idle_release (hid : l.context? id = none) (k : Kind) (h : Handle) :
    (release id k h).Idle l := by
  rw [release]
  split
  · exact Action.idle_pure ()
  · exact Action.idle_within hid () _

theorem idle_closeContext (hid : l.context? id = none) : (closeContext id).Idle l := by
  constructor
  · rw [closeContext, hid]
  · rw [closeContext, hid]
    rfl

/-- An unknown instance has no devices, so there is nothing to close with it. -/
theorem idle_closeInstance (hl : l.Rooted) {key : DispatchKey}
    (hid : l.context? (.ofInstance key) = none) : (closeInstance key).Idle l := by
  have hdevices : l.contexts.devicesOf key = [] := by
    rw [List.eq_nil_iff_forall_not_mem]
    intro c hc
    obtain ⟨hcontext, hscope, hparent⟩ := (hl.filed.mem_devicesOf key c).mp hc
    have hdevice : c.id = .ofDevice c.key := congrArg (ContextId.mk · c.key) hscope
    obtain ⟨instanceKey, hinstance, hsome⟩ := hl.descends c.key c (hdevice ▸ hcontext)
    rw [hparent, Option.some.injEq] at hinstance
    rw [← hinstance, hid] at hsome
    cases hsome
  have hclose : closeInstance key l = closeContext (.ofInstance key) l := by
    rw [closeInstance, hdevices]
    exact congrFun (pure_bind () fun _ => closeContext (.ofInstance key)) l
  have hidle := idle_closeContext hid
  exact ⟨hclose ▸ hidle.ledger, hclose ▸ hidle.reports⟩

end Ledger

/-! ## Idle passages -/

/-- No part of the passage does anything, whatever comes of the call. -/
structure Passage.Idle {s : Shape} (p : Passage s) (l : Ledger) : Prop where
  check : p.check.Idle
  prepare : p.prepare.Idle l
  record : ∀ outcome, (p.record outcome).Idle l

namespace Passage

variable {s : Shape} {check : Check} {l : Ledger}

theorem idle_checking (h : check.Idle) : (checking check : Passage s).Idle l :=
  ⟨h, Action.idle_pure (), fun _ => Action.idle_pure ()⟩

theorem idle_creating (h : check.Idle) {record : Handle → Action Unit}
    (hrecord : ∀ o, (record o).Idle l) : (creating check record).Idle l where
  check := h
  prepare := Action.idle_pure ()
  record
    | .error _ => Action.idle_pure ()
    | .ok o => hrecord o

theorem idle_listing (h : check.Idle) {record : List Handle → Action Unit}
    (hrecord : ∀ os, (record os).Idle l) : (listing check record).Idle l where
  check := h
  prepare := Action.idle_pure ()
  record
    | .error _ => Action.idle_pure ()
    | .ok os => hrecord os

/-- Around an idle passage only the call itself happens. -/
theorem Idle.run {p : Passage s} (hp : p.Idle l) (outcome : s.Outcome) :
    (p.run outcome l).value = outcome ∧ (p.run outcome l).ledger = l ∧
      (p.run outcome l).trace.reports = [] := by
  have hprepare := hp.prepare
  have hrecord := hp.record outcome
  rw [run_of_not_skip hp.check.skip, hprepare.ledger]
  refine ⟨rfl, hrecord.ledger, ?_⟩
  show Trace.reports (p.check.trace ++ (p.prepare l).trace ++
    ([.call l] ++ (p.record outcome l).trace)) = []
  rw [Trace.reports_append, Trace.reports_append, Trace.reports_append, hp.check.reports,
    hprepare.reports, hrecord.reports]
  rfl

end Passage

namespace Layer

variable {l : Layer}

theorem idle_destroyInstance (hl : l.ledger.Rooted) {h : Handle}
    (hid : l.ledger.context? (l.instanceId h) = none) (custom : Bool) :
    (l.destroyInstance h custom).Idle l.ledger := by
  rw [destroyInstance]
  split
  · exact Passage.idle_checking Check.idle_pass
  · constructor
    · exact (Ledger.idle_checkArgument hid _).append (Ledger.idle_checkDestroy hid _ _ _ _ _)
    · refine (Action.idle_surveyed hid _).bind fun _ => ?_
      exact (Action.idle_surveyed hid _).bind fun _ => Action.idle_pure ()
    · exact fun _ => Ledger.idle_closeInstance hl hid

theorem idle_createDevice {physicalDevice : Handle}
    (hid : l.ledger.context? (l.instanceId physicalDevice) = none) (families : List UInt32)
    (custom : Bool) : (l.createDevice physicalDevice families custom).Idle l.ledger := by
  refine Passage.idle_creating (Ledger.idle_checkArgument hid _) fun o => ?_
  have hopen : (Ledger.openDevice (l.keyOf physicalDevice) (l.keyOf o) o l.ledger).value = false :=
    (Ledger.openDevice_of_eq_none hid (l.keyOf o) o).1
  refine (Action.idle_within hid false _).bind_value ?_
  -- the device may carry the key of a known one, but nothing is noted about a device of nobody
  show Action.Idle (if (Ledger.openDevice (l.keyOf physicalDevice) (l.keyOf o) o l.ledger).value
    then _ else _) l.ledger
  rw [hopen]
  exact Action.idle_emit _

/-- A device that is not known is only noted. -/
theorem idle_destroyDevice {h : Handle} (hid : l.ledger.context? (l.deviceId h) = none)
    (custom : Bool) : (l.destroyDevice h custom).Idle l.ledger := by
  have hinstance : l.ledger.instanceOf (l.keyOf h) = none := Ledger.instanceOf_of_eq_none hid
  simp only [destroyDevice]
  split
  · exact Passage.idle_checking Check.idle_pass
  · rw [hinstance]
    exact Passage.idle_checking (Check.idle_note _)

theorem idle_getDeviceQueue {device : Handle} (hid : l.ledger.context? (l.deviceId device) = none)
    (family : UInt32) : (l.getDeviceQueue device family).Idle l.ledger where
  check := ⟨rfl, (Ledger.idle_checkArgument hid _).reports⟩
  prepare := Action.idle_pure ()
  record queue := by
    show Action.Idle (if queue = nullHandle then pure () else _) l.ledger
    split
    · exact Action.idle_pure ()
    · exact (Action.idle_within hid () _).bind fun _ => Action.idle_within hid () _

theorem idle_creationCheck {owner : Handle} {what : Creation}
    (hid : l.ledger.context? (l.ownerId what.child.scope owner) = none) :
    (l.creationCheck owner what).Idle := by
  cases what with
  | imageView image => exact Ledger.idle_checkArgument hid _
  | swapchain surface old =>
    have hinstance : l.ledger.instanceOf (l.keyOf owner) = none :=
      Ledger.instanceOf_of_eq_none hid
    refine Check.Idle.append ?_ (Ledger.idle_checkArgument hid _)
    rw [hinstance]
    exact Check.idle_pass
  | _ => exact Check.idle_pass

theorem idle_dropWith {child : Child} {owner : Handle}
    (hid : l.ledger.context? (l.ownerId child.scope owner) = none) (h : Handle) :
    (dropWith child (l.keyOf owner) h).Idle l.ledger := by
  unfold dropWith
  split
  · exact Action.idle_pure ()
  · cases child with
    | commandPool => exact (Action.idle_within hid 0 _).bind fun _ => Action.idle_pure ()
    | descriptorPool => exact (Action.idle_within hid 0 _).bind fun _ => Action.idle_pure ()
    | swapchain => exact (Action.idle_within hid 0 _).bind fun _ => Action.idle_pure ()
    | _ => exact Action.idle_pure ()

theorem idle_free {device : Handle} (hid : l.ledger.context? (l.deviceId device) = none)
    (a : Argument) {check : Handle → Context → Check} (hs : List Handle) :
    (l.ledger.checkArgument (l.deviceId device) a ++
      Check.all (hs.map fun h => l.ledger.within (l.deviceId device) (check h))).Idle := by
  refine (Ledger.idle_checkArgument hid a).append (Check.idle_all fun c hc => ?_)
  obtain ⟨h, -, rfl⟩ := List.mem_map.mp hc
  exact Ledger.idle_within hid _

/-- The passage of a call on an unknown context is idle. -/
theorem idle_passage (hl : l.ledger.Rooted) {r : Request} {id : ContextId}
    (haddr : l.addressed r = some id) (hid : l.ledger.context? id = none) :
    (r.passage l).Idle l.ledger := by
  cases r with
  | createInstance custom sink => cases haddr
  | destroyInstance h custom =>
    cases haddr
    exact idle_destroyInstance hl hid custom
  | enumeratePhysicalDevices i =>
    cases haddr
    exact Passage.idle_listing (Ledger.idle_checkArgument hid _) fun os =>
      Action.idle_each (fun _ => Action.idle_within hid () _) os
  | createDevice physicalDevice families custom =>
    cases haddr
    exact idle_createDevice hid families custom
  | destroyDevice h custom =>
    cases haddr
    exact idle_destroyDevice hid custom
  | getDeviceQueue device family =>
    cases haddr
    exact idle_getDeviceQueue hid family
  | queueSubmit =>
    cases haddr
    exact Passage.idle_checking (Ledger.idle_checkArguments hid _)
  | queueBindSparse =>
    cases haddr
    exact Passage.idle_checking
      ((Ledger.idle_checkArguments hid _).append (Ledger.idle_within hid _))
  | createDeviceChild =>
    cases haddr
    exact Passage.idle_creating (Ledger.idle_checkArgument hid _) fun _ =>
      Action.idle_within hid () _
  | destroyDeviceChild =>
    cases haddr
    exact ⟨(Ledger.idle_checkArguments hid _).append (Ledger.idle_checkDestroy hid _ _ _ _ _),
      Action.idle_pure (), fun _ => Ledger.idle_release hid _ _⟩
  | create what owner custom =>
    cases haddr
    have hcreate : (l.createFrom what.child.scope owner what.child.kind what.child.creationCode
        custom).Idle l.ledger :=
      Passage.idle_creating (Ledger.idle_checkArgument hid _) fun _ => Action.idle_within hid () _
    exact ⟨(idle_creationCheck hid).andThen hcreate.check, hcreate.prepare, hcreate.record⟩
  | destroy child owner h custom =>
    cases haddr
    exact ⟨(Ledger.idle_checkArguments hid _).append (Ledger.idle_checkDestroy hid _ _ _ _ _),
      Action.idle_pure (), fun _ => (Ledger.idle_release hid _ _).bind fun _ => idle_dropWith hid h⟩
  | getSwapchainImages =>
    cases haddr
    exact Passage.idle_listing (Ledger.idle_checkArgument hid _) fun os =>
      Action.idle_each (fun _ => Action.idle_within hid () _) os
  | allocateCommandBuffers =>
    cases haddr
    exact Passage.idle_listing (Ledger.idle_checkArguments hid _) fun os =>
      Action.idle_each (fun _ => Action.idle_within hid () _) os
  | freeCommandBuffers =>
    cases haddr
    exact ⟨idle_free hid _ _, Action.idle_pure (), fun _ =>
      Action.idle_each (fun _ => Ledger.idle_release hid _ _) _⟩
  | beginCommandBuffer =>
    cases haddr
    exact Passage.idle_checking (Ledger.idle_checkArguments hid _)
  | resetDescriptorPool =>
    cases haddr
    refine ⟨Ledger.idle_checkArguments hid _, ?_, fun _ => Action.idle_pure ()⟩
    exact (Action.idle_within hid 0 _).bind fun _ => Action.idle_pure ()
  | allocateDescriptorSets =>
    cases haddr
    exact Passage.idle_listing (Ledger.idle_checkArguments hid _) fun os =>
      Action.idle_each (fun _ => Action.idle_within hid () _) os
  | freeDescriptorSets device pool hs =>
    cases haddr
    refine ⟨idle_free hid _ _, Action.idle_pure (), fun outcome => ?_⟩
    cases outcome with
    | error _ => exact Action.idle_pure ()
    | ok _ => exact Action.idle_each (fun _ => Ledger.idle_release hid _ _) _
  | bindImageMemory =>
    cases haddr
    exact Passage.idle_checking (Ledger.idle_checkArguments hid _)
  | bindBufferMemory =>
    cases haddr
    exact Passage.idle_checking (Ledger.idle_checkArguments hid _)
  | mapMemory =>
    cases haddr
    exact Passage.idle_checking (Ledger.idle_checkArgument hid _)
  | waitForFences =>
    cases haddr
    exact Passage.idle_checking (Ledger.idle_checkArguments hid _)

theorem exists_addressed {r : Request} (hr : ∀ custom sink, r ≠ .createInstance custom sink) :
    ∃ id, l.addressed r = some id := by
  cases r with
  | createInstance custom sink => exact absurd rfl (hr custom sink)
  | _ => exact ⟨_, rfl⟩

/-- Every call but the creation of an instance addresses an instance or a device. If that is not on
the books, the call runs exactly once, on the books as they are, its outcome is handed back, nothing
is reported, and the layer stays as it was. -/
theorem passes_unknown (config : Config) (ts : List Turn) (c : Call)
    (hc : ∀ custom sink, c.request ≠ .createInstance custom sink) :
    ∃ id, ((ofConfig config).play ts).addressed c.request = some id ∧
      (((ofConfig config).play ts).ledger.context? id = none →
        (((ofConfig config).play ts).intercept c).trace.calls =
            [((ofConfig config).play ts).ledger] ∧
          (((ofConfig config).play ts).intercept c).result = c.outcome ∧
          (((ofConfig config).play ts).intercept c).trace.reports = [] ∧
          (((ofConfig config).play ts).intercept c).layer = (ofConfig config).play ts) := by
  obtain ⟨id, haddr⟩ := exists_addressed (l := (ofConfig config).play ts) hc
  refine ⟨id, haddr, fun hid => ?_⟩
  generalize hl : (ofConfig config).play ts = l at haddr hid ⊢
  have hrooted : l.ledger.Rooted := hl ▸ rooted_play_ofConfig config ts
  have hidle := idle_passage hrooted haddr hid
  obtain ⟨hresult, hledger, hreports⟩ := hidle.run c.outcome
  refine ⟨?_, hresult, hreports, ?_⟩
  · have hcalls : (l.intercept c).trace.calls = [((c.request.passage l).prepare l.ledger).ledger] :=
      (l.sorted_passage c.request).calls_of_not_skip hidle.check.skip
    rw [hidle.prepare.ledger] at hcalls
    exact hcalls
  · exact congrArg (fun ledger => { l with ledger := ledger }) hledger

/-- An instance that was there before the layer is destroyed, while another one has a device. -/
theorem earlier_instance_destroyed :
    ((((ofConfig ⟨.default⟩).play allocatedMemory).intercept
        ⟨.destroyInstance 9 false, ()⟩).trace.calls.length = 1) ∧
      (((ofConfig ⟨.default⟩).play allocatedMemory).intercept
        ⟨.destroyInstance 9 false, ()⟩).layer = (ofConfig ⟨.default⟩).play allocatedMemory := by
  obtain ⟨id, haddr, hpasses⟩ := passes_unknown ⟨.default⟩ allocatedMemory
    ⟨.destroyInstance 9 false, ()⟩ (fun _ _ h => by cases h)
  have hid : id = .ofInstance 0 := Option.some.inj (haddr.symm.trans (by decide +kernel))
  subst hid
  have hunknown : ((ofConfig ⟨.default⟩).play allocatedMemory).ledger.context? (.ofInstance 0) =
      none := Option.not_isSome_iff_eq_none.mp (by decide +kernel)
  obtain ⟨hcalls, -, -, hlayer⟩ := hpasses hunknown
  exact ⟨congrArg List.length hcalls, hlayer⟩

end Layer

end HandleLedger
