import HandleLedger.Proofs.Interception.Gate
import HandleLedger.Proofs.Lifetime.Clearance
import HandleLedger.Proofs.Lifetime.Shadow

/-!
# False alarms

A well-behaved call raises no false alarm if it runs exactly once, its outcome is handed back, and
errors are reported only about objects that truly outlive the instance or device that it destroys
(`Layer.Undisturbed`).

The books can say less than is true: after the failed reset of a descriptor pool its sets are alive
and the books have lost them. The main statement, `quiet_iff_finds`, says that nothing else can go
wrong. A well-behaved run raises no false alarm exactly if each of its calls finds the sets that it
frees or destroys, where every reset is taken to succeed.
-/

set_option autoImplicit false

namespace HandleLedger

/-! ## True leaks -/

/-- The report is about an object of the domain that has to be destroyed before its owner. -/
def Domain.Outlived (scope : Scope) (d : Domain) (r : Report) : Prop :=
  r.kind ∈ scope.ownedKinds ∧ (d.live r.kind r.handle).isSome ∧
    ∃ index, r.finding = .leaked scope d.handle index

/-- The report is about what outlives the instance or device that a request destroys. -/
def World.Leaks (w : World) : Request → Report → Prop
  | .destroyInstance h _ => fun r =>
    (∃ d, w.domains (w.instanceId h) = some d ∧ d.Outlived .instanceLevel r) ∨
      ∃ id d, w.domains id = some d ∧ id.scope = .deviceLevel ∧ d.parent = some (w.keyOf h) ∧
        (r = .deviceLeaked d.handle ∨ d.Outlived .deviceLevel r)
  | .destroyDevice h _ => fun r =>
    ∃ d, w.domains (w.deviceId h) = some d ∧ d.Outlived .deviceLevel r
  | _ => fun _ => False

theorem Domain.Outlived.of_within {d d' : Domain} {scope : Scope} {r : Report}
    (hr : d.Outlived scope r) (hd : d.Within d') : d'.Outlived scope r := by
  obtain ⟨hkind, hlive, index, hfinding⟩ := hr
  obtain ⟨life, hlife⟩ := Option.isSome_iff_exists.mp hlive
  refine ⟨hkind, Option.isSome_iff_exists.mpr ⟨life, hd.live _ _ life hlife⟩, index, ?_⟩
  rw [hfinding, hd.handle_eq]

/-- What leaks in the lesser world leaks. -/
theorem World.Leaks.of_under {w : World} {D : Domains} {request : Request} {r : Report}
    (hr : (w.under D).Leaks request r) (hD : D.Within w.domains) : w.Leaks request r := by
  cases request with
  | destroyInstance h custom =>
    rcases hr with ⟨d, hd, hout⟩ | ⟨id, d, hd, hscope, hparent, hreport⟩
    · obtain ⟨d', hd', hwithin⟩ := hD.exists_greater hd
      exact Or.inl ⟨d', hd', hout.of_within hwithin⟩
    · obtain ⟨d', hd', hwithin⟩ := hD.exists_greater hd
      refine Or.inr ⟨id, d', hd', hscope, hwithin.parent_eq ▸ hparent, ?_⟩
      rcases hreport with hdevice | hout
      · exact Or.inl (hwithin.handle_eq ▸ hdevice)
      · exact Or.inr (hout.of_within hwithin)
  | destroyDevice h custom =>
    obtain ⟨d, hd, hout⟩ := hr
    obtain ⟨d', hd', hwithin⟩ := hD.exists_greater hd
    exact ⟨d', hd', hout.of_within hwithin⟩
  | _ => exact hr

/-! ## Which errors passages report -/

theorem Finding.severity_of_record {f : Finding} (hf : f.phase? = some .record) :
    f.severity = .information := by
  cases f <;> first | rfl | cases hf

/-- The books are changed with informations only. -/
theorem Trace.Of.calm {t : Trace} (ht : Trace.Of .record t) : t.Calm := by
  intro e he r hr herror
  have hof : e.Of .record := ht e he
  cases e with
  | report sink r' =>
    cases hr
    obtain ⟨hphase, hseverity⟩ := hof
    rw [herror, Finding.severity_of_record hphase] at hseverity
    cases hseverity
  | log entry => cases hr
  | call seen => cases hr

namespace Ledger

variable {l : Ledger} {id : ContextId} {c : Context}

/-- A leak report is about an object of the books. -/
theorem errorsIn_leakTrace (hl : l.Filed) (hc : l.context? id = some c) (code : Code) :
    (leakTrace c id.scope.ownedKinds code).ErrorsIn (c.domain.Outlived id.scope) := by
  intro e he r hr _
  obtain ⟨r', hr', rfl⟩ := List.mem_map.mp he
  cases hr
  obtain ⟨k, hk, hr⟩ := List.mem_flatMap.mp hr'
  obtain ⟨o, ho, rfl⟩ := List.mem_map.mp hr
  have hfound := ((hl.registry hc).mem_recordsOf k o).mp ho
  have hkind : o.kind = k := (hl.registry hc).kind_eq hfound
  refine ⟨?_, ?_, o.index, ?_⟩
  · show o.kind ∈ id.scope.ownedKinds
    rw [hkind]
    exact hk
  · show ((c.registry.find? o.kind o.handle).map Record.life).isSome = true
    rw [hkind, hfound]
    rfl
  · show Finding.leaked c.scope c.handle o.index = .leaked id.scope c.handle o.index
    rw [hl.scope_eq hc]

theorem errorsIn_surveyed {P : Report → Prop} {survey : Context → Survey}
    (h : ∀ c, l.context? id = some c → (survey c).trace.ErrorsIn P) :
    (l.surveyed id survey).trace.ErrorsIn P := by
  rw [surveyed]
  split
  · exact Trace.errorsIn_log _
  · rename_i c hc
    exact h c hc

theorem errorsIn_reportOwned (hl : l.Filed) (id : ContextId) (code : Code) :
    (l.reportOwned id code).trace.ErrorsIn fun r =>
      ∃ d, l.domains id = some d ∧ d.Outlived id.scope r := by
  refine errorsIn_surveyed fun c hc => ?_
  refine (errorsIn_leakTrace hl hc code).mono fun r hr => ?_
  exact ⟨c.domain, domains_of_eq_some hc, hr⟩

theorem errorsIn_reportDevices (hl : l.Filed) (key : DispatchKey) (code : Code) :
    (l.reportDevices key code).trace.ErrorsIn fun r =>
      ∃ id d, l.domains id = some d ∧ id.scope = .deviceLevel ∧ d.parent = some key ∧
        (r = .deviceLeaked d.handle ∨ d.Outlived .deviceLevel r) := by
  refine errorsIn_surveyed fun _ _ e he r hr herror => ?_
  obtain ⟨c, hmem, he⟩ := List.mem_flatMap.mp he
  obtain ⟨hc, hscope, hparent⟩ := (hl.mem_devicesOf key c).mp hmem
  refine ⟨c.id, c.domain, domains_of_eq_some hc, hscope, hparent, ?_⟩
  rcases List.mem_cons.mp he with rfl | he
  · cases hr
    exact Or.inl rfl
  · have hleaks := errorsIn_leakTrace hl hc code
    rw [show c.id.scope = .deviceLevel from hscope] at hleaks
    exact Or.inr (hleaks e he r hr herror)

end Ledger

namespace Layer

variable {l : Layer}

/-- What is torn down before a call is reported only where it leaks. -/
theorem errorsIn_prepare (hl : l.ledger.Filed) (r : Request) :
    ((r.passage l).prepare l.ledger).trace.ErrorsIn (l.world.Leaks r) := by
  cases r with
  | destroyInstance h custom =>
    show ((l.destroyInstance h custom).prepare l.ledger).trace.ErrorsIn _
    rw [destroyInstance]
    split
    · exact Trace.errorsIn_nil
    · refine Trace.ErrorsIn.append ?_ (Trace.ErrorsIn.append ?_ Trace.errorsIn_nil)
      · exact (Ledger.errorsIn_reportDevices hl (l.keyOf h) _).mono fun r hr => Or.inr hr
      · exact (Ledger.errorsIn_reportOwned hl (l.instanceId h) _).mono fun r hr => Or.inl hr
  | destroyDevice h custom =>
    show ((l.destroyDevice h custom).prepare l.ledger).trace.ErrorsIn _
    simp only [destroyDevice]
    split
    · exact Trace.errorsIn_nil
    · split
      · exact Trace.errorsIn_nil
      · refine Trace.ErrorsIn.append ?_ ?_
        · exact (Ledger.errorsIn_reportOwned hl (l.deviceId h) _).mono fun r hr => hr
        · -- the registry is emptied without a report
          have hdropped : Action.Emits .record (Ledger.dropOwned (.ofDevice (l.keyOf h)) >>=
              fun _ => Ledger.dropQueues (l.keyOf h)) :=
            (Ledger.emits_dropOwned _).bind fun _ => Ledger.emits_dropQueues _
          exact (Trace.Of.calm (hdropped _)).mono fun _ hr => hr.elim
  | resetDescriptorPool device pool =>
    have hdropped : Action.Emits .record (Ledger.dropChildren (l.keyOf device) pool .descriptorSet >>=
        fun _ => pure ()) :=
      (Ledger.emits_dropChildren _ _ _).bind fun _ => Action.emits_pure ()
    exact (Trace.Of.calm (hdropped l.ledger)).mono fun _ hr => hr.elim
  | _ => exact Trace.errorsIn_nil

/-! ## Calls without a false alarm -/

/-- The call runs exactly once, its outcome is handed back, and errors are reported only about what
leaks. -/
structure Undisturbed (l : Layer) (w : World) (c : Call) : Prop where
  calls : (l.intercept c).trace.calls.length = 1
  result_eq : (l.intercept c).result = c.outcome
  errors : (l.intercept c).trace.ErrorsIn (w.Leaks c.request)

theorem undisturbed_of_clear (hl : l.ledger.Filed) {c : Call}
    (hcheck : (c.request.passage l).check.Clear) : l.Undisturbed l.world c := by
  have hsorted := l.sorted_passage c.request
  have hrun := Passage.run_of_not_skip hcheck.skip_eq c.outcome l.ledger
  refine ⟨congrArg List.length (hsorted.calls_of_not_skip hcheck.skip_eq),
    congrArg Step.value hrun, ?_⟩
  show ((c.request.passage l).run c.outcome l.ledger).trace.ErrorsIn _
  rw [hrun]
  refine Trace.ErrorsIn.append (Trace.ErrorsIn.append ?_ (errorsIn_prepare hl c.request)) ?_
  · exact hcheck.calm.mono fun _ hr => hr.elim
  · -- the call itself is no report, and the books report informations
    intro e he r hr herror
    rcases List.mem_cons.mp he with rfl | he
    · cases hr
    · exact ((hsorted.record c.outcome _).calm e he r hr herror).elim

theorem Undisturbed.of_under {w : World} {D : Domains} {c : Call}
    (hc : l.Undisturbed (w.under D) c) (hD : D.Within w.domains) : l.Undisturbed w c :=
  ⟨hc.calls, hc.result_eq, hc.errors.mono fun _ hr => hr.of_under hD⟩

/-- A call that runs was not skipped. -/
theorem Undisturbed.not_skip {w : World} {c : Call} (hc : l.Undisturbed w c) :
    (c.request.passage l).check.skip = false := by
  rw [Bool.eq_false_iff]
  intro hskip
  have hcalls : (l.intercept c).trace.calls = [] := by
    show ((c.request.passage l).run c.outcome l.ledger).trace.calls = []
    rw [Passage.run_of_skip hskip]
    exact (l.sorted_passage c.request).check.calls_eq_nil
  have hone := hc.calls
  rw [hcalls] at hone
  cases hone

/-! ## Books that lack descriptor sets -/

/-- The books say what is alive but for some descriptor sets. -/
structure Shadows (l : Layer) (w : World) : Prop where
  world_eq : l.world = w.under l.ledger.domains
  within : l.ledger.domains.Within w.domains
  filed : l.ledger.Filed
  sound : w.Sound

namespace Shadows

variable {w : World}

theorem world_sound (hl : l.Shadows w) : l.world.Sound := by
  rw [hl.world_eq]
  exact hl.within.sound hl.sound

theorem liveDevice (hl : l.Shadows w) {device : Handle} (hd : w.LiveDevice device) :
    l.world.LiveDevice device := by
  rw [hl.world_eq]
  exact hd.under hl.within

/-- The books of a live device are open, and its sink refuses errors. -/
theorem exists_context (hl : l.Shadows w) {device : Handle} (hd : w.LiveDevice device) :
    ∃ c, l.ledger.context? (l.deviceId device) = some c ∧ c.sink.Strict := by
  obtain ⟨⟨d, hdomain, -⟩, -⟩ := hl.liveDevice hd
  obtain ⟨c, hc, rfl⟩ := Ledger.domains_eq_some_iff.mp hdomain
  exact ⟨c, hc, Sink.strict_of_memory (hl.world_sound _ _ hdomain).sink⟩

theorem clear_destroyDeviceChild (hl : l.Shadows w) {device h : Handle} {kind : Kind}
    {custom : Bool} {codes : DestroyCodes}
    (hr : Request.Permitted w (.destroyDeviceChild device h kind custom codes) ())
    (hfinds : Request.Finds l.world (.destroyDeviceChild device h kind custom codes)) :
    (l.destroyFrom .deviceLevel device h kind custom codes).check.Clear := by
  obtain ⟨hdevice, ⟨hchild, -⟩, -, hcreated⟩ := hr
  have hkind : kind ≠ .device := ne_of_mem_of_not_mem hchild (by decide)
  have howner : l.world.LiveOwner .deviceLevel device := hl.liveDevice hdevice
  have hsame : l.world.CreatedWith (l.world.deviceId device) kind h custom := by
    rw [hl.world_eq]
    exact hcreated.under hl.within
  refine clear_destroyFrom hl.filed hl.world_sound howner ?_ hsame
  rcases hfinds with hlive | ⟨hparent, helsewhere⟩
  · exact clear_nullable hkind hlive _ _
  · exact clear_elsewhere hkind hparent ((knownElsewhere_iff hl.filed device kind h).mpr helsewhere)

/-- A well-behaved call that finds what it frees passes its check. -/
theorem clear (hl : l.Shadows w) {r : Request} {outcome : r.shape.Outcome}
    (hr : r.Permitted w outcome) (hfinds : r.Finds l.world) : (r.passage l).check.Clear := by
  -- an object of another device may do for this call, although the call is not well behaved then
  by_cases hchild :
      ∃ device h kind custom codes, r = .destroyDeviceChild device h kind custom codes
  · obtain ⟨device, h, kind, custom, codes, rfl⟩ := hchild
    exact hl.clear_destroyDeviceChild hr hfinds
  · have hpermitted : r.Permitted l.world (r.deemed outcome) := by
      rw [hl.world_eq] at hfinds ⊢
      refine hr.under hl.within hfinds fun device h kind custom codes heq => ?_
      exact hchild ⟨device, h, kind, custom, codes, heq⟩
    exact clear_passage hl.filed hl.world_sound hpermitted

theorem finds_freeDescriptorSets (hl : l.Shadows w) {device pool : Handle} {hs : List Handle}
    (hd : w.LiveDevice device)
    (hskip : (l.freeDescriptorSets device pool hs).check.skip = false) :
    Request.Finds l.world (.freeDescriptorSets device pool hs) := by
  obtain ⟨c, hc, hstrict⟩ := hl.exists_context hd
  intro h hmem
  by_cases hnull : h = nullHandle
  · exact Or.inl hnull
  · have hfreed : h ∈ nonNull hs := List.mem_filter.mpr ⟨hmem, bne_iff_ne.mpr hnull⟩
    -- a set that the books do not know would have been refused
    have hall := (Check.skip_append_eq_false.mp hskip).2
    rw [Check.skip_all, List.any_eq_false] at hall
    have hpass := Bool.eq_false_iff.mpr (hall _ (List.mem_map_of_mem hfreed))
    obtain ⟨e, he⟩ := Ledger.found_of_checkPoolChild hpass hc hstrict
    refine Or.inr (live_iff_tracks.mpr ⟨c, hc, (Registry.tracks_iff _ _ _).mpr (Or.inl ?_)⟩)
    exact Option.isSome_iff_exists.mpr ⟨e, he⟩

theorem finds_destroyDeviceChild (hl : l.Shadows w) {device h : Handle} {kind : Kind}
    {custom : Bool} {codes : DestroyCodes} (hd : w.LiveDevice device)
    (hchild : kind ∈ Kind.deviceChildren)
    (hskip : (l.destroyFrom .deviceLevel device h kind custom codes).check.skip = false) :
    Request.Finds l.world (.destroyDeviceChild device h kind custom codes) := by
  obtain ⟨c, hc, hstrict⟩ := hl.exists_context hd
  have harguments := (Check.skip_append_eq_false.mp hskip).1
  have hpass := Ledger.skip_of_mem_checkArguments harguments
    (List.mem_cons_of_mem _ (List.mem_singleton_self _))
  have hdevice : kind ≠ .device := ne_of_mem_of_not_mem hchild (by decide)
  have hsurface : kind ≠ .surface := ne_of_mem_of_not_mem hchild (by decide)
  rcases Ledger.found_of_checkArgument hpass hc hstrict hdevice hsurface with
    ⟨-, hnull⟩ | htracks | ⟨hparent, helsewhere⟩
  · exact Or.inl (Or.inl hnull)
  · exact Or.inl (Or.inr (live_iff_tracks.mpr ⟨c, hc, htracks⟩))
  · exact Or.inr ⟨hparent, (knownElsewhere_iff hl.filed device kind h).mp helsewhere⟩

/-- A call that passes its check finds what it frees. -/
theorem finds (hl : l.Shadows w) {r : Request} {outcome : r.shape.Outcome}
    (hr : r.Permitted w outcome) (hskip : (r.passage l).check.skip = false) : r.Finds l.world := by
  cases r with
  | freeDescriptorSets device pool hs => exact hl.finds_freeDescriptorSets hr.1 hskip
  | destroyDeviceChild device h kind custom codes =>
    exact hl.finds_destroyDeviceChild hr.1 hr.2.1.1 hskip
  | _ => trivial

/-- A well-behaved call is undisturbed exactly if it finds what it frees. -/
theorem undisturbed_iff (hl : l.Shadows w) {c : Call} (hc : c.request.Permitted w c.outcome) :
    l.Undisturbed w c ↔ c.request.Finds l.world := by
  constructor
  · exact fun h => hl.finds hc h.not_skip
  · intro hfinds
    -- what leaks according to the books leaks in the greater world
    have hlocal := undisturbed_of_clear hl.filed (hl.clear hc hfinds)
    rw [hl.world_eq] at hlocal
    exact hlocal.of_under hl.within

/-- The books follow a well-behaved call that finds what it frees. -/
theorem take_call (hl : l.Shadows w) {c : Call} (hc : c.request.Permitted w c.outcome)
    (hfinds : c.request.Finds l.world) :
    (l.take (.call c)).Shadows (w.after (.call c)) ∧
      (l.take (.call c)).world = l.world.after (Turn.call c).deemed := by
  have hworld := world_intercept hl.filed (hl.clear hc hfinds).skip_eq
  have hdomains : (l.take (.call c)).ledger.domains =
      c.request.effect (w.under l.ledger.domains) (c.request.deemed c.outcome) := by
    rw [← hl.world_eq]
    exact congrArg World.domains hworld
  refine ⟨⟨?_, ?_, filed_take hl.filed _, hl.sound.after hc⟩, hworld⟩
  · rw [hworld, hl.world_eq, hdomains]
    rfl
  · rw [hdomains]
    exact hl.within.effect hc

theorem take_bind (hl : l.Shadows w) (pairs : List (Handle × DispatchKey)) :
    (l.take (.bind pairs)).Shadows (w.after (.bind pairs)) where
  world_eq := congrArg (fun v : World => v.after (.bind pairs)) hl.world_eq
  within := hl.within
  filed := hl.filed
  sound := hl.sound

end Shadows

end Layer

/-! ## Runs -/

/-- A call of the run finds what it frees. -/
def Turn.Finds (w : World) : Turn → Prop
  | .bind _ => True
  | .call c => c.request.Finds w

/-- Every call of a run finds what it frees, where every reset is taken to succeed. -/
def World.Finds : World → List Turn → Prop
  | _, [] => True
  | w, t :: ts => t.Finds w ∧ Finds (w.after t.deemed) ts

namespace Layer

/-- The turn raises no false alarm. -/
def QuietAt (l : Layer) (w : World) : Turn → Prop
  | .bind _ => True
  | .call c => l.Undisturbed w c

/-- No turn of a run raises a false alarm. -/
def Quiet : Layer → World → List Turn → Prop
  | _, _, [] => True
  | l, w, t :: ts => l.QuietAt w t ∧ Quiet (l.take t) (w.after t) ts

variable {l : Layer} {w : World}

theorem Shadows.quietAt_iff (hl : l.Shadows w) {t : Turn} (ht : w.Permits t) :
    l.QuietAt w t ↔ t.Finds l.world := by
  cases t with
  | bind pairs => exact Iff.rfl
  | call c => exact hl.undisturbed_iff ht

theorem Shadows.take (hl : l.Shadows w) {t : Turn} (ht : w.Permits t) (hfinds : t.Finds l.world) :
    (l.take t).Shadows (w.after t) ∧ (l.take t).world = l.world.after t.deemed := by
  cases t with
  | bind pairs => exact ⟨hl.take_bind pairs, rfl⟩
  | call c => exact hl.take_call ht hfinds

/-- A well-behaved run raises no false alarm exactly if its calls find what they free. -/
theorem Shadows.quiet_iff {ts : List Turn} (hl : l.Shadows w) (hts : w.WellBehaved ts) :
    l.Quiet w ts ↔ l.world.Finds ts := by
  induction ts generalizing l w with
  | nil => exact Iff.rfl
  | cons t ts ih =>
    -- the books follow the world only past an undisturbed turn, so the turn is settled first
    obtain ⟨ht, hts⟩ := hts
    rw [Quiet, World.Finds, hl.quietAt_iff ht]
    refine and_congr_right fun hfinds => ?_
    obtain ⟨hnext, hworld⟩ := hl.take ht hfinds
    rw [ih hnext hts, hworld]

/-- Before the first call nothing is alive and the books are empty. -/
theorem shadows_ofConfig (config : Config) :
    (ofConfig config).Shadows (World.initial (ofConfig config).defaultSink) where
  world_eq := rfl
  within := Domains.Within.refl _
  filed := Ledger.every_empty _
  sound := by
    intro id d hd
    cases hd

end Layer

/-- A well-behaved run whose resets succeed finds what it frees. -/
theorem World.WellBehaved.finds {w : World} {ts : List Turn} (hts : w.WellBehaved ts)
    (hresets : ∀ t ∈ ts, t.deemed = t) : w.Finds ts := by
  induction ts generalizing w with
  | nil => trivial
  | cons t ts ih =>
    obtain ⟨ht, hts⟩ := hts
    have hself : t.deemed = t := hresets t (List.mem_cons_self ..)
    constructor
    · cases t with
      | bind pairs => trivial
      | call c => exact Request.Permitted.finds ht
    · rw [hself]
      exact ih hts fun u hu => hresets u (List.mem_cons_of_mem _ hu)

namespace Layer

/-- A well-behaved run raises no false alarm exactly if each of its calls finds the sets that it
frees or destroys, where every reset is taken to succeed. So it raises none if all resets do. -/
theorem quiet_iff_finds (config : Config) {ts : List Turn}
    (hts : (World.initial (ofConfig config).defaultSink).WellBehaved ts) :
    ((ofConfig config).Quiet (World.initial (ofConfig config).defaultSink) ts ↔
      (World.initial (ofConfig config).defaultSink).Finds ts) ∧
    ((∀ t ∈ ts, t.deemed = t) →
      (ofConfig config).Quiet (World.initial (ofConfig config).defaultSink) ts) := by
  have hiff := (shadows_ofConfig config).quiet_iff hts
  exact ⟨hiff, fun hresets => hiff.mpr (hts.finds hresets)⟩

/-- A descriptor set is allocated, the reset of its pool fails, and the set is freed. -/
def failedReset : List Turn :=
  [.bind [(1, 10), (2, 10), (3, 20)],
    .call ⟨.createInstance false (some ⟨some 1, .memory⟩), .ok 1⟩,
    .call ⟨.enumeratePhysicalDevices 1, .ok [2]⟩,
    .call ⟨.createDevice 2 [] false, .ok 3⟩,
    .call ⟨.createDeviceChild 3 .descriptorSetLayout
      "VUID-vkCreateDescriptorSetLayout-device-parameter" false, .ok 4⟩,
    .call ⟨.create .descriptorPool 3 false, .ok 5⟩,
    .call ⟨.allocateDescriptorSets 3 5 [4], .ok [6]⟩,
    .call ⟨.resetDescriptorPool 3 5, .error (-2)⟩,
    .call ⟨.freeDescriptorSets 3 5 [6], .ok ()⟩]

theorem wellBehaved_failedReset (fallback : Sink) :
    (World.initial fallback).WellBehaved failedReset := by
  refine ⟨trivial, ?creation, ?enumeration, ?device, ?layout, ?pool, ?sets, ?reset, ?free, trivial⟩
  case creation =>
    refine ⟨⟨_, rfl, rfl⟩, ?_⟩
    rintro h ⟨⟩
    exact ⟨by decide, rfl⟩
  case enumeration =>
    refine ⟨⟨⟨_, rfl, rfl⟩, ⟨_, rfl, Or.inl rfl⟩⟩, ?_⟩
    rintro hs ⟨⟩ h hh
    rw [List.mem_singleton.mp hh]
    exact ⟨by decide, rfl⟩
  case device =>
    refine ⟨⟨_, rfl, Or.inl rfl⟩, ?_⟩
    rintro h ⟨⟩
    refine ⟨⟨by decide, ?_⟩, rfl⟩
    rintro d ⟨⟩
    rfl
  case layout =>
    refine ⟨⟨⟨_, rfl, rfl⟩, _, rfl, ⟨_, rfl, Or.inl rfl⟩⟩, by decide, ?_⟩
    rintro h ⟨⟩
    refine ⟨by decide, ?_⟩
    rintro d ⟨⟩
    rfl
  case pool =>
    refine ⟨⟨⟨_, rfl, rfl⟩, _, rfl, ⟨_, rfl, Or.inl rfl⟩⟩, trivial, ?_⟩
    rintro h ⟨⟩
    refine ⟨by decide, ?_⟩
    rintro d ⟨⟩
    rfl
  case sets =>
    refine ⟨⟨⟨_, rfl, rfl⟩, _, rfl, ⟨_, rfl, Or.inl rfl⟩⟩, ⟨_, rfl, Or.inl rfl⟩, ?_, ?_⟩
    · intro h hh
      rw [List.mem_singleton.mp hh]
      exact ⟨_, rfl, Or.inl rfl⟩
    · rintro hs ⟨⟩ h hh
      rw [List.mem_singleton.mp hh]
      refine ⟨by decide, ?_⟩
      rintro d ⟨⟩
      rfl
  case reset =>
    exact ⟨⟨⟨_, rfl, rfl⟩, _, rfl, ⟨_, rfl, Or.inl rfl⟩⟩, ⟨_, rfl, Or.inl rfl⟩⟩
  case free =>
    refine ⟨⟨⟨_, rfl, rfl⟩, _, rfl, ⟨_, rfl, Or.inl rfl⟩⟩, ⟨_, rfl, Or.inl rfl⟩, ?_⟩
    intro h hh
    rw [List.mem_singleton.mp hh]
    exact Or.inr ⟨_, _, rfl, rfl, rfl⟩

theorem not_finds_failedReset (fallback : Sink) : ¬(World.initial fallback).Finds failedReset := by
  rintro ⟨-, -, -, -, -, -, -, -, hfree, -⟩
  rcases hfree 6 (List.mem_singleton_self _) with hnull | ⟨d, hd, hlive⟩
  · exact absurd hnull (by decide)
  · cases hd
    -- the set went with the reset that was taken to succeed
    rcases hlive with hlive | ⟨hkind, -⟩
    · cases hlive
    · cases hkind

/-- The set outlives the reset that failed, and its freeing is taken for that of an unknown set. -/
theorem false_alarm_of_failedReset :
    (World.initial (ofConfig ⟨.default⟩).defaultSink).WellBehaved failedReset ∧
      ¬(ofConfig ⟨.default⟩).Quiet (World.initial (ofConfig ⟨.default⟩).defaultSink)
        failedReset := by
  have hwell := wellBehaved_failedReset (ofConfig ⟨.default⟩).defaultSink
  refine ⟨hwell, fun hquiet => ?_⟩
  exact not_finds_failedReset _ ((quiet_iff_finds ⟨.default⟩ hwell).1.mp hquiet)

end Layer

end HandleLedger
