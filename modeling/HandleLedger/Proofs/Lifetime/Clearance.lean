import HandleLedger.Proofs.Ledger.Classification
import HandleLedger.Proofs.Lifetime.Mirror

/-!
# Well-behaved calls pass their checks

If the books mirror what is alive, a well-behaved call is let through and no error is reported
before it (`Layer.clear_passage`). Each kind of check has its lemma: an argument that is alive is
found in the books, a destroyed object was created the same way, a freed object belongs to its
pool, and a queue is capable of sparse binding.
-/

set_option autoImplicit false

namespace HandleLedger

/-! ## Checks that find no error -/

/-- Errors are reported only if they satisfy the predicate. -/
def Trace.ErrorsIn (P : Report → Prop) (t : Trace) : Prop :=
  ∀ e ∈ t, ∀ r, e.report? = some r → r.severity = .error → P r

/-- No error is reported. -/
abbrev Trace.Calm (t : Trace) : Prop := t.ErrorsIn fun _ => False

namespace Trace

variable {P Q : Report → Prop} {t u : Trace}

theorem errorsIn_nil : ErrorsIn P [] := fun _ he => absurd he List.not_mem_nil

theorem ErrorsIn.append (ht : ErrorsIn P t) (hu : ErrorsIn P u) : ErrorsIn P (t ++ u) := by
  intro e he
  rcases List.mem_append.mp he with he | he
  · exact ht e he
  · exact hu e he

theorem ErrorsIn.mono (ht : ErrorsIn P t) (h : ∀ r, P r → Q r) : ErrorsIn Q t :=
  fun e he r hr herror => h r (ht e he r hr herror)

theorem errorsIn_log (entry : Log) : ErrorsIn P [.log entry] := by
  intro e he r hr
  rw [List.mem_singleton.mp he] at hr
  cases hr

theorem errorsIn_report (sink : Sink) {r : Report} (hr : r.severity = .error → P r) :
    ErrorsIn P [.report sink r] := by
  intro e he r' hr'
  rw [List.mem_singleton.mp he] at hr'
  cases hr'
  exact hr

end Trace

/-- The check reports no error and lets the call through. -/
structure Check.Clear (c : Check) : Prop where
  skip_eq : c.skip = false
  calm : c.trace.Calm

namespace Check

variable {c d : Check}

theorem clear_pass : pass.Clear := ⟨rfl, Trace.errorsIn_nil⟩

theorem clear_note (entry : Log) : (note entry).Clear := ⟨rfl, Trace.errorsIn_log entry⟩

/-- A memory sink refuses nothing but errors. -/
theorem clear_ask {sink : Sink} (hsink : sink.policy = .memory) {r : Report}
    (hr : r.severity ≠ .error) : (ask sink r).Clear := by
  constructor
  · show sink.verdict r = false
    rw [Sink.verdict, hsink]
    exact beq_eq_false_iff_ne.mpr hr
  · exact Trace.errorsIn_report sink hr

theorem Clear.append (hc : c.Clear) (hd : d.Clear) : (c ++ d).Clear :=
  ⟨skip_append_eq_false.mpr ⟨hc.skip_eq, hd.skip_eq⟩, hc.calm.append hd.calm⟩

theorem clear_all {cs : List Check} (h : ∀ c ∈ cs, c.Clear) : (all cs).Clear := by
  induction cs with
  | nil => exact clear_pass
  | cons c cs ih =>
    rw [all_cons]
    refine (h c (List.mem_cons_self ..)).append (ih fun d hd => ?_)
    exact h d (List.mem_cons_of_mem _ hd)

theorem Clear.andThen (hc : c.Clear) (hd : d.Clear) : (c.andThen d).Clear := by
  rw [Check.andThen, if_neg (Bool.eq_false_iff.mp hc.skip_eq)]
  exact hc.append hd

end Check

namespace Ledger

variable {l : Ledger} {id : ContextId}

theorem clear_within {check : Context → Check}
    (h : ∀ c, l.context? id = some c → (check c).Clear) : (l.within id check).Clear := by
  cases hc : l.context? id with
  | none =>
    rw [within_of_eq_none hc]
    exact Check.clear_note _
  | some c =>
    rw [within_of_eq_some hc]
    exact h c hc

theorem clear_checkArguments {as : List Argument} (h : ∀ a ∈ as, (l.checkArgument id a).Clear) :
    (l.checkArguments id as).Clear :=
  Check.clear_all (List.forall_mem_map.mpr h)

end Ledger

/-! ## What is alive is found -/

namespace Layer

variable {l : Layer} {id : ContextId} {k : Kind} {h : Handle}

theorem live_iff_tracks :
    l.world.Live id k h ↔ ∃ c, l.ledger.context? id = some c ∧ c.registry.tracks k h = true := by
  have hregistry (c : Context) :
      ((c.domain.live k h).isSome ∨ k = .image ∧ (c.domain.images h).isSome) ↔
        c.registry.tracks k h = true := by
    rw [Registry.tracks_iff, Registry.Holds, Context.domain, Option.isSome_map, Option.isSome_map]
  constructor
  · rintro ⟨d, hd, hlive⟩
    obtain ⟨c, hc, rfl⟩ := Ledger.domains_eq_some_iff.mp hd
    exact ⟨c, hc, (hregistry c).mp hlive⟩
  · rintro ⟨c, hc, htracks⟩
    exact ⟨c.domain, Ledger.domains_of_eq_some hc, (hregistry c).mpr htracks⟩

/-- A device is looked for in all instances. -/
theorem knowsDevice_of_live (hl : l.ledger.Filed) (hd : l.world.LiveDevice h) :
    l.ledger.knowsDevice h = true := by
  obtain ⟨-, id, hid, hlive⟩ := hd
  obtain ⟨key, -, rfl⟩ := Option.map_eq_some_iff.mp hid
  obtain ⟨c, hc, htracks⟩ := live_iff_tracks.mp hlive
  -- a device is no image, so it has a record
  have hcontains : c.registry.contains .device h = true := by
    rcases (Registry.tracks_iff c.registry .device h).mp htracks with hfound | ⟨himage, -⟩
    · exact hfound
    · cases himage
  exact (Ledger.knowsDevice_iff hl h).mpr ⟨key, c, hc, hcontains⟩

/-! ### Arguments -/

theorem clear_device (hl : l.ledger.Filed) {a : Argument} (hkind : a.kind = .device)
    (ha : l.world.LiveDevice a.handle) (id : ContextId) :
    (l.ledger.checkArgument id a).Clear := by
  rw [Ledger.checkArgument]
  split
  · exact Check.clear_pass
  · rw [Ledger.checkDevice, if_pos (knowsDevice_of_live hl ha)]
    exact Check.clear_pass

theorem clear_required (hkind : k ≠ .device) (hh : l.world.Live id k h) (invalid : Code)
    (wrong : Option Code) : (l.ledger.checkArgument id (.required k h invalid wrong)).Clear := by
  obtain ⟨c, hc, htracks⟩ := live_iff_tracks.mp hh
  rw [Ledger.checkArgument_of_tracks hc hkind htracks]
  exact Check.clear_pass

theorem clear_nullable (hkind : k ≠ .device) (hh : l.world.LiveOrNull id k h) (invalid : Code)
    (wrong : Option Code) : (l.ledger.checkArgument id (.nullable k h invalid wrong)).Clear := by
  rcases hh with rfl | hlive
  · rw [Ledger.checkArgument, if_pos ⟨rfl, rfl⟩]
    exact Check.clear_pass
  · obtain ⟨c, hc, htracks⟩ := live_iff_tracks.mp hlive
    rw [Ledger.checkArgument_of_tracks hc hkind htracks]
    exact Check.clear_pass

/-- The other devices are searched for an object that its own device does not know. -/
theorem knownElsewhere_iff (hl : l.ledger.Filed) (device : Handle) (k : Kind) (h : Handle) :
    l.ledger.knownElsewhere (l.deviceId device) k h = true ↔
      ∃ key, key ≠ l.keyOf device ∧ l.world.Live (.ofDevice key) k h := by
  rw [Ledger.knownElsewhere_iff hl]
  constructor
  · rintro ⟨key, c, hne, hc, hholds⟩
    have htracks := (c.registry.tracks_iff k h).mpr hholds
    exact ⟨key, fun hkey => hne (hkey ▸ rfl), live_iff_tracks.mpr ⟨c, hc, htracks⟩⟩
  · rintro ⟨key, hkey, hlive⟩
    obtain ⟨c, hc, htracks⟩ := live_iff_tracks.mp hlive
    have hne : .ofDevice key ≠ l.deviceId device := fun heq => hkey (congrArg ContextId.key heq)
    exact ⟨key, c, hne, hc, (c.registry.tracks_iff k h).mp htracks⟩

/-- An object of another device passes if the call has no rule about that. -/
theorem clear_elsewhere {a : Argument} (hkind : a.kind ≠ .device) (hwrong : a.wrongDevice = none)
    (ha : l.ledger.knownElsewhere id a.kind a.handle = true) :
    (l.ledger.checkArgument id a).Clear := by
  rw [Ledger.checkArgument]
  split
  · exact Check.clear_pass
  · refine Ledger.clear_within fun c _ => ?_
    split
    · exact Check.clear_pass
    · rw [hwrong]
      exact Check.clear_pass

/-- An owner passes the check of its own kind. -/
theorem clear_owner (hl : l.ledger.Filed) {scope : Scope} {owner : Handle}
    (ho : l.world.LiveOwner scope owner) (code : Code) :
    (l.ledger.checkArgument (l.ownerId scope owner)
      (.required scope.ownerKind owner code none)).Clear := by
  cases scope with
  | instanceLevel => exact clear_required (by decide) ho.2 _ _
  | deviceLevel =>
    refine clear_device hl rfl ?_ _
    exact ho

/-! ### Destruction, freeing and sparse binding -/

theorem clear_checkDestroy (hw : l.world.Sound) {custom : Bool}
    (hc : l.world.CreatedWith id k h custom) (customCode defaultCode : Option Code) :
    (l.ledger.checkDestroy id k h custom customCode defaultCode).Clear := by
  rw [Ledger.checkDestroy]
  split
  · exact Check.clear_pass
  · refine Ledger.clear_within fun c hid => ?_
    have hdomain := Ledger.domains_of_eq_some hid
    have hsink : c.sink.policy = .memory := (hw id c.domain hdomain).sink
    cases he : c.registry.find? k h with
    | none => exact Check.clear_pass
    | some e =>
      have hlive : c.domain.live k h = some e.life := congrArg (Option.map Record.life) he
      have hcustom : e.custom = custom := hc c.domain e.life hdomain hlive
      have hnone : Ledger.allocatorFinding e.custom custom customCode defaultCode = none := by
        rw [hcustom]
        cases custom <;> rfl
      simp only [hnone]
      -- what is left is the announcement, which is no error
      refine (Check.clear_ask hsink ?_).append Check.clear_pass
      intro hseverity
      cases hseverity

/-- A handle that is freed to its own pool passes. -/
theorem clear_checkPoolChild {device : DispatchKey} {pool : Handle} {hs : List Handle}
    (hs_of_pool : l.world.CameFrom (.ofDevice device) k pool hs) (hh : h ∈ nonNull hs)
    (invalid foreign : Code) : (l.ledger.checkPoolChild device k pool h invalid foreign).Clear := by
  obtain ⟨hmem, hne⟩ := List.mem_filter.mp hh
  rcases hs_of_pool h hmem with hnull | ⟨d, life, hd, hlive, horigin⟩
  · -- null handles are not checked
    exact absurd hnull (bne_iff_ne.mp hne)
  · obtain ⟨c, hc, rfl⟩ := Ledger.domains_eq_some_iff.mp hd
    obtain ⟨e, he, rfl⟩ := Option.map_eq_some_iff.mp hlive
    have hparent : e.parent = pool := horigin
    rw [Ledger.checkPoolChild, Ledger.within_of_eq_some hc]
    simp only [he, hparent, if_true]
    exact Check.clear_pass

theorem clear_checkSparse {queue : Handle} (hq : l.world.Sparse queue) (call : String) :
    (l.ledger.checkSparse (l.keyOf queue) queue call).Clear := by
  refine Ledger.clear_within fun c hc => ?_
  cases hflags : Ledger.queueFlags? c queue with
  | none => exact Check.clear_pass
  | some flags =>
    obtain ⟨family, hfamily, hcapable⟩ := Option.bind_eq_some_iff.mp hflags
    have hsparse := hq c.domain family flags (Ledger.domains_of_eq_some hc) hfamily hcapable
    simp only [hsparse, if_true]
    exact Check.clear_pass

/-! ## Passages -/

theorem clear_destroyInstance (hw : l.world.Sound) {custom : Bool}
    (hr : Request.Permitted l.world (.destroyInstance h custom) ()) :
    (l.destroyInstance h custom).check.Clear := by
  rw [destroyInstance]
  split
  · exact Check.clear_pass
  · rename_i hne
    rcases hr with hnull | ⟨⟨-, hlive⟩, hcreated⟩
    · exact absurd hnull hne
    · refine Check.Clear.append ?_ (clear_checkDestroy hw hcreated _ _)
      exact clear_nullable (by decide) (Or.inr hlive) _ _

theorem clear_destroyDevice (hl : l.ledger.Filed) (hw : l.world.Sound) {custom : Bool}
    (hr : Request.Permitted l.world (.destroyDevice h custom) ()) :
    (l.destroyDevice h custom).check.Clear := by
  simp only [destroyDevice]
  split
  · exact Check.clear_pass
  · rename_i hne
    rcases hr with hnull | ⟨hlive, hcreated⟩
    · exact absurd hnull hne
    · split
      · exact Check.clear_note _
      · rename_i instanceKey hinstance
        -- the object that goes is looked up in the instance, the device itself in all instances
        have hid : l.world.instanceOf h = some (.ofInstance instanceKey) := by
          rw [world_instanceOf, hinstance]
          rfl
        refine Check.Clear.append ?_ (clear_checkDestroy hw (hcreated _ hid) _ _)
        exact clear_device hl rfl hlive _

theorem clear_destroyFrom (hl : l.ledger.Filed) (hw : l.world.Sound) {scope : Scope}
    {owner : Handle} (ho : l.world.LiveOwner scope owner) {custom : Bool} {codes : DestroyCodes}
    (hh : (l.ledger.checkArgument (l.ownerId scope owner)
      (.nullable k h codes.object codes.parent)).Clear)
    (hcreated : l.world.CreatedWith (l.ownerId scope owner) k h custom) :
    (l.destroyFrom scope owner h k custom codes).check.Clear := by
  refine Check.Clear.append ?_ (clear_checkDestroy hw hcreated _ _)
  refine Ledger.clear_checkArguments (List.forall_mem_cons.mpr ⟨clear_owner hl ho _, ?_⟩)
  exact List.forall_mem_singleton.mpr hh

/-- The further handles of a creation pass. -/
theorem clear_creationCheck {owner : Handle} {what : Creation} (hr : l.world.Ready owner what) :
    (l.creationCheck owner what).Clear := by
  cases what with
  | imageView image => exact clear_required (by decide) hr _ _
  | swapchain surface old =>
    obtain ⟨hsurface, hold⟩ := hr
    refine Check.Clear.append ?_ (clear_nullable (by decide) hold _ _)
    split
    · exact Check.clear_pass
    · rename_i instanceKey hinstance
      have hid : l.world.instanceOf owner = some (.ofInstance instanceKey) := by
        rw [world_instanceOf, hinstance]
        rfl
      exact clear_required (by decide) (hsurface _ hid) _ _
  | _ => exact Check.clear_pass

/-- A device and a live object of it pass. -/
theorem clear_deviceAnd (hl : l.ledger.Filed) {device : Handle}
    (hd : l.world.LiveDevice device) (hkind : k ≠ .device)
    (hh : l.world.Live (l.deviceId device) k h) (code invalid : Code) (wrong : Option Code) :
    ∀ a ∈ [Argument.required .device device code none, .required k h invalid wrong],
      (l.ledger.checkArgument (l.deviceId device) a).Clear := by
  refine List.forall_mem_cons.mpr ⟨clear_device hl rfl hd _, ?_⟩
  exact List.forall_mem_singleton.mpr (clear_required hkind hh _ _)

theorem clear_allocateDescriptorSets (hl : l.ledger.Filed) {device pool : Handle}
    {layouts : List Handle} (hdevice : l.world.LiveDevice device)
    (hpool : l.world.Live (l.deviceId device) .descriptorPool pool)
    (hlayouts : ∀ h ∈ layouts, l.world.Live (l.deviceId device) .descriptorSetLayout h) :
    (l.allocateDescriptorSets device pool layouts).check.Clear := by
  refine Ledger.clear_checkArguments (List.forall_mem_append.mpr ⟨?_, ?_⟩)
  · exact clear_deviceAnd hl hdevice (by decide) hpool _ _ _
  · exact List.forall_mem_map.mpr fun o ho => clear_required (by decide) (hlayouts o ho) _ _

/-- A queue passes, and a fence that may be null. -/
theorem clear_queueAndFence {queue fence : Handle} (hq : l.world.Live id .queue queue)
    (hf : l.world.LiveOrNull id .fence fence) (code code' : Code) (wrong wrong' : Option Code) :
    ∀ a ∈ [Argument.required .queue queue code wrong, .nullable .fence fence code' wrong'],
      (l.ledger.checkArgument id a).Clear := by
  refine List.forall_mem_cons.mpr ⟨clear_required (by decide) hq _ _, ?_⟩
  exact List.forall_mem_singleton.mpr (clear_nullable (by decide) hf _ _)

theorem clear_batch {s : Submit} (hs : l.world.LiveBatch id s) :
    ∀ a ∈ s.arguments, (l.ledger.checkArgument id a).Clear := by
  obtain ⟨hwait, hcommands, hsignal⟩ := hs
  refine List.forall_mem_append.mpr ⟨List.forall_mem_append.mpr ⟨?_, ?_⟩, ?_⟩
  · exact List.forall_mem_map.mpr fun o ho => clear_required (by decide) (hwait o ho) _ _
  · exact List.forall_mem_map.mpr fun o ho => clear_required (by decide) (hcommands o ho) _ _
  · exact List.forall_mem_map.mpr fun o ho => clear_required (by decide) (hsignal o ho) _ _

theorem clear_queueSubmit {queue fence : Handle} {submits : List Submit}
    (hq : l.world.Live (l.deviceId queue) .queue queue)
    (hf : l.world.LiveOrNull (l.deviceId queue) .fence fence)
    (hs : ∀ s ∈ submits, l.world.LiveBatch (l.deviceId queue) s) :
    (l.queueSubmit queue fence submits).check.Clear := by
  refine Ledger.clear_checkArguments (List.forall_mem_append.mpr ⟨?_, fun a ha => ?_⟩)
  · exact clear_queueAndFence hq hf _ _ _ _
  · obtain ⟨s, hmem, ha⟩ := List.mem_flatMap.mp ha
    exact clear_batch (hs s hmem) a ha

/-- What a secondary command buffer inherits passes. Of a primary one it is not looked at. -/
theorem clear_beginCommandBuffer {buffer : Handle} {inheritance : Option Inheritance}
    (hb : l.world.Live (l.deviceId buffer) .commandBuffer buffer)
    (hi : ∀ i, inheritance = some i →
      l.world.LiveOrNull (l.deviceId buffer) .framebuffer i.framebuffer ∧
        l.world.LiveOrNull (l.deviceId buffer) .renderPass i.renderPass) :
    (l.beginCommandBuffer buffer inheritance).check.Clear := by
  refine Ledger.clear_checkArguments (List.forall_mem_cons.mpr ⟨?_, ?_⟩)
  · exact clear_required (by decide) hb _ _
  · unfold inherited
    split
    · rename_i i _
      obtain ⟨hframebuffer, hrenderPass⟩ := hi i rfl
      refine List.forall_mem_cons.mpr ⟨clear_nullable (by decide) hframebuffer _ _, ?_⟩
      exact List.forall_mem_singleton.mpr (clear_nullable (by decide) hrenderPass _ _)
    · exact fun a ha => absurd ha List.not_mem_nil

/-- A pool passes, and the handles that came from it. -/
theorem clear_free {device : Handle} {poolKind : Kind} {pool : Handle} {hs : List Handle}
    (hkind : poolKind ≠ .device) (hpool : l.world.Live (l.deviceId device) poolKind pool)
    (hfrom : l.world.CameFrom (l.deviceId device) k pool hs) (code invalid foreign : Code)
    (wrong : Option Code) :
    (l.ledger.checkArgument (l.deviceId device) (.required poolKind pool code wrong) ++
      Check.all ((nonNull hs).map fun h =>
        l.ledger.checkPoolChild (l.keyOf device) k pool h invalid foreign)).Clear := by
  refine Check.Clear.append (clear_required hkind hpool _ _) (Check.clear_all ?_)
  exact List.forall_mem_map.mpr fun o ho => clear_checkPoolChild hfrom ho _ _

/-- A well-behaved call passes its check without an error. -/
theorem clear_passage (hl : l.ledger.Filed) (hw : l.world.Sound) {r : Request}
    {outcome : r.shape.Outcome} (hr : r.Permitted l.world outcome) :
    (r.passage l).check.Clear := by
  cases r with
  | createInstance => exact Check.clear_pass
  | destroyInstance h custom => exact clear_destroyInstance hw hr
  | enumeratePhysicalDevices i => exact clear_required (by decide) hr.1.2 _ _
  | createDevice physicalDevice families custom => exact clear_required (by decide) hr.1 _ _
  | destroyDevice h custom => exact clear_destroyDevice hl hw hr
  | getDeviceQueue device family =>
    -- the check is advisory: it never asks for a skip
    exact ⟨rfl, (clear_device hl rfl hr.1 _).calm⟩
  | queueSubmit queue fence submits => exact clear_queueSubmit hr.1 hr.2.1 hr.2.2
  | queueBindSparse queue fence =>
    refine Check.Clear.append ?_ (clear_checkSparse hr.2.2 _)
    exact Ledger.clear_checkArguments (clear_queueAndFence hr.1 hr.2.1 _ _ _ _)
  | createDeviceChild device kind code custom =>
    have howner : l.world.LiveOwner .deviceLevel device := hr.1
    exact clear_owner hl howner _
  | destroyDeviceChild device h kind custom codes =>
    obtain ⟨hdevice, ⟨hchild, -⟩, hlive, hcreated⟩ := hr
    have howner : l.world.LiveOwner .deviceLevel device := hdevice
    have hkind : kind ≠ .device := ne_of_mem_of_not_mem hchild (by decide)
    exact clear_destroyFrom hl hw howner (clear_nullable hkind hlive _ _) hcreated
  | create what owner custom =>
    exact (clear_creationCheck hr.2.1).andThen (clear_owner hl hr.1 _)
  | destroy child owner h custom =>
    obtain ⟨howner, hlive, hcreated⟩ := hr
    refine clear_destroyFrom hl hw howner (clear_nullable ?_ hlive _ _) hcreated
    cases child <;> decide
  | getSwapchainImages device swapchain => exact clear_required (by decide) hr.2.1 _ _
  | allocateCommandBuffers device pool level =>
    exact Ledger.clear_checkArguments (clear_deviceAnd hl hr.1 (by decide) hr.2.1 _ _ _)
  | freeCommandBuffers device pool hs => exact clear_free (by decide) hr.2.1 hr.2.2 _ _ _ _
  | beginCommandBuffer buffer inheritance => exact clear_beginCommandBuffer hr.1 hr.2
  | resetDescriptorPool device pool =>
    exact Ledger.clear_checkArguments (clear_deviceAnd hl hr.1 (by decide) hr.2 _ _ _)
  | allocateDescriptorSets device pool layouts =>
    exact clear_allocateDescriptorSets hl hr.1 hr.2.1 hr.2.2.1
  | freeDescriptorSets device pool hs => exact clear_free (by decide) hr.2.1 hr.2.2 _ _ _ _
  | bindImageMemory device image memory =>
    obtain ⟨hdevice, himage, hmemory⟩ := hr
    refine Ledger.clear_checkArguments (List.forall_mem_cons.mpr ⟨clear_device hl rfl hdevice _, ?_⟩)
    refine List.forall_mem_cons.mpr ⟨clear_required (by decide) himage _ _, ?_⟩
    exact List.forall_mem_singleton.mpr (clear_required (by decide) hmemory _ _)
  | bindBufferMemory device buffer memory =>
    -- unlike that of an image, the binding of a buffer does not look at the device
    obtain ⟨-, hbuffer, hmemory⟩ := hr
    refine Ledger.clear_checkArguments (List.forall_mem_cons.mpr ⟨?_, ?_⟩)
    · exact clear_required (by decide) hbuffer _ _
    · exact List.forall_mem_singleton.mpr (clear_required (by decide) hmemory _ _)
  | mapMemory device memory => exact clear_required (by decide) hr.2 _ _
  | waitForFences device fences =>
    refine Ledger.clear_checkArguments (List.forall_mem_map.mpr fun o ho => ?_)
    exact clear_required (by decide) (hr.2 o ho) _ _

end Layer

end HandleLedger
