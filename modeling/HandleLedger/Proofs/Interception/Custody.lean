import HandleLedger.Proofs.Interception.Run
import HandleLedger.Proofs.Ledger.Validation
import HandleLedger.Proofs.Registry.Custody

/-!
# Owners along a run

The main statement, `owners_of_play`: along every run in which each sink refuses errors, a device
that has a command buffer, a descriptor set or an image of a swapchain on its books also has the
pool or swapchain that it came from. The calls that can go around the rules of pools are left out:
creating pool children, and destroying pools and swapchains, as plain device children.

The invariant is `Ledger.Custody`: every registry is `Registry.Housed` and every sink is strict. A
strict sink makes the check before an allocation vouch for the pool (`Custody.holds_of_pass`); a
destroyed pool or swapchain goes together with what came out of it.
-/

set_option autoImplicit false

namespace HandleLedger

namespace Ledger

/-- Every context has the owners of its objects and a strict sink. -/
structure Custody (l : Ledger) : Prop where
  filed : l.Filed
  housed : l.Every fun _ c => c.registry.Housed
  strict : l.Every fun _ c => c.sink.Strict

/-- The context, if it is known, has the object. -/
def Holds (id : ContextId) (k : Kind) (h : Handle) (l : Ledger) : Prop :=
  ∀ c, l.context? id = some c → c.registry.contains k h = true

theorem custody_empty : Custody empty where
  filed := every_empty _
  housed := every_empty _
  strict := every_empty _

namespace Custody

variable {l l' : Ledger}

theorem updates (hl : l.Custody) {id : ContextId} {f : Registry → Registry}
    (hu : Updates id f l l') (hfiled : l'.Filed)
    (hf : ∀ c, l.context? id = some c → c.registry.Housed → (f c.registry).Housed) :
    l'.Custody where
  filed := hfiled
  housed := hl.housed.updates hu hf
  strict := hl.strict.updates hu fun _ _ hs => hs

/-- What is left of the contexts is in custody. -/
theorem of_imp (hl : l.Custody) (hfiled : l'.Filed)
    (h : ∀ id c, l'.context? id = some c → l.context? id = some c) : l'.Custody where
  filed := hfiled
  housed := hl.housed.of_imp h
  strict := hl.strict.of_imp h

/-- The check of a pool or swapchain that is let through has found it. -/
theorem holds_of_pass (hl : l.Custody) {id : ContextId} {k : Kind} (hk : k.owns = true)
    {h : Handle} {invalid wrong : Code}
    (hpass : (l.checkArgument id (.required k h invalid (some wrong))).skip = false) :
    l.Holds id k h := by
  intro c hc
  -- the kinds that are not looked for in the addressed context alone own nothing
  have hdevice : k ≠ .device := by
    rintro rfl
    cases hk
  have hsurface : k ≠ .surface := by
    rintro rfl
    cases hk
  have himage : (k == .image) = false := by
    cases k <;> first | rfl | cases hk
  have ht : c.registry.tracks k h = true :=
    tracks_of_checkArgument hpass hc (hl.strict id c hc) rfl hdevice hsurface rfl
  rw [Registry.tracks, himage, Bool.false_and, Bool.or_false] at ht
  exact ht

/-! ### Actions -/

theorem keeps_register {k : Kind} (hk : k.pool? = none) (id : ContextId) (h : Handle)
    (status : Status) (parent : Handle) :
    Action.Keeps Custody (register id k h status parent) := by
  intro l hl
  refine hl.updates (updates_register id k h status parent l)
    (Filed.keeps_register id k h status parent l hl.filed) fun c _ hr => ?_
  apply hr.insert
  intro p hp
  rw [show (l.newRecord k h status parent).kind = k from rfl, hk] at hp
  cases hp

/-- A child of a pool that is on the books may be entered, and the pool stays there. -/
theorem keeps_register_child {k p : Kind} (hk : k.pool? = some p) (id : ContextId)
    (h pool : Handle) (status : Status) :
    Action.Keeps (fun l => l.Custody ∧ l.Holds id p pool) (register id k h status pool) := by
  rintro l ⟨hl, hpool⟩
  have hu := updates_register id k h status pool l
  constructor
  · refine hl.updates hu (Filed.keeps_register id k h status pool l hl.filed) fun c hc hr => ?_
    apply hr.insert
    intro p' hp'
    rw [show (l.newRecord k h status pool).kind = k from rfl, hk, Option.some.injEq] at hp'
    exact hp' ▸ hpool c hc
  · -- entering the child leaves the pool alone
    intro c' hc'
    rw [hu.context?_self] at hc'
    obtain ⟨c, hc, rfl⟩ := Option.map_eq_some_iff.mp hc'
    exact Registry.contains_insert_of_contains (hpool c hc) _

/-- An image of a swapchain that is on the books may be entered, and the swapchain stays there. -/
theorem keeps_registerImage (device : DispatchKey) (image swapchain : Handle) :
    Action.Keeps (fun l => l.Custody ∧ l.Holds (.ofDevice device) .swapchain swapchain)
      (registerImage device image swapchain) := by
  rintro l ⟨hl, hswapchain⟩
  have hu := updates_registerImage device image swapchain l
  constructor
  · refine hl.updates hu (Filed.keeps_registerImage device image swapchain l hl.filed)
      fun c hc hr => ?_
    exact hr.insertImage (hswapchain c hc)
  · intro c' hc'
    rw [hu.context?_self] at hc'
    obtain ⟨c, hc, rfl⟩ := Option.map_eq_some_iff.mp hc'
    exact (Registry.contains_congr (Registry.find?_insertImage ..)).trans (hswapchain c hc)

theorem keeps_noteQueueFamily (device : DispatchKey) (family : UInt32) (queue : Handle) :
    Action.Keeps Custody (noteQueueFamily device family queue) :=
  fun l hl => hl.updates (updates_onRegistry _ _ l)
    (Filed.keeps_noteQueueFamily device family queue l hl.filed)
    fun _ _ hr => hr.setQueueFamily queue family

theorem keeps_noteFamilyFlags (device : DispatchKey) (flags : List UInt32) :
    Action.Keeps Custody (noteFamilyFlags device flags) :=
  fun l hl => hl.updates (updates_onRegistry _ _ l)
    (Filed.keeps_noteFamilyFlags device flags l hl.filed) fun _ _ hr => hr.setFamilyFlags flags

theorem keeps_release {k : Kind} (hk : k.owns = false) (id : ContextId) (h : Handle) :
    Action.Keeps Custody (release id k h) := by
  intro l hl
  by_cases hh : h = nullHandle
  · rw [hh, release_null]
    exact hl
  · exact hl.updates (updates_release id k hh l) (Filed.keeps_release id k h l hl.filed)
      fun _ _ hr => hr.remove hk h

theorem keeps_dropChildren {k : Kind} (hk : k.owns = false) (device : DispatchKey)
    (pool : Handle) : Action.Keeps Custody (dropChildren device pool k) :=
  fun l hl => hl.updates (updates_dropChildren device pool k l)
    (Filed.keeps_dropChildren device pool k l hl.filed) fun _ _ hr => hr.removeAll hk _

theorem keeps_openInstance (key : DispatchKey) (handle : Handle) {sink : Sink}
    (hs : sink.Strict) : Action.Keeps Custody (openInstance key handle sink) :=
  fun l hl => ⟨Filed.keeps_openInstance key handle sink l hl.filed,
    hl.housed.openContext Registry.housed_empty _, hl.strict.openContext hs _⟩

theorem keeps_openDevice (instanceKey key : DispatchKey) (handle : Handle) :
    Action.Keeps Custody (openDevice instanceKey key handle) := by
  intro l hl
  cases hc : l.context? (.ofInstance instanceKey) with
  | none =>
    rw [(openDevice_of_eq_none hc key handle).2]
    exact hl
  | some parent =>
    have hopen := (openDevice_of_eq_some hc key handle).2
    refine ⟨Filed.keeps_openDevice instanceKey key handle l hl.filed, ?_, ?_⟩
    · intro id c hid
      rw [hopen] at hid
      split at hid
      · -- a new device has no objects
        cases hid
        exact Registry.housed_empty
      · exact hl.housed id c hid
    · intro id c hid
      rw [hopen] at hid
      split at hid
      · -- a new device reports to the sink of its instance
        cases hid
        exact hl.strict _ parent hc
      · exact hl.strict id c hid

theorem keeps_closeInstance (key : DispatchKey) : Action.Keeps Custody (closeInstance key) :=
  fun l hl => hl.of_imp (Filed.keeps_closeInstance key l hl.filed) fun id c hc =>
    ((hl.filed.context?_closeInstance key id c).mp hc).1

/-- A pool that is taken out takes its children along. -/
theorem release_pool (hl : l.Custody) (device : DispatchKey) {k child : Kind}
    (hk : child.pool? = some k) {h : Handle} (hh : h ≠ nullHandle) :
    (dropChildren device h child (release (.ofDevice device) k h l).ledger).ledger.Custody := by
  have hrelease := updates_release (.ofDevice device) k hh l
  have hdrop := updates_dropChildren device h child (release (.ofDevice device) k h l).ledger
  refine hl.updates (hrelease.trans hdrop) ?_ fun c hc hr => ?_
  · exact Filed.keeps_dropChildren device h child _ (Filed.keeps_release _ k h l hl.filed)
  · exact hr.removePool (hl.filed.registry hc) hk h

/-- A swapchain that is taken out takes its images along. -/
theorem release_swapchain (hl : l.Custody) (device : DispatchKey) {h : Handle}
    (hh : h ≠ nullHandle) :
    (dropImages device h (release (.ofDevice device) .swapchain h l).ledger).ledger.Custody := by
  have hrelease := updates_release (.ofDevice device) .swapchain hh l
  have hdrop := updates_dropImages device h (release (.ofDevice device) .swapchain h l).ledger
  refine hl.updates (hrelease.trans hdrop) ?_ fun c _ hr => hr.removeSwapchain h
  exact Filed.keeps_dropImages device h _ (Filed.keeps_release _ .swapchain h l hl.filed)

end Custody

end Ledger

/-! ## Passages -/

/-- What custody asks of a call: an instance gets a strict sink, or the fallback if that is strict,
and the calls for device children of any kind are not used to go around the rules of pools and
swapchains. -/
structure Call.Tame (fallback : Sink) (c : Call) : Prop where
  strict : ∀ custom sink h, c = ⟨.createInstance custom sink, .ok h⟩ → (sink.getD fallback).Strict
  creates : ∀ device k code custom, c.request = .createDeviceChild device k code custom →
    k ≠ .commandBuffer ∧ k ≠ .descriptorSet
  destroys : ∀ device h k custom codes, c.request = .destroyDeviceChild device h k custom codes →
    k ≠ .commandPool ∧ k ≠ .descriptorPool ∧ k ≠ .swapchain

namespace Kind

theorem pool?_eq_none {k : Kind} (h : k ≠ .commandBuffer ∧ k ≠ .descriptorSet) :
    k.pool? = none := by
  obtain ⟨hbuffer, hset⟩ := h
  cases k <;> first | rfl | exact absurd rfl hbuffer | exact absurd rfl hset

theorem owns_eq_false {k : Kind} (h : k ≠ .commandPool ∧ k ≠ .descriptorPool ∧ k ≠ .swapchain) :
    k.owns = false := by
  obtain ⟨hpool, hdescriptor, hswapchain⟩ := h
  cases k <;>
    first
    | rfl
    | exact absurd rfl hpool
    | exact absurd rfl hdescriptor
    | exact absurd rfl hswapchain

end Kind

namespace Layer

open Ledger (Custody)

variable {l : Layer}

theorem custody_createInstance {custom : Bool} {sink : Option Sink}
    {outcome : Except ResultCode Handle}
    (hs : ∀ h, outcome = .ok h → (sink.getD l.defaultSink).Strict) :
    ((l.createInstance custom sink).record outcome).Keeps Custody := by
  cases outcome with
  | error code => exact Action.keeps_pure ()
  | ok h =>
    refine (Custody.keeps_openInstance _ _ (hs h rfl)).bind fun _ => ?_
    exact Custody.keeps_register rfl _ _ _ _

theorem custody_createDevice (physicalDevice : Handle) (families : List UInt32) (custom : Bool) :
    (l.createDevice physicalDevice families custom).Keeps Custody := by
  refine Passage.keeps_creating _ fun o => ?_
  refine (Custody.keeps_openDevice _ _ _).bind fun known => ?_
  cases known with
  | true =>
    refine (Custody.keeps_register rfl _ _ _ _).bind fun _ => ?_
    exact Custody.keeps_noteFamilyFlags _ _
  | false => exact Action.keeps_emit _

theorem custody_createFrom (scope : Scope) (owner : Handle) {kind : Kind}
    (hk : kind.pool? = none) (ownerCode : Code) (custom : Bool) :
    (l.createFrom scope owner kind ownerCode custom).Keeps Custody :=
  Passage.keeps_creating _ fun _ => Custody.keeps_register hk _ _ _ _

theorem custody_create (what : Creation) (owner : Handle) (custom : Bool) :
    (l.create what owner custom).Keeps Custody := by
  have hk : what.child.kind.pool? = none := by
    cases what <;> rfl
  exact ⟨Action.keeps_pure (),
    (l.custody_createFrom _ owner hk what.child.creationCode custom).record⟩

theorem custody_getDeviceQueue (device : Handle) (family : UInt32) :
    (l.getDeviceQueue device family).Keeps Custody where
  prepare := Action.keeps_pure ()
  record queue := by
    show Action.Keeps Custody (if queue = nullHandle then pure () else _)
    split
    · exact Action.keeps_pure ()
    · refine (Custody.keeps_register rfl _ _ _ _).bind fun _ => ?_
      exact Custody.keeps_noteQueueFamily _ _ _

theorem custody_destroyInstance (h : Handle) (custom : Bool) :
    (l.destroyInstance h custom).Keeps Custody := by
  rw [destroyInstance]
  split
  · exact Passage.keeps_checking _
  · constructor
    · refine (Action.keeps_ofSurvey _).bind fun _ => ?_
      exact (Action.keeps_ofSurvey _).bind fun _ => Action.keeps_pure ()
    · exact fun _ => Custody.keeps_closeInstance _

/-! ### The destruction of a device -/

/-- When a device is torn down its registry is emptied kind by kind, and swapchains go before their
images. What holds of all contexts holds of the others throughout, and the device is closed in the
end. -/
theorem every_closeDevice {P : Context → Prop} {m m₁ m₂ : Ledger} {key instanceKey : DispatchKey}
    {f g : Registry → Registry} (hm : m.Every fun _ c => P c)
    (hempty : Ledger.Updates (.ofDevice key) f m m₁)
    (hrelease : Ledger.Updates (.ofInstance instanceKey) g m₁ m₂)
    (hg : ∀ c, P c → P (c.mapRegistry g)) :
    (Ledger.closeDevice key m₂).ledger.Every fun _ c => P c := by
  -- the device itself is left out of the account until it is closed
  have hothers : m₁.Every fun id c => id ≠ .ofDevice key → P c := by
    intro id c hc hne
    rw [hempty.context?_of_ne fun e => hne e.symm] at hc
    exact hm id c hc
  have hreleased : m₂.Every fun id c => id ≠ .ofDevice key → P c :=
    hothers.updates hrelease fun c _ hP hne => hg c (hP hne)
  intro id c hc
  rw [Ledger.closeDevice, Ledger.context?_closeContext] at hc
  split at hc
  · cases hc
  · rename_i hne
    exact hreleased id c hc fun e => hne e.symm

theorem custody_destroyDevice (h : Handle) (custom : Bool) (outcome : Shape.nothing.Outcome) :
    Action.Keeps Custody ((l.destroyDevice h custom).run outcome) := by
  intro m hm
  have hfiled := (l.keeps_destroyDevice Ledger.Filed.keeps_run h custom).run outcome m hm.filed
  unfold destroyDevice at hfiled ⊢
  by_cases hh : h = nullHandle
  · rw [if_pos hh]
    exact (Passage.keeps_checking _).run outcome m hm
  · rw [if_neg hh] at hfiled ⊢
    dsimp only at hfiled ⊢
    split at hfiled
    · exact (Passage.keeps_checking _).run outcome m hm
    · rename_i instanceKey hinstance
      have hempty := (Ledger.updates_dropOwned (.ofDevice (l.keyOf h)) m).trans
        (Ledger.updates_dropQueues (l.keyOf h) _)
      have hrelease := Ledger.updates_release (.ofInstance instanceKey) .device hh
        (Ledger.dropQueues (l.keyOf h) (Ledger.dropOwned (.ofDevice (l.keyOf h)) m).ledger).ledger
      -- on the way the device has images without swapchains, so custody is followed part by part
      refine ⟨hfiled, Passage.run_induction hm.housed fun _ => ?_,
        Passage.run_induction hm.strict fun _ => ?_⟩
      · simp only [Action.ledger_bind, Action.ledger_ofSurvey]
        exact every_closeDevice (P := fun c => c.registry.Housed) hm.housed hempty hrelease
          fun c hr => hr.remove rfl h
      · simp only [Action.ledger_bind, Action.ledger_ofSurvey]
        exact every_closeDevice (P := fun c => c.sink.Strict) hm.strict hempty hrelease
          fun _ hs => hs

/-! ### Children and pools -/

theorem custody_destroyFrom (scope : Scope) (owner h : Handle) {kind : Kind}
    (hk : kind.owns = false) (custom : Bool) (codes : DestroyCodes) :
    (l.destroyFrom scope owner h kind custom codes).Keeps Custody :=
  ⟨Action.keeps_pure (), fun _ => Custody.keeps_release hk _ _⟩

/-- A destroyed pool or swapchain goes together with what came out of it. -/
theorem custody_destroy (child : Child) (owner h : Handle) (custom : Bool) :
    (l.destroy child owner h custom).Keeps Custody := by
  refine ⟨Action.keeps_pure (), fun outcome m hm => ?_⟩
  show (dropWith child (l.keyOf owner) h
    (Ledger.release (l.ownerId child.scope owner) child.kind h m).ledger).ledger.Custody
  unfold dropWith
  by_cases hh : h = nullHandle
  · -- null is no object, and nothing goes with it
    rw [if_pos hh, hh, Ledger.release_null]
    exact hm
  · rw [if_neg hh]
    cases child with
    | commandPool => exact hm.release_pool (l.keyOf owner) Kind.pool?_commandBuffer hh
    | descriptorPool => exact hm.release_pool (l.keyOf owner) Kind.pool?_descriptorSet hh
    | swapchain => exact hm.release_swapchain (l.keyOf owner) hh
    | _ => exact Custody.keeps_release rfl _ h m hm

theorem custody_allocate {k p : Kind} (hk : k.pool? = some p) (id : ContextId) (pool : Handle)
    (status : Status) {m : Ledger} (hm : m.Custody) (hpool : m.Holds id p pool)
    (hs : List Handle) :
    (Action.each hs (fun h => Ledger.register id k h status pool) m).ledger.Custody :=
  (Action.keeps_each (fun h _ => Custody.keeps_register_child hk id h pool status) m
    ⟨hm, hpool⟩).1

theorem custody_allocateCommandBuffers {device pool : Handle} {level : Int32}
    {outcome : Shape.handles.Outcome} {m : Ledger} (hm : m.Custody) (hlm : l.ledger = m) :
    ((l.allocateCommandBuffers device pool level).run outcome m).ledger.Custody := by
  subst hlm
  refine Passage.run_induction hm fun hskip => ?_
  cases outcome with
  | error code => exact hm
  | ok hs =>
    apply custody_allocate Kind.pool?_commandBuffer
    · exact hm
    · -- the check has found the pool in the books
      apply hm.holds_of_pass rfl
      exact Ledger.skip_of_mem_checkArguments hskip (List.mem_cons_of_mem _ (List.mem_cons_self ..))

theorem custody_allocateDescriptorSets {device pool : Handle} {layouts : List Handle}
    {outcome : Shape.handles.Outcome} {m : Ledger} (hm : m.Custody) (hlm : l.ledger = m) :
    ((l.allocateDescriptorSets device pool layouts).run outcome m).ledger.Custody := by
  subst hlm
  refine Passage.run_induction hm fun hskip => ?_
  cases outcome with
  | error code => exact hm
  | ok hs =>
    apply custody_allocate Kind.pool?_descriptorSet
    · exact hm
    · -- the pool is the second argument, before the layouts
      apply hm.holds_of_pass rfl
      refine Ledger.skip_of_mem_checkArguments hskip (List.mem_append_left _ ?_)
      exact List.mem_cons_of_mem _ (List.mem_cons_self ..)

theorem custody_getSwapchainImages {device swapchain : Handle} {outcome : Shape.handles.Outcome}
    {m : Ledger} (hm : m.Custody) (hlm : l.ledger = m) :
    ((l.getSwapchainImages device swapchain).run outcome m).ledger.Custody := by
  subst hlm
  refine Passage.run_induction hm fun hskip => ?_
  cases outcome with
  | error code => exact hm
  | ok hs =>
    have hswapchain : l.ledger.Holds (l.deviceId device) .swapchain swapchain :=
      hm.holds_of_pass rfl hskip
    exact (Action.keeps_each
      (fun h _ => Custody.keeps_registerImage (l.keyOf device) h swapchain) l.ledger
      ⟨hm, hswapchain⟩).1

theorem custody_freeDescriptorSets (device pool : Handle) (hs : List Handle) :
    (l.freeDescriptorSets device pool hs).Keeps Custody where
  prepare := Action.keeps_pure ()
  record
    | .error _ => Action.keeps_pure ()
    | .ok () => Action.keeps_each fun _ _ => Custody.keeps_release rfl _ _

/-- A tame call keeps custody. -/
theorem custody_intercept (hl : l.ledger.Custody) {c : Call} (hc : c.Tame l.defaultSink) :
    (l.intercept c).layer.ledger.Custody := by
  obtain ⟨r, outcome⟩ := c
  show ((r.passage l).run outcome l.ledger).ledger.Custody
  cases r with
  | createInstance custom sink =>
    refine Passage.run_induction hl fun _ => ?_
    refine custody_createInstance ?_ l.ledger hl
    rintro h rfl
    exact hc.strict custom sink h rfl
  | destroyInstance h custom => exact (custody_destroyInstance h custom).run outcome _ hl
  | enumeratePhysicalDevices h =>
    refine (Passage.keeps_listing _ fun hs => ?_).run outcome _ hl
    exact Action.keeps_each fun _ _ => Custody.keeps_register rfl _ _ _ _
  | createDevice h families custom => exact (custody_createDevice h families custom).run outcome _ hl
  | destroyDevice h custom => exact custody_destroyDevice h custom outcome _ hl
  | getDeviceQueue device family => exact (custody_getDeviceQueue device family).run outcome _ hl
  | queueSubmit => exact (Passage.keeps_checking _).run outcome _ hl
  | queueBindSparse => exact (Passage.keeps_checking _).run outcome _ hl
  | createDeviceChild device kind code custom =>
    have hk := Kind.pool?_eq_none (hc.creates device kind code custom rfl)
    exact (custody_createFrom _ device hk code custom).run outcome _ hl
  | destroyDeviceChild device h kind custom codes =>
    have hk := Kind.owns_eq_false (hc.destroys device h kind custom codes rfl)
    exact (custody_destroyFrom _ device h hk custom codes).run outcome _ hl
  | create what owner custom => exact (custody_create what owner custom).run outcome _ hl
  | destroy child owner h custom => exact (custody_destroy child owner h custom).run outcome _ hl
  | getSwapchainImages => exact custody_getSwapchainImages hl rfl
  | allocateCommandBuffers => exact custody_allocateCommandBuffers hl rfl
  | freeCommandBuffers device pool hs =>
    refine Passage.Keeps.run ⟨Action.keeps_pure (), fun _ => ?_⟩ outcome _ hl
    exact Action.keeps_each fun _ _ => Custody.keeps_release rfl _ _
  | beginCommandBuffer => exact (Passage.keeps_checking _).run outcome _ hl
  | resetDescriptorPool device pool =>
    refine Passage.Keeps.run ⟨?_, fun _ => Action.keeps_pure ()⟩ outcome _ hl
    exact (Custody.keeps_dropChildren rfl _ _).bind fun _ => Action.keeps_pure ()
  | allocateDescriptorSets => exact custody_allocateDescriptorSets hl rfl
  | freeDescriptorSets device pool hs =>
    exact (custody_freeDescriptorSets device pool hs).run outcome _ hl
  | bindImageMemory => exact (Passage.keeps_checking _).run outcome _ hl
  | bindBufferMemory => exact (Passage.keeps_checking _).run outcome _ hl
  | mapMemory => exact (Passage.keeps_checking _).run outcome _ hl
  | waitForFences => exact (Passage.keeps_checking _).run outcome _ hl

end Layer

/-- What custody asks of a turn. -/
def Turn.Tame (fallback : Sink) : Turn → Prop
  | .bind _ => True
  | .call c => c.Tame fallback

namespace Layer

theorem custody_play {config : Config} {ts : List Turn}
    (hts : ∀ t ∈ ts, t.Tame (ofConfig config).defaultSink) :
    ((ofConfig config).play ts).ledger.Custody := by
  -- the configuration goes into the invariant, since instances may take their sinks from it
  have hrun : ((ofConfig config).play ts).config = config ∧
      ((ofConfig config).play ts).ledger.Custody := by
    refine play_induction (P := fun m => m.config = config ∧ m.ledger.Custody) ?_
      ⟨rfl, Ledger.custody_empty⟩
    rintro m t ht ⟨hconfig, hm⟩
    refine ⟨(config_take m t).trans hconfig, ?_⟩
    cases t with
    | bind pairs => exact hm
    | call c =>
      apply custody_intercept hm
      have hsink : m.defaultSink = (ofConfig config).defaultSink := by
        rw [defaultSink, hconfig]
        rfl
      exact hsink ▸ hts _ ht
  exact hrun.2

/-- Along a tame run, the books of a device that hold a command buffer, a descriptor set or an image
of a swapchain also hold the command pool, the descriptor pool or the swapchain it came from. -/
theorem owners_of_play (config : Config) (ts : List Turn)
    (hts : ∀ t ∈ ts, t.Tame (ofConfig config).defaultSink) (key : DispatchKey) (c : Context)
    (hc : ((ofConfig config).play ts).ledger.context? (.ofDevice key) = some c) :
    (∀ h e, c.registry.find? .commandBuffer h = some e →
      ∃ pool, c.registry.find? .commandPool e.parent = some pool) ∧
    (∀ h e, c.registry.find? .descriptorSet h = some e →
      ∃ pool, c.registry.find? .descriptorPool e.parent = some pool) ∧
    ∀ h e, c.registry.image? h = some e →
      ∃ swapchain, c.registry.find? .swapchain e.parent = some swapchain := by
  have hr := (custody_play hts).housed _ c hc
  refine ⟨?_, ?_, ?_⟩
  · intro h e he
    exact (Registry.contains_iff ..).mp (hr.records .commandBuffer .commandPool h e rfl he)
  · intro h e he
    exact (Registry.contains_iff ..).mp (hr.records .descriptorSet .descriptorPool h e rfl he)
  · intro h e he
    exact (Registry.contains_iff ..).mp (hr.images h e he)

/-- A run that allocates a command buffer, all dispatch keys being zero. -/
def bufferRun : List Turn :=
  [.call ⟨.createInstance false (some ⟨none, .memory⟩), .ok 1⟩,
    .call ⟨.enumeratePhysicalDevices 1, .ok [2]⟩,
    .call ⟨.createDevice 2 [] false, .ok 3⟩,
    .call ⟨.create .commandPool 3 false, .ok 4⟩,
    .call ⟨.allocateCommandBuffers 3 4 0, .ok [5]⟩]

theorem tame_bufferRun (fallback : Sink) : ∀ t ∈ bufferRun, t.Tame fallback := by
  intro t ht
  simp only [bufferRun, List.mem_cons, List.not_mem_nil, or_false] at ht
  rcases ht with rfl | rfl | rfl | rfl | rfl
  · constructor
    · intro custom sink h heq
      cases heq
      exact Sink.strict_memory none
    · intro device k code custom heq
      cases heq
    · intro device h k custom codes heq
      cases heq
  all_goals
    constructor <;> intros <;> rename_i heq <;> cases heq

/-- After that run the command buffer and its pool are on the books of the device. -/
theorem owner_after_bufferRun :
    ∃ c e pool, ((ofConfig ⟨.default⟩).play bufferRun).ledger.context? (.ofDevice 0) = some c ∧
      c.registry.find? .commandBuffer 5 = some e ∧
      c.registry.find? .commandPool e.parent = some pool := by
  have hbuffer : ((((ofConfig ⟨.default⟩).play bufferRun).ledger.context? (.ofDevice 0)).any
      (·.registry.contains .commandBuffer 5)) = true := by
    decide +kernel
  rw [Option.any_eq_true] at hbuffer
  obtain ⟨c, hc, hcontains⟩ := hbuffer
  obtain ⟨e, he⟩ := (Registry.contains_iff ..).mp hcontains
  obtain ⟨pool, hpool⟩ :=
    (owners_of_play ⟨.default⟩ bufferRun (tame_bufferRun _) 0 c hc).1 5 e he
  exact ⟨c, e, pool, hc, he, hpool⟩

end Layer

end HandleLedger
