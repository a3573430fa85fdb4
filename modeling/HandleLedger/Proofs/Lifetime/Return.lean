import HandleLedger.Proofs.Interception.Failure
import HandleLedger.Proofs.Lifetime.Lineage

/-!
# What has been destroyed

A call that destroys an object takes it out of the books (`Layer.record?_take_of_destroys`), and
only a call that gives the handle back puts it in again (`Layer.record?_play`). So as long as the
handle has not been given back, it passes no check, and no second call that destroys it runs
(`Layer.not_destroyed_again`).

The books of a context do not answer for every handle that passes in it, and `Layer.Exempt` lists
the exceptions. An image that a swapchain has handed out leaves the books with its swapchain only. A
device is looked for in all instances. An object of another device passes where no rule is broken by
that, and so do surfaces.
-/

set_option autoImplicit false

namespace HandleLedger

/-! ## Objects on the books -/

theorem Domain.live_remove_self (d : Domain) (k : Kind) (h : Handle) :
    (d.remove k h).live k h = none :=
  if_pos ⟨rfl, rfl⟩

/-- What goes with a child does not come back. -/
theorem Domain.live_takeAlong_eq_none {d : Domain} {k : Kind} {h : Handle}
    (hd : d.live k h = none) (child : Child) (o : Handle) :
    (child.takeAlong o d).live k h = none := by
  have hbrings : Domain.Brings (fun _ _ => False) (child.takeAlong o) :=
    Domain.brings_takeAlong child o
  refine Option.not_isSome_iff_eq_none.mp fun hlive => ?_
  rcases hbrings.live d k h hlive with hbefore | hfalse
  · rw [hd] at hbefore
    cases hbefore
  · exact hfalse

namespace Domains

/-- The object is alive in the instance or device. -/
def Holds (D : Domains) (id : ContextId) (k : Kind) (h : Handle) : Prop :=
  ∃ d, D id = some d ∧ (d.live k h).isSome

variable {D : Domains} {id : ContextId} {k : Kind} {h : Handle}

/-- A change that brings nothing to life leaves dead what is dead. -/
theorem Holds.of_modify {id' : ContextId} {g : Domain → Domain} {R : Kind → Handle → Prop}
    (hg : Domain.Brings R g) (hh : (D.modify id' g).Holds id k h) :
    D.Holds id k h ∨ id' = id ∧ R k h := by
  obtain ⟨d, hd, hlive⟩ := hh
  rw [modify] at hd
  split at hd
  · rename_i hid
    obtain ⟨d', hd', rfl⟩ := Option.map_eq_some_iff.mp hd
    rcases hg.live d' k h hlive with hbefore | hbrought
    · exact .inl ⟨d', hd', hbefore⟩
    · exact .inr ⟨hid, hbrought⟩
  · exact .inl ⟨d, hd, hlive⟩

theorem not_holds_modify {g : Domain → Domain} (hg : ∀ d, (g d).live k h = none) :
    ¬(D.modify id g).Holds id k h := by
  rintro ⟨d, hd, hlive⟩
  rw [modify_self] at hd
  obtain ⟨d', -, rfl⟩ := Option.map_eq_some_iff.mp hd
  rw [hg d'] at hlive
  cases hlive

theorem Holds.of_removeAll {id' : ContextId} {k' : Kind} :
    ∀ {hs : List Handle} {D : Domains}, (D.removeAll id' k' hs).Holds id k h → D.Holds id k h
  | [], _, hh => hh
  | o :: _, _, hh => by
    have hbrings : Domain.Brings (fun _ _ => False) (·.remove k' o) := Domain.brings_remove k' o
    exact (Holds.of_modify hbrings (Holds.of_removeAll hh)).resolve_right And.right

theorem not_holds_removeAll :
    ∀ {hs : List Handle}, h ∈ hs → ∀ {D : Domains}, ¬(D.removeAll id k hs).Holds id k h
  | o :: hs, hmem, D, hh => by
    by_cases hrest : h ∈ hs
    · exact not_holds_removeAll hrest hh
    · have ho : h = o := (List.mem_cons.mp hmem).resolve_right hrest
      subst ho
      exact not_holds_modify (fun d => d.live_remove_self k h) (Holds.of_removeAll hh)

end Domains

theorem Ledger.holds_iff_record? {l : Ledger} {id : ContextId} {k : Kind} {h : Handle} :
    l.domains.Holds id k h ↔ (l.record? id k h).isSome := by
  constructor
  · rintro ⟨d, hd, hlive⟩
    obtain ⟨c, hc, rfl⟩ := domains_eq_some_iff.mp hd
    rw [record?_of_eq_some hc]
    exact Option.isSome_map.symm.trans hlive
  · intro hrecord
    obtain ⟨e, he⟩ := Option.isSome_iff_exists.mp hrecord
    obtain ⟨c, hc, hfind⟩ := Option.bind_eq_some_iff.mp he
    refine ⟨c.domain, domains_of_eq_some hc, ?_⟩
    exact Option.isSome_map.trans (Option.isSome_of_eq_some hfind)

/-- The rule that the call breaks by destroying an object that only another device knows. -/
def Request.foreignRule : Request → Option Code
  | .destroyDeviceChild _ _ _ _ codes => codes.parent
  | .destroy child .. => child.destroyCodes.parent
  | .freeCommandBuffers .. => some Code.freedCommandBuffer
  | .freeDescriptorSets .. => some Code.freedDescriptorSet
  | _ => none

namespace Layer

variable {l : Layer} {id : ContextId} {k : Kind} {h : Handle}

/-! ## Handles that come back -/

/-- Some call of the run runs and gives the handle back. -/
def Returned (l : Layer) (ts : List Turn) (id : ContextId) (k : Kind) (h : Handle) : Prop :=
  ∃ before c after, ts = before ++ .call c :: after ∧ (l.play before).Runs c ∧
    c.request.Returns (l.play before) c.outcome id k h

theorem not_returned_nil : ¬l.Returned [] id k h := by
  rintro ⟨before, c, after, heq, -⟩
  exact List.append_ne_nil_of_right_ne_nil before (List.cons_ne_nil _ after) heq.symm

theorem returned_of_head {c : Call} {ts : List Turn} (hruns : l.Runs c)
    (hc : c.request.Returns l c.outcome id k h) : l.Returned (.call c :: ts) id k h :=
  ⟨[], c, ts, rfl, hruns, hc⟩

theorem Returned.cons {t : Turn} {ts : List Turn} (hts : (l.take t).Returned ts id k h) :
    l.Returned (t :: ts) id k h := by
  obtain ⟨before, c, after, rfl, hruns, hc⟩ := hts
  exact ⟨t :: before, c, after, rfl, hruns, hc⟩

/-- An object that a call brings to life has been given back by it. -/
theorem survival_holds (r : Request) (outcome : r.shape.Outcome) (id : ContextId) (k : Kind)
    (h : Handle) :
    Survival l r outcome fun D =>
      D.Holds id k h → l.world.domains.Holds id k h ∨ r.Returns l outcome id k h where
  modify D id' g hg hD hh := by
    rcases hh.of_modify hg with hbefore | ⟨rfl, hreturns⟩
    · exact hD hbefore
    · exact .inr hreturns
  openInstance custom sink o d _ _ _ hlive _ hh := by
    obtain ⟨d', hd', hlive'⟩ := hh
    rw [Domains.found] at hd'
    split at hd'
    · rename_i hid
      cases hd'
      exact .inr (hid ▸ hlive k h hlive')
    · exact .inl ⟨d', hd', hlive'⟩
  openDevice o instanceKey parent capabilities _ _ hh := by
    obtain ⟨d', hd', hlive'⟩ := hh
    rw [Domains.found] at hd'
    split at hd'
    · -- a new device has no objects
      cases hd'
      cases hlive'
    · exact .inl ⟨d', hd', hlive'⟩
  loseDevice D key hD hh := by
    obtain ⟨d, hd, hlive⟩ := hh
    rw [Domains.lose] at hd
    split at hd
    · cases hd
    · exact hD ⟨d, hd, hlive⟩
  loseInstance D key hD hh := by
    obtain ⟨d, hd, hlive⟩ := hh
    rw [Domains.loseInstance] at hd
    split at hd
    · cases hd
    · exact hD ⟨d, hd, hlive⟩

/-- A record that is on the books after a call was there before, or the call gave the handle
back. -/
theorem record?_take_call (hl : l.ledger.Filed) {c : Call}
    (hh : ((l.take (.call c)).ledger.record? id k h).isSome) :
    (l.ledger.record? id k h).isSome ∨ l.Runs c ∧ c.request.Returns l c.outcome id k h := by
  by_cases hruns : l.Runs c
  · have hsurvives := (survival_holds (l := l) c.request c.outcome id k h).effect Or.inl
    rw [← Ledger.holds_iff_record?, domains_take_of_runs hl hruns] at hh
    rcases hsurvives hh with hbefore | hreturns
    · exact .inl (Ledger.holds_iff_record?.mp hbefore)
    · exact .inr ⟨hruns, hreturns⟩
  · exact .inl (ledger_take_of_not_runs hruns ▸ hh)

/-- A record that is on the books after a run was there before, or the run gave the handle back. -/
theorem record?_play (hl : l.ledger.Filed) {ts : List Turn}
    (hh : ((l.play ts).ledger.record? id k h).isSome) :
    (l.ledger.record? id k h).isSome ∨ l.Returned ts id k h := by
  induction ts generalizing l with
  | nil => exact .inl hh
  | cons t ts ih =>
    rcases ih (filed_take hl t) hh with hnext | hreturned
    · cases t with
      | bind pairs => exact .inl hnext
      | call c =>
        rcases record?_take_call hl hnext with hbefore | ⟨hruns, hreturns⟩
        · exact .inl hbefore
        · exact .inr (returned_of_head hruns hreturns)
    · exact .inr hreturned.cons

/-! ## Handles that are destroyed -/

/-- The call destroys or frees the object, in the instance or device that it addresses. -/
def Destroys (l : Layer) : Request → ContextId → Kind → Handle → Prop
  | .destroyDeviceChild device o kind .., id, k, h =>
    l.deviceId device = id ∧ kind = k ∧ o = h
  | .destroy child owner o _, id, k, h =>
    l.ownerId child.scope owner = id ∧ child.kind = k ∧ o = h
  | .freeCommandBuffers device _ hs, id, k, h =>
    l.deviceId device = id ∧ .commandBuffer = k ∧ h ∈ hs
  | .freeDescriptorSets device _ hs, id, k, h =>
    l.deviceId device = id ∧ .descriptorSet = k ∧ h ∈ hs
  | _, _, _, _ => False

instance (r : Request) : Decidable (l.Destroys r id k h) := by
  cases r <;> first
    | exact inferInstanceAs (Decidable (_ ∧ _ ∧ _))
    | exact inferInstanceAs (Decidable False)

theorem mem_nonNull {hs : List Handle} (hmem : h ∈ hs) (hh : h ≠ nullHandle) : h ∈ nonNull hs :=
  List.mem_filter.mpr ⟨hmem, bne_iff_ne.mpr hh⟩

/-- What a call destroys with success is not alive after it. -/
theorem not_holds_effect {r : Request} {outcome : r.shape.Outcome}
    (hok : r.shape.failure? outcome = none) (hdestroys : l.Destroys r id k h)
    (hh : h ≠ nullHandle) : ¬(r.effect l.world (r.deemed outcome)).Holds id k h := by
  cases r with
  | destroyDeviceChild device o kind custom codes =>
    obtain ⟨rfl, rfl, rfl⟩ := hdestroys
    show ¬Domains.Holds (if o = nullHandle then l.world.domains else
      l.world.domains.modify (l.deviceId device) (·.remove kind o)) (l.deviceId device) kind o
    rw [if_neg hh]
    exact Domains.not_holds_modify fun d => d.live_remove_self kind o
  | destroy child owner o custom =>
    obtain ⟨rfl, rfl, rfl⟩ := hdestroys
    show ¬Domains.Holds (if o = nullHandle then l.world.domains else
      l.world.domains.modify (l.ownerId child.scope owner)
        fun d => child.takeAlong o (d.remove child.kind o)) (l.ownerId child.scope owner) child.kind o
    rw [if_neg hh]
    refine Domains.not_holds_modify fun d => ?_
    exact Domain.live_takeAlong_eq_none (d.live_remove_self child.kind o) child o
  | freeCommandBuffers device pool hs =>
    obtain ⟨rfl, rfl, hmem⟩ := hdestroys
    exact Domains.not_holds_removeAll (mem_nonNull hmem hh)
  | freeDescriptorSets device pool hs =>
    obtain ⟨rfl, rfl, hmem⟩ := hdestroys
    cases outcome with
    | error _ => cases hok
    | ok _ => exact Domains.not_holds_removeAll (mem_nonNull hmem hh)
  | _ => exact False.elim hdestroys

/-- A call that destroys an object with success takes its record out. -/
theorem record?_take_of_destroys (hl : l.ledger.Filed) {c : Call} (hruns : l.Runs c)
    (hok : c.failure? = none) (hdestroys : l.Destroys c.request id k h) (hh : h ≠ nullHandle) :
    (l.take (.call c)).ledger.record? id k h = none := by
  refine Option.not_isSome_iff_eq_none.mp fun hrecord => ?_
  rw [← Ledger.holds_iff_record?, domains_take_of_runs hl hruns] at hrecord
  exact not_holds_effect hok hdestroys hh hrecord

/-! ## What passes without a record -/

/-- The object passes without a record of its own: its swapchain still holds the image, the object
is a device, or another device knows it and that breaks no rule. -/
def Exempt (l : Layer) (id : ContextId) (k : Kind) (h : Handle) (wrongDevice : Option Code) : Prop :=
  (k = .image ∧ ∃ c e, l.ledger.context? id = some c ∧ c.registry.image? h = some e) ∨
    k = .device ∨
    (wrongDevice = none ∨ k = .surface) ∧ l.ledger.knownElsewhere id k h = true

/-- An argument without a record that a strict sink lets through is exempt. -/
theorem exempt_of_checkArgument {c : Context} (hc : l.ledger.context? id = some c)
    (hs : c.sink.Strict) {a : Argument} (hpass : (l.ledger.checkArgument id a).skip = false)
    (hh : a.handle ≠ nullHandle) (hnone : l.ledger.record? id a.kind a.handle = none) :
    l.Exempt id a.kind a.handle a.wrongDevice := by
  by_cases hdevice : a.kind = .device
  · exact .inr (.inl hdevice)
  · rcases Ledger.known_of_checkArgument hpass hc hs hdevice with
      ⟨-, hnull⟩ | htracks | helsewhere
    · exact absurd hnull hh
    · rcases (Registry.tracks_iff ..).mp htracks with hfound | ⟨himage, hfound⟩
      · rw [Ledger.record?_of_eq_some hc] at hnone
        rw [hnone] at hfound
        cases hfound
      · obtain ⟨e, he⟩ := Option.isSome_iff_exists.mp hfound
        exact .inl ⟨himage, c, e, hc, he⟩
    · exact .inr (.inr helsewhere)

/-- Freeing to a pool asks for a record. -/
theorem isSome_record?_of_checkPoolChild {c : Context} {device : DispatchKey}
    (hc : l.ledger.context? (.ofDevice device) = some c) (hs : c.sink.Strict) {pool : Handle}
    {invalid foreign : Code} {hs' : List Handle}
    (hpass : (Check.all (hs'.map fun o =>
      l.ledger.checkPoolChild device k pool o invalid foreign)).skip = false) (hmem : h ∈ hs') :
    l.ledger.record? (.ofDevice device) k h ≠ none := by
  rw [Check.skip_all, List.any_eq_false] at hpass
  have hone := Bool.eq_false_iff.mpr (hpass _ (List.mem_map_of_mem hmem))
  obtain ⟨e, he⟩ := Ledger.found_of_checkPoolChild hone hc hs
  rw [Ledger.record?_of_eq_some hc, he]
  exact Option.some_ne_none e

/-- A call that runs and destroys an object without a record destroys one that is exempt. -/
theorem exempt_of_destroys {c : Context} (hc : l.ledger.context? id = some c)
    (hs : c.sink.Strict) {call : Call} (hruns : l.Runs call)
    (hdestroys : l.Destroys call.request id k h) (hh : h ≠ nullHandle)
    (hnone : l.ledger.record? id k h = none) : l.Exempt id k h call.request.foreignRule := by
  have hpass := (l.runs_iff call).mp hruns
  obtain ⟨r, outcome⟩ := call
  cases r with
  | destroyDeviceChild device o kind custom codes =>
    obtain ⟨rfl, rfl, rfl⟩ := hdestroys
    have harguments := (Check.skip_append_eq_false.mp hpass).1
    refine exempt_of_checkArgument hc hs (a := .nullable kind o codes.object codes.parent) ?_ hh hnone
    exact Ledger.skip_of_mem_checkArguments harguments (by simp)
  | destroy child owner o custom =>
    obtain ⟨rfl, rfl, rfl⟩ := hdestroys
    have harguments := (Check.skip_append_eq_false.mp hpass).1
    refine exempt_of_checkArgument hc hs
      (a := .nullable child.kind o child.destroyCodes.object child.destroyCodes.parent) ?_ hh hnone
    exact Ledger.skip_of_mem_checkArguments harguments (by simp)
  | freeCommandBuffers device pool hs' =>
    obtain ⟨rfl, rfl, hmem⟩ := hdestroys
    have hchildren := (Check.skip_append_eq_false.mp hpass).2
    exact absurd hnone (isSome_record?_of_checkPoolChild hc hs hchildren (mem_nonNull hmem hh))
  | freeDescriptorSets device pool hs' =>
    obtain ⟨rfl, rfl, hmem⟩ := hdestroys
    have hchildren := (Check.skip_append_eq_false.mp hpass).2
    exact absurd hnone (isSome_record?_of_checkPoolChild hc hs hchildren (mem_nonNull hmem hh))
  | _ => exact False.elim hdestroys

/-! ## Runs -/

/-- After a call has destroyed an object with success, the handle passes no check in the context
that was addressed, and no further call that destroys it there runs, until a call has given it back.
The context has to be on the books at that time, and the handle must not be exempt. -/
theorem not_destroyed_again (config : Config) (before between : List Turn) {c : Call}
    {id : ContextId} {k : Kind} {h : Handle}
    (hstrict : ∀ t ∈ before ++ .call c :: between, t.Strict (ofConfig config).defaultSink)
    (hh : h ≠ nullHandle) (hruns : ((ofConfig config).play before).Runs c)
    (hok : c.failure? = none)
    (hdestroys : ((ofConfig config).play before).Destroys c.request id k h) :
    let l := ((ofConfig config).play before).take (.call c)
    let m := l.play between
    l.Returned between id k h ∨
      ((m.ledger.context? id).isSome →
        (∀ a : Argument, a.kind = k → a.handle = h →
          (m.ledger.checkArgument id a).skip = false → m.Exempt id k h a.wrongDevice) ∧
        ∀ c' : Call, m.Runs c' → m.Destroys c'.request id k h →
          m.Exempt id k h c'.request.foreignRule) := by
  intro l m
  have hbefore := filed_play_ofConfig config before
  have hgone : l.ledger.record? id k h = none :=
    record?_take_of_destroys hbefore hruns hok hdestroys hh
  have hm : m = (ofConfig config).play (before ++ .call c :: between) := by
    rw [play, List.foldl_append]
    rfl
  by_cases hreturned : l.Returned between id k h
  · exact .inl hreturned
  · refine .inr fun hknown => ?_
    obtain ⟨context, hcontext⟩ := Option.isSome_iff_exists.mp hknown
    have hsink : context.sink.Strict := strict_play config hstrict (hm ▸ hcontext)
    -- nothing has put the record back
    have hnone : m.ledger.record? id k h = none := by
      refine Option.not_isSome_iff_eq_none.mp fun hrecord => ?_
      rcases record?_play (filed_take hbefore _) hrecord with hstill | hback
      · rw [hgone] at hstill
        cases hstill
      · exact hreturned hback
    refine ⟨?_, fun c' hruns' hdestroys' => ?_⟩
    · rintro a rfl rfl hpass
      exact exempt_of_checkArgument hcontext hsink hpass hh hnone
    · exact exempt_of_destroys hcontext hsink hruns' hdestroys' hh hnone

/-! ### Objects that are destroyed twice -/

/-- A device is created. -/
def deviceCreation : List Turn :=
  [.bind [(1, 10), (2, 10), (3, 20), (4, 30)],
    .call ⟨.createInstance false (some ⟨some 0, .memory⟩), .ok 1⟩,
    .call ⟨.enumeratePhysicalDevices 1, .ok [2]⟩,
    .call ⟨.createDevice 2 [] false, .ok 3⟩]

/-- A buffer is created and destroyed. -/
def bufferCreation : List Turn := deviceCreation ++ [.call ⟨.create .buffer 3 false, .ok 5⟩]

/-- The buffer is destroyed, and the next attempt is refused. -/
theorem buffer_not_destroyed_again :
    ((ofConfig ⟨.default⟩).play bufferCreation).Runs ⟨.destroy .buffer 3 5 false, ()⟩ ∧
      ¬(((ofConfig ⟨.default⟩).play bufferCreation).take
        (.call ⟨.destroy .buffer 3 5 false, ()⟩)).Runs ⟨.destroy .buffer 3 5 false, ()⟩ := by
  have hruns : ((ofConfig ⟨.default⟩).play bufferCreation).Runs
      ⟨.destroy .buffer 3 5 false, ()⟩ := by decide +kernel
  have hstrict := Turn.strict_of_toMemory (show (bufferCreation ++
    [Turn.call ⟨.destroy .buffer 3 5 false, ()⟩]).all Turn.toMemory = true from rfl)
    (ofConfig ⟨.default⟩).defaultSink
  have hdestroys : ((ofConfig ⟨.default⟩).play bufferCreation).Destroys
      (.destroy .buffer 3 5 false) (.ofDevice 20) .buffer 5 := by decide +kernel
  have hagain : (((ofConfig ⟨.default⟩).play bufferCreation).take
      (.call ⟨.destroy .buffer 3 5 false, ()⟩)).Destroys
      (.destroy .buffer 3 5 false) (.ofDevice 20) .buffer 5 := by decide +kernel
  refine ⟨hruns, fun hruns' => ?_⟩
  rcases not_destroyed_again ⟨.default⟩ bufferCreation [] hstrict (by decide) hruns rfl
    hdestroys with hreturned | hexempt
  · exact not_returned_nil hreturned
  · rcases (hexempt (by decide +kernel)).2 ⟨.destroy .buffer 3 5 false, ()⟩ hruns' hagain with
      ⟨himage, -⟩ | hdevice | ⟨hrule | hsurface, -⟩
    · cases himage
    · cases hdevice
    · cases hrule
    · cases hsurface

end Layer

/-- An instance that the turn creates gets a sink that asks for a skip exactly at errors. -/
def Turn.Exact : Turn → Prop
  | .call ⟨.createInstance _ (some sink), _⟩ =>
    ∀ r : Report, sink.verdict r = (r.severity == .error)
  | .call ⟨.createInstance _ none, _⟩ => False
  | _ => True

theorem Turn.exact_of_toMemory {ts : List Turn} (hts : ts.all Turn.toMemory = true) :
    ∀ t ∈ ts, t.Exact := by
  intro t ht
  have hmemory := List.all_eq_true.mp hts t ht
  cases t with
  | bind pairs => trivial
  | call c =>
    obtain ⟨request, outcome⟩ := c
    cases request with
    | createInstance custom sink =>
      obtain ⟨s, rfl, hs⟩ := Turn.policy_of_toMemory hmemory
      intro r
      rw [Sink.verdict, hs]
    | _ => trivial

namespace Layer

/-- In a run whose sinks ask for a skip exactly at errors, two calls in a row destroy the object. -/
structure DestroyedTwice (ts : List Turn) (c c' : Call) (id : ContextId) (k : Kind) (h : Handle) :
    Prop where
  sinks : ∀ t ∈ ts, t.Exact
  not_null : h ≠ nullHandle
  runs : ((ofConfig ⟨.default⟩).play ts).Runs c
  destroys : ((ofConfig ⟨.default⟩).play ts).Destroys c.request id k h
  runs_again : (((ofConfig ⟨.default⟩).play ts).take (.call c)).Runs c'
  destroys_again : (((ofConfig ⟨.default⟩).play ts).take (.call c)).Destroys c'.request id k h
  not_returned : ¬(((ofConfig ⟨.default⟩).play ts).take (.call c)).Returned [] id k h

theorem DestroyedTwice.of_toMemory {ts : List Turn} {c c' : Call} {id : ContextId} {k : Kind}
    {h : Handle} (hts : ts.all Turn.toMemory = true)
    (hcalls : h ≠ nullHandle ∧ ((ofConfig ⟨.default⟩).play ts).Runs c ∧
      ((ofConfig ⟨.default⟩).play ts).Destroys c.request id k h ∧
      (((ofConfig ⟨.default⟩).play ts).take (.call c)).Runs c' ∧
      (((ofConfig ⟨.default⟩).play ts).take (.call c)).Destroys c'.request id k h) :
    DestroyedTwice ts c c' id k h := by
  obtain ⟨hh, hruns, hdestroys, hruns', hdestroys'⟩ := hcalls
  exact ⟨Turn.exact_of_toMemory hts, hh, hruns, hdestroys, hruns', hdestroys', not_returned_nil⟩

/-- A swapchain hands an image out. -/
def imageRetrieval : List Turn :=
  deviceCreation ++
    [.call ⟨.create .surface 1 false, .ok 5⟩,
      .call ⟨.create (.swapchain 5 0) 3 false, .ok 6⟩,
      .call ⟨.getSwapchainImages 3 6, .ok [7]⟩]

/-- A buffer and a surface are created from a second device. -/
def foreignObjects : List Turn :=
  deviceCreation ++
    [.call ⟨.createDevice 2 [] false, .ok 4⟩,
      .call ⟨.create .buffer 4 false, .ok 5⟩,
      .call ⟨.createDeviceChild 4 .surface "VUID-device-parameter" false, .ok 6⟩]

/-- A descriptor set is allocated from a pool. -/
def setAllocation : List Turn :=
  deviceCreation ++
    [.call ⟨.create .descriptorPool 3 false, .ok 5⟩,
      .call ⟨.allocateDescriptorSets 3 5 [], .ok [6]⟩]

/-- The destruction of a device child, with or without a rule about other devices. -/
def destroyAny (k : Kind) (h : Handle) (parent : Option Code) : Call :=
  ⟨.destroyDeviceChild 3 h k false
    { owner := "VUID-device-parameter"
      object := "VUID-object-parameter"
      parent := parent
      expectedCustom := none
      expectedDefault := none }, ()⟩

/-- The exceptions are real. An image of a swapchain is destroyed twice, and so are a buffer that only
another device knows, under no rule about that, a surface that only another device knows, under any
rule, and a device. So is a buffer in a context that is not on the books, and a descriptor set whose
first freeing fails. A list that frees a descriptor set may name it twice. -/
theorem destroyed_twice :
    DestroyedTwice imageRetrieval ⟨.destroy .image 3 7 false, ()⟩ ⟨.destroy .image 3 7 false, ()⟩
        (.ofDevice 20) .image 7 ∧
      DestroyedTwice foreignObjects (destroyAny .buffer 5 none) (destroyAny .buffer 5 none)
        (.ofDevice 20) .buffer 5 ∧
      DestroyedTwice foreignObjects (destroyAny .surface 6 (some "VUID-object-parent"))
        (destroyAny .surface 6 (some "VUID-object-parent")) (.ofDevice 20) .surface 6 ∧
      DestroyedTwice deviceCreation (destroyAny .device 3 none) (destroyAny .device 3 none)
        (.ofDevice 20) .device 3 ∧
      DestroyedTwice [] ⟨.destroy .buffer 3 5 false, ()⟩ ⟨.destroy .buffer 3 5 false, ()⟩
        (.ofDevice 0) .buffer 5 ∧
      DestroyedTwice setAllocation ⟨.freeDescriptorSets 3 5 [6], .error (-2)⟩
        ⟨.freeDescriptorSets 3 5 [6], .ok ()⟩ (.ofDevice 20) .descriptorSet 6 ∧
      ((ofConfig ⟨.default⟩).play setAllocation).Runs ⟨.freeDescriptorSets 3 5 [6, 6], .ok ()⟩ := by
  refine ⟨?image, ?buffer, ?surface, ?device, ?unknown, ?failed, ?listed⟩
  case image => exact .of_toMemory rfl (by decide +kernel)
  case buffer => exact .of_toMemory rfl (by decide +kernel)
  case surface => exact .of_toMemory rfl (by decide +kernel)
  case device => exact .of_toMemory rfl (by decide +kernel)
  case unknown => exact .of_toMemory rfl (by decide +kernel)
  case failed => exact .of_toMemory rfl (by decide +kernel)
  case listed => decide +kernel

end Layer

end HandleLedger
