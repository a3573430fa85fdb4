import HandleLedger.Proofs.Interception.Gate
import HandleLedger.Proofs.Ledger.Parentage
import HandleLedger.Proofs.Ledger.Validation
import HandleLedger.Proofs.Lifetime.Mirror

/-!
# Where live things come from

A call changes what is alive by a few kinds of steps only: it changes the objects of one instance
or device, begins an instance or a device, or ends one. `Survival` lists them, with all that can be
said of each, and `Survival.effect` goes through the calls once. Two things follow. An object that
is new was given back by the call (`Layer.record?_take_call`), and every sink was brought by the
creation of an instance (`Layer.strict_play`). That every device has its instance
(`Layer.rooted_play`) holds for all operations on the books, so for those of a run.
-/

set_option autoImplicit false

namespace HandleLedger

/-- The outcome gives the handle back, as an object of the kind, to a call that addresses the
instance or device. -/
def Request.Returns (l : Layer) : (r : Request) → r.shape.Outcome → ContextId → Kind → Handle → Prop
  | .createInstance .. => fun o id k h => o = .ok h ∧ l.instanceId h = id ∧ .apiInstance = k
  | .enumeratePhysicalDevices i => fun o id k h =>
    (∃ hs, o = .ok hs ∧ h ∈ hs) ∧ l.instanceId i = id ∧ .physicalDevice = k
  | .createDevice physicalDevice .. => fun o id k h =>
    o = .ok h ∧ l.instanceId physicalDevice = id ∧ .device = k
  | .getDeviceQueue device _ => fun (queue : Handle) id k h =>
    queue = h ∧ l.deviceId device = id ∧ .queue = k
  | .createDeviceChild device kind .. => fun o id k h =>
    o = .ok h ∧ l.deviceId device = id ∧ kind = k
  | .create what owner _ => fun o id k h =>
    o = .ok h ∧ l.ownerId what.child.scope owner = id ∧ what.child.kind = k
  | .getSwapchainImages device _ => fun o id k h =>
    (∃ hs, o = .ok hs ∧ h ∈ hs) ∧ l.deviceId device = id ∧ .image = k
  | .allocateCommandBuffers device .. => fun o id k h =>
    (∃ hs, o = .ok hs ∧ h ∈ hs) ∧ l.deviceId device = id ∧ .commandBuffer = k
  | .allocateDescriptorSets device .. => fun o id k h =>
    (∃ hs, o = .ok hs ∧ h ∈ hs) ∧ l.deviceId device = id ∧ .descriptorSet = k
  | _ => fun _ _ _ _ => False

/-! ## Changes of one domain -/

/-- The change keeps the sink and the parent, and what it brings to life is as stated. -/
structure Domain.Brings (R : Kind → Handle → Prop) (g : Domain → Domain) : Prop where
  sink : ∀ d, (g d).sink = d.sink
  parent : ∀ d, (g d).parent = d.parent
  live : ∀ d k h, ((g d).live k h).isSome → (d.live k h).isSome ∨ R k h

namespace Domain

variable {R : Kind → Handle → Prop} {g g' : Domain → Domain}

theorem Brings.comp (hg : Brings R g) (hg' : Brings R g') : Brings R fun d => g' (g d) where
  sink d := (hg'.sink (g d)).trans (hg.sink d)
  parent d := (hg'.parent (g d)).trans (hg.parent d)
  live d k h hlive := by
    rcases hg'.live (g d) k h hlive with hbefore | hbrought
    · exact hg.live d k h hbefore
    · exact .inr hbrought

theorem isSome_live_enter {k k' : Kind} {h h' : Handle} {life : Life} {d : Domain} :
    ((d.enter k h life).live k' h').isSome ↔ (d.live k' h').isSome ∨ k = k' ∧ h = h' := by
  show ((d.live k' h').or (if k = k' ∧ h = h' then some life else none)).isSome ↔ _
  rw [Option.isSome_or, Bool.or_eq_true]
  by_cases hs : k = k' ∧ h = h' <;> simp [hs]

theorem brings_enter {k : Kind} {h : Handle} (life : Life) (hR : R k h) :
    Brings R (·.enter k h life) where
  sink _ := rfl
  parent _ := rfl
  live d k' h' hlive := by
    rcases isSome_live_enter.mp hlive with hbefore | ⟨rfl, rfl⟩
    · exact .inl hbefore
    · exact .inr hR

/-- A change that only removes objects brings none. -/
theorem brings_of_live (hsink : ∀ d, (g d).sink = d.sink) (hparent : ∀ d, (g d).parent = d.parent)
    (hlive : ∀ d k h life, (g d).live k h = some life → d.live k h = some life) : Brings R g where
  sink := hsink
  parent := hparent
  live d k h hk := by
    obtain ⟨life, hlife⟩ := Option.isSome_iff_exists.mp hk
    exact .inl (Option.isSome_of_eq_some (hlive d k h life hlife))

theorem brings_remove (k : Kind) (h : Handle) : Brings R (·.remove k h) := by
  refine brings_of_live (fun _ => rfl) (fun _ => rfl) fun d k' h' life hlife => ?_
  have hlife' : (if k = k' ∧ h = h' then none else d.live k' h') = some life := hlife
  split at hlife'
  · cases hlife'
  · exact hlife'

theorem brings_removeChildren (k : Kind) (pool : Handle) : Brings R (·.removeChildren k pool) := by
  refine brings_of_live (fun _ => rfl) (fun _ => rfl) fun d k' h' life hlife => ?_
  have hlife' : (if k = k' then (d.live k' h').filter fun life => life.origin != pool
    else d.live k' h') = some life := hlife
  split at hlife'
  · exact (Option.filter_eq_some_iff.mp hlife').1
  · exact hlife'

theorem brings_takeAlong (child : Child) (h : Handle) : Brings R (child.takeAlong h) := by
  cases child with
  | commandPool => exact brings_removeChildren _ h
  | descriptorPool => exact brings_removeChildren _ h
  | _ => exact brings_of_live (fun _ => rfl) (fun _ => rfl) fun _ _ _ _ hlife => hlife

end Domain

/-! ## What every call keeps -/

/-- The property survives every change that the call can make. -/
structure Survival (l : Layer) (r : Request) (outcome : r.shape.Outcome) (P : Domains → Prop) :
    Prop where
  modify : ∀ D id g, Domain.Brings (r.Returns l outcome id) g → P D → P (D.modify id g)
  openInstance : ∀ custom sink h d, r = .createInstance custom sink → d.parent = none →
    d.sink = sink.getD l.defaultSink →
    (∀ k h', (d.live k h').isSome → r.Returns l outcome (l.instanceId h) k h') →
      P l.world.domains → P (l.world.domains.found (l.instanceId h) d)
  openDevice : ∀ h instanceKey parent capabilities,
    l.world.domains (.ofInstance instanceKey) = some parent → P l.world.domains →
      P (l.world.domains.found (l.deviceId h)
        (.barren h (some instanceKey) parent.sink capabilities))
  loseDevice : ∀ D key, P D → P (D.lose (.ofDevice key))
  loseInstance : ∀ D key, P D → P (D.loseInstance key)

namespace Survival

variable {l : Layer} {P : Domains → Prop}

theorem modifyAll {r : Request} {outcome : r.shape.Outcome} (hP : Survival l r outcome P)
    {id : ContextId} {g : Handle → Domain → Domain} :
    ∀ {hs : List Handle}, (∀ h ∈ hs, Domain.Brings (r.Returns l outcome id) (g h)) →
      ∀ {D : Domains}, P D → P (hs.foldl (fun D h => D.modify id (g h)) D)
  | [], _, _, hD => hD
  | h :: _, hg, D, hD =>
    hP.modifyAll (fun o ho => hg o (List.mem_cons_of_mem _ ho))
      (hP.modify D id (g h) (hg h (List.mem_cons_self ..)) hD)

theorem createDevice {physicalDevice h : Handle} {families : List UInt32} {custom : Bool}
    (hP : Survival l (.createDevice physicalDevice families custom) (.ok h) P)
    (hl : P l.world.domains) :
    P (Request.effect l.world (.createDevice physicalDevice families custom) (.ok h)) := by
  show P ((l.world.domains (l.instanceId physicalDevice)).elim l.world.domains fun parent =>
    (l.world.domains.found (l.deviceId h)
      (.barren h (some (l.keyOf physicalDevice)) parent.sink families)).modify
        (l.instanceId physicalDevice) (·.enter .device h ⟨custom, nullHandle⟩))
  cases hparent : l.world.domains (l.instanceId physicalDevice) with
  | none => exact hl
  | some parent =>
    refine hP.modify _ _ _ (Domain.brings_enter _ ⟨rfl, rfl, rfl⟩) ?_
    exact hP.openDevice h (l.keyOf physicalDevice) parent families hparent hl

theorem destroyDevice {h : Handle} {custom : Bool}
    (hP : Survival l (.destroyDevice h custom) () P) (hl : P l.world.domains) :
    P (Request.effect l.world (.destroyDevice h custom) ()) := by
  show P (if h = nullHandle then l.world.domains
    else (l.world.instanceOf h).elim l.world.domains fun id =>
      (l.world.domains.modify id (·.remove .device h)).lose (l.deviceId h))
  split
  · exact hl
  · cases l.world.instanceOf h with
    | none => exact hl
    | some id =>
      exact hP.loseDevice _ (l.keyOf h) (hP.modify _ _ _ (Domain.brings_remove _ _) hl)

theorem getDeviceQueue {device : Handle} {family : UInt32} {queue : Handle}
    (hP : Survival l (.getDeviceQueue device family) queue P) (hl : P l.world.domains) :
    P (Request.effect l.world (.getDeviceQueue device family) queue) := by
  show P (if queue = nullHandle then l.world.domains else _)
  split
  · exact hl
  · refine hP.modify _ _ _ (Domain.Brings.comp (Domain.brings_enter _ ⟨rfl, rfl, rfl⟩) ?_) hl
    exact Domain.brings_of_live (fun _ => rfl) (fun _ => rfl) fun _ _ _ _ hlife => hlife

/-- What survives every change that a call can make survives the call. -/
theorem effect {r : Request} {outcome : r.shape.Outcome} (hP : Survival l r outcome P)
    (hl : P l.world.domains) : P (r.effect l.world (r.deemed outcome)) := by
  cases r with
  | createInstance custom sink =>
    cases outcome with
    | error _ => exact hl
    | ok h =>
      refine hP.openInstance custom sink h _ rfl rfl rfl (fun k h' hlive => ?_) hl
      rcases Domain.isSome_live_enter.mp hlive with hbarren | ⟨rfl, rfl⟩
      · cases hbarren
      · exact ⟨rfl, rfl, rfl⟩
  | destroyInstance h custom =>
    show P (if h = nullHandle then l.world.domains else _)
    split
    · exact hl
    · exact hP.loseInstance _ (l.keyOf h) hl
  | enumeratePhysicalDevices i =>
    cases outcome with
    | error _ => exact hl
    | ok hs => exact hP.modifyAll (fun h hh => Domain.brings_enter _ ⟨⟨hs, rfl, hh⟩, rfl, rfl⟩) hl
  | createDevice physicalDevice families custom =>
    cases outcome with
    | error _ => exact hl
    | ok h => exact hP.createDevice hl
  | destroyDevice h custom => exact hP.destroyDevice hl
  | getDeviceQueue device family => exact hP.getDeviceQueue hl
  | queueSubmit => exact hl
  | queueBindSparse => exact hl
  | createDeviceChild device kind code custom =>
    cases outcome with
    | error _ => exact hl
    | ok h => exact hP.modify _ _ _ (Domain.brings_enter _ ⟨rfl, rfl, rfl⟩) hl
  | destroyDeviceChild device h kind custom codes =>
    show P (if h = nullHandle then l.world.domains else _)
    split
    · exact hl
    · exact hP.modify _ _ _ (Domain.brings_remove _ _) hl
  | create what owner custom =>
    cases outcome with
    | error _ => exact hl
    | ok h => exact hP.modify _ _ _ (Domain.brings_enter _ ⟨rfl, rfl, rfl⟩) hl
  | destroy child owner h custom =>
    show P (if h = nullHandle then l.world.domains else _)
    split
    · exact hl
    · exact hP.modify _ _ _ ((Domain.brings_remove _ _).comp (Domain.brings_takeAlong _ _)) hl
  | getSwapchainImages device swapchain =>
    cases outcome with
    | error _ => exact hl
    | ok hs =>
      refine hP.modifyAll (fun h _ => ?_) hl
      exact Domain.brings_of_live (fun _ => rfl) (fun _ => rfl) fun _ _ _ _ hlife => hlife
  | allocateCommandBuffers device pool level =>
    cases outcome with
    | error _ => exact hl
    | ok hs => exact hP.modifyAll (fun h hh => Domain.brings_enter _ ⟨⟨hs, rfl, hh⟩, rfl, rfl⟩) hl
  | freeCommandBuffers => exact hP.modifyAll (fun h _ => Domain.brings_remove _ h) hl
  | beginCommandBuffer => exact hl
  | resetDescriptorPool => exact hP.modify _ _ _ (Domain.brings_removeChildren _ _) hl
  | allocateDescriptorSets device pool layouts =>
    cases outcome with
    | error _ => exact hl
    | ok hs => exact hP.modifyAll (fun h hh => Domain.brings_enter _ ⟨⟨hs, rfl, hh⟩, rfl, rfl⟩) hl
  | freeDescriptorSets =>
    cases outcome with
    | error _ => exact hl
    | ok _ => exact hP.modifyAll (fun h _ => Domain.brings_remove _ h) hl
  | bindImageMemory => exact hl
  | bindBufferMemory => exact hl
  | mapMemory => exact hl
  | waitForFences => exact hl

end Survival

namespace Layer

theorem domains_take_of_runs {l : Layer} (hl : l.ledger.Filed) {c : Call} (hruns : l.Runs c) :
    (l.take (.call c)).ledger.domains = c.request.effect l.world (c.request.deemed c.outcome) :=
  congrArg World.domains (world_intercept hl ((l.runs_iff c).mp hruns))

/-- A call that is skipped changes nothing. -/
theorem ledger_take_of_not_runs {l : Layer} {c : Call} (hruns : ¬l.Runs c) :
    (l.take (.call c)).ledger = l.ledger := by
  have hskip : (c.request.passage l).check.skip = true := by
    rw [← Bool.not_eq_false, ← l.runs_iff c]
    exact hruns
  exact congrArg Step.ledger (Passage.run_of_skip hskip c.outcome l.ledger)

/-- What survives the changes that a call can make survives a turn. -/
theorem domains_take {P : Domains → Prop} {l : Layer} (hl : l.ledger.Filed) {t : Turn}
    (hP : ∀ c, t = .call c → Survival l c.request c.outcome P) (h : P l.ledger.domains) :
    P (l.take t).ledger.domains := by
  cases t with
  | bind pairs => exact h
  | call c =>
    by_cases hruns : l.Runs c
    · rw [domains_take_of_runs hl hruns]
      exact (hP c rfl).effect h
    · rw [ledger_take_of_not_runs hruns]
      exact h

/-- What survives each call of a run survives the run. -/
theorem domains_play {P : Domains → Prop} {l : Layer} {ts : List Turn} (hl : l.ledger.Filed)
    (hP : ∀ m : Layer, m.config = l.config → ∀ c, .call c ∈ ts →
      Survival m c.request c.outcome P)
    (h : P l.ledger.domains) : P (l.play ts).ledger.domains := by
  have hrun : (l.play ts).ledger.Filed ∧ (l.play ts).config = l.config ∧
      P (l.play ts).ledger.domains := by
    refine play_induction (P := fun m => m.ledger.Filed ∧ m.config = l.config ∧
      P m.ledger.domains) ?_ ⟨hl, rfl, h⟩
    rintro m t ht ⟨hm, hconfig, hdomains⟩
    refine ⟨filed_take hm t, (m.config_take t).trans hconfig, domains_take hm ?_ hdomains⟩
    rintro c rfl
    exact hP m hconfig c ht
  exact hrun.2.2

end Layer

/-! ## Sinks -/

/-- An instance that the turn creates gets a strict sink. -/
def Turn.Strict (fallback : Sink) : Turn → Prop
  | .bind _ => True
  | .call c => ∀ custom sink, c.request = .createInstance custom sink →
    (sink.getD fallback).Strict

/-- An instance that the turn creates reports to memory. -/
def Turn.toMemory : Turn → Bool
  | .call ⟨.createInstance _ (some ⟨_, .memory⟩), _⟩ => true
  | .call ⟨.createInstance _ _, _⟩ => false
  | _ => true

theorem Turn.policy_of_toMemory {custom : Bool} {sink : Option Sink}
    {outcome : Shape.handle.Outcome}
    (ht : (Turn.call ⟨.createInstance custom sink, outcome⟩).toMemory = true) :
    ∃ s, sink = some s ∧ s.policy = .memory := by
  rcases sink with _ | ⟨channel, policy⟩
  · cases ht
  · cases policy with
    | memory => exact ⟨_, rfl, rfl⟩
    | _ => cases ht

theorem Turn.strict_of_toMemory {ts : List Turn} (hts : ts.all Turn.toMemory = true)
    (fallback : Sink) : ∀ t ∈ ts, t.Strict fallback := by
  intro t ht
  have hmemory := List.all_eq_true.mp hts t ht
  cases t with
  | bind pairs => trivial
  | call c =>
    obtain ⟨request, outcome⟩ := c
    rintro custom sink rfl
    obtain ⟨s, rfl, hs⟩ := Turn.policy_of_toMemory hmemory
    exact Sink.strict_of_memory hs

/-- Every sink is strict. -/
def Domains.Strict (D : Domains) : Prop := ∀ id d, D id = some d → d.sink.Strict

theorem survival_strict {l : Layer} {c : Call} (hc : (Turn.call c).Strict l.defaultSink) :
    Survival l c.request c.outcome Domains.Strict where
  modify D id g hg hD id' d hd := by
    rw [Domains.modify] at hd
    split at hd
    · obtain ⟨d', hd', rfl⟩ := Option.map_eq_some_iff.mp hd
      exact (hg.sink d').symm ▸ hD id' d' hd'
    · exact hD id' d hd
  openInstance custom sink h d hr _ hsink _ hD id' d' hd' := by
    rw [Domains.found] at hd'
    split at hd'
    · cases hd'
      exact hsink.symm ▸ hc custom sink hr
    · exact hD id' d' hd'
  openDevice h instanceKey parent capabilities hparent hD id' d' hd' := by
    rw [Domains.found] at hd'
    split at hd'
    · -- a device reports to the sink of its instance
      cases hd'
      exact hD _ parent hparent
    · exact hD id' d' hd'
  loseDevice D key hD id' d hd := by
    rw [Domains.lose] at hd
    split at hd
    · cases hd
    · exact hD id' d hd
  loseInstance D key hD id' d hd := by
    rw [Domains.loseInstance] at hd
    split at hd
    · cases hd
    · exact hD id' d hd

namespace Layer

theorem strict_take {l : Layer} (hl : l.ledger.Filed) (hs : l.ledger.domains.Strict) {t : Turn}
    (ht : t.Strict l.defaultSink) : (l.take t).ledger.domains.Strict := by
  refine domains_take hl ?_ hs
  rintro c rfl
  exact survival_strict ht

variable (config : Config)

/-- If every instance is created with a strict sink, every sink is strict. -/
theorem strict_play {ts : List Turn} (hts : ∀ t ∈ ts, t.Strict (ofConfig config).defaultSink)
    {id : ContextId} {c : Context}
    (hc : ((ofConfig config).play ts).ledger.context? id = some c) : c.sink.Strict := by
  have hstrict : ((ofConfig config).play ts).ledger.domains.Strict := by
    refine domains_play (Ledger.every_empty _) (fun m hconfig call hcall => ?_) ?_
    · have hsink : m.defaultSink = (ofConfig config).defaultSink := by
        rw [defaultSink, hconfig]
        rfl
      exact survival_strict (hsink ▸ hts _ hcall)
    · rintro i d ⟨⟩
  exact hstrict id c.domain (Ledger.domains_of_eq_some hc)

/-! ## Devices and their instances -/

theorem rooted_play_ofConfig (ts : List Turn) : ((ofConfig config).play ts).ledger.Rooted :=
  keeps_play (l := ofConfig config) Ledger.Rooted.keeps_run Ledger.rooted_empty ts

/-- The instance of a device is on the books as long as the device is. -/
theorem rooted_play (ts : List Turn) {key : DispatchKey} {c : Context}
    (hc : ((ofConfig config).play ts).ledger.context? (.ofDevice key) = some c) :
    ∃ instanceKey root, ((ofConfig config).play ts).ledger.instanceOf key = some instanceKey ∧
      ((ofConfig config).play ts).ledger.context? (.ofInstance instanceKey) = some root := by
  have hrooted := rooted_play_ofConfig config ts
  obtain ⟨instanceKey, hparent, hsome⟩ := hrooted.descends key c hc
  obtain ⟨root, hroot⟩ := Option.isSome_iff_exists.mp hsome
  exact ⟨instanceKey, root, (Ledger.instanceOf_of_eq_some hc).trans hparent, hroot⟩

end Layer

end HandleLedger
