import HandleLedger.Proofs.Interception.Diagnosis
import HandleLedger.Proofs.Lifetime.Return

/-!
# Families of queues

Whether sparse binding on a queue is reported depends on two things only: the capabilities that were
given to the creation of its device, and the family that the queue was last retrieved from since
then (`Layer.sparse_since_retrieval`). Both are read off the run, not off the books: a `Tenure` is
the part of a run since the turn that registered a device, and `Layer.family?` looks for the last
retrieval in it.

What carries the proof is that no turn but such a creation gives a device new capabilities, and no
turn but a retrieval changes a family (`Domains.Continues`).
-/

set_option autoImplicit false

namespace HandleLedger

/-! ## Retrievals -/

/-- The family that the call retrieves the queue from, if it does. A call that gives null back
retrieves no queue. -/
def Request.family? (l : Layer) (key : DispatchKey) (queue : Handle) :
    (r : Request) → r.shape.Outcome → Option UInt32
  | .getDeviceQueue device family => fun (given : Handle) =>
    if l.keyOf device = key ∧ given = queue ∧ given ≠ nullHandle then some family else none
  | _ => fun _ => none

/-- The family that the turn retrieves the queue from, if it does. -/
def Turn.family? (l : Layer) (key : DispatchKey) (queue : Handle) : Turn → Option UInt32
  | .bind _ => none
  | .call c => c.request.family? l key queue c.outcome

/-- The family that the run last retrieves the queue from, if it does at all. -/
def Layer.family? (l : Layer) (key : DispatchKey) (queue : Handle) : List Turn → Option UInt32
  | [] => none
  | t :: ts => ((l.take t).family? key queue ts).or (t.family? l key queue)

/-! ## Registrations -/

/-- The call creates a device of a known instance under the key, and is given these capabilities of
the queue families. -/
def Request.Founds (l : Layer) (key : DispatchKey) (families : List UInt32) :
    (r : Request) → r.shape.Outcome → Prop
  | .createDevice physicalDevice given _ => fun o =>
    (l.ledger.context? (l.instanceId physicalDevice)).isSome ∧
      (∃ h, o = .ok h ∧ l.keyOf h = key) ∧ given = families
  | _ => fun _ => False

/-- The turn registers a device under the key. -/
def Turn.Founds (l : Layer) (key : DispatchKey) (families : List UInt32) : Turn → Prop
  | .bind _ => False
  | .call c => l.Runs c ∧ c.request.Founds l key families c.outcome

/-- Some turn of the run registers a device under the key. -/
def Layer.Founded (l : Layer) (key : DispatchKey) : List Turn → Prop
  | [] => False
  | t :: ts => (∃ families, t.Founds l key families) ∨ (l.take t).Founded key ts

/-- The part of a run since a device was last registered under the key. -/
structure Tenure (l : Layer) (key : DispatchKey) (ts : List Turn) where
  before : List Turn
  founding : Turn
  since : List Turn
  /-- The capabilities of the queue families that the creation of the device was given. -/
  families : List UInt32
  split : ts = before ++ founding :: since
  founds : founding.Founds (l.play before) key families
  last : ¬((l.play before).take founding).Founded key since

/-- The family that a queue was last retrieved from since the device was registered. -/
def Tenure.family? {l : Layer} {key : DispatchKey} {ts : List Turn} (T : Tenure l key ts)
    (queue : Handle) : Option UInt32 :=
  ((l.play T.before).take T.founding).family? key queue T.since

/-- The tenure of a run in which something comes first. -/
def Tenure.cons {l : Layer} {key : DispatchKey} {t : Turn} {ts : List Turn}
    (T : Tenure (l.take t) key ts) : Tenure l key (t :: ts) where
  before := t :: T.before
  founding := T.founding
  since := T.since
  families := T.families
  split := congrArg (t :: ·) T.split
  founds := T.founds
  last := T.last

/-- Where a device has been registered there is a last time. -/
theorem Layer.nonempty_tenure {key : DispatchKey} {ts : List Turn} :
    ∀ {l : Layer}, l.Founded key ts → Nonempty (Tenure l key ts) := by
  induction ts with
  | nil => exact fun hts => absurd hts id
  | cons t ts ih =>
    intro l hts
    by_cases hlater : (l.take t).Founded key ts
    · exact (ih hlater).map Tenure.cons
    · obtain ⟨families, ht⟩ := hts.resolve_right hlater
      exact ⟨[], t, ts, families, rfl, ht, hlater⟩

/-! ## What goes on -/

/-- The second domain has the capabilities of the first, and its families with these notes put over
them. -/
structure Domain.Continues (notes : Handle → Option UInt32) (d d' : Domain) : Prop where
  capabilities : d'.capabilities = d.capabilities
  family : ∀ queue, d'.family queue = (notes queue).or (d.family queue)

/-- The change leaves capabilities and families alone. -/
structure Domain.Quiet (g : Domain → Domain) : Prop where
  capabilities : ∀ d, (g d).capabilities = d.capabilities
  family : ∀ d, (g d).family = d.family

namespace Domain

variable {g g' : Domain → Domain}

theorem Quiet.comp (hg : Quiet g) (hg' : Quiet g') : Quiet fun d => g' (g d) where
  capabilities d := (hg'.capabilities (g d)).trans (hg.capabilities d)
  family d := (hg'.family (g d)).trans (hg.family d)

theorem quiet_enter (k : Kind) (h : Handle) (life : Life) : Quiet (·.enter k h life) :=
  ⟨fun _ => rfl, fun _ => rfl⟩

theorem quiet_enterImage (image swapchain : Handle) : Quiet (·.enterImage image swapchain) :=
  ⟨fun _ => rfl, fun _ => rfl⟩

theorem quiet_remove (k : Kind) (h : Handle) : Quiet (·.remove k h) :=
  ⟨fun _ => rfl, fun _ => rfl⟩

theorem quiet_removeChildren (k : Kind) (pool : Handle) : Quiet (·.removeChildren k pool) :=
  ⟨fun _ => rfl, fun _ => rfl⟩

theorem quiet_takeAlong (child : Child) (h : Handle) : Quiet (child.takeAlong h) := by
  cases child with
  | _ => exact ⟨fun _ => rfl, fun _ => rfl⟩

end Domain

namespace Domains

/-- What is alive under the identity continues what was, if anything is. -/
def Continues (id : ContextId) (notes : Handle → Option UInt32) (D D' : Domains) : Prop :=
  ∀ d', D' id = some d' → ∃ d, D id = some d ∧ d.Continues notes d'

namespace Continues

variable {id : ContextId} {notes notes' : Handle → Option UInt32} {D D' D'' : Domains}

theorem refl (id : ContextId) (D : Domains) : D.Continues id (fun _ => none) D :=
  fun d hd => ⟨d, hd, rfl, fun _ => rfl⟩

theorem trans (h : D.Continues id notes D') (h' : D'.Continues id notes' D'') :
    D.Continues id (fun queue => (notes' queue).or (notes queue)) D'' := by
  intro d'' hd''
  obtain ⟨d', hd', hcap', hfam'⟩ := h' d'' hd''
  obtain ⟨d, hd, hcap, hfam⟩ := h d' hd'
  refine ⟨d, hd, hcap'.trans hcap, fun queue => ?_⟩
  rw [hfam', hfam, Option.or_assoc]

/-- What is not alive afterwards has nothing to continue. -/
theorem of_eq_or_none (h : D.Continues id notes D') (hD : D'' id = D' id ∨ D'' id = none) :
    D.Continues id notes D'' := by
  intro d hd
  rcases hD with hsame | hnone
  · exact h d (hsame.symm.trans hd)
  · rw [hnone] at hd
    cases hd

theorem modify (h : D.Continues id notes D') {id' : ContextId} {g : Domain → Domain}
    (hg : Domain.Quiet g) : D.Continues id notes (D'.modify id' g) := by
  intro d' hd'
  by_cases hid : id' = id
  · subst hid
    rw [modify_self, Option.map_eq_some_iff] at hd'
    obtain ⟨e, he, rfl⟩ := hd'
    obtain ⟨d, hd, hcap, hfam⟩ := h e he
    exact ⟨d, hd, (hg.capabilities e).trans hcap, (hg.family e).symm ▸ hfam⟩
  · exact h d' ((modify_of_ne hid).symm.trans hd')

theorem modifyAll {id' : ContextId} {g : Handle → Domain → Domain}
    (hg : ∀ h, Domain.Quiet (g h)) :
    ∀ (hs : List Handle) {D' : Domains}, D.Continues id notes D' →
      D.Continues id notes (hs.foldl (fun D h => D.modify id' (g h)) D')
  | [], _, h => h
  | o :: hs, _, h => modifyAll hg hs (h.modify (hg o))

theorem found (h : D.Continues id notes D') {id' : ContextId} (hne : id' ≠ id) (d : Domain) :
    D.Continues id notes (D'.found id' d) :=
  h.of_eq_or_none (.inl (found_of_ne hne))

theorem lose (h : D.Continues id notes D') (id' : ContextId) :
    D.Continues id notes (D'.lose id') := by
  refine h.of_eq_or_none ?_
  by_cases hid : id' = id
  · exact .inr (if_pos hid)
  · exact .inl (lose_of_ne hid)

theorem loseInstance (h : D.Continues id notes D') (key : DispatchKey) :
    D.Continues id notes (D'.loseInstance key) := by
  refine h.of_eq_or_none ?_
  rw [Domains.loseInstance]
  split
  · exact .inr rfl
  · exact .inl rfl

/-- A family that is noted comes over the one that was noted before. -/
theorem setFamily (h : D.Continues id (fun _ => none) D') (id' : ContextId) (queue : Handle)
    (family : UInt32) :
    D.Continues id (fun q => if id' = id ∧ queue = q then some family else none)
      (D'.modify id' (·.setFamily queue family)) := by
  intro d' hd'
  by_cases hid : id' = id
  · subst hid
    rw [modify_self, Option.map_eq_some_iff] at hd'
    obtain ⟨e, he, rfl⟩ := hd'
    obtain ⟨d, hd, hcap, hfam⟩ := h e he
    refine ⟨d, hd, hcap, fun q => ?_⟩
    show (if queue = q then some family else e.family q) = _
    rw [hfam q]
    by_cases hq : queue = q
    · rw [if_pos hq, if_pos ⟨rfl, hq⟩]
      rfl
    · rw [if_neg hq, if_neg fun hs => hq hs.2]
  · obtain ⟨d, hd, hcap, hfam⟩ := h d' ((modify_of_ne hid).symm.trans hd')
    refine ⟨d, hd, hcap, fun q => ?_⟩
    rw [hfam q, if_neg fun hs => hid hs.1]

end Continues

end Domains

/-! ## What calls do -/

section Effect

variable {l : Layer} {key : DispatchKey}

/-- The device of a creation begins with the capabilities that it is given, and no queue has been
retrieved from it. -/
theorem Request.Founds.effect {families : List UInt32} {r : Request} {outcome : r.shape.Outcome}
    (hr : r.Founds l key families outcome) :
    ∃ d, r.effect l.world (r.deemed outcome) (.ofDevice key) = some d ∧
      d.capabilities = families ∧ ∀ queue, d.family queue = none := by
  cases r with
  | createDevice physicalDevice given custom =>
    obtain ⟨hknown, ⟨h, rfl, rfl⟩, rfl⟩ := hr
    obtain ⟨c, hc⟩ := Option.isSome_iff_exists.mp hknown
    have hparent : l.world.domains (l.instanceId physicalDevice) = some c.domain :=
      Ledger.domains_of_eq_some hc
    refine ⟨.barren h (some (l.keyOf physicalDevice)) c.sink given, ?_, rfl, fun _ => rfl⟩
    show ((l.world.domains (l.instanceId physicalDevice)).elim l.world.domains fun parent =>
      (l.world.domains.found (l.deviceId h)
        (.barren h (some (l.keyOf physicalDevice)) parent.sink given)).modify
          (l.instanceId physicalDevice) (·.enter .device h ⟨custom, nullHandle⟩))
            (l.deviceId h) = _
    rw [hparent]
    exact (Domains.modify_of_ne ContextId.ofInstance_ne_ofDevice).trans (if_pos rfl)
  | _ => exact absurd hr id

namespace Domains.Continues

theorem createDevice {physicalDevice : Handle} {families : List UInt32} {custom : Bool}
    {h : Handle}
    (hr : ∀ families', ¬Request.Founds l key families'
      (.createDevice physicalDevice families custom) (.ok h)) :
    l.world.domains.Continues (.ofDevice key) (fun _ => none)
      (Request.effect l.world (.createDevice physicalDevice families custom) (.ok h)) := by
  show Continues _ _ _ ((l.world.domains (l.instanceId physicalDevice)).elim l.world.domains
    fun parent => (l.world.domains.found (l.deviceId h)
      (.barren h (some (l.keyOf physicalDevice)) parent.sink families)).modify
        (l.instanceId physicalDevice) (·.enter .device h ⟨custom, nullHandle⟩))
  cases hparent : l.world.domains (l.instanceId physicalDevice) with
  | none => exact refl _ _
  | some parent =>
    obtain ⟨c, hc, -⟩ := Ledger.domains_eq_some_iff.mp hparent
    -- under the key the device of a known instance would have been registered
    have hother : l.deviceId h ≠ .ofDevice key := fun hid =>
      hr families ⟨Option.isSome_of_eq_some hc, ⟨h, rfl, congrArg ContextId.key hid⟩, rfl⟩
    exact ((refl _ _).found hother _).modify (Domain.quiet_enter ..)

theorem destroyDevice (h : Handle) (custom : Bool) :
    l.world.domains.Continues (.ofDevice key) (fun _ => none)
      (Request.effect l.world (.destroyDevice h custom) ()) := by
  show Continues _ _ _ (if h = nullHandle then l.world.domains
    else (l.world.instanceOf h).elim l.world.domains fun id =>
      (l.world.domains.modify id (·.remove .device h)).lose (l.deviceId h))
  split
  · exact refl _ _
  · cases l.world.instanceOf h with
    | none => exact refl _ _
    | some id => exact ((refl _ _).modify (Domain.quiet_remove .device h)).lose _

theorem getDeviceQueue (device queue : Handle) (family : UInt32) :
    l.world.domains.Continues (.ofDevice key)
      (fun q => Request.family? l key q (.getDeviceQueue device family) queue)
      (Request.effect l.world (.getDeviceQueue device family) queue) := by
  show Continues _ (fun q => if l.keyOf device = key ∧ queue = q ∧ queue ≠ nullHandle then
    some family else none) _ (if queue = nullHandle then l.world.domains else _)
  split
  · rename_i hqueue
    have hnone : (fun q => if l.keyOf device = key ∧ queue = q ∧ queue ≠ nullHandle then
        some family else none) = fun _ => none := by
      funext q
      exact if_neg fun hs => hs.2.2 hqueue
    rw [hnone]
    exact refl _ _
  · rename_i hqueue
    have hnotes : (fun q => if l.keyOf device = key ∧ queue = q ∧ queue ≠ nullHandle then
        some family else none) =
        fun q => if l.deviceId device = .ofDevice key ∧ queue = q then some family else none := by
      funext q
      have hid : l.deviceId device = .ofDevice key ↔ l.keyOf device = key :=
        ⟨congrArg ContextId.key, congrArg ContextId.ofDevice⟩
      simp only [hid, ne_eq, hqueue, not_false_eq_true, and_true]
    have hentered : l.world.domains.Continues (.ofDevice key) (fun _ => none)
        (l.world.domains.modify (l.deviceId device) (·.enter .queue queue ⟨false, nullHandle⟩)) :=
      (refl _ _).modify (Domain.quiet_enter ..)
    have hset := hentered.setFamily (l.deviceId device) queue family
    rw [modify_modify] at hset
    rw [hnotes]
    exact hset

/-- A call that registers no device under the key changes nothing but the family of a queue that it
retrieves. -/
theorem effect {r : Request} {outcome : r.shape.Outcome}
    (hr : ∀ families, ¬r.Founds l key families outcome) :
    l.world.domains.Continues (.ofDevice key) (fun queue => r.family? l key queue outcome)
      (r.effect l.world (r.deemed outcome)) := by
  have hrefl := refl (.ofDevice key) l.world.domains
  cases r with
  | createInstance custom sink =>
    cases outcome with
    | error _ => exact hrefl
    | ok h => exact hrefl.found ContextId.ofInstance_ne_ofDevice _
  | destroyInstance h custom =>
    show Continues _ _ _ (if h = nullHandle then l.world.domains else _)
    split
    · exact hrefl
    · exact hrefl.loseInstance (l.keyOf h)
  | enumeratePhysicalDevices i =>
    cases outcome with
    | error _ => exact hrefl
    | ok hs => exact modifyAll (fun o => Domain.quiet_enter _ o _) hs hrefl
  | createDevice physicalDevice families custom =>
    cases outcome with
    | error _ => exact hrefl
    | ok h => exact createDevice hr
  | destroyDevice h custom => exact destroyDevice h custom
  | getDeviceQueue device family => exact getDeviceQueue device outcome family
  | createDeviceChild device kind code custom =>
    cases outcome with
    | error _ => exact hrefl
    | ok h => exact hrefl.modify (Domain.quiet_enter _ h _)
  | destroyDeviceChild device h kind custom codes =>
    show Continues _ _ _ (if h = nullHandle then l.world.domains else _)
    split
    · exact hrefl
    · exact hrefl.modify (Domain.quiet_remove kind h)
  | create what o custom =>
    cases outcome with
    | error _ => exact hrefl
    | ok h => exact hrefl.modify (Domain.quiet_enter _ h _)
  | destroy child o h custom =>
    show Continues _ _ _ (if h = nullHandle then l.world.domains else _)
    split
    · exact hrefl
    · exact hrefl.modify ((Domain.quiet_remove child.kind h).comp (Domain.quiet_takeAlong child h))
  | getSwapchainImages device swapchain =>
    cases outcome with
    | error _ => exact hrefl
    | ok hs => exact modifyAll (fun o => Domain.quiet_enterImage o swapchain) hs hrefl
  | allocateCommandBuffers device pool =>
    cases outcome with
    | error _ => exact hrefl
    | ok hs => exact modifyAll (fun o => Domain.quiet_enter _ o _) hs hrefl
  | freeCommandBuffers device pool hs =>
    exact modifyAll (fun o => Domain.quiet_remove _ o) (Layer.nonNull hs) hrefl
  | resetDescriptorPool device pool =>
    exact hrefl.modify (Domain.quiet_removeChildren .descriptorSet pool)
  | allocateDescriptorSets device pool layouts =>
    cases outcome with
    | error _ => exact hrefl
    | ok hs => exact modifyAll (fun o => Domain.quiet_enter _ o _) hs hrefl
  | freeDescriptorSets device pool hs =>
    cases outcome with
    | error _ => exact hrefl
    | ok _ => exact modifyAll (fun o => Domain.quiet_remove _ o) (Layer.nonNull hs) hrefl
  | _ => exact hrefl

end Domains.Continues

end Effect

/-! ## Runs -/

/-- How a turn leaves the device that it registers. -/
theorem Turn.Founds.domain {l : Layer} {key : DispatchKey} {families : List UInt32} {t : Turn}
    (ht : t.Founds l key families) (hl : l.ledger.Filed) :
    ∃ d, (l.take t).ledger.domains (.ofDevice key) = some d ∧
      d.capabilities = families ∧ ∀ queue, d.family queue = none := by
  cases t with
  | bind pairs => exact absurd ht id
  | call c =>
    rw [Layer.domains_take_of_runs hl ht.1]
    exact ht.2.effect

namespace Layer

variable {l : Layer} {key : DispatchKey}

/-- The retrieval of a queue always runs. -/
theorem runs_getDeviceQueue (l : Layer) (device : Handle) (family : UInt32) (queue : Handle) :
    l.Runs ⟨.getDeviceQueue device family, queue⟩ :=
  (l.runs_iff _).mpr rfl

/-- A call that is skipped retrieves nothing. -/
theorem family?_of_not_runs {c : Call} (hruns : ¬l.Runs c) (queue : Handle) :
    c.request.family? l key queue c.outcome = none := by
  obtain ⟨request, outcome⟩ := c
  cases request with
  | getDeviceQueue device family => exact absurd (l.runs_getDeviceQueue device family outcome) hruns
  | _ => rfl

/-- What one turn does to a device that it does not register. -/
theorem continues_take (hl : l.ledger.Filed) {t : Turn}
    (ht : ∀ families, ¬t.Founds l key families) :
    l.ledger.domains.Continues (.ofDevice key) (fun queue => t.family? l key queue)
      (l.take t).ledger.domains := by
  cases t with
  | bind pairs => exact .refl _ _
  | call c =>
    by_cases hruns : l.Runs c
    · rw [domains_take_of_runs hl hruns]
      exact .effect fun families hc => ht families ⟨hruns, hc⟩
    · rw [ledger_take_of_not_runs hruns]
      have hnone : (fun queue => Turn.family? l key queue (.call c)) = fun _ => none :=
        funext (family?_of_not_runs hruns)
      rw [hnone]
      exact .refl _ _

/-- What a run does to a device that it does not register. -/
theorem continues_play {ts : List Turn} :
    ∀ {l : Layer}, l.ledger.Filed → ¬l.Founded key ts →
      l.ledger.domains.Continues (.ofDevice key) (fun queue => l.family? key queue ts)
        (l.play ts).ledger.domains := by
  -- the rest of a run is a run of the layer after its first turn
  induction ts with
  | nil => exact fun _ _ => .refl _ _
  | cons t ts ih =>
    intro l hl hts
    have hhead := continues_take hl fun families ht => hts (.inl ⟨families, ht⟩)
    exact hhead.trans (ih (filed_take hl t) fun hrest => hts (.inr hrest))

/-- A device that a run leaves registered was registered by it, if none was before. -/
theorem founded_of_isSome (hl : l.ledger.Filed) (hnone : l.ledger.context? (.ofDevice key) = none)
    {ts : List Turn} (hknown : ((l.play ts).ledger.context? (.ofDevice key)).isSome) :
    l.Founded key ts := by
  by_contra hts
  obtain ⟨c, hc⟩ := Option.isSome_iff_exists.mp hknown
  obtain ⟨d, hd, -⟩ := continues_play hl hts c.domain (Ledger.domains_of_eq_some hc)
  rw [Ledger.domains_of_eq_none hnone] at hd
  cases hd

end Layer

/-- The books of a device hold the capabilities and families of its tenure. -/
theorem Tenure.domain_eq {l : Layer} {key : DispatchKey} {ts : List Turn} (T : Tenure l key ts)
    (hl : l.ledger.Filed) {d : Domain}
    (hd : (l.play ts).ledger.domains (.ofDevice key) = some d) :
    d.capabilities = T.families ∧ ∀ queue, d.family queue = T.family? queue := by
  have hbefore := Layer.filed_play hl T.before
  have hplay : l.play ts = ((l.play T.before).take T.founding).play T.since := by
    conv_lhs => rw [T.split]
    rw [Layer.play, List.foldl_append]
    rfl
  rw [hplay] at hd
  -- what the device has now it has had since its registration, and the notes on queues since then
  obtain ⟨e, he, hcap, hfam⟩ := Layer.continues_play (Layer.filed_take hbefore _) T.last d hd
  obtain ⟨e', he', hgiven, hnone⟩ := T.founds.domain hbefore
  rw [he', Option.some.injEq] at he
  subst he
  refine ⟨hcap.trans hgiven, fun queue => ?_⟩
  rw [hfam queue, hnone queue, Option.or_none]
  rfl

/-! ## The check -/

/-- There is a family, it is one of these, and it does not support sparse binding. -/
def LacksSparse (families : List UInt32) : Option UInt32 → Prop
  | none => False
  | some family => ∃ h : family.toNat < families.length,
    families[family.toNat] &&& Ledger.sparseBit ≠ Ledger.sparseBit

instance (families : List UInt32) :
    (family : Option UInt32) → Decidable (LacksSparse families family)
  | none => inferInstanceAs (Decidable False)
  | some family => inferInstanceAs (Decidable (∃ _ : family.toNat < families.length, _))

namespace Ledger

variable {l : Ledger} {id : ContextId} {c : Context}

/-- The check of an argument reports no code but those of the argument. -/
theorem code_of_mem_checkArgument {a : Argument} {r : Report}
    (hr : r ∈ (l.checkArgument id a).trace.reports) :
    a.invalid = r.code ∨ a.wrongDevice = some r.code := by
  cases hc : l.context? id with
  | none =>
    rw [(idle_checkArgument hc a).reports] at hr
    cases hr
  | some c =>
    rcases checkArgument_eq_pass_or_ask hc a with hpass | ⟨code, finding, hcode, hask⟩
    · rw [hpass] at hr
      cases hr
    · rw [hask] at hr
      rw [List.mem_singleton.mp hr]
      exact hcode

/-- A code that no argument has is not reported about them. -/
theorem filter_checkArguments_eq_nil {as : List Argument} {code : Code}
    (hinvalid : code ∉ as.map (·.invalid)) (hwrong : some code ∉ as.map (·.wrongDevice)) :
    (l.checkArguments id as).trace.reports.filter (·.code = code) = [] := by
  rw [List.filter_eq_nil_iff]
  intro r hr hcode
  rw [decide_eq_true_eq] at hcode
  subst hcode
  rw [checkArguments, Check.reports_all, List.flatMap_map] at hr
  obtain ⟨a, ha, hr⟩ := List.mem_flatMap.mp hr
  rcases code_of_mem_checkArgument hr with hcode | hcode
  · exact hinvalid (List.mem_map.mpr ⟨a, ha, hcode⟩)
  · exact hwrong (List.mem_map.mpr ⟨a, ha, hcode⟩)

/-- The capabilities of a queue are those of its family. -/
theorem lacksSparse_iff (queue : Handle) :
    LacksSparse c.domain.capabilities (c.domain.family queue) ↔
      ∃ flags, queueFlags? c queue = some flags ∧ flags &&& sparseBit ≠ sparseBit := by
  have hflags : queueFlags? c queue =
      (c.domain.family queue).bind (c.domain.capabilities[·.toNat]?) := rfl
  rw [hflags]
  cases c.domain.family queue with
  | none =>
    constructor
    · exact False.elim
    · rintro ⟨flags, hnone, -⟩
      cases hnone
  | some family =>
    constructor
    · rintro ⟨hlt, hlacks⟩
      exact ⟨_, List.getElem?_eq_getElem hlt, hlacks⟩
    · rintro ⟨flags, hfamily, hlacks⟩
      obtain ⟨hlt, rfl⟩ := List.getElem?_eq_some_iff.mp hfamily
      exact ⟨hlt, hlacks⟩

section Sparse

variable {device : DispatchKey} (hc : l.context? (.ofDevice device) = some c) {queue : Handle}
include hc

theorem checkSparse_of_lacks (hlacks : LacksSparse c.domain.capabilities (c.domain.family queue))
    (call : String) :
    l.checkSparse device queue call =
      .ask c.sink (.error .queue queue Code.sparseQueue (.notSparse call)) := by
  obtain ⟨flags, hflags, hbit⟩ := (lacksSparse_iff queue).mp hlacks
  rw [checkSparse, within_of_eq_some hc]
  simp only [hflags]
  exact if_neg hbit

theorem checkSparse_of_not_lacks
    (hlacks : ¬LacksSparse c.domain.capabilities (c.domain.family queue)) (call : String) :
    l.checkSparse device queue call = .pass := by
  rw [checkSparse, within_of_eq_some hc]
  cases hflags : queueFlags? c queue with
  | none => rfl
  | some flags =>
    refine if_pos (by_contra fun hbit => hlacks ?_)
    exact (lacksSparse_iff queue).mpr ⟨flags, hflags, hbit⟩

end Sparse

end Ledger

namespace Layer

/-- Of what sparse binding reports, only the check of the family has the code for it. -/
theorem reports_queueBindSparse (l : Layer) (queue fence : Handle)
    (outcome : Except ResultCode Unit) :
    (l.intercept ⟨.queueBindSparse queue fence, outcome⟩).trace.reports.filter
        (·.code = Code.sparseQueue) =
      (l.ledger.checkSparse (l.keyOf queue) queue "vkQueueBindSparse").trace.reports.filter
        (·.code = Code.sparseQueue) := by
  have hrun : (l.intercept ⟨.queueBindSparse queue fence, outcome⟩).trace.reports =
      (l.queueBindSparse queue fence).check.trace.reports := by
    have hsorted := l.sorted_passage (.queueBindSparse queue fence)
    refine (hsorted.trace_run rfl outcome l.ledger).2.trans ?_
    -- nothing is entered after the call
    exact (congrArg _ (ite_self [])).trans (List.append_nil _)
  rw [hrun, queueBindSparse]
  show (Check.trace (_ ++ _)).reports.filter _ = _
  rw [Check.trace_append, Trace.reports_append, List.filter_append,
    Ledger.filter_checkArguments_eq_nil ?invalid ?wrongDevice]
  · rfl
  case invalid =>
    show Code.sparseQueue ∉ (["VUID-vkQueueBindSparse-queue-parameter",
      "VUID-vkQueueBindSparse-fence-parameter"] : List Code)
    decide
  case wrongDevice =>
    show some Code.sparseQueue ∉ ([some "VUID-vkQueueBindSparse-commonparent",
      some "VUID-vkQueueBindSparse-commonparent"] : List (Option Code))
    decide

/-- In any run that leaves a device registered under the key there is a last registration of it.
What sparse binding on a queue of the device reports is then read off what came since: an error
about the family of the queue, once, if the queue has been retrieved since and the family that it
was retrieved from last is one of those given at the registration and does not support sparse
binding, and otherwise nothing about the family. -/
theorem sparse_since_retrieval (config : Config) (ts : List Turn) (key : DispatchKey) :
    let l := (ofConfig config).play ts
    (l.ledger.context? (.ofDevice key)).isSome →
      Nonempty (Tenure (ofConfig config) key ts) ∧
        ∀ (T : Tenure (ofConfig config) key ts) (queue fence : Handle)
          (outcome : Except ResultCode Unit), l.keyOf queue = key →
          let sparse := (l.intercept ⟨.queueBindSparse queue fence, outcome⟩).trace.reports.filter
            (·.code = Code.sparseQueue)
          (LacksSparse T.families (T.family? queue) →
            sparse = [.error .queue queue Code.sparseQueue (.notSparse "vkQueueBindSparse")]) ∧
          (¬LacksSparse T.families (T.family? queue) → sparse = []) := by
  intro l hknown
  have hempty : (ofConfig config).ledger.Filed := Ledger.every_empty _
  refine ⟨nonempty_tenure (founded_of_isSome hempty rfl hknown), ?_⟩
  intro T queue fence outcome hkey sparse
  obtain ⟨c, hc⟩ := Option.isSome_iff_exists.mp hknown
  obtain ⟨hcap, hfam⟩ := T.domain_eq hempty (Ledger.domains_of_eq_some hc)
  have hsparse : sparse = (l.ledger.checkSparse key queue "vkQueueBindSparse").trace.reports.filter
      (·.code = Code.sparseQueue) := hkey ▸ l.reports_queueBindSparse queue fence outcome
  rw [hsparse, ← hcap, ← hfam queue]
  constructor
  · intro hlacks
    rw [Ledger.checkSparse_of_lacks hc hlacks]
    rfl
  · intro hlacks
    rw [Ledger.checkSparse_of_not_lacks hc hlacks]
    rfl

/-- A queue is retrieved from a family of the device. -/
def queueRetrieval (family : UInt32) (queue : Handle) : Turn :=
  .call ⟨.getDeviceQueue 3 family, queue⟩

/-- A device is destroyed after a queue has been retrieved from it. -/
def firstTenure : List Turn :=
  deviceCreation ++
    [.bind [(5, 20), (6, 20)], queueRetrieval 1 5, .call ⟨.destroyDevice 3 false, ()⟩]

/-- A device is created under the same key. Two queues are retrieved from its second family, and
then one of them from the first. -/
def secondTenure : List Turn :=
  firstTenure ++
    [.call ⟨.createDevice 2 [1, 8] false, .ok 3⟩,
      queueRetrieval 1 5, queueRetrieval 1 6, queueRetrieval 0 5]

/-- The tenure of the second device. -/
def tenureOfSecond : Tenure (ofConfig ⟨.default⟩) 20 secondTenure where
  before := firstTenure
  founding := .call ⟨.createDevice 2 [1, 8] false, .ok 3⟩
  since := [queueRetrieval 1 5, queueRetrieval 1 6, queueRetrieval 0 5]
  families := [1, 8]
  split := rfl
  founds := ⟨by decide +kernel, by decide +kernel, ⟨3, rfl, by decide +kernel⟩, rfl⟩
  last := by
    rintro (⟨_, _, h⟩ | ⟨_, _, h⟩ | ⟨_, _, h⟩ | h)
    · exact h
    · exact h
    · exact h
    · exact h

/-- Of the two queues the one that was retrieved from the first family last is reported. -/
theorem sparse_on_second_device :
    let l := (ofConfig ⟨.default⟩).play secondTenure
    let T := tenureOfSecond
    let lacks (queue : Handle) : Prop := LacksSparse T.families (T.family? queue)
    let sparse (queue : Handle) : List Report :=
      (l.intercept ⟨.queueBindSparse queue nullHandle, .ok ()⟩).trace.reports.filter
        (·.code = Code.sparseQueue)
    (l.ledger.context? (.ofDevice 20)).isSome ∧ l.keyOf 5 = 20 ∧ l.keyOf 6 = 20 ∧
      lacks 5 ∧ ¬lacks 6 ∧
      sparse 5 = [.error .queue 5 Code.sparseQueue (.notSparse "vkQueueBindSparse")] ∧
      sparse 6 = [] := by
  intro l T lacks sparse
  have hknown : (l.ledger.context? (.ofDevice 20)).isSome := by decide +kernel
  have hfirst : l.keyOf 5 = 20 := by decide +kernel
  have hsecond : l.keyOf 6 = 20 := by decide +kernel
  have hlacks : lacks 5 := by decide +kernel
  have hcapable : ¬lacks 6 := by decide +kernel
  obtain ⟨-, hreports⟩ := sparse_since_retrieval ⟨.default⟩ secondTenure 20 hknown
  exact ⟨hknown, hfirst, hsecond, hlacks, hcapable,
    (hreports T 5 nullHandle (.ok ()) hfirst).1 hlacks,
    (hreports T 6 nullHandle (.ok ()) hsecond).2 hcapable⟩

end Layer

end HandleLedger
