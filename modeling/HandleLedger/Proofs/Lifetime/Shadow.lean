import HandleLedger.Proofs.Lifetime.World

/-!
# Worlds that lack descriptor sets

A world lies within another (`Domains.Within`) if it lacks some of the descriptor sets that are
alive there and agrees with it in all else. A failed reset that is taken to succeed leads to such a
world, and no well-behaved call leads out of it (`Domains.Within.effect`). A call that is well
behaved is so in the lesser world too if it finds there what it frees or destroys
(`Request.Finds`, `Request.Permitted.under`).
-/

set_option autoImplicit false

namespace HandleLedger

/-- The domain lacks some descriptor sets and agrees with the other in all else. -/
structure Domain.Within (d d' : Domain) : Prop where
  rest : { d with live := d'.live } = d'
  live : ∀ k h life, d.live k h = some life → d'.live k h = some life
  others : ∀ k h, k ≠ .descriptorSet → d.live k h = d'.live k h

namespace Domain.Within

variable {d d' : Domain}

theorem refl (d : Domain) : d.Within d := ⟨rfl, fun _ _ _ h => h, fun _ _ _ => rfl⟩

theorem handle_eq (hd : d.Within d') : d.handle = d'.handle := by
  rw [← hd.rest]

theorem parent_eq (hd : d.Within d') : d.parent = d'.parent := by
  rw [← hd.rest]

theorem sink_eq (hd : d.Within d') : d.sink = d'.sink := by
  rw [← hd.rest]

theorem images_eq (hd : d.Within d') : d.images = d'.images := by
  rw [← hd.rest]

theorem family_eq (hd : d.Within d') : d.family = d'.family := by
  rw [← hd.rest]

theorem capabilities_eq (hd : d.Within d') : d.capabilities = d'.capabilities := by
  rw [← hd.rest]

/-- What is not alive in the greater domain is not alive in the lesser one. -/
theorem live_eq_none (hd : d.Within d') {k : Kind} {h : Handle} (hh : d'.live k h = none) :
    d.live k h = none := by
  cases hl : d.live k h with
  | none => rfl
  | some life =>
    rw [hd.live k h life hl] at hh
    cases hh

/-- A change of what is not alive keeps the order. -/
theorem map {f : Domain → Domain} (hd : d.Within d')
    (hf : ∀ d live, { f d with live := live } = f { d with live := live })
    (hlive : ∀ d, (f d).live = d.live) : (f d).Within (f d') where
  rest := by
    rw [hf, hlive, hd.rest]
  live := by
    rw [hlive, hlive]
    exact hd.live
  others := by
    rw [hlive, hlive]
    exact hd.others

/-- An object begins that is new to the greater domain. -/
theorem enter (hd : d.Within d') {k : Kind} {h : Handle} {life : Life}
    (hnew : k = .descriptorSet → d'.live k h = none ∨ d'.live k h = some life) :
    (d.enter k h life).Within (d'.enter k h life) where
  rest := congrArg (fun e => { e with live := (d'.enter k h life).live }) hd.rest
  live k' h' life' hl := by
    simp only [Domain.enter] at hl ⊢
    cases hold : d.live k' h' with
    | some old =>
      -- an object that is alive already stays as it is in both domains
      rw [hold, Option.some_or] at hl
      rw [hd.live k' h' old hold, Option.some_or]
      exact hl
    | none =>
      rw [hold, Option.none_or] at hl
      split at hl
      · rename_i hslot
        obtain ⟨rfl, rfl⟩ := hslot
        rw [if_pos ⟨rfl, rfl⟩, ← hl]
        -- a set may be alive in the greater domain alone, any other object in both or in none
        by_cases hk : k = .descriptorSet
        · rcases hnew hk with hnone | hsame
          · rw [hnone, Option.none_or]
          · rw [hsame, Option.some_or]
        · rw [← hd.others k h hk, hold, Option.none_or]
      · cases hl
  others k' h' hk := by
    simp only [Domain.enter]
    rw [hd.others k' h' hk]

theorem remove (hd : d.Within d') (k : Kind) (h : Handle) :
    (d.remove k h).Within (d'.remove k h) where
  rest := congrArg (fun e => { e with live := (d'.remove k h).live }) hd.rest
  live k' h' life hl := by
    simp only [Domain.remove] at hl ⊢
    split at hl
    · cases hl
    · rename_i hne
      rw [if_neg hne]
      exact hd.live k' h' life hl
  others k' h' hk := by
    simp only [Domain.remove]
    rw [hd.others k' h' hk]

theorem removeChildren (hd : d.Within d') (k : Kind) (pool : Handle) :
    (d.removeChildren k pool).Within (d'.removeChildren k pool) where
  rest := congrArg (fun e => { e with live := (d'.removeChildren k pool).live }) hd.rest
  live k' h' life hl := by
    simp only [Domain.removeChildren] at hl ⊢
    split at hl
    · rename_i hk
      rw [if_pos hk]
      obtain ⟨hlive, horigin⟩ := Option.filter_eq_some_iff.mp hl
      exact Option.filter_eq_some_iff.mpr ⟨hd.live k' h' life hlive, horigin⟩
    · rename_i hk
      rw [if_neg hk]
      exact hd.live k' h' life hl
  others k' h' hk := by
    simp only [Domain.removeChildren]
    rw [hd.others k' h' hk]

/-- Descriptor sets may be removed from the lesser domain alone. -/
theorem removeSets (hd : d.Within d') (pool : Handle) :
    (d.removeChildren .descriptorSet pool).Within d' where
  rest := hd.rest
  live k h life hl := by
    simp only [Domain.removeChildren] at hl
    split at hl
    · exact hd.live k h life (Option.filter_eq_some_iff.mp hl).1
    · exact hd.live k h life hl
  others k h hk := by
    simp only [Domain.removeChildren]
    rw [if_neg hk.symm]
    exact hd.others k h hk

theorem takeAlong (hd : d.Within d') (child : Child) (h : Handle) :
    (child.takeAlong h d).Within (child.takeAlong h d') := by
  unfold Child.takeAlong
  split
  · exact hd.removeChildren _ h
  · exact hd.removeChildren _ h
  · exact hd.map (f := Domain.removeImages h) (fun _ _ => rfl) fun _ => rfl
  · exact hd

end Domain.Within

namespace Domains

/-- Each domain lies within its counterpart. -/
def Within (D D' : Domains) : Prop := ∀ id, Option.Rel Domain.Within (D id) (D' id)

namespace Within

variable {D D' : Domains} {id : ContextId}

theorem refl (D : Domains) : D.Within D := by
  intro id
  cases D id with
  | none => exact .none
  | some d => exact .some (Domain.Within.refl d)

theorem exists_greater (hD : D.Within D') {d : Domain} (hd : D id = some d) :
    ∃ d', D' id = some d' ∧ d.Within d' := by
  have hrel := hD id
  rw [hd] at hrel
  cases hd' : D' id with
  | none =>
    rw [hd'] at hrel
    cases hrel
  | some d' =>
    rw [hd'] at hrel
    cases hrel with
    | some hwithin => exact ⟨d', rfl, hwithin⟩

theorem exists_lesser (hD : D.Within D') {d' : Domain} (hd : D' id = some d') :
    ∃ d, D id = some d ∧ d.Within d' := by
  have hrel := hD id
  rw [hd] at hrel
  cases hd' : D id with
  | none =>
    rw [hd'] at hrel
    cases hrel
  | some d =>
    rw [hd'] at hrel
    cases hrel with
    | some hwithin => exact ⟨d, rfl, hwithin⟩

theorem eq_none_iff (hD : D.Within D') : D id = none ↔ D' id = none := by
  constructor
  · intro h
    cases hd' : D' id with
    | none => rfl
    | some d' =>
      obtain ⟨d, hd, -⟩ := hD.exists_lesser hd'
      rw [h] at hd
      cases hd
  · intro h
    cases hd : D id with
    | none => rfl
    | some d =>
      obtain ⟨d', hd', -⟩ := hD.exists_greater hd
      rw [h] at hd'
      cases hd'

theorem modify (hD : D.Within D') {g g' : Domain → Domain}
    (hg : ∀ d d', D' id = some d' → d.Within d' → (g d).Within (g' d')) :
    (D.modify id g).Within (D'.modify id g') := by
  intro i
  rw [Domains.modify, Domains.modify]
  split
  · rename_i hi
    subst hi
    cases hd : D id with
    | none =>
      rw [hD.eq_none_iff.mp hd]
      exact .none
    | some d =>
      obtain ⟨d', hd', hwithin⟩ := hD.exists_greater hd
      rw [hd']
      exact .some (hg d d' hd' hwithin)
  · exact hD i

theorem found (hD : D.Within D') {d d' : Domain} (hd : d.Within d') (id : ContextId) :
    (D.found id d).Within (D'.found id d') := by
  intro i
  rw [Domains.found, Domains.found]
  split
  · exact .some hd
  · exact hD i

theorem lose (hD : D.Within D') (id : ContextId) : (D.lose id).Within (D'.lose id) := by
  intro i
  rw [Domains.lose, Domains.lose]
  split
  · exact .none
  · exact hD i

/-- Both worlds know the same devices of an instance. -/
theorem parent_eq (hD : D.Within D') (id : ContextId) :
    (D id).bind (·.parent) = (D' id).bind (·.parent) := by
  cases hd : D id with
  | none => rw [hD.eq_none_iff.mp hd]
  | some d =>
    obtain ⟨d', hd', hwithin⟩ := hD.exists_greater hd
    rw [hd']
    exact hwithin.parent_eq

theorem loseInstance (hD : D.Within D') (key : DispatchKey) :
    (D.loseInstance key).Within (D'.loseInstance key) := by
  intro i
  have hparent : ((D i).any fun d => decide (d.parent = some key)) =
      (D' i).any fun d => decide (d.parent = some key) := by
    cases hd : D i with
    | none => rw [hD.eq_none_iff.mp hd]
    | some d =>
      obtain ⟨d', hd', hwithin⟩ := hD.exists_greater hd
      rw [hd', Option.any_some, Option.any_some, hwithin.parent_eq]
  rw [Domains.loseInstance, Domains.loseInstance, hparent]
  split
  · exact .none
  · exact hD i

/-- Objects begin that are new to the greater world. -/
theorem enterAll (k : Kind) (life : Life) :
    ∀ (hs : List Handle) {D D' : Domains}, D.Within D' →
      (∀ h ∈ hs, k = .descriptorSet → ∀ d', D' id = some d' →
        d'.live k h = none ∨ d'.live k h = some life) →
      (D.enterAll id k hs life).Within (D'.enterAll id k hs life)
  | [], _, _, hD, _ => hD
  | h :: hs, D, D', hD, hnew => by
    refine enterAll k life hs (hD.modify fun d d' hd' hd => ?_) ?_
    · exact hd.enter fun hk => hnew h (List.mem_cons_self ..) hk d' hd'
    · intro o ho hk e he
      obtain ⟨d', hd', rfl⟩ := Option.map_eq_some_iff.mp ((D'.modify_self id _).symm.trans he)
      -- the object that has just begun is no obstacle to itself
      show (d'.live k o).or (if k = k ∧ h = o then some life else none) = none ∨
        (d'.live k o).or (if k = k ∧ h = o then some life else none) = some life
      rcases hnew o (List.mem_cons_of_mem _ ho) hk d' hd' with hnone | hsame
      · rw [hnone, Option.none_or]
        split
        · exact Or.inr rfl
        · exact Or.inl rfl
      · rw [hsame, Option.some_or]
        exact Or.inr rfl

theorem enterImages (swapchain : Handle) :
    ∀ (hs : List Handle) {D D' : Domains}, D.Within D' →
      (D.enterImages id hs swapchain).Within (D'.enterImages id hs swapchain)
  | [], _, _, hD => hD
  | h :: hs, _, _, hD =>
    enterImages swapchain hs (hD.modify fun _ _ _ hd =>
      hd.map (f := Domain.enterImage h swapchain) (fun _ _ => rfl) fun _ => rfl)

theorem removeAll (k : Kind) :
    ∀ (hs : List Handle) {D D' : Domains}, D.Within D' →
      (D.removeAll id k hs).Within (D'.removeAll id k hs)
  | [], _, _, hD => hD
  | h :: hs, _, _, hD => removeAll k hs (hD.modify fun _ _ _ hd => hd.remove k h)

end Within

end Domains

/-- The same surroundings with other domains. -/
def World.under (w : World) (D : Domains) : World := { w with domains := D }

namespace Domains.Within

variable {w : World} {D : Domains}

theorem sound (hD : D.Within w.domains) (hw : w.Sound) : (w.under D).Sound := by
  intro id d hd
  obtain ⟨d', hd', hwithin⟩ := hD.exists_greater hd
  have hsound := hw id d' hd'
  refine ⟨fun k => hwithin.live_eq_none (hsound.null k), ?_⟩
  rw [hwithin.sink_eq]
  exact hsound.sink

theorem instanceOf (hD : D.Within w.domains) (device : Handle) :
    (w.under D).instanceOf device = w.instanceOf device :=
  congrArg (Option.map ContextId.ofInstance) (hD.parent_eq (w.deviceId device))

theorem given (hD : D.Within w.domains) {α : Type} {outcome : Except ResultCode α}
    {change change' : α → Domains}
    (h : ∀ a, outcome = .ok a → (change a).Within (change' a)) :
    (HandleLedger.given outcome D change).Within
      (HandleLedger.given outcome w.domains change') := by
  cases outcome with
  | error code => exact hD
  | ok a => exact h a rfl

/-! ### Calls keep the order of worlds -/

theorem createDevice (hD : D.Within w.domains) {physicalDevice h : Handle}
    {families : List UInt32} {custom : Bool} :
    (Request.effect (w.under D) (.createDevice physicalDevice families custom) (.ok h)).Within
      (Request.effect w (.createDevice physicalDevice families custom) (.ok h)) := by
  show Domains.Within
    ((D (w.instanceId physicalDevice)).elim D fun parent =>
      (D.found _ (.barren h _ parent.sink families)).modify _ _)
    ((w.domains (w.instanceId physicalDevice)).elim w.domains fun parent =>
      (w.domains.found _ (.barren h _ parent.sink families)).modify _ _)
  cases hd : D (w.instanceId physicalDevice) with
  | none =>
    rw [hD.eq_none_iff.mp hd]
    exact hD
  | some parent =>
    obtain ⟨parent', hd', hwithin⟩ := hD.exists_greater hd
    rw [hd', Option.elim_some, Option.elim_some, hwithin.sink_eq]
    refine (hD.found (Domain.Within.refl _) _).modify fun _ _ _ hd => hd.enter ?_
    intro hk
    cases hk

theorem destroyDevice (hD : D.Within w.domains) (h : Handle) (custom : Bool) :
    (Request.effect (w.under D) (.destroyDevice h custom) ()).Within
      (Request.effect w (.destroyDevice h custom) ()) := by
  have hinstance := hD.instanceOf h
  show Domains.Within
    (if h = nullHandle then D else ((w.under D).instanceOf h).elim D fun id =>
      (D.modify id (·.remove .device h)).lose (w.deviceId h))
    (if h = nullHandle then w.domains else (w.instanceOf h).elim w.domains fun id =>
      (w.domains.modify id (·.remove .device h)).lose (w.deviceId h))
  rw [hinstance]
  split
  · exact hD
  · cases w.instanceOf h with
    | none => exact hD
    | some id => exact (hD.modify fun _ _ _ hd => hd.remove .device h).lose _

theorem getDeviceQueue (hD : D.Within w.domains) (device queue : Handle) (family : UInt32) :
    (Request.effect (w.under D) (.getDeviceQueue device family) queue).Within
      (Request.effect w (.getDeviceQueue device family) queue) := by
  show Domains.Within (if queue = nullHandle then D else D.modify _ _)
    (if queue = nullHandle then w.domains else w.domains.modify _ _)
  split
  · exact hD
  · refine hD.modify fun d d' _ hd => ?_
    have hentered : (d.enter .queue queue ⟨false, nullHandle⟩).Within
        (d'.enter .queue queue ⟨false, nullHandle⟩) := by
      apply hd.enter
      intro hk
      cases hk
    exact hentered.map (f := Domain.setFamily queue family) (fun _ _ => rfl) fun _ => rfl

/-- An object that is new to the greater world begins in both. -/
theorem enterFresh (hD : D.Within w.domains) {id : ContextId} {k : Kind} {h : Handle}
    (hnew : w.Fresh id k h) (life : Life) :
    (D.modify id (·.enter k h life)).Within (w.domains.modify id (·.enter k h life)) :=
  hD.modify fun _ d' hd' hd => hd.enter fun _ => Or.inl (hnew.2 d' hd')

theorem ended (hD : D.Within w.domains) (id : ContextId) (k : Kind) (h : Handle) :
    ((w.under D).ended id k h).Within (w.ended id k h) := by
  rw [World.ended, World.ended]
  split
  · exact hD
  · exact hD.modify fun _ _ _ hd => hd.remove k h

theorem destroy (hD : D.Within w.domains) (child : Child) (owner h : Handle) (custom : Bool) :
    (Request.effect (w.under D) (.destroy child owner h custom) ()).Within
      (Request.effect w (.destroy child owner h custom) ()) := by
  show Domains.Within (if h = nullHandle then D else D.modify _ _)
    (if h = nullHandle then w.domains else w.domains.modify _ _)
  split
  · exact hD
  · exact hD.modify fun _ _ _ hd => (hd.remove child.kind h).takeAlong child h

/-- A reset that is taken to succeed removes sets from the lesser world, and from the greater one if
it did succeed. -/
theorem resetDescriptorPool (hD : D.Within w.domains) (device pool : Handle)
    (outcome : Shape.status.Outcome) :
    (Request.effect (w.under D) (.resetDescriptorPool device pool) (.ok ())).Within
      (Request.effect w (.resetDescriptorPool device pool) outcome) := by
  cases outcome with
  | ok u => exact hD.modify fun _ _ _ hd => hd.removeChildren .descriptorSet pool
  | error code =>
    -- the reset has failed, and only the lesser world loses the sets
    intro i
    show Option.Rel _ (D.modify (w.deviceId device) _ i) (w.domains i)
    rw [Domains.modify]
    split
    · cases hd : D i with
      | none =>
        rw [hD.eq_none_iff.mp hd]
        exact .none
      | some d =>
        obtain ⟨d', hd', hwithin⟩ := hD.exists_greater hd
        rw [hd']
        exact .some (hwithin.removeSets pool)
    · exact hD i

/-- A well-behaved call keeps the order of worlds, with its reset taken to succeed in the lesser
one. -/
theorem effect (hD : D.Within w.domains) {r : Request} {outcome : r.shape.Outcome}
    (hr : r.Permitted w outcome) :
    (r.effect (w.under D) (r.deemed outcome)).Within (r.effect w outcome) := by
  cases r with
  | createInstance custom sink =>
    exact hD.given fun h _ => hD.found (Domain.Within.refl _) _
  | destroyInstance h custom =>
    show Domains.Within (if h = nullHandle then D else _) (if h = nullHandle then w.domains else _)
    split
    · exact hD
    · exact hD.loseInstance _
  | enumeratePhysicalDevices i =>
    refine hD.given fun hs _ => hD.enterAll _ _ hs fun h _ hk => ?_
    cases hk
  | createDevice physicalDevice families custom =>
    cases outcome with
    | error code => exact hD
    | ok h => exact hD.createDevice
  | destroyDevice h custom => exact hD.destroyDevice h custom
  | getDeviceQueue device family => exact hD.getDeviceQueue device outcome family
  | queueSubmit => exact hD
  | queueBindSparse => exact hD
  | createDeviceChild device kind code custom =>
    exact hD.given fun h ho => hD.enterFresh (hr.2.2 h ho) _
  | destroyDeviceChild device h kind custom codes => exact hD.ended _ kind h
  | create what owner custom =>
    exact hD.given fun h ho => hD.enterFresh (hr.2.2 h ho) _
  | destroy child owner h custom => exact hD.destroy child owner h custom
  | getSwapchainImages device swapchain => exact hD.given fun hs _ => hD.enterImages swapchain hs
  | allocateCommandBuffers device pool level =>
    refine hD.given fun hs _ => hD.enterAll _ _ hs fun h _ hk => ?_
    cases hk
  | freeCommandBuffers device pool hs => exact hD.removeAll _ _
  | beginCommandBuffer => exact hD
  | resetDescriptorPool device pool => exact hD.resetDescriptorPool device pool outcome
  | allocateDescriptorSets device pool layouts =>
    refine hD.given fun hs ho => hD.enterAll _ _ hs fun h hh _ d' hd' => Or.inl ?_
    exact (hr.2.2.2 hs ho h hh).2 d' hd'
  | freeDescriptorSets device pool hs => exact hD.given fun _ _ => hD.removeAll _ _
  | bindImageMemory => exact hD
  | bindBufferMemory => exact hD
  | mapMemory => exact hD
  | waitForFences => exact hD

end Domains.Within

/-! ## Calls in the lesser world -/

namespace World

variable {w : World} {D : Domains} {id : ContextId} {k : Kind} {h : Handle}

/-- The lesser world lacks descriptor sets only. -/
theorem Live.under (hh : w.Live id k h) (hD : D.Within w.domains) (hk : k ≠ .descriptorSet) :
    (w.under D).Live id k h := by
  obtain ⟨d', hd', hlive⟩ := hh
  obtain ⟨d, hd, hwithin⟩ := hD.exists_lesser hd'
  refine ⟨d, hd, ?_⟩
  rw [hwithin.others k h hk, hwithin.images_eq]
  exact hlive

theorem LiveOrNull.under (hh : w.LiveOrNull id k h) (hD : D.Within w.domains)
    (hk : k ≠ .descriptorSet) : (w.under D).LiveOrNull id k h :=
  hh.imp_right fun hlive => hlive.under hD hk

theorem LiveInstance.under (hh : w.LiveInstance h) (hD : D.Within w.domains) :
    (w.under D).LiveInstance h := by
  obtain ⟨⟨d', hd', hhandle⟩, hlive⟩ := hh
  obtain ⟨d, hd, hwithin⟩ := hD.exists_lesser hd'
  exact ⟨⟨d, hd, hwithin.handle_eq.trans hhandle⟩, hlive.under hD (by decide)⟩

theorem LiveDevice.under (hh : w.LiveDevice h) (hD : D.Within w.domains) :
    (w.under D).LiveDevice h := by
  -- instances and devices are not descriptor sets, so neither world lacks them
  obtain ⟨⟨d', hd', hhandle⟩, id, hid, hlive⟩ := hh
  obtain ⟨d, hd, hwithin⟩ := hD.exists_lesser hd'
  refine ⟨⟨d, hd, hwithin.handle_eq.trans hhandle⟩, id, ?_, hlive.under hD (by decide)⟩
  exact (hD.instanceOf h).trans hid

theorem LiveOwner.under {scope : Scope} (hh : w.LiveOwner scope h) (hD : D.Within w.domains) :
    (w.under D).LiveOwner scope h := by
  cases scope with
  | instanceLevel => exact LiveInstance.under hh hD
  | deviceLevel => exact LiveDevice.under hh hD

theorem Fresh.under (hh : w.Fresh id k h) (hD : D.Within w.domains) :
    (w.under D).Fresh id k h := by
  refine ⟨hh.1, fun d hd => ?_⟩
  obtain ⟨d', hd', hwithin⟩ := hD.exists_greater hd
  exact hwithin.live_eq_none (hh.2 d' hd')

theorem CreatedWith.under {custom : Bool} (hh : w.CreatedWith id k h custom)
    (hD : D.Within w.domains) : (w.under D).CreatedWith id k h custom := by
  intro d life hd hlife
  obtain ⟨d', hd', hwithin⟩ := hD.exists_greater hd
  exact hh d' life hd' (hwithin.live k h life hlife)

theorem CameFrom.liveOrNull {pool : Handle} {hs : List Handle} (hh : w.CameFrom id k pool hs)
    {o : Handle} (ho : o ∈ hs) : w.LiveOrNull id k o := by
  rcases hh o ho with hnull | ⟨d, life, hd, hlife, -⟩
  · exact Or.inl hnull
  · exact Or.inr ⟨d, hd, Or.inl (Option.isSome_iff_exists.mpr ⟨life, hlife⟩)⟩

/-- What came from a pool, and is alive in the lesser world, came from that pool there too. -/
theorem CameFrom.under {pool : Handle} {hs : List Handle} (hh : w.CameFrom id k pool hs)
    (hD : D.Within w.domains) (himage : k ≠ .image)
    (hlive : ∀ h ∈ hs, (w.under D).LiveOrNull id k h) : (w.under D).CameFrom id k pool hs := by
  intro o ho
  rcases hlive o ho with hnull | ⟨d, hd, hsome | ⟨hk, -⟩⟩
  · exact Or.inl hnull
  · rcases hh o ho with hnull | ⟨d', life', hd', hlife', horigin⟩
    · exact Or.inl hnull
    · obtain ⟨life, hlife⟩ := Option.isSome_iff_exists.mp hsome
      obtain ⟨e, he, hwithin⟩ := hD.exists_greater hd
      rw [hd', Option.some.injEq] at he
      subst he
      -- the lesser domain knows the object by the life that it has in the greater one
      have hsame := hwithin.live k o life hlife
      rw [hlife', Option.some.injEq] at hsame
      exact Or.inr ⟨d, life, hd, hlife, hsame ▸ horigin⟩
  · exact absurd hk himage

theorem Sparse.under (hh : w.Sparse h) (hD : D.Within w.domains) : (w.under D).Sparse h := by
  intro d family flags hd hfamily hflags
  obtain ⟨d', hd', hwithin⟩ := hD.exists_greater hd
  rw [hwithin.family_eq] at hfamily
  rw [hwithin.capabilities_eq] at hflags
  exact hh d' family flags hd' hfamily hflags

theorem Ready.under {owner : Handle} {what : Creation} (hh : w.Ready owner what)
    (hD : D.Within w.domains) : (w.under D).Ready owner what := by
  cases what with
  | imageView image => exact Live.under hh hD (by decide)
  | swapchain surface old =>
    refine ⟨fun id hid => (hh.1 id ?_).under hD (by decide), hh.2.under hD (by decide)⟩
    exact (hD.instanceOf owner).symm.trans hid
  | _ => trivial

theorem LiveBatch.under {s : Submit} (hh : w.LiveBatch id s) (hD : D.Within w.domains) :
    (w.under D).LiveBatch id s := by
  obtain ⟨hwait, hcommands, hsignal⟩ := hh
  refine ⟨fun h ho => ?_, fun h ho => ?_, fun h ho => ?_⟩
  · exact (hwait h ho).under hD (by decide)
  · exact (hcommands h ho).under hD (by decide)
  · exact (hsignal h ho).under hD (by decide)

end World

/-- What a request frees, or destroys by the call for device children of any kind, is there. To that
call an object of another device will do if it has no rule about the parent. -/
def Request.Finds (w : World) : Request → Prop
  | .freeDescriptorSets device _ hs =>
    ∀ h ∈ hs, w.LiveOrNull (w.deviceId device) .descriptorSet h
  | .destroyDeviceChild device h kind _ codes =>
    w.LiveOrNull (w.deviceId device) kind h ∨
      codes.parent = none ∧ ∃ key, key ≠ w.keyOf device ∧ w.Live (.ofDevice key) kind h
  | _ => True

theorem Request.Permitted.finds {w : World} {r : Request} {outcome : r.shape.Outcome}
    (hr : r.Permitted w outcome) : r.Finds w := by
  cases r with
  | freeDescriptorSets device pool hs => exact fun h hh => hr.2.2.liveOrNull hh
  | destroyDeviceChild device h kind custom codes => exact Or.inl hr.2.2.1
  | _ => trivial

/-- A well-behaved call is so in the lesser world too if it finds what it frees. -/
theorem Request.Permitted.under {w : World} {D : Domains} {r : Request}
    {outcome : r.shape.Outcome} (hr : r.Permitted w outcome) (hD : D.Within w.domains)
    (hfinds : r.Finds (w.under D))
    (hchild : ∀ device h kind custom codes, r ≠ .destroyDeviceChild device h kind custom codes) :
    r.Permitted (w.under D) (r.deemed outcome) := by
  cases r with
  | createInstance custom sink =>
    refine ⟨hr.1, fun h ho => ⟨(hr.2 h ho).1, ?_⟩⟩
    exact hD.eq_none_iff.mpr (hr.2 h ho).2
  | destroyInstance h custom =>
    rcases hr with hnull | ⟨hlive, hcreated⟩
    · exact Or.inl hnull
    · exact Or.inr ⟨hlive.under hD, hcreated.under hD⟩
  | enumeratePhysicalDevices i => exact ⟨hr.1.under hD, hr.2⟩
  | createDevice physicalDevice families custom =>
    refine ⟨hr.1.under hD (by decide), fun h ho => ?_⟩
    exact ⟨(hr.2 h ho).1.under hD, hD.eq_none_iff.mpr (hr.2 h ho).2⟩
  | destroyDevice h custom =>
    rcases hr with hnull | ⟨hlive, hcreated⟩
    · exact Or.inl hnull
    · refine Or.inr ⟨hlive.under hD, fun id hid => ?_⟩
      exact (hcreated id ((hD.instanceOf h).symm.trans hid)).under hD
  | getDeviceQueue device family => exact ⟨hr.1.under hD, hr.2⟩
  | queueSubmit queue fence submits =>
    refine ⟨hr.1.under hD (by decide), hr.2.1.under hD (by decide), fun s hs => ?_⟩
    exact (hr.2.2 s hs).under hD
  | queueBindSparse queue fence =>
    exact ⟨hr.1.under hD (by decide), hr.2.1.under hD (by decide), hr.2.2.under hD⟩
  | createDeviceChild device kind code custom =>
    exact ⟨hr.1.under hD, hr.2.1, fun h ho => (hr.2.2 h ho).under hD⟩
  | destroyDeviceChild device h kind custom codes =>
    exact absurd rfl (hchild device h kind custom codes)
  | create what owner custom =>
    exact ⟨hr.1.under hD, hr.2.1.under hD, fun h ho => (hr.2.2 h ho).under hD⟩
  | destroy child owner h custom =>
    refine ⟨hr.1.under hD, hr.2.1.under hD ?_, hr.2.2.under hD⟩
    cases child <;> decide
  | getSwapchainImages device swapchain =>
    refine ⟨hr.1.under hD, hr.2.1.under hD (by decide), fun hs ho h hh => ?_⟩
    obtain ⟨hne, himages⟩ := hr.2.2 hs ho h hh
    refine ⟨hne, fun d s hd hs => ?_⟩
    obtain ⟨d', hd', hwithin⟩ := hD.exists_greater hd
    exact himages d' s hd' (hwithin.images_eq ▸ hs)
  | allocateCommandBuffers device pool level =>
    refine ⟨hr.1.under hD, hr.2.1.under hD (by decide), fun hs ho h hh => ?_⟩
    exact ⟨(hr.2.2 hs ho h hh).1.under hD, (hr.2.2 hs ho h hh).2⟩
  | freeCommandBuffers device pool hs =>
    -- command buffers are alive in both worlds, so nothing has to be found
    refine ⟨hr.1.under hD, hr.2.1.under hD (by decide), hr.2.2.under hD (by decide) ?_⟩
    exact fun h ho => (hr.2.2.liveOrNull ho).under hD (by decide)
  | beginCommandBuffer buffer inheritance =>
    refine ⟨hr.1.under hD (by decide), fun i hi => ?_⟩
    exact ⟨(hr.2 i hi).1.under hD (by decide), (hr.2 i hi).2.under hD (by decide)⟩
  | resetDescriptorPool device pool => exact ⟨hr.1.under hD, hr.2.under hD (by decide)⟩
  | allocateDescriptorSets device pool layouts =>
    refine ⟨hr.1.under hD, hr.2.1.under hD (by decide), fun h hh => ?_, fun hs ho h hh => ?_⟩
    · exact (hr.2.2.1 h hh).under hD (by decide)
    · exact (hr.2.2.2 hs ho h hh).under hD
  | freeDescriptorSets device pool hs =>
    exact ⟨hr.1.under hD, hr.2.1.under hD (by decide), hr.2.2.under hD (by decide) hfinds⟩
  | bindImageMemory device image memory =>
    exact ⟨hr.1.under hD, hr.2.1.under hD (by decide), hr.2.2.under hD (by decide)⟩
  | bindBufferMemory device buffer memory =>
    exact ⟨hr.1.under hD, hr.2.1.under hD (by decide), hr.2.2.under hD (by decide)⟩
  | mapMemory device memory => exact ⟨hr.1.under hD, hr.2.under hD (by decide)⟩
  | waitForFences device fences =>
    exact ⟨hr.1.under hD, fun h hh => (hr.2 h hh).under hD (by decide)⟩

end HandleLedger
