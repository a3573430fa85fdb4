import HandleLedger.Proofs.Ledger.Validation
import HandleLedger.Proofs.Lifetime.Return

/-!
# Images of swapchains

The books name one swapchain for each image, the first one that handed it out, and the image stays
known until that swapchain is destroyed, or until the books of its device are closed or opened anew
(`Request.Withdraws`). Nothing else takes it away (`Layer.image_stays`): other swapchains may come,
hand out the same image and go.

The first owner decides even when it is not the last: an image that a live swapchain has handed out
is gone when another one that handed it out before is destroyed (`Layer.shared_image_lost`).
-/

set_option autoImplicit false

namespace HandleLedger

/-- The call takes an image off the books of a device: it destroys the swapchain that owns the
image, the device or its instance, or it gives a known instance a device under the same key. -/
def Request.Withdraws (l : Layer) (id : ContextId) (parent : Option DispatchKey) (owner : Handle) :
    (r : Request) → r.shape.Outcome → Prop
  | .destroy .swapchain device h _ => fun _ =>
    h ≠ nullHandle ∧ l.deviceId device = id ∧ h = owner
  | .destroyDevice h _ => fun _ => h ≠ nullHandle ∧ l.deviceId h = id
  | .destroyInstance h _ => fun _ => h ≠ nullHandle ∧ some (l.keyOf h) = parent
  | .createDevice physicalDevice .. => fun o =>
    (l.ledger.context? (l.instanceId physicalDevice)).isSome ∧ ∃ h, o = .ok h ∧ l.deviceId h = id
  | _ => fun _ => False

/-! ## Changes of one domain -/

/-- The change keeps the parent, and the image stays with its owner. -/
structure Domain.Spares (image owner : Handle) (g : Domain → Domain) : Prop where
  parent : ∀ d, (g d).parent = d.parent
  images : ∀ d, d.images image = some owner → (g d).images image = some owner

namespace Domain

variable {image owner : Handle} {g g' : Domain → Domain}

theorem Spares.comp (hg : Spares image owner g) (hg' : Spares image owner g') :
    Spares image owner fun d => g' (g d) where
  parent d := (hg'.parent (g d)).trans (hg.parent d)
  images d hd := hg'.images (g d) (hg.images d hd)

/-- A change that only touches objects spares all images. -/
theorem spares_of_images (hparent : ∀ d, (g d).parent = d.parent)
    (himages : ∀ d, (g d).images = d.images) : Spares image owner g :=
  ⟨hparent, fun d hd => (congrFun (himages d) image).trans hd⟩

theorem spares_enter (k : Kind) (h : Handle) (life : Life) :
    Spares image owner (·.enter k h life) :=
  spares_of_images (fun _ => rfl) fun _ => rfl

theorem spares_setFamily (queue : Handle) (family : UInt32) :
    Spares image owner (·.setFamily queue family) :=
  spares_of_images (fun _ => rfl) fun _ => rfl

theorem spares_remove (k : Kind) (h : Handle) : Spares image owner (·.remove k h) :=
  spares_of_images (fun _ => rfl) fun _ => rfl

theorem spares_removeChildren (k : Kind) (pool : Handle) :
    Spares image owner (·.removeChildren k pool) :=
  spares_of_images (fun _ => rfl) fun _ => rfl

/-- An image that is known keeps its owner when it is handed out again. -/
theorem spares_enterImage (o swapchain : Handle) :
    Spares image owner (·.enterImage o swapchain) where
  parent _ := rfl
  images d hd := by
    show (d.images image).or (if o = image then some swapchain else none) = some owner
    rw [hd]
    rfl

theorem spares_removeImages {swapchain : Handle} (hne : swapchain ≠ owner) :
    Spares image owner (·.removeImages swapchain) where
  parent _ := rfl
  images d hd := by
    show (d.images image).filter (· != swapchain) = some owner
    rw [hd, Option.filter_some, if_pos (bne_iff_ne.mpr hne.symm)]

/-- What goes with a child leaves the images of other swapchains. -/
theorem spares_takeAlong {child : Child} {h : Handle} (hne : child = .swapchain → h ≠ owner) :
    Spares image owner (child.takeAlong h) := by
  cases child with
  | swapchain => exact spares_removeImages (hne rfl)
  | _ => exact spares_of_images (fun _ => rfl) fun _ => rfl

end Domain

namespace Domains

/-- The image is on the books of a device with this parent, and the swapchain owns it. -/
def Houses (D : Domains) (id : ContextId) (parent : Option DispatchKey) (image owner : Handle) :
    Prop :=
  ∃ d, D id = some d ∧ d.parent = parent ∧ d.images image = some owner

namespace Houses

variable {D : Domains} {id : ContextId} {parent : Option DispatchKey} {image owner : Handle}

theorem modify (hD : D.Houses id parent image owner) {id' : ContextId} {g : Domain → Domain}
    (hg : id' = id → Domain.Spares image owner g) :
    (D.modify id' g).Houses id parent image owner := by
  obtain ⟨d, hd, hparent, himage⟩ := hD
  by_cases hid : id' = id
  · have hspares := hg hid
    subst hid
    refine ⟨g d, ?_, (hspares.parent d).trans hparent, hspares.images d himage⟩
    rw [modify_self, hd]
    rfl
  · exact ⟨d, (modify_of_ne hid).trans hd, hparent, himage⟩

theorem modifyAll {id' : ContextId} {g : Handle → Domain → Domain}
    (hg : ∀ h, Domain.Spares image owner (g h)) :
    ∀ (hs : List Handle) {D : Domains}, D.Houses id parent image owner →
      (hs.foldl (fun D h => D.modify id' (g h)) D).Houses id parent image owner
  | [], _, hD => hD
  | h :: hs, _, hD => modifyAll hg hs (hD.modify fun _ => hg h)

theorem found (hD : D.Houses id parent image owner) {id' : ContextId} (hne : id' ≠ id)
    (d : Domain) : (D.found id' d).Houses id parent image owner := by
  obtain ⟨d', hd', hspec⟩ := hD
  exact ⟨d', (found_of_ne hne).trans hd', hspec⟩

theorem lose (hD : D.Houses id parent image owner) {id' : ContextId} (hne : id' ≠ id) :
    (D.lose id').Houses id parent image owner := by
  obtain ⟨d, hd, hspec⟩ := hD
  exact ⟨d, (lose_of_ne hne).trans hd, hspec⟩

/-- The devices of other instances outlive an instance. -/
theorem loseInstance {device key : DispatchKey}
    (hD : D.Houses (.ofDevice device) parent image owner) (hne : some key ≠ parent) :
    (D.loseInstance key).Houses (.ofDevice device) parent image owner := by
  obtain ⟨d, hd, hparent, himage⟩ := hD
  have hother : ¬(ContextId.ofInstance key = .ofDevice device ∨
      (ContextId.ofDevice device).scope = .deviceLevel ∧
        ((D (.ofDevice device)).any fun d => d.parent = some key) = true) := by
    rintro (hid | ⟨-, hdevice⟩)
    · exact ContextId.ofInstance_ne_ofDevice hid
    · rw [hd, Option.any_some, decide_eq_true_eq] at hdevice
      exact hne (hdevice.symm.trans hparent)
  exact ⟨d, (if_neg hother).trans hd, hparent, himage⟩

end Houses

/-- Each image that is handed out is on the books afterwards. It belongs to the swapchain if no
other one had it before. -/
theorem houses_enterImages {id : ContextId} (swapchain : Handle) {image : Handle} :
    ∀ {hs : List Handle}, image ∈ hs → ∀ {D : Domains} {d : Domain}, D id = some d →
      (D.enterImages id hs swapchain).Houses id d.parent image ((d.images image).getD swapchain)
  | h :: hs, hmem, D, d, hd => by
    have hd' : D.modify id (·.enterImage h swapchain) id = some (d.enterImage h swapchain) := by
      rw [modify_self, hd]
      rfl
    by_cases hh : h = image
    · -- the image is entered here, and the rest of the list leaves it with its owner
      subst hh
      have hentered : (D.modify id (·.enterImage h swapchain)).Houses id d.parent h
          ((d.images h).getD swapchain) := by
        refine ⟨_, hd', rfl, ?_⟩
        show (d.images h).or (if h = h then some swapchain else none) = _
        rw [if_pos rfl, Option.or_some]
      exact Houses.modifyAll (fun o => Domain.spares_enterImage o swapchain) hs hentered
    · have htail : image ∈ hs := (List.mem_cons.mp hmem).resolve_left (Ne.symm hh)
      have hrest := houses_enterImages swapchain htail hd'
      have himages : (d.enterImage h swapchain).images image = d.images image := by
        show (d.images image).or (if h = image then some swapchain else none) = _
        rw [if_neg hh, Option.or_none]
      rw [himages] at hrest
      exact hrest

end Domains

namespace Domains.Houses

variable {l : Layer} {device : DispatchKey} {parent : Option DispatchKey} {image owner : Handle}

theorem createDevice (hl : l.world.domains.Houses (.ofDevice device) parent image owner)
    {physicalDevice h : Handle} {families : List UInt32} {custom : Bool}
    (hne : (l.ledger.context? (l.instanceId physicalDevice)).isSome →
      l.deviceId h ≠ .ofDevice device) :
    Domains.Houses (Request.effect l.world (.createDevice physicalDevice families custom) (.ok h))
      (.ofDevice device) parent image owner := by
  show Domains.Houses ((l.world.domains (l.instanceId physicalDevice)).elim l.world.domains
    fun parent => (l.world.domains.found (l.deviceId h)
      (.barren h (some (l.keyOf physicalDevice)) parent.sink families)).modify
        (l.instanceId physicalDevice) (·.enter .device h ⟨custom, nullHandle⟩)) _ _ _ _
  cases hparent : l.world.domains (l.instanceId physicalDevice) with
  | none => exact hl
  | some parent =>
    obtain ⟨c, hc, -⟩ := Ledger.domains_eq_some_iff.mp hparent
    have hfound := hl.found (hne (Option.isSome_of_eq_some hc))
      (.barren h (some (l.keyOf physicalDevice)) parent.sink families)
    exact hfound.modify fun _ => Domain.spares_enter .device h _

theorem destroyDevice (hl : l.world.domains.Houses (.ofDevice device) parent image owner)
    {h : Handle} {custom : Bool} (hne : h ≠ nullHandle → l.deviceId h ≠ .ofDevice device) :
    Domains.Houses (Request.effect l.world (.destroyDevice h custom) ())
      (.ofDevice device) parent image owner := by
  show Domains.Houses (if h = nullHandle then l.world.domains
    else (l.world.instanceOf h).elim l.world.domains fun id =>
      (l.world.domains.modify id (·.remove .device h)).lose (l.deviceId h)) _ _ _ _
  split
  · exact hl
  · rename_i hh
    cases l.world.instanceOf h with
    | none => exact hl
    | some id =>
      have hremoved : (l.world.domains.modify id (·.remove .device h)).Houses (.ofDevice device)
          parent image owner := hl.modify fun _ => Domain.spares_remove .device h
      exact hremoved.lose (hne hh)

theorem getDeviceQueue (hl : l.world.domains.Houses (.ofDevice device) parent image owner)
    (device' queue : Handle) (family : UInt32) :
    Domains.Houses (Request.effect l.world (.getDeviceQueue device' family) queue)
      (.ofDevice device) parent image owner := by
  show Domains.Houses (if queue = nullHandle then l.world.domains else _) _ _ _ _
  split
  · exact hl
  · exact hl.modify fun _ => (Domain.spares_enter .queue queue _).comp
      (Domain.spares_setFamily queue family)

/-- A call that does not take the image off the books leaves it with its owner. -/
theorem effect (hl : l.world.domains.Houses (.ofDevice device) parent image owner) {r : Request}
    {outcome : r.shape.Outcome} (hr : ¬r.Withdraws l (.ofDevice device) parent owner outcome) :
    Domains.Houses (r.effect l.world (r.deemed outcome)) (.ofDevice device) parent image owner := by
  cases r with
  | createInstance custom sink =>
    cases outcome with
    | error _ => exact hl
    | ok h => exact hl.found ContextId.ofInstance_ne_ofDevice _
  | destroyInstance h custom =>
    show Domains.Houses (if h = nullHandle then l.world.domains else _) _ _ _ _
    split
    · exact hl
    · rename_i hh
      exact hl.loseInstance fun hparent => hr ⟨hh, hparent⟩
  | enumeratePhysicalDevices i =>
    cases outcome with
    | error _ => exact hl
    | ok hs => exact modifyAll (fun o => Domain.spares_enter _ o _) hs hl
  | createDevice physicalDevice families custom =>
    cases outcome with
    | error _ => exact hl
    | ok h => exact hl.createDevice fun hknown hid => hr ⟨hknown, h, rfl, hid⟩
  | destroyDevice h custom => exact hl.destroyDevice fun hh hid => hr ⟨hh, hid⟩
  | getDeviceQueue device' family =>
    exact hl.getDeviceQueue device' outcome family
  | createDeviceChild device' kind code custom =>
    cases outcome with
    | error _ => exact hl
    | ok h => exact hl.modify fun _ => Domain.spares_enter _ h _
  | destroyDeviceChild device' h kind custom codes =>
    show Domains.Houses (if h = nullHandle then l.world.domains else _) _ _ _ _
    split
    · exact hl
    · exact hl.modify fun _ => Domain.spares_remove kind h
  | create what o custom =>
    cases outcome with
    | error _ => exact hl
    | ok h => exact hl.modify fun _ => Domain.spares_enter _ h _
  | destroy child o h custom =>
    show Domains.Houses (if h = nullHandle then l.world.domains else _) _ _ _ _
    split
    · exact hl
    · rename_i hh
      refine hl.modify fun hid => ?_
      -- only a swapchain takes images along, and this one is not the owner
      have hother : child = .swapchain → h ≠ owner := by
        rintro rfl hown
        exact hr ⟨hh, hid, hown⟩
      exact (Domain.spares_remove child.kind h).comp (Domain.spares_takeAlong hother)
  | getSwapchainImages device' swapchain =>
    cases outcome with
    | error _ => exact hl
    | ok hs => exact modifyAll (fun o => Domain.spares_enterImage o swapchain) hs hl
  | allocateCommandBuffers device' pool =>
    cases outcome with
    | error _ => exact hl
    | ok hs => exact modifyAll (fun o => Domain.spares_enter _ o _) hs hl
  | freeCommandBuffers device' pool hs =>
    exact modifyAll (fun o => Domain.spares_remove _ o) (Layer.nonNull hs) hl
  | resetDescriptorPool device' pool =>
    exact hl.modify fun _ => Domain.spares_removeChildren .descriptorSet pool
  | allocateDescriptorSets device' pool layouts =>
    cases outcome with
    | error _ => exact hl
    | ok hs => exact modifyAll (fun o => Domain.spares_enter _ o _) hs hl
  | freeDescriptorSets device' pool hs =>
    cases outcome with
    | error _ => exact hl
    | ok _ => exact modifyAll (fun o => Domain.spares_remove _ o) (Layer.nonNull hs) hl
  | _ => exact hl

end Domains.Houses

theorem Ledger.tracks_of_houses {l : Ledger} {id : ContextId} {parent : Option DispatchKey}
    {image owner : Handle} (hl : l.domains.Houses id parent image owner) :
    ∃ c, l.context? id = some c ∧ c.registry.tracks .image image = true := by
  obtain ⟨d, hd, -, himage⟩ := hl
  obtain ⟨c, hc, rfl⟩ := domains_eq_some_iff.mp hd
  have hknown : (c.registry.image? image).isSome :=
    Option.isSome_map.symm.trans (Option.isSome_of_eq_some himage)
  exact ⟨c, hc, (Registry.tracks_iff ..).mpr (.inr ⟨rfl, hknown⟩)⟩

namespace Layer

variable {l : Layer} {id : ContextId} {parent : Option DispatchKey} {image owner : Handle}

/-! ## Runs -/

/-- Some call of the run runs and takes an image of the owner off the books of the device. -/
def Withdrawn (l : Layer) (ts : List Turn) (id : ContextId) (parent : Option DispatchKey)
    (owner : Handle) : Prop :=
  ∃ before c after, ts = before ++ .call c :: after ∧ (l.play before).Runs c ∧
    c.request.Withdraws (l.play before) id parent owner c.outcome

theorem withdrawn_of_head {c : Call} {ts : List Turn} (hruns : l.Runs c)
    (hc : c.request.Withdraws l id parent owner c.outcome) :
    l.Withdrawn (.call c :: ts) id parent owner :=
  ⟨[], c, ts, rfl, hruns, hc⟩

theorem Withdrawn.cons {t : Turn} {ts : List Turn} (hts : (l.take t).Withdrawn ts id parent owner) :
    l.Withdrawn (t :: ts) id parent owner := by
  obtain ⟨before, c, after, rfl, hruns, hc⟩ := hts
  exact ⟨t :: before, c, after, rfl, hruns, hc⟩

theorem withdraws_of_singleton {c : Call} (h : l.Withdrawn [.call c] id parent owner) :
    c.request.Withdraws l id parent owner c.outcome := by
  obtain ⟨before, c', after, heq, -, hc⟩ := h
  cases before with
  | nil =>
    cases heq
    exact hc
  | cons t before => exact absurd (List.cons.inj heq).2 (by simp)

/-- What is not withdrawn stays on the books. -/
theorem houses_play {device : DispatchKey} (hl : l.ledger.Filed) {ts : List Turn}
    (hkept : ¬l.Withdrawn ts (.ofDevice device) parent owner)
    (hhouses : l.ledger.domains.Houses (.ofDevice device) parent image owner) :
    (l.play ts).ledger.domains.Houses (.ofDevice device) parent image owner := by
  induction ts generalizing l with
  | nil => exact hhouses
  | cons t ts ih =>
    -- what the rest of the run withdraws, the run withdraws, so only the first turn is left
    refine ih (filed_take hl t) (fun hts => hkept hts.cons) ?_
    cases t with
    | bind pairs => exact hhouses
    | call c =>
      by_cases hruns : l.Runs c
      · rw [domains_take_of_runs hl hruns]
        exact Domains.Houses.effect hhouses fun hc => hkept (withdrawn_of_head hruns hc)
      · rw [ledger_take_of_not_runs hruns]
        exact hhouses

/-- In any run, an image that a swapchain has handed out to a registered device passes every check
on the device, without a report, until a call runs that destroys the swapchain that owns the image,
the device or its instance, or gives a known instance a device under the same key. The owner is the
swapchain that the books named already, and this one if they named none. -/
theorem image_stays (config : Config) (before between : List Turn) {device swapchain image : Handle}
    {images : List Handle} :
    let l := (ofConfig config).play before
    let id := l.deviceId device
    let retrieval : Turn := .call ⟨.getSwapchainImages device swapchain, .ok images⟩
    let later := ((ofConfig config).play (before ++ [retrieval] ++ between)).ledger
    ∀ c, l.ledger.context? id = some c →
      l.Runs ⟨.getSwapchainImages device swapchain, .ok images⟩ → image ∈ images →
      ¬(l.take retrieval).Withdrawn between id c.parent
        ((c.registry.image? image).elim swapchain (·.parent)) →
      (later.context? id).isSome ∧
        ∀ a : Argument, a.kind = .image → a.handle = image → later.checkArgument id a = .pass := by
  intro l id retrieval later c hc hruns himage hkept
  have hfiled : l.ledger.Filed := filed_play_ofConfig config before
  have howner : (c.domain.images image).getD swapchain =
      (c.registry.image? image).elim swapchain (·.parent) := by
    show ((c.registry.image? image).map (·.parent)).getD swapchain = _
    cases c.registry.image? image <;> rfl
  have hentered : (l.take retrieval).ledger.domains.Houses id c.parent image
      ((c.registry.image? image).elim swapchain (·.parent)) := by
    rw [domains_take_of_runs hfiled hruns, ← howner]
    exact Domains.houses_enterImages swapchain himage (Ledger.domains_of_eq_some hc)
  have hplay := houses_play (filed_take hfiled retrieval) hkept hentered
  have hlater : ((l.take retrieval).play between).ledger = later := by
    refine congrArg Layer.ledger (Eq.symm ?_)
    rw [play, List.foldl_append, List.foldl_append]
    rfl
  rw [hlater] at hplay
  obtain ⟨d, hd, htracks⟩ := Ledger.tracks_of_houses hplay
  refine ⟨Option.isSome_of_eq_some hd, fun a hkind hhandle => ?_⟩
  refine Ledger.checkArgument_of_tracks hd (by rw [hkind]; decide) ?_
  rw [hkind, hhandle]
  exact htracks

/-- One of two swapchains has handed an image out. -/
def twoSwapchains : List Turn :=
  imageRetrieval ++ [.call ⟨.create (.swapchain 5 6) 3 false, .ok 8⟩]

/-- The second swapchain hands out the same image. -/
def sharedRetrieval : Call := ⟨.getSwapchainImages 3 8, .ok [7]⟩

/-- The image of an image view that is created. -/
def imageArgument (image : Handle) : Argument :=
  .required .image image "VUID-VkImageViewCreateInfo-image-parameter"
    (some "VUID-vkCreateImageView-image-09179")

/-- The image is still known when the second swapchain is destroyed, because the first one owns
it. -/
theorem shared_image_stays :
    let l := (ofConfig ⟨.default⟩).play twoSwapchains
    let between : List Turn := [.call ⟨.destroy .swapchain 3 8 false, ()⟩]
    (l.ledger.context? (l.deviceId 3)).isSome ∧ l.Runs sharedRetrieval ∧ (7 : Handle) ∈ [7] ∧
      ¬(l.take (.call sharedRetrieval)).Withdrawn between (l.deviceId 3) (some 10) 6 ∧
      ((ofConfig ⟨.default⟩).play (twoSwapchains ++ [.call sharedRetrieval] ++ between)
        ).ledger.checkArgument (l.deviceId 3) (imageArgument 7) = .pass := by
  intro l between
  have hruns : l.Runs sharedRetrieval := by decide +kernel
  have hknown : (l.ledger.context? (l.deviceId 3)).isSome := by decide +kernel
  obtain ⟨c, hc⟩ := Option.isSome_iff_exists.mp hknown
  have hbooks : (l.ledger.context? (l.deviceId 3)).map
      (fun c => (c.parent, (c.registry.image? 7).elim 8 (·.parent))) = some (some 10, 6) := by
    decide +kernel
  rw [hc, Option.map_some, Option.some.injEq, Prod.mk.injEq] at hbooks
  have hkept : ¬(l.take (.call sharedRetrieval)).Withdrawn between (l.deviceId 3) (some 10) 6 :=
    fun h => absurd (withdraws_of_singleton h).2.2 (by decide)
  have hlisted : (7 : Handle) ∈ [7] := List.mem_singleton.mpr rfl
  have hstays := image_stays ⟨.default⟩ twoSwapchains between c hc hruns hlisted
  rw [hbooks.1, hbooks.2] at hstays
  exact ⟨hknown, hruns, hlisted, hkept, (hstays hkept).2 (imageArgument 7) rfl rfl⟩

/-- The image is lost when the first swapchain is destroyed, though the second is alive and has
handed it out as well, and it is lost when a device is created under the same key. -/
theorem shared_image_lost :
    let l := (ofConfig ⟨.default⟩).play twoSwapchains
    let destruction : List Turn :=
      [.call sharedRetrieval, .call ⟨.destroy .swapchain 3 6 false, ()⟩]
    let replacement : List Turn :=
      [.call sharedRetrieval, .bind [(9, 20)], .call ⟨.createDevice 2 [] false, .ok 9⟩]
    (∀ t ∈ twoSwapchains ++ destruction ++ replacement, t.Exact) ∧
      (l.ledger.context? (l.deviceId 3)).isSome ∧ l.Runs sharedRetrieval ∧
      ((l.play destruction).ledger.record? (l.deviceId 3) .swapchain 8).isSome ∧
      ((l.play destruction).ledger.checkArgument (l.deviceId 3) (imageArgument 7)).skip = true ∧
      ((l.play replacement).ledger.checkArgument (l.deviceId 3) (imageArgument 7)).skip = true := by
  refine ⟨Turn.exact_of_toMemory rfl, ?known, ?runs, ?alive, ?destroyed, ?replaced⟩
  case known => decide +kernel
  case runs => decide +kernel
  case alive => decide +kernel
  case destroyed => decide +kernel
  case replaced => decide +kernel

end Layer

end HandleLedger
