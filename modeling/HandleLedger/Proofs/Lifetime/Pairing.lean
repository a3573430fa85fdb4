import HandleLedger.Proofs.Lifetime.Return

/-!
# Devices and the records of them

A device is on the books twice: it has books of its own, filed under its dispatch key, and its
instance has a record of it. The main statement, `devices_in_step`, says that the two stay in step
along every run in which the sinks refuse errors, known devices keep their keys, and new instances
and devices have keys that are not in use (`Layer.Orderly`).

The creation of a device makes both entries and its destruction takes both out, so what has to be
shown is that the destruction meets the right pair. A handle that passes the check of a device is
known to some instance, and by the invariant (`Domains.Paired`) the device under its key is then its
own.
-/

set_option autoImplicit false

namespace HandleLedger

/-! ## What matters about devices -/

/-- Who an instance or a device is and where it reports to, and the devices that an instance
knows. -/
structure Profile where
  handle : Handle
  parent : Option DispatchKey
  sink : Sink
  devices : Handle → Bool

namespace Domain

/-- The profile of a domain. Whatever a device knows as devices is of no matter. -/
def profile (s : Scope) (d : Domain) : Profile :=
  ⟨d.handle, d.parent, d.sink, fun h =>
    match s with
    | .instanceLevel => (d.live .device h).isSome
    | .deviceLevel => false⟩

variable {s : Scope} {k : Kind}

theorem isSome_live_remove {k' : Kind} {h h' : Handle} {d : Domain} :
    ((d.remove k h).live k' h').isSome ↔ (d.live k' h').isSome ∧ ¬(k = k' ∧ h = h') := by
  show (if k = k' ∧ h = h' then none else d.live k' h').isSome ↔ _
  by_cases hs : k = k' ∧ h = h' <;> simp [hs]

theorem profile_enter (hk : k ≠ .device) (h : Handle) (life : Life)
    (d : Domain) : (d.enter k h life).profile s = d.profile s := by
  cases s with
  | deviceLevel => rfl
  | instanceLevel =>
    have hlive : ∀ o, (d.enter k h life).live .device o = d.live .device o := by
      intro o
      show (d.live .device o).or (if k = .device ∧ h = o then some life else none) = _
      rw [if_neg fun hs => hk hs.1, Option.or_none]
    simp only [profile, hlive]
    rfl

theorem profile_remove (hk : k ≠ .device) (h : Handle) (d : Domain) :
    (d.remove k h).profile s = d.profile s := by
  cases s with
  | deviceLevel => rfl
  | instanceLevel =>
    have hlive : ∀ o, (d.remove k h).live .device o = d.live .device o :=
      fun o => if_neg fun hs => hk hs.1
    simp only [profile, hlive]
    rfl

theorem profile_takeAlong (child : Child) (h : Handle) (d : Domain) :
    (child.takeAlong h d).profile s = d.profile s := by
  cases child <;> cases s <;> rfl

end Domain

/-- A device is not created or destroyed like other objects. -/
theorem Child.kind_ne_device (child : Child) : child.kind ≠ .device := by
  cases child <;> decide

namespace Domains

/-- The profiles of all instances and devices. -/
def profiles (D : Domains) : ContextId → Option Profile :=
  fun id => (D id).map (Domain.profile id.scope)

variable {D D' : Domains} {id : ContextId}

theorem profiles_modify {g : Domain → Domain}
    (hg : ∀ d, (g d).profile id.scope = d.profile id.scope) :
    (D.modify id g).profiles = D.profiles := by
  funext id'
  rw [profiles, profiles, modify]
  split
  · rename_i hid
    subst hid
    rw [Option.map_map]
    exact congrArg (fun f => (D id).map f) (funext hg)
  · rfl

theorem profiles_foldl {g : Handle → Domain → Domain}
    (hg : ∀ h d, (g h d).profile id.scope = d.profile id.scope) :
    ∀ (hs : List Handle) (D : Domains),
      Domains.profiles (hs.foldl (fun D h => D.modify id (g h)) D) = D.profiles
  | [], _ => rfl
  | h :: hs, D => (profiles_foldl hg hs (D.modify id (g h))).trans (profiles_modify (hg h))

theorem profiles_enterAll {k : Kind} (hk : k ≠ .device)
    (hs : List Handle) (life : Life) : (D.enterAll id k hs life).profiles = D.profiles :=
  profiles_foldl (fun h => Domain.profile_enter hk h life) hs D

theorem profiles_enterImages (images : List Handle) (swapchain : Handle) :
    (D.enterImages id images swapchain).profiles = D.profiles :=
  profiles_foldl (g := (Domain.enterImage · swapchain)) (fun _ _ => rfl) images D

theorem profiles_removeAll {k : Kind} (hk : k ≠ .device)
    (hs : List Handle) : (D.removeAll id k hs).profiles = D.profiles :=
  profiles_foldl (fun h => Domain.profile_remove hk h) hs D

/-- Domains with the same profiles differ in nothing that matters about devices. -/
theorem exists_of_profiles_eq (h : D'.profiles = D.profiles) {d' : Domain} (hd' : D' id = some d') :
    ∃ d, D id = some d ∧ d.profile id.scope = d'.profile id.scope := by
  have hprofile : (D id).map (Domain.profile id.scope) = some (d'.profile id.scope) := by
    have heq := congrFun h id
    rw [profiles, profiles, hd'] at heq
    exact heq.symm
  exact Option.map_eq_some_iff.mp hprofile

theorem holds_of_profiles_eq (h : D'.profiles = D.profiles) {i : DispatchKey} {o : Handle}
    (hh : D'.Holds (.ofInstance i) .device o) : D.Holds (.ofInstance i) .device o := by
  obtain ⟨d', hd', hlive⟩ := hh
  obtain ⟨d, hd, hprofile⟩ := exists_of_profiles_eq h hd'
  exact ⟨d, hd, (congrFun (congrArg Profile.devices hprofile) o).trans hlive⟩

/-- The sink of an instance or a device. -/
def sink? (D : Domains) (id : ContextId) : Option Sink := (D id).map (·.sink)

theorem sink?_congr (h : D' id = D id) : D'.sink? id = D.sink? id :=
  congrArg (Option.map Domain.sink) h

theorem sink?_of_profiles_eq (h : D'.profiles = D.profiles) : D'.sink? id = D.sink? id := by
  have heq := congrArg (Option.map Profile.sink) (congrFun h id)
  rw [profiles, profiles, Option.map_map, Option.map_map] at heq
  exact heq

/-! ## What begins and ends -/

section Steps

variable {i j k key : DispatchKey} {h o : Handle} {life : Life} {d : Domain}

theorem loseInstance_of_ne (hij : i ≠ j) :
    D.loseInstance i (.ofInstance j) = D (.ofInstance j) := by
  rw [loseInstance, if_neg]
  rintro (heq | ⟨hscope, -⟩)
  · exact hij (ContextId.ofInstance_inj.mp heq)
  · cases hscope

theorem holds_loseInstance {k : Kind} :
    (D.loseInstance i).Holds (.ofInstance j) k o ↔ i ≠ j ∧ D.Holds (.ofInstance j) k o := by
  by_cases hij : i = j
  · subst hij
    have hlost : D.loseInstance i (.ofInstance i) = none := if_pos (.inl rfl)
    rw [Holds, hlost]
    simp
  · rw [Holds, loseInstance_of_ne hij]
    exact ⟨fun hh => ⟨hij, hh⟩, And.right⟩

theorem loseInstance_ofDevice :
    D.loseInstance i (.ofDevice k) = some d ↔ D (.ofDevice k) = some d ∧ d.parent ≠ some i := by
  rw [loseInstance]
  cases hd : D (.ofDevice k) with
  | none =>
    rw [ite_self]
    exact ⟨fun heq => ⟨heq, by cases heq⟩, And.left⟩
  | some d' =>
    by_cases hparent : d'.parent = some i
    · rw [if_pos (.inr ⟨rfl, decide_eq_true hparent⟩)]
      refine ⟨(absurd · (Option.some_ne_none d).symm), ?_⟩
      rintro ⟨heq, hother⟩
      cases heq
      exact absurd hparent hother
    · rw [if_neg]
      · refine ⟨fun heq => ⟨heq, ?_⟩, And.left⟩
        cases heq
        exact hparent
      · rintro (heq | ⟨-, hany⟩)
        · cases heq
        · exact hparent (of_decide_eq_true hany)

/-- A device begins, and its instance knows it. -/
def openDevice (key i : DispatchKey) (h : Handle) (life : Life) (d : Domain) (D : Domains) :
    Domains :=
  (D.found (.ofDevice key) d).modify (.ofInstance i) (·.enter .device h life)

theorem openDevice_ofDevice :
    D.openDevice key i h life d (.ofDevice k) = if key = k then some d else D (.ofDevice k) := by
  rw [openDevice, modify_of_ne ContextId.ofInstance_ne_ofDevice, found]
  simp only [ContextId.ofDevice_inj]

theorem openDevice_ofInstance :
    D.openDevice key i h life d (.ofInstance j) =
      if i = j then (D (.ofInstance j)).map (·.enter .device h life) else D (.ofInstance j) := by
  rw [openDevice, Domains.modify, found_of_ne ContextId.ofInstance_ne_ofDevice.symm]
  simp only [ContextId.ofInstance_inj]

theorem sink?_openDevice :
    (D.openDevice key i h life d).sink? (.ofInstance j) = D.sink? (.ofInstance j) := by
  rw [sink?, openDevice_ofInstance]
  split
  · exact Option.map_map ..
  · rfl

theorem holds_openDevice {parent : Domain} (hparent : D (.ofInstance i) = some parent) :
    (D.openDevice key i h life d).Holds (.ofInstance j) .device o ↔
      D.Holds (.ofInstance j) .device o ∨ i = j ∧ h = o := by
  rw [Holds, openDevice_ofInstance]
  by_cases hij : i = j
  · subst hij
    simp [Holds, hparent, Domain.isSome_live_enter]
  · rw [if_neg hij]
    exact ⟨.inl, fun hh => hh.resolve_right fun heq => hij heq.1⟩

/-- A device ends, and its instance knows it no more. -/
def closeDevice (key i : DispatchKey) (h : Handle) (D : Domains) : Domains :=
  (D.modify (.ofInstance i) (·.remove .device h)).lose (.ofDevice key)

theorem closeDevice_ofDevice :
    D.closeDevice key i h (.ofDevice k) = if key = k then none else D (.ofDevice k) := by
  rw [closeDevice, lose, modify_of_ne ContextId.ofInstance_ne_ofDevice]
  simp only [ContextId.ofDevice_inj]

theorem closeDevice_ofInstance :
    D.closeDevice key i h (.ofInstance j) =
      if i = j then (D (.ofInstance j)).map (·.remove .device h) else D (.ofInstance j) := by
  rw [closeDevice, lose_of_ne ContextId.ofInstance_ne_ofDevice.symm, Domains.modify]
  simp only [ContextId.ofInstance_inj]

theorem sink?_closeDevice :
    (D.closeDevice key i h).sink? (.ofInstance j) = D.sink? (.ofInstance j) := by
  rw [sink?, closeDevice_ofInstance]
  split
  · exact Option.map_map ..
  · rfl

theorem holds_closeDevice :
    (D.closeDevice key i h).Holds (.ofInstance j) .device o ↔
      D.Holds (.ofInstance j) .device o ∧ ¬(i = j ∧ h = o) := by
  rw [Holds, closeDevice_ofInstance]
  by_cases hij : i = j
  · subst hij
    cases hroot : D (.ofInstance i) <;> simp [Holds, hroot, Domain.isSome_live_remove]
  · rw [if_neg hij]
    exact ⟨fun hh => ⟨hh, fun heq => hij heq.1⟩, And.left⟩

end Steps

/-! ## The invariant -/

/-- Every device stands under the key of its handle, is alive in its instance, and reports to the
same sink. Every device that is alive in an instance stands under its key, with that instance as its
parent. -/
structure Paired (key : Handle → DispatchKey) (D : Domains) : Prop where
  listed : ∀ k d, D (.ofDevice k) = some d → key d.handle = k ∧
    ∃ i, d.parent = some i ∧ D.Holds (.ofInstance i) .device d.handle ∧
      D.sink? (.ofInstance i) = some d.sink
  opened : ∀ i h, D.Holds (.ofInstance i) .device h →
    ∃ d, D (.ofDevice (key h)) = some d ∧ d.handle = h ∧ d.parent = some i

theorem paired_empty (key : Handle → DispatchKey) : Paired key fun _ => none where
  listed _ _ hd := by cases hd
  opened _ _ hh := by
    obtain ⟨d, hd, -⟩ := hh
    cases hd

namespace Paired

variable {key : Handle → DispatchKey}

/-- Only the keys of devices that are alive matter. -/
theorem rekey (hD : D.Paired key) {key' : Handle → DispatchKey}
    (hkey : ∀ i h, D.Holds (.ofInstance i) .device h → key' h = key h) : D.Paired key' where
  listed k d hd := by
    obtain ⟨hk, i, hparent, hholds, hsink⟩ := hD.listed k d hd
    exact ⟨(hkey i d.handle hholds).trans hk, i, hparent, hholds, hsink⟩
  opened i h hh := by
    rw [hkey i h hh]
    exact hD.opened i h hh

theorem congr (hD : D.Paired key) (h : D'.profiles = D.profiles) : D'.Paired key where
  listed k d' hd' := by
    obtain ⟨d, hd, hprofile⟩ := exists_of_profiles_eq h hd'
    have hhandle : d.handle = d'.handle := congrArg Profile.handle hprofile
    have hsame : d.sink = d'.sink := congrArg Profile.sink hprofile
    obtain ⟨hk, i, hparent, hholds, hsink⟩ := hD.listed k d hd
    rw [hhandle] at hk hholds
    rw [hsame] at hsink
    refine ⟨hk, i, ?_, holds_of_profiles_eq h.symm hholds, (sink?_of_profiles_eq h).trans hsink⟩
    exact (congrArg Profile.parent hprofile).symm.trans hparent
  opened i o hh := by
    obtain ⟨d, hd, hhandle, hparent⟩ := hD.opened i o (holds_of_profiles_eq h hh)
    obtain ⟨d', hd', hprofile⟩ := exists_of_profiles_eq h.symm hd
    refine ⟨d', hd', ?_, ?_⟩
    · exact (congrArg Profile.handle hprofile).trans hhandle
    · exact (congrArg Profile.parent hprofile).trans hparent

/-- A change that concerns no devices. -/
theorem modify (hD : D.Paired key) {g : Domain → Domain}
    (hg : ∀ d, (g d).profile id.scope = d.profile id.scope) : (D.modify id g).Paired key :=
  hD.congr (profiles_modify hg)

/-- An instance begins under a key that is not in use, and knows no devices yet. -/
theorem openInstance (hD : D.Paired key) {i : DispatchKey} (hfree : D (.ofInstance i) = none)
    {d : Domain} (hd : ∀ h, d.live .device h = none) : (D.found (.ofInstance i) d).Paired key where
  listed k d' hd' := by
    rw [found_of_ne ContextId.ofInstance_ne_ofDevice] at hd'
    obtain ⟨hk, j, hparent, ⟨root, hroot, hlive⟩, hsink⟩ := hD.listed k d' hd'
    -- the instance of a device was there before, so it is another one
    have hne : ContextId.ofInstance i ≠ .ofInstance j := by
      intro heq
      rw [← heq, hfree] at hroot
      cases hroot
    refine ⟨hk, j, hparent, ⟨root, ?_, hlive⟩, (sink?_congr (found_of_ne hne)).trans hsink⟩
    exact (found_of_ne hne).trans hroot
  opened j h hh := by
    obtain ⟨d', hd', hlive⟩ := hh
    rw [found_of_ne ContextId.ofInstance_ne_ofDevice]
    rw [found] at hd'
    split at hd'
    · cases hd'
      rw [hd h] at hlive
      cases hlive
    · exact hD.opened j h ⟨d', hd', hlive⟩

/-- An instance ends together with its devices. -/
theorem closeInstance (hD : D.Paired key) (i : DispatchKey) : (D.loseInstance i).Paired key where
  listed k d hd := by
    obtain ⟨hd, hother⟩ := loseInstance_ofDevice.mp hd
    obtain ⟨hk, j, hparent, hholds, hsink⟩ := hD.listed k d hd
    have hij : i ≠ j := by
      rintro rfl
      exact hother hparent
    refine ⟨hk, j, hparent, holds_loseInstance.mpr ⟨hij, hholds⟩, ?_⟩
    exact (sink?_congr (loseInstance_of_ne hij)).trans hsink
  opened j h hh := by
    obtain ⟨hij, hholds⟩ := holds_loseInstance.mp hh
    obtain ⟨d, hd, hhandle, hparent⟩ := hD.opened j h hholds
    refine ⟨d, loseInstance_ofDevice.mpr ⟨hd, ?_⟩, hhandle, hparent⟩
    rw [hparent]
    exact fun heq => hij (Option.some.inj heq).symm

/-- A device begins under a key that is not in use, and its instance knows it. -/
theorem openDevice (hD : D.Paired key) {i : DispatchKey} {h : Handle} {parent : Domain}
    (hparent : D (.ofInstance i) = some parent) (hfree : D (.ofDevice (key h)) = none)
    (capabilities : List UInt32) (life : Life) :
    (D.openDevice (key h) i h life
      (.barren h (some i) parent.sink capabilities)).Paired key where
  listed k d hd := by
    rw [openDevice_ofDevice] at hd
    split at hd
    · rename_i hk
      cases hd
      refine ⟨hk, i, rfl, (holds_openDevice hparent).mpr (.inr ⟨rfl, rfl⟩), ?_⟩
      rw [sink?_openDevice, sink?, hparent]
      rfl
    · obtain ⟨hkey, j, hj, hholds, hsink⟩ := hD.listed k d hd
      refine ⟨hkey, j, hj, (holds_openDevice hparent).mpr (.inl hholds), ?_⟩
      exact sink?_openDevice.trans hsink
  opened j o hh := by
    rw [openDevice_ofDevice]
    rcases (holds_openDevice hparent).mp hh with hbefore | ⟨rfl, rfl⟩
    · obtain ⟨d, hd, hd'⟩ := hD.opened j o hbefore
      -- a device that was there before has another key than the new one
      have hk : key h ≠ key o := by
        intro heq
        rw [← heq, hfree] at hd
        cases hd
      exact ⟨d, (if_neg hk).trans hd, hd'⟩
    · exact ⟨_, if_pos rfl, rfl, rfl⟩

/-- A device ends, and its instance knows it no more. -/
theorem closeDevice (hD : D.Paired key) {i : DispatchKey} {h : Handle} {d : Domain}
    (hd : D (.ofDevice (key h)) = some d) (hh : d.handle = h) (hi : d.parent = some i) :
    (D.closeDevice (key h) i h).Paired key where
  listed k d' hd' := by
    rw [closeDevice_ofDevice] at hd'
    split at hd'
    · cases hd'
    · rename_i hk
      obtain ⟨hkey, j, hj, hholds, hsink⟩ := hD.listed k d' hd'
      refine ⟨hkey, j, hj, holds_closeDevice.mpr ⟨hholds, ?_⟩, sink?_closeDevice.trans hsink⟩
      -- it is another device, so it is not the one that the instance forgets
      rintro ⟨-, rfl⟩
      exact hk hkey
  opened j o ho := by
    obtain ⟨hholds, hne⟩ := holds_closeDevice.mp ho
    obtain ⟨d', hd', hhandle, hparent⟩ := hD.opened j o hholds
    have hk : key h ≠ key o := by
      intro heq
      -- under the key of the device stands that device only
      rw [← heq, hd, Option.some.injEq] at hd'
      subst hd'
      exact hne ⟨Option.some.inj (hi.symm.trans hparent), hh.symm.trans hhandle⟩
    exact ⟨d', closeDevice_ofDevice.trans ((if_neg hk).trans hd'), hhandle, hparent⟩

end Paired

end Domains

/-! ## Runs that keep devices apart -/

/-- The instance or device that the call gives back has a key that is not in use. -/
def Request.Orderly (l : Layer) : (r : Request) → r.shape.Outcome → Prop
  | .createInstance .. => fun o => ∀ h, o = .ok h → l.ledger.context? (l.instanceId h) = none
  | .createDevice .. => fun o => ∀ h, o = .ok h → l.ledger.context? (l.deviceId h) = none
  | _ => fun _ => True

/-- A call that runs gives back keys that are not in use, and known devices keep their keys. -/
def Turn.Orderly (l : Layer) : Turn → Prop
  | .bind pairs => ∀ i h, (l.ledger.record? (.ofInstance i) .device h).isSome →
    (l.bind pairs).keyOf h = l.keyOf h
  | .call c => l.Runs c → c.request.Orderly l c.outcome

namespace Layer

/-- Every turn of the run is orderly when it comes. -/
def Orderly : Layer → List Turn → Prop
  | _, [] => True
  | l, t :: ts => t.Orderly l ∧ Orderly (l.take t) ts

variable {l : Layer}

/-! ## Calls -/

theorem exists_holds_of_knowsDevice (hl : l.ledger.Filed) {h : Handle}
    (hknown : l.ledger.knowsDevice h = true) :
    ∃ i, l.ledger.domains.Holds (.ofInstance i) .device h := by
  obtain ⟨key, c, hc, hfound⟩ := (Ledger.knowsDevice_iff hl h).mp hknown
  refine ⟨key, Ledger.holds_iff_record?.mpr ?_⟩
  rw [Ledger.record?_of_eq_some hc]
  exact hfound

/-- A device whose destruction runs under a strict sink stands under its own key. -/
theorem handle_of_destroyDevice (hl : l.ledger.Filed) (hD : l.ledger.domains.Paired l.keyOf)
    {h : Handle} {custom : Bool} (hh : h ≠ nullHandle) {c : Context}
    (hc : l.ledger.context? (l.deviceId h) = some c) (hs : c.sink.Strict)
    (hruns : l.Runs ⟨.destroyDevice h custom, ()⟩) : c.handle = h := by
  obtain ⟨-, i, hparent, -⟩ := hD.listed _ _ (Ledger.domains_of_eq_some hc)
  have hinstance : l.ledger.instanceOf (l.keyOf h) = some i :=
    (Ledger.instanceOf_of_eq_some hc).trans hparent
  have hpass : (l.destroyDevice h custom).check.skip = false := (l.runs_iff _).mp hruns
  simp only [destroyDevice, if_neg hh, hinstance] at hpass
  have hargument := (Check.skip_append_eq_false.mp hpass).1
  rcases Ledger.knowsDevice_of_checkArgument hargument hc hs rfl with ⟨-, hnull⟩ | hknown
  · exact absurd hnull hh
  · obtain ⟨j, hholds⟩ := exists_holds_of_knowsDevice hl hknown
    obtain ⟨d, hd, hhandle, -⟩ := hD.opened j h hholds
    -- it is the device under the key of the handle
    cases (Ledger.domains_of_eq_some hc).symm.trans hd
    exact hhandle

theorem paired_createInstance (hD : l.ledger.domains.Paired l.keyOf) {custom : Bool}
    {sink : Option Sink} {h : Handle} (hfree : l.ledger.context? (l.instanceId h) = none) :
    Domains.Paired l.keyOf (Request.effect l.world (.createInstance custom sink) (.ok h)) := by
  refine hD.openInstance (Ledger.domains_of_eq_none hfree) fun o => ?_
  -- the new instance knows itself and no device
  refine Option.not_isSome_iff_eq_none.mp fun hlive => ?_
  rcases Domain.isSome_live_enter.mp hlive with hbarren | ⟨hkind, -⟩
  · cases hbarren
  · cases hkind

theorem paired_createDevice (hD : l.ledger.domains.Paired l.keyOf) {physicalDevice h : Handle}
    {families : List UInt32} {custom : Bool} (hfree : l.ledger.context? (l.deviceId h) = none) :
    Domains.Paired l.keyOf
      (Request.effect l.world (.createDevice physicalDevice families custom) (.ok h)) := by
  show Domains.Paired l.keyOf ((l.world.domains (l.instanceId physicalDevice)).elim l.world.domains
    fun parent => (l.world.domains.found (l.deviceId h)
      (.barren h (some (l.keyOf physicalDevice)) parent.sink families)).modify
        (l.instanceId physicalDevice) (·.enter .device h ⟨custom, nullHandle⟩))
  cases hparent : l.world.domains (l.instanceId physicalDevice) with
  | none => exact hD
  | some parent => exact hD.openDevice hparent (Ledger.domains_of_eq_none hfree) families _

theorem paired_destroyDevice (hl : l.ledger.Filed) (hs : l.ledger.domains.Strict)
    (hD : l.ledger.domains.Paired l.keyOf) {h : Handle} {custom : Bool}
    (hruns : l.Runs ⟨.destroyDevice h custom, ()⟩) :
    Domains.Paired l.keyOf (Request.effect l.world (.destroyDevice h custom) ()) := by
  show Domains.Paired l.keyOf (if h = nullHandle then l.world.domains
    else (l.world.instanceOf h).elim l.world.domains fun id =>
      (l.world.domains.modify id (·.remove .device h)).lose (l.deviceId h))
  by_cases hh : h = nullHandle
  · rw [if_pos hh]
    exact hD
  · rw [if_neg hh]
    rw [world_instanceOf]
    cases hc : l.ledger.context? (l.deviceId h) with
    | none =>
      rw [Ledger.instanceOf_of_eq_none hc]
      exact hD
    | some c =>
      have hd := Ledger.domains_of_eq_some hc
      obtain ⟨-, i, hparent, -⟩ := hD.listed _ _ hd
      rw [(Ledger.instanceOf_of_eq_some hc).trans hparent]
      have hhandle := handle_of_destroyDevice hl hD hh hc (hs _ _ hd) hruns
      exact hD.closeDevice hd hhandle hparent

theorem paired_getDeviceQueue (hD : l.ledger.domains.Paired l.keyOf) {device : Handle}
    {family : UInt32} {queue : Handle} :
    Domains.Paired l.keyOf (Request.effect l.world (.getDeviceQueue device family) queue) := by
  show Domains.Paired l.keyOf (if queue = nullHandle then l.world.domains else _)
  split
  · exact hD
  · exact hD.modify fun _ => rfl

/-- A call that runs keeps devices and their records in step. -/
theorem paired_effect (hl : l.ledger.Filed) (hs : l.ledger.domains.Strict)
    (hD : l.ledger.domains.Paired l.keyOf) {r : Request} {outcome : r.shape.Outcome}
    (hruns : l.Runs ⟨r, outcome⟩) (hr : r.Orderly l outcome) :
    Domains.Paired l.keyOf (r.effect l.world (r.deemed outcome)) := by
  cases r with
  | createInstance custom sink =>
    cases outcome with
    | error _ => exact hD
    | ok h => exact paired_createInstance hD (hr h rfl)
  | destroyInstance h custom =>
    show Domains.Paired l.keyOf (if h = nullHandle then l.world.domains else _)
    split
    · exact hD
    · exact hD.closeInstance (l.keyOf h)
  | enumeratePhysicalDevices i =>
    cases outcome with
    | error _ => exact hD
    | ok hs => exact hD.congr (Domains.profiles_enterAll (by decide) hs _)
  | createDevice physicalDevice families custom =>
    cases outcome with
    | error _ => exact hD
    | ok h => exact paired_createDevice hD (hr h rfl)
  | destroyDevice h custom => exact paired_destroyDevice hl hs hD hruns
  | getDeviceQueue device family => exact paired_getDeviceQueue hD
  | queueSubmit => exact hD
  | queueBindSparse => exact hD
  | createDeviceChild device kind code custom =>
    cases outcome with
    | error _ => exact hD
    | ok h => exact hD.modify fun _ => rfl
  | destroyDeviceChild device h kind custom codes =>
    show Domains.Paired l.keyOf (if h = nullHandle then l.world.domains else _)
    split
    · exact hD
    · exact hD.modify fun _ => rfl
  | create what owner custom =>
    cases outcome with
    | error _ => exact hD
    | ok h => exact hD.modify (Domain.profile_enter what.child.kind_ne_device h _)
  | destroy child owner h custom =>
    show Domains.Paired l.keyOf (if h = nullHandle then l.world.domains else _)
    split
    · exact hD
    · refine hD.modify fun d => ?_
      exact (Domain.profile_takeAlong child h _).trans
        (Domain.profile_remove child.kind_ne_device h d)
  | getSwapchainImages device swapchain =>
    cases outcome with
    | error _ => exact hD
    | ok hs => exact hD.congr (Domains.profiles_enterImages hs swapchain)
  | allocateCommandBuffers device pool level =>
    cases outcome with
    | error _ => exact hD
    | ok hs => exact hD.congr (Domains.profiles_enterAll (by decide) hs _)
  | freeCommandBuffers device pool hs =>
    exact hD.congr (Domains.profiles_removeAll (by decide) (nonNull hs))
  | beginCommandBuffer => exact hD
  | resetDescriptorPool => exact hD.modify fun _ => rfl
  | allocateDescriptorSets device pool layouts =>
    cases outcome with
    | error _ => exact hD
    | ok hs => exact hD.congr (Domains.profiles_enterAll (by decide) hs _)
  | freeDescriptorSets device pool hs =>
    cases outcome with
    | error _ => exact hD
    | ok _ => exact hD.congr (Domains.profiles_removeAll (by decide) (nonNull hs))
  | bindImageMemory => exact hD
  | bindBufferMemory => exact hD
  | mapMemory => exact hD
  | waitForFences => exact hD

/-! ## Runs -/

theorem paired_take (hl : l.ledger.Filed) (hs : l.ledger.domains.Strict)
    (hD : l.ledger.domains.Paired l.keyOf) {t : Turn} (ht : t.Orderly l) :
    (l.take t).ledger.domains.Paired (l.take t).keyOf := by
  cases t with
  | bind pairs => exact hD.rekey fun i h hh => ht i h (Ledger.holds_iff_record?.mp hh)
  | call c =>
    by_cases hruns : l.Runs c
    · rw [domains_take_of_runs hl hruns]
      exact paired_effect hl hs hD hruns (ht hruns)
    · rw [ledger_take_of_not_runs hruns]
      exact hD

theorem paired_play (hl : l.ledger.Filed) (hs : l.ledger.domains.Strict)
    (hD : l.ledger.domains.Paired l.keyOf) {ts : List Turn}
    (hts : ∀ t ∈ ts, t.Strict l.defaultSink) (horderly : l.Orderly ts) :
    (l.play ts).ledger.domains.Paired (l.play ts).keyOf := by
  induction ts generalizing l with
  | nil => exact hD
  | cons t ts ih =>
    obtain ⟨ht, hrest⟩ := horderly
    have hstrict := hts t (List.mem_cons_self ..)
    have hsink : (l.take t).defaultSink = l.defaultSink := by
      rw [defaultSink, config_take]
      rfl
    refine ih (filed_take hl t) (strict_take hl hs hstrict) (paired_take hl hs hD ht) ?_ hrest
    intro u hu
    rw [hsink]
    exact hts u (List.mem_cons_of_mem _ hu)

/-- The devices on the books and the records of them are in step. -/
structure InStep (l : Layer) : Prop where
  /-- A device of an instance is on the books, under the key of its handle, exactly if the instance
  has a record of it. -/
  listed_iff : ∀ key i h,
    (∃ c, l.ledger.context? (.ofDevice key) = some c ∧ c.handle = h ∧ c.parent = some i) ↔
      (l.ledger.record? (.ofInstance i) .device h).isSome ∧ l.keyOf h = key
  /-- Records that belong to one device are one record. -/
  record_unique : ∀ i j h o, (l.ledger.record? (.ofInstance i) .device h).isSome →
    (l.ledger.record? (.ofInstance j) .device o).isSome → l.keyOf h = l.keyOf o → i = j ∧ h = o
  /-- Devices with one handle are one device. -/
  device_unique : ∀ key key' c c', l.ledger.context? (.ofDevice key) = some c →
    l.ledger.context? (.ofDevice key') = some c' → c.handle = c'.handle → key = key'
  /-- Every device has its instance, and reports to the same sink. -/
  sink_eq : ∀ key c, l.ledger.context? (.ofDevice key) = some c →
    ∃ i root, c.parent = some i ∧ l.ledger.context? (.ofInstance i) = some root ∧
      c.sink = root.sink

theorem inStep_of_paired (hD : l.ledger.domains.Paired l.keyOf) : l.InStep where
  listed_iff key i h := by
    constructor
    · rintro ⟨c, hc, rfl, hparent⟩
      obtain ⟨hkey, j, hj, hholds, -⟩ := hD.listed key _ (Ledger.domains_of_eq_some hc)
      have hij : i = j := Option.some.inj (hparent.symm.trans hj)
      subst hij
      exact ⟨Ledger.holds_iff_record?.mp hholds, hkey⟩
    · rintro ⟨hrecord, rfl⟩
      obtain ⟨d, hd, hhandle, hparent⟩ := hD.opened i h (Ledger.holds_iff_record?.mpr hrecord)
      obtain ⟨c, hc, rfl⟩ := Ledger.domains_eq_some_iff.mp hd
      exact ⟨c, hc, hhandle, hparent⟩
  record_unique i j h o hh ho hkey := by
    obtain ⟨d, hd, hhandle, hparent⟩ := hD.opened i h (Ledger.holds_iff_record?.mpr hh)
    obtain ⟨d', hd', hhandle', hparent'⟩ := hD.opened j o (Ledger.holds_iff_record?.mpr ho)
    -- both records belong to the device under the one key
    rw [hkey] at hd
    cases hd.symm.trans hd'
    exact ⟨Option.some.inj (hparent.symm.trans hparent'), hhandle.symm.trans hhandle'⟩
  device_unique key key' c c' hc hc' hhandle := by
    have hkey := (hD.listed key _ (Ledger.domains_of_eq_some hc)).1
    have hkey' := (hD.listed key' _ (Ledger.domains_of_eq_some hc')).1
    exact hkey.symm.trans ((congrArg l.keyOf hhandle).trans hkey')
  sink_eq key c hc := by
    obtain ⟨-, i, hparent, -, hsink⟩ := hD.listed key _ (Ledger.domains_of_eq_some hc)
    obtain ⟨d, hd, hsame⟩ := Option.map_eq_some_iff.mp hsink
    obtain ⟨root, hroot, rfl⟩ := Ledger.domains_eq_some_iff.mp hd
    exact ⟨i, root, hparent, hroot, hsame.symm⟩

/-- In a run whose sinks refuse errors, in which known devices keep their keys and new instances and
devices have keys that are not in use, devices and the records of them stay in step. -/
theorem devices_in_step (config : Config) {ts : List Turn}
    (hsinks : ∀ t ∈ ts, t.Strict (ofConfig config).defaultSink)
    (horderly : (ofConfig config).Orderly ts) : ((ofConfig config).play ts).InStep := by
  have hstrict : (ofConfig config).ledger.domains.Strict := by
    rintro id d ⟨⟩
  refine inStep_of_paired (paired_play (l := ofConfig config) ?_ hstrict ?_ hsinks horderly)
  · exact Ledger.every_empty _
  · exact Domains.paired_empty _

/-- One of two devices is destroyed. -/
def deviceDestruction : List Turn :=
  deviceCreation ++
    [.call ⟨.createDevice 2 [] false, .ok 4⟩,
      .call ⟨.destroyDevice 3 false, ()⟩]

/-- The device that is left is on the books together with its record, and neither the other device
nor its record is. -/
theorem remaining_device_in_step :
    let l := (ofConfig ⟨.default⟩).play deviceDestruction
    (∃ c, l.ledger.context? (.ofDevice 30) = some c ∧ c.handle = 4 ∧ c.parent = some 10) ∧
      ¬∃ c, l.ledger.context? (.ofDevice 20) = some c ∧ c.handle = 3 ∧ c.parent = some 10 := by
  intro l
  have hsinks := Turn.strict_of_toMemory (show deviceDestruction.all Turn.toMemory = true from rfl)
    (ofConfig ⟨.default⟩).defaultSink
  have horderly : (ofConfig ⟨.default⟩).Orderly deviceDestruction := by
    refine ⟨?bound, ?root, fun _ => trivial, ?first, ?second, fun _ => trivial, trivial⟩
    case bound =>
      intro i h hh
      cases hh
    case root =>
      rintro - h ⟨⟩
      decide +kernel
    case first =>
      rintro - h ⟨⟩
      decide +kernel
    case second =>
      rintro - h ⟨⟩
      decide +kernel
  have hstep := devices_in_step ⟨.default⟩ hsinks horderly
  have hkept : (l.ledger.record? (.ofInstance 10) .device 4).isSome ∧ l.keyOf 4 = 30 := by
    decide +kernel
  have hgone : ¬((l.ledger.record? (.ofInstance 10) .device 3).isSome ∧ l.keyOf 3 = 20) := by
    decide +kernel
  exact ⟨(hstep.listed_iff 30 10 4).mpr hkept, fun hdevice =>
    hgone ((hstep.listed_iff 20 10 3).mp hdevice)⟩

end Layer

end HandleLedger
