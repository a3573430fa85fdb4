import HandleLedger.Proofs.Ledger.Replay
import HandleLedger.Proofs.Ledger.Validation

/-!
# The verdict on an argument

The check of an argument sorts it into one of four classes, which are stated by look-ups alone. The
argument raises no question (`Ledger.Undisputed`); or another device knows the object
(`Ledger.HeldElsewhere`), which breaks a rule of its own or none; or nobody knows it. The main
statement, `checkArgument_classifies`, says what is reported and answered in each class.

The check walks the directory, and a device is left out of that walk by its key. Both are safe
because every context stands under its own identity: the walk meets each context of a scope once
(`Filed.mem_instances`, `Filed.mem_devicesExcept_ownDevice`), in whatever order it is made.
-/

set_option autoImplicit false

namespace HandleLedger

namespace Ledger

/-- Some instance holds the device. -/
def HoldsDevice (l : Ledger) (device : Handle) : Prop :=
  ∃ key c, l.context? (.ofInstance key) = some c ∧ (c.registry.find? .device device).isSome

/-- A device other than the addressed context knows the object. To an instance, every device is
another one. -/
def HeldElsewhere (l : Ledger) (id : ContextId) (k : Kind) (h : Handle) : Prop :=
  ∃ key c, .ofDevice key ≠ id ∧ l.context? (.ofDevice key) = some c ∧ c.registry.Holds k h

/-- The argument raises no question. -/
inductive Undisputed (l : Ledger) (id : ContextId) (a : Argument) : Prop
  | null (hallowed : a.nullAllowed = true) (hnull : a.handle = nullHandle)
  | unknown (hc : l.context? id = none)
  | device (hk : a.kind = .device) (hd : l.HoldsDevice a.handle)
  | own (hk : a.kind ≠ .device) (c : Context) (hc : l.context? id = some c)
    (hh : c.registry.Holds a.kind a.handle)

/-- The step hands one report to the sink of the addressed context, and answers with its
verdict. -/
def Refers (l : Ledger) (id : ContextId) (r : Report) (step : Step Answer) : Prop :=
  ∃ c, l.context? id = some c ∧ step = ⟨.flag (c.sink.verdict r), l, [.report c.sink r]⟩

/-- The check of an argument that searches these instances and these devices, in this order. -/
def checkArgumentAmong (l : Ledger) (instances devices : List Context) (id : ContextId)
    (a : Argument) : Check :=
  if a.nullAllowed ∧ a.handle = nullHandle then .pass
  else if a.kind = .device then
    if instances.any (·.registry.contains .device a.handle) then .pass
    else l.within id fun c => .ask c.sink (.error .device a.handle a.invalid .invalid)
  else l.within id fun c =>
    if c.registry.tracks a.kind a.handle then .pass
    else if (devices.filter fun c => some c.key != id.ownDevice).any
        (·.registry.tracks a.kind a.handle) then
      match a.wrongDevice with
      | none => .pass
      | some code =>
        if a.kind = .surface then .pass
        else .ask c.sink (.error a.kind a.handle code .wrongDevice)
    else .ask c.sink a.invalidReport

/-! ## The search -/

section Search

variable {l : Ledger} {id : ContextId} {a : Argument}

theorem checkArgument_eq_among (l : Ledger) (id : ContextId) (a : Argument) :
    l.checkArgument id a =
      l.checkArgumentAmong l.contexts.instances l.contexts.devices id a :=
  rfl

/-- The order of the search makes no difference. -/
theorem checkArgumentAmong_perm {instances instances' devices devices' : List Context}
    (hinstances : instances.Perm instances') (hdevices : devices.Perm devices') :
    l.checkArgumentAmong instances devices id a =
      l.checkArgumentAmong instances' devices' id a := by
  have hknown := hinstances.any_eq (f := (·.registry.contains .device a.handle))
  have helsewhere := (hdevices.filter fun c => some c.key != id.ownDevice).any_eq
    (f := (·.registry.tracks a.kind a.handle))
  rw [checkArgumentAmong, checkArgumentAmong, hknown, helsewhere]

theorem ofDevice_ne_iff (id : ContextId) (key : DispatchKey) :
    .ofDevice key ≠ id ↔ some key ≠ id.ownDevice := by
  obtain ⟨scope, key'⟩ := id
  cases scope with
  | instanceLevel => simp [ContextId.ofDevice, ContextId.ownDevice]
  | deviceLevel => simp [ContextId.ofDevice, ContextId.ownDevice]

/-- The devices that are searched are those under another identity than the addressed one. -/
theorem Filed.mem_devicesExcept_ownDevice (hl : l.Filed) (id : ContextId) (c : Context) :
    c ∈ l.contexts.devicesExcept id.ownDevice ↔
      .ofDevice c.key ≠ id ∧ l.context? (.ofDevice c.key) = some c := by
  simp only [Directory.devicesExcept, Directory.devices, List.mem_filter, Table.mem_values_iff,
    decide_eq_true_eq, bne_iff_ne]
  rw [ofDevice_ne_iff]
  constructor
  · rintro ⟨⟨⟨at', hc⟩, hscope⟩, hkey⟩
    -- the list forgets where the context stands, but its scope and its key tell
    have hid : .ofDevice c.key = at' := by
      rw [← hl.id_eq hc, Context.id, hscope, ContextId.ofDevice]
    exact ⟨hkey, hid ▸ hc⟩
  · rintro ⟨hkey, hc⟩
    exact ⟨⟨⟨_, hc⟩, hl.scope_eq hc⟩, hkey⟩

theorem knownElsewhere_iff (hl : l.Filed) (id : ContextId) (k : Kind) (h : Handle) :
    l.knownElsewhere id k h = true ↔ l.HeldElsewhere id k h := by
  rw [knownElsewhere, List.any_eq_true]
  constructor
  · rintro ⟨c, hmem, htracks⟩
    obtain ⟨hne, hc⟩ := (hl.mem_devicesExcept_ownDevice id c).mp hmem
    exact ⟨c.key, c, hne, hc, (c.registry.tracks_iff k h).mp htracks⟩
  · rintro ⟨key, c, hne, hc, hholds⟩
    obtain rfl : c.key = key := hl.key_eq hc
    refine ⟨c, (hl.mem_devicesExcept_ownDevice id c).mpr ⟨hne, hc⟩, ?_⟩
    exact (c.registry.tracks_iff k h).mpr hholds

theorem knowsDevice_iff (hl : l.Filed) (device : Handle) :
    l.knowsDevice device = true ↔ l.HoldsDevice device := by
  rw [knowsDevice, List.any_eq_true]
  constructor
  · rintro ⟨c, hmem, hcontains⟩
    obtain ⟨hc, hscope⟩ := (hl.mem_instances c).mp hmem
    rw [Context.id, hscope] at hc
    exact ⟨c.key, c, hc, hcontains⟩
  · rintro ⟨key, c, hc, hfound⟩
    exact ⟨c, (hl.mem_instances c).mpr ⟨(hl.id_eq hc).symm ▸ hc, hl.scope_eq hc⟩, hfound⟩

end Search

/-! ## The classes -/

section Classes

variable {l : Ledger} {id : ContextId} {a : Argument}

/-- Nothing is reported about an argument that raises no question. -/
theorem checkArgument_of_undisputed (hl : l.Filed) (ha : l.Undisputed id a) :
    (l.checkArgument id a).skip = false ∧ (l.checkArgument id a).trace.reports = [] := by
  by_cases hnull : a.nullAllowed ∧ a.handle = nullHandle
  · rw [checkArgument, if_pos hnull]
    exact ⟨rfl, rfl⟩
  cases ha with
  | null hallowed hzero => exact absurd ⟨hallowed, hzero⟩ hnull
  | unknown hc =>
    rw [checkArgument, if_neg hnull, checkDevice, within_of_eq_none hc, within_of_eq_none hc]
    split
    · split
      · exact ⟨rfl, rfl⟩
      · exact ⟨rfl, rfl⟩
    · exact ⟨rfl, rfl⟩
  | device hk hd =>
    rw [checkArgument, if_neg hnull, if_pos hk, checkDevice, if_pos ((knowsDevice_iff hl _).mpr hd)]
    exact ⟨rfl, rfl⟩
  | own hk c hc hh =>
    rw [checkArgument_of_tracks hc hk ((c.registry.tracks_iff _ _).mpr hh)]
    exact ⟨rfl, rfl⟩

/-- A disputed argument is about a context that is known. -/
theorem exists_context_of_disputed (ha : ¬l.Undisputed id a) : ∃ c, l.context? id = some c := by
  cases hc : l.context? id with
  | none => exact absurd (.unknown hc) ha
  | some c => exact ⟨c, rfl⟩

/-- The check of a disputed device finds it invalid. -/
theorem checkArgument_of_device (hl : l.Filed) (ha : ¬l.Undisputed id a) (hk : a.kind = .device)
    {c : Context} (hc : l.context? id = some c) :
    l.checkArgument id a = .ask c.sink a.invalidReport := by
  have hnull : ¬(a.nullAllowed ∧ a.handle = nullHandle) := fun h => ha (.null h.1 h.2)
  have hunknown : ¬l.knowsDevice a.handle = true := by
    intro hknown
    exact ha (.device hk ((knowsDevice_iff hl _).mp hknown))
  rw [checkArgument, if_neg hnull, if_pos hk, checkDevice, if_neg hunknown, within_of_eq_some hc,
    Argument.invalidReport, hk]

/-- The check of any other disputed argument turns on the search among the other devices. -/
theorem checkArgument_of_disputed (ha : ¬l.Undisputed id a) (hk : a.kind ≠ .device) {c : Context}
    (hc : l.context? id = some c) :
    l.checkArgument id a =
      if l.knownElsewhere id a.kind a.handle then
        match a.wrongDevice with
        | none => .pass
        | some code =>
          if a.kind = .surface then .pass
          else .ask c.sink (.error a.kind a.handle code .wrongDevice)
      else .ask c.sink a.invalidReport := by
  have hnull : ¬(a.nullAllowed ∧ a.handle = nullHandle) := fun h => ha (.null h.1 h.2)
  have hunheld : ¬c.registry.tracks a.kind a.handle = true := by
    intro htracks
    exact ha (.own hk c hc ((c.registry.tracks_iff _ _).mp htracks))
  rw [checkArgument, if_neg hnull, if_neg hk, within_of_eq_some hc]
  exact if_neg hunheld

end Classes

/-! ## The check as a step -/

section Step

variable {l : Ledger} {id : ContextId} {a : Argument}

theorem run_checkArgument_of_eq {check : Check} (h : l.checkArgument id a = check) :
    (Operation.checkArgument id a).run l = ⟨.flag check.skip, l, check.trace⟩ := by
  rw [← h]
  exact Action.map_ofCheck Answer.flag (·.checkArgument id a) l

theorem refers_of_ask {c : Context} (hc : l.context? id = some c) {r : Report}
    (h : l.checkArgument id a = .ask c.sink r) :
    l.Refers id r ((Operation.checkArgument id a).run l) :=
  ⟨c, hc, run_checkArgument_of_eq h⟩

end Step

/-- After any history, the check of an argument leaves the books as they are. It reports nothing and
lets the call through if the argument raises no question. Otherwise the sink of the addressed
context hears one error and decides: the one for a foreign object, if another device knows it and
there is such a rule, and the one for an unknown object if no other device knows it or the
argument is a device. The order in which instances and devices are searched makes no difference. -/
theorem checkArgument_classifies (ops : List Operation) (id : ContextId) (a : Argument) :
    let l := after ops
    let step := (Operation.checkArgument id a).run l
    step.ledger = l ∧
    (l.Undisputed id a → step.value = .flag false ∧ step.trace.reports = []) ∧
    (¬l.Undisputed id a → a.kind ≠ .device → l.HeldElsewhere id a.kind a.handle →
      (∀ code, a.wrongDevice = some code → a.kind ≠ .surface →
        l.Refers id (.error a.kind a.handle code .wrongDevice) step) ∧
      (a.wrongDevice = none ∨ a.kind = .surface → step = ⟨.flag false, l, []⟩)) ∧
    (¬l.Undisputed id a → a.kind = .device ∨ ¬l.HeldElsewhere id a.kind a.handle →
      l.Refers id (.error a.kind a.handle a.invalid .invalid) step) ∧
    ∀ instances devices : List Context,
      instances.Perm l.contexts.instances → devices.Perm l.contexts.devices →
        (Answer.flag <$> Action.ofCheck (·.checkArgumentAmong instances devices id a)) l =
          step := by
  intro l step
  have hl : l.Filed := filed_after ops
  refine ⟨rfl, ?_, ?_, ?_, ?_⟩
  · intro ha
    obtain ⟨hskip, hreports⟩ := checkArgument_of_undisputed hl ha
    have hstep : step = _ := run_checkArgument_of_eq rfl
    rw [hstep]
    exact ⟨congrArg Answer.flag hskip, hreports⟩
  · intro ha hk helsewhere
    obtain ⟨c, hc⟩ := exists_context_of_disputed ha
    have hcheck := checkArgument_of_disputed ha hk hc
    rw [if_pos ((knownElsewhere_iff hl ..).mpr helsewhere)] at hcheck
    refine ⟨?_, ?_⟩
    · intro code hcode hsurface
      rw [hcode] at hcheck
      simp only [if_neg hsurface] at hcheck
      exact refers_of_ask hc hcheck
    · intro hexcused
      have hpass : l.checkArgument id a = .pass := by
        rcases hexcused with hnone | hsurface
        · rw [hcheck, hnone]
        · rw [hcheck]
          cases a.wrongDevice with
          | none => rfl
          | some code => exact if_pos hsurface
      exact run_checkArgument_of_eq hpass
  · intro ha hnobody
    obtain ⟨c, hc⟩ := exists_context_of_disputed ha
    by_cases hk : a.kind = .device
    · exact refers_of_ask hc (checkArgument_of_device hl ha hk hc)
    · have hunknown : ¬l.knownElsewhere id a.kind a.handle = true := by
        intro hknown
        exact hnobody.resolve_left hk ((knownElsewhere_iff hl ..).mp hknown)
      have hcheck := checkArgument_of_disputed ha hk hc
      rw [if_neg hunknown] at hcheck
      exact refers_of_ask hc hcheck
  · intro instances devices hinstances hdevices
    rw [Action.map_ofCheck, checkArgumentAmong_perm hinstances hdevices, ← checkArgument_eq_among]
    exact (run_checkArgument_of_eq rfl).symm

/-- Two devices of an instance, and an image of a swapchain of the second one. -/
def imageOfOne : List Operation :=
  [.openInstance 1 10 ⟨none, .memory⟩, .openDevice 1 2 20, .openDevice 1 3 30,
    .registerImage 3 7 6]

/-- The first device is asked about the image of the second, which only the table of swapchain
images knows. -/
theorem foreign_image_referred :
    (after imageOfOne).Refers (.ofDevice 2) (.error .image 7 Code.internalError .wrongDevice)
      ((Operation.checkArgument (.ofDevice 2)
        (.required .image 7 Code.objectLeak (some Code.internalError))).run (after imageOfOne)) := by
  have hdisputed : ¬(after imageOfOne).Undisputed (.ofDevice 2)
      (.required .image 7 Code.objectLeak (some Code.internalError)) := by
    intro ha
    cases ha with
    | null hallowed hnull => cases hallowed
    | unknown hc =>
      have hsome : ((after imageOfOne).context? (.ofDevice 2)).isSome := by decide +kernel
      rw [hc] at hsome
      cases hsome
    | device hk hd => cases hk
    | own hk c hc hh =>
      have hnone : (after imageOfOne).tracks (.ofDevice 2) .image 7 = false := by decide +kernel
      rw [tracks, hc] at hnone
      exact absurd ((c.registry.tracks_iff .image 7).mpr hh) (Bool.eq_false_iff.mp hnone)
  have helsewhere : (after imageOfOne).HeldElsewhere (.ofDevice 2) .image 7 :=
    (knownElsewhere_iff (filed_after _) ..).mp (by decide +kernel)
  obtain ⟨-, -, hforeign, -⟩ := checkArgument_classifies imageOfOne (.ofDevice 2)
    (.required .image 7 Code.objectLeak (some Code.internalError))
  exact (hforeign hdisputed (by decide) helsewhere).1 _ rfl (by decide)

end Ledger

end HandleLedger
