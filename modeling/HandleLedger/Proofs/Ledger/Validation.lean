import HandleLedger.Ledger.Validation

/-!
# What a passed check says

A sink is strict if it refuses every error. An argument that a check lets through under a strict
sink names an object of the addressed context (`tracks_of_checkArgument`), unless no rule is broken
by an object of another device.
-/

set_option autoImplicit false

namespace HandleLedger

/-- The sink asks for a skip whenever it hears an error. -/
def Sink.Strict (s : Sink) : Prop := ∀ r : Report, r.severity = .error → s.verdict r = true

theorem Sink.strict_of_memory {s : Sink} (hs : s.policy = .memory) : s.Strict := by
  intro r hr
  rw [Sink.verdict, hs, hr]
  rfl

theorem Sink.strict_memory (channel : Option Nat) : Sink.Strict ⟨channel, .memory⟩ :=
  strict_of_memory rfl

/-- A strict sink lets no error pass. -/
theorem Sink.Strict.skip_ask {s : Sink} (hs : s.Strict) {r : Report} (hr : r.severity = .error) :
    (Check.ask s r).skip = true :=
  hs r hr

namespace Check

theorem skip_all (cs : List Check) : (all cs).skip = cs.any (·.skip) := by
  induction cs with
  | nil => rfl
  | cons c cs ih => rw [all_cons, skip_append, ih, List.any_cons]

theorem skip_advisory (c : Check) : c.advisory.skip = false := rfl

theorem skip_append_eq_false {c d : Check} :
    (c ++ d).skip = false ↔ c.skip = false ∧ d.skip = false := by
  rw [skip_append, Bool.or_eq_false_iff]

end Check

namespace Ledger

variable {l : Ledger} {id : ContextId} {c : Context}

theorem within_of_eq_some (hc : l.context? id = some c) (check : Context → Check) :
    l.within id check = check c := by
  rw [within, hc]

theorem within_of_eq_none (hc : l.context? id = none) (check : Context → Check) :
    l.within id check = .note (.unknownContext id) := by
  rw [within, hc]

theorem skip_of_mem_checkArguments {as : List Argument}
    (h : (l.checkArguments id as).skip = false) {a : Argument} (ha : a ∈ as) :
    (l.checkArgument id a).skip = false := by
  rw [checkArguments, Check.skip_all, List.any_eq_false] at h
  exact Bool.eq_false_iff.mpr (h _ (List.mem_map_of_mem ha))

/-- An object that the addressed context knows passes. -/
theorem checkArgument_of_tracks {a : Argument} (hc : l.context? id = some c)
    (hdevice : a.kind ≠ .device) (ht : c.registry.tracks a.kind a.handle = true) :
    l.checkArgument id a = .pass := by
  by_cases hnull : a.nullAllowed ∧ a.handle = nullHandle
  · rw [checkArgument, if_pos hnull]
  · rw [checkArgument, if_neg hnull, if_neg hdevice, within_of_eq_some hc, if_pos ht]

/-- An argument that a strict sink lets through is null, or the addressed context knows it, or
another device does and no rule is broken by that. -/
theorem known_of_checkArgument {a : Argument} (hpass : (l.checkArgument id a).skip = false)
    (hc : l.context? id = some c) (hs : c.sink.Strict) (hdevice : a.kind ≠ .device) :
    (a.nullAllowed = true ∧ a.handle = nullHandle) ∨
      c.registry.tracks a.kind a.handle = true ∨
        (a.wrongDevice = none ∨ a.kind = .surface) ∧
          l.knownElsewhere id a.kind a.handle = true := by
  rw [checkArgument] at hpass
  split at hpass
  · rename_i hnull
    exact Or.inl hnull
  · rw [within_of_eq_some hc] at hpass
    split at hpass
    · rename_i htracks
      exact Or.inr (Or.inl htracks)
    · split at hpass
      · rename_i helsewhere
        refine Or.inr (Or.inr ⟨?_, helsewhere⟩)
        -- another device knows the object; under a rule about that it would have been refused
        cases hwrong : a.wrongDevice with
        | none => exact Or.inl rfl
        | some code =>
          by_cases hsurface : a.kind = .surface
          · exact Or.inr hsurface
          · rw [hwrong] at hpass
            simp only [if_neg hsurface] at hpass
            rw [hs.skip_ask rfl] at hpass
            cases hpass
      · -- no device knows the object, so it would have been refused
        rw [hs.skip_ask rfl] at hpass
        cases hpass

/-- Surfaces apart, an object of another device is let through only where there is no rule
about that. -/
theorem found_of_checkArgument {a : Argument} (hpass : (l.checkArgument id a).skip = false)
    (hc : l.context? id = some c) (hs : c.sink.Strict) (hdevice : a.kind ≠ .device)
    (hsurface : a.kind ≠ .surface) :
    (a.nullAllowed = true ∧ a.handle = nullHandle) ∨
      c.registry.tracks a.kind a.handle = true ∨
        a.wrongDevice = none ∧ l.knownElsewhere id a.kind a.handle = true := by
  rcases known_of_checkArgument hpass hc hs hdevice with hnull | htracks | ⟨hwrong, helsewhere⟩
  · exact Or.inl hnull
  · exact Or.inr (Or.inl htracks)
  · exact Or.inr (Or.inr ⟨hwrong.resolve_right hsurface, helsewhere⟩)

/-- A device that a strict sink lets through is known to some instance. -/
theorem knowsDevice_of_checkArgument {a : Argument} (hpass : (l.checkArgument id a).skip = false)
    (hc : l.context? id = some c) (hs : c.sink.Strict) (hdevice : a.kind = .device) :
    (a.nullAllowed = true ∧ a.handle = nullHandle) ∨ l.knowsDevice a.handle = true := by
  rw [checkArgument, if_pos hdevice] at hpass
  split at hpass
  · rename_i hnull
    exact Or.inl hnull
  · rw [checkDevice] at hpass
    split at hpass
    · rename_i hknown
      exact Or.inr hknown
    · rw [within_of_eq_some hc, hs.skip_ask rfl] at hpass
      cases hpass

/-- A check that a strict sink lets through has found the object in the addressed context. -/
theorem tracks_of_checkArgument {a : Argument} {code : Code}
    (hpass : (l.checkArgument id a).skip = false) (hc : l.context? id = some c)
    (hs : c.sink.Strict) (hnull : a.nullAllowed = false) (hdevice : a.kind ≠ .device)
    (hsurface : a.kind ≠ .surface) (hwrong : a.wrongDevice = some code) :
    c.registry.tracks a.kind a.handle = true := by
  rcases found_of_checkArgument hpass hc hs hdevice hsurface with
    ⟨hallowed, -⟩ | htracks | ⟨hnone, -⟩
  · rw [hnull] at hallowed
    cases hallowed
  · exact htracks
  · rw [hwrong] at hnone
    cases hnone

/-- An object that a strict sink lets be freed is in the books. -/
theorem found_of_checkPoolChild {device : DispatchKey} {k : Kind} {pool h : Handle}
    {invalid foreign : Code} (hpass : (l.checkPoolChild device k pool h invalid foreign).skip = false)
    (hc : l.context? (.ofDevice device) = some c) (hs : c.sink.Strict) :
    ∃ e, c.registry.find? k h = some e := by
  rw [checkPoolChild, within_of_eq_some hc] at hpass
  cases he : c.registry.find? k h with
  | none =>
    rw [he] at hpass
    simp only at hpass
    rw [hs.skip_ask rfl] at hpass
    cases hpass
  | some e => exact ⟨e, rfl⟩

end Ledger

end HandleLedger
