import HandleLedger.Proofs.Ledger.Confinement
import HandleLedger.Proofs.Ledger.Phase

/-!
# How records arrive in the books

An operation that registers something enters it only if the context is known and the place is free.
What it does then is its arrival (`Operation.arrival?`), and `run_of_arrival?` and
`run_of_arrival?_eq_none` say all of it: with an arrival comes one record, one report and one
creation index, and without one there is none of them. So a record that stands after a step stood
there before or is the arrival of the step (`stands_run`).
-/

set_option autoImplicit false

namespace HandleLedger

/-- The creation index that a finding announces. -/
def Finding.createdIndex? : Finding → Option UInt64
  | .created index => some index
  | .imageCreated index => some index
  | _ => none

theorem Finding.phase?_of_createdIndex? {finding : Finding} {index : UInt64}
    (h : finding.createdIndex? = some index) : finding.phase? = some .record := by
  cases finding <;> first | rfl | cases h

namespace Ledger

namespace Place

/-- The record at a place of a registry. -/
def find? (r : Registry) : Place → Option Record
  | .object _ k h => r.find? k h
  | .image _ h => r.image? h

/-- The report of a record that has been entered. -/
def announcement (e : Record) : Place → Report
  | .object .. => .created e
  | .image .. => .imageCreated e

end Place

/-- The record at a place in the books. -/
def recordAt? (l : Ledger) (p : Place) : Option Record :=
  (l.context? p.context).bind fun c => p.find? c.registry

/-- The record stands at a place that belongs to the instance or device with this handle. -/
def Stands (l : Ledger) (p : Place) (e : Record) (owner : Handle) : Prop :=
  ∃ c, l.context? p.context = some c ∧ c.handle = owner ∧ p.find? c.registry = some e

/-- What an operation enters into these books. -/
def Operation.arrival? (l : Ledger) (op : Operation) : Option Entry :=
  op.entry?.filter fun n => (l.context? n.place.context).isSome && (l.recordAt? n.place).isNone

variable {l l' : Ledger} {op : Operation} {n : Entry} {p : Place} {e : Record} {owner : Handle}

theorem arrival?_eq_some_iff :
    op.arrival? l = some n ↔
      op.entry? = some n ∧ (l.context? n.place.context).isSome ∧ l.recordAt? n.place = none := by
  rw [Operation.arrival?, Option.filter_eq_some_iff, Bool.and_eq_true, Option.isNone_iff_eq_none]

theorem recordAt?_eq_some_iff : l.recordAt? p = some e ↔ ∃ owner, l.Stands p e owner := by
  rw [recordAt?, Option.bind_eq_some_iff]
  constructor
  · rintro ⟨c, hc, he⟩
    exact ⟨c.handle, c, hc, rfl, he⟩
  · rintro ⟨_, c, hc, -, he⟩
    exact ⟨c, hc, he⟩

/-! ## Records at places -/

namespace Place

theorem find?_empty (p : Place) : p.find? .empty = none := by
  cases p <;> rfl

theorem find?_of_within {r r' : Registry} (hr : r.Within r') (he : p.find? r = some e) :
    p.find? r' = some e := by
  cases p with
  | object id k h => exact hr.records k h e he
  | image device h => exact hr.images h e he

/-- A record that is put at a free place stands there, and no other place changes. -/
theorem find?_enter {r : Registry} (hfree : p.find? r = none) (hkind : e.kind = p.kind)
    (hhandle : e.handle = p.handle) {q : Place} (hq : q.context = p.context) :
    q.find? (p.enter e r) = if q = p then some e else q.find? r := by
  cases p with
  | object id k h =>
    have hk : e.kind = k := hkind
    have hh : e.handle = h := hhandle
    subst hk hh
    cases q with
    | object id' k' h' =>
      have hid : id' = id := hq
      have hfree' : r.find? e.kind e.handle = none := hfree
      subst hid
      show (r.insert e).find? k' h' = _
      rw [Registry.find?_insert]
      by_cases hs : e.kind = k' ∧ e.handle = h'
      · obtain ⟨rfl, rfl⟩ := hs
        rw [if_pos ⟨rfl, rfl⟩, if_pos rfl, hfree']
        rfl
      · rw [if_neg hs, Option.or_none, if_neg]
        · rfl
        · intro heq
          cases heq
          exact hs ⟨rfl, rfl⟩
    | image device h' =>
      rw [if_neg (by rintro ⟨⟩)]
      show (r.insert e).image? h' = r.image? h'
      rw [Registry.image?, Registry.images_insert]
      rfl
  | image device h =>
    have hh : e.handle = h := hhandle
    subst hh
    cases q with
    | object id' k' h' =>
      rw [if_neg (by rintro ⟨⟩)]
      exact Registry.find?_insertImage ..
    | image device' h' =>
      have hid : device' = device := ContextId.ofDevice_inj.mp hq
      have hfree' : r.image? e.handle = none := hfree
      subst hid
      show (r.insertImage e).image? h' = _
      rw [Registry.image?_insertImage]
      by_cases hs : e.handle = h'
      · subst hs
        rw [if_pos rfl, if_pos rfl, hfree']
        rfl
      · rw [if_neg hs, Option.or_none, if_neg]
        · rfl
        · intro heq
          cases heq
          exact hs rfl

end Place

/-! ## Operations that register -/

namespace Operation

/-- An operation that enters something registers an object or an image. -/
theorem entry?_cases (h : op.entry? = some n) :
    (∃ r, op.registration? = some r ∧ n = r.entry) ∨
      ∃ device image swapchain, op = .registerImage device image swapchain ∧
        n = ⟨.image device image, .none, swapchain⟩ := by
  unfold entry? at h
  split at h
  · cases h
    exact Or.inr ⟨_, _, _, rfl, rfl⟩
  · obtain ⟨r, hr, hn⟩ := Option.map_eq_some_iff.mp h
    exact Or.inl ⟨r, hr, hn.symm⟩

theorem run_of_registration? {r : Registration} (hr : op.registration? = some r) :
    op.run = (do Ledger.register r.id r.kind r.handle r.status r.parent; return .done) := by
  cases op <;> cases hr <;> rfl

theorem entry?_of_phase? (h : op.phase? = some .record) : op.entry?.isSome := by
  cases op <;> first | rfl | cases h

end Operation

theorem run_returning {m : Action Unit} {t : Trace} (h : m l = ⟨(), l', t⟩) (answer : Answer) :
    (do m; return answer : Action Answer) l = ⟨answer, l', t⟩ := by
  show Step.mk answer (m l).ledger ((m l).trace ++ []) = _
  rw [h, List.append_nil]

/-- An operation that registers something meets an unknown context, a place that is taken, or a
free one. Only in the last case it enters anything, and then it says so and uses an index. -/
theorem run_of_entry? (h : op.entry? = some n) (l : Ledger) :
    (l.context? n.place.context = none ∧
      op.run l = ⟨.done, l, [.log (.unknownContext n.place.context)]⟩) ∨
    ∃ c, l.context? n.place.context = some c ∧
      ((∃ e, n.place.find? c.registry = some e) ∧ op.run l = ⟨.done, l, []⟩ ∨
        n.place.find? c.registry = none ∧
          op.run l =
            ⟨.done, l.entered n.place.context (n.place.enter (n.record l.nextIndex)),
              [.report c.sink (n.place.announcement (n.record l.nextIndex))]⟩) := by
  rcases Operation.entry?_cases h with ⟨r, hr, rfl⟩ | ⟨device, image, swapchain, rfl, rfl⟩
  · rw [Operation.run_of_registration? hr]
    cases hc : l.context? r.id with
    | none => exact Or.inl ⟨hc, run_returning (register_of_eq_none hc ..) _⟩
    | some c =>
      refine Or.inr ⟨c, hc, ?_⟩
      cases hk : c.registry.contains r.kind r.handle with
      | true =>
        have hrun := register_of_contains hc hk r.status r.parent
        exact Or.inl ⟨(Registry.contains_iff ..).mp hk, run_returning hrun _⟩
      | false =>
        have hrun := register_of_not_contains hc hk r.status r.parent
        exact Or.inr ⟨(Registry.contains_eq_false_iff ..).mp hk, run_returning hrun _⟩
  · cases hc : l.context? (.ofDevice device) with
    | none => exact Or.inl ⟨hc, run_returning (registerImage_of_eq_none hc ..) _⟩
    | some c =>
      refine Or.inr ⟨c, hc, ?_⟩
      cases hk : c.registry.images.contains image with
      | true =>
        have hrun := registerImage_of_contains hc hk swapchain
        exact Or.inl ⟨(Table.contains_iff ..).mp hk, run_returning hrun _⟩
      | false =>
        have hrun := registerImage_of_not_contains hc hk swapchain
        exact Or.inr ⟨(Table.contains_eq_false_iff ..).mp hk, run_returning hrun _⟩

/-- An arrival is one record, one report to the sink of its context, and one creation index. -/
theorem run_of_arrival? (h : op.arrival? l = some n) :
    ∃ c, l.context? n.place.context = some c ∧ n.place.find? c.registry = none ∧
      op.run l =
        ⟨.done, l.entered n.place.context (n.place.enter (n.record l.nextIndex)),
          [.report c.sink (n.place.announcement (n.record l.nextIndex))]⟩ := by
  obtain ⟨hentry, hsome, hfree⟩ := arrival?_eq_some_iff.mp h
  rcases run_of_entry? hentry l with ⟨hc, -⟩ | ⟨c, hc, ⟨⟨e, he⟩, -⟩ | ⟨hplace, hrun⟩⟩
  · rw [hc] at hsome
    cases hsome
  · rw [recordAt?, hc] at hfree
    cases hfree.symm.trans he
  · exact ⟨c, hc, hplace, hrun⟩

/-- Registering without an arrival is of no effect, and nothing is reported. -/
theorem run_of_arrival?_eq_none (hentry : op.entry? = some n) (h : op.arrival? l = none) :
    (op.run l).ledger = l ∧ (op.run l).trace.reports = [] := by
  rcases run_of_entry? hentry l with ⟨-, hrun⟩ | ⟨c, hc, ⟨-, hrun⟩ | ⟨hplace, -⟩⟩
  · rw [hrun]
    exact ⟨rfl, rfl⟩
  · rw [hrun]
    exact ⟨rfl, rfl⟩
  · -- a free place in a known context would be an arrival
    have harrival : op.arrival? l = some n := by
      refine arrival?_eq_some_iff.mpr ⟨hentry, by rw [hc]; rfl, ?_⟩
      rw [recordAt?, hc]
      exact hplace
    rw [h] at harrival
    cases harrival

/-! ## The creation index -/

section NextIndex

variable {index : UInt64}

theorem keeps_nextIndex_onRegistry (id : ContextId) (f : Registry → Registry) :
    (Action.onRegistry id f).Keeps (·.nextIndex = index) :=
  Action.keeps_within fun _ _ hl => hl

theorem keeps_nextIndex_closeContext (id : ContextId) :
    (closeContext id).Keeps (·.nextIndex = index) := by
  intro l hl
  rw [closeContext]
  split
  · exact hl
  · exact hl

theorem keeps_nextIndex_closeInstance (key : DispatchKey) :
    (closeInstance key).Keeps (·.nextIndex = index) := by
  intro l hl
  have hdevices : (Action.each ((l.contexts.devicesOf key).map (·.key)) closeDevice).Keeps
      (·.nextIndex = index) :=
    Action.keeps_each fun device _ => keeps_nextIndex_closeContext (.ofDevice device)
  exact (hdevices.bind fun _ => keeps_nextIndex_closeContext (.ofInstance key)) l hl

/-- Only registrations use creation indexes. -/
theorem keeps_nextIndex_run : ∀ {op : Operation}, op.entry? = none →
    op.run.Keeps (·.nextIndex = index)
  | .openInstance .., _ => fun _ hl => hl
  | .openDevice .., _ => Action.keeps_within fun _ _ hl => hl
  | .closeDevice key, _ => keeps_nextIndex_closeContext (.ofDevice key)
  | .closeInstance key, _ => keeps_nextIndex_closeInstance key
  | .noteQueueFamily .., _ => keeps_nextIndex_onRegistry _ _
  | .noteFamilyFlags .., _ => keeps_nextIndex_onRegistry _ _
  | .checkArgument .., _ => fun _ hl => hl
  | .checkDevice .., _ => fun _ hl => hl
  | .checkDestroy .., _ => fun _ hl => hl
  | .checkCommandBuffer .., _ => fun _ hl => hl
  | .checkDescriptorSet .., _ => fun _ hl => hl
  | .checkSparse .., _ => fun _ hl => hl
  | .release _ _ h, _ => by
    show (release _ _ h).Keeps _
    rw [release]
    split
    · exact Action.keeps_pure ()
    · exact keeps_nextIndex_onRegistry _ _
  | .discard .., _ => Action.keeps_within fun _ _ hl => hl
  | .dropChildren .., _ => Action.keeps_within fun _ _ hl => hl
  | .dropImages .., _ => Action.keeps_within fun _ _ hl => hl
  | .dropKind .., _ => keeps_nextIndex_onRegistry _ _
  | .dropOwned _, _ => Action.keeps_each fun _ _ => keeps_nextIndex_onRegistry _ _
  | .dropQueues _, _ => keeps_nextIndex_onRegistry _ _
  | .reportKind .., _ => fun _ hl => hl
  | .reportOwned .., _ => fun _ hl => hl
  | .reportDevices .., _ => fun _ hl => hl

end NextIndex

/-- A step without an arrival uses no index. -/
theorem nextIndex_run_of_arrival?_eq_none (h : op.arrival? l = none) :
    (op.run l).ledger.nextIndex = l.nextIndex := by
  cases hentry : op.entry? with
  | none => exact keeps_nextIndex_run hentry l rfl
  | some n => rw [(run_of_arrival?_eq_none hentry h).1]

/-- A step without an arrival announces none. -/
theorem createdIndex?_of_arrival?_eq_none (h : op.arrival? l = none) {r : Report}
    (hr : r ∈ (op.run l).trace.reports) : r.finding.createdIndex? = none := by
  cases hentry : op.entry? with
  | some n =>
    rw [(run_of_arrival?_eq_none hentry h).2] at hr
    cases hr
  | none =>
    rw [Option.eq_none_iff_forall_ne_some]
    intro index hindex
    -- such a report belongs to the registrations, and this operation is none
    obtain ⟨sink, hreport⟩ := Trace.mem_reports.mp hr
    have hphase : (Event.report sink r).phase? = some .record :=
      Finding.phase?_of_createdIndex? hindex
    have hsome := Operation.entry?_of_phase? (op.speaks l _ hreport .record hphase)
    rw [hentry] at hsome
    cases hsome

/-! ## Where records come from -/

theorem stands_of_within {id : ContextId} {f : Registry → Registry} (hu : Updates id f l l')
    (hf : ∀ r : Registry, (f r).Within r) (h : l'.Stands p e owner) : l.Stands p e owner := by
  obtain ⟨c', hc', howner, he⟩ := h
  obtain ⟨c, hc, rfl | rfl⟩ := hu.eq_or_eq_mapRegistry hc'
  · exact ⟨c', hc, howner, he⟩
  · exact ⟨c, hc, howner, Place.find?_of_within (hf c.registry) he⟩

/-- Contexts that are opened hold nothing yet. -/
theorem stands_of_movesContexts (hl : l.Filed) (hop : op.movesContexts = true)
    (h : (op.run l).ledger.Stands p e owner) : l.Stands p e owner := by
  obtain ⟨c, hc, howner, he⟩ := h
  suffices hold : l.context? p.context = some c from ⟨c, hold, howner, he⟩
  cases op with
  | openInstance key handle sink =>
    have hopen := (context?_openInstance key handle sink l p.context).symm.trans hc
    split at hopen
    · cases hopen
      cases (Place.find?_empty p).symm.trans he
    · exact hopen
  | openDevice instanceKey key handle =>
    cases hroot : l.context? (.ofInstance instanceKey) with
    | none =>
      rw [Operation.run, Action.ledger_map, (openDevice_of_eq_none hroot key handle).2] at hc
      exact hc
    | some root =>
      have hopen := ((openDevice_of_eq_some hroot key handle).2 p.context).symm.trans hc
      split at hopen
      · cases hopen
        cases (Place.find?_empty p).symm.trans he
      · exact hopen
  | closeDevice key =>
    have hclose := (context?_closeContext (.ofDevice key) l p.context).symm.trans hc
    split at hclose
    · cases hclose
    · exact hclose
  | closeInstance key => exact ((hl.context?_closeInstance key p.context c).mp hc).1
  | _ => cases hop

/-- A record that stands after a step stood there before, or it is the arrival of the step. -/
theorem stands_run (hl : l.Filed) (h : (op.run l).ledger.Stands p e owner) :
    l.Stands p e owner ∨
      ∃ n c, op.arrival? l = some n ∧ n.place = p ∧ n.record l.nextIndex = e ∧
        l.context? p.context = some c ∧ c.handle = owner := by
  cases harrival : op.arrival? l with
  | some n =>
    obtain ⟨c, hc, hfree, hrun⟩ := run_of_arrival? harrival
    rw [hrun] at h
    obtain ⟨c', hc', howner, he⟩ := h
    have hu := updates_entered l n.place.context (n.place.enter (n.record l.nextIndex))
    by_cases hctx : n.place.context = p.context
    · rw [← hctx, hu.context?_self, hc] at hc'
      cases hc'
      have hfind := Place.find?_enter (e := n.record l.nextIndex) hfree rfl rfl hctx.symm
      rw [Context.mapRegistry_registry, hfind] at he
      split at he
      · rename_i hplace
        cases he
        exact Or.inr ⟨n, c, rfl, hplace.symm, rfl, hctx ▸ hc, howner⟩
      · exact Or.inl ⟨c, hctx ▸ hc, howner, he⟩
    · rw [hu.context?_of_ne hctx] at hc'
      exact Or.inl ⟨c', hc', howner, he⟩
  | none =>
    left
    cases hentry : op.entry? with
    | some n =>
      rw [(run_of_arrival?_eq_none hentry harrival).1] at h
      exact h
    | none =>
      cases hop : op.movesContexts with
      | true => exact stands_of_movesContexts hl hop h
      | false =>
        obtain ⟨id, f, hu, hwithin⟩ := exists_updates_run hop l
        exact stands_of_within hu (hwithin hentry) h

/-- What arrives stands in its place. -/
theorem recordAt?_run_of_arrival? (h : op.arrival? l = some n) :
    (op.run l).ledger.recordAt? n.place = some (n.record l.nextIndex) := by
  obtain ⟨c, hc, hfree, hrun⟩ := run_of_arrival? h
  have hu := updates_entered l n.place.context (n.place.enter (n.record l.nextIndex))
  rw [hrun, recordAt?, hu.context?_self, hc]
  exact (Place.find?_enter hfree rfl rfl rfl).trans (if_pos rfl)

end Ledger

end HandleLedger
