import HandleLedger.Proofs.Ledger.Arrival
import Mathlib.Data.Nat.Count

/-!
# Creation indexes in order

A step of a history adds a record if the record stands in its place after the step and did not
before (`AddsAt`). The main statement, `creation_in_order`, says that the steps that add records are
numbered by the creation indexes: the step before which `n` others have added one enters its record
under index `n`. So the indexes of all live records differ, and the index in the report of a leak
names the step that made the record.

The numbers come from two invariants, which both follow the history from its start. The next index
is the number of steps that have added a record (`nextIndex_take`), and every record that stands was
added by an earlier step, while its context belonged to the same owner (`stands_take`).
-/

set_option autoImplicit false

namespace HandleLedger.Ledger

/-! ## Steps that add records -/

section Steps

variable (ops : List Operation) (n : Nat)

/-- Step `n` of the history puts the record in its place. -/
def AddsAt (p : Place) (e : Record) : Prop :=
  (after (ops.take n)).recordAt? p ≠ some e ∧ (after (ops.take (n + 1))).recordAt? p = some e

/-- Step `n` of the history adds a record to the books. -/
def Adds : Prop := ∃ p e, AddsAt ops n p e

/-- What step `n` of the history leaves as its trace. -/
def traceAt : Trace := ops[n]?.elim [] fun op => (op.run (after (ops.take n))).trace

/-- What step `n` of the history enters. -/
def arrivalAt? : Option Entry := ops[n]?.bind fun op => op.arrival? (after (ops.take n))

end Steps

variable {ops : List Operation} {n m : Nat} {p q : Place} {e d : Record} {x : Entry}

theorem arrivalAt?_eq {op : Operation} (hop : ops[n]? = some op) :
    arrivalAt? ops n = op.arrival? (after (ops.take n)) := by
  rw [arrivalAt?, hop]
  rfl

theorem traceAt_eq {op : Operation} (hop : ops[n]? = some op) :
    traceAt ops n = (op.run (after (ops.take n))).trace := by
  rw [traceAt, hop]
  rfl

/-- Past its end the history does nothing. -/
theorem after_take_succ_of_eq_none (hop : ops[n]? = none) :
    after (ops.take (n + 1)) = after (ops.take n) := by
  rw [List.take_add_one, hop]
  exact congrArg after (List.append_nil _)

theorem addsAt_iff :
    AddsAt ops n p e ↔ ∃ x, arrivalAt? ops n = some x ∧ x.place = p ∧
      x.record (after (ops.take n)).nextIndex = e := by
  constructor
  · rintro ⟨hnew, hstands⟩
    cases hop : ops[n]? with
    | none =>
      rw [after_take_succ_of_eq_none hop] at hstands
      exact absurd hstands hnew
    | some op =>
      rw [after_take_succ hop] at hstands
      obtain ⟨owner, hstands⟩ := recordAt?_eq_some_iff.mp hstands
      rcases stands_run (filed_after _) hstands with hold | ⟨x, c, hx, hplace, hrecord, -⟩
      · exact absurd (recordAt?_eq_some_iff.mpr ⟨owner, hold⟩) hnew
      · exact ⟨x, (arrivalAt?_eq hop).trans hx, hplace, hrecord⟩
  · rintro ⟨x, hx, rfl, rfl⟩
    obtain ⟨op, hop, harrival⟩ := Option.bind_eq_some_iff.mp hx
    constructor
    · rw [(arrival?_eq_some_iff.mp harrival).2.2]
      exact (Option.some_ne_none _).symm
    · rw [after_take_succ hop]
      exact recordAt?_run_of_arrival? harrival

theorem adds_iff : Adds ops n ↔ (arrivalAt? ops n).isSome := by
  rw [Option.isSome_iff_exists]
  constructor
  · rintro ⟨p, e, hadds⟩
    obtain ⟨x, hx, -⟩ := addsAt_iff.mp hadds
    exact ⟨x, hx⟩
  · rintro ⟨x, hx⟩
    exact ⟨x.place, _, addsAt_iff.mpr ⟨x, hx, rfl, rfl⟩⟩

instance (ops : List Operation) : DecidablePred (Adds ops) :=
  fun _ => decidable_of_iff _ adds_iff.symm

theorem not_adds_iff : ¬Adds ops n ↔ arrivalAt? ops n = none := by
  rw [adds_iff, Option.not_isSome_iff_eq_none]

theorem AddsAt.adds (h : AddsAt ops n p e) : Adds ops n := ⟨p, e, h⟩

/-- A step adds one record at most. -/
theorem AddsAt.unique (h : AddsAt ops n p e) (h' : AddsAt ops n q d) : q = p ∧ d = e := by
  obtain ⟨x, hx, rfl, rfl⟩ := addsAt_iff.mp h
  obtain ⟨y, hy, rfl, rfl⟩ := addsAt_iff.mp h'
  rw [hx, Option.some.injEq] at hy
  subst hy
  exact ⟨rfl, rfl⟩

theorem Adds.lt_length (h : Adds ops n) : n < ops.length := by
  obtain ⟨x, hx⟩ := Option.isSome_iff_exists.mp (adds_iff.mp h)
  obtain ⟨op, hop, -⟩ := Option.bind_eq_some_iff.mp hx
  exact (List.getElem?_eq_some_iff.mp hop).1

/-- A record is added by an operation that asks for it, in a known context and at a free place. -/
theorem adds_iff_exists_entry :
    Adds ops n ↔ ∃ op x, ops[n]? = some op ∧ op.entry? = some x ∧
      ((after (ops.take n)).context? x.place.context).isSome ∧
        (after (ops.take n)).recordAt? x.place = none := by
  rw [adds_iff, Option.isSome_iff_exists]
  constructor
  · rintro ⟨x, hx⟩
    obtain ⟨op, hop, hx⟩ := Option.bind_eq_some_iff.mp hx
    exact ⟨op, x, hop, arrival?_eq_some_iff.mp hx⟩
  · rintro ⟨op, x, hop, hx⟩
    exact ⟨x, (arrivalAt?_eq hop).trans (arrival?_eq_some_iff.mpr hx)⟩

/-! ## The two invariants -/

/-- The next creation index is the number of records that have been added. -/
theorem nextIndex_take (ops : List Operation) (n : Nat) :
    (after (ops.take n)).nextIndex = UInt64.ofNat (Nat.count (Adds ops) n) := by
  induction n with
  | zero => rfl
  | succ n ih =>
    cases hop : ops[n]? with
    | none =>
      have hnot : ¬Adds ops n := by
        rw [not_adds_iff, arrivalAt?, hop]
        rfl
      rw [after_take_succ_of_eq_none hop, Nat.count_succ_eq_count hnot]
      exact ih
    | some op =>
      rw [after_take_succ hop]
      cases hx : op.arrival? (after (ops.take n)) with
      | none =>
        have hnot : ¬Adds ops n := not_adds_iff.mpr ((arrivalAt?_eq hop).trans hx)
        rw [nextIndex_run_of_arrival?_eq_none hx, Nat.count_succ_eq_count hnot]
        exact ih
      | some x =>
        have hadds : Adds ops n := by
          rw [adds_iff, arrivalAt?_eq hop, hx]
          rfl
        obtain ⟨c, -, -, hrun⟩ := run_of_arrival? hx
        rw [hrun, Nat.count_succ_eq_succ_count hadds, UInt64.ofNat_add]
        show (after (ops.take n)).nextIndex + 1 = _
        rw [ih]
        rfl

/-- A step before step `n` added the record, in a context that belonged to this owner. -/
def AddedBefore (ops : List Operation) (n : Nat) (p : Place) (e : Record) (owner : Handle) : Prop :=
  ∃ m < n, AddsAt ops m p e ∧
    ∃ c, (after (ops.take m)).context? p.context = some c ∧ c.handle = owner

theorem AddedBefore.succ {owner : Handle} (h : AddedBefore ops n p e owner) :
    AddedBefore ops (n + 1) p e owner := by
  obtain ⟨m, hm, hadds⟩ := h
  exact ⟨m, Nat.lt_succ_of_lt hm, hadds⟩

/-- Every record that stands was added by an earlier step, and its context belonged to the same
owner then. -/
theorem stands_take {owner : Handle} (h : (after (ops.take n)).Stands p e owner) :
    AddedBefore ops n p e owner := by
  induction n with
  | zero =>
    obtain ⟨c, hc, -⟩ := h
    cases hc
  | succ n ih =>
    cases hop : ops[n]? with
    | none =>
      rw [after_take_succ_of_eq_none hop] at h
      exact (ih h).succ
    | some op =>
      rw [after_take_succ hop] at h
      rcases stands_run (filed_after _) h with hold | ⟨x, c, hx, hplace, hrecord, hc, howner⟩
      · exact (ih hold).succ
      · refine ⟨n, Nat.lt_succ_self n, addsAt_iff.mpr ⟨x, ?_, hplace, hrecord⟩, c, hc, howner⟩
        exact (arrivalAt?_eq hop).trans hx

/-! ## Indexes as numbers -/

section Few

variable (hfew : Nat.count (Adds ops) ops.length < UInt64.size)

include hfew

theorem nextIndex_toNat (hn : n ≤ ops.length) :
    (after (ops.take n)).nextIndex.toNat = Nat.count (Adds ops) n := by
  rw [nextIndex_take]
  exact UInt64.toNat_ofNat_of_lt (Nat.lt_of_le_of_lt (Nat.count_monotone _ hn) hfew)

/-- The index of a record is the number of records that were added before it. -/
theorem AddsAt.index_toNat (h : AddsAt ops n p e) :
    e.index.toNat = Nat.count (Adds ops) n := by
  obtain ⟨x, -, -, rfl⟩ := addsAt_iff.mp h
  exact nextIndex_toNat hfew (Nat.le_of_lt h.adds.lt_length)

theorem index_lt_nextIndex (hn : n ≤ ops.length)
    (h : (after (ops.take n)).recordAt? p = some e) :
    e.index < (after (ops.take n)).nextIndex := by
  obtain ⟨owner, hstands⟩ := recordAt?_eq_some_iff.mp h
  obtain ⟨m, hm, hadds, -⟩ := stands_take hstands
  rw [UInt64.lt_iff_toNat_lt, hadds.index_toNat hfew, nextIndex_toNat hfew hn]
  exact Nat.count_strict_mono hadds.adds hm

/-- Records at different places were added by different steps. -/
theorem place_eq_of_index_eq (h : (after (ops.take n)).recordAt? p = some e)
    (h' : (after (ops.take n)).recordAt? q = some d) (hindex : e.index = d.index) : p = q := by
  obtain ⟨owner, hstands⟩ := recordAt?_eq_some_iff.mp h
  obtain ⟨owner', hstands'⟩ := recordAt?_eq_some_iff.mp h'
  obtain ⟨m, -, hadds, -⟩ := stands_take hstands
  obtain ⟨m', -, hadds', -⟩ := stands_take hstands'
  have hcount : Nat.count (Adds ops) m = Nat.count (Adds ops) m' := by
    rw [← hadds.index_toNat hfew, ← hadds'.index_toNat hfew, hindex]
  have hm := Nat.count_injective hadds.adds hadds'.adds hcount
  subst hm
  exact (hadds'.unique hadds).1

end Few

/-! ## Leaks -/

section Leaks

variable {l : Ledger} {sink : Sink} {r : Report}

/-- The report of a leak is about a record of the context, under its kind, handle and index. -/
theorem exists_of_mem_leakTrace {c : Context} (hc : c.registry.Filed) {kinds : List Kind}
    {code : Code} (hr : .report sink r ∈ leakTrace c kinds code) :
    ∃ e, c.registry.find? r.kind r.handle = some e ∧
      r.finding = .leaked c.scope c.handle e.index := by
  obtain ⟨r', hleak, heq⟩ := List.mem_map.mp hr
  cases heq
  obtain ⟨k, -, hleak⟩ := List.mem_flatMap.mp hleak
  obtain ⟨e, he, rfl⟩ := List.mem_map.mp hleak
  have hfind := (hc.mem_recordsOf k e).mp he
  refine ⟨e, ?_, rfl⟩
  show c.registry.find? e.kind e.handle = some e
  rw [hc.kind_eq hfind]
  exact hfind

theorem exists_of_mem_surveyed {id : ContextId} {survey : Context → Survey}
    (hr : .report sink r ∈ (l.surveyed id survey).trace) :
    ∃ c, l.context? id = some c ∧ .report sink r ∈ (survey c).trace := by
  rw [surveyed] at hr
  split at hr
  · cases List.mem_singleton.mp hr
  · exact ⟨_, by assumption, hr⟩

/-- The report of a leak names a context and the record of one of its objects. -/
theorem exists_of_leaked (hl : l.Filed) {op : Operation} {scope : Scope} {owner : Handle}
    {index : UInt64} (hr : r ∈ (op.run l).trace.reports)
    (hleak : r.finding = .leaked scope owner index) :
    ∃ id c e, l.context? id = some c ∧ c.scope = scope ∧ c.handle = owner ∧
      c.registry.find? r.kind r.handle = some e ∧ e.index = index := by
  obtain ⟨sink, hr⟩ := Trace.mem_reports.mp hr
  -- what is found in the context `c` is all that is left to say
  suffices hfound : ∃ id c e, l.context? id = some c ∧
      c.registry.find? r.kind r.handle = some e ∧
        r.finding = .leaked c.scope c.handle e.index by
    obtain ⟨id, c, e, hc, he, heq⟩ := hfound
    rw [hleak] at heq
    cases heq
    exact ⟨id, c, e, hc, rfl, rfl, he, rfl⟩
  have hphase : (Event.report sink r).phase? = some .prepare := by
    show r.finding.phase? = some .prepare
    rw [hleak]
    rfl
  have hop := op.speaks l _ hr .prepare hphase
  cases op with
  | reportKind id k code =>
    rw [Operation.run, Action.trace_map] at hr
    obtain ⟨c, hc, hr⟩ := exists_of_mem_surveyed hr
    obtain ⟨e, he, hfinding⟩ := exists_of_mem_leakTrace (hl.registry hc) hr
    exact ⟨id, c, e, hc, he, hfinding⟩
  | reportOwned id code =>
    rw [Operation.run, Action.trace_map] at hr
    obtain ⟨c, hc, hr⟩ := exists_of_mem_surveyed hr
    obtain ⟨e, he, hfinding⟩ := exists_of_mem_leakTrace (hl.registry hc) hr
    exact ⟨id, c, e, hc, he, hfinding⟩
  | reportDevices key code =>
    rw [Operation.run, Action.trace_map] at hr
    obtain ⟨c, hc, hr⟩ := exists_of_mem_surveyed hr
    obtain ⟨d, hd, hr⟩ := List.mem_flatMap.mp hr
    have hdevice := ((hl.mem_devicesOf key d).mp hd).1
    rcases List.mem_cons.mp hr with heq | hr
    · -- the report about the device itself names no index
      cases heq
      cases hleak
    · obtain ⟨e, he, hfinding⟩ := exists_of_mem_leakTrace (hl.registry hdevice) hr
      exact ⟨d.id, d, e, hdevice, he, hfinding⟩
  | _ => cases hop

end Leaks

/-! ## Creation in order -/

theorem announcement_of_record (x : Entry) (index : UInt64) :
    (x.place.announcement (x.record index)).severity = .information ∧
      (x.place.announcement (x.record index)).kind = x.place.kind ∧
      (x.place.announcement (x.record index)).handle = x.place.handle ∧
      (x.place.announcement (x.record index)).finding.createdIndex? = some index := by
  obtain ⟨p, status, parent⟩ := x
  cases p <;> exact ⟨rfl, rfl, rfl, rfl⟩

/-- The report of a step that adds a record. -/
theorem AddsAt.traceAt (h : AddsAt ops n p e) :
    ∃ c r, (after (ops.take n)).context? p.context = some c ∧
      traceAt ops n = [.report c.sink r] ∧ r.severity = .information ∧ r.kind = p.kind ∧
        r.handle = p.handle ∧ r.finding.createdIndex? = some e.index := by
  obtain ⟨x, hx, rfl, rfl⟩ := addsAt_iff.mp h
  obtain ⟨op, hop, harrival⟩ := Option.bind_eq_some_iff.mp hx
  obtain ⟨c, hc, -, hrun⟩ := run_of_arrival? harrival
  refine ⟨c, x.place.announcement (x.record _), hc, ?_, announcement_of_record x _⟩
  exact (traceAt_eq hop).trans (congrArg Step.trace hrun)

theorem AddsAt.kind_eq (h : AddsAt ops n p e) : e.kind = p.kind ∧ e.handle = p.handle := by
  obtain ⟨x, -, rfl, rfl⟩ := addsAt_iff.mp h
  exact ⟨rfl, rfl⟩

/-- A step that adds no record uses no index and announces none. -/
theorem step_of_not_adds (h : ¬Adds ops n) :
    (after (ops.take (n + 1))).nextIndex = (after (ops.take n)).nextIndex ∧
      ∀ r ∈ (traceAt ops n).reports, r.finding.createdIndex? = none := by
  cases hop : ops[n]? with
  | none =>
    rw [after_take_succ_of_eq_none hop, traceAt, hop]
    exact ⟨rfl, fun r hr => absurd hr List.not_mem_nil⟩
  | some op =>
    have hx : op.arrival? (after (ops.take n)) = none :=
      (arrivalAt?_eq hop).symm.trans (not_adds_iff.mp h)
    rw [after_take_succ hop, traceAt_eq hop]
    exact ⟨nextIndex_run_of_arrival?_eq_none hx, fun _ => createdIndex?_of_arrival?_eq_none hx⟩

/-- The report of a leak names the object that was registered under its index, and the owner of the
context that it was registered in. -/
theorem leak_names_registration (hfew : Nat.count (Adds ops) ops.length < UInt64.size)
    {r : Report} {scope : Scope} {owner : Handle} {index : UInt64}
    (hr : r ∈ (traceAt ops n).reports) (hleak : r.finding = .leaked scope owner index) :
    ∃ m id e c, m < n ∧ AddsAt ops m (.object id r.kind r.handle) e ∧
      Nat.count (Adds ops) m = index.toNat ∧
        (after (ops.take m)).context? id = some c ∧ c.scope = scope ∧ c.handle = owner := by
  cases hop : ops[n]? with
  | none =>
    rw [traceAt, hop] at hr
    cases hr
  | some op =>
    rw [traceAt_eq hop] at hr
    obtain ⟨id, c, e, hc, rfl, rfl, he, rfl⟩ := exists_of_leaked (filed_after _) hr hleak
    have hstands : (after (ops.take n)).Stands (.object id r.kind r.handle) e c.handle :=
      ⟨c, hc, rfl, he⟩
    obtain ⟨m, hm, hadds, d, hd, hhandle⟩ := stands_take hstands
    refine ⟨m, id, e, d, hm, hadds, (hadds.index_toNat hfew).symm, hd, ?_, hhandle⟩
    -- both contexts stand under the same identity
    exact ((filed_after _).scope_eq hd).trans ((filed_after _).scope_eq hc).symm

/-- In a history of fewer than `2 ^ 64` registrations, the step before which `n` others have
registered something registers its record under index `n`, and the only thing that happens is the
report of that to the sink of the context. A step registers something exactly if its operation asks
for that in a known context and at a free place; all others use no index and announce none. So the
indexes of all records in the books differ and are below the next one, and the report of a leak
under index `n` names the kind, the handle and the owner of the registration with that number. -/
theorem creation_in_order (ops : List Operation)
    (hfew : Nat.count (Adds ops) ops.length < UInt64.size) :
    (∀ n p e, AddsAt ops n p e →
      (∀ q d, AddsAt ops n q d → q = p ∧ d = e) ∧
      e.index.toNat = Nat.count (Adds ops) n ∧ e.kind = p.kind ∧ e.handle = p.handle ∧
      ∃ c r, (after (ops.take n)).context? p.context = some c ∧
        traceAt ops n = [.report c.sink r] ∧ r.severity = .information ∧ r.kind = p.kind ∧
          r.handle = p.handle ∧ r.finding.createdIndex? = some e.index) ∧
    (∀ n, Adds ops n ↔ ∃ op x, ops[n]? = some op ∧ op.entry? = some x ∧
      ((after (ops.take n)).context? x.place.context).isSome ∧
        (after (ops.take n)).recordAt? x.place = none) ∧
    (∀ n, ¬Adds ops n →
      (after (ops.take (n + 1))).nextIndex = (after (ops.take n)).nextIndex ∧
        ∀ r ∈ (traceAt ops n).reports, r.finding.createdIndex? = none) ∧
    (∀ n ≤ ops.length,
      (after (ops.take n)).nextIndex.toNat = Nat.count (Adds ops) n ∧
      (∀ p e, (after (ops.take n)).recordAt? p = some e →
        e.index < (after (ops.take n)).nextIndex) ∧
      ∀ p q e d, (after (ops.take n)).recordAt? p = some e →
        (after (ops.take n)).recordAt? q = some d → e.index = d.index → p = q) ∧
    ∀ n, ∀ r ∈ (traceAt ops n).reports, ∀ scope owner index,
      r.finding = .leaked scope owner index →
        ∃ m id e c, m < n ∧ AddsAt ops m (.object id r.kind r.handle) e ∧
          Nat.count (Adds ops) m = index.toNat ∧
            (after (ops.take m)).context? id = some c ∧ c.scope = scope ∧ c.handle = owner := by
  refine ⟨?adding, fun n => adds_iff_exists_entry, fun n => step_of_not_adds, ?moment, ?leak⟩
  case adding =>
    intro n p e hadds
    exact ⟨fun q d => hadds.unique, hadds.index_toNat hfew, hadds.kind_eq.1, hadds.kind_eq.2,
      hadds.traceAt⟩
  case moment =>
    intro n hn
    refine ⟨nextIndex_toNat hfew hn, fun p e => index_lt_nextIndex hfew hn, ?_⟩
    intro p q e d he hd hindex
    exact place_eq_of_index_eq hfew he hd hindex
  case leak =>
    intro n r hr scope owner index hleak
    exact leak_names_registration hfew hr hleak

/-- A surface is registered twice, then an image of another context, and then leaks are reported. -/
def registrations : List Operation :=
  [.openInstance 1 10 ⟨none, .memory⟩,
    .registerObject (.ofInstance 1) .surface 5 false,
    .registerObject (.ofInstance 1) .surface 5 false,
    .openDevice 1 2 20,
    .registerImage 2 7 6,
    .reportOwned (.ofInstance 1) Code.objectLeak]

/-- The second attempt to register the surface does not count, so the image gets index one. The leak
that is reported in the end is the registration with number zero. -/
theorem image_registered_second :
    Nat.count (Adds registrations) registrations.length < UInt64.size ∧
      Nat.count (Adds registrations) 4 = (1 : UInt64).toNat ∧
      ∃ m id e, AddsAt registrations m (.object id .surface 5) e ∧
        Nat.count (Adds registrations) m = (0 : UInt64).toNat := by
  have hfew : Nat.count (Adds registrations) registrations.length < UInt64.size :=
    Nat.lt_of_le_of_lt (Nat.count_le _) (show registrations.length < UInt64.size by decide)
  obtain ⟨hadding, -, -, -, hleaks⟩ := creation_in_order registrations hfew
  have himage : AddsAt registrations 4 (.image 2 7) ⟨.image, 7, .none, 6, 1⟩ :=
    ⟨by decide +kernel, by decide +kernel⟩
  have hleak : (Report.leaked .instanceLevel 10 Code.objectLeak ⟨.surface, 5, .none, 0, 0⟩) ∈
      (traceAt registrations 5).reports := by
    decide +kernel
  obtain ⟨m, id, e, c, -, hadds, hcount, -⟩ := hleaks 5 _ hleak _ _ _ rfl
  exact ⟨hfew, (hadding 4 _ _ himage).2.1.symm, m, id, e, hadds, hcount⟩

end HandleLedger.Ledger
