import HandleLedger.Proofs.Interception.Diagnosis
import HandleLedger.Proofs.Interception.Teardown
import HandleLedger.Proofs.Registry.Remainder
import Mathlib.Data.List.Dedup

/-!
# Freeing to a pool

Command buffers and descriptor sets are freed in lists, through the pool that they came from
(`Freeing`). The list is walked twice, to check it and to take what it names out of the books, and it
may hold nulls and name an object more than once. The main statement, `freed_through_pool`, says what
is reported about which entry, when the call runs, and that afterwards exactly the named objects are
gone, with the counters down by as many as were named.
-/

set_option autoImplicit false

namespace HandleLedger

namespace Registry

variable {r : Registry} {k : Kind} {hs : List Handle}

/-- The records that are named by handles, all of which are known, are as many as the handles, each
taken once. -/
theorem Filed.countP_named (hf : r.Filed) (hknown : ∀ h ∈ hs, ∃ e, r.find? k h = some e) :
    (r.recordsOf k).countP (fun e => e.handle ∈ hs) = hs.dedup.length := by
  have hmem : ∀ e ∈ (r.recordsOf k).filter (fun e => e.handle ∈ hs),
      r.find? k e.handle = some e ∧ e.handle ∈ hs := by
    intro e he
    obtain ⟨hrecord, hnamed⟩ := List.mem_filter.mp he
    exact ⟨(hf.mem_recordsOf k e).mp hrecord, of_decide_eq_true hnamed⟩
  -- records of one kind are told apart by their handles
  have hnodup : (((r.recordsOf k).filter fun e => e.handle ∈ hs).map (·.handle)).Nodup := by
    refine List.Nodup.map_on ?_ ((hf.nodup_recordsOf k).filter _)
    intro e he d hd heq
    have hsame := (hmem e he).1.symm.trans (heq ▸ (hmem d hd).1)
    exact Option.some.inj hsame
  have hperm : (((r.recordsOf k).filter fun e => e.handle ∈ hs).map (·.handle)).Perm hs.dedup := by
    refine (List.perm_ext_iff_of_nodup hnodup hs.nodup_dedup).mpr fun h => ?_
    rw [List.mem_dedup, List.mem_map]
    constructor
    · rintro ⟨e, he, rfl⟩
      exact (hmem e he).2
    · intro hh
      obtain ⟨e, he⟩ := hknown h hh
      have hhandle := hf.handle_eq he
      refine ⟨e, List.mem_filter.mpr ⟨(hf.mem_recordsOf k e).mpr (hhandle ▸ he), ?_⟩, hhandle⟩
      exact decide_eq_true (hhandle ▸ hh)
  rw [List.countP_eq_length_filter, ← List.length_map (f := (·.handle)), hperm.length_eq]

end Registry

/-! ## The two calls -/

/-- Objects of a kind that are freed to a pool, and the rules of that. -/
structure Freeing where
  device : Handle
  pool : Handle
  /-- The list as it is given. -/
  entries : List Handle
  kind : Kind
  poolKind : Kind
  /-- The rules that are broken by a pool that is unknown or belongs to another device. -/
  poolInvalid : Code
  poolForeign : Code
  /-- The rules that are broken by an object that is unknown or belongs to another pool. -/
  invalid : Code
  foreign : Code

/-- What a request frees to a pool. -/
def Request.freeing? : Request → Option Freeing
  | .freeCommandBuffers device pool hs =>
    some {
      device := device
      pool := pool
      entries := hs
      kind := .commandBuffer
      poolKind := .commandPool
      poolInvalid := "VUID-vkFreeCommandBuffers-commandPool-parameter"
      poolForeign := "VUID-vkFreeCommandBuffers-commandPool-parent"
      invalid := "VUID-vkFreeCommandBuffers-pCommandBuffers-00048"
      foreign := "VUID-vkFreeCommandBuffers-pCommandBuffers-parent" }
  | .freeDescriptorSets device pool hs =>
    some {
      device := device
      pool := pool
      entries := hs
      kind := .descriptorSet
      poolKind := .descriptorPool
      poolInvalid := "VUID-vkFreeDescriptorSets-descriptorPool-parameter"
      poolForeign := "VUID-vkFreeDescriptorSets-descriptorPool-parent"
      invalid := "VUID-vkFreeDescriptorSets-pDescriptorSets-00310"
      foreign := "VUID-vkFreeDescriptorSets-pDescriptorSets-parent" }
  | _ => none

namespace Freeing

/-- The pool as an argument of the call. -/
def poolArgument (f : Freeing) : Argument :=
  .required f.poolKind f.pool f.poolInvalid (some f.poolForeign)

/-- The objects that the list names. -/
def objects (f : Freeing) : List Handle := f.entries.filter (· != nullHandle)

/-- Whether the list names a record that stands among those of a kind. -/
def names (f : Freeing) (k : Kind) (e : Record) : Bool := f.kind = k && e.handle ∈ f.objects

/-- What is wrong with an entry, if anything is. Null is no object. -/
def refusal? (f : Freeing) (r : Registry) (h : Handle) : Option Report :=
  if h = nullHandle then none
  else
    match r.find? f.kind h with
    | none => some (.error f.kind h f.invalid .invalid)
    | some e =>
      if e.parent = f.pool then none
      else some (.error f.kind h f.foreign (.foreignPool e.parent f.pool))

end Freeing

/-! ## The check -/

namespace Ledger

variable {l : Ledger} {device : DispatchKey} {c : Context}

/-- To a strict sink the check of a pool's object is decisive. -/
theorem decisive_checkPoolChild (hc : l.context? (.ofDevice device) = some c) (hs : c.sink.Strict)
    (k : Kind) (pool h : Handle) (invalid foreign : Code) :
    (l.checkPoolChild device k pool h invalid foreign).Decisive := by
  rw [checkPoolChild, within_of_eq_some hc]
  cases c.registry.find? k h with
  | none => exact Check.decisive_ask hs rfl
  | some e =>
    show Check.Decisive (if e.parent = pool then .pass else _)
    split
    · exact Check.decisive_pass
    · exact Check.decisive_ask hs rfl

theorem reports_checkPoolChild (hc : l.context? (.ofDevice device) = some c) (f : Freeing)
    {h : Handle} (hh : h ≠ nullHandle) :
    (l.checkPoolChild device f.kind f.pool h f.invalid f.foreign).trace.reports =
      (f.refusal? c.registry h).toList := by
  rw [checkPoolChild, within_of_eq_some hc, Freeing.refusal?, if_neg hh]
  cases c.registry.find? f.kind h with
  | none => rfl
  | some e =>
    show Trace.reports (Check.trace (if e.parent = f.pool then .pass else _)) =
      Option.toList (if e.parent = f.pool then none else _)
    split
    · rfl
    · rfl

/-- The walk through the list refuses entry after entry. -/
theorem reports_checkPoolChildren (hc : l.context? (.ofDevice device) = some c) (f : Freeing) :
    ∀ hs : List Handle,
      (Check.all ((hs.filter (· != nullHandle)).map fun h =>
        l.checkPoolChild device f.kind f.pool h f.invalid f.foreign)).trace.reports =
      hs.filterMap (f.refusal? c.registry)
  | [] => rfl
  | h :: hs => by
    by_cases hh : h = nullHandle
    · have hnull : f.refusal? c.registry h = none := if_pos hh
      rw [List.filter_cons_of_neg (by simpa using hh), List.filterMap_cons_none hnull]
      exact reports_checkPoolChildren hc f hs
    · rw [List.filter_cons_of_pos (by simpa using hh), List.map_cons, Check.all_cons,
        Check.trace_append, Trace.reports_append, reports_checkPoolChild hc f hh,
        reports_checkPoolChildren hc f hs, List.filterMap_cons]
      cases f.refusal? c.registry h <;> rfl

/-- An argument that must not belong to another device is accepted if and only if the device has
it. -/
theorem checkArgument_reports_eq_nil_iff {a : Argument} {code : Code}
    (hc : l.context? (.ofDevice device) = some c) (hs : c.sink.Strict)
    (hnull : a.nullAllowed = false) (hdevice : a.kind ≠ .device) (hsurface : a.kind ≠ .surface)
    (hwrong : a.wrongDevice = some code) :
    ((Operation.checkArgument (.ofDevice device) a).run l).trace.reports = [] ↔
      c.registry.tracks a.kind a.handle = true := by
  rw [run_checkArgument_of_eq rfl, ← (decisive_checkArgument hc hs a).skip_eq_false_iff]
  constructor
  · exact fun hpass => tracks_of_checkArgument hpass hc hs hnull hdevice hsurface hwrong
  · intro htracks
    rw [checkArgument_of_tracks hc hdevice htracks]
    rfl

/-! ## The removal -/

theorem updates_releaseAll (id : ContextId) (k : Kind) :
    ∀ {hs : List Handle} (l : Ledger), (∀ h ∈ hs, h ≠ nullHandle) →
      Updates id (·.removeAll k hs) l (Action.each hs (release id k) l).ledger
  | [], _, _ => Updates.rfl'
  | h :: hs, l, hnull => by
    have hfirst := updates_release id k (hnull h List.mem_cons_self) l
    exact hfirst.trans (updates_releaseAll id k _ fun o ho => hnull o (List.mem_cons_of_mem _ ho))

theorem nextIndex_releaseAll (id : ContextId) (k : Kind) (hs : List Handle) (l : Ledger) :
    (Action.each hs (release id k) l).ledger.nextIndex = l.nextIndex := by
  have hkeeps : (Action.each hs (release id k)).Keeps (·.nextIndex = l.nextIndex) :=
    Action.keeps_each fun h _ =>
      (keeps_nextIndex_run (show Operation.entry? (.release id k h) = none from rfl)).of_returning
  exact hkeeps l rfl

theorem trace_releaseAll {id : ContextId} (k : Kind) :
    ∀ {hs : List Handle} {l : Ledger}, (l.context? id).isSome → (∀ h ∈ hs, h ≠ nullHandle) →
      (Action.each hs (release id k) l).trace = []
  | [], _, _, _ => rfl
  | h :: hs, l, hc, hnull => by
    have hh := hnull h List.mem_cons_self
    have hknown := ((updates_release id k hh l).isSome_context? id).trans hc
    show (release id k h l).trace ++
      (Action.each hs (release id k) (release id k h l).ledger).trace = []
    rw [trace_release hc k hh, List.nil_append]
    exact trace_releaseAll k hknown fun o ho => hnull o (List.mem_cons_of_mem _ ho)

end Ledger

namespace Freeing

variable {f : Freeing} {r : Registry}

theorem ne_null_of_mem_objects : ∀ h ∈ f.objects, h ≠ nullHandle :=
  fun _ hh => bne_iff_ne.mp (List.mem_filter.mp hh).2

/-- An object that is not refused came from the pool. -/
theorem exists_of_refusal?_eq_none {h : Handle} (hh : h ≠ nullHandle)
    (hnone : f.refusal? r h = none) : ∃ e, r.find? f.kind h = some e ∧ e.parent = f.pool := by
  rw [refusal?, if_neg hh] at hnone
  cases he : r.find? f.kind h with
  | none =>
    rw [he] at hnone
    cases hnone
  | some e =>
    rw [he] at hnone
    by_cases hparent : e.parent = f.pool
    · exact ⟨e, rfl, hparent⟩
    · simp only [if_neg hparent] at hnone
      cases hnone

theorem find?_removeAll_objects (hf : r.Filed) (k : Kind) (h : Handle) :
    (r.removeAll f.kind f.objects).find? k h = (r.find? k h).filter fun e => !f.names k e := by
  rw [Registry.find?_removeAll]
  cases he : r.find? k h with
  | none => exact ite_self none
  | some e =>
    have hnames : f.names k e = decide (f.kind = k ∧ h ∈ f.objects) := by
      rw [names, hf.handle_eq he, Bool.decide_and]
    rw [Option.filter_some, hnames]
    by_cases hgone : f.kind = k ∧ h ∈ f.objects
    · rw [if_pos hgone, decide_eq_true hgone]
      rfl
    · rw [if_neg hgone, decide_eq_false hgone]
      rfl

/-- To take out what the list names filters the registry. -/
theorem remainder (hf : r.Filed) (hr : r.Reckoned) :
    r.Remainder f.names (fun _ => false) (r.removeAll f.kind f.objects) := by
  refine hr.remainder (hr.removeAll f.kind f.objects) hf (find?_removeAll_objects hf) ?_
    (Registry.familyFlags_removeAll ..)
  rw [Registry.images_removeAll]
  exact r.images.filter_true.symm

/-- The records that are named are as many as the objects. -/
theorem countP_names (hf : r.Filed)
    (hknown : ∀ h ∈ f.objects, ∃ e, r.find? f.kind h = some e) :
    (r.recordsOf f.kind).countP (f.names f.kind) = f.objects.dedup.length ∧
      r.records.values.countP (fun e => f.names e.kind e) = f.objects.dedup.length := by
  have hkind : (r.recordsOf f.kind).countP (f.names f.kind) = f.objects.dedup.length := by
    rw [← hf.countP_named hknown]
    refine List.countP_congr fun e _ => ?_
    rw [names, decide_eq_true rfl, Bool.true_and]
  refine ⟨hkind, ?_⟩
  rw [← hkind, Registry.recordsOf, List.countP_filter]
  refine List.countP_congr fun e _ => ?_
  simp only [names, Bool.and_eq_true, decide_eq_true_eq, true_and, and_comm, eq_comm (a := f.kind)]

end Freeing

namespace Layer

variable {l : Layer} {f : Freeing}

theorem check_of_freeing? {r : Request} (h : r.freeing? = some f) :
    (r.passage l).check = l.ledger.checkArgument (l.deviceId f.device) f.poolArgument ++
      .all ((f.entries.filter (· != nullHandle)).map fun h =>
        l.ledger.checkPoolChild (l.keyOf f.device) f.kind f.pool h f.invalid f.foreign) := by
  cases r with
  | freeCommandBuffers device pool hs =>
    cases h
    rfl
  | freeDescriptorSets device pool hs =>
    cases h
    rfl
  | _ => cases h

theorem prepare_of_freeing? {r : Request} (h : r.freeing? = some f) :
    (r.passage l).prepare = pure () := by
  cases r with
  | freeCommandBuffers => rfl
  | freeDescriptorSets => rfl
  | _ => cases h

/-- A call that frees takes what is named out of the books, unless it has failed. -/
theorem record_of_freeing? {c : Call} (h : c.request.freeing? = some f) :
    (c.request.passage l).record c.outcome =
      if c.failure?.isSome then pure ()
      else Action.each f.objects (Ledger.release (l.deviceId f.device) f.kind) := by
  obtain ⟨request, outcome⟩ := c
  cases request with
  | freeCommandBuffers device pool hs =>
    cases h
    rfl
  | freeDescriptorSets device pool hs =>
    cases h
    cases outcome with
    | error code => rfl
    | ok done => rfl
  | _ => cases h

theorem poolKind_of_freeing? {r : Request} (h : r.freeing? = some f) :
    f.poolKind ≠ .device ∧ f.poolKind ≠ .surface := by
  cases r with
  | freeCommandBuffers =>
    cases h
    exact (by decide : Kind.commandPool ≠ .device ∧ Kind.commandPool ≠ .surface)
  | freeDescriptorSets =>
    cases h
    exact (by decide : Kind.descriptorPool ≠ .device ∧ Kind.descriptorPool ≠ .surface)
  | _ => cases h

section Call

variable {c : Call} {d : Context} (hf : c.request.freeing? = some f)
  (hd : l.ledger.context? (l.deviceId f.device) = some d)
include hf

section Check

include hd

/-- The check of a call that frees reports what is wrong with the pool, and then what is wrong with
the entries. -/
theorem reports_check_of_freeing? :
    (c.request.passage l).check.trace.reports =
      ((Ledger.Operation.checkArgument (l.deviceId f.device) f.poolArgument).run
        l.ledger).trace.reports ++ f.entries.filterMap (f.refusal? d.registry) := by
  rw [check_of_freeing? hf, Check.trace_append, Trace.reports_append,
    Ledger.run_checkArgument_of_eq rfl]
  exact congrArg _ (Ledger.reports_checkPoolChildren hd f f.entries)

/-- A call that frees reports nothing but what its check does. -/
theorem reports_of_freeing? :
    (l.intercept c).trace.reports = (c.request.passage l).check.trace.reports := by
  obtain ⟨-, hreports⟩ := (l.sorted_passage c.request).trace_run (prepare_of_freeing? hf)
    c.outcome l.ledger
  have hquiet : ((c.request.passage l).record c.outcome l.ledger).trace.reports = [] := by
    rw [record_of_freeing? hf]
    split
    · rfl
    · rw [Ledger.trace_releaseAll f.kind (Option.isSome_of_eq_some hd) f.ne_null_of_mem_objects]
      rfl
  rw [hquiet, ite_self, List.append_nil] at hreports
  exact hreports

theorem decisive_of_freeing? (hs : d.sink.Strict) : (c.request.passage l).check.Decisive := by
  rw [check_of_freeing? hf]
  refine (Ledger.decisive_checkArgument hd hs _).append (Check.decisive_all fun check hmem => ?_)
  obtain ⟨h, -, rfl⟩ := List.mem_map.mp hmem
  exact Ledger.decisive_checkPoolChild hd hs ..

/-- A call that frees runs if the device knows the pool and no entry is refused. -/
theorem runs_iff_of_freeing? (hs : d.sink.Strict) :
    l.Runs c ↔ d.registry.tracks f.poolKind f.pool = true ∧
      ∀ h ∈ f.entries, f.refusal? d.registry h = none := by
  obtain ⟨hdevice, hsurface⟩ := poolKind_of_freeing? hf
  have hpool := Ledger.checkArgument_reports_eq_nil_iff hd hs (a := f.poolArgument) rfl hdevice
    hsurface rfl
  rw [runs_iff, (decisive_of_freeing? hf hd hs).skip_eq_false_iff,
    reports_check_of_freeing? hf hd, List.append_eq_nil_iff, List.filterMap_eq_nil_iff]
  exact and_congr_left fun _ => hpool

end Check

/-- The books after a call that frees are those after the second walk through the list. -/
theorem ledger_of_freeing? (hrun : l.Runs c) (hdone : c.failure? = none) :
    (l.intercept c).layer.ledger =
      (Action.each f.objects (Ledger.release (l.deviceId f.device) f.kind) l.ledger).ledger := by
  have hprepare : (c.request.passage l).prepare l.ledger = ⟨(), l.ledger, []⟩ := by
    rw [prepare_of_freeing? hf]
    rfl
  obtain ⟨-, -, hledger⟩ := intercept_of_runs hrun hprepare
  rw [record_of_freeing? hf, hdone] at hledger
  exact hledger

end Call

/-- In any run, take a call that frees command buffers or descriptor sets through a pool, addresses a
known device, and has a strict sink. It reports what the check of the pool reports, and then one error
for each entry of the list that is not null and either unknown to the device or of another pool, in
order. It runs exactly if the device knows the pool and there is no such entry. If it runs and
succeeds, each entry that is not null was an object of the pool, and just these objects are taken out:
the count of their kind and the total fall by the number of different ones, and all other records, the
images of swapchains, the notes about queues, the other contexts and the next creation index are as
they were. -/
theorem freed_through_pool (config : Config) (ts : List Turn) {c : Call} {f : Freeing} {d : Context}
    (hf : c.request.freeing? = some f)
    (hd : ((ofConfig config).play ts).ledger.context?
      (((ofConfig config).play ts).deviceId f.device) = some d)
    (hs : d.sink.Strict) :
    let l := (ofConfig config).play ts
    let id := l.deviceId f.device
    let left := (l.intercept c).layer.ledger
    (l.intercept c).trace.reports =
        ((Ledger.Operation.checkArgument id f.poolArgument).run l.ledger).trace.reports ++
          f.entries.filterMap (f.refusal? d.registry) ∧
      (l.Runs c ↔ d.registry.tracks f.poolKind f.pool = true ∧
        ∀ h ∈ f.entries, f.refusal? d.registry h = none) ∧
      (l.Runs c → c.failure? = none →
        (∀ h ∈ f.objects, ∃ e, d.registry.find? f.kind h = some e ∧ e.parent = f.pool) ∧
        ∃ r : Registry,
          d.registry.Remainder f.names (fun _ => false) r ∧
          r.queueFamilies = d.registry.queueFamilies ∧
          r.count f.kind + f.objects.dedup.length = d.registry.count f.kind ∧
          r.total + f.objects.dedup.length = d.registry.total ∧
          left.context? id = some { d with registry := r } ∧
          (∀ id', id ≠ id' → left.context? id' = l.ledger.context? id') ∧
          left.nextIndex = l.ledger.nextIndex) := by
  intro l id left
  have hfiled : d.registry.Filed := (filed_play_ofConfig config ts).registry hd
  have hreckoned : d.registry.Reckoned := reckoned_play_ofConfig config ts hd
  have hruns := runs_iff_of_freeing? hf hd hs
  refine ⟨(reports_of_freeing? hf hd).trans (reports_check_of_freeing? hf hd), hruns,
    fun hrun hdone => ?_⟩
  have hobjects : ∀ h ∈ f.objects, ∃ e, d.registry.find? f.kind h = some e ∧
      e.parent = f.pool := by
    intro h hh
    have hmem : h ∈ f.entries := (List.mem_filter.mp hh).1
    exact f.exists_of_refusal?_eq_none (f.ne_null_of_mem_objects h hh) ((hruns.mp hrun).2 h hmem)
  -- a record that is named twice goes with the first release, so the list counts without repetition
  obtain ⟨hcount, htotal⟩ := f.countP_names hfiled fun h hh =>
    (hobjects h hh).imp fun _ => And.left
  have hremainder := f.remainder hfiled hreckoned
  have hleft : left = (Action.each f.objects (Ledger.release id f.kind) l.ledger).ledger :=
    ledger_of_freeing? hf hrun hdone
  have hupdates := Ledger.updates_releaseAll id f.kind l.ledger f.ne_null_of_mem_objects
  refine ⟨hobjects, d.registry.removeAll f.kind f.objects, hremainder,
    Registry.queueFamilies_removeAll .., ?_, ?_, ?_, fun id' hne => ?_, ?_⟩
  · rw [← hcount]
    exact hremainder.count f.kind
  · rw [← htotal]
    exact hremainder.total
  · rw [hleft, hupdates.context?_self, hd]
    rfl
  · rw [hleft, hupdates.context?_of_ne hne]
  · rw [hleft, Ledger.nextIndex_releaseAll]

/-- Three descriptor sets are allocated from a pool. -/
def threeSets : List Turn :=
  allocatedSet ++ [.call ⟨.allocateDescriptorSets 3 5 [4], .ok [7, 8]⟩]

/-- Two of them are freed, one of these twice and with a null between, and one is left. -/
theorem sets_freed_to_pool :
    let l := (ofConfig ⟨.default⟩).play threeSets
    let c : Call := ⟨.freeDescriptorSets 3 5 [7, nullHandle, 6, 7], .ok ()⟩
    let left := (l.intercept c).layer.ledger
    (∃ f d, c.request.freeing? = some f ∧ l.ledger.context? (l.deviceId f.device) = some d ∧
      d.sink.Strict) ∧
      l.Runs c ∧ (l.intercept c).trace.reports = [] ∧
      l.ledger.objectCount (.ofDevice 20) .descriptorSet = 3 ∧
      left.objectCount (.ofDevice 20) .descriptorSet = 1 ∧
      left.tracks (.ofDevice 20) .descriptorSet 8 = true := by
  intro l c left
  have hknown : (l.ledger.context? (l.deviceId 3)).isSome := by decide +kernel
  obtain ⟨d, hd⟩ := Option.isSome_iff_exists.mp hknown
  have hs : d.sink.Strict := strict_play ⟨.default⟩
    (Turn.strict_of_toMemory (show threeSets.all Turn.toMemory = true from rfl) _) hd
  have hrun : l.Runs c := by decide +kernel
  have hid : l.deviceId 3 = .ofDevice 20 := by decide +kernel
  obtain ⟨-, -, hran⟩ := freed_through_pool ⟨.default⟩ threeSets (c := c) rfl hd hs
  obtain ⟨-, r, -, -, hcount, -, hleft, -⟩ := hran hrun rfl
  have hthree : l.ledger.objectCount (.ofDevice 20) .descriptorSet = 3 := by decide +kernel
  refine ⟨⟨_, d, rfl, hd, hs⟩, hrun, by decide +kernel, hthree, ?_, by decide +kernel⟩
  -- the list names two sets
  rw [← hid, Ledger.objectCount, hd] at hthree
  rw [← hid, Ledger.objectCount, hleft]
  exact Nat.add_right_cancel (hcount.trans hthree)

end Layer

end HandleLedger
