import HandleLedger.Proofs.Ledger.Sequence
import HandleLedger.Proofs.Registry.Renumber

/-!
# Histories of several contexts side by side

Operations that are addressed to different contexts may come in any order. The main statement,
`interleaving_reindexes`, takes a history and, for each context, a list of operations addressed to
it: however the lists are interleaved, each context ends as it does after its own list alone. Only
the creation indexes are others, since all contexts draw them from one counter, and even they stand
in the same order (`Context.Reindexes`).

The proof follows the interleaving and, for one context, its own list beside it. An operation of
another context leaves the context alone. An operation of its own does the same to both registries,
and if it draws an index, that is above all indexes in use on either side (`uses_lt_nextIndex`). So
the renumbering between the two registries is extended by one index and stays in order.
-/

set_option autoImplicit false

namespace HandleLedger

universe u v

/-! ## Interleavings -/

/-- The list comes about by taking, again and again, the head of any one of the lists. -/
inductive Interleaves {ι : Type u} {α : Type v} [DecidableEq ι] : (ι → List α) → List α → Prop
  | nil : Interleaves (fun _ => []) []
  | cons {xss : ι → List α} {xs : List α} (i : ι) (x : α) (h : Interleaves xss xs) :
    Interleaves (fun j => if j = i then x :: xss j else xss j) (x :: xs)

namespace Interleaves

variable {ι : Type u} {α : Type v} [DecidableEq ι] {xss : ι → List α} {xs : List α}

/-- If each member tells which list it is from, the lists can be read off their interleaving. -/
theorem filter_eq (h : Interleaves xss xs) {home? : α → Option ι}
    (hhome : ∀ i, ∀ x ∈ xss i, home? x = some i) (i : ι) :
    xs.filter (fun x => home? x = some i) = xss i ∧ ∀ x ∈ xs, (home? x).isSome := by
  induction h with
  | nil => exact ⟨rfl, fun x hx => absurd hx List.not_mem_nil⟩
  | @cons xss xs j x h ih =>
    have hx : home? x = some j := hhome j x (by simp)
    have hrest : ∀ k, ∀ y ∈ xss k, home? y = some k := by
      intro k y hy
      apply hhome k y
      show y ∈ if k = j then x :: xss k else xss k
      split
      · exact List.mem_cons_of_mem _ hy
      · exact hy
    obtain ⟨hxs, hsome⟩ := ih hrest
    refine ⟨?_, fun y hy => ?_⟩
    · show _ = if i = j then x :: xss i else xss i
      by_cases hij : i = j
      · rw [if_pos hij, List.filter_cons_of_pos (by simp [hx, hij]), hxs]
      · have hji : ¬j = i := fun heq => hij heq.symm
        rw [if_neg hij, List.filter_cons_of_neg (by simp [hx, hji]), hxs]
    · rcases List.mem_cons.mp hy with rfl | hy
      · rw [hx]
        rfl
      · exact hsome y hy

/-- Every list is an interleaving of the parts that its members tell they are from. -/
theorem of_filter (home? : α → Option ι) (h : ∀ x ∈ xs, (home? x).isSome) :
    Interleaves (fun i => xs.filter fun x => home? x = some i) xs := by
  induction xs with
  | nil => exact .nil
  | cons x xs ih =>
    obtain ⟨i, hx⟩ := Option.isSome_iff_exists.mp (h x (List.mem_cons_self ..))
    have hparts : (fun j => (x :: xs).filter fun y => home? y = some j) =
        fun j => if j = i then x :: xs.filter (fun y => home? y = some j)
          else xs.filter fun y => home? y = some j := by
      funext j
      by_cases hji : j = i
      · rw [if_pos hji, List.filter_cons_of_pos (by simp [hx, hji])]
      · have hij : ¬i = j := fun heq => hji heq.symm
        rw [if_neg hji, List.filter_cons_of_neg (by simp [hx, hij])]
    rw [hparts]
    exact .cons i x (ih fun y hy => h y (List.mem_cons_of_mem _ hy))

end Interleaves

/-! ## The same registry under other indexes -/

/-- The second context is the first, but for the creation indexes of its records and images, and
those stand in the same order. -/
def Context.Reindexes (c c' : Context) : Prop :=
  ∃ f : UInt64 → UInt64,
    (∀ i j, c.registry.Uses i → c.registry.Uses j → i < j → f i < f j) ∧
      c' = c.mapRegistry (Registry.renumber f)

theorem Context.Reindexes.refl (c : Context) : c.Reindexes c := by
  refine ⟨fun index => index, fun i j _ _ hij => hij, ?_⟩
  rw [mapRegistry, Registry.renumber_self]

theorem Registry.Uses.of_within {r r' : Registry} {index : UInt64} (h : r.Uses index)
    (hr : r.Within r') : r'.Uses index := by
  rcases h with ⟨k, o, e, he, hindex⟩ | ⟨o, e, he, hindex⟩
  · exact .inl ⟨k, o, e, hr.records k o e he, hindex⟩
  · exact .inr ⟨o, e, hr.images o e he, hindex⟩

namespace Ledger

/-! ## One operation on both sides -/

namespace Place

variable {f : UInt64 → UInt64}

theorem find?_renumber (p : Place) (r : Registry) :
    p.find? (r.renumber f) = (p.find? r).map (Record.renumber f) := by
  cases p with
  | object id k h => exact r.find?_renumber f k h
  | image device h => exact r.image?_renumber f h

theorem renumber_enter (p : Place) (e : Record) (r : Registry) :
    (p.enter e r).renumber f = p.enter (e.renumber f) (r.renumber f) := by
  cases p with
  | object => exact r.renumber_insert f e
  | image => exact r.renumber_insertImage f e

theorem uses_of_enter {p : Place} {e : Record} {r : Registry} {index : UInt64}
    (h : (p.enter e r).Uses index) : r.Uses index ∨ index = e.index := by
  cases p with
  | object => exact h.of_insert
  | image => exact h.of_insertImage

end Place

namespace Operation

variable {f : UInt64 → UInt64}

theorem renumber_revise (op : Operation) (r : Registry) :
    (op.revise r).renumber f = op.revise (r.renumber f) := by
  cases op with
  | release id k h =>
    rw [revise]
    split
    · rfl
    · exact r.renumber_remove f k h
  | discard id k h => exact r.renumber_remove f k h
  | dropChildren device pool k =>
    show (r.removeAll k _).renumber f = (r.renumber f).removeAll k _
    rw [Registry.renumber_removeAll, r.childrenOf_renumber]
  | dropImages device swapchain => exact r.renumber_removeImages f swapchain
  | dropKind id k =>
    show (r.removeAll k _).renumber f = (r.renumber f).removeAll k _
    rw [Registry.renumber_removeAll, r.handlesOf_renumber]
  | dropOwned id => exact Registry.renumber_dropKinds f id.scope.ownedKinds r
  | dropQueues device =>
    exact congrArg Registry.clearQueueFamilies (Registry.renumber_dropKinds f [.queue] r)
  | _ => rfl

/-- An operation does the same under other indexes, if it is given the other index. -/
theorem renumber_rewrite (op : Operation) (index : UInt64) (r : Registry) :
    (op.rewrite index r).renumber f = op.rewrite (f index) (r.renumber f) := by
  cases hentry : op.entry? with
  | some n =>
    rw [rewrite_of_eq_some hentry, rewrite_of_eq_some hentry]
    exact n.place.renumber_enter (n.record index) r
  | none =>
    rw [rewrite_of_eq_none hentry, rewrite_of_eq_none hentry]
    exact op.renumber_revise r

/-- No index comes into use but the next one. -/
theorem uses_of_rewrite {op : Operation} {index i : UInt64} {r : Registry}
    (h : (op.rewrite index r).Uses i) : r.Uses i ∨ i = index := by
  cases hentry : op.entry? with
  | some n =>
    rw [rewrite_of_eq_some hentry] at h
    exact Place.uses_of_enter h
  | none =>
    rw [rewrite_of_eq_none hentry] at h
    exact .inl (h.of_within (op.within_revise r))

end Operation

/-- An operation keeps the contexts alike if the next index of either side is not in use there. -/
theorem reindexes_rewrite {c c' : Context} (h : c.Reindexes c') (op : Operation)
    {index index' : UInt64} (hindex : ∀ i, c.registry.Uses i → i < index)
    (hindex' : ∀ i, c'.registry.Uses i → i < index') :
    (c.mapRegistry (op.rewrite index)).Reindexes (c'.mapRegistry (op.rewrite index')) := by
  obtain ⟨f, hf, rfl⟩ := h
  -- the new index goes to the new index, and those in use are all below it
  obtain ⟨g, hg, hnew⟩ : ∃ g : UInt64 → UInt64,
      (∀ i, c.registry.Uses i → f i = g i) ∧ g index = index' := by
    refine ⟨fun i => if i = index then index' else f i, fun i hi => ?_, if_pos rfl⟩
    exact (if_neg (UInt64.ne_of_lt (hindex i hi))).symm
  refine ⟨g, ?order, ?registry⟩
  case order =>
    intro i j hi hj hij
    rcases Operation.uses_of_rewrite hi with hiold | hinew
    · rw [← hg i hiold]
      rcases Operation.uses_of_rewrite hj with hjold | hjnew
      · rw [← hg j hjold]
        exact hf i j hiold hjold hij
      · rw [hjnew, hnew]
        exact hindex' (f i) hiold.renumber
    · -- nothing in use is above the new index
      rw [hinew] at hij
      rcases Operation.uses_of_rewrite hj with hjold | hjnew
      · exact absurd (hindex j hjold) (UInt64.lt_asymm hij)
      · exact absurd (hjnew ▸ hij) (UInt64.lt_irrefl index)
  case registry =>
    have hregistry : op.rewrite index' (c.registry.renumber f) =
        (op.rewrite index c.registry).renumber g := by
      rw [op.renumber_rewrite, hnew, Registry.renumber_congr hg]
    simp only [Context.mapRegistry, hregistry]

/-! ## Indexes in use -/

/-- Only devices have images of swapchains. -/
theorem lasting_imageless :
    Lasting fun id c => id.scope = .instanceLevel → ∀ h, c.registry.image? h = none where
  newInstance _ _ _ _ _ := rfl
  newDevice _ _ _ _ hscope := by cases hscope
  rewrite := by
    intro op id hop index c hc hscope h
    show (op.rewrite index c.registry).image? h = none
    cases hentry : op.entry? with
    | none =>
      rw [Operation.rewrite_of_eq_none hentry, Option.eq_none_iff_forall_ne_some]
      intro e he
      cases (hc hscope h).symm.trans ((op.within_revise c.registry).images h e he)
    | some n =>
      rw [Operation.rewrite_of_eq_some hentry]
      rw [Operation.home?_of_eq_some hentry, Option.some.injEq] at hop
      obtain ⟨p, status, parent⟩ := n
      cases p with
      | object id' k o =>
        show (c.registry.insert _).image? h = none
        rw [Registry.image?, Registry.images_insert]
        exact hc hscope h
      | image device o =>
        subst hop
        cases hscope

/-- The number of records that a history adds to the books. -/
def additions (ops : List Operation) : Nat := Nat.count (Adds ops) ops.length

section Additions

variable {ops : List Operation} {op : Operation} {n : Nat}

/-- Every index in use is below the next one. -/
theorem uses_lt_nextIndex (hfew : additions ops < UInt64.size) {id : ContextId} {c : Context}
    (hc : (after ops).context? id = some c) {index : UInt64} (h : c.registry.Uses index) :
    index < (after ops).nextIndex := by
  have hlt := fun p e => index_lt_nextIndex (p := p) (e := e) hfew (Nat.le_refl _)
  rw [List.take_length] at hlt
  rcases h with ⟨k, o, e, he, rfl⟩ | ⟨o, e, he, rfl⟩
  · refine hlt (.object id k o) e ?_
    exact (congrArg (Option.bind · _) hc).trans he
  · obtain ⟨scope, key⟩ := id
    cases scope with
    | instanceLevel => cases (lasting_imageless.after ops _ c hc rfl o).symm.trans he
    | deviceLevel =>
      refine hlt (.image key o) e ?_
      exact (congrArg (Option.bind · _) hc).trans he

theorem arrivalAt?_append (xs : List Operation) (hn : n < ops.length) :
    arrivalAt? (ops ++ xs) n = arrivalAt? ops n := by
  rw [arrivalAt?, arrivalAt?, List.getElem?_append_left hn, List.take_append_of_le_length hn.le]

theorem count_adds_append (xs : List Operation) (hn : n ≤ ops.length) :
    Nat.count (Adds (ops ++ xs)) n = Nat.count (Adds ops) n := by
  induction n with
  | zero => rfl
  | succ n ih =>
    have hadds : Adds (ops ++ xs) n ↔ Adds ops n := by
      rw [adds_iff, adds_iff, arrivalAt?_append xs hn]
    rw [Nat.count_succ, Nat.count_succ, ih (Nat.le_of_succ_le hn)]
    simp only [hadds]

theorem additions_append_singleton (ops : List Operation) (op : Operation) :
    additions (ops ++ [op]) =
      additions ops + if (op.arrival? (after ops)).isSome then 1 else 0 := by
  have hadds : Adds (ops ++ [op]) ops.length ↔ (op.arrival? (after ops)).isSome := by
    rw [adds_iff, arrivalAt?, List.getElem?_concat_length, List.take_left]
    rfl
  rw [additions, List.length_append, List.length_singleton, Nat.count_succ,
    count_adds_append [op] (Nat.le_refl _)]
  simp only [hadds, additions]

theorem additions_append_le (ops xs : List Operation) : additions ops ≤ additions (ops ++ xs) := by
  rw [additions, additions, ← count_adds_append xs (Nat.le_refl _), List.length_append]
  exact Nat.count_monotone _ (Nat.le_add_right _ _)

end Additions

/-! ## Histories side by side -/

/-- A context is known to both ledgers or to neither, and it is the same but for creation
indexes. -/
def Alike (id : ContextId) (l l' : Ledger) : Prop :=
  Option.Rel Context.Reindexes (l.context? id) (l'.context? id)

namespace Alike

variable {l l' : Ledger} {id : ContextId}

theorem refl (id : ContextId) (l : Ledger) : Alike id l l := by
  rw [Alike]
  cases l.context? id with
  | none => exact .none
  | some c => exact .some (.refl c)

theorem cases (h : Alike id l l') :
    (l.context? id = none ∧ l'.context? id = none) ∨
      ∃ c c', l.context? id = some c ∧ l'.context? id = some c' ∧ c.Reindexes c' := by
  rw [Alike] at h
  revert h
  cases l.context? id <;> cases l'.context? id <;> intro h <;> cases h
  · exact .inl ⟨rfl, rfl⟩
  · exact .inr ⟨_, _, rfl, rfl, by assumption⟩

theorem of_eq_none (hc : l.context? id = none) (hc' : l'.context? id = none) : Alike id l l' := by
  rw [Alike, hc, hc']
  exact .none

theorem of_eq_some {c c' : Context} (hc : l.context? id = some c) (hc' : l'.context? id = some c')
    (h : c.Reindexes c') : Alike id l l' := by
  rw [Alike, hc, hc']
  exact .some h

/-- An operation finds its place free on both sides or on neither. -/
theorem arrival?_eq (h : Alike id l l') {op : Operation} (hop : op.home? = some id) :
    op.arrival? l' = op.arrival? l := by
  cases hentry : op.entry? with
  | none =>
    rw [Operation.arrival?, Operation.arrival?, hentry]
    rfl
  | some n =>
    have hid : n.place.context = id :=
      Option.some.inj ((Operation.home?_of_eq_some hentry).symm.trans hop)
    have hsame : ((l'.context? id).isSome && (l'.recordAt? n.place).isNone) =
        ((l.context? id).isSome && (l.recordAt? n.place).isNone) := by
      rw [recordAt?, recordAt?, hid]
      rcases h.cases with ⟨hc, hc'⟩ | ⟨c, c', hc, hc', f, -, rfl⟩
      · rw [hc, hc']
      · rw [hc, hc']
        show (true && (n.place.find? (c.registry.renumber f)).isNone) = _
        rw [Place.find?_renumber, Option.isNone_map]
        rfl
    rw [Operation.arrival?, Operation.arrival?, hentry, Option.filter_some, Option.filter_some,
      hid, hsame]

/-- An operation of the context keeps it alike. -/
theorem run {own ops : List Operation} (h : Alike id (after own) (after ops)) {op : Operation}
    (hop : op.home? = some id) (hown : additions own < UInt64.size)
    (hfew : additions ops < UInt64.size) : Alike id (after (own ++ [op])) (after (ops ++ [op])) := by
  rw [after_append_singleton, after_append_singleton]
  have hu := (updates_run hop (after own)).context?_self
  have hu' := (updates_run hop (after ops)).context?_self
  rcases h.cases with ⟨hc, hc'⟩ | ⟨c, c', hc, hc', hcc⟩
  · rw [hc] at hu
    rw [hc'] at hu'
    exact .of_eq_none hu hu'
  · rw [hc] at hu
    rw [hc'] at hu'
    refine .of_eq_some hu hu' (reindexes_rewrite hcc op ?_ ?_)
    · exact fun index => uses_lt_nextIndex hown hc
    · exact fun index => uses_lt_nextIndex hfew hc'

end Alike

variable {ops : List Operation}

/-- Operations of other contexts leave a context alone. -/
theorem context?_after_of_forall_ne (before : List Operation) {id : ContextId}
    (h : ∀ op ∈ ops, ∃ id', op.home? = some id' ∧ id' ≠ id) :
    (after (before ++ ops)).context? id = (after before).context? id := by
  induction ops using List.reverseRecOn with
  | nil => rw [List.append_nil]
  | append_singleton ops op ih =>
    obtain ⟨id', hop, hne⟩ := h op (List.mem_append_right _ (List.mem_singleton_self op))
    rw [← List.append_assoc, after_append_singleton, (updates_run hop _).context?_of_ne hne]
    exact ih fun op' hop' => h op' (List.mem_append_left _ hop')

/-- A context is alike after the history and after those of its operations that are addressed to
it. These add no more records than all of them. -/
theorem alike_after (before : List Operation) (id : ContextId) (hhome : ∀ op ∈ ops, op.home?.isSome)
    (hfew : additions (before ++ ops) < UInt64.size) :
    Alike id (after (before ++ ops.filter fun op => op.home? = some id))
        (after (before ++ ops)) ∧
      additions (before ++ ops.filter fun op => op.home? = some id) ≤ additions (before ++ ops) := by
  induction ops using List.reverseRecOn with
  | nil => exact ⟨.refl id _, Nat.le_refl _⟩
  | append_singleton ops op ih =>
    rw [← List.append_assoc] at hfew ⊢
    have hfew' : additions (before ++ ops) < UInt64.size :=
      Nat.lt_of_le_of_lt (additions_append_le _ [op]) hfew
    obtain ⟨halike, hle⟩ := ih (fun op' hop' => hhome op' (List.mem_append_left _ hop')) hfew'
    rw [List.filter_append]
    by_cases hop : op.home? = some id
    · rw [List.filter_cons_of_pos (by simp [hop]), List.filter_nil, ← List.append_assoc]
      refine ⟨halike.run hop (Nat.lt_of_le_of_lt hle hfew') hfew', ?_⟩
      rw [additions_append_singleton, additions_append_singleton, halike.arrival?_eq hop]
      exact Nat.add_le_add_right hle _
    · rw [List.filter_cons_of_neg (by simp [hop]), List.filter_nil, List.append_nil]
      refine ⟨?_, Nat.le_trans hle (additions_append_le _ [op])⟩
      obtain ⟨id', hid⟩ := Option.isSome_iff_exists.mp
        (hhome op (List.mem_append_right _ (List.mem_singleton_self op)))
      have hne : id' ≠ id := fun heq => hop (heq ▸ hid)
      rw [Alike, after_append_singleton, (updates_run hid _).context?_of_ne hne]
      exact halike

/-- Take any history and, for each context, a list of operations that are addressed to it, with
fewer than `2 ^ 64` records added in all. However the lists are interleaved, each context ends as it
does after its own list alone, with the same records, images, counters and queues, but for creation
indexes, which stand in the same order. A context that nothing is addressed to stays as it is. -/
theorem interleaving_reindexes (before : List Operation) {lists : ContextId → List Operation}
    (hhome : ∀ id, ∀ op ∈ lists id, op.home? = some id) {ops : List Operation}
    (hops : Interleaves lists ops) (hfew : additions (before ++ ops) < UInt64.size)
    (id : ContextId) :
    Option.Rel Context.Reindexes ((after (before ++ lists id)).context? id)
        ((after (before ++ ops)).context? id) ∧
      (lists id = [] → (after (before ++ ops)).context? id = (after before).context? id) := by
  obtain ⟨hfilter, hsome⟩ := hops.filter_eq hhome id
  constructor
  · rw [← hfilter]
    exact (alike_after before id hsome hfew).1
  · intro hnil
    refine context?_after_of_forall_ne before fun op hop => ?_
    obtain ⟨id', hid⟩ := Option.isSome_iff_exists.mp (hsome op hop)
    refine ⟨id', hid, fun heq => ?_⟩
    have hmem : op ∈ ops.filter fun op => op.home? = some id :=
      List.mem_filter.mpr ⟨hop, decide_eq_true (heq ▸ hid)⟩
    rw [hfilter, hnil] at hmem
    cases hmem

/-- Two devices of one instance. -/
def twoDevices : List Operation :=
  [.openInstance 1 10 ⟨none, .memory⟩, .openDevice 1 2 20, .openDevice 1 3 30]

/-- A buffer and an image of the one device, and between them two buffers of the other. -/
def interleaved : List Operation :=
  [.registerObject (.ofDevice 2) .buffer 5 false,
    .registerObject (.ofDevice 3) .buffer 5 false,
    .registerObject (.ofDevice 3) .buffer 6 false,
    .release (.ofDevice 3) .buffer 5,
    .registerImage 2 7 6]

/-- The image gets index one if its device is alone and index three if it is not, and in both cases
that is the greater one of the two. -/
theorem image_reindexed :
    (after (twoDevices ++ interleaved.filter fun op => op.home? = some (.ofDevice 2))).recordAt?
        (.image 2 7) = some ⟨.image, 7, .none, 6, 1⟩ ∧
      (after (twoDevices ++ interleaved)).recordAt? (.image 2 7) =
        some ⟨.image, 7, .none, 6, 3⟩ ∧
      ∃ c c', (after (twoDevices ++ interleaved.filter fun op =>
          op.home? = some (.ofDevice 2))).context? (.ofDevice 2) = some c ∧
        (after (twoDevices ++ interleaved)).context? (.ofDevice 2) = some c' ∧
        c.Reindexes c' := by
  have hfew : additions (twoDevices ++ interleaved) < UInt64.size :=
    Nat.lt_of_le_of_lt (Nat.count_le _)
      (show (twoDevices ++ interleaved).length < UInt64.size by decide)
  have hhome : ∀ id, ∀ op ∈ interleaved.filter (fun op => op.home? = some id),
      op.home? = some id :=
    fun id op hop => of_decide_eq_true (List.mem_filter.mp hop).2
  have hops := Interleaves.of_filter Operation.home? (show ∀ op ∈ interleaved, op.home?.isSome by decide)
  have halike := (interleaving_reindexes twoDevices hhome hops hfew (.ofDevice 2)).1
  refine ⟨by decide +kernel, by decide +kernel, ?_⟩
  rcases Alike.cases halike with ⟨hnone, -⟩ | hsome
  · have hknown : ((after (twoDevices ++ interleaved.filter fun op =>
        op.home? = some (.ofDevice 2))).context? (.ofDevice 2)).isSome := by decide +kernel
    rw [hnone] at hknown
    cases hknown
  · exact hsome

end Ledger

end HandleLedger
