import HandleLedger.Proofs.Ledger.Effect
import Mathlib.Data.List.Induction

/-!
# The books as a replay of the history

The main statement, `after_replays`, reads the record of an object off the history of operations
that led to the books: there is a record exactly if some step registered the object and no later
step removed it, and the record is the one made by the first registration since the last removal.

One step either removes the object (`record?_run_of_removes`) or lets its record stand and enters
it if there is none (`record?_run_of_not_removes`). Only the removal of the children of a pool
depends on more than the operation: it looks at the pool in the record.
-/

set_option autoImplicit false

namespace HandleLedger.Ledger

/-- The record of an object of a context. -/
def record? (l : Ledger) (id : ContextId) (k : Kind) (h : Handle) : Option Record :=
  (l.context? id).bind (·.registry.find? k h)

/-! ## Looking a record up after a change -/

section LookUp

variable {l l' : Ledger} {id : ContextId} {f : Registry → Registry}

theorem record?_of_eq_some {c : Context} (hc : l.context? id = some c) (k : Kind) (h : Handle) :
    l.record? id k h = c.registry.find? k h := by
  rw [record?, hc]
  rfl

theorem record?_of_eq_none (hc : l.context? id = none) (k : Kind) (h : Handle) :
    l.record? id k h = none := by
  rw [record?, hc]
  rfl

theorem record?_congr (h : l'.context? id = l.context? id) (k : Kind) (o : Handle) :
    l'.record? id k o = l.record? id k o := by
  rw [record?, record?, h]

theorem Updates.record?_self (hu : Updates id f l l') (k : Kind) (h : Handle) :
    l'.record? id k h = (l.context? id).bind fun c => (f c.registry).find? k h := by
  rw [record?, hu.context?_self]
  cases l.context? id <;> rfl

theorem Updates.record?_of_ne (hu : Updates id f l l') {id' : ContextId} (hne : id ≠ id')
    (k : Kind) (h : Handle) : l'.record? id' k h = l.record? id' k h :=
  record?_congr (hu.context?_of_ne hne) k h

/-- A change that leaves the slot alone leaves the record alone. -/
theorem Updates.record?_eq (hu : Updates id f l l') {id' : ContextId} {k : Kind} {h : Handle}
    (hf : id = id' → ∀ c, l.context? id' = some c →
      (f c.registry).find? k h = c.registry.find? k h) :
    l'.record? id' k h = l.record? id' k h := by
  by_cases hid : id = id'
  · subst hid
    rw [hu.record?_self]
    cases hc : l.context? id with
    | none => exact (record?_of_eq_none hc k h).symm
    | some c =>
      rw [record?_of_eq_some hc]
      exact hf rfl c hc
  · exact hu.record?_of_ne hid k h

/-- A change that empties the slot leaves no record. -/
theorem Updates.record?_eq_none (hu : Updates id f l l') {k : Kind} {h : Handle}
    (hf : ∀ c, l.context? id = some c → (f c.registry).find? k h = none) :
    l'.record? id k h = none := by
  rw [hu.record?_self]
  cases hc : l.context? id with
  | none => rfl
  | some c => exact hf c hc

end LookUp

/-! ## What a single operation does to an object -/

/-- An object that an operation asks to have entered. -/
structure Registration where
  id : ContextId
  kind : Kind
  handle : Handle
  status : Status
  parent : Handle

namespace Operation

/-- What an operation registers, if anything. -/
def registration? : Operation → Option Registration
  | .registerObject id k h custom => some ⟨id, k, h, .ofAllocator custom, nullHandle⟩
  | .registerCommandBuffer device pool buffer level =>
    some ⟨.ofDevice device, .commandBuffer, buffer, .ofLevel level, pool⟩
  | .registerDescriptorSet device pool set =>
    some ⟨.ofDevice device, .descriptorSet, set, .none, pool⟩
  | .registerQueue device queue => some ⟨.ofDevice device, .queue, queue, .none, nullHandle⟩
  | _ => none

/-- The status and the parent with which an operation registers the object. -/
def Registers (op : Operation) (id : ContextId) (k : Kind) (h : Handle) (status : Status)
    (parent : Handle) : Prop :=
  op.registration? = some ⟨id, k, h, status, parent⟩

/-- Whether an operation on the books takes the object out of them. -/
def Removes (l : Ledger) (id : ContextId) (k : Kind) (h : Handle) : Operation → Prop
  | .release id' k' h' => id' = id ∧ k' = k ∧ h' = h ∧ h ≠ nullHandle
  | .discard id' k' h' => id' = id ∧ k' = k ∧ h' = h
  | .dropChildren device pool k' =>
    .ofDevice device = id ∧ k' = k ∧ ∃ e, l.record? id k h = some e ∧ e.parent = pool
  | .dropKind id' k' => id' = id ∧ k' = k
  | .dropOwned id' => id' = id ∧ k ∈ id.scope.ownedKinds
  | .dropQueues device => .ofDevice device = id ∧ k = .queue
  | .closeDevice key => .ofDevice key = id
  | .closeInstance key =>
    .ofInstance key = id ∨ ∃ device, .ofDevice device = id ∧ l.instanceOf device = some key
  | .openInstance key _ _ => .ofInstance key = id
  | .openDevice instanceKey key _ =>
    .ofDevice key = id ∧ (l.context? (.ofInstance instanceKey)).isSome
  | _ => False

end Operation

section Step

variable {l : Ledger} {id : ContextId} {k : Kind} {h : Handle}

/-- An object is entered only if its context is known and has no record of it. -/
theorem record?_register (id' : ContextId) (k' : Kind) (h' : Handle) (status : Status)
    (parent : Handle) (e : Record) :
    (register id' k' h' status parent l).ledger.record? id k h = some e ↔
      l.record? id k h = some e ∨
        l.record? id k h = none ∧ (l.context? id).isSome ∧
          (id' = id ∧ k' = k ∧ h' = h) ∧ l.newRecord k h status parent = e := by
  have hu := updates_register id' k' h' status parent l
  by_cases hid : id' = id
  · subst hid
    rw [hu.record?_self]
    cases hc : l.context? id' with
    | none => simp [record?_of_eq_none hc]
    | some c =>
      rw [record?_of_eq_some hc]
      show (c.registry.insert _).find? k h = some e ↔ _
      rw [Registry.find?_insert, Option.or_eq_some_iff]
      -- only an empty slot takes the new record, so what is left to compare is the key
      refine or_congr_right (and_congr_right fun _ => ?_)
      show (if k' = k ∧ h' = h then some _ else none) = some e ↔ _
      by_cases ho : k' = k ∧ h' = h
      · obtain ⟨rfl, rfl⟩ := ho
        simp
      · simp [ho]
  · rw [hu.record?_of_ne hid]
    simp [hid]

theorem ledger_run_of_registration? {op : Operation} {r : Registration}
    (hr : op.registration? = some r) (l : Ledger) :
    (op.run l).ledger = (register r.id r.kind r.handle r.status r.parent l).ledger := by
  cases op <;> cases hr <;> rfl

theorem not_removes_of_registration? {op : Operation} {r : Registration}
    (hr : op.registration? = some r) : ¬op.Removes l id k h := by
  cases op <;> first | exact fun hrem => hrem | cases hr

/-- Closing an instance matters to it and to its devices. -/
theorem record?_closeInstance (hl : l.Filed) {key : DispatchKey}
    (hop : ¬(Operation.closeInstance key).Removes l id k h) :
    (closeInstance key l).ledger.record? id k h = l.record? id k h := by
  obtain ⟨hid, hdev⟩ := not_or.mp hop
  refine record?_congr (Option.ext fun c => ?_) k h
  rw [hl.context?_closeInstance]
  refine ⟨fun hc => hc.1, fun hc => ⟨hc, fun e => hid e.symm, ?_⟩⟩
  -- a context that goes along with its instance is one of its devices, and that is a removal
  rintro ⟨hs, hp⟩
  have hsc : id.scope = .deviceLevel := (hl.scope_eq hc).symm.trans hs
  have hdevice : ContextId.ofDevice id.key = id := by
    rw [ContextId.ofDevice, ← hsc]
  refine hdev ⟨id.key, hdevice, ?_⟩
  rw [instanceOf_of_eq_some (hdevice.symm ▸ hc)]
  exact hp

/-- An operation that neither registers nor removes lets every record stand. -/
theorem record?_run_of_registration?_eq_none (hl : l.Filed) {op : Operation}
    (hr : op.registration? = none) (hop : ¬op.Removes l id k h) :
    (op.run l).ledger.record? id k h = l.record? id k h := by
  -- operations on contexts replace or drop a whole registry, the others change one registry
  cases op with
  | openInstance key handle sink =>
    refine record?_congr ?_ k h
    exact (context?_openInstance key handle sink l id).trans (if_neg hop)
  | openDevice instanceKey key handle =>
    -- a device of an unknown instance is not opened at all
    cases hc : l.context? (.ofInstance instanceKey) with
    | none =>
      rw [Operation.run, Action.ledger_map, (openDevice_of_eq_none hc key handle).2]
    | some parent =>
      have hkey : ContextId.ofDevice key ≠ id := by
        intro hid
        exact hop ⟨hid, by rw [hc]; rfl⟩
      refine record?_congr ?_ k h
      exact ((openDevice_of_eq_some hc key handle).2 id).trans (if_neg hkey)
  | closeDevice key =>
    refine record?_congr ?_ k h
    exact (context?_closeContext (.ofDevice key) l id).trans (if_neg hop)
  | closeInstance key => exact record?_closeInstance hl hop
  | registerObject => cases hr
  | registerCommandBuffer => cases hr
  | registerDescriptorSet => cases hr
  | registerQueue => cases hr
  | registerImage device image swapchain =>
    refine (updates_registerImage device image swapchain l).record?_eq fun _ c _ => ?_
    exact Registry.find?_insertImage ..
  | noteQueueFamily device family queue =>
    exact (updates_onRegistry _ _ l).record?_eq fun _ c _ => rfl
  | noteFamilyFlags device flags =>
    exact (updates_onRegistry _ _ l).record?_eq fun _ c _ => rfl
  | checkArgument => rfl
  | checkDevice => rfl
  | checkDestroy => rfl
  | checkCommandBuffer => rfl
  | checkDescriptorSet => rfl
  | checkSparse => rfl
  | release id' k' h' =>
    -- releasing the null handle touches nothing
    by_cases hh : h' = nullHandle
    · subst hh
      rfl
    · refine (updates_release id' k' hh l).record?_eq fun hid c _ => ?_
      rw [Registry.find?_remove]
      refine if_neg ?_
      rintro ⟨rfl, rfl⟩
      exact hop ⟨hid, rfl, rfl, hh⟩
  | discard id' k' h' =>
    refine (updates_discard id' k' h' l).record?_eq fun hid c _ => ?_
    rw [Registry.find?_remove]
    refine if_neg ?_
    rintro ⟨rfl, rfl⟩
    exact hop ⟨hid, rfl, rfl⟩
  | dropChildren device pool k' =>
    refine (updates_dropChildren device pool k' l).record?_eq fun hid c hc => ?_
    rw [(hl.registry hc).find?_dropChildren]
    split
    · rename_i hk
      cases he : c.registry.find? k h with
      | none => rfl
      | some e =>
        apply Option.filter_some_pos
        rw [bne_iff_ne]
        intro hp
        -- a child of the pool would be removed by this very operation
        exact hop ⟨hid, hk, e, (record?_of_eq_some hc k h).trans he, hp⟩
    · rfl
  | dropImages device swapchain =>
    exact (updates_dropImages device swapchain l).record?_eq fun _ c _ => rfl
  | dropKind id' k' =>
    refine (updates_dropKind id' k' l).record?_eq fun hid c hc => ?_
    rw [(hl.registry hc).find?_dropKind]
    exact if_neg fun hk => hop ⟨hid, hk⟩
  | dropOwned id' =>
    refine (updates_dropOwned id' l).record?_eq fun hid c hc => ?_
    rw [Registry.Filed.find?_dropKinds k h _ (hl.registry hc)]
    exact if_neg fun hk => hop ⟨hid, hid ▸ hk⟩
  | dropQueues device =>
    refine (updates_dropQueues device l).record?_eq fun hid c hc => ?_
    refine (Registry.Filed.find?_dropKinds k h [.queue] (hl.registry hc)).trans (if_neg ?_)
    rw [List.mem_singleton]
    exact fun hk => hop ⟨hid, hk⟩
  | reportKind => rfl
  | reportOwned => rfl
  | reportDevices => rfl

/-- An operation that does not remove an object keeps its record, or enters the first one. -/
theorem record?_run_of_not_removes (hl : l.Filed) {op : Operation} (hop : ¬op.Removes l id k h)
    (e : Record) :
    (op.run l).ledger.record? id k h = some e ↔
      l.record? id k h = some e ∨
        l.record? id k h = none ∧ (l.context? id).isSome ∧
          ∃ status parent, op.Registers id k h status parent ∧
            l.newRecord k h status parent = e := by
  cases hr : op.registration? with
  | none =>
    rw [record?_run_of_registration?_eq_none hl hr hop]
    simp [Operation.Registers, hr]
  | some r =>
    obtain ⟨id', k', h', status, parent⟩ := r
    rw [ledger_run_of_registration? hr, record?_register]
    refine or_congr_right (and_congr_right fun _ => and_congr_right fun _ => ?_)
    simp only [Operation.Registers, hr, Option.some.injEq, Registration.mk.injEq]
    constructor
    · rintro ⟨⟨rfl, rfl, rfl⟩, he⟩
      exact ⟨status, parent, ⟨rfl, rfl, rfl, rfl, rfl⟩, he⟩
    · rintro ⟨s, p, ⟨rfl, rfl, rfl, rfl, rfl⟩, he⟩
      exact ⟨⟨rfl, rfl, rfl⟩, he⟩

/-- An operation that removes an object leaves no record of it. -/
theorem record?_run_of_removes (hl : l.Filed) {op : Operation} (hop : op.Removes l id k h) :
    (op.run l).ledger.record? id k h = none := by
  cases op with
  | openInstance key handle sink =>
    have hc := (context?_openInstance key handle sink l id).trans (if_pos hop)
    exact record?_of_eq_some hc k h
  | openDevice instanceKey key handle =>
    obtain ⟨hid, hsome⟩ := hop
    obtain ⟨parent, hparent⟩ := Option.isSome_iff_exists.mp hsome
    have hc := ((openDevice_of_eq_some hparent key handle).2 id).trans (if_pos hid)
    exact record?_of_eq_some hc k h
  | closeDevice key =>
    apply record?_of_eq_none
    exact (context?_closeContext (.ofDevice key) l id).trans (if_pos hop)
  | closeInstance key =>
    -- a context that survives the close is neither the instance nor one of its devices
    apply record?_of_eq_none
    show (closeInstance key l).ledger.context? id = none
    cases hc : (closeInstance key l).ledger.context? id with
    | none => rfl
    | some c =>
      obtain ⟨hc, hne, hstay⟩ := (hl.context?_closeInstance key id c).mp hc
      rcases hop with hid | ⟨device, rfl, hparent⟩
      · exact absurd hid.symm hne
      · rw [instanceOf_of_eq_some hc] at hparent
        exact absurd ⟨hl.scope_eq hc, hparent⟩ hstay
  | release id' k' h' =>
    obtain ⟨rfl, rfl, rfl, hh⟩ := hop
    refine (updates_release id' k' hh l).record?_eq_none fun c _ => ?_
    exact (Registry.find?_remove ..).trans (if_pos ⟨rfl, rfl⟩)
  | discard id' k' h' =>
    obtain ⟨rfl, rfl, rfl⟩ := hop
    refine (updates_discard id' k' h' l).record?_eq_none fun c _ => ?_
    exact (Registry.find?_remove ..).trans (if_pos ⟨rfl, rfl⟩)
  | dropChildren device pool k' =>
    obtain ⟨rfl, rfl, e, he, hp⟩ := hop
    refine (updates_dropChildren device pool k' l).record?_eq_none fun c hc => ?_
    rw [record?_of_eq_some hc] at he
    rw [(hl.registry hc).find?_dropChildren, if_pos rfl, he]
    exact Option.filter_some_neg (bne_eq_false_iff_eq.mpr hp)
  | dropKind id' k' =>
    obtain ⟨rfl, rfl⟩ := hop
    refine (updates_dropKind id' k' l).record?_eq_none fun c hc => ?_
    exact ((hl.registry hc).find?_dropKind ..).trans (if_pos rfl)
  | dropOwned id' =>
    obtain ⟨rfl, hk⟩ := hop
    refine (updates_dropOwned id' l).record?_eq_none fun c hc => ?_
    exact (Registry.Filed.find?_dropKinds k h _ (hl.registry hc)).trans (if_pos hk)
  | dropQueues device =>
    obtain ⟨rfl, rfl⟩ := hop
    refine (updates_dropQueues device l).record?_eq_none fun c hc => ?_
    exact (Registry.Filed.find?_dropKinds .queue h [.queue] (hl.registry hc)).trans
      (if_pos (List.mem_singleton_self _))
  | _ => exact hop.elim

/-- Registering an object that has a record changes nothing. -/
theorem ledger_run_of_tracked {op : Operation} {status : Status} {parent : Handle}
    (hop : op.Registers id k h status parent) {e : Record} (he : l.record? id k h = some e) :
    (op.run l).ledger = l := by
  rw [ledger_run_of_registration? hop]
  obtain ⟨c, hc, hfind⟩ := Option.bind_eq_some_iff.mp he
  exact congrArg Step.ledger
    (register_of_contains hc ((Registry.contains_iff ..).mpr ⟨e, hfind⟩) status parent)

end Step

/-! ## Histories -/

/-- The books after a history that began with nothing. -/
def after (ops : List Operation) : Ledger := (history ops empty).ledger

theorem ledger_history :
    ∀ (ops : List Operation) (l : Ledger),
      (history ops l).ledger = ops.foldl (fun l op => (op.run l).ledger) l
  | [], _ => rfl
  | op :: ops, l => ledger_history ops (op.run l).ledger

theorem after_append_singleton (ops : List Operation) (op : Operation) :
    after (ops ++ [op]) = (op.run (after ops)).ledger := by
  rw [after, after, ledger_history, ledger_history, List.foldl_append]
  rfl

theorem after_take_succ {ops : List Operation} {n : Nat} {op : Operation}
    (hop : ops[n]? = some op) : after (ops.take (n + 1)) = (op.run (after (ops.take n))).ledger := by
  rw [List.take_add_one, hop]
  exact after_append_singleton ..

theorem filed_after (ops : List Operation) : (after ops).Filed := by
  induction ops using List.reverseRecOn with
  | nil => exact every_empty _
  | append_singleton ops op ih =>
    rw [after_append_singleton]
    exact Filed.keeps_run op _ ih

/-- Step `n` of the history registers the object, with this status and parent, while its context is
known. -/
def EntersAt (ops : List Operation) (id : ContextId) (k : Kind) (h : Handle) (n : Nat)
    (status : Status) (parent : Handle) : Prop :=
  ∃ op, ops[n]? = some op ∧ op.Registers id k h status parent ∧
    ((after (ops.take n)).context? id).isSome

/-- Step `n` of the history removes the object. -/
def RemovesAt (ops : List Operation) (id : ContextId) (k : Kind) (h : Handle) (n : Nat) : Prop :=
  ∃ op, ops[n]? = some op ∧ op.Removes (after (ops.take n)) id k h

/-- Step `n` registers the object and no later step removes it. -/
structure Lasts (ops : List Operation) (id : ContextId) (k : Kind) (h : Handle) (n : Nat)
    (status : Status) (parent : Handle) : Prop where
  enters : EntersAt ops id k h n status parent
  stays : ∀ m, n < m → ¬RemovesAt ops id k h m

/-- Step `n` is the first to register the object since the last step that removes it. -/
structure Founds (ops : List Operation) (id : ContextId) (k : Kind) (h : Handle) (n : Nat)
    (status : Status) (parent : Handle) : Prop extends Lasts ops id k h n status parent where
  first : ∀ m s p, m < n → EntersAt ops id k h m s p → ∃ r, m < r ∧ r < n ∧ RemovesAt ops id k h r

section History

variable {ops : List Operation} {id : ContextId} {k : Kind} {h : Handle} {n : Nat}
  {status : Status} {parent : Handle}

/-- A step that registers an object removes none, of whatever kind. -/
theorem EntersAt.not_removesAt (he : EntersAt ops id k h n status parent) {k' : Kind} :
    ¬RemovesAt ops id k' h n := by
  rintro ⟨op, hop, hrem⟩
  obtain ⟨op', hop', hreg, -⟩ := he
  rw [hop, Option.some.injEq] at hop'
  subst hop'
  exact not_removes_of_registration? hreg hrem

/-- Of the registrations that no later step undoes, the first one founds the record. -/
theorem Lasts.exists_founds (hn : Lasts ops id k h n status parent) :
    ∃ m s p, Founds ops id k h m s p := by
  induction n using Nat.strongRecOn generalizing status parent with
  | ind n ih =>
    by_cases hfirst : ∃ m s p, m < n ∧ Lasts ops id k h m s p
    · obtain ⟨m, s, p, hmn, hm⟩ := hfirst
      exact ih m hmn hm
    · refine ⟨n, status, parent, hn, ?_⟩
      intro m s p hmn hm
      -- the earlier registration is undone by some step, but by none from `n` on
      have hundone : ∃ r, m < r ∧ RemovesAt ops id k h r := by
        apply Classical.byContradiction
        intro hnone
        exact hfirst ⟨m, s, p, hmn, hm, fun r hr hrem => hnone ⟨r, hr, hrem⟩⟩
      obtain ⟨r, hmr, hrem⟩ := hundone
      refine ⟨r, hmr, ?_, hrem⟩
      rcases Nat.lt_trichotomy r n with hrn | hrn | hrn
      · exact hrn
      · exact absurd (hrn ▸ hrem) hn.enters.not_removesAt
      · exact absurd hrem (hn.stays r hrn)

theorem exists_founds_iff :
    (∃ n s p, Founds ops id k h n s p) ↔ ∃ n s p, Lasts ops id k h n s p := by
  constructor
  · rintro ⟨n, s, p, hn⟩
    exact ⟨n, s, p, hn.toLasts⟩
  · rintro ⟨n, s, p, hn⟩
    exact hn.exists_founds

/-! ### One step more -/

variable {op : Operation}

theorem entersAt_append_of_lt (hn : n < ops.length) :
    EntersAt (ops ++ [op]) id k h n status parent ↔ EntersAt ops id k h n status parent := by
  rw [EntersAt, EntersAt, List.getElem?_append_left hn, List.take_append_of_le_length (Nat.le_of_lt hn)]

theorem removesAt_append_of_lt (hn : n < ops.length) :
    RemovesAt (ops ++ [op]) id k h n ↔ RemovesAt ops id k h n := by
  rw [RemovesAt, RemovesAt, List.getElem?_append_left hn, List.take_append_of_le_length (Nat.le_of_lt hn)]

theorem entersAt_append_length :
    EntersAt (ops ++ [op]) id k h ops.length status parent ↔
      op.Registers id k h status parent ∧ ((after ops).context? id).isSome := by
  simp [EntersAt]

theorem removesAt_append_length :
    RemovesAt (ops ++ [op]) id k h ops.length ↔ op.Removes (after ops) id k h := by
  simp [RemovesAt]

theorem EntersAt.lt_length (he : EntersAt ops id k h n status parent) : n < ops.length := by
  obtain ⟨op, hop, -⟩ := he
  exact (List.getElem?_eq_some_iff.mp hop).1

theorem RemovesAt.lt_length (hr : RemovesAt ops id k h n) : n < ops.length := by
  obtain ⟨op, hop, -⟩ := hr
  exact (List.getElem?_eq_some_iff.mp hop).1

theorem not_founds_append_of_removes (hop : op.Removes (after ops) id k h) :
    ¬Founds (ops ++ [op]) id k h n status parent := by
  intro hn
  have hrem := removesAt_append_length.mpr hop
  have hlt := hn.enters.lt_length
  rw [List.length_append, List.length_singleton] at hlt
  -- an earlier step is undone by the last one, and the last one does not register at all
  rcases Nat.lt_or_eq_of_le (Nat.le_of_lt_succ hlt) with hlast | hlast
  · exact hn.stays ops.length hlast hrem
  · exact hn.enters.not_removesAt (hlast ▸ hrem)

theorem founds_append_of_lt (hop : ¬op.Removes (after ops) id k h) (hn : n < ops.length) :
    Founds (ops ++ [op]) id k h n status parent ↔ Founds ops id k h n status parent := by
  constructor
  · rintro ⟨⟨henters, hstays⟩, hfirst⟩
    refine ⟨⟨(entersAt_append_of_lt hn).mp henters, ?_⟩, ?_⟩
    · intro m hm hrem
      exact hstays m hm ((removesAt_append_of_lt hrem.lt_length).mpr hrem)
    · intro m s p hm he
      obtain ⟨r, hmr, hrn, hrem⟩ := hfirst m s p hm
        ((entersAt_append_of_lt he.lt_length).mpr he)
      exact ⟨r, hmr, hrn, (removesAt_append_of_lt (Nat.lt_trans hrn hn)).mp hrem⟩
  · rintro ⟨⟨henters, hstays⟩, hfirst⟩
    refine ⟨⟨(entersAt_append_of_lt hn).mpr henters, ?_⟩, ?_⟩
    · intro m hm hrem
      -- a removal after step `n` is an old one or the new last step, which removes nothing here
      have hlt := hrem.lt_length
      rw [List.length_append, List.length_singleton] at hlt
      rcases Nat.lt_or_eq_of_le (Nat.le_of_lt_succ hlt) with hm' | hm'
      · exact hstays m hm ((removesAt_append_of_lt hm').mp hrem)
      · subst hm'
        exact hop (removesAt_append_length.mp hrem)
    · intro m s p hm he
      obtain ⟨r, hmr, hrn, hrem⟩ := hfirst m s p hm
        ((entersAt_append_of_lt (Nat.lt_trans hm hn)).mp he)
      exact ⟨r, hmr, hrn, (removesAt_append_of_lt (Nat.lt_trans hrn hn)).mpr hrem⟩

/-- The last step founds a record if nothing before it does. -/
theorem founds_append_length :
    Founds (ops ++ [op]) id k h ops.length status parent ↔
      (¬∃ m s p, Founds ops id k h m s p) ∧ ((after ops).context? id).isSome ∧
        op.Registers id k h status parent := by
  constructor
  · rintro ⟨⟨henters, -⟩, hfirst⟩
    obtain ⟨hreg, hctx⟩ := entersAt_append_length.mp henters
    refine ⟨?_, hctx, hreg⟩
    rintro ⟨m, s, p, hm⟩
    have hlt := hm.enters.lt_length
    obtain ⟨r, hmr, hr, hrem⟩ := hfirst m s p hlt ((entersAt_append_of_lt hlt).mpr hm.enters)
    exact hm.stays r hmr ((removesAt_append_of_lt hr).mp hrem)
  · rintro ⟨hnone, hctx, hreg⟩
    refine ⟨⟨entersAt_append_length.mpr ⟨hreg, hctx⟩, ?_⟩, ?_⟩
    · intro m hm hrem
      have hlt := hrem.lt_length
      rw [List.length_append, List.length_singleton] at hlt
      exact absurd hlt (Nat.not_lt_of_le hm)
    · intro m s p hm he
      -- an earlier registration that no step undoes would found a record before this one
      rw [exists_founds_iff] at hnone
      apply Classical.byContradiction
      intro hkept
      refine hnone ⟨m, s, p, (entersAt_append_of_lt hm).mp he, fun r hmr hrem => hkept ?_⟩
      exact ⟨r, hmr, hrem.lt_length, (removesAt_append_of_lt hrem.lt_length).mpr hrem⟩

end History

/-- The record of an object is the one that its founding step has made. -/
theorem record?_after (ops : List Operation) (id : ContextId) (k : Kind) (h : Handle)
    (e : Record) :
    (after ops).record? id k h = some e ↔
      ∃ n status parent, Founds ops id k h n status parent ∧
        (after (ops.take n)).newRecord k h status parent = e := by
  -- the induction takes steps off the end, since a removal forgets what came before it
  induction ops using List.reverseRecOn generalizing e with
  | nil =>
    constructor
    · intro he
      cases he
    · rintro ⟨n, s, p, hn, -⟩
      exact absurd hn.enters.lt_length (Nat.not_lt_zero n)
  | append_singleton ops op ih =>
    rw [after_append_singleton]
    by_cases hop : op.Removes (after ops) id k h
    · rw [record?_run_of_removes (filed_after ops) hop]
      constructor
      · intro he
        cases he
      · rintro ⟨n, s, p, hn, -⟩
        exact absurd hn (not_founds_append_of_removes hop)
    · have hnone : (after ops).record? id k h = none ↔ ¬∃ m s p, Founds ops id k h m s p := by
        rw [Option.eq_none_iff_forall_ne_some]
        constructor
        · rintro hno ⟨m, s, p, hm⟩
          exact hno _ ((ih _).mpr ⟨m, s, p, hm, rfl⟩)
        · intro hno e he
          obtain ⟨m, s, p, hm, -⟩ := (ih e).mp he
          exact hno ⟨m, s, p, hm⟩
      -- the record is the old one, founded before, or it is founded by the last step
      rw [record?_run_of_not_removes (filed_after ops) hop, ih, hnone]
      constructor
      · rintro (⟨n, s, p, hn, rfl⟩ | ⟨hno, hctx, s, p, hreg, rfl⟩)
        · have hlt := hn.enters.lt_length
          refine ⟨n, s, p, (founds_append_of_lt hop hlt).mpr hn, ?_⟩
          rw [List.take_append_of_le_length (Nat.le_of_lt hlt)]
        · refine ⟨ops.length, s, p, founds_append_length.mpr ⟨hno, hctx, hreg⟩, ?_⟩
          rw [List.take_left]
      · rintro ⟨n, s, p, hn, rfl⟩
        have hlt := hn.enters.lt_length
        rw [List.length_append, List.length_singleton] at hlt
        rcases Nat.lt_or_eq_of_le (Nat.le_of_lt_succ hlt) with hlast | hlast
        · refine Or.inl ⟨n, s, p, (founds_append_of_lt hop hlast).mp hn, ?_⟩
          rw [List.take_append_of_le_length (Nat.le_of_lt hlast)]
        · subst hlast
          obtain ⟨hno, hctx, hreg⟩ := founds_append_length.mp hn
          refine Or.inr ⟨hno, hctx, s, p, hreg, ?_⟩
          rw [List.take_left]

/-- Registering an object that has a record is of no effect. -/
theorem after_take_succ_of_tracked {ops : List Operation} {id : ContextId} {k : Kind}
    {h : Handle} {n : Nat} {status : Status} {parent : Handle}
    (hn : EntersAt ops id k h n status parent) {e : Record}
    (he : (after (ops.take n)).record? id k h = some e) :
    after (ops.take (n + 1)) = after (ops.take n) := by
  obtain ⟨op, hop, hreg, -⟩ := hn
  rw [after_take_succ hop]
  exact ledger_run_of_tracked hreg he

/-- The books hold a record of an object exactly if some step registered it in a known context and
no later step removed it. The record carries the status, the parent and the creation index of the
first such registration since the last removal; registrations of an object that has a record
change nothing. -/
theorem after_replays (ops : List Operation) (id : ContextId) (k : Kind) (h : Handle) :
    ((∃ e, (after ops).record? id k h = some e) ↔
      ∃ n status parent, EntersAt ops id k h n status parent ∧
        ∀ m, n < m → ¬RemovesAt ops id k h m) ∧
    (∀ e, (after ops).record? id k h = some e ↔
      ∃ n status parent, Founds ops id k h n status parent ∧
        ⟨k, h, status, parent, (after (ops.take n)).nextIndex⟩ = e) ∧
    ∀ n status parent, EntersAt ops id k h n status parent →
      ((after (ops.take n)).record? id k h).isSome →
        after (ops.take (n + 1)) = after (ops.take n) := by
  refine ⟨?_, record?_after ops id k h, ?_⟩
  · constructor
    · rintro ⟨e, he⟩
      obtain ⟨n, s, p, hn, -⟩ := (record?_after ops id k h e).mp he
      exact ⟨n, s, p, hn.enters, hn.stays⟩
    · rintro ⟨n, s, p, henters, hstays⟩
      obtain ⟨m, s', p', hm⟩ := Lasts.exists_founds ⟨henters, hstays⟩
      exact ⟨_, (record?_after ops id k h _).mpr ⟨m, s', p', hm, rfl⟩⟩
  · intro n s p hn hsome
    obtain ⟨e, he⟩ := Option.isSome_iff_exists.mp hsome
    exact after_take_succ_of_tracked hn he

/-- A command buffer that goes with its pool and is allocated again from another one, which has
failed to take it over before. -/
def reallocation : List Operation :=
  [.openInstance 1 10 ⟨none, .memory⟩, .openDevice 1 2 20,
    .registerCommandBuffer 2 5 7 0, .registerCommandBuffer 2 6 7 1,
    .dropChildren 2 5 .commandBuffer, .registerCommandBuffer 2 6 7 1]

/-- The fourth step comes too late to change the record, the fifth one leaves no registration that
lasts, and the sixth one founds the record at the end. -/
theorem buffer_founded_anew :
    after (reallocation.take 4) = after (reallocation.take 3) ∧
      (¬∃ n status parent,
        EntersAt (reallocation.take 5) (.ofDevice 2) .commandBuffer 7 n status parent ∧
          ∀ m, n < m → ¬RemovesAt (reallocation.take 5) (.ofDevice 2) .commandBuffer 7 m) ∧
      Founds reallocation (.ofDevice 2) .commandBuffer 7 5 (.ofLevel 1) 6 := by
  obtain ⟨-, hfounded, hrepeated⟩ := after_replays reallocation (.ofDevice 2) .commandBuffer 7
  refine ⟨?_, ?_, ?_⟩
  · have henters : EntersAt reallocation (.ofDevice 2) .commandBuffer 7 3 (.ofLevel 1) 6 :=
      ⟨_, rfl, rfl, by decide +kernel⟩
    exact hrepeated 3 _ _ henters (by decide +kernel)
  · intro hlasts
    have hnone : (after (reallocation.take 5)).record? (.ofDevice 2) .commandBuffer 7 = none := by
      decide +kernel
    obtain ⟨e, he⟩ :=
      (after_replays (reallocation.take 5) (.ofDevice 2) .commandBuffer 7).1.mpr hlasts
    rw [hnone] at he
    cases he
  · have hrecord : (after reallocation).record? (.ofDevice 2) .commandBuffer 7 =
        some ⟨.commandBuffer, 7, .ofLevel 1, 6, 1⟩ := by
      decide +kernel
    have hpool : ∃ e, (after (reallocation.take 4)).record? (.ofDevice 2) .commandBuffer 7 =
        some e ∧ e.parent = 5 :=
      ⟨⟨.commandBuffer, 7, .ofLevel 0, 5, 0⟩, by decide +kernel, rfl⟩
    have hremoves : RemovesAt reallocation (.ofDevice 2) .commandBuffer 7 4 :=
      ⟨_, rfl, rfl, rfl, hpool⟩
    obtain ⟨n, status, parent, hn, heq⟩ := (hfounded _).mp hrecord
    obtain ⟨-, -, rfl, rfl, -⟩ := (Record.mk.injEq ..).mp heq
    -- the founding step is later than the removal, and only the last step is
    have hlast : n < 6 := hn.enters.lt_length
    have hlate : ¬n < 4 := fun hlt => hn.stays 4 hlt hremoves
    have hne : n ≠ 4 := fun heq => hn.enters.not_removesAt (heq ▸ hremoves)
    obtain rfl : n = 5 := by omega
    exact hn

end HandleLedger.Ledger
