import HandleLedger.Proofs.Registry.LookUp
import HandleLedger.Registry.Operation
import Mathlib.Algebra.BigOperators.Group.List.Basic
import Mathlib.Algebra.GroupWithZero.Nat
import Mathlib.Data.List.Forall2
import Mathlib.Data.List.Nodup

/-!
# Accounts

An `Account` is a registry without counters: the records, no two in one slot, the images, no two
with one handle, the families of the queues and the capabilities of the families. Whatever a
registry reads off its tally an account counts. The two give the same answers to every history of
operations.

A registry reckons an account (`Registry.Reckons`) if its tables file the members of the account's
lists under their own keys and its tally shows what the account counts. Each operation is compared
once, in `Registry.Reckons.step`.
-/

set_option autoImplicit false

namespace HandleLedger

universe u v

/-! ## Tables and lists -/

namespace Table

variable {κ : Type u} {α : Type v} [Ranked κ] {t : Table κ α} {key : α → κ} {es : List α}

/-- Placing an entry under a new key adds it to the others. -/
theorem place_perm (k : κ) (a : α) :
    ∀ {es : List (κ × α)}, look k es = none → (place k a es).Perm ((k, a) :: es)
  | [], _ => .refl _
  | d :: es, h => by
    have hne : rank d.1 ≠ rank k := by
      intro heq
      simp [look, heq] at h
    have hrest : look k es = none := by simpa [look, hne] using h
    simp only [place]
    split
    · exact .refl _
    · rw [if_neg hne.symm]
      exact ((place_perm k a hrest).cons d).trans (.swap ..)

/-- The table files each member of the list under its key, and nothing else. -/
def Files (t : Table κ α) (key : α → κ) (es : List α) : Prop :=
  t.entries.Perm (es.map fun e => (key e, e))

namespace Files

theorem empty (key : α → κ) : (Table.empty : Table κ α).Files key [] := List.Perm.nil

theorem find?_eq_some_iff (hf : t.Files key es) (k : κ) (e : α) :
    t.find? k = some e ↔ e ∈ es ∧ key e = k := by
  rw [← mem_entries_iff, hf.mem_iff, List.mem_map]
  constructor
  · rintro ⟨d, hd, heq⟩
    cases heq
    exact ⟨hd, rfl⟩
  · rintro ⟨he, rfl⟩
    exact ⟨e, he, rfl⟩

/-- A look-up is a search through the list. -/
theorem find? [DecidableEq κ] (hf : t.Files key es) (k : κ) :
    t.find? k = es.find? fun e => key e = k := by
  cases hs : es.find? fun e => key e = k with
  | some e =>
    have hkey : key e = k := by simpa using List.find?_some hs
    exact (hf.find?_eq_some_iff k e).mpr ⟨List.mem_of_find?_eq_some hs, hkey⟩
  | none =>
    refine Option.eq_none_iff_forall_ne_some.mpr fun e he => ?_
    obtain ⟨hmem, hkey⟩ := (hf.find?_eq_some_iff k e).mp he
    exact List.find?_eq_none.mp hs e hmem (decide_eq_true hkey)

theorem contains_iff (hf : t.Files key es) (k : κ) : t.contains k = true ↔ k ∈ es.map key := by
  rw [contains, Option.isSome_iff_exists, List.mem_map]
  exact exists_congr fun e => hf.find?_eq_some_iff k e

theorem contains [DecidableEq κ] (hf : t.Files key es) (k : κ) :
    t.contains k = decide (k ∈ es.map key) :=
  Bool.eq_iff_iff.mpr ((hf.contains_iff k).trans decide_eq_true_iff.symm)

theorem size (hf : t.Files key es) : t.size = es.length :=
  hf.length_eq.trans (List.length_map ..)

theorem values (hf : t.Files key es) : t.values.Perm es := by
  have h := hf.map Prod.snd
  rwa [List.map_map, show Prod.snd ∘ (fun e => (key e, e)) = id from rfl, List.map_id] at h

theorem insert (hf : t.Files key es) {e : α} (h : key e ∉ es.map key) :
    (t.insert (key e) e).Files key (e :: es) := by
  have hnone : look (key e) t.entries = none :=
    Option.eq_none_iff_forall_ne_some.mpr fun d hd =>
      h ((hf.contains_iff _).mp (Option.isSome_iff_exists.mpr ⟨d, hd⟩))
  exact (place_perm (key e) e hnone).trans (hf.cons _)

theorem filter (hf : t.Files key es) (p : α → Bool) :
    (t.filter fun _ e => p e).Files key (es.filter p) := by
  have h := List.Perm.filter (fun d : κ × α => p d.2) hf
  rwa [List.filter_map] at h

theorem erase [DecidableEq κ] (hf : t.Files key es) (k : κ) :
    (t.erase k).Files key (es.filter fun e => key e ≠ k) := by
  have h := List.Perm.filter (fun d : κ × α => rank d.1 != rank k) hf
  rw [List.filter_map] at h
  have hp : ((fun d : κ × α => rank d.1 != rank k) ∘ fun e => (key e, e)) =
      fun e => decide (key e ≠ k) := by
    funext e
    rw [Function.comp_apply, Bool.eq_iff_iff, bne_iff_ne, decide_eq_true_iff]
    exact not_congr Ranked.rank_eq_iff
  rwa [hp] at h

end Files

end Table

/-! ## Accounts -/

/-- The books of one instance or device, without counters. -/
structure Account where
  records : List Record
  images : List Record
  queueFamilies : Handle → Option UInt32
  familyFlags : List UInt32
  slots_nodup : (records.map Record.slot).Nodup
  images_nodup : (images.map Record.handle).Nodup

namespace Account

/-- The account of a context that has just come into being. -/
def empty : Account := ⟨[], [], fun _ => none, [], List.nodup_nil, List.nodup_nil⟩

def find? (a : Account) (k : Kind) (h : Handle) : Option Record :=
  a.records.find? fun e => e.slot = ⟨k, h⟩

def contains (a : Account) (k : Kind) (h : Handle) : Bool := ⟨k, h⟩ ∈ a.records.map Record.slot

def containsImage (a : Account) (h : Handle) : Bool := h ∈ a.images.map Record.handle

/-- The number of records of a kind. -/
def count (a : Account) (k : Kind) : Nat := a.records.countP (·.kind = k)

/-- The number of records. -/
def total (a : Account) : Nat := a.records.length

def recordsOf (a : Account) (k : Kind) : List Record := a.records.filter (·.kind = k)

def insert (a : Account) (e : Record) : Account :=
  if h : e.slot ∈ a.records.map Record.slot then a
  else { a with records := e :: a.records, slots_nodup := List.nodup_cons.mpr ⟨h, a.slots_nodup⟩ }

def remove (a : Account) (k : Kind) (h : Handle) : Account :=
  { a with
    records := a.records.filter fun e => e.slot ≠ ⟨k, h⟩
    slots_nodup := a.slots_nodup.sublist (List.filter_sublist.map _) }

def drain (a : Account) : Account := { empty with familyFlags := a.familyFlags }

def insertImage (a : Account) (e : Record) : Account :=
  if h : e.handle ∈ a.images.map Record.handle then a
  else { a with images := e :: a.images, images_nodup := List.nodup_cons.mpr ⟨h, a.images_nodup⟩ }

def removeImages (a : Account) (swapchain : Handle) : Account :=
  { a with
    images := a.images.filter fun e => e.parent != swapchain
    images_nodup := a.images_nodup.sublist (List.filter_sublist.map _) }

def setQueueFamily (a : Account) (queue : Handle) (family : UInt32) : Account :=
  { a with queueFamilies := fun q => if queue = q then some family else a.queueFamilies q }

open Registry in
/-- The answer of an operation and the account after it. -/
def run (a : Account) : Operation → Answer × Account
  | .insert e => (.flag (!a.contains e.kind e.handle), a.insert e)
  | .remove k h => (.record (a.find? k h), a.remove k h)
  | .drain => (.number a.total, a.drain)
  | .insertImage e => (.flag (!a.containsImage e.handle), a.insertImage e)
  | .removeImages swapchain =>
    (.number (a.images.countP (·.parent = swapchain)), a.removeImages swapchain)
  | .setQueueFamily queue family => (.done, a.setQueueFamily queue family)
  | .clearQueueFamilies => (.done, { a with queueFamilies := fun _ => none })
  | .setFamilyFlags flags => (.done, { a with familyFlags := flags })
  | .find k h => (.record (a.find? k h), a)
  | .contains k h => (.flag (a.contains k h), a)
  | .tracks k h => (.flag (a.contains k h || (k == .image && a.containsImage h)), a)
  | .count k => (.number (a.count k), a)
  | .total => (.number a.total, a)
  | .recordsOf k => (.records (a.recordsOf k), a)
  | .childrenOf k pool =>
    (.handles (((a.recordsOf k).filter (·.parent = pool)).map (·.handle)), a)
  | .image h => (.record (a.images.find? fun e => e.handle = h), a)
  | .imageCount => (.number a.images.length, a)
  | .queueFamily queue => (.word (a.queueFamilies queue), a)
  | .familyFlags family => (.word a.familyFlags[family.toNat]?, a)

/-- The answers of a history, in order, and the account after it. -/
def runAll : List Registry.Operation → Account → List Registry.Answer × Account
  | [], a => ([], a)
  | op :: ops, a =>
    let (answer, a) := a.run op
    let (answers, a) := runAll ops a
    (answer :: answers, a)

/-! ## Counting -/

theorem slot_eq_iff {e : Record} {k : Kind} {h : Handle} :
    e.slot = ⟨k, h⟩ ↔ e.kind = k ∧ e.handle = h := by
  rw [Record.slot, Slot.mk.injEq]

/-- A record in the books is one of them, and the rest is what removing its slot leaves. -/
theorem records_perm_remove (a : Account) {k : Kind} {h : Handle} {e : Record}
    (he : e ∈ a.records) (hs : e.slot = ⟨k, h⟩) :
    a.records.Perm (e :: (a.remove k h).records) := by
  have hnodup : a.records.Nodup := List.Nodup.of_map _ a.slots_nodup
  have hrest : (e :: (a.remove k h).records).Nodup := by
    refine List.nodup_cons.mpr ⟨fun hmem => ?_, hnodup.filter _⟩
    exact of_decide_eq_true (List.mem_filter.mp hmem).2 hs
  refine (List.perm_ext_iff_of_nodup hnodup hrest).mpr fun d => ?_
  simp only [remove, List.mem_cons, List.mem_filter, decide_eq_true_eq]
  constructor
  · intro hd
    by_cases hds : d.slot = ⟨k, h⟩
    · -- two records in one slot are one
      exact .inl (List.inj_on_of_nodup_map a.slots_nodup hd he (hds.trans hs.symm))
    · exact .inr ⟨hd, hds⟩
  · rintro (rfl | ⟨hd, -⟩)
    · exact he
    · exact hd

/-- Every record is of one kind, so the counts by kind add up to the number of records. -/
theorem sum_countP_kind (es : List Record) :
    (Kind.all.map fun k => es.countP (·.kind = k)).sum = es.length := by
  induction es with
  | nil => rfl
  | cons e es ih =>
    have hone : (Kind.all.map fun k => if e.kind = k then 1 else 0).sum = 1 := by
      cases e.kind <;> rfl
    simp only [List.countP_cons, decide_eq_true_eq, List.sum_map_add, ih, hone, List.length_cons]

end Account

namespace Registry

/-! ## Registries and accounts -/

/-- The registry holds what the account holds, and its tally shows what the account counts. -/
structure Reckons (r : Registry) (a : Account) : Prop where
  records : r.records.Files Record.slot a.records
  images : r.images.Files Record.handle a.images
  queueFamilies : ∀ queue, r.queueFamily? queue = a.queueFamilies queue
  familyFlags : r.familyFlags = a.familyFlags
  count : ∀ k, r.count k = a.count k
  total : r.total = a.total

/-- Answers agree if they are equal, but for lists, whose order is not part of the answer. -/
inductive Answer.Agrees : Answer → Answer → Prop
  | same (answer : Answer) : Agrees answer answer
  | records {es fs : List Record} (h : es.Perm fs) : Agrees (.records es) (.records fs)
  | handles {hs gs : List Handle} (h : hs.Perm gs) : Agrees (.handles hs) (.handles gs)

theorem Answer.Agrees.of_eq {x y : Answer} (h : x = y) : Agrees x y := h ▸ .same x

namespace Reckons

variable {r : Registry} {a : Account}

theorem empty : Registry.empty.Reckons .empty where
  records := Table.Files.empty _
  images := Table.Files.empty _
  queueFamilies _ := rfl
  familyFlags := rfl
  count := Tally.count_zero
  total := rfl

/-! ### Queries -/

theorem find? (hr : r.Reckons a) (k : Kind) (h : Handle) : r.find? k h = a.find? k h :=
  hr.records.find? ⟨k, h⟩

theorem contains (hr : r.Reckons a) (k : Kind) (h : Handle) : r.contains k h = a.contains k h :=
  hr.records.contains ⟨k, h⟩

theorem containsImage (hr : r.Reckons a) (h : Handle) :
    r.images.contains h = a.containsImage h :=
  hr.images.contains h

theorem recordsOf (hr : r.Reckons a) (k : Kind) : (r.recordsOf k).Perm (a.recordsOf k) :=
  hr.records.values.filter _

theorem childrenOf (hr : r.Reckons a) (k : Kind) (pool : Handle) :
    (r.childrenOf k pool).Perm (((a.recordsOf k).filter (·.parent = pool)).map (·.handle)) :=
  ((hr.recordsOf k).filter _).map _

/-! ### Entering and taking out -/

theorem insert (hr : r.Reckons a) (e : Record) : (r.insert e).Reckons (a.insert e) := by
  have hc : r.contains e.kind e.handle = decide (e.slot ∈ a.records.map Record.slot) :=
    hr.contains e.kind e.handle
  rw [Registry.insert, Account.insert]
  by_cases hs : e.slot ∈ a.records.map Record.slot
  · rw [dif_pos hs, if_pos (hc.trans (decide_eq_true hs))]
    exact hr
  · rw [dif_neg hs, if_neg (by simp [hc, hs])]
    refine { hr with records := hr.records.insert hs, count := fun k => ?_, total := ?_ }
    · show (r.tally.increment e.kind).count k = (e :: a.records).countP _
      have hk : r.tally.count k = a.records.countP (·.kind = k) := hr.count k
      rw [Tally.count_increment, List.countP_cons, hk]
      by_cases hek : e.kind = k <;> simp [hek]
    · show r.total + 1 = (e :: a.records).length
      rw [hr.total]
      rfl

/-- Taking out a record that is there takes one off its kind and one off the total. -/
theorem count_remove (hr : r.Reckons a) {k : Kind} {h : Handle} (hc : r.contains k h = true) :
    (∀ l, (a.remove k h).count l + (if k = l then 1 else 0) = r.count l) ∧
      (a.remove k h).total + 1 = r.total := by
  obtain ⟨e, he⟩ := Option.isSome_iff_exists.mp hc
  obtain ⟨hmem, hs⟩ := (hr.records.find?_eq_some_iff _ e).mp he
  have hperm := a.records_perm_remove hmem hs
  constructor
  · intro l
    have hl : a.count l = (e :: (a.remove k h).records).countP (·.kind = l) := hperm.countP_eq _
    rw [hr.count l, hl, List.countP_cons, (Account.slot_eq_iff.mp hs).1]
    by_cases hkl : k = l <;> simp [hkl, Account.count]
  · rw [hr.total]
    exact hperm.length_eq.symm

theorem remove (hr : r.Reckons a) (k : Kind) (h : Handle) :
    (r.remove k h).Reckons (a.remove k h) := by
  rw [Registry.remove]
  split
  · rename_i hc
    obtain ⟨hcount, htotal⟩ := hr.count_remove hc
    refine { hr with records := hr.records.erase _, count := fun l => ?_, total := ?_ }
    · show (r.tally.decrement k).count l = (a.remove k h).count l
      have hl : (a.remove k h).count l + (if k = l then 1 else 0) = r.tally.count l := hcount l
      rw [Tally.count_decrement, ← hl]
      by_cases hkl : k = l <;> simp [hkl]
    · show r.total - 1 = (a.remove k h).total
      omega
  · rename_i hc
    -- the slot is empty, and the account keeps all it has
    have hsame : a.remove k h = a := by
      have hall : a.records.filter (fun e => e.slot ≠ ⟨k, h⟩) = a.records := by
        refine List.filter_eq_self.mpr fun e he => decide_eq_true fun hs => hc ?_
        exact (hr.records.contains_iff _).mpr (List.mem_map.mpr ⟨e, he, hs⟩)
      simp only [Account.remove, hall]
    rw [hsame]
    exact hr

theorem drain (hr : r.Reckons a) : r.drain.Reckons a.drain :=
  { empty with familyFlags := hr.familyFlags }

/-! ### Images of swapchains and queues -/

theorem insertImage (hr : r.Reckons a) (e : Record) :
    (r.insertImage e).Reckons (a.insertImage e) := by
  have hc : r.images.contains e.handle = decide (e.handle ∈ a.images.map Record.handle) :=
    hr.containsImage e.handle
  rw [Registry.insertImage, Account.insertImage]
  by_cases hs : e.handle ∈ a.images.map Record.handle
  · rw [dif_pos hs, if_pos (hc.trans (decide_eq_true hs))]
    exact hr
  · rw [dif_neg hs, if_neg (by simp [hc, hs])]
    exact { hr with images := hr.images.insert hs }

theorem removeImages (hr : r.Reckons a) (swapchain : Handle) :
    (r.removeImages swapchain).Reckons (a.removeImages swapchain) :=
  { hr with images := hr.images.filter _ }

/-- What the difference of two sizes gives is the number of images of the swapchain. -/
theorem imageCount_removeImages (hr : r.Reckons a) (swapchain : Handle) :
    r.imageCount - (r.removeImages swapchain).imageCount =
      a.images.countP (·.parent = swapchain) := by
  have hbefore : r.imageCount = a.images.length := hr.images.size
  have hafter : (r.removeImages swapchain).imageCount =
      a.images.countP fun e => e.parent != swapchain :=
    ((hr.removeImages swapchain).images.size).trans List.countP_eq_length_filter.symm
  have hsplit := List.length_eq_countP_add_countP (fun e : Record => decide (e.parent = swapchain))
    (l := a.images)
  have hnot : (fun e : Record => decide ¬decide (e.parent = swapchain) = true) =
      fun e => e.parent != swapchain := by
    funext e
    rw [Bool.eq_iff_iff, bne_iff_ne, decide_eq_true_iff, decide_eq_true_iff]
  rw [hnot] at hsplit
  omega

theorem setQueueFamily (hr : r.Reckons a) (queue : Handle) (family : UInt32) :
    (r.setQueueFamily queue family).Reckons (a.setQueueFamily queue family) := by
  refine { hr with queueFamilies := fun q => ?_ }
  show (r.queueFamilies.insert queue family).find? q = if queue = q then _ else _
  by_cases hq : queue = q
  · rw [hq, if_pos rfl, Table.find?_insert_self]
  · rw [if_neg hq, Table.find?_insert_of_ne _ hq]
    exact hr.queueFamilies q

/-! ### One operation, and histories -/

/-- An operation gives agreeing answers and keeps registry and account together. -/
theorem step (hr : r.Reckons a) (op : Operation) :
    (op.run r).1.Agrees (a.run op).1 ∧ (op.run r).2.Reckons (a.run op).2 := by
  cases op with
  | insert e =>
    exact ⟨.of_eq (congrArg (Answer.flag !·) (hr.contains e.kind e.handle)), hr.insert e⟩
  | remove k h => exact ⟨.of_eq (congrArg Answer.record (hr.find? k h)), hr.remove k h⟩
  | drain => exact ⟨.of_eq (congrArg Answer.number hr.total), hr.drain⟩
  | insertImage e =>
    exact ⟨.of_eq (congrArg (Answer.flag !·) (hr.containsImage e.handle)), hr.insertImage e⟩
  | removeImages swapchain =>
    exact ⟨.of_eq (congrArg Answer.number (hr.imageCount_removeImages swapchain)),
      hr.removeImages swapchain⟩
  | setQueueFamily queue family => exact ⟨.same _, hr.setQueueFamily queue family⟩
  | clearQueueFamilies => exact ⟨.same _, { hr with queueFamilies := fun _ => rfl }⟩
  | setFamilyFlags flags => exact ⟨.same _, { hr with familyFlags := rfl }⟩
  | find k h => exact ⟨.of_eq (congrArg Answer.record (hr.find? k h)), hr⟩
  | contains k h => exact ⟨.of_eq (congrArg Answer.flag (hr.contains k h)), hr⟩
  | tracks k h =>
    refine ⟨.of_eq (congrArg Answer.flag ?_), hr⟩
    rw [tracks, hr.contains, hr.containsImage]
  | count k => exact ⟨.of_eq (congrArg Answer.number (hr.count k)), hr⟩
  | total => exact ⟨.of_eq (congrArg Answer.number hr.total), hr⟩
  | recordsOf k => exact ⟨.records (hr.recordsOf k), hr⟩
  | childrenOf k pool => exact ⟨.handles (hr.childrenOf k pool), hr⟩
  | image h => exact ⟨.of_eq (congrArg Answer.record (hr.images.find? h)), hr⟩
  | imageCount => exact ⟨.of_eq (congrArg Answer.number hr.images.size), hr⟩
  | queueFamily queue => exact ⟨.of_eq (congrArg Answer.word (hr.queueFamilies queue)), hr⟩
  | familyFlags family =>
    exact ⟨.of_eq (congrArg (fun flags : List UInt32 => Answer.word flags[family.toNat]?)
      hr.familyFlags), hr⟩

/-- A history gives agreeing answers and keeps registry and account together. -/
theorem runAll (hr : r.Reckons a) (ops : List Operation) :
    List.Forall₂ Answer.Agrees (Operation.runAll ops r).1 (Account.runAll ops a).1 ∧
      (Operation.runAll ops r).2.Reckons (Account.runAll ops a).2 := by
  induction ops generalizing r a with
  | nil => exact ⟨.nil, hr⟩
  | cons op ops ih =>
    obtain ⟨hanswer, hstep⟩ := hr.step op
    obtain ⟨hanswers, hrest⟩ := ih hstep
    exact ⟨.cons hanswer hanswers, hrest⟩

end Reckons

/-! ## The counters -/

/-- The counters of the registry are the sizes of its tables, and stay exact when a record goes. -/
structure Balanced (r : Registry) : Prop where
  slot : ∀ s e, r.records.find? s = some e → e.slot = s
  count : ∀ k, r.count k = (r.recordsOf k).length
  total : r.total = (Kind.all.map r.count).sum
  size : r.total = r.records.size
  remove : ∀ k h, r.contains k h = true →
    (r.remove k h).count k + 1 = r.count k ∧ (r.remove k h).total + 1 = r.total

namespace Reckons

variable {r : Registry} {a : Account}

theorem balanced (hr : r.Reckons a) : r.Balanced where
  slot s e h := ((hr.records.find?_eq_some_iff s e).mp h).2
  count k := by
    rw [hr.count k, (hr.recordsOf k).length_eq]
    exact List.countP_eq_length_filter
  total := by
    have hcounts : r.count = a.count := funext hr.count
    rw [hr.total, hcounts]
    exact (Account.sum_countP_kind a.records).symm
  size := hr.total.trans hr.records.size.symm
  remove k h hc := by
    obtain ⟨hcount, htotal⟩ := hr.count_remove hc
    have hafter := hr.remove k h
    have hk := hcount k
    rw [if_pos rfl] at hk
    exact ⟨(hafter.count k).symm ▸ hk, hafter.total.symm ▸ htotal⟩

end Reckons

/-- A registry answers every history of operations as the account does, which keeps no counters.
After the history its counters are the sizes of its tables, with no kind above the total, and a
removal finds them positive; draining answers how many records there were and leaves the
capabilities of the families; and the images of swapchains change no counter. -/
theorem runAll_agrees_account (ops : List Operation) :
    let r := (Operation.runAll ops empty).2
    List.Forall₂ Answer.Agrees (Operation.runAll ops empty).1 (Account.runAll ops .empty).1 ∧
      r.Balanced ∧
      (∀ k, r.count k ≤ r.total) ∧
      Operation.drain.run r =
        (.number r.records.size, { empty with familyFlags := r.familyFlags }) ∧
      (∀ e, (r.insertImage e).tally = r.tally) ∧
      ∀ swapchain, (r.removeImages swapchain).tally = r.tally := by
  intro r
  obtain ⟨hanswers, hr⟩ := Reckons.empty.runAll ops
  have hb : r.Balanced := hr.balanced
  refine ⟨hanswers, hb, fun k => ?_, ?_, fun e => ?_, fun swapchain => rfl⟩
  · rw [hr.count k, hr.total]
    exact List.countP_le_length
  · rw [← hb.size]
    rfl
  · rw [insertImage]
    split <;> rfl

end Registry

end HandleLedger
