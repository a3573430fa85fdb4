import HandleLedger.Toml.Document
import Mathlib

/-!
# The keys of a document

No table of a document has two entries under one key (`distinct_of_parse?`), so that the decoder of
documents is lawful (`lawful_decoder`). The entry that a look-up finds is then the only one, and the
order of the entries is without meaning.

Every table is built as an outline. What an outline stands for stays free of repeated keys if it is
changed at the end of a path by an edit that keeps it so (`Outline.Careful.change`). Inline tables
are outlines that become values of larger ones, so the readers carry the property through the
nesting (`Expression.yields_value`).
-/

set_option autoImplicit false

namespace HandleLedger.Toml

theorem Value.distinct_array_iff {elements : List Value} :
    (Value.array elements).Distinct ↔ ∀ v ∈ elements, v.Distinct :=
  ⟨fun h => by cases h; assumption, .array⟩

theorem Value.distinct_table_iff {entries : Entries} :
    (Value.table entries).Distinct ↔
      (entries.map Prod.fst).Nodup ∧ ∀ e ∈ entries, e.2.Distinct :=
  ⟨fun h => by cases h; exact ⟨by assumption, by assumption⟩, fun h => .table h.1 h.2⟩

/-! ## Look-ups by key -/

section LookUp

variable {α : Type} {es : List (String × α)} {key : String} {a : α}

theorem lookup_eq_none_iff_key : es.lookup key = none ↔ key ∉ es.map Prod.fst := by
  rw [List.lookup_eq_none_iff, List.mem_map]
  constructor
  · rintro h ⟨e, he, rfl⟩
    simpa using h e he
  · intro h e he
    exact bne_iff_ne.mpr fun heq => h ⟨e, he, heq.symm⟩

theorem mem_of_lookup (h : es.lookup key = some a) : (key, a) ∈ es := by
  obtain ⟨before, after, rfl, -⟩ := List.lookup_eq_some_iff.mp h
  exact List.mem_append_right _ List.mem_cons_self

/-- Where no key stands twice, a look-up finds whatever stands under the key. -/
theorem lookup_eq_some_iff_mem (hkeys : (es.map Prod.fst).Nodup) :
    es.lookup key = some a ↔ (key, a) ∈ es := by
  refine ⟨mem_of_lookup, fun h => ?_⟩
  obtain ⟨before, after, rfl⟩ := List.append_of_mem h
  refine List.lookup_eq_some_iff.mpr ⟨before, after, rfl, fun e he => bne_iff_ne.mpr fun heq => ?_⟩
  rw [List.map_append, List.nodup_append] at hkeys
  exact hkeys.2.2 e.1 (List.mem_map_of_mem he) key List.mem_cons_self heq.symm

end LookUp

/-! ## Outlines -/

namespace Outline

variable {es : List (String × Node)} {key : String} {node : Node} {value : Value}

theorem valuesOf_eq_map (es : List (String × Node)) :
    valuesOf es = es.map fun e => (e.1, valueOfNode e.2) := by
  induction es with
  | nil => rfl
  | cons e es ih => rw [valuesOf, ih, List.map_cons]

theorem tablesOf_eq_map (ess : List (List (String × Node))) :
    tablesOf ess = ess.map fun es => .table (valuesOf es) := by
  induction ess with
  | nil => rfl
  | cons es ess ih => rw [tablesOf, ih, List.map_cons]

/-- The table that the entries stand for has no key twice, and neither has a table within it. -/
def Distinct (es : List (String × Node)) : Prop := (Value.table (valuesOf es)).Distinct

theorem distinct_iff :
    Distinct es ↔ (es.map Prod.fst).Nodup ∧ ∀ e ∈ es, (valueOfNode e.2).Distinct := by
  rw [Distinct, Value.distinct_table_iff, valuesOf_eq_map, List.map_map, List.forall_mem_map]
  rfl

theorem distinct_nil : Distinct [] := .table List.nodup_nil fun _ he => absurd he List.not_mem_nil

/-- The keys after a node has been put at one of them. -/
theorem keys_put (key : String) (node : Node) (es : List (String × Node)) :
    (put key node es).map Prod.fst =
      if key ∈ es.map Prod.fst then es.map Prod.fst else es.map Prod.fst ++ [key] := by
  induction es with
  | nil => simp [put]
  | cons e es ih =>
    by_cases he : e.1 = key
    · simp [put, he]
    · have hne : ¬key = e.1 := fun h => he h.symm
      simp only [put, beq_iff_eq, he, if_false, List.map_cons, ih, List.mem_cons, hne, false_or]
      split <;> rfl

theorem mem_put {e : String × Node} (he : e ∈ put key node es) : e = (key, node) ∨ e ∈ es := by
  induction es with
  | nil => exact Or.inl (List.mem_singleton.mp he)
  | cons d es ih =>
    rw [put] at he
    split at he
    · exact (List.mem_cons.mp he).imp_right (List.mem_cons_of_mem _)
    · rcases List.mem_cons.mp he with rfl | he
      · exact Or.inr List.mem_cons_self
      · exact (ih he).imp_right (List.mem_cons_of_mem _)

theorem nodup_keys_append (hes : (es.map Prod.fst).Nodup) (hnew : key ∉ es.map Prod.fst) :
    (es.map Prod.fst ++ [key]).Nodup :=
  hes.append (List.nodup_singleton key) (List.disjoint_singleton.mpr hnew)

theorem Distinct.put (hes : Distinct es) (hnode : (valueOfNode node).Distinct) :
    Distinct (put key node es) := by
  obtain ⟨hkeys, hvalues⟩ := distinct_iff.mp hes
  refine distinct_iff.mpr ⟨?_, ?_⟩
  · rw [keys_put]
    split
    · exact hkeys
    · exact nodup_keys_append hkeys (by assumption)
  · intro e he
    rcases mem_put he with rfl | he
    · exact hnode
    · exact hvalues e he

theorem Distinct.value_of_lookup (hes : Distinct es) (h : es.lookup key = some node) :
    (valueOfNode node).Distinct :=
  (distinct_iff.mp hes).2 _ (mem_of_lookup h)

theorem distinct_branch_iff {standing : Standing} :
    (valueOfNode (.branch standing es)).Distinct ↔ Distinct es := by
  rw [valueOfNode, Distinct]

theorem distinct_series_iff {earlier : List (List (String × Node))} :
    (valueOfNode (.series earlier es)).Distinct ↔ (∀ ds ∈ earlier, Distinct ds) ∧ Distinct es := by
  rw [valueOfNode, Value.distinct_array_iff, tablesOf_eq_map]
  simp [Distinct, or_imp, forall_and]

/-- An edit of a table leaves no key twice if there was none before. -/
def Careful (edit : Outline → Option Outline) : Prop :=
  ∀ here there, Distinct here.entries → edit here = some there → Distinct there.entries

/-- A change at the end of a path is as careful as the edit there. -/
theorem Careful.change {passing : Passing} {edit : Outline → Option Outline} (hedit : Careful edit)
    (path : List String) : Careful (change passing edit path) := by
  induction path with
  | nil => exact hedit
  | cons key path ih =>
    intro here there hhere h
    rw [Outline.change] at h
    split at h
    · -- the table comes into being
      obtain ⟨inner, hinner, heq⟩ := Option.bind_eq_some_iff.mp h
      cases heq
      exact hhere.put (distinct_branch_iff.mpr (ih _ _ distinct_nil hinner))
    · cases h
    · rename_i standing entries hlookup
      split at h
      · cases h
      · obtain ⟨inner, hinner, heq⟩ := Option.bind_eq_some_iff.mp h
        cases heq
        have hentries := distinct_branch_iff.mp (hhere.value_of_lookup hlookup)
        exact hhere.put (distinct_branch_iff.mpr (ih _ _ hentries hinner))
    · rename_i earlier last hlookup
      obtain ⟨inner, hinner, heq⟩ := Option.bind_eq_some_iff.mp h
      cases heq
      obtain ⟨hearlier, hlast⟩ := distinct_series_iff.mp (hhere.value_of_lookup hlookup)
      exact hhere.put (distinct_series_iff.mpr ⟨hearlier, ih _ _ hlast hinner⟩)

theorem careful_define (plain : Bool) (key : String) (hvalue : value.Distinct) :
    Careful (define plain key value) := by
  intro here there hhere h
  rw [define] at h
  split at h
  · cases h
  · split at h
    · cases h
    · rename_i hfree
      cases h
      obtain ⟨hkeys, hvalues⟩ := distinct_iff.mp hhere
      have hnew : key ∉ here.entries.map Prod.fst :=
        lookup_eq_none_iff_key.mp (Option.not_isSome_iff_eq_none.mp hfree)
      refine distinct_iff.mpr ⟨?_, ?_⟩
      · rw [List.map_append]
        exact nodup_keys_append hkeys hnew
      · intro e he
        rcases List.mem_append.mp he with he | he
        · exact hvalues e he
        · rw [List.mem_singleton.mp he, valueOfNode]
          exact hvalue

theorem careful_addPair (path : List String) (key : String) (hvalue : value.Distinct) :
    Careful (addPair path key value) :=
  (careful_define _ key hvalue).change path

theorem careful_addHeader (path : List String) (key : String) : Careful (addHeader path key) := by
  refine Careful.change ?_ path
  intro here there hhere h
  simp only at h
  split at h
  · cases h
    exact hhere.put (distinct_branch_iff.mpr distinct_nil)
  · rename_i entries hlookup
    cases h
    have hentries := distinct_branch_iff.mp (hhere.value_of_lookup hlookup)
    exact hhere.put (distinct_branch_iff.mpr hentries)
  · cases h

theorem careful_addElement (path : List String) (key : String) : Careful (addElement path key) := by
  refine Careful.change ?_ path
  intro here there hhere h
  simp only at h
  split at h
  · cases h
    exact hhere.put (distinct_series_iff.mpr ⟨fun _ h => absurd h List.not_mem_nil, distinct_nil⟩)
  · rename_i earlier last hlookup
    cases h
    obtain ⟨hearlier, hlast⟩ := distinct_series_iff.mp (hhere.value_of_lookup hlookup)
    refine hhere.put (distinct_series_iff.mpr ⟨?_, distinct_nil⟩)
    intro ds hds
    rcases List.mem_append.mp hds with hds | hds
    · exact hearlier ds hds
    · exact List.mem_singleton.mp hds ▸ hlast
  · cases h

end Outline

/-! ## Readers -/

namespace Reader

variable {α β : Type} {P : α → Prop} {Q : β → Prop}

/-- Whatever the reader takes off a text has the property. -/
def Yields (P : α → Prop) (r : Reader α) : Prop := ∀ text a rest, r text = some (a, rest) → P a

theorem yields_fail : (fail : Reader α).Yields P := by
  intro text a rest h
  cases h

theorem yields_pure {a : α} (ha : P a) : (pure a : Reader α).Yields P := by
  intro text b rest h
  cases h
  exact ha

theorem Yields.bind {r : Reader α} {f : α → Reader β} (hr : r.Yields P)
    (hf : ∀ a, P a → (f a).Yields Q) : (r >>= f).Yields Q := by
  intro text b rest h
  cases hread : r text with
  | none =>
    simp only [Bind.bind, hread] at h
    cases h
  | some result =>
    obtain ⟨a, middle⟩ := result
    simp only [Bind.bind, hread] at h
    exact hf a (hr text a middle hread) middle b rest h

/-- What is read last decides, where nothing depends on what is read first. -/
theorem yields_bind {r : Reader α} {f : α → Reader β} (hf : ∀ a, (f a).Yields Q) :
    (r >>= f).Yields Q :=
  Yields.bind (P := fun _ => True) (fun _ _ _ _ => trivial) fun a _ => hf a

theorem Yields.either {r s : Reader α} (hr : r.Yields P) (hs : s.Yields P) :
    (either r s).Yields P := by
  intro text a rest h
  rw [Reader.either] at h
  split at h
  · exact hs text a rest h
  · cases h
    exact hr text a rest (by assumption)

theorem Yields.optional {r : Reader α} (hr : r.Yields P) :
    (optional r).Yields fun o => ∀ a ∈ o, P a := by
  intro text o rest h
  rw [Reader.optional] at h
  split at h
  · cases h
    exact fun a ha => absurd ha (by simp)
  · rename_i b rest' hread
    cases h
    intro a ha
    cases ha
    exact hr _ _ _ hread

theorem Yields.many {r : Reader α} (hr : r.Yields P) : (many r).Yields fun as => ∀ a ∈ as, P a := by
  -- induction on the number of rounds, which bounds the repetition
  have hrounds : ∀ n text, ∀ a ∈ (rounds r n text).1, P a := by
    intro n
    induction n with
    | zero => exact fun text a ha => absurd ha List.not_mem_nil
    | succ n ih =>
      intro text a ha
      rw [rounds] at ha
      split at ha
      · cases ha
      · rename_i b rest hread
        split at ha
        · rcases List.mem_cons.mp ha with rfl | ha
          · exact hr _ _ _ hread
          · exact ih rest a ha
        · cases ha
  intro text as rest h
  rw [Reader.many, Option.some.injEq] at h
  have has : (rounds r text.length text).1 = as := congrArg Prod.fst h
  exact has ▸ hrounds text.length text

theorem Yields.separated {r : Reader α} (hr : r.Yields P) (separator : Reader β) :
    (separated r separator).Yields fun as => ∀ a ∈ as, P a := by
  refine hr.bind fun a ha => Yields.bind (Yields.many (yields_bind fun _ => hr)) fun as has => ?_
  exact yields_pure (List.forall_mem_cons.mpr ⟨ha, has⟩)

theorem Yields.of_run {r : Reader α} (hr : r.Yields P) {text : List Char} {a : α}
    (h : r.run text = some a) : P a := by
  rw [run] at h
  split at h
  · rename_i b hread
    cases h
    exact hr text _ _ hread
  · cases h

end Reader

/-! ## Values -/

namespace Expression

open Reader

theorem yields_array {value : Reader Value} (h : value.Yields Value.Distinct) :
    (array value).Yields Value.Distinct := by
  have helement : Yields Value.Distinct (do gap; let element ← value; gap; return element) :=
    yields_bind fun _ => h.bind fun v hv => yields_bind fun _ => yields_pure hv
  refine yields_bind fun _ => (helement.separated _).optional.bind fun elements helements => ?_
  cases elements with
  | none =>
    refine yields_bind fun _ => yields_bind fun _ => yields_bind fun _ => yields_pure (.array ?_)
    exact fun _ hv => absurd hv List.not_mem_nil
  | some elements =>
    refine yields_bind fun _ => yields_bind fun _ => yields_bind fun _ => yields_pure (.array ?_)
    exact helements elements rfl

theorem yields_inlineTable {value : Reader Value} (h : value.Yields Value.Distinct) :
    (inlineTable value).Yields Value.Distinct := by
  have hpair : Yields (fun pair => pair.2.Distinct) (do
      let path ← key
      let _ ← char '='
      blanks
      let entry ← value
      blanks
      return (path, entry)) :=
    yields_bind fun _ => yields_bind fun _ => yields_bind fun _ =>
      h.bind fun v hv => yields_bind fun _ => yields_pure hv
  refine yields_bind fun _ => (hpair.separated _).optional.bind fun pairs hpairs => ?_
  refine yields_bind fun _ => yields_bind fun _ => ?_
  have hall : ∀ pair ∈ pairs.getD [], pair.2.Distinct := by
    cases pairs with
    | none => exact fun _ hp => absurd hp List.not_mem_nil
    | some pairs => exact hpairs pairs rfl
  simp only
  split
  · exact yields_fail
  · rename_i outline houtline
    apply yields_pure
    show Outline.Distinct outline.entries
    refine SatisfiesM_Option_eq.mp (List.satisfiesM_foldlM
      (motive := fun o => Outline.Distinct o.entries) ?_ ?_) outline houtline
    · exact Outline.distinct_nil
    · intro here hhere pair hp
      exact SatisfiesM_Option_eq.mpr fun there =>
        Outline.careful_addPair _ _ (hall pair hp) here there hhere

theorem yields_scalar : scalar.Yields Value.Distinct := by
  refine Yields.either (yields_bind fun text => yields_pure (.string text)) ?_
  refine Yields.either ?_ ?_
  · exact Yields.either (yields_bind fun _ => yields_pure (.boolean true))
      (yields_bind fun _ => yields_pure (.boolean false))
  refine Yields.either (yields_bind fun written => yields_pure (.moment written)) ?_
  exact Yields.either (yields_bind fun written => yields_pure (.float written))
    (yields_bind fun n => yields_pure (.integer n))

theorem yields_value (levels : Nat) : (value levels).Yields Value.Distinct := by
  induction levels with
  | zero => exact yields_scalar
  | succ levels ih =>
    exact yields_scalar.either ((yields_array ih).either (yields_inlineTable ih))

end Expression

/-! ## Documents -/

/-- The value that a statement gives, if any, has no key twice. -/
def Statement.Distinct : Statement → Prop
  | .pair _ _ value => value.Distinct
  | .header _ _ => True
  | .element _ _ => True

namespace Document

open Reader

theorem yields_line : line.Yields fun said => ∀ s ∈ said, s.Distinct := by
  have hpair : pair.Yields Statement.Distinct :=
    yields_bind fun _ => yields_bind fun _ => yields_bind fun _ =>
      (Expression.yields_value _).bind fun v hv => yields_bind fun _ => yields_pure hv
  have hheader : header.Yields Statement.Distinct :=
    yields_bind fun _ => yields_bind fun _ => yields_bind fun _ => yields_bind fun _ =>
      yields_pure trivial
  have helement : element.Yields Statement.Distinct :=
    yields_bind fun _ => yields_bind fun _ => yields_bind fun _ => yields_bind fun _ =>
      yields_pure trivial
  have hsome : ∀ {r : Reader Statement}, r.Yields Statement.Distinct →
      Yields (fun said => ∀ s ∈ said, s.Distinct) (do return some (← r)) :=
    fun hr => hr.bind fun s hs => yields_pure fun s' hs' => Option.some.inj hs' ▸ hs
  have hnone : Yields (fun said : Option Statement => ∀ s ∈ said, s.Distinct) (pure none) :=
    yields_pure fun s hs => absurd hs (Option.not_mem_none s)
  refine Yields.bind (Yields.either ?_ (Yields.either ?_ (Yields.either (hsome helement)
    (Yields.either (hsome hheader) (hsome hpair))))) fun said hsaid =>
      yields_bind fun _ => yields_pure hsaid
  · exact yields_bind fun _ => yields_bind fun _ => hnone
  · exact yields_bind fun _ => hnone

theorem yields_statements : statements.Yields fun said => ∀ s ∈ said, s.Distinct := by
  refine yields_bind fun _ => yields_bind fun _ => yields_line.many.bind fun said hsaid => ?_
  refine yields_pure fun s hs => ?_
  obtain ⟨o, ho, rfl⟩ := List.mem_filterMap.mp hs
  exact hsaid _ ho s rfl

theorem distinct_add {s : Statement} (hs : s.Distinct) {d e : Draft}
    (hd : Outline.Distinct d.outline.entries) (h : d.add s = some e) :
    Outline.Distinct e.outline.entries := by
  cases s with
  | pair path key value =>
    obtain ⟨outline, houtline, heq⟩ := Option.bind_eq_some_iff.mp h
    cases heq
    exact (Outline.careful_addPair path key hs).change _ _ _ hd houtline
  | header path key =>
    obtain ⟨outline, houtline, heq⟩ := Option.bind_eq_some_iff.mp h
    cases heq
    exact Outline.careful_addHeader path key _ _ hd houtline
  | element path key =>
    obtain ⟨outline, houtline, heq⟩ := Option.bind_eq_some_iff.mp h
    cases heq
    exact Outline.careful_addElement path key _ _ hd houtline

/-- No table of a document has two entries under one key. -/
theorem distinct_of_parse? {text : String} {entries : Entries} (h : parse? text = some entries) :
    (Value.table entries).Distinct := by
  obtain ⟨said, hsaid, h⟩ := Option.bind_eq_some_iff.mp h
  obtain ⟨o, ho, heq⟩ := Option.bind_eq_some_iff.mp h
  cases heq
  obtain ⟨d, hd, rfl⟩ := Option.map_eq_some_iff.mp ho
  have hdistinct : ∀ s ∈ said, s.Distinct := yields_statements.of_run hsaid
  refine SatisfiesM_Option_eq.mp (List.satisfiesM_foldlM
    (motive := fun d => Outline.Distinct (Draft.outline d).entries) ?_ ?_) d hd
  · exact Outline.distinct_nil
  · intro d hd s hs
    exact SatisfiesM_Option_eq.mpr fun e => distinct_add (hdistinct s hs) hd

theorem lawful_decoder (complaint : String → String) : (decoder complaint).Lawful :=
  ⟨distinct_of_parse?⟩

end Document

end HandleLedger.Toml
