import HandleLedger.Toml.Value

/-!
# Outlines

An outline is a table under construction. It remembers how each of its tables came about, which
decides what later parts of the document may add to it:

* a table named by a header of its own is *declared*, and no header names it again;
* a table that a longer header passes through is *implied*, and a header may still declare it;
* a table that a dotted key passes through is *dotted*, and only dotted keys add to it.

A header passes through tables of every standing, a dotted key through all but declared ones. In
an array of tables both go on in the last element.
-/

set_option autoImplicit false

namespace HandleLedger.Toml

/-- How a table came about. -/
inductive Standing
  | declared
  | implied
  | dotted
  deriving DecidableEq, Repr

/-- An entry of an outline. -/
inductive Node
  | leaf (value : Value)
  | branch (standing : Standing) (entries : List (String × Node))
  /-- An array of tables: the earlier elements and the last. -/
  | series (earlier : List (List (String × Node))) (last : List (String × Node))

/-- A table under construction. -/
structure Outline where
  standing : Standing
  entries : List (String × Node)

/-- What passes through tables on its way to the one that it is about. -/
inductive Passing
  | header
  | dottedKey
  deriving DecidableEq

/-- The standing of a table that exists because something passed through it. -/
def Passing.standing : Passing → Standing
  | .header => .implied
  | .dottedKey => .dotted

namespace Outline

/-- The outline of an empty document or inline table. -/
def empty : Outline := ⟨.declared, []⟩

/-- The entries, with this node at the key. -/
def put (key : String) (node : Node) : List (String × Node) → List (String × Node)
  | [] => [(key, node)]
  | e :: es => if e.1 == key then (key, node) :: es else e :: put key node es

/-- Change the table at the end of a path. Tables that are missing on the way come into being. -/
def change (passing : Passing) (edit : Outline → Option Outline) :
    List String → Outline → Option Outline
  | [], here => edit here
  | key :: path, here =>
    match here.entries.lookup key with
    | none => do
      let there ← change passing edit path ⟨passing.standing, []⟩
      return { here with entries := put key (.branch there.standing there.entries) here.entries }
    | some (.leaf _) => none
    | some (.branch standing entries) =>
      if passing = .dottedKey ∧ standing = .declared then none
      else do
        let there ← change passing edit path ⟨standing, entries⟩
        return { here with entries := put key (.branch there.standing there.entries) here.entries }
    | some (.series earlier last) => do
      let there ← change passing edit path ⟨.declared, last⟩
      return { here with entries := put key (.series earlier there.entries) here.entries }

/-- Give a key of this table a value, unless it has one. The table has to have been reached the
way it came about: a dotted table by a dotted key, any other by a plain one. -/
def define (plain : Bool) (key : String) (value : Value) (here : Outline) : Option Outline :=
  if decide (here.standing = .dotted) == plain then none
  else if (here.entries.lookup key).isSome then none
  else some { here with entries := here.entries ++ [(key, .leaf value)] }

/-- Add a key, dotted by a path before it, and its value. -/
def addPair (path : List String) (key : String) (value : Value) (here : Outline) :
    Option Outline :=
  change .dottedKey (define path.isEmpty key value) path here

/-- Add a header that declares a table. -/
def addHeader (path : List String) (key : String) : Outline → Option Outline :=
  change .header (fun here =>
    match here.entries.lookup key with
    | none => some { here with entries := put key (.branch .declared []) here.entries }
    | some (.branch .implied entries) =>
      some { here with entries := put key (.branch .declared entries) here.entries }
    | some _ => none) path

/-- Add a header that opens a further element of an array of tables. -/
def addElement (path : List String) (key : String) : Outline → Option Outline :=
  change .header (fun here =>
    match here.entries.lookup key with
    | none => some { here with entries := put key (.series [] []) here.entries }
    | some (.series earlier last) =>
      some { here with entries := put key (.series (earlier ++ [last]) []) here.entries }
    | some _ => none) path

/-! ## The values of an outline -/

mutual

/-- The value of a node. -/
def valueOfNode : Node → Value
  | .leaf value => value
  | .branch _ entries => .table (valuesOf entries)
  | .series earlier last => .array (tablesOf earlier ++ [.table (valuesOf last)])

/-- The values of entries. -/
def valuesOf : List (String × Node) → Entries
  | [] => []
  | (key, node) :: rest => (key, valueOfNode node) :: valuesOf rest

/-- The values of the elements of an array of tables. -/
def tablesOf : List (List (String × Node)) → List Value
  | [] => []
  | entries :: rest => .table (valuesOf entries) :: tablesOf rest

end

/-- The entries of an outline as values. -/
def values (o : Outline) : Entries := valuesOf o.entries

end Outline

end HandleLedger.Toml
