import HandleLedger.Toml.Decoder
import HandleLedger.Toml.Expression

/-!
# Documents

A document is a sequence of lines, each of which is empty, names a table by a header, or gives a
key of the current table a value. `Document.statements` reads the lines, `Document.outline` builds
the table that they describe, and `Document.parse?` does both. `Document.decoder` makes a decoder of
it, to run the ledger with; what it says about a text that it rejects is left open.
-/

set_option autoImplicit false

namespace HandleLedger.Toml

/-- A line that says something. -/
inductive Statement
  /-- A key, with the path before its last part, and its value. -/
  | pair (path : List String) (key : String) (value : Value)
  /-- The header of a table. -/
  | header (path : List String) (key : String)
  /-- The header of a further element of an array of tables. -/
  | element (path : List String) (key : String)

namespace Document

open Reader

/-- A key and its value, to the end of the line. -/
def pair : Reader Statement := do
  let (path, key) ← Expression.key
  let _ ← char '='
  blanks
  let value ← Expression.value (Expression.depthLimit - 1)
  lineRest
  return .pair path key value

/-- A header, to the end of the line. -/
def header : Reader Statement := do
  let _ ← char '['
  let (path, key) ← Expression.key
  let _ ← char ']'
  lineRest
  return .header path key

/-- A header of an element, to the end of the line. -/
def element : Reader Statement := do
  exactly ['[', '[']
  let (path, key) ← Expression.key
  exactly [']', ']']
  lineRest
  return .element path key

/-- A line, which may say nothing. -/
def line : Reader (Option Statement) := do
  let said ← either
    (do
      let _ ← comment
      lineEnd
      return none)
    (either (do
      newline
      return none)
      (either (do return some (← element))
        (either (do return some (← header)) (do return some (← pair)))))
  blanks
  return said

/-- The statements of a document. A byte order mark may stand before them. -/
def statements : Reader (List Statement) := do
  let _ ← optional (char '\ufeff')
  blanks
  let said ← many line
  return said.filterMap id

/-- An outline and the path of the table that plain keys belong to. -/
structure Draft where
  outline : Outline
  current : List String

/-- The draft after a further statement, unless they contradict. -/
def Draft.add (d : Draft) : Statement → Option Draft
  | .pair path key value => do
    let outline ← Outline.change .header (Outline.addPair path key value) d.current d.outline
    return { d with outline }
  | .header path key => do
    let outline ← Outline.addHeader path key d.outline
    return ⟨outline, path ++ [key]⟩
  | .element path key => do
    let outline ← Outline.addElement path key d.outline
    return ⟨outline, path ++ [key]⟩

/-- The table that statements describe, unless they contradict. -/
def outline (said : List Statement) : Option Outline :=
  (said.foldlM Draft.add ⟨Outline.empty, []⟩).map (·.outline)

/-- The entries of a document. -/
def parse? (text : String) : Option Entries := do
  let said ← statements.run text.toList
  let table ← outline said
  return table.values

/-- The decoder that reads documents in this way. -/
def decoder (complaint : String → String) : Decoder := ⟨parse?, complaint⟩

end Document

end HandleLedger.Toml
