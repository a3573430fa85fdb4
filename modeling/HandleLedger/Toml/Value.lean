/-!
# Document values

The tree of values that a document stands for. A table is a list of entries with a key each.
Floats and moments are kept as text, since no configuration reads one.
-/

set_option autoImplicit false

namespace HandleLedger.Toml

/-- A value of a document. -/
inductive Value
  | string (text : String)
  | integer (n : Int)
  | float (written : String)
  | boolean (b : Bool)
  | moment (written : String)
  | array (elements : List Value)
  | table (entries : List (String × Value))

/-- The entries of a table. -/
abbrev Entries := List (String × Value)

end HandleLedger.Toml
