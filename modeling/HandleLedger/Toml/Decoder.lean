import HandleLedger.Toml.Value

/-!
# Decoders

The reader of documents comes from outside the ledger, so the ledger takes it as a parameter. All
that is known of it is a law of the format: no table has two entries under one key
(`Decoder.Lawful`). `Document.decoder` is one to run the ledger with.
-/

set_option autoImplicit false

namespace HandleLedger.Toml

/-- No table within the value has two entries under one key. -/
inductive Value.Distinct : Value → Prop
  | string (text : String) : Distinct (.string text)
  | integer (n : Int) : Distinct (.integer n)
  | float (written : String) : Distinct (.float written)
  | boolean (b : Bool) : Distinct (.boolean b)
  | moment (written : String) : Distinct (.moment written)
  | array {elements : List Value} (h : ∀ v ∈ elements, Distinct v) : Distinct (.array elements)
  | table {entries : Entries} (hkeys : (entries.map Prod.fst).Nodup)
    (h : ∀ e ∈ entries, Distinct e.2) : Distinct (.table entries)

/-- A reader of documents. -/
structure Decoder where
  /-- The entries of a document, if the text is one. -/
  entries? : String → Option Entries
  /-- What is said about a text that is no document, or none of the kind that is asked for. -/
  complaint : String → String

/-- The tables that the decoder reads have no key twice. -/
structure Decoder.Lawful (toml : Decoder) : Prop where
  distinct : ∀ {text : String} {entries : Entries},
    toml.entries? text = some entries → (Value.table entries).Distinct

end HandleLedger.Toml
