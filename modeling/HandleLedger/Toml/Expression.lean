import HandleLedger.Toml.Moment
import HandleLedger.Toml.Outline
import HandleLedger.Toml.Quoted

/-!
# Keys and values

Readers of keys and of values. A key is a path of parts; arrays and inline tables hold further
values. Nesting is bounded: `Expression.value` takes the number of levels that may still open.
-/

set_option autoImplicit false

namespace HandleLedger.Toml.Expression

open Reader

/-- Keys of this many parts and values nested this deep are refused. -/
def depthLimit : Nat := 80

/-- A character of a key without quotes. -/
def isBare (c : Char) : Bool :=
  ('a' ≤ c && c ≤ 'z') || ('A' ≤ c && c ≤ 'Z') || ('0' ≤ c && c ≤ '9') || c == '-' || c == '_'

/-- One part of a key. -/
def keyPart : Reader String :=
  either Quoted.basic (either Quoted.literal (do
    return String.ofList (← several (satisfying isBare))))

/-- The parts of a key before the last, and the last. -/
def key : Reader (List String × String) := do
  let parts ← separated
    (do
      blanks
      let part ← keyPart
      blanks
      return part)
    (char '.')
  guarded (parts.length < depthLimit)
  match parts.getLast? with
  | none => fail
  | some last => return (parts.dropLast, last)

/-- An array of values. -/
def array (value : Reader Value) : Reader Value := do
  let _ ← char '['
  let elements ← optional (separated
    (do
      gap
      let element ← value
      gap
      return element)
    (char ','))
  let _ ← match elements with
    | none => pure none
    | some _ => optional (char ',')
  gap
  let _ ← char ']'
  return .array (elements.getD [])

/-- A table on one line. -/
def inlineTable (value : Reader Value) : Reader Value := do
  let _ ← char '\x7b'
  let pairs ← optional (separated
    (do
      let path ← key
      let _ ← char '='
      blanks
      let entry ← value
      blanks
      return (path, entry))
    (char ','))
  blanks
  let _ ← char '\x7d'
  let outline := (pairs.getD []).foldlM
    (fun outline (pair : (List String × String) × Value) =>
      Outline.addPair pair.1.1 pair.1.2 pair.2 outline) Outline.empty
  match outline with
  | none => fail
  | some outline => return .table outline.values

/-- A truth value. -/
def boolean : Reader Value :=
  either
    (do
      exactly ['t', 'r', 'u', 'e']
      return .boolean true)
    (do
      exactly ['f', 'a', 'l', 's', 'e']
      return .boolean false)

/-- A value that holds no others. -/
def scalar : Reader Value :=
  either (do return .string (← Quoted.string))
    (either boolean
      (either (do return .moment (← Moment.moment))
        (either (do return .float (← Number.float))
          (do return .integer (← Number.integer)))))

/-- A value in which this many levels of arrays and inline tables may open. -/
def value : Nat → Reader Value
  | 0 => scalar
  | levels + 1 => either scalar (either (array (value levels)) (inlineTable (value levels)))

end HandleLedger.Toml.Expression
