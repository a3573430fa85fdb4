/-!
# Readers

A reader takes a value off the front of a text and returns it with the rest, or fails. Readers
are total: a repetition (`Reader.many`) takes at most as many rounds as the text has characters
and stops at the first round that fails or takes nothing.
-/

set_option autoImplicit false

namespace HandleLedger.Toml

/-- A function that takes a value off the front of a text. -/
def Reader (α : Type) := List Char → Option (α × List Char)

namespace Reader

variable {α β : Type}

instance : Monad Reader where
  pure a := fun text => some (a, text)
  bind r f := fun text =>
    match r text with
    | none => none
    | some (a, rest) => f a rest

/-- The reader that always fails. -/
def fail : Reader α := fun _ => none

/-- The first reader that succeeds, both starting at the same place. -/
def either (r s : Reader α) : Reader α := fun text =>
  match r text with
  | none => s text
  | some result => some result

/-- A reader that may be absent. -/
def optional (r : Reader α) : Reader (Option α) := fun text =>
  match r text with
  | none => some (none, text)
  | some (a, rest) => some (some a, rest)

/-- Succeeds where the reader would, and takes nothing. -/
def ahead (r : Reader α) : Reader α := fun text => (r text).map fun result => (result.1, text)

/-- Keeps a value only if it passes the test. -/
def guarded (test : Bool) : Reader Unit := fun text => if test then some ((), text) else none

/-- The next character, if it passes the test. -/
def satisfying (test : Char → Bool) : Reader Char
  | [] => none
  | c :: rest => if test c then some (c, rest) else none

/-- This character. -/
def char (c : Char) : Reader Char := satisfying (· == c)

/-- These characters in turn. -/
def exactly : List Char → Reader Unit
  | [] => pure ()
  | c :: cs => fun text =>
    match text with
    | [] => none
    | d :: rest => if c = d then exactly cs rest else none

/-- The characters up to the first that fails the test. -/
def spanning (test : Char → Bool) : Reader (List Char) := fun text =>
  some (text.takeWhile test, text.dropWhile test)

/-- The end of the text. -/
def atEnd : Reader Unit
  | [] => some ((), [])
  | _ :: _ => none

/-- At most this many rounds of a reader. -/
def rounds (r : Reader α) : Nat → List Char → List α × List Char
  | 0, text => ([], text)
  | n + 1, text =>
    match r text with
    | none => ([], text)
    | some (a, rest) =>
      if rest.length < text.length then
        let (as, rest) := rounds r n rest
        (a :: as, rest)
      else ([], text)

/-- As many rounds of a reader as succeed. -/
def many (r : Reader α) : Reader (List α) := fun text => some (rounds r text.length text)

/-- One or more rounds of a reader. -/
def several (r : Reader α) : Reader (List α) := do
  let a ← r
  let as ← many r
  return a :: as

/-- Exactly this many rounds of a reader. -/
def times : Nat → Reader α → Reader (List α)
  | 0, _ => pure []
  | n + 1, r => do
    let a ← r
    let as ← times n r
    return a :: as

/-- One or more rounds of a reader, with a separator between them. -/
def separated (r : Reader α) (separator : Reader β) : Reader (List α) := do
  let a ← r
  let as ← many do
    let _ ← separator
    r
  return a :: as

/-- The value of a text that the reader takes whole. -/
def run (r : Reader α) (text : List Char) : Option α :=
  match r text with
  | some (a, []) => some a
  | _ => none

end Reader

end HandleLedger.Toml
