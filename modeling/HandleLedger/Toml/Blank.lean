import HandleLedger.Toml.Reader

/-!
# Characters, blanks and comments

The characters that a document may hold, and what may stand between its parts. A line ends with a
line feed, which a carriage return may precede; a carriage return alone is an error. A comment
runs to the end of its line.
-/

set_option autoImplicit false

namespace HandleLedger.Toml

/-- A character that may stand in a comment and in every kind of string: no control character but
the tab. -/
def isText (c : Char) : Bool :=
  c == '\t' || (0x20 ≤ c.toNat && c.toNat ≤ 0x7e) || 0x80 ≤ c.toNat

/-- A blank within a line. -/
def isBlank (c : Char) : Bool := c == ' ' || c == '\t'

namespace Reader

/-- Blanks within a line, if any. -/
def blanks : Reader Unit := do
  let _ ← spanning isBlank
  return ()

/-- The end of a line. -/
def newline : Reader Unit :=
  either (exactly ['\n']) (exactly ['\r', '\n'])

/-- A comment, up to the end of its line. -/
def comment : Reader Unit := do
  let _ ← char '#'
  let _ ← spanning isText
  return ()

/-- The end of a line or of the text. -/
def lineEnd : Reader Unit := either newline atEnd

/-- What may follow the last part of a line. -/
def lineRest : Reader Unit := do
  blanks
  let _ ← optional comment
  lineEnd

/-- Blanks, line ends and commented lines, if any. -/
def gap : Reader Unit := do
  let _ ← many (either (do
    let _ ← satisfying isBlank) (either newline (do
      comment
      newline)))
  return ()

end Reader

end HandleLedger.Toml
