import HandleLedger.Text.Hexadecimal
import HandleLedger.Toml.Blank

/-!
# Strings

The four written forms of a string. A basic string stands between double quotes and has escapes;
a literal string stands between single quotes and has none. Three quotes instead of one open a
string of several lines, whose first line end is dropped and in which up to two quotes may stand
together, also right before the closing three.
-/

set_option autoImplicit false

namespace HandleLedger.Toml.Quoted

open Reader

/-- A character that stands for itself in a basic string. -/
def isBasic (c : Char) : Bool := isText c && c != '"' && c != '\\'

/-- A character that stands for itself in a literal string. -/
def isLiteral (c : Char) : Bool := isText c && c != '\''

/-- The character of a code point that is written with this many hexadecimal digits. -/
def codePoint (digits : Nat) : Reader Char := do
  let ds ← times digits (satisfying fun c => (Text.hexDigit? c).isSome)
  let point := Text.ofDigits 16 (ds.filterMap Text.hexDigit?)
  guarded (decide point.isValidChar)
  return Char.ofNat point

/-- An escape: a backslash and what it stands before. -/
def escape : Reader Char := do
  let _ ← char '\\'
  let c ← satisfying fun _ => true
  match c with
  | 'b' => return '\x08'
  | 't' => return '\t'
  | 'n' => return '\n'
  | 'f' => return '\x0c'
  | 'r' => return '\r'
  | '"' => return '"'
  | '\\' => return '\\'
  | 'u' => codePoint 4
  | 'U' => codePoint 8
  | _ => fail

/-- A basic string of one line. -/
def basic : Reader String := do
  let _ ← char '"'
  let cs ← many (either (satisfying isBasic) escape)
  let _ ← char '"'
  return String.ofList cs

/-- A literal string of one line. -/
def literal : Reader String := do
  let _ ← char '\''
  let cs ← spanning isLiteral
  let _ ← char '\''
  return String.ofList cs

/-- One or two quotes with something other than a quote after them. -/
def innerQuotes (quote : Char) : Reader (List Char) :=
  let other := ahead (satisfying (· != quote))
  either
    (do
      exactly [quote, quote]
      let _ ← other
      return [quote, quote])
    (do
      exactly [quote]
      let _ ← other
      return [quote])

/-- The closing quotes, with up to two quotes of the string before them. -/
def closingQuotes (quote : Char) : Reader (List Char) :=
  let closing := exactly [quote, quote, quote]
  either
    (do
      exactly [quote, quote]
      closing
      return [quote, quote])
    (either
      (do
        exactly [quote]
        closing
        return [quote])
      (do
        closing
        return []))

/-- A backslash at the end of a line, which joins the line to the next text. -/
def joinedLines : Reader Unit := do
  let _ ← char '\\'
  blanks
  newline
  let _ ← many (either newline (do
    let _ ← satisfying isBlank))

/-- A string of several lines between threefold quotes, made of pieces and inner quotes. -/
def multiline (quote : Char) (piece : Reader (List Char)) : Reader String := do
  exactly [quote, quote, quote]
  let _ ← optional newline
  let pieces ← many (either piece (innerQuotes quote))
  let last ← closingQuotes quote
  return String.ofList (pieces.flatten ++ last)

/-- A line end within a string, which is read as a line feed. -/
def innerNewline : Reader (List Char) := do
  newline
  return ['\n']

/-- A basic string of several lines. -/
def basicLines : Reader String :=
  multiline '"' (either (do return [← satisfying isBasic])
    (either
      (do
        joinedLines
        return [])
      (either (do return [← escape]) innerNewline)))

/-- A literal string of several lines. -/
def literalLines : Reader String :=
  multiline '\'' (either (do return [← satisfying isLiteral]) innerNewline)

/-- A string in any of its forms. -/
def string : Reader String := fun text =>
  match text with
  | '"' :: '"' :: '"' :: _ => basicLines text
  | '"' :: _ => basic text
  | '\'' :: '\'' :: '\'' :: _ => literalLines text
  | '\'' :: _ => literal text
  | _ => none

end HandleLedger.Toml.Quoted
