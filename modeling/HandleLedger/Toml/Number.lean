import HandleLedger.Text.Hexadecimal
import HandleLedger.Toml.Reader

/-!
# Numbers

Integers are signed words of 64 bits, written in base ten with an optional sign, or in base
sixteen, eight or two behind `0x`, `0o` or `0b`. Single underscores may part the digits. A number
with a fraction or an exponent is a float; one that is too large for a double is refused
(`Number.overflows`), while a negative one of any size is accepted. Floats are kept as text.
-/

set_option autoImplicit false

namespace HandleLedger.Toml.Number

open Reader

/-- A decimal digit. -/
def isDigit (c : Char) : Bool := '0' ≤ c && c ≤ '9'

/-- The digits after the first, each after at most one underscore. -/
def moreDigits (test : Char → Bool) : Reader (List Char) :=
  many do
    let _ ← optional (char '_')
    satisfying test

/-- One or more digits, parted by single underscores. -/
def digits (test : Char → Bool) : Reader (List Char) := do
  let c ← satisfying test
  let cs ← moreDigits test
  return c :: cs

/-- An optional sign. -/
def sign : Reader (List Char) := do
  match ← optional (satisfying fun c => c == '+' || c == '-') with
  | none => return []
  | some c => return [c]

/-- Decimal digits without a leading zero. -/
def whole : Reader (List Char) :=
  either
    (do
      let c ← satisfying fun c => isDigit c && c != '0'
      let cs ← moreDigits isDigit
      return c :: cs)
    (do return [← char '0'])

/-- The value of digits in a base. -/
def valueOf (base : Nat) (cs : List Char) : Nat :=
  Text.ofDigits base (cs.filterMap Text.hexDigit?)

/-- Whether an integer is a signed word of 64 bits. -/
def isWord (n : Int) : Bool := -9223372036854775808 ≤ n && n ≤ 9223372036854775807

/-- An integer in a base other than ten, behind a letter that names the base. -/
def based (letter : Char) (base : Nat) : Reader Int := do
  exactly ['0', letter]
  let cs ← digits fun c => (Text.hexDigit? c).any (· < base)
  let n : Int := valueOf base cs
  guarded (isWord n)
  return n

/-- An integer in base ten. -/
def decimal : Reader Int := do
  let s ← sign
  let cs ← whole
  let n : Int := valueOf 10 cs
  let n := if s == ['-'] then -n else n
  guarded (isWord n)
  return n

/-- An integer. -/
def integer : Reader Int := fun text =>
  match text with
  | '0' :: 'x' :: _ => based 'x' 16 text
  | '0' :: 'o' :: _ => based 'o' 8 text
  | '0' :: 'b' :: _ => based 'b' 2 text
  | _ => decimal text

/-- Half a unit beyond the largest double. Decimals from here on round to infinity. -/
def overflowBound : Nat := Nat.pow 2 1024 - Nat.pow 2 970

/-- Whether `digits * 10 ^ exponent` rounds to infinity as a double. The number of digits settles
the question for all but moderate exponents. -/
def overflows (digits : Nat) (exponent : Int) : Bool :=
  let size : Int := (Nat.toDigits 10 digits).length + exponent
  if digits = 0 then false
  else if 400 < size then true
  else if size < 300 then false
  else if 0 ≤ exponent then overflowBound ≤ digits * Nat.pow 10 exponent.toNat
  else overflowBound * Nat.pow 10 (-exponent).toNat ≤ digits

/-- The fraction of a float. -/
def fraction : Reader (List Char) := do
  let _ ← char '.'
  digits isDigit

/-- The exponent of a float, with its sign. -/
def exponent : Reader (List Char × List Char) := do
  let _ ← satisfying fun c => c == 'e' || c == 'E'
  let s ← sign
  let cs ← digits isDigit
  return (s, cs)

/-- A float with a fraction, an exponent or both. -/
def finite : Reader String := do
  let s ← sign
  let w ← whole
  let f ← optional fraction
  let e ← optional exponent
  guarded (f.isSome || e.isSome)
  let places := f.getD []
  let (direction, power) := e.getD ([], ['0'])
  let shift : Int := valueOf 10 power
  let shift := (if direction == ['-'] then -shift else shift) - places.length
  guarded (s == ['-'] || !overflows (valueOf 10 (w ++ places)) shift)
  let written := s ++ w ++ f.elim [] ('.' :: ·)
  return String.ofList (written ++ e.elim [] fun _ => 'e' :: direction ++ power)

/-- An infinity or a value that is no number. -/
def special : Reader String := do
  let s ← sign
  let name ← either
    (do
      exactly ['i', 'n', 'f']
      return ['i', 'n', 'f'])
    (do
      exactly ['n', 'a', 'n']
      return ['n', 'a', 'n'])
  return String.ofList (s ++ name)

/-- A float. -/
def float : Reader String := either finite special

end HandleLedger.Toml.Number
