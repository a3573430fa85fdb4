/-!
# Hexadecimal numerals

Handles, dispatch keys and creation indexes are shown as `0x` and the value in base sixteen, in
lower-case digits and without leading zeros, so that each word has one numeral.
-/

set_option autoImplicit false

namespace HandleLedger.Text

/-- The numeral of a machine word, for instance `0x1f`; zero is `0x0`. -/
def hexadecimal (word : UInt64) : String :=
  "0x" ++ String.ofList (Nat.toDigits 16 word.toNat)

/-- The value of a hexadecimal digit of either case. -/
def hexDigit? (c : Char) : Option Nat :=
  if '0' ≤ c ∧ c ≤ '9' then some (c.toNat - '0'.toNat)
  else if 'a' ≤ c ∧ c ≤ 'f' then some (c.toNat - 'a'.toNat + 10)
  else if 'A' ≤ c ∧ c ≤ 'F' then some (c.toNat - 'A'.toNat + 10)
  else none

/-- The value of digits in a base, the most significant first. -/
def ofDigits (base : Nat) (digits : List Nat) : Nat :=
  digits.foldl (fun n d => n * base + d) 0

end HandleLedger.Text
