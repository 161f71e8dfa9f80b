import WebRecipe.Number.Reading

/-!
# Percent signs in addresses

A byte that may not stand in an address is written as a percent sign and two hexadecimal digits.
Characters are written as the bytes of their UTF-8 form.
-/

namespace WebRecipe.Percent

/-- The digit for a number below sixteen, in capitals. -/
def hexDigit (n : Nat) : Char :=
  ((Nat.toDigits 16 n).headD '0').toUpper

/-- A byte behind a percent sign. -/
def ofByte (b : UInt8) : List Char :=
  ['%', hexDigit (b.toNat / 16), hexDigit (b.toNat % 16)]

/-- Whether a character is never written as it is: control characters and those beyond ASCII. -/
def isAlwaysEncoded (c : Char) : Bool :=
  c.toNat < 0x20 || 0x7F ≤ c.toNat

/-- A text with some characters written behind percent signs. -/
def encode (escapes : Char → Bool) (cs : List Char) : List Char :=
  cs.flatMap fun c ↦
    if escapes c || isAlwaysEncoded c then c.toString.toUTF8.toList.flatMap ofByte else [c]

/-- The bytes that a text stands for; a percent sign without two digits stands for itself. -/
def decode : List Char → List UInt8
  | '%' :: a :: b :: rest =>
    match digitValue? a, digitValue? b with
    | some h, some l => UInt8.ofNat (h * 16 + l) :: decode rest
    | _, _ => '%'.toUInt8 :: decode (a :: b :: rest)
  | c :: rest => c.toString.toUTF8.toList ++ decode rest
  | [] => []

/-- The text that the bytes are in UTF-8. -/
def decodeText? (cs : List Char) : Option String :=
  String.fromUTF8? ⟨(decode cs).toArray⟩

end WebRecipe.Percent
