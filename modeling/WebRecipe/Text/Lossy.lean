/-!
# Bytes as text

Bytes read as UTF-8 where they are, with a replacement character for every longest piece that begins a
character but does not go on as one.
-/

namespace WebRecipe.Text

/-- The character that stands for bytes that are none. -/
def replacementChar : Char := Char.ofNat 0xFFFD

/-- How many bytes a character with this first byte has, the bounds of its second byte, and the bits of
the character in its first byte. -/
def leadByte? (b : Nat) : Option (Nat × Nat × Nat × Nat) :=
  if b < 0x80 then some (1, 0, 0, b)
  else if b < 0xC2 then none
  else if b < 0xE0 then some (2, 0x80, 0xBF, b - 0xC0)
  else if b = 0xE0 then some (3, 0xA0, 0xBF, 0)
  else if b = 0xED then some (3, 0x80, 0x9F, 0xD)
  else if b < 0xF0 then some (3, 0x80, 0xBF, b - 0xE0)
  else if b = 0xF0 then some (4, 0x90, 0xBF, 0)
  else if b < 0xF4 then some (4, 0x80, 0xBF, b - 0xF0)
  else if b = 0xF4 then some (4, 0x80, 0x8F, 4)
  else none

/-- The bytes that go on with a character, the bounds for the first of them given: how many there are,
and the code that results. -/
def continued : (more low high code : Nat) → List UInt8 → Nat × Nat
  | 0, _, _, code, _ => (0, code)
  | _ + 1, _, _, code, [] => (0, code)
  | more + 1, low, high, code, b :: rest =>
    if low ≤ b.toNat ∧ b.toNat ≤ high then
      let r := continued more 0x80 0xBF (code * 64 + b.toNat % 64) rest
      (r.1 + 1, r.2)
    else (0, code)

private def lossyGo : Nat → List UInt8 → List Char
  | _, [] => []
  | skip + 1, _ :: rest => lossyGo skip rest
  | 0, b :: rest =>
    match leadByte? b.toNat with
    | none => replacementChar :: lossyGo 0 rest
    | some (size, low, high, code) =>
      let (count, code) := continued (size - 1) low high code rest
      (if count + 1 = size then Char.ofNat code else replacementChar) :: lossyGo count rest

/-- The text of bytes. -/
def lossy (bytes : List UInt8) : String :=
  String.ofList (lossyGo 0 bytes)

end WebRecipe.Text
