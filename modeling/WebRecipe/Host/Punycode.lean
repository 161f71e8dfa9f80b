import WebRecipe.Number.Reading

/-!
# Domain labels of other alphabets in ASCII

A label is written in ASCII as its ASCII characters, a hyphen if there are any, and numbers that say where
the other characters stand. The other characters are taken in the order of their code points; a number
counts the places passed over since the last one, going round the label once for each code point. Numbers
are written with letters and digits, the lowest digit first, in bases that adapt to the numbers before.
-/

namespace WebRecipe.Punycode

/-! ### Digits and bases -/

/-- The digit for a number below 36. -/
def digit (n : Nat) : Char :=
  if n < 26 then Char.ofNat (n + 'a'.toNat) else Char.ofNat (n - 26 + '0'.toNat)

/-- The number of a digit; capitals and small letters are the same. -/
def digit? (c : Char) : Option Nat :=
  if 'a' ≤ c ∧ c ≤ 'z' then some (c.toNat - 'a'.toNat)
  else if 'A' ≤ c ∧ c ≤ 'Z' then some (c.toNat - 'A'.toNat)
  else if '0' ≤ c ∧ c ≤ '9' then some (c.toNat - '0'.toNat + 26)
  else none

/-- A digit below this is the last one of a number, where the first digit is at place 36, the second one at
place 72, and so on. -/
def threshold (bias place : Nat) : Nat :=
  if place ≤ bias then 1 else if bias + 26 ≤ place then 26 else place - bias

/-- The bias for a number that is followed by about as great ones, where `n` counts the digits found. -/
def biasFor (delta n : Nat) : Nat :=
  if 455 < delta then biasFor (delta / 35) (n + 36) else n + 36 * delta / (delta + 38)
termination_by delta
decreasing_by omega

/-- The bias after a number, for a label of `length` characters. The first number is mostly much greater
than the others. -/
def adapt (delta length : Nat) (isFirst : Bool) : Nat :=
  let d := if isFirst then delta / 700 else delta / 2
  biasFor (d + d / length) 0

/-! ### Writing -/

/-- The digits of a number from a place on. -/
def digits (bias place n : Nat) : List Char :=
  let t := threshold bias place
  if n < t then [digit n]
  else digit (t + (n - t) % (36 - t)) :: digits bias (place + 36) ((n - t) / (36 - t))
termination_by n
decreasing_by
  have : 1 ≤ threshold bias place := by unfold threshold; split <;> (try split) <;> omega
  exact Nat.lt_of_le_of_lt (Nat.div_le_self _ _) (by omega)

/-- A label that is being written: the number that has been counted up, and how many characters are done. -/
structure Writing where
  delta : Nat
  bias : Nat
  done : Nat
  out : List Char

/-- Passes over a character, or writes the number for it if its code point is `m`. -/
def Writing.pass (basic m : Nat) (w : Writing) (n : Nat) : Writing :=
  if n < m then { w with delta := w.delta + 1 }
  else if n = m then
    { delta := 0
      bias := adapt w.delta (w.done + 1) (w.done == basic)
      done := w.done + 1
      out := w.out ++ digits w.bias 36 w.delta }
  else w

/-- Writes the characters with some code points, from the least one on; `next` comes after the last one
that is done. -/
def Writing.passAll (codes : List Nat) (basic : Nat) : List Nat → Nat → Writing → Writing
  | [], _, w => w
  | m :: ms, next, w =>
    let w := { w with delta := w.delta + (m - next) * (w.done + 1) }
    let w := codes.foldl (Writing.pass basic m) w
    passAll codes basic ms (m + 1) { w with delta := w.delta + 1 }

/-- The first code point that is not ASCII. -/
def firstCode : Nat := 0x80

/-- The bias for the first number. -/
def firstBias : Nat := 72

/-- The form of a label in ASCII. -/
def encode (cs : List Char) : List Char :=
  let basic := cs.filter (·.toNat < firstCode)
  let codes := cs.map Char.toNat
  let others := ((codes.filter (firstCode ≤ ·)).mergeSort (· ≤ ·)).eraseDups
  basic ++ (if basic.isEmpty then [] else ['-']) ++
    (Writing.passAll codes basic.length others firstCode ⟨0, firstBias, basic.length, []⟩).out

/-! ### Reading -/

/-- The greatest number that is read. -/
def greatest : Nat := 0xFFFFFFFF

/-- Reads a number from a place on, where `w` is the weight of the next digit, and adds it to `n`. -/
def number? (bias : Nat) : List Char → Nat → Nat → Nat → Option (Nat × List Char)
  | [], _, _, _ => none
  | c :: rest, place, w, n =>
    match digit? c with
    | none => none
    | some d =>
      let t := threshold bias place
      if d < t then some (n + d * w, rest)
      else if greatest < w * (36 - t) then none
      else number? bias rest (place + 36) (w * (36 - t)) (n + d * w)

theorem length_lt_of_number? {bias : Nat} {cs : List Char} {place w n : Nat} {r : Nat × List Char}
    (h : number? bias cs place w n = some r) : r.2.length < cs.length := by
  induction cs generalizing place w n with
  | nil => simp [number?] at h
  | cons c rest ih =>
    simp only [number?] at h
    split at h
    · simp at h
    · split at h
      · simp only [Option.some.injEq] at h
        simp [← h]
      · split at h
        · simp at h
        · have := ih h
          simp only [List.length_cons]
          omega

/-- Reads the numbers of a label and puts their characters into the ones that are known. -/
def insertAll? (bias code i : Nat) (known : List Char) (cs : List Char) : Option (List Char) :=
  if cs.isEmpty then some known
  else
    match h : number? bias cs 36 1 i with
    | none => none
    | some (j, rest) =>
      have : rest.length < cs.length := length_lt_of_number? h
      let length := known.length + 1
      let code := code + j / length
      if code.isValidChar then
        insertAll? (adapt (j - i) length (i == 0)) code (j % length + 1)
          (known.insertIdx (j % length) (Char.ofNat code)) rest
      else none
termination_by cs.length
decreasing_by exact this

/-- The label that is written in a form in ASCII. -/
def decode? (cs : List Char) : Option (List Char) :=
  let numbers := (cs.reverse.takeWhile (· != '-')).reverse
  let basic := cs.take (cs.length - numbers.length - 1)
  if basic.isEmpty then insertAll? firstBias firstCode 0 [] cs
  else insertAll? firstBias firstCode 0 basic numbers

end WebRecipe.Punycode
