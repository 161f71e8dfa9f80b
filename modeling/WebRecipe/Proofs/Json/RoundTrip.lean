import WebRecipe.Json.Parser
import WebRecipe.Json.Printer
import WebRecipe.Proofs.Members
import WebRecipe.Proofs.Number.Digits

/-!
# Values that are written and read back

The compact text of a value is read back as the value. This holds for texts with whatever characters,
for integers of 64 bits and for arrays and objects in which no key is there twice, nested less than
127 levels deep. A double is read as its digits over a power of ten, where each of the two is
rounded. A whole number is written with a zero after the point, and so it is read back if its tenfold,
rounded, over ten is the number again, as it is if the tenfold has at most 54 bits.

## Main definitions

* `Json.Parser.Reads`: a reader reads a text up to a rest, wherever the text begins.
* `Json.Parser.ReadsBack`: a reader of values reads a value back from its text.
* `Json.Kept`: the values that are the same when they are written and read back.

## Main results

* `Json.Parser.reads_string`, `Json.Parser.reads_number_integer`,
  `Json.Parser.reads_number_fraction`: strings and numbers.
* `Json.Parser.readsBack_arr`, `Json.Parser.readsBack_obj`: arrays and objects.
* `Json.parse_compact`: documents.
-/

namespace WebRecipe.Json
namespace Parser

variable {α β : Type} {r : Reader α} {f : α → Reader β} {cs ds es : List Char} {a : α} {b : β}

/-- A reader reads a text up to a rest and gives a value, wherever the text begins. -/
def Reads (r : Reader α) (cs : List Char) (a : α) (ds : List Char) : Prop :=
  ∀ offset, ∃ offset', r ⟨cs, offset⟩ = .ok (a, ⟨ds, offset'⟩)

namespace Reads

theorem pure (a : α) (cs : List Char) : Reads (Pure.pure a) cs a cs :=
  fun offset ↦ ⟨offset, rfl⟩

theorem bind (h : Reads r cs a ds) (hf : Reads (f a) ds b es) : Reads (r >>= f) cs b es := by
  intro offset
  obtain ⟨middle, hr⟩ := h offset
  obtain ⟨last, hfa⟩ := hf middle
  refine ⟨last, ?_⟩
  change (r ⟨cs, offset⟩ >>= fun p ↦ f p.1 p.2) = _
  rw [hr]
  exact hfa

theorem within (step : PlaceStep) (h : Reads r cs a ds) : Reads (Parser.within step r) cs a ds := by
  intro offset
  obtain ⟨offset', hr⟩ := h offset
  exact ⟨offset', by rw [Parser.within, hr]⟩

theorem peek (c : Char) (cs : List Char) : Reads Parser.peek (c :: cs) (some c) (c :: cs) :=
  fun offset ↦ ⟨offset, rfl⟩

theorem peek_head (cs : List Char) : Reads Parser.peek cs cs.head? cs :=
  fun offset ↦ ⟨offset, rfl⟩

theorem advance (c : Char) (cs : List Char) : Reads Parser.advance (c :: cs) () cs :=
  fun _ ↦ ⟨_, rfl⟩

theorem remaining (cs : List Char) : Reads Parser.remaining cs cs.length cs :=
  fun offset ↦ ⟨offset, rfl⟩

theorem peekToken {c : Char} (h : isSpace c = false) (cs : List Char) :
    Reads Parser.peekToken (c :: cs) (some c) (c :: cs) := by
  intro offset
  refine ⟨offset, ?_⟩
  change Except.ok (((c :: cs).dropWhile isSpace).head?, (⟨(c :: cs).dropWhile isSpace,
    offset + ((c :: cs).takeWhile isSpace).length⟩ : Cursor)) = _
  rw [List.dropWhile_cons_of_neg (by simp [h]), List.takeWhile_cons_of_neg (by simp [h])]
  rfl

theorem peekToken_nil : Reads Parser.peekToken [] none [] :=
  fun offset ↦ ⟨offset, rfl⟩

theorem pos {p : Prop} [Decidable p] {r' : Reader α} (hp : p) (h : Reads r cs a ds) :
    Reads (if p then r else r') cs a ds := by
  rwa [if_pos hp]

theorem neg {p : Prop} [Decidable p] {r' : Reader α} (hp : ¬ p) (h : Reads r cs a ds) :
    Reads (if p then r' else r) cs a ds := by
  rwa [if_neg hp]

theorem word (ws cs : List Char) : Reads (Parser.word ws) (ws ++ cs) () cs := by
  induction ws with
  | nil => exact pure () cs
  | cons w ws ih =>
    refine .bind (.peek w _) ?_
    exact .pos rfl (.bind (.advance w _) ih)

end Reads

/-! ### Strings -/

private theorem digitsValue?_escape : ∀ n < 32,
    digitsValue? 16 ['0', '0', hexDigit (n / 16), hexDigit (n % 16)] = some n := by
  decide

private theorem reads_hexEscape {n : Nat} (hn : n < 32) (cs : List Char) :
    Reads hexEscape ('0' :: '0' :: hexDigit (n / 16) :: hexDigit (n % 16) :: cs) n cs := by
  intro offset
  refine ⟨offset + 4, ?_⟩
  simp only [hexEscape, List.take_succ_cons, List.take_zero, digitsValue?_escape n hn]
  rfl

/-- An escape of four digits below the blank is read as its character. -/
private theorem reads_unicodeEscape {c : Char} (hc : c.toNat < 32) (cs : List Char) :
    Reads escape ('u' :: '0' :: '0' :: hexDigit (c.toNat / 16) :: hexDigit (c.toNat % 16) :: cs) c
      cs := by
  refine .bind (.peek _ _) (.bind (.advance _ _) ?_)
  refine .bind (reads_hexEscape hc cs) ?_
  refine .neg (by omega) ?_
  refine .pos (by omega) ?_
  rw [Char.ofNat_toNat]
  exact .pure c cs

/-- A character of a string is written as an escape or stands for itself. -/
theorem escapeChar_cases (c : Char) :
    (∃ es, escapeChar c = '\\' :: es ∧ ∀ cs, Reads escape (es ++ cs) c cs) ∨
      escapeChar c = [c] ∧ c ≠ '"' ∧ c ≠ '\\' ∧ ¬ c.toNat < 0x20 := by
  unfold escapeChar
  split
  case h_8 hquote hbackslash _ _ _ _ _ =>
    by_cases hcontrol : c.toNat < 0x20
    · rw [if_pos hcontrol]
      exact .inl ⟨_, rfl, fun cs ↦ reads_unicodeEscape hcontrol cs⟩
    · rw [if_neg hcontrol]
      exact .inr ⟨rfl, hquote, hbackslash, hcontrol⟩
  all_goals exact .inl ⟨_, rfl, fun _ _ ↦ ⟨_, rfl⟩⟩

/-- The characters of a string are read one after another. -/
theorem reads_stringRest_char {c : Char} {done : List Char} {fuel : Nat} {text : String}
    (h : Reads (stringRest (c :: done) fuel) cs text ds) :
    Reads (stringRest done (fuel + 1)) (escapeChar c ++ cs) text ds := by
  obtain ⟨es, hes, hread⟩ | ⟨hes, hquote, hbackslash, hcontrol⟩ := escapeChar_cases c
  · rw [hes]
    refine .bind (.peek _ _) (.neg (by decide) (.pos (by decide) ?_))
    exact .bind (.advance _ _) (.bind (hread cs) h)
  · rw [hes]
    refine .bind (.peek _ _) (.neg ?_ (.neg ?_ (.neg hcontrol ?_)))
    · simpa using hquote
    · simpa using hbackslash
    · exact .bind (.advance _ _) h

theorem reads_stringRest (text done : List Char) {fuel : Nat} (hfuel : text.length < fuel)
    (cs : List Char) :
    Reads (stringRest done fuel) (text.flatMap escapeChar ++ '"' :: cs)
      (String.ofList (done.reverse ++ text)) cs := by
  induction text generalizing done fuel with
  | nil =>
    cases fuel with
    | zero => omega
    | succ fuel =>
      rw [List.append_nil]
      exact .bind (.peek _ _) (.pos rfl (.bind (.advance _ _) (.pure _ _)))
  | cons c text ih =>
    cases fuel with
    | zero => omega
    | succ fuel =>
      rw [List.flatMap_cons, List.append_assoc]
      refine reads_stringRest_char ?_
      have hrest := ih (c :: done) (Nat.lt_of_succ_lt_succ hfuel)
      rwa [List.reverse_cons, List.append_assoc] at hrest

private theorem length_le_escaped (text : List Char) :
    text.length ≤ (text.flatMap escapeChar).length := by
  induction text with
  | nil => exact Nat.le_refl 0
  | cons c text ih =>
    have hone : 1 ≤ (escapeChar c).length := by
      obtain ⟨es, hes, -⟩ | ⟨hes, -⟩ := escapeChar_cases c
      · simp [hes]
      · simp [hes]
    rw [List.flatMap_cons, List.length_append, List.length_cons]
    omega

/-- A string is read back after its opening quote. -/
theorem reads_string (text : String) (cs : List Char) :
    Reads string (text.toList.flatMap escapeChar ++ '"' :: cs) text cs := by
  have hlength := length_le_escaped text.toList
  have hfuel : text.toList.length <
      (text.toList.flatMap escapeChar ++ '"' :: cs).length + 1 := by
    rw [List.length_append]
    omega
  have hread := reads_stringRest text.toList [] hfuel cs
  rw [List.reverse_nil, List.nil_append, String.ofList_toList] at hread
  exact .bind (.remaining _) hread

/-! ### Numbers -/

/-- What may stand after a number: neither a digit nor a part of a number. -/
def AfterNumber (cs : List Char) : Prop :=
  ∀ c ∈ cs.head?, isDigit c = false ∧ c ≠ '.' ∧ c ≠ 'e' ∧ c ≠ 'E'

private theorem isDigit_of_mem {n : Nat} {c : Char} (h : c ∈ Nat.toDigits 10 n) :
    isDigit c = true :=
  Nat.isDigit_of_mem_toDigits (by decide) (by decide) h

theorem reads_takeDigits (ds : List Char) (hds : ∀ c ∈ ds, isDigit c = true)
    (hcs : ∀ c ∈ cs.head?, isDigit c = false) : Reads takeDigits (ds ++ cs) ds cs := by
  have hstop : cs.takeWhile isDigit = [] ∧ cs.dropWhile isDigit = cs := by
    cases cs with
    | nil => exact ⟨rfl, rfl⟩
    | cons c cs =>
      have hc := hcs c rfl
      exact ⟨List.takeWhile_cons_of_neg (by simp [hc]), List.dropWhile_cons_of_neg (by simp [hc])⟩
  intro offset
  refine ⟨offset + ds.length, ?_⟩
  simp only [takeDigits, List.takeWhile_append_of_pos hds, List.dropWhile_append_of_pos hds, hstop.1,
    hstop.2, List.append_nil]

private theorem le_ofDigitChars (ds : List Char) (n : Nat) : n ≤ Nat.ofDigitChars 10 ds n := by
  induction ds generalizing n with
  | nil => exact Nat.le_of_eq Nat.ofDigitChars_nil.symm
  | cons d ds ih =>
    rw [Nat.ofDigitChars_cons]
    exact Nat.le_trans (by omega) (ih _)

/-- Digits that fit 64 bits are read as their value. -/
theorem significant_eq {ds : List Char} (hds : ∀ c ∈ ds, isDigit c = true) {n : Nat}
    (hsmall : Nat.ofDigitChars 10 ds n < maxWord) :
    significant n ds = (Nat.ofDigitChars 10 ds n, ds.length, 0) := by
  induction ds generalizing n with
  | nil => rw [significant, Nat.ofDigitChars_nil, List.length_nil]
  | cons d ds ih =>
    obtain ⟨hd, hds⟩ := List.forall_mem_cons.1 hds
    have hvalue : n * 10 + (digitValue? d).getD 0 = 10 * n + (d.toNat - '0'.toNat) := by
      rw [digitValue?, if_pos (by simpa [isDigit] using hd), Option.getD_some, Nat.mul_comm]
    rw [Nat.ofDigitChars_cons] at hsmall ⊢
    have hfits := Nat.lt_of_le_of_lt (le_ofDigitChars ds _) hsmall
    rw [significant]
    simp only [hvalue, if_pos hfits, ih hds hsmall]
    rfl

/-- Only the digits of zero begin with a zero. -/
private theorem exists_toDigits_cons {n : Nat} (hn : n ≠ 0) :
    ∃ d ds, Nat.toDigits 10 n = d :: ds ∧ d ≠ '0' := by
  induction n using Nat.strongRecOn with
  | ind n ih =>
    by_cases hsmall : n < 10
    · rw [Nat.toDigits_of_lt_base hsmall]
      exact ⟨_, [], rfl, fun h ↦ hn (Nat.digitChar_eq_zero.1 h)⟩
    · obtain ⟨d, ds, hds, hd⟩ := ih (n / 10) (by omega) (by omega)
      rw [Nat.toDigits_of_base_le (by decide) (by omega), hds]
      exact ⟨d, _, rfl, hd⟩

/-- The digits of a number other than zero are read as the number, and what comes next is left. -/
private theorem reads_digits {n : Nat} (hn : n ≠ 0) (hsmall : n < maxWord)
    (hcs : ∀ c ∈ cs.head?, isDigit c = false) :
    ∃ d rest kept, Nat.toDigits 10 n = d :: rest ∧ isDigit d = true ∧ d ≠ '0' ∧
      Reads takeDigits (d :: rest ++ cs) (d :: rest) cs ∧
      significant 0 (d :: rest) = (n, kept, 0) := by
  obtain ⟨d, rest, hdigits, hd⟩ := exists_toDigits_cons hn
  have hmem : ∀ c ∈ Nat.toDigits 10 n, isDigit c = true := fun c ↦ isDigit_of_mem
  have hvalue := Nat.ofDigitChars_ten_toDigits (n := n)
  rw [hdigits] at hmem hvalue
  refine ⟨d, rest, (d :: rest).length, hdigits, hmem d List.mem_cons_self, hd,
    reads_takeDigits _ hmem hcs, ?_⟩
  rw [significant_eq hmem (hvalue ▸ hsmall), hvalue]

/-- A point after the digits of a number makes it a fraction. -/
theorem reads_number_fraction {negative : Bool} {n : Nat} (hsmall : n < maxWord) {v : Json}
    (h : Reads (fraction negative n 0) ('.' :: cs) v ds) :
    Reads (number negative) (Nat.toDigits 10 n ++ '.' :: cs) v ds := by
  by_cases hn : n = 0
  · subst hn
    refine .bind (.peek '0' _) (.neg (by decide) (.pos rfl (.bind (.advance _ _) ?_)))
    exact .bind (.peek '.' _) (.neg (by decide) (.bind (.peek '.' _) h))
  · have hpoint : ∀ c ∈ ('.' :: cs).head?, isDigit c = false := by
      rintro c ⟨⟩
      rfl
    obtain ⟨d, rest, kept, hdigits, hd, hzero, htake, hvalue⟩ := reads_digits hn hsmall hpoint
    rw [hdigits]
    refine .bind (.peek d _) (.neg (by simp [hd]) (.neg (by simpa using hzero) ?_))
    refine .bind htake ?_
    rw [hvalue]
    exact .bind (.peek '.' _) h

/-- Without a point or an exponent after it a number is an integer. -/
theorem reads_number_integer {negative : Bool} {n : Nat} (hsmall : n < maxWord)
    (hcs : AfterNumber cs) :
    Reads (number negative) (Nat.toDigits 10 n ++ cs) (integer negative n) cs := by
  have hdigit : ∀ c ∈ cs.head?, isDigit c = false := fun c hc ↦ (hcs c hc).1
  by_cases hn : n = 0
  · subst hn
    refine .bind (.peek '0' _) (.neg (by decide) (.pos rfl (.bind (.advance _ _) ?_)))
    cases cs with
    | nil => exact .bind (.peek_head _) (.bind (.peek_head _) (.pure _ _))
    | cons c cs =>
      obtain ⟨hdigit, hpoint, hlower, hupper⟩ := hcs c rfl
      refine .bind (.peek c _) (.neg (by simp [hdigit]) (.bind (.peek c _) ?_))
      split
      case h_1 heq => exact absurd (Option.some.inj heq) hpoint
      case h_2 heq => exact absurd (Option.some.inj heq) hlower
      case h_3 heq => exact absurd (Option.some.inj heq) hupper
      case h_4 => exact .pure _ _
  · obtain ⟨d, rest, kept, hdigits, hd, hzero, htake, hvalue⟩ := reads_digits hn hsmall hdigit
    rw [hdigits]
    refine .bind (.peek d _) (.neg (by simp [hd]) (.neg (by simpa using hzero) ?_))
    refine .bind htake ?_
    rw [hvalue]
    refine .bind (.peek_head cs) ?_
    split
    case h_1 heq => exact absurd rfl (hcs _ heq).2.1
    case h_2 heq => exact absurd rfl (hcs _ heq).2.2.1
    case h_3 heq => exact absurd rfl (hcs _ heq).2.2.2
    case h_4 => exact .pos rfl (.pure _ _)

/-- Whole numbers with a zero after the point are read with the digits in a row and divided by ten. -/
theorem reads_fraction_zero (negative : Bool) {n : Nat} (hsmall : 10 * n < maxWord)
    (hcs : AfterNumber cs) :
    Reads (fraction negative n 0) ('.' :: '0' :: cs) (.double (if negative then
      -(Float.ofNat (10 * n) / Float.ofNat 10) else Float.ofNat (10 * n) / Float.ofNat 10)) cs := by
  have hdigits : ∀ c ∈ ['0'], isDigit c := List.forall_mem_singleton.2 rfl
  have hvalue : significant n ['0'] = (10 * n, 1, 0) := by
    have hzero : Nat.ofDigitChars 10 ['0'] n = 10 * n := by
      rw [Nat.ofDigitChars_cons, Nat.ofDigitChars_nil]
      rfl
    rw [significant_eq hdigits (hzero ▸ hsmall), hzero]
    rfl
  have hten : nearestDouble 1 1 = Float.ofNat 10 := by decide +kernel
  have hscaled : scaled negative (10 * n) (0 - (1 : Nat)) = Pure.pure (.double (if negative then
      -(Float.ofNat (10 * n) / Float.ofNat 10) else Float.ofNat (10 * n) / Float.ofNat 10)) := by
    rw [← hten]
    rfl
  refine .bind (.advance _ _) ?_
  refine .bind (reads_takeDigits ['0'] hdigits fun c hc ↦ (hcs c hc).1) ?_
  refine .neg (by decide) ?_
  rw [hvalue]
  refine .bind (.peek_head cs) ?_
  split
  case h_1 heq => exact absurd rfl (hcs _ heq).2.2.1
  case h_2 heq => exact absurd rfl (hcs _ heq).2.2.2
  case h_3 =>
    have hread := Reads.pure (Json.double (if negative then
      -(Float.ofNat (10 * n) / Float.ofNat 10) else Float.ofNat (10 * n) / Float.ofNat 10)) cs
    rwa [← hscaled] at hread

/-! ### Values -/

/-- What may stand after a value. -/
def AfterValue (cs : List Char) : Prop :=
  ∀ c ∈ cs.head?, c = ',' ∨ c = ']' ∨ c = '\x7d'

theorem AfterValue.afterNumber (h : AfterValue cs) : AfterNumber cs := by
  rintro c hc
  obtain rfl | rfl | rfl := h c hc <;> decide

/-- A reader of values reads a value back from its text. -/
structure ReadsBack (r : Reader Json) (v : Json) : Prop where
  reads : ∀ cs, AfterValue cs → Reads r (v.compact.toList ++ cs) v cs
  starts : ∃ c ds, v.compact.toList = c :: ds ∧ isSpace c = false ∧ c ≠ ']'

variable {depth : Nat}

theorem readsBack_null : ReadsBack (value (depth + 1)) .null where
  reads cs _ :=
    .bind (.peekToken rfl _) (.bind (.advance _ _) (.bind (.word "ull".toList cs) (.pure _ _)))
  starts := ⟨'n', "ull".toList, rfl, rfl, by decide⟩

theorem readsBack_bool (b : Bool) : ReadsBack (value (depth + 1)) (.bool b) := by
  cases b with
  | false =>
    exact ⟨fun cs _ ↦ .bind (.peekToken rfl _) (.bind (.advance _ _)
      (.bind (.word "alse".toList cs) (.pure _ _))), 'f', "alse".toList, rfl, rfl, by decide⟩
  | true =>
    exact ⟨fun cs _ ↦ .bind (.peekToken rfl _) (.bind (.advance _ _)
      (.bind (.word "rue".toList cs) (.pure _ _))), 't', "rue".toList, rfl, rfl, by decide⟩

theorem toList_quote (text : String) :
    (quote text).toList = '"' :: (text.toList.flatMap escapeChar ++ ['"']) :=
  String.toList_ofList

theorem readsBack_str (text : String) : ReadsBack (value (depth + 1)) (.str text) where
  reads cs _ := by
    have htext : (compact (.str text)).toList ++ cs =
        '"' :: (text.toList.flatMap escapeChar ++ '"' :: cs) := by
      rw [compact, toList_quote, List.cons_append, List.append_assoc]
      rfl
    rw [htext]
    exact .bind (.peekToken rfl _) (.bind (.advance _ _) (.bind (reads_string text cs) (.pure _ _)))
  starts := ⟨'"', _, toList_quote text, rfl, by decide⟩

private theorem isSpace_of_isDigit {c : Char} (h : isDigit c = true) : isSpace c = false := by
  have hne (d : Char) (hd : isDigit d = false) : c ≠ d := by
    rintro rfl
    rw [h] at hd
    cases hd
  simp [isSpace, hne ' ' rfl, hne '\n' rfl, hne '\t' rfl, hne '\r' rfl]

private theorem reads_value_digit {c : Char} {v : Json} (hc : isDigit c = true)
    (h : Reads (number false) (c :: cs) v ds) : Reads (value (depth + 1)) (c :: cs) v ds := by
  refine .bind (.peekToken (isSpace_of_isDigit hc) _) ?_
  dsimp only
  split
  case h_8 => exact .pos hc h
  all_goals cases hc

/-- A number begins with its sign or with a digit. -/
theorem readsBack_number (negative : Bool) (n : Nat) (tail : List Char) {v : Json}
    (htext : v.compact.toList =
      (if negative then ['-'] else []) ++ (Nat.toDigits 10 n ++ tail))
    (h : ∀ cs, AfterValue cs →
      Reads (number negative) (Nat.toDigits 10 n ++ (tail ++ cs)) v cs) :
    ReadsBack (value (depth + 1)) v := by
  obtain ⟨d, rest, hdigits⟩ := List.exists_cons_of_ne_nil (Nat.toDigits_ne_nil (n := n) (b := 10))
  have hd : isDigit d = true := isDigit_of_mem (n := n) (hdigits ▸ List.mem_cons_self)
  have hclosing : d ≠ ']' := by
    rintro rfl
    cases hd
  cases negative with
  | false =>
    have htext' : v.compact.toList = d :: (rest ++ tail) := by rw [htext, hdigits]; rfl
    refine ⟨fun cs hcs ↦ ?_, d, _, htext', isSpace_of_isDigit hd, hclosing⟩
    have hread := h cs hcs
    rw [hdigits, ← List.append_assoc] at hread
    rw [htext']
    exact reads_value_digit hd hread
  | true =>
    refine ⟨fun cs hcs ↦ ?_, '-', _, htext, rfl, by decide⟩
    have hread := h cs hcs
    rw [← List.append_assoc] at hread
    rw [htext]
    exact .bind (.peekToken rfl _) (.bind (.advance _ _) hread)

private theorem toList_toString (n : Nat) : (toString n).toList = Nat.toDigits 10 n := by
  rw [Nat.toString_eq_repr, Nat.toList_repr]

/-- Integers of 64 bits are read back. -/
theorem readsBack_int {n : Int} (hlow : minInt64 ≤ n) (hhigh : n < (maxWord : Nat)) :
    ReadsBack (value (depth + 1)) (.int n) := by
  have hlimit : Nat.pow 2 63 < maxWord := by decide
  cases n with
  | ofNat n =>
    have hsmall : n < maxWord := Int.ofNat_lt.1 hhigh
    refine readsBack_number false n [] ?_ fun cs hcs ↦
      reads_number_integer hsmall hcs.afterNumber
    rw [List.append_nil]
    exact toList_toString n
  | negSucc n =>
    have hsmall : n + 1 ≤ Nat.pow 2 63 := by
      rw [minInt64] at hlow
      omega
    have hvalue : integer true (n + 1) = .int (Int.negSucc n) := by
      rw [integer, if_pos rfl, if_neg (by omega)]
      rfl
    refine readsBack_number true (n + 1) [] ?_ fun cs hcs ↦ ?_
    · rw [List.append_nil, ← toList_toString]
      exact String.toList_append
    · rw [← hvalue]
      exact reads_number_integer (by omega) hcs.afterNumber

/-- A whole number is a double that JSON can hold. -/
private theorem doubleText_ofWhole (negative : Bool) {n : Nat} (hn : n < 2 ^ 53) :
    doubleText (Double.ofWhole negative n) =
      (if negative then "-" else "") ++ (toString n ++ ".0") := by
  rw [← Layout.write_ofWhole negative hn, doubleText]
  by_cases h : n = 0
  · subst h
    rw [Double.parts_ofWhole_zero]
  · rw [Double.parts_ofWhole negative h hn]

/-- A double that is a whole number is read back if ten times the number over ten is the number. -/
theorem readsBack_double (negative : Bool) {n : Nat} (hn : n < 2 ^ 53)
    (htenth : Float.ofNat (10 * n) / Float.ofNat 10 = Float.ofNat n) :
    ReadsBack (value (depth + 1)) (.double (Double.ofWhole negative n)) := by
  have hlimit : 10 * 2 ^ 53 < maxWord := by decide
  have hvalue : (if negative then -(Float.ofNat (10 * n) / Float.ofNat 10)
      else Float.ofNat (10 * n) / Float.ofNat 10) = Double.ofWhole negative n := by
    rw [htenth, Double.ofWhole]
  refine readsBack_number negative n ['.', '0'] ?_ fun cs hcs ↦ ?_
  · rw [compact, doubleText_ofWhole negative hn, String.toList_append, String.toList_append,
      toList_toString]
    cases negative <;> rfl
  · have hread := reads_fraction_zero negative (n := n) (by omega) hcs.afterNumber
    rw [hvalue] at hread
    exact reads_number_fraction (by omega) hread

/-! ### Arrays -/

private theorem toList_intercalate_cons (t : String) (ts : List String) :
    (",".intercalate (t :: ts)).toList = t.toList ++ ts.flatMap fun u ↦ ',' :: u.toList := by
  induction ts generalizing t with
  | nil => rw [String.intercalate_singleton, List.flatMap_nil, List.append_nil]
  | cons u ts ih =>
    rw [String.intercalate_cons_of_ne_nil (List.cons_ne_nil u ts), String.toList_append,
      String.toList_append, ih, List.flatMap_cons, List.append_assoc]
    rfl

section Items

variable {r : Reader Json} {v : Json}

theorem reads_item_end (isFirst : Bool) : Reads (item r isFirst) (']' :: cs) none cs :=
  .bind (.peekToken rfl _) (.bind (.advance _ _) (.pure _ _))

theorem reads_item_first (h : ReadsBack r v) (hcs : AfterValue cs) :
    Reads (item r true) (v.compact.toList ++ cs) (some v) cs := by
  obtain ⟨c, ds, htext, hspace, hclosing⟩ := h.starts
  have hread := h.reads cs hcs
  rw [htext] at hread ⊢
  refine .bind (.peekToken hspace _) ?_
  split
  case h_1 heq => cases heq
  case h_2 heq => exact absurd (Option.some.inj heq) hclosing
  case h_3 => exact .bind hread (.pure _ _)

theorem reads_item_next (h : ReadsBack r v) (hcs : AfterValue cs) :
    Reads (item r false) (',' :: (v.compact.toList ++ cs)) (some v) cs := by
  obtain ⟨c, ds, htext, hspace, hclosing⟩ := h.starts
  have hread := h.reads cs hcs
  rw [htext] at hread ⊢
  refine .bind (.peekToken rfl _) (.pos rfl (.neg (by decide) (.bind (.advance _ _) ?_)))
  refine .bind (.peekToken hspace _) ?_
  split
  case h_1 heq => exact absurd (Option.some.inj heq) hclosing
  case h_2 => exact .bind hread (.pure _ _)
  case h_3 heq => cases heq

/-- The further items of an array and the closing bracket. -/
def itemsText (vs : List Json) (cs : List Char) : List Char :=
  vs.flatMap (fun v ↦ ',' :: v.compact.toList) ++ ']' :: cs

theorem itemsText_cons (v : Json) (vs : List Json) (cs : List Char) :
    itemsText (v :: vs) cs = ',' :: (v.compact.toList ++ itemsText vs cs) := by
  simp only [itemsText, List.flatMap_cons, List.cons_append, List.append_assoc]

theorem afterValue_itemsText (vs : List Json) (cs : List Char) : AfterValue (itemsText vs cs) := by
  cases vs with
  | nil =>
    rintro c ⟨⟩
    exact .inr (.inl rfl)
  | cons v vs =>
    rw [itemsText_cons]
    rintro c ⟨⟩
    exact .inl rfl

theorem reads_items_next {vs done : List Json} (h : ∀ v ∈ vs, ReadsBack r v) (hdone : done ≠ [])
    {fuel : Nat} (hfuel : vs.length < fuel) :
    Reads (items r done fuel) (itemsText vs cs) (done.reverse ++ vs) cs := by
  have hfirst : done.isEmpty = false := List.isEmpty_eq_false_iff.2 hdone
  induction vs generalizing done fuel with
  | nil =>
    obtain ⟨fuel, rfl⟩ := Nat.exists_eq_add_one_of_ne_zero (Nat.ne_of_gt hfuel)
    rw [List.append_nil]
    exact .bind (.within _ (reads_item_end _)) (.pure _ _)
  | cons v vs ih =>
    obtain ⟨fuel, rfl⟩ := Nat.exists_eq_add_one_of_ne_zero (Nat.ne_of_gt (Nat.zero_lt_of_lt hfuel))
    obtain ⟨hv, hvs⟩ := List.forall_mem_cons.1 h
    have hrest := ih hvs (List.cons_ne_nil v done) (Nat.lt_of_succ_lt_succ hfuel) rfl
    rw [List.reverse_cons, List.append_assoc] at hrest
    rw [itemsText_cons, items, hfirst]
    exact .bind (.within _ (reads_item_next hv (afterValue_itemsText vs cs))) hrest

theorem reads_items {v : Json} {vs : List Json} (h : ∀ w ∈ v :: vs, ReadsBack r w) {fuel : Nat}
    (hfuel : vs.length + 1 < fuel) :
    Reads (items r [] fuel) (v.compact.toList ++ itemsText vs cs) (v :: vs) cs := by
  obtain ⟨fuel, rfl⟩ := Nat.exists_eq_add_one_of_ne_zero (Nat.ne_of_gt (Nat.zero_lt_of_lt hfuel))
  obtain ⟨hv, hvs⟩ := List.forall_mem_cons.1 h
  refine .bind (.within _ (reads_item_first hv (afterValue_itemsText vs cs))) ?_
  exact reads_items_next hvs (List.cons_ne_nil v []) (Nat.lt_of_succ_lt_succ hfuel)

end Items

private theorem compactItems_eq (vs : List Json) : compactItems vs = vs.map compact := by
  induction vs with
  | nil => rfl
  | cons v vs ih => exact congrArg (compact v :: ·) ih

private theorem length_lt_itemsText (vs : List Json) (cs : List Char) :
    vs.length < (itemsText vs cs).length := by
  induction vs with
  | nil => simp [itemsText]
  | cons v vs ih =>
    rw [itemsText_cons, List.length_cons, List.length_cons, List.length_append]
    omega

/-- An array is read back if its items are. -/
theorem readsBack_arr {vs : List Json} (h : ∀ v ∈ vs, ReadsBack (value (depth + 1)) v) :
    ReadsBack (value (depth + 2)) (.arr vs) := by
  have hbegin (cs : List Char) {rest : List Char}
      (hread : Reads (items (value (depth + 1)) [] (rest.length + 1)) rest vs cs) :
      Reads (value (depth + 2)) ('[' :: rest) (.arr vs) cs := by
    refine .bind (.peekToken rfl _) (.neg (Nat.succ_ne_zero depth) ?_)
    exact .bind (.advance _ _) (.bind (.remaining _) (.bind hread (.pure _ _)))
  cases vs with
  | nil =>
    refine ⟨fun cs _ ↦ ?_, '[', [']'], rfl, rfl, by decide⟩
    exact hbegin cs (.bind (.within _ (reads_item_end true)) (.pure _ _))
  | cons v vs =>
    have htext (cs : List Char) : (compact (.arr (v :: vs))).toList ++ cs =
        '[' :: (v.compact.toList ++ itemsText vs cs) := by
      rw [compact, compactItems_eq, List.map_cons, String.toList_append, String.toList_append,
        toList_intercalate_cons, itemsText, List.flatMap_map]
      simp
    refine ⟨fun cs _ ↦ ?_, '[', _, (List.append_nil _).symm.trans (htext []), rfl, by decide⟩
    rw [htext]
    refine hbegin cs (reads_items h ?_)
    have hlength := length_lt_itemsText vs cs
    rw [List.length_append]
    omega

/-! ### Objects -/

section MemberTexts

variable {r : Reader Json} {v : Json} {k : String}

theorem reads_key_end (isFirst : Bool) : Reads (key isFirst) ('\x7d' :: cs) none cs :=
  .bind (.peekToken rfl _) (.bind (.advance _ _) (.pure _ _))

private theorem toList_quote_append (k : String) (cs : List Char) :
    (quote k).toList ++ cs = '"' :: (k.toList.flatMap escapeChar ++ '"' :: cs) := by
  rw [toList_quote, List.cons_append, List.append_assoc]
  rfl

theorem reads_key_first : Reads (key true) ((quote k).toList ++ cs) (some k) cs := by
  rw [toList_quote_append]
  refine .bind (.peekToken rfl _) (.pos rfl (.neg (by decide) ?_))
  exact .bind (.advance _ _) (.bind (reads_string k cs) (.pure _ _))

theorem reads_key_next : Reads (key false) (',' :: ((quote k).toList ++ cs)) (some k) cs := by
  rw [toList_quote_append]
  refine .bind (.peekToken rfl _) (.neg Bool.false_ne_true (.neg (by decide) ?_))
  refine .bind (.advance _ _) (.bind (.peekToken rfl _) ?_)
  exact .bind (.advance _ _) (.bind (reads_string k cs) (.pure _ _))

theorem reads_valueOfMember (h : ReadsBack r v) (hcs : AfterValue cs) :
    Reads (valueOfMember r) (':' :: (v.compact.toList ++ cs)) v cs :=
  .bind (.peekToken rfl _) (.bind (.advance _ _) (h.reads cs hcs))

/-- The text of a member. -/
def memberText (m : String × Json) : List Char :=
  (quote m.1).toList ++ ':' :: m.2.compact.toList

/-- The further members of an object and the closing brace. -/
def membersText (ms : Members) (cs : List Char) : List Char :=
  ms.flatMap (fun m ↦ ',' :: memberText m) ++ '\x7d' :: cs

theorem membersText_cons (m : String × Json) (ms : Members) (cs : List Char) :
    membersText (m :: ms) cs =
      ',' :: ((quote m.1).toList ++ ':' :: (m.2.compact.toList ++ membersText ms cs)) := by
  simp only [membersText, memberText, List.flatMap_cons, List.cons_append, List.append_assoc]

theorem afterValue_membersText (ms : Members) (cs : List Char) :
    AfterValue (membersText ms cs) := by
  cases ms with
  | nil =>
    rintro c ⟨⟩
    exact .inr (.inr rfl)
  | cons m ms =>
    rw [membersText_cons]
    rintro c ⟨⟩
    exact .inl rfl

theorem reads_members_next {ms done : Members} (h : ∀ m ∈ ms, ReadsBack r m.2) (hdone : done ≠ [])
    {fuel : Nat} (hfuel : ms.length < fuel) :
    Reads (members r done fuel) (membersText ms cs) (done.reverse ++ ms) cs := by
  have hfirst : done.isEmpty = false := List.isEmpty_eq_false_iff.2 hdone
  induction ms generalizing done fuel with
  | nil =>
    obtain ⟨fuel, rfl⟩ := Nat.exists_eq_add_one_of_ne_zero (Nat.ne_of_gt hfuel)
    rw [List.append_nil]
    exact .bind (.within _ (reads_key_end _)) (.pure _ _)
  | cons m ms ih =>
    obtain ⟨fuel, rfl⟩ := Nat.exists_eq_add_one_of_ne_zero (Nat.ne_of_gt (Nat.zero_lt_of_lt hfuel))
    obtain ⟨hm, hms⟩ := List.forall_mem_cons.1 h
    have hrest := ih hms (List.cons_ne_nil m done) (Nat.lt_of_succ_lt_succ hfuel) rfl
    rw [List.reverse_cons, List.append_assoc] at hrest
    rw [membersText_cons, members, hfirst]
    refine .bind (.within _ reads_key_next) ?_
    exact .bind (.within _ (reads_valueOfMember hm (afterValue_membersText ms cs))) hrest

theorem reads_members {m : String × Json} {ms : Members} (h : ∀ n ∈ m :: ms, ReadsBack r n.2)
    {fuel : Nat} (hfuel : ms.length + 1 < fuel) :
    Reads (members r [] fuel)
      ((quote m.1).toList ++ ':' :: (m.2.compact.toList ++ membersText ms cs)) (m :: ms) cs := by
  obtain ⟨fuel, rfl⟩ := Nat.exists_eq_add_one_of_ne_zero (Nat.ne_of_gt (Nat.zero_lt_of_lt hfuel))
  obtain ⟨hm, hms⟩ := List.forall_mem_cons.1 h
  refine .bind (.within _ reads_key_first) ?_
  refine .bind (.within _ (reads_valueOfMember hm (afterValue_membersText ms cs))) ?_
  exact reads_members_next hms (List.cons_ne_nil m []) (Nat.lt_of_succ_lt_succ hfuel)

end MemberTexts

private theorem compactMembers_eq (ms : Members) :
    compactMembers ms = ms.map fun m ↦ quote m.1 ++ ":" ++ m.2.compact := by
  induction ms with
  | nil => rfl
  | cons m ms ih => exact congrArg (_ :: ·) ih

private theorem length_lt_membersText (ms : Members) (cs : List Char) :
    ms.length < (membersText ms cs).length := by
  induction ms with
  | nil => simp [membersText]
  | cons m ms ih =>
    simp only [membersText_cons, List.length_cons, List.length_append]
    omega

/-- An object is read back if the values of its members are and no key is there twice. -/
theorem readsBack_obj {ms : Members} (hkeys : (ms.map Prod.fst).Nodup)
    (h : ∀ m ∈ ms, ReadsBack (value (depth + 1)) m.2) :
    ReadsBack (value (depth + 2)) (.obj ms) := by
  have hbegin (cs : List Char) {rest : List Char}
      (hread : Reads (members (value (depth + 1)) [] (rest.length + 1)) rest ms cs) :
      Reads (value (depth + 2)) ('\x7b' :: rest) (.obj ms) cs := by
    refine .bind (.peekToken rfl _) (.neg (Nat.succ_ne_zero depth) ?_)
    refine .bind (.advance _ _) (.bind (.remaining _) (.bind hread ?_))
    rw [Members.ofList_of_nodup hkeys]
    exact .pure _ _
  cases ms with
  | nil =>
    refine ⟨fun cs _ ↦ ?_, '\x7b', ['\x7d'], rfl, rfl, by decide⟩
    exact hbegin cs (.bind (.within _ (reads_key_end true)) (.pure _ _))
  | cons m ms =>
    have htext (cs : List Char) : (compact (.obj (m :: ms))).toList ++ cs = '\x7b' ::
        ((quote m.1).toList ++ ':' :: (m.2.compact.toList ++ membersText ms cs)) := by
      rw [compact, compactMembers_eq, List.map_cons, String.toList_append, String.toList_append,
        toList_intercalate_cons, membersText, List.flatMap_map]
      simp [memberText]
    refine ⟨fun cs _ ↦ ?_, '\x7b', _, (List.append_nil _).symm.trans (htext []), rfl, by decide⟩
    rw [htext]
    refine hbegin cs (reads_members h ?_)
    have hlength := length_lt_membersText ms cs
    simp only [List.length_append, List.length_cons]
    omega

end Parser

/-! ### Documents -/

/-- The values that are the same when they are written and read back, nested less than so many levels
deep: an integer has 64 bits, a double is a whole number and a tenth of its tenfold, and no object has
a key twice. -/
inductive Kept : Nat → Json → Prop
  | null {depth : Nat} : Kept (depth + 1) null
  | bool {depth : Nat} (b : Bool) : Kept (depth + 1) (bool b)
  | int {depth : Nat} {n : Int} (low : minInt64 ≤ n) (high : n < (Parser.maxWord : Nat)) :
      Kept (depth + 1) (int n)
  | double {depth : Nat} (negative : Bool) {n : Nat} (small : n < 2 ^ 53)
      (tenth : Float.ofNat (10 * n) / Float.ofNat 10 = Float.ofNat n) :
      Kept (depth + 1) (double (Double.ofWhole negative n))
  | str {depth : Nat} (text : String) : Kept (depth + 1) (str text)
  | arr {depth : Nat} {items : List Json} (kept : ∀ v ∈ items, Kept (depth + 1) v) :
      Kept (depth + 2) (arr items)
  | obj {depth : Nat} {members : Members} (distinct : (members.map Prod.fst).Nodup)
      (kept : ∀ m ∈ members, Kept (depth + 1) m.2) : Kept (depth + 2) (obj members)

theorem Kept.readsBack {depth : Nat} {v : Json} (h : Kept depth v) :
    Parser.ReadsBack (Parser.value depth) v := by
  induction h with
  | null => exact Parser.readsBack_null
  | bool b => exact Parser.readsBack_bool b
  | int low high => exact Parser.readsBack_int low high
  | double negative small tenth => exact Parser.readsBack_double negative small tenth
  | str text => exact Parser.readsBack_str text
  | arr _ ih => exact Parser.readsBack_arr ih
  | obj distinct _ ih => exact Parser.readsBack_obj distinct ih

/-- **What is written is read back.** A value that is kept is the value of its text. -/
theorem parse_compact {v : Json} (h : Kept 128 v) : parse v.compact = .ok v := by
  have hread : Parser.Reads Parser.document v.compact.toList v [] := by
    have hvalue := h.readsBack.reads [] nofun
    rw [List.append_nil] at hvalue
    exact .bind hvalue (.bind .peekToken_nil (.pure v []))
  obtain ⟨offset, hdocument⟩ := hread 0
  rw [parse, readAll]
  simp only [hdocument]

end WebRecipe.Json
