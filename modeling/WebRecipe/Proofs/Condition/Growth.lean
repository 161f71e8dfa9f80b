import WebRecipe.Proofs.Condition.Slicing

/-!
# Texts that grow

Some methods of a text build a longer one: so many copies of the text, or the text filled up to a
length. They do so up to the greatest length, and fail beyond it. This stays so when lengths and
counts are words of 64 bits: where a number is cast to a word, the word is its integer part, a
product that is no word is too long in any case, and no length is taken away from a smaller one.

## Main definitions

* `Beyond`: a length that is asked for is too great.
* `askedLength`: the length that is asked for.
* `growText?`: the methods in words, which fail where a cast is not exact, the bytes cannot be
  counted, or a difference is negative.

## Main results

* `TextMethod.copies_eq_flatten`, `TextMethod.getElem?_cycle`: what is put together of copies.
* `growText?_eq`: calculating in words gives the result of the method.
* `callMethod_repeat`, `callMethod_pad_of_not_beyond`, `callMethod_pad_of_beyond`: the results.
* `text_growth_bounded`: what the methods build, and when they fail.
-/

namespace WebRecipe.Condition

/-! ### Copies -/

namespace TextMethod

theorem copies_eq_flatten (text : List Char) (n : Nat) :
    copies text n = (List.replicate n text).flatten := by
  rw [copies]
  split
  case isFalse => rfl
  case isTrue h =>
    rcases h with rfl | h
    · rfl
    · obtain rfl := List.isEmpty_iff.1 h
      exact (List.flatten_replicate_nil).symm

theorem length_copies (text : List Char) (n : Nat) : (copies text n).length = text.length * n := by
  rw [copies_eq_flatten, List.length_flatten, List.map_replicate, List.sum_replicate_nat,
    Nat.mul_comm]

/-- Copies of a text, one after another, repeat it from position to position. -/
theorem getElem?_copies {text : List Char} {n j : Nat} (hj : j < text.length * n) :
    (copies text n)[j]? = text[j % text.length]? := by
  rw [copies_eq_flatten]
  induction n generalizing j with
  | zero => exact absurd hj (Nat.not_lt_zero j)
  | succ n ih =>
    rw [List.replicate_succ, List.flatten_cons]
    by_cases hfirst : j < text.length
    · rw [List.getElem?_append_left hfirst, Nat.mod_eq_of_lt hfirst]
    · have hlength : text.length ≤ j := Nat.le_of_not_lt hfirst
      have hrest : j - text.length < text.length * n := by
        rw [Nat.mul_succ] at hj
        omega
      rw [List.getElem?_append_right hlength, ih hrest, ← Nat.mod_eq_sub_mod hlength]

theorem cycle_nil (n : Nat) : cycle [] n = [] := by
  rw [cycle, copies, if_pos (.inr rfl), List.take_nil]

private theorem lt_length_copies {filler : List Char} (h : filler ≠ []) (n : Nat) :
    n < filler.length * (n / filler.length + 1) :=
  Nat.lt_mul_div_succ n (List.length_pos_iff.2 h)

theorem length_cycle {filler : List Char} (h : filler ≠ []) (n : Nat) :
    (cycle filler n).length = n := by
  rw [cycle, List.length_take, length_copies]
  exact Nat.min_eq_left (Nat.le_of_lt (lt_length_copies h n))

/-- Going round in a filler repeats it from position to position. -/
theorem getElem?_cycle {filler : List Char} (h : filler ≠ []) {n j : Nat} (hj : j < n) :
    (cycle filler n)[j]? = filler[j % filler.length]? := by
  rw [cycle, List.getElem?_take_of_lt hj]
  exact getElem?_copies (Nat.lt_trans hj (lt_length_copies h n))

end TextMethod

open TextMethod

/-- Copies of a text are the text joined with itself. -/
theorem textValue_copies (s : String) (n : Nat) :
    textValue (copies s.toList n) = .text (String.join (List.replicate n s)) := by
  refine congrArg Value.text (String.toList_inj.1 ?_)
  rw [String.toList_ofList, String.toList_join, copies_eq_flatten, List.flatMap_def,
    List.map_replicate]

theorem length_join_replicate (s : String) (n : Nat) :
    (String.join (List.replicate n s)).length = s.length * n := by
  rw [← String.length_toList, String.toList_join, List.flatMap_def, List.map_replicate,
    ← copies_eq_flatten, length_copies, String.length_toList]

/-! ### Counts and lengths -/

variable (s : String) (args : Arguments)

section Parts

variable {count : Float} {negative : Bool} {m : Nat} {e : Int}

private theorem repeat_of_parts (hparts : Binary64.ofFloat count = .finite negative m e)
    (hsign : (negative && m != 0) = false) : TextMethod.repeat s.toList count =
      if s.length * Whole.magnitude m e ≤ maxTextLength then
        .ok (copies s.toList (Whole.magnitude m e))
      else .error .textTooLong := by
  rw [TextMethod.repeat, hparts]
  simp only [hsign, String.length_toList]
  rfl

end Parts

/-- Copies of a text are counted by the integer part of a number that is not below zero. -/
theorem repeat_eq {count : Float} (hnonneg : 0 ≤ count) (hfinite : count.isFinite = true) :
    ∃ n : Nat, Whole.ofFloat count = .int n ∧ TextMethod.repeat s.toList count =
      if s.length * n ≤ maxTextLength then .ok (copies s.toList n) else .error .textTooLong := by
  obtain ⟨negative, m, e, hparts, hsign⟩ := Double.exists_parts_of_nonneg hnonneg hfinite
  exact ⟨_, Double.ofFloat_of_parts hparts hsign, repeat_of_parts s hparts hsign⟩

/-- The length that is asked for is too great. -/
def Beyond (limit : Nat) : Whole → Prop
  | .nan => False
  | .infinite negative => negative = false
  | .int z => limit < z

/-- The length that is asked for; less than nothing and not a number ask for no length. -/
def askedLength : Whole → Nat
  | .int z => z.toNat
  | _ => 0

/-- What a text is filled up with: the second argument, or spaces. -/
def fillerOf : String :=
  match args.given? 1 with
  | none => " "
  | some v => v.toText

/-- The first argument as a position, where zero stands for one that is missing. -/
theorem whole_eq : args.whole 0 (.int 0) = match Whole.ofFloat (args.value 0).toNumber with
    | .nan => .int 0
    | w => w := by
  have hundefined : Whole.ofFloat Value.undefined.toNumber = .nan := rfl
  rw [Arguments.whole, Arguments.given?, Arguments.value, List.getD_eq_getElem?_getD]
  cases args[0]? with
  | none => rw [Option.getD_none, hundefined]
  | some v => cases v <;> rfl

theorem padding_of_beyond (text : List Char)
    (h : Beyond maxTextLength (Whole.ofFloat (args.value 0).toNumber)) :
    padding text args = .error .textTooLong := by
  rw [padding, whole_eq]
  cases hw : Whole.ofFloat (args.value 0).toNumber with
  | nan =>
    rw [hw] at h
    exact h.elim
  | infinite negative =>
    rw [hw] at h
    obtain rfl : negative = false := h
    rfl
  | int z =>
    rw [hw] at h
    exact if_pos h

private theorem padding_of_whole (text : List Char) {z : Int} (hz : args.whole 0 (.int 0) = .int z)
    (h : z ≤ maxTextLength) :
    padding text args = .ok (cycle (fillerOf args).toList (z.toNat - text.length)) := by
  rw [padding, hz, fillerOf]
  cases args.given? 1 with
  | none => exact if_neg (Int.not_lt.2 h)
  | some v => exact if_neg (Int.not_lt.2 h)

theorem padding_of_not_beyond (text : List Char)
    (h : ¬ Beyond maxTextLength (Whole.ofFloat (args.value 0).toNumber)) :
    padding text args = .ok (cycle (fillerOf args).toList
      (askedLength (Whole.ofFloat (args.value 0).toNumber) - text.length)) := by
  have hwhole := whole_eq args
  cases hw : Whole.ofFloat (args.value 0).toNumber with
  | nan =>
    rw [hw] at hwhole
    exact padding_of_whole args text hwhole (by decide)
  | infinite negative =>
    rw [hw] at h hwhole
    obtain rfl : negative = true := Bool.not_eq_false _ ▸ h
    have hnone : cycle (fillerOf args).toList (0 - text.length) = [] := by
      rw [Nat.zero_sub]
      exact List.take_zero
    rw [padding, hwhole, askedLength, hnone]
    · rfl
    · nofun
  | int z =>
    rw [hw] at h hwhole
    exact padding_of_whole args text hwhole (Int.not_lt.1 h)

/-! ### Words -/

/-- The word that a number is cast to, if it is the integer part of the number. -/
def castExactly? (x : Float) : Option UInt64 :=
  if Whole.ofFloat x = .int x.toUInt64.toNat then some x.toUInt64 else none

/-- The product of words, or the greatest word where the product is greater. -/
def saturatingProduct (a b : UInt64) : UInt64 :=
  .ofNatClamp (a.toNat * b.toNat)

/-- The product of words, if it is a word. -/
def product? (a b : UInt64) : Option UInt64 :=
  if a.toNat * b.toNat < 2 ^ 64 then some (a * b) else none

/-- What is left of a word when another one is taken away, if the other one is not greater. -/
def difference? (a b : UInt64) : Option UInt64 :=
  if b ≤ a then some (a - b) else none

/-- Copies of a text, counted in words; room is made for the bytes of all of them. -/
def repeatWords? (count : Float) : Option (Except EvalError Value) :=
  let length := UInt64.ofNat s.length
  match Whole.ofFloat count with
  | .nan => some (.ok (.text ""))
  | .infinite _ => some (.error (.badCount (numberText count)))
  | .int z =>
    if count < 0 then some (.error (.badCount (numberText count)))
    else if length = 0 ∨ z = 0 then some (.ok (.text ""))
    else if maxTextLength < z then some (.error .textTooLong)
    else do
      let n ← castExactly? count
      if .ofNat maxTextLength < saturatingProduct length n then some (.error .textTooLong)
      else do
        let _ ← product? (.ofNat s.utf8ByteSize) n
        some (.ok (textValue (copies s.toList n.toNat)))

/-- How many characters are missing to a length, counted in words. -/
def missing? (target : Float) : Option (Except EvalError UInt64) :=
  let length := UInt64.ofNat s.length
  match Whole.ofFloat target with
  | .nan => some (.ok 0)
  | .infinite negative => some (if negative then .ok 0 else .error .textTooLong)
  | .int z =>
    if z ≤ 0 then some (.ok 0)
    else if maxTextLength < z then some (.error .textTooLong)
    else do
      let n ← castExactly? target
      if n ≤ length then some (.ok 0) else (difference? n length).map .ok

/-- The methods that build a longer text. -/
def growingMethods : List String :=
  ["repeat", "padStart", "padEnd"]

/-- A method that builds a longer text, where counts and lengths are words: it fails where a cast is
not exact, the bytes cannot be counted, or a difference is negative. -/
def growText? (method : String) : Option (Except EvalError Value) :=
  match method with
  | "repeat" => repeatWords? s (args.value 0).toNumber
  | "padStart" => (missing? s (args.value 0).toNumber).map fun missing ↦ do
    return textValue (cycle (fillerOf args).toList (← missing).toNat ++ s.toList)
  | "padEnd" => (missing? s (args.value 0).toNumber).map fun missing ↦ do
    return textValue (s.toList ++ cycle (fillerOf args).toList (← missing).toNat)
  | _ => none

variable {s args}

/-- A number between zero and the greatest length is cast exactly. -/
theorem castExactly?_eq {x : Float} {z : Int} (hx : Whole.ofFloat x = .int z) (hlow : 0 ≤ z)
    (hhigh : z ≤ maxTextLength) : ∃ n : UInt64, castExactly? x = some n ∧ n.toNat = z := by
  have hmax : maxTextLength < 2 ^ 64 := by decide
  have hcast : (x.toUInt64.toNat : Int) = z := by
    rw [Double.toNat_toUInt64, hx, Whole.clamp]
    omega
  exact ⟨_, if_pos (by rw [hx, hcast]), hcast⟩

/-- A product of words is too long exactly when the word that stands for it is. -/
theorem lt_saturatingProduct_iff {a b : UInt64} {limit : Nat} (h : limit < 2 ^ 64 - 1) :
    .ofNat limit < saturatingProduct a b ↔ limit < a.toNat * b.toNat := by
  have hlimit : (UInt64.ofNat limit).toNat = limit := UInt64.toNat_ofNat_of_lt' (by
    have hsize : UInt64.size = 2 ^ 64 := rfl
    omega)
  rw [UInt64.lt_iff_toNat_lt, hlimit, saturatingProduct, Double.toNat_ofNatClamp, Nat.lt_min]
  exact and_iff_left h

theorem difference?_eq {a b : UInt64} (h : b ≤ a) :
    ∃ c : UInt64, difference? a b = some c ∧ c.toNat = a.toNat - b.toNat :=
  ⟨_, if_pos h, UInt64.toNat_sub_of_le a b h⟩

/-- A character takes one to four bytes. -/
private theorem utf8ByteSize_bounds (s : String) :
    s.length ≤ s.utf8ByteSize ∧ s.utf8ByteSize ≤ 4 * s.length := by
  suffices h : ∀ cs : List Char, cs.length ≤ (String.ofList cs).utf8ByteSize ∧
      (String.ofList cs).utf8ByteSize ≤ 4 * cs.length by
    have hs := h s.toList
    rwa [String.ofList_toList, String.length_toList] at hs
  intro cs
  induction cs with
  | nil => exact ⟨Nat.le_refl 0, Nat.le_refl 0⟩
  | cons c cs ih =>
    have hlow := c.utf8Size_pos
    have hhigh := c.utf8Size_le_four
    rw [← List.singleton_append, String.ofList_append, String.utf8ByteSize_append,
      ← String.singleton_eq_ofList, String.utf8ByteSize_singleton, List.length_append,
      List.length_singleton]
    omega

/-- The bytes of copies that are not too long can be counted in a word. -/
private theorem product?_eq (hs : s.utf8ByteSize < 2 ^ 64) {n : UInt64}
    (h : s.length * n.toNat ≤ maxTextLength) :
    ∃ bytes, product? (.ofNat s.utf8ByteSize) n = some bytes := by
  have hbytes : (UInt64.ofNat s.utf8ByteSize).toNat = s.utf8ByteSize := UInt64.toNat_ofNat_of_lt' hs
  have hmax : 4 * maxTextLength < 2 ^ 64 := by decide
  have hproduct : s.utf8ByteSize * n.toNat ≤ 4 * (s.length * n.toNat) := by
    rw [← Nat.mul_assoc]
    exact Nat.mul_le_mul_right _ (utf8ByteSize_bounds s).2
  exact ⟨_, if_pos (by rw [hbytes]; omega)⟩

/-- The length of a text is a word where the number of its bytes is one. -/
private theorem toNat_length (hs : s.utf8ByteSize < 2 ^ 64) :
    (UInt64.ofNat s.length).toNat = s.length :=
  UInt64.toNat_ofNat_of_lt' (Nat.lt_of_le_of_lt (utf8ByteSize_bounds s).1 hs)

/-- A length that is too great fails in words. -/
theorem missing?_of_beyond {target : Float}
    (h : Beyond maxTextLength (Whole.ofFloat target)) :
    missing? s target = some (.error .textTooLong) := by
  rw [missing?]
  cases hw : Whole.ofFloat target with
  | nan =>
    rw [hw] at h
    exact h.elim
  | infinite negative =>
    rw [hw] at h
    obtain rfl : negative = false := h
    rfl
  | int z =>
    rw [hw] at h
    have hz : (maxTextLength : Int) < z := h
    exact (if_neg (by omega)).trans (if_pos hz)

/-- The count of missing characters in words is the count. -/
theorem missing?_of_not_beyond (hs : s.utf8ByteSize < 2 ^ 64) {target : Float}
    (h : ¬ Beyond maxTextLength (Whole.ofFloat target)) :
    ∃ n : UInt64, missing? s target = some (.ok n) ∧
      n.toNat = askedLength (Whole.ofFloat target) - s.length := by
  rw [missing?]
  cases hw : Whole.ofFloat target with
  | nan => exact ⟨0, rfl, (Nat.zero_sub s.length).symm⟩
  | infinite negative =>
    rw [hw] at h
    obtain rfl : negative = true := Bool.not_eq_false _ ▸ h
    exact ⟨0, rfl, (Nat.zero_sub s.length).symm⟩
  | int z =>
    rw [hw] at h
    have hhigh : z ≤ maxTextLength := Int.not_lt.1 h
    simp only [askedLength]
    by_cases hlow : z ≤ 0
    · refine ⟨0, if_pos hlow, ?_⟩
      rw [Int.toNat_of_nonpos hlow, Nat.zero_sub]
      rfl
    · obtain ⟨n, hcast, hn⟩ := castExactly?_eq hw (by omega) hhigh
      have hlength := toNat_length hs
      rw [if_neg hlow, if_neg (Int.not_lt.2 hhigh), hcast, Option.bind_eq_bind, Option.bind_some]
      by_cases henough : n ≤ .ofNat s.length
      · refine ⟨0, if_pos henough, ?_⟩
        have hle := UInt64.le_iff_toNat_le.1 henough
        change 0 = _
        omega
      · have hle : UInt64.ofNat s.length ≤ n := by
          rw [UInt64.le_iff_toNat_le] at henough ⊢
          omega
        obtain ⟨c, hc, hvalue⟩ := difference?_eq hle
        refine ⟨c, ?_, by omega⟩
        rw [if_neg henough, hc]
        rfl

/-- A count that is not below zero gives as many copies in words, or fails in words. -/
private theorem repeatWords?_of_natural (hs : s.utf8ByteSize < 2 ^ 64) {count : Float} {n : Nat}
    (hnonneg : ¬ count < 0) (hwhole : Whole.ofFloat count = .int n) : repeatWords? s count = some
      (if s.length * n ≤ maxTextLength then .ok (textValue (copies s.toList n))
      else .error .textTooLong) := by
  have hlength := toNat_length hs
  have hzero : UInt64.ofNat s.length = 0 ↔ s.length = 0 := by
    rw [← UInt64.toNat_inj, hlength]
    rfl
  rw [repeatWords?, hwhole]
  simp only [if_neg hnonneg, hzero, Int.natCast_eq_zero, Int.ofNat_lt]
  by_cases hnone : s.length = 0 ∨ n = 0
  · have hproduct : s.length * n = 0 := Nat.mul_eq_zero.2 hnone
    have hcopies : copies s.toList n = [] := by
      rw [← List.length_eq_zero_iff, length_copies, String.length_toList, hproduct]
    rw [if_pos hnone, hproduct, hcopies]
    rfl
  by_cases hbig : maxTextLength < n
  · -- a text that is not empty is at least as long as there are copies
    have hproduct : n ≤ s.length * n := Nat.le_mul_of_pos_left n (by omega)
    rw [if_neg hnone, if_pos hbig, if_neg (by omega)]
  obtain ⟨k, hcast, hk⟩ := castExactly?_eq hwhole (by omega) (by omega)
  obtain rfl : k.toNat = n := Int.ofNat_inj.1 hk
  rw [if_neg hnone, if_neg hbig, hcast, Option.bind_eq_bind, Option.bind_some]
  simp only [lt_saturatingProduct_iff (show maxTextLength < 2 ^ 64 - 1 by decide), hlength]
  by_cases hproduct : maxTextLength < s.length * k.toNat
  · rw [if_pos hproduct, if_neg (Nat.not_le.2 hproduct)]
  · obtain ⟨bytes, hbytes⟩ := product?_eq hs (Nat.not_lt.1 hproduct)
    rw [if_neg hproduct, hbytes, if_pos (Nat.not_lt.1 hproduct)]
    rfl

/-- Copies that are counted in words are the copies. -/
theorem repeatWords?_eq (hs : s.utf8ByteSize < 2 ^ 64) (count : Float) :
    repeatWords? s count =
      some (do return textValue (← TextMethod.repeat s.toList count)) := by
  have hwhole : Whole.ofFloat count = .ofBinary64 (.ofFloat count) := rfl
  cases hparts : Binary64.ofFloat count with
  | nan =>
    rw [repeatWords?, hwhole, TextMethod.repeat, hparts]
    rfl
  | infinite negative =>
    rw [repeatWords?, hwhole, TextMethod.repeat, hparts]
    rfl
  | finite negative m e =>
    have hbelow := Double.lt_zero_iff hparts
    cases hsign : negative && m != 0 with
    | true =>
      rw [repeatWords?, hwhole, TextMethod.repeat, hparts]
      simp only [hsign, if_true, Whole.ofBinary64, if_pos (hbelow.2 hsign)]
      rfl
    | false =>
      have hnonneg : ¬ count < 0 := fun h ↦ Bool.false_ne_true (hsign.symm.trans (hbelow.1 h))
      rw [repeatWords?_of_natural hs hnonneg (Double.ofFloat_of_parts hparts hsign),
        repeat_of_parts s hparts hsign]
      split <;> rfl

/-- Calculating in words gives the result of the method. -/
theorem growText?_eq (hs : s.utf8ByteSize < 2 ^ 64) {method : String}
    (h : method ∈ growingMethods) :
    growText? s args method = some (callMethod (.text s) method args) := by
  have hpadding (build : List Char → List Char) :
      ((missing? s (args.value 0).toNumber).map fun missing ↦ do
        return textValue (build (cycle (fillerOf args).toList (← missing).toNat))) =
      some (do return textValue (build (← padding s.toList args))) := by
    by_cases hbeyond : Beyond maxTextLength (Whole.ofFloat (args.value 0).toNumber)
    · rw [missing?_of_beyond hbeyond, padding_of_beyond args s.toList hbeyond]
      rfl
    · obtain ⟨n, hmissing, hn⟩ := missing?_of_not_beyond hs hbeyond
      rw [hmissing, padding_of_not_beyond args s.toList hbeyond, String.length_toList, ← hn]
      rfl
  simp only [growingMethods, List.mem_cons, List.not_mem_nil, or_false] at h
  obtain rfl | rfl | rfl := h
  · exact repeatWords?_eq hs _
  · exact hpadding (· ++ s.toList)
  · exact hpadding (s.toList ++ ·)

/-! ### Growth -/

/-- What fills up a text of some length to a length that is asked for: as many characters as are
missing, going round in a filler, or nothing where the filler is empty. -/
structure Fills (filler : String) (length asked : Nat) (pad : String) : Prop where
  length_eq : filler ≠ "" → length + pad.length = max length asked
  getElem? : ∀ j < pad.length, pad.toList[j]? = filler.toList[j % filler.length]?
  eq_empty : filler = "" → pad = ""

private theorem fills_cycle (filler : String) (length asked : Nat) :
    Fills filler length asked (String.ofList (cycle filler.toList (asked - length))) := by
  by_cases hfiller : filler = ""
  · subst hfiller
    have hnil : cycle "".toList (asked - length) = [] := cycle_nil _
    rw [hnil]
    exact ⟨fun h ↦ absurd rfl h, fun j hj ↦ absurd hj (Nat.not_lt_zero j), fun _ ↦ rfl⟩
  · have hne : filler.toList ≠ [] := fun h ↦ hfiller (String.toList_eq_nil_iff.1 h)
    refine ⟨fun _ ↦ ?_, fun j hj ↦ ?_, fun h ↦ absurd h hfiller⟩
    · rw [String.length_ofList, length_cycle hne]
      omega
    · rw [String.length_ofList, length_cycle hne] at hj
      rw [String.toList_ofList, getElem?_cycle hne hj, String.length_toList]

/-- As many copies as a count says, or a failure where they are too long. -/
theorem callMethod_repeat (hnonneg : 0 ≤ (args.value 0).toNumber)
    (hfinite : (args.value 0).toNumber.isFinite = true) :
    ∃ n : Nat, Whole.ofFloat (args.value 0).toNumber = .int n ∧
      callMethod (.text s) "repeat" args =
        if s.length * n ≤ maxTextLength then .ok (.text (String.join (List.replicate n s)))
        else .error .textTooLong := by
  obtain ⟨n, hn, hcopies⟩ := repeat_eq s hnonneg hfinite
  have hcall : callMethod (.text s) "repeat" args =
      (do return textValue (← TextMethod.repeat s.toList (args.value 0).toNumber)) := rfl
  refine ⟨n, hn, ?_⟩
  rw [hcall, hcopies, ← textValue_copies]
  split <;> rfl

/-- A length that is too great fails at either end. -/
theorem callMethod_pad_of_beyond
    (h : Beyond maxTextLength (Whole.ofFloat (args.value 0).toNumber)) :
    callMethod (.text s) "padStart" args = .error .textTooLong ∧
      callMethod (.text s) "padEnd" args = .error .textTooLong := by
  have hstart : callMethod (.text s) "padStart" args =
      (do return textValue ((← padding s.toList args) ++ s.toList)) := rfl
  have hend : callMethod (.text s) "padEnd" args =
      (do return textValue (s.toList ++ (← padding s.toList args))) := rfl
  rw [hstart, hend, padding_of_beyond args s.toList h]
  exact ⟨rfl, rfl⟩

/-- What fills up a text to another length stands before or after it. -/
theorem callMethod_pad_of_not_beyond
    (h : ¬ Beyond maxTextLength (Whole.ofFloat (args.value 0).toNumber)) :
    ∃ pad, callMethod (.text s) "padStart" args = .ok (.text (pad ++ s)) ∧
      callMethod (.text s) "padEnd" args = .ok (.text (s ++ pad)) ∧
      Fills (fillerOf args) s.length (askedLength (Whole.ofFloat (args.value 0).toNumber)) pad := by
  have hstart : callMethod (.text s) "padStart" args =
      (do return textValue ((← padding s.toList args) ++ s.toList)) := rfl
  have hend : callMethod (.text s) "padEnd" args =
      (do return textValue (s.toList ++ (← padding s.toList args))) := rfl
  rw [padding_of_not_beyond args s.toList h, String.length_toList] at hstart hend
  refine ⟨_, ?_, ?_, fills_cycle _ _ _⟩
  · refine hstart.trans (congrArg (Except.ok <| Value.text ·) ?_)
    rw [String.ofList_append, String.ofList_toList]
  · refine hend.trans (congrArg (Except.ok <| Value.text ·) ?_)
    rw [String.ofList_append, String.ofList_toList]

/-- **Texts grow up to the greatest length, and nothing overflows.** A count that is finite and not
below zero makes as many copies as its integer part says, whose length is the product, or fails if
the product is too great. A length that is asked for fails if its integer part is too great; else
the text is filled up to it at its front or end, and stays as it is where it is long enough. For
all numbers, calculating with words of 64 bits gives the result: where a number is cast, its integer
part is the word, the bytes of all copies can be counted, and no difference is negative. -/
theorem text_growth_bounded (s : String) (args : Arguments) :
    (0 ≤ (args.value 0).toNumber → (args.value 0).toNumber.isFinite = true →
      ∃ n : Nat, Whole.ofFloat (args.value 0).toNumber = .int n ∧
        (s = "" ∨ n = 0 → callMethod (.text s) "repeat" args = .ok (.text "")) ∧
        (s.length * n ≤ maxTextLength → ∃ t,
          callMethod (.text s) "repeat" args = .ok (.text t) ∧
            t = String.join (List.replicate n s) ∧ t.length = s.length * n) ∧
        (maxTextLength < s.length * n →
          (callMethod (.text s) "repeat" args).mapError EvalError.message =
            .error "Invalid string length")) ∧
    (Beyond maxTextLength (Whole.ofFloat (args.value 0).toNumber) →
      ∀ method ∈ ["padStart", "padEnd"],
        (callMethod (.text s) method args).mapError EvalError.message =
          .error "Invalid string length") ∧
    (¬ Beyond maxTextLength (Whole.ofFloat (args.value 0).toNumber) → ∃ pad,
      callMethod (.text s) "padStart" args = .ok (.text (pad ++ s)) ∧
        callMethod (.text s) "padEnd" args = .ok (.text (s ++ pad)) ∧
        Fills (fillerOf args) s.length (askedLength (Whole.ofFloat (args.value 0).toNumber)) pad) ∧
    (s.utf8ByteSize < 2 ^ 64 → ∀ method ∈ growingMethods,
      growText? s args method = some (callMethod (.text s) method args)) := by
  refine ⟨fun hnonneg hfinite ↦ ?_, fun hbeyond method hmethod ↦ ?_,
    callMethod_pad_of_not_beyond, fun hs method h ↦ growText?_eq hs h⟩
  · obtain ⟨n, hn, hrepeat⟩ := callMethod_repeat (s := s) hnonneg hfinite
    have hlength := length_join_replicate s n
    refine ⟨n, hn, fun hnone ↦ ?_, fun hle ↦ ⟨_, hrepeat.trans (if_pos hle), rfl, hlength⟩,
      fun hlong ↦ ?_⟩
    · have hproduct : s.length * n = 0 := by
        rcases hnone with rfl | rfl
        · exact Nat.zero_mul n
        · rfl
      have hempty : String.join (List.replicate n s) = "" := by
        rw [← String.length_eq_zero_iff, hlength, hproduct]
      rw [hrepeat, if_pos (by omega), hempty]
    · rw [hrepeat, if_neg (Nat.not_le.2 hlong)]
      rfl
  · obtain ⟨hstart, hend⟩ := callMethod_pad_of_beyond (s := s) hbeyond
    simp only [List.mem_cons, List.not_mem_nil, or_false] at hmethod
    rcases hmethod with rfl | rfl
    · rw [hstart]
      rfl
    · rw [hend]
      rfl

/-- Five copies of a text, the text filled up to five characters, and the count in words. -/
theorem text_growth_bounded_five :
    (∃ t, callMethod (.text "abc") "repeat" [.number 5, .text "xy"] = .ok (.text t) ∧
      t.length = 15) ∧
    (∃ pad, callMethod (.text "abc") "padEnd" [.number 5, .text "xy"] = .ok (.text ("abc" ++ pad)) ∧
      pad.length = 2) ∧
    growText? "abc" [.number 5, .text "xy"] "padStart" =
      some (callMethod (.text "abc") "padStart" [.number 5, .text "xy"]) := by
  have hfive : Whole.ofFloat 5 = .int (5 : Nat) := Double.ofFloat_ofNat (n := 5) (by decide)
  have hbeyond : ¬ Beyond maxTextLength (Whole.ofFloat 5) := by
    rw [hfive]
    exact Int.not_lt.2 (by decide)
  obtain ⟨hrepeat, -, hpad, hwords⟩ := text_growth_bounded "abc" [.number 5, .text "xy"]
  obtain ⟨n, hn, -, hcopies, -⟩ := hrepeat (by decide +kernel) (by decide +kernel)
  obtain rfl : 5 = n := Int.ofNat_inj.1 (Whole.int.inj (hfive.symm.trans hn))
  obtain ⟨t, ht, -, hlength⟩ := hcopies (by decide)
  obtain ⟨pad, -, hend, hfills⟩ := hpad hbeyond
  have hsum : 3 + pad.length = max 3 (askedLength (Whole.ofFloat 5)) :=
    hfills.length_eq (by decide)
  have hasked : askedLength (Whole.ofFloat 5) = 5 := by
    rw [hfive]
    rfl
  refine ⟨⟨t, ht, hlength⟩, ⟨pad, hend, ?_⟩, hwords (by decide) "padStart" (by decide)⟩
  rw [hasked] at hsum
  omega

end WebRecipe.Condition
