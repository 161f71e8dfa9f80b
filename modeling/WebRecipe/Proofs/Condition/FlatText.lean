import WebRecipe.Proofs.Condition.Grouping
import WebRecipe.Proofs.Condition.Reading

/-!
# Flat texts

A flat text has words, decimal numerals and flat texts in parentheses, with operators between them.
What it means is told by the strength of its operators.

A word or a numeral in it is followed by a space, a closing parenthesis or the end of the text, and
an operator stands between spaces. So the longest run of characters and the first sign that fits are
the ones that were written, although a sign may go on with other signs and a word with letters.

## Main definitions

* `FlatTerm`, `FlatExpr`: the flat texts.
* `FlatExpr.Means`: the trees of a flat text.
* `Follows`: what may follow an operand of a flat text.

## Main results

* `FlatExpr.means_iff`: a flat text has one tree.
* `reads_chainOp`, `reads_identifier`, `reads_number`: operators, words and numerals are read as
  they were written.
* `Next.fails_assignOp`: an operator is not taken for an assignment.
-/

namespace WebRecipe.Condition

/-- A word that is not a keyword. -/
structure Identifier where
  name : String
  isWord : ∃ c cs, name.toList = c :: cs ∧ isWordStart c = true ∧ ∀ d ∈ cs, isWordChar d = true
  notKeyword : name ∉ keywords

/-- A number in decimal digits. -/
structure Numeral where
  first : Fin 10
  others : List (Fin 10)

namespace Numeral

/-- The digits of a numeral. -/
def digits (n : Numeral) : List (Fin 10) :=
  n.first :: n.others

/-- How a numeral is written. -/
def text (n : Numeral) : List Char :=
  n.digits.map (fun (d : Fin 10) ↦ Nat.digitChar d)

/-- The number that a numeral writes. -/
def value (n : Numeral) : Nat :=
  n.digits.foldl (fun v (d : Fin 10) ↦ v * 10 + d) 0

end Numeral

mutual

/-- An operand of a flat text; there may be a space on both sides inside parentheses. -/
inductive FlatTerm where
  | word (w : Identifier)
  | numeral (n : Numeral)
  | group (padded : Bool) (e : FlatExpr)

/-- Operands with operators between them. -/
inductive FlatExpr where
  | single (t : FlatTerm)
  | chain (t : FlatTerm) (op : ChainOp) (e : FlatExpr)

end

/-- A space, or none. -/
def pad (padded : Bool) : List Char :=
  if padded then [' '] else []

/-! ### Texts and trees -/

mutual

/-- How an operand is written. -/
def FlatTerm.text : FlatTerm → List Char
  | .word w => w.name.toList
  | .numeral n => n.text
  | .group padded e => '(' :: (pad padded ++ e.text ++ pad padded ++ [')'])

/-- How a flat text is written. -/
def FlatExpr.text : FlatExpr → List Char
  | .single t => t.text
  | .chain t op e => t.text ++ ' ' :: op.token.toList ++ ' ' :: e.text

end

/-- A flat text. -/
def FlatExpr.source (e : FlatExpr) : String :=
  String.ofList e.text

mutual

/-- What an operand means: a word a variable, a numeral the nearest number, and parentheses what is
between them. -/
inductive FlatTerm.Means : FlatTerm → Expr → Prop where
  | word (w : Identifier) : FlatTerm.Means (.word w) (.ident w.name)
  | numeral (n : Numeral) : FlatTerm.Means (.numeral n) (.number (nearestDouble n.value 0))
  | group {padded : Bool} {e : FlatExpr} {x : Expr} (h : FlatExpr.Means e x) :
      FlatTerm.Means (.group padded e) x

/-- What the operands of a flat text mean. -/
inductive FlatExpr.Operands : FlatExpr → Expr → List (ChainOp × Expr) → Prop where
  | single {t : FlatTerm} {a : Expr} (h : FlatTerm.Means t a) : FlatExpr.Operands (.single t) a []
  | chain {t : FlatTerm} {op : ChainOp} {e : FlatExpr} {a b : Expr} {rest : List (ChainOp × Expr)}
      (h : FlatTerm.Means t a) (hrest : FlatExpr.Operands e b rest) :
      FlatExpr.Operands (.chain t op e) a ((op, b) :: rest)

/-- What a flat text means: a tree of its operands. -/
inductive FlatExpr.Means : FlatExpr → Expr → Prop where
  | grouped {e : FlatExpr} {a x : Expr} {rest : List (ChainOp × Expr)}
      (hoperands : FlatExpr.Operands e a rest) (hgrouped : Grouped a rest x) : FlatExpr.Means e x

end

mutual

/-- The tree of an operand. -/
def FlatTerm.tree : FlatTerm → Expr
  | .word w => .ident w.name
  | .numeral n => .number (nearestDouble n.value 0)
  | .group _ e => e.operands.group

/-- The chain of the operands of a flat text. -/
def FlatExpr.operands : FlatExpr → Chain
  | .single t => ⟨t.tree, []⟩
  | .chain t op e => ⟨t.tree, (op, e.operands.first) :: e.operands.rest⟩

end

mutual

private theorem FlatTerm.means_tree : ∀ t : FlatTerm, t.Means t.tree
  | .word w => .word w
  | .numeral n => .numeral n
  | .group _ e => .group (.grouped (FlatExpr.operands_operands e) (grouped_iff.2 rfl))

private theorem FlatExpr.operands_operands :
    ∀ e : FlatExpr, e.Operands e.operands.first e.operands.rest
  | .single t => .single (FlatTerm.means_tree t)
  | .chain t _ e => .chain (FlatTerm.means_tree t) (FlatExpr.operands_operands e)

end

mutual

private theorem FlatTerm.eq_tree {t : FlatTerm} {x : Expr} (h : t.Means x) : x = t.tree := by
  cases h with
  | word w => rfl
  | numeral n => rfl
  | group h =>
    cases h with
    | grouped hoperands hgrouped =>
      obtain ⟨rfl, rfl⟩ := FlatExpr.eq_operands hoperands
      exact grouped_iff.1 hgrouped

private theorem FlatExpr.eq_operands {e : FlatExpr} {a : Expr} {rest : List (ChainOp × Expr)}
    (h : e.Operands a rest) : a = e.operands.first ∧ rest = e.operands.rest := by
  cases h with
  | single h => exact ⟨FlatTerm.eq_tree h, rfl⟩
  | chain h hrest =>
    obtain ⟨rfl, rfl⟩ := FlatExpr.eq_operands hrest
    exact ⟨FlatTerm.eq_tree h, rfl⟩

end

/-- A flat text has one tree. -/
theorem FlatExpr.means_iff {e : FlatExpr} {x : Expr} : e.Means x ↔ x = e.operands.group := by
  constructor
  · rintro ⟨hoperands, hgrouped⟩
    obtain ⟨rfl, rfl⟩ := FlatExpr.eq_operands hoperands
    exact grouped_iff.1 hgrouped
  · rintro rfl
    exact .grouped (FlatExpr.operands_operands e) (grouped_iff.2 rfl)

end WebRecipe.Condition

namespace WebRecipe.Condition

open Scanner

variable {s : List Char}

/-! ### What follows an operand -/

/-- What follows an operand after a space: the end of the text, a closing parenthesis or an
operator. -/
inductive Next : List Char → Prop where
  | nil : Next []
  | close (s : List Char) : Next (')' :: s)
  | operator (op : ChainOp) (s : List Char) : Next (op.token.toList ++ ' ' :: s)

/-- What follows the last operand of a flat text. -/
inductive Ending : List Char → Prop where
  | nil : Ending []
  | close (padded : Bool) (s : List Char) : Ending (pad padded ++ ')' :: s)

/-- What follows an operand. -/
inductive Follows : List Char → Prop where
  | ending {s : List Char} (h : Ending s) : Follows s
  | operator (op : ChainOp) (s : List Char) : Follows (' ' :: op.token.toList ++ ' ' :: s)

/-- None of these signs is written after an operand. -/
theorem Next.not_prefix (h : Next s) :
    ∀ w ∈ ["++", "--", ".", "[", "(", ",", "=>"], w.toList.isPrefixOf s = false := by
  simp only [List.forall_mem_cons]
  cases h with
  | nil => exact ⟨rfl, rfl, rfl, rfl, rfl, rfl, rfl, List.forall_mem_nil _⟩
  | close s => exact ⟨rfl, rfl, rfl, rfl, rfl, rfl, rfl, List.forall_mem_nil _⟩
  | operator op s =>
    cases op with
    | binary op => cases op <;> exact ⟨rfl, rfl, rfl, rfl, rfl, rfl, rfl, List.forall_mem_nil _⟩
    | logical op => cases op <;> exact ⟨rfl, rfl, rfl, rfl, rfl, rfl, rfl, List.forall_mem_nil _⟩

theorem Next.fails_assignOp (h : Next s) : assignOp.Fails s := by
  intro position oversized
  cases h with
  | nil => exact ⟨_, rfl⟩
  | close s => exact ⟨_, rfl⟩
  | operator op s =>
    cases op with
    | binary op => cases op <;> exact ⟨_, rfl⟩
    | logical op => cases op <;> exact ⟨_, rfl⟩

theorem reads_chainOp (op : ChainOp) (s : List Char) :
    chainOp.Reads (op.token.toList ++ ' ' :: s) op (' ' :: s) := by
  intro position oversized
  cases op with
  | binary op => cases op <;> exact ⟨_, _, rfl⟩
  | logical op => cases op <;> exact ⟨_, _, rfl⟩

theorem Next.head_not_space (h : Next s) : ∀ c ∈ s.head?, isSpace c = false := by
  cases h with
  | nil => simp
  | close s => simp [isSpace]
  | operator op s =>
    cases op with
    | binary op => cases op <;> exact fun c hc ↦ Option.some.inj hc ▸ rfl
    | logical op => cases op <;> exact fun c hc ↦ Option.some.inj hc ▸ rfl

theorem Follows.head_eq (h : Follows s) : ∀ c ∈ s.head?, c = ' ' ∨ c = ')' := by
  cases h with
  | ending h =>
    cases h with
    | nil => simp
    | close padded s => cases padded <;> simp [pad]
  | operator op s => simp

theorem reads_pad (padded : Bool) (h : ∀ c ∈ s.head?, isSpace c = false) :
    spaces.Reads (pad padded ++ s) () s :=
  Reads.spaces (by cases padded <;> simp [pad, isSpace]) h

theorem Follows.reads_spaces (h : Follows s) : ∃ u, Next u ∧ spaces.Reads s () u := by
  cases h with
  | ending h =>
    cases h with
    | nil => exact ⟨[], .nil, reads_pad false (by simp)⟩
    | close padded s => exact ⟨_, .close s, reads_pad _ (Next.close s).head_not_space⟩
  | operator op s =>
    exact ⟨_, .operator op s, reads_pad true (Next.operator op s).head_not_space⟩

section Signs

variable {α : Type} {p : Scanner α}

theorem Follows.fails_followed (h : Follows s) (hp : ∀ u, Next u → p.Fails u) :
    (followed p).Fails s := by
  obtain ⟨u, hu, hspaces⟩ := h.reads_spaces
  exact hspaces.bind_fails (hp u hu)

theorem Next.fails_text (h : Next s) {w : String}
    (hw : w ∈ ["++", "--", ".", "[", "(", ",", "=>"]) : (text w).Fails s :=
  Fails.literal (h.not_prefix w hw)

end Signs

/-! ### Words and numerals -/

theorem Follows.head_not_word (h : Follows s) : ∀ c ∈ s.head?, isWordChar c = false := by
  intro c hc
  rcases h.head_eq c hc with rfl | rfl <;> rfl

theorem reads_identifier {w : Identifier} (h : ∀ c ∈ s.head?, isWordChar c = false) :
    identifier.Reads (w.name.toList ++ s) w.name s := by
  refine Reads.named ((Reads.word w.isWord h).bind ?_)
  rw [if_neg (mt List.contains_iff_mem.1 w.notKeyword)]
  exact Reads.pure

/-- A character of a class is not one that is outside it. -/
theorem beq_of_class {class? : Char → Bool} {c d : Char} (hc : class? c = true)
    (hd : class? d = false) : (c == d) = false :=
  beq_eq_false_iff_ne.2 fun h ↦ Bool.false_ne_true (hd.symm.trans (h ▸ hc))

theorem isDigit_digitChar (d : Fin 10) : isDigit (Nat.digitChar d) = true := by
  revert d
  decide

theorem isWordStart_digitChar (d : Fin 10) : isWordStart (Nat.digitChar d) = false := by
  revert d
  decide

/-- Every letter comes after the digits. -/
private theorem le_toNat_of_isAlpha {c : Char} (h : c.isAlpha = true) : 65 ≤ c.val.toNat := by
  rcases Bool.or_eq_true_iff.1 h with hupper | hlower
  · exact UInt32.le_iff_toNat_le.1 (of_decide_eq_true hupper).1
  · have hlow : 97 ≤ c.val.toNat :=
      UInt32.le_iff_toNat_le.1 (of_decide_eq_true (Bool.and_eq_true_iff.1 hlower).1)
    omega

/-- A word does not begin with a digit. -/
theorem isDigit_of_isWordStart {c : Char} (hc : isWordStart c = true) : isDigit c = false := by
  rw [Bool.eq_false_iff]
  intro hdigit
  simp only [isDigit, Bool.and_eq_true, decide_eq_true_iff, Char.le_def, UInt32.le_iff_toNat_le]
    at hdigit
  have h0 : 48 ≤ c.val.toNat := hdigit.1
  have h9 : c.val.toNat ≤ 57 := hdigit.2
  simp only [isWordStart, Bool.or_eq_true, beq_iff_eq] at hc
  rcases hc with (hletter | rfl) | rfl
  · have hle := le_toNat_of_isAlpha hletter
    omega
  · exact absurd h9 (by decide)
  · exact absurd h0 (by decide)

theorem digitValue?_digitChar (d : Fin 10) : digitValue? (Nat.digitChar d) = some d.val := by
  revert d
  decide

namespace Numeral

variable (n : Numeral)

theorem isDigit_of_mem_text : ∀ c ∈ n.text, isDigit c = true := by
  intro c hc
  obtain ⟨d, -, rfl⟩ := List.mem_map.1 hc
  exact isDigit_digitChar d

theorem digitsValue?_text : digitsValue? 10 n.text = some n.value := by
  have hfold : ∀ (ds : List (Fin 10)) (v : Nat), (ds.map (fun (d : Fin 10) ↦ Nat.digitChar d)).foldl
      (fun acc c ↦ do
        let n ← acc
        let d ← digitValue? c
        if d < 10 then some (n * 10 + d) else none) (some v) =
        some (ds.foldl (fun (v : Nat) (d : Fin 10) ↦ v * 10 + d) v) := by
    intro ds
    induction ds with
    | nil => intro v; rfl
    | cons d ds ih =>
      intro v
      rw [List.map_cons, List.foldl_cons, List.foldl_cons, ← ih, digitValue?_digitChar]
      exact congrArg (List.foldl _ · _) (if_pos d.isLt)
  exact hfold n.digits 0

theorem takeWhile_text (h : Follows s) : (n.text ++ s).takeWhile isDigit = n.text := by
  rw [List.takeWhile_append_of_pos n.isDigit_of_mem_text]
  cases s with
  | nil => exact List.append_nil _
  | cons c s =>
    rw [List.takeWhile_cons_of_neg, List.append_nil]
    rcases h.head_eq c rfl with rfl | rfl <;> decide

/-- A numeral is not hexadecimal, since no `x` stands in it or after it. -/
theorem hexLength_text (h : Follows s) : hexLength (n.text ++ s) = 0 := by
  have hsecond : ∀ x ∈ (n.text ++ s).tail.head?, (x == 'x' || x == 'X') = false := by
    intro x hx
    have hx : isDigit x = true ∨ x = ' ' ∨ x = ')' := by
      change x ∈ (n.others.map _ ++ s).head? at hx
      cases hothers : n.others with
      | nil =>
        rw [hothers] at hx
        exact .inr (h.head_eq x hx)
      | cons d ds =>
        rw [hothers] at hx
        exact .inl (Option.some.inj hx ▸ isDigit_digitChar d)
    rcases hx with hx | rfl | rfl
    · rw [beq_of_class hx rfl, beq_of_class hx rfl]
      rfl
    · rfl
    · rfl
  unfold hexLength
  split
  case h_1 x rest heq =>
    rw [heq] at hsecond
    rw [hsecond x rfl, if_neg Bool.false_ne_true]
  case h_2 => rfl

theorem numberLength_append (h : Follows s) : numberLength (n.text ++ s) = n.text.length := by
  have hpoint : ∀ rest, s ≠ '.' :: rest := by
    rintro rest rfl
    rcases h.head_eq '.' rfl with h | h <;> cases h
  have hexponent : exponentLength s = 0 := by
    cases s with
    | nil => rfl
    | cons c s => rcases h.head_eq c rfl with rfl | rfl <;> rfl
  have hlength : n.text.length ≠ 0 := by simp [text, digits]
  have hdecimal : decimalLength (n.text ++ s) = n.text.length := by
    unfold decimalLength
    dsimp only
    rw [n.takeWhile_text h, List.drop_left]
    split
    case h_1 rest => exact absurd rfl (hpoint rest)
    case h_2 => rw [if_neg hlength, List.drop_left, hexponent, Nat.add_zero]
  unfold numberLength
  dsimp only
  rw [n.hexLength_text h, if_pos rfl, hdecimal]

/-- A numeral is read as the number nearest to it. -/
theorem numberValue?_text : numberValue? n.text = some (nearestDouble n.value 0) := by
  have hhex := n.hexLength_text (.ending .nil)
  have hrun := n.takeWhile_text (.ending .nil)
  rw [List.append_nil] at hhex hrun
  have hdrop : n.text.dropWhile isDigit = [] := by
    have hsplit := List.takeWhile_append_dropWhile (p := isDigit) (l := n.text)
    rw [hrun] at hsplit
    exact List.append_right_eq_self.1 hsplit
  have hmantissa : mantissa n.text = ⟨n.text, 0, []⟩ := by
    unfold mantissa
    dsimp only
    rw [hrun, hdrop]
  have hunsigned : unsignedDecimal? n.text = some (nearestDouble n.value 0) := by
    unfold unsignedDecimal?
    dsimp only
    rw [hmantissa, n.digitsValue?_text]
    rfl
  have hdigits := n.isDigit_of_mem_text
  rw [numberValue?, if_pos hhex]
  unfold readDecimal?
  split
  case h_1 rest heq =>
    rw [heq] at hdigits
    exact Bool.noConfusion (hdigits '-' List.mem_cons_self)
  case h_2 rest heq =>
    rw [heq] at hdigits
    exact Bool.noConfusion (hdigits '+' List.mem_cons_self)
  case h_3 => exact hunsigned

end Numeral

theorem reads_number {n : Numeral} (h : Follows s) :
    number.Reads (n.text ++ s) (nearestDouble n.value 0) s := by
  have hskip := Reads.skip (s := n.text ++ s) (n := n.text.length)
  rw [List.drop_left] at hskip
  refine Reads.named (Reads.rest.bind ?_)
  dsimp only
  rw [n.numberLength_append h, List.take_left, if_neg (by simp [Numeral.text, Numeral.digits])]
  refine hskip.bind ?_
  rw [n.numberValue?_text]
  exact Reads.pure

theorem fails_number {c : Char} (hc : isDigit c = false) (hpoint : c ≠ '.') :
    number.Fails (c :: s) := by
  have hhex : hexLength (c :: s) = 0 := by
    unfold hexLength
    split
    case h_1 x rest heq =>
      obtain ⟨rfl, -⟩ := List.cons.inj heq
      cases hc
    case h_2 => rfl
  have hdecimal : decimalLength (c :: s) = 0 := by
    unfold decimalLength
    dsimp only
    rw [List.takeWhile_cons_of_neg (Bool.eq_false_iff.1 hc)]
    split
    case h_1 rest heq => exact absurd (List.cons.inj heq).1 hpoint
    case h_2 => rfl
  have hlength : numberLength (c :: s) = 0 := by
    unfold numberLength
    dsimp only
    rw [hhex, if_pos rfl, hdecimal]
  refine Fails.named (Reads.rest.bind_fails ?_)
  dsimp only
  rw [hlength]
  exact fails_failure.bind

end WebRecipe.Condition
