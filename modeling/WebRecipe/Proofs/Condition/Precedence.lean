import WebRecipe.Proofs.Condition.FlatText

/-!
# Reading operators between operands

A flat text is read into the tree that the strength of its operators tells, however deep parentheses
are nested. An expression is first tried as an arrow function and as an assignment, a word as a
keyword, parentheses as parameters and arguments, and `?` as a choice between two branches; none of
this is ever mistaken for what was written.

## Main definitions

* `Opening`: a text begins with no sign, no space and no keyword.

## Main results

* `reads_operand_of_primary`, `parse_of_operand`: a text that is one operand.
* `FlatTerm.reads_operand`, `FlatExpr.reads_operands`: what is read at a nesting depth.
* `FlatExpr.parse_source`: a flat text is read as its tree.
-/

namespace WebRecipe.Condition

open Scanner

variable {s : List Char} {assign : Scanner Expr}

/-! ### How operands begin -/

/-- The signs that are written before an operand, and the spaces. -/
def leadingSigns : List Char :=
  ['+', '-', '!', '~', ' ', '\t', '\r', '\n']

/-- A text that begins neither with a sign or space before an operand nor with a keyword. -/
structure Opening (t : List Char) : Prop where
  head : ∀ c ∈ t.head?, c ∉ leadingSigns
  word : ∀ ws, (∀ w ∈ ws, w ∈ keywords) → (wordOf ws).Fails t

namespace Opening

variable {t : List Char} (h : Opening t)

include h

theorem head_not_space : ∀ c ∈ t.head?, isSpace c = false := by
  intro c hc
  refine Bool.eq_false_iff.2 fun hspace ↦ h.head c hc ?_
  simp only [isSpace, Bool.or_eq_true, beq_iff_eq] at hspace
  rcases hspace with ((rfl | rfl) | rfl) | rfl <;> decide

theorem fails_literal {d : Char} (hd : d ∈ leadingSigns) (ds : List Char) :
    (literal (d :: ds)).Fails t := by
  refine Fails.literal ?_
  cases t with
  | nil => rfl
  | cons c cs =>
    rw [List.isPrefixOf_cons_cons, beq_eq_false_iff_ne.2, Bool.false_and]
    rintro rfl
    exact h.head d rfl hd

/-- Nothing is written before an operand. -/
theorem fails_beforeOperand : beforeOperand.Fails t := by
  refine Fails.orElse (Fails.bind (Fails.named (Fails.choice ?_))) (Fails.named (Fails.choice ?_))
  · simp only [List.forall_mem_cons]
    exact ⟨h.fails_literal (by decide) _, h.fails_literal (by decide) _, List.forall_mem_nil _⟩
  · simp only [List.forall_mem_cons]
    exact ⟨Fails.bind (h.fails_literal (by decide) _), Fails.bind (h.fails_literal (by decide) _),
      Fails.bind (h.fails_literal (by decide) _), Fails.bind (h.fails_literal (by decide) _),
      Fails.bind (h.word _ (by decide)), Fails.bind (h.word _ (by decide)),
      Fails.bind (h.word _ (by decide)), Fails.bind (h.word _ (by decide)), List.forall_mem_nil _⟩

theorem fails_construction : (construction assign).Fails t :=
  Fails.named (Fails.bind (Fails.named (Fails.bind (h.word _ (by decide)))))

end Opening

/-- The characters an operand of a flat text begins with. -/
def startsOperand (c : Char) : Bool :=
  isWordStart c || isDigit c || c == '('

theorem isSpace_of_startsOperand {c : Char} (hc : startsOperand c = true) : isSpace c = false := by
  simp only [isSpace, beq_of_class hc (d := ' ') rfl, beq_of_class hc (d := '\t') rfl,
    beq_of_class hc (d := '\r') rfl, beq_of_class hc (d := '\n') rfl, Bool.or_false]

namespace FlatTerm

variable (t : FlatTerm)

theorem text_eq_cons : ∃ c cs, t.text = c :: cs ∧ startsOperand c = true := by
  cases t with
  | word w =>
    obtain ⟨c, cs, hname, hc, -⟩ := w.isWord
    exact ⟨c, cs, hname, by rw [startsOperand, hc]; rfl⟩
  | numeral n =>
    exact ⟨_, _, rfl, by rw [startsOperand, isDigit_digitChar, Bool.or_true]; rfl⟩
  | group padded e => exact ⟨'(', _, rfl, rfl⟩

theorem head_not_space : ∀ c ∈ (t.text ++ s).head?, isSpace c = false := by
  obtain ⟨c, cs, htext, hc⟩ := t.text_eq_cons
  rw [htext]
  intro d hd
  obtain rfl : c = d := Option.some.inj hd
  exact isSpace_of_startsOperand hc

/-- A text that begins otherwise is not read where an operand begins. -/
theorem fails_literal {d : Char} {ds : List Char} (hd : startsOperand d = false) :
    (literal (d :: ds)).Fails (t.text ++ s) := by
  obtain ⟨c, cs, htext, hc⟩ := t.text_eq_cons
  refine Fails.literal ?_
  rw [htext, List.cons_append, List.isPrefixOf_cons_cons, Bool.beq_comm, beq_of_class hc hd,
    Bool.false_and]

/-- No keyword begins an operand. -/
theorem fails_keyword {ws : List String} (hws : ∀ w ∈ ws, w ∈ keywords) (h : Follows s) :
    (wordOf ws).Fails (t.text ++ s) := by
  cases t with
  | word w => exact Fails.wordOf w.isWord (fun hw ↦ w.notKeyword (hws _ hw)) h.head_not_word
  | numeral n => exact Fails.bind (fails_word (isWordStart_digitChar n.first))
  | group padded e => exact Fails.bind (fails_word rfl)

theorem fails_identifier (ht : ∀ w, t ≠ .word w) : identifier.Fails (t.text ++ s) := by
  refine Fails.named (Fails.bind ?_)
  cases t with
  | word w => exact absurd rfl (ht w)
  | numeral n => exact fails_word (isWordStart_digitChar n.first)
  | group padded e => exact fails_word rfl

/-- What begins an operand is no sign before one. -/
theorem opening_of_word
    (hword : ∀ ws, (∀ w ∈ ws, w ∈ keywords) → (wordOf ws).Fails (t.text ++ s)) :
    Opening (t.text ++ s) := by
  refine ⟨?_, hword⟩
  obtain ⟨c, cs, htext, hc⟩ := t.text_eq_cons
  rw [htext]
  intro d hd hmem
  obtain rfl : c = d := Option.some.inj hd
  have hsign : ∀ d ∈ leadingSigns, startsOperand d = false := by
    simp only [leadingSigns, List.forall_mem_cons]
    exact ⟨rfl, rfl, rfl, rfl, rfl, rfl, rfl, rfl, List.forall_mem_nil _⟩
  exact Bool.false_ne_true ((hsign c hmem).symm.trans hc)

theorem opening (h : Follows s) : Opening (t.text ++ s) :=
  t.opening_of_word fun _ hws ↦ t.fails_keyword hws h

end FlatTerm

/-- An identifier is no keyword, whatever follows that is no part of it. -/
theorem Identifier.opening (w : Identifier) (h : ∀ c ∈ s.head?, isWordChar c = false) :
    Opening (w.name.toList ++ s) :=
  (FlatTerm.word w).opening_of_word fun _ hws ↦
    Fails.wordOf w.isWord (fun hw ↦ w.notKeyword (hws _ hw)) h

/-! ### Operands -/

/-- What an operand of a flat text is never read as. -/
private def foreign (assign : Scanner Expr) : List (Scanner Expr) :=
  [do return .text (← string),
    template assign,
    named do return .bool ((← wordOf ["true", "false"]) == "true"),
    named (keyword "null" .null),
    named (keyword "undefined" .undefined),
    named (keyword "this" .this),
    withBlock "function" .function,
    withBlock "class" .classBody,
    named do return .array (← enclosed "[" "]" (element assign)),
    named do return .object (← enclosed "\x7b" "\x7d" (entry assign))]

private theorem FlatTerm.fails_foreign (t : FlatTerm) (h : Opening (t.text ++ s)) :
    ∀ p ∈ foreign assign, p.Fails (t.text ++ s) := by
  simp only [foreign, List.forall_mem_cons]
  exact ⟨Fails.bind (Fails.named (Fails.orElse (Fails.bind (t.fails_literal rfl))
      (Fails.bind (t.fails_literal rfl)))),
    Fails.named (Fails.bind (t.fails_literal rfl)),
    Fails.named (Fails.bind (h.word _ (by decide))),
    Fails.named (Fails.bind (h.word _ (by decide))),
    Fails.named (Fails.bind (h.word _ (by decide))),
    Fails.named (Fails.bind (h.word _ (by decide))),
    Fails.named (Fails.bind (Fails.named (Fails.bind (h.word _ (by decide))))),
    Fails.named (Fails.bind (Fails.named (Fails.bind (h.word _ (by decide))))),
    Fails.named (Fails.bind (Fails.bind (t.fails_literal rfl))),
    Fails.named (Fails.bind (Fails.bind (t.fails_literal rfl))), List.forall_mem_nil _⟩

theorem reads_word_primary {w : Identifier} (h : ∀ c ∈ s.head?, isWordChar c = false) :
    (primary assign).Reads (w.name.toList ++ s) (.ident w.name) s := by
  have hnumber : number.Fails (w.name.toList ++ s) := by
    obtain ⟨c, cs, hname, hc, -⟩ := w.isWord
    rw [hname]
    exact fails_number (isDigit_of_isWordStart hc)
      (beq_eq_false_iff_ne.1 (beq_of_class hc (d := '.') rfl))
  have hparen : (text "(").Fails (w.name.toList ++ s) := by
    obtain ⟨c, cs, hname, hc, -⟩ := w.isWord
    refine Fails.literal ?_
    rw [hname]
    exact congrArg (· && _) (Bool.beq_comm.trans (beq_of_class hc (d := '(') rfl))
  refine Reads.orElse_right (Fails.bind hnumber) ?_
  refine Reads.choice (foreign assign ++ [between "(" ")" (expression assign)]) []
    (List.forall_mem_append.2 ⟨(FlatTerm.word w).fails_foreign (w.opening h), fun p hp ↦ ?_⟩)
    (Reads.map (reads_identifier h))
  rw [List.mem_singleton.1 hp]
  exact Fails.named (Fails.bind hparen)

private theorem reads_numeral_primary {n : Numeral} (h : Follows s) :
    (primary assign).Reads (n.text ++ s) (.number (nearestDouble n.value 0)) s :=
  Reads.orElse_left (Reads.map (reads_number h))

/-- What follows an expression is no comma. -/
private theorem reads_expression {x : Expr} {t : List Char} (hread : assign.Reads s x t)
    (h : Follows t) : (expression assign).Reads s x t := by
  have hcomma : (afterComma assign).Fails t :=
    h.fails_followed (p := do text ","; spaces; assign)
      fun u hu ↦ Fails.bind (hu.fails_text (by decide))
  exact Reads.named ((hread.bind (Reads.many_nil hcomma).map).bind Reads.pure)

private theorem reads_group_primary {padded : Bool} {e : FlatExpr} {x : Expr} (h : Follows s)
    (hhead : ∀ t, ∀ c ∈ (e.text ++ t).head?, isSpace c = false)
    (hread : assign.Reads (e.text ++ (pad padded ++ ')' :: s)) x (pad padded ++ ')' :: s)) :
    (primary assign).Reads ((FlatTerm.group padded e).text ++ s) x s := by
  have htext : (FlatTerm.group padded e).text ++ s =
      "(".toList ++ (pad padded ++ (e.text ++ (pad padded ++ (")".toList ++ s)))) := by
    simp [FlatTerm.text]
  have hbetween : (between "(" ")" (expression assign)).Reads
      ((FlatTerm.group padded e).text ++ s) x s := by
    rw [htext]
    refine Reads.named (Reads.literal.bind ((reads_pad _ (hhead _)).bind ?_))
    refine (reads_expression hread (.ending (.close padded s))).bind ?_
    refine (reads_pad _ (Next.close s).head_not_space).bind (Reads.literal.bind Reads.pure)
  refine Reads.orElse_right (Fails.bind (fails_number rfl (by decide))) ?_
  exact Reads.choice (foreign assign) [do return .ident (← identifier)]
    ((FlatTerm.group padded e).fails_foreign (FlatTerm.opening _ h)) hbetween

/-- A member or a call after spaces. -/
def suffix (assign : Scanner Expr) : Scanner (Expr → Expr) :=
  followed (choice
    [memberName, memberIndex assign, do
      let args ← arguments assign
      return fun e ↦ .call e args])

/-- Nothing is written after an operand. -/
theorem Follows.fails_suffix (h : Follows s) : (suffix assign).Fails s := by
  refine h.fails_followed fun u hu ↦ Fails.choice ?_
  simp only [List.forall_mem_cons]
  exact ⟨Fails.named (Fails.bind (hu.fails_text (by decide))),
    Fails.bind (Fails.named (Fails.bind (hu.fails_text (by decide)))),
    Fails.bind (Fails.named (Fails.bind (hu.fails_text (by decide)))), List.forall_mem_nil _⟩

/-- An operand is what it begins with and its members and calls. -/
theorem reads_operand {t u : List Char} {start : Expr} {path : List (Expr → Expr)}
    (ht : Opening t) (hstart : (primary assign).Reads t start u)
    (hpath : ReadsMany (suffix assign) u path s) (h : Follows s) :
    (operand assign).Reads t (path.foldl (fun e f ↦ f e) start) s := by
  have hupdate : (followed updateSign).Fails s := by
    refine h.fails_followed fun u hu ↦ Fails.named (Fails.choice ?_)
    simp only [List.forall_mem_cons]
    exact ⟨hu.fails_text (by decide), hu.fails_text (by decide), List.forall_mem_nil _⟩
  have hwith : (withSuffixes assign).Reads t (path.foldl (fun e f ↦ f e) start) s :=
    Reads.named ((Reads.orElse_right ht.fails_construction hstart).bind
      ((Reads.many hpath).bind ((Reads.optional_none hupdate).bind Reads.pure)))
  exact Reads.named ((Reads.many_nil (Fails.bind ht.fails_beforeOperand)).bind
    (hwith.bind Reads.pure))

/-- Nothing is written before or after an operand. -/
theorem reads_operand_of_primary {t : List Char} {x : Expr} (ht : Opening t) (h : Follows s)
    (hread : (primary assign).Reads t x s) : (operand assign).Reads t x s :=
  reads_operand ht hread (.nil h.fails_suffix) h

/-! ### Flat texts are no arrow functions -/

/-- The first operand of a flat text. -/
def FlatExpr.head : FlatExpr → FlatTerm
  | .single t => t
  | .chain t _ _ => t

/-- What follows the first operand of a flat text before a rest. -/
inductive Tail (s : List Char) : List Char → Prop where
  | rest : Tail s s
  | operator (op : ChainOp) (u : List Char) : Tail s (' ' :: op.token.toList ++ ' ' :: u)

theorem FlatExpr.text_append (e : FlatExpr) (s : List Char) :
    ∃ u, e.text ++ s = e.head.text ++ u ∧ Tail s u := by
  cases e with
  | single t => exact ⟨s, rfl, .rest⟩
  | chain t op e =>
    exact ⟨' ' :: op.token.toList ++ ' ' :: (e.text ++ s), by simp [text, head], .operator op _⟩

theorem FlatExpr.head_not_space (e : FlatExpr) (s : List Char) :
    ∀ c ∈ (e.text ++ s).head?, isSpace c = false := by
  obtain ⟨u, htext, -⟩ := e.text_append s
  rw [htext]
  exact e.head.head_not_space

theorem Tail.follows {u : List Char} (hu : Tail s u) (h : Ending s) : Follows u := by
  cases hu with
  | rest => exact .ending h
  | operator op u => exact .operator op u

private theorem fails_close (op : ChainOp) (s : List Char) :
    (text ")").Fails (op.token.toList ++ ' ' :: s) := by
  refine Fails.literal ?_
  cases op with
  | binary op => cases op <;> rfl
  | logical op => cases op <;> rfl

/-- Parameters are a whole operand, or there are none. -/
private theorem arrowParams_cases (t : FlatTerm) (h : Follows s) :
    arrowParams.Fails (t.text ++ s) ∨ arrowParams.Reads (t.text ++ s) () s := by
  cases t with
  | word w => exact .inr (Reads.named (Reads.orElse_left (reads_identifier h.head_not_word).map))
  | numeral n =>
    have hparen : (text "(").Fails (n.text ++ s) :=
      Fails.literal (congrArg (· && _) (Bool.beq_comm.trans
        (beq_of_class (isDigit_digitChar n.first) (d := '(') rfl)))
    exact .inl (Fails.named (Fails.orElse
      (Fails.bind ((FlatTerm.numeral n).fails_identifier nofun)) (Fails.bind hparen)))
  | group padded e =>
    obtain ⟨u, hbody, hu⟩ := e.text_append (pad padded ++ ')' :: s)
    have htext : (FlatTerm.group padded e).text ++ s =
        "(".toList ++ (pad padded ++ (e.head.text ++ u)) := by
      rw [← hbody]
      simp [FlatTerm.text]
    have hidentifier : identifier.Fails ("(".toList ++ (pad padded ++ (e.head.text ++ u))) :=
      Fails.named (Fails.bind (fails_word rfl))
    rw [htext]
    by_cases hhead : ∃ w, e.head = .word w
    case pos =>
      obtain ⟨w, hw⟩ := hhead
      have hfollows : Follows u := hu.follows (.close padded s)
      have hcomma : (afterComma identifier).Fails u :=
        hfollows.fails_followed (p := do text ","; spaces; identifier)
          fun v hv ↦ Fails.bind (hv.fails_text (by decide))
      have hnames : (optional (separated identifier)).Reads (e.head.text ++ u)
          (some (w.name, [])) u := by
        rw [hw]
        exact Reads.optional_some ((reads_identifier hfollows.head_not_word).bind
          (Reads.many_nil hcomma).map)
      cases hu with
      | rest =>
        refine .inr (Reads.named (Reads.orElse_right (Fails.bind hidentifier) ?_))
        refine Reads.literal.bind ((reads_pad _ e.head.head_not_space).bind (hnames.bind ?_))
        exact (reads_pad _ (Next.close s).head_not_space).bind (Reads.literal (w := ")".toList))
      | operator op u =>
        have hspaces := reads_pad true (Next.operator op u).head_not_space
        refine .inl (Fails.named (Fails.orElse (Fails.bind hidentifier) ?_))
        refine Reads.literal.bind_fails ((reads_pad _ e.head.head_not_space).bind_fails ?_)
        exact hnames.bind_fails (hspaces.bind_fails (fails_close op u))
    case neg =>
      have hnames : (optional (separated identifier)).Reads (e.head.text ++ u) none
          (e.head.text ++ u) :=
        Reads.optional_none (Fails.bind (e.head.fails_identifier fun w hw ↦ hhead ⟨w, hw⟩))
      have hspaces := reads_pad false (e.head.head_not_space (s := u))
      refine .inl (Fails.named (Fails.orElse (Fails.bind hidentifier) ?_))
      refine Reads.literal.bind_fails ((reads_pad _ e.head.head_not_space).bind_fails ?_)
      exact hnames.bind_fails (hspaces.bind_fails (e.head.fails_literal rfl))

/-- No arrow follows what could be parameters. -/
theorem FlatExpr.fails_arrow (e : FlatExpr) (h : Ending s) :
    (arrow assign).Fails (e.text ++ s) := by
  obtain ⟨u, htext, hu⟩ := e.text_append s
  have hfollows : Follows u := hu.follows h
  rw [htext]
  rcases arrowParams_cases e.head hfollows with hparams | hparams
  · exact Fails.named (Fails.bind hparams)
  · refine Fails.named (hparams.bind_fails (hfollows.fails_followed fun v hv ↦ ?_))
    exact Fails.bind (hv.fails_text (by decide))

/-! ### Chains of operands -/

mutual

/-- How deep parentheses are nested in an operand. -/
def FlatTerm.depth : FlatTerm → Nat
  | .word _ => 0
  | .numeral _ => 0
  | .group _ e => e.depth + 1

/-- How deep parentheses are nested in a flat text. -/
def FlatExpr.depth : FlatExpr → Nat
  | .single t => t.depth
  | .chain t _ e => max t.depth e.depth

end

mutual

theorem FlatTerm.depth_le_length : ∀ t : FlatTerm, t.depth ≤ t.text.length
  | .word w => Nat.zero_le _
  | .numeral n => Nat.zero_le _
  | .group padded e => by
    have := FlatExpr.depth_le_length e
    simp only [FlatTerm.depth, FlatTerm.text, List.length_cons, List.length_append]
    omega

theorem FlatExpr.depth_le_length : ∀ e : FlatExpr, e.depth ≤ e.text.length
  | .single t => FlatTerm.depth_le_length t
  | .chain t op e => by
    have := FlatTerm.depth_le_length t
    have := FlatExpr.depth_le_length e
    simp only [FlatExpr.depth, FlatExpr.text, List.length_cons, List.length_append]
    omega

end

private theorem Ending.reads_spaces (h : Ending s) :
    ∃ u, (u = [] ∨ ∃ v, u = ')' :: v) ∧ spaces.Reads s () u := by
  cases h with
  | nil => exact ⟨[], .inl rfl, reads_pad false (by simp)⟩
  | close padded s => exact ⟨_, .inr ⟨s, rfl⟩, reads_pad _ (Next.close s).head_not_space⟩

/-- An operator with the operand after it. -/
private def chainStep (assign : Scanner Expr) : Scanner (ChainOp × Expr) := do
  spaces
  let op ← chainOp
  spaces
  return (op, ← operand assign)

private theorem Ending.fails_chainStep (h : Ending s) : (chainStep assign).Fails s := by
  obtain ⟨u, hu, hspaces⟩ := h.reads_spaces
  refine hspaces.bind_fails (Fails.bind ?_)
  rcases hu with rfl | ⟨v, rfl⟩
  · exact fun _ _ ↦ ⟨_, rfl⟩
  · exact fun _ _ ↦ ⟨_, rfl⟩

private theorem Ending.fails_branches (h : Ending s) : (branches assign).Fails s := by
  obtain ⟨u, hu, hspaces⟩ := h.reads_spaces
  refine hspaces.bind_fails (Fails.bind ?_)
  rcases hu with rfl | ⟨v, rfl⟩
  · exact fun _ _ ↦ ⟨_, rfl⟩
  · exact fun _ _ ↦ ⟨_, rfl⟩

/-- A text that is no arrow function is read once its operands are. -/
private theorem reads_assignmentOver {t u : List Char} {first : Expr}
    {rest : List (ChainOp × Expr)} (harrow : (arrow assign).Fails t) (h : Ending s)
    (hu : Follows u) (hfirst : (operand assign).Reads t first u)
    (hrest : ReadsMany (chainStep assign) u rest s) :
    (assignmentOver assign).Reads t (Chain.mk first rest).group s := by
  have hassign : (assignmentTo assign first).Fails u :=
    hu.fails_followed (p := do assignOp; spaces; return Expr.assignment first (← assign))
      fun v hv ↦ Fails.bind hv.fails_assignOp
  refine Reads.named (Reads.orElse_right harrow (hfirst.bind ?_))
  refine Reads.orElse_right hassign ?_
  exact (Reads.many hrest).bind ((Reads.optional_none h.fails_branches).bind Reads.pure)

/-- A flat text is read once its operands are. -/
private theorem FlatExpr.reads_assignmentOver {e : FlatExpr} {u : List Char} (h : Ending s)
    (hu : Follows u) (hfirst : (operand assign).Reads (e.text ++ s) e.operands.first u)
    (hrest : ReadsMany (chainStep assign) u e.operands.rest s) :
    (assignmentOver assign).Reads (e.text ++ s) e.operands.group s :=
  Condition.reads_assignmentOver (e.fails_arrow h) h hu hfirst hrest

mutual

/-- An operand is read where expressions can be nested as deep as in it. -/
theorem FlatTerm.reads_operand : ∀ (t : FlatTerm) {d : Nat} {s : List Char}, t.depth ≤ d →
    Follows s → (operand (assignment d)).Reads (t.text ++ s) t.tree s
  | .word w, _, _, _, h =>
    reads_operand_of_primary (w.opening h.head_not_word) h (reads_word_primary h.head_not_word)
  | .numeral n, _, _, _, h =>
    reads_operand_of_primary (FlatTerm.opening (.numeral n) h) h (reads_numeral_primary h)
  | .group padded e, d, s, hd, h => by
    obtain ⟨d, rfl⟩ := Nat.exists_eq_succ_of_ne_zero (Nat.ne_zero_of_lt hd)
    have hbody : Ending (pad padded ++ ')' :: s) := .close padded s
    obtain ⟨u, -, hu, hfirst, hrest⟩ := FlatExpr.reads_operands e (Nat.le_of_succ_le_succ hd) hbody
    exact reads_operand_of_primary (FlatTerm.opening (.group padded e) h) h
      (reads_group_primary h e.head_not_space (FlatExpr.reads_assignmentOver hbody hu hfirst hrest))

theorem FlatExpr.reads_operands : ∀ (e : FlatExpr) {d : Nat} {s : List Char}, e.depth ≤ d →
    Ending s → ∃ u, u.length ≤ (e.text ++ s).length ∧ Follows u ∧
      (operand (assignment d)).Reads (e.text ++ s) e.operands.first u ∧
      ReadsMany (chainStep (assignment d)) u e.operands.rest s
  | .single t, d, s, hd, h =>
    ⟨s, by simp, .ending h, FlatTerm.reads_operand t hd (.ending h), .nil h.fails_chainStep⟩
  | .chain t op e, d, s, hd, h => by
    obtain ⟨ht, he⟩ := Nat.max_le.1 hd
    obtain ⟨u, hlength, hu, hfirst, hrest⟩ := FlatExpr.reads_operands e he h
    have hfollows : Follows (' ' :: op.token.toList ++ ' ' :: (e.text ++ s)) :=
      .operator op (e.text ++ s)
    have hstep : (chainStep (assignment d)).Reads (' ' :: op.token.toList ++ ' ' :: (e.text ++ s))
        (op, e.operands.first) u := by
      refine (reads_pad true (Next.operator op _).head_not_space).bind ?_
      refine (reads_chainOp op _).bind ?_
      exact (reads_pad true (e.head_not_space s)).bind hfirst.map
    have htext : (FlatExpr.chain t op e).text ++ s =
        t.text ++ (' ' :: op.token.toList ++ ' ' :: (e.text ++ s)) := by
      simp [FlatExpr.text]
    have hshorter : u.length < (' ' :: op.token.toList ++ ' ' :: (e.text ++ s)).length := by
      simp only [List.length_append, List.length_cons] at hlength ⊢
      omega
    rw [htext]
    exact ⟨_, by simp, hfollows, FlatTerm.reads_operand t ht hfollows, .cons hstep hshorter hrest⟩

end

/-! ### Whole texts -/

/-- A text that is read as an expression to its end is the text of that expression. -/
private theorem reads_program {t : List Char} {x : Expr} (hhead : ∀ c ∈ t.head?, isSpace c = false)
    (hread : (assignment (t.length + 1)).Reads t x []) : (program (t.length + 1)).Reads t x [] := by
  refine Reads.named ((reads_pad false hhead).bind ?_)
  refine (reads_expression hread (.ending .nil)).bind ?_
  exact (reads_pad false (by simp)).bind (Reads.named (Reads.rest.bind Reads.pure))

/-- A text that is a single operand and no arrow function is the text of that operand. -/
theorem parse_of_operand {t : List Char} {x : Expr} (ht : Opening t)
    (harrow : ∀ assign, (arrow assign).Fails t)
    (hread : ∀ assign, (operand assign).Reads t x []) :
    Expr.parse (String.ofList t) = .ok x := by
  have hassign := reads_assignmentOver (harrow (assignment t.length)) .nil (.ending .nil) (hread _)
    (.nil (Ending.fails_chainStep .nil))
  obtain ⟨position, reached, hprogram⟩ := reads_program ht.head_not_space hassign 0 none
  unfold Expr.parse
  dsimp only
  rw [String.toList_ofList, hprogram]
  rfl

/-- A flat text is read as its tree. -/
private theorem FlatExpr.reads_program (e : FlatExpr) :
    (program (e.text.length + 1)).Reads e.text e.operands.group [] := by
  obtain ⟨u, -, hu, hfirst, hrest⟩ := e.reads_operands e.depth_le_length .nil
  have hread := FlatExpr.reads_assignmentOver .nil hu hfirst hrest
  have hhead := e.head_not_space []
  rw [List.append_nil] at hread hhead
  exact Condition.reads_program hhead hread

/-- Reading a flat text gives its tree, and there is one. -/
theorem FlatExpr.parse_source (e : FlatExpr) :
    ∃ x, Expr.parse e.source = .ok x ∧ ∀ y, e.Means y ↔ y = x := by
  refine ⟨e.operands.group, ?_, fun y ↦ e.means_iff⟩
  obtain ⟨position, reached, hread⟩ := e.reads_program 0 none
  unfold Expr.parse
  dsimp only
  rw [source, String.toList_ofList, hread]

end WebRecipe.Condition
