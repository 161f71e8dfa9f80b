import Mathlib.Data.List.TakeWhile
import WebRecipe.Condition.Basic
import WebRecipe.Proofs.Condition.Precedence
import WebRecipe.Proofs.Outcome

/-!
# Words and texts in a condition

What a word means when it is the whole source of a condition. Five keywords are operands, the other
nine are not, and every other word is an identifier, also one that begins with a keyword: a keyword is
compared with the whole word, not with its beginning. After a point every word names a member.

Every text can be written as a string of a condition: between double or single quotes with a
backslash before each backslash and each such quote, or between backticks with a backslash before
each backslash, backtick and dollar sign. No other character needs an escape, be it a line break or a
brace, and a character that gets a backslash is never one that a backslash gives another meaning.

## Main definitions

* `wordLiterals`, `boundWords`: the keywords that are operands, and those that need something with
  them.
* `backslashed`: a text with a backslash before some of its characters.
* `quotedSource`, `templateSource`: how a text is written.
* `ReadsBack`: a source is read as a tree, accepted, and evaluated to a text.

## Main results

* `parse_identifier`, `parse_member`: an identifier alone, and with a word after a point.
* `words_classified`: what is read for every word.
* `unescape_backslashed`: resolving the escapes gives the text back.
* `reads_quotedBy`, `reads_template`: the closing quote is found where it was written.
* `written_text_reads_back`: in all three notations a source gives the text back.
-/

namespace WebRecipe.Condition

open Scanner

variable {s : List Char} {assign : Scanner Expr}

/-- The keywords that are operands, with their trees. -/
def wordLiterals : List (String × Expr) :=
  [("true", .bool true), ("false", .bool false), ("null", .null), ("undefined", .undefined),
    ("this", .this)]

/-- The keywords that are no operands by themselves. -/
def boundWords : List String :=
  ["new", "function", "class", "typeof", "void", "delete", "instanceof", "in", "await"]

theorem keywords_eq : keywords = wordLiterals.map Prod.fst ++ boundWords :=
  rfl

/-! ### Identifiers -/

/-- An identifier is the only parameter of an arrow function, if an arrow follows. -/
theorem fails_arrow_of_identifier (x : Identifier) (hword : ∀ c ∈ s.head?, isWordChar c = false)
    (hspace : ∀ c ∈ s.head?, isSpace c = false) (harrow : (text "=>").Fails s) :
    (arrow assign).Fails (x.name.toList ++ s) := by
  have hparams : arrowParams.Reads (x.name.toList ++ s) () s :=
    Reads.named (Reads.orElse_left (reads_identifier hword).map)
  exact Fails.named (hparams.bind_fails ((reads_pad false hspace).bind_fails harrow.bind))

theorem parse_identifier (x : Identifier) : Expr.parse x.name = .ok (.ident x.name) := by
  have hnil : ∀ c ∈ ([] : List Char).head?, isWordChar c = false := by simp
  have hread := parse_of_operand (x.opening hnil)
    (fun _ ↦ fails_arrow_of_identifier x hnil (by simp) (Fails.literal rfl))
    fun _ ↦ reads_operand_of_primary (x.opening hnil) (.ending .nil) (reads_word_primary hnil)
  rwa [List.append_nil, String.ofList_toList] at hread

/-! ### Members -/

/-- No word begins with a space. -/
theorem Scanner.IsWord.head_not_space {w : String} (hw : IsWord w) :
    ∀ c ∈ (w.toList ++ s).head?, isSpace c = false := by
  obtain ⟨c, cs, hname, hc, -⟩ := hw
  rw [hname]
  intro d hd
  obtain rfl : c = d := Option.some.inj hd
  exact isSpace_of_startsOperand (by rw [startsOperand, hc]; rfl)

/-- A word after a point names a member, be it a keyword. -/
theorem reads_memberName {w : String} (hw : IsWord w)
    (hs : ∀ c ∈ s.head?, isWordChar c = false) :
    (suffix assign).Reads ('.' :: (w.toList ++ s)) (fun e ↦ .member e (.name w)) s := by
  have hname : memberName.Reads ('.' :: (w.toList ++ s)) (fun e ↦ .member e (.name w)) s := by
    refine Reads.named ((Reads.literal (w := ['.']) (s := w.toList ++ s)).bind ?_)
    exact (reads_pad false hw.head_not_space).bind ((Reads.word hw hs).named.map)
  exact (reads_pad false (by simp [isSpace])).bind hname.orElse_left

theorem parse_member (x : Identifier) {w : String} (hw : IsWord w) :
    Expr.parse (x.name ++ "." ++ w) = .ok (.member (.ident x.name) (.name w)) := by
  have hpoint : ∀ c ∈ ('.' :: w.toList).head?, isWordChar c = false := by
    rintro _ ⟨⟩
    rfl
  have hmember (assign : Scanner Expr) :
      (suffix assign).Reads ('.' :: w.toList) (fun e ↦ .member e (.name w)) [] := by
    have hread : (suffix assign).Reads ('.' :: (w.toList ++ [])) (fun e ↦ .member e (.name w)) [] :=
      reads_memberName hw (by simp)
    rwa [List.append_nil] at hread
  have hread := parse_of_operand (x.opening hpoint)
    (fun _ ↦ fails_arrow_of_identifier x hpoint (by simp [isSpace]) (Fails.literal rfl))
    fun _ ↦ reads_operand (x.opening hpoint) (reads_word_primary hpoint)
      (.cons (hmember _) (by simp) (.nil (Follows.fails_suffix (.ending .nil)))) (.ending .nil)
  have htext : x.name ++ "." ++ w = String.ofList (x.name.toList ++ '.' :: w.toList) := by
    rw [← String.toList_inj]
    simp
  rw [htext]
  exact hread

/-! ### All words -/

/-- **Words are classified exactly.** As a whole source each of the five keywords that are operands
gives its tree, each of the other nine keywords is a syntax error, and every other word is an
identifier, however it begins; and after an identifier and a point every word, keywords included,
names a member. -/
theorem words_classified {w : String} (hw : IsWord w) :
    (∀ e, (w, e) ∈ wordLiterals → Expr.parse w = .ok e) ∧
    (w ∈ boundWords → ∃ column, Expr.parse w = .error (.unexpected column)) ∧
    (w ∉ wordLiterals.map Prod.fst → w ∉ boundWords → Expr.parse w = .ok (.ident w)) ∧
    ∀ x : Identifier, Expr.parse (x.name ++ "." ++ w) = .ok (.member (.ident x.name) (.name w)) := by
  refine ⟨fun e he ↦ ?_, fun hbound ↦ ?_, fun hliteral hbound ↦ ?_, fun x ↦ parse_member x hw⟩
  · simp only [wordLiterals, List.mem_cons, List.not_mem_nil, or_false, Prod.mk.injEq] at he
    rcases he with ⟨rfl, rfl⟩ | ⟨rfl, rfl⟩ | ⟨rfl, rfl⟩ | ⟨rfl, rfl⟩ | ⟨rfl, rfl⟩ <;> rfl
  · simp only [boundWords, List.mem_cons, List.not_mem_nil, or_false] at hbound
    rcases hbound with rfl | rfl | rfl | rfl | rfl | rfl | rfl | rfl | rfl <;> exact ⟨_, rfl⟩
  · have hkeyword : w ∉ keywords := by
      rw [keywords_eq, List.mem_append]
      exact fun h ↦ h.elim hliteral hbound
    exact parse_identifier ⟨w, hw, hkeyword⟩

/-- The word `instances` begins with two keywords and is none. -/
theorem words_classified_instances :
    IsWord "instances" ∧ Expr.parse "instances" = .ok (.ident "instances") ∧
      Expr.parse "x.instances" = .ok (.member (.ident "x") (.name "instances")) := by
  have hword : IsWord "instances" := ⟨'i', "nstances".toList, rfl, rfl, List.all_eq_true.1 rfl⟩
  have hx : IsWord "x" := ⟨'x', [], rfl, rfl, List.forall_mem_nil _⟩
  obtain ⟨-, -, hidentifier, hmember⟩ := words_classified hword
  exact ⟨hword, hidentifier (by decide) (by decide), hmember ⟨"x", hx, by decide⟩⟩

end WebRecipe.Condition

namespace WebRecipe.Condition

open Scanner

variable {marks cs t : List Char} {c quote : Char}

/-! ### Escapes -/

/-- A text with a backslash before each of some characters. -/
def backslashed (marks cs : List Char) : List Char :=
  cs.flatMap fun c ↦ if c ∈ marks then ['\\', c] else [c]

/-- The characters that a backslash gives another meaning. -/
def escapeLetters : List Char :=
  ['n', 't', 'r', 'b', 'f', 'v', '0', '\n', 'x', 'u']

theorem backslashed_cons_of_mem (h : c ∈ marks) :
    backslashed marks (c :: cs) = '\\' :: c :: backslashed marks cs := by
  rw [backslashed, List.flatMap_cons, if_pos h]
  rfl

theorem backslashed_cons_of_notMem (h : c ∉ marks) :
    backslashed marks (c :: cs) = c :: backslashed marks cs := by
  rw [backslashed, List.flatMap_cons, if_neg h]
  rfl

/-- A backslash before any other character than those that it gives another meaning is dropped. -/
theorem unescape_backslash (h : c ∉ escapeLetters) :
    unescape ('\\' :: c :: t) = c :: unescape t := by
  simp only [escapeLetters, List.mem_cons, List.not_mem_nil, or_false, not_or] at h
  rw [unescape] <;> simp_all

theorem unescape_plain (h : c ≠ '\\') : unescape (c :: t) = c :: unescape t := by
  rw [unescape]
  exact fun hc ↦ h hc

/-- Resolving the escapes gives the text back, if each backslash of the text got one, too. -/
theorem unescape_backslashed (hslash : '\\' ∈ marks) (hmarks : ∀ c ∈ marks, c ∉ escapeLetters) :
    unescape (backslashed marks cs) = cs := by
  induction cs with
  | nil => rw [backslashed, List.flatMap_nil, unescape]
  | cons c cs ih =>
    by_cases hc : c ∈ marks
    · rw [backslashed_cons_of_mem hc, unescape_backslash (hmarks c hc), ih]
    · have hplain : c ≠ '\\' := by
        rintro rfl
        exact hc hslash
      rw [backslashed_cons_of_notMem hc, unescape_plain hplain, ih]

/-! ### Where a text ends -/

/-- An escaped text ends before the quote that has no backslash. -/
theorem quotedLength_backslashed (hquote : quote ≠ '\\') :
    quotedLength quote (backslashed ['\\', quote] cs ++ quote :: t) =
      (backslashed ['\\', quote] cs).length := by
  induction cs with
  | nil =>
    change quotedLength quote (quote :: t) = 0
    rw [quotedLength, if_pos rfl] <;> simp [hquote]
  | cons c cs ih =>
    by_cases hc : c ∈ ['\\', quote]
    · rw [backslashed_cons_of_mem hc, List.cons_append, List.cons_append, quotedLength, ih]
      rfl
    · have hplain : c ≠ '\\' ∧ c ≠ quote := by simpa using hc
      rw [backslashed_cons_of_notMem hc, List.cons_append, quotedLength, if_neg hplain.2, ih]
      · rfl
      · simp [hplain.1]
      · simp [hplain.1]

/-- A text in which every dollar sign has a backslash ends before the backtick that has none. -/
theorem templateLength_backslashed :
    templateLength (backslashed ['\\', '`', '$'] cs ++ '`' :: t) =
      (backslashed ['\\', '`', '$'] cs).length := by
  induction cs with
  | nil => rfl
  | cons c cs ih =>
    by_cases hc : c ∈ ['\\', '`', '$']
    · rw [backslashed_cons_of_mem hc, List.cons_append, List.cons_append, templateLength, ih]
      rfl
    · have hplain : c ≠ '\\' ∧ c ≠ '`' ∧ c ≠ '$' := by simpa using hc
      rw [backslashed_cons_of_notMem hc, List.cons_append, templateLength, if_neg hplain.2.1, ih]
      · rfl
      · simp [hplain.1]
      · simp [hplain.1]
      · simp [hplain.2.2]

/-! ### Strings -/

theorem reads_quotedBy (s : String) (hquote : quote ≠ '\\') (hletter : quote ∉ escapeLetters) :
    (quotedBy quote).Reads (quote :: (backslashed ['\\', quote] s.toList ++ quote :: t)) s t := by
  have hmarks : ∀ c ∈ ['\\', quote], c ∉ escapeLetters := by
    simp only [List.forall_mem_cons]
    exact ⟨by decide, hletter, List.forall_mem_nil _⟩
  have hskip := Reads.skip (s := backslashed ['\\', quote] s.toList ++ quote :: t)
    (n := (backslashed ['\\', quote] s.toList).length)
  rw [List.drop_left] at hskip
  refine (Reads.literal (w := [quote]) (s := _ ++ quote :: t)).bind (Reads.rest.bind ?_)
  dsimp only
  rw [quotedLength_backslashed hquote, List.take_left, unescape_backslashed (by simp) hmarks,
    String.ofList_toList]
  exact hskip.bind ((Reads.literal (w := [quote])).bind Reads.pure)

/-! ### Templates -/

/-- A piece of text is read up to the backtick; an empty piece is none. -/
theorem exists_reads_templateText (s : String) :
    ∃ piece : Option String, piece.getD "" = s ∧
      (optional templateText).Reads (backslashed ['\\', '`', '$'] s.toList ++ '`' :: t) piece
        ('`' :: t) := by
  have hskip := Reads.skip (s := backslashed ['\\', '`', '$'] s.toList ++ '`' :: t)
    (n := (backslashed ['\\', '`', '$'] s.toList).length)
  rw [List.drop_left] at hskip
  have hlength : templateLength (backslashed ['\\', '`', '$'] s.toList ++ '`' :: t) =
      (backslashed ['\\', '`', '$'] s.toList).length := templateLength_backslashed
  have hmarks : ∀ c ∈ ['\\', '`', '$'], c ∉ escapeLetters := by
    simp only [List.forall_mem_cons]
    exact ⟨by decide, by decide, by decide, List.forall_mem_nil _⟩
  have hback : unescape (backslashed ['\\', '`', '$'] s.toList) = s.toList :=
    unescape_backslashed (by decide) hmarks
  by_cases hempty : (backslashed ['\\', '`', '$'] s.toList).length = 0
  · have htext : s = "" := by
      rw [List.length_eq_zero_iff.1 hempty, unescape] at hback
      exact String.toList_inj.1 hback.symm
    subst htext
    refine ⟨none, rfl, Reads.optional_none (Fails.named (Reads.rest.bind_fails ?_))⟩
    exact fails_failure.bind
  · refine ⟨some s, rfl, Reads.optional_some (Reads.named (Reads.rest.bind ?_))⟩
    dsimp only
    rw [hlength, if_neg hempty, List.take_left, hback, String.ofList_toList]
    exact hskip.bind Reads.pure

theorem reads_template (assign : Scanner Expr) (s : String) :
    (template assign).Reads ('`' :: (backslashed ['\\', '`', '$'] s.toList ++ '`' :: t))
      (.template s []) t := by
  obtain ⟨piece, rfl, hpiece⟩ := exists_reads_templateText (t := t) s
  have hhole : (substitution assign).Fails ('`' :: t) :=
    Fails.named (Fails.bind (Fails.literal rfl))
  refine Reads.named ((Reads.literal (w := ['`']) (s := _ ++ '`' :: t)).bind (hpiece.bind ?_))
  exact (Reads.many_nil hhole.bind).bind ((Reads.literal (w := ['`'])).bind Reads.pure)

/-! ### Whole texts -/

/-- How a text is written as a string, with a backslash before each backslash and each quote. -/
def quotedSource (quote : Char) (s : String) : String :=
  String.ofList (quote :: (backslashed ['\\', quote] s.toList ++ [quote]))

/-- How a text is written as a template, with a backslash before each backslash, backtick and dollar
sign. -/
def templateSource (s : String) : String :=
  String.ofList ('`' :: (backslashed ['\\', '`', '$'] s.toList ++ ['`']))

/-- A source is read as a tree, the policy accepts it, and its value is a text whatever is bound. -/
structure ReadsBack (source : String) (tree : Expr) (s : String) : Prop where
  parsed : Expr.parse source = .ok tree
  accepted : accept source = .ok tree
  value : ∀ b : Bindings, valueOf source b = .ok (.text s)

/-- A text that begins with a quote begins neither with a sign nor with a word. -/
theorem opening_of_head (hhead : c ∉ leadingSigns) (hword : isWordStart c = false) :
    Opening (c :: t) where
  head _ hd := by
    cases hd
    exact hhead
  word _ _ := Fails.bind (fails_word hword)

theorem fails_arrow_of_head (assign : Scanner Expr) (hword : isWordStart c = false)
    (hparen : c ≠ '(') : (arrow assign).Fails (c :: t) := by
  have hopen : (text "(").Fails (c :: t) :=
    Fails.literal (congrArg (· && _) (beq_eq_false_iff_ne.2 hparen.symm))
  exact Fails.named (Fails.bind (Fails.named (Fails.orElse
    (Fails.bind (Fails.named (Fails.bind (fails_word hword)))) (Fails.bind hopen))))

/-- A text that begins with a character other than a blank is not empty without its blanks. -/
theorem trim_cons_ne_nil (hc : Text.isBlank c = false) : Text.trim (c :: t) ≠ [] := by
  rw [Text.trim, Text.trimLeft, List.dropWhile_cons_of_neg (Bool.eq_false_iff.1 hc), Text.trimRight]
  intro h
  have hblank := List.dropWhile_eq_nil_iff.1 (List.reverse_eq_nil_iff.1 h) c (by simp)
  rw [hc] at hblank
  cases hblank

/-- A primary that is a whole text, passes the policy and has a text as its value. -/
theorem readsBack_of_primary {x : Expr} {s : String}
    (hread : ∀ assign, (primary assign).Reads (c :: t) x []) (hhead : c ∉ leadingSigns)
    (hword : isWordStart c = false) (hparen : c ≠ '(') (hblank : Text.isBlank c = false)
    (hcheck : check x = .ok ()) (hvalue : ∀ b, evaluate b x = .ok (.text s)) :
    ReadsBack (String.ofList (c :: t)) x s := by
  have hopening : Opening (c :: t) := opening_of_head hhead hword
  have hparsed : Expr.parse (String.ofList (c :: t)) = .ok x :=
    parse_of_operand hopening (fun assign ↦ fails_arrow_of_head assign hword hparen)
      fun assign ↦ reads_operand_of_primary hopening (.ending .nil) (hread assign)
  have haccepted : accept (String.ofList (c :: t)) = .ok x := by
    rw [accept, String.toList_ofList, if_neg (mt List.isEmpty_iff.1 (trim_cons_ne_nil hblank)),
      hparsed]
    dsimp only
    rw [hcheck]
  refine ⟨hparsed, haccepted, fun b ↦ bind_eq_ok_iff.2 ⟨x, haccepted, ?_⟩⟩
  rw [hvalue b]

/-- A string between double or single quotes is tried after a number. -/
theorem quotedSource_readsBack (s : String) (hquote : quote = '"' ∨ quote = '\'') :
    ReadsBack (quotedSource quote s) (.text s) s := by
  have hstring : string.Reads (quote :: (backslashed ['\\', quote] s.toList ++ [quote])) s [] := by
    rcases hquote with rfl | rfl
    · exact Reads.named (reads_quotedBy s (by decide) (by decide)).orElse_left
    · exact Reads.named (Reads.orElse_right (Fails.bind (Fails.literal rfl))
        (reads_quotedBy s (by decide) (by decide)))
  have hnumber : number.Fails (quote :: (backslashed ['\\', quote] s.toList ++ [quote])) := by
    rcases hquote with rfl | rfl <;> exact fails_number (by decide) (by decide)
  have hread (assign : Scanner Expr) : (primary assign).Reads
      (quote :: (backslashed ['\\', quote] s.toList ++ [quote])) (.text s) [] :=
    Reads.orElse_right hnumber.bind hstring.map.orElse_left
  rcases hquote with rfl | rfl <;>
    exact readsBack_of_primary hread (by decide) (by decide) (by decide) (by decide) rfl fun _ ↦ rfl

/-- A template is tried after a number and a string. -/
theorem templateSource_readsBack (s : String) :
    ReadsBack (templateSource s) (.template s []) s := by
  have hstring : string.Fails ('`' :: (backslashed ['\\', '`', '$'] s.toList ++ ['`'])) :=
    Fails.named (Fails.orElse (Fails.bind (Fails.literal rfl)) (Fails.bind (Fails.literal rfl)))
  have hread (assign : Scanner Expr) : (primary assign).Reads
      ('`' :: (backslashed ['\\', '`', '$'] s.toList ++ ['`'])) (.template s []) [] :=
    Reads.orElse_right (Fails.bind (fails_number (by decide) (by decide)))
      (Reads.orElse_right hstring.bind (reads_template assign s).orElse_left)
  refine readsBack_of_primary hread (by decide) (by decide) (by decide) (by decide) rfl fun b ↦ ?_
  have hvalue : evaluate b (.template s []) = .ok (.text (s ++ "")) := rfl
  rw [hvalue, String.append_empty]

/-- **Every text can be written down and read back.** Between double or single quotes, with a
backslash before each backslash and each such quote, a text is the source of the string literal with
this text; between backticks, with a backslash before each backslash, backtick and dollar sign, it is
the source of the template with this one piece of text and no substitutions. The policy accepts the
source, and its value is the text, whatever is bound. -/
theorem written_text_reads_back (s : String) :
    ReadsBack (quotedSource '"' s) (.text s) s ∧ ReadsBack (quotedSource '\'' s) (.text s) s ∧
      ReadsBack (templateSource s) (.template s []) s :=
  ⟨quotedSource_readsBack s (.inl rfl), quotedSource_readsBack s (.inr rfl),
    templateSource_readsBack s⟩

end WebRecipe.Condition
