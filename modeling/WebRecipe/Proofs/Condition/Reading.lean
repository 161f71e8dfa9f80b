import WebRecipe.Condition.Grammar

/-!
# What scanners read

A scanner is judged with the whole text that is left, since a run of characters and an ordered
choice depend on what follows. It reads a text up to a rest, or it fails there; how far reading got
and what number literals were noted before does not matter for that.

## Main definitions

* `Scanner.Reads`: a scanner reads a text up to a rest and gives a value.
* `Scanner.Fails`: a scanner fails at a text.
* `Scanner.IsWord`: a word of the language.

## Main results

* `Scanner.Reads.bind`, `Scanner.Reads.orElse_right`, `Scanner.Reads.many`: reading part by part.
-/

namespace WebRecipe.Condition
namespace Scanner

variable {α β : Type} {p q : Scanner α} {f : α → Scanner β} {s t u : List Char} {a : α} {b : β}

/-- A scanner reads a text up to a rest and gives a value, without noting a number literal. -/
def Reads (p : Scanner α) (s : List Char) (a : α) (t : List Char) : Prop :=
  ∀ position oversized, ∃ position' reached,
    p ⟨s, position, oversized⟩ = .ok a ⟨t, position', oversized⟩ reached

/-- A scanner fails at a text. -/
def Fails (p : Scanner α) (s : List Char) : Prop :=
  ∀ position oversized, ∃ reached, p ⟨s, position, oversized⟩ = .fail reached

/-! ### One after another -/

theorem Reads.pure : (pure a : Scanner α).Reads s a s :=
  fun position _ ↦ ⟨position, 0, rfl⟩

theorem Reads.bind (hp : p.Reads s a t) (hf : (f a).Reads t b u) : (p >>= f).Reads s b u := by
  intro position oversized
  obtain ⟨middle, r, hp⟩ := hp position oversized
  obtain ⟨last, r', hf⟩ := hf middle oversized
  refine ⟨last, max r r', ?_⟩
  change Scanner.bind p f _ = _
  rw [Scanner.bind, hp]
  exact congrArg (Outcome.reaching r) hf

theorem Reads.map {g : α → β} (hp : p.Reads s a t) :
    (p >>= fun x ↦ Pure.pure (g x)).Reads s (g a) t :=
  hp.bind Reads.pure

theorem Fails.bind (hp : p.Fails s) : (p >>= f).Fails s := by
  intro position oversized
  obtain ⟨r, hp⟩ := hp position oversized
  refine ⟨r, ?_⟩
  change Scanner.bind p f _ = _
  rw [Scanner.bind, hp]

theorem Reads.bind_fails (hp : p.Reads s a t) (hf : (f a).Fails t) : (p >>= f).Fails s := by
  intro position oversized
  obtain ⟨middle, r, hp⟩ := hp position oversized
  obtain ⟨r', hf⟩ := hf middle oversized
  refine ⟨max r r', ?_⟩
  change Scanner.bind p f _ = _
  rw [Scanner.bind, hp]
  exact congrArg (Outcome.reaching r) hf

theorem fails_failure : (failure : Scanner α).Fails s :=
  fun _ _ ↦ ⟨0, rfl⟩

theorem Reads.rest : Scanner.rest.Reads s s s :=
  fun position _ ↦ ⟨position, 0, rfl⟩

theorem Reads.skip {n : Nat} : (Scanner.skip n).Reads s () (s.drop n) :=
  fun _ _ ↦ ⟨_, 0, rfl⟩

/-! ### Choices -/

theorem Reads.orElse_left (hp : p.Reads s a t) : (orElse p q).Reads s a t := by
  intro position oversized
  obtain ⟨position', r, hp⟩ := hp position oversized
  exact ⟨position', r, by rw [orElse, hp]⟩

theorem Reads.orElse_right (hp : p.Fails s) (hq : q.Reads s a t) : (orElse p q).Reads s a t := by
  intro position oversized
  obtain ⟨r, hp⟩ := hp position oversized
  obtain ⟨position', r', hq⟩ := hq position oversized
  refine ⟨position', max r r', ?_⟩
  rw [orElse, hp]
  exact congrArg (Outcome.reaching r) hq

theorem Fails.orElse (hp : p.Fails s) (hq : q.Fails s) : (orElse p q).Fails s := by
  intro position oversized
  obtain ⟨r, hp⟩ := hp position oversized
  obtain ⟨r', hq⟩ := hq position oversized
  refine ⟨max r r', ?_⟩
  rw [Scanner.orElse, hp]
  exact congrArg (Outcome.reaching r) hq

theorem Fails.choice {ps : List (Scanner α)} (h : ∀ p ∈ ps, p.Fails s) : (choice ps).Fails s := by
  induction ps with
  | nil => exact fails_failure
  | cons p ps ih =>
    obtain ⟨hp, hps⟩ := List.forall_mem_cons.1 h
    exact hp.orElse (ih hps)

/-- A choice reads as its first member that does not fail. -/
theorem Reads.choice (before after : List (Scanner α)) (hbefore : ∀ q ∈ before, q.Fails s)
    (hp : p.Reads s a t) : (choice (before ++ p :: after)).Reads s a t := by
  induction before with
  | nil => exact hp.orElse_left
  | cons q before ih =>
    obtain ⟨hq, hbefore⟩ := List.forall_mem_cons.1 hbefore
    exact Reads.orElse_right hq (ih hbefore)

theorem Reads.named (hp : p.Reads s a t) : (named p).Reads s a t := by
  intro position oversized
  obtain ⟨position', r, hp⟩ := hp position oversized
  exact ⟨position', r, by rw [Scanner.named, hp]⟩

theorem Fails.named (hp : p.Fails s) : (named p).Fails s := by
  intro position oversized
  obtain ⟨r, hp⟩ := hp position oversized
  exact ⟨_, by rw [Scanner.named, hp]⟩

theorem Reads.optional_some (hp : p.Reads s a t) : (optional p).Reads s (some a) t :=
  Reads.orElse_left hp.map

theorem Reads.optional_none (hp : p.Fails s) : (optional p).Reads s none s :=
  Reads.orElse_right hp.bind Reads.pure

/-! ### Repetitions -/

private theorem Reads.manyGo_cons {n : Nat} {as : List α} (hp : p.Reads s a t)
    (hmore : (manyGo p n).Reads t as u) : (manyGo p (n + 1)).Reads s (a :: as) u :=
  Reads.orElse_left (hp.bind hmore.map)

private theorem Reads.manyGo_nil {n : Nat} (hp : p.Fails s) : (manyGo p n).Reads s [] s := by
  cases n with
  | zero => exact Reads.pure
  | succ n => exact Reads.orElse_right hp.bind Reads.pure

/-- A scanner reads one occurrence after another, each of them longer than nothing, and then fails.
-/
inductive ReadsMany (p : Scanner α) : List Char → List α → List Char → Prop where
  | nil {s : List Char} (hp : p.Fails s) : ReadsMany p s [] s
  | cons {s t u : List Char} {a : α} {as : List α} (hp : p.Reads s a t)
      (hlength : t.length < s.length) (hmore : ReadsMany p t as u) : ReadsMany p s (a :: as) u

theorem Reads.many {as : List α} (h : ReadsMany p s as t) : (many p).Reads s as t := by
  suffices hgo : ∀ n, s.length < n → (manyGo p n).Reads s as t by
    exact fun position oversized ↦ hgo _ (Nat.lt_succ_self _) position oversized
  induction h with
  | nil hp => exact fun _ _ ↦ Reads.manyGo_nil hp
  | cons hp hlength _ ih =>
    intro n hn
    obtain ⟨m, rfl⟩ := Nat.exists_eq_succ_of_ne_zero (Nat.ne_zero_of_lt hn)
    exact Reads.manyGo_cons hp (ih m (by omega))

theorem Reads.many_nil (hp : p.Fails s) : (Scanner.many p).Reads s [] s :=
  Reads.many (.nil hp)

/-! ### Fixed texts and runs of characters -/

theorem Reads.literal {w : List Char} : (literal w).Reads (w ++ s) () s := by
  refine Reads.rest.bind ?_
  rw [if_pos (List.isPrefixOf_iff_prefix.2 (List.prefix_append w s))]
  have hskip := Reads.skip (s := w ++ s) (n := w.length)
  rwa [List.drop_left] at hskip

theorem Fails.literal {w : List Char} (h : w.isPrefixOf s = false) : (literal w).Fails s := by
  refine Reads.rest.bind_fails ?_
  rw [h]
  exact fails_failure

section Runs

variable {class? : Char → Bool} {w : List Char}

/-- A run of characters ends where no character of the class follows. -/
theorem takeWhile_append_of_head (hw : ∀ c ∈ w, class? c = true)
    (hs : ∀ c ∈ s.head?, class? c = false) : (w ++ s).takeWhile class? = w := by
  rw [List.takeWhile_append_of_pos hw]
  cases s with
  | nil => exact List.append_nil w
  | cons c s => rw [List.takeWhile_cons_of_neg (by simpa using hs c rfl), List.append_nil]

theorem Reads.takeWhile (hw : ∀ c ∈ w, class? c = true)
    (hs : ∀ c ∈ s.head?, class? c = false) : (takeWhile class?).Reads (w ++ s) w s := by
  refine Reads.rest.bind ?_
  rw [takeWhile_append_of_head hw hs]
  refine Reads.skip.bind ?_
  rw [List.drop_left]
  exact Reads.pure

theorem Reads.spaces {w : List Char} (hw : ∀ c ∈ w, isSpace c = true)
    (hs : ∀ c ∈ s.head?, isSpace c = false) : spaces.Reads (w ++ s) () s :=
  (Reads.takeWhile hw hs).bind Reads.pure

end Runs

/-! ### Words -/

/-- A word: a letter, `_` or `$`, and then letters, digits, `_` and `$`. -/
def IsWord (w : String) : Prop :=
  ∃ c cs, w.toList = c :: cs ∧ isWordStart c = true ∧ ∀ d ∈ cs, isWordChar d = true

theorem isWordChar_of_isWordStart {c : Char} (hc : isWordStart c = true) : isWordChar c = true := by
  simp only [isWordStart, isWordChar, Char.isAlphanum, Bool.or_eq_true] at hc ⊢
  rcases hc with (hc | hc) | hc <;> simp [hc]

theorem IsWord.isWordChar_of_mem {w : String} (hw : IsWord w) :
    ∀ c ∈ w.toList, isWordChar c = true := by
  obtain ⟨c, cs, hname, hc, hcs⟩ := hw
  rw [hname]
  exact List.forall_mem_cons.2 ⟨isWordChar_of_isWordStart hc, hcs⟩

/-- A word is read up to a character that it cannot go on with. -/
theorem Reads.word {w : String} (hw : IsWord w) (hs : ∀ c ∈ s.head?, isWordChar c = false) :
    word.Reads (w.toList ++ s) w s := by
  have hread := (Reads.takeWhile hw.isWordChar_of_mem hs).map (g := String.ofList)
  obtain ⟨c, cs, hname, hc, -⟩ := hw
  rw [String.ofList_toList] at hread
  refine Reads.rest.bind ?_
  rw [hname, List.cons_append] at hread ⊢
  exact (congrArg (Scanner.Reads · _ _ _) (if_pos hc)).mpr hread

theorem fails_word {c : Char} (hc : isWordStart c = false) : Scanner.word.Fails (c :: s) := by
  refine Reads.rest.bind_fails ?_
  refine (congrArg (Scanner.Fails · _) (if_neg (Bool.eq_false_iff.1 hc))).mpr ?_
  exact fails_failure

/-- A scanner of some words fails at any other word. -/
theorem Fails.wordOf {ws : List String} {w : String} (hw : IsWord w) (hws : w ∉ ws)
    (hs : ∀ c ∈ s.head?, isWordChar c = false) : (wordOf ws).Fails (w.toList ++ s) := by
  refine (Reads.word hw hs).bind_fails ?_
  rw [if_neg fun hmem ↦ hws (List.contains_iff_mem.1 hmem)]
  exact fails_failure

end Scanner
end WebRecipe.Condition
