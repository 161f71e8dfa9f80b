import WebRecipe.Store
import Mathlib.Data.List.Forall2

/-!
# What replacing placeholders does

The placeholders of a text, said without the function that finds them: `Opens` is a placeholder at
the beginning of a text, and `Scan` takes a text apart at its leftmost non-overlapping
placeholders. From it follows what a text becomes (`Resolves`) and what a parameter becomes
(`Interpolates`); the functions that the library uses compute exactly these (`resolve_spec`).

## Main definitions

* `Opens`, `Scan`: the placeholders of a text.
* `Resolves`, `Interpolates`: what a text and a value become.

## Main results

* `scan_exists`: every text can be taken apart.
* `resolveText_eq_iff`, `resolve_eq_iff`: the functions compute the relations.
-/

namespace WebRecipe.Placeholder

/-! ### Placeholders of a text -/

/-- A placeholder with the given content stands at the beginning of the text: its content is on one
line and as short as the text allows. -/
structure Opens (text content after : List Char) : Prop where
  eq : text = '\x7b' :: '\x7b' :: (content ++ '\x7d' :: '\x7d' :: after)
  oneLine : '\n' ∉ content
  shortest : ∀ c a, text = '\x7b' :: '\x7b' :: (c ++ '\x7d' :: '\x7d' :: a) → '\n' ∉ c →
    content.length ≤ c.length

/-- A placeholder stands at the beginning of the text. -/
def Begins (text : List Char) : Prop :=
  ∃ content after, Opens text content after

/-- `Scan text holes tail` takes a text apart at its placeholders from the left: each hole is what
comes before a placeholder and the content of the placeholder, and `tail` is what comes after the
last one. No placeholder begins earlier than the one that is taken. -/
inductive Scan : List Char → List (List Char × List Char) → List Char → Prop where
  | last {text : List Char} (h : ∀ before rest, text = before ++ rest → ¬ Begins rest) :
      Scan text [] text
  | next {before rest content after tail : List Char} {holes : List (List Char × List Char)}
      (hopens : Opens rest content after)
      (hfirst : ∀ b r, before ++ rest = b ++ r → b.length < before.length → ¬ Begins r)
      (hafter : Scan after holes tail) :
      Scan (before ++ rest) ((before, content) :: holes) tail

/-! ### Finding the closing braces -/

private theorem untilClosed_cons {c : Char} {rest : List Char}
    (h : ∀ after, c :: rest ≠ '\x7d' :: '\x7d' :: after) :
    untilClosed (c :: rest) =
      if c = '\n' then none else (untilClosed rest).map (fun r ↦ (c :: r.1, r.2)) := by
  rw [untilClosed]
  intro after hc hrest
  exact h after (by rw [hc, hrest])

/-- What is found is closed, and on one line. -/
theorem eq_of_untilClosed {cs content after : List Char}
    (h : untilClosed cs = some (content, after)) :
    cs = content ++ '\x7d' :: '\x7d' :: after ∧ '\n' ∉ content := by
  induction cs generalizing content with
  | nil => cases h
  | cons c rest ih =>
    by_cases hclosed : ∃ a, c :: rest = '\x7d' :: '\x7d' :: a
    · obtain ⟨a, ha⟩ := hclosed
      rw [ha] at h ⊢
      cases h
      simp
    · rw [untilClosed_cons (not_exists.1 hclosed)] at h
      split at h
      · cases h
      case isFalse hc =>
        obtain ⟨⟨c', a'⟩, hr, h⟩ := Option.map_eq_some_iff.1 h
        cases h
        obtain ⟨hrest, hline⟩ := ih hr
        simp [hrest, hline, Ne.symm hc]

/-- Whatever is closed on one line is found, or something shorter is. -/
theorem exists_untilClosed {c a : List Char} (hline : '\n' ∉ c) :
    ∃ content after, untilClosed (c ++ '\x7d' :: '\x7d' :: a) = some (content, after) ∧
      content.length ≤ c.length := by
  induction c with
  | nil => exact ⟨[], a, rfl, Nat.le_refl _⟩
  | cons d c ih =>
    simp only [List.mem_cons, not_or] at hline
    obtain ⟨content, after, hr, hle⟩ := ih hline.2
    rw [List.cons_append]
    by_cases hclosed : ∃ a', d :: (c ++ '\x7d' :: '\x7d' :: a) = '\x7d' :: '\x7d' :: a'
    · obtain ⟨a', ha'⟩ := hclosed
      exact ⟨[], a', by rw [ha']; rfl, Nat.zero_le _⟩
    · rw [untilClosed_cons (not_exists.1 hclosed), if_neg (Ne.symm hline.1), hr]
      exact ⟨d :: content, after, rfl, Nat.succ_le_succ hle⟩

/-- The closing braces that are found are those of the placeholder. -/
theorem opens_iff_untilClosed {rest content after : List Char} :
    Opens ('\x7b' :: '\x7b' :: rest) content after ↔
      untilClosed rest = some (content, after) := by
  constructor
  · rintro ⟨heq, hline, hshortest⟩
    simp only [List.cons.injEq, true_and] at heq
    obtain ⟨content', after', hfound, hle⟩ := exists_untilClosed (a := after) hline
    rw [← heq] at hfound
    obtain ⟨heq', hline'⟩ := eq_of_untilClosed hfound
    have hge := hshortest content' after' (by rw [heq']) hline'
    have hlen : content'.length = content.length := Nat.le_antisymm hle hge
    obtain ⟨rfl, htail⟩ := List.append_inj (heq'.symm.trans heq) hlen
    simp only [List.cons.injEq, true_and] at htail
    rw [hfound, htail]
  · intro hfound
    obtain ⟨heq, hline⟩ := eq_of_untilClosed hfound
    refine ⟨by rw [heq], hline, fun c a hc hcline ↦ ?_⟩
    simp only [List.cons.injEq, true_and] at hc
    obtain ⟨content', after', hfound', hle⟩ := exists_untilClosed (a := a) hcline
    rw [← hc, hfound] at hfound'
    cases hfound'
    exact hle

private theorem Opens.exists_cons {text content after : List Char} (h : Opens text content after) :
    ∃ rest, text = '\x7b' :: '\x7b' :: rest :=
  ⟨_, h.eq⟩

private theorem Opens.length_lt {text content after : List Char} (h : Opens text content after) :
    after.length < text.length := by
  rw [h.eq]
  simp only [List.length_cons, List.length_append]
  omega

/-- A text begins with at most one placeholder. -/
theorem Opens.unique {text content after content' after' : List Char}
    (h : Opens text content after) (h' : Opens text content' after') :
    content = content' ∧ after = after' := by
  obtain ⟨rest, rfl⟩ := h.exists_cons
  rw [opens_iff_untilClosed] at h h'
  rw [h] at h'
  cases h'
  exact ⟨rfl, rfl⟩

/-! ### Taking a text apart -/

private theorem scan_nil : Scan [] [] [] := by
  refine .last fun before rest heq ⟨content, after, hopens⟩ ↦ ?_
  obtain ⟨-, rfl⟩ := List.append_eq_nil_iff.1 heq.symm
  cases hopens.eq

private theorem Scan.cons_of_not_begins {c : Char} {text tail : List Char}
    {holes : List (List Char × List Char)} (hc : ¬ Begins (c :: text)) (h : Scan text holes tail) :
    ∃ holes' tail', Scan (c :: text) holes' tail' := by
  cases h with
  | last h =>
    refine ⟨[], c :: text, .last fun before rest heq ↦ ?_⟩
    cases before with
    | nil => rwa [← show c :: text = rest from heq]
    | cons d before => exact h before rest (List.cons.inj heq).2
  | @next before rest content after _ holes hopens hfirst hafter =>
    rw [← List.cons_append]
    refine ⟨(c :: before, content) :: holes, tail, .next hopens (fun b r heq hlt ↦ ?_) hafter⟩
    cases b with
    | nil => rwa [← show c :: (before ++ rest) = r from heq]
    | cons d b => exact hfirst b r (List.cons.inj heq).2 (Nat.lt_of_succ_lt_succ hlt)

/-- Every text can be taken apart at its placeholders. -/
theorem scan_exists (text : List Char) : ∃ holes tail, Scan text holes tail := by
  induction hlen : text.length using Nat.strongRecOn generalizing text with
  | _ n ih =>
    subst hlen
    by_cases hbegins : Begins text
    · obtain ⟨content, after, hopens⟩ := hbegins
      obtain ⟨holes, tail, hafter⟩ := ih _ hopens.length_lt after rfl
      have hfirst : ∀ b r, [] ++ text = b ++ r → b.length < ([] : List Char).length → ¬ Begins r :=
        fun _ _ _ hlt ↦ absurd hlt (Nat.not_lt_zero _)
      exact ⟨_, _, .next hopens hfirst hafter⟩
    · cases text with
      | nil => exact ⟨_, _, scan_nil⟩
      | cons c text =>
        obtain ⟨holes, tail, h⟩ := ih _ (Nat.lt_succ_self _) text rfl
        exact h.cons_of_not_begins hbegins

/-- A text can be taken apart in one way only. -/
theorem Scan.unique {text tail tail' : List Char} {holes holes' : List (List Char × List Char)}
    (h : Scan text holes tail) (h' : Scan text holes' tail') : holes = holes' ∧ tail = tail' := by
  induction h generalizing holes' tail' with
  | last hnone =>
    cases h' with
    | last => exact ⟨rfl, rfl⟩
    | next hopens => exact absurd ⟨_, _, hopens⟩ (hnone _ _ rfl)
  | @next before rest content after tail holes hopens hfirst hafter ih =>
    generalize htext : before ++ rest = text at h'
    cases h' with
    | last hnone => exact absurd ⟨_, _, hopens⟩ (hnone _ _ htext.symm)
    | @next before' rest' content' after' _ holes' hopens' hfirst' hafter' =>
      -- neither of the two placeholders begins before the other one
      have hlen : before.length = before'.length := by
        rcases Nat.lt_trichotomy before.length before'.length with hlt | heq | hgt
        · exact absurd ⟨_, _, hopens⟩ (hfirst' before rest htext.symm hlt)
        · exact heq
        · exact absurd ⟨_, _, hopens'⟩ (hfirst before' rest' htext hgt)
      obtain ⟨rfl, rfl⟩ := List.append_inj htext hlen
      obtain ⟨rfl, rfl⟩ := hopens.unique hopens'
      obtain ⟨rfl, rfl⟩ := ih hafter'
      exact ⟨rfl, rfl⟩

/-! ### The pieces of a text -/

private theorem pieces_of_opens {text content after : List Char} (h : Opens text content after) :
    pieces text = .hole content :: pieces after := by
  obtain ⟨rest, rfl⟩ := h.exists_cons
  have hfound := opens_iff_untilClosed.1 h
  rw [pieces]
  split
  case h_1 content' after' hfound' =>
    rw [hfound] at hfound'
    cases hfound'
    rfl
  case h_2 hnone =>
    rw [hfound] at hnone
    cases hnone

private theorem pieces_of_not_begins {c : Char} {rest : List Char} (h : ¬ Begins (c :: rest)) :
    pieces (c :: rest) = .char c :: pieces rest := by
  by_cases hbraces : ∃ rest', c :: rest = '\x7b' :: '\x7b' :: rest'
  · obtain ⟨rest', heq⟩ := hbraces
    rw [heq] at h
    cases heq
    rw [pieces]
    split
    case h_1 content after hfound =>
      exact absurd ⟨content, after, opens_iff_untilClosed.2 hfound⟩ h
    case h_2 => rfl
  · rw [pieces]
    intro rest' hc hrest
    exact hbraces ⟨rest', by rw [hc, hrest]⟩

private theorem pieces_append {before rest : List Char}
    (h : ∀ b r, before ++ rest = b ++ r → b.length < before.length → ¬ Begins r) :
    pieces (before ++ rest) = before.map .char ++ pieces rest := by
  induction before with
  | nil => rfl
  | cons c before ih =>
    have hc : ¬ Begins (c :: (before ++ rest)) := h [] _ rfl (Nat.succ_pos _)
    have hbefore := ih fun b r heq hlt ↦ h (c :: b) r (congrArg (c :: ·) heq) (Nat.succ_lt_succ hlt)
    rw [List.cons_append, pieces_of_not_begins hc, hbefore, List.map_cons, List.cons_append]

/-- The pieces of a text that has been taken apart. -/
def piecesOf (holes : List (List Char × List Char)) (tail : List Char) : List Piece :=
  holes.flatMap (fun h ↦ h.1.map .char ++ [.hole h.2]) ++ tail.map .char

/-- The pieces that are found are those of the placeholders. -/
theorem Scan.pieces_eq {text tail : List Char} {holes : List (List Char × List Char)}
    (h : Scan text holes tail) : pieces text = piecesOf holes tail := by
  induction h with
  | @last text hnone =>
    have happend : pieces (text ++ []) = text.map .char ++ pieces [] :=
      pieces_append fun b r heq _ ↦ hnone b r (by rw [← heq, List.append_nil])
    rw [List.append_nil] at happend
    rw [happend, pieces, List.append_nil]
    rfl
  | next hopens hfirst _ ih =>
    rw [pieces_append hfirst, pieces_of_opens hopens, ih]
    simp [piecesOf]

/-! ### What a text becomes -/

variable {lookup : String → Option Json}

/-- A name is bound to a value that takes the place of a whole text. -/
def BindsComposite (lookup : String → Option Json) (content : List Char) (v : Json) : Prop :=
  lookup (nameOf content) = some v ∧ isComposite v = true

/-- What is put in the place of a placeholder: the text of its value, or `undefined`. -/
def placed (lookup : String → Option Json) (content : List Char) : List Char :=
  ((lookup (nameOf content)).elim "undefined" scalarText).toList

/-- What a template becomes. Where no placeholder is bound to a composite value, each placeholder
gives way to the text of its value and all else stays, the values' texts not being scanned;
otherwise the first of the composite values takes the place of the whole template. -/
inductive Resolves (lookup : String → Option Json) (template : String) : Json → Prop where
  | text {holes : List (List Char × List Char)} {tail : List Char}
      (hscan : Scan template.toList holes tail)
      (hplain : ∀ hole ∈ holes, ∀ v, ¬ BindsComposite lookup hole.2 v) :
      Resolves lookup template
        (.str (String.ofList (holes.flatMap (fun hole ↦ hole.1 ++ placed lookup hole.2) ++ tail)))
  | value {before after : List (List Char × List Char)} {hole : List Char × List Char}
      {tail : List Char} {v : Json}
      (hscan : Scan template.toList (before ++ hole :: after) tail)
      (hplain : ∀ hole ∈ before, ∀ v, ¬ BindsComposite lookup hole.2 v)
      (hvalue : BindsComposite lookup hole.2 v) :
      Resolves lookup template v

private theorem pieceValue?_hole {content : List Char} {v : Json} :
    pieceValue? lookup (.hole content) = some v ↔ BindsComposite lookup content v := by
  rw [pieceValue?, Option.filter_eq_some_iff, BindsComposite]

private theorem findSome?_chars (cs : List Char) :
    (cs.map Piece.char).findSome? (pieceValue? lookup) = none := by
  rw [List.findSome?_eq_none_iff]
  intro p hp
  obtain ⟨c, -, rfl⟩ := List.mem_map.1 hp
  rfl

private theorem flatMap_chars (cs : List Char) :
    (cs.map Piece.char).flatMap (pieceText lookup) = cs := by
  induction cs with
  | nil => rfl
  | cons c cs ih => rw [List.map_cons, List.flatMap_cons, ih]; rfl

private theorem pieceText_hole (content : List Char) :
    pieceText lookup (.hole content) = placed lookup content := by
  rw [pieceText, placed]
  cases lookup (nameOf content) <;> rfl

private theorem findSome?_piecesOf (holes : List (List Char × List Char)) (tail : List Char) :
    (piecesOf holes tail).findSome? (pieceValue? lookup) =
      holes.findSome? (fun hole ↦ pieceValue? lookup (.hole hole.2)) := by
  induction holes with
  | nil => exact findSome?_chars tail
  | cons hole holes ih =>
    rw [piecesOf, List.flatMap_cons, List.append_assoc, List.append_assoc, List.findSome?_append,
      findSome?_chars, Option.none_or, List.singleton_append, List.findSome?_cons,
      List.findSome?_cons]
    rw [piecesOf] at ih
    rw [ih]

private theorem flatMap_piecesOf (holes : List (List Char × List Char)) (tail : List Char) :
    (piecesOf holes tail).flatMap (pieceText lookup) =
      holes.flatMap (fun hole ↦ hole.1 ++ placed lookup hole.2) ++ tail := by
  induction holes with
  | nil => exact flatMap_chars tail
  | cons hole holes ih =>
    rw [piecesOf] at ih ⊢
    rw [List.flatMap_cons, List.append_assoc, List.append_assoc, List.flatMap_append, flatMap_chars,
      List.singleton_append, List.flatMap_cons, pieceText_hole, ih, List.flatMap_cons]
    simp only [List.append_assoc]

private theorem resolves_resolveText (template : String) :
    Resolves lookup template (resolveText lookup template) := by
  obtain ⟨holes, tail, hscan⟩ := scan_exists template.toList
  rw [resolveText, hscan.pieces_eq, findSome?_piecesOf, flatMap_piecesOf]
  cases hfind : holes.findSome? (fun hole ↦ pieceValue? lookup (.hole hole.2)) with
  | none =>
    refine .text hscan fun hole hmem v hv ↦ ?_
    have hnone := List.findSome?_eq_none_iff.1 hfind hole hmem
    rw [pieceValue?_hole.2 hv] at hnone
    cases hnone
  | some v =>
    obtain ⟨before, hole, after, rfl, hvalue, hbefore⟩ := List.findSome?_eq_some_iff.1 hfind
    refine .value hscan (fun h hmem w hw ↦ ?_) (pieceValue?_hole.1 hvalue)
    have hnone := hbefore h hmem
    rw [pieceValue?_hole.2 hw] at hnone
    cases hnone

private theorem Resolves.eq_resolveText {template : String} {v : Json}
    (h : Resolves lookup template v) : v = resolveText lookup template := by
  cases h with
  | @text holes tail hscan hplain =>
    have hnone : holes.findSome? (fun hole ↦ pieceValue? lookup (.hole hole.2)) = none := by
      rw [List.findSome?_eq_none_iff]
      intro hole hmem
      rw [Option.eq_none_iff_forall_not_mem]
      exact fun v hv ↦ hplain hole hmem v (pieceValue?_hole.1 hv)
    rw [resolveText, hscan.pieces_eq, findSome?_piecesOf, flatMap_piecesOf, hnone]
  | @value before after hole tail _ hscan hplain hvalue =>
    have hfind : (before ++ hole :: after).findSome?
        (fun hole ↦ pieceValue? lookup (.hole hole.2)) = some v := by
      refine List.findSome?_eq_some_iff.2
        ⟨before, hole, after, rfl, pieceValue?_hole.2 hvalue, fun h hmem ↦ ?_⟩
      rw [Option.eq_none_iff_forall_not_mem]
      exact fun v hv ↦ hplain h hmem v (pieceValue?_hole.1 hv)
    rw [resolveText, hscan.pieces_eq, findSome?_piecesOf, hfind]

/-- The function computes what a template becomes. -/
theorem resolveText_eq_iff {template : String} {v : Json} :
    resolveText lookup template = v ↔ Resolves lookup template v := by
  constructor
  · rintro rfl
    exact resolves_resolveText template
  · intro h
    exact h.eq_resolveText.symm

/-! ### What a value becomes -/

/-- What a value becomes: a text is resolved, an array item by item, and every other value, so every
object at any depth, stays as it is. -/
inductive Interpolates (lookup : String → Option Json) : Json → Json → Prop where
  | text {template : String} {v : Json} (h : Resolves lookup template v) :
      Interpolates lookup (.str template) v
  | array {items items' : List Json} (hlen : items.length = items'.length)
      (hitems : ∀ i (hi : i < items.length), Interpolates lookup items[i] items'[i]) :
      Interpolates lookup (.arr items) (.arr items')
  | other {v : Json} (hstr : ∀ template, v ≠ .str template) (harr : ∀ items, v ≠ .arr items) :
      Interpolates lookup v v

private theorem resolveItems_eq_map (items : List Json) :
    resolveItems lookup items = items.map (resolve lookup) := by
  induction items with
  | nil => rfl
  | cons v items ih => rw [resolveItems, ih, List.map_cons]

private theorem interpolates_resolve (v : Json) : Interpolates lookup v (resolve lookup v) := by
  induction hsize : sizeOf v using Nat.strongRecOn generalizing v with
  | _ n ih =>
    subst hsize
    cases v with
    | str template => exact .text (resolveText_eq_iff.1 rfl)
    | arr items =>
      rw [resolve, resolveItems_eq_map]
      refine .array (by rw [List.length_map]) fun i hi ↦ ?_
      rw [List.getElem_map]
      refine ih _ ?_ _ rfl
      have hlt := List.sizeOf_lt_of_mem (List.getElem_mem hi)
      rw [Json.arr.sizeOf_spec]
      omega
    | null => exact .other nofun nofun
    | bool b => exact .other nofun nofun
    | int n => exact .other nofun nofun
    | double x => exact .other nofun nofun
    | obj ms => exact .other nofun nofun

private theorem Interpolates.eq_resolve {v w : Json} (h : Interpolates lookup v w) :
    w = resolve lookup v := by
  induction h with
  | text h => exact (resolveText_eq_iff.2 h).symm
  | @array items items' hlen _ ih =>
    rw [resolve, resolveItems_eq_map]
    refine congrArg Json.arr (List.ext_getElem (by rw [List.length_map, hlen]) fun i hi hi' ↦ ?_)
    rw [List.getElem_map]
    exact ih i (by omega)
  | @other v hstr harr =>
    cases v with
    | str template => exact absurd rfl (hstr template)
    | arr items => exact absurd rfl (harr items)
    | _ => rfl

/-- The function computes what a value becomes. -/
theorem resolve_eq_iff {v w : Json} : resolve lookup v = w ↔ Interpolates lookup v w := by
  constructor
  · rintro rfl
    exact interpolates_resolve v
  · intro h
    exact h.eq_resolve.symm

private theorem resolveMembers_eq_iff {params out : Members} :
    resolveMembers lookup params = out ↔
      List.Forall₂ (fun p q ↦ p.1 = q.1 ∧ Interpolates lookup p.2 q.2) params out := by
  induction params generalizing out with
  | nil => simp [resolveMembers, eq_comm]
  | cons p params ih =>
    rw [List.forall₂_cons_left_iff]
    constructor
    · rintro rfl
      exact ⟨(p.1, resolve lookup p.2), _, ⟨rfl, resolve_eq_iff.1 rfl⟩, ih.1 rfl, rfl⟩
    · rintro ⟨q, out, ⟨hkey, hvalue⟩, hrest, rfl⟩
      have htail := ih.2 hrest
      rw [resolveMembers] at htail ⊢
      rw [List.map_cons, htail, resolve_eq_iff.2 hvalue, hkey]

/-- **Replacing placeholders does what the relations say.** A text can be taken apart at its
placeholders in exactly one way, and a template becomes what that way makes of it. Resolving
parameters leaves the store unchanged, keeps the keys in their order, and interpolates each
value. -/
theorem resolve_spec (s : Store) :
    (∀ template : String,
      (∃! parts : List (List Char × List Char) × List Char,
        Scan template.toList parts.1 parts.2) ∧
      ∀ v, resolveText s.get? template = v ↔ Resolves s.get? template v) ∧
    ∀ (params out : Members) (s' : Store),
      (StoreAccess.resolve params).answer s = (out, s') ↔
        s' = s ∧ List.Forall₂ (fun p q ↦ p.1 = q.1 ∧ Interpolates s.get? p.2 q.2) params out := by
  refine ⟨fun template ↦ ⟨?_, fun v ↦ resolveText_eq_iff⟩, fun params out s' ↦ ?_⟩
  · obtain ⟨holes, tail, hscan⟩ := scan_exists template.toList
    refine ⟨(holes, tail), hscan, fun parts hparts ↦ ?_⟩
    obtain ⟨hholes, htail⟩ := hparts.unique hscan
    exact Prod.ext hholes htail
  · rw [← resolveMembers_eq_iff]
    constructor
    · intro h
      obtain ⟨hout, hstore⟩ := Prod.mk.inj h
      exact ⟨hstore.symm, hout⟩
    · rintro ⟨rfl, rfl⟩
      rfl

/-- Values put in are not scanned, and a composite value takes the place of the whole template. -/
example : resolveText (fun name ↦ if name = "a" then some (.str "\x7b\x7bb\x7d\x7d") else none)
    "\x7b\x7b a \x7d\x7d-\x7b\x7bb\x7d\x7d" = .str "\x7b\x7bb\x7d\x7d-undefined" := by
  cbv

end WebRecipe.Placeholder
