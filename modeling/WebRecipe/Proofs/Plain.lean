import WebRecipe.Proofs.Members
import WebRecipe.Proofs.Placeholder
import WebRecipe.Proofs.Text.Occurrence

/-!
# Values without placeholders

A text in which no two opening braces stand next to each other is no template, and replacing
placeholders leaves it alone. So it is with a value in which no text is a template; an object stays
as it is in any case, and so does a list of objects.

## Main definitions

* `Json.Plain`: no text in a value is a template.
* `Placeholder.Free`: no placeholder stands in a text.

## Main results

* `Placeholder.resolveText_eq_self`, `Placeholder.resolve_eq_self`, `Placeholder.resolve_objects`.
-/

namespace WebRecipe

/-- Where a piece of text is not found, it does not stand. -/
theorem Text.not_prefix_of_findFrom {needle text : List Char} {start : Nat}
    (h : findFrom needle start text = none) {before rest : List Char}
    (htext : text = before ++ rest) : ¬ needle <+: rest := by
  cases h ▸ findFrom_finds needle text start with
  | missing hempty =>
    rintro ⟨after, rfl⟩
    have hposition : start + before.length ∈ positions needle start text :=
      ⟨before.length, rfl, before, after, by rw [htext, List.append_assoc], rfl⟩
    exact Set.notMem_empty _ (hempty ▸ hposition)

/-- No text in a value is a template. -/
def Json.Plain (v : Json) : Prop :=
  ∀ part ∈ v.parts, Placeholder.isTemplate part = false

instance (v : Json) : Decidable v.Plain :=
  inferInstanceAs (Decidable (∀ part ∈ v.parts, Placeholder.isTemplate part = false))

namespace Placeholder

variable {lookup : String → Option Json}

/-- No placeholder stands in a text: every piece of it is a character that stands for itself. -/
def Free (s : String) : Prop :=
  pieces s.toList = s.toList.map .char

instance (s : String) : Decidable (Free s) :=
  inferInstanceAs (Decidable (pieces s.toList = s.toList.map .char))

/-- A text without placeholders stays as it is. -/
theorem Free.resolveText_eq {s : String} (h : Free s) (lookup : String → Option Json) :
    resolveText lookup s = .str s := by
  have hvalue : (s.toList.map Piece.char).findSome? (pieceValue? lookup) = none := by
    simp [pieceValue?]
  have htext : (s.toList.map Piece.char).flatMap (pieceText lookup) = s.toList := by
    simp [List.flatMap_map, pieceText]
  rw [resolveText, h, hvalue, htext]
  dsimp only
  rw [String.ofList_toList]

/-- No placeholder stands in a text that is no template. -/
theorem free_of_not_isTemplate {s : String} (h : isTemplate (.str s) = false) : Free s := by
  rw [isTemplate, Text.occursIn, Text.contains, Text.find?, Option.isSome_eq_false_iff,
    Option.isNone_iff_eq_none] at h
  have hscan : Scan s.toList [] s.toList := by
    refine .last fun before rest htext ⟨content, after, hopens⟩ ↦ ?_
    refine Text.not_prefix_of_findFrom h htext ⟨content ++ '\x7d' :: '\x7d' :: after, ?_⟩
    rw [hopens.eq]
    rfl
  exact hscan.pieces_eq

/-- No placeholder stands in a text among parameters without templates. -/
theorem free_of_plain {ps : Members} (h : (Json.obj ps).Plain) {key s : String}
    (hs : ps.get? key = some (.str s)) : Free s :=
  free_of_not_isTemplate (h _ (Json.parts_member (Members.mem_of_get? hs) (Json.mem_parts_self _)))

/-- A text that is no template has no placeholders, and stays as it is. -/
theorem resolveText_eq_self {s : String} (h : isTemplate (.str s) = false) :
    resolveText lookup s = .str s :=
  (free_of_not_isTemplate h).resolveText_eq lookup

private theorem resolveItems_eq_self {items : List Json}
    (h : ∀ v ∈ items, resolve lookup v = v) : resolveItems lookup items = items := by
  induction items with
  | nil => rfl
  | cons v items ih =>
    obtain ⟨hv, hitems⟩ := List.forall_mem_cons.1 h
    rw [resolveItems, hv, ih hitems]

/-- Objects in a list stay as they are. -/
theorem resolve_objects {items : List Json} (h : ∀ v ∈ items, ∃ ms, v = .obj ms) :
    resolve lookup (.arr items) = .arr items := by
  rw [resolve, resolveItems_eq_self]
  intro v hv
  obtain ⟨ms, rfl⟩ := h v hv
  rfl

/-- A value without templates stays as it is. -/
theorem resolve_eq_self {v : Json} (h : v.Plain) : resolve lookup v = v := by
  induction hsize : sizeOf v using Nat.strongRecOn generalizing v with
  | ind size ih =>
    subst hsize
    cases v with
    | str s => exact resolveText_eq_self (h _ (Json.mem_parts_self _))
    | arr items =>
      rw [resolve, resolveItems_eq_self]
      intro v hv
      exact ih _ (Json.sizeOf_item_lt hv) (fun part hpart ↦ h part (Json.parts_item hv hpart)) rfl
    | _ => rfl

/-- Parameters without templates stay as they are. -/
theorem resolveMembers_eq_self {ps : Members} (h : (Json.obj ps).Plain) :
    resolveMembers lookup ps = ps := by
  rw [resolveMembers]
  refine (List.map_congr_left fun m hm ↦ ?_).trans ps.map_id
  have hplain : m.2.Plain := fun part hpart ↦ h part (Json.parts_member hm hpart)
  rw [resolve_eq_self hplain]
  rfl

end Placeholder
end WebRecipe
