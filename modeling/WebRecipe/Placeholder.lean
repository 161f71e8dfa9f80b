import WebRecipe.Json.Printer
import WebRecipe.Number.Text
import WebRecipe.Text.Blank
import WebRecipe.Text.Search

/-!
# Placeholders

A text may name stored values between double braces. The placeholders of a text are the leftmost
non-overlapping occurrences of two opening braces, as few characters other than a line break as
possible, and two closing braces; what stands between, without the blanks around it, is the name.

A placeholder is replaced by the text of its value. Where a value is an object, an array or `null`,
the value of the first such placeholder takes the place of the whole text. Values put in are not
looked through again.
-/

namespace WebRecipe.Placeholder

/-- A piece of a text: a character that stands for itself, or a placeholder with what is between its
braces. -/
inductive Piece where
  | char (c : Char)
  | hole (content : List Char)
  deriving Repr, DecidableEq

/-- What comes before the closing braces on the same line, and what comes after them. -/
def untilClosed : List Char → Option (List Char × List Char)
  | [] => none
  | c :: rest =>
    match c, rest with
    | '\x7d', '\x7d' :: after => some ([], after)
    | _, _ =>
      if c = '\n' then none
      else (untilClosed rest).map (fun r ↦ (c :: r.1, r.2))

theorem untilClosed_length {cs content after : List Char}
    (h : untilClosed cs = some (content, after)) : after.length < cs.length := by
  induction cs generalizing content after with
  | nil => simp [untilClosed] at h
  | cons c rest ih =>
    unfold untilClosed at h
    split at h
    · obtain ⟨-, rfl⟩ := by simpa using h
      simp only [List.length_cons]
      omega
    · split at h
      · simp at h
      · obtain ⟨r, hr, h⟩ := Option.map_eq_some_iff.1 h
        obtain ⟨-, rfl⟩ := by simpa using h
        have := @ih r.1 r.2 hr
        simp only [List.length_cons]
        omega

/-- The pieces of a text. -/
def pieces : List Char → List Piece
  | [] => []
  | '\x7b' :: '\x7b' :: rest =>
    match _h : untilClosed rest with
    | some (content, after) => .hole content :: pieces after
    | none => .char '\x7b' :: pieces ('\x7b' :: rest)
  | c :: rest => .char c :: pieces rest
termination_by cs => cs.length
decreasing_by
  all_goals simp only [List.length_cons]
  · have := untilClosed_length _h
    omega
  · omega
  · omega

/-- The name in a placeholder. -/
def nameOf (content : List Char) : String :=
  String.ofList (Text.trim content)

/-- Whether a value takes the place of a whole text. -/
def isComposite : Json → Bool
  | .null => true
  | .arr _ => true
  | .obj _ => true
  | _ => false

/-- The text that a value puts in the place of its placeholder. -/
def scalarText : Json → String
  | .str s => s
  | .int n => if n ≤ Json.maxInt64 then toString n else numberText (Float.ofInt n)
  | .double x => numberText x
  | v => v.compact

/-- What a piece becomes; a name without a value becomes `undefined`. -/
def pieceText (lookup : String → Option Json) : Piece → List Char
  | .char c => [c]
  | .hole content =>
    match lookup (nameOf content) with
    | some v => (scalarText v).toList
    | none => "undefined".toList

/-- The value that a piece puts in the place of the whole text. -/
def pieceValue? (lookup : String → Option Json) : Piece → Option Json
  | .char _ => none
  | .hole content => (lookup (nameOf content)).filter isComposite

/-- The value of a text with its placeholders replaced. -/
def resolveText (lookup : String → Option Json) (template : String) : Json :=
  let ps := pieces template.toList
  match ps.findSome? (pieceValue? lookup) with
  | some v => v
  | none => .str (String.ofList (ps.flatMap (pieceText lookup)))

mutual

/-- The value with its placeholders replaced: in a text, and in the texts of an array at any depth of
arrays. Objects stay as they are. -/
def resolve (lookup : String → Option Json) : Json → Json
  | .str s => resolveText lookup s
  | .arr items => .arr (resolveItems lookup items)
  | v => v

/-- The items of an array with their placeholders replaced. -/
def resolveItems (lookup : String → Option Json) : List Json → List Json
  | [] => []
  | v :: rest => resolve lookup v :: resolveItems lookup rest

end

/-- Parameters with the placeholders in their values replaced. -/
def resolveMembers (lookup : String → Option Json) (params : Members) : Members :=
  params.map (fun p ↦ (p.1, resolve lookup p.2))

/-- Whether a value is a text in which a placeholder might stand. -/
def isTemplate : Json → Bool
  | .str s => Text.occursIn "\x7b\x7b" s
  | _ => false

end WebRecipe.Placeholder
