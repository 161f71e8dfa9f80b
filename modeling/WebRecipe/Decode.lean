import WebRecipe.Json.Basic
import WebRecipe.Number.Text
import WebRecipe.Unicode.Character

/-!
# Decoding records

Turning JSON values into records. A record is written as an object with a member for each field, in
any order, or as an array with an item for each field in the order of declaration. Members that are no
fields do not count, and the fields at the end of an array may be missing where they have a default.
The first wrong member or item is reported, and after these the first missing field. A message quotes
a text between double quotes, with line breaks, tabs, quotes and backslashes escaped and every other
character that cannot be shown written by its code point.
-/

namespace WebRecipe

/-! ### Quoted text -/

namespace Text

/-- The hexadecimal digits of a number. -/
def hexDigits (n : Nat) : String :=
  String.ofList (Nat.toDigits 16 n)

/-- One character inside a quoted text. -/
def quoteChar (c : Char) : String :=
  match c with
  | '\x00' => "\\0"
  | '\t' => "\\t"
  | '\r' => "\\r"
  | '\n' => "\\n"
  | '"' => "\\\""
  | '\\' => "\\\\"
  | _ => if Unicode.isVisible c then c.toString else "\\u\x7b" ++ hexDigits c.toNat ++ "\x7d"

/-- The text between double quotes. -/
def quoted (s : String) : String :=
  "\"" ++ String.join (s.toList.map quoteChar) ++ "\""

end Text

/-! ### Errors -/

/-- Why a value is not what it should be. -/
inductive DecodeError where
  | wrongType (found : Json) (expected : String)
  | wrongLength (length : Nat) (expected : String)
  | missingField (name : String)
  deriving Repr

namespace DecodeError

/-- The text of a number, with a point in any case. -/
def withPoint (s : String) : String :=
  if s.toList.contains '.' then s else s ++ ".0"

/-- What a value is, in words. -/
def kindText : Json → String
  | .null => "null"
  | .bool b => "boolean `" ++ (if b then "true" else "false") ++ "`"
  | .int n => "integer `" ++ toString n ++ "`"
  | .double x => "floating point `" ++ withPoint (Layout.plain.write x) ++ "`"
  | .str s => "string " ++ Text.quoted s
  | .arr _ => "sequence"
  | .obj _ => "map"

/-- The wording of an error. -/
def message : DecodeError → String
  | wrongType found expected => "invalid type: " ++ kindText found ++ ", expected " ++ expected
  | wrongLength n expected => "invalid length " ++ toString n ++ ", expected " ++ expected
  | missingField name => "missing field `" ++ name ++ "`"

end DecodeError

/-! ### Records -/

namespace Decode

/-- The result of decoding. -/
abbrev Result := Except DecodeError

/-- A text. -/
def text : Json → Result String
  | .str s => .ok s
  | v => .error (.wrongType v "a string")

/-- A truth value. -/
def bool : Json → Result Bool
  | .bool b => .ok b
  | v => .error (.wrongType v "a boolean")

/-- A double. -/
def double (v : Json) : Result Float :=
  match v.asDouble? with
  | some x => .ok x
  | none => .error (.wrongType v "f64")

/-- An object as it is. -/
def members : Json → Result Members
  | .obj ms => .ok ms
  | v => .error (.wrongType v "a map")

/-- A value that may be `null` instead. -/
def optional {α : Type} (decode : Json → Result α) : Json → Result (Option α)
  | .null => .ok none
  | v => do return some (← decode v)

/-- A list of values. -/
def list {α : Type} (decode : Json → Result α) : Json → Result (List α)
  | .arr items => items.mapM decode
  | v => .error (.wrongType v "a sequence")

/-- Four values. -/
def four {α : Type} (decode : Json → Result α) : Json → Result (α × α × α × α)
  | .arr items => do
    match ← (items.take 4).mapM decode with
    | [a, b, c, d] =>
      if items.length > 4 then .error (.wrongLength items.length "fewer elements in array")
      else return (a, b, c, d)
    | few => .error (.wrongLength few.length "an array of length 4")
  | v => .error (.wrongType v "an array of length 4")

/-- A field of a record: its name, and whether it may be missing. -/
structure Field where
  name : String
  isOptional : Bool

/-- Reads the fields of a record into a draft, one after another. -/
def record {δ : Type} (name : String) (fields : List Field) (read : δ → String → Json → Result δ)
    (draft : δ) : Json → Result δ
  | .obj ms => do
    let known := ms.filter (fun m ↦ fields.any (fun f ↦ f.name == m.1))
    let draft ← known.foldlM (fun d m ↦ read d m.1 m.2) draft
    match fields.find? (fun f ↦ !f.isOptional && !Members.has ms f.name) with
    | some f => .error (.missingField f.name)
    | none => return draft
  | .arr items => do
    let draft ← (fields.zip items).foldlM (fun d (f, v) ↦ read d f.name v) draft
    match (fields.zipIdx.drop items.length).find? (fun f ↦ !f.1.isOptional) with
    | some (_, i) =>
      .error (.wrongLength i ("struct " ++ name ++ " with " ++ toString fields.length ++ " elements"))
    | none =>
      if items.length > fields.length then
        .error (.wrongLength items.length "fewer elements in array")
      else return draft
  | v => .error (.wrongType v ("struct " ++ name))

end Decode
end WebRecipe
