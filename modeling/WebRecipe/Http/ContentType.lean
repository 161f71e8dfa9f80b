/-!
# Content types

The type that a request says its body has: a type and a subtype, which may end in a suffix after a plus
sign, and parameters. Letters of either case are the same.
-/

namespace WebRecipe.Http

/-- A content type, in lower case and without its parameters. -/
structure ContentType where
  type : List Char
  subtype : List Char
  suffix : Option (List Char)
  deriving Repr, DecidableEq

namespace ContentType

/-- The characters that may stand in names. -/
def isTokenChar (c : Char) : Bool :=
  c.isAlphanum || "!#$%&+-.^_`".toList.contains c

/-- The characters that may stand between quotes. -/
def isQuotedChar (c : Char) : Bool :=
  0x20 ≤ c.toNat && c.toNat < 0x7F && c != '"'

/-- Whether a text is a list of parameters: names with values, separated by semicolons. -/
def areParams : Nat → List Char → Bool
  | 0, _ => false
  | _, [] => true
  | fuel + 1, ' ' :: rest => areParams fuel rest
  | fuel + 1, cs =>
    let name := cs.takeWhile isTokenChar
    match cs.drop name.length with
    | '=' :: '"' :: rest =>
      let value := rest.takeWhile isQuotedChar
      match rest.drop value.length with
      | '"' :: rest =>
        match rest.dropWhile (· == ' ') with
        | [] => !name.isEmpty && !value.isEmpty
        | ';' :: rest => !name.isEmpty && !value.isEmpty && areParams fuel rest
        | _ => false
      | _ => false
    | '=' :: rest =>
      let value := rest.takeWhile isTokenChar
      match rest.drop value.length with
      | [] => !name.isEmpty
      | ';' :: rest => !name.isEmpty && !value.isEmpty && areParams fuel rest
      | _ => false
    | _ => false

private def splitSuffix (subtype : List Char) : List Char × Option (List Char) :=
  match subtype.reverse.findIdx? (· == '+') with
  | some i =>
    if i + 1 < subtype.length then
      (subtype.take (subtype.length - 1 - i), some (subtype.drop (subtype.length - i)))
    else (subtype, none)
  | none => (subtype, none)

/-- The content type that a text writes. -/
def parse? (text : String) : Option ContentType := do
  let cs := text.toList
  let type := cs.takeWhile isTokenChar
  match cs.drop type.length with
  | '/' :: rest =>
    let subtype := rest.takeWhile isTokenChar
    let wellFormed := match rest.drop subtype.length with
      | [] => true
      | ';' :: params => !subtype.isEmpty && areParams (params.length + 1) params
      | _ => false
    if type.isEmpty || !wellFormed then none
    else
      let (stem, suffix) := splitSuffix (subtype.map Char.toLower)
      return ⟨type.map Char.toLower, stem, suffix⟩
  | _ => none

/-- Whether a content type says that the body is a JSON document. -/
def isJson (t : ContentType) : Bool :=
  t.type == "application".toList &&
    (t.subtype == "json".toList || t.suffix == some "json".toList)

end ContentType
end WebRecipe.Http
