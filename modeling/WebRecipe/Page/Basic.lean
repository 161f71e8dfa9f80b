import WebRecipe.Decode
import WebRecipe.Error

/-!
# What can be asked of a page

Cookies, the geometry of an element, the pictures that are taken of a page, and the calls of an open
page with what the answer to each is when it succeeds. Elements are named by a selector and, where
several of them match, by their number. Timeouts are in milliseconds.
-/

namespace WebRecipe

/-! ### Cookies -/

/-- A cookie. It expires a number of seconds after the beginning of 1970; one of a session has a
negative number. -/
structure Cookie where
  name : String := ""
  value : String := ""
  domain : String := ""
  path : String := ""
  expires : Float := 0.0
  httpOnly : Bool := false
  secure : Bool := false
  deriving Repr, DecidableEq

namespace Cookie

/-- The fields of the record, in the order of declaration. -/
def fields : List Decode.Field :=
  [⟨"name", false⟩, ⟨"value", false⟩, ⟨"domain", true⟩, ⟨"path", true⟩, ⟨"expires", true⟩,
    ⟨"httpOnly", true⟩, ⟨"secure", true⟩]

/-- Reads one field. -/
def readField (c : Cookie) (field : String) (v : Json) : Decode.Result Cookie := do
  match field with
  | "name" => return { c with name := ← Decode.text v }
  | "value" => return { c with value := ← Decode.text v }
  | "domain" => return { c with domain := ← Decode.text v }
  | "path" => return { c with path := ← Decode.text v }
  | "expires" => return { c with expires := ← Decode.double v }
  | "httpOnly" => return { c with httpOnly := ← Decode.bool v }
  | _ => return { c with secure := ← Decode.bool v }

/-- The cookie that a value describes; all but name and value may be missing. -/
def decode : Json → Decode.Result Cookie :=
  Decode.record "Cookie" fields readField {}

/-- The value that describes a cookie. -/
def toJson (c : Cookie) : Json :=
  .obj [("name", .str c.name), ("value", .str c.value), ("domain", .str c.domain),
    ("path", .str c.path), ("expires", .double c.expires), ("httpOnly", .bool c.httpOnly),
    ("secure", .bool c.secure)]

end Cookie

/-! ### Geometry -/

/-- A point of a page. -/
structure Point where
  x : Float := 0.0
  y : Float := 0.0
  deriving Repr, Inhabited

namespace Point

/-- Reads one field. -/
def readField (p : Point) (field : String) (v : Json) : Decode.Result Point := do
  match field with
  | "x" => return { p with x := ← Decode.double v }
  | _ => return { p with y := ← Decode.double v }

/-- The point that a value describes. -/
def decode : Json → Decode.Result Point :=
  Decode.record "Point" [⟨"x", false⟩, ⟨"y", false⟩] readField {}

end Point

/-- The corners of a quadrilateral, clockwise from the top left. -/
abbrev Corners := Point × Point × Point × Point

/-- A part of a page. -/
structure Clip where
  x : Float
  y : Float
  width : Float
  height : Float
  deriving Repr

/-- A clip in words. -/
def Clip.text (c : Clip) : String :=
  "Clip \x7b x: " ++ Layout.detailed.write c.x ++ ", y: " ++ Layout.detailed.write c.y ++
    ", width: " ++ Layout.detailed.write c.width ++ ", height: " ++
    Layout.detailed.write c.height ++ " \x7d"

/-- The boxes of an element. -/
structure BoxModel where
  border : Corners := default
  margin : Corners := default
  width : Float := 0.0
  height : Float := 0.0
  deriving Repr

namespace BoxModel

/-- The fields of the record, in the order of declaration. -/
def fields : List Decode.Field :=
  [⟨"border", false⟩, ⟨"margin", false⟩, ⟨"width", false⟩, ⟨"height", false⟩]

/-- Reads one field. -/
def readField (b : BoxModel) (field : String) (v : Json) : Decode.Result BoxModel := do
  match field with
  | "border" => return { b with border := ← Decode.four Point.decode v }
  | "margin" => return { b with margin := ← Decode.four Point.decode v }
  | "width" => return { b with width := ← Decode.double v }
  | _ => return { b with height := ← Decode.double v }

/-- The boxes that a value describes. -/
def decode : Json → Decode.Result BoxModel :=
  Decode.record "BoxModel" fields readField {}

/-- The clip at the upper left corner of the border, without the margins on the left and on the right
and with the margins above and below. -/
def paddedClip (b : BoxModel) : Clip :=
  let (topLeft, topRight, bottomRight, bottomLeft) := b.border
  let (outerTopLeft, outerTopRight, outerBottomRight, outerBottomLeft) := b.margin
  let left := bottomLeft.x - outerBottomLeft.x
  let right := outerTopRight.x - topRight.x
  let above := topLeft.y - outerTopLeft.y
  let below := outerBottomRight.y - bottomRight.y
  { x := topLeft.x
    y := topLeft.y
    width := b.width - left - right
    height := b.height + above + below }

end BoxModel

/-! ### Pictures -/

/-- The format of a picture. -/
inductive ImageFormat where
  | png
  | jpeg
  deriving Repr, DecidableEq

namespace ImageFormat

/-- The format of a name; every name but one stands for the usual format. -/
def ofName : Option String → ImageFormat
  | some "jpeg" => jpeg
  | _ => png

/-- What the names of files of a format end in. -/
def extension : ImageFormat → String
  | png => "png"
  | jpeg => "jpeg"

end ImageFormat

/-- What picture is wanted, and where it goes. -/
structure ScreenshotRequest where
  path : String
  format : ImageFormat
  fullPage : Bool
  clip : Option Clip
  deriving Repr

/-! ### Calls -/

/-- A call of a page. -/
inductive PageCall where
  | goto (url : String) (timeout : Nat)
  | reload
  | url
  | title
  | content
  | evaluate (script : String)
  | waitForSelector (selector : String) (visible : Bool) (timeout : Nat)
  | waitForNavigation (timeout : Nat)
  | count (selector : String)
  | click (selector : String) (index : Nat)
  | scrollIntoView (selector : String) (index : Nat)
  | typeText (selector text : String)
  /-- The text, or an attribute, of every element. -/
  | texts (selector : String) (attr : Option String)
  /-- The texts of the children in every parent. -/
  | childTexts (parent child : String) (attr : Option String)
  /-- The inner source, or an attribute, of the first element. -/
  | firstContent (selector : String) (attr : Option String)
  | boxModel (selector : String)
  /-- A picture, which the caller puts where the request says. -/
  | screenshot (request : ScreenshotRequest)
  | cookies
  | setCookies (cookies : List Cookie)
  | bringToFront
  deriving Repr

namespace PageCall

/-- The type of the answer to a call. -/
def Reply : PageCall → Type
  | goto .. => Unit
  | reload => Unit
  | url => String
  | title => String
  | content => String
  | evaluate _ => Json
  | waitForSelector .. => Unit
  | waitForNavigation _ => Unit
  | count _ => Nat
  | click .. => Unit
  | scrollIntoView .. => Unit
  | typeText .. => Unit
  | texts .. => List Json
  | childTexts .. => List (List Json)
  | firstContent .. => Option String
  | boxModel _ => BoxModel
  | screenshot _ => ByteArray
  | cookies => List Cookie
  | setCookies _ => Unit
  | bringToFront => Unit

/-- Going back in the history of a page. -/
def goBack : PageCall := evaluate "history.back()"

/-- Going forward in the history of a page. -/
def goForward : PageCall := evaluate "history.forward()"

end PageCall
end WebRecipe
