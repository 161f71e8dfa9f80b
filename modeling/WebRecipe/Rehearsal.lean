import WebRecipe.Page.Basic
import WebRecipe.World

/-!
# Rehearsals

Surroundings in which everything is written down beforehand: the pages that the browser hands out, the
calls for a page that fail, what is typed on the console, the time of day, and what the network
answers. After the pages that are written down the browser hands out blank ones.

A scripted page is a list of elements, each under the selector that finds it, and the failures that are
in store. What is done on the page is noted as a list of events: an operation first takes the next
failure that is in store for it, and fails with it; otherwise it leaves an event. Reading leaves none.
-/

namespace WebRecipe

/-- An element of a scripted page. -/
structure ScriptedElement where
  text : String := ""
  source : String := ""
  attributes : List (String × String) := []
  visible : Bool := true
  children : List (String × ScriptedElement) := []
  box : BoxModel := {}

/-- A scripted page. -/
structure ScriptedPage where
  url : String := "about:blank"
  title : String := ""
  elements : List (String × ScriptedElement) := []
  cookies : List Cookie := []
  /-- The failures in store, each with the operation that takes it. -/
  failures : List (String × String) := []
  events : Array String := #[]
  closed : Bool := false

namespace ScriptedPage

/-- The elements that a selector finds. -/
def find (p : ScriptedPage) (selector : String) : List ScriptedElement :=
  p.elements.filterMap (fun e ↦ if e.1 == selector then some e.2 else none)

/-- The text of an element, or one of its attributes. -/
def read (attr : Option String) (e : ScriptedElement) : Json :=
  match attr with
  | some name => ((e.attributes.lookup name).map Json.str).getD .null
  | none => .str e.text

/-- The next failure of an operation, and the failures that remain. -/
def takeFailure (operation : String) :
    List (String × String) → Option (String × List (String × String))
  | [] => none
  | (o, message) :: rest =>
    if o == operation then some (message, rest)
    else (takeFailure operation rest).map (fun r ↦ (r.1, (o, message) :: r.2))

/-- The outcome of a call, and the page after it. -/
abbrev Outcome (α : Type) := Except PageError α × ScriptedPage

/-- An operation that leaves an event unless a failure is in store for it. -/
def operate (p : ScriptedPage) (operation event : String) : Outcome Unit :=
  match takeFailure operation p.failures with
  | some (message, rest) => (.error (.timeout message), { p with failures := rest })
  | none => (.ok (), { p with events := p.events.push event })

/-- The page changed after a success. -/
def thenChange (r : Outcome Unit) (change : ScriptedPage → ScriptedPage) : Outcome Unit :=
  match r with
  | (.ok (), p) => (.ok (), change p)
  | failed => failed

/-- A selector with the number of an element. -/
def indexed (selector : String) (index : Nat) : String :=
  selector ++ "[" ++ toString index ++ "]"

/-- The text of a clip, if there is one. -/
def clipText : Option Clip → String
  | some c => "Some(" ++ c.text ++ ")"
  | none => "None"

/-- What stands in the place of every picture of a scripted page. -/
def picture : ByteArray := "fake image".toUTF8

/-- The outcome of a call. -/
def call (p : ScriptedPage) : (c : PageCall) → Outcome c.Reply
  | .goto url _ => thenChange (p.operate "goto" ("goto " ++ url)) ({ · with url := url })
  | .reload => p.operate "reload" "reload"
  | .url => (.ok p.url, p)
  | .title => (.ok p.title, p)
  | .content => (.ok (String.join (p.elements.map (fun e ↦ e.2.source))), p)
  | .evaluate script =>
    match p.operate "evaluate" ("evaluate " ++ script) with
    | (.ok (), p) => (.ok .null, p)
    | (.error e, p) => (.error e, p)
  | .waitForSelector selector visible timeout =>
    match p.operate "wait" ("wait " ++ selector) with
    | (.ok (), p) =>
      if (p.find selector).any (fun e ↦ !visible || e.visible) then (.ok (), p)
      else (.error (.selectorTimeout selector timeout), p)
    | failed => failed
  | .waitForNavigation _ => p.operate "navigation" "navigation"
  | .count selector => (.ok (p.find selector).length, p)
  | .click selector index =>
    if (p.find selector).length ≤ index then (.error (.noElement selector), p)
    else p.operate "click" ("click " ++ indexed selector index)
  | .scrollIntoView selector index => p.operate "scroll" ("scroll " ++ indexed selector index)
  | .typeText selector text =>
    if (p.find selector).isEmpty then (.error (.noElement selector), p)
    else p.operate "type" ("type " ++ selector ++ " " ++ text)
  | .texts selector attr => (.ok ((p.find selector).map (read attr)), p)
  | .childTexts parent child attr =>
    let textsIn (e : ScriptedElement) : List Json :=
      e.children.filterMap (fun c ↦ if c.1 == child then some (read attr c.2) else none)
    (.ok ((p.find parent).map textsIn), p)
  | .firstContent selector attr =>
    let content (e : ScriptedElement) : Option String :=
      match attr with
      | some name => e.attributes.lookup name
      | none => some e.source
    (.ok ((p.find selector).head?.bind content), p)
  | .boxModel selector =>
    match (p.find selector).head? with
    | some e => (.ok e.box, p)
    | none => (.error (.noElement selector), p)
  | .screenshot request =>
    match p.operate "screenshot" ("screenshot " ++ request.path ++ " " ++ clipText request.clip) with
    | (.ok (), p) => (.ok picture, p)
    | (.error e, p) => (.error e, p)
  | .cookies => (.ok p.cookies, p)
  | .setCookies cookies =>
    thenChange (p.operate "cookies" ("set_cookies " ++ toString cookies.length))
      ({ · with cookies := cookies })
  | .bringToFront => p.operate "front" "bring_to_front"

end ScriptedPage

/-- The state of a rehearsal. -/
structure Rehearsal where
  /-- The pages that were handed out, by number. -/
  pages : Array ScriptedPage := #[]
  /-- The pages that are still to be handed out. -/
  waiting : List ScriptedPage := []
  /-- How often a page was asked for. -/
  opened : Nat := 0
  /-- The numbers of the calls for a page that fail. -/
  failing : List Nat := []
  /-- What is typed on the console and not read yet. -/
  typed : List UInt8 := []
  ids : Nat := 0
  timeOfDay : Int := 1750000000000
  network : Url → Except FetchError Response := fun url ↦ .error (.unreachable url)

namespace Rehearsal

/-- Opens the next of the waiting pages, or an empty one, unless this opening is to fail. -/
def openPage (r : Rehearsal) : Except PageError PageId × Rehearsal :=
  let n := r.opened
  let r := { r with opened := n + 1 }
  if r.failing.contains n then (.error (.launch ("call " ++ toString n)), r)
  else
    let page := r.waiting.headD {}
    (.ok r.pages.size, { r with pages := r.pages.push page, waiting := r.waiting.tail })

/-- Closes a page. -/
def closePage (p : PageId) (r : Rehearsal) : Except PageError Unit × Rehearsal :=
  (.ok (), { r with pages := r.pages.modify p ({ · with closed := true }) })

/-- Calls a page that was opened. -/
def callPage (p : PageId) (c : PageCall) (r : Rehearsal) :
    Except PageError c.Reply × Rehearsal :=
  match r.pages[p]? with
  | none => (.error (.protocol "no such page"), r)
  | some page =>
    let (outcome, page) := page.call c
    (outcome, { r with pages := r.pages.set! p page })

/-- How many bytes of typed text are taken at once. -/
def typedChunk : Nat := 8192

/-- The first line of typed bytes, and what is left: the bytes that were taken together with the end of
the line are lost. -/
def takeLine (typed : List UInt8) : List UInt8 × List UInt8 :=
  match typed.findIdx? (· == 10) with
  | some i =>
    let line := typed.take i
    let line := if line.getLast? == some 13 then line.dropLast else line
    (line, typed.drop ((i / typedChunk + 1) * typedChunk))
  | none => (typed, [])

/-- Takes the next line that is typed. -/
def ask (r : Rehearsal) : Except FileError String × Rehearsal :=
  let (line, rest) := takeLine r.typed
  let answer := match String.fromUTF8? ⟨line.toArray⟩ with
    | some text => .ok text
    | none => .error .notText
  (answer, { r with typed := rest })

/-- A number in hexadecimal digits, with zeros in front up to a width. -/
def hexText (n width : Nat) : String :=
  let digits := Nat.toDigits 16 n
  String.ofList (List.replicate (width - digits.length) '0' ++ digits)

/-- An id that was not handed out before. -/
def freshId (r : Rehearsal) : String × Rehearsal :=
  ("00000000-0000-4000-8000-" ++ hexText r.ids 12, { r with ids := r.ids + 1 })

/-- The surroundings of a rehearsal. -/
def surroundings : Surroundings Rehearsal where
  openPage := openPage
  closePage := closePage
  page := callPage
  ask := fun _ r ↦ r.ask
  fetch := fun url r ↦ (r.network url, r)
  now := timeOfDay
  freshId := freshId
  roll := fun r ↦ (0.5, r)

end Rehearsal
end WebRecipe
