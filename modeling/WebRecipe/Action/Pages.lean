import WebRecipe.Action.Basic
import WebRecipe.Path

/-!
# Actions on pages

Opening, closing and switching pages, calling their methods, taking pictures, and reading elements. The
methods that a recipe can call by name take positional arguments. A method of what another method yields
is never known.
-/

namespace WebRecipe

/-! ### Methods by name -/

namespace PageMethod

/-- How long going to a page may take, in milliseconds. -/
def navigationTimeout : Nat := 30000

/-- The first argument, which must be a text. -/
def textArg (method : String) (args : List Json) : Except PageError String :=
  match args.head?.bind Json.asStr? with
  | some s => .ok s
  | none => .error (.protocol (method ++ " expects a string argument"))

/-- A member of the argument at a position. -/
def option? (args : List Json) (i : Nat) (key : String) : Option Json :=
  args[i]?.bind (Json.get? · key)

/-- The timeout among the options at a position. -/
def timeout (args : List Json) (i : Nat) : Nat :=
  ((option? args i "timeout").bind Json.asNat?).getD navigationTimeout

/-- A routine that may fail as a page does. -/
abbrev Outcome := ExceptT PageError Routine

/-- Calls the page. -/
def ask (page : PageId) (c : PageCall) : Outcome c.Reply :=
  ExceptT.mk (Routine.command (.page page c))

/-- Calls the page for its effect. -/
def tell (page : PageId) (c : PageCall) : Outcome Json := do
  let _ ← ask page c
  return .null

/-- Calls a method of a page. -/
def call (page : PageId) (method : String) (inner : Option String) (args : List Json) :
    Outcome Json :=
  match inner with
  | some sub => throw (.unsupported (method ++ "." ++ sub))
  | none => do
    match method with
    | "goto" =>
      let url ← ExceptT.mk (.done (textArg method args))
      tell page (.goto url (timeout args 1))
    | "reload" => tell page .reload
    | "goBack" => tell page .goBack
    | "goForward" => tell page .goForward
    | "title" => return .str (← ask page .title)
    | "url" => return .str (← ask page .url)
    | "content" => return .str (← ask page .content)
    | "evaluate" =>
      let script ← ExceptT.mk (.done (textArg method args))
      ask page (.evaluate script)
    | "bringToFront" => tell page .bringToFront
    | "waitForSelector" =>
      let visible := ((option? args 1 "visible").bind Json.asBool?).getD false
      let selector ← ExceptT.mk (.done (textArg method args))
      tell page (.waitForSelector selector visible (timeout args 1))
    | "waitForTimeout" =>
      ExceptT.lift (Routine.command (.sleep ((args.head?.bind Json.asNat?).getD 0)))
      return .null
    | "waitForNavigation" => tell page (.waitForNavigation (timeout args 0))
    | other => throw (.unsupported other)

end PageMethod

/-! ### Actions -/

namespace Action

/-- Calls a method of the page; the parameters other than the name of the method are its arguments, in
order. A failure is shown and otherwise passed over. -/
def callMethod : Handler := fun cx ps ↦ do
  let method ← ofExcept (ps.text "puppeteer" "func")
  let inner := ps.text? "func2"
  display (": Puppeteer " ++ method ++ (match inner with | some m => "." ++ m | none => ""))
  if method = "newPage" then
    let key ← command .freshId
    cx.invoke "newPage" [("pageKey", .str key)]
  else
    let args := (ps.filter (fun p ↦ p.1 != "func" && p.1 != "func2")).map Prod.snd
    let page ← ofExcept (cx.needPage "puppeteer")
    match ← ExceptT.lift (PageMethod.call page method inner args).run with
    | .ok result => setInput result
    | .error e => display (": Puppeteer call failed: " ++ e.message)

/-- Opens a page. -/
def newPage : Handler := fun _ ps ↦ do
  let key ← ofExcept (ps.text "newPage" "pageKey")
  let page ← orFail (pageFailure "newPage") (← command .openPage)
  access (.insertPage key page)
  display ("New page created with key '" ++ key ++ "'")

/-- Shows that no page has a label. -/
def showMissing (key : String) : Action Unit :=
  display ("Page with key '" ++ key ++ "' not found")

/-- Closes a page. -/
def closePage : Handler := fun _ ps ↦ do
  let key ← ofExcept (ps.text "closePage" "pageKey")
  match ← access (.removePage key) with
  | some page =>
    orFail (pageFailure "closePage") (← command (.closePage page))
    display ("Page with key '" ++ key ++ "' closed")
  | none => showMissing key

/-- Makes a page the active one. -/
def switchPage : Handler := fun _ ps ↦ do
  let key ← ofExcept (ps.text "switchPage" "pageKey")
  match ← access (.page key) with
  | some page =>
    let _ ← onPage page .bringToFront (pageFailure "switchPage")
    let _ ← access (.activatePage key)
    display ("Switched to page with key '" ++ key ++ "'")
  | none => showMissing key

/-! ### Pictures -/

/-- The path of a picture in the current directory. -/
def picturePath (action name : String) (format : ImageFormat) : Action String := do
  match ← getText Key.currentDir with
  | some dir => return Path.join dir (Path.sanitize name ++ "." ++ format.extension)
  | none => throw (.failed action "No base directory set")

/-- Takes a picture and writes it to its path. -/
def takePicture (action : String) (page : PageId) (request : ScreenshotRequest) :
    Action Unit := do
  let picture ← onPage page (.screenshot request) (pageFailure action)
  orFail (fun e ↦ pageFailure action (.file e)) (← tryFile (.write request.path picture))

/-- Takes a picture of the page. -/
def screenshot : Handler := fun cx ps ↦ do
  let name ← ofExcept (ps.text "screenshot" "name")
  let format := ImageFormat.ofName (ps.text? "type")
  let path ← picturePath "screenshot" name format
  display (": Taking screenshot " ++ name)
  let page ← ofExcept (cx.needPage "screenshot")
  takePicture "screenshot" page ⟨path, format, ps.bool "fullPage" true, none⟩

/-- Takes a picture of an element. -/
def screenshotElement : Handler := fun cx ps ↦ do
  let name ← ofExcept (ps.text "screenshotElement" "name")
  let selector ← ofExcept (ps.text "screenshotElement" "selector")
  let format := ImageFormat.ofName (ps.text? "type")
  let path ← picturePath "screenshotElement" name format
  display (": Taking screenshot of element " ++ name)
  let page ← ofExcept (cx.needPage "screenshotElement")
  let box ← onPage page (.boxModel selector) (selectorFailure "screenshotElement" selector)
  takePicture "screenshotElement" page ⟨path, format, false, some (BoxModel.paddedClip box)⟩

/-! ### Elements -/

/-- Hands on the texts of the elements that a selector finds. -/
def getElements : Handler := fun cx ps ↦ do
  let selector ← ofExcept (ps.text "getElements" "selector")
  let page ← ofExcept (cx.needPage "getElements")
  let texts : List Json ←
    onPage page (.texts selector (ps.text? "attribute")) (pageFailure "getElements")
  setInput (.arr texts)

/-- Hands on the texts of the children in each parent. -/
def getChildren : Handler := fun cx ps ↦ do
  let parent ← ofExcept (ps.text "getChildren" "selectorParent")
  let child ← ofExcept (ps.text "getChildren" "selectorChild")
  let page ← ofExcept (cx.needPage "getChildren")
  let groups : List (List Json) ←
    onPage page (.childTexts parent child (ps.text? "attribute")) (pageFailure "getChildren")
  setInput (.arr (groups.map Json.arr))

/-- Hands on whether a selector finds an element. -/
def elementExists : Handler := fun cx ps ↦ do
  let selector ← ofExcept (ps.text "elementExists" "selector")
  let page ← ofExcept (cx.needPage "elementExists")
  let count : Nat ← onPage page (.count selector) (pageFailure "elementExists")
  setInput (.bool (0 < count))

end Action
end WebRecipe
