import WebRecipe.Action.Interaction
import WebRecipe.Json.Parser
import WebRecipe.Json.Printer
import WebRecipe.Path

/-!
# Logging in

Filling in a form and submitting it. The cookies of the page are then saved in the base directory, and
while the one that counts has not expired they take the place of another login.
-/

namespace WebRecipe.Action

/-- What is needed to log in. -/
structure Login where
  url : String
  usernameSelector : String
  username : String
  passwordSelector : String
  password : String
  submitSelector : String
  cookieName : Option String

namespace Login

/-- How long the field of the user name may take to become visible, in milliseconds. -/
def usernameTimeout : Nat := 10000

/-- How long the page after the login may take, in milliseconds. -/
def submitTimeout : Nat := 30000

/-- The directory of saved cookies. -/
def cookiesDir : String := "cookies"

/-- The file of saved cookies. -/
def cookiesFile : String := "cookies/cookies.json"

/-- The login that parameters describe. -/
def ofParams (ps : Members) : Except ActionError Login := do
  return {
    url := ← ps.text "login" "url"
    usernameSelector := ← ps.text "login" "usernameSelector"
    username := ← ps.text "login" "username"
    passwordSelector := ← ps.text "login" "passwordSelector"
    password := ← ps.text "login" "password"
    submitSelector := ← ps.text "login" "submitSelector"
    cookieName := ps.text? "cookieName" }

/-- The cookies that a text describes; a text that cannot be read describes none. -/
def readCookies (text : String) : List Cookie :=
  match Json.parse text with
  | .error _ => []
  | .ok v =>
    match Decode.list Cookie.decode v with
    | .ok cookies => cookies
    | .error _ => []

/-- The text that describes cookies. -/
def writeCookies (cookies : List Cookie) : String :=
  (Json.arr (cookies.map Cookie.toJson)).compact

/-- The cookie that counts: the first one of the name, or the first one when no name is given. -/
def token? (name : Option String) (cookies : List Cookie) : Option Cookie :=
  match name with
  | some n => cookies.find? (fun c ↦ c.name == n)
  | none => cookies.head?

/-- Whether a cookie is still valid at a time of day in milliseconds. -/
def isValidAt (now : Int) (c : Cookie) : Bool :=
  decide (Float.ofInt now < c.expires * 1000.0)

/-- Takes the saved cookies if the one that counts is valid, and deletes them if it is not. -/
def restore (page : PageId) (cache : String) (name : Option String) : Action Bool := do
  if ← pathExists cache then
    display ": Loading cookies"
    let text ← file "login" "read" (.readText cache)
    let cookies := readCookies text
    let now ← command .now
    if (token? name cookies).any (isValidAt now) then
      let _ ← onPage page (.setCookies cookies) (pageFailure "login")
      display ": Cookies loaded"
      return true
    else
      let _ ← file "login" "unlink" (.removeFile cache)
      display ": Cookies expired"
      return false
  else return false

/-- Waits until an element is visible. -/
def awaitVisible (page : PageId) (selector : String) (timeout : Nat) : Action Unit := do
  let _ ← onPage page (.waitForSelector selector true timeout) (selectorFailure "login" selector)

/-- Saves the cookies of the page, if there are any. -/
def saveCookies (cx : Context) (page : PageId) (cache : String) : Action Unit := do
  let cookies : List Cookie ← onPage page .cookies (pageFailure "login")
  if cookies.isEmpty then return ()
  match Path.parent? cache with
  | none => pure ()
  | some dir =>
    if !(← pathExists dir) then
      cx.invoke "createDir" [("dir", .str cookiesDir), ("useBaseDir", .bool true)]
  let _ ← file "login" "write" (.write cache (writeCookies cookies).toUTF8)
  display ": Cookies saved"

/-- Fills in the form, submits it and saves the cookies. -/
def submit (cx : Context) (page : PageId) (login : Login) (cache : String) : Action Unit := do
  cx.invoke "puppeteer" [("func", .str "goto"), ("url", .str login.url)]
  display ": Page loaded"
  awaitVisible page login.usernameSelector usernameTimeout
  cx.invoke "type" [("selector", .str login.usernameSelector), ("text", .str login.username)]
  awaitVisible page login.passwordSelector visibleTimeout
  cx.invoke "type" [("selector", .str login.passwordSelector), ("text", .str login.password),
    ("secret", .bool true)]
  display ": Credentials entered"
  awaitVisible page login.submitSelector visibleTimeout
  cx.invoke "click" [("selector", .str login.submitSelector)]
  display ": Login submitted"
  let _ ← onPage page (.waitForNavigation submitTimeout) (pageFailure "login")
  saveCookies cx page cache

/-- Logs in once. -/
def once (cx : Context) (page : PageId) (login : Login) : Action Unit :=
  indented do
    match ← getText Key.baseDir with
    | none => throw (.failed "login" "No base directory set")
    | some base =>
      let cache := Path.join base cookiesFile
      if ← restore page cache login.cookieName then return ()
      let outcome ← ExceptT.lift (submit cx page login cache).run
      orFail (fun e ↦ .network "login" login.url e.message) outcome

/-- How often and after which delays a login is tried. -/
def retries : RetryOptions :=
  { initialDelay := .ofMillis 2000 }

end Login

/-- Logs in. -/
def login : Handler := fun cx ps ↦ do
  let login ← ofExcept (Login.ofParams ps)
  let page ← ofExcept (cx.needPage "login")
  withRetries Login.retries (login.once cx page)

end WebRecipe.Action
