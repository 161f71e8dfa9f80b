import WebRecipe.Http.ContentType
import WebRecipe.Json.Parser
import WebRecipe.RateLimit
import WebRecipe.Recipe.Load
import WebRecipe.Run.Basic

/-!
# The service

Recipes over HTTP. A recipe that is posted is checked and run under a fresh id, and what it hands on in
the end is the answer; whatever goes wrong is reported as a line of output and answered in general
words. Requests to any address count against the rate limit of the client, apart from those that only
ask which requests are allowed.
-/

namespace WebRecipe.Http

/-! ### The welcome page

What the service shows to a browser. -/

private def welcomeLines (port : Nat) : List String :=
   ["<!DOCTYPE html>",
    "<html lang=\"en\">",
    "<head>",
    "    <meta charset=\"UTF-8\">",
    "    <meta name=\"viewport\" content=\"width=device-width, initial-scale=1.0\">",
    "    <title>Welcome to webGrabber</title>",
    "    <style>",
    "        body \x7b font-family: Arial, sans-serif; margin: 0; padding: 0; height: " ++
      "100vh; display: flex; justify-content: center; align-items: flex-start; " ++
      "background-color: #f4f4f4; \x7d",
    "        .card \x7b margin-top: 40px; width: 430px; background-color: #fff; " ++
      "box-shadow: 0 4px 8px rgba(0,0,0,0.1); padding: 20px; border-radius: 8px; " ++
      "text-align: center; \x7d",
    "        h1 \x7b color: #4A90E2; font-size: 24px; \x7d",
    "        p \x7b color: #555; font-size: 16px; \x7d",
    "        .info \x7b margin-top: 20px; font-size: 14px; color: #333; \x7d",
    "        .code \x7b background-color: #f5f5f5; border-left: 3px solid #4A90E2; " ++
      "padding: 10px; margin: 10px 0; word-wrap: break-word; \x7d",
    "    </style>",
    "</head>",
    "<body>",
    "    <div class=\"card\">",
    "        <h1>Welcome to webGrabber</h1>",
    "        <p>The robust, config-based web scraping and automation tool.</p>",
    "        <div class=\"info\">",
    "            To run a grab configuration, send a <b>POST</b> request to the " ++
      "following endpoint:",
    "            <div class=\"code\">http://localhost:" ++ toString port ++ "/grab</div>",
    "            Include your grab configuration in the request's JSON payload.<br>",
    "            Check the documentation for more information.",
    "        </div>",
    "    </div>",
    "</body>",
    "</html>"]

/-- The welcome page of the service on a port. -/
def welcomePage (port : Nat) : String :=
  String.join ((welcomeLines port).map (· ++ "\n"))

/-! ### Requests and answers -/

/-- A request of a client of type `κ`. -/
structure Request (κ : Type) where
  method : String
  /-- The path of the address, perhaps with a query. -/
  target : String
  contentType : Option String
  body : String
  client : κ

/-- The answer to a request. -/
structure Answer where
  status : Nat
  contentType : Option String := none
  /-- After how many seconds a refused client may come back. -/
  retryAfter : Option Nat := none
  body : String := ""
  deriving Repr

namespace Answer

/-- An answer that is a JSON document. -/
def json (status : Nat) (v : Json) : Answer :=
  { status, contentType := some "application/json", body := v.compact }

/-- The answer to a client that made too many requests. -/
def tooMany (wait : Nat) : Answer :=
  { json 429
      (.obj [("error", .str "Too many requests"),
        ("message", .str "You have exceeded the rate limit. Please try again later.")]) with
    retryAfter := some (RateLimit.retryAfter wait) }

/-- The answer when something goes wrong. -/
def internalError : Answer :=
  { status := 500
    contentType := some "text/plain; charset=utf-8"
    body := "Internal Server Error" }

end Answer

/-- Why a request for a run fails. -/
inductive RunFailure where
  | notJson
  | malformed (error : Json.ParseError)
  | recipe (error : ConfigError)
  | action (error : ActionError)

/-- The wording of a failure, with the causes behind it. -/
def RunFailure.message : RunFailure → String
  | notJson =>
    "Request body is not a JSON recipe: Expected request with `Content-Type: application/json`"
  | malformed e =>
    "Request body is not a JSON recipe: Failed to parse the request body as JSON: " ++
      e.placedMessage ++ ": " ++ e.placedMessage
  | recipe e => e.message
  | action e => e.chain

/-- The document that a request carries. -/
def Request.document {κ : Type} (r : Request κ) : Except RunFailure Json :=
  if (r.contentType.bind ContentType.parse?).any ContentType.isJson then
    (Json.parseLeading r.body).mapError .malformed
  else .error .notJson

/-- The path of the address of a request. -/
def Request.path {κ : Type} (r : Request κ) : String :=
  String.ofList (r.target.toList.takeWhile (· != '?'))

variable {σ κ : Type}

/-- Runs the recipe that a request carries. There is no outcome when the run is given up. -/
def runPosted (e : Engine) (s : Surroundings σ) (w : World σ) (env : Environment) (r : Request κ)
    (id : String) : Option (Except RunFailure Json) × World σ :=
  let recipe : Except RunFailure Recipe := do
    (Recipe.ofDocument e.registry.contains (← r.document)).mapError .recipe
  match recipe with
  | .error failure => (some (.error failure), w)
  | .ok recipe =>
    let (outcome, w) := e.run s w env [recipe] none (some id)
    (outcome.map fun o ↦ (o.mapError .action).map (Option.getD · .null), w)

/-- Answers a request for a run. -/
def answerPosted (e : Engine) (s : Surroundings σ) (w : World σ) (env : Environment)
    (r : Request κ) : Option Answer × World σ :=
  match (Routine.command .freshId).run s w with
  | (none, w) => (none, w)
  | (some id, w) =>
    match runPosted e s w env r id with
    | (none, w) => (none, w)
    | (some (.ok v), w) => (some (.json 200 v), w)
    | (some (.error failure), w) =>
      (some .internalError, w.withLine (Output.errorLine none ("Server Error: " ++ failure.message)))

/-- Answers a request that is within the rate limit. -/
def answerAllowed (e : Engine) (s : Surroundings σ) (w : World σ) (env : Environment)
    (r : Request κ) : Option Answer × World σ :=
  let page := welcomePage e.settings.port
  let html : Answer := { status := 200, contentType := some "text/html; charset=utf-8" }
  match r.path, r.method with
  | "/", "GET" => (some { html with body := page }, w)
  | "/", "HEAD" => (some html, w)
  | "/", _ => (some { status := 405 }, w)
  | "/grab", "POST" => answerPosted e s w env r
  | "/grab", _ => (some { status := 405 }, w)
  | _, _ => (some { status := 404 }, w)

/-- Answers a request; the time of the rate limit is the clock of the world. -/
def answer [BEq κ] (e : Engine) (s : Surroundings σ) (limit : RateLimit κ) (w : World σ)
    (env : Environment) (r : Request κ) : Option Answer × RateLimit κ × World σ :=
  if r.method = "OPTIONS" then (some { status := 200 }, limit, w)
  else
    match limit.check r.client w.clock with
    | (.error wait, limit) => (some (.tooMany wait), limit, w)
    | (.ok (), limit) =>
      let (a, w) := answerAllowed e s w env r
      (a, limit, w)

end WebRecipe.Http
