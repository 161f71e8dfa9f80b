/-!
# Rate limits

Each client may make a number of requests in a window of time. A client's window opens with its first
request when none is open, and all windows are equally long. Windows that are over are forgotten at
the next request.
-/

namespace WebRecipe

/-- An open window of a client: when it opened and how many requests it has taken. -/
structure RequestWindow where
  started : Nat
  count : Nat
  deriving Repr, DecidableEq

/-- A limit on the requests of each client of type `κ`, and the windows that were open at the last
request. Times are in milliseconds. -/
structure RateLimit (κ : Type) where
  window : Nat
  maxRequests : Nat
  clients : List (κ × RequestWindow) := []
  deriving Repr

namespace RateLimit

variable {κ : Type} [BEq κ]

/-- A limit without clients; at least one request is allowed. -/
def new (window maxRequests : Nat) : RateLimit κ :=
  ⟨window, max maxRequests 1, []⟩

/-- Whether a window is open at a time. -/
def isOpen (limit : RateLimit κ) (now : Nat) (w : RequestWindow) : Bool :=
  now - w.started < limit.window

/-- The limit with the windows that are open at a time. -/
def pruned (limit : RateLimit κ) (now : Nat) : RateLimit κ :=
  { limit with clients := limit.clients.filter (fun c ↦ limit.isOpen now c.2) }

/-- The clients with the window of one of them replaced, or added at the end. -/
def setWindow (client : κ) (w : RequestWindow) : List (κ × RequestWindow) →
    List (κ × RequestWindow)
  | [] => [(client, w)]
  | (k, v) :: rest => if k == client then (k, w) :: rest else (k, v) :: setWindow client w rest

/-- Takes a request of a client at a time. A refusal says how long the client's window is still
open. -/
def check (limit : RateLimit κ) (client : κ) (now : Nat) : Except Nat Unit × RateLimit κ :=
  let limit := limit.pruned now
  let w := (limit.clients.lookup client).getD ⟨now, 0⟩
  if limit.maxRequests ≤ w.count then (.error (w.started + limit.window - now), limit)
  else
    (.ok (), { limit with clients := setWindow client { w with count := w.count + 1 } limit.clients })

/-- How many clients have a window. -/
def tracked (limit : RateLimit κ) : Nat :=
  limit.clients.length

/-- After how many seconds a refused client may come back: whole seconds, at least one. -/
def retryAfter (wait : Nat) : Nat :=
  max (wait / 1000) 1

end RateLimit
end WebRecipe
