import WebRecipe.Url

/-!
# Fetching

What a fetch yields, and why one fails. An answer arrives in chunks, and its length may be announced.
-/

namespace WebRecipe

/-- An answer to a fetch. -/
structure Response where
  status : Nat
  announced : Option Nat
  chunks : List ByteArray
  /-- Whether the connection breaks before the end of the body. -/
  broken : Bool := false

/-- Why a fetch fails. -/
inductive FetchError where
  /-- The text of the address cannot be read. -/
  | malformed
  /-- The address does not say whom to ask. -/
  | unusable (url : Url)
  | unreachable (url : Url)
  | refused (status : Nat) (url : Url)
  | interrupted
  deriving Repr

namespace FetchError

/-- The usual name of a status that reports an error. -/
def statusName : Nat → String
  | 400 => "Bad Request"
  | 401 => "Unauthorized"
  | 402 => "Payment Required"
  | 403 => "Forbidden"
  | 404 => "Not Found"
  | 405 => "Method Not Allowed"
  | 406 => "Not Acceptable"
  | 407 => "Proxy Authentication Required"
  | 408 => "Request Timeout"
  | 409 => "Conflict"
  | 410 => "Gone"
  | 411 => "Length Required"
  | 412 => "Precondition Failed"
  | 413 => "Payload Too Large"
  | 414 => "URI Too Long"
  | 415 => "Unsupported Media Type"
  | 416 => "Range Not Satisfiable"
  | 417 => "Expectation Failed"
  | 418 => "I'm a teapot"
  | 421 => "Misdirected Request"
  | 422 => "Unprocessable Entity"
  | 423 => "Locked"
  | 424 => "Failed Dependency"
  | 426 => "Upgrade Required"
  | 428 => "Precondition Required"
  | 429 => "Too Many Requests"
  | 431 => "Request Header Fields Too Large"
  | 451 => "Unavailable For Legal Reasons"
  | 500 => "Internal Server Error"
  | 501 => "Not Implemented"
  | 502 => "Bad Gateway"
  | 503 => "Service Unavailable"
  | 504 => "Gateway Timeout"
  | 505 => "HTTP Version Not Supported"
  | 506 => "Variant Also Negotiates"
  | 507 => "Insufficient Storage"
  | 508 => "Loop Detected"
  | 510 => "Not Extended"
  | 511 => "Network Authentication Required"
  | _ => "<unknown status code>"

/-- The wording of a fetch error. -/
def message : FetchError → String
  | malformed => "builder error"
  | unusable url => "builder error for url (" ++ url.text ++ ")"
  | unreachable url => "error sending request for url (" ++ url.text ++ ")"
  | refused status url =>
    "HTTP status " ++ (if status < 500 then "client" else "server") ++ " error (" ++
      toString status ++ " " ++ statusName status ++ ") for url (" ++ url.text ++ ")"
  | interrupted => "error decoding response body"

end FetchError

namespace Response

/-- Whether a status reports an error. -/
def isRefusal (status : Nat) : Bool :=
  400 ≤ status && status < 600

end Response

/-- The URL that can be fetched: it is well formed, and names a host over a known protocol. Credentials are
not part of what is fetched. -/
def Url.fetchable (text : String) : Except FetchError Url :=
  match Url.parse? text with
  | none => .error .malformed
  | some url =>
    let target := url.withoutCredentials
    if (url.scheme == "http" || url.scheme == "https") && url.host?.isSome then .ok target
    else .error (.unusable target)

end WebRecipe
