import WebRecipe.Text.Search

/-!
# Retrying

An operation that fails for a passing cause is tried again after a delay, which grows from one attempt
to the next up to a limit. The last outcome counts.
-/

namespace WebRecipe

/-! ### Durations

Lengths of time in whole nanoseconds. There is a longest one, and a product that would be longer is
that one. -/

/-- The longest duration in nanoseconds: seconds are counted in 64 bits. -/
def longestNanos : Nat := Nat.pow 2 64 * 1000000000 - 1

/-- A length of time. -/
structure Duration where
  nanos : Nat
  nanos_le : nanos ≤ longestNanos
  deriving Repr, DecidableEq

namespace Duration

/-- The duration of so many nanoseconds, or the longest one. -/
def ofNanos (n : Nat) : Duration :=
  ⟨min n longestNanos, Nat.min_le_right _ _⟩

/-- The duration of so many milliseconds, or the longest one. -/
def ofMillis (n : Nat) : Duration :=
  ofNanos (n * 1000000)

/-- The whole milliseconds of a duration. -/
def millis (d : Duration) : Nat :=
  d.nanos / 1000000

/-- The shorter of two durations. -/
def shorter (a b : Duration) : Duration :=
  ⟨min a.nanos b.nanos, Nat.le_trans (Nat.min_le_left _ _) a.nanos_le⟩

/-- A duration so many times over, or the longest one. -/
def times (d : Duration) (n : Nat) : Duration :=
  ofNanos (d.nanos * n)

@[simp]
theorem nanos_ofNanos (n : Nat) : (ofNanos n).nanos = min n longestNanos := rfl

@[simp]
theorem nanos_shorter (a b : Duration) : (a.shorter b).nanos = min a.nanos b.nanos := rfl

@[simp]
theorem nanos_times (d : Duration) (n : Nat) :
    (d.times n).nanos = min (d.nanos * n) longestNanos := rfl

end Duration

/-! ### Retrying -/

/-- What marks the text of a failure as passing. -/
def passingMarks : List String :=
  ["timeout", "ETIMEDOUT", "ECONNRESET", "ENOTFOUND", "ECONNREFUSED", "net::ERR_",
    "Navigation timeout"]

/-- Whether a failure with this text may pass. -/
def isPassing (text : String) : Bool :=
  passingMarks.any (fun mark ↦ Text.occursIn mark text)

/-- How often and after which delays an operation is tried. -/
structure RetryOptions where
  maxAttempts : Nat := 3
  initialDelay : Duration := .ofMillis 1000
  maxDelay : Duration := .ofMillis 10000
  multiplier : Nat := 2
  deriving Repr

namespace Retry

/-- Tries an operation after `attempt` failures, with at most `more` further attempts after this one.
The operation is given the number of its call. -/
def attemptFrom {m : Type → Type} [Monad m] {ε α : Type} (options : RetryOptions)
    (operation : Nat → m (Except ε α)) (passing : ε → Bool) (pause : Nat → Duration → m Unit)
    (attempt : Nat) (delay : Duration) : Nat → m (Except ε α)
  | 0 => operation attempt
  | more + 1 => do
    match ← operation attempt with
    | .ok a => return .ok a
    | .error e =>
      if passing e then
        pause (attempt + 1) (delay.shorter options.maxDelay)
        attemptFrom options operation passing pause (attempt + 1) (delay.times options.multiplier) more
      else return .error e

/-- Tries an operation until it succeeds, fails for a lasting cause or has no attempt left. Before
each further attempt the number of attempts made is announced with a delay, which is then slept. -/
def run {m : Type → Type} [Monad m] {ε α : Type} (options : RetryOptions)
    (operation : Nat → m (Except ε α)) (passing : ε → Bool) (announce : Nat → Duration → m Unit)
    (sleep : Duration → m Unit) : m (Except ε α) :=
  let pause (n : Nat) (delay : Duration) : m Unit := do
    announce n delay
    sleep delay
  attemptFrom options operation passing pause 0 options.initialDelay (options.maxAttempts - 1)

/-- The line that announces a further attempt. -/
def line (attempt maxAttempts : Nat) (delay : Duration) : String :=
  ": Retry " ++ toString attempt ++ "/" ++ toString maxAttempts ++ " after " ++
    toString delay.millis ++ "ms"

end Retry
end WebRecipe
