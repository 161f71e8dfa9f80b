import WebRecipe.Action.Basic
import WebRecipe.Retry

/-!
# Actions on elements

Clicking and typing. A click and a text that fail for a passing cause are tried again.
-/

namespace WebRecipe.Action

/-- How long an element may take to become visible, in milliseconds. -/
def visibleTimeout : Nat := 5000

/-- What is shown in the place of a secret. -/
def secretMask : String := "•••••"

/-- Tries an action again as long as it fails for a passing cause, and shows each further attempt. -/
def withRetries (options : RetryOptions) (attempt : Action Unit) : Action Unit :=
  ExceptT.mk <| Retry.run options (fun _ ↦ attempt.run) (fun e ↦ isPassing e.message)
    (fun n delay ↦ Routine.command (.display (Retry.line n options.maxAttempts delay)))
    fun delay ↦ Routine.command (.sleep delay.millis)

/-- Clicks the first visible element, or the first one with a text: the text of an attribute when one
is named. -/
def clickOnce (page : PageId) (selector : String) (attr wanted : Option String) : Action Unit := do
  let failure := selectorFailure "click" selector
  if attr.isNone && wanted.isNone then
    let _ ← onPage page (.waitForSelector selector true visibleTimeout) failure
    onPage page (.click selector 0) failure
  else
    let count : Nat ← onPage page (.count selector) failure
    if count = 0 then throw (.selector "click" selector none)
    let unmatched : ActionError := .selector "click" selector (some "No matching element found")
    match wanted with
    | none => throw unmatched
    | some text =>
      let texts : List Json ← onPage page (.texts selector attr) failure
      match texts.findIdx? (fun v ↦ v.asStr? == some text) with
      | some i => onPage page (.click selector i) failure
      | none => throw unmatched

/-- Clicks an element. -/
def click : Handler := fun cx ps ↦ do
  let selector ← ofExcept (ps.text "click" "selector")
  let page ← ofExcept (cx.needPage "click")
  withRetries {} (clickOnce page selector (ps.text? "attribute") (ps.text? "text"))

/-- Clicks so many of the elements, the first one with the given number. -/
def clickFrom (page : PageId) (selector : String) : (count index : Nat) → Action Unit
  | 0, _ => return ()
  | count + 1, index => do
    let failure := selectorFailure "clickAll" selector
    let _ ← onPage page (.scrollIntoView selector index) failure
    let _ ← onPage page (.click selector index) failure
    clickFrom page selector count (index + 1)

/-- Clicks all elements that a selector finds. -/
def clickAll : Handler := fun cx ps ↦ do
  let selector ← ofExcept (ps.text "clickAll" "selector")
  let page ← ofExcept (cx.needPage "clickAll")
  let count : Nat ← onPage page (.count selector) (selectorFailure "clickAll" selector)
  clickFrom page selector count 0

/-- Scrolls to an element, waits and clicks it. -/
def scrollWaitClick : Handler := fun cx ps ↦ do
  let selector ← ofExcept (ps.text "scrollWaitClick" "selector")
  let wait := (ps.integer "ms" 2000).toNat
  let page ← ofExcept (cx.needPage "scrollWaitClick")
  let failure := selectorFailure "scrollWaitClick" selector
  let _ ← onPage page (.scrollIntoView selector 0) failure
  command (.sleep wait)
  onPage page (.click selector 0) failure

/-- Types a text into an element that becomes visible. -/
def typeOnce (page : PageId) (selector text : String) (secret : Bool) : Action Unit := do
  display (": Typing " ++ if secret then secretMask else text)
  let failure := selectorFailure "type" selector
  let _ ← onPage page (.waitForSelector selector true visibleTimeout) failure
  onPage page (.typeText selector text) failure

/-- Types a text; a secret one is not shown. -/
def typeText : Handler := fun cx ps ↦ do
  let selector ← ofExcept (ps.text "type" "selector")
  let text ← ofExcept (ps.text "type" "text")
  let page ← ofExcept (cx.needPage "type")
  withRetries {} (typeOnce page selector text (ps.bool "secret" false))

end WebRecipe.Action
