import Mathlib.Data.List.Infix
import WebRecipe.Action.Builtin
import WebRecipe.Proofs.Retry
import WebRecipe.Proofs.Routine.Log
import WebRecipe.Proofs.Text.Occurrence
import WebRecipe.Rehearsal

/-!
# Which failures are tried again

A failure is tried again when a mark occurs in its text. The text names the selector as well as the
cause, and no mark reaches across the blanks and brackets around the selector. So a selector without
a mark decides nothing: how often a click is attempted follows from what the page answers. A
selector with a mark makes every failure look like a passing one, and a click that never succeeds is
attempted as often as allowed, whatever the cause.

## Main definitions

* `Click.Answer`: how a page answers an attempt to click.
* `Click.Gives`: the answer that is given by what was done in an attempt.
* `Action.Tried`: attempts in a row with what was done in and between them.

## Main results

* `Action.ends_withRetries`: an action that is tried again makes such attempts, and the last counts.
* `Click.attempts_of_click`: how often a click is attempted.
-/

namespace WebRecipe

/-! ### Marks in a text -/

namespace Text

variable {needle before after : List Char} {c : Char}

theorem occursIn_iff {needle text : String} :
    occursIn needle text = true ↔ needle.toList <:+: text.toList := by
  rw [occursIn, contains, (find?_finds _ _).isSome_iff fun _ h ↦ h.1]
  exact nonempty_occursAt_iff

/-- A piece of text without a character does not reach across a place where it stands. -/
theorem infix_append_iff_of_notMem (hc : c ∉ needle)
    (h : before.getLast? = some c ∨ after.head? = some c) :
    needle <:+: before ++ after ↔ needle <:+: before ∨ needle <:+: after := by
  rw [List.infix_append_iff]
  refine ⟨?_, Or.imp_right .inl⟩
  rintro (hbefore | hafter | ⟨l, r, rfl, hl, hr⟩)
  · exact .inl hbefore
  · exact .inr hafter
  rw [List.mem_append, not_or] at hc
  rcases h with h | h
  · rcases List.eq_nil_or_concat l with rfl | ⟨l, d, rfl⟩
    · exact .inr hr.isInfix
    · obtain ⟨s, rfl⟩ := hl
      have hd : d = c := by simpa [← List.append_assoc] using h
      exact absurd (by rw [List.concat_eq_append, hd]; exact List.mem_concat_self) hc.1
  · cases r with
    | nil => exact .inl (by rw [List.append_nil]; exact hl.isInfix)
    | cons d r =>
      obtain ⟨t, rfl⟩ := hr
      have hd : d = c := by simpa using h
      exact absurd (hd ▸ List.mem_cons_self) hc.2

end Text

/-- The marks without the one in which another one occurs. -/
def shortMarks : List String :=
  ["timeout", "ETIMEDOUT", "ECONNRESET", "ENOTFOUND", "ECONNREFUSED", "net::ERR_"]

section Passing

variable {s t : String} {c : Char}

theorem isPassing_iff : isPassing s = true ↔ ∃ mark ∈ shortMarks, mark.toList <:+: s.toList := by
  have hlong : "timeout".toList <:+: "Navigation timeout".toList := by decide
  rw [isPassing, List.any_eq_true]
  simp only [Text.occursIn_iff]
  constructor
  · rintro ⟨mark, hmark, h⟩
    rw [show passingMarks = shortMarks ++ ["Navigation timeout"] from rfl, List.mem_append,
      List.mem_singleton] at hmark
    rcases hmark with hmark | rfl
    · exact ⟨mark, hmark, h⟩
    · exact ⟨"timeout", by decide, hlong.trans h⟩
  · rintro ⟨mark, hmark, h⟩
    exact ⟨mark, List.mem_append_left ["Navigation timeout"] hmark, h⟩

theorem isPassing_mono (h : s.toList <:+: t.toList) (hs : isPassing s = true) :
    isPassing t = true := by
  obtain ⟨mark, hmark, hinfix⟩ := isPassing_iff.1 hs
  exact isPassing_iff.2 ⟨mark, hmark, hinfix.trans h⟩

/-- Where a character stands that no mark contains, the two sides count for themselves. -/
theorem isPassing_append (hc : ∀ mark ∈ shortMarks, c ∉ mark.toList)
    (h : s.toList.getLast? = some c ∨ t.toList.head? = some c) :
    isPassing (s ++ t) = (isPassing s || isPassing t) := by
  rw [Bool.eq_iff_iff, Bool.or_eq_true, isPassing_iff, isPassing_iff, isPassing_iff, ← exists_or]
  refine exists_congr fun mark ↦ ?_
  rw [← and_or_left, String.toList_append]
  exact and_congr_right fun hmark ↦ Text.infix_append_iff_of_notMem (hc mark hmark) h

/-- The text of a failure to use a selector has a mark when the selector or the reason has one. -/
theorem isPassing_selector (selector : String) (reason : Option String) :
    isPassing (ActionError.selector "click" selector reason).message =
      (isPassing selector || reason.any isPassing) := by
  have hblank : ∀ mark ∈ shortMarks, ' ' ∉ mark.toList := by decide
  have hopen : ∀ mark ∈ shortMarks, '(' ∉ mark.toList := by decide
  have hclose : ∀ mark ∈ shortMarks, ')' ∉ mark.toList := by decide
  have hreason : isPassing (ActionError.reasonText reason) = reason.any isPassing := by
    cases reason with
    | none => decide
    | some r =>
      rw [ActionError.reasonText, isPassing_append hclose (.inr rfl),
        isPassing_append hopen (.inl rfl), show isPassing " (" = false by decide,
        show isPassing ")" = false by decide, Bool.false_or, Bool.or_false, Option.any_some]
  have hwanted : isPassing ("[click] Selector not found or not visible: " ++ selector) =
      isPassing selector := by
    rw [isPassing_append hblank (.inl rfl),
      show isPassing "[click] Selector not found or not visible: " = false by decide +kernel,
      Bool.false_or]
  cases reason with
  | none =>
    show isPassing ("[click] Selector not found or not visible: " ++ selector ++ "") = _
    rw [String.append_empty, hwanted, Option.any_none, Bool.or_false]
  | some r =>
    have hhead : (ActionError.reasonText (some r)).toList.head? = some ' ' := by
      simp [ActionError.reasonText]
    rw [← hwanted, ← hreason, ← isPassing_append hblank (.inr hhead)]
    rfl

end Passing

/-! ### Attempts in a row -/

/-- Whether a line of output was shown. -/
def Deed.shows (d : Deed) : Bool :=
  match d.command with
  | .display _ => true
  | _ => false

namespace Action

variable {ε α : Type}

/-- The outcome leaves nothing to be tried. -/
abbrev Settled (outcome : Except ActionError Unit) : Prop :=
  Retry.Settles (fun e : ActionError ↦ isPassing e.message) outcome

/-- What is done after an attempt that is not the last one. -/
def pauseLog (options : RetryOptions) (attempt : Nat) : Log :=
  [⟨.display (Retry.line attempt options.maxAttempts (options.delayAfter attempt)), ()⟩,
    ⟨.sleep (options.delayAfter attempt).millis, ()⟩]

variable (options : RetryOptions) (gives : Log → α → Prop) (outcome : α → Except ActionError Unit)

/-- Attempts in a row after some earlier ones: the answers that were given to them, and what was
done in and between them. Each one but the last fails for a passing cause, and the last one settles
the matter or is the last one allowed. -/
inductive Tried : (earlier : Nat) → List α → Log → Prop
  | last {earlier : Nat} {a : α} {log : Log} (hgives : gives log a)
      (hlast : earlier + 1 = max options.maxAttempts 1 ∨ Settled (outcome a)) :
      Tried earlier [a] log
  | again {earlier : Nat} {a : α} {answers : List α} {log rest : Log} (hgives : gives log a)
      (hallowed : earlier + 1 < max options.maxAttempts 1) (hpassing : ¬ Settled (outcome a))
      (hrest : Tried (earlier + 1) answers rest) :
      Tried earlier (a :: answers) (log ++ pauseLog options (earlier + 1) ++ rest)

variable {options gives outcome}

namespace Tried

variable {earlier : Nat} {answers : List α} {log : Log}

theorem length_pos (h : Tried options gives outcome earlier answers log) : 0 < answers.length := by
  cases h <;> exact Nat.succ_pos _

/-- An answer that settles the matter is the only one. -/
theorem eq_singleton {a : α} (h : Tried options gives outcome earlier (a :: answers) log)
    (hsettled : Settled (outcome a)) : answers = [] ∧ gives log a := by
  cases h with
  | last hgives => exact ⟨rfl, hgives⟩
  | again _ _ hpassing => exact absurd hsettled hpassing

/-- As many lines are shown as there are further attempts, if the attempts show none. -/
theorem countP_shows (h : Tried options gives outcome earlier answers log)
    (hgives : ∀ l a, gives l a → l.countP Deed.shows = 0) :
    log.countP Deed.shows + 1 = answers.length := by
  induction h with
  | last h => rw [hgives _ _ h]; rfl
  | @again earlier a answers log rest h _ _ _ ih =>
    have hpause : (pauseLog options (earlier + 1)).countP Deed.shows = 1 := rfl
    rw [List.countP_append, List.countP_append, hgives _ _ h, hpause, List.length_cons, ← ih]
    omega

/-- Without an answer that settles the matter as many attempts are made as allowed. -/
theorem length_of_not_settled (h : Tried options gives outcome earlier answers log)
    (hpassing : ∀ a ∈ answers, ¬ Settled (outcome a)) :
    earlier + answers.length = max options.maxAttempts 1 := by
  induction h with
  | last _ hlast =>
    exact hlast.resolve_right (hpassing _ List.mem_cons_self)
  | again _ _ _ _ ih =>
    rw [← ih fun a ha ↦ hpassing a (List.mem_cons_of_mem _ ha), List.length_cons]
    omega

/-- Attempts that settle the matter alike are equally many. -/
theorem length_eq {α' : Type} {gives' : Log → α' → Prop} {outcome' : α' → Except ActionError Unit}
    {answers' : List α'} {log' : Log} (h : Tried options gives outcome earlier answers log)
    (h' : Tried options gives' outcome' earlier answers' log')
    (halike : ∀ (i : Nat) a a', answers[i]? = some a → answers'[i]? = some a' →
      (Settled (outcome a) ↔ Settled (outcome' a'))) :
    answers.length = answers'.length := by
  induction h generalizing answers' log' with
  | last _ hlast =>
    cases h' with
    | last => rfl
    | again _ hallowed hpassing _ =>
      have hsettled := hlast.resolve_left hallowed.ne
      exact absurd ((halike 0 _ _ rfl rfl).1 hsettled) hpassing
  | again _ hallowed hpassing _ ih =>
    cases h' with
    | last _ hlast =>
      have hsettled := hlast.resolve_left hallowed.ne
      exact absurd ((halike 0 _ _ rfl rfl).2 hsettled) hpassing
    | again _ _ _ hrest' =>
      rw [List.length_cons, List.length_cons, ih hrest' fun i a a' ha ha' ↦
        halike (i + 1) a a' ha ha']

end Tried

/-! An action that is tried again -/

section WithRetries

variable {attempt : Action Unit} {log : Log} {result : Except ActionError Unit}
  {earlier more : Nat} {delay : Duration}

/-- The attempts that are left after some earlier ones. -/
private def tryFrom (options : RetryOptions) (attempt : Action Unit) (earlier : Nat)
    (delay : Duration) (more : Nat) : Routine (Except ActionError Unit) :=
  Retry.attemptFrom options (fun _ ↦ attempt.run) (fun e ↦ isPassing e.message)
    (fun n delay ↦ do
      Routine.command (.display (Retry.line n options.maxAttempts delay))
      Routine.command (.sleep delay.millis))
    earlier delay more

private theorem ends_pause_bind {β : Type} {n : Nat} {f : Unit → Routine β} {b : β} :
    ((do
        Routine.command (.display (Retry.line n options.maxAttempts (options.delayAfter n)))
        Routine.command (.sleep (options.delayAfter n).millis)) >>= f).Ends log b ↔
      ∃ rest, log = pauseLog options n ++ rest ∧ (f ()).Ends rest b := by
  constructor
  · rintro (_ | _ | h)
    exact ⟨_, rfl, h⟩
  · rintro ⟨rest, rfl, h⟩
    exact .step (.step h)

/-- An attempt that is not the last one allowed settles the matter, or the others come after a
pause. -/
private theorem ends_tryFrom_succ (hdelay : options.Grown earlier delay) :
    (tryFrom options attempt earlier delay (more + 1)).Ends log result ↔
      attempt.run.Ends log result ∧ Settled result ∨
        ∃ failure l rest, log = l ++ pauseLog options (earlier + 1) ++ rest ∧
          attempt.run.Ends l failure ∧ ¬ Settled failure ∧
          (tryFrom options attempt (earlier + 1) (delay.times options.multiplier) more).Ends rest
            result := by
  rw [tryFrom]
  simp only [Retry.attemptFrom]
  rw [hdelay.shorter_eq, Routine.ends_bind]
  constructor
  · rintro ⟨e | _, l, l', rfl, hfirst, h⟩
    case ok =>
      obtain ⟨rfl, rfl⟩ := Routine.ends_done.1 h
      rw [List.append_nil]
      exact .inl ⟨hfirst, trivial⟩
    case error =>
      by_cases hpassing : isPassing e.message = true
      · simp only [if_pos hpassing] at h
        obtain ⟨rest, rfl, hrest⟩ := ends_pause_bind.1 h
        rw [← List.append_assoc]
        exact .inr ⟨.error e, l, rest, rfl, hfirst, ne_false_of_eq_true hpassing, hrest⟩
      · simp only [if_neg hpassing] at h
        obtain ⟨rfl, rfl⟩ := Routine.ends_done.1 h
        rw [List.append_nil]
        exact .inl ⟨hfirst, eq_false_of_ne_true hpassing⟩
  · rintro (⟨h, hsettled⟩ | ⟨e | _, l, rest, rfl, hfirst, hpassing, h⟩)
    · refine ⟨result, log, [], (List.append_nil log).symm, h, ?_⟩
      cases result with
      | ok a => exact Routine.ends_done.2 ⟨rfl, rfl⟩
      | error e =>
        simp only [show isPassing e.message = false from hsettled, Bool.false_eq_true, if_false]
        exact Routine.ends_done.2 ⟨rfl, rfl⟩
    case ok => exact absurd trivial hpassing
    case error =>
      refine ⟨.error e, l, _, List.append_assoc _ _ _, hfirst, ?_⟩
      simp only [if_pos (eq_true_of_ne_false hpassing)]
      exact ends_pause_bind.2 ⟨rest, rfl, h⟩

private theorem ends_tryFrom
    (hattempt : ∀ log result, attempt.run.Ends log result ↔ ∃ a, gives log a ∧ outcome a = result)
    (hdelay : options.Grown earlier delay)
    (hmore : max options.maxAttempts 1 = earlier + more + 1) :
    (tryFrom options attempt earlier delay more).Ends log result ↔
      ∃ answers, Tried options gives outcome earlier answers log ∧
        answers.getLast?.map outcome = some result := by
  induction more generalizing earlier delay log with
  | zero =>
    constructor
    · intro h
      obtain ⟨a, hgives, rfl⟩ := (hattempt log result).1 h
      exact ⟨[a], .last hgives (.inl hmore.symm), rfl⟩
    · rintro ⟨answers, ⟨hgives, -⟩ | ⟨-, hallowed, -, -⟩, hresult⟩
      · exact (hattempt log result).2 ⟨_, hgives, Option.some.inj hresult⟩
      · exact absurd hallowed (by omega)
  | succ more ih =>
    rw [ends_tryFrom_succ hdelay]
    constructor
    · rintro (⟨h, hsettled⟩ | ⟨failure, l, rest, rfl, h, hpassing, hrest⟩)
      · obtain ⟨a, hgives, rfl⟩ := (hattempt log result).1 h
        exact ⟨[a], .last hgives (.inr hsettled), rfl⟩
      · obtain ⟨a, hgives, rfl⟩ := (hattempt l failure).1 h
        obtain ⟨answers, htried, hresult⟩ := (ih hdelay.times (by omega)).1 hrest
        refine ⟨a :: answers, .again hgives (by omega) hpassing htried, ?_⟩
        rwa [List.getLast?_cons_of_ne_nil (List.ne_nil_of_length_pos htried.length_pos)]
    · rintro ⟨answers, htried, hresult⟩
      cases htried with
      | last hgives hlast =>
        cases hresult
        exact .inl ⟨(hattempt log _).2 ⟨_, hgives, rfl⟩, hlast.resolve_left (by omega)⟩
      | @again _ a answers l rest hgives _ hpassing hrest =>
        rw [List.getLast?_cons_of_ne_nil (List.ne_nil_of_length_pos hrest.length_pos)] at hresult
        exact .inr ⟨outcome a, l, rest, rfl, (hattempt l _).2 ⟨a, hgives, rfl⟩, hpassing,
          (ih hdelay.times (by omega)).2 ⟨answers, hrest, hresult⟩⟩

/-- An action that is tried again makes attempts in a row, and what the last one gives counts. -/
theorem ends_withRetries
    (hattempt : ∀ log result, attempt.run.Ends log result ↔ ∃ a, gives log a ∧ outcome a = result) :
    (withRetries options attempt).run.Ends log result ↔
      ∃ answers, Tried options gives outcome 0 answers log ∧
        answers.getLast?.map outcome = some result :=
  ends_tryFrom hattempt (.initial options) (by omega)

end WithRetries
end Action

/-! ### Clicks -/

namespace Click

open WebRecipe.Action

/-- How a page answers an attempt to click. -/
inductive Answer
  | clicked
  /-- There is no element for the selector. -/
  | nothing
  /-- There are elements for the selector, but none with the text. -/
  | unmatched
  /-- A call of the page failed. -/
  | failed (e : PageError)
  deriving DecidableEq

namespace Answer

/-- The answer that is given by the reply to the last call. -/
def ofReply : Except PageError Unit → Answer
  | .ok _ => clicked
  | .error e => failed e

/-- What an answer amounts to. -/
def outcome (selector : String) : Answer → Except ActionError Unit
  | clicked => .ok ()
  | nothing => .error (.selector "click" selector none)
  | unmatched => .error (.selector "click" selector (some "No matching element found"))
  | failed e => .error (selectorFailure "click" selector e)

/-- Answers of one kind: they say the same, each one about its own selector. -/
inductive Alike (selector selector' : String) : Answer → Answer → Prop
  | clicked : Alike selector selector' clicked clicked
  | nothing : Alike selector selector' nothing nothing
  | unmatched : Alike selector selector' unmatched unmatched
  | noElement :
    Alike selector selector' (failed (.noElement selector)) (failed (.noElement selector'))
  | timedOut (milliseconds : Nat) :
    Alike selector selector' (failed (.selectorTimeout selector milliseconds))
      (failed (.selectorTimeout selector' milliseconds))
  | failed (e : PageError) : Alike selector selector' (failed e) (failed e)

/-- There is no such element, and no call of the page failed for another cause. -/
def IsMissing (selector : String) (a : Answer) : Prop :=
  a = nothing ∨ a = unmatched ∨ a = failed (.noElement selector)

/-- A call of the page failed for a cause that has a mark. -/
def passes : Answer → Bool
  | failed e => isPassing e.message
  | _ => false

end Answer

/-- A call of a page with its reply. -/
def call (page : PageId) (c : PageCall) (reply : Except PageError c.Reply) : Deed :=
  ⟨.page page c, reply⟩

/-- The calls of an attempt to click, and the answer that they give. With neither an attribute nor a
text the first element is clicked as soon as it is visible. Otherwise the elements are counted, and
the first one with the text is clicked. -/
inductive Gives (page : PageId) (selector : String) :
    (attr wanted : Option String) → Log → Answer → Prop
  | hidden (e : PageError) :
    Gives page selector none none
      [call page (.waitForSelector selector true visibleTimeout) (.error e)] (.failed e)
  | visible (reply : Except PageError Unit) :
    Gives page selector none none
      [call page (.waitForSelector selector true visibleTimeout) (.ok ()),
        call page (.click selector 0) reply] (.ofReply reply)
  | uncounted {attr wanted : Option String} (h : attr.isSome ∨ wanted.isSome) (e : PageError) :
    Gives page selector attr wanted [call page (.count selector) (.error e)] (.failed e)
  | nothing {attr wanted : Option String} (h : attr.isSome ∨ wanted.isSome) :
    Gives page selector attr wanted [call page (.count selector) (.ok (0 : Nat))] .nothing
  | unwanted {attr : Option String} (h : attr.isSome) {count : Nat} (hcount : count ≠ 0) :
    Gives page selector attr none [call page (.count selector) (.ok count)] .unmatched
  | unread {attr : Option String} (text : String) {count : Nat} (hcount : count ≠ 0)
      (e : PageError) :
    Gives page selector attr (some text)
      [call page (.count selector) (.ok count), call page (.texts selector attr) (.error e)]
      (.failed e)
  | unmatched {attr : Option String} {text : String} {count : Nat} (hcount : count ≠ 0)
      {texts : List Json} (h : texts.findIdx? (fun v ↦ v.asStr? == some text) = none) :
    Gives page selector attr (some text)
      [call page (.count selector) (.ok count), call page (.texts selector attr) (.ok texts)]
      .unmatched
  | matched {attr : Option String} {text : String} {count : Nat} (hcount : count ≠ 0)
      {texts : List Json} {i : Nat}
      (h : texts.findIdx? (fun v ↦ v.asStr? == some text) = some i)
      (reply : Except PageError Unit) :
    Gives page selector attr (some text)
      [call page (.count selector) (.ok count), call page (.texts selector attr) (.ok texts),
        call page (.click selector i) reply]
      (.ofReply reply)

variable {page : PageId} {selector : String} {attr wanted : Option String} {log : Log}

/-- An attempt that looks for an attribute or a text begins by counting. -/
theorem Gives.counts {a : Answer} (h : Gives page selector attr wanted log a)
    (hlooks : attr.isSome ∨ wanted.isSome) :
    (∃ e, log = [call page (.count selector) (.error e)] ∧ a = .failed e) ∨
      ∃ (count : Nat) (l : Log), log = call page (.count selector) (.ok count) :: l := by
  cases h with
  | hidden | visible => exact absurd hlooks (by decide)
  | uncounted _ e => exact .inl ⟨e, rfl, rfl⟩
  | nothing | unwanted | unread | unmatched | matched => exact .inr ⟨_, _, rfl⟩

theorem Gives.countP_shows {a : Answer} (h : Gives page selector attr wanted log a) :
    log.countP Deed.shows = 0 := by
  cases h <;> rfl

theorem outcome_ofReply (reply : Except PageError Unit) :
    (Answer.ofReply reply).outcome selector =
      reply.mapError (selectorFailure "click" selector) := by
  cases reply <;> rfl

section Calls

variable {c : PageCall} {toError : PageError → ActionError} {result : Except ActionError Unit}

private theorem ends_onPage_bind {f : c.Reply → Action Unit} :
    (onPage page c toError >>= f).run.Ends log result ↔
      (∃ e, log = [call page c (.error e)] ∧ .error (toError e) = result) ∨
        ∃ a l, log = call page c (.ok a) :: l ∧ (f a).run.Ends l result := by
  rw [onPage, bind_assoc, Routine.ends_command_bind]
  constructor
  · rintro ⟨e | a, l, rfl, h⟩
    · obtain ⟨rfl, rfl⟩ := Routine.ends_done.1 h
      exact .inl ⟨e, rfl, rfl⟩
    · exact .inr ⟨a, l, rfl, h⟩
  · rintro (⟨e, rfl, rfl⟩ | ⟨a, l, rfl, h⟩)
    · exact ⟨.error e, [], rfl, Routine.ends_done.2 ⟨rfl, rfl⟩⟩
    · exact ⟨.ok a, l, rfl, h⟩

private theorem ends_onPage_click {i : Nat} :
    (onPage page (.click selector i) (selectorFailure "click" selector)).run.Ends log result ↔
      ∃ reply : Except PageError Unit, log = [call page (.click selector i) reply] ∧
        (Answer.ofReply reply).outcome selector = result := by
  constructor
  · intro h
    obtain ⟨reply, l, rfl, hreply⟩ := Routine.ends_command_bind.1 h
    obtain ⟨rfl, rfl⟩ := Routine.ends_done.1 hreply
    exact ⟨reply, rfl, outcome_ofReply reply⟩
  · rintro ⟨reply, rfl, rfl⟩
    rw [outcome_ofReply]
    exact .step (.refl _)

end Calls

/-- An attempt to click that looks for an attribute or a text: what is done with the number of the
elements. -/
private def clickCounted (page : PageId) (selector : String) (attr wanted : Option String)
    (count : Nat) : Action Unit :=
  if count = 0 then throw (.selector "click" selector none)
  else
    match wanted with
    | none => throw (.selector "click" selector (some "No matching element found"))
    | some text =>
      onPage page (.texts selector attr) (selectorFailure "click" selector) >>=
        fun texts : List Json ↦
          match texts.findIdx? (fun v ↦ v.asStr? == some text) with
          | some i => onPage page (.click selector i) (selectorFailure "click" selector)
          | none => throw (.selector "click" selector (some "No matching element found"))

private theorem clickOnce_eq (h : attr.isSome ∨ wanted.isSome) :
    clickOnce page selector attr wanted =
      onPage page (.count selector) (selectorFailure "click" selector) >>=
        clickCounted page selector attr wanted := by
  have hlooks : (attr.isNone && wanted.isNone) = false := by
    cases attr <;> cases wanted <;> first | rfl | simp at h
  rw [clickOnce, hlooks]
  refine bind_congr fun count ↦ ?_
  unfold clickCounted
  by_cases hcount : count = (0 : Nat)
  · simp only [if_pos hcount]
    rfl
  · simp only [if_neg hcount]
    cases wanted <;> rfl

/-- The calls after the elements were counted. -/
private theorem ends_clickCounted {count : Nat} {result : Except ActionError Unit}
    (hlooks : attr.isSome ∨ wanted.isSome) :
    (clickCounted page selector attr wanted count).run.Ends log result ↔
      ∃ a : Answer, Gives page selector attr wanted (call page (.count selector) (.ok count) :: log)
        a ∧ a.outcome selector = result := by
  unfold clickCounted
  constructor
  · intro h
    by_cases hcount : count = 0
    · rw [if_pos hcount] at h
      obtain ⟨rfl, rfl⟩ := Routine.ends_done.1 h
      subst hcount
      exact ⟨.nothing, .nothing hlooks, rfl⟩
    rw [if_neg hcount] at h
    cases wanted with
    | none =>
      obtain ⟨rfl, rfl⟩ := Routine.ends_done.1 h
      exact ⟨.unmatched, .unwanted (hlooks.resolve_right Bool.false_ne_true) hcount, rfl⟩
    | some text =>
      obtain ⟨e, rfl, rfl⟩ | ⟨texts, l, rfl, hrest⟩ := ends_onPage_bind.1 h
      · exact ⟨.failed e, .unread text hcount e, rfl⟩
      cases hfound : texts.findIdx? (fun v ↦ v.asStr? == some text) with
      | none =>
        simp only [hfound] at hrest
        obtain ⟨rfl, rfl⟩ := Routine.ends_done.1 hrest
        exact ⟨.unmatched, .unmatched hcount hfound, rfl⟩
      | some i =>
        simp only [hfound] at hrest
        obtain ⟨reply, rfl, hresult⟩ := ends_onPage_click.1 hrest
        exact ⟨.ofReply reply, .matched hcount hfound reply, hresult⟩
  · rintro ⟨a, h, rfl⟩
    cases h with
    | nothing => exact .refl _
    | unwanted _ hcount =>
      rw [if_neg hcount]
      exact .refl _
    | unread text hcount e =>
      rw [if_neg hcount]
      exact ends_onPage_bind.2 (.inl ⟨e, rfl, rfl⟩)
    | @unmatched _ _ _ hcount texts hfound =>
      rw [if_neg hcount]
      refine ends_onPage_bind.2 (.inr ⟨texts, [], rfl, ?_⟩)
      simp only [hfound]
      exact .refl _
    | @matched _ _ _ hcount texts i hfound reply =>
      rw [if_neg hcount]
      refine ends_onPage_bind.2 (.inr ⟨texts, _, rfl, ?_⟩)
      simp only [hfound]
      exact ends_onPage_click.2 ⟨reply, rfl, rfl⟩

/-- An attempt to click makes such calls, and the answer that they give decides. -/
theorem ends_clickOnce (log : Log) (result : Except ActionError Unit) :
    (clickOnce page selector attr wanted).run.Ends log result ↔
      ∃ a : Answer, Gives page selector attr wanted log a ∧ a.outcome selector = result := by
  by_cases hlooks : attr.isSome ∨ wanted.isSome
  case pos =>
    rw [clickOnce_eq hlooks]
    refine ends_onPage_bind.trans ⟨?_, ?_⟩
    · rintro (⟨e, rfl, rfl⟩ | ⟨count, l, rfl, h⟩)
      · exact ⟨.failed e, .uncounted hlooks e, rfl⟩
      · exact (ends_clickCounted hlooks).1 h
    · rintro ⟨a, h, rfl⟩
      obtain ⟨e, rfl, rfl⟩ | ⟨count, l, rfl⟩ := h.counts hlooks
      · exact .inl ⟨e, rfl, rfl⟩
      · exact .inr ⟨count, l, rfl, (ends_clickCounted hlooks).2 ⟨a, h, rfl⟩⟩
  case neg =>
    obtain ⟨rfl, rfl⟩ : attr = none ∧ wanted = none := by
      cases attr <;> cases wanted <;> simp_all
    constructor
    · intro h
      obtain ⟨e, rfl, rfl⟩ | ⟨_, l, rfl, hrest⟩ := ends_onPage_bind.1 h
      · exact ⟨.failed e, .hidden e, rfl⟩
      · obtain ⟨reply, rfl, hresult⟩ := ends_onPage_click.1 hrest
        exact ⟨.ofReply reply, .visible reply, hresult⟩
    · rintro ⟨a, h, rfl⟩
      refine ends_onPage_bind.2 ?_
      cases h with
      | hidden e => exact .inl ⟨e, rfl, rfl⟩
      | visible reply => exact .inr ⟨(), _, rfl, ends_onPage_click.2 ⟨reply, rfl, rfl⟩⟩
      | uncounted h | nothing h => exact absurd h hlooks
      | unwanted h => exact absurd (.inl h) hlooks

/-! ### How often -/

theorem isPassing_noElement (selector : String) :
    isPassing (PageError.noElement selector).message = isPassing selector := by
  have hblank : ∀ mark ∈ shortMarks, ' ' ∉ mark.toList := by decide
  show isPassing ("No element matches selector " ++ selector) = isPassing selector
  rw [isPassing_append hblank (.inl rfl),
    show isPassing "No element matches selector " = false by decide +kernel, Bool.false_or]

theorem isPassing_selectorTimeout (selector : String) (milliseconds : Nat) :
    isPassing (PageError.selectorTimeout selector milliseconds).message = true := by
  have hcause : isPassing "` failed: timeout " = true := by decide +kernel
  refine isPassing_mono ⟨("Waiting for selector `" ++ selector).toList,
    (toString milliseconds ++ "ms exceeded").toList, ?_⟩ hcause
  rw [← String.toList_append, ← String.toList_append, ← String.append_assoc]
  rfl

private theorem settled_selector {reason : Option String} :
    Settled (.error (.selector "click" selector reason)) ↔
      (isPassing selector || reason.any isPassing) = false := by
  rw [← isPassing_selector]
  rfl

/-- A failed attempt settles the matter when neither the cause nor the selector has a mark. -/
theorem Answer.settled_iff (a : Answer) :
    Settled (a.outcome selector) ↔ a = .clicked ∨ (isPassing selector || a.passes) = false := by
  cases a with
  | clicked => exact iff_of_true trivial (.inl rfl)
  | nothing => exact settled_selector.trans (or_iff_right nofun).symm
  | unmatched =>
    have hreason : isPassing "No matching element found" = false := by decide +kernel
    refine settled_selector.trans ?_
    rw [or_iff_right nofun, Option.any_some, hreason]
    rfl
  | failed e => exact settled_selector.trans (or_iff_right nofun).symm

theorem Answer.IsMissing.settled {a : Answer} (h : a.IsMissing selector)
    (hselector : isPassing selector = false) : Settled (a.outcome selector) := by
  refine a.settled_iff.2 (.inr ?_)
  obtain rfl | rfl | rfl := h
  · rw [hselector]; rfl
  · rw [hselector]; rfl
  · rw [passes, isPassing_noElement, Bool.or_self, hselector]

theorem Answer.Alike.settled_iff {selector' : String} {a a' : Answer}
    (h : Alike selector selector' a a') (hselectors : isPassing selector = isPassing selector') :
    Settled (a.outcome selector) ↔ Settled (a'.outcome selector') := by
  rw [Answer.settled_iff, Answer.settled_iff, hselectors]
  cases h with
  | clicked | nothing | unmatched | failed => rfl
  | noElement => simp only [passes, isPassing_noElement, hselectors, reduceCtorEq]
  | timedOut => simp only [passes, isPassing_selectorTimeout, reduceCtorEq]

/-- Attempts to click in a row, with the answers that the page gives to them. -/
def Attempts (page : PageId) (selector : String) (attr wanted : Option String) :
    List Answer → Log → Prop :=
  Tried {} (Gives page selector attr wanted) (Answer.outcome selector) 0

/-- **How often a click is attempted.** What a click does is told by its attempts and the answers of
the page, and each further attempt is announced by a line. If no mark occurs in the selector, a
click is attempted once when there is no such element. If one does, a click that does not succeed is
attempted three times. Clicks by two selectors, with a mark in both or in none, are attempted
equally often when the page answers them alike. -/
theorem attempts_of_click {cx : Context} {ps : Members}
    (hselector : ps.text "click" "selector" = .ok selector)
    (hpage : cx.needPage "click" = .ok page) :
    (∀ log result, (click cx ps).run.Ends log result ↔
      ∃ answers, Attempts page selector (ps.text? "attribute") (ps.text? "text") answers log ∧
        answers.getLast?.map (Answer.outcome selector) = some result) ∧
    ∀ attr wanted answers log, Attempts page selector attr wanted answers log →
      log.countP Deed.shows + 1 = answers.length ∧
      (isPassing selector = false → ∀ a ∈ answers.head?, a.IsMissing selector →
        answers = [a] ∧ Gives page selector attr wanted log a) ∧
      (isPassing selector = true → Answer.clicked ∉ answers → answers.length = 3) ∧
      ∀ page' selector' attr' wanted' answers' log',
        Attempts page' selector' attr' wanted' answers' log' →
        isPassing selector = isPassing selector' →
        (∀ (i : Nat) a a', answers[i]? = some a → answers'[i]? = some a' →
          Answer.Alike selector selector' a a') →
        answers.length = answers'.length := by
  refine ⟨fun log result ↦ ?_, fun attr wanted answers log h ↦ ⟨?_, ?_, ?_, ?_⟩⟩
  · rw [click, hselector, hpage]
    exact ends_withRetries ends_clickOnce
  · exact h.countP_shows fun _ _ ↦ Gives.countP_shows
  · intro hunmarked a ha hmissing
    obtain ⟨rest, rfl⟩ := List.head?_eq_some_iff.1 ha
    obtain ⟨rfl, hgives⟩ := h.eq_singleton (hmissing.settled hunmarked)
    exact ⟨rfl, hgives⟩
  · intro hmarked hclicked
    refine (Nat.zero_add _).symm.trans (h.length_of_not_settled fun a ha hsettled ↦ ?_)
    rw [Answer.settled_iff, hmarked] at hsettled
    rcases hsettled with rfl | hfalse
    · exact hclicked ha
    · cases hfalse
  · intro page' selector' attr' wanted' answers' log' h' hselectors halike
    exact h.length_eq h' fun i a a' ha ha' ↦ (halike i a a' ha ha').settled_iff hselectors

/-! A page on which no element has the text -/

/-- A page with an element for each of two selectors, both with the same text. -/
def twinPage : ScriptedPage :=
  { elements := [("#overtime", { text := "x" }), ("#timeout", { text := "x" })] }

/-- A context in which a page is active, and in which no further action can be performed. -/
def twinContext : Context where
  settings := {}
  page := some 0
  perform _ := Action.unfinished
  patience := 0

/-- The parameters of a click by a text that no element has. -/
def twinParams (selector : String) : Members :=
  [("selector", .str selector), ("text", .str "y")]

/-- The calls of an attempt to click by this text. -/
def twinCalls (selector : String) : Log :=
  [call 0 (.count selector) (.ok (1 : Nat)), call 0 (.texts selector none) (.ok [Json.str "x"])]

theorem gives_twinCalls (selector : String) :
    Gives 0 selector none (some "y") (twinCalls selector) .unmatched :=
  .unmatched Nat.one_ne_zero rfl

/-- A click by a selector without a mark is over after these calls. -/
theorem attempts_of_click_overtime :
    (click twinContext (twinParams "#overtime")).run.Ends (twinCalls "#overtime")
        (Answer.unmatched.outcome "#overtime") ∧
      ∀ answers, Attempts 0 "#overtime" none (some "y") answers (twinCalls "#overtime") →
        answers.length = 1 := by
  have hunmarked : isPassing "#overtime" = false := by decide +kernel
  have hmissing : Answer.IsMissing "#overtime" .unmatched := .inr (.inl rfl)
  have hselector : (twinParams "#overtime").text "click" "selector" = .ok "#overtime" := rfl
  have hpage : twinContext.needPage "click" = .ok 0 := rfl
  obtain ⟨hends, hoften⟩ := attempts_of_click hselector hpage
  refine ⟨(hends _ _).2 ⟨[.unmatched], .last (gives_twinCalls _) ?_, rfl⟩, fun answers h ↦ ?_⟩
  · exact .inr (hmissing.settled hunmarked)
  · have hlines : (twinCalls "#overtime").countP Deed.shows = 0 := rfl
    rw [← (hoften none (some "y") answers _ h).1, hlines]

/-- The page answers alike, but the click by a selector with a mark is attempted three times. -/
theorem attempted_again_for_selector :
    let clicked (selector : String) := (click twinContext (twinParams selector)).run.run
      Rehearsal.surroundings { rest := { pages := #[twinPage] } }
    (clicked "#overtime").1.map Except.isOk = some false ∧ (clicked "#overtime").2.lines = #[] ∧
      (clicked "#timeout").1.map Except.isOk = some false ∧
      (clicked "#timeout").2.lines = #[": Retry 1/3 after 1000ms", ": Retry 2/3 after 2000ms"] ∧
      ∃ log, Attempts 0 "#timeout" none (some "y") [.unmatched, .unmatched, .unmatched] log := by
  intro clicked
  have hmarked : ¬ Settled (Answer.unmatched.outcome "#timeout") := by
    rw [Answer.settled_iff]
    decide +kernel
  have hlast : Tried {} (Gives 0 "#timeout" none (some "y")) (Answer.outcome "#timeout") 2
      [.unmatched] (twinCalls "#timeout") :=
    .last (gives_twinCalls _) (.inl rfl)
  have htwo := hlast.again (gives_twinCalls _) (by decide) hmarked
  have hthree := htwo.again (gives_twinCalls _) (by decide) hmarked
  exact ⟨by decide +kernel, by decide +kernel, by decide +kernel, by decide +kernel, _, hthree⟩

end Click
end WebRecipe
