import WebRecipe.Proofs.Loop.Counting

/-!
# Integers that actions are given

The check lets every whole number through where an integer is declared, whatever its notation and
however many digits it has. An action reads its integers with 64 bits. What was given as such an
integer is the number that it works with: a counting loop visits the progression of its numbers, and
the two actions that wait do so for as many milliseconds as they are told. A double and an integer
with more bits pass the check as well, but what the action then works with is the number that it
takes when nothing is given.

## Main definitions

* `Json.Taken`: the integer that an action works with, by the value that it is given.

## Main results

* `Members.taken_integer`: what is read of a value that the check lets through.
* `Engine.integers_taken`: the integers that the counting loop and the waiting actions work with.
-/

namespace WebRecipe

variable {σ : Type}

/-! ### Reading integers -/

/-- `Taken fallback given n` says that an action works with the integer `n` where it is given a value
or none: with an integer of 64 bits as it is, and with the fallback for any other whole number. -/
inductive Json.Taken (fallback : Int) : Option Json → Int → Prop
  | given {n : Int} (bits : minInt64 ≤ n ∧ n ≤ maxInt64) : Taken fallback (some (.int n)) n
  | missing : Taken fallback none fallback
  /-- The integer has more than 64 bits. -/
  | long {n : Int} (bits : ¬ (minInt64 ≤ n ∧ n ≤ maxInt64)) :
      Taken fallback (some (.int n)) fallback
  /-- The whole number is given as a double. -/
  | double {x : Float} (whole : Double.isWhole x = true) :
      Taken fallback (some (.double x)) fallback

namespace Json.Taken

variable {fallback n : Int} {v? : Option Json}

/-- The integer that an action works with has 64 bits. -/
theorem bits (h : Taken fallback v? n) (hfallback : minInt64 ≤ fallback ∧ fallback ≤ maxInt64) :
    minInt64 ≤ n ∧ n ≤ maxInt64 := by
  cases h with
  | given bits => exact bits
  | missing => exact hfallback
  | long => exact hfallback
  | double => exact hfallback

/-- Nothing changes when the fallback is filled in for a missing value. -/
theorem of_getD (h : Taken fallback (some (v?.getD (.int fallback))) n) :
    Taken fallback v? n := by
  cases v? with
  | some v => exact h
  | none =>
    cases h with
    | given => exact .missing
    | long => exact .missing

/-- The integer that an action works with is not below a limit that the value is not below. -/
theorem least {limit : Int} (h : Taken fallback v? n)
    (hv : ∀ v, v? = some v → Schema.isBelow v limit = false) (hfallback : limit ≤ fallback) :
    limit ≤ n := by
  cases h with
  | given => exact Int.not_lt.1 (of_decide_eq_false (hv _ rfl))
  | missing => exact hfallback
  | long => exact hfallback
  | double => exact hfallback

/-- The integer that an action works with is not above a limit that the value is not above. -/
theorem greatest {limit : Int} (h : Taken fallback v? n)
    (hv : ∀ v, v? = some v → Schema.isAbove v limit = false) (hfallback : fallback ≤ limit) :
    n ≤ limit := by
  cases h with
  | given => exact Int.not_lt.1 (of_decide_eq_false (hv _ rfl))
  | missing => exact hfallback
  | long => exact hfallback
  | double => exact hfallback

end Json.Taken

/-- What is read of a whole number that the check leaves as it is. -/
theorem Members.taken_integer {ps qs : Members} {key : String} (fallback : Int)
    (hkept : qs.get? key = ps.get? key)
    (hwhole : ∀ v, ps.get? key = some v → Schema.isInteger v = true) :
    Json.Taken fallback (ps.get? key) (qs.integer key fallback) := by
  rw [integer, hkept]
  cases hv : ps.get? key with
  | none => exact .missing
  | some v =>
    have hv := hwhole v hv
    cases v with
    | int n =>
      rw [Option.bind_some, Json.asInt64?]
      split
      case isTrue hbits => exact .given hbits
      case isFalse hbits => exact .long hbits
    | double x => exact .double hv
    | _ => cases hv

namespace Schema

variable {ps qs : Members}

/-- The integers of a counting loop that passes the check. -/
theorem taken_of_validate_for (h : validate "for" ps = .ok qs) :
    (∀ key ∈ ["from", "until"], (ps.get? key).isSome = true) ∧
      Json.Taken 0 (ps.get? "from") (qs.integer "from" 0) ∧
      Json.Taken 0 (ps.get? "until") (qs.integer "until" 0) ∧
      Json.Taken 1 (ps.get? "step") (qs.integer "step" 1) := by
  obtain ⟨hrequired, hchecked⟩ := checked_of_validate rfl h
  obtain ⟨hfrom, huntil, hstep⟩ := get?_of_validate_for h
  have hlimit {key : String} (hkey : key ∈ ["from", "until"]) : (key, anyInteger) ∈
      [("from", anyInteger), ("until", anyInteger), ("actions", body)] := by
    simp only [List.mem_cons, List.not_mem_nil, or_false] at hkey
    rcases hkey with rfl | rfl <;> simp
  have hwhole (key : String) (hkey : key ∈ ["from", "until"]) (v : Json)
      (hv : ps.get? key = some v) : isInteger v = true :=
    (check_integer_eq_nil.1 (hchecked _ (List.mem_append_left _ (hlimit hkey)) v hv)).1
  have hby (v : Json) (hv : ps.get? "step" = some v) : isInteger v = true :=
    (check_integer_eq_nil.1 (hchecked _ (List.mem_append_right _ List.mem_cons_self) v hv)).1
  refine ⟨fun key hkey ↦ hrequired _ (hlimit hkey), ?_, ?_, .of_getD ?_⟩
  · exact Members.taken_integer 0 hfrom (hwhole "from" (by simp))
  · exact Members.taken_integer 0 huntil (hwhole "until" (by simp))
  · rw [← hstep]
    refine Members.taken_integer 1 rfl fun v hv ↦ ?_
    obtain rfl := Option.some.inj (hstep.symm.trans hv)
    cases hgiven : ps.get? "step" with
    | none => rfl
    | some v => exact hby v hgiven

/-- A number of milliseconds that passes the check is neither negative nor beyond its limit. -/
private theorem taken_duration {key : String} {greatest : Option Int} {fallback : Int}
    (hfallback : 0 ≤ fallback) (hgreatest : ∀ limit ∈ greatest, fallback ≤ limit)
    (hkept : qs.get? key = ps.get? key)
    (hchecked : ∀ v, ps.get? key = some v → (integer (some 0) greatest none).check v = []) :
    ∃ ms : Nat, (qs.integer key fallback).toNat = ms ∧ Json.Taken fallback (ps.get? key) ms ∧
      ∀ limit ∈ greatest, (ms : Int) ≤ limit := by
  have hduration (v : Json) (hv : ps.get? key = some v) :=
    check_integer_eq_nil.1 (hchecked v hv)
  have htaken := Members.taken_integer fallback hkept fun v hv ↦ (hduration v hv).1
  have hleast : 0 ≤ qs.integer key fallback :=
    htaken.least (fun v hv ↦ (hduration v hv).2.1 0 rfl) hfallback
  refine ⟨_, rfl, ?_, fun limit hlimit ↦ ?_⟩
  · rwa [Int.toNat_of_nonneg hleast]
  · rw [Int.toNat_of_nonneg hleast]
    exact htaken.greatest (fun v hv ↦ (hduration v hv).2.2 limit hlimit) (hgreatest limit hlimit)

/-- The duration of a sleep that passes the check. -/
theorem taken_of_validate_sleep (h : validate "sleep" ps = .ok qs) :
    (ps.get? "ms").isSome = true ∧ ∃ ms : Nat, (qs.integer "ms" 0).toNat = ms ∧
      Json.Taken 0 (ps.get? "ms") ms ∧ (ms : Int) ≤ maxSleep := by
  obtain ⟨hrequired, hchecked⟩ := checked_of_validate rfl h
  have hkept : qs.get? "ms" = ps.get? "ms" :=
    get?_declared_of_validate rfl rfl h ⟨_, List.mem_cons_self, rfl⟩ fun p hp _ ↦ by
      cases List.mem_singleton.1 hp
      rfl
  obtain ⟨ms, hms, htaken, hgreatest⟩ := taken_duration (Int.le_refl 0) (by decide) hkept
    (hchecked _ List.mem_cons_self)
  exact ⟨hrequired _ List.mem_cons_self, ms, hms, htaken, hgreatest maxSleep rfl⟩

/-- The wait before a click that passes the check. -/
theorem taken_of_validate_scrollWaitClick (h : validate "scrollWaitClick" ps = .ok qs) :
    qs.get? "selector" = ps.get? "selector" ∧ ∃ ms : Nat, (qs.integer "ms" 2000).toNat = ms ∧
      Json.Taken 2000 (ps.get? "ms") ms := by
  have hs : ofAction? "scrollWaitClick" =
      some (params [("selector", filled)] [("ms", integer (some 0) none none)]) :=
    rfl
  obtain ⟨-, hchecked⟩ := checked_of_validate hs h
  have hkept (key : String) (hkey : key ∈ ["selector", "ms"]) : qs.get? key = ps.get? key := by
    refine get?_declared_of_validate hs rfl h (List.mem_map.1 hkey) ?_
    simp [properties, params, default?, filled]
  obtain ⟨ms, hms, htaken, -⟩ := taken_duration (by decide : (0 : Int) ≤ 2000) (by simp)
    (hkept "ms" (by simp)) (hchecked _ (List.mem_append_right _ List.mem_cons_self))
  exact ⟨hkept "selector" (by simp), ms, hms, htaken⟩

end Schema

/-! ### Performing with integers -/

namespace Engine

variable {e : Engine} {s : Surroundings σ} {w w₁ : World σ} {call : ActionCall} {p : Prepared}
  {depth : Nat}

/-- A counting loop goes through the progression of the integers that it works with, if it can come
to its end at all. -/
theorem performWithin_countingLoop (hprepared : (e.prepare call).run.run s w = (some (.ok p), w₁))
    (hhandler : p.handler = Action.countingLoop) {start limit step : Int}
    (hstart : p.params.integer "from" 0 = start) (hlimit : p.params.integer "until" 0 = limit)
    (hstep : p.params.integer "step" 1 = step) (hbelow : Json.minInt64 ≤ start)
    (habove : limit ≤ Json.maxInt64) {actions : List ActionCall}
    (hbody : p.params.body "for" "actions" = .ok actions) :
    let cx := e.context depth p
    let performed := (e.performWithin (depth + 1) call).run.run s w
    (0 < step → ∃ starts r, Action.CountsUp s cx actions start limit step w₁.deeper
      (Action.progression start limit step) starts r ∧
      performed = Action.closed ": End of for loop" r) ∧
    (step ≤ 0 → limit < start →
      performed = (some (.ok ()), w₁.deeper.shallower.showing ": End of for loop")) ∧
    (step ≤ 0 → start ≤ limit → performed =
      (some (.error (.failed "for" ("step must be positive, got " ++ toString step))), w₁)) := by
  intro cx performed
  have hloop : p.handler cx p.params = _ :=
    hhandler ▸ Action.countingLoop_eq hstart hlimit hstep hbody
  have hperformed : performed = (p.handler cx p.params).run.run s w₁ :=
    performWithin_of_prepared hprepared depth
  refine ⟨fun hpositive ↦ ?_, fun hnegative hgt ↦ ?_, fun hnegative hle ↦ ?_⟩
  · have hgoes : p.handler cx p.params = Action.showEnd ": End of for loop" (Action.rounds cx actions
        ((Action.progression start limit step).map (Action.countingRound limit))) := by
      rw [hloop, if_neg (by omega),
        ← Action.checkedRounds_eq_rounds cx actions hpositive hbelow habove,
        Action.checkedRounds_eq hpositive habove hbelow]
    obtain ⟨starts, hrounds, hclosed, -⟩ :=
      performWithin_rounds hprepared (Routine.Leads.of_eq (congrArg ExceptT.run hgoes) w₁)
    exact ⟨starts, _, Action.countsUp_of_rounds hpositive hbelow habove hrounds, hclosed⟩
  · rw [hperformed, hloop, if_neg (by omega), Action.roundCount, if_neg (by omega),
      Action.run_showEnd]
    rfl
  · rw [hperformed, hloop, if_pos ⟨hnegative, hle⟩]
    rfl

/-- A sleep lasts as many milliseconds as the action works with. -/
theorem performWithin_sleep (hprepared : (e.prepare call).run.run s w = (some (.ok p), w₁))
    (hhandler : p.handler = Action.sleep) {ms : Nat} (hms : (p.params.integer "ms" 0).toNat = ms) :
    (e.performWithin (depth + 1) call).run.run s w =
      (some (.ok ()), { w₁.showing (": Sleeping " ++ toString ms ++ " ms") with
        clock := w₁.clock + ms }) := by
  rw [performWithin_of_prepared hprepared, hhandler, ← hms]
  rfl

/-- What a click with a wait before it does, once its selector and its page are known. -/
private theorem scrollWaitClick_eq {cx : Context} {ps : Members} {selector : String}
    (hselector : ps.get? "selector" = some (.str selector)) {page : PageId}
    (hpage : cx.page = some page) :
    let failure := Action.selectorFailure "scrollWaitClick" selector
    Action.scrollWaitClick cx ps = (do
      let _ ← Action.onPage page (.scrollIntoView selector 0) failure
      Action.command (.sleep (ps.integer "ms" 2000).toNat)
      Action.onPage page (.click selector 0) failure) := by
  rw [Action.scrollWaitClick, Members.text, hselector, Context.needPage, hpage]
  rfl

/-- Between the scrolling and the click as many milliseconds pass as the action works with. -/
theorem performWithin_scrollWaitClick
    (hprepared : (e.prepare call).run.run s w = (some (.ok p), w₁))
    (hhandler : p.handler = Action.scrollWaitClick) {ms : Nat}
    (hms : (p.params.integer "ms" 2000).toNat = ms) {selector : String}
    (hselector : p.params.get? "selector" = some (.str selector)) {page : PageId}
    (hpage : p.page = some page) :
    let failure := Action.selectorFailure "scrollWaitClick" selector
    let performed := (e.performWithin (depth + 1) call).run.run s w
    (∀ err rest, s.page page (.scrollIntoView selector 0) w₁.rest = (.error err, rest) →
      performed = (some (.error (failure err)), { w₁ with rest := rest })) ∧
    (∀ rest, s.page page (.scrollIntoView selector 0) w₁.rest = (.ok (), rest) →
      let clicked := s.page page (.click selector 0) rest
      performed = (some (clicked.1.mapError failure),
        { w₁ with clock := w₁.clock + ms, rest := clicked.2 })) := by
  intro failure performed
  have hperformed : performed = (p.handler (e.context depth p) p.params).run.run s w₁ :=
    performWithin_of_prepared hprepared depth
  have hcontext : (e.context depth p).page = some page := hpage
  rw [hperformed, hhandler, scrollWaitClick_eq hselector hcontext, hms]
  refine ⟨fun err rest hscroll ↦ ?_, fun rest hscroll ↦ ?_⟩
  · exact Action.run_bind_error (Action.run_onPage_error _ hscroll)
  · exact Action.run_bind_ok (Action.run_onPage_ok _ hscroll)

/-- **Integers are the ones that are given, or else nothing is.** An action with integers among its
parameters passes the check. For each integer that it is given, which may be missing when there is a
number to take instead, it works with the integer that it takes: a counting loop goes through the
progression of its start, its limit and its step, a sleep lasts as long as it is told and says so,
and so does the wait between scrolling and clicking. The integer that is taken is the given one as
long as that is an integer of 64 bits. A double without a fraction and an integer with more bits
pass the check, too, but are taken for missing. -/
theorem integers_taken (e : Engine) (s : Surroundings σ) (depth : Nat) (call : ActionCall)
    (hbuiltin : e.registry.get? call.name = Action.builtinRegistry.get? call.name)
    (w w₁ : World σ) (p : Prepared)
    (hprepared : (e.prepare call).run.run s w = (some (.ok p), w₁)) :
    let given := call.resolvedIn w.store
    let cx := e.context depth p
    let performed := (e.performWithin (depth + 1) call).run.run s w
    (call.name = "for" → ∃ start limit step,
      (∀ key ∈ ["from", "until"], (given.get? key).isSome = true) ∧
      Json.Taken 0 (given.get? "from") start ∧ Json.Taken 0 (given.get? "until") limit ∧
      Json.Taken 1 (given.get? "step") step ∧
      ∀ actions, p.params.body "for" "actions" = .ok actions →
        (0 < step → ∃ starts r, Action.CountsUp s cx actions start limit step w₁.deeper
          (Action.progression start limit step) starts r ∧
          performed = Action.closed ": End of for loop" r) ∧
        (step ≤ 0 → limit < start →
          performed = (some (.ok ()), w₁.deeper.shallower.showing ": End of for loop")) ∧
        (step ≤ 0 → start ≤ limit → performed =
          (some (.error (.failed "for" ("step must be positive, got " ++ toString step))), w₁))) ∧
    (call.name = "sleep" → ∃ ms : Nat, (given.get? "ms").isSome = true ∧
      Json.Taken 0 (given.get? "ms") ms ∧ (ms : Int) ≤ Schema.maxSleep ∧
      performed = (some (.ok ()), { w₁.showing (": Sleeping " ++ toString ms ++ " ms") with
        clock := w₁.clock + ms })) ∧
    (call.name = "scrollWaitClick" → ∃ ms : Nat, Json.Taken 2000 (given.get? "ms") ms ∧
      ∀ selector page, given.get? "selector" = some (.str selector) → p.page = some page →
        let failure := Action.selectorFailure "scrollWaitClick" selector
        (∀ err rest, s.page page (.scrollIntoView selector 0) w₁.rest = (.error err, rest) →
          performed = (some (.error (failure err)), { w₁ with rest := rest })) ∧
        (∀ rest, s.page page (.scrollIntoView selector 0) w₁.rest = (.ok (), rest) →
          let clicked := s.page page (.click selector 0) rest
          performed = (some (clicked.1.mapError failure),
            { w₁ with clock := w₁.clock + ms, rest := clicked.2 }))) := by
  intro given cx performed
  obtain ⟨hchecked, hget, -⟩ := announced_of_prepared hprepared
  have hhandler {name : String} {handler : Handler} (hname : call.name = name)
      (hof : Action.builtinRegistry.get? name = some handler) : p.handler = handler := by
    subst hname
    exact Option.some.inj (hget.symm.trans (hbuiltin.trans hof))
  refine ⟨fun hname ↦ ?_, fun hname ↦ ?_, fun hname ↦ ?_⟩
  · rw [hname] at hchecked
    obtain ⟨hgiven, hstart, hlimit, hstep⟩ := Schema.taken_of_validate_for hchecked
    refine ⟨_, _, _, hgiven, hstart, hlimit, hstep, fun actions hbody ↦ ?_⟩
    exact performWithin_countingLoop hprepared (hhandler hname rfl) rfl rfl rfl
      (hstart.bits (by decide)).1 (hlimit.bits (by decide)).2 hbody
  · rw [hname] at hchecked
    obtain ⟨hgiven, ms, hms, htaken, hlongest⟩ := Schema.taken_of_validate_sleep hchecked
    exact ⟨ms, hgiven, htaken, hlongest,
      performWithin_sleep hprepared (hhandler hname rfl) hms⟩
  · rw [hname] at hchecked
    obtain ⟨hkept, ms, hms, htaken⟩ := Schema.taken_of_validate_scrollWaitClick hchecked
    refine ⟨ms, htaken, fun selector page hselector hpage ↦ ?_⟩
    exact performWithin_scrollWaitClick hprepared (hhandler hname rfl) hms (hkept.trans hselector)
      hpage

/-- A sleep of one and a half seconds lasts as long as it is told. -/
theorem integers_taken_sleeping :
    let e : Engine := { registry := Action.builtinRegistry }
    let call : ActionCall := ⟨"sleep", some [("ms", .int 1500)], true⟩
    let w : World Rehearsal := { rest := {} }
    let performed := (e.performWithin 1 call).run.run Rehearsal.surroundings w
    performed.1 = some (.ok ()) ∧ performed.2.clock = 1500 ∧
      performed.2.lines = #["Running action : sleep", ": Sleeping 1500 ms"] := by
  intro e call w performed
  let w₁ := (w.showing "Running action : sleep").putting Key.params (.obj call.paramsOrEmpty)
  have hprepared : (e.prepare call).run.run Rehearsal.surroundings w =
      (some (.ok ⟨Action.sleep, call.paramsOrEmpty, none⟩), w₁) :=
    rfl
  obtain ⟨-, hsleep, -⟩ := integers_taken e Rehearsal.surroundings 0 call rfl w w₁ _ hprepared
  obtain ⟨ms, -, htaken, -, hperformed⟩ := hsleep rfl
  have hms : ms = 1500 := by
    cases htaken with
    | given => rfl
    | long bits => exact absurd (by decide) bits
  subst hms
  rw [show performed = _ from hperformed]
  exact ⟨rfl, rfl, by decide +kernel⟩

/-- A sleep of 500 milliseconds that is written with a point passes the check, and is over at
once. -/
theorem double_not_slept :
    let e : Engine := { registry := Action.builtinRegistry }
    let ps : Members := [("ms", .double 500.0)]
    let w : World Rehearsal := { rest := {} }
    let performed := (e.performWithin 1 ⟨"sleep", some ps, true⟩).run.run Rehearsal.surroundings w
    Schema.validate "sleep" ps = .ok ps ∧ Whole.ofFloat 500.0 = .int 500 ∧
      performed.1.map Except.isOk = some true ∧ performed.2.clock = 0 ∧
      performed.2.lines = #["Running action : sleep", ": Sleeping 0 ms"] := by
  exact ⟨rfl, by decide +kernel, by decide +kernel, by decide +kernel, by decide +kernel⟩

end Engine
end WebRecipe
