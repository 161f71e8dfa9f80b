import WebRecipe.Proofs.Loop.Items
import WebRecipe.Proofs.Schema

/-!
# Counting loops

A counting loop adds its step to a number for as long as the sum is not beyond a limit. Its numbers
have 64 bits, and so the sum is tested: a sum with more bits ends the loop. Below a limit of 64 bits
no value is lost by this, since such a sum is beyond the limit. The values are thus those of an
arithmetic progression, whose length is known before the first round.

## Main definitions

* `Action.progression`: the values of a counting loop.
* `Action.checkedRounds`: the loop by additions of 64 bits.
* `Action.CountsUp`: what is known of the values, the rounds and the starts of the block.
* `ActionCall.PlacesDigits`: the placeholder of the value gives way to its digits.

## Main results

* `Action.checkedRounds_eq`: additions of 64 bits lead to the rounds of the progression.
* `Engine.countingLoop_exact`: the counting loop is an exact progression.
-/

namespace WebRecipe

variable {σ : Type}

/-! ### The placeholder of the value -/

/-- In the texts of an action the placeholder of the value that was handed on gives way to the
digits of a number. -/
structure ActionCall.PlacesDigits (call : ActionCall) (st : Store) (v : Int) : Prop where
  /-- The placeholder may have spaces in it, and stand anywhere in a text. -/
  digits : ∀ content, Placeholder.nameOf content = Key.input → Placeholder.pieceText
    (st.put Key.params (.obj call.paramsOrEmpty)).get? (.hole content) = (toString v).toList
  /-- It does not replace the text as a whole. -/
  scalar : ∀ content, Placeholder.nameOf content = Key.input → Placeholder.pieceValue?
    (st.put Key.params (.obj call.paramsOrEmpty)).get? (.hole content) = none
  /-- A text that is nothing but the placeholder becomes the digits. -/
  whole : ∀ key, call.paramsOrEmpty.get? key = some (.str "\x7b\x7bINPUT\x7d\x7d") →
    (call.resolvedIn st).get? key = some (.str (toString v))

/-- The placeholder of a number that was handed on gives way to its digits. -/
theorem ActionCall.placesDigits {st : Store} {v : Int} (hinput : st.input = some (.int v))
    (hv : v ≤ Json.maxInt64) (call : ActionCall) : call.PlacesDigits st v := by
  have hlookup : (st.put Key.params (.obj call.paramsOrEmpty)).get? Key.input = some (.int v) :=
    (Store.get?_put_other (by decide)).trans hinput
  have hdigits (content : List Char) (hname : Placeholder.nameOf content = Key.input) :
      Placeholder.pieceText (st.put Key.params (.obj call.paramsOrEmpty)).get? (.hole content) =
        (toString v).toList := by
    simp [Placeholder.pieceText, hname, hlookup, Placeholder.scalarText, hv]
  have hscalar (content : List Char) (hname : Placeholder.nameOf content = Key.input) :
      Placeholder.pieceValue? (st.put Key.params (.obj call.paramsOrEmpty)).get? (.hole content) =
        none := by
    simp [Placeholder.pieceValue?, hname, hlookup, Placeholder.isComposite]
  refine ⟨hdigits, hscalar, fun key hkey ↦ ?_⟩
  have hpieces : Placeholder.pieces "\x7b\x7bINPUT\x7d\x7d".toList = [.hole Key.input.toList] := by
    decide +kernel
  have hname : Placeholder.nameOf Key.input.toList = Key.input := by decide +kernel
  rw [resolvedIn, Placeholder.resolveMembers, Members.get?_map, hkey, Option.map_some,
    Placeholder.resolve, Placeholder.resolveText, hpieces]
  simp [hdigits _ hname, hscalar _ hname]

namespace Action

variable {start limit step : Int}

/-! ### Progressions -/

/-- The values of a counting loop. -/
def progression (start limit step : Int) : List Int :=
  (List.range (roundCount start limit step)).map fun k : Nat ↦ start + k * step

/-- A counting loop has as many rounds as there are values up to its limit. -/
theorem lt_roundCount_iff (hstep : 0 < step) (k : Nat) :
    k < roundCount start limit step ↔ start + k * step ≤ limit := by
  rw [roundCount]
  have hk : 0 ≤ (k : Int) * step := Int.mul_nonneg (Int.natCast_nonneg k) (Int.le_of_lt hstep)
  split
  case isTrue hle =>
    have hnonneg : 0 ≤ (limit - start) / step := Int.ediv_nonneg (by omega) (Int.le_of_lt hstep)
    have hdiv : (k : Int) ≤ (limit - start) / step ↔ (k : Int) * step ≤ limit - start :=
      Int.le_ediv_iff_mul_le hstep
    omega
  case isFalse hgt => omega

/-- The value of each round, as long as it is not beyond the limit. -/
theorem getElem?_progression (hstep : 0 < step) (k : Nat) :
    (progression start limit step)[k]? =
      if start + k * step ≤ limit then some (start + k * step) else none := by
  rw [progression, List.getElem?_map]
  split
  case isTrue h =>
    rw [List.getElem?_range ((lt_roundCount_iff hstep k).2 h)]
    rfl
  case isFalse h =>
    rw [List.getElem?_eq_none]
    · rfl
    · rw [List.length_range]
      exact Nat.le_of_not_lt fun hk ↦ h ((lt_roundCount_iff hstep k).1 hk)

/-- The values lie between the first one and the limit. -/
theorem bounds_of_mem_progression (hstep : 0 < step) {v : Int}
    (h : v ∈ progression start limit step) : start ≤ v ∧ v ≤ limit := by
  obtain ⟨k, hk, rfl⟩ := List.mem_map.1 h
  have hnonneg : 0 ≤ (k : Int) * step :=
    Int.mul_nonneg (Int.natCast_nonneg k) (Int.le_of_lt hstep)
  exact ⟨by omega, (lt_roundCount_iff hstep k).1 (List.mem_range.1 hk)⟩

/-- A value up to the limit is followed by the progression from the next one. -/
theorem roundCount_succ (hstep : 0 < step) (h : start ≤ limit) :
    roundCount start limit step = roundCount (start + step) limit step + 1 := by
  have hiff (k : Nat) : k < roundCount start limit step ↔
      k < roundCount (start + step) limit step + 1 := by
    cases k with
    | zero =>
      rw [lt_roundCount_iff hstep]
      simp [h]
    | succ k =>
      rw [lt_roundCount_iff hstep, Nat.add_lt_add_iff_right, lt_roundCount_iff hstep]
      push_cast
      rw [Int.add_mul, Int.one_mul]
      omega
  have hle := hiff (roundCount start limit step)
  have hge := hiff (roundCount (start + step) limit step + 1)
  omega

/-! ### Rounds of a counting loop -/

variable {cx : Context} {actions : List ActionCall}

/-- The round of a counting loop with a value. -/
def countingRound (limit v : Int) : Round :=
  ⟨": [" ++ toString v ++ "/" ++ toString limit ++ "]", .int v⟩

/-- A counting loop goes through a round for each value of its progression. -/
theorem countingRounds_eq (cx : Context) (actions : List ActionCall) (limit step : Int)
    (count : Nat) (i : Int) :
    countingRounds cx actions limit step count i =
      rounds cx actions
        ((List.range count).map fun k : Nat ↦ countingRound limit (i + k * step)) := by
  induction count generalizing i with
  | zero => rfl
  | succ count ih =>
    have hnext (k : Nat) : i + (k + 1 : Nat) * step = i + step + k * step := by
      push_cast
      rw [Int.add_mul, Int.one_mul]
      omega
    have hfirst : i + (0 : Nat) * step = i := by omega
    rw [List.range_succ_eq_map, List.map_cons, List.map_map, rounds, countingRounds, ih]
    simp only [countingRound, Function.comp_def, hnext, hfirst]

/-- The sum of two integers, if it has no more than 64 bits. -/
def checkedSum (i step : Int) : Option Int :=
  (Json.int (i + step)).asInt64?

theorem eq_of_checkedSum {i next : Int} (h : checkedSum i step = some next) : next = i + step := by
  rw [checkedSum, Json.asInt64?] at h
  split at h
  · exact (Option.some.inj h).symm
  · cases h

/-- A counting loop with integers of 64 bits: after each round the step is added, and when the sum
has more bits, or is beyond the limit, the loop ends. -/
def checkedRounds (cx : Context) (actions : List ActionCall) (limit step : Int) (hstep : 0 < step)
    (i : Int) : Action Unit :=
  if i ≤ limit then do
    display (countingRound limit i).line
    setInput (countingRound limit i).value
    cx.runBlock actions
    match _h : checkedSum i step with
    | some next => checkedRounds cx actions limit step hstep next
    | none => return ()
  else return ()
termination_by (limit + 1 - i).toNat
decreasing_by
  have := eq_of_checkedSum _h
  omega

/-- Up to a limit of 64 bits, a loop that adds with 64 bits goes through the same rounds. -/
theorem checkedRounds_eq (hstep : 0 < step) (hlimit : limit ≤ Json.maxInt64) {i : Int}
    (hi : Json.minInt64 ≤ i) :
    checkedRounds cx actions limit step hstep i =
      countingRounds cx actions limit step (roundCount i limit step) i := by
  induction hcount : roundCount i limit step generalizing i with
  | zero =>
    have hgt : ¬ i ≤ limit := fun h ↦ by
      rw [roundCount_succ hstep h] at hcount
      cases hcount
    rw [checkedRounds, if_neg hgt]
    rfl
  | succ count ih =>
    have hle : i ≤ limit := by
      by_contra h
      rw [roundCount, if_neg h] at hcount
      cases hcount
    have hrest : roundCount (i + step) limit step = count := by
      rw [roundCount_succ hstep hle] at hcount
      exact Nat.succ.inj hcount
    -- a sum with more bits is beyond the limit, so that no round is left
    have hlast (hnone : checkedSum i step = none) : count = 0 := by
      have hbits : ¬ (Json.minInt64 ≤ i + step ∧ i + step ≤ Json.maxInt64) := fun h ↦ by
        rw [checkedSum, Json.asInt64?, if_pos h] at hnone
        cases hnone
      rw [← hrest, roundCount, if_neg]
      omega
    rw [checkedRounds, if_pos hle, countingRounds]
    refine congrArg _ (funext fun _ ↦ congrArg _ (funext fun _ ↦ congrArg _ (funext fun _ ↦ ?_)))
    split
    case h_1 next hnext =>
      cases eq_of_checkedSum hnext
      exact ih (by omega) hrest
    case h_2 hnone =>
      rw [hlast hnone]
      rfl

/-- What is known of a loop that counts with 64 bits: of its values, of its rounds, and of the
worlds in which its block starts. -/
structure CountsUp (s : Surroundings σ) (cx : Context) (actions : List ActionCall)
    (start limit step : Int) (w : World σ) (values : List Int) (starts : List (World σ))
    (r : Option (Except ActionError Unit) × World σ) : Prop where
  /-- The values are those of the progression that are not beyond the limit, in order. -/
  values_eq : ∀ k : Nat,
    values[k]? = if start + k * step ≤ limit then some (start + k * step) else none
  /-- No value has more than 64 bits. -/
  bits : ∀ v ∈ values, Json.minInt64 ≤ v ∧ v ≤ Json.maxInt64
  /-- There is a round for each value. -/
  rounds : Rounds s (cx.runBlock actions) (values.map (countingRound limit)) w starts r
  /-- The block starts with each value in order, up to the first failure. -/
  startsWith : StartsWith s (cx.runBlock actions) (values.map .int) starts r
  /-- In the first action of the block the placeholder of the value gives way to its digits. -/
  placed : ∀ (i : Nat) (begun : World σ) (v : Int), starts[i]? = some begun →
    values[i]? = some v → ∀ first ∈ actions.head?, first.PlacesDigits begun.store v

end Action

/-! ### Parameters of a counting loop -/

/-- The check leaves the bounds of a counting loop as they are, and fills in its step. -/
theorem Schema.get?_of_validate_for {ps qs : Members} (h : validate "for" ps = .ok qs) :
    qs.get? "from" = ps.get? "from" ∧ qs.get? "until" = ps.get? "until" ∧
      qs.get? "step" = some ((ps.get? "step").getD (.int 1)) := by
  let s : Schema := params [("from", anyInteger), ("until", anyInteger), ("actions", body)]
    [("step", integer none none (some 1))]
  have hs : ofAction? "for" = some s := rfl
  have hdeclared {key : String} (hkey : key ∈ ["from", "until", "step"]) (ms : Members) :
      Members.get? (s.declaredOnly ms) key = ms.get? key := by
    refine Members.get?_filter fun v ↦ ?_
    simp only [List.mem_cons, List.not_mem_nil, or_false] at hkey
    rcases hkey with rfl | rfl | rfl <;> rfl
  have hfilled : s.withDefaults ps = if ps.has "step" then ps else ps.set "step" (.int 1) := rfl
  rw [validate, hs] at h
  dsimp only at h
  split at h
  case isFalse => cases h
  case isTrue =>
    cases h
    rw [keepsUndeclared, if_neg (by decide), hdeclared (by decide), hdeclared (by decide),
      hdeclared (by decide), hfilled, Members.has_eq_isSome]
    cases hstep : ps.get? "step" with
    | some v => exact ⟨rfl, rfl, hstep⟩
    | none =>
      exact ⟨Members.get?_set_of_ne (by decide), Members.get?_set_of_ne (by decide),
        Members.get?_set_self _ _ _⟩

/-- An integer of 64 bits is read as it is given. -/
theorem Members.integer_of_get? {ps : Members} {key : String} {n fallback : Int}
    (h : ps.get? key = some (.int n)) (hbits : Json.minInt64 ≤ n ∧ n ≤ Json.maxInt64) :
    ps.integer key fallback = n := by
  rw [integer, h, Option.bind_some, Json.asInt64?, if_pos hbits]
  rfl

/-! ### Counting loops -/

namespace Action

variable {s : Surroundings σ} {cx : Context} {ps : Members} {actions : List ActionCall}
  {start limit step : Int}

/-- A counting loop fails if it cannot come to its end, and else goes through its rounds. -/
theorem countingLoop_eq (hstart : ps.integer "from" 0 = start)
    (hlimit : ps.integer "until" 0 = limit) (hstep : ps.integer "step" 1 = step)
    (hbody : ps.body "for" "actions" = .ok actions) :
    countingLoop cx ps =
      if step ≤ 0 ∧ start ≤ limit then
        throw (.failed "for" ("step must be positive, got " ++ toString step))
      else showEnd ": End of for loop"
        (countingRounds cx actions limit step (roundCount start limit step) start) := by
  subst hstart hlimit hstep
  rw [countingLoop, hbody]
  split
  · rfl
  · rfl

/-- A loop that counts with 64 bits goes through the rounds of its progression. -/
theorem checkedRounds_eq_rounds (cx : Context) (actions : List ActionCall) (hstep : 0 < step)
    (hstart : Json.minInt64 ≤ start) (hlimit : limit ≤ Json.maxInt64) :
    checkedRounds cx actions limit step hstep start =
      rounds cx actions ((progression start limit step).map (countingRound limit)) := by
  rw [checkedRounds_eq hstep hlimit hstart, countingRounds_eq, progression, List.map_map]
  rfl

/-- Rounds with the values of a progression count up, between bounds of 64 bits. -/
theorem countsUp_of_rounds (hstep : 0 < step) (hstart : Json.minInt64 ≤ start)
    (hlimit : limit ≤ Json.maxInt64) {w : World σ} {starts : List (World σ)}
    {r : Option (Except ActionError Unit) × World σ}
    (h : Rounds s (cx.runBlock actions) ((progression start limit step).map (countingRound limit))
      w starts r) :
    CountsUp s cx actions start limit step w (progression start limit step) starts r := by
  have hstarts := h.startsWith
  rw [List.map_map] at hstarts
  refine ⟨getElem?_progression hstep, fun v hv ↦ ?_, h, hstarts, ?_⟩
  · have := bounds_of_mem_progression hstep hv
    omega
  · intro i begun v hbegun hv first hfirst
    have hinput : begun.store.input = some (.int v) := by
      refine hstarts.input_eq hbegun ?_
      rw [List.getElem?_map, hv]
      rfl
    have hle := (bounds_of_mem_progression hstep (List.mem_of_getElem? hv)).2
    exact first.placesDigits hinput (Int.le_trans hle hlimit)

end Action

namespace Engine

variable {e : Engine} {s : Surroundings σ} {w w₁ : World σ} {call : ActionCall} {p : Prepared}

/-- A counting loop gets its bounds as they are given, and 1 as its step if none is given. -/
theorem integers_of_prepared (hname : call.name = "for")
    (hprepared : (e.prepare call).run.run s w = (some (.ok p), w₁)) {start limit step : Int}
    (hstart : call.paramsOrEmpty.get? "from" = some (.int start))
    (hlimit : call.paramsOrEmpty.get? "until" = some (.int limit))
    (hstep : (call.paramsOrEmpty.get? "step").getD (.int 1) = .int step)
    (hbits : ∀ n ∈ [start, limit, step], Json.minInt64 ≤ n ∧ n ≤ Json.maxInt64) :
    p.params.integer "from" 0 = start ∧ p.params.integer "until" 0 = limit ∧
      p.params.integer "step" 1 = step := by
  obtain ⟨hchecked, -⟩ := announced_of_prepared hprepared
  rw [hname] at hchecked
  obtain ⟨hfrom, huntil, hby⟩ := Schema.get?_of_validate_for hchecked
  have hresolved (key : String) : (call.resolvedIn w.store).get? key =
      (call.paramsOrEmpty.get? key).map (Placeholder.resolve
        (w.store.put Key.params (.obj call.paramsOrEmpty)).get?) :=
    Members.get?_map _
  rw [hresolved] at hfrom huntil hby
  refine ⟨?_, ?_, ?_⟩
  · refine Members.integer_of_get? ?_ (hbits _ (by simp))
    rw [hfrom, hstart]
    rfl
  · refine Members.integer_of_get? ?_ (hbits _ (by simp))
    rw [huntil, hlimit]
    rfl
  · refine Members.integer_of_get? ?_ (hbits _ (by simp))
    rw [hby]
    cases hgiven : call.paramsOrEmpty.get? "step" with
    | none =>
      rw [hgiven] at hstep
      exact congrArg some hstep
    | some v =>
      rw [hgiven] at hstep
      cases hstep
      rfl

/-- **The counting loop is an exact progression.** It is given three integers of 64 bits. With a
positive step it goes through a round for each value of the progression that is not beyond the
limit, and does so with additions of 64 bits; it comes to an end if its block does so in every
round. Without values nothing is done whatever the step is, and the value that was handed on is as
it was. With values that are not approached by the step the action was only announced. -/
theorem countingLoop_exact (e : Engine) (s : Surroundings σ)
    (hfor : e.registry.get? "for" = some Action.countingLoop) (depth : Nat) (call : ActionCall)
    (hname : call.name = "for") (w w₁ : World σ) (p : Prepared)
    (hprepared : (e.prepare call).run.run s w = (some (.ok p), w₁)) (start limit step : Int)
    (hstart : call.paramsOrEmpty.get? "from" = some (.int start))
    (hlimit : call.paramsOrEmpty.get? "until" = some (.int limit))
    (hstep : (call.paramsOrEmpty.get? "step").getD (.int 1) = .int step)
    (hbits : ∀ n ∈ [start, limit, step], Json.minInt64 ≤ n ∧ n ≤ Json.maxInt64)
    (actions : List ActionCall) (hbody : p.params.body "for" "actions" = .ok actions) :
    let cx := e.context depth p
    let performed := (e.performWithin (depth + 1) call).run.run s w
    w.OnlyAnnounced "for" w₁ ∧
    (∀ hpositive : 0 < step, ∃ values starts,
      let r := (Action.checkedRounds cx actions limit step hpositive start).run.run s w₁.deeper
      Action.CountsUp s cx actions start limit step w₁.deeper values starts r ∧
      performed = Action.closed ": End of for loop" r ∧
      (∀ begun ∈ starts,
        Action.Reaches s w (e.performWithin (depth + 1) call) (cx.runBlock actions) begun) ∧
      ((∀ begun ∈ starts, ((cx.runBlock actions).run.run s begun).1 ≠ none) →
        performed.1 ≠ none)) ∧
    (limit < start →
      performed = (some (.ok ()), w₁.deeper.shallower.showing ": End of for loop") ∧
      performed.2.store.input = w.store.input) ∧
    (step ≤ 0 → start ≤ limit → performed =
      (some (.error (.failed "for" ("step must be positive, got " ++ toString step))), w₁)) := by
  intro cx performed
  obtain ⟨-, hget, hannounced⟩ := announced_of_prepared hprepared
  rw [hname] at hget hannounced
  obtain ⟨hfrom, huntil, hby⟩ := integers_of_prepared hname hprepared hstart hlimit hstep hbits
  have hhandler : p.handler = Action.countingLoop := Option.some.inj (hget.symm.trans hfor)
  have hloop : p.handler cx p.params = _ :=
    hhandler ▸ Action.countingLoop_eq hfrom huntil hby hbody
  have hperformed : performed = (p.handler cx p.params).run.run s w₁ :=
    performWithin_of_prepared hprepared depth
  have hshowEnd (hgoes : ¬ (step ≤ 0 ∧ start ≤ limit)) :
      p.handler cx p.params = Action.showEnd ": End of for loop" (Action.countingRounds cx actions
        limit step (Action.roundCount start limit step) start) := by
    rw [hloop, if_neg hgoes]
  refine ⟨hannounced, fun hpositive ↦ ?_, fun hnone ↦ ?_, fun hnegative hle ↦ ?_⟩
  · have hbelow := (hbits start (by simp)).1
    have habove := (hbits limit (by simp)).2
    have hrounds := Action.checkedRounds_eq_rounds cx actions hpositive hbelow habove
    have hgoes : p.handler cx p.params = Action.showEnd ": End of for loop"
        (Action.checkedRounds cx actions limit step hpositive start) := by
      rw [hshowEnd (by omega), Action.checkedRounds_eq hpositive habove hbelow]
    rw [hrounds] at hgoes ⊢
    obtain ⟨starts, hstarts, hperforms⟩ :=
      performWithin_rounds hprepared (Routine.Leads.of_eq (congrArg ExceptT.run hgoes) w₁)
    exact ⟨_, starts, Action.countsUp_of_rounds hpositive hbelow habove hstarts, hperforms⟩
  · have hclosed : performed =
        (some (.ok ()), w₁.deeper.shallower.showing ": End of for loop") := by
      rw [hperformed, hshowEnd (by omega), Action.roundCount, if_neg (by omega),
        Action.run_showEnd]
      rfl
    refine ⟨hclosed, ?_⟩
    rw [hclosed]
    exact (World.input_shallower _).trans
      ((World.input_deeper _).trans (hannounced.values Key.input (by decide)))
  · rw [hperformed, hloop, if_pos ⟨hnegative, hle⟩]
    rfl

/-- A loop that counts by twos up to the greatest integer of 64 bits says each value. -/
theorem countingLoop_exact_greatest :
    let e : Engine := { registry := Action.builtinRegistry }
    let text := "\x7b\x7bINPUT\x7d\x7d"
    let body : Json := .arr [.obj [("name", .str "log"), ("params", .obj [("message", .str text)])]]
    let call : ActionCall := ⟨"for", some [("from", .int (Json.maxInt64 - 2)),
      ("until", .int Json.maxInt64), ("step", .int 2), ("actions", body)], true⟩
    let w : World Rehearsal := { rest := {} }
    let w₁ := (w.showing "Running action : for").putting Key.params (.obj call.paramsOrEmpty)
    let performed := (e.performWithin 2 call).run.run Rehearsal.surroundings w
    (∃ cx values starts r, Action.CountsUp Rehearsal.surroundings cx
      [⟨"log", some [("message", .str text)], true⟩] (Json.maxInt64 - 2) Json.maxInt64 2 w₁.deeper
      values starts r ∧ performed = Action.closed ": End of for loop" r) ∧
    performed.2.lines = #["Running action : for",
      "  : [9223372036854775805/9223372036854775807]", "  Running action : log",
      "  : 9223372036854775805",
      "  : [9223372036854775807/9223372036854775807]", "  Running action : log",
      "  : 9223372036854775807", ": End of for loop"] := by
  intro e text body call w w₁ performed
  have hprepared : (e.prepare call).run.run Rehearsal.surroundings w =
      (some (.ok ⟨Action.countingLoop, call.paramsOrEmpty, none⟩), w₁) :=
    rfl
  obtain ⟨-, hloop, -⟩ := countingLoop_exact e Rehearsal.surroundings rfl 1 call rfl w w₁ _
    hprepared (Json.maxInt64 - 2) Json.maxInt64 2 rfl rfl rfl (by decide)
    [⟨"log", some [("message", .str text)], true⟩] rfl
  obtain ⟨values, starts, hcounts, hclosed, -⟩ := hloop (by decide)
  exact ⟨⟨_, values, starts, _, hcounts, hclosed⟩, by decide +kernel⟩

end Engine
end WebRecipe
