import WebRecipe.Proofs.Plain
import WebRecipe.Proofs.Resolving

/-!
# Loops under a condition

A loop under a condition looks at the condition before each turn. The condition sees nothing but the
value that was handed on last, which the block may have changed since. How many turns there are is
not known beforehand, and there may be no end to them. Of a loop that comes to an end this much is
known: it succeeds only where its condition does not hold, and a failure is that of its condition or
that of an action of its block.

## Main definitions

* `World.conditionIn`: whether a condition holds for the value that was handed on last.
* `Turns`: what the turns of a loop come to, and the worlds in which its block is started.

## Main results

* `Action.conditionRounds_of_turns`, `Action.exists_turns`: a loop that is patient enough comes to
  what its turns come to, and to nothing else.
* `Turns.holds_of_mem`, `Turns.exits`, `Turns.fails_in_block`: what is known of the condition at the
  starts of the block and at the end, and of a failure.
* `Engine.conditionLoop_exits`: a loop exits only when its condition does not hold.
-/

namespace WebRecipe

variable {σ α : Type}

/-- Whether a condition holds for the value that was handed on last. -/
def World.conditionIn (w : World σ) (condition : String) : Except ConditionError Bool :=
  Condition.holds condition (Action.bindingsOf w.store.input)

/-- `Turns s condition block w starts r` takes turns from the world `w`: as long as the condition
holds a block is started, in the worlds `starts`, each of which is the one that the block before has
left, and the turns come to an end with `r`. -/
inductive Turns (s : Surroundings σ) (condition : String) (block : Action Unit) : World σ →
    List (World σ) → Except ActionError Unit × World σ → Prop
  | exited {w : World σ} (unmet : w.conditionIn condition = .ok false) :
      Turns s condition block w [] (.ok (), w)
  | undecided {w : World σ} {cause : ConditionError}
      (failed : w.conditionIn condition = .error cause) :
      Turns s condition block w [] (.error (.condition "while" cause), w)
  | again {w w' : World σ} {starts : List (World σ)} {r : Except ActionError Unit × World σ}
      (met : w.conditionIn condition = .ok true)
      (ran : block.run.run s w = (some (.ok ()), w'))
      (later : Turns s condition block w' starts r) :
      Turns s condition block w (w :: starts) r
  | stopped {w w' : World σ} {err : ActionError} (met : w.conditionIn condition = .ok true)
      (ran : block.run.run s w = (some (.error err), w')) :
      Turns s condition block w [w] (.error err, w')

namespace Turns

variable {s : Surroundings σ} {condition : String} {block : Action Unit} {w : World σ}
  {starts : List (World σ)} {r : Except ActionError Unit × World σ}

/-- The condition holds wherever the block is started. -/
theorem holds_of_mem (h : Turns s condition block w starts r) :
    ∀ begun ∈ starts, begun.conditionIn condition = .ok true := by
  induction h with
  | exited => exact nofun
  | undecided => exact nofun
  | again met _ _ ih => exact List.forall_mem_cons.2 ⟨met, ih⟩
  | stopped met => exact List.forall_mem_cons.2 ⟨met, nofun⟩

/-- The condition does not hold at the end if all has succeeded. -/
theorem exits (h : Turns s condition block w starts r) (hr : r.1 = .ok ()) :
    r.2.conditionIn condition = .ok false := by
  induction h with
  | exited unmet => exact unmet
  | undecided => cases hr
  | again _ _ _ ih => exact ih hr
  | stopped => cases hr

/-- A failure is that of the condition at the end, or that of the block after its last start. -/
theorem fails (h : Turns s condition block w starts r) {err : ActionError} (hr : r.1 = .error err) :
    (∃ cause, r.2.conditionIn condition = .error cause ∧ err = .condition "while" cause) ∨
      ∃ begun, starts.getLast? = some begun ∧ block.run.run s begun = (some (.error err), r.2) := by
  induction h with
  | exited => cases hr
  | undecided failed =>
    cases hr
    exact .inl ⟨_, failed, rfl⟩
  | again _ _ _ ih =>
    rcases ih hr with hcondition | ⟨begun, hlast, hran⟩
    · exact .inl hcondition
    · refine .inr ⟨begun, ?_, hran⟩
      rw [List.getLast?_cons, hlast]
      rfl
  | stopped _ ran =>
    cases hr
    exact .inr ⟨_, rfl, ran⟩

/-- A failure is that of the condition at the end, or that of an action of the block, which was
performed after those before it had succeeded. -/
theorem fails_in_block {cx : Context} {actions : List ActionCall} {err : ActionError} {w' : World σ}
    (h : Turns s condition (cx.runBlock actions) w starts (.error err, w')) :
    (∃ cause, w'.conditionIn condition = .error cause ∧ err = .condition "while" cause) ∨
      ∃ begun before failing after w₂, starts.getLast? = some begun ∧
        actions = before ++ failing :: after ∧
        (cx.runBlock before).run.run s begun = (some (.ok ()), w₂) ∧
        (cx.perform failing).run.run s w₂ = (some (.error err), w') := by
  rcases h.fails rfl with hcause | ⟨begun, hlast, hran⟩
  · exact .inl hcause
  · obtain ⟨before, failing, after, w₂, hblock⟩ := Context.exists_of_runBlock_error hran
    exact .inr ⟨begun, before, failing, after, w₂, hlast, hblock⟩

end Turns

/-- A block leaves the condition as it was at its end. -/
theorem World.conditionIn_closed {condition line : String}
    {r : Option (Except ActionError Unit) × World σ} :
    (Action.closed line r).2.conditionIn condition = r.2.conditionIn condition :=
  congrArg (fun input ↦ Condition.holds condition (Action.bindingsOf input)) Action.input_closed

/-! ### Taking turns -/

namespace Action

variable {s : Surroundings σ} {w w' : World σ} {cx : Context} {actions : List ActionCall}
  {condition : String} {patience : Nat}

/-- Looking at a condition leads to what is to be done with what it says. -/
theorem leads_conditionHolds (s : Surroundings σ) (w : World σ) (action condition : String)
    (f : Bool → Action α) :
    (conditionHolds action condition >>= f).run.Leads s w
      (orFail (.condition action) (w.conditionIn condition) >>= f).run w :=
  .step (.refl _ _)

private theorem leads_of_met (met : w.conditionIn condition = .ok true) (patience : Nat) :
    (conditionRounds cx actions condition (patience + 1)).run.Leads s w
      (do
        cx.runBlock actions
        conditionRounds cx actions condition patience : Action Unit).run w := by
  refine (leads_conditionHolds s w "while" condition _).trans ?_
  rw [met]
  exact .refl _ _

private theorem leads_of_unmet (unmet : w.conditionIn condition = .ok false) (patience : Nat) :
    (conditionRounds cx actions condition (patience + 1)).run.Leads s w (.done (.ok ())) w := by
  refine (leads_conditionHolds s w "while" condition _).trans ?_
  rw [unmet]
  exact .refl _ _

private theorem leads_of_undecided {cause : ConditionError}
    (failed : w.conditionIn condition = .error cause) (patience : Nat) :
    (conditionRounds cx actions condition (patience + 1)).run.Leads s w
      (.done (.error (.condition "while" cause))) w := by
  refine (leads_conditionHolds s w "while" condition _).trans ?_
  rw [failed]
  exact .refl _ _

/-- A loop that is patient enough comes to what its turns come to. -/
theorem conditionRounds_of_turns {starts : List (World σ)} {r : Except ActionError Unit × World σ}
    (h : Turns s condition (cx.runBlock actions) w starts r) (hpatient : starts.length < patience) :
    (conditionRounds cx actions condition patience).run.run s w = (some r.1, r.2) := by
  induction h generalizing patience with
  | exited unmet =>
    obtain _ | patience := patience
    · cases hpatient
    · exact (leads_of_unmet unmet patience).run_eq
  | undecided failed =>
    obtain _ | patience := patience
    · cases hpatient
    · exact (leads_of_undecided failed patience).run_eq
  | again met ran _ ih =>
    obtain _ | patience := patience
    · cases hpatient
    · rw [(leads_of_met met patience).run_eq, run_bind_ok ran]
      exact ih (Nat.lt_of_succ_lt_succ hpatient)
  | stopped met ran =>
    obtain _ | patience := patience
    · cases hpatient
    · rw [(leads_of_met met patience).run_eq]
      exact run_bind_error ran

/-- A loop that comes to an end has taken its turns. -/
theorem exists_turns {o : Except ActionError Unit}
    (h : (conditionRounds cx actions condition patience).run.run s w = (some o, w')) :
    ∃ starts, starts.length ≤ patience ∧
      Turns s condition (cx.runBlock actions) w starts (o, w') := by
  induction patience generalizing w with
  | zero => cases h
  | succ patience ih =>
    cases hcondition : w.conditionIn condition with
    | error cause =>
      cases (leads_of_undecided hcondition patience).run_eq.symm.trans h
      exact ⟨[], Nat.zero_le _, .undecided hcondition⟩
    | ok holds =>
      cases holds with
      | false =>
        cases (leads_of_unmet hcondition patience).run_eq.symm.trans h
        exact ⟨[], Nat.zero_le _, .exited hcondition⟩
      | true =>
        rw [(leads_of_met hcondition patience).run_eq, run_bind] at h
        cases hblock : (cx.runBlock actions).run.run s w with
        | mk ended w₁ =>
          rw [hblock] at h
          rcases ended with _ | ⟨err | ⟨⟩⟩
          · cases h
          · cases h
            exact ⟨[w], Nat.succ_le_succ (Nat.zero_le _), .stopped hcondition hblock⟩
          · obtain ⟨starts, hpatient, hturns⟩ := ih h
            exact ⟨w :: starts, Nat.succ_le_succ hpatient, .again hcondition hblock hturns⟩

/-- A loop that is patient enough reaches each start of its block. -/
theorem reaches_of_turns {starts : List (World σ)} {r : Except ActionError Unit × World σ}
    (h : Turns s condition (cx.runBlock actions) w starts r) (hpatient : starts.length ≤ patience) :
    ∀ begun ∈ starts,
      Reaches s w (conditionRounds cx actions condition patience) (cx.runBlock actions) begun := by
  induction h generalizing patience with
  | exited => exact nofun
  | undecided => exact nofun
  | again met ran _ ih =>
    obtain _ | patience := patience
    · cases hpatient
    · refine List.forall_mem_cons.2 ⟨.of_leads (leads_of_met met patience) (.bind (.refl s _ _) _),
        fun begun hbegun ↦ .of_leads (leads_of_met met patience) (.after ran ?_)⟩
      exact ih (Nat.le_of_succ_le_succ hpatient) begun hbegun
  | stopped met ran =>
    obtain _ | patience := patience
    · cases hpatient
    · refine List.forall_mem_cons.2 ⟨?_, nofun⟩
      exact .of_leads (leads_of_met met patience) (.bind (.refl s _ _) _)

/-- The condition of an action is the one that is given, if it is accepted. -/
theorem conditionOf_eq {action : String} {ps : Members}
    (h : ps.text action "condition" = .ok condition) :
    conditionOf action ps =
      ((Condition.accept condition).map fun _ ↦ condition).mapError (.condition action) := by
  rw [conditionOf, h]
  dsimp only [bind, Except.bind]
  cases Condition.accept condition with
  | ok => rfl
  | error => rfl

/-- A loop whose condition is not accepted fails before it does anything. -/
theorem conditionLoop_of_refused {ps : Members}
    (hcondition : ps.text "while" "condition" = .ok condition) {cause : ConditionError}
    (hrefused : Condition.accept condition = .error cause) :
    conditionLoop cx ps = throw (.condition "while" cause) := by
  rw [conditionLoop, conditionOf_eq hcondition, hrefused]
  rfl

/-- A loop whose condition is accepted takes its turns. -/
theorem conditionLoop_of_accepted {ps : Members}
    (hcondition : ps.text "while" "condition" = .ok condition) {tree : Condition.Expr}
    (haccepted : Condition.accept condition = .ok tree)
    (hbody : ps.body "while" "actions" = .ok actions) :
    conditionLoop cx ps =
      showEnd ": End of while loop" (conditionRounds cx actions condition cx.patience) := by
  rw [conditionLoop, conditionOf_eq hcondition, haccepted, hbody]
  rfl

end Action

namespace Engine

/-- An action whose handler takes turns one block deeper comes to what the turns come to, and
reaches each start of the block. -/
theorem performWithin_turns {e : Engine} {s : Surroundings σ} {w w₁ w' : World σ}
    {call : ActionCall} {p : Prepared} {depth patience : Nat} {actions : List ActionCall}
    {condition line : String} {o : Except ActionError Unit}
    (hprepared : (e.prepare call).run.run s w = (some (.ok p), w₁))
    (hhandler : p.handler (e.context depth p) p.params = Action.showEnd line
      (Action.conditionRounds (e.context depth p) actions condition patience))
    (hrun : (e.performWithin (depth + 1) call).run.run s w = (some o, w')) :
    let block := (e.context depth p).runBlock actions
    ∃ starts w₂, Turns s condition block w₁.deeper starts (o, w₂) ∧
      (some o, w') = Action.closed line (some o, w₂) ∧
      ∀ begun ∈ starts, Action.Reaches s w (e.performWithin (depth + 1) call) block begun := by
  intro block
  obtain ⟨hclosed, hreaches⟩ := performWithin_showEnd hprepared (.of_eq (congrArg _ hhandler) w₁)
  rw [hclosed] at hrun
  obtain ⟨w₂, hrounds⟩ : ∃ w₂, (Action.conditionRounds (e.context depth p) actions condition
      patience).run.run s w₁.deeper = (some o, w₂) := by
    refine ⟨_, Prod.ext ?_ rfl⟩
    rw [← Action.closed_fst, hrun]
  obtain ⟨starts, hpatient, hturns⟩ := Action.exists_turns hrounds
  rw [hrounds] at hrun
  exact ⟨starts, w₂, hturns, hrun.symm, fun begun hbegun ↦
    hreaches _ _ (Action.reaches_of_turns hturns hpatient begun hbegun)⟩

/-- **A loop exits only when its condition does not hold.** The loop comes to an end with `o`, in
the world `w'`. If it succeeds, its condition does not hold there. Its block was started in the
worlds `starts`, in each of which the condition held. If it fails, then its condition was refused
before anything was done, or the condition could not be told from the value that was handed on last,
or an action of its block failed after those before it had succeeded; and the failure is this one.
How patient the loop is plays no part in it. -/
theorem conditionLoop_exits (e : Engine) (s : Surroundings σ)
    (hwhile : e.registry.get? "while" = some Action.conditionLoop) (depth : Nat) (call : ActionCall)
    (hname : call.name = "while") (w w₁ w' : World σ) (p : Prepared)
    (hprepared : (e.prepare call).run.run s w = (some (.ok p), w₁)) (condition : String)
    (hcondition : p.params.text "while" "condition" = .ok condition) (actions : List ActionCall)
    (hbody : p.params.body "while" "actions" = .ok actions) (o : Except ActionError Unit)
    (hrun : (e.performWithin (depth + 1) call).run.run s w = (some o, w')) :
    let cx := e.context depth p
    w.OnlyAnnounced "while" w₁ ∧ ∃ starts : List (World σ),
      (∀ begun ∈ starts, begun.conditionIn condition = .ok true ∧
        Action.Reaches s w (e.performWithin (depth + 1) call) (cx.runBlock actions) begun) ∧
      (o = .ok () → w'.conditionIn condition = .ok false) ∧
      (∀ err, o = .error err →
        (∃ cause, Condition.accept condition = .error cause ∧ err = .condition "while" cause ∧
          starts = [] ∧ w' = w₁) ∨
        (∃ cause, w'.conditionIn condition = .error cause ∧ err = .condition "while" cause) ∨
        ∃ begun before failing after w₂ w₃, starts.getLast? = some begun ∧
          actions = before ++ failing :: after ∧
          (cx.runBlock before).run.run s begun = (some (.ok ()), w₂) ∧
          (e.performWithin depth failing).run.run s w₂ = (some (.error err), w₃) ∧
          w' = w₃.shallower) ∧
      (Condition.isValid condition = true → ∃ r,
        Turns s condition (cx.runBlock actions) w₁.deeper starts r ∧
        (some o, w') = Action.closed ": End of while loop" (some r.1, r.2) ∧
        ∀ patience, starts.length < patience →
          (Action.conditionRounds cx actions condition patience).run.run s w₁.deeper =
            (some r.1, r.2)) := by
  intro cx
  obtain ⟨-, hget, hannounced⟩ := announced_of_prepared hprepared
  rw [hname] at hget hannounced
  have hhandler : p.handler = Action.conditionLoop := Option.some.inj (hget.symm.trans hwhile)
  refine ⟨hannounced, ?_⟩
  cases haccept : Condition.accept condition with
  | error cause =>
    rw [performWithin_of_prepared hprepared depth, hhandler,
      Action.conditionLoop_of_refused hcondition haccept] at hrun
    cases hrun
    have hinvalid : Condition.isValid condition = false := by rw [Condition.isValid, haccept]
    refine ⟨[], nofun, nofun, fun err herr ↦ ?_, fun hvalid ↦ ?_⟩
    · cases herr
      exact .inl ⟨cause, rfl, rfl, rfl, rfl⟩
    · rw [hinvalid] at hvalid
      cases hvalid
  | ok tree =>
    obtain ⟨starts, w₂, hturns, hclosed, hreaches⟩ := performWithin_turns hprepared
      (hhandler ▸ Action.conditionLoop_of_accepted hcondition haccept hbody) hrun
    have hend : w'.conditionIn condition = w₂.conditionIn condition :=
      (congrArg (fun r ↦ r.2.conditionIn condition) hclosed).trans World.conditionIn_closed
    refine ⟨starts, fun begun hbegun ↦ ⟨hturns.holds_of_mem begun hbegun, hreaches begun hbegun⟩,
      fun ho ↦ hend.trans (hturns.exits ho), fun err herr ↦ .inr ?_, fun _ ↦ ⟨_, hturns, hclosed,
        fun patience hpatient ↦ Action.conditionRounds_of_turns hturns hpatient⟩⟩
    subst herr
    rw [hend]
    rcases hturns.fails_in_block with hcause | ⟨begun, before, failing, after, w₃, hblock⟩
    · exact .inl hcause
    · obtain ⟨hlast, hactions, hbefore, hfails⟩ := hblock
      exact .inr ⟨begun, before, failing, after, w₃, w₂, hlast, hactions, hbefore, hfails,
        congrArg Prod.snd hclosed⟩

/-- The value that was handed on counts as true until the block of a loop empties it. -/
theorem conditionLoop_exits_emptied :
    let e : Engine := { registry := Action.builtinRegistry }
    let c : Members := [("key", .str "INPUT"), ("value", .str "")]
    let call : ActionCall := ⟨"while", some [("condition", .str "INPUT"), ("actions", .arr
      [.obj [("name", .str "setVariable"), ("params", .obj c)]])], true⟩
    let w : World Rehearsal := { store := ({} : Store).put "INPUT" (.str "go"), rest := {} }
    let w₁ := (w.showing "Running action : while").putting Key.params (.obj call.paramsOrEmpty)
    let performed := (e.performWithin 2 call).run.run Rehearsal.surroundings w
    (∃ cx starts r, Turns Rehearsal.surroundings "INPUT"
      (Context.runBlock cx [⟨"setVariable", some c, true⟩]) w₁.deeper starts r ∧
      performed = Action.closed ": End of while loop" (some r.1, r.2)) ∧
    performed.1 = some (.ok ()) ∧ performed.2.conditionIn "INPUT" = .ok false ∧
    performed.2.lines = #["Running action : while", "  Running action : setVariable",
      "  : Setting variable INPUT", ": End of while loop"] := by
  intro e c call w w₁ performed
  have hresolved : call.resolvedIn w.store = call.paramsOrEmpty :=
    congrArg (fun v ↦ ("condition", v) :: call.paramsOrEmpty.tail)
      (Placeholder.resolveText_eq_self rfl)
  have hprepared : (e.prepare call).run.run Rehearsal.surroundings w =
      (some (.ok ⟨Action.conditionLoop, call.paramsOrEmpty, none⟩), w₁) := by
    rw [run_prepare, hresolved]
    rfl
  have hsucceeds : performed.1 = some (.ok ()) := by
    have hends : performed.1.any Except.isOk = true := by decide +kernel
    revert hends
    rcases performed.1 with _ | ⟨_ | ⟨⟩⟩
    · exact nofun
    · exact nofun
    · exact fun _ ↦ rfl
  have hperformed : performed = (some (.ok ()), performed.2) := Prod.ext hsucceeds rfl
  obtain ⟨-, starts, -, hexits, -, hturns⟩ := conditionLoop_exits e Rehearsal.surroundings rfl 1
    call rfl w w₁ performed.2 _ hprepared "INPUT" rfl [⟨"setVariable", some c, true⟩] rfl (.ok ())
    hperformed
  obtain ⟨r, hturns, hclosed, -⟩ := hturns (by decide +kernel)
  exact ⟨⟨_, starts, r, hturns, hperformed.trans hclosed⟩, hsucceeds, hexits rfl, by decide +kernel⟩

end Engine
end WebRecipe
