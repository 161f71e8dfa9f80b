import WebRecipe.Action.Values
import WebRecipe.Action.Variables
import WebRecipe.Proofs.Routine.Footprint

/-!
# Actions on values and on variables

Actions on values hand on a value at most. Actions on variables write under the names that they are
told, whatever these are; reading a variable only hands it on.

## Main definitions

* `variableActions`: the names of the actions on variables.

## Main results

* `Action.random_within`, `Action.setVariable_within`, …: one statement for each action.
-/

namespace WebRecipe

/-- The actions on variables, which put or remove what they are told to. -/
def variableActions : List String :=
  ["setVariable", "getVariable", "deleteVariable", "transferVariable", "appendToVariable",
    "countStart", "countIncrement", "countDecrement"]

namespace Action

variable {σ : Type} {s : Surroundings σ} {f : Footprint}

open Action.Within

/-! ### Values -/

theorem sleep_within : Handler.Within .handing sleep := by
  intro σ s cx ps
  exact .bind (.display (by simp)) fun _ _ ↦ .free rfl rfl rfl rfl

theorem log_within : Handler.Within .handing log := by
  intro σ s cx ps
  exact .bind .text fun message _ ↦ .display (by simp)

theorem sanitizeString_within : Handler.Within .handing sanitizeString := by
  intro σ s cx ps
  exact .bind .text fun text _ ↦ .put rfl

theorem replaceString_within : Handler.Within .handing replaceString := by
  intro σ s cx ps
  refine .bind .text fun text _ ↦ ?_
  refine .bind .text fun search _ ↦ ?_
  refine .bind .text fun replacement _ ↦ ?_
  exact .put rfl

private theorem readPattern_within {action source : String} :
    Within s f.Covers ActionError.IsOwn (ofExcept (readPattern action source)) (fun _ ↦ True) := by
  refine (.ofExcept fun e he ↦ ?_ : Within s _ _ _ _).mono fun _ _ ↦ trivial
  rw [readPattern] at he
  cases hread : Pattern.read source with
  | ok pattern => rw [hread] at he; cases he
  | error cause => rw [hread] at he; cases he; trivial

theorem matchFromString_within : Handler.Within .handing matchFromString := by
  intro σ s cx ps
  refine .bind .text fun text _ ↦ ?_
  refine .bind .text fun source _ ↦ ?_
  refine .bind readPattern_within fun pattern _ ↦ ?_
  exact .put rfl

theorem matchFromSelector_within : Handler.Within .handing matchFromSelector := by
  intro σ s cx ps
  refine .bind .text fun selector _ ↦ ?_
  refine .bind .text fun source _ ↦ ?_
  refine .bind readPattern_within fun pattern _ ↦ ?_
  refine .bind .needPage fun page _ ↦ ?_
  refine .bind (.free rfl rfl rfl rfl) fun found _ ↦ ?_
  split
  · exact .put rfl
  · exact .bind (.display (by simp)) fun _ _ ↦ .put rfl

theorem random_within : Handler.Within .handing random := by
  intro σ s cx ps
  refine .bind (.display (by simp)) fun _ _ ↦ ?_
  refine .bind (.free rfl rfl rfl rfl) fun roll _ ↦ ?_
  exact .put rfl

theorem uuid_within : Handler.Within .handing uuid := by
  intro σ s cx ps
  refine .bind (.free rfl rfl rfl rfl) fun id _ ↦ ?_
  refine .bind (.put rfl) fun _ _ ↦ ?_
  exact .display (by simp)

theorem getExtension_within : Handler.Within .handing getExtension := by
  intro σ s cx ps
  exact .bind .text fun text _ ↦ .put rfl

theorem userInput_within : Handler.Within .handing userInput := by
  intro σ s cx ps
  refine .bind .text fun query _ ↦ ?_
  refine .bind (.free rfl rfl rfl rfl) fun depth _ ↦ ?_
  refine .bind (.free rfl rfl rfl rfl) fun reply _ ↦ ?_
  refine .bind (.orFail fun _ ↦ trivial) fun answer _ ↦ ?_
  exact .put rfl

/-! ### Variables -/

private theorem learn_within {key : String} (h : f.writes key) (v : Option Json) :
    Within s f.Covers ActionError.IsOwn (learn key v) (fun _ ↦ True) := by
  cases v with
  | some v => exact .put h
  | none => exact .bind (.access rfl rfl h) fun _ _ ↦ .pure trivial

theorem setVariable_within : Handler.Within .storing setVariable := by
  intro σ s cx ps
  refine .bind .text fun key _ ↦ ?_
  exact .bind (.display (by simp)) fun _ _ ↦ learn_within trivial _

theorem getVariable_within : Handler.Within .handing getVariable := by
  intro σ s cx ps
  refine .bind .text fun key _ ↦ ?_
  refine .bind (.display (by simp)) fun _ _ ↦ ?_
  refine .bind (.free rfl rfl rfl rfl) fun value _ ↦ ?_
  split
  · exact learn_within rfl _
  · exact learn_within rfl _

theorem deleteVariable_within : Handler.Within .storing deleteVariable := by
  intro σ s cx ps
  refine .bind .text fun key _ ↦ ?_
  refine .bind (.display (by simp)) fun _ _ ↦ ?_
  exact .bind (.access rfl rfl trivial) fun _ _ ↦ .pure trivial

private theorem memberOf_within {source field : String} {v : Option Json} :
    Within s f.Covers ActionError.IsOwn (ofExcept (memberOf source field v)) (fun _ ↦ True) := by
  refine (.ofExcept fun e he ↦ ?_ : Within s _ _ _ _).mono fun _ _ ↦ trivial
  rw [memberOf.eq_def] at he
  split at he
  · split at he
    · cases he
    · cases he
      trivial
  · cases he
  · cases he

theorem transferVariable_within : Handler.Within .storing transferVariable := by
  intro σ s cx ps
  refine .bind .text fun source _ ↦ ?_
  refine .bind .text fun target _ ↦ ?_
  refine .bind (.display (by simp)) fun _ _ ↦ ?_
  refine .bind (.free rfl rfl rfl rfl) fun value _ ↦ ?_
  split
  · exact learn_within trivial _
  · exact .bind memberOf_within fun member _ ↦ learn_within trivial _
  · exact learn_within trivial _

theorem appendToVariable_within : Handler.Within .storing appendToVariable := by
  intro σ s cx ps
  refine .bind .text fun key _ ↦ ?_
  exact .bind (.display (by simp)) fun _ _ ↦ .access rfl rfl trivial

theorem countStart_within : Handler.Within .storing countStart := by
  intro σ s cx ps
  refine .bind .text fun key _ ↦ ?_
  exact .bind (.display (by simp)) fun _ _ ↦ .put trivial

private theorem addToCounter_within {action key : String} {difference : Float}
    (h : f.writes key) :
    Within s f.Covers ActionError.IsOwn (addToCounter action key difference) (fun _ ↦ True) := by
  refine .bind (.free rfl rfl rfl rfl) fun value _ ↦ ?_
  split
  · exact .throw trivial
  · exact .bind (.put h) fun _ _ ↦ .pure trivial

theorem countIncrement_within : Handler.Within .storing countIncrement := by
  intro σ s cx ps
  refine .bind .text fun key _ ↦ ?_
  exact .bind (addToCounter_within trivial) fun count _ ↦ .display (by simp)

theorem countDecrement_within : Handler.Within .storing countDecrement := by
  intro σ s cx ps
  refine .bind .text fun key _ ↦ ?_
  exact .bind (addToCounter_within trivial) fun count _ ↦ .display (by simp)

end Action
end WebRecipe
