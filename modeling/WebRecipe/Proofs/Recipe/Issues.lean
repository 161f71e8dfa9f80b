import Mathlib
import WebRecipe.Action.Builtin
import WebRecipe.Proofs.Recipe.Accepted
import WebRecipe.Proofs.Schema.Projection

/-!
# What the check of a recipe reports

The check of a recipe goes through its actions and reports for each of them what a run would say of
its parameters, except where these are still templates. A run reports a place as a text, and the
check looks for the parameter in this text: it is what stands before the first point. As no declared
parameter has a point in its name, this is the first step of the place, so a template excuses what
is broken at or below it and nothing else. Only the parameters as a whole have no first step. Their
place is the empty text, which is also the place of a parameter whose name is empty.

Rules are therefore kept here with their places as lists of steps, and the check is compared with a
run on these. What is reported for the whole recipe comes from this by going through the actions,
which stand at places of which none occurs twice.

## Main definitions

* `Schema.Violation`, `Schema.brokenRules`: a broken rule with its place, and those that the
  parameters of an action break.
* `Schema.Violation.isExcused`: a rule is broken at or below a template.
* `Schema.LookedAt`: an action of a document that is looked at.

## Main results

* `Schema.map_issue_violations`: the issues of a value are the rules that it breaks.
* `Schema.validate_of_brokenRules`, `Schema.paramIssues_eq`: what a run and the check say of the
  parameters of an action.
* `Schema.checkRecipe_reports`: what the check reports.
-/

namespace WebRecipe

/-! ### Places -/

namespace Issue

theorem joinPath_empty_left (a : String) : joinPath "" a = a := rfl

theorem joinPath_empty_right (a : String) : joinPath a "" = a := by
  rw [joinPath]
  split
  case isTrue h => exact (String.isEmpty_iff.1 h).symm
  case isFalse => rfl

theorem joinPath_of_ne {a b : String} (ha : a ≠ "") (hb : b ≠ "") :
    joinPath a b = a ++ "." ++ b := by
  rw [joinPath, if_neg (by simpa using ha), if_neg (by simpa using hb)]

theorem joinPath_ne_empty {a : String} (ha : a ≠ "") (b : String) : joinPath a b ≠ "" := by
  by_cases hb : b = ""
  · rwa [hb, joinPath_empty_right]
  · rw [joinPath_of_ne ha hb]
    simp

theorem joinPath_assoc (a b c : String) :
    joinPath (joinPath a b) c = joinPath a (joinPath b c) := by
  by_cases ha : a = ""
  · rw [ha, joinPath_empty_left, joinPath_empty_left]
  by_cases hb : b = ""
  · rw [hb, joinPath_empty_right, joinPath_empty_left]
  by_cases hc : c = ""
  · rw [hc, joinPath_empty_right, joinPath_empty_right]
  rw [joinPath_of_ne (joinPath_ne_empty ha b) hc, joinPath_of_ne ha hb, joinPath_of_ne hb hc,
    joinPath_of_ne ha (by simp)]
  simp only [String.append_assoc]

end Issue

namespace Schema

/-- The text of a place: the steps that lead to it. -/
def placeText (place : List String) : String :=
  place.foldr Issue.joinPath ""

theorem placeText_append (place rest : List String) :
    placeText (place ++ rest) = Issue.joinPath (placeText place) (placeText rest) := by
  induction place with
  | nil => rfl
  | cons step place ih =>
    rw [List.cons_append, placeText, List.foldr_cons, ← placeText, ih, ← Issue.joinPath_assoc]
    rfl

/-- A broken rule, the place where it is broken, and what is said about it. -/
structure Violation where
  place : List String
  message : String
  deriving DecidableEq

namespace Violation

/-- The violation inside a further step. -/
def below (step : String) (v : Violation) : Violation :=
  { v with place := step :: v.place }

/-- The violation with its place as a text. -/
def issue (v : Violation) : Issue :=
  ⟨placeText v.place, v.message⟩

end Violation

/-- Issues of a whole value, as violations. -/
def here (issues : List Issue) : List Violation :=
  issues.map fun i ↦ ⟨[], i.message⟩

mutual

/-- The rules of a schema that a value breaks, with their places. -/
def violations : Schema → Json → List Violation
  | object properties required missingFirst, .obj ms =>
    if missingFirst then here (missingIssues required ms) ++ propertyViolations properties ms
    else propertyViolations properties ms ++ here (missingIssues required ms)
  | array minItems item, .arr items =>
    here (sizeIssue minItems items) ++
      items.zipIdx.flatMap fun (w, i) ↦ (violations item w).map (.below (toString i))
  | s, v => here (s.check v)

/-- The rules that the declared properties of an object break. -/
def propertyViolations : List (String × Schema) → Members → List Violation
  | [], _ => []
  | (key, s) :: rest, ms =>
    (match Members.get? ms key with
      | some v => (violations s v).map (.below key)
      | none => []) ++ propertyViolations rest ms

end

/-- All issues are about the whole value. -/
private def Whole (issues : List Issue) : Prop :=
  ∀ i ∈ issues, i.path = ""

namespace Whole

private theorem nil : Whole [] := nofun

private theorem single (message : String) : Whole [⟨"", message⟩] :=
  List.forall_mem_singleton.2 rfl

private theorem append {a b : List Issue} (ha : Whole a) (hb : Whole b) : Whole (a ++ b) :=
  List.forall_mem_append.2 ⟨ha, hb⟩

private theorem ite {c : Prop} [Decidable c] {a b : List Issue} (ha : Whole a) (hb : Whole b) :
    Whole (if c then a else b) := by
  split
  · exact ha
  · exact hb

private theorem missingIssues (required : List String) (ms : Members) :
    Whole (missingIssues required ms) := by
  intro i hi
  obtain ⟨key, -, rfl⟩ := List.mem_map.1 hi
  rfl

private theorem sizeIssue (minItems : Nat) (items : List Json) : Whole (sizeIssue minItems items) :=
  .ite (.single _) .nil

/-- The issues of a value that is not looked into. -/
private theorem check {s : Schema} {v : Json}
    (hobject : ∀ properties required missingFirst ms,
      s = object properties required missingFirst → v = .obj ms → False)
    (harray : ∀ minItems item items, s = array minItems item → v = .arr items → False) :
    Whole (s.check v) := by
  have hlength (n : Nat) (t : String) : Whole (lengthIssue n t) := .ite (.single _) .nil
  cases s with
  | any => exact nil
  | text n =>
    cases v with
    | str t => exact hlength n t
    | _ => exact single _
  | name =>
    cases v with
    | str t => exact (hlength 1 t).append (.ite .nil (.single _))
    | _ => exact single _
  | choice options =>
    have hchoice : Whole (choiceIssue options v) := .ite .nil (.single _)
    cases v with
    | str t => exact nil.append hchoice
    | _ => exact (single _).append hchoice
  | boolean =>
    cases v with
    | bool b => exact nil
    | _ => exact single _
  | number => exact .ite .nil (.single _)
  | integer least greatest default =>
    have hleast : Whole (leastIssue v least) := by
      cases least with
      | none => exact nil
      | some n => exact .ite (.single _) .nil
    have hgreatest : Whole (greatestIssue v greatest) := by
      cases greatest with
      | none => exact nil
      | some n => exact .ite (.single _) .nil
    rw [Schema.check]
    exact ((Whole.ite .nil (.single _)).append hleast).append hgreatest
  | object properties required missingFirst =>
    cases v with
    | obj ms => exact (hobject _ _ _ _ rfl rfl).elim
    | _ => exact single _
  | array minItems item =>
    cases v with
    | arr items => exact (harray _ _ _ rfl rfl).elim
    | _ => exact single _

private theorem map_issue {issues : List Issue} (h : Whole issues) :
    (here issues).map Violation.issue = issues := by
  rw [here, List.map_map]
  refine (List.map_congr_left fun i hi ↦ ?_).trans issues.map_id
  rw [Function.comp_apply, Violation.issue, show placeText [] = "" from rfl, ← h i hi]
  rfl

end Whole

private theorem map_issue_below (step : String) (vs : List Violation) :
    (vs.map (.below step)).map Violation.issue =
      (vs.map Violation.issue).map (Issue.under step) := by
  rw [List.map_map, List.map_map]
  rfl

/-- The issues of a value are the rules that it breaks, with their places as texts. -/
theorem map_issue_violations (s : Schema) (v : Json) :
    (violations s v).map Violation.issue = s.check v := by
  refine violations.induct (fun s v ↦ (violations s v).map Violation.issue = s.check v)
    (fun properties ms ↦
      (propertyViolations properties ms).map Violation.issue = checkProperties properties ms)
    ?first ?last ?array ?whole ?nil ?cons s v
  case first =>
    intro properties required ms ih
    rw [violations, check, if_pos rfl, if_pos rfl, List.map_append, ih,
      (Whole.missingIssues required ms).map_issue]
  case last =>
    intro properties required missingFirst ms hlast ih
    rw [violations, check, if_neg hlast, if_neg hlast, List.map_append, ih,
      (Whole.missingIssues required ms).map_issue]
  case array =>
    intro minItems item items ih
    rw [violations, check, List.map_append, (Whole.sizeIssue minItems items).map_issue,
      List.map_flatMap]
    simp only [map_issue_below, ih]
  case whole =>
    intro s v hobject harray
    rw [violations, (Whole.check hobject harray).map_issue]
    exacts [hobject, harray]
  case nil => exact fun ms ↦ rfl
  case cons =>
    intro key s rest ms ih ihrest
    rw [propertyViolations, checkProperties, List.map_append, ihrest]
    cases Members.get? ms key with
    | none => rfl
    | some v =>
      dsimp only
      rw [map_issue_below, ih]

/-! ### The parameter of a place -/

/-- What is broken in an object is broken at the object itself or in a declared property. -/
theorem head?_of_mem_violations {s : Schema} {ms : Members} {v : Violation}
    (h : v ∈ violations s (.obj ms)) :
    v.place = [] ∨ ∃ p ∈ s.properties, v.place.head? = some p.1 := by
  have hhere {issues : List Issue} (hv : v ∈ here issues) : v.place = [] := by
    obtain ⟨i, -, rfl⟩ := List.mem_map.1 hv
    rfl
  have hproperties {properties : List (String × Schema)}
      (hv : v ∈ propertyViolations properties ms) :
      ∃ p ∈ properties, v.place.head? = some p.1 := by
    induction properties with
    | nil => cases hv
    | cons p rest ih =>
      rw [propertyViolations, List.mem_append] at hv
      rcases hv with hv | hv
      · split at hv
        · obtain ⟨w, -, rfl⟩ := List.mem_map.1 hv
          exact ⟨p, List.mem_cons_self, rfl⟩
        · cases hv
      · obtain ⟨q, hq, hhead⟩ := ih hv
        exact ⟨q, List.mem_cons_of_mem _ hq, hhead⟩
  cases s with
  | object properties required missingFirst =>
    rw [violations] at h
    split at h
    · exact (List.mem_append.1 h).imp hhere hproperties
    · exact (List.mem_append.1 h).symm.imp hhere hproperties
  | _ => exact .inl (hhere h)

/-- The names of the declared parameters are steps of a place that can be told from its text. -/
theorem declared_plain {action : String} {s : Schema} (hs : ofAction? action = some s)
    {p : String × Schema} (hp : p ∈ s.properties) : p.1 ≠ "" ∧ '.' ∉ p.1.toList := by
  have hall : ∀ a ∈ actions, ∀ q ∈ a.2.properties, q.1 ≠ "" ∧ '.' ∉ q.1.toList := by
    decide +kernel
  obtain ⟨before, after, hactions, -⟩ := List.lookup_eq_some_iff.1 hs
  exact hall (action, s) (by rw [hactions]; simp) p hp

/-- The first field of the text of a place is the first step. -/
theorem firstField_placeText {key : String} (hne : key ≠ "") (hkey : '.' ∉ key.toList)
    (rest : List String) : firstField (placeText (key :: rest)) = key := by
  have hall : ∀ c ∈ key.toList, (c != '.') = true := by
    intro c hc
    rw [bne_iff_ne]
    rintro rfl
    exact hkey hc
  rw [placeText, List.foldr_cons, ← placeText, firstField]
  by_cases hrest : placeText rest = ""
  · rw [hrest, Issue.joinPath_empty_right, List.takeWhile_eq_self_iff.2 hall, String.ofList_toList]
  · rw [Issue.joinPath_of_ne hne hrest, String.append_assoc, String.toList_append,
      List.takeWhile_append_of_pos hall, String.toList_append]
    simp

/-! ### Parameters before and at a run -/

/-- The rules that the parameters of an action break, with their places. -/
def brokenRules (action : String) (ps : Members) : List Violation :=
  match ofAction? action with
  | none => []
  | some s =>
    violations s (.obj ps) ++
      (urlIssues action ps (fun _ ↦ false)).map fun i ↦ ⟨[i.path], i.message⟩

/-- A rule is broken at or below a parameter that is a template. -/
def Violation.isExcused (ps : Members) (v : Violation) : Bool :=
  match v.place with
  | [] => false
  | key :: _ => isTemplated ps key

/-- The issue of an action at a place for a rule that its parameters break. -/
def Violation.report (action : String) (place : List String) (v : Violation) : Issue :=
  ⟨placeText (place ++ "params" :: v.place), "Action \"" ++ action ++ "\" - " ++ v.message⟩

private theorem issue_of_path (i : Issue) : Violation.issue ⟨[i.path], i.message⟩ = i := by
  show (⟨Issue.joinPath i.path "", i.message⟩ : Issue) = i
  rw [Issue.joinPath_empty_right]

private theorem map_issue_brokenRules {action : String} {s : Schema}
    (hs : ofAction? action = some s) (ps : Members) :
    (brokenRules action ps).map Violation.issue =
      s.check (.obj ps) ++ urlIssues action ps (fun _ ↦ false) := by
  rw [brokenRules, hs, List.map_append, map_issue_violations, List.map_map]
  congr 1
  exact (List.map_congr_left fun i _ ↦ issue_of_path i).trans (List.map_id _)

/-- A parameter that is required and missing is a rule that the parameters break as a whole. -/
theorem mem_brokenRules_of_missing {action : String} {s : Schema} (hs : ofAction? action = some s)
    {ps : Members} {key : String} (hkey : key ∈ s.requiredKeys) (hmissing : ps.has key = false) :
    ⟨[], Json.quote key ++ " is a required property"⟩ ∈ brokenRules action ps := by
  rw [brokenRules, hs]
  refine List.mem_append_left _ ?_
  cases s with
  | object properties required missingFirst =>
    have hissue : (⟨[], Json.quote key ++ " is a required property"⟩ : Violation) ∈
        here (missingIssues required ps) := by
      refine List.mem_map.2 ⟨_, List.mem_map_of_mem (List.mem_filter.2 ⟨hkey, ?_⟩), rfl⟩
      rw [hmissing]
      rfl
    rw [violations]
    split
    · exact List.mem_append_left _ hissue
    · exact List.mem_append_right _ hissue
  | _ => cases hkey

/-- At a run all broken rules are reported. -/
theorem validate_of_brokenRules (action : String) (ps : Members) :
    (brokenRules action ps = [] → ∃ qs, validate action ps = .ok qs) ∧
      (brokenRules action ps ≠ [] → validate action ps = .error (.invalidParams action
        (Issue.lines ((brokenRules action ps).map fun v ↦ v.issue.nameRoot "params")))) := by
  cases hs : ofAction? action with
  | none =>
    rw [brokenRules, validate, hs]
    exact ⟨fun _ ↦ ⟨ps, rfl⟩, fun h ↦ absurd rfl h⟩
  | some s =>
    have hissues := map_issue_brokenRules hs ps
    rw [validate, hs]
    dsimp only
    rw [← hissues]
    constructor
    · intro h
      rw [h]
      exact ⟨_, rfl⟩
    · intro h
      rw [if_neg (by simpa using h), List.map_map]
      rfl

/-- Of the parameters that must be URLs those that are passed over are left out. -/
private theorem urlIssues_eq_filter (action : String) (ps : Members) (passOver : String → Bool) :
    urlIssues action ps passOver =
      (urlIssues action ps (fun _ ↦ false)).filter fun i ↦ !passOver i.path := by
  rw [urlIssues, urlIssues, List.filter_filterMap, List.filterMap_filter, List.filterMap_filter]
  refine List.filterMap_congr fun key _ ↦ ?_
  cases hover : passOver key <;> cases (ps.get? key).bind Json.asStr? with
  | none => rfl
  | some raw =>
    cases hurl : (Url.parse? raw).isSome <;> simp [hurl, hover, Option.filter]

/-- Before a run a broken rule is left out when its place begins with a template; a rule that is
broken by the parameters as a whole counts as one of the parameter without a name. -/
theorem paramIssues_eq (action : String) (ps : Members) (place : List String) :
    paramIssues action ps (placeText (place ++ ["params"])) =
      ((brokenRules action ps).filter fun v ↦ !isTemplated ps (v.place.headD "")).map
        (Violation.report action place) := by
  have hreport (v : Violation) :
      ofAction action (placeText (place ++ ["params"])) v.issue = v.report action place := by
    have hplace : placeText (place ++ "params" :: v.place) =
        Issue.joinPath (placeText (place ++ ["params"])) (placeText v.place) := by
      rw [← placeText_append, List.append_assoc]
      rfl
    rw [Violation.report, hplace]
    rfl
  cases hs : ofAction? action with
  | none =>
    rw [paramIssues, brokenRules, hs]
    rfl
  | some s =>
    rw [paramIssues, brokenRules, hs]
    dsimp only
    rw [List.filter_append, List.map_append, List.map_append]
    congr 1
    · rw [← map_issue_violations, List.filter_map, List.map_map]
      refine (congrArg (List.map _) (List.filter_congr fun v hv ↦ ?_)).trans
        (List.map_congr_left fun v _ ↦ hreport v)
      rw [Function.comp_apply, Violation.issue]
      rcases head?_of_mem_violations hv with hplace | ⟨p, hp, hhead⟩
      · rw [hplace]
        rfl
      · -- the name of the parameter has no point, so the text of the place begins with it
        obtain ⟨hne, hplain⟩ := declared_plain hs hp
        obtain ⟨rest, hplace⟩ := List.head?_eq_some_iff.1 hhead
        rw [hplace, firstField_placeText hne hplain]
        rfl
    · rw [urlIssues_eq_filter, List.filter_map, List.map_map]
      refine List.map_congr_left fun i _ ↦ ?_
      rw [Function.comp_apply, ← hreport, issue_of_path]

/-! ### The actions that are looked at -/

section Sites

variable (isRegistered : String → Bool)

/-- A value that stands as an action at a place of a document. -/
abbrev Site := List String × Json

/-- An action is nested in a registered action: it stands in a list among the parameters. -/
inductive Nests : Site → Site → Prop
  | intro {place : List String} {v w : Json} {action key : String} {ps : Members}
      {items : List Json} {i : Nat} (hname : v.getStr? "name" = some action)
      (registered : isRegistered action = true)
      (hparams : v.get? "params" = some (.obj ps)) (hkey : key ∈ bodyParams)
      (hitems : ps.get? key = some (.arr items)) (hitem : items[i]? = some w) :
      Nests (place, v) (place ++ ["params", key, toString i], w)

/-- An action of a document that is looked at: one of its list, or one that is nested in such an
action. -/
inductive LookedAt (document : Json) (site : Site) : Prop
  | intro {items : List Json} {i : Nat} {v : Json}
      (hitems : document.get? "actions" = some (.arr items)) (hitem : items[i]? = some v)
      (hnested : Relation.ReflTransGen (Nests isRegistered) (["actions", toString i], v) site)

/-- The issues of an action itself, apart from those of the actions nested in it. -/
def ownIssues (site : Site) : List Issue :=
  match site.2.getStr? "name" with
  | none => [⟨placeText (site.1 ++ ["name"]), "Action name is required"⟩]
  | some action =>
    if isRegistered action then
      match (site.2.get? "params").bind Json.asObj? with
      | some ps => paramIssues action ps (placeText (site.1 ++ ["params"]))
      | none => []
    else [⟨placeText (site.1 ++ ["name"]), "Unknown action: \"" ++ action ++ "\""⟩]

variable {isRegistered}

/-- The actions in a parameter of an action, if it is looked into. -/
private def bodyItems (isRegistered : String → Bool) (v : Json) (key : String) : List Json :=
  match v.getStr? "name" with
  | none => []
  | some action =>
    if isRegistered action then
      (((v.get? "params").bind Json.asObj?).bind fun ps ↦
        (Members.get? ps key).bind Json.asArr?).getD []
    else []

/-- A site in the list that a parameter of an action holds. -/
private def InBody (isRegistered : String → Bool) (place : List String) (v : Json) (key : String)
    (site : Site) : Prop :=
  ∃ (i : Nat) (w : Json), (bodyItems isRegistered v key)[i]? = some w ∧
    site = (place ++ ["params", key, toString i], w)

private theorem nests_iff {place : List String} {v : Json} {site : Site} :
    Nests isRegistered (place, v) site ↔
      InBody isRegistered place v "actions" site ∨
        InBody isRegistered place v "elseActions" site := by
  constructor
  · intro h
    cases h with
    | @intro _ _ w action key ps items i hname registered hparams hkey hitems hitem =>
      have hbody : bodyItems isRegistered v key = items := by
        rw [bodyItems, hname]
        dsimp only
        rw [if_pos registered, hparams]
        simp only [Option.bind_some, Json.asObj?, hitems, Json.asArr?, Option.getD_some]
      have hin : InBody isRegistered place v key (place ++ ["params", key, toString i], w) :=
        ⟨i, w, by rw [hbody, hitem], rfl⟩
      rcases List.mem_pair.1 hkey with rfl | rfl
      · exact .inl hin
      · exact .inr hin
  · intro h
    obtain ⟨key, hkey, i, w, hitem, rfl⟩ :
        ∃ key ∈ bodyParams, InBody isRegistered place v key site := by
      rcases h with h | h
      · exact ⟨"actions", by decide, h⟩
      · exact ⟨"elseActions", by decide, h⟩
    rw [bodyItems] at hitem
    split at hitem
    · cases hitem
    case h_2 action hname =>
      split at hitem
      case isFalse => cases hitem
      case isTrue registered =>
        cases hbody : ((v.get? "params").bind Json.asObj?).bind fun ps ↦
            (Members.get? ps key).bind Json.asArr? with
        | none =>
          rw [hbody] at hitem
          cases hitem
        | some items =>
          rw [hbody] at hitem
          obtain ⟨ps, hps, hitems⟩ := Option.bind_eq_some_iff.1 hbody
          obtain ⟨u, hparams, hobj⟩ := Option.bind_eq_some_iff.1 hps
          obtain ⟨u', hget, harr⟩ := Option.bind_eq_some_iff.1 hitems
          rw [Json.asObj?_eq_some_iff.1 hobj] at hparams
          obtain rfl : u' = .arr items := by
            cases u' <;> cases harr
            rfl
          exact .intro hname registered hparams hkey hget hitem

private theorem paramsOf_eq (action path : String) (ms : Members) :
    paramsOf isRegistered action path ms =
      match (Members.get? ms "params").bind Json.asObj? with
      | some ps =>
        paramIssues action ps path ++ nestedIn isRegistered "actions" path ps ++
          nestedIn isRegistered "elseActions" path ps
      | none => [] := by
  induction ms with
  | nil => rfl
  | cons m rest ih =>
    obtain ⟨key, v⟩ := m
    rw [Members.get?, List.lookup_cons]
    by_cases hkey : key = "params"
    · subst hkey
      rw [paramsOf.eq_def]
      refine (if_pos rfl).trans ?_
      cases v <;> rfl
    · rw [beq_eq_false_iff_ne.2 (Ne.symm hkey), paramsOf.eq_def]
      exact (if_neg hkey).trans ih

private theorem nestedIn_eq (key path : String) (ps : Members) :
    nestedIn isRegistered key path ps =
      checkBody isRegistered (Issue.joinPath path key) 0
        (((Members.get? ps key).bind Json.asArr?).getD []) := by
  induction ps with
  | nil => rfl
  | cons p rest ih =>
    obtain ⟨k, v⟩ := p
    rw [Members.get?, List.lookup_cons]
    by_cases hkey : k = key
    · subst hkey
      rw [nestedIn.eq_def, beq_self_eq_true]
      refine (if_pos rfl).trans ?_
      cases v <;> rfl
    · rw [beq_eq_false_iff_ne.2 (Ne.symm hkey), nestedIn.eq_def]
      exact (if_neg hkey).trans ih

/-- The issues of an action are its own and those of the actions in its parameters. -/
private theorem checkAction_eq (place : List String) (v : Json) :
    checkAction isRegistered (placeText place) v =
      ownIssues isRegistered (place, v) ++
        (checkBody isRegistered (placeText (place ++ ["params", "actions"])) 0
            (bodyItems isRegistered v "actions") ++
          checkBody isRegistered (placeText (place ++ ["params", "elseActions"])) 0
            (bodyItems isRegistered v "elseActions")) := by
  have hname : placeText (place ++ ["name"]) = Issue.joinPath (placeText place) "name" :=
    placeText_append place ["name"]
  have hparams : placeText (place ++ ["params"]) = Issue.joinPath (placeText place) "params" :=
    placeText_append place ["params"]
  have hbody (key : String) : placeText (place ++ ["params", key]) =
      Issue.joinPath (Issue.joinPath (placeText place) "params") key := by
    rw [← hparams, List.append_cons, placeText_append]
    show Issue.joinPath _ (Issue.joinPath key "") = _
    rw [Issue.joinPath_empty_right]
  rw [ownIssues, hname, hparams, hbody, hbody, bodyItems, bodyItems]
  dsimp only
  cases v with
  | obj ms =>
    rw [checkAction, Json.getStr?, Json.get?, Json.get?]
    cases (Members.get? ms "name").bind Json.asStr? with
    | none => rfl
    | some action =>
      by_cases registered : isRegistered action = true
      · simp only [if_pos registered]
        rw [paramsOf_eq]
        cases (Members.get? ms "params").bind Json.asObj? with
        | none => rfl
        | some ps =>
          dsimp only
          rw [nestedIn_eq, nestedIn_eq, List.append_assoc]
          rfl
      · simp only [if_neg registered]
        rfl
  | _ => rfl

/-! The actions below a place -/

/-- What is nested in an action stands at a place that begins with the place of the action. -/
private theorem prefix_of_nested {site site' : Site}
    (h : Relation.ReflTransGen (Nests isRegistered) site site') : site.1 <+: site'.1 := by
  induction h with
  | refl => exact List.prefix_rfl
  | tail _ hnests ih =>
    cases hnests with
    | intro => exact ih.trans (List.prefix_append _ _)

/-- Some sites with all that is nested there, each at its own place, and their issues in order. -/
private structure Covers (isRegistered : String → Bool) (starts : Site → Prop) (sites : List Site)
    (issues : List Issue) : Prop where
  nodup : (sites.map Prod.fst).Nodup
  mem_iff : ∀ site, site ∈ sites ↔
    ∃ start, starts start ∧ Relation.ReflTransGen (Nests isRegistered) start site
  issues_eq : issues = sites.flatMap (ownIssues isRegistered)

namespace Covers

variable {starts starts' : Site → Prop} {sites sites' : List Site} {issues issues' : List Issue}

private theorem congr (h : Covers isRegistered starts sites issues)
    (hstarts : ∀ site, starts site ↔ starts' site) : Covers isRegistered starts' sites issues :=
  ⟨h.nodup, fun site ↦ by simp only [h.mem_iff, hstarts], h.issues_eq⟩

/-- Sites that begin at different places of which none is below another. -/
private theorem append (h : Covers isRegistered starts sites issues)
    (h' : Covers isRegistered starts' sites' issues')
    (hapart : ∀ a b, starts a → starts' b → ¬ a.1 <+: b.1 ∧ ¬ b.1 <+: a.1) :
    Covers isRegistered (fun site ↦ starts site ∨ starts' site) (sites ++ sites')
      (issues ++ issues') where
  nodup := by
    rw [List.map_append]
    refine List.Nodup.append h.nodup h'.nodup fun place hplace hplace' ↦ ?_
    obtain ⟨site, hsite, rfl⟩ := List.mem_map.1 hplace
    obtain ⟨site', hsite', heq⟩ := List.mem_map.1 hplace'
    obtain ⟨a, ha, hbelow⟩ := (h.mem_iff site).1 hsite
    obtain ⟨b, hb, hbelow'⟩ := (h'.mem_iff site').1 hsite'
    obtain ⟨hab, hba⟩ := hapart a b ha hb
    rcases List.prefix_or_prefix_of_prefix (prefix_of_nested hbelow)
      (heq ▸ prefix_of_nested hbelow') with hprefix | hprefix
    · exact hab hprefix
    · exact hba hprefix
  mem_iff site := by
    rw [List.mem_append, h.mem_iff, h'.mem_iff, ← exists_or]
    simp only [or_and_right]
  issues_eq := by rw [List.flatMap_append, h.issues_eq, h'.issues_eq]

/-- A site in front of the sites that begin at those nested in it. -/
private theorem node {site : Site}
    (h : Covers isRegistered (Nests isRegistered site) sites issues) :
    Covers isRegistered (· = site) (site :: sites) (ownIssues isRegistered site ++ issues) where
  nodup := by
    rw [List.map_cons, List.nodup_cons]
    refine ⟨fun hplace ↦ ?_, h.nodup⟩
    obtain ⟨inner, hinner, hsame⟩ := List.mem_map.1 hplace
    obtain ⟨start, hnests, hnested⟩ := (h.mem_iff inner).1 hinner
    have hprefix := prefix_of_nested hnested
    rw [hsame] at hprefix
    cases hnests with
    | intro => simpa using hprefix.length_le
  mem_iff inner := by
    rw [List.mem_cons, h.mem_iff]
    constructor
    · rintro (rfl | ⟨start, hnests, hnested⟩)
      · exact ⟨_, rfl, .refl⟩
      · exact ⟨_, rfl, .head hnests hnested⟩
    · rintro ⟨_, rfl, hnested⟩
      exact hnested.cases_head.imp_left Eq.symm
  issues_eq := by rw [List.flatMap_cons, h.issues_eq]

end Covers

private theorem not_prefix_of_length {p q : List String} (hlength : p.length = q.length)
    (hne : p ≠ q) : ¬ p <+: q ∧ ¬ q <+: p :=
  ⟨fun h ↦ hne (h.eq_of_length hlength), fun h ↦ hne (h.eq_of_length hlength.symm).symm⟩

private theorem exists_covers_body {items : List Json}
    (h : ∀ v ∈ items, ∀ place, placeText place ≠ "" →
      ∃ sites, Covers isRegistered (· = (place, v)) sites
        (checkAction isRegistered (placeText place) v))
    {place : List String} (hplace : placeText place ≠ "") (start : Nat) :
    ∃ sites, Covers isRegistered
      (fun site ↦ ∃ (i : Nat) (v : Json), items[i]? = some v ∧
        site = (place ++ [toString (start + i)], v))
      sites (checkBody isRegistered (placeText place) start items) := by
  induction items generalizing start with
  | nil => exact ⟨[], List.nodup_nil, fun site ↦ by simp, rfl⟩
  | cons v items ih =>
    obtain ⟨hv, hitems⟩ := List.forall_mem_cons.1 h
    have hstep : placeText (place ++ [toString start]) =
        placeText place ++ "." ++ toString start := by
      have htext : placeText [toString start] = toString start := Issue.joinPath_empty_right _
      rw [placeText_append, htext]
      exact Issue.joinPath_of_ne hplace Nat.repr_ne_empty
    obtain ⟨sites, hsites⟩ := hv (place ++ [toString start]) (by rw [hstep]; simp)
    obtain ⟨sites', hsites'⟩ := ih hitems (start + 1)
    rw [checkBody, ← hstep]
    refine ⟨sites ++ sites', (hsites.append hsites' ?_).congr fun site ↦ ?_⟩
    · rintro a b rfl ⟨i, w, -, rfl⟩
      refine not_prefix_of_length (by simp) fun heq ↦ ?_
      have hstart : start = start + 1 + i :=
        Nat.repr_injective (List.cons.inj (List.append_cancel_left heq)).1
      omega
    · constructor
      · rintro (rfl | ⟨i, w, hw, rfl⟩)
        · exact ⟨0, v, rfl, rfl⟩
        · exact ⟨i + 1, w, hw, by rw [Nat.add_right_comm, Nat.add_assoc start]⟩
      · rintro ⟨_ | i, w, hw, rfl⟩
        · cases hw
          exact .inl rfl
        · exact .inr ⟨i, w, hw, by rw [Nat.add_right_comm, Nat.add_assoc start]⟩

private theorem sizeOf_lt_of_nests {site site' : Site} (h : Nests isRegistered site site') :
    sizeOf site'.2 < sizeOf site.2 := by
  cases h with
  | @intro _ v w _ _ ps items _ _ _ hparams _ hitems hitem =>
    have hobject : sizeOf (Json.obj ps) < sizeOf v := Json.sizeOf_get?_lt hparams
    have harray : sizeOf (Json.arr items) < sizeOf (Json.obj ps) := Json.sizeOf_get?_lt hitems
    have hw : sizeOf w < sizeOf (Json.arr items) := Json.sizeOf_item_lt (List.mem_of_getElem? hitem)
    exact hw.trans (harray.trans hobject)

private theorem exists_covers (v : Json) (place : List String) (hplace : placeText place ≠ "") :
    ∃ sites, Covers isRegistered (· = (place, v)) sites
      (checkAction isRegistered (placeText place) v) := by
  -- by induction on the size, as the actions in a parameter are in an array in two objects
  induction hsize : sizeOf v using Nat.strongRecOn generalizing v place with
  | ind size ih =>
    subst hsize
    -- each parameter that holds actions, apart from the other one
    have hbelow (key : String)
        (hnests : ∀ site, InBody isRegistered place v key site →
          Nests isRegistered (place, v) site) :
        ∃ sites, Covers isRegistered (InBody isRegistered place v key) sites
          (checkBody isRegistered (placeText (place ++ ["params", key])) 0
            (bodyItems isRegistered v key)) := by
      have hbody : placeText (place ++ ["params", key]) ≠ "" := by
        rw [placeText_append]
        exact Issue.joinPath_ne_empty hplace _
      obtain ⟨sites, hsites⟩ := exists_covers_body (fun w hw p hp ↦ by
        obtain ⟨i, hi⟩ := List.getElem?_of_mem hw
        have hlt := sizeOf_lt_of_nests (hnests _ ⟨i, w, hi, rfl⟩)
        exact ih (sizeOf w) hlt w p hp rfl) hbody 0
      refine ⟨sites, hsites.congr fun site ↦ ?_⟩
      simp only [InBody, Nat.zero_add, List.append_assoc, List.cons_append, List.nil_append]
    obtain ⟨inner, hinner⟩ := hbelow "actions" fun site h ↦ nests_iff.2 (.inl h)
    obtain ⟨other, hother⟩ := hbelow "elseActions" fun site h ↦ nests_iff.2 (.inr h)
    have hboth := hinner.append hother fun a b ⟨i, w, _, ha⟩ ⟨j, u, _, hb⟩ ↦ by
      rw [ha, hb]
      exact not_prefix_of_length (by simp) (by simp)
    rw [checkAction_eq]
    exact ⟨_, (hboth.congr fun site ↦ nests_iff.symm).node⟩

private theorem exists_covers_document {document : Json} (hshape : recipe.check document = []) :
    ∃ (items : List Json) (sites : List Site), document.get? "actions" = some (.arr items) ∧
      Covers isRegistered
        (fun site ↦ ∃ (i : Nat) (v : Json), items[i]? = some v ∧
          site = (["actions", toString i], v))
        sites (checkRecipe isRegistered document) := by
  obtain ⟨ms, name, items, rfl, -, -, hitems, -⟩ := exists_of_check_recipe hshape
  have hget : (Json.obj ms).get? "actions" = some (.arr items) := hitems
  have hactions : placeText ["actions"] ≠ "" := by decide
  obtain ⟨sites, hsites⟩ := exists_covers_body
    (fun v (_ : v ∈ items) place hplace ↦ exists_covers v place hplace) hactions 0
  refine ⟨items, sites, hget, ?_⟩
  have hcheck : checkRecipe isRegistered (.obj ms) =
      checkBody isRegistered (placeText ["actions"]) 0 items := by
    rw [checkRecipe, hshape, hget]
    rfl
  rw [hcheck]
  exact hsites.congr fun site ↦ by simp only [Nat.zero_add, List.cons_append, List.nil_append]

/-- The issues of a recipe whose shape is right are those of the actions that are looked at, each of
them once. -/
theorem checkRecipe_eq_flatMap {document : Json} (hshape : recipe.check document = []) :
    ∃ sites : List Site, (sites.map Prod.fst).Nodup ∧
      (∀ site, site ∈ sites ↔ LookedAt isRegistered document site) ∧
      checkRecipe isRegistered document = sites.flatMap (ownIssues isRegistered) := by
  obtain ⟨items, sites, hitems, hsites⟩ := exists_covers_document hshape
  refine ⟨sites, hsites.nodup, fun site ↦ ?_, hsites.issues_eq⟩
  rw [hsites.mem_iff]
  constructor
  · rintro ⟨_, ⟨i, v, hitem, rfl⟩, hnested⟩
    exact .intro hitems hitem hnested
  · intro h
    cases h with
    | @intro items' i v hitems' hitem hnested =>
      cases hitems.symm.trans hitems'
      exact ⟨_, ⟨i, v, hitem, rfl⟩, hnested⟩

/-- A recipe whose shape is wrong has only the issues of its shape. -/
theorem checkRecipe_of_check_ne {document : Json} (hshape : recipe.check document ≠ []) :
    checkRecipe isRegistered document =
      (recipe.check document).map (Issue.nameRoot "root") := by
  rw [checkRecipe]
  exact if_neg (by simpa using hshape)

/-- The issues of an action with parameters are the broken rules that are not left out. -/
theorem ownIssues_eq {place : List String} {v : Json} {action : String} {ps : Members}
    (hname : v.getStr? "name" = some action) (registered : isRegistered action = true)
    (hparams : v.get? "params" = some (.obj ps)) :
    ownIssues isRegistered (place, v) =
      ((brokenRules action ps).filter fun r ↦ !isTemplated ps (r.place.headD "")).map
        (Violation.report action place) := by
  rw [ownIssues]
  dsimp only
  rw [hname]
  dsimp only
  rw [if_pos registered, hparams]
  exact paramIssues_eq action ps place

end Sites

/-! ### What is reported -/

/-- Without a template under the empty key a rule is left out just when it is excused. -/
theorem filter_isTemplated_of_not {ps : Members} (hempty : isTemplated ps "" = false)
    (rules : List Violation) :
    (rules.filter fun r ↦ !isTemplated ps (r.place.headD "")) =
      rules.filter fun r ↦ !r.isExcused ps := by
  refine List.filter_congr fun r _ ↦ ?_
  rw [Violation.isExcused]
  cases r.place with
  | nil => rw [List.headD_nil, hempty]
  | cons key rest => rfl

/-- A template under the empty key hides the rules that are broken by the parameters as a whole. -/
theorem filter_isTemplated_of_empty {ps : Members} (hempty : isTemplated ps "" = true)
    (rules : List Violation) :
    (rules.filter fun r ↦ !isTemplated ps (r.place.headD "")) =
      rules.filter fun r ↦ !r.place.isEmpty && !r.isExcused ps := by
  refine List.filter_congr fun r _ ↦ ?_
  rw [Violation.isExcused]
  cases r.place with
  | nil => rw [List.headD_nil, hempty]; rfl
  | cons key rest => rfl

/-- **What the check of a recipe reports for an action.** A document of the wrong shape has only the
issues of its shape. Otherwise the issues are those of the actions that are looked at, each of them
once. For a registered action with parameters they are, in order, the rules that a run with these
parameters reports, apart from those that are broken at or below a template. The rules that are
broken by the parameters as a whole, as they are when one is missing, are among them only if there
is no template under the empty key. -/
theorem checkRecipe_reports (isRegistered : String → Bool) (document : Json) :
    (recipe.check document ≠ [] →
      checkRecipe isRegistered document = (recipe.check document).map (Issue.nameRoot "root")) ∧
    (recipe.check document = [] → ∃ sites : List Site, (sites.map Prod.fst).Nodup ∧
      (∀ site, site ∈ sites ↔ LookedAt isRegistered document site) ∧
      checkRecipe isRegistered document = sites.flatMap (ownIssues isRegistered)) ∧
    ∀ (place : List String) (v : Json) (action : String) (ps : Members),
      v.getStr? "name" = some action → isRegistered action = true →
      v.get? "params" = some (.obj ps) →
      (brokenRules action ps = [] → ∃ qs, validate action ps = .ok qs) ∧
      (brokenRules action ps ≠ [] → validate action ps = .error (.invalidParams action
        (Issue.lines ((brokenRules action ps).map fun r ↦ r.issue.nameRoot "params")))) ∧
      (isTemplated ps "" = false →
        ownIssues isRegistered (place, v) =
          ((brokenRules action ps).filter fun r ↦ !r.isExcused ps).map
            (Violation.report action place) ∧
        ∀ s, ofAction? action = some s → ∀ key ∈ s.requiredKeys, ps.has key = false →
          Violation.report action place ⟨[], Json.quote key ++ " is a required property"⟩ ∈
            ownIssues isRegistered (place, v)) ∧
      (isTemplated ps "" = true →
        ownIssues isRegistered (place, v) =
          ((brokenRules action ps).filter fun r ↦ !r.place.isEmpty && !r.isExcused ps).map
            (Violation.report action place)) := by
  refine ⟨checkRecipe_of_check_ne, checkRecipe_eq_flatMap, ?_⟩
  intro place v action ps hname registered hparams
  obtain ⟨hvalid, hinvalid⟩ := validate_of_brokenRules action ps
  have hissues : ownIssues isRegistered (place, v) = _ := ownIssues_eq hname registered hparams
  refine ⟨hvalid, hinvalid, fun hempty ↦ ?_, fun hempty ↦ ?_⟩
  · rw [filter_isTemplated_of_not hempty] at hissues
    refine ⟨hissues, fun s hs key hkey hmissing ↦ ?_⟩
    rw [hissues]
    refine List.mem_map_of_mem (List.mem_filter.2 ⟨mem_brokenRules_of_missing hs hkey hmissing, ?_⟩)
    rfl
  · rw [hissues, filter_isTemplated_of_empty hempty]

/-- A loop from a template to a text that is not a number, with a click that has no selector. -/
def loopParams : Members :=
  [("from", .str "\x7b\x7bfirst\x7d\x7d"), ("until", .str "many"),
    ("actions", .arr [.obj [("name", .str "click"), ("params", .obj [])]])]

/-- A click that has no selector, with a template under the empty key. -/
def clickParams : Members :=
  [("", .str "\x7b\x7bx\x7d\x7d")]

/-- A recipe of one action. -/
def documentOf (action : String) (ps : Members) : Json :=
  .obj [("name", .str "demo"),
    ("actions", .arr [.obj [("name", .str action), ("params", .obj ps)]])]

/-- Of the two bounds of the loop only the template is excused, and the selector that is missing in
it is reported; where it is missing beside a template under the empty key it is not. -/
theorem checkRecipe_reports_loop :
    let registered := Action.builtinRegistry.contains
    let loop := Json.obj [("name", .str "for"), ("params", .obj loopParams)]
    let bare := Json.obj [("name", .str "click"), ("params", .obj [])]
    let click := Json.obj [("name", .str "click"), ("params", .obj clickParams)]
    checkRecipe registered .null = [⟨"root", "null is not of type \"object\""⟩] ∧
    (∃ sites : List Site, (sites.map Prod.fst).Nodup ∧
      (∀ site, site ∈ sites ↔ LookedAt registered (documentOf "for" loopParams) site) ∧
      checkRecipe registered (documentOf "for" loopParams) =
        sites.flatMap (ownIssues registered)) ∧
    ownIssues registered (["actions", "0"], loop) =
      [⟨"actions.0.params.until", "Action \"for\" - \"many\" is not of type \"integer\""⟩] ∧
    (∃ qs, validate "uuid" [] = .ok qs) ∧
    validate "click" [] =
      .error (.invalidParams "click" "  - params: \"selector\" is a required property") ∧
    ⟨"actions.0.params.actions.0.params",
        "Action \"click\" - \"selector\" is a required property"⟩ ∈
      ownIssues registered (["actions", "0", "params", "actions", "0"], bare) ∧
    ownIssues registered (["actions", "0"], click) = [] := by
  intro registered loop bare click
  obtain ⟨hwrong, -, hactions⟩ := checkRecipe_reports registered .null
  obtain ⟨-, hright, -⟩ := checkRecipe_reports registered (documentOf "for" loopParams)
  have hclick : registered "click" = true := by decide +kernel
  obtain ⟨-, -, hloop, -⟩ := hactions ["actions", "0"] loop "for" loopParams rfl
    (by decide +kernel) rfl
  obtain ⟨hvalid, -, -, -⟩ := hactions [] (.obj [("name", .str "uuid"), ("params", .obj [])]) "uuid"
    [] rfl (by decide +kernel) rfl
  obtain ⟨-, hinvalid, hbare, -⟩ :=
    hactions ["actions", "0", "params", "actions", "0"] bare "click" [] rfl hclick rfl
  obtain ⟨-, -, -, hempty⟩ := hactions ["actions", "0"] click "click" clickParams rfl hclick rfl
  have hlines : Issue.lines ((brokenRules "click" []).map fun r ↦ r.issue.nameRoot "params") =
      "  - params: \"selector\" is a required property" := by
    decide +kernel
  have hreport : Violation.report "click" ["actions", "0", "params", "actions", "0"]
      ⟨[], Json.quote "selector" ++ " is a required property"⟩ =
        ⟨"actions.0.params.actions.0.params",
          "Action \"click\" - \"selector\" is a required property"⟩ := by
    decide +kernel
  rw [hlines] at hinvalid
  rw [← hreport]
  exact ⟨(hwrong (by decide +kernel)).trans (by decide +kernel), hright (by decide +kernel),
    (hloop (by decide +kernel)).1.trans (by decide +kernel), hvalid (by decide +kernel),
    hinvalid (by decide +kernel), (hbare (by decide +kernel)).2 _ rfl "selector"
      (by decide +kernel) rfl, (hempty (by decide +kernel)).trans (by decide +kernel)⟩

/-- The missing selector is excused though the template is no parameter of the action. -/
theorem missing_selector_excused :
    checkRecipe Action.builtinRegistry.contains (documentOf "click" clickParams) = [] ∧
    brokenRules "click" clickParams = [⟨[], "\"selector\" is a required property"⟩] ∧
    ∀ r ∈ brokenRules "click" clickParams, r.isExcused clickParams = false := by
  decide +kernel

end Schema
end WebRecipe
