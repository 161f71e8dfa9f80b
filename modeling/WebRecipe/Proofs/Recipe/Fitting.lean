import WebRecipe.Proofs.Recipe.Approved
import WebRecipe.Proofs.Registry
import WebRecipe.Proofs.Run.Failures
import WebRecipe.Rehearsal

/-!
# Checking before a run and at a run

A recipe is accepted only if every action of its document is registered, at any depth. What a run of
it performs are these actions, as long as the actions nested in its branches and loops are written
out and not put in the place of a placeholder: replacing placeholders leaves a list of objects
alone, and so does the check of the parameters. The actions that built-in actions perform by
themselves are built in.

The parameters of an action are checked twice: when its recipe is accepted, and when it is
performed. In a document without templates both look at the same parameters, and what the first
check lets pass the second one does too, with two exceptions. The first check passes over an action
without parameters, while the second one takes it for one with no members. And the first check does
not look at whether a nested action says by a truth value if it is awaited, while its decoding does.
Apart from these, no run of accepted recipes fails because parameters break rules.

## Main definitions

* `ActionCall.Fits`: the parameters of an action pass the check, and what is nested in it is
  decoded.
* `Recipe.Explicit`: a document has neither of the two exceptions.

## Main results

* `Engine.not_reports_unknownAction`: no run of accepted recipes fails for want of an action.
* `Recipe.ActionOf.fits`: the actions of a document fit.
* `Engine.not_reports_invalidParams`: what runs of accepted recipes reach fits, and no run fails
  because parameters break rules.
-/

namespace WebRecipe

namespace Engine

variable {σ : Type} {e : Engine} {name : String}

/-- An action that is registered is not unknown, whatever it is given. -/
private theorem admits_of_contains {call : ActionCall} (h : e.registry.contains call.name = true) :
    e.Admits (fun err ↦ ¬ (ActionError.unknownAction name).Reports err) call where
  checking lookup err herr := by
    obtain ⟨details, rfl⟩ := Schema.validate_eq_error herr
    exact nofun
  finding hnone := by
    rw [Registry.contains_eq_isSome, hnone] at h
    cases h
  reading ps _ key _ err herr := by
    obtain ⟨details, rfl⟩ := Members.body_eq_error herr
    exact nofun

/-- **Accepted recipes meet no unknown actions.** Recipes are described by documents without issues,
in which the actions nested in branches and loops are written out. However a run of them goes,
whatever it is given, and whoever has the turn when, neither its failure nor that of anything that
it starts is that an action is not known. -/
theorem not_reports_unknownAction (s : Surroundings σ) (e : Engine)
    (hreg : e.registry = Action.builtinRegistry) (recipes : List Recipe)
    (haccepted : ∀ r ∈ recipes, ∃ document : Json, document.Distinct ∧
      Recipe.ofDocument e.registry.contains document = .ok r ∧ Recipe.WrittenOut document)
    (w : World σ) (env : Environment) (selection payloadId : Option String) (name : String) :
    (∀ turns err, (e.runBy s w env recipes selection payloadId turns).1 = some (.error err) →
      ¬ (ActionError.unknownAction name).Reports err) ∧
    (∀ err, (e.run s w env recipes selection payloadId).1 = some (.error err) →
      ¬ (ActionError.unknownAction name).Reports err) ∧
    ∀ w' turns n job err,
      (n, job) ∈ ((Machine.start w' (e.stages recipes selection)).advanceAll s turns).jobs →
      job.routine = .done (.error err) → ¬ (ActionError.unknownAction name).Reports err := by
  have hbuiltin {call : ActionCall} (hcall : Action.builtinRegistry.contains call.name = true)
      (hnesting : nestingParams call.name = []) :
      e.AdmitsAll (fun err ↦ ¬ (ActionError.unknownAction name).Reports err) call :=
    (admits_of_contains (hreg ▸ hcall)).all hnesting
  have hrun : e.AdmitsRun s (fun err ↦ ¬ (ActionError.unknownAction name).Reports err) recipes
      selection := by
    refine ⟨hreg, ?_, fun w ↦ hbuiltin rfl rfl, fun item hitem ↦ ?_⟩
    · intro err hown hreports
      cases hown.eq_of_reports hreports
      exact hown
    · obtain ⟨r, hr, rfl | ⟨call, hcall, rfl⟩⟩ := exists_of_mem_items hitem
      · exact List.forall_mem_cons.2
          ⟨hbuiltin rfl rfl, List.forall_mem_singleton.2 (hbuiltin rfl rfl)⟩
      · refine List.forall_mem_singleton.2 fun inner hreaches ↦ ?_
        obtain ⟨document, hdistinct, hdocument, hbodies⟩ := haccepted r hr
        have hcheck := (Recipe.decode_of_ofDocument hdocument).1
        obtain ⟨v, hv, hdecoded⟩ := Recipe.exists_actionOf hdistinct hdocument hcall
        obtain ⟨u, hu, hinner⟩ := hv.of_reaches hcheck hdistinct hbodies hdecoded hreaches
        exact admits_of_contains (hu.of_decode hcheck hdistinct hinner).2.2
  exact hrun.not_reports (fun _ ↦ ActionError.noConfusion) w env payloadId

/-- A document with a loop in a branch. The line that is shown and the end of the loop are left to
placeholders, and the branch is not waited for. -/
def countingDocument : Json :=
  let log : Json := .obj [("name", .str "log"),
    ("params", .obj [("message", .str "\x7b\x7bINPUT\x7d\x7d")])]
  let loop : Json := .obj [("name", .str "for"), ("params", .obj [("from", .int 1),
    ("until", .str "\x7b\x7bLAST\x7d\x7d"), ("actions", .arr [log])])]
  let branch : Json := .obj [("name", .str "if"), ("params", .obj [("condition", .str "1 < 2"),
    ("actions", .arr [loop])]), ("await", .bool false)]
  .obj [("name", .str "counting"), ("actions", .arr [branch])]

/-- The document describes a recipe, whose runs meet no unknown actions. -/
theorem not_reports_unknownAction_counting :
    ∃ r, Recipe.ofDocument Action.builtinRegistry.contains countingDocument = .ok r ∧
      ∀ turns err name, (runBy { registry := Action.builtinRegistry } Rehearsal.surroundings
          { store := {}, rest := {} } [] [r] none none turns).1 = some (.error err) →
        ¬ (ActionError.unknownAction name).Reports err := by
  obtain ⟨r, hr⟩ :
      ∃ r, Recipe.ofDocument Action.builtinRegistry.contains countingDocument = .ok r := ⟨_, rfl⟩
  have hdistinct : countingDocument.Distinct := by decide +kernel
  have hbodies : ∀ v ∈ countingDocument.parts, ∀ b ∈ Recipe.bodiesOf v,
      Placeholder.isTemplate b = false := by
    decide +kernel
  refine ⟨r, hr, fun turns err name ↦ ?_⟩
  refine (not_reports_unknownAction Rehearsal.surroundings { registry := Action.builtinRegistry }
    rfl [r] (List.forall_mem_singleton.2 ⟨countingDocument, hdistinct, hr, fun v hv ↦ ?_⟩) _ _ _ _
    name).1 turns err
  exact hbodies v (hv.parts_subset v.mem_parts_self)

end Engine
end WebRecipe

namespace WebRecipe

/-- The parameters of an action pass the check, whatever the values of placeholders are, and what it
is given as nested actions is a list of actions. -/
structure ActionCall.Fits (call : ActionCall) : Prop where
  passes : ∀ lookup, ∃ qs, Schema.validate call.name
    (Placeholder.resolveMembers lookup call.paramsOrEmpty) = .ok qs
  nested : ∀ qs, call.Starts qs → ∀ key ∈ nestingParams call.name,
    ∃ calls, qs.body call.name key = .ok calls

namespace Recipe

/-! ### The actions of a document -/

/-- The actions of a document that have no parameters can do without any, and those that say whether
they are awaited do so by a truth value. -/
structure Explicit (document : Json) : Prop where
  params : ∀ v, ActionOf document v → v.get? "params" = none →
    ∀ name, v.getStr? "name" = some name → ∃ qs, Schema.validate name [] = .ok qs
  await : ∀ v, ActionOf document v → ∀ a, v.get? "await" = some a → ∃ b, a = .bool b

/-- A value that fits the shape of an action has parameters that are an object, if it has any. -/
private theorem exists_obj {properties : List (String × Schema)} {required : List String}
    {missingFirst : Bool} {v w : Json}
    (h : (Schema.object properties required missingFirst).check v = [])
    (hproperties : ("params", .object [] [] false) ∈ properties)
    (hw : v.get? "params" = some w) : ∃ ps, w = .obj ps := by
  obtain ⟨ms, rfl, -, hfits⟩ := Schema.check_object_eq_nil.1 h
  obtain ⟨ps, hps, -⟩ := Schema.check_object_eq_nil.1 (hfits _ hproperties w hw)
  exact ⟨ps, hps⟩

namespace ActionOf

variable {isRegistered : String → Bool} {document v : Json}
  (hcheck : Schema.checkRecipe isRegistered document = []) (hplain : document.Plain)

include hcheck hplain

/-- Parameters of an action of a document pass the check. -/
private theorem exists_validate (h : ActionOf document v) {ps : Members}
    (hps : v.get? "params" = some (.obj ps)) {name : String}
    (hname : v.getStr? "name" = some name) : ∃ qs, Schema.validate name ps = .ok qs := by
  have hpsPlain : (Json.obj ps).Plain := fun part hpart ↦
    hplain part (h.parts_subset (Json.parts_get? hps hpart))
  cases h.approved hcheck with
  | @intro ms name' _ hname' _ params _ =>
    rw [Json.getStr?, Json.get?, hname'] at hname
    cases hname
    exact Schema.exists_validate hpsPlain (params ps hps)

/-- The parameters of an action of a document are an object, if there are any. -/
private theorem params_obj (h : ActionOf document v) {w : Json} (hw : v.get? "params" = some w) :
    ∃ ps, w = .obj ps := by
  cases h with
  | top hitems mem =>
    obtain ⟨ms, rfl, -, hfits⟩ :=
      Schema.check_object_eq_nil.1 (Schema.check_recipe_of_checkRecipe hcheck)
    obtain ⟨items, hitems', -, hitem⟩ := Schema.check_array_eq_nil.1 (hfits ("actions", _)
      (List.mem_cons_of_mem _ (List.mem_cons_of_mem _ List.mem_cons_self)) _ hitems)
    cases hitems'
    exact exists_obj (hitem v mem) (List.mem_cons_of_mem _ List.mem_cons_self) hw
  | nested houter body mem =>
    obtain ⟨name, hname, key, hkey, hb⟩ := mem_bodiesOf.1 body
    obtain ⟨ps, hps, hget⟩ := get?_paramsOf hb
    obtain ⟨qs, hqs⟩ := exists_validate hcheck hplain houter hps hname
    obtain ⟨items, hitems, -, hitem⟩ :=
      Schema.check_array_eq_nil.1 ((Schema.get?_of_validate hkey hqs).2 _ hget)
    cases hitems
    exact exists_obj (hitem v mem) (List.mem_cons_of_mem _ List.mem_cons_self) hw

variable (hdistinct : document.Distinct) (hexplicit : Explicit document)

include hdistinct hexplicit

/-- An action of a document describes an action. -/
private theorem exists_decode (h : ActionOf document v) :
    ∃ call, ActionCall.decode v = .ok call := by
  have hkeys := hdistinct v (h.parts_subset v.mem_parts_self)
  have happroved := h.approved hcheck
  cases happroved with
  | @intro ms name _ hname =>
    refine ActionCall.exists_decode hkeys ⟨name, hname⟩ (fun w hw ↦ ?_) fun a ha ↦ ?_
    · exact h.params_obj hcheck hplain hw
    · exact hexplicit.await _ h a ha

/-- An action of a document without issues and without templates describes an action that fits. -/
theorem fits (h : ActionOf document v) : ∃ call, ActionCall.decode v = .ok call ∧ call.Fits := by
  obtain ⟨call, hcall⟩ := h.exists_decode hcheck hplain hdistinct hexplicit
  obtain ⟨hname, hparams, -⟩ := h.of_decode hcheck hdistinct hcall
  refine ⟨call, hcall, fun lookup ↦ ?_, fun qs hqs key hkey ↦ ?_⟩
  · rw [hparams, paramsOf]
    cases hv : v.get? "params" with
    | none => exact hexplicit.params v h hv call.name hname
    | some w =>
      obtain ⟨ps, rfl⟩ := h.params_obj hcheck hplain hv
      have hpsPlain : (Json.obj ps).Plain := fun part hpart ↦
        hplain part (h.parts_subset (Json.parts_get? hv hpart))
      have hsame : Placeholder.resolveMembers lookup ps = ps :=
        Placeholder.resolveMembers_eq_self hpsPlain
      obtain ⟨qs, hqs⟩ := h.exists_validate hcheck hplain hv hname
      exact ⟨qs, (congrArg (Schema.validate call.name) hsame).trans hqs⟩
  · rcases h.body_of_starts hcheck hdistinct (.of_plain hplain) hcall hqs hkey with
      hnone | ⟨items, hitems, hbody⟩
    · exact ⟨[], by rw [Members.body, hnone]; rfl⟩
    · obtain ⟨calls, hcalls⟩ := Decode.exists_mapM fun item hitem ↦
        (nested h hbody hitem).exists_decode hcheck hplain hdistinct hexplicit
      exact ⟨calls, by rw [Members.body, hitems]; exact mapError_eq_ok_iff.2 hcalls⟩

end ActionOf

/-- Whatever an action of an accepted recipe reaches fits. -/
theorem fits_of_reaches {isRegistered : String → Bool} {document : Json} {r : Recipe}
    (hdistinct : document.Distinct) (hplain : document.Plain) (hexplicit : Explicit document)
    (hdocument : ofDocument isRegistered document = .ok r) {call inner : ActionCall}
    (hcall : call ∈ r.actions) (hreaches : call.Reaches inner) : inner.Fits := by
  have hcheck := (decode_of_ofDocument hdocument).1
  obtain ⟨v, hv, hdecoded⟩ := exists_actionOf hdistinct hdocument hcall
  obtain ⟨u, hu, hinner⟩ := hv.of_reaches hcheck hdistinct (.of_plain hplain) hdecoded hreaches
  obtain ⟨inner', hinner', hfits⟩ := hu.fits hcheck hplain hdistinct hexplicit
  cases hinner.symm.trans hinner'
  exact hfits

/-- The name of an accepted recipe is a text of its document, and not empty. -/
private theorem name_of_ofDocument {isRegistered : String → Bool} {document : Json} {r : Recipe}
    (hdistinct : document.Distinct) (hdocument : ofDocument isRegistered document = .ok r) :
    .str r.name ∈ document.parts ∧ Schema.lengthIssue 1 r.name = [] := by
  obtain ⟨hcheck, hdecode⟩ := decode_of_ofDocument hdocument
  obtain ⟨ms, rfl, hrequired, hfits⟩ :=
    Schema.check_object_eq_nil.1 (Schema.check_recipe_of_checkRecipe hcheck)
  have hname : Members.has ms "name" = true := hrequired _ List.mem_cons_self
  rw [Members.has_eq_isSome, Option.isSome_iff_exists] at hname
  obtain ⟨v, hv⟩ := hname
  have hstr := (decode_obj (hdistinct _ (Json.mem_parts_self _)) hdecode).1 v hv
  subst hstr
  refine ⟨Json.parts_get? (w := .obj ms) hv (Json.mem_parts_self _), ?_⟩
  exact (List.append_eq_nil_iff.1 (hfits ("name", _) List.mem_cons_self _ hv)).1

end Recipe

/-! ### Runs -/

/-- An action with one text as its parameter fits when the text is not empty and no template. -/
private theorem ActionCall.Fits.ofText {action key text : String}
    (haction : Schema.ofAction? action = some (Schema.params [(key, Schema.filled)] []))
    (hurls : Schema.urlParams action = []) (hnesting : nestingParams action = [])
    (hlength : Schema.lengthIssue 1 text = [])
    (hplain : Placeholder.isTemplate (.str text) = false) :
    Fits ⟨action, some [(key, .str text)], true⟩ where
  passes lookup := by
    have hsame : Placeholder.resolveMembers lookup [(key, .str text)] = [(key, .str text)] :=
      congrArg (fun v ↦ [(key, v)]) (Placeholder.resolveText_eq_self hplain)
    have hcheck :
        (Schema.params [(key, Schema.filled)] []).check (.obj [(key, .str text)]) = [] := by
      refine Schema.check_object_eq_nil.2 ⟨_, rfl, ?_, ?_⟩
      · simp [Members.has]
      · simp [Members.get?, Schema.filled, Schema.check, hlength]
    have hurlIssues : Schema.urlIssues action [(key, .str text)] (fun _ ↦ false) = [] := by
      rw [Schema.urlIssues, hurls]
      rfl
    obtain ⟨qs, hqs⟩ := Schema.exists_validate_of_check haction hcheck hurlIssues
    exact ⟨qs, (congrArg (Schema.validate action) hsame).trans hqs⟩
  nested _ _ key hkey := by
    rw [hnesting] at hkey
    cases hkey

namespace Engine

variable {σ : Type} {e : Engine} {action details : String}

/-- An action that fits does not fail because parameters break rules. -/
private theorem admits_of_fits {call : ActionCall} (h : call.Fits) :
    e.Admits (fun err ↦ ¬ (ActionError.invalidParams action details).Reports err) call where
  checking lookup err herr := by
    obtain ⟨qs, hqs⟩ := h.passes lookup
    cases hqs.symm.trans herr
  finding _ := nofun
  reading qs hqs key hkey err herr := by
    obtain ⟨calls, hcalls⟩ := h.nested qs hqs key hkey
    cases hcalls.symm.trans herr

/-- **Both checks agree.** Recipes are described by documents without issues and without templates,
whose actions have parameters or can do without, and say by a truth value whether they are awaited.
Then all actions that a run of them reaches fit, and however the run goes, and whoever has the turn
when, neither its failure nor that of anything that it starts is that parameters break rules. -/
theorem not_reports_invalidParams (s : Surroundings σ)
    (hids : ∀ w : World σ, (w.answer s .freshId).1 ≠ "" ∧
      Placeholder.isTemplate (.str (w.answer s .freshId).1) = false)
    (e : Engine) (hreg : e.registry = Action.builtinRegistry) (recipes : List Recipe)
    (haccepted : ∀ r ∈ recipes, ∃ isRegistered document, Json.Distinct document ∧ document.Plain ∧
      Recipe.Explicit document ∧ Recipe.ofDocument isRegistered document = .ok r)
    (w : World σ) (env : Environment) (selection payloadId : Option String)
    (action details : String) :
    (∀ r ∈ recipes, ∀ call ∈ r.actions, ∀ inner, call.Reaches inner → inner.Fits) ∧
    (∀ turns err, (e.runBy s w env recipes selection payloadId turns).1 = some (.error err) →
      ¬ (ActionError.invalidParams action details).Reports err) ∧
    (∀ err, (e.run s w env recipes selection payloadId).1 = some (.error err) →
      ¬ (ActionError.invalidParams action details).Reports err) ∧
    ∀ w' turns n job err,
      (n, job) ∈ ((Machine.start w' (e.stages recipes selection)).advanceAll s turns).jobs →
      job.routine = .done (.error err) →
      ¬ (ActionError.invalidParams action details).Reports err := by
  have hfits : ∀ r ∈ recipes, ∀ call ∈ r.actions, ∀ inner, call.Reaches inner → inner.Fits := by
    intro r hr call hcall inner hreaches
    obtain ⟨isRegistered, document, hdistinct, hplain, hexplicit, hdocument⟩ := haccepted r hr
    exact Recipe.fits_of_reaches hdistinct hplain hexplicit hdocument hcall hreaches
  have hrun : e.AdmitsRun s (fun err ↦ ¬ (ActionError.invalidParams action details).Reports err)
      recipes selection := by
    refine ⟨hreg, fun err hown hreports ↦ ?_, fun w ↦ ?_, fun item hitem ↦ ?_⟩
    · cases hown.eq_of_reports hreports
      exact hown
    · have hlength : Schema.lengthIssue 1 (w.answer s .freshId).1 = [] :=
        if_neg fun hlt ↦ (hids w).1 (String.length_eq_zero_iff.1 (Nat.lt_one_iff.1 hlt))
      have hopening : (openingPage (w.answer s .freshId).1).Fits :=
        .ofText rfl rfl rfl hlength (hids w).2
      exact (admits_of_fits hopening).all rfl
    · obtain ⟨r, hr, rfl | ⟨call, hcall, rfl⟩⟩ := exists_of_mem_items hitem
      · obtain ⟨isRegistered, document, hdistinct, hplain, -, hdocument⟩ := haccepted r hr
        obtain ⟨hpart, hlength⟩ := Recipe.name_of_ofDocument hdistinct hdocument
        have hsetting : (settingBaseDir r).Fits := .ofText rfl rfl rfl hlength (hplain _ hpart)
        have hresetting : resettingCurrentDir.Fits := ⟨fun _ ↦ ⟨_, rfl⟩, nofun⟩
        exact List.forall_mem_cons.2 ⟨(admits_of_fits hsetting).all rfl,
          List.forall_mem_singleton.2 ((admits_of_fits hresetting).all rfl)⟩
      · exact List.forall_mem_singleton.2 fun inner hreaches ↦
          admits_of_fits (hfits r hr call hcall inner hreaches)
  exact ⟨hfits, hrun.not_reports (fun _ ↦ ActionError.noConfusion) w env payloadId⟩

/-- Surroundings in which one id is given out. -/
def steadySurroundings : Surroundings Rehearsal :=
  { Rehearsal.surroundings with freshId := fun r ↦ ("00000000-0000-4000-8000-000000000000", r) }

/-- A document with a loop around an action that has no parameters, as it needs none. -/
def plainDocument : Json :=
  let log : Json := .obj [("name", .str "log"), ("params", .obj [("message", .str "again")])]
  let uuid : Json := .obj [("name", .str "uuid"), ("await", .bool true)]
  let loop : Json := .obj [("name", .str "for"),
    ("params", .obj [("from", .int 1), ("until", .int 3), ("actions", .arr [log, uuid])])]
  .obj [("name", .str "plain"), ("actions", .arr [loop])]

/-- The document describes a recipe of which no run fails because parameters break rules. -/
theorem not_reports_invalidParams_plain :
    ∃ r, Recipe.ofDocument Action.builtinRegistry.contains plainDocument = .ok r ∧
      ∀ turns err action details, (runBy { registry := Action.builtinRegistry } steadySurroundings
          { store := {}, rest := {} } [] [r] none none turns).1 = some (.error err) →
        ¬ (ActionError.invalidParams action details).Reports err := by
  obtain ⟨r, hr⟩ : ∃ r, Recipe.ofDocument Action.builtinRegistry.contains plainDocument = .ok r :=
    ⟨_, rfl⟩
  have hdistinct : plainDocument.Distinct := by decide +kernel
  have hplain : plainDocument.Plain := by decide +kernel
  have hparams : ∀ v ∈ plainDocument.parts, (v.get? "params").isSome ∨
      ∀ name ∈ v.getStr? "name", (Schema.validate name []).toOption.isSome := by
    decide +kernel
  have hawait : ∀ v ∈ plainDocument.parts, ∀ a ∈ v.get? "await", a.asBool?.isSome := by
    decide +kernel
  have hexplicit : Recipe.Explicit plainDocument := by
    refine ⟨fun v hv hnone name hname ↦ ?_, fun v hv a ha ↦ ?_⟩
    · rcases hparams v (hv.parts_subset v.mem_parts_self) with hsome | hvalid
      · rw [hnone] at hsome
        cases hsome
      · have hok := hvalid name hname
        cases hqs : Schema.validate name [] with
        | ok qs => exact ⟨qs, rfl⟩
        | error err =>
          rw [hqs] at hok
          cases hok
    · have hbool := hawait v (hv.parts_subset v.mem_parts_self) a ha
      cases a with
      | bool b => exact ⟨b, rfl⟩
      | _ => cases hbool
  have hids : ∀ w : World Rehearsal, (w.answer steadySurroundings .freshId).1 ≠ "" ∧
      Placeholder.isTemplate (.str (w.answer steadySurroundings .freshId).1) = false :=
    fun _ ↦ (by decide +kernel : "00000000-0000-4000-8000-000000000000" ≠ "" ∧
      Placeholder.isTemplate (.str "00000000-0000-4000-8000-000000000000") = false)
  refine ⟨r, hr, fun turns err action details ↦ ?_⟩
  exact (not_reports_invalidParams steadySurroundings hids { registry := Action.builtinRegistry }
    rfl [r] (List.forall_mem_singleton.2 ⟨_, plainDocument, hdistinct, hplain, hexplicit, hr⟩) _ _
    _ _ action details).2.1 turns err

/-- Whether a run failed because the parameters of an action do not fit. -/
private def isInvalidParams (name : String) : Option (Except ActionError (Option Json)) → Bool
  | some (.error (.invalidParams action _)) => action == name
  | _ => false

private theorem exists_of_isInvalidParams {name : String}
    {outcome : Option (Except ActionError (Option Json))}
    (h : isInvalidParams name outcome = true) :
    ∃ details, outcome = some (.error (.invalidParams name details)) := by
  rw [isInvalidParams.eq_def] at h
  split at h
  case h_1 action details => exact ⟨details, by rw [beq_iff_eq.1 h]⟩
  case h_2 => cases h

/-- A document whose only action needs a selector, and has no parameters. -/
def bareDocument : Json :=
  .obj [("name", .str "demo"), ("actions", .arr [.obj [("name", .str "click")]])]

/-- The document is accepted, and its run fails because a parameter is missing. -/
theorem reports_invalidParams_bare :
    bareDocument.Distinct ∧ bareDocument.Plain ∧
      Recipe.ofDocument Action.builtinRegistry.contains bareDocument =
        .ok ⟨"demo", none, [⟨"click", none, true⟩]⟩ ∧
      ∃ turns details, (runBy { registry := Action.builtinRegistry } Rehearsal.surroundings
        { store := {}, rest := {} } [] [⟨"demo", none, [⟨"click", none, true⟩]⟩] none none
          turns).1 = some (.error (.invalidParams "click" details)) := by
  refine ⟨by decide +kernel, by decide +kernel, rfl, List.replicate 60 .main, ?_⟩
  have hfails : isInvalidParams "click" (runBy { registry := Action.builtinRegistry }
      Rehearsal.surroundings { store := {}, rest := {} } []
      [⟨"demo", none, [⟨"click", none, true⟩]⟩] none none (List.replicate 60 .main)).1 = true := by
    decide +kernel
  exact exists_of_isInvalidParams hfails

end Engine
end WebRecipe
