import Mathlib.Data.List.Forall2
import WebRecipe.Action.Builtin
import WebRecipe.Proofs.Recipe.Approved

/-!
# Accepted documents

A document is accepted when the check finds no issues in it. Nothing more can go wrong then: what
has the shape of a recipe is decoded to a recipe, which has the name and the description of the
document and an action for each item of its list. So the only reason for which a document is not
accepted are the issues that the check lists.

The check looks at the actions at every depth, in all parameters that may hold nested actions,
whatever the action is whose parameters they are. All of them are registered in a document without
issues.

## Main definitions

* `ActionCall.DescribedBy`, `Recipe.DescribedBy`: a value says all that an action or a recipe is.
* `Recipe.ActionWithin`: the actions that stand in a document, at any depth.

## Main results

* `Recipe.exists_decode_of_check`: what has the shape of a recipe is decoded.
* `Recipe.describedBy_of_decode`: a recipe is what its document says.
* `Recipe.accepts_checked`: a document is accepted just when it has no issues.
-/

namespace WebRecipe

/-! ### Shapes -/

namespace Schema

theorem check_boolean_eq_nil {v : Json} : boolean.check v = [] ↔ ∃ b, v = .bool b := by
  cases v with
  | bool b => exact iff_of_true rfl ⟨b, rfl⟩
  | _ => exact iff_of_false nofun nofun

theorem exists_str_of_check_name {v : Json} (h : name.check v = []) : ∃ s, v = .str s := by
  cases v with
  | str s => exact ⟨s, rfl⟩
  | _ => cases h

/-- The shape of an action of a list. -/
def listed : Schema :=
  object [("name", text 1), ("params", object [] [] false), ("await", boolean)] ["name"] true

/-- What has the shape of a recipe has a name and a list of what has the shape of an action, and a
description that is missing or a text. -/
theorem exists_of_check_recipe {document : Json} (h : recipe.check document = []) :
    ∃ (ms : Members) (name : String) (items : List Json), document = .obj ms ∧
      ms.get? "name" = some (.str name) ∧
      (∀ v, ms.get? "description" = some v → ∃ s, v = .str s) ∧
      ms.get? "actions" = some (.arr items) ∧ ∀ v ∈ items, listed.check v = [] := by
  obtain ⟨ms, rfl, hrequired, hfits⟩ := check_object_eq_nil.1 h
  have hpresent {key : String} (hkey : key ∈ ["name", "actions"]) :
      ∃ v, Members.get? ms key = some v := by
    rw [← Option.isSome_iff_exists, ← Members.has_eq_isSome]
    exact hrequired key hkey
  obtain ⟨v, hname⟩ := hpresent (List.mem_cons_self)
  obtain ⟨w, hactions⟩ := hpresent (List.mem_cons_of_mem _ List.mem_cons_self)
  simp only [List.forall_mem_cons] at hfits
  obtain ⟨hnamed, hdescribed, hlisted, -⟩ := hfits
  obtain ⟨name, rfl⟩ := exists_str_of_check_name (hnamed v hname)
  obtain ⟨items, rfl, -, hitems⟩ := check_array_eq_nil.1 (hlisted w hactions)
  refine ⟨ms, name, items, rfl, hname, fun u hu ↦ ?_, hactions, hitems⟩
  obtain ⟨s, hs, -⟩ := check_text_eq_nil.1 (hdescribed u hu)
  exact ⟨s, hs⟩

/-- What has the shape of an action has a name, and parameters and a note on awaiting that are
missing or of the right type. -/
theorem exists_of_check_listed {v : Json} (h : listed.check v = []) :
    ∃ (ms : Members) (name : String), v = .obj ms ∧ ms.get? "name" = some (.str name) ∧
      (∀ w, ms.get? "params" = some w → ∃ ps, w = .obj ps) ∧
      ∀ w, ms.get? "await" = some w → ∃ b, w = .bool b := by
  obtain ⟨ms, rfl, hrequired, hfits⟩ := check_object_eq_nil.1 h
  have hpresent : Members.has ms "name" = true := hrequired "name" List.mem_cons_self
  rw [Members.has_eq_isSome, Option.isSome_iff_exists] at hpresent
  obtain ⟨v, hname⟩ := hpresent
  simp only [List.forall_mem_cons] at hfits
  obtain ⟨hnamed, hparams, hawait, -⟩ := hfits
  obtain ⟨name, rfl, -⟩ := check_text_eq_nil.1 (hnamed v hname)
  refine ⟨ms, name, rfl, hname, fun w hw ↦ ?_, fun w hw ↦ check_boolean_eq_nil.1 (hawait w hw)⟩
  obtain ⟨ps, hps, -⟩ := check_object_eq_nil.1 (hparams w hw)
  exact ⟨ps, hps⟩

end Schema

/-! ### What documents say -/

/-- A value says all that an action is: its name, its parameters if it has any, and that it is
awaited, which it also is where nothing is said on it. -/
structure ActionCall.DescribedBy (v : Json) (call : ActionCall) : Prop where
  name : v.get? "name" = some (.str call.name)
  params : v.get? "params" = call.params.map .obj
  await : call.await = true ↔ v.get? "await" = none ∨ v.get? "await" = some (.bool true)

/-- A document says all that a recipe is: its name, its description if it has any, and one action
after another. -/
structure Recipe.DescribedBy (document : Json) (r : Recipe) : Prop where
  name : document.get? "name" = some (.str r.name)
  description : document.get? "description" = r.description.map .str
  actions : ∃ items, document.get? "actions" = some (.arr items) ∧
    List.Forall₂ ActionCall.DescribedBy items r.actions

/-- A list is decoded item by item. -/
theorem Decode.forall₂_of_mapM {α β : Type} {f : α → Result β} {R : α → β → Prop} {as : List α}
    {bs : List β} (h : as.mapM f = .ok bs) (hR : ∀ a ∈ as, ∀ b, f a = .ok b → R a b) :
    List.Forall₂ R as bs := by
  induction as generalizing bs with
  | nil =>
    cases h
    exact .nil
  | cons a as ih =>
    rw [List.mapM_cons] at h
    obtain ⟨b, hb, hrest⟩ := bind_eq_ok_iff.1 h
    obtain ⟨bs', hbs', hpure⟩ := bind_eq_ok_iff.1 hrest
    cases hpure
    obtain ⟨ha, has⟩ := List.forall_mem_cons.1 hR
    exact .cons (ha b hb) (ih hbs' has)

/-- An action is what the value says that it is decoded from. -/
theorem ActionCall.describedBy_of_decode {v : Json} (hshape : Schema.listed.check v = [])
    (hkeys : v.keys.Nodup) {call : ActionCall} (h : decode v = .ok call) : call.DescribedBy v := by
  obtain ⟨ms, name, rfl, hname, hparams, hawait⟩ := Schema.exists_of_check_listed hshape
  obtain ⟨hnamed, hcalled⟩ := decode_obj hkeys h
  obtain ⟨hawaited, hunsaid⟩ := await_of_decode hkeys h
  refine ⟨?_, ?_, ?_⟩
  · rw [← hnamed _ hname]
    exact hname
  · rw [hcalled]
    cases hget : ms.get? "params" with
    | none => exact hget
    | some w =>
      obtain ⟨ps, rfl⟩ := hparams w hget
      exact hget
  · rw [Json.get?]
    cases hget : ms.get? "await" with
    | none => simp [hunsaid hget]
    | some w =>
      rw [hawaited w hget]
      simp

/-- What has the shape of an action is decoded. -/
theorem ActionCall.exists_decode_of_check {v : Json} (hshape : Schema.listed.check v = [])
    (hkeys : v.keys.Nodup) : ∃ call, decode v = .ok call := by
  obtain ⟨ms, name, rfl, hname, hparams, hawait⟩ := Schema.exists_of_check_listed hshape
  exact exists_decode hkeys ⟨name, hname⟩ hparams hawait

namespace Recipe

variable {document : Json} {isRegistered : String → Bool}

/-- The items of the list of a document are parts of it. -/
private theorem keys_nodup_item (hdistinct : document.Distinct) {items : List Json}
    (hitems : document.get? "actions" = some (.arr items)) {v : Json} (hv : v ∈ items) :
    v.keys.Nodup :=
  hdistinct v (Json.parts_get? hitems (Json.parts_item hv v.mem_parts_self))

/-- What has the shape of a recipe is decoded. -/
theorem exists_decode_of_check (hshape : Schema.recipe.check document = [])
    (hdistinct : document.Distinct) : ∃ r, decode document = .ok r := by
  obtain ⟨ms, name, items, rfl, hname, hdescription, hactions, hlisted⟩ :=
    Schema.exists_of_check_recipe hshape
  refine exists_decode (hdistinct _ (Json.mem_parts_self _)) ⟨name, hname⟩ hdescription
    ⟨items, hactions, fun v hv ↦ ?_⟩
  exact ActionCall.exists_decode_of_check (hlisted v hv) (keys_nodup_item hdistinct hactions hv)

/-- A recipe is what the document says that it is decoded from. -/
theorem describedBy_of_decode (hshape : Schema.recipe.check document = [])
    (hdistinct : document.Distinct) {r : Recipe} (h : decode document = .ok r) :
    r.DescribedBy document := by
  obtain ⟨ms, name, items, rfl, hname, hdescription, hactions, hlisted⟩ :=
    Schema.exists_of_check_recipe hshape
  have hkeys : (ms.map Prod.fst).Nodup := hdistinct _ (Json.mem_parts_self _)
  obtain ⟨hnamed, hdecoded⟩ := decode_obj hkeys h
  refine ⟨?_, ?_, items, hactions, ?_⟩
  · rw [← hnamed _ hname]
    exact hname
  · rw [description_of_decode hkeys h]
    cases hget : ms.get? "description" with
    | none => exact hget
    | some v =>
      obtain ⟨s, rfl⟩ := hdescription v hget
      exact hget
  · refine Decode.forall₂_of_mapM (hdecoded _ hactions) fun v hv call hcall ↦ ?_
    exact ActionCall.describedBy_of_decode (hlisted v hv) (keys_nodup_item hdistinct hactions hv)
      hcall

/-! ### Actions at every depth -/

/-- The actions that stand in a document: those of its list, and those of the lists in the
parameters that may hold nested actions, whatever action has them. -/
inductive ActionWithin (document : Json) : Json → Prop
  | top {items : List Json} {v : Json} (hitems : document.get? "actions" = some (.arr items))
      (mem : v ∈ items) : ActionWithin document v
  | nested {outer : Json} {ps : Members} {key : String} {items : List Json} {v : Json}
      (houter : ActionWithin document outer) (hparams : outer.get? "params" = some (.obj ps))
      (hkey : key = "actions" ∨ key = "elseActions") (hitems : ps.get? key = some (.arr items))
      (mem : v ∈ items) : ActionWithin document v

/-- The actions that stand in a document without issues are approved. -/
theorem ActionWithin.approved (hcheck : Schema.checkRecipe isRegistered document = []) {v : Json}
    (h : ActionWithin document v) : Schema.Approved isRegistered v := by
  induction h with
  | top hitems mem =>
    obtain ⟨items, hitems', happroved⟩ := Schema.approved_of_checkRecipe hcheck
    cases hitems.symm.trans hitems'
    exact happroved _ mem
  | nested _ hparams hkey hitems mem ih =>
    have hbody : _ ∈ Schema.bodyParams := List.mem_cons.2 (hkey.imp_right List.mem_singleton.2)
    cases ih with
    | intro _ _ _ nested => exact nested _ hparams _ hbody _ hitems _ mem

/-- **A document is accepted just when it has no issues.** The issues are then the only reason for
which it is not accepted; a recipe that is accepted is what its document says; and where there are
no issues every action that stands in the document, at any depth, has a name that is registered. -/
theorem accepts_checked (isRegistered : String → Bool) (document : Json)
    (hdistinct : document.Distinct) :
    ((∃ r, ofDocument isRegistered document = .ok r) ↔
      Schema.checkRecipe isRegistered document = []) ∧
    (∀ err, ofDocument isRegistered document = .error err →
      err = .invalidRecipe ((document.getStr? "name").getD unnamed)
        (Issue.lines (Schema.checkRecipe isRegistered document))) ∧
    (∀ r, ofDocument isRegistered document = .ok r → r.DescribedBy document) ∧
    (Schema.checkRecipe isRegistered document = [] → ∀ v, ActionWithin document v →
      ∃ name, v.get? "name" = some (.str name) ∧ isRegistered name = true) := by
  have haccepted (hcheck : Schema.checkRecipe isRegistered document = []) :
      ∃ r, ofDocument isRegistered document = .ok r := by
    obtain ⟨r, hr⟩ := exists_decode_of_check (Schema.check_recipe_of_checkRecipe hcheck) hdistinct
    refine ⟨r, ?_⟩
    rw [ofDocument, hcheck, hr]
    rfl
  refine ⟨⟨?_, haccepted⟩, fun err herr ↦ ?_, fun r hr ↦ ?_, fun hcheck v hv ↦ ?_⟩
  · rintro ⟨r, hr⟩
    exact (decode_of_ofDocument hr).1
  · by_cases hcheck : Schema.checkRecipe isRegistered document = []
    · obtain ⟨r, hr⟩ := haccepted hcheck
      cases hr.symm.trans herr
    · rw [ofDocument, if_neg (by simpa using hcheck)] at herr
      cases herr
      rfl
  · obtain ⟨hcheck, hdecode⟩ := decode_of_ofDocument hr
    exact describedBy_of_decode (Schema.check_recipe_of_checkRecipe hcheck) hdistinct hdecode
  · cases hv.approved hcheck with
    | intro hname registered => exact ⟨_, hname, registered⟩

/-- A document with a description and two branches, the second of which is a loop. Its first action
is not waited for. -/
def branchingDocument : Json :=
  let log (text : String) : Json := .obj [("name", .str "log"), ("params",
    .obj [("message", .str text)])]
  let loop : Json := .obj [("name", .str "for"), ("params", .obj [("from", .int 1),
    ("until", .int 3), ("actions", .arr [log "again"])])]
  let branch : Json := .obj [("name", .str "ifElse"), ("params", .obj [("condition", .str "1 < 2"),
    ("actions", .arr [log "yes"]), ("elseActions", .arr [loop])])]
  .obj [("name", .str "branching"), ("description", .str "two branches"),
    ("actions", .arr [.obj [("name", .str "uuid"), ("await", .bool false)], branch])]

/-- The document is accepted, and its recipe is what it says. -/
theorem accepts_checked_branching :
    branchingDocument.Distinct ∧
      Schema.checkRecipe Action.builtinRegistry.contains branchingDocument = [] ∧
      ∃ r, ofDocument Action.builtinRegistry.contains branchingDocument = .ok r ∧
        r.DescribedBy branchingDocument := by
  have hdistinct : branchingDocument.Distinct := by decide +kernel
  have hcheck : Schema.checkRecipe Action.builtinRegistry.contains branchingDocument = [] := by
    decide +kernel
  obtain ⟨haccepts, -, hdescribed, -⟩ :=
    accepts_checked Action.builtinRegistry.contains branchingDocument hdistinct
  obtain ⟨r, hr⟩ := haccepts.2 hcheck
  exact ⟨hdistinct, hcheck, r, hr, hdescribed r hr⟩

end Recipe
end WebRecipe
