import WebRecipe.Proofs.Recipe.Decoding
import WebRecipe.Proofs.Schema
import WebRecipe.Recipe.Load

/-!
# What the check of a recipe approves

A document without issues is an object whose actions are approved: each one has a name that is
registered, its parameters have no issues, and the actions in any list among its parameters that may
hold actions are approved as well. This is read off the check once, along its recursion.

The actions of a document are those of its list and those nested in its branches and loops. All of
them are approved, and parts of the document.

## Main definitions

* `Schema.Approved`: an action without issues, as are those nested in it.
* `Recipe.bodiesOf`, `Recipe.ActionOf`: what is nested in an action, and the actions of a document.
* `Recipe.WrittenOut`: no placeholder stands for nested actions.

## Main results

* `Schema.approved_of_checkRecipe`, `Recipe.ActionOf.approved`: the actions of a document without
  issues.
* `Recipe.ActionOf.of_reaches`: what an action of a document reaches is an action of the document.
-/

namespace WebRecipe

/-! ### Approved actions -/

namespace Schema

variable {isRegistered : String → Bool}

/-- An action without issues: its name is registered, its parameters fit, and the actions nested in
them are approved. -/
inductive Approved (isRegistered : String → Bool) : Json → Prop
  | intro {ms : Members} {name path : String} (hname : ms.get? "name" = some (.str name))
      (registered : isRegistered name = true)
      (params : ∀ ps : Members, ms.get? "params" = some (.obj ps) → paramIssues name ps path = [])
      (nested : ∀ ps : Members, ms.get? "params" = some (.obj ps) → ∀ key ∈ bodyParams, ∀ items,
        ps.get? key = some (.arr items) → ∀ v ∈ items, Approved isRegistered v) :
      Approved isRegistered (.obj ms)

/-- The issues of the parameters of an action are those of the object that it has as parameters. -/
private theorem paramsOf_eq_nil {action path : String} {ms : Members}
    (h : paramsOf isRegistered action path ms = []) {ps : Members}
    (hps : ms.get? "params" = some (.obj ps)) :
    paramIssues action ps path = [] ∧
      ∀ key ∈ bodyParams, nestedIn isRegistered key path ps = [] := by
  induction ms with
  | nil => cases hps
  | cons m rest ih =>
    obtain ⟨key, v⟩ := m
    rw [Members.get?, List.lookup_cons] at hps
    by_cases hkey : key = "params"
    · subst hkey
      cases hps
      rw [paramsOf, if_pos rfl, List.append_eq_nil_iff, List.append_eq_nil_iff] at h
      obtain ⟨⟨hissues, hactions⟩, helse⟩ := h
      exact ⟨hissues, List.forall_mem_cons.2 ⟨hactions, List.forall_mem_singleton.2 helse⟩⟩
    · rw [beq_eq_false_iff_ne.2 (Ne.symm hkey)] at hps
      rw [paramsOf.eq_def] at h
      exact ih ((if_neg hkey).symm.trans h) hps

/-- The issues of the actions in a parameter are those of the list that it holds. -/
private theorem nestedIn_eq_nil {key path : String} {ps : Members}
    (h : nestedIn isRegistered key path ps = []) {items : List Json}
    (hitems : ps.get? key = some (.arr items)) :
    checkBody isRegistered (Issue.joinPath path key) 0 items = [] := by
  induction ps with
  | nil => cases hitems
  | cons p rest ih =>
    obtain ⟨k, v⟩ := p
    rw [Members.get?, List.lookup_cons] at hitems
    by_cases hkey : k = key
    · subst hkey
      rw [beq_self_eq_true] at hitems
      cases hitems
      rw [nestedIn, if_pos rfl] at h
      exact h
    · rw [beq_eq_false_iff_ne.2 (Ne.symm hkey)] at hitems
      rw [nestedIn.eq_def] at h
      exact ih ((if_neg hkey).symm.trans h) hitems

/-- Actions in a row have no issues when each of them has none. -/
private theorem checkBody_eq_nil {path : String} {start : Nat} {items : List Json}
    (h : checkBody isRegistered path start items = []) :
    ∀ v ∈ items, ∃ path, checkAction isRegistered path v = [] := by
  induction items generalizing start with
  | nil => exact nofun
  | cons v rest ih =>
    rw [checkBody, List.append_eq_nil_iff] at h
    exact List.forall_mem_cons.2 ⟨⟨_, h.1⟩, ih h.2⟩

/-- An action without issues is approved. -/
theorem approved_of_checkAction {path : String} {v : Json}
    (h : checkAction isRegistered path v = []) : Approved isRegistered v := by
  -- by induction on the size: the actions in a parameter are in an array in two objects
  induction hsize : sizeOf v using Nat.strongRecOn generalizing path v with
  | ind size ih =>
    subst hsize
    cases v with
    | obj ms =>
      rw [checkAction] at h
      split at h
      · cases h
      case h_2 name hname =>
        split at h
        case isFalse => cases h
        case isTrue hregistered =>
          obtain ⟨v, hv, hstr⟩ := Option.bind_eq_some_iff.1 hname
          rw [Json.asStr?_eq_some_iff.1 hstr] at hv
          refine .intro hv hregistered (fun ps hps ↦ (paramsOf_eq_nil h hps).1)
            fun ps hps key hkey items hitems v hv ↦ ?_
          have hnested := nestedIn_eq_nil ((paramsOf_eq_nil h hps).2 key hkey) hitems
          obtain ⟨path, hcheck⟩ := checkBody_eq_nil hnested v hv
          have hparams : sizeOf (Json.obj ps) < sizeOf (Json.obj ms) := Json.sizeOf_get?_lt hps
          have harray : sizeOf (Json.arr items) < sizeOf (Json.obj ps) := Json.sizeOf_get?_lt hitems
          have hitem := Json.sizeOf_item_lt hv
          exact ih (sizeOf v) (by omega) hcheck rfl
    | _ => cases h

/-- A document without issues fits the shape of a recipe. -/
theorem check_recipe_of_checkRecipe {document : Json} (h : checkRecipe isRegistered document = []) :
    recipe.check document = [] := by
  rw [checkRecipe] at h
  split at h
  case isTrue hshape => exact List.map_eq_nil_iff.1 (List.isEmpty_iff.1 hshape)
  case isFalse hshape =>
    rw [h] at hshape
    exact absurd rfl hshape

/-- A document without issues has a list of approved actions. -/
theorem approved_of_checkRecipe {document : Json} (h : checkRecipe isRegistered document = []) :
    ∃ items, document.get? "actions" = some (.arr items) ∧
      ∀ v ∈ items, Approved isRegistered v := by
  have hshape := check_recipe_of_checkRecipe h
  obtain ⟨ms, rfl, hrequired, hproperties⟩ := check_object_eq_nil.1 hshape
  have hactions : Members.has ms "actions" = true :=
    hrequired _ (List.mem_cons_of_mem _ List.mem_cons_self)
  rw [Members.has_eq_isSome, Option.isSome_iff_exists] at hactions
  obtain ⟨v, hv⟩ := hactions
  obtain ⟨items, rfl, -, -⟩ := check_array_eq_nil.1 (hproperties ("actions", _)
    (List.mem_cons_of_mem _ (List.mem_cons_of_mem _ List.mem_cons_self)) v hv)
  refine ⟨items, hv, ?_⟩
  rw [checkRecipe, hshape] at h
  have hbody : checkBody isRegistered "actions" 0 items = [] := by
    have hget : (Json.obj ms).get? "actions" = some (.arr items) := hv
    rw [hget] at h
    exact h
  intro v hv
  obtain ⟨path, hcheck⟩ := checkBody_eq_nil hbody v hv
  exact approved_of_checkAction hcheck

end Schema

/-! ### The actions of a document -/

namespace Recipe

/-- A document that describes a recipe has no issues, and is decoded to the recipe. -/
theorem decode_of_ofDocument {isRegistered : String → Bool} {document : Json} {r : Recipe}
    (h : ofDocument isRegistered document = .ok r) :
    Schema.checkRecipe isRegistered document = [] ∧ decode document = .ok r := by
  rw [ofDocument] at h
  split at h
  case isTrue hissues => exact ⟨List.isEmpty_iff.1 hissues, mapError_eq_ok_iff.1 h⟩
  case isFalse => cases h

/-- The parameters of an action as a document gives them. -/
def paramsOf (v : Json) : Members :=
  ((v.get? "params").bind Json.asObj?).getD []

/-- What is given to a branch or loop as the actions nested in it. -/
def bodiesOf (v : Json) : List Json :=
  ((v.getStr? "name").elim [] nestingParams).filterMap (paramsOf v).get?

/-- The actions of a document: those of its list, and those nested in its branches and loops. -/
inductive ActionOf (document : Json) : Json → Prop
  | top {items : List Json} {v : Json} (hitems : document.get? "actions" = some (.arr items))
      (mem : v ∈ items) : ActionOf document v
  | nested {items : List Json} {outer v : Json} (houter : ActionOf document outer)
      (body : .arr items ∈ bodiesOf outer) (mem : v ∈ items) : ActionOf document v

/-- The actions nested in the branches and loops of a document are written out: no placeholder
stands in the place of a list of them. -/
def WrittenOut (document : Json) : Prop :=
  ∀ v, ActionOf document v → ∀ b ∈ bodiesOf v, Placeholder.isTemplate b = false

theorem get?_paramsOf {v b : Json} {key : String} (h : (paramsOf v).get? key = some b) :
    ∃ ps : Members, v.get? "params" = some (.obj ps) ∧ ps.get? key = some b := by
  rw [paramsOf] at h
  cases hparams : (v.get? "params").bind Json.asObj? with
  | none =>
    rw [hparams] at h
    cases h
  | some ps =>
    obtain ⟨w, hw, hobj⟩ := Option.bind_eq_some_iff.1 hparams
    rw [hparams] at h
    rw [Json.asObj?_eq_some_iff.1 hobj] at hw
    exact ⟨ps, hw, h⟩

/-- The check looks at all parameters whose actions are performed. -/
private theorem nestingParams_subset (name : String) : nestingParams name ⊆ Schema.bodyParams := by
  rw [nestingParams.eq_def]
  split <;> simp [Schema.bodyParams]

theorem mem_bodiesOf {v b : Json} : b ∈ bodiesOf v ↔
    ∃ name, v.getStr? "name" = some name ∧ ∃ key ∈ nestingParams name,
      (paramsOf v).get? key = some b := by
  rw [bodiesOf, List.mem_filterMap]
  cases v.getStr? "name" with
  | none => simp
  | some name => simp

/-- What is nested in an action stands in one of its parameters for nested actions. -/
private theorem exists_of_mem_bodiesOf {v b : Json} (h : b ∈ bodiesOf v) :
    ∃ ps : Members, v.get? "params" = some (.obj ps) ∧
      ∃ key ∈ Schema.bodyParams, ps.get? key = some b := by
  obtain ⟨name, -, key, hkey, hb⟩ := mem_bodiesOf.1 h
  obtain ⟨ps, hps, hget⟩ := get?_paramsOf hb
  exact ⟨ps, hps, key, nestingParams_subset name hkey, hget⟩

/-- What is nested in an action is part of it. -/
theorem parts_bodiesOf {v b : Json} (h : b ∈ bodiesOf v) : b.parts ⊆ v.parts := by
  obtain ⟨ps, hps, key, -, hget⟩ := exists_of_mem_bodiesOf h
  exact List.Subset.trans (Json.parts_get? (w := .obj ps) hget) (Json.parts_get? hps)

namespace ActionOf

variable {document v : Json}

/-- The actions of a document are parts of it, with all that is in them. -/
theorem parts_subset (h : ActionOf document v) : v.parts ⊆ document.parts := by
  induction h with
  | top hitems mem => exact List.Subset.trans (Json.parts_item mem) (Json.parts_get? hitems)
  | nested _ body mem ih =>
    exact List.Subset.trans (Json.parts_item mem) (List.Subset.trans (parts_bodiesOf body) ih)

variable {isRegistered : String → Bool} (hcheck : Schema.checkRecipe isRegistered document = [])

include hcheck

/-- The actions of a document without issues are approved. -/
theorem approved (h : ActionOf document v) : Schema.Approved isRegistered v := by
  induction h with
  | top hitems mem =>
    obtain ⟨items, hitems', happroved⟩ := Schema.approved_of_checkRecipe hcheck
    cases hitems.symm.trans hitems'
    exact happroved _ mem
  | nested _ body mem ih =>
    obtain ⟨ps, hps, key, hkey, hitems⟩ := exists_of_mem_bodiesOf body
    cases ih with
    | intro _ _ _ nested => exact nested ps hps key hkey _ hitems _ mem

variable (hdistinct : document.Distinct)

include hdistinct

/-- The action that an action of a document describes has its name and its parameters. -/
theorem of_decode (h : ActionOf document v) {call : ActionCall}
    (hcall : ActionCall.decode v = .ok call) :
    v.getStr? "name" = some call.name ∧ call.paramsOrEmpty = paramsOf v ∧
      isRegistered call.name = true := by
  have hkeys := hdistinct v (h.parts_subset v.mem_parts_self)
  cases h.approved hcheck with
  | @intro ms name path hname registered =>
    obtain ⟨hnamed, hparams⟩ := ActionCall.decode_obj hkeys hcall
    cases hnamed _ hname
    refine ⟨?_, ?_, registered⟩
    · rw [Json.getStr?, Json.get?, hname]
      rfl
    · rw [ActionCall.paramsOrEmpty, hparams]
      rfl

variable (hbodies : WrittenOut document)

include hbodies

/-- What an action of a document starts with as nested actions is a list as the document gives it,
without issues, or nothing. -/
theorem body_of_starts (h : ActionOf document v) {call : ActionCall}
    (hcall : ActionCall.decode v = .ok call) {qs : Members} (hstarts : call.Starts qs)
    {key : String} (hkey : key ∈ nestingParams call.name) :
    qs.get? key = none ∨ ∃ items, qs.get? key = some (.arr items) ∧ .arr items ∈ bodiesOf v := by
  obtain ⟨lookup, hvalid⟩ := hstarts
  obtain ⟨hname, hparams, -⟩ := h.of_decode hcheck hdistinct hcall
  rw [hparams] at hvalid
  obtain ⟨heq, hfits⟩ := Schema.get?_of_validate hkey hvalid
  rw [Placeholder.resolveMembers, Members.get?_map] at heq hfits
  cases hb : (paramsOf v).get? key with
  | none =>
    rw [hb] at heq
    exact .inl heq
  | some b =>
    rw [hb, Option.map_some] at heq hfits
    have hmem : b ∈ bodiesOf v := mem_bodiesOf.2 ⟨_, hname, key, hkey, hb⟩
    obtain ⟨items, hitems, -, -⟩ := Schema.check_array_eq_nil.1 (hfits _ rfl)
    have hsame : Placeholder.resolve lookup b = b := by
      cases b with
      | str s => exact Placeholder.resolveText_eq_self (hbodies v h _ hmem)
      | arr items =>
        refine Placeholder.resolve_objects fun item hitem ↦ ?_
        cases (nested h hmem hitem).approved hcheck with
        | intro => exact ⟨_, rfl⟩
      | _ => rfl
    rw [hsame] at heq hitems
    subst hitems
    exact .inr ⟨items, heq, hmem⟩

/-- What an action of a document reaches is described by an action of the document. -/
theorem of_reaches (h : ActionOf document v) {call inner : ActionCall}
    (hcall : ActionCall.decode v = .ok call) (hreaches : call.Reaches inner) :
    ∃ u, ActionOf document u ∧ ActionCall.decode u = .ok inner := by
  induction hreaches with
  | self => exact ⟨v, h, hcall⟩
  | @nested outer inner qs key calls _ hstarts hkey hbody hmem ih =>
    obtain ⟨u, hu, houter⟩ := ih
    rw [Members.body] at hbody
    rcases hu.body_of_starts hcheck hdistinct hbodies houter hstarts hkey with
      hnone | ⟨items, hitems, hmemBody⟩
    · rw [hnone] at hbody
      cases hbody
      cases hmem
    · rw [hitems] at hbody
      obtain ⟨item, hitem, hinner⟩ := Decode.exists_of_mem_mapM (mapError_eq_ok_iff.1 hbody) hmem
      exact ⟨item, nested hu hmemBody hitem, hinner⟩

end ActionOf

/-- In a document without templates everything is written out. -/
theorem WrittenOut.of_plain {document : Json} (h : document.Plain) : WrittenOut document :=
  fun _ hv b hb ↦ h b (hv.parts_subset (parts_bodiesOf hb b.mem_parts_self))

/-- The actions of a recipe are described by actions of its document. -/
theorem exists_actionOf {isRegistered : String → Bool} {document : Json}
    (hdistinct : document.Distinct) {r : Recipe} (h : ofDocument isRegistered document = .ok r)
    {call : ActionCall} (hcall : call ∈ r.actions) :
    ∃ v, ActionOf document v ∧ ActionCall.decode v = .ok call := by
  obtain ⟨hcheck, hdecode⟩ := decode_of_ofDocument h
  obtain ⟨items, hitems, -⟩ := Schema.approved_of_checkRecipe hcheck
  cases document with
  | obj ms =>
    have hactions := (decode_obj (hdistinct _ (Json.mem_parts_self _)) hdecode).2 _ hitems
    obtain ⟨v, hv, hdecoded⟩ := Decode.exists_of_mem_mapM hactions hcall
    exact ⟨v, .top hitems hv, hdecoded⟩
  | _ => cases hitems

end Recipe
end WebRecipe
