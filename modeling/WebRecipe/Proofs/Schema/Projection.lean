import Mathlib.Data.List.Nodup
import WebRecipe.Proofs.Schema

/-!
# Checked parameters pass again

Filling in defaults only adds members behind the given ones, under keys that were missing, and
dropping undeclared members leaves the others as they are and in order. The check is therefore a
projection: what it makes of parameters passes again and stays as it is. That takes three facts of
the table of schemas: what an action cannot do without is declared, every default passes the check
of its own property, and the parameters that must be URLs have no default.

## Main definitions

* `Schema.requiredKeys`, `Schema.declaredKeys`, `Schema.FillsIn`: what a schema asks for, knows and
  adds.
* `Schema.Projection`: how the parameters that an action gets come from those that it was given.

## Main results

* `Schema.withDefaults_eq_append`, `Schema.withDefaults_of_has`: what filling in defaults adds, and
  when it adds nothing.
* `Schema.validate_eq_ok_iff`: when parameters pass the check, and what it makes of them.
* `Schema.validate_projects`: the check is a projection.
-/

namespace WebRecipe.Schema

/-- The keys that an object must have. -/
def requiredKeys : Schema → List String
  | object _ required _ => required
  | _ => []

/-- The keys of the declared properties. -/
def declaredKeys (s : Schema) : List String :=
  s.properties.map Prod.fst

/-- Whether a schema fills in a member where its key is missing. -/
def FillsIn (s : Schema) (m : String × Json) : Prop :=
  ∃ p ∈ s.properties, p.1 = m.1 ∧ p.2.default? = some m.2

/-- What is filled in is declared. -/
theorem FillsIn.mem_declaredKeys {s : Schema} {m : String × Json} (h : s.FillsIn m) :
    m.1 ∈ s.declaredKeys := by
  obtain ⟨p, hp, hkey, -⟩ := h
  exact List.mem_map.2 ⟨p, hp, hkey⟩

/-! ### Filling in -/

/-- The members with the default of one property, if it is missing. -/
private def fillIn (ms : Members) (p : String × Schema) : Members :=
  match p.2.default? with
  | some d => if ms.has p.1 then ms else ms.set p.1 d
  | none => ms

private theorem withDefaults_eq_foldl (s : Schema) (ms : Members) :
    s.withDefaults ms = s.properties.foldl fillIn ms :=
  rfl

/-- The default of one property comes behind the members that are there. -/
private theorem fillIn_eq_append (ms : Members) (p : String × Schema) :
    ∃ added, fillIn ms p = ms ++ added ∧
      ∀ m ∈ added, ms.has m.1 = false ∧ p.1 = m.1 ∧ p.2.default? = some m.2 := by
  have hsame (h : fillIn ms p = ms) : ∃ added, fillIn ms p = ms ++ added ∧
      ∀ m ∈ added, ms.has m.1 = false ∧ p.1 = m.1 ∧ p.2.default? = some m.2 :=
    ⟨[], by rw [h, List.append_nil], nofun⟩
  cases hd : p.2.default? with
  | none => simpa [hd] using hsame (by rw [fillIn, hd])
  | some d =>
    cases hhas : ms.has p.1 with
    | true => simpa [hd] using hsame (by rw [fillIn, hd]; exact if_pos hhas)
    | false =>
      have hnew : p.1 ∉ ms.map Prod.fst := by
        intro hmem
        obtain ⟨m, hm, hkey⟩ := List.mem_map.1 hmem
        rw [Members.has, List.any_eq_false] at hhas
        exact hhas m hm (beq_iff_eq.2 hkey)
      refine ⟨[(p.1, d)], ?_, ?_⟩
      · rw [fillIn, hd]
        dsimp only
        rw [hhas, if_neg Bool.false_ne_true, Members.set_of_notMem hnew]
      · rintro m hm
        cases List.mem_singleton.1 hm
        exact ⟨hhas, rfl, rfl⟩

/-- A key of some of the members is a key of all. -/
private theorem has_append {ms ns : Members} {key : String} :
    Members.has (ms ++ ns) key = (ms.has key || ns.has key) :=
  List.any_append

/-- Defaults come behind the members that are there, under keys that these do not have. -/
theorem withDefaults_eq_append (s : Schema) (ms : Members) :
    ∃ added, s.withDefaults ms = ms ++ added ∧
      ∀ m ∈ added, ms.has m.1 = false ∧ s.FillsIn m := by
  rw [withDefaults_eq_foldl]
  unfold FillsIn
  generalize s.properties = properties
  induction properties generalizing ms with
  | nil => exact ⟨[], (List.append_nil ms).symm, nofun⟩
  | cons p rest ih =>
    obtain ⟨first, hfirst, hofFirst⟩ := fillIn_eq_append ms p
    obtain ⟨others, hothers, hofOthers⟩ := ih (ms ++ first)
    refine ⟨first ++ others, ?_, fun m hm ↦ ?_⟩
    · rw [List.foldl_cons, hfirst, hothers, List.append_assoc]
    · rcases List.mem_append.1 hm with hm | hm
      · obtain ⟨hnew, hkey, hd⟩ := hofFirst m hm
        exact ⟨hnew, p, List.mem_cons_self, hkey, hd⟩
      · obtain ⟨hnew, q, hq, hd⟩ := hofOthers m hm
        rw [has_append, Bool.or_eq_false_iff] at hnew
        exact ⟨hnew.1, q, List.mem_cons_of_mem p hq, hd⟩

/-- After filling in, every key with a default is there. -/
private theorem has_withDefaults {s : Schema} {m : String × Json} (h : s.FillsIn m)
    (ms : Members) : (s.withDefaults ms).has m.1 = true := by
  obtain ⟨p, hp, hkey, hd⟩ := h
  rw [withDefaults_eq_foldl]
  generalize s.properties = properties at hp
  induction properties generalizing ms with
  | nil => cases hp
  | cons q rest ih =>
    rcases List.mem_cons.1 hp with rfl | hp
    · obtain ⟨added, hadded, -⟩ := withDefaults_eq_append (object rest [] false) (fillIn ms p)
      have hfilled : (fillIn ms p).has m.1 = true := by
        rw [fillIn, hd, ← hkey]
        dsimp only
        split
        case isTrue hhas => exact hhas
        case isFalse =>
          rw [Members.has_eq_isSome, Members.get?_set_self]
          rfl
      rw [withDefaults_eq_foldl] at hadded
      rw [List.foldl_cons]
      refine (congrArg (Members.has · m.1) hadded).trans ?_
      rw [has_append, hfilled, Bool.true_or]
    · exact ih (fillIn ms q) hp

/-- Filling in adds nothing where every key with a default is there. -/
theorem withDefaults_of_has {s : Schema} {ms : Members}
    (h : ∀ m, s.FillsIn m → ms.has m.1 = true) : s.withDefaults ms = ms := by
  rw [withDefaults_eq_foldl]
  unfold FillsIn at h
  generalize s.properties = properties at h
  induction properties with
  | nil => rfl
  | cons p rest ih =>
    have hp : fillIn ms p = ms := by
      rw [fillIn]
      split
      case h_1 d hd => exact if_pos (h (p.1, d) ⟨p, List.mem_cons_self, rfl, hd⟩)
      case h_2 => rfl
    rw [List.foldl_cons, hp]
    exact ih fun m ⟨q, hq, hd⟩ ↦ h m ⟨q, List.mem_cons_of_mem p hq, hd⟩

/-- Filling in leaves the values of the keys that are there alone. -/
private theorem get?_withDefaults_of_has (s : Schema) {ms : Members} {key : String}
    (h : ms.has key = true) : (s.withDefaults ms).get? key = ms.get? key := by
  obtain ⟨added, hadded, -⟩ := withDefaults_eq_append s ms
  rw [Members.has_eq_isSome] at h
  obtain ⟨v, hv⟩ := Option.isSome_iff_exists.1 h
  rw [hadded, Members.get?_append, hv, Option.some_or]

/-! ### The table -/

/-- What an action cannot do without is declared, and nothing is declared twice. -/
theorem declaredKeys_spec : ∀ entry ∈ actions,
    entry.2.requiredKeys ⊆ entry.2.declaredKeys ∧ entry.2.declaredKeys.Nodup := by
  decide +kernel

/-- Every default passes the check of its own property. -/
theorem check_default :
    ∀ entry ∈ actions, ∀ p ∈ entry.2.properties, ∀ d ∈ p.2.default?, p.2.check d = [] := by
  decide +kernel

/-- The parameters that must be URLs are declared and have no default. -/
theorem urlParams_spec : ∀ entry ∈ actions, ∀ key ∈ urlParams entry.1,
    keepsUndeclared entry.1 = false ∧ (∃ p ∈ entry.2.properties, p.1 = key) ∧
      ∀ p ∈ entry.2.properties, p.1 = key → p.2.default? = none := by
  have hrows : ∀ entry ∈ actions, ∀ key ∈ urlParams entry.1,
      keepsUndeclared entry.1 = false ∧ (∃ p ∈ entry.2.properties, p.1 = key) ∧
        ∀ p ∈ entry.2.properties, p.1 = key → p.2.default?.isNone = true := by
    decide +kernel
  simpa only [Option.isNone_iff_eq_none] using hrows

/-- A schema that an action has stands in the table. -/
private theorem mem_actions {action : String} {s : Schema} (hs : ofAction? action = some s) :
    (action, s) ∈ actions := by
  obtain ⟨before, after, heq, -⟩ := List.lookup_eq_some_iff.1 hs
  rw [heq]
  exact List.mem_append_right _ List.mem_cons_self

/-! ### The check -/

variable {action : String} {s : Schema} {ps qs : Members}

/-- Whether the check leaves a parameter in that has a schema. -/
def admits (action : String) (s : Schema) (key : String) : Bool :=
  keepsUndeclared action || s.properties.any (fun p ↦ p.1 == key)

/-- Declared parameters stay. -/
private theorem admits_of_mem {key : String} (h : key ∈ s.declaredKeys) :
    admits action s key = true := by
  obtain ⟨p, hp, hkey⟩ := List.mem_map.1 h
  rw [admits, Bool.or_eq_true]
  exact .inr (List.any_eq_true.2 ⟨p, hp, beq_iff_eq.2 hkey⟩)

/-- Parameters pass the check when they have no issues. The missing ones with a default are then
filled in, and those that the action does not take are dropped. -/
theorem validate_eq_ok_iff (hs : ofAction? action = some s) :
    validate action ps = .ok qs ↔ s.check (.obj ps) = [] ∧
      urlIssues action ps (fun _ ↦ false) = [] ∧
        qs = (s.withDefaults ps).filter fun m ↦ admits action s m.1 := by
  have hkept : (if keepsUndeclared action then s.withDefaults ps
      else s.declaredOnly (s.withDefaults ps)) =
        (s.withDefaults ps).filter fun m ↦ admits action s m.1 := by
    unfold admits
    split
    case isTrue hkeeps =>
      rw [hkeeps]
      exact (List.filter_eq_self.2 fun _ _ ↦ rfl).symm
    case isFalse hdrops =>
      rw [Bool.not_eq_true] at hdrops
      rw [hdrops]
      rfl
  constructor
  · intro h
    rw [validate, hs] at h
    dsimp only at h
    split at h
    case isFalse => cases h
    case isTrue hissues =>
      obtain ⟨hcheck, hurls⟩ := List.append_eq_nil_iff.1 (List.isEmpty_iff.1 hissues)
      cases h
      exact ⟨hcheck, hurls, hkept⟩
  · rintro ⟨hcheck, hurls, rfl⟩
    rw [← hkept]
    exact validate_of_check hs hcheck hurls

/-- A parameter that the action takes and that was given keeps its value. -/
private theorem get?_of_admits (hs : ofAction? action = some s) (h : validate action ps = .ok qs)
    {key : String} (hkey : admits action s key = true) (hhas : ps.has key = true) :
    qs.get? key = ps.get? key := by
  obtain ⟨-, -, hqs⟩ := (validate_eq_ok_iff hs).1 h
  rw [hqs, Members.get?_filter fun _ ↦ hkey, get?_withDefaults_of_has s hhas]

/-- What the check adds to the parameters has a default. -/
private theorem fillsIn_of_mem {m : String × Json} (hm : m ∈ s.withDefaults ps)
    (hhas : ps.has m.1 = false) : s.FillsIn m := by
  obtain ⟨added, hadded, hnew⟩ := withDefaults_eq_append s ps
  rw [hadded] at hm
  rcases List.mem_append.1 hm with hm | hm
  · rw [Members.has, List.any_eq_false] at hhas
    exact absurd (beq_iff_eq.2 rfl) (hhas m hm)
  · exact (hnew m hm).2

/-- An object has no issues as soon as it has what another one without issues must have, and the
values of its declared properties have none. -/
private theorem check_obj_of_check_obj (h : s.check (.obj ps) = [])
    (hrequired : ∀ key ∈ s.requiredKeys, qs.has key = true)
    (hproperties : ∀ p ∈ s.properties, ∀ v, qs.get? p.1 = some v → p.2.check v = []) :
    s.check (.obj qs) = [] := by
  cases s with
  | object properties required missingFirst =>
    exact check_object_eq_nil.2 ⟨qs, rfl, hrequired, hproperties⟩
  | any => rfl
  | _ => simp [check, typeIssue, isNumber, isInteger] at h

/-- What an action cannot do without is there after the check. -/
theorem has_of_validate (hs : ofAction? action = some s) (h : validate action ps = .ok qs)
    {key : String} (hkey : key ∈ s.requiredKeys) : qs.has key = true := by
  have hhas : ps.has key = true := by
    have hcheck := check_of_validate hs h
    cases s with
    | object properties required missingFirst =>
      obtain ⟨_, heq, hrequired, -⟩ := check_object_eq_nil.1 hcheck
      cases heq
      exact hrequired key hkey
    | _ => cases hkey
  have hdeclared := (declaredKeys_spec _ (mem_actions hs)).1 hkey
  rw [Members.has_eq_isSome, get?_of_admits hs h (admits_of_mem hdeclared) hhas,
    ← Members.has_eq_isSome, hhas]

/-- After the check the values of the declared properties have no issues: they are the given ones or
the defaults. -/
theorem check_of_get? (hs : ofAction? action = some s) (h : validate action ps = .ok qs)
    {p : String × Schema} (hp : p ∈ s.properties) {v : Json} (hv : qs.get? p.1 = some v) :
    p.2.check v = [] := by
  obtain ⟨hcheck, -, hqs⟩ := (validate_eq_ok_iff hs).1 h
  have hmem := mem_actions hs
  cases hhas : ps.has p.1 with
  | true =>
    rw [get?_of_admits hs h (admits_of_mem (List.mem_map_of_mem hp)) hhas] at hv
    exact check_property hcheck hp hv
  | false =>
    have hvmem := Members.mem_of_get? hv
    rw [hqs] at hvmem
    obtain ⟨q, hq, hkey, hd⟩ := fillsIn_of_mem (List.mem_filter.1 hvmem).1 hhas
    obtain rfl := List.inj_on_of_nodup_map (declaredKeys_spec _ hmem).2 hq hp hkey
    exact check_default _ hmem q hq v hd

/-- The check leaves URLs as they are. -/
private theorem urlIssues_of_validate (hs : ofAction? action = some s)
    (h : validate action ps = .ok qs) : urlIssues action qs (fun _ ↦ false) = [] := by
  obtain ⟨-, hurls, -⟩ := (validate_eq_ok_iff hs).1 h
  rw [← hurls]
  unfold urlIssues
  refine List.filterMap_congr fun key hkey ↦ ?_
  obtain ⟨hdrops, hdeclared, hnone⟩ :=
    urlParams_spec _ (mem_actions hs) key (List.mem_filter.1 hkey).1
  rw [get?_declared_of_validate hs hdrops h hdeclared hnone]

/-- What the check makes of parameters with a schema passes again. -/
private theorem validate_eq_of_validate (hs : ofAction? action = some s)
    (h : validate action ps = .ok qs) : validate action qs = .ok qs := by
  obtain ⟨hcheck, -, hqs⟩ := (validate_eq_ok_iff hs).1 h
  have hfilled (m : String × Json) (hm : s.FillsIn m) : qs.has m.1 = true := by
    rw [Members.has_eq_isSome, hqs, Members.get?_filter fun _ ↦ admits_of_mem hm.mem_declaredKeys,
      ← Members.has_eq_isSome, has_withDefaults hm]
  have hadmits (m : String × Json) (hm : m ∈ qs) : admits action s m.1 = true := by
    rw [hqs] at hm
    exact (List.mem_filter.1 hm).2
  refine (validate_eq_ok_iff hs).2 ⟨?_, urlIssues_of_validate hs h, ?_⟩
  · exact check_obj_of_check_obj hcheck (fun _ ↦ has_of_validate hs h)
      fun _ hp _ ↦ check_of_get? hs h hp
  · rw [withDefaults_of_has hfilled, List.filter_eq_self.2 hadmits]

/-- What was given and stays is in order. -/
private theorem sublist_of_validate (hs : ofAction? action = some s)
    (h : validate action ps = .ok qs) : (qs.filter fun m ↦ ps.has m.1).Sublist ps := by
  obtain ⟨-, -, hqs⟩ := (validate_eq_ok_iff hs).1 h
  obtain ⟨added, hadded, hnew⟩ := withDefaults_eq_append s ps
  have hgone : added.filter (fun m ↦ ps.has m.1 && admits action s m.1) = [] := by
    refine List.filter_eq_nil_iff.2 fun m hm hhas ↦ ?_
    rw [(hnew m hm).1, Bool.false_and] at hhas
    cases hhas
  rw [hqs, hadded, List.filter_filter, List.filter_append, hgone, List.append_nil]
  exact List.filter_sublist

/-- How the parameters that an action gets come from those that it was given. -/
structure Projection (action : String) (ps qs : Members) : Prop where
  /-- They pass the check again and stay as they are. -/
  validate_eq : validate action qs = .ok qs
  /-- A declared parameter that was given keeps its value. -/
  get?_of_declared : ∀ s, ofAction? action = some s → ∀ key ∈ s.declaredKeys,
    ps.has key = true → qs.get? key = ps.get? key
  /-- What the action cannot do without is there. -/
  has_required : ∀ s, ofAction? action = some s → ∀ key ∈ s.requiredKeys, qs.has key = true
  /-- Nothing is there that is not declared, except for the arguments of a call. -/
  declared : ∀ s, ofAction? action = some s → action ≠ "puppeteer" →
    ∀ m ∈ qs, m.1 ∈ s.declaredKeys
  /-- Where undeclared parameters are taken, nothing is lost. -/
  get?_of_kept : action = "puppeteer" ∨ ofAction? action = none →
    ∀ key, ps.has key = true → qs.get? key = ps.get? key
  /-- What was not given is a default. -/
  fillsIn : ∀ m ∈ qs, ps.has m.1 = false → ∃ s, ofAction? action = some s ∧ s.FillsIn m
  /-- What was given stays in order. -/
  sublist : (qs.filter fun m ↦ ps.has m.1).Sublist ps

/-- **The check of parameters is a projection.** What it makes of parameters passes again as it is,
keeps what is declared and has what is required; other parameters stay only for `puppeteer` and for
actions without a schema, which lose none; whatever comes in addition is a default, and what is kept
stays in order. -/
theorem validate_projects (h : validate action ps = .ok qs) : Projection action ps qs := by
  cases hs : ofAction? action with
  | none =>
    have hqs : qs = ps := by
      rw [validate, hs] at h
      cases h
      rfl
    subst hqs
    have hnone (s : Schema) : ofAction? action ≠ some s :=
      fun hs' ↦ Option.some_ne_none s (hs'.symm.trans hs)
    have hhas (m : String × Json) (hm : m ∈ qs) : qs.has m.1 = true :=
      List.any_eq_true.2 ⟨m, hm, beq_iff_eq.2 rfl⟩
    exact {
      validate_eq := h
      get?_of_declared := fun s hs' ↦ absurd hs' (hnone s)
      has_required := fun s hs' ↦ absurd hs' (hnone s)
      declared := fun s hs' ↦ absurd hs' (hnone s)
      get?_of_kept := fun _ _ _ ↦ rfl
      fillsIn := fun m hm hno ↦ absurd (hno.symm.trans (hhas m hm)) Bool.false_ne_true
      sublist := List.filter_sublist }
  | some s =>
    obtain ⟨-, -, hqs⟩ := (validate_eq_ok_iff hs).1 h
    have hadmits (m : String × Json) (hm : m ∈ qs) :
        m ∈ s.withDefaults ps ∧ admits action s m.1 = true := by
      rw [hqs] at hm
      exact List.mem_filter.1 hm
    exact {
      validate_eq := validate_eq_of_validate hs h
      get?_of_declared := by
        intro s' hs' key hkey hhas
        cases hs.symm.trans hs'
        exact get?_of_admits hs h (admits_of_mem hkey) hhas
      has_required := by
        intro s' hs' key hkey
        cases hs.symm.trans hs'
        exact has_of_validate hs h hkey
      declared := by
        intro s' hs' haction m hm
        cases hs.symm.trans hs'
        have hkey := (hadmits m hm).2
        rw [admits, keepsUndeclared, beq_eq_false_iff_ne.2 haction, Bool.false_or] at hkey
        obtain ⟨p, hp, hkey⟩ := List.any_eq_true.1 hkey
        exact List.mem_map.2 ⟨p, hp, beq_iff_eq.1 hkey⟩
      get?_of_kept := by
        rintro (rfl | hnone) key hhas
        · exact get?_of_admits hs h rfl hhas
        · cases hs.symm.trans hnone
      fillsIn := fun m hm hno ↦ ⟨s, hs, fillsIn_of_mem (hadmits m hm).1 hno⟩
      sublist := sublist_of_validate hs h }

/-- The parameters of a loop: the undeclared one is dropped, and the step is filled in. -/
theorem validate_projects_for :
    validate "for"
        [("extra", .bool true), ("from", .int 1), ("until", .int 3), ("actions", .arr [])] =
      .ok [("from", .int 1), ("until", .int 3), ("actions", .arr []), ("step", .int 1)] ∧
    Projection "for"
      [("extra", .bool true), ("from", .int 1), ("until", .int 3), ("actions", .arr [])]
      [("from", .int 1), ("until", .int 3), ("actions", .arr []), ("step", .int 1)] :=
  ⟨rfl, validate_projects rfl⟩

end WebRecipe.Schema
