import Mathlib.Data.String.Basic
import WebRecipe.Condition.Eval
import WebRecipe.Proofs.Condition.Sandbox
import WebRecipe.Proofs.Members

/-!
# Properties in order

The properties of an object are sorted by key, and no key is there twice. Values of JSON have this
form, and evaluation keeps it: where it holds of everything that the names of a tree are bound to, it
holds of the value of the tree at every depth.

## Main definitions

* `Value.parts`: a value and all values in it.
* `Value.Sorted`: the properties of every object in a value are in the order of their keys.

## Main results

* `Value.sortedProperties_perm`, `Value.sortedProperties_spec`: settings of different keys are all
  kept, and any settings leave properties in order.
* `Value.sorted_ofJson`: the values of JSON values are sorted.
* `sorted_of_evaluate`: evaluation keeps values sorted.
-/

namespace WebRecipe.Condition
namespace Value

/-! ### Properties -/

variable {ps : List (String × Value)} {key : String} {v : Value}

/-- What is there after a property was set was there before, or is the property that was set. -/
theorem mem_setProperty {p : String × Value} (h : p ∈ setProperty key v ps) :
    p = (key, v) ∨ p ∈ ps := by
  induction ps with
  | nil => exact .inl (List.mem_singleton.1 h)
  | cons q ps ih =>
    obtain ⟨k, w⟩ := q
    rw [setProperty] at h
    split at h
    · exact List.mem_cons.1 h
    · split at h
      · exact (List.mem_cons.1 h).imp_right (List.mem_cons_of_mem _)
      · rcases List.mem_cons.1 h with rfl | h
        · exact .inr List.mem_cons_self
        · exact (ih h).imp_right (List.mem_cons_of_mem _)

/-- Setting a property keeps the order. -/
theorem pairwise_setProperty (key : String) (v : Value) (h : ps.Pairwise fun p q ↦ p.1 < q.1) :
    (setProperty key v ps).Pairwise fun p q ↦ p.1 < q.1 := by
  induction ps with
  | nil => exact List.pairwise_singleton _ _
  | cons q ps ih =>
    obtain ⟨k, w⟩ := q
    obtain ⟨hfirst, hrest⟩ := List.pairwise_cons.1 h
    rw [setProperty]
    split
    case isTrue hbefore =>
      refine List.pairwise_cons.2 ⟨List.forall_mem_cons.2 ⟨hbefore, fun p hp ↦ ?_⟩, h⟩
      exact hbefore.trans (hfirst p hp)
    case isFalse hnot =>
      split
      case isTrue hsame =>
        subst hsame
        exact List.pairwise_cons.2 ⟨hfirst, hrest⟩
      case isFalse hne =>
        refine List.pairwise_cons.2 ⟨fun p hp ↦ ?_, ih hrest⟩
        rcases mem_setProperty hp with rfl | hp
        · exact lt_of_le_of_ne (not_lt.1 hnot) hne
        · exact hfirst p hp

/-- A property of a new key is put between the others. -/
theorem setProperty_perm (v : Value) (h : key ∉ ps.map Prod.fst) :
    (setProperty key v ps).Perm ((key, v) :: ps) := by
  induction ps with
  | nil => exact .rfl
  | cons q ps ih =>
    obtain ⟨k, w⟩ := q
    rw [List.map_cons, List.mem_cons, not_or] at h
    rw [setProperty]
    split
    case isTrue => exact .rfl
    case isFalse =>
      rw [if_neg (Ne.symm h.1)]
      exact ((ih h.2).cons _).trans (.swap _ _ _)

/-- Properties that are set one after another, in addition to others. -/
private theorem foldl_setProperty_perm {settings before : List (String × Value)}
    (h : ((settings ++ before).map Prod.fst).Nodup) :
    (settings.foldl (fun acc p ↦ setProperty p.1 p.2 acc) before).Perm (settings ++ before) := by
  induction settings generalizing before with
  | nil => exact .rfl
  | cons p settings ih =>
    have hmiddle : (settings ++ p :: before).Perm (p :: settings ++ before) := List.perm_middle
    have hkeys := (hmiddle.map Prod.fst).nodup_iff.2 h
    rw [List.map_append, List.map_cons] at hkeys
    have hnew : p.1 ∉ before.map Prod.fst := (List.nodup_cons.1 (List.nodup_append.1 hkeys).2.1).1
    have hset := (setProperty_perm p.2 hnew).append_left settings
    rw [← List.map_cons, ← List.map_append] at hkeys
    exact (ih ((hset.map Prod.fst).nodup_iff.2 hkeys)).trans (hset.trans hmiddle)

/-- Settings of different keys are all kept. -/
theorem sortedProperties_perm {settings : List (String × Value)}
    (h : (settings.map Prod.fst).Nodup) : (sortedProperties settings).Perm settings := by
  have hperm : (sortedProperties settings).Perm (settings ++ []) :=
    foldl_setProperty_perm (by rwa [List.append_nil])
  rwa [List.append_nil] at hperm

/-- What settings leave is in order, and was among them. -/
theorem sortedProperties_spec (settings : List (String × Value)) :
    (sortedProperties settings).Pairwise (fun p q ↦ p.1 < q.1) ∧
      sortedProperties settings ⊆ settings := by
  have hgo (before : List (String × Value)) (h : before.Pairwise fun p q ↦ p.1 < q.1) :
      (settings.foldl (fun acc p ↦ setProperty p.1 p.2 acc) before).Pairwise
          (fun p q ↦ p.1 < q.1) ∧
        settings.foldl (fun acc p ↦ setProperty p.1 p.2 acc) before ⊆ settings ++ before := by
    induction settings generalizing before with
    | nil => exact ⟨h, List.Subset.refl _⟩
    | cons p settings ih =>
      obtain ⟨hpairwise, hsubset⟩ := ih _ (pairwise_setProperty p.1 p.2 h)
      refine ⟨hpairwise, fun q hq ↦ ?_⟩
      rcases List.mem_append.1 (hsubset hq) with hq | hq
      · exact List.mem_append_left _ (List.mem_cons_of_mem _ hq)
      · rcases mem_setProperty hq with rfl | hq
        · exact List.mem_append_left _ List.mem_cons_self
        · exact List.mem_append_right _ hq
  obtain ⟨hpairwise, hsubset⟩ := hgo [] List.Pairwise.nil
  rw [List.append_nil] at hsubset
  exact ⟨hpairwise, hsubset⟩

private theorem eq_of_perm_of_pairwise {ps qs : List (String × Value)} (hperm : ps.Perm qs)
    (hps : ps.Pairwise fun p q ↦ p.1 < q.1) (hqs : qs.Pairwise fun p q ↦ p.1 < q.1) : ps = qs :=
  hperm.eq_of_pairwise (fun _ _ _ _ hpq hqp ↦ absurd (hpq.trans hqp) (lt_irrefl _)) hps hqs

/-- Properties that are in order are what they leave when they are set. -/
theorem sortedProperties_of_pairwise (h : ps.Pairwise fun p q ↦ p.1 < q.1) :
    sortedProperties ps = ps := by
  have hkeys : (ps.map Prod.fst).Nodup := (List.pairwise_map.2 h).imp fun hlt ↦ hlt.ne
  exact eq_of_perm_of_pairwise (sortedProperties_perm hkeys) (sortedProperties_spec ps).1 h

/-- Settings of different keys leave what sorting them gives. -/
theorem sortedProperties_eq_mergeSort {settings : List (String × Value)}
    (h : (settings.map Prod.fst).Nodup) :
    sortedProperties settings = settings.mergeSort fun p q ↦ p.1 ≤ q.1 := by
  have hperm := List.mergeSort_perm settings fun p q ↦ p.1 ≤ q.1
  refine eq_of_perm_of_pairwise ((sortedProperties_perm h).trans hperm.symm)
    (sortedProperties_spec settings).1 ?_
  have hle : (settings.mergeSort fun p q ↦ p.1 ≤ q.1).Pairwise fun p q ↦ p.1 ≤ q.1 := by
    refine (List.pairwise_mergeSort (fun p q r hpq hqr ↦ ?_) (fun p q ↦ ?_) settings).imp
      of_decide_eq_true
    · exact decide_eq_true ((of_decide_eq_true hpq).trans (of_decide_eq_true hqr))
    · rw [Bool.or_eq_true, decide_eq_true_iff, decide_eq_true_iff]
      exact le_total p.1 q.1
  have hne := List.pairwise_map.1 ((hperm.map Prod.fst).nodup_iff.2 h)
  exact hle.imp₂ (fun _ _ ↦ lt_of_le_of_ne) hne

/-! ### Parts -/

mutual

/-- A value and all values in it, at any depth. -/
def parts : Value → List Value
  | array items => array items :: partsOfItems items
  | object properties => object properties :: partsOfProperties properties
  | v => [v]

/-- The parts of the items of an array. -/
def partsOfItems : List Value → List Value
  | [] => []
  | v :: rest => parts v ++ partsOfItems rest

/-- The parts of the values of properties. -/
def partsOfProperties : List (String × Value) → List Value
  | [] => []
  | (_, v) :: rest => parts v ++ partsOfProperties rest

end

/-- The keys of an object. -/
def keys : Value → List String
  | object properties => properties.map Prod.fst
  | _ => []

/-- The properties of every object in a value are in the order of their keys. -/
def Sorted (v : Value) : Prop :=
  ∀ part ∈ v.parts, part.keys.Pairwise (· < ·)

instance (v : Value) : Decidable v.Sorted :=
  inferInstanceAs (Decidable (∀ part ∈ v.parts, part.keys.Pairwise (· < ·)))

theorem mem_partsOfItems {items : List Value} {part : Value} :
    part ∈ partsOfItems items ↔ ∃ v ∈ items, part ∈ v.parts := by
  induction items with
  | nil => exact iff_of_false nofun nofun
  | cons v items ih => simp [partsOfItems, ih]

theorem mem_partsOfProperties {part : Value} :
    part ∈ partsOfProperties ps ↔ ∃ p ∈ ps, part ∈ p.2.parts := by
  induction ps with
  | nil => exact iff_of_false nofun nofun
  | cons p ps ih => simp [partsOfProperties, ih]

@[simp]
theorem sorted_array_iff {items : List Value} :
    (array items).Sorted ↔ ∀ v ∈ items, v.Sorted := by
  simp only [Sorted, parts, List.forall_mem_cons, mem_partsOfItems]
  constructor
  · exact fun h v hv part hpart ↦ h.2 part ⟨v, hv, hpart⟩
  · exact fun h ↦ ⟨List.Pairwise.nil, fun part ⟨v, hv, hpart⟩ ↦ h v hv part hpart⟩

theorem sorted_object_iff :
    (object ps).Sorted ↔ ps.Pairwise (fun p q ↦ p.1 < q.1) ∧ ∀ p ∈ ps, p.2.Sorted := by
  simp only [Sorted, parts, List.forall_mem_cons, mem_partsOfProperties, keys, List.pairwise_map]
  refine and_congr_right fun _ ↦ ?_
  exact ⟨fun h p hp part hpart ↦ h part ⟨p, hp, hpart⟩,
    fun h part ⟨p, hp, hpart⟩ ↦ h p hp part hpart⟩

/-- A value without parts is sorted. -/
theorem sorted_of_parts (hparts : v.parts = [v]) (hkeys : v.keys = []) : v.Sorted := by
  intro part hpart
  rw [hparts, List.mem_singleton] at hpart
  rw [hpart, hkeys]
  exact List.Pairwise.nil

@[simp]
theorem sorted_undefined : undefined.Sorted :=
  sorted_of_parts rfl rfl

@[simp]
theorem sorted_null : null.Sorted :=
  sorted_of_parts rfl rfl

@[simp]
theorem sorted_math : math.Sorted :=
  sorted_of_parts rfl rfl

@[simp]
theorem sorted_bool (b : Bool) : (bool b).Sorted :=
  sorted_of_parts rfl rfl

@[simp]
theorem sorted_number (x : Float) : (number x).Sorted :=
  sorted_of_parts rfl rfl

@[simp]
theorem sorted_text (s : String) : (text s).Sorted :=
  sorted_of_parts rfl rfl

/-- The object of settings is sorted if their values are. -/
theorem sorted_sortedProperties {settings : List (String × Value)}
    (h : ∀ p ∈ settings, p.2.Sorted) : (object (sortedProperties settings)).Sorted := by
  obtain ⟨hpairwise, hsubset⟩ := sortedProperties_spec settings
  exact sorted_object_iff.2 ⟨hpairwise, fun p hp ↦ h p (hsubset hp)⟩

mutual

/-- The values of JSON values are sorted. -/
theorem sorted_ofJson : ∀ d : Json, (ofJson d).Sorted
  | .null => sorted_null
  | .bool b => sorted_bool b
  | .int n => sorted_number _
  | .double x => sorted_number x
  | .str s => sorted_text s
  | .arr items => by
    rw [ofJson, sorted_array_iff]
    exact sorted_ofJsonItems items
  | .obj ms => by
    rw [ofJson]
    exact sorted_sortedProperties (sorted_ofJsonMembers ms)

theorem sorted_ofJsonItems : ∀ items : List Json, ∀ v ∈ ofJsonItems items, v.Sorted
  | [] => nofun
  | d :: rest => List.forall_mem_cons.2 ⟨sorted_ofJson d, sorted_ofJsonItems rest⟩

theorem sorted_ofJsonMembers :
    ∀ ms : List (String × Json), ∀ p ∈ ofJsonMembers ms, p.2.Sorted
  | [] => nofun
  | (_, d) :: rest => List.forall_mem_cons.2 ⟨sorted_ofJson d, sorted_ofJsonMembers rest⟩

end

end Value

/-! ### Results of evaluation -/

open Value

/-- An outcome whose value, if it has one, is sorted. -/
def GivesSorted (outcome : Except EvalError Value) : Prop :=
  ∀ v, outcome = .ok v → v.Sorted

namespace GivesSorted

@[simp]
theorem ok_iff {v : Value} : GivesSorted (.ok v) ↔ v.Sorted :=
  ⟨fun h ↦ h v rfl, by rintro h _ ⟨⟩; exact h⟩

@[simp]
theorem error (e : EvalError) : GivesSorted (.error e) := nofun

/-- The value of a computation that comes after another one. -/
theorem bind {α : Type} {x : Except EvalError α} {f : α → Except EvalError Value}
    (h : ∀ a, x = .ok a → GivesSorted (f a)) : GivesSorted (x >>= f) := by
  intro v hv
  obtain ⟨a, ha, hf⟩ := bind_eq_ok_iff.1 hv
  exact h a ha v hf

/-- The value that is made of the result of a computation. -/
theorem map {α : Type} {x : Except EvalError α} {f : α → Value}
    (h : ∀ a, x = .ok a → (f a).Sorted) : GivesSorted (do return f (← x)) :=
  bind fun a ha ↦ ok_iff.2 (h a ha)

end GivesSorted

open GivesSorted

variable {items args : List Value} {v w : Value}

/-- What is taken out of sorted items is sorted. -/
theorem sorted_array_of_subset {others : List Value} (h : ∀ v ∈ items, v.Sorted)
    (hsubset : others ⊆ items) : (array others).Sorted :=
  sorted_array_iff.2 fun v hv ↦ h v (hsubset hv)

theorem givesSorted_find {b : Bindings} (h : ∀ p ∈ b, p.2.Sorted) (name : String) :
    GivesSorted (b.find name) := by
  rw [Bindings.find]
  split
  case h_1 v hv =>
    obtain ⟨before, after, rfl, -⟩ := List.lookup_eq_some_iff.1 hv
    exact ok_iff.2 (h (name, v) (List.mem_append_right _ List.mem_cons_self))
  case h_2 => split <;> simp

theorem givesSorted_getProperty (h : v.Sorted) (key : String) :
    GivesSorted (getProperty v key) := by
  cases v with
  | undefined | null => exact error _
  | bool | number => exact ok_iff.2 sorted_undefined
  | text s =>
    simp only [getProperty]
    split
    · exact ok_iff.2 (sorted_number _)
    · split <;> simp
  | array items =>
    simp only [getProperty]
    split
    · exact ok_iff.2 (sorted_number _)
    · rw [ok_iff]
      cases hitem : (indexKey? key).bind (items[·]?) with
      | none => exact sorted_undefined
      | some v =>
        obtain ⟨i, -, hi⟩ := Option.bind_eq_some_iff.1 hitem
        exact sorted_array_iff.1 h v (List.mem_of_getElem? hi)
  | object ps =>
    simp only [getProperty, ok_iff]
    cases hvalue : ps.lookup key with
    | none => exact sorted_undefined
    | some v =>
      obtain ⟨before, after, rfl, -⟩ := List.lookup_eq_some_iff.1 hvalue
      exact (sorted_object_iff.1 h).2 (key, v) (List.mem_append_right _ List.mem_cons_self)
  | math =>
    simp only [getProperty]
    split <;> simp

theorem givesSorted_applyBinary (op : BinaryOp) (v w : Value) :
    GivesSorted (applyBinary op v w) := by
  cases op with
  | add =>
    rw [applyBinary, ok_iff, addValues]
    split <;> simp
  | isIn => exact GivesSorted.map fun b _ ↦ sorted_bool b
  | instanceOf => exact error _
  | _ => simp [applyBinary, arithmetic, ordered]

theorem givesSorted_applyUnary (op : UnaryOp) (v : Value) : GivesSorted (applyUnary op v) := by
  cases op <;> simp [applyUnary]

/-! ### Methods -/

theorem givesSorted_firstMatch (text : List Char) (args : Arguments) :
    GivesSorted (TextMethod.firstMatch text args) := by
  refine GivesSorted.bind fun p _ ↦ ?_
  split
  case h_1 m _ =>
    refine ok_iff.2 (sorted_array_iff.2 (List.forall_mem_cons.2 ⟨sorted_text _, ?_⟩))
    refine List.forall_mem_map.2 fun group _ ↦ ?_
    cases group <;> simp [TextMethod.groupValue]
  case h_2 => exact ok_iff.2 sorted_null

@[simp]
theorem sorted_positionNumber (i : Option Nat) : (positionNumber i).Sorted := by
  cases i <;> exact sorted_number _

theorem givesSorted_callTextMethod (s method : String) (args : Arguments) :
    GivesSorted (callTextMethod s method args) := by
  unfold callTextMethod
  simp only
  split
  case h_18 => exact givesSorted_firstMatch _ _
  case h_19 => exact GivesSorted.map fun p _ ↦ sorted_positionNumber _
  case h_20 => exact GivesSorted.map fun cs _ ↦ sorted_text _
  case h_21 => exact GivesSorted.map fun cs _ ↦ sorted_text _
  case h_22 => exact GivesSorted.map fun cs _ ↦ sorted_text _
  all_goals simp [textValue]

mutual

theorem sorted_of_mem_flattenItem : ∀ (v : Value) (depth : Nat), v.Sorted →
    ∀ w ∈ ArrayMethod.flattenItem v depth, w.Sorted
  | .array items, depth + 1, h => by
    rw [ArrayMethod.flattenItem]
    exact sorted_of_mem_flatten items depth (sorted_array_iff.1 h)
  | .array _, 0, h | .object _, _, h => by simpa [ArrayMethod.flattenItem] using h
  | .undefined, _, _ | .null, _, _ | .bool _, _, _ | .number _, _, _ | .text _, _, _
  | .math, _, _ => by simp [ArrayMethod.flattenItem]

theorem sorted_of_mem_flatten : ∀ (items : List Value) (depth : Nat), (∀ v ∈ items, v.Sorted) →
    ∀ w ∈ ArrayMethod.flatten items depth, w.Sorted
  | [], _, _ => nofun
  | v :: rest, depth, h => by
    obtain ⟨hv, hrest⟩ := List.forall_mem_cons.1 h
    rw [ArrayMethod.flatten]
    exact List.forall_mem_append.2
      ⟨sorted_of_mem_flattenItem v depth hv, sorted_of_mem_flatten rest depth hrest⟩

end

theorem sorted_concat (hitems : ∀ v ∈ items, v.Sorted) (hargs : ∀ v ∈ args, v.Sorted) :
    ∀ v ∈ ArrayMethod.concat items args, v.Sorted := by
  refine List.forall_mem_append.2 ⟨hitems, fun v hv ↦ ?_⟩
  obtain ⟨arg, harg, hv⟩ := List.mem_flatMap.1 hv
  have hsorted := hargs arg harg
  split at hv
  case h_1 more => exact sorted_array_iff.1 hsorted v hv
  case h_2 => exact List.mem_singleton.1 hv ▸ hsorted

theorem givesSorted_callArrayMethod (hitems : ∀ v ∈ items, v.Sorted)
    (hargs : ∀ v ∈ args, v.Sorted) (method : String) :
    GivesSorted (callArrayMethod items method args) := by
  unfold callArrayMethod
  split
  case h_2 => exact ok_iff.2 (sorted_array_iff.2 (sorted_concat hitems hargs))
  case h_3 =>
    exact ok_iff.2 (sorted_array_of_subset hitems fun v hv ↦ List.mem_reverse.1 hv)
  case h_4 =>
    split
    · exact error _
    · exact ok_iff.2 (sorted_array_of_subset hitems (List.mergeSort_perm items _).subset)
  case h_5 => exact ok_iff.2 (sorted_array_iff.2 (sorted_of_mem_flatten items _ hitems))
  case h_9 =>
    refine ok_iff.2 (sorted_array_of_subset hitems fun v hv ↦ ?_)
    exact List.mem_of_mem_take (List.mem_of_mem_drop hv)
  case h_10 => split <;> exact error _
  all_goals simp

theorem givesSorted_callMethod (hv : v.Sorted) (hargs : ∀ w ∈ args, w.Sorted) (method : String) :
    GivesSorted (callMethod v method args) := by
  unfold callMethod
  split
  · exact error _
  · exact error _
  · rw [callMath]
    split <;> simp
  · split
    · exact ok_iff.2 (sorted_text _)
    · split
      · exact ok_iff.2 hv
      · split
        · exact givesSorted_callTextMethod _ method args
        · exact givesSorted_callArrayMethod (sorted_array_iff.1 hv) hargs method
        · exact error _

/-! ### Trees -/

section Parts

variable {b : Bindings}

theorem sorted_of_evaluateAll {es : List Expr} (h : ∀ e ∈ es, GivesSorted (evaluate b e))
    {vs : List Value} (hvs : evaluateAll b es = .ok vs) : ∀ v ∈ vs, v.Sorted := by
  induction es generalizing vs with
  | nil =>
    cases hvs
    exact nofun
  | cons e es ih =>
    obtain ⟨he, hes⟩ := List.forall_mem_cons.1 h
    obtain ⟨v, hv, hvs⟩ := bind_eq_ok_iff.1 hvs
    obtain ⟨rest, hrest, hvs⟩ := bind_eq_ok_iff.1 hvs
    cases hvs
    exact List.forall_mem_cons.2 ⟨he v hv, ih hes hrest⟩

theorem sorted_of_evaluateEntries {entries : List Entry}
    (h : ∀ e ∈ entries.flatMap Entry.parts, GivesSorted (evaluate b e))
    {settings : List (String × Value)} (hs : evaluateEntries b entries = .ok settings) :
    ∀ p ∈ settings, p.2.Sorted := by
  induction entries generalizing settings with
  | nil =>
    cases hs
    exact nofun
  | cons entry entries ih =>
    rw [List.flatMap_cons, List.forall_mem_append] at h
    cases entry with
    | spread operand => exact ih h.2 hs
    | property key value =>
      obtain ⟨-, hvalue⟩ := List.forall_mem_append.1 h.1
      obtain ⟨k, -, hs⟩ := bind_eq_ok_iff.1 hs
      obtain ⟨v, hv, hs⟩ := bind_eq_ok_iff.1 hs
      obtain ⟨rest, hrest, hs⟩ := bind_eq_ok_iff.1 hs
      cases hs
      exact List.forall_mem_cons.2 ⟨hvalue value List.mem_cons_self v hv, ih h.2 hrest⟩

end Parts

/-- **Evaluation keeps values sorted.** Where names are bound to sorted values, the value of a tree
is sorted. -/
theorem sorted_of_evaluate {b : Bindings} (hb : ∀ p ∈ b, p.2.Sorted) (t : Expr) :
    GivesSorted (evaluate b t) := by
  -- What a call calls is not evaluated itself, but its parts are: hence all depths, not one.
  have deep : ∀ p ∈ t.parts, ∀ u, Subterm u p → GivesSorted (evaluate b u) := fun p hp u hu ↦
    have : sizeOf u < sizeOf t := Nat.lt_of_le_of_lt hu.sizeOf_le (sizeOf_lt_of_mem_parts hp)
    sorted_of_evaluate hb u
  have ih : ∀ p ∈ t.parts, GivesSorted (evaluate b p) := fun p hp ↦ deep p hp p (.self p)
  cases t with
  | ident name => exact givesSorted_find hb name
  | template head rest => exact GivesSorted.map fun s _ ↦ sorted_text _
  | array items =>
    exact GivesSorted.map fun vs hvs ↦ sorted_array_iff.2 (sorted_of_evaluateAll ih hvs)
  | object entries =>
    exact GivesSorted.map fun settings hs ↦
      sorted_sortedProperties (sorted_of_evaluateEntries ih hs)
  | member target key =>
    obtain ⟨htarget, -⟩ := List.forall_mem_cons.1 ih
    exact GivesSorted.bind fun v hv ↦ GivesSorted.bind fun k _ ↦
      givesSorted_getProperty (htarget v hv) k
  | call callee args =>
    obtain ⟨-, hargs⟩ := List.forall_mem_cons.1 ih
    cases callee with
    | member target key =>
      have htarget := deep _ List.mem_cons_self target (.inPart List.mem_cons_self (.self target))
      exact GivesSorted.bind fun v hv ↦ GivesSorted.bind fun k _ ↦ GivesSorted.bind fun vs hvs ↦
        givesSorted_callMethod (htarget v hv) (sorted_of_evaluateAll hargs hvs) k
    | _ => exact error _
  | unary op operand => exact GivesSorted.bind fun v _ ↦ givesSorted_applyUnary op v
  | binary op left right =>
    exact GivesSorted.bind fun v _ ↦ GivesSorted.bind fun w _ ↦ givesSorted_applyBinary op v w
  | logical op left right =>
    obtain ⟨hleft, hright⟩ := List.forall_mem_cons.1 ih
    refine GivesSorted.bind fun v hv ↦ ?_
    cases op with
    | nullish => exact error _
    | and | or =>
      simp only
      split
      · first | exact ok_iff.2 (hleft v hv) | exact hright right List.mem_cons_self
      · first | exact ok_iff.2 (hleft v hv) | exact hright right List.mem_cons_self
  | conditional test consequent alternate =>
    simp only [Expr.parts, List.forall_mem_cons] at ih
    obtain ⟨-, hconsequent, halternate, -⟩ := ih
    refine GivesSorted.bind fun v _ ↦ ?_
    split
    · exact hconsequent
    · exact halternate
  | _ => simp [evaluate]
termination_by sizeOf t

end WebRecipe.Condition
