import WebRecipe.Proofs.Condition.Comparison
import WebRecipe.Proofs.Condition.Properties
import WebRecipe.Proofs.Number.Digits

/-!
# Values and JSON values

A value that becomes a JSON value and a value again is the same, but for what JSON cannot hold:
`undefined`, the namespace of mathematical functions and numbers that are not finite are `null` then,
and negative zero is zero. The other way round, a JSON value becomes a value and a JSON value again
without a loss, if its integers are below `2 ^ 53` in magnitude and its doubles have digits after the
point; only the members of its objects are put in the order of their keys.

## Main definitions

* `Value.jsonForm`: a value with what JSON cannot hold replaced.
* `Json.sortKeys`: a JSON value with the members of its objects in the order of their keys.
* `Json.HasPlainNumbers`: the integers in a JSON value are small, and its doubles have a fraction.
* `Json.KeysSorted`: the members of all objects in a JSON value are in the order of their keys.

## Main results

* `Value.ofJson_toJson`: the way to JSON and back.
* `Value.toJson_ofJson`: the way from JSON and back.
* `Value.json_conversion`: both, and what follows for a second way to JSON.
-/

namespace WebRecipe

/-! ### Numbers -/

namespace Double

/-- The doubles that equal zero are the two zeros. -/
theorem beq_zero_iff (x : Float) : (x == 0) = true ↔ ∃ negative, x = ofWhole negative 0 := by
  have hzero (s : Float.Model.UnpackedFloat.Sign) (hx : unpacked x = .zero s) :
      x = ofWhole (s == .negative) 0 := by
    refine eq_of_parts ?_ (parts_ofWhole_zero (s == .negative))
    rw [Binary64.ofFloat_eq, hx]
    rfl
  constructor
  · intro h
    rw [beq_iff, show unpacked 0 = .zero .positive by rfl] at h
    cases hx : unpacked x with
    | zero s => exact ⟨_, hzero s hx⟩
    | notANumber => simp [hx, Float.Model.UnpackedFloat.compare] at h
    | infinity s => cases s <;> simp [hx, Float.Model.UnpackedFloat.compare] at h
    | finite s m e hm => cases s <;> simp [hx, Float.Model.UnpackedFloat.compare] at h
  · rintro ⟨negative, rfl⟩
    cases negative <;> decide +kernel

end Double

namespace Json

variable {x : Float}

/-- A finite double becomes an integer where it is a whole number below `2 ^ 53`, and stays a double
otherwise. -/
theorem ofDouble_of_isFinite (h : x.isFinite = true) :
    ∃ n, Whole.ofFloat x = .int n ∧
      ofDouble x = if Double.isWhole x = true ∧ n.natAbs < 2 ^ 53 then int n else double x := by
  obtain ⟨negative, m, e, hx⟩ := (Double.isFinite_iff x).1 h
  refine ⟨_, congrArg Whole.ofBinary64 hx, ?_⟩
  rw [ofDouble, Double.isWhole, hx]
  rfl

theorem ofDouble_of_not_isFinite (h : x.isFinite = false) : ofDouble x = null := by
  rw [ofDouble]
  split
  case h_1 negative m e hx =>
    rw [(Double.isFinite_iff x).2 ⟨negative, m, e, hx⟩] at h
    cases h
  case h_2 => rfl

/-- An integer below `2 ^ 53` is itself again after it was a double. -/
theorem ofDouble_ofWhole (negative : Bool) {n : Nat} (hn : n < 2 ^ 53) :
    ofDouble (Double.ofWhole negative n) = int (Whole.signed negative n) := by
  obtain ⟨hwhole, hvalue⟩ := Double.isWhole_ofWhole negative hn
  obtain ⟨z, hz, hx⟩ := ofDouble_of_isFinite (Double.isFinite_of_isWhole hwhole)
  obtain rfl : Whole.signed negative n = z := Whole.int.inj (hvalue.symm.trans hz)
  have hsmall : (Whole.signed negative n).natAbs < 2 ^ 53 := by
    cases negative with
    | false => exact hn
    | true => rwa [Whole.signed, if_pos rfl, Int.natAbs_neg, Int.natAbs_natCast]
  rw [hx, if_pos ⟨hwhole, hsmall⟩]

theorem ofDouble_ofInt {n : Int} (hn : n.natAbs < 2 ^ 53) : ofDouble (Float.ofInt n) = int n := by
  rw [Double.ofInt_eq, ofDouble_ofWhole _ hn, Double.signed_natAbs]

end Json

namespace Condition.Value

/-! ### To JSON and back -/

/-- A number where JSON holds it, without the sign of a zero. -/
def jsonNumber (x : Float) : Value :=
  if x.isFinite then if x == 0 then number 0 else number x else null

mutual

/-- A value with what JSON cannot hold replaced, at any depth. -/
def jsonForm : Value → Value
  | undefined => null
  | null => null
  | math => null
  | bool b => bool b
  | number x => jsonNumber x
  | text s => text s
  | array items => array (jsonFormItems items)
  | object properties => object (jsonFormProperties properties)

/-- The items of an array with what JSON cannot hold replaced. -/
def jsonFormItems : List Value → List Value
  | [] => []
  | v :: rest => jsonForm v :: jsonFormItems rest

/-- The properties of an object with what JSON cannot hold replaced. -/
def jsonFormProperties : List (String × Value) → List (String × Value)
  | [] => []
  | (k, v) :: rest => (k, jsonForm v) :: jsonFormProperties rest

end

theorem jsonNumber_ofWhole_zero (negative : Bool) :
    jsonNumber (Double.ofWhole negative 0) = number 0 := by
  have hfinite := Double.isFinite_of_isWhole (Double.isWhole_ofWhole negative (n := 0) (by decide)).1
  rw [jsonNumber, if_pos hfinite, if_pos ((Double.beq_zero_iff _).2 ⟨negative, rfl⟩)]

/-- A number on its way to JSON and back. -/
theorem ofJson_ofDouble (x : Float) : ofJson (.ofDouble x) = jsonNumber x := by
  by_cases hfinite : x.isFinite = true
  · by_cases hzero : (x == 0) = true
    · obtain ⟨negative, rfl⟩ := (Double.beq_zero_iff x).1 hzero
      rw [jsonNumber_ofWhole_zero, Json.ofDouble_ofWhole _ (by decide)]
      cases negative <;> rfl
    · obtain ⟨n, hn, hx⟩ := Json.ofDouble_of_isFinite hfinite
      rw [jsonNumber, if_pos hfinite, if_neg hzero, hx]
      split
      case isTrue h =>
        obtain ⟨negative, rfl, hsigned⟩ := Double.eq_ofWhole h.1 hn h.2
        have hn' : n ≠ 0 := by
          rintro rfl
          exact hzero ((Double.beq_zero_iff _).2 ⟨negative, rfl⟩)
        have hsign : decide (n < 0) = negative := by
          cases negative with
          | false =>
            have hvalue : (n.natAbs : Int) = n := hsigned
            exact decide_eq_false (by omega)
          | true =>
            have hvalue : -(n.natAbs : Int) = n := hsigned
            exact decide_eq_true (by omega)
        rw [ofJson, Double.ofInt_eq, hsign]
      case isFalse => rfl
  · rw [jsonNumber, if_neg hfinite, Json.ofDouble_of_not_isFinite (by simpa using hfinite)]
    rfl

theorem keys_jsonFormProperties (ps : List (String × Value)) :
    (jsonFormProperties ps).map Prod.fst = ps.map Prod.fst := by
  induction ps with
  | nil => rfl
  | cons p ps ih => rw [jsonFormProperties, List.map_cons, List.map_cons, ih]

mutual

/-- What is left of a value that becomes a JSON value and a value again. -/
theorem ofJson_toJson : ∀ v : Value, v.Sorted → ofJson v.toJson = v.jsonForm
  | .undefined, _ | .null, _ | .math, _ | .bool _, _ | .text _, _ => rfl
  | .number x, _ => ofJson_ofDouble x
  | .array items, h => by
    rw [toJson, ofJson, jsonForm, ofJsonItems_toJsonItems items (sorted_array_iff.1 h)]
  | .object ps, h => by
    obtain ⟨hpairwise, hvalues⟩ := sorted_object_iff.1 h
    rw [toJson, ofJson, jsonForm, ofJsonMembers_toJsonProperties ps hvalues,
      sortedProperties_of_pairwise]
    rw [← List.pairwise_map (f := Prod.fst), keys_jsonFormProperties]
    exact List.pairwise_map.2 hpairwise

theorem ofJsonItems_toJsonItems : ∀ items : List Value, (∀ v ∈ items, v.Sorted) →
    ofJsonItems (toJsonItems items) = jsonFormItems items
  | [], _ => rfl
  | v :: rest, h => by
    obtain ⟨hv, hrest⟩ := List.forall_mem_cons.1 h
    rw [toJsonItems, ofJsonItems, jsonFormItems, ofJson_toJson v hv,
      ofJsonItems_toJsonItems rest hrest]

theorem ofJsonMembers_toJsonProperties : ∀ ps : List (String × Value), (∀ p ∈ ps, p.2.Sorted) →
    ofJsonMembers (toJsonProperties ps) = jsonFormProperties ps
  | [], _ => rfl
  | (k, v) :: rest, h => by
    obtain ⟨hv, hrest⟩ := List.forall_mem_cons.1 h
    rw [toJsonProperties, ofJsonMembers, jsonFormProperties, ofJson_toJson v hv,
      ofJsonMembers_toJsonProperties rest hrest]

end

theorem toJson_jsonNumber (x : Float) : (jsonNumber x).toJson = .ofDouble x := by
  rw [jsonNumber]
  split
  case isTrue hfinite =>
    split
    case isTrue hzero =>
      obtain ⟨negative, rfl⟩ := (Double.beq_zero_iff x).1 hzero
      have hpositive : (number 0).toJson = .ofDouble (Double.ofWhole false 0) := rfl
      rw [hpositive, Json.ofDouble_ofWhole _ (by decide), Json.ofDouble_ofWhole _ (by decide)]
      cases negative <;> rfl
    case isFalse => rfl
  case isFalse hfinite =>
    rw [Json.ofDouble_of_not_isFinite (by simpa using hfinite)]
    rfl

mutual

/-- What is replaced makes no difference to JSON. -/
theorem toJson_jsonForm : ∀ v : Value, v.jsonForm.toJson = v.toJson
  | .undefined | .null | .math | .bool _ | .text _ => rfl
  | .number x => toJson_jsonNumber x
  | .array items => by rw [jsonForm, toJson, toJson, toJsonItems_jsonFormItems items]
  | .object ps => by rw [jsonForm, toJson, toJson, toJsonProperties_jsonFormProperties ps]

theorem toJsonItems_jsonFormItems :
    ∀ items : List Value, toJsonItems (jsonFormItems items) = toJsonItems items
  | [] => rfl
  | v :: rest => by
    rw [jsonFormItems, toJsonItems, toJsonItems, toJson_jsonForm v, toJsonItems_jsonFormItems rest]

theorem toJsonProperties_jsonFormProperties : ∀ ps : List (String × Value),
    toJsonProperties (jsonFormProperties ps) = toJsonProperties ps
  | [] => rfl
  | (k, v) :: rest => by
    rw [jsonFormProperties, toJsonProperties, toJsonProperties, toJson_jsonForm v,
      toJsonProperties_jsonFormProperties rest]

end

end Condition.Value

/-! ### From JSON and back -/

namespace Json

/-- The order of members by their keys. -/
def keyLe (m n : String × Json) : Bool :=
  m.1 ≤ n.1

mutual

/-- A JSON value with the members of each object in it in the order of their keys. -/
def sortKeys : Json → Json
  | null => null
  | bool b => bool b
  | int n => int n
  | double x => double x
  | str s => str s
  | arr items => arr (sortKeysItems items)
  | obj ms => obj ((sortKeysMembers ms).mergeSort keyLe)

/-- The items of an array with the members of objects in order. -/
def sortKeysItems : List Json → List Json
  | [] => []
  | d :: rest => sortKeys d :: sortKeysItems rest

/-- The members of an object with the members of objects in them in order. -/
def sortKeysMembers : List (String × Json) → List (String × Json)
  | [] => []
  | (k, d) :: rest => (k, sortKeys d) :: sortKeysMembers rest

end

/-- An integer below `2 ^ 53` in magnitude, a double with digits after the point, or no number. -/
def IsPlainNumber : Json → Prop
  | int n => n.natAbs < 2 ^ 53
  | double x => x.isFinite = true ∧ Double.isWhole x = false
  | _ => True

instance : DecidablePred IsPlainNumber
  | int n => inferInstanceAs (Decidable (n.natAbs < 2 ^ 53))
  | double x => inferInstanceAs (Decidable (x.isFinite = true ∧ Double.isWhole x = false))
  | null | bool _ | str _ | arr _ | obj _ => isTrue trivial

/-- The integers in a value are below `2 ^ 53` in magnitude, and the doubles have digits after the
point. -/
def HasPlainNumbers (d : Json) : Prop :=
  ∀ part ∈ d.parts, part.IsPlainNumber

instance (d : Json) : Decidable d.HasPlainNumbers :=
  inferInstanceAs (Decidable (∀ part ∈ d.parts, part.IsPlainNumber))

/-- The members of every object in a value are in the order of their keys. -/
def KeysSorted (d : Json) : Prop :=
  ∀ part ∈ d.parts, part.keys.Pairwise (· < ·)

end Json

namespace Condition.Value

theorem keys_ofJsonMembers (ms : List (String × Json)) :
    (ofJsonMembers ms).map Prod.fst = ms.map Prod.fst := by
  induction ms with
  | nil => rfl
  | cons m ms ih => rw [ofJsonMembers, List.map_cons, List.map_cons, ih]

theorem toJsonProperties_eq_map (ps : List (String × Value)) :
    toJsonProperties ps = ps.map fun p ↦ (p.1, p.2.toJson) := by
  induction ps with
  | nil => rfl
  | cons p ps ih => rw [toJsonProperties, List.map_cons, ih]

/-- Members of different keys become the sorted members of the properties that they leave. -/
theorem toJsonProperties_sortedProperties {settings : List (String × Value)}
    (h : (settings.map Prod.fst).Nodup) :
    toJsonProperties (sortedProperties settings) =
      (toJsonProperties settings).mergeSort Json.keyLe := by
  rw [sortedProperties_eq_mergeSort h, toJsonProperties_eq_map, toJsonProperties_eq_map]
  exact List.map_mergeSort fun p _ q _ ↦ rfl

mutual

/-- What is left of a JSON value that becomes a value and a JSON value again. -/
theorem toJson_ofJson :
    ∀ d : Json, d.Distinct → d.HasPlainNumbers → (ofJson d).toJson = d.sortKeys
  | .null, _, _ | .bool _, _, _ | .str _, _, _ => rfl
  | .int n, _, hnumbers => Json.ofDouble_ofInt (hnumbers _ (Json.mem_parts_self _))
  | .double x, _, hnumbers => by
    obtain ⟨hfinite, hfraction⟩ := hnumbers _ (Json.mem_parts_self _)
    obtain ⟨n, -, hx⟩ := Json.ofDouble_of_isFinite hfinite
    rw [ofJson, toJson, hx, hfraction, if_neg (fun h ↦ Bool.false_ne_true h.1)]
    rfl
  | .arr items, hdistinct, hnumbers => by
    rw [ofJson, toJson, Json.sortKeys, toJsonItems_ofJsonItems items
      (fun d hd part hpart ↦ hdistinct part (Json.parts_item hd hpart))
      (fun d hd part hpart ↦ hnumbers part (Json.parts_item hd hpart))]
  | .obj ms, hdistinct, hnumbers => by
    have hkeys : (ms.map Prod.fst).Nodup := hdistinct _ (Json.mem_parts_self _)
    rw [ofJson, toJson, Json.sortKeys,
      toJsonProperties_sortedProperties (by rwa [keys_ofJsonMembers]),
      toJsonProperties_ofJsonMembers ms
        (fun m hm part hpart ↦ hdistinct part (Json.parts_member hm hpart))
        (fun m hm part hpart ↦ hnumbers part (Json.parts_member hm hpart))]

theorem toJsonItems_ofJsonItems : ∀ items : List Json, (∀ d ∈ items, d.Distinct) →
    (∀ d ∈ items, d.HasPlainNumbers) →
    toJsonItems (ofJsonItems items) = Json.sortKeysItems items
  | [], _, _ => rfl
  | d :: rest, hdistinct, hnumbers => by
    obtain ⟨hd, hrest⟩ := List.forall_mem_cons.1 hdistinct
    obtain ⟨hd', hrest'⟩ := List.forall_mem_cons.1 hnumbers
    rw [ofJsonItems, toJsonItems, Json.sortKeysItems, toJson_ofJson d hd hd',
      toJsonItems_ofJsonItems rest hrest hrest']

theorem toJsonProperties_ofJsonMembers : ∀ ms : List (String × Json),
    (∀ m ∈ ms, m.2.Distinct) → (∀ m ∈ ms, m.2.HasPlainNumbers) →
    toJsonProperties (ofJsonMembers ms) = Json.sortKeysMembers ms
  | [], _, _ => rfl
  | (k, d) :: rest, hdistinct, hnumbers => by
    obtain ⟨hd, hrest⟩ := List.forall_mem_cons.1 hdistinct
    obtain ⟨hd', hrest'⟩ := List.forall_mem_cons.1 hnumbers
    rw [ofJsonMembers, toJsonProperties, Json.sortKeysMembers, toJson_ofJson d hd hd',
      toJsonProperties_ofJsonMembers rest hrest hrest']

end

theorem keysSorted_ofDouble (x : Float) : (Json.ofDouble x).KeysSorted := by
  by_cases hfinite : x.isFinite = true
  · obtain ⟨n, -, hx⟩ := Json.ofDouble_of_isFinite hfinite
    rw [hx]
    split <;> exact List.forall_mem_singleton.2 .nil
  · rw [Json.ofDouble_of_not_isFinite (by simpa using hfinite)]
    exact List.forall_mem_singleton.2 .nil

mutual

/-- The properties of a sorted value become members in the order of their keys. -/
theorem keysSorted_toJson : ∀ v : Value, v.Sorted → v.toJson.KeysSorted
  | .undefined, _ | .null, _ | .math, _ | .bool _, _ | .text _, _ =>
    List.forall_mem_singleton.2 .nil
  | .number x, _ => keysSorted_ofDouble x
  | .array items, h => by
    rw [toJson]
    exact Json.forall_parts_arr.2 ⟨.nil, keysSorted_toJsonItems items (sorted_array_iff.1 h)⟩
  | .object ps, h => by
    obtain ⟨hpairwise, hvalues⟩ := sorted_object_iff.1 h
    rw [toJson]
    refine Json.forall_parts_obj.2 ⟨?_, keysSorted_toJsonProperties ps hvalues⟩
    rw [toJsonProperties_eq_map, Json.keys, List.map_map]
    exact List.pairwise_map.2 hpairwise

theorem keysSorted_toJsonItems : ∀ items : List Value, (∀ v ∈ items, v.Sorted) →
    ∀ d ∈ toJsonItems items, d.KeysSorted
  | [], _ => nofun
  | v :: rest, h => by
    obtain ⟨hv, hrest⟩ := List.forall_mem_cons.1 h
    exact List.forall_mem_cons.2 ⟨keysSorted_toJson v hv, keysSorted_toJsonItems rest hrest⟩

theorem keysSorted_toJsonProperties : ∀ ps : List (String × Value), (∀ p ∈ ps, p.2.Sorted) →
    ∀ m ∈ toJsonProperties ps, m.2.KeysSorted
  | [], _ => nofun
  | (_, v) :: rest, h => by
    obtain ⟨hv, hrest⟩ := List.forall_mem_cons.1 h
    exact List.forall_mem_cons.2 ⟨keysSorted_toJson v hv, keysSorted_toJsonProperties rest hrest⟩

end

/-- **JSON conversion loses only what JSON cannot hold.** The properties of objects are in the order of
their keys in every value that comes from a JSON value, and in every value that evaluation gives. Such
a value that becomes a JSON value and a value again has `null` in place of `undefined`, of the
namespace of mathematical functions and of numbers that are not finite, zero in place of negative
zero, and is the same otherwise, at every depth; so it becomes the same JSON value the second time. A
JSON value in which no object has a key twice, integers are below `2 ^ 53` in magnitude and doubles
have digits after the point is the same after it was a value, except that the members of its objects
are in the order of their keys. -/
theorem json_conversion :
    (∀ d : Json, (ofJson d).Sorted) ∧
    (∀ (b : Bindings) (t : Expr) (v : Value), (∀ p ∈ b, p.2.Sorted) → evaluate b t = .ok v →
      v.Sorted) ∧
    (∀ v : Value, v.Sorted →
      ofJson v.toJson = v.jsonForm ∧ (ofJson v.toJson).toJson = v.toJson) ∧
    ∀ d : Json, d.Distinct → d.HasPlainNumbers →
      (ofJson d).toJson = d.sortKeys ∧ (ofJson d).toJson.KeysSorted := by
  refine ⟨sorted_ofJson, fun b t v hb hv ↦ sorted_of_evaluate hb t v hv, fun v hv ↦ ⟨?_, ?_⟩,
    fun d hdistinct hnumbers ↦ ⟨?_, ?_⟩⟩
  · exact ofJson_toJson v hv
  · rw [ofJson_toJson v hv, toJson_jsonForm]
  · exact toJson_ofJson d hdistinct hnumbers
  · exact keysSorted_toJson (ofJson d) (sorted_ofJson d)

/-- Members that are put in order, around what JSON cannot hold and a number with a fraction. -/
theorem json_conversion_nested :
    evaluate [("x", math)] (.object [.property (.name "b") (.ident "x"),
      .property (.name "a") (.array [.undefined, .unary .neg (.number 0)])]) =
        .ok (object [("a", array [undefined, number (-0.0)]), ("b", math)]) ∧
    (object [("a", array [undefined, number (-0.0)]), ("b", math)]).Sorted ∧
    ofJson (object [("a", array [undefined, number (-0.0)]), ("b", math)]).toJson =
      object [("a", array [null, number 0]), ("b", null)] ∧
    (Json.obj [("b", .int 1), ("a", .arr [.double 0.5])]).Distinct ∧
    (Json.obj [("b", .int 1), ("a", .arr [.double 0.5])]).HasPlainNumbers ∧
    (ofJson (.obj [("b", .int 1), ("a", .arr [.double 0.5])])).toJson =
      .obj [("a", .arr [.double 0.5]), ("b", .int 1)] := by
  have hvalue : evaluate [("x", math)] (.object [.property (.name "b") (.ident "x"),
      .property (.name "a") (.array [.undefined, .unary .neg (.number 0)])]) =
        .ok (object [("a", array [undefined, number (-0.0)]), ("b", math)]) := by
    rfl
  have hsorted : (object [("a", array [undefined, number (-0.0)]), ("b", math)]).Sorted :=
    json_conversion.2.1 _ _ _ (List.forall_mem_singleton.2 sorted_math) hvalue
  have hdistinct : (Json.obj [("b", .int 1), ("a", .arr [.double 0.5])]).Distinct := by
    decide +kernel
  have hnumbers : (Json.obj [("b", .int 1), ("a", .arr [.double 0.5])]).HasPlainNumbers := by
    decide +kernel
  refine ⟨hvalue, hsorted, ?_, hdistinct, hnumbers, ?_⟩
  · refine (json_conversion.2.2.1 _ hsorted).1.trans ?_
    rfl
  · refine (json_conversion.2.2.2 _ hdistinct hnumbers).1.trans ?_
    simp [Json.sortKeys, Json.sortKeysItems, Json.sortKeysMembers, List.mergeSort, Json.keyLe]

end Condition.Value
end WebRecipe
