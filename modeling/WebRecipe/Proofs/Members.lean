import WebRecipe.Json.Basic

/-!
# Members and parts of values

What becomes of the value of a key when members are set, dropped and replaced, and the values that a
value is made of.

## Main definitions

* `Json.parts`: a value and all values in it.
* `Json.Distinct`: no object in a value has a key twice.

## Main results

* `Members.get?_set_self`, `Members.get?_set_of_ne`, `Members.get?_filter`, `Members.get?_map`.
* `Json.parts_item`, `Json.parts_member`, `Json.parts_get?`: the parts of what is in a value.
-/

namespace WebRecipe

/-- When no key is there twice, each entry is found under its key. -/
theorem lookup_of_mem {α : Type} {entries : List (String × α)}
    (hkeys : (entries.map Prod.fst).Nodup) {key : String} {a : α} (h : (key, a) ∈ entries) :
    entries.lookup key = some a := by
  induction entries with
  | nil => cases h
  | cons entry entries ih =>
    obtain ⟨hentry, hkeys⟩ := List.nodup_cons.1 hkeys
    rw [List.lookup_cons]
    rcases List.mem_cons.1 h with rfl | h
    · rw [beq_self_eq_true]
    · have hkey : key ≠ entry.1 := fun hkey ↦ hentry (List.mem_map.2 ⟨_, h, hkey⟩)
      rw [beq_eq_false_iff_ne.2 hkey]
      exact ih hkeys h

/-! ### Members -/

namespace Members

variable {ms : Members} {key : String}

/-- Setting a key leaves the values of all others alone. -/
theorem get?_set_of_ne {other : String} {v : Json} (h : other ≠ key) :
    (ms.set key v).get? other = ms.get? other := by
  have hkey : (other == key) = false := beq_eq_false_iff_ne.2 h
  induction ms with
  | nil => rw [set, get?, get?, List.lookup_cons, hkey]
  | cons m ms ih =>
    obtain ⟨k, w⟩ := m
    rw [set]
    split
    case isTrue hk =>
      subst hk
      rw [get?, get?, List.lookup_cons, List.lookup_cons, hkey]
    case isFalse hk =>
      rw [get?, get?] at ih
      rw [get?, get?, List.lookup_cons, List.lookup_cons, ih]

/-- The value that a key was set to is the value of the key. -/
theorem get?_set_self (ms : Members) (key : String) (v : Json) :
    (ms.set key v).get? key = some v := by
  induction ms with
  | nil => rw [set, get?, List.lookup_cons, beq_self_eq_true]
  | cons m ms ih =>
    obtain ⟨k, w⟩ := m
    rw [set]
    split
    case isTrue hk => rw [hk, get?, List.lookup_cons, beq_self_eq_true]
    case isFalse hk =>
      rw [get?] at ih
      rw [get?, List.lookup_cons, beq_eq_false_iff_ne.2 (Ne.symm hk), ih]

/-- Dropping members leaves the value of a key alone whose members stay. -/
theorem get?_filter {p : String × Json → Bool} (h : ∀ v, p (key, v) = true) :
    get? (ms.filter p) key = ms.get? key := by
  induction ms with
  | nil => rfl
  | cons m ms ih =>
    obtain ⟨k, v⟩ := m
    rw [get?, get?] at ih
    by_cases hp : p (k, v) = true
    · rw [List.filter_cons_of_pos hp, get?, get?, List.lookup_cons, List.lookup_cons, ih]
    · have hk : (key == k) = false := beq_eq_false_iff_ne.2 fun hk ↦ hp (hk ▸ h v)
      rw [List.filter_cons_of_neg hp, get?, get?, ih, List.lookup_cons, hk]

/-- Dropping the members of a key leaves it without a value. -/
theorem get?_filter_eq_none {p : String × Json → Bool} (h : ∀ v, p (key, v) = false) :
    get? (ms.filter p) key = none := by
  refine List.lookup_eq_none_iff.2 fun m hm ↦ bne_iff_ne.2 fun hk ↦ ?_
  obtain ⟨k, v⟩ := m
  subst hk
  exact Bool.false_ne_true ((h v).symm.trans (List.mem_filter.1 hm).2)

/-- Replacing the values replaces the value of a key. -/
theorem get?_map (f : Json → Json) :
    get? (ms.map fun m ↦ (m.1, f m.2)) key = (ms.get? key).map f := by
  induction ms with
  | nil => rfl
  | cons m ms ih =>
    rw [get?, get?] at ih
    rw [List.map_cons, get?, get?, List.lookup_cons, List.lookup_cons, ih]
    split <;> rfl

/-- The value of a key belongs to a member. -/
theorem mem_of_get? {v : Json} (h : ms.get? key = some v) : (key, v) ∈ ms := by
  obtain ⟨before, after, rfl, -⟩ := List.lookup_eq_some_iff.1 h
  exact List.mem_append_right _ List.mem_cons_self

/-- When no key is there twice, each member is the value of its key. -/
theorem get?_of_mem (hkeys : (ms.map Prod.fst).Nodup) {v : Json} (h : (key, v) ∈ ms) :
    ms.get? key = some v :=
  lookup_of_mem hkeys h

/-- A key is present when it has a value. -/
theorem has_eq_isSome : ms.has key = (ms.get? key).isSome := by
  induction ms with
  | nil => rfl
  | cons m ms ih =>
    rw [get?, has] at ih
    rw [has, get?, List.any_cons, List.lookup_cons, ih, BEq.comm]
    split
    case h_1 heq => rw [heq]; rfl
    case h_2 hne => rw [hne]; rfl

/-- The members that come first have the say over the value of a key. -/
theorem get?_append (ms ns : Members) (key : String) :
    get? (ms ++ ns) key = (ms.get? key).or (ns.get? key) :=
  List.lookup_append

/-- What is there after a key was set was there before, or is the member that was set. -/
private theorem mem_set {m : String × Json} {v : Json} (h : m ∈ ms.set key v) :
    m ∈ ms ∨ m = (key, v) := by
  induction ms with
  | nil => exact .inr (List.mem_singleton.1 h)
  | cons n ms ih =>
    obtain ⟨k, w⟩ := n
    rw [set] at h
    split at h
    case isTrue hk =>
      rcases List.mem_cons.1 h with rfl | h
      · exact .inr (congrArg (fun k ↦ (k, v)) hk)
      · exact .inl (List.mem_cons_of_mem _ h)
    case isFalse =>
      rcases List.mem_cons.1 h with rfl | h
      · exact .inl List.mem_cons_self
      · exact (ih h).imp_left (List.mem_cons_of_mem _)

/-- Setting a key puts no key there twice. -/
private theorem nodup_set {v : Json} (h : (ms.map Prod.fst).Nodup) :
    ((ms.set key v).map Prod.fst).Nodup := by
  induction ms with
  | nil => exact List.nodup_cons.2 ⟨nofun, List.nodup_nil⟩
  | cons n ms ih =>
    obtain ⟨k, w⟩ := n
    obtain ⟨hk, hms⟩ := List.nodup_cons.1 h
    rw [set]
    split
    case isTrue => exact List.nodup_cons.2 ⟨hk, hms⟩
    case isFalse hne =>
      refine List.nodup_cons.2 ⟨fun hmem ↦ ?_, ih hms⟩
      obtain ⟨m, hm, hmk⟩ := List.mem_map.1 hmem
      rcases mem_set hm with hm | rfl
      · exact hk (List.mem_map.2 ⟨m, hm, hmk⟩)
      · exact hne hmk.symm

/-- Settings leave no key twice, and no other values than theirs. -/
theorem ofList_spec {settings : List (String × Json)} {p : Json → Prop}
    (h : ∀ m ∈ settings, p m.2) :
    ((ofList settings).map Prod.fst).Nodup ∧ ∀ m ∈ ofList settings, p m.2 := by
  have hgo (ms : Members) (hms : (ms.map Prod.fst).Nodup ∧ ∀ m ∈ ms, p m.2) :
      ((settings.foldl (fun acc m ↦ set acc m.1 m.2) ms).map Prod.fst).Nodup ∧
        ∀ m ∈ settings.foldl (fun acc m ↦ set acc m.1 m.2) ms, p m.2 := by
    induction settings generalizing ms with
    | nil => exact hms
    | cons m settings ih =>
      obtain ⟨hm, hsettings⟩ := List.forall_mem_cons.1 h
      refine ih hsettings _ ⟨nodup_set hms.1, fun n hn ↦ ?_⟩
      rcases mem_set hn with hn | rfl
      · exact hms.2 n hn
      · exact hm
  exact hgo [] ⟨List.nodup_nil, nofun⟩

/-- A new key comes last. -/
theorem set_of_notMem {v : Json} (h : key ∉ ms.map Prod.fst) :
    ms.set key v = ms ++ [(key, v)] := by
  induction ms with
  | nil => rfl
  | cons m ms ih =>
    rw [List.map_cons, List.mem_cons, not_or] at h
    rw [set, if_neg (Ne.symm h.1), ih h.2, List.cons_append]

/-- Settings of different keys are all kept. -/
theorem ofList_of_nodup {settings : List (String × Json)} (h : (settings.map Prod.fst).Nodup) :
    ofList settings = settings := by
  have hgo (before after : Members) (hkeys : ((before ++ after).map Prod.fst).Nodup) :
      after.foldl (fun acc m ↦ set acc m.1 m.2) before = before ++ after := by
    induction after generalizing before with
    | nil => exact (List.append_nil before).symm
    | cons m after ih =>
      have hnew : m.1 ∉ before.map Prod.fst := by
        rw [List.map_append, List.map_cons] at hkeys
        exact fun hmem ↦ (List.nodup_append.1 hkeys).2.2 _ hmem _ List.mem_cons_self rfl
      rw [List.foldl_cons, set_of_notMem hnew, ih _ (by simpa using hkeys), List.append_assoc]
      rfl
  exact hgo [] settings h

end Members

/-! ### Parts -/

namespace Json

/-- A text is read off a text. -/
theorem asStr?_eq_some_iff {v : Json} {s : String} : v.asStr? = some s ↔ v = str s := by
  cases v <;> simp [asStr?]

/-- Members are read off an object. -/
theorem asObj?_eq_some_iff {v : Json} {ms : Members} : v.asObj? = some ms ↔ v = obj ms := by
  cases v <;> simp [asObj?]

mutual

/-- A value and all values in it, at any depth. -/
def parts : Json → List Json
  | arr items => arr items :: partsOfItems items
  | obj ms => obj ms :: partsOfMembers ms
  | v => [v]

/-- The parts of the items of an array. -/
def partsOfItems : List Json → List Json
  | [] => []
  | v :: rest => parts v ++ partsOfItems rest

/-- The parts of the values of members. -/
def partsOfMembers : List (String × Json) → List Json
  | [] => []
  | (_, v) :: rest => parts v ++ partsOfMembers rest

end

/-- The keys of an object. -/
def keys : Json → List String
  | obj ms => ms.map Prod.fst
  | _ => []

/-- No object in a value has a key twice. -/
def Distinct (v : Json) : Prop :=
  ∀ part ∈ v.parts, part.keys.Nodup

instance (v : Json) : Decidable v.Distinct :=
  inferInstanceAs (Decidable (∀ part ∈ v.parts, part.keys.Nodup))

theorem mem_parts_self (v : Json) : v ∈ v.parts := by
  cases v <;> exact List.mem_cons_self

private theorem mem_partsOfItems {items : List Json} {part : Json} :
    part ∈ partsOfItems items ↔ ∃ v ∈ items, part ∈ v.parts := by
  induction items with
  | nil => exact iff_of_false nofun nofun
  | cons v items ih => simp [partsOfItems, ih]

private theorem mem_partsOfMembers {ms : Members} {part : Json} :
    part ∈ partsOfMembers ms ↔ ∃ m ∈ ms, part ∈ m.2.parts := by
  induction ms with
  | nil => exact iff_of_false nofun nofun
  | cons m ms ih => simp [partsOfMembers, ih]

/-- What holds of all parts of an array holds of the array and of all parts of its items. -/
theorem forall_parts_arr {p : Json → Prop} {items : List Json} :
    (∀ part ∈ (arr items).parts, p part) ↔
      p (arr items) ∧ ∀ v ∈ items, ∀ part ∈ v.parts, p part := by
  simp only [parts, List.forall_mem_cons, mem_partsOfItems]
  exact and_congr_right fun _ ↦ ⟨fun h v hv part hpart ↦ h part ⟨v, hv, hpart⟩,
    fun h part ⟨v, hv, hpart⟩ ↦ h v hv part hpart⟩

/-- What holds of all parts of an object holds of the object and of all parts of its values. -/
theorem forall_parts_obj {p : Json → Prop} {ms : Members} :
    (∀ part ∈ (obj ms).parts, p part) ↔
      p (obj ms) ∧ ∀ m ∈ ms, ∀ part ∈ m.2.parts, p part := by
  simp only [parts, List.forall_mem_cons, mem_partsOfMembers]
  exact and_congr_right fun _ ↦ ⟨fun h m hm part hpart ↦ h part ⟨m, hm, hpart⟩,
    fun h part ⟨m, hm, hpart⟩ ↦ h m hm part hpart⟩

/-- An array of values without double keys has none. -/
theorem Distinct.arr {items : List Json} (h : ∀ v ∈ items, v.Distinct) : (arr items).Distinct :=
  forall_parts_arr.2 ⟨List.nodup_nil, h⟩

/-- An object with different keys and values without double keys has none. -/
theorem Distinct.obj {ms : Members} (hkeys : (ms.map Prod.fst).Nodup)
    (h : ∀ m ∈ ms, m.2.Distinct) : (obj ms).Distinct :=
  forall_parts_obj.2 ⟨hkeys, h⟩

/-- The parts of the items are parts of the array. -/
theorem parts_item {items : List Json} {v : Json} (h : v ∈ items) :
    v.parts ⊆ (arr items).parts := by
  intro part hpart
  rw [parts]
  exact List.mem_cons_of_mem _ (mem_partsOfItems.2 ⟨v, h, hpart⟩)

/-- The parts of the value of a member are parts of the object. -/
theorem parts_member {ms : Members} {m : String × Json} (h : m ∈ ms) :
    m.2.parts ⊆ (obj ms).parts := by
  intro part hpart
  rw [parts]
  exact List.mem_cons_of_mem _ (mem_partsOfMembers.2 ⟨m, h, hpart⟩)

/-- The parts of the value of a key are parts of the object. -/
theorem parts_get? {w v : Json} {key : String} (h : w.get? key = some v) :
    v.parts ⊆ w.parts := by
  cases w with
  | obj ms => exact parts_member (Members.mem_of_get? h)
  | _ => cases h

/-- The value of a key is smaller than the object. -/
theorem sizeOf_get?_lt {w v : Json} {key : String} (h : w.get? key = some v) :
    sizeOf v < sizeOf w := by
  cases w with
  | obj ms =>
    have hmem := List.sizeOf_lt_of_mem (Members.mem_of_get? h)
    simp only [Prod.mk.sizeOf_spec] at hmem
    simp only [obj.sizeOf_spec]
    omega
  | _ => cases h

/-- An item is smaller than the array. -/
theorem sizeOf_item_lt {items : List Json} {v : Json} (h : v ∈ items) :
    sizeOf v < sizeOf (arr items) := by
  have hmem := List.sizeOf_lt_of_mem h
  simp only [arr.sizeOf_spec]
  omega

end Json
end WebRecipe
