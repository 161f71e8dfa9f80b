import WebRecipe.Action.Basic
import WebRecipe.Proofs.Members
import WebRecipe.Proofs.Outcome

/-!
# What decoding makes of objects

A record is decoded member by member. When no key of the object is there twice, each part of the
record is what decoding makes of the value of its key, or what it was at the beginning when the key
is missing.

## Main definitions

* `Decode.Sets`: a part of a draft is set by one field.

## Main results

* `Decode.record_sets`: the part that a field sets.
* `ActionCall.decode_obj`, `ActionCall.await_of_decode`, `ActionCall.exists_decode`: the action that an
  object describes, and when it describes one.
* `Recipe.decode_obj`, `Recipe.description_of_decode`, `Recipe.exists_decode`: the recipe that an object
  describes, and when it describes one.
-/

namespace WebRecipe

variable {α β δ γ : Type}

/-! ### Lists -/

/-- What a list is decoded to comes from its items. -/
theorem Decode.exists_of_mem_mapM {f : α → Decode.Result β} {as : List α} {bs : List β}
    (h : as.mapM f = .ok bs) {b : β} (hb : b ∈ bs) : ∃ a ∈ as, f a = .ok b := by
  induction as generalizing bs with
  | nil =>
    cases h
    cases hb
  | cons a as ih =>
    rw [List.mapM_cons] at h
    obtain ⟨b', hb', hrest⟩ := bind_eq_ok_iff.1 h
    obtain ⟨bs', hbs', hpure⟩ := bind_eq_ok_iff.1 hrest
    cases hpure
    rcases List.mem_cons.1 hb with rfl | hb
    · exact ⟨a, List.mem_cons_self, hb'⟩
    · obtain ⟨a', ha', hab⟩ := ih hbs' hb
      exact ⟨a', List.mem_cons_of_mem a ha', hab⟩

/-- A list can be decoded when its items can. -/
theorem Decode.exists_mapM {f : α → Decode.Result β} {as : List α}
    (h : ∀ a ∈ as, ∃ b, f a = .ok b) : ∃ bs, as.mapM f = .ok bs := by
  induction as with
  | nil => exact ⟨[], rfl⟩
  | cons a as ih =>
    obtain ⟨ha, has⟩ := List.forall_mem_cons.1 h
    obtain ⟨b, hb⟩ := ha
    obtain ⟨bs, hbs⟩ := ih has
    refine ⟨b :: bs, ?_⟩
    rw [List.mapM_cons, hb, hbs]
    rfl

/-! ### Records -/

namespace Decode

variable {fields : List Field} {read : δ → String → Json → Result δ} {key : String} {part : δ → γ}
  {is : Json → γ → Prop}

/-- A part of a draft is set by one of the fields, and stays when any other field is read. -/
structure Sets (fields : List Field) (read : δ → String → Json → Result δ) (key : String)
    (part : δ → γ) (is : Json → γ → Prop) : Prop where
  isField : fields.any (fun f ↦ f.name == key) = true
  sets : ∀ d v d', read d key v = .ok d' → is v (part d')
  stays : ∀ d k v d', fields.any (fun f ↦ f.name == k) = true → k ≠ key →
    read d k v = .ok d' → part d' = part d

/-- The part that a field sets, after some members with different keys were read. -/
private theorem Sets.foldlM (h : Sets fields read key part is) {ms : Members}
    (hfields : ∀ m ∈ ms, fields.any (fun f ↦ f.name == m.1) = true)
    (hkeys : (ms.map Prod.fst).Nodup) {d d' : δ}
    (hread : ms.foldlM (fun d m ↦ read d m.1 m.2) d = .ok d') :
    (∀ v, ms.get? key = some v → is v (part d')) ∧ (ms.get? key = none → part d' = part d) := by
  induction ms generalizing d with
  | nil =>
    cases hread
    refine ⟨fun v hv ↦ ?_, fun _ ↦ rfl⟩
    cases hv
  | cons m ms ih =>
    obtain ⟨k, v⟩ := m
    rw [List.foldlM_cons] at hread
    obtain ⟨d₁, hfirst, hrest⟩ := bind_eq_ok_iff.1 hread
    obtain ⟨hk, hkeys⟩ := List.nodup_cons.1 hkeys
    obtain ⟨hfield, hfields⟩ := List.forall_mem_cons.1 hfields
    obtain ⟨hset, hmissing⟩ := ih hfields hkeys hrest
    rw [Members.get?, List.lookup_cons]
    by_cases hkey : k = key
    · subst hkey
      have hnone : Members.get? ms k = none :=
        List.lookup_eq_none_iff.2 fun m hm ↦ bne_iff_ne.2 fun hkm ↦
          hk (List.mem_map.2 ⟨m, hm, hkm.symm⟩)
      rw [beq_self_eq_true]
      refine ⟨fun w hw ↦ ?_, fun hw ↦ ?_⟩
      · cases hw
        rw [hmissing hnone]
        exact h.sets d v d₁ hfirst
      · cases hw
    · rw [beq_eq_false_iff_ne.2 (Ne.symm hkey)]
      exact ⟨hset, fun hnone ↦ (hmissing hnone).trans (h.stays d k v d₁ hfield hkey hfirst)⟩

/-- The part that a field sets is what the value of the key says, if there is one. -/
theorem record_sets (h : Sets fields read key part is) {name : String} {ms : Members}
    (hkeys : (ms.map Prod.fst).Nodup) {d d' : δ}
    (hrecord : record name fields read d (.obj ms) = .ok d') :
    (∀ v, ms.get? key = some v → is v (part d')) ∧ (ms.get? key = none → part d' = part d) := by
  obtain ⟨d₁, hread, hrest⟩ := bind_eq_ok_iff.1 hrecord
  have hd : d₁ = d' := by
    split at hrest
    · cases hrest
    · cases hrest
      rfl
  subst hd
  have hknown := h.foldlM (fun m hm ↦ (List.mem_filter.1 hm).2)
    (hkeys.sublist (List.Sublist.map _ List.filter_sublist)) hread
  rw [Members.get?_filter fun _ ↦ h.isField] at hknown
  exact hknown

/-- A record can be decoded when every member that is a field can be read, and no field is missing
that must not be. -/
theorem exists_record {name : String} {ms : Members} {d : δ}
    (hread : ∀ d, ∀ m ∈ ms, fields.any (fun f ↦ f.name == m.1) = true →
      ∃ d', read d m.1 m.2 = .ok d')
    (hmissing : ∀ f ∈ fields, f.isOptional = false → ms.has f.name = true) :
    ∃ d', record name fields read d (.obj ms) = .ok d' := by
  have hfold (known : Members) (hknown : ∀ m ∈ known, ∀ d, ∃ d', read d m.1 m.2 = .ok d') (d : δ) :
      ∃ d', known.foldlM (fun d m ↦ read d m.1 m.2) d = .ok d' := by
    induction known generalizing d with
    | nil => exact ⟨d, rfl⟩
    | cons m known ih =>
      obtain ⟨hm, hknown⟩ := List.forall_mem_cons.1 hknown
      obtain ⟨d₁, hd₁⟩ := hm d
      obtain ⟨d₂, hd₂⟩ := ih hknown d₁
      exact ⟨d₂, by rw [List.foldlM_cons]; exact bind_eq_ok_iff.2 ⟨d₁, hd₁, hd₂⟩⟩
  obtain ⟨d', hd'⟩ := hfold (ms.filter fun m ↦ fields.any (fun f ↦ f.name == m.1))
    (fun m hm d ↦ hread d m (List.mem_filter.1 hm).1 (List.mem_filter.1 hm).2) d
  refine ⟨d', bind_eq_ok_iff.2 ⟨d', hd', ?_⟩⟩
  have hnone : fields.find? (fun f ↦ !f.isOptional && !ms.has f.name) = none := by
    rw [List.find?_eq_none]
    intro f hf hbad
    rw [Bool.and_eq_true, Bool.not_eq_true', Bool.not_eq_true'] at hbad
    exact absurd (hmissing f hf hbad.1) (by rw [hbad.2]; nofun)
  rw [hnone]
  rfl

/-- What reading a field does not change. -/
private theorem part_eq_of_bind {x : Result α} {f : α → δ} {c : γ} {d : δ}
    (h : (x >>= fun a ↦ pure (f a)) = .ok d) (hf : ∀ a, part (f a) = c) : part d = c := by
  obtain ⟨a, -, ha⟩ := bind_eq_ok_iff.1 h
  cases ha
  exact hf a

/-! ### Fields -/

/-- A text comes from a text. -/
theorem text_eq_ok {v : Json} {s : String} : text v = .ok s ↔ v = .str s := by
  cases v <;> simp [text]

/-- A truth value comes from a truth value. -/
theorem bool_eq_ok {v : Json} {b : Bool} : bool v = .ok b ↔ v = .bool b := by
  cases v <;> simp [bool]

/-- A text that may be `null` instead is the text of the value, or none. -/
theorem optional_text_eq_ok {v : Json} {s : Option String} (h : optional text v = .ok s) :
    s = v.asStr? := by
  cases v with
  | null => cases h; rfl
  | str t => cases h; rfl
  | _ => cases h

/-- An object that may be `null` instead has the members of the value, or none. -/
theorem optional_members_eq_ok {v : Json} {ps : Option Members}
    (h : optional members v = .ok ps) : ps = v.asObj? := by
  cases v with
  | null => cases h; rfl
  | obj ms => cases h; rfl
  | _ => cases h

end Decode

/-! ### Actions -/

namespace ActionCall

private theorem sets_name : Decode.Sets
    [⟨"name", false⟩, ⟨"params", true⟩, ⟨"await", true⟩] readField "name" Draft.name
    (fun v name ↦ v = .str name) where
  isField := rfl
  sets d v d' h := by
    obtain ⟨name, hname, h⟩ := bind_eq_ok_iff.1 h
    cases h
    exact Decode.text_eq_ok.1 hname
  stays d k v d' hk hne h := by
    simp only [List.any_cons, List.any_nil, Bool.or_false, Bool.or_eq_true, beq_iff_eq] at hk
    rcases hk with rfl | rfl | rfl
    · exact absurd rfl hne
    · exact Decode.part_eq_of_bind h fun _ ↦ rfl
    · exact Decode.part_eq_of_bind h fun _ ↦ rfl

private theorem sets_params : Decode.Sets
    [⟨"name", false⟩, ⟨"params", true⟩, ⟨"await", true⟩] readField "params" Draft.params
    (fun v ps ↦ ps = v.asObj?) where
  isField := rfl
  sets d v d' h := by
    obtain ⟨ps, hps, h⟩ := bind_eq_ok_iff.1 h
    cases h
    exact Decode.optional_members_eq_ok hps
  stays d k v d' hk hne h := by
    simp only [List.any_cons, List.any_nil, Bool.or_false, Bool.or_eq_true, beq_iff_eq] at hk
    rcases hk with rfl | rfl | rfl
    · exact Decode.part_eq_of_bind h fun _ ↦ rfl
    · exact absurd rfl hne
    · exact Decode.part_eq_of_bind h fun _ ↦ rfl

private theorem sets_await : Decode.Sets
    [⟨"name", false⟩, ⟨"params", true⟩, ⟨"await", true⟩] readField "await" Draft.await
    (fun v b ↦ v = .bool b) where
  isField := rfl
  sets d v d' h := by
    obtain ⟨b, hb, h⟩ := bind_eq_ok_iff.1 h
    cases h
    exact Decode.bool_eq_ok.1 hb
  stays d k v d' hk hne h := by
    simp only [List.any_cons, List.any_nil, Bool.or_false, Bool.or_eq_true, beq_iff_eq] at hk
    rcases hk with rfl | rfl | rfl
    · exact Decode.part_eq_of_bind h fun _ ↦ rfl
    · exact Decode.part_eq_of_bind h fun _ ↦ rfl
    · exact absurd rfl hne

/-- The action that an object describes has the name of the object, and its parameters; parameters
that are no object are none. -/
theorem decode_obj {ms : Members} (hkeys : (ms.map Prod.fst).Nodup) {call : ActionCall}
    (h : decode (.obj ms) = .ok call) :
    (∀ v, ms.get? "name" = some v → v = .str call.name) ∧
      call.params = (ms.get? "params").bind Json.asObj? := by
  obtain ⟨d, hrecord, hcall⟩ := bind_eq_ok_iff.1 h
  cases hcall
  refine ⟨(Decode.record_sets sets_name hkeys hrecord).1, ?_⟩
  obtain ⟨hset, hmissing⟩ := Decode.record_sets sets_params hkeys hrecord
  cases hparams : ms.get? "params" with
  | none => exact hmissing hparams
  | some v => exact hset v hparams

/-- The action that an object describes is awaited as the object says, or without a word on it. -/
theorem await_of_decode {ms : Members} (hkeys : (ms.map Prod.fst).Nodup) {call : ActionCall}
    (h : decode (.obj ms) = .ok call) :
    (∀ v, ms.get? "await" = some v → v = .bool call.await) ∧
      (ms.get? "await" = none → call.await = true) := by
  obtain ⟨d, hrecord, hcall⟩ := bind_eq_ok_iff.1 h
  cases hcall
  exact Decode.record_sets sets_await hkeys hrecord

/-- An object describes an action if it has a name, and parameters and a note on awaiting that are
missing or of the right type. -/
theorem exists_decode {ms : Members} (hkeys : (ms.map Prod.fst).Nodup)
    (hname : ∃ name, ms.get? "name" = some (.str name))
    (hparams : ∀ v, ms.get? "params" = some v → ∃ ps, v = .obj ps)
    (hawait : ∀ v, ms.get? "await" = some v → ∃ b, v = .bool b) :
    ∃ call, decode (.obj ms) = .ok call := by
  obtain ⟨name, hname⟩ := hname
  obtain ⟨d, hd⟩ : ∃ d, Decode.record "GrabAction"
      [⟨"name", false⟩, ⟨"params", true⟩, ⟨"await", true⟩] readField {} (.obj ms) = .ok d := by
    refine Decode.exists_record (fun d ⟨k, v⟩ hm hfield ↦ ?_) fun f hf hrequired ↦ ?_
    · have hvalue := Members.get?_of_mem hkeys hm
      simp only [List.any_cons, List.any_nil, Bool.or_false, Bool.or_eq_true, beq_iff_eq] at hfield
      rcases hfield with rfl | rfl | rfl
      · cases hvalue.symm.trans hname
        exact ⟨{ d with name := name }, rfl⟩
      · obtain ⟨ps, rfl⟩ := hparams v hvalue
        exact ⟨{ d with params := some ps }, rfl⟩
      · obtain ⟨b, rfl⟩ := hawait v hvalue
        exact ⟨{ d with await := b }, rfl⟩
    · simp only [List.mem_cons, List.not_mem_nil, or_false] at hf
      rcases hf with rfl | rfl | rfl
      · rw [Members.has_eq_isSome, hname]
        rfl
      · cases hrequired
      · cases hrequired
  exact ⟨_, bind_eq_ok_iff.2 ⟨d, hd, rfl⟩⟩

end ActionCall

/-- Reading nested actions fails as the parameter is no list of them. -/
theorem Members.body_eq_error {action key : String} {ps : Members} {err : ActionError}
    (h : ps.body action key = .error err) : ∃ details, err = .invalidParams action details := by
  rw [body] at h
  cases hread : Decode.list ActionCall.decode ((ps.get? key).getD (.arr [])) with
  | ok calls =>
    rw [hread] at h
    cases h
  | error e =>
    rw [hread] at h
    cases h
    exact ⟨_, rfl⟩

/-! ### Recipes -/

namespace Recipe

private theorem sets_name : Decode.Sets
    [⟨"name", false⟩, ⟨"description", true⟩, ⟨"actions", false⟩] readField "name" Draft.name
    (fun v name ↦ v = .str name) where
  isField := rfl
  sets d v d' h := by
    obtain ⟨name, hname, h⟩ := bind_eq_ok_iff.1 h
    cases h
    exact Decode.text_eq_ok.1 hname
  stays d k v d' hk hne h := by
    simp only [List.any_cons, List.any_nil, Bool.or_false, Bool.or_eq_true, beq_iff_eq] at hk
    rcases hk with rfl | rfl | rfl
    · exact absurd rfl hne
    · exact Decode.part_eq_of_bind h fun _ ↦ rfl
    · exact Decode.part_eq_of_bind h fun _ ↦ rfl

private theorem sets_actions : Decode.Sets
    [⟨"name", false⟩, ⟨"description", true⟩, ⟨"actions", false⟩] readField "actions" Draft.actions
    (fun v actions ↦ Decode.list ActionCall.decode v = .ok actions) where
  isField := rfl
  sets d v d' h := by
    obtain ⟨actions, hactions, h⟩ := bind_eq_ok_iff.1 h
    cases h
    exact hactions
  stays d k v d' hk hne h := by
    simp only [List.any_cons, List.any_nil, Bool.or_false, Bool.or_eq_true, beq_iff_eq] at hk
    rcases hk with rfl | rfl | rfl
    · exact Decode.part_eq_of_bind h fun _ ↦ rfl
    · exact Decode.part_eq_of_bind h fun _ ↦ rfl
    · exact absurd rfl hne

private theorem sets_description : Decode.Sets
    [⟨"name", false⟩, ⟨"description", true⟩, ⟨"actions", false⟩] readField "description"
    Draft.description (fun v s ↦ s = v.asStr?) where
  isField := rfl
  sets d v d' h := by
    obtain ⟨s, hs, h⟩ := bind_eq_ok_iff.1 h
    cases h
    exact Decode.optional_text_eq_ok hs
  stays d k v d' hk hne h := by
    simp only [List.any_cons, List.any_nil, Bool.or_false, Bool.or_eq_true, beq_iff_eq] at hk
    rcases hk with rfl | rfl | rfl
    · exact Decode.part_eq_of_bind h fun _ ↦ rfl
    · exact absurd rfl hne
    · exact Decode.part_eq_of_bind h fun _ ↦ rfl

/-- The recipe that an object describes has the name of the object, and its actions. -/
theorem decode_obj {ms : Members} (hkeys : (ms.map Prod.fst).Nodup) {r : Recipe}
    (h : decode (.obj ms) = .ok r) :
    (∀ v, ms.get? "name" = some v → v = .str r.name) ∧
      ∀ v, ms.get? "actions" = some v → Decode.list ActionCall.decode v = .ok r.actions := by
  obtain ⟨d, hrecord, hrecipe⟩ := bind_eq_ok_iff.1 h
  cases hrecipe
  exact ⟨(Decode.record_sets sets_name hkeys hrecord).1,
    (Decode.record_sets sets_actions hkeys hrecord).1⟩

/-- The recipe that an object describes has the description of the object, if that is a text. -/
theorem description_of_decode {ms : Members} (hkeys : (ms.map Prod.fst).Nodup) {r : Recipe}
    (h : decode (.obj ms) = .ok r) : r.description = (ms.get? "description").bind Json.asStr? := by
  obtain ⟨d, hrecord, hrecipe⟩ := bind_eq_ok_iff.1 h
  cases hrecipe
  obtain ⟨hset, hmissing⟩ := Decode.record_sets sets_description hkeys hrecord
  cases hdescription : ms.get? "description" with
  | none => exact hmissing hdescription
  | some v => exact hset v hdescription

/-- An object describes a recipe if it has a name and a list of values that describe actions, and a
description that is missing or a text. -/
theorem exists_decode {ms : Members} (hkeys : (ms.map Prod.fst).Nodup)
    (hname : ∃ name, ms.get? "name" = some (.str name))
    (hdescription : ∀ v, ms.get? "description" = some v → ∃ s, v = .str s)
    (hactions : ∃ items, ms.get? "actions" = some (.arr items) ∧
      ∀ v ∈ items, ∃ call, ActionCall.decode v = .ok call) :
    ∃ r, decode (.obj ms) = .ok r := by
  obtain ⟨name, hname⟩ := hname
  obtain ⟨items, hitems, hcalls⟩ := hactions
  obtain ⟨calls, hcalls⟩ := Decode.exists_mapM hcalls
  obtain ⟨d, hd⟩ : ∃ d, Decode.record "Grab"
      [⟨"name", false⟩, ⟨"description", true⟩, ⟨"actions", false⟩] readField {} (.obj ms) =
        .ok d := by
    refine Decode.exists_record (fun d ⟨k, v⟩ hm hfield ↦ ?_) fun f hf hrequired ↦ ?_
    · have hvalue := Members.get?_of_mem hkeys hm
      simp only [List.any_cons, List.any_nil, Bool.or_false, Bool.or_eq_true, beq_iff_eq] at hfield
      rcases hfield with rfl | rfl | rfl
      · cases hvalue.symm.trans hname
        exact ⟨{ d with name := name }, rfl⟩
      · obtain ⟨s, rfl⟩ := hdescription v hvalue
        exact ⟨{ d with description := some s }, rfl⟩
      · cases hvalue.symm.trans hitems
        exact ⟨{ d with actions := calls }, bind_eq_ok_iff.2 ⟨calls, hcalls, rfl⟩⟩
    · simp only [List.mem_cons, List.not_mem_nil, or_false] at hf
      rcases hf with rfl | rfl | rfl
      · rw [Members.has_eq_isSome, hname]
        rfl
      · cases hrequired
      · rw [Members.has_eq_isSome, hitems]
        rfl
  exact ⟨_, bind_eq_ok_iff.2 ⟨d, hd, rfl⟩⟩

end Recipe
end WebRecipe
