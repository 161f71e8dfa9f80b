import WebRecipe.Proofs.Members
import WebRecipe.Proofs.Outcome
import WebRecipe.Recipe.Load

/-!
# Documents that are read

A key that a document repeats is there once in the value that is read: it keeps its first place and
its last value. So no object in a document has a key twice, whichever format it is written in.

## Main definitions

* `Yields`: what the results of a computation with a state are like.

## Main results

* `Json.distinct_of_parse`, `Yaml.distinct_of_parse`: the values of texts.
* `Recipe.exists_document_of_mem_load`: the documents behind the recipes of a directory.
-/

namespace WebRecipe

/-! ### Computations with a state -/

section Yields

variable {σ ε α β : Type} {x : StateT σ (Except ε) α} {f : α → StateT σ (Except ε) β} {p : α → Prop}
  {q : β → Prop}

/-- All results of a computation with a state, in whatever state it begins, are as said. -/
def Yields (x : StateT σ (Except ε) α) (p : α → Prop) : Prop :=
  ∀ s a s', x s = .ok (a, s') → p a

namespace Yields

theorem any : Yields x (fun _ ↦ True) :=
  fun _ _ _ _ ↦ trivial

theorem pure {a : α} (h : p a) : Yields (Pure.pure a : StateT σ (Except ε) α) p := by
  rintro s b s' ⟨⟩
  exact h

theorem bind (h : Yields x p) (hf : ∀ a, p a → Yields (f a) q) : Yields (x >>= f) q := by
  intro s b s' hb
  replace hb : (x s >>= fun r ↦ f r.1 r.2) = .ok (b, s') := hb
  cases hx : x s with
  | error e => rw [hx] at hb; cases hb
  | ok r => rw [hx] at hb; exact hf r.1 (h s r.1 r.2 hx) r.2 b s' hb

/-- What comes after a step does not depend on its result. -/
theorem next (hf : ∀ a, Yields (f a) q) : Yields (x >>= f) q :=
  any.bind fun a _ ↦ hf a

/-- A step that fails yields nothing. -/
theorem fails (h : ∀ s, ∃ e, x s = .error e) : Yields x p := by
  intro s a s' ha
  obtain ⟨e, he⟩ := h s
  cases he.symm.trans ha

theorem ite {c : Prop} [Decidable c] {y : StateT σ (Except ε) α} (hx : c → Yields x p)
    (hy : ¬ c → Yields y p) : Yields (if c then x else y) p := by
  split
  · exact hx ‹c›
  · exact hy ‹¬ c›

/-- A step that has no state. -/
theorem lift {o : Except ε α} (h : ∀ a, o = .ok a → p a) :
    Yields (liftM o : StateT σ (Except ε) α) p := by
  intro s a s' ha
  replace ha : (o >>= fun a ↦ Pure.pure (a, s)) = .ok (a, s') := ha
  obtain ⟨b, hb, hs⟩ := bind_eq_ok_iff.1 ha
  cases hs
  exact h a hb

/-- One computation for each element. -/
theorem mapM {κ : Type} {f : κ → StateT σ (Except ε) α} {ks : List κ} (h : ∀ k, Yields (f k) p) :
    Yields (ks.mapM f) (fun as ↦ ∀ a ∈ as, p a) := by
  induction ks with
  | nil => exact .pure nofun
  | cons k ks ih =>
    rw [List.mapM_cons]
    exact .bind (h k) fun a ha ↦ .bind ih fun as has ↦ .pure (List.forall_mem_cons.2 ⟨ha, has⟩)

end Yields
end Yields

/-! ### JSON -/

namespace Json

/-- A value that has no other parts than itself has no double keys. -/
private theorem distinct_of_parts {v : Json} (h : v.parts = [v]) (hkeys : v.keys = []) :
    v.Distinct := by
  intro part hpart
  rw [h] at hpart
  rw [List.mem_singleton.1 hpart, hkeys]
  exact List.nodup_nil

namespace Parser

private theorem yields_failHere {α : Type} {p : α → Prop} {cause : ParseCause} :
    Yields (failHere cause : Reader α) p :=
  .fails fun _ ↦ ⟨_, rfl⟩

private theorem yields_failNext {α : Type} {p : α → Prop} {cause : ParseCause} :
    Yields (failNext cause : Reader α) p :=
  .fails fun _ ↦ ⟨_, rfl⟩

private theorem yields_within {α : Type} {step : PlaceStep} {r : Reader α} {p : α → Prop}
    (h : Yields r p) : Yields (within step r) p := by
  intro c a c' ha
  rw [within] at ha
  cases hr : r c with
  | error f =>
    rw [hr] at ha
    cases ha
  | ok result =>
    rw [hr] at ha
    cases ha
    exact h c a c' hr

private theorem yields_scaled (negative : Bool) (n : Nat) (e : Int) :
    Yields (scaled negative n e) Distinct := by
  rw [scaled]
  refine .ite (fun _ ↦ .pure (distinct_of_parts rfl rfl)) fun _ ↦ ?_
  refine .ite (fun _ ↦ .pure (distinct_of_parts rfl rfl)) fun _ ↦ ?_
  refine .ite (fun _ ↦ yields_failHere) fun _ ↦ ?_
  exact .ite (fun _ ↦ yields_failHere) fun _ ↦ .pure (distinct_of_parts rfl rfl)

private theorem yields_exponent (negative : Bool) (n : Nat) (e : Int) :
    Yields (exponent negative n e) Distinct := by
  rw [exponent]
  dsimp only
  -- Whatever the sign and the digits are, what is read is a number.
  repeat' first
    | exact .bind yields_failHere nofun
    | exact yields_failHere
    | exact yields_scaled _ _ _
    | exact .pure (distinct_of_parts rfl rfl)
    | refine .next fun _ ↦ ?_
    | split

private theorem yields_afterDigits (negative : Bool) (n : Nat) (e : Int) :
    Yields (afterDigits negative n e) Distinct := by
  rw [afterDigits]
  refine .next fun c ↦ ?_
  split
  · exact yields_exponent _ _ _
  · exact yields_exponent _ _ _
  · exact yields_scaled _ _ _

private theorem yields_fraction (negative : Bool) (n : Nat) (e : Int) :
    Yields (fraction negative n e) Distinct := by
  rw [fraction]
  dsimp only
  refine .next fun _ ↦ .next fun digits ↦ .ite (fun _ ↦ .next fun c ↦ ?_) fun _ ↦ ?_
  · split
    · exact .next fun _ ↦ yields_afterDigits _ _ _
    · exact .next fun _ ↦ yields_afterDigits _ _ _
  · exact yields_afterDigits _ _ _

private theorem distinct_integer (negative : Bool) (n : Nat) : (integer negative n).Distinct := by
  rw [integer]
  split
  · split
    · exact distinct_of_parts rfl rfl
    · exact distinct_of_parts rfl rfl
  · exact distinct_of_parts rfl rfl

private theorem yields_number (negative : Bool) : Yields (number negative) Distinct := by
  rw [number]
  dsimp only
  repeat' first
    | exact yields_failHere
    | exact yields_scaled _ _ _
    | exact yields_fraction _ _ _
    | exact yields_exponent _ _ _
    | exact .pure (distinct_integer _ _)
    | refine .next fun _ ↦ ?_
    | split

private theorem yields_item {value : Reader Json} (h : Yields value Distinct) (isFirst : Bool) :
    Yields (item value isFirst) (fun o ↦ ∀ v ∈ o, v.Distinct) := by
  have hvalue : Yields (value >>= fun v ↦ pure (some v)) (fun o ↦ ∀ v ∈ o, v.Distinct) :=
    .bind h fun v hv ↦ .pure fun w hw ↦ Option.some.inj hw ▸ hv
  rw [item]
  dsimp only
  refine .next fun c ↦ ?_
  split
  · exact yields_failNext
  · exact .next fun _ ↦ .pure nofun
  · repeat' first
      | exact hvalue
      | refine .next fun _ ↦ ?_
      | split

private theorem yields_items {value : Reader Json} (h : Yields value Distinct) (done : List Json)
    (hdone : ∀ v ∈ done, v.Distinct) (fuel : Nat) :
    Yields (items value done fuel) (fun vs ↦ ∀ v ∈ vs, v.Distinct) := by
  induction fuel generalizing done with
  | zero => exact yields_failNext
  | succ fuel ih =>
    rw [items]
    refine .bind (yields_within (yields_item h _)) fun o ho ↦ ?_
    split
    · exact .pure fun v hv ↦ hdone v (List.mem_reverse.1 hv)
    · exact ih _ (List.forall_mem_cons.2 ⟨ho _ rfl, hdone⟩)

private theorem yields_valueOfMember {value : Reader Json} (h : Yields value Distinct) :
    Yields (valueOfMember value) Distinct := by
  rw [valueOfMember]
  refine .next fun c ↦ ?_
  dsimp only
  split <;> exact .next fun _ ↦ h

private theorem yields_members {value : Reader Json} (h : Yields value Distinct)
    (done : List (String × Json)) (hdone : ∀ m ∈ done, m.2.Distinct) (fuel : Nat) :
    Yields (members value done fuel) (fun ms ↦ ∀ m ∈ ms, m.2.Distinct) := by
  induction fuel generalizing done with
  | zero => exact yields_failNext
  | succ fuel ih =>
    rw [members]
    refine .next fun key ↦ ?_
    split
    · exact .pure fun m hm ↦ hdone m (List.mem_reverse.1 hm)
    · refine .bind (yields_within (yields_valueOfMember h)) fun v hv ↦ ?_
      exact ih _ (List.forall_mem_cons.2 ⟨hv, hdone⟩)

/-- A value is read without double keys, as its members are set one after another. -/
private theorem yields_value (depth : Nat) : Yields (value depth) Distinct := by
  induction depth with
  | zero => exact yields_failNext
  | succ depth ih =>
    have harr : Yields (do return arr (← items (value depth) [] ((← remaining) + 1))) Distinct :=
      .next fun fuel ↦ .bind (yields_items ih [] nofun _) fun vs hvs ↦ .pure (.arr hvs)
    have hobj : Yields (do
        return obj (Members.ofList (← members (value depth) [] ((← remaining) + 1)))) Distinct := by
      refine .next fun fuel ↦ .bind (yields_members ih [] nofun _) fun ms hms ↦ .pure ?_
      have hset := Members.ofList_spec hms
      exact .obj hset.1 hset.2
    rw [value]
    refine .next fun c ↦ ?_
    dsimp only
    split
    · exact yields_failNext
    split
    · exact .next fun _ ↦ .next fun _ ↦ .pure (distinct_of_parts rfl rfl)
    · exact .next fun _ ↦ .next fun _ ↦ .pure (distinct_of_parts rfl rfl)
    · exact .next fun _ ↦ .next fun _ ↦ .pure (distinct_of_parts rfl rfl)
    · exact .next fun _ ↦ yields_number true
    · exact .next fun _ ↦ .next fun s ↦ .pure (distinct_of_parts rfl rfl)
    · exact .ite (fun _ ↦ .next fun _ ↦ .next fun _ ↦ harr) fun _ ↦ .next fun _ ↦ harr
    · exact .ite (fun _ ↦ .next fun _ ↦ .next fun _ ↦ hobj) fun _ ↦ .next fun _ ↦ hobj
    · exact .ite (fun _ ↦ yields_number false) fun _ ↦ yields_failNext

private theorem yields_document : Yields document Distinct := by
  rw [document]
  refine .bind (yields_value 128) fun v hv ↦ .next fun c ↦ ?_
  split
  · exact yields_failNext
  · exact .pure hv

end Parser

/-- What a text writes in JSON has no double keys. -/
theorem distinct_of_parse {text : String} {v : Json} (h : parse text = .ok v) : v.Distinct := by
  rw [parse, readAll] at h
  dsimp only at h
  split at h
  case h_1 c hread =>
    cases h
    exact Parser.yields_document _ _ _ hread
  case h_2 => cases h

end Json

/-! ### YAML -/

namespace Yaml

open Json (Distinct)

private theorem distinct_doubleValue (x : Float) : (doubleValue x).Distinct := by
  rw [doubleValue]
  split
  · exact Json.distinct_of_parts rfl rfl
  · exact Json.distinct_of_parts rfl rfl

private theorem distinct_of_plainValue {text : String} {v : Json} (h : plainValue text = .ok v) :
    v.Distinct := by
  rw [plainValue] at h
  repeat' first
    | exact Json.distinct_of_parts rfl rfl
    | exact distinct_doubleValue _
    | cases h
    | split at h

private theorem distinct_of_scalarValue {tag : Option String} {text : String} {isPlain : Bool}
    {v : Json} (h : scalarValue tag text isPlain = .ok v) : v.Distinct := by
  rw [scalarValue.eq_def] at h
  repeat' first
    | exact distinct_of_plainValue h
    | exact Json.distinct_of_parts rfl rfl
    | exact distinct_doubleValue _
    | cases h
    | split at h

/-- A value is read without double keys, as its members are set one after another. -/
private theorem yields_value (policy : AliasPolicy) (depth : Nat) (n : Node) :
    Yields (policy.value depth n) Distinct := by
  induction depth generalizing n with
  | zero =>
    rw [AliasPolicy.value]
    refine .next fun n ↦ ?_
    split
    · exact .next fun _ ↦ .lift fun _ ↦ distinct_of_scalarValue
    · exact .fails fun _ ↦ ⟨_, rfl⟩
  | succ depth ih =>
    rw [AliasPolicy.value]
    refine .next fun n ↦ ?_
    split
    · exact .next fun _ ↦ .lift fun _ ↦ distinct_of_scalarValue
    · exact .next fun _ ↦ .bind (.mapM ih) fun vs hvs ↦ .pure (.arr hvs)
    · have hmember (m : Node × Node) : Yields (do
          return (← policy.key m.1, ← policy.value depth m.2) : Following (String × Json))
          (fun m ↦ m.2.Distinct) :=
        .next fun key ↦ .bind (ih m.2) fun v hv ↦ .pure hv
      refine .next fun _ ↦ .bind (.mapM hmember) fun ms hms ↦ .pure ?_
      exact .obj (Members.ofList_spec hms).1 (Members.ofList_spec hms).2
    · exact .fails fun _ ↦ ⟨_, rfl⟩

/-- What a text writes in YAML has no double keys. -/
theorem distinct_of_parse {text : String} {v : Json} (h : parse text = .ok v) : v.Distinct := by
  obtain ⟨root?, -, h⟩ := bind_eq_ok_iff.1 h
  split at h
  · cases h
    exact Json.distinct_of_parts rfl rfl
  · obtain ⟨⟨w, followed⟩, hw, h⟩ := bind_eq_ok_iff.1 h
    cases h
    exact yields_value _ _ _ _ _ _ hw

end Yaml

/-! ### Documents -/

namespace Recipe

/-- The document that a text writes has no double keys. -/
theorem Format.distinct_of_read? {format : Format} {text : String} {document : Json}
    (h : format.read? text = some document) : document.Distinct := by
  cases format with
  | json => exact Json.distinct_of_parse (toOption_eq_some_iff.1 h)
  | yaml => exact Yaml.distinct_of_parse (toOption_eq_some_iff.1 h)

variable {isRegistered : String → Bool} {r : Recipe}

/-- The recipe of a text is described by a document without double keys. -/
theorem exists_document_of_ofText? {format : Format} {text : String}
    (h : ofText? isRegistered format text = some r) :
    ∃ document : Json, document.Distinct ∧ ofDocument isRegistered document = .ok r := by
  obtain ⟨document, hread, hr⟩ := Option.bind_eq_some_iff.1 h
  exact ⟨document, Format.distinct_of_read? hread, toOption_eq_some_iff.1 hr⟩

private theorem mem_of_mem_firstOfEachName {rs : List Recipe} (h : r ∈ firstOfEachName rs) :
    r ∈ rs := by
  induction rs with
  | nil => exact h
  | cons first rest ih =>
    rcases List.mem_cons.1 h with rfl | h
    · exact List.mem_cons_self
    · exact List.mem_cons_of_mem _ (ih (List.mem_filter.1 h).1)

/-- The recipes of a directory are described by documents without issues and without double keys. -/
theorem exists_document_of_mem_load {fs : FileSystem} {dir : String} {recipes : List Recipe}
    (h : load isRegistered fs dir = .ok recipes) (hr : r ∈ recipes) :
    ∃ document : Json, document.Distinct ∧ ofDocument isRegistered document = .ok r := by
  obtain ⟨names, -, h⟩ := bind_eq_ok_iff.1 h
  dsimp only at h
  split at h
  case isTrue => cases h
  case isFalse =>
    cases h
    obtain ⟨name, -, hfile⟩ := List.mem_filterMap.1 (mem_of_mem_firstOfEachName hr)
    obtain ⟨format, -, hfile⟩ := Option.bind_eq_some_iff.1 hfile
    obtain ⟨text, -, hfile⟩ := Option.bind_eq_some_iff.1 hfile
    exact exists_document_of_ofText? hfile

end Recipe
end WebRecipe
