import Mathlib.Data.Finset.Card
import WebRecipe.Action.Builtin

/-!
# What a registry holds after registrations

A registry begins empty, and handlers are registered in it one after another, each in one of the two
layers. A registration succeeds where its name is free in both layers, and nothing that comes after it
takes the handler away. So each name is in one layer, and the handler under a name is the one that was
first registered under it.

## Main definitions

* `Registration`: a handler that is registered under a name in one of the layers.
* `Registry.registered`: the registry after registrations.
* `Registry.names`: the names of both layers.

## Main results

* `Registry.get?_leaves`, `Registry.isExtension_leaves`, `Registry.names_leaves`: what a registration
  changes.
* `Registry.nodup_names_registered`, `Registry.mem_names_registered`: each name that was registered is
  there, and once.
* `Registry.layers_apart`: which registrations fail, and what is found after them.
-/

namespace WebRecipe

/-- The layers of a registry. -/
inductive Registry.Layer where
  | builtin
  | extension
  deriving Repr, DecidableEq

/-- A handler that is registered under a name in one of the layers. -/
structure Registration (η : Type) where
  layer : Registry.Layer
  name : String
  handler : η

variable {η : Type}

namespace Registration

/-- The outcome of a registration. -/
def outcome (g : Registration η) (r : Registry η) : Except ConfigError (Registry η) :=
  match g.layer with
  | .builtin => r.addBuiltin g.name g.handler
  | .extension => r.extend g.name g.handler

/-- The registry after a registration; one that fails leaves it as it was. -/
def leaves (g : Registration η) (r : Registry η) : Registry η :=
  (g.outcome r).toOption.getD r

end Registration

namespace Registry

/-- The registry after registrations one after another. -/
def registered (gs : List (Registration η)) : Registry η :=
  gs.foldl (fun r g ↦ g.leaves r) {}

/-- The names of both layers. -/
def names (r : Registry η) : List String :=
  r.builtins.map Prod.fst ++ r.extensions.map Prod.fst

variable {r : Registry η} {g : Registration η} {name : String}

/-! ### Looking up -/

theorem get?_eq_or (r : Registry η) (name : String) :
    r.get? name = (r.builtins.lookup name).or (r.extensions.lookup name) := by
  rw [get?]
  cases r.builtins.lookup name <;> rfl

/-- A registry has a handler for the names that it contains. -/
theorem contains_eq_isSome (r : Registry η) (name : String) :
    r.contains name = (r.get? name).isSome := by
  rw [contains, get?_eq_or, Option.isSome_or]

/-- A registry contains the names of its layers. -/
theorem contains_iff_mem_names : r.contains name = true ↔ name ∈ r.names := by
  have hlookup (entries : List (String × η)) :
      (entries.lookup name).isSome = true ↔ name ∈ entries.map Prod.fst := by
    rw [← not_iff_not, Bool.not_eq_true, Option.isSome_eq_false_iff, Option.isNone_iff_eq_none,
      List.lookup_eq_none_iff, List.mem_map]
    constructor
    · rintro h ⟨entry, hentry, rfl⟩
      exact absurd rfl (bne_iff_ne.1 (h entry hentry))
    · exact fun h entry hentry ↦ bne_iff_ne.2 fun hname ↦ h ⟨entry, hentry, hname.symm⟩
  rw [contains, Bool.or_eq_true, hlookup, hlookup, names, List.mem_append]

theorem length_names (r : Registry η) : r.names.length = r.size := by
  simp [names, size]

/-! ### A registration -/

/-- The registration of a name that is taken fails. -/
theorem outcome_of_contains (h : r.contains g.name = true) :
    g.outcome r = .error (.duplicateAction g.name) := by
  rw [Registration.outcome]
  cases g.layer <;> simp [addBuiltin, extend, h]

/-- A registration that fails leaves the registry as it was. -/
theorem leaves_of_contains (h : r.contains g.name = true) : g.leaves r = r := by
  rw [Registration.leaves, outcome_of_contains h]
  rfl

/-- The registration of a free name succeeds. -/
theorem outcome_of_free (h : r.contains g.name = false) : g.outcome r = .ok (g.leaves r) := by
  rw [Registration.leaves, Registration.outcome]
  cases g.layer <;> simp [addBuiltin, extend, h, Except.toOption]

/-- Registrations succeed under the names that are free. -/
theorem exists_outcome_iff : (∃ r', g.outcome r = .ok r') ↔ r.contains g.name = false := by
  constructor
  · rintro ⟨r', hr'⟩
    by_contra hcontains
    rw [outcome_of_contains (Bool.not_eq_false _ ▸ hcontains)] at hr'
    cases hr'
  · exact fun h ↦ ⟨_, outcome_of_free h⟩

/-- A free name is put at the end of its layer. -/
theorem leaves_of_free (h : r.contains g.name = false) :
    g.leaves r = ⟨r.builtins ++ if g.layer = .builtin then [(g.name, g.handler)] else [],
      r.extensions ++ if g.layer = .extension then [(g.name, g.handler)] else []⟩ := by
  rw [Registration.leaves, Registration.outcome]
  cases hlayer : g.layer <;> simp [addBuiltin, extend, h, Except.toOption]

/-- A registration adds its handler, where nothing was found before. -/
theorem get?_leaves (g : Registration η) (r : Registry η) (name : String) :
    (g.leaves r).get? name =
      (r.get? name).or (if name = g.name then some g.handler else none) := by
  cases hcontains : r.contains g.name with
  | true =>
    rw [leaves_of_contains hcontains]
    split
    · rename_i hname
      rw [contains_eq_isSome, ← hname, Option.isSome_iff_exists] at hcontains
      obtain ⟨h, hh⟩ := hcontains
      rw [hh, Option.some_or]
    · rw [Option.or_none]
  | false =>
    rw [leaves_of_free hcontains, get?_eq_or, get?_eq_or]
    by_cases hname : name = g.name
    · subst hname
      rw [contains, Bool.or_eq_false_iff, Option.isSome_eq_false_iff, Option.isNone_iff_eq_none,
        Option.isSome_eq_false_iff, Option.isNone_iff_eq_none] at hcontains
      cases g.layer <;> simp [List.lookup_append, hcontains]
    · have hne : (name == g.name) = false := beq_eq_false_iff_ne.2 hname
      cases g.layer <;> simp [List.lookup_append, List.lookup_cons, hne, hname]

/-- A registration puts its name among the extensions or not, where the name is free. -/
theorem isExtension_leaves (g : Registration η) (r : Registry η) (name : String) :
    (g.leaves r).isExtension name =
      (r.isExtension name || !r.contains name && (name == g.name && g.layer == .extension)) := by
  cases hcontains : r.contains g.name with
  | true =>
    rw [leaves_of_contains hcontains]
    by_cases hname : name = g.name
    · rw [hname, hcontains, Bool.not_true, Bool.false_and, Bool.or_false]
    · rw [beq_eq_false_iff_ne.2 hname, Bool.false_and, Bool.and_false, Bool.or_false]
  | false =>
    rw [leaves_of_free hcontains, isExtension, isExtension]
    by_cases hname : name = g.name
    · subst hname
      cases g.layer <;> simp [List.lookup_append, hcontains]
    · have hne : (name == g.name) = false := beq_eq_false_iff_ne.2 hname
      cases g.layer <;> simp [List.lookup_append, List.lookup_cons, hne]

/-- A free name is one more name. -/
theorem names_leaves (h : r.contains g.name = false) :
    (g.leaves r).names.Perm (g.name :: r.names) := by
  rw [leaves_of_free h, names, names]
  cases g.layer with
  | builtin =>
    rw [if_pos rfl, if_neg nofun, List.append_nil, List.map_append, List.append_assoc]
    exact List.perm_middle
  | extension =>
    rw [if_neg nofun, if_pos rfl, List.append_nil, List.map_append, ← List.append_assoc]
    exact List.perm_append_singleton _ _

/-! ### Registrations in a row -/

theorem registered_concat (gs : List (Registration η)) (g : Registration η) :
    registered (gs ++ [g]) = g.leaves (registered gs) := by
  rw [registered, List.foldl_append]
  rfl

/-- The names of a registry are those under which something was registered. -/
theorem mem_names_registered (gs : List (Registration η)) (name : String) :
    name ∈ (registered gs).names ↔ name ∈ gs.map Registration.name := by
  induction gs using List.reverseRecOn with
  | nil => exact Iff.rfl
  | append_singleton gs g ih =>
    rw [registered_concat, List.map_append, List.mem_append, ← ih, List.map_singleton,
      List.mem_singleton]
    cases hcontains : (registered gs).contains g.name with
    | true =>
      rw [leaves_of_contains hcontains]
      refine ⟨.inl, fun h ↦ h.elim id ?_⟩
      rintro rfl
      exact contains_iff_mem_names.1 hcontains
    | false =>
      rw [(names_leaves hcontains).mem_iff, List.mem_cons, or_comm]

/-- A registry has no name twice. -/
theorem nodup_names_registered (gs : List (Registration η)) : (registered gs).names.Nodup := by
  induction gs using List.reverseRecOn with
  | nil => exact List.nodup_nil
  | append_singleton gs g ih =>
    rw [registered_concat]
    cases hcontains : (registered gs).contains g.name with
    | true => rwa [leaves_of_contains hcontains]
    | false =>
      rw [(names_leaves hcontains).nodup_iff, List.nodup_cons, ← contains_iff_mem_names, hcontains]
      exact ⟨Bool.false_ne_true, ih⟩

theorem contains_registered (gs : List (Registration η)) (name : String) :
    (registered gs).contains name = true ↔ name ∈ gs.map Registration.name := by
  rw [contains_iff_mem_names, mem_names_registered]

/-- What is found under a name stays there. -/
theorem get?_foldl_leaves {h : η} (hget : r.get? name = some h) (gs : List (Registration η)) :
    (gs.foldl (fun r g ↦ g.leaves r) r).get? name = some h := by
  induction gs generalizing r with
  | nil => exact hget
  | cons g gs ih => exact ih (by rw [get?_leaves, hget, Option.some_or])

/-- A name stays in its layer. -/
theorem isExtension_foldl_leaves (hname : r.contains name = true) (gs : List (Registration η)) :
    (gs.foldl (fun r g ↦ g.leaves r) r).isExtension name = r.isExtension name := by
  induction gs generalizing r with
  | nil => rfl
  | cons g gs ih =>
    have hsame : (g.leaves r).isExtension name = r.isExtension name := by
      rw [isExtension_leaves, hname, Bool.not_true, Bool.false_and, Bool.or_false]
    rw [List.foldl_cons, ih ?_, hsame]
    rw [contains_eq_isSome] at hname ⊢
    rw [get?_leaves, Option.isSome_or, hname, Bool.true_or]

/-- Nothing is found under a name under which nothing was registered. -/
theorem get?_registered_of_notMem {gs : List (Registration η)}
    (h : name ∉ gs.map Registration.name) :
    (registered gs).get? name = none ∧ (registered gs).isExtension name = false := by
  have hcontains := Bool.eq_false_iff.2 (mt (contains_registered gs name).1 h)
  refine ⟨?_, (Bool.or_eq_false_iff.1 hcontains).2⟩
  rwa [contains_eq_isSome, Option.isSome_eq_false_iff, Option.isNone_iff_eq_none] at hcontains

/-- What was registered under a free name is found there whatever is registered later, in the layer
in which it was registered. -/
theorem get?_registered_of_free {early : List (Registration η)} {g : Registration η}
    (h : (registered early).contains g.name = false) (late : List (Registration η)) :
    (registered (early ++ g :: late)).get? g.name = some g.handler ∧
      (registered (early ++ g :: late)).isExtension g.name = (g.layer == .extension) := by
  have hsplit : registered (early ++ g :: late) =
      late.foldl (fun r g ↦ g.leaves r) (g.leaves (registered early)) := by
    rw [registered, List.foldl_append]
    rfl
  have hget : (g.leaves (registered early)).get? g.name = some g.handler := by
    rw [contains_eq_isSome, Option.isSome_eq_false_iff, Option.isNone_iff_eq_none] at h
    rw [get?_leaves, h, Option.none_or, if_pos rfl]
  have hnone : (registered early).isExtension g.name = false := (Bool.or_eq_false_iff.1 h).2
  rw [hsplit]
  refine ⟨get?_foldl_leaves hget late, ?_⟩
  rw [isExtension_foldl_leaves (by rw [contains_eq_isSome, hget]; rfl) late, isExtension_leaves,
    hnone, h, beq_self_eq_true]
  rfl

/-- A registry is as large as the number of different names that were registered. -/
theorem size_registered (gs : List (Registration η)) :
    (registered gs).size = (gs.map Registration.name).toFinset.card := by
  have hsame : (gs.map Registration.name).toFinset = (registered gs).names.toFinset := by
    ext name
    rw [List.mem_toFinset, List.mem_toFinset, mem_names_registered]
  rw [hsame, List.toFinset_card_of_nodup (nodup_names_registered gs), length_names]

/-- **The layers of a registry are apart.** After any registrations, no name is in both layers. A
further registration fails if and only if its name was registered before, and then it leaves the
registry as it is. What is found under a name, and the layer in which it is, are those of the
registration that succeeded, whatever was registered later, and nothing is found under other names.
The registry contains the names under which it finds something, and its size is the number of
different names. -/
theorem layers_apart (gs : List (Registration η)) :
    ((registered gs).builtins.map Prod.fst).Disjoint ((registered gs).extensions.map Prod.fst) ∧
    (∀ g : Registration η,
      (g.name ∈ gs.map Registration.name →
        g.outcome (registered gs) = .error (.duplicateAction g.name) ∧
          registered (gs ++ [g]) = registered gs) ∧
      (g.name ∉ gs.map Registration.name → ∃ r', g.outcome (registered gs) = .ok r')) ∧
    (∀ early g late, gs = early ++ g :: late → (∃ r', g.outcome (registered early) = .ok r') →
      (registered gs).get? g.name = some g.handler ∧
        (registered gs).isExtension g.name = (g.layer == .extension)) ∧
    (∀ name, name ∉ gs.map Registration.name →
      (registered gs).get? name = none ∧ (registered gs).isExtension name = false) ∧
    (∀ name, (registered gs).contains name = ((registered gs).get? name).isSome) ∧
    (registered gs).size = (gs.map Registration.name).toFinset.card := by
  refine ⟨(List.nodup_append'.1 (nodup_names_registered gs)).2.2, fun g ↦ ⟨fun hmem ↦ ?_,
    fun hmem ↦ ?_⟩, ?_, fun name hname ↦ get?_registered_of_notMem hname,
    fun name ↦ contains_eq_isSome _ name, size_registered gs⟩
  · have hcontains := (contains_registered gs g.name).2 hmem
    exact ⟨outcome_of_contains hcontains,
      (registered_concat gs g).trans (leaves_of_contains hcontains)⟩
  · exact exists_outcome_iff.2 (Bool.eq_false_iff.2 (mt (contains_registered gs g.name).1 hmem))
  · rintro early g late rfl hsucceeds
    exact get?_registered_of_free (exists_outcome_iff.1 hsucceeds) late

/-- A name that is taken by a built-in handler is refused to an extension, which is found nowhere. -/
theorem layers_apart_log :
    let gs : List (Registration Nat) :=
      [⟨.builtin, "log", 1⟩, ⟨.extension, "log", 2⟩, ⟨.extension, "mine", 3⟩]
    (∃ r', (⟨.builtin, "log", 1⟩ : Registration Nat).outcome {} = .ok r') ∧
      (registered gs).get? "log" = some 1 ∧ (registered gs).isExtension "log" = false ∧
      (registered gs).size = 2 := by
  intro gs
  have hsucceeds : ∃ r', (⟨.builtin, "log", 1⟩ : Registration Nat).outcome {} = .ok r' := ⟨_, rfl⟩
  obtain ⟨hget, hlayer⟩ := (layers_apart gs).2.2.1 [] _ _ rfl hsucceeds
  exact ⟨hsucceeds, hget, hlayer, (layers_apart gs).2.2.2.2.2.trans (by decide)⟩

/-! ### The built-in actions -/

/-- Entries under different names are a registry of built-in handlers. -/
theorem registered_builtins {entries : List (String × η)} (h : (entries.map Prod.fst).Nodup) :
    registered (entries.map fun entry ↦ ⟨.builtin, entry.1, entry.2⟩) = ⟨entries, []⟩ := by
  induction entries using List.reverseRecOn with
  | nil => rfl
  | append_singleton entries entry ih =>
    rw [List.map_append, List.nodup_append'] at h
    have hfree : (⟨entries, []⟩ : Registry η).contains entry.1 = false := by
      rw [Bool.eq_false_iff, Ne, contains_iff_mem_names, names, List.map_nil, List.append_nil]
      exact fun hmem ↦ h.2.2 hmem List.mem_cons_self
    rw [List.map_append, List.map_singleton, registered_concat, ih h.1, leaves_of_free hfree,
      if_pos rfl, if_neg nofun, List.append_nil]

/-- The registry of the built-in actions comes from registrations. -/
theorem builtinRegistry_eq_registered :
    Action.builtinRegistry =
      registered (Action.builtins.map fun entry ↦ ⟨.builtin, entry.1, entry.2⟩) :=
  (registered_builtins (by decide +kernel)).symm

end Registry
end WebRecipe
