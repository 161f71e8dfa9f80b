import WebRecipe.Condition.Basic
import WebRecipe.Proofs.Condition.Sandbox

/-!
# The spellings of a key

A condition can write one name as a key in several ways. In a member the name stands after a point,
or between brackets as a string or as a template. In an object literal it stands before the colon,
with or without quotes, or between brackets again. Each spelling is read into a tree of its own, and
the policy looks at some of these trees only.

Whatever the tree around it, a blocked name is kept out of every accepted source when it is written
plainly or as the string that names a member, and in no other spelling
(`isScreened_iff_forall_accept`).

## Main definitions

* `WrittenKey`: a key that the source writes as a constant, with its place and its spelling.
* `Expr.writtenKeys`: the constant keys that one expression writes itself.
* `IsScreened`: the places and spellings that the policy looks at.

## Main results

* `notMem_blockedNames_of_isScreened`: no accepted source writes a blocked name in a screened
  spelling, at any depth.
* `isScreened_iff_forall_accept`: the screened spellings are exactly those for which this holds.
-/

namespace WebRecipe.Condition

/-- Where a key stands. -/
inductive KeyPlace where
  /-- The key of a member, that of a method that is called included. -/
  | member
  /-- The key of a property in an object literal. -/
  | property
  deriving DecidableEq

/-- How a constant key is spelled. -/
inductive KeySpelling where
  /-- The name itself: after a point, or before a colon with or without quotes. -/
  | plain
  /-- A string between brackets. -/
  | quoted
  /-- A template without substitutions between brackets. -/
  | template
  deriving DecidableEq

/-- A key that the source writes as a constant. -/
structure WrittenKey where
  place : KeyPlace
  spelling : KeySpelling
  name : String
  deriving DecidableEq

/-- The name that an expression between brackets spells, if it is a constant one. -/
def Expr.spelled? : Expr → Option (KeySpelling × String)
  | .text s => some (.quoted, s)
  | .template head [] => some (.template, head)
  | _ => none

/-- The constant that the key of a member is written as, if it is one. -/
def MemberKey.written? : MemberKey → Option WrittenKey
  | .name n => some ⟨.member, .plain, n⟩
  | .computed e => e.spelled?.map fun (spelling, n) ↦ ⟨.member, spelling, n⟩

/-- The constant that the key of a property is written as, if it is one. -/
def PropertyKey.written? : PropertyKey → Option WrittenKey
  | .name n => some ⟨.property, .plain, n⟩
  | .computed e => e.spelled?.map fun (spelling, n) ↦ ⟨.property, spelling, n⟩

/-- The constant that the key of an entry is written as, if it has one. -/
def Entry.written? : Entry → Option WrittenKey
  | .property key _ => key.written?
  | .spread _ => none

/-- The constant keys that an expression writes itself, not those of the expressions inside it. -/
def Expr.writtenKeys : Expr → List WrittenKey
  | .member _ key => key.written?.toList
  | .object entries => entries.filterMap Entry.written?
  | _ => []

/-- The spellings in which the policy looks at a name: plain ones, and strings that name a member.
-/
def IsScreened : KeyPlace → KeySpelling → Prop
  | _, .plain => True
  | .member, .quoted => True
  | _, _ => False

/-! ### Screened spellings -/

theorem spelled?_eq_some_quoted {e : Expr} {name : String}
    (h : e.spelled? = some (.quoted, name)) : e = .text name := by
  unfold Expr.spelled? at h
  split at h <;> simp_all

theorem spelled?_ne_some_plain {e : Expr} {name : String} : e.spelled? ≠ some (.plain, name) := by
  unfold Expr.spelled?
  split <;> simp

theorem MemberKey.eq_of_written? {key : MemberKey} {k : WrittenKey} (h : key.written? = some k)
    (hs : IsScreened k.place k.spelling) :
    key = .name k.name ∨ key = .computed (.text k.name) := by
  cases key with
  | name n =>
    cases h
    exact .inl rfl
  | computed e =>
    obtain ⟨⟨spelling, name⟩, he, rfl⟩ := Option.map_eq_some_iff.1 h
    cases spelling with
    | plain => exact absurd he spelled?_ne_some_plain
    | quoted => exact .inr (congrArg _ (spelled?_eq_some_quoted he))
    | template => exact hs.elim

theorem PropertyKey.eq_of_written? {key : PropertyKey} {k : WrittenKey} (h : key.written? = some k)
    (hs : IsScreened k.place k.spelling) : key = .name k.name := by
  cases key with
  | name n =>
    cases h
    rfl
  | computed e =>
    obtain ⟨⟨spelling, name⟩, he, rfl⟩ := Option.map_eq_some_iff.1 h
    cases spelling with
    | plain => exact absurd he spelled?_ne_some_plain
    | quoted | template => exact hs.elim

/-- A key in a screened spelling is one of the names that the policy asks about. -/
theorem Expr.writes_of_mem_writtenKeys {u : Expr} {k : WrittenKey} (hk : k ∈ u.writtenKeys)
    (hs : IsScreened k.place k.spelling) : u.Writes k.name := by
  cases u with
  | member target key =>
    rcases MemberKey.eq_of_written? (Option.mem_toList.1 hk) hs with rfl | rfl
    · exact .memberName target k.name
    · exact .memberText target k.name
  | object entries =>
    obtain ⟨entry, hentry, hw⟩ := List.mem_filterMap.1 hk
    cases entry with
    | property key value =>
      obtain rfl := PropertyKey.eq_of_written? hw hs
      exact .property hentry
    | spread operand => cases hw
  | _ => cases hk

theorem check_of_accept {source : String} {tree : Expr} (h : accept source = .ok tree) :
    check tree = .ok () := by
  unfold accept at h
  split at h
  · cases h
  · split at h
    · cases h
    · split at h
      · cases h
      · cases h
        assumption

/-- No accepted source writes a blocked name in a screened spelling, at whatever depth. -/
theorem notMem_blockedNames_of_isScreened {source : String} {tree u : Expr} {k : WrittenKey}
    (h : accept source = .ok tree) (hu : Subterm u tree) (hk : k ∈ u.writtenKeys)
    (hs : IsScreened k.place k.spelling) : k.name ∉ blockedNames :=
  (permitted_of_subterm hu (check_of_accept h)).names k.name (u.writes_of_mem_writtenKeys hk hs)

/-! ### The other spellings -/

/-- The constant keys that an accepted source writes at the root of its tree. -/
def rootKeys (source : String) : List WrittenKey :=
  match accept source with
  | .ok tree => tree.writtenKeys
  | .error _ => []

theorem accept_of_mem_rootKeys {source : String} {k : WrittenKey} (h : k ∈ rootKeys source) :
    ∃ tree, accept source = .ok tree ∧ k ∈ tree.writtenKeys := by
  unfold rootKeys at h
  split at h
  case h_1 tree htree => exact ⟨tree, htree, h⟩
  case h_2 => cases h

/-- Every spelling that is not screened lets a blocked name through in some source. -/
theorem exists_blocked_of_not_isScreened {place : KeyPlace} {spelling : KeySpelling}
    (h : ¬ IsScreened place spelling) :
    ∃ source, ⟨place, spelling, "constructor"⟩ ∈ rootKeys source := by
  cases spelling with
  | plain => exact absurd trivial h
  | quoted =>
    cases place with
    | member => exact absurd trivial h
    | property => exact ⟨"\x7b [\"constructor\"]: INPUT \x7d", by decide +kernel⟩
  | template =>
    cases place with
    | member => exact ⟨"INPUT[`constructor`]", by decide +kernel⟩
    | property => exact ⟨"\x7b [`constructor`]: INPUT \x7d", by decide +kernel⟩

/-- **The spellings that keep blocked names out.** No accepted source writes a blocked name as a key
in a given place and spelling, at any depth of its tree, exactly when that spelling is screened:
after a point, before a colon with or without quotes, or as the string that names a member. -/
theorem isScreened_iff_forall_accept (place : KeyPlace) (spelling : KeySpelling) :
    IsScreened place spelling ↔
      ∀ source tree u name, accept source = .ok tree → Subterm u tree →
        ⟨place, spelling, name⟩ ∈ u.writtenKeys → name ∉ blockedNames := by
  constructor
  · intro hs source tree u name h hu hk
    exact notMem_blockedNames_of_isScreened h hu hk hs
  · intro hall
    refine Classical.byContradiction fun hs ↦ ?_
    obtain ⟨source, hsource⟩ := exists_blocked_of_not_isScreened hs
    obtain ⟨tree, htree, hk⟩ := accept_of_mem_rootKeys hsource
    exact hall source tree tree "constructor" htree (.self tree) hk (by decide)

/-- An object literal whose key is a blocked name, written as a string between brackets, is
accepted. -/
theorem accept_blocked_computed_key :
    ∃ tree, accept "\x7b [\"constructor\"]: 1 \x7d" = .ok tree ∧
      ⟨.property, .quoted, "constructor"⟩ ∈ tree.writtenKeys ∧ "constructor" ∈ blockedNames := by
  have hroot : ⟨.property, .quoted, "constructor"⟩ ∈ rootKeys "\x7b [\"constructor\"]: 1 \x7d" := by
    decide +kernel
  obtain ⟨tree, htree, hk⟩ := accept_of_mem_rootKeys hroot
  exact ⟨tree, htree, hk, by decide⟩

end WebRecipe.Condition
