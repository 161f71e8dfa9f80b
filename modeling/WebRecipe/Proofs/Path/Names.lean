import Mathlib.Data.List.DropRight
import WebRecipe.Proofs.Path.Components

/-!
# Names of directories

A name is sanitized in two steps: the characters that are not allowed are dropped, and then the
blanks at both ends of what is left. The space is the only blank that is allowed, and the slash is
not allowed. So a sanitized name holds allowed characters only and neither begins nor ends with a
space, these are just the names that sanitizing leaves as they are, and a sanitized name is one
piece of a path. It counts as a name unless nothing is left of it, or one dot, or two dots.

## Main definitions

* `Path.Sanitized`: allowed characters only, and no space at the ends.

## Main results

* `Text.exists_eq_trim`, `Text.trim_eq_self`: what trimming cuts off a text, and when it is nothing.
* `Path.sanitize_eq_self_iff`: the names that sanitizing leaves as they are.
* `Path.components_join_name`, `Path.components_child?`: a name in a directory.
* `Path.sanitized_single_component`: what a sanitized name is, and where its directory is.
-/

namespace WebRecipe

/-! ### Trimming -/

namespace Text

variable {cs : List Char} {c : Char}

theorem trim_eq (cs : List Char) : trim cs = (cs.dropWhile isBlank).rdropWhile isBlank :=
  rfl

/-- Trimming cuts blanks off both ends of a text. -/
theorem exists_eq_trim (cs : List Char) : ∃ before after, cs = before ++ trim cs ++ after ∧
    ∀ c ∈ before ++ after, isBlank c = true := by
  refine ⟨cs.takeWhile isBlank, (cs.dropWhile isBlank).rtakeWhile isBlank, ?_, fun c hc ↦ ?_⟩
  · rw [trim_eq, List.append_assoc, List.rdropWhile_append_rtakeWhile,
      List.takeWhile_append_dropWhile]
  · rcases List.mem_append.1 hc with hc | hc
    · exact List.mem_takeWhile_imp hc
    · exact List.mem_rtakeWhile_imp hc

theorem mem_of_mem_trim (h : c ∈ trim cs) : c ∈ cs := by
  obtain ⟨before, after, hcs, -⟩ := exists_eq_trim cs
  rw [hcs]
  exact List.mem_append_left _ (List.mem_append_right _ h)

theorem isBlank_of_head?_trim (h : (trim cs).head? = some c) : isBlank c = false := by
  obtain ⟨rest, hrest⟩ := List.head?_eq_some_iff.1 h
  obtain ⟨after, hafter⟩ := List.rdropWhile_prefix isBlank (cs.dropWhile isBlank)
  have hhead := List.head?_dropWhile_not isBlank cs
  rw [← hafter, ← trim_eq, hrest] at hhead
  exact hhead

theorem isBlank_of_getLast?_trim (h : (trim cs).getLast? = some c) : isBlank c = false := by
  have hne : trim cs ≠ [] := fun hnil ↦ by rw [hnil] at h; cases h
  rw [List.getLast?_eq_some_getLast hne] at h
  rw [← Option.some.inj h, Bool.eq_false_iff]
  exact List.rdropWhile_last_not isBlank (cs.dropWhile isBlank) hne

/-- Nothing is cut off a text that has no blanks at its ends. -/
theorem trim_eq_self (hhead : ∀ c, cs.head? = some c → isBlank c = false)
    (hlast : ∀ c, cs.getLast? = some c → isBlank c = false) : trim cs = cs := by
  have hleft : cs.dropWhile isBlank = cs := by
    cases cs with
    | nil => rfl
    | cons c cs => rw [List.dropWhile_cons_of_neg (by rw [hhead c rfl]; exact Bool.false_ne_true)]
  rw [trim_eq, hleft, List.rdropWhile_eq_self_iff]
  intro hne
  rw [hlast _ (List.getLast?_eq_some_getLast hne)]
  exact Bool.false_ne_true

end Text

namespace Path

open Text (isBlank trim)

/-! ### Allowed characters -/

/-- The allowed characters are ASCII, from the space on. -/
theorem toNat_of_isAllowed {c : Char} (h : isAllowed c = true) :
    0x20 ≤ c.toNat ∧ c.toNat < 0x7F := by
  have hall : allowedMarks.all (fun c ↦ 0x20 ≤ c.toNat && c.toNat < 0x7F) = true := by decide
  have hmarks : ∀ c ∈ allowedMarks, 0x20 ≤ c.toNat ∧ c.toNat < 0x7F := by simpa using hall
  simp only [isAllowed, Bool.or_eq_true, Bool.and_eq_true, decide_eq_true_eq,
    List.contains_iff_mem] at h
  obtain ((⟨hlow, hhigh⟩ | ⟨hlow, hhigh⟩) | ⟨hlow, hhigh⟩) | hmark := h
  · have hlow' : 0x61 ≤ c.toNat := hlow
    have hhigh' : c.toNat ≤ 0x7A := hhigh
    omega
  · have hlow' : 0x41 ≤ c.toNat := hlow
    have hhigh' : c.toNat ≤ 0x5A := hhigh
    omega
  · have hlow' : 0x30 ≤ c.toNat := hlow
    have hhigh' : c.toNat ≤ 0x39 := hhigh
    omega
  · exact hmarks c hmark

/-- Of the allowed characters, only the space is blank. -/
theorem isBlank_iff_eq_space {c : Char} (h : isAllowed c = true) : isBlank c = true ↔ c = ' ' := by
  obtain ⟨hlow, hhigh⟩ := toNat_of_isAllowed h
  have hspace : c = ' ' ↔ c.toNat = 0x20 := Char.toNat_inj.symm
  rw [hspace, isBlank]
  simp only [Bool.or_eq_true, Bool.and_eq_true, decide_eq_true_eq, beq_iff_eq]
  omega

/-! ### Sanitizing -/

/-- A name of allowed characters that neither begins nor ends with a space. -/
structure Sanitized (name : String) : Prop where
  allowed : ∀ c ∈ name.toList, isAllowed c = true
  head_ne : name.toList.head? ≠ some ' '
  getLast_ne : name.toList.getLast? ≠ some ' '

theorem toList_sanitize (name : String) :
    (sanitize name).toList = trim (name.toList.filter isAllowed) :=
  String.toList_ofList

theorem isAllowed_of_mem_sanitize {name : String} {c : Char} (h : c ∈ (sanitize name).toList) :
    isAllowed c = true := by
  rw [toList_sanitize] at h
  exact (List.mem_filter.1 (Text.mem_of_mem_trim h)).2

theorem sanitized_sanitize (name : String) : Sanitized (sanitize name) := by
  have hspace : isBlank ' ' ≠ false := by decide
  refine ⟨fun c ↦ isAllowed_of_mem_sanitize, fun h ↦ ?_, fun h ↦ ?_⟩
  · rw [toList_sanitize] at h
    exact hspace (Text.isBlank_of_head?_trim h)
  · rw [toList_sanitize] at h
    exact hspace (Text.isBlank_of_getLast?_trim h)

/-- Sanitizing leaves just those names as they are that have allowed characters only and no space at
their ends. -/
theorem sanitize_eq_self_iff {name : String} : sanitize name = name ↔ Sanitized name := by
  refine ⟨fun h ↦ h ▸ sanitized_sanitize name, fun ⟨hallowed, hhead, hlast⟩ ↦ ?_⟩
  have hblank {c : Char} (hmem : c ∈ name.toList) (hne : c ≠ ' ') : isBlank c = false := by
    rw [Bool.eq_false_iff, ne_eq, isBlank_iff_eq_space (hallowed c hmem)]
    exact hne
  rw [← String.toList_inj, toList_sanitize, List.filter_eq_self.2 hallowed]
  refine Text.trim_eq_self (fun c hc ↦ ?_) fun c hc ↦ ?_
  · exact hblank (List.mem_of_head? hc) fun h ↦ hhead (h ▸ hc)
  · exact hblank (List.mem_of_getLast? hc) fun h ↦ hlast (h ▸ hc)

theorem sanitize_sanitize (name : String) : sanitize (sanitize name) = sanitize name :=
  sanitize_eq_self_iff.2 (sanitized_sanitize name)

/-- The allowed characters of a name are the sanitized name between spaces. -/
theorem exists_filter_eq_sanitize (name : String) :
    ∃ m n, name.toList.filter isAllowed =
      List.replicate m ' ' ++ (sanitize name).toList ++ List.replicate n ' ' := by
  obtain ⟨before, after, heq, hblank⟩ := Text.exists_eq_trim (name.toList.filter isAllowed)
  have hspace {c : Char} (hc : c ∈ before ++ after) : c = ' ' := by
    have hmem : c ∈ name.toList.filter isAllowed := by
      rw [heq]
      rcases List.mem_append.1 hc with hc | hc
      · exact List.mem_append_left _ (List.mem_append_left _ hc)
      · exact List.mem_append_right _ hc
    exact (isBlank_iff_eq_space (List.mem_filter.1 hmem).2).1 (hblank c hc)
  refine ⟨before.length, after.length, ?_⟩
  rw [← List.eq_replicate_of_mem fun c hc ↦ hspace (List.mem_append_left _ hc),
    ← List.eq_replicate_of_mem fun c hc ↦ hspace (List.mem_append_right _ hc), toList_sanitize]
  exact heq

/-- A sanitized name has no slash in it. -/
theorem slash_notMem_sanitize (name : String) : '/' ∉ (sanitize name).toList := fun h ↦
  absurd (isAllowed_of_mem_sanitize h) (by decide)

/-! ### The directory of a name -/

private theorem isAbsolute_of_slash_notMem {name : String} (h : '/' ∉ name.toList) :
    isAbsolute name = false := by
  rw [Bool.eq_false_iff, ne_eq, isAbsolute_iff]
  rintro ⟨cs, hcs⟩
  rw [hcs] at h
  exact h List.mem_cons_self

/-- A name without slashes is one more component of what it is joined to. -/
theorem components_join_name (dir : String) {name : String} (hslash : '/' ∉ name.toList)
    (hname : Component.ofPiece name.toList = some (.name name.toList)) :
    components (join dir name) = components dir ++ [.name name.toList] := by
  have hrelative := isAbsolute_of_slash_notMem hslash
  by_cases hdir : dir = ""
  · have hjoin : join "" name = name := by
      rw [join, if_neg (by rw [hrelative]; exact Bool.false_ne_true)]
      exact String.empty_append
    have hne : name.toList ≠ [] := fun hnil ↦ by
      rw [hnil] at hname
      cases hname
    rw [hdir, hjoin, components_of_slash_notMem hne hslash, Component.first_of_ofPiece hname]
    rfl
  · rw [components_join_of_ne_empty hdir hrelative, parts_of_not_mem hslash, hname,
      Option.toList_some]

/-- A text counts as a name of a component unless it is empty, one dot or two dots. -/
theorem Component.ofPiece_eq_name_iff {cs : List Char} :
    Component.ofPiece cs = some (.name cs) ↔ cs ≠ [] ∧ cs ≠ ['.'] ∧ cs ≠ ['.', '.'] := by
  unfold Component.ofPiece
  split <;> simp_all

theorem child?_eq_none_iff {parent name : String} : child? parent name = none ↔
    sanitize name = "" ∨ sanitize name = "." ∨ sanitize name = ".." := by
  rw [child?, ite_eq_left_iff]
  simp only [Option.some_ne_none, imp_false, not_not]

/-- The directory of a name is that of its parent with the sanitized name as one more component. -/
theorem components_child? {parent name path : String} (h : child? parent name = some path) :
    components path = components parent ++ [.name (sanitize name).toList] := by
  simp only [child?, Option.ite_none_left_eq_some, not_or, ← String.toList_inj] at h
  obtain ⟨hname, hpath⟩ := h
  obtain rfl := Option.some.inj hpath
  exact components_join_name parent (slash_notMem_sanitize name)
    (Component.ofPiece_eq_name_iff.2 hname)

/-- **A sanitized name is a single component.** A sanitized name has allowed characters only and
neither begins nor ends with a space, and sanitizing it again changes nothing. It is the allowed
characters of the name, in their order, without the spaces at both ends. A name has no directory in
its parent just when the sanitized name is empty, one dot or two dots; otherwise the directory has
the components of the parent and then the sanitized name as one more. -/
theorem sanitized_single_component (parent name : String) :
    Sanitized (sanitize name) ∧ sanitize (sanitize name) = sanitize name ∧
    (∃ m n, name.toList.filter isAllowed =
      List.replicate m ' ' ++ (sanitize name).toList ++ List.replicate n ' ') ∧
    (child? parent name = none ↔
      sanitize name = "" ∨ sanitize name = "." ∨ sanitize name = "..") ∧
    ∀ path, child? parent name = some path →
      components path = components parent ++ [.name (sanitize name).toList] :=
  ⟨sanitized_sanitize name, sanitize_sanitize name, exists_filter_eq_sanitize name,
    child?_eq_none_iff, fun _ ↦ components_child?⟩

/-- Without slashes and brackets, the name does not lead out of the relative directory. -/
theorem sanitized_single_component_climbing :
    child? "./res" " /../ ..[x] " = some "./res/.. ..x" ∧
    components "./res/.. ..x" =
      components "./res" ++ [.name (sanitize " /../ ..[x] ").toList] := by
  have hchild : child? "./res" " /../ ..[x] " = some "./res/.. ..x" := by decide
  exact ⟨hchild, (sanitized_single_component "./res" " /../ ..[x] ").2.2.2.2 _ hchild⟩

end Path
end WebRecipe
