import WebRecipe.Proofs.Path.Names
import WebRecipe.Proofs.Path.Normalizing

/-!
# Staying inside a directory

Normalizing an absolute path leaves names after the root, with two dots before them only where the
path leads above the root. So a normalized path that begins with the components of a directory is
the directory or inside it, and holds no dots. From this follows where each way of making a path
leads: confining a path, going to the parent, and taking the sanitized name of a child. Confining
refuses no more than it has to: as long as a path does not lead above the root on its way, following
its components one after another is resolving them.

## Main definitions

* `Path.Plain`: the path begins at the root and has names only.
* `Path.Encloses`: a directory that paths can be confined to.
* `Path.Inside`, `Path.StrictlyInside`: the path leads to a directory or into it.
* `Path.StaysBelow`: no beginning of the components leads above the root.
* `Path.destination`: where the components of a path lead, followed from the root.

## Main results

* `Path.plain_absolute`: an absolute path that does not lead above the root.
* `Path.child?_spec`, `Path.inside_of_confine`, `Path.inside_parentWithin`: ways of making a path.
* `Path.confine_sound_complete`: what paths are confined to, and which.
* `Path.encloses_of_normalize`: paths can be confined to a normalized path other than the root.
-/

namespace WebRecipe.Path

/-! ### Names below a directory -/

/-- A path that begins at the root and has names only, and so no dots. -/
def Plain (path : String) : Prop :=
  ∃ names : List (List Char), components path = .root :: names.map .name

/-- A directory that paths can be confined to: below the root, or in what two dots lead to from the
root, and by names from there on. -/
def Encloses (base : String) : Prop :=
  ∃ (c : Component) (names : List (List Char)), (c = .up ∨ ∃ n, c = .name n) ∧
    components base = .root :: c :: names.map .name

/-- A path that leads to a directory or into it, by names only. -/
def Inside (dir path : String) : Prop :=
  ∃ names : List (List Char), components path = components dir ++ names.map .name

/-- A path that leads into a directory, by names only. -/
def StrictlyInside (dir path : String) : Prop :=
  ∃ names : List (List Char), names ≠ [] ∧ components path = components dir ++ names.map .name

/-- A path that leads to something directly in a directory. -/
def ChildOf (dir path : String) : Prop :=
  ∃ name : List Char, components path = components dir ++ [.name name]

theorem Plain.isAbsolute {path : String} (h : Plain path) : isAbsolute path = true := by
  obtain ⟨names, h⟩ := h
  exact isAbsolute_of_components h

theorem Encloses.isAbsolute {base : String} (h : Encloses base) : isAbsolute base = true := by
  obtain ⟨c, names, -, h⟩ := h
  exact isAbsolute_of_components h

theorem Inside.refl (dir : String) : Inside dir dir :=
  ⟨[], (List.append_nil _).symm⟩

theorem Inside.plain {dir path : String} (hdir : Plain dir) (h : Inside dir path) : Plain path := by
  obtain ⟨base, hbase⟩ := hdir
  obtain ⟨names, hnames⟩ := h
  exact ⟨base ++ names, by rw [hnames, hbase, List.map_append, List.cons_append]⟩

theorem Inside.child {dir inner path : String} (h : Inside dir inner) (hpath : ChildOf inner path) :
    Inside dir path := by
  obtain ⟨names, hnames⟩ := h
  obtain ⟨name, hname⟩ := hpath
  exact ⟨names ++ [name], by rw [hname, hnames, List.map_append, List.append_assoc]; rfl⟩

theorem ChildOf.plain {dir path : String} (hdir : Plain dir) (h : ChildOf dir path) :
    Plain path := by
  obtain ⟨name, hname⟩ := h
  exact Inside.plain hdir ⟨[name], hname⟩

/-- A path inside an absolute one is absolute. -/
theorem Inside.isAbsolute {dir path : String} (hdir : isAbsolute dir = true) (h : Inside dir path) :
    isAbsolute path = true := by
  obtain ⟨cs, hcs⟩ := isAbsolute_iff.1 hdir
  obtain ⟨names, hnames⟩ := h
  rw [components_of_toList hcs, List.cons_append] at hnames
  exact isAbsolute_of_components hnames

theorem ChildOf.encloses {dir path : String} (hdir : Plain dir) (h : ChildOf dir path) :
    Encloses path := by
  obtain ⟨names, hnames⟩ := hdir
  obtain ⟨name, hname⟩ := h
  rw [hnames, List.cons_append] at hname
  cases names with
  | nil => exact ⟨.name name, [], .inr ⟨name, rfl⟩, hname⟩
  | cons n names =>
    refine ⟨.name n, names ++ [name], .inr ⟨n, rfl⟩, ?_⟩
    rw [hname, List.map_append]
    rfl

/-- A path inside a directory that is not the directory leads into it. -/
theorem Inside.strictlyInside {dir path : String} (h : Inside dir path)
    (hne : same path dir = false) : StrictlyInside dir path := by
  obtain ⟨names, hnames⟩ := h
  refine ⟨names, ?_, hnames⟩
  rintro rfl
  rw [List.map_nil, List.append_nil] at hnames
  rw [same, hnames, beq_self_eq_true] at hne
  cases hne

/-! ### Normalizing -/

/-- Whether a component is a name. -/
def Component.isName : Component → Bool
  | .name _ => true
  | _ => false

/-- No beginning of the components leads above the root from so many directories below it. -/
def StaysBelow (depth : Nat) (cs : List Component) : Prop :=
  ∀ before, before <+: cs → before.count .up ≤ depth + before.countP Component.isName

/-- The names of a directory after one more component of a path is followed from it. -/
def follow (names : List (List Char)) : Component → List (List Char)
  | .name n => names ++ [n]
  | .up => names.dropLast
  | _ => names

/-- Where an absolute path leads: the names left when its components are followed from the root. -/
def destination (path : String) : List Component :=
  .root :: ((components path).foldl follow []).map .name

theorem staysBelow_cons {depth : Nat} {c : Component} {cs : List Component} :
    StaysBelow depth (c :: cs) ↔ ∀ before, before <+: cs →
      (c :: before).count .up ≤ depth + (c :: before).countP Component.isName := by
  constructor
  · intro h before hbefore
    exact h _ (List.cons_prefix_cons.2 ⟨rfl, hbefore⟩)
  · intro h before hbefore
    rcases List.prefix_cons_iff.1 hbefore with rfl | ⟨rest, rfl, hrest⟩
    · exact Nat.zero_le _
    · exact h rest hrest

theorem staysBelow_iff {cs : List Component} {depth : Nat} :
    StaysBelow depth cs ↔ climbsFrom depth cs = false := by
  induction cs generalizing depth with
  | nil => simp [StaysBelow, climbsFrom]
  | cons c cs ih =>
    rw [staysBelow_cons]
    cases c with
    | up =>
      cases depth with
      | zero =>
        refine iff_of_false (fun h ↦ ?_) (by simp [climbsFrom])
        exact absurd (h [] (List.nil_prefix)) (by decide)
      | succ depth =>
        rw [climbsFrom, ← ih]
        refine forall₂_congr fun before _ ↦ ?_
        simp only [List.count_cons, List.countP_cons, Component.isName]
        simp
        omega
    | name n =>
      rw [climbsFrom, ← ih]
      refine forall₂_congr fun before _ ↦ ?_
      simp [List.countP_cons, Component.isName]
      omega
    | root | here =>
      rw [climbsFrom, ← ih]
      exact forall₂_congr fun before _ ↦ by simp [Component.isName]

/-- Below the root, following components that do not lead above it is resolving them. -/
private theorem foldl_pushResolved_of_not_climbs {cs : List Component} (hcs : ∀ c ∈ cs, c.Sound)
    (names : List (List Char)) (h : climbsFrom names.length cs = false) :
    cs.foldl pushResolved (stackOn [.root] false names) =
      stackOn [.root] false (cs.foldl follow names.reverse).reverse := by
  induction cs generalizing names with
  | nil => rw [List.foldl_nil, List.foldl_nil, List.reverse_reverse]
  | cons c cs ih =>
    obtain ⟨hc, hrest⟩ := List.forall_mem_cons.1 hcs
    rw [List.foldl_cons, List.foldl_cons]
    obtain rfl | ⟨n, rfl⟩ := hc.eq_up_or_name
    · cases names with
      | nil => cases h
      | cons n names =>
        rw [pushResolved_up_cons, ih hrest names h, follow, List.reverse_cons,
          List.dropLast_concat]
    · have hnames : climbsFrom (n :: names).length cs = false := by rwa [climbsFrom] at h
      refine (ih hrest (n :: names) hnames).trans ?_
      rw [follow, List.reverse_cons]

/-- An absolute path that does not lead above the root is resolved to where it leads. -/
theorem resolved_eq_destination {path : String} (habs : isAbsolute path = true)
    (h : climbs path = false) : resolved (components path) = destination path := by
  obtain ⟨cs, hcs⟩ := isAbsolute_iff.1 habs
  rw [climbs, components_of_toList hcs, climbsFrom] at h
  have hfold := foldl_pushResolved_of_not_climbs (fun _ ↦ sound_of_mem_parts) [] h
  rw [destination, components_of_toList hcs, resolved, List.foldl_cons, List.foldl_cons]
  change (List.foldl pushResolved (stackOn [.root] false []) (parts cs)).reverse = _
  rw [hfold, reverse_stackOn, List.reverse_reverse]
  rfl

/-- An absolute path that does not lead above the root is normalized to names only. -/
theorem plain_absolute {workingDir path : String} (habs : isAbsolute path = true)
    (h : climbs path = false) : Plain (absolute workingDir path) := by
  refine ⟨(components path).foldl follow [], ?_⟩
  rw [absolute, join, if_pos habs, components_normalize, resolved_eq_destination habs h]
  rfl

/-! ### Confining -/

theorem encloses_of_components {base : String} (habs : isAbsolute base = true)
    (hnormal : components (normalize base) = components base)
    (hroot : components base ≠ [.root]) : Encloses base := by
  obtain ⟨names, hnames | hnames⟩ := normalize_spec habs
  · rw [hnormal] at hnames
    cases names with
    | nil => exact absurd hnames hroot
    | cons n names => exact ⟨.name n, names, .inr ⟨n, rfl⟩, hnames⟩
  · rw [hnormal] at hnames
    exact ⟨.up, names, .inl rfl, hnames⟩

/-- Paths can be confined to a normalized absolute path other than the root. -/
theorem encloses_of_normalize {base : String} (habs : isAbsolute base = true)
    (hnormal : normalize base = base) (hroot : base ≠ "/") : Encloses base := by
  refine encloses_of_components habs (congrArg components hnormal) fun h ↦ hroot ?_
  rw [← hnormal, normalize, h]
  rfl

/-- Of the paths with names only, those within a directory lead to it or into it. -/
theorem inside_of_isWithin {dir path : String} (hdir : Plain dir) (hpath : Plain path)
    (h : isWithin dir path = true) : Inside dir path := by
  obtain ⟨base, hbase⟩ := hdir
  obtain ⟨names, hnames⟩ := hpath
  obtain ⟨rest, hrest⟩ := List.isPrefixOf_iff_prefix.1 h
  rw [hbase, hnames, List.cons_append, List.cons.injEq] at hrest
  obtain ⟨names₁, names₂, rfl, -, rfl⟩ := List.map_eq_append_iff.1 hrest.2.symm
  exact ⟨names₂, by rw [hnames, ← hrest.2, hbase, List.cons_append]⟩

/-- A path that leads to a directory or into it is within it. -/
theorem Inside.isWithin {dir path : String} (h : Inside dir path) : isWithin dir path = true := by
  obtain ⟨names, hnames⟩ := h
  exact List.isPrefixOf_iff_prefix.2 ⟨_, hnames.symm⟩

/-- A path that is confined to a directory leads to it or into it, wherever it is seen from. -/
theorem inside_of_confine {base dir path target : String} (hbase : Encloses base)
    (h : confine base dir path = some target) : Inside base target := by
  rw [confine, Option.ite_none_right_eq_some] at h
  obtain ⟨hwithin, htarget⟩ := h
  cases htarget
  obtain ⟨c, names, hc, hbase⟩ := hbase
  obtain ⟨rest, hrest⟩ := List.isPrefixOf_iff_prefix.1 hwithin
  rw [hbase, List.cons_append] at hrest
  have habs : isAbsolute (join dir path) = true := by
    rw [← isAbsolute_normalize]
    exact isAbsolute_of_components hrest.symm
  suffices hlast : ∃ l : List (List Char), l.map .name = names.map .name ++ rest by
    obtain ⟨l, hl⟩ := hlast
    obtain ⟨names₁, names₂, rfl, -, rfl⟩ := List.map_eq_append_iff.1 hl
    exact ⟨names₂, by rw [← hrest, hbase]; rfl⟩
  -- after the first component that follows the root there are names only
  obtain ⟨names', hnames' | hnames'⟩ := normalize_spec habs
  · rw [hnames', List.cons.injEq] at hrest
    cases names' with
    | nil => cases hrest.2
    | cons n names' => exact ⟨names', (List.cons.inj hrest.2).2.symm⟩
  · rw [hnames', List.cons.injEq] at hrest
    exact ⟨names', (List.cons.inj hrest.2).2.symm⟩

/-- Going to the parent does not leave the base directory. -/
theorem inside_parentWithin {base current : String} (hbase : Plain base)
    (hcurrent : Inside base current) : Inside base (parentWithin base current) := by
  unfold parentWithin
  split
  · exact .refl base
  split
  case h_1 parent hparent =>
    split
    case isTrue hwithin =>
      obtain ⟨names, hnames⟩ := hcurrent.plain hbase
      have hdrop := components_parent? (hcurrent.plain hbase).isAbsolute hparent
      refine inside_of_isWithin hbase ?_ hwithin
      cases names with
      | nil =>
        obtain ⟨base', hbase'⟩ := hbase
        obtain ⟨rest, hrest⟩ := List.isPrefixOf_iff_prefix.1 hwithin
        rw [hdrop, hnames, hbase'] at hrest
        cases hrest
      | cons n names =>
        refine ⟨(n :: names).dropLast, ?_⟩
        rw [hdrop, hnames, List.map_dropLast]
        rfl
    case isFalse => exact .refl base
  case h_2 => exact .refl base

theorem isWithin_self (dir : String) : isWithin dir dir = true :=
  List.isPrefixOf_iff_prefix.2 (List.prefix_refl _)

/-- Going to the parent leads to the base directory or into it, from wherever one starts. -/
theorem isWithin_parentWithin (base current : String) :
    isWithin base (parentWithin base current) = true := by
  unfold parentWithin
  split
  · exact isWithin_self base
  split
  · split
    · assumption
    · exact isWithin_self base
  · exact isWithin_self base

/-- A path that ends in the root is the root. -/
private theorem eq_nil_of_components {path : String} {cs : List Component}
    (h : components path = cs ++ [.root]) : cs = [] := by
  have hparts (text : List Char) : Component.root ∉ parts text := fun hmem ↦ by
    cases (sound_of_mem_parts hmem).1
  cases habs : isAbsolute path with
  | true =>
    obtain ⟨text, htext⟩ := isAbsolute_iff.1 habs
    rw [components_of_toList htext] at h
    cases cs with
    | nil => rfl
    | cons c cs =>
      refine absurd ?_ (hparts text)
      rw [(List.cons.inj h).2]
      exact List.mem_concat_self
  | false =>
    obtain ⟨dot, hdot, hcs⟩ := components_eq path
    rw [start_of_relative habs, List.nil_append, h] at hcs
    have hmem : Component.root ∈ dot ++ parts path.toList := hcs ▸ List.mem_concat_self
    rcases List.mem_append.1 hmem with hmem | hmem
    · rcases hdot with rfl | rfl <;> simp at hmem
    · exact absurd hmem (hparts _)

/-- From below the base directory, going one level up leads to the parent. -/
theorem parentWithin_eq {base current : String} (hwithin : isWithin base current = true)
    (hne : components current ≠ components base) (hroot : components current ≠ [.root]) :
    parent? current = some (parentWithin base current) ∧
      components (parentWithin base current) = (components current).dropLast := by
  obtain ⟨rest, hrest⟩ := List.isPrefixOf_iff_prefix.1 hwithin
  rcases List.eq_nil_or_concat rest with rfl | ⟨between, c, rfl⟩
  · exact absurd hrest.symm (by simpa using hne)
  rw [List.concat_eq_append, ← List.append_assoc] at hrest
  have hc : c ≠ .root := by
    rintro rfl
    rw [← hrest, eq_nil_of_components hrest.symm] at hroot
    exact hroot rfl
  obtain ⟨parent, hparent, hcomponents⟩ := exists_parent? hrest.symm hc
  have hsame : same current base = false := by rw [same, beq_eq_false_iff_ne]; exact hne
  have hinner : isWithin base parent = true :=
    List.isPrefixOf_iff_prefix.2 ⟨between, hcomponents.symm⟩
  have heq : parentWithin base current = parent := by
    rw [parentWithin, hsame, hparent]
    simp [hinner]
  rw [heq, hcomponents, ← hrest, List.dropLast_concat]
  exact ⟨hparent, rfl⟩

theorem isAbsolute_join {dir : String} (hdir : isAbsolute dir = true) (path : String) :
    isAbsolute (join dir path) = true := by
  cases hpath : isAbsolute path with
  | true => rw [join, if_pos hpath, hpath]
  | false =>
    obtain ⟨cs, hcs⟩ := isAbsolute_iff.1 hdir
    have hjoin := components_join hdir hpath
    rw [components_of_toList hcs, List.cons_append] at hjoin
    exact isAbsolute_of_components hjoin

/-- A path that is seen from an absolute directory is confined to just where it leads, unless it
leads above the root on its way. -/
theorem confine_eq_some_iff {root dir relative path : String} (hdir : isAbsolute dir = true)
    (hstays : StaysBelow 0 (components (join dir relative))) :
    confine root dir relative = some path ↔
      components root <+: destination (join dir relative) ∧
        path = ofComponents (destination (join dir relative)) := by
  have habs : isAbsolute (join dir relative) = true := isAbsolute_join hdir relative
  have hresolved := resolved_eq_destination habs (staysBelow_iff.1 hstays)
  rw [confine, Option.ite_none_right_eq_some, isWithin, List.isPrefixOf_iff_prefix,
    components_normalize, hresolved, normalize, hresolved, Option.some.injEq, eq_comm]

/-- **What paths are confined to.** Of a normalized directory below the root, where two dots right
after the root lead above it: what is confined to the directory begins with its components and has no
dots. Seen from an absolute directory, a path that does not lead above the root on its way is
confined just when it leads to the directory or into it, and to where it leads. Going one level up
never leaves the base directory, and from below it leads to the parent, which only the root has not. -/
theorem confine_sound_complete {root : String}
    (hnormal : components (normalize root) = components root)
    (hbelow : ∃ n rest, components root = .root :: .name n :: rest) :
    (∀ dir relative path, confine root dir relative = some path →
      isWithin root path = true ∧ .here ∉ components path ∧ .up ∉ components path) ∧
    (∀ dir relative, isAbsolute dir = true → StaysBelow 0 (components (join dir relative)) →
      ∀ path, confine root dir relative = some path ↔
        components root <+: destination (join dir relative) ∧
          path = ofComponents (destination (join dir relative))) ∧
    ∀ base current, isWithin base (parentWithin base current) = true ∧
      (isWithin base current = true → components current ≠ components base →
        components current ≠ [.root] →
          parent? current = some (parentWithin base current) ∧
            components (parentWithin base current) = (components current).dropLast) := by
  obtain ⟨n, rest, hroot⟩ := hbelow
  have habs : isAbsolute root = true := isAbsolute_of_components hroot
  have hencloses : Encloses root :=
    encloses_of_components habs hnormal (by rw [hroot]; simp)
  have hplain : Plain root := by
    obtain ⟨c, names, hc, hnames⟩ := hencloses
    obtain ⟨rfl, -⟩ := List.cons.inj (List.cons.inj (hroot.symm.trans hnames)).2
    exact ⟨n :: names, hnames⟩
  refine ⟨fun dir relative path h ↦ ?_, fun dir relative hdir hstays path ↦
    confine_eq_some_iff hdir hstays, fun base current ↦
    ⟨isWithin_parentWithin base current, parentWithin_eq⟩⟩
  have hinside := inside_of_confine hencloses h
  obtain ⟨names, hnames⟩ := hinside.plain hplain
  refine ⟨hinside.isWithin, ?_, ?_⟩ <;> simp [hnames]

/-- A file next to the directory that it is named in, and a file outside whose name begins like that
of the base directory. -/
theorem confine_sound_complete_neighbour :
    components (normalize "/res/demo") = components "/res/demo" ∧
    components "/res/demo" = .root :: .name ['r', 'e', 's'] :: [.name ['d', 'e', 'm', 'o']] ∧
    StaysBelow 0 (components (join "/res/demo/sub" "./../y")) ∧
    confine "/res/demo" "/res/demo/sub" "./../y" = some "/res/demo/y" ∧
    isWithin "/res/demo" "/res/demo/y" = true ∧
    StaysBelow 0 (components (join "/res/demo/sub" "../../demon")) ∧
    confine "/res/demo" "/res/demo/sub" "../../demon" ≠ some "/res/demon" ∧
    components "/res/demo/y" ≠ components "/res/demo" ∧
    parent? "/res/demo/y" = some (parentWithin "/res/demo" "/res/demo/y") := by
  have hnormal : components (normalize "/res/demo") = components "/res/demo" := by decide
  have hcs : components "/res/demo" =
      .root :: .name ['r', 'e', 's'] :: [.name ['d', 'e', 'm', 'o']] := by decide
  have hdir : isAbsolute "/res/demo/sub" = true := by decide
  have hinner : StaysBelow 0 (components (join "/res/demo/sub" "./../y")) :=
    staysBelow_iff.2 (by decide)
  have houter : StaysBelow 0 (components (join "/res/demo/sub" "../../demon")) :=
    staysBelow_iff.2 (by decide)
  have hne : components "/res/demo/y" ≠ components "/res/demo" := by decide
  obtain ⟨hwithin, hexactly, hparent⟩ := confine_sound_complete hnormal ⟨_, _, hcs⟩
  have hconfined : confine "/res/demo" "/res/demo/sub" "./../y" = some "/res/demo/y" :=
    (hexactly _ _ hdir hinner _).2 ⟨by decide, by decide⟩
  have hy := (hwithin _ _ _ hconfined).1
  refine ⟨hnormal, hcs, hinner, hconfined, hy, houter, fun h ↦ ?_, hne,
    ((hparent _ _).2 hy hne (by decide)).1⟩
  exact absurd ((hexactly _ _ hdir houter _).1 h).1 (by decide)

/-! ### Names in a directory -/

/-- A name without slashes leads to something directly in the directory that it is joined to. -/
theorem childOf_join (dir : String) {name : String} (hslash : '/' ∉ name.toList)
    (hname : Component.ofPiece name.toList = some (.name name.toList)) :
    ChildOf dir (join dir name) :=
  ⟨name.toList, components_join_name dir hslash hname⟩

/-- The directory of a name is directly in its parent. -/
theorem child?_spec {parent name path : String} (h : child? parent name = some path) :
    ChildOf parent path :=
  ⟨(sanitize name).toList, components_child? h⟩

end WebRecipe.Path
