import WebRecipe.Proofs.Path.Components

/-!
# Normalizing paths

The components of a path are resolved one after another, on a stack. Above what the path begins with
there are names, and before the names there are two dots at most: a second pair of dots takes the
first one away. So a normalized path has no dots but one pair at its beginning, and normalizing it
again changes nothing.

A directory that a path is joined to resolves the path as it stands, or normalized, to the same, as
long as the path does not lead out of two directories. Where it does, its two pairs of dots have
taken each other away in the normalized path, and this leads elsewhere.

## Main definitions

* `Path.climbs`, `Path.climbsFrom`: the path leads above the root, or out of so many directories.
* `Path.stackOn`: what is resolved of a path.

## Main results

* `Path.resolved_spec`, `Path.components_normalize`: the components of a normalized path.
* `Path.foldl_pushResolved_reverse`: what is resolved can be resolved again in any place.
* `Path.normalize_keeps`: what normalizing keeps of a path.
-/

namespace WebRecipe.Path

/-! ### Leading above -/

/-- Whether components lead above the root from so many directories below it. -/
def climbsFrom : Nat → List Component → Bool
  | _, [] => false
  | 0, .up :: _ => true
  | depth + 1, .up :: rest => climbsFrom depth rest
  | depth, .name _ :: rest => climbsFrom (depth + 1) rest
  | depth, .root :: rest => climbsFrom depth rest
  | depth, .here :: rest => climbsFrom depth rest

/-- Whether an absolute path leads above the root on its way. -/
def climbs (path : String) : Bool :=
  climbsFrom 0 (components path)

/-! ### What is resolved -/

/-- What is resolved of a path, innermost first: names above what the path begins with, where two
dots may lead out of that before the names. -/
def stackOn (start : List Component) (out : Bool) (names : List (List Char)) : List Component :=
  names.map .name ++ if out then .up :: start else start

/-- What a path begins with: the root, or nothing. -/
def start (path : String) : List Component :=
  if isAbsolute path then [.root] else []

/-- Two dots lead out of what a path begins with. -/
theorem pushResolved_start (path : String) :
    pushResolved (start path) .up = .up :: start path := by
  rw [start]
  split <;> rfl

variable {bottom : List Component} {out : Bool} {names : List (List Char)}

theorem pushResolved_up_cons (bottom : List Component) (out : Bool) (n : List Char)
    (names : List (List Char)) :
    pushResolved (stackOn bottom out (n :: names)) .up = stackOn bottom out names :=
  rfl

theorem pushResolved_up_nil (hbottom : pushResolved bottom .up = .up :: bottom) (out : Bool) :
    pushResolved (stackOn bottom out []) .up = stackOn bottom (!out) [] := by
  cases out with
  | false => exact hbottom
  | true => rfl

/-- What is resolved keeps its form. -/
theorem exists_foldl_pushResolved (hbottom : pushResolved bottom .up = .up :: bottom)
    {cs : List Component} (hcs : ∀ c ∈ cs, c.Sound) (out : Bool) (names : List (List Char)) :
    ∃ out' names', cs.foldl pushResolved (stackOn bottom out names) =
      stackOn bottom out' names' := by
  induction cs generalizing out names with
  | nil => exact ⟨out, names, rfl⟩
  | cons c cs ih =>
    obtain ⟨hc, hrest⟩ := List.forall_mem_cons.1 hcs
    rw [List.foldl_cons]
    obtain rfl | ⟨n, rfl⟩ := hc.eq_up_or_name
    · cases names with
      | nil =>
        rw [pushResolved_up_nil hbottom]
        exact ih hrest _ _
      | cons n names => exact ih hrest out names
    · exact ih hrest out (n :: names)

/-- In the order of the path, what is resolved begins with what the path begins with. -/
theorem reverse_stackOn (bottom : List Component) (out : Bool) (names : List (List Char)) :
    (stackOn bottom out names).reverse =
      bottom.reverse ++ ((if out then [.up] else []) ++ names.reverse.map .name) := by
  rw [stackOn, List.reverse_append, List.map_reverse]
  cases out with
  | false => rfl
  | true => rw [if_pos rfl, if_pos rfl, List.reverse_cons, List.append_assoc]

private theorem mem_of_mem_pushResolved {stack : List Component} {c d : Component}
    (h : c ∈ pushResolved stack d) : c ∈ stack ∨ c = d := by
  cases d with
  | here => exact .inl h
  | up =>
    cases stack with
    | nil => exact .inr (List.mem_singleton.1 h)
    | cons top below =>
      cases top with
      | root => exact (List.mem_cons.1 h).symm
      | _ => exact .inl (List.mem_cons_of_mem _ h)
  | _ => exact (List.mem_cons.1 h).symm

private theorem mem_of_mem_foldl_pushResolved {cs stack : List Component} {c : Component}
    (h : c ∈ cs.foldl pushResolved stack) : c ∈ stack ∨ c ∈ cs := by
  induction cs generalizing stack with
  | nil => exact .inl h
  | cons d cs ih =>
    rcases ih h with h | h
    · rcases mem_of_mem_pushResolved h with h | rfl
      · exact .inl h
      · exact .inr List.mem_cons_self
    · exact .inr (List.mem_cons_of_mem _ h)

/-- Names are put on top of what is resolved before them. -/
theorem foldl_pushResolved_names (names : List (List Char)) (stack : List Component) :
    (names.map Component.name).foldl pushResolved stack =
      names.reverse.map .name ++ stack := by
  induction names generalizing stack with
  | nil => rfl
  | cons n names ih =>
    rw [List.map_cons, List.foldl_cons, ih, List.reverse_cons, List.map_append, List.append_assoc]
    rfl

/-! ### The components of a path -/

/-- A path has what it begins with, maybe a dot, and its parts. -/
theorem components_eq (path : String) : ∃ dot, (dot = [] ∨ dot = [Component.here]) ∧
    components path = start path ++ dot ++ parts path.toList := by
  cases habs : isAbsolute path with
  | true =>
    obtain ⟨cs, hcs⟩ := isAbsolute_iff.1 habs
    refine ⟨[], .inl rfl, ?_⟩
    rw [components_of_toList hcs, start, if_pos habs, hcs, ← List.nil_append ('/' :: cs),
      parts_append]
    rfl
  | false =>
    have hstart : start path = [] := if_neg (by rw [habs]; exact Bool.false_ne_true)
    rw [hstart]
    unfold components
    split
    case h_1 cs hcs =>
      rw [isAbsolute, hcs] at habs
      cases habs
    case h_2 =>
      split
      case h_1 rest hrest => exact ⟨[.here], .inr rfl, by rw [parts, hrest]; rfl⟩
      case h_2 => exact ⟨[], .inl rfl, rfl⟩

theorem resolved_components (path : String) :
    resolved (components path) =
      ((parts path.toList).foldl pushResolved (start path)).reverse := by
  obtain ⟨dot, hdot, hcs⟩ := components_eq path
  have hstart : (start path ++ dot).foldl pushResolved [] = start path := by
    rw [start]
    rcases hdot with rfl | rfl <;> split <;> rfl
  rw [hcs, resolved, List.foldl_append, hstart]

theorem sound_up : Component.up.Sound :=
  ⟨rfl, by decide⟩

/-- **What a path is resolved to**: what it begins with, two dots at most, and names. -/
theorem resolved_spec (path : String) : ∃ (out : Bool) (names : List (List Char)),
    resolved (components path) = start path ++ ((if out then [.up] else []) ++ names.map .name) ∧
      ∀ c ∈ (if out then [Component.up] else []) ++ names.map .name, c.Sound := by
  have hsound : ∀ c ∈ parts path.toList, c.Sound := fun _ ↦ sound_of_mem_parts
  obtain ⟨out, names, hfold⟩ := exists_foldl_pushResolved (pushResolved_start path) hsound false []
  have hreverse : (start path).reverse = start path := by
    rw [start]
    split <;> rfl
  have hresolved : resolved (components path) =
      start path ++ ((if out then [.up] else []) ++ names.reverse.map .name) := by
    rw [resolved_components, ← hreverse, ← reverse_stackOn, hreverse, ← hfold]
    rfl
  refine ⟨out, names.reverse, hresolved, fun c hc ↦ ?_⟩
  rcases List.mem_append.1 hc with hc | hc
  · cases out with
    | false => cases hc
    | true => exact List.mem_singleton.1 hc ▸ sound_up
  · -- the names come from the parts of the path
    have hmem : c ∈ (parts path.toList).foldl pushResolved (start path) := by
      refine hfold ▸ List.mem_append_left _ ?_
      rwa [List.map_reverse, List.mem_reverse] at hc
    rcases mem_of_mem_foldl_pushResolved hmem with hstart | hparts
    · obtain ⟨n, -, rfl⟩ := List.mem_map.1 hc
      rw [start] at hstart
      split at hstart
      · cases List.mem_singleton.1 hstart
      · cases hstart
    · exact sound_of_mem_parts hparts

/-! ### Normalizing -/

/-- Normalizing a path leaves the components that are resolved. -/
theorem components_normalize (path : String) :
    components (normalize path) = resolved (components path) := by
  obtain ⟨out, names, hresolved, hsound⟩ := resolved_spec path
  rw [normalize, hresolved, start]
  split
  · exact components_ofComponents hsound
  · exact (components_ofComponents_relative hsound).2

/-- Normalizing leaves a path absolute, or relative. -/
theorem isAbsolute_normalize (path : String) : isAbsolute (normalize path) = isAbsolute path := by
  obtain ⟨out, names, hresolved, hsound⟩ := resolved_spec path
  cases habs : isAbsolute path with
  | true =>
    have hroot : components (normalize path) =
        .root :: ((if out then [.up] else []) ++ names.map .name) := by
      rw [components_normalize, hresolved, start, if_pos habs]
      rfl
    exact isAbsolute_of_components hroot
  | false =>
    have hstart : start path = [] := if_neg (by rw [habs]; exact Bool.false_ne_true)
    rw [normalize, hresolved, hstart]
    exact (components_ofComponents_relative hsound).1

/-- An absolute path is normalized to names after the root, with two dots before them at most. -/
theorem normalize_spec {path : String} (h : isAbsolute path = true) :
    ∃ names : List (List Char), components (normalize path) = .root :: names.map .name ∨
      components (normalize path) = .root :: .up :: names.map .name := by
  obtain ⟨out, names, hresolved, -⟩ := resolved_spec path
  rw [components_normalize, hresolved, start, if_pos h]
  cases out with
  | false => exact ⟨names, .inl rfl⟩
  | true => exact ⟨names, .inr rfl⟩

/-- What is resolved is not changed by resolving it again. -/
theorem resolved_resolved (path : String) :
    resolved (resolved (components path)) = resolved (components path) := by
  obtain ⟨out, names, hresolved, -⟩ := resolved_spec path
  have hbefore : (start path ++ if out then [Component.up] else []).foldl pushResolved [] =
      (start path ++ if out then [Component.up] else []).reverse := by
    rw [start]
    cases out <;> split <;> rfl
  rw [hresolved, ← List.append_assoc, resolved, List.foldl_append, hbefore,
    foldl_pushResolved_names, List.reverse_append, List.reverse_reverse, List.map_reverse,
    List.reverse_reverse]

/-- Normalizing a normalized path changes nothing. -/
theorem normalize_normalize (path : String) : normalize (normalize path) = normalize path := by
  rw [normalize, components_normalize, resolved_resolved, normalize]

/-- A normalized path has no dot. -/
theorem here_notMem_components_normalize (path : String) :
    .here ∉ components (normalize path) := by
  obtain ⟨out, names, hresolved, hsound⟩ := resolved_spec path
  rw [components_normalize, hresolved]
  intro h
  rcases List.mem_append.1 h with hstart | hrest
  · rw [start] at hstart
    split at hstart
    · cases List.mem_singleton.1 hstart
    · cases hstart
  · cases (hsound _ hrest).1

/-- In a normalized path, two dots do not come after a name. -/
theorem pairwise_components_normalize (path : String) :
    (components (normalize path)).Pairwise fun c d ↦ ∀ n, c = .name n → d ≠ .up := by
  obtain ⟨out, names, hresolved, -⟩ := resolved_spec path
  have hnames : (names.map Component.name).Pairwise fun c d ↦ ∀ n, c = .name n → d ≠ .up := by
    refine List.pairwise_map.2 (List.pairwise_of_forall_mem_list fun _ _ _ _ _ _ ↦ ?_)
    nofun
  rw [components_normalize, hresolved, ← List.append_assoc]
  refine List.pairwise_append.2 ⟨?_, hnames, ?_⟩
  · rw [start]
    cases out <;> split <;> simp
  · intro c hc d hd n
    obtain ⟨n, -, rfl⟩ := List.mem_map.1 hd
    nofun

/-! ### Paths that are joined to a directory -/

variable {cs : List Component}

/-- How many directories the rest of a path may lead out of before two pairs of dots meet. -/
def room (out : Bool) (names : List (List Char)) : Nat :=
  names.length + if out then 0 else 1

theorem room_true_nil : room true [] = 0 := rfl

theorem room_false_nil : room false [] = 1 := rfl

theorem room_cons (out : Bool) (n : List Char) (names : List (List Char)) :
    room out (n :: names) = room out names + 1 := by
  rw [room, room, List.length_cons, Nat.add_right_comm]

/-- **What is resolved can be resolved again in any place.** A path that does not lead out of two
directories leads from any place to where its resolved components lead from there. -/
theorem foldl_pushResolved_reverse (hcs : ∀ c ∈ cs, c.Sound) (out : Bool) (names : List (List Char))
    (hclimbs : climbsFrom (room out names) cs = false) (place : List Component) :
    (cs.foldl pushResolved (stackOn [] out names)).reverse.foldl pushResolved place =
      cs.foldl pushResolved ((stackOn [] out names).reverse.foldl pushResolved place) := by
  -- on what is left of the path; what was resolved of it stands on the stack
  induction cs generalizing out names with
  | nil => rfl
  | cons c cs ih =>
    obtain ⟨hc, hrest⟩ := List.forall_mem_cons.1 hcs
    have hpushed (n : List Char) (names : List (List Char)) :
        (stackOn [] out (n :: names)).reverse.foldl pushResolved place =
          .name n :: (stackOn [] out names).reverse.foldl pushResolved place := by
      rw [stackOn, List.map_cons, List.cons_append, List.reverse_cons, List.foldl_append]
      rfl
    rw [List.foldl_cons, List.foldl_cons]
    obtain rfl | ⟨n, rfl⟩ := hc.eq_up_or_name
    · cases names with
      | nil =>
        cases out with
        | false => exact ih hrest true [] hclimbs
        | true => cases hclimbs
      | cons n names =>
        rw [pushResolved_up_cons, hpushed]
        refine ih hrest out names ?_
        rwa [room_cons, climbsFrom] at hclimbs
    · refine (ih hrest out (n :: names) ?_).trans ?_
      · rwa [room_cons]
      · rw [hpushed]
        rfl

private theorem count_up_name (n : List Char) (cs : List Component) :
    (Component.name n :: cs).count .up = cs.count .up := by
  have hne : Component.name n ≠ .up := nofun
  exact List.count_cons_of_ne hne

/-- Below a directory that is deep enough, each name leads one directory further and each pair of
dots one back. -/
theorem length_foldl_pushResolved (hcs : ∀ c ∈ cs, c.Sound) (names : List (List Char))
    (hdeep : cs.count .up ≤ names.length) :
    (cs.foldl pushResolved (stackOn [.root] false names)).length + 2 * cs.count .up =
      names.length + 1 + cs.length := by
  induction cs generalizing names with
  | nil => simp [stackOn]
  | cons c cs ih =>
    obtain ⟨hc, hrest⟩ := List.forall_mem_cons.1 hcs
    rw [List.foldl_cons, List.length_cons]
    obtain rfl | ⟨n, rfl⟩ := hc.eq_up_or_name
    · rw [List.count_cons_self] at hdeep ⊢
      cases names with
      | nil => cases hdeep
      | cons n names =>
        rw [List.length_cons] at hdeep ⊢
        have hlength := ih hrest names (Nat.le_of_succ_le_succ hdeep)
        rw [pushResolved_up_cons]
        omega
    · rw [count_up_name] at hdeep ⊢
      have hlength := ih hrest (n :: names) (Nat.le_succ_of_le hdeep)
      rw [List.length_cons] at hlength
      change (cs.foldl pushResolved (stackOn [.root] false (n :: names))).length + _ = _
      omega

/-- The same for what is resolved by itself, where each meeting of two pairs of dots leads two
directories further. -/
theorem exists_room (hcs : ∀ c ∈ cs, c.Sound) (out : Bool) (names : List (List Char)) :
    ∃ out' names', cs.foldl pushResolved (stackOn [] out names) = stackOn [] out' names' ∧
      room out names + cs.length ≤ room out' names' + 2 * cs.count .up ∧
      (climbsFrom (room out names) cs = true →
        room out names + cs.length + 2 ≤ room out' names' + 2 * cs.count .up) := by
  induction cs generalizing out names with
  | nil => exact ⟨out, names, rfl, Nat.le_refl _, nofun⟩
  | cons c cs ih =>
    obtain ⟨hc, hrest⟩ := List.forall_mem_cons.1 hcs
    rw [List.foldl_cons, List.length_cons]
    obtain rfl | ⟨n, rfl⟩ := hc.eq_up_or_name
    · rw [List.count_cons_self]
      cases names with
      | nil =>
        cases out with
        | false =>
          obtain ⟨out', names', hfold, hroom, hclimbs⟩ := ih hrest true []
          rw [room_true_nil] at hroom hclimbs
          refine ⟨out', names', hfold, ?_, fun h ↦ ?_⟩
          · rw [room_false_nil]
            omega
          · have hmore := hclimbs h
            rw [room_false_nil]
            omega
        | true =>
          -- here two pairs of dots meet
          obtain ⟨out', names', hfold, hroom, -⟩ := ih hrest false []
          rw [room_false_nil] at hroom
          rw [room_true_nil]
          exact ⟨out', names', hfold, by omega, fun _ ↦ by omega⟩
      | cons n names =>
        rw [pushResolved_up_cons, room_cons]
        obtain ⟨out', names', hfold, hroom, hclimbs⟩ := ih hrest out names
        refine ⟨out', names', hfold, by omega, fun h ↦ ?_⟩
        have hmore := hclimbs h
        omega
    · rw [count_up_name]
      obtain ⟨out', names', hfold, hroom, hclimbs⟩ := ih hrest out (n :: names)
      rw [room_cons] at hroom hclimbs
      refine ⟨out', names', hfold, by omega, fun h ↦ ?_⟩
      have hmore := hclimbs h
      omega

theorem lt_count_of_climbsFrom {depth : Nat} (hcs : ∀ c ∈ cs, c.Sound)
    (h : climbsFrom depth cs = true) : depth < cs.count .up := by
  induction cs generalizing depth with
  | nil => cases h
  | cons c cs ih =>
    obtain ⟨hc, hrest⟩ := List.forall_mem_cons.1 hcs
    obtain rfl | ⟨n, rfl⟩ := hc.eq_up_or_name
    · rw [List.count_cons_self]
      cases depth with
      | zero => exact Nat.succ_pos _
      | succ depth => exact Nat.succ_lt_succ (ih hrest h)
    · rw [climbsFrom] at h
      rw [count_up_name]
      exact Nat.lt_of_succ_lt (ih hrest h)

/-- Where names are put on a place, it gets as many further components. -/
private theorem length_foldl_stackOn (out : Bool) (names : List (List Char)) (n : List Char)
    (place : List (List Char)) :
    ((stackOn [] out names).reverse.foldl pushResolved
      (stackOn [.root] false (n :: place))).length = room out names + place.length + 1 := by
  rw [reverse_stackOn, List.reverse_nil, List.nil_append, List.foldl_append,
    foldl_pushResolved_names, List.length_append, List.length_map, List.length_reverse,
    List.length_reverse]
  cases out with
  | false => simp [stackOn, room]; omega
  | true => simp [stackOn, room, pushResolved]; omega

/-- Below a directory that is deep enough, the resolved components of a path that leads out of two
directories lead elsewhere. -/
theorem foldl_pushResolved_reverse_ne (hcs : ∀ c ∈ cs, c.Sound) {names : List (List Char)}
    (hdeep : cs.count .up ≤ names.length) (hclimbs : climbsFrom 1 cs = true) :
    (cs.foldl pushResolved []).reverse.foldl pushResolved (stackOn [.root] false names) ≠
      cs.foldl pushResolved (stackOn [.root] false names) := by
  have htwo := lt_count_of_climbsFrom hcs hclimbs
  have hlength := length_foldl_pushResolved hcs names hdeep
  obtain ⟨out', names', hfold, -, hmore⟩ := exists_room hcs false []
  have hroom := hmore hclimbs
  rw [room_false_nil] at hroom
  cases names with
  | nil => exact absurd hdeep (by rw [List.length_nil]; omega)
  | cons n names =>
    intro heq
    have hother := length_foldl_stackOn out' names' n names
    rw [← hfold] at hother
    change ((cs.foldl pushResolved []).reverse.foldl pushResolved _).length = _ at hother
    rw [heq] at hother
    rw [List.length_cons] at hlength
    omega

variable {dir path : String}

theorem start_of_relative (h : isAbsolute path = false) : start path = [] :=
  if_neg (by rw [h]; exact Bool.false_ne_true)

/-- What a relative path leads out of is a matter of its parts. -/
theorem climbsFrom_components (h : isAbsolute path = false) (depth : Nat) :
    climbsFrom depth (components path) = climbsFrom depth (parts path.toList) := by
  obtain ⟨dot, rfl | rfl, hcs⟩ := components_eq path
  · rw [hcs, start_of_relative h, List.nil_append, List.nil_append]
  · rw [hcs, start_of_relative h, List.nil_append, List.singleton_append, climbsFrom]

theorem count_up_components (h : isAbsolute path = false) :
    (components path).count .up = (parts path.toList).count .up := by
  obtain ⟨dot, rfl | rfl, hcs⟩ := components_eq path
  · rw [hcs, start_of_relative h, List.nil_append, List.nil_append]
  · have hne : Component.here ≠ .up := nofun
    rw [hcs, start_of_relative h, List.nil_append, List.singleton_append,
      List.count_cons_of_ne hne]

/-- The parts of a normalized relative path are the components that are resolved. -/
theorem parts_normalize (h : isAbsolute path = false) :
    parts (normalize path).toList = ((parts path.toList).foldl pushResolved []).reverse := by
  obtain ⟨out, names, hresolved, hsound⟩ := resolved_spec path
  rw [start_of_relative h, List.nil_append] at hresolved
  rw [← start_of_relative h, ← resolved_components, normalize, hresolved,
    toList_ofComponents hsound, parts_between hsound]

/-- A relative path that is joined to a directory is resolved in the place of the directory. -/
theorem resolved_join (hdir : isAbsolute dir = true) (hpath : isAbsolute path = false) :
    resolved (components (join dir path)) =
      ((parts path.toList).foldl pushResolved
        ((components dir).foldl pushResolved [])).reverse := by
  rw [components_join hdir hpath, resolved, List.foldl_append]

theorem normalize_join_iff (hdir : isAbsolute dir = true) (hpath : isAbsolute path = false) :
    normalize (join dir (normalize path)) = normalize (join dir path) ↔
      ((parts path.toList).foldl pushResolved []).reverse.foldl pushResolved
          ((components dir).foldl pushResolved []) =
        (parts path.toList).foldl pushResolved ((components dir).foldl pushResolved []) := by
  have hnormal : isAbsolute (normalize path) = false := (isAbsolute_normalize path).trans hpath
  have hleft := resolved_join hdir hnormal
  have hright := resolved_join hdir hpath
  rw [parts_normalize hpath] at hleft
  constructor
  · intro h
    have hcs := congrArg components h
    rw [components_normalize, components_normalize, hleft, hright] at hcs
    exact List.reverse_inj.1 hcs
  · intro h
    have hsame : resolved (components (join dir (normalize path))) =
        resolved (components (join dir path)) := by
      rw [hleft, hright, h]
    exact congrArg ofComponents hsame

/-- A relative path that does not lead out of two directories is resolved as it stands to what it is
resolved to when it is normalized first. -/
theorem normalize_join_normalize (hdir : isAbsolute dir = true) (hpath : isAbsolute path = false)
    (hclimbs : climbsFrom 1 (components path) = false) :
    normalize (join dir (normalize path)) = normalize (join dir path) := by
  rw [climbsFrom_components hpath] at hclimbs
  exact (normalize_join_iff hdir hpath).2
    (foldl_pushResolved_reverse (fun _ ↦ sound_of_mem_parts) false [] hclimbs _)

theorem normalize_join_normalize_of_isAbsolute (hpath : isAbsolute path = true) :
    normalize (join dir (normalize path)) = normalize (join dir path) := by
  have hnormal : isAbsolute (normalize path) = true := (isAbsolute_normalize path).trans hpath
  rw [join, if_pos hnormal, join, if_pos hpath, normalize_normalize]

theorem normalize_join_normalize_ne {names : List (List Char)}
    (hdir : components dir = .root :: names.map .name) (hpath : isAbsolute path = false)
    (hdeep : (components path).count .up ≤ names.length)
    (hclimbs : climbsFrom 1 (components path) = true) :
    normalize (join dir (normalize path)) ≠ normalize (join dir path) := by
  have hplace : (components dir).foldl pushResolved [] = stackOn [.root] false names.reverse := by
    rw [hdir, List.foldl_cons, foldl_pushResolved_names]
    rfl
  rw [climbsFrom_components hpath] at hclimbs
  rw [count_up_components hpath, ← List.length_reverse] at hdeep
  rw [ne_eq, normalize_join_iff (isAbsolute_of_components hdir) hpath, hplace]
  exact foldl_pushResolved_reverse_ne (fun _ ↦ sound_of_mem_parts) hdeep hclimbs

/-- **What normalizing keeps of a path.** Joined to an absolute directory, a path leads to where the
normalized path leads, if it is absolute or does not lead out of two directories on its way. Where
the directory has names only, as many as the path has pairs of dots, it leads there just in this
case. A normalized path has no dot, it has no two dots after a name, and normalizing it again
changes nothing. -/
theorem normalize_keeps (path : String) :
    (∀ dir, isAbsolute dir = true →
      (isAbsolute path = true ∨ climbsFrom 1 (components path) = false) →
        normalize (join dir (normalize path)) = normalize (join dir path)) ∧
    (∀ (dir : String) (names : List (List Char)), components dir = .root :: names.map .name →
      (components path).count .up ≤ names.length →
        (normalize (join dir (normalize path)) = normalize (join dir path) ↔
          isAbsolute path = true ∨ climbsFrom 1 (components path) = false)) ∧
    .here ∉ components (normalize path) ∧
    (components (normalize path)).Pairwise (fun c d ↦ ∀ n, c = .name n → d ≠ .up) ∧
    normalize (normalize path) = normalize path := by
  have hkept (dir : String) (hdir : isAbsolute dir = true)
      (h : isAbsolute path = true ∨ climbsFrom 1 (components path) = false) :
      normalize (join dir (normalize path)) = normalize (join dir path) := by
    cases hpath : isAbsolute path with
    | true => exact normalize_join_normalize_of_isAbsolute hpath
    | false =>
      rw [hpath] at h
      exact normalize_join_normalize hdir hpath (h.resolve_left Bool.false_ne_true)
  refine ⟨hkept, fun dir names hdir hdeep ↦ ⟨fun h ↦ ?_, hkept dir (isAbsolute_of_components hdir)⟩,
    here_notMem_components_normalize path, pairwise_components_normalize path,
    normalize_normalize path⟩
  cases hpath : isAbsolute path with
  | true => exact .inl rfl
  | false =>
    refine .inr (Bool.eq_false_iff.2 fun hclimbs ↦ ?_)
    exact normalize_join_normalize_ne hdir hpath hdeep hclimbs h

/-- A path that leads out of a directory once, and into a neighbour of it. -/
theorem normalize_keeps_neighbour :
    isAbsolute "/x/y" = true ∧ climbsFrom 1 (components "./a/../../b") = false ∧
    normalize (join "/x/y" (normalize "./a/../../b")) = normalize (join "/x/y" "./a/../../b") ∧
    components "/x/y" = .root :: [['x'], ['y']].map .name ∧
    (components "./a/../../b").count .up ≤ [['x'], ['y']].length := by
  have hdir : isAbsolute "/x/y" = true := by decide
  have hclimbs : climbsFrom 1 (components "./a/../../b") = false := by decide
  have hnames : components "/x/y" = .root :: [['x'], ['y']].map .name := by decide
  have hdeep : (components "./a/../../b").count .up ≤ [['x'], ['y']].length := by decide
  obtain ⟨-, hexactly, -⟩ := normalize_keeps "./a/../../b"
  exact ⟨hdir, hclimbs, (hexactly _ _ hnames hdeep).2 (.inr hclimbs), hnames, hdeep⟩

/-- A path that leads out of two directories is normalized to one that leads out of none. -/
theorem normalize_loses_two_levels :
    normalize "../../a" = "a" ∧ normalize (join "/x/y/z" "../../a") = "/x/a" ∧
    normalize (join "/x/y/z" (normalize "../../a")) = "/x/y/z/a" := by
  decide

end WebRecipe.Path
