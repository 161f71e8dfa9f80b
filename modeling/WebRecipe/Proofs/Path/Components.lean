import WebRecipe.Path

/-!
# Components of paths

How the components of a path come from the pieces between its slashes, and what the operations on
paths do to them. A path that is joined to a directory adds its parts to the components of the
directory; the components that a path is made of are found in it again; and the parent of a path
is the path without its last component.

## Main definitions

* `Path.parts`: the components that the pieces of a text count as.
* `Path.Component.Sound`: a component that a path can hold.

## Main results

* `Path.components_join_of_ne_empty`, `Path.components_ofComponents`,
  `Path.components_ofComponents_relative`, `Path.exists_parent?`, `Path.components_parent?`.
-/

namespace WebRecipe

/-! ### Pieces between characters -/

namespace Text

/-- A text without the character is one piece. -/
theorem splitChar_of_not_mem {c : Char} {cs : List Char} (h : c ∉ cs) : splitChar c cs = [cs] := by
  induction cs with
  | nil => rfl
  | cons d cs ih =>
    rw [List.mem_cons, not_or] at h
    rw [splitChar, if_neg (Ne.symm h.1), ih h.2]

/-- The text before the first of the characters is the first piece. -/
theorem splitChar_append {c : Char} {a : List Char} (b : List Char) (h : c ∉ a) :
    splitChar c (a ++ c :: b) = a :: splitChar c b := by
  induction a with
  | nil => rw [List.nil_append, splitChar, if_pos rfl]
  | cons d a ih =>
    rw [List.mem_cons, not_or] at h
    rw [List.cons_append, splitChar, if_neg (Ne.symm h.1), ih h.2]

/-- A text is a piece, or a piece before one of the characters and a further text. -/
@[elab_as_elim]
theorem pieces_induction {c : Char} {motive : List Char → Prop}
    (last : ∀ cs, c ∉ cs → motive cs)
    (more : ∀ a b, c ∉ a → motive b → motive (a ++ c :: b)) (cs : List Char) : motive cs := by
  induction hlen : cs.length using Nat.strongRecOn generalizing cs with
  | _ n ih =>
    subst hlen
    by_cases h : c ∈ cs
    · obtain ⟨a, b, rfl, ha⟩ := List.eq_append_cons_of_mem h
      refine more a b ha (ih _ ?_ b rfl)
      rw [List.length_append, List.length_cons]
      omega
    · exact last cs h

/-- No piece has the character in it. -/
theorem not_mem_of_mem_splitChar {c : Char} {cs piece : List Char} (h : piece ∈ splitChar c cs) :
    c ∉ piece := by
  induction cs using pieces_induction (c := c) with
  | last cs hcs =>
    rw [splitChar_of_not_mem hcs, List.mem_singleton] at h
    rwa [h]
  | more a b ha ih =>
    rw [splitChar_append b ha, List.mem_cons] at h
    rcases h with rfl | h
    · exact ha
    · exact ih h

end Text

namespace Path

/-! ### Parts -/

/-- The components that the pieces of a text count as. -/
def parts (cs : List Char) : List Component :=
  (Text.splitChar '/' cs).filterMap Component.ofPiece

@[simp]
theorem parts_nil : parts [] = [] := rfl

theorem parts_of_not_mem {cs : List Char} (h : '/' ∉ cs) :
    parts cs = (Component.ofPiece cs).toList := by
  rw [parts, Text.splitChar_of_not_mem h, List.filterMap_cons, List.filterMap_nil]
  cases Component.ofPiece cs <;> rfl

/-- The parts of a text are those before a slash and those after it. -/
theorem parts_append (a b : List Char) : parts (a ++ '/' :: b) = parts a ++ parts b := by
  induction a using Text.pieces_induction (c := '/') with
  | last a ha =>
    rw [parts_of_not_mem ha, parts, Text.splitChar_append b ha, List.filterMap_cons, ← parts]
    cases Component.ofPiece a <;> rfl
  | more a a' ha ih =>
    have hsplit (t : List Char) :
        parts (a ++ '/' :: t) = (Component.ofPiece a).toList ++ parts t := by
      rw [parts, Text.splitChar_append t ha, List.filterMap_cons, ← parts]
      cases Component.ofPiece a <;> rfl
    rw [List.append_assoc, List.cons_append, hsplit, hsplit, ih, List.append_assoc]

/-- A component that a path can hold after its beginning: its text is a piece that counts as it. -/
def Component.Sound (c : Component) : Prop :=
  Component.ofPiece c.text = some c ∧ '/' ∉ c.text

theorem Component.text_of_ofPiece {cs : List Char} {c : Component}
    (h : Component.ofPiece cs = some c) : c.text = cs := by
  unfold Component.ofPiece at h
  split at h <;> cases h <;> rfl

/-- A piece with another character than dots in it is a name. -/
theorem Component.ofPiece_of_mem {cs : List Char} {c : Char} (h : c ∈ cs) (hc : c ≠ '.') :
    Component.ofPiece cs = some (.name cs) := by
  unfold Component.ofPiece
  split
  · cases h
  · exact absurd (List.mem_singleton.1 h) hc
  · rcases List.mem_cons.1 h with h | h
    · exact absurd h hc
    · exact absurd (List.mem_singleton.1 h) hc
  · rfl

theorem sound_of_mem_parts {cs : List Char} {c : Component} (h : c ∈ parts cs) : c.Sound := by
  obtain ⟨piece, hpiece, hc⟩ := List.mem_filterMap.1 h
  have htext := Component.text_of_ofPiece hc
  exact ⟨by rw [htext, hc], by rw [htext]; exact Text.not_mem_of_mem_splitChar hpiece⟩

theorem Component.Sound.eq_up_or_name {c : Component} (h : c.Sound) :
    c = .up ∨ ∃ n, c = .name n := by
  cases c with
  | root => cases h.1
  | here => cases h.1
  | up => exact .inl rfl
  | name n => exact .inr ⟨n, rfl⟩

/-- The parts of a text of components are the components. -/
theorem parts_between {cs : List Component} (h : ∀ c ∈ cs, c.Sound) : parts (between cs) = cs := by
  induction cs with
  | nil => rfl
  | cons c cs ih =>
    obtain ⟨hc, hcs⟩ := List.forall_mem_cons.1 h
    have hhead : parts c.text = [c] := by rw [parts_of_not_mem hc.2, hc.1, Option.toList_some]
    cases cs with
    | nil => exact hhead
    | cons d cs =>
      rw [between, parts_append, hhead, ih hcs, List.singleton_append]
      exact List.cons_ne_nil d cs

/-! ### Absolute paths -/

theorem isAbsolute_iff {path : String} :
    isAbsolute path = true ↔ ∃ cs, path.toList = '/' :: cs := by
  rw [isAbsolute]
  cases path.toList with
  | nil => simp
  | cons c cs => simp

/-- The components of a path that begins at the root. -/
theorem components_of_toList {path : String} {cs : List Char} (h : path.toList = '/' :: cs) :
    components path = .root :: parts cs := by
  rw [components, h]
  rfl

/-- A path that begins at the root has the root as its first component. -/
theorem isAbsolute_of_components {path : String} {cs : List Component}
    (h : components path = .root :: cs) : isAbsolute path = true := by
  rw [isAbsolute_iff]
  unfold components at h
  split at h
  · exact ⟨_, ‹_›⟩
  · split at h
    · cases h
    · have hmem : Component.root ∈ parts path.toList := by
        rw [parts, h]
        exact List.mem_cons_self
      exact absurd (sound_of_mem_parts hmem).1 nofun

/-! ### The first component -/

/-- The component that the first piece of a path counts as. Before the slash of the root stands
nothing. -/
def Component.first : List Char → Component
  | [] => .root
  | ['.'] => .here
  | ['.', '.'] => .up
  | a => .name a

variable {path : String} {a b : List Char} {rest : List (List Char)}

/-- A piece that counts as a component is the same one at the beginning of a path. -/
theorem Component.first_of_ofPiece {cs : List Char} {c : Component}
    (h : Component.ofPiece cs = some c) : Component.first cs = c := by
  unfold Component.ofPiece at h
  split at h
  case h_1 => cases h
  case h_2 => cases h
  case h_3 => exact Option.some.inj h
  case h_4 => rw [← Option.some.inj h, Component.first] <;> assumption

/-- A text with something before its first slash does not begin with the slash. -/
private theorem ne_cons_of_splitChar {cs : List Char} (h : Text.splitChar '/' cs = a :: rest)
    (ha : a ≠ []) (after : List Char) : cs ≠ '/' :: after := by
  rintro rfl
  rw [Text.splitChar, if_pos rfl, List.cons.injEq] at h
  exact ha h.1.symm

/-- The components of a path that does not begin at the root, piece by piece. -/
private theorem components_of_pieces (h : Text.splitChar '/' path.toList = a :: rest)
    (ha : a ≠ []) : components path = .first a :: rest.filterMap Component.ofPiece := by
  unfold components
  split
  case h_1 hafter => exact absurd hafter (ne_cons_of_splitChar h ha _)
  case h_2 =>
    rw [h]
    split
    case h_1 hdot =>
      obtain ⟨rfl, rfl⟩ := List.cons.inj hdot
      rfl
    case h_2 hdot =>
      have hne : a ≠ ['.'] := fun hdots ↦ hdot rest (by rw [hdots])
      have hpiece : Component.ofPiece a = some (.first a) := by
        unfold Component.first
        split <;> first | rfl | contradiction | simp_all [Component.ofPiece]
      rw [List.filterMap_cons, hpiece]

/-- A path without a slash is one component. -/
theorem components_of_slash_notMem (hne : path.toList ≠ []) (h : '/' ∉ path.toList) :
    components path = [.first path.toList] :=
  components_of_pieces (Text.splitChar_of_not_mem h) hne

/-- A path has the component of what stands before its first slash, and the parts of what stands
after it. -/
private theorem components_of_slash (h : path.toList = a ++ '/' :: b) (ha : '/' ∉ a) :
    components path = .first a :: parts b := by
  by_cases hne : a = []
  · subst hne
    exact components_of_toList h
  · exact components_of_pieces (by rw [h, Text.splitChar_append b ha]) hne

/-! ### Joining -/

/-- Joining a relative path adds its parts to the components of the directory, unless the directory
is the empty path. -/
theorem components_join_of_ne_empty {dir path : String} (hdir : dir ≠ "")
    (hpath : isAbsolute path = false) :
    components (join dir path) = components dir ++ parts path.toList := by
  have hempty : dir.isEmpty = false := by
    rwa [Bool.eq_false_iff, ne_eq, String.isEmpty_iff]
  rw [join, if_neg (by rw [hpath]; exact Bool.false_ne_true), hempty, Bool.false_or]
  by_cases hslash : '/' ∈ dir.toList
  · obtain ⟨a, b, hdir, ha⟩ := List.eq_append_cons_of_mem hslash
    rw [components_of_slash hdir ha, List.cons_append]
    split
    case isTrue hlast =>
      -- the slash at the end may be the first one
      have hjoin : (dir ++ path).toList = a ++ '/' :: (b ++ path.toList) := by
        rw [String.toList_append, hdir, List.append_assoc, List.cons_append]
      rw [components_of_slash hjoin ha]
      refine congrArg (Component.first a :: ·) ?_
      rcases List.eq_nil_or_concat b with rfl | ⟨b, c, rfl⟩
      · rfl
      · rw [List.concat_eq_append] at hdir ⊢
        rw [hdir, ← List.cons_append, ← List.append_assoc, List.getLast?_concat] at hlast
        obtain rfl : c = '/' := by simpa using hlast
        rw [List.append_assoc, List.singleton_append, parts_append, parts_append, parts_nil,
          List.append_nil]
    case isFalse =>
      have hjoin : (dir ++ "/" ++ path).toList = a ++ '/' :: (b ++ '/' :: path.toList) := by
        rw [String.toList_append, String.toList_append, hdir, List.append_assoc,
          List.append_assoc]
        rfl
      rw [components_of_slash hjoin ha, parts_append]
  · have hlast : (dir.toList.getLast? == some '/') = false := by
      rw [beq_eq_false_iff_ne]
      exact fun h ↦ hslash (List.mem_of_getLast? h)
    have hjoin : (dir ++ "/" ++ path).toList = dir.toList ++ '/' :: path.toList := by
      rw [String.toList_append, String.toList_append, List.append_assoc]
      rfl
    have hne : dir.toList ≠ [] := by rwa [ne_eq, String.toList_eq_nil_iff]
    rw [hlast, if_neg Bool.false_ne_true, components_of_slash hjoin hslash,
      components_of_slash_notMem hne hslash, List.singleton_append]

/-- Joining a relative path to an absolute directory adds its parts to the components of the
directory. -/
theorem components_join {dir path : String} (hdir : isAbsolute dir = true)
    (hpath : isAbsolute path = false) :
    components (join dir path) = components dir ++ parts path.toList := by
  refine components_join_of_ne_empty ?_ hpath
  rintro rfl
  cases hdir

/-! ### Absolute paths made of components -/

/-- The components that an absolute path is made of are found in it again. -/
theorem components_ofComponents {cs : List Component} (h : ∀ c ∈ cs, c.Sound) :
    components (ofComponents (.root :: cs)) = .root :: cs := by
  have htext : (ofComponents (.root :: cs)).toList = '/' :: between cs := by
    rw [ofComponents, String.toList_ofList]
  rw [components_of_toList htext, parts_between h]

/-! ### Relative paths -/

/-- The path that components without the root make. -/
theorem toList_ofComponents {cs : List Component} (h : ∀ c ∈ cs, c.Sound) :
    (ofComponents cs).toList = between cs := by
  unfold ofComponents
  split
  · cases (h _ List.mem_cons_self).1
  · exact String.toList_ofList

/-- The first piece of a text of components is the text of the first of them. -/
theorem splitChar_between {c : Component} (hc : c.Sound) (cs : List Component) :
    ∃ pieces, Text.splitChar '/' (between (c :: cs)) = c.text :: pieces := by
  cases cs with
  | nil => exact ⟨[], Text.splitChar_of_not_mem hc.2⟩
  | cons d cs =>
    refine ⟨Text.splitChar '/' (between (d :: cs)), ?_⟩
    rw [between, Text.splitChar_append _ hc.2]
    exact List.cons_ne_nil d cs

/-- A path that is made of components without the root is relative, and they are found in it
again. -/
theorem components_ofComponents_relative {cs : List Component} (h : ∀ c ∈ cs, c.Sound) :
    isAbsolute (ofComponents cs) = false ∧ components (ofComponents cs) = cs := by
  have htext := toList_ofComponents h
  cases cs with
  | nil => exact ⟨rfl, rfl⟩
  | cons c cs =>
    have hc := h c List.mem_cons_self
    obtain ⟨pieces, hpieces⟩ := splitChar_between hc cs
    have hrelative : isAbsolute (ofComponents (c :: cs)) = false := by
      rw [Bool.eq_false_iff, ne_eq, isAbsolute_iff]
      rintro ⟨after, hafter⟩
      -- the first piece would be empty
      rw [← htext, hafter, Text.splitChar, if_pos rfl, List.cons.injEq] at hpieces
      rw [Component.Sound, ← hpieces.1] at hc
      cases hc.1
    refine ⟨hrelative, ?_⟩
    have hparts := parts_between h
    rw [← htext, parts] at hparts
    rw [← htext] at hpieces
    unfold components
    split
    case h_1 hroot => 
      rw [isAbsolute, hroot] at hrelative
      cases hrelative
    case h_2 =>
      split
      case h_1 hdot =>
        rw [hpieces, List.cons.injEq] at hdot
        rw [Component.Sound, hdot.1] at hc
        cases hc.1
      case h_2 => exact hparts

/-! ### Parents -/

private theorem ends_cons (start : Nat) (piece : List Char) (rest : List (List Char)) :
    ends start false (piece :: rest) =
      (Component.ofPiece piece).toList.map (fun _ ↦ start + piece.length) ++
        ends (start + piece.length + 1) false rest := by
  rw [ends, Bool.false_and, Bool.or_false]
  cases Component.ofPiece piece <;> rfl

private theorem length_ends (start : Nat) (cs : List Char) :
    (ends start false (Text.splitChar '/' cs)).length = (parts cs).length := by
  induction cs using Text.pieces_induction (c := '/') generalizing start with
  | last cs hcs =>
    rw [Text.splitChar_of_not_mem hcs, ends_cons, parts_of_not_mem hcs]
    simp [ends]
  | more a b ha ih =>
    rw [Text.splitChar_append b ha, ends_cons, parts_append, parts_of_not_mem ha,
      List.length_append, List.length_append, List.length_map, ih]

private theorem le_of_mem_ends {start stop : Nat} {pieces : List (List Char)}
    (h : stop ∈ ends start false pieces) : start ≤ stop := by
  induction pieces generalizing start with
  | nil => cases h
  | cons piece rest ih =>
    rw [ends_cons, List.mem_append] at h
    rcases h with h | h
    · obtain ⟨_, -, rfl⟩ := List.mem_map.1 h
      omega
    · have := ih h
      omega

/-- Up to where a component ends, a text has the components up to that one. -/
private theorem parts_take_ends {start stop k : Nat} {cs : List Char}
    (h : (ends start false (Text.splitChar '/' cs))[k]? = some stop) :
    parts (cs.take (stop - start)) = (parts cs).take (k + 1) := by
  induction cs using Text.pieces_induction (c := '/') generalizing start k with
  | last cs hcs =>
    rw [Text.splitChar_of_not_mem hcs, ends_cons] at h
    rw [parts_of_not_mem hcs]
    cases hpiece : Component.ofPiece cs with
    | none => simp [hpiece, ends] at h
    | some c =>
      simp only [hpiece, ends, Option.toList_some, List.map_cons, List.map_nil,
        List.append_nil] at h
      obtain ⟨hk, hstop⟩ := List.getElem?_eq_some_iff.1 h
      obtain rfl : k = 0 := Nat.lt_one_iff.1 hk
      rw [← hstop, List.getElem_cons_zero, Nat.add_sub_cancel_left, List.take_length,
        parts_of_not_mem hcs, hpiece]
      rfl
  | more a b ha ih =>
    rw [Text.splitChar_append b ha, ends_cons] at h
    rw [parts_append, parts_of_not_mem ha]
    -- whether it is the first piece that ends at `stop`, or a piece after it
    have hlater {j : Nat} (hj : (ends (start + a.length + 1) false (Text.splitChar '/' b))[j]? =
        some stop) : parts ((a ++ '/' :: b).take (stop - start)) =
          (Component.ofPiece a).toList ++ (parts b).take (j + 1) := by
      have hle := le_of_mem_ends (List.mem_of_getElem? hj)
      have hlen : stop - start = a.length + ((stop - (start + a.length + 1)) + 1) := by omega
      rw [hlen, List.take_length_add_append, List.take_succ_cons, parts_append, ih hj,
        parts_of_not_mem ha]
    cases hpiece : Component.ofPiece a with
    | none =>
      rw [hpiece] at h hlater
      exact hlater (by simpa using h)
    | some c =>
      rw [hpiece] at h hlater
      cases k with
      | zero =>
        obtain rfl : start + a.length = stop := by simpa using h
        rw [Nat.add_sub_cancel_left, List.take_left', parts_of_not_mem ha, hpiece]
        · rfl
        · rfl
      | succ k => exact hlater (by simpa using h)

/-- The beginning of a path that is always kept, with the places where its components end. -/
private def layout (cs : List Char) : Nat × List Nat :=
  match cs with
  | '/' :: rest => (1, ends 1 false (Text.splitChar '/' rest))
  | _ => (0, ends 0 true (Text.splitChar '/' cs))

/-- The text up to the last but one of the places where components end. -/
private def upTo (cs : List Char) (top : Nat) (stops : List Nat) : Option String :=
  match stops.reverse with
  | [] => none
  | [_] => some (String.ofList (cs.take top))
  | _ :: stop :: _ => some (String.ofList (cs.take stop))

private theorem parent?_eq_upTo :
    parent? path = upTo path.toList (layout path.toList).1 (layout path.toList).2 :=
  rfl

private theorem upTo_singleton (cs : List Char) (top last : Nat) :
    upTo cs top [last] = some (String.ofList (cs.take top)) := rfl

private theorem upTo_concat (cs : List Char) (top stop last : Nat) (before : List Nat) :
    upTo cs top (before ++ [stop, last]) = some (String.ofList (cs.take stop)) := by
  simp [upTo]

private theorem layout_of_pieces {cs : List Char} (h : Text.splitChar '/' cs = a :: rest)
    (ha : a ≠ []) : layout cs = (0, a.length :: ends (a.length + 1) false rest) := by
  have hcounts : ((Component.ofPiece a).isSome || true && a == ['.']) = true := by
    unfold Component.ofPiece
    split <;> simp_all
  unfold layout
  split
  case h_1 => exact absurd rfl (ne_cons_of_splitChar h ha _)
  case h_2 => rw [h, ends, Nat.zero_add, if_pos hcounts]

/-- Up to where a component after the first slash ends, a path has the components up to that one. -/
private theorem components_take (h : path.toList = a ++ '/' :: b) (ha : '/' ∉ a) {k stop : Nat}
    (hstop : (ends (a.length + 1) false (Text.splitChar '/' b))[k]? = some stop) :
    components (String.ofList (path.toList.take stop)) = .first a :: (parts b).take (k + 1) := by
  have hle := le_of_mem_ends (List.mem_of_getElem? hstop)
  have htake : (String.ofList (path.toList.take stop)).toList =
      a ++ '/' :: b.take (stop - (a.length + 1)) := by
    have hlen : stop = a.length + (stop - (a.length + 1) + 1) := by omega
    rw [String.toList_ofList, h, hlen, List.take_length_add_append, List.take_succ_cons,
      Nat.add_sub_add_left, Nat.add_sub_cancel]
  rw [components_of_slash htake ha, parts_take_ends hstop]

/-- The parent of a path without a slash is the empty path. -/
private theorem parent?_of_not_mem (hne : path.toList ≠ []) (h : '/' ∉ path.toList) :
    components path = [.first path.toList] ∧ parent? path = some "" := by
  refine ⟨components_of_slash_notMem hne h, ?_⟩
  rw [parent?_eq_upTo, layout_of_pieces (Text.splitChar_of_not_mem h) hne, ends, upTo_singleton]
  rfl

private theorem layout_of_slash (h : path.toList = a ++ '/' :: b) (ha : '/' ∉ a) :
    (a = [] ∧ layout path.toList = (1, ends 1 false (Text.splitChar '/' b))) ∨
      (a ≠ [] ∧ layout path.toList =
        (0, a.length :: ends (a.length + 1) false (Text.splitChar '/' b))) := by
  by_cases hne : a = []
  · exact .inl ⟨hne, by rw [h, hne]; rfl⟩
  · exact .inr ⟨hne, layout_of_pieces (by rw [h, Text.splitChar_append b ha]) hne⟩

/-- The parent of a path without components after its first slash is the empty path, unless the
path is the root. -/
private theorem parent?_of_slash_nil (h : path.toList = a ++ '/' :: b) (ha : '/' ∉ a)
    (hb : parts b = []) : parent? path = if a = [] then none else some "" := by
  have hends : ends (a.length + 1) false (Text.splitChar '/' b) = [] := by
    rw [← List.length_eq_zero_iff, length_ends, hb, List.length_nil]
  rw [parent?_eq_upTo]
  rcases layout_of_slash h ha with ⟨rfl, hlayout⟩ | ⟨hne, hlayout⟩
  · rw [if_pos rfl, hlayout]
    exact congrArg (upTo path.toList 1) hends
  · rw [if_neg hne, hlayout, hends, upTo_singleton]
    rfl

/-- The parent of a path with components after its first slash is the path without the last. -/
private theorem parent?_of_slash (h : path.toList = a ++ '/' :: b) (ha : '/' ∉ a)
    (hb : parts b ≠ []) :
    ∃ parent, parent? path = some parent ∧ components parent = .first a :: (parts b).dropLast := by
  have hlen := length_ends (a.length + 1) b
  have hlayout := layout_of_slash h ha
  rw [parent?_eq_upTo]
  rcases List.eq_nil_or_concat (ends (a.length + 1) false (Text.splitChar '/' b)) with
    hnil | ⟨init, last, hinit⟩
  · rw [hnil, List.length_nil] at hlen
    exact absurd (List.eq_nil_of_length_eq_zero hlen.symm) hb
  rw [hinit, List.length_concat] at hlen
  rcases List.eq_nil_or_concat init with rfl | ⟨before, stop, rfl⟩
  · -- one component after the slash: what stands up to the slash is kept
    obtain ⟨d, hd⟩ := List.length_eq_one_iff.1 hlen.symm
    rw [List.concat_eq_append, List.nil_append] at hinit
    rw [hd, List.dropLast_singleton]
    rcases hlayout with ⟨rfl, hlayout⟩ | ⟨hne, hlayout⟩
    · have hone : ends 1 false (Text.splitChar '/' b) = [last] := hinit
      refine ⟨_, by rw [hlayout, hone, upTo_singleton], ?_⟩
      rw [h, List.nil_append, List.take_succ_cons, List.take_zero]
      rfl
    · have htext : (String.ofList (path.toList.take a.length)).toList = a := by
        rw [String.toList_ofList, h, List.take_left']
        rfl
      refine ⟨_, by rw [hlayout, hinit, ← List.nil_append [_, _], upTo_concat], ?_⟩
      rw [components_of_pieces (by rw [htext, Text.splitChar_of_not_mem ha]) hne]
      rfl
  · -- two or more: the last but one is where the text of the parent ends
    have hstop : (ends (a.length + 1) false (Text.splitChar '/' b))[before.length]? =
        some stop := by
      rw [hinit]
      simp
    rw [List.concat_eq_append, List.concat_eq_append, List.append_assoc] at hinit
    refine ⟨String.ofList (path.toList.take stop), ?_, ?_⟩
    · rcases hlayout with ⟨rfl, hlayout⟩ | ⟨-, hlayout⟩
      · rw [hlayout]
        exact (congrArg _ hinit).trans (upTo_concat ..)
      · rw [hlayout, hinit]
        exact upTo_concat _ 0 stop last (a.length :: before)
    · rw [components_take h ha hstop, List.dropLast_eq_take, ← hlen, List.length_concat]
      rfl

/-- The parent of a path is the path without its last component, unless this is the root. -/
theorem exists_parent? {cs : List Component} {c : Component} (h : components path = cs ++ [c])
    (hc : c ≠ .root) : ∃ parent, parent? path = some parent ∧ components parent = cs := by
  by_cases hslash : '/' ∈ path.toList
  · obtain ⟨a, b, hpath, ha⟩ := List.eq_append_cons_of_mem hslash
    have hcs := components_of_slash hpath ha
    by_cases hb : parts b = []
    · rw [hb, h, List.append_eq_singleton_iff] at hcs
      obtain ⟨rfl, hc'⟩ | ⟨-, hnil⟩ := hcs
      · have hne : a ≠ [] := by
          rintro rfl
          exact hc (List.cons.inj hc').1
        exact ⟨"", by rw [parent?_of_slash_nil hpath ha hb, if_neg hne], rfl⟩
      · cases hnil
    · obtain ⟨parent, hparent, hcomponents⟩ := parent?_of_slash hpath ha hb
      refine ⟨parent, hparent, ?_⟩
      rw [hcomponents, ← List.dropLast_cons_of_ne_nil hb, ← hcs, h, List.dropLast_concat]
  · by_cases hne : path.toList = []
    · rw [String.toList_eq_nil_iff] at hne
      subst hne
      exact absurd h.symm (List.append_ne_nil_of_right_ne_nil _ (List.cons_ne_nil _ _))
    · obtain ⟨hcs, hparent⟩ := parent?_of_not_mem hne hslash
      refine ⟨"", hparent, ?_⟩
      rw [h, List.append_eq_singleton_iff] at hcs
      obtain ⟨rfl, -⟩ | ⟨-, hnil⟩ := hcs
      · rfl
      · cases hnil

/-- The parent of an absolute path is the path without its last component. -/
theorem components_parent? {parent : String} (habs : isAbsolute path = true)
    (h : parent? path = some parent) : components parent = (components path).dropLast := by
  obtain ⟨b, hpath⟩ := isAbsolute_iff.1 habs
  have hroot : '/' ∉ ([] : List Char) := List.not_mem_nil
  by_cases hb : parts b = []
  · rw [parent?_of_slash_nil hpath hroot hb, if_pos rfl] at h
    cases h
  · obtain ⟨parent', hparent, hcomponents⟩ := parent?_of_slash hpath hroot hb
    obtain rfl := Option.some.inj (h.symm.trans hparent)
    rw [hcomponents, components_of_toList hpath, List.dropLast_cons_of_ne_nil hb]
    rfl

end Path
end WebRecipe
