import WebRecipe.Files
import WebRecipe.Proofs.Outcome
import WebRecipe.Proofs.Path.Inside

/-!
# What writing and removing leave

A path of names leads to the location of these names. Removing a tree changes nothing at locations
that do not begin with the location of the tree, so nothing on the way to a directory around it.

A file is no directory, so that writing one changes nothing on the way to it: its path leads to it
as before, and there is the text that was written, or the text from before with another one at its
end. When a file is removed, its path leads to it no more.

## Main results

* `FileSystem.locate_plain`: where a path of names leads.
* `FileSystem.isDir_removeDirAll`: a directory is still there when a directory in it is removed.
* `FileSystem.write_eq_ok_iff`, `FileSystem.append_eq_ok_iff`: what writing a file comes to.
* `FileSystem.readText_write`: a text that is written is read.
* `FileSystem.removeFile_of_readText`: a file that can be read can be removed, and is gone then.
-/

namespace WebRecipe.FileSystem

open WebRecipe.Path

/-! ### Locations of paths -/

private theorem walk_names {fs : FileSystem} {loc loc' : Location} {names : List (List Char)}
    (h : fs.walk loc (names.map .name) = .ok loc') : loc' = loc ++ names := by
  induction names generalizing loc with
  | nil =>
    cases h
    exact (List.append_nil _).symm
  | cons n names ih =>
    rw [List.map_cons, walk] at h
    obtain ⟨-, -, h⟩ := bind_eq_ok_iff.1 h
    split at h
    · cases h
    · rw [ih h, List.append_assoc, List.singleton_append]

/-- A path of names leads to the location of its names. -/
theorem locate_plain {fs : FileSystem} {path : String} {names : List (List Char)} {loc : Location}
    (hpath : components path = .root :: names.map .name) (h : fs.locate path = .ok loc) :
    loc = names := by
  rw [locate] at h
  obtain ⟨-, -, h⟩ := bind_eq_ok_iff.1 h
  split at h
  · cases h
  · rw [hpath, walk] at h
    rw [walk_names h, List.nil_append]

/-! ### Removing a tree -/

/-- What is at a location that does not begin with the removed one stays. -/
theorem entryAt?_removeTree {fs : FileSystem} {removed loc : Location} (h : ¬ removed <+: loc) :
    (fs.removeTree removed).entryAt? loc = fs.entryAt? loc := by
  rw [entryAt?, entryAt?, removeTree]
  congr 1
  induction fs.entries with
  | nil => rfl
  | cons e entries ih =>
    by_cases he : removed.isPrefixOf e.1
    · have hne : (loc == e.1) = false := by
        rw [beq_eq_false_iff_ne]
        rintro rfl
        exact h (List.isPrefixOf_iff_prefix.1 he)
      rw [List.filter_cons_of_neg (by simp [he]), ih, List.lookup_cons, hne]
    · rw [List.filter_cons_of_pos (by simp [he]), List.lookup_cons, List.lookup_cons, ih]

private theorem walk_removeTree {fs : FileSystem} {removed loc : Location}
    {names : List (List Char)} (h : ¬ removed <+: loc ++ names) :
    (fs.removeTree removed).walk loc (names.map .name) = fs.walk loc (names.map .name) := by
  induction names generalizing loc with
  | nil => rfl
  | cons n names ih =>
    have hloc : ¬ removed <+: loc := fun hle ↦ h (hle.trans (List.prefix_append _ _))
    rw [List.map_cons, walk, walk, needDir, needDir, entryAt?_removeTree hloc,
      ih (by rwa [List.append_assoc])]

private theorem removeDirAll_spec (fs : FileSystem) (path : String) :
    (fs.removeDirAll path).2 = fs ∨
      ∃ loc, fs.locate path = .ok loc ∧ (fs.removeDirAll path).2 = fs.removeTree loc := by
  unfold removeDirAll changeAt
  split
  case h_1 changed hchanged =>
    obtain ⟨loc, hloc, hchanged⟩ := bind_eq_ok_iff.1 hchanged
    rw [hloc] at hchanged
    obtain ⟨_, hloc', hchanged⟩ := bind_eq_ok_iff.1 hchanged
    cases hloc'
    refine .inr ⟨loc, hloc, ?_⟩
    dsimp only at hchanged
    split at hchanged
    · cases hchanged
    · cases hchanged
    · cases hchanged
      rfl
  case h_2 => exact .inl rfl

/-- A directory is still there after the removal of a directory in it. -/
theorem isDir_removeDirAll {fs : FileSystem} {dir path : String} (hdir : Plain dir)
    (hpath : StrictlyInside dir path) :
    (fs.removeDirAll path).2.isDir dir = fs.isDir dir := by
  obtain ⟨base, hbase⟩ := hdir
  obtain ⟨names, hne, hnames⟩ := hpath
  rw [hbase, List.cons_append, ← List.map_append] at hnames
  rcases removeDirAll_spec fs path with hsame | ⟨loc, hloc, hremoved⟩
  · rw [hsame]
  obtain rfl := locate_plain hnames hloc
  have hprefix : ¬ base ++ names <+: base := by
    intro hle
    have hlen := hle.length_le
    rw [List.length_append] at hlen
    exact hne (List.length_eq_zero_iff.1 (by omega))
  have hlocate : (fs.removeTree (base ++ names)).locate dir = fs.locate dir := by
    rw [locate, locate, hbase, walk, walk, walk_removeTree hprefix]
  rw [hremoved, isDir, isDir, hlocate]
  cases hloc' : fs.locate dir with
  | error e => rfl
  | ok loc =>
    obtain rfl := locate_plain hbase hloc'
    show isDirAt _ _ = isDirAt _ _
    unfold isDirAt
    rw [entryAt?_removeTree hprefix]

/-! ### Writing a file -/

private theorem lookup_setEntry_self (loc : Location) (e : FileEntry)
    (entries : List (Location × FileEntry)) : (setEntry loc e entries).lookup loc = some e := by
  induction entries with
  | nil => rw [setEntry, List.lookup_cons_self]
  | cons entry entries ih =>
    rw [setEntry]
    split
    · exact List.lookup_cons_self
    case isFalse hne =>
      rw [List.lookup_cons, beq_false_of_ne (Ne.symm hne)]
      exact ih

private theorem lookup_setEntry_of_ne {loc other : Location} (h : other ≠ loc) (e : FileEntry)
    (entries : List (Location × FileEntry)) :
    (setEntry loc e entries).lookup other = entries.lookup other := by
  induction entries with
  | nil => rw [setEntry, List.lookup_cons, beq_false_of_ne h]
  | cons entry entries ih =>
    rw [setEntry]
    split
    case isTrue heq =>
      rw [List.lookup_cons, List.lookup_cons, heq, beq_false_of_ne h]
    case isFalse =>
      rw [List.lookup_cons, List.lookup_cons, ih]

/-- What is put at a location other than the root is there. -/
theorem entryAt?_put_self {fs : FileSystem} {loc : Location} (h : loc ≠ []) (e : FileEntry) :
    (fs.put loc e).entryAt? loc = some e := by
  rw [entryAt?, if_neg (by simpa using h)]
  exact lookup_setEntry_self _ _ _

theorem entryAt?_put_of_ne {fs : FileSystem} {loc other : Location} (h : other ≠ loc)
    (e : FileEntry) : (fs.put loc e).entryAt? other = fs.entryAt? other := by
  rw [entryAt?, entryAt?]
  exact congrArg (ite _ _) (lookup_setEntry_of_ne h _ _)

theorem needDir_eq_ok_iff {fs : FileSystem} {loc : Location} :
    fs.needDir loc = .ok () ↔ fs.entryAt? loc = some .dir := by
  rw [needDir]
  split <;> simp [*]

/-- A way over directories does not lead over what is put where there was no directory. -/
private theorem walk_put {fs : FileSystem} {loc : Location} (hloc : fs.entryAt? loc ≠ some .dir)
    (e : FileEntry) {start found : Location} {cs : List Component}
    (h : fs.walk start cs = .ok found) : (fs.put loc e).walk start cs = .ok found := by
  have hdir {l : Location} (hl : fs.needDir l = .ok ()) : (fs.put loc e).needDir l = .ok () := by
    rw [needDir_eq_ok_iff] at hl ⊢
    rwa [entryAt?_put_of_ne]
    rintro rfl
    exact hloc hl
  induction cs generalizing start with
  | nil => exact h
  | cons c cs ih =>
    cases c with
    | root => exact ih h
    | here =>
      obtain ⟨⟨⟩, hstart, h⟩ := bind_eq_ok_iff.1 h
      exact bind_eq_ok_iff.2 ⟨(), hdir hstart, ih h⟩
    | up =>
      obtain ⟨⟨⟩, hstart, h⟩ := bind_eq_ok_iff.1 h
      exact bind_eq_ok_iff.2 ⟨(), hdir hstart, ih h⟩
    | name n =>
      obtain ⟨⟨⟩, hstart, h⟩ := bind_eq_ok_iff.1 h
      refine bind_eq_ok_iff.2 ⟨(), hdir hstart, ?_⟩
      split at h
      · cases h
      case isFalse hshort =>
        rw [if_neg hshort]
        exact ih h

private theorem locate_put {fs : FileSystem} {loc : Location} (hloc : fs.entryAt? loc ≠ some .dir)
    (e : FileEntry) {path : String} {found : Location} (h : fs.locate path = .ok found) :
    (fs.put loc e).locate path = .ok found := by
  rw [locate] at h ⊢
  obtain ⟨⟨⟩, htext, h⟩ := bind_eq_ok_iff.1 h
  refine bind_eq_ok_iff.2 ⟨(), htext, ?_⟩
  split at h
  · cases h
  case isFalse hfilled =>
    rw [if_neg hfilled]
    exact walk_put hloc e h

private theorem changeAt_eq_ok_iff {fs changed : FileSystem} {path : String}
    {change : Location → Option FileEntry → Except FileError FileSystem} :
    fs.changeAt path change = (.ok (), changed) ↔
      ∃ loc, fs.locate path = .ok loc ∧ change loc (fs.entryAt? loc) = .ok changed := by
  rw [changeAt]
  cases hloc : fs.locate path with
  | error err => exact ⟨nofun, nofun⟩
  | ok loc =>
    dsimp only [bind, Except.bind]
    cases hchange : change loc (fs.entryAt? loc) with
    | error err => simp [hchange]
    | ok fs' => simp [hchange]

private theorem eq_of_changeAt_error {fs fs' : FileSystem} {path : String} {err : FileError}
    {change : Location → Option FileEntry → Except FileError FileSystem}
    (h : fs.changeAt path change = (.error err, fs')) : fs' = fs := by
  rw [changeAt] at h
  split at h <;> cases h
  rfl

theorem readText_eq_ok_iff {fs : FileSystem} {path text : String} :
    fs.readText path = .ok text ↔ ∃ loc content, fs.locate path = .ok loc ∧
      fs.entryAt? loc = some (.file content) ∧ String.fromUTF8? content = some text := by
  rw [readText, readBytes]
  constructor
  · intro h
    obtain ⟨content, hcontent, h⟩ := bind_eq_ok_iff.1 h
    obtain ⟨loc, hloc, hcontent⟩ := bind_eq_ok_iff.1 hcontent
    split at hcontent
    · cases hcontent
    · cases hcontent
    case h_3 hentry =>
      cases hcontent
      split at h
      case h_1 hread =>
        cases h
        exact ⟨loc, content, hloc, hentry, hread⟩
      · cases h
  · rintro ⟨loc, content, hloc, hentry, hread⟩
    refine bind_eq_ok_iff.2 ⟨content, bind_eq_ok_iff.2 ⟨loc, hloc, ?_⟩, ?_⟩
    · rw [hentry]
      rfl
    · rw [hread]
      rfl

private theorem fromUTF8?_toUTF8 (text : String) : String.fromUTF8? text.toUTF8 = some text := by
  rw [String.fromUTF8?, String.toUTF8_eq_toByteArray, dif_pos text.isValidUTF8]
  rfl

/-- Writing a file puts its bytes where the path leads, unless a directory is there. -/
theorem write_eq_ok_iff {fs fs' : FileSystem} {path : String} {content : ByteArray} :
    fs.write path content = (.ok (), fs') ↔ ∃ loc, fs.locate path = .ok loc ∧
      fs.entryAt? loc ≠ some .dir ∧ fs' = fs.put loc (.file content) := by
  rw [write, changeAt_eq_ok_iff]
  refine exists_congr fun loc ↦ and_congr_right fun _ ↦ ?_
  split
  case h_1 hdir => simp [hdir]
  case h_2 hno =>
    exact ⟨fun h ↦ ⟨hno, (Except.ok.inj h).symm⟩, fun h ↦ congrArg Except.ok h.2.symm⟩

/-- The bytes of the file at a location; where there is no file there are none. -/
def bytesAt (fs : FileSystem) (loc : Location) : ByteArray :=
  match fs.entryAt? loc with
  | some (.file content) => content
  | _ => ByteArray.empty

/-- Writing at the end of a file adds to the bytes where the path leads, unless a directory is
there. -/
theorem append_eq_ok_iff {fs fs' : FileSystem} {path : String} {content : ByteArray} :
    fs.append path content = (.ok (), fs') ↔ ∃ loc, fs.locate path = .ok loc ∧
      fs.entryAt? loc ≠ some .dir ∧ fs' = fs.put loc (.file (fs.bytesAt loc ++ content)) := by
  rw [append, changeAt_eq_ok_iff]
  refine exists_congr fun loc ↦ and_congr_right fun _ ↦ ?_
  rw [bytesAt]
  split
  case h_1 hdir => simp [hdir]
  case h_2 hfile => simp [hfile, eq_comm]
  case h_3 hnone => simp [hnone, eq_comm]

theorem ne_nil_of_entryAt? {fs : FileSystem} {loc : Location} (h : fs.entryAt? loc ≠ some .dir) :
    loc ≠ [] := by
  rintro rfl
  exact h rfl

/-- The bytes that are put at a location are there. -/
theorem bytesAt_put_self {fs : FileSystem} {loc : Location} (h : fs.entryAt? loc ≠ some .dir)
    (content : ByteArray) : (fs.put loc (.file content)).bytesAt loc = content := by
  rw [bytesAt, entryAt?_put_self (ne_nil_of_entryAt? h)]

/-- The file that the path leads to is the only place where two file systems may differ. -/
structure DiffersAt (path : String) (fs fs' : FileSystem) : Prop where
  workingDir : fs'.workingDir = fs.workingDir
  entries : ∀ loc, fs.locate path ≠ .ok loc → fs'.entryAt? loc = fs.entryAt? loc

theorem DiffersAt.refl (path : String) (fs : FileSystem) : DiffersAt path fs fs :=
  ⟨rfl, fun _ _ ↦ rfl⟩

/-- Whether writing a file succeeds or not, it changes nothing but the file. -/
theorem differsAt_write (fs : FileSystem) (path : String) (content : ByteArray) :
    DiffersAt path fs (fs.write path content).2 := by
  cases hwrite : fs.write path content with
  | mk o fs' =>
    cases o with
    | ok =>
      obtain ⟨loc, hloc, -, rfl⟩ := write_eq_ok_iff.1 hwrite
      refine ⟨rfl, fun other hother ↦ entryAt?_put_of_ne ?_ _⟩
      rintro rfl
      exact hother hloc
    | error err =>
      obtain rfl : fs' = fs := eq_of_changeAt_error hwrite
      exact .refl path fs'

/-- A text that is written is read. -/
theorem readText_write {fs fs' : FileSystem} {path text : String}
    (h : fs.write path text.toUTF8 = (.ok (), fs')) : fs'.readText path = .ok text := by
  obtain ⟨loc, hloc, hno, rfl⟩ := write_eq_ok_iff.1 h
  exact readText_eq_ok_iff.2 ⟨loc, text.toUTF8, locate_put hno _ hloc,
    entryAt?_put_self (ne_nil_of_entryAt? hno) _, fromUTF8?_toUTF8 text⟩

/-! ### Removing a file -/

theorem pathExists_of_readText {fs : FileSystem} {path text : String}
    (h : fs.readText path = .ok text) : fs.pathExists path = true := by
  obtain ⟨loc, content, hloc, hentry, -⟩ := readText_eq_ok_iff.1 h
  rw [pathExists, hloc]
  dsimp only
  rw [hentry]
  rfl

/-- Where components lead does not depend on what is there, but for whether they lead there. -/
private theorem walk_unique {fs fs' : FileSystem} {start found found' : Location}
    {cs : List Component} (h : fs.walk start cs = .ok found) (h' : fs'.walk start cs = .ok found') :
    found' = found := by
  induction cs generalizing start with
  | nil =>
    cases h
    cases h'
    rfl
  | cons c cs ih =>
    cases c with
    | root => exact ih h h'
    | here =>
      obtain ⟨-, -, h⟩ := bind_eq_ok_iff.1 h
      obtain ⟨-, -, h'⟩ := bind_eq_ok_iff.1 h'
      exact ih h h'
    | up =>
      obtain ⟨-, -, h⟩ := bind_eq_ok_iff.1 h
      obtain ⟨-, -, h'⟩ := bind_eq_ok_iff.1 h'
      exact ih h h'
    | name n =>
      obtain ⟨-, -, h⟩ := bind_eq_ok_iff.1 h
      obtain ⟨-, -, h'⟩ := bind_eq_ok_iff.1 h'
      split at h
      · cases h
      case isFalse hshort =>
        rw [if_neg hshort] at h'
        exact ih h h'

private theorem locate_unique {fs fs' : FileSystem} {path : String} {loc loc' : Location}
    (hdir : fs'.workingDir = fs.workingDir) (h : fs.locate path = .ok loc)
    (h' : fs'.locate path = .ok loc') : loc' = loc := by
  rw [locate] at h h'
  obtain ⟨-, -, h⟩ := bind_eq_ok_iff.1 h
  obtain ⟨-, -, h'⟩ := bind_eq_ok_iff.1 h'
  split at h
  · cases h
  case isFalse hfilled =>
    rw [if_neg hfilled, hdir] at h'
    exact walk_unique h h'

private theorem entryAt?_removeTree_self {fs : FileSystem} {loc : Location} (h : loc ≠ []) :
    (fs.removeTree loc).entryAt? loc = none := by
  rw [entryAt?, if_neg (by simpa using h), removeTree]
  refine List.lookup_eq_none_iff.2 fun e he ↦ ?_
  have hprefix := (List.mem_filter.1 he).2
  rw [bne_iff_ne]
  rintro rfl
  rw [List.isPrefixOf_iff_prefix.2 List.prefix_rfl] at hprefix
  cases hprefix

/-- A file that can be read can be removed, and is gone then. -/
theorem removeFile_of_readText {fs : FileSystem} {path text : String}
    (h : fs.readText path = .ok text) :
    ∃ fs', fs.removeFile path = (.ok (), fs') ∧ fs'.pathExists path = false := by
  obtain ⟨loc, content, hloc, hentry, -⟩ := readText_eq_ok_iff.1 h
  have hroot : loc ≠ [] := by
    rintro rfl
    cases hentry
  refine ⟨fs.removeTree loc, changeAt_eq_ok_iff.2 ⟨loc, hloc, ?_⟩, ?_⟩
  · rw [hentry]
  · rw [pathExists]
    cases hloc' : (fs.removeTree loc).locate path with
    | error err => rfl
    | ok loc' =>
      have hdir : (fs.removeTree loc).workingDir = fs.workingDir := rfl
      obtain rfl := locate_unique hdir hloc hloc'
      dsimp only
      rw [entryAt?_removeTree_self hroot]
      rfl

end WebRecipe.FileSystem
