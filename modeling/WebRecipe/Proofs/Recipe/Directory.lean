import WebRecipe.Action.Builtin
import WebRecipe.Proofs.Json.RoundTrip
import WebRecipe.Proofs.Recipe.Read

/-!
# The recipes of a directory

A file of a directory is usable when its name says that it is a recipe file, it can be read, its
text is a document and the document is a recipe. Which recipes a directory has is determined by its
usable files alone: of those with recipes of one name the first one counts, where files come in the
order of their names. So it does not matter what else is in the directory, and a file that is not
usable takes no name from another one.

## Main definitions

* `Recipe.UsableFile`: a file of a directory has a recipe.
* `Recipe.FirstFile`: it is the first one that has a recipe of this name.
* `Recipe.DiffersInFile`: a file of a directory was added, changed or removed.

## Main results

* `Recipe.load_first_files`: the recipes of a directory are those of the first files.
-/

namespace WebRecipe.Recipe

/-! ### The first of each name -/

section FirstOfEach

variable {α : Type}

/-- The first element of each recipe name. -/
private def firstBy (name : α → String) : List α → List α
  | [] => []
  | a :: rest => a :: (firstBy name rest).filter (fun b ↦ name b != name a)

private theorem firstOfEachName_map (recipe : α → Recipe) (l : List α) :
    firstOfEachName (l.map recipe) = (firstBy (fun a ↦ (recipe a).name) l).map recipe := by
  induction l with
  | nil => rfl
  | cons a l ih =>
    rw [List.map_cons, firstOfEachName, ih, firstBy, List.map_cons, List.filter_map]
    rfl

variable {name : α → String} {l : List α}

private theorem firstBy_sublist (name : α → String) (l : List α) : (firstBy name l).Sublist l := by
  induction l with
  | nil => exact .refl _
  | cons a l ih => exact (List.filter_sublist.trans ih).cons_cons a

private theorem firstBy_eq_nil_iff : firstBy name l = [] ↔ l = [] := by
  cases l <;> simp [firstBy]

/-- Names come once. -/
private theorem pairwise_firstBy (name : α → String) (l : List α) :
    (firstBy name l).Pairwise (fun a b ↦ name a ≠ name b) := by
  induction l with
  | nil => exact .nil
  | cons a l ih =>
    refine .cons (fun b hb ↦ ?_) (ih.sublist List.filter_sublist)
    exact Ne.symm (bne_iff_ne.1 (List.mem_filter.1 hb).2)

/-- In an ordered list an element is the first of its name when none before it has the name. -/
private theorem mem_firstBy (before : α → α → Prop) (hirrefl : ∀ a, ¬ before a a)
    (hasymm : ∀ a b, before a b → ¬ before b a)
    (h : l.Pairwise (fun a b ↦ before a b ∨ a = b)) {a : α} :
    a ∈ firstBy name l ↔ a ∈ l ∧ ∀ b ∈ l, before b a → name b ≠ name a := by
  induction l with
  | nil => exact ⟨nofun, nofun⟩
  | cons c l ih =>
    obtain ⟨hc, hl⟩ := List.pairwise_cons.1 h
    rw [firstBy, List.mem_cons, List.mem_filter, bne_iff_ne, ih hl, List.mem_cons,
      List.forall_mem_cons]
    constructor
    · rintro (rfl | ⟨⟨ha, hfirst⟩, hname⟩)
      · refine ⟨.inl rfl, fun hself ↦ absurd hself (hirrefl a), fun b hb hbefore ↦ ?_⟩
        rcases hc b hb with hlater | rfl
        · exact absurd hbefore (hasymm _ _ hlater)
        · exact absurd hbefore (hirrefl a)
      · exact ⟨.inr ha, fun _ ↦ hname.symm, hfirst⟩
    · rintro ⟨rfl | ha, hne, hfirst⟩
      · exact .inl rfl
      · rcases hc a ha with hbefore | rfl
        · exact .inr ⟨⟨ha, hfirst⟩, (hne hbefore).symm⟩
        · exact .inl rfl

end FirstOfEach

/-! ### Usable files -/

/-- A text is a document in the format that the name of its file tells. -/
inductive Writes (name text : String) (document : Json) : Prop
  | json (hname : Path.extension name = ".json") (htext : Json.parse text = .ok document)
  | yaml (hname : Path.extension name = ".yml" ∨ Path.extension name = ".yaml")
      (htext : Yaml.parse text = .ok document)

variable (isRegistered : String → Bool) (fs : FileSystem) (dir : String)

/-- A file of a directory has a recipe. -/
inductive UsableFile (name : String) (r : Recipe) : Prop
  | intro {entries : List (String × Bool)} {text : String} {document : Json}
      (hlist : fs.list dir = .ok entries) (hlisted : (name, false) ∈ entries)
      (hread : fs.readText (Path.join dir name) = .ok text) (hwrites : Writes name text document)
      (hrecipe : ofDocument isRegistered document = .ok r)

/-- A file of a directory has a recipe, and no file before it has a recipe of the same name. -/
structure FirstFile (name : String) (r : Recipe) : Prop where
  usable : UsableFile isRegistered fs dir name r
  first : ∀ name' r', UsableFile isRegistered fs dir name' r' → name' < name → r'.name ≠ r.name

/-- Two file systems are the same in a directory, but for one file that was added, changed or
removed there. -/
def DiffersInFile (name : String) (fs fs' : FileSystem) : Prop :=
  ∃ entries entries', fs.list dir = .ok entries ∧ fs'.list dir = .ok entries' ∧
    ∀ other ≠ name,
      ((other, false) ∈ entries' ↔ (other, false) ∈ entries) ∧
      ((other, false) ∈ entries →
        fs'.readText (Path.join dir other) = fs.readText (Path.join dir other))

variable {isRegistered fs dir}

private theorem ofFileName?_eq_some_iff {name : String} {format : Format} :
    Format.ofFileName? name = some format ↔
      (format = .json ∧ Path.extension name = ".json") ∨
        (format = .yaml ∧ (Path.extension name = ".yml" ∨ Path.extension name = ".yaml")) := by
  rw [Format.ofFileName?]
  split <;> cases format <;> simp_all

theorem writes_iff {name text : String} {document : Json} :
    Writes name text document ↔
      ∃ format, Format.ofFileName? name = some format ∧ format.read? text = some document := by
  constructor
  · rintro (⟨hname, htext⟩ | ⟨hname, htext⟩)
    · exact ⟨.json, ofFileName?_eq_some_iff.2 (.inl ⟨rfl, hname⟩), toOption_eq_some_iff.2 htext⟩
    · exact ⟨.yaml, ofFileName?_eq_some_iff.2 (.inr ⟨rfl, hname⟩), toOption_eq_some_iff.2 htext⟩
  · rintro ⟨format, hformat, hread⟩
    rcases ofFileName?_eq_some_iff.1 hformat with ⟨rfl, hname⟩ | ⟨rfl, hname⟩
    · exact .json hname (toOption_eq_some_iff.1 hread)
    · exact .yaml hname (toOption_eq_some_iff.1 hread)

theorem ofFile?_eq_some_iff {name : String} {r : Recipe} :
    ofFile? isRegistered fs dir name = some r ↔
      ∃ text document, fs.readText (Path.join dir name) = .ok text ∧ Writes name text document ∧
        ofDocument isRegistered document = .ok r := by
  constructor
  · intro h
    obtain ⟨format, hformat, h⟩ := Option.bind_eq_some_iff.1 h
    obtain ⟨text, htext, h⟩ := Option.bind_eq_some_iff.1 h
    obtain ⟨document, hdocument, hr⟩ := Option.bind_eq_some_iff.1 h
    exact ⟨text, document, toOption_eq_some_iff.1 htext, writes_iff.2 ⟨format, hformat, hdocument⟩,
      toOption_eq_some_iff.1 hr⟩
  · rintro ⟨text, document, htext, hwrites, hr⟩
    obtain ⟨format, hformat, hdocument⟩ := writes_iff.1 hwrites
    refine Option.bind_eq_some_iff.2 ⟨format, hformat, ?_⟩
    refine Option.bind_eq_some_iff.2 ⟨text, toOption_eq_some_iff.2 htext, ?_⟩
    exact Option.bind_eq_some_iff.2 ⟨document, hdocument, toOption_eq_some_iff.2 hr⟩

/-! ### Files in order -/

section Listed

variable {entries : List (String × Bool)} (h : fs.list dir = .ok entries)
include h

theorem UsableFile.iff_of_list {name : String} {r : Recipe} :
    UsableFile isRegistered fs dir name r ↔
      (name, false) ∈ entries ∧ ofFile? isRegistered fs dir name = some r := by
  rw [ofFile?_eq_some_iff]
  constructor
  · rintro ⟨hlist, hlisted, hread, hwrites, hr⟩
    obtain rfl := Except.ok.inj (h.symm.trans hlist)
    exact ⟨hlisted, _, _, hread, hwrites, hr⟩
  · rintro ⟨hlisted, text, document, hread, hwrites, hr⟩
    exact ⟨h, hlisted, hread, hwrites, hr⟩

/-- The names of the recipe files come in order. -/
private theorem exists_fileNames :
    ∃ names, fileNames fs dir = .ok names ∧
      names.Pairwise (fun a b ↦ a < b ∨ a = b) ∧
      ∀ name, name ∈ names ↔ (name, false) ∈ entries ∧ (Format.ofFileName? name).isSome := by
  rw [fileNames, h]
  refine ⟨_, rfl, ?_, fun name ↦ ?_⟩
  · refine (List.pairwise_mergeSort (fun a b c hab hbc ↦ ?_) (fun a b ↦ ?_) _).imp fun hle ↦ ?_
    · simp only [decide_eq_true_eq] at hab hbc ⊢
      exact String.le_trans hab hbc
    · simpa using String.le_total a b
    · rename_i a b
      by_cases hge : b ≤ a
      · exact .inr (String.le_antisymm (of_decide_eq_true hle) hge)
      · exact .inl (String.not_le.1 hge)
  · rw [List.mem_mergeSort, List.mem_filterMap]
    constructor
    · rintro ⟨⟨n, isDir⟩, he, hif⟩
      split at hif
      case isTrue hcond =>
        cases hif
        simp only [Bool.and_eq_true, Bool.not_eq_true'] at hcond
        exact ⟨hcond.1 ▸ he, hcond.2⟩
      case isFalse => cases hif
    · rintro ⟨he, hformat⟩
      exact ⟨(name, false), he, by simp [hformat]⟩

/-- The usable files in order. -/
private theorem exists_usableFiles (isRegistered : String → Bool) :
    ∃ files : List (String × Recipe),
      (load isRegistered fs dir =
        if (firstOfEachName (files.map Prod.snd)).isEmpty then .error .noRecipes
        else .ok (firstOfEachName (files.map Prod.snd))) ∧
      files.Pairwise (fun a b ↦ a.1 < b.1 ∨ a = b) ∧
      ∀ name r, (name, r) ∈ files ↔ UsableFile isRegistered fs dir name r := by
  obtain ⟨names, hnames, hsorted, hmem⟩ := exists_fileNames h
  let file (name : String) := (ofFile? isRegistered fs dir name).map fun r ↦ (name, r)
  have hfile {name : String} {f : String × Recipe} :
      file name = some f ↔ f.1 = name ∧ ofFile? isRegistered fs dir name = some f.2 := by
    rw [Option.map_eq_some_iff]
    constructor
    · rintro ⟨r, hr, rfl⟩
      exact ⟨rfl, hr⟩
    · rintro ⟨rfl, hr⟩
      exact ⟨f.2, hr, rfl⟩
  refine ⟨names.filterMap file, ?_, ?_, fun name r ↦ ?_⟩
  · have hrecipes : (names.filterMap file).map Prod.snd =
        names.filterMap (ofFile? isRegistered fs dir) := by
      rw [List.map_filterMap]
      congr 1
      funext name
      rw [Option.map_map]
      exact Option.map_id'
    rw [hrecipes, load, hnames]
    rfl
  · rw [List.pairwise_filterMap]
    refine hsorted.imp fun hle f hf f' hf' ↦ ?_
    obtain ⟨rfl, hr⟩ := hfile.1 hf
    obtain ⟨rfl, hr'⟩ := hfile.1 hf'
    refine hle.imp_right fun heq ↦ Prod.ext heq ?_
    rw [heq] at hr
    exact Option.some.inj (hr.symm.trans hr')
  · rw [UsableFile.iff_of_list h, List.mem_filterMap]
    constructor
    · rintro ⟨n, hn, hf⟩
      obtain ⟨rfl, hr⟩ := hfile.1 hf
      exact ⟨((hmem _).1 hn).1, hr⟩
    · rintro ⟨hlisted, hr⟩
      obtain ⟨format, hformat, -⟩ := Option.bind_eq_some_iff.1 hr
      exact ⟨name, (hmem name).2 ⟨hlisted, Option.isSome_iff_exists.2 ⟨format, hformat⟩⟩,
        hfile.2 ⟨rfl, hr⟩⟩

/-- The first files of a directory in order, and what is loaded of them. -/
theorem exists_firstFiles (isRegistered : String → Bool) :
    ∃ files : List (String × Recipe),
      files.Pairwise (fun a b ↦ a.1 < b.1 ∧ a.2.name ≠ b.2.name) ∧
      (∀ name r, (name, r) ∈ files ↔ FirstFile isRegistered fs dir name r) ∧
      (files = [] ↔ ∀ name r, ¬ UsableFile isRegistered fs dir name r) ∧
      load isRegistered fs dir =
        if files.isEmpty then .error .noRecipes else .ok (files.map Prod.snd) := by
  obtain ⟨files, hload, hsorted, hmem⟩ := exists_usableFiles h isRegistered
  let recipeName (f : String × Recipe) := f.2.name
  refine ⟨firstBy recipeName files, ?_, fun name r ↦ ?_, ?_, ?_⟩
  · have hsorted' := hsorted.sublist (firstBy_sublist recipeName files)
    refine (hsorted'.and (pairwise_firstBy recipeName files)).imp fun ⟨hle, hne⟩ ↦ ⟨?_, hne⟩
    exact hle.resolve_right fun heq ↦ hne (congrArg recipeName heq)
  · rw [mem_firstBy (fun a b ↦ a.1 < b.1) (fun a ↦ String.lt_irrefl _)
      (fun a b ↦ String.lt_asymm) hsorted, hmem]
    constructor
    · rintro ⟨husable, hfirst⟩
      exact ⟨husable, fun name' r' h' ↦ hfirst (name', r') ((hmem name' r').2 h')⟩
    · rintro ⟨husable, hfirst⟩
      exact ⟨husable, fun f hf ↦ hfirst f.1 f.2 ((hmem f.1 f.2).1 hf)⟩
  · rw [firstBy_eq_nil_iff, List.eq_nil_iff_forall_not_mem]
    exact ⟨fun hnone name r ↦ mt (hmem name r).2 (hnone (name, r)),
      fun hnone f ↦ mt (hmem f.1 f.2).1 (hnone f.1 f.2)⟩
  · rw [hload, firstOfEachName_map, List.isEmpty_map]

end Listed

/-! ### A file that is not usable -/

/-- The usable files are the same when a file that is not usable is added, changed or removed and
the new one is not usable either. -/
theorem DiffersInFile.usableFile_iff {name : String} {fs' : FileSystem}
    (h : DiffersInFile dir name fs fs') (hbefore : ∀ r, ¬ UsableFile isRegistered fs dir name r)
    (hafter : ∀ r, ¬ UsableFile isRegistered fs' dir name r) (other : String) (r : Recipe) :
    UsableFile isRegistered fs' dir other r ↔ UsableFile isRegistered fs dir other r := by
  by_cases hother : other = name
  · subst hother
    exact iff_of_false (hafter r) (hbefore r)
  obtain ⟨entries, entries', hlist, hlist', hsame⟩ := h
  obtain ⟨hlisted, hread⟩ := hsame other hother
  rw [UsableFile.iff_of_list hlist, UsableFile.iff_of_list hlist', hlisted]
  refine and_congr_right fun he ↦ ?_
  rw [ofFile?, ofFile?, hread he]

/-- What is loaded depends on the usable files alone. -/
theorem load_congr {fs' : FileSystem} {entries entries' : List (String × Bool)}
    (hlist : fs.list dir = .ok entries) (hlist' : fs'.list dir = .ok entries')
    (husable : ∀ name r,
      UsableFile isRegistered fs' dir name r ↔ UsableFile isRegistered fs dir name r) :
    load isRegistered fs' dir = load isRegistered fs dir := by
  obtain ⟨files, hsorted, hmem, -, hload⟩ := exists_firstFiles hlist isRegistered
  obtain ⟨files', hsorted', hmem', -, hload'⟩ := exists_firstFiles hlist' isRegistered
  have hfirst (name : String) (r : Recipe) :
      FirstFile isRegistered fs' dir name r ↔ FirstFile isRegistered fs dir name r :=
    ⟨fun ⟨h, hno⟩ ↦ ⟨(husable name r).1 h, fun n q hq ↦ hno n q ((husable n q).2 hq)⟩,
      fun ⟨h, hno⟩ ↦ ⟨(husable name r).2 h, fun n q hq ↦ hno n q ((husable n q).1 hq)⟩⟩
  have hnodup {l : List (String × Recipe)}
      (h : l.Pairwise (fun a b ↦ a.1 < b.1 ∧ a.2.name ≠ b.2.name)) : l.Nodup :=
    h.imp fun hne heq ↦ hne.2 (congrArg (fun f ↦ f.2.name) heq)
  have hsame (f : String × Recipe) : f ∈ files' ↔ f ∈ files :=
    (hmem' f.1 f.2).trans ((hfirst f.1 f.2).trans (hmem f.1 f.2).symm)
  have hperm : files'.Perm files :=
    (List.perm_ext_iff_of_nodup (hnodup hsorted') (hnodup hsorted)).2 hsame
  have hfiles : files' = files := hperm.eq_of_pairwise
    (fun a b _ _ hab hba ↦ absurd hba.1 (String.lt_asymm hab.1)) hsorted' hsorted
  rw [hload, hload', hfiles]

/-! ### The choice of one recipe -/

private theorem filter_name_eq_singleton {recipes : List Recipe} {r : Recipe}
    (h : recipes.Pairwise (fun a b ↦ a.name ≠ b.name)) (hr : r ∈ recipes) :
    recipes.filter (fun a ↦ a.name == r.name) = [r] := by
  induction recipes with
  | nil => cases hr
  | cons first rest ih =>
    obtain ⟨hfirst, hrest⟩ := List.pairwise_cons.1 h
    rcases List.mem_cons.1 hr with rfl | hr
    · have hno : rest.filter (fun a ↦ a.name == r.name) = [] :=
        List.filter_eq_nil_iff.2 fun a ha ↦ by simpa using (hfirst a ha).symm
      rw [List.filter_cons, if_pos (beq_self_eq_true r.name), hno]
    · rw [List.filter_cons_of_neg (by simpa using hfirst r hr), ih hrest hr]

/-- The name of a recipe chooses this recipe, and any other name chooses nothing. -/
theorem select_of_distinct {recipes : List Recipe}
    (h : recipes.Pairwise (fun a b ↦ a.name ≠ b.name)) (name : String) :
    (∃ r ∈ recipes, r.name = name ∧ select recipes (some name) = .ok [r]) ∨
      (∀ r ∈ recipes, r.name ≠ name) ∧
        select recipes (some name) = .error (.unknownRecipe name) := by
  by_cases hname : ∃ r ∈ recipes, r.name = name
  · obtain ⟨r, hr, rfl⟩ := hname
    refine .inl ⟨r, hr, rfl, ?_⟩
    rw [select, filter_name_eq_singleton h hr]
    rfl
  · have hno : ∀ r ∈ recipes, r.name ≠ name := fun r hr heq ↦ hname ⟨r, hr, heq⟩
    refine .inr ⟨hno, ?_⟩
    rw [select, List.filter_eq_nil_iff.2 fun r hr ↦ by simpa using hno r hr]
    rfl

/-! ### Directories -/

/-- **The recipes of a directory.** They are those of the first usable file of each recipe name, in
the order of the file names, and their names are distinct. It is an error that there are none
exactly when no file is usable. A file that is not usable can be added, changed to another one that
is not, or removed. The name of one of the recipes chooses this recipe alone, and any other name is
unknown. -/
theorem load_first_files (isRegistered : String → Bool) (fs : FileSystem) (dir : String)
    {entries : List (String × Bool)} (hlist : fs.list dir = .ok entries) :
    (load isRegistered fs dir = .error .noRecipes ↔
      ∀ name r, ¬ UsableFile isRegistered fs dir name r) ∧
    ((∃ name r, UsableFile isRegistered fs dir name r) →
      ∃ files : List (String × Recipe), load isRegistered fs dir = .ok (files.map Prod.snd) ∧
        files.Pairwise (fun a b ↦ a.1 < b.1) ∧
        ∀ name r, (name, r) ∈ files ↔ FirstFile isRegistered fs dir name r) ∧
    (∀ recipes, load isRegistered fs dir = .ok recipes →
      recipes.Pairwise (fun a b ↦ a.name ≠ b.name) ∧
      ∀ name,
        (∃ r ∈ recipes, r.name = name ∧ select recipes (some name) = .ok [r]) ∨
        (∀ r ∈ recipes, r.name ≠ name) ∧
          select recipes (some name) = .error (.unknownRecipe name)) ∧
    ∀ name fs', DiffersInFile dir name fs fs' →
      (∀ r, ¬ UsableFile isRegistered fs dir name r) →
      (∀ r, ¬ UsableFile isRegistered fs' dir name r) →
      load isRegistered fs' dir = load isRegistered fs dir := by
  obtain ⟨files, hsorted, hmem, hempty, hload⟩ := exists_firstFiles hlist isRegistered
  refine ⟨?_, fun ⟨name, r, husable⟩ ↦ ⟨files, ?_, hsorted.imp And.left, hmem⟩,
    fun recipes hrecipes ↦ ?_, fun name fs' h hbefore hafter ↦ ?_⟩
  · rw [← hempty, hload]
    cases files <;> simp
  · have hne : files ≠ [] := fun hnil ↦ hempty.1 hnil name r husable
    rw [hload, if_neg (by simpa using hne)]
  · have hdistinct : recipes.Pairwise (fun a b ↦ a.name ≠ b.name) := by
      rw [hload] at hrecipes
      split at hrecipes
      · cases hrecipes
      · cases hrecipes
        exact List.pairwise_map.2 (hsorted.imp And.right)
    exact ⟨hdistinct, select_of_distinct hdistinct⟩
  · have husable := h.usableFile_iff hbefore hafter
    obtain ⟨entries, entries', hlist, hlist', -⟩ := h
    exact load_congr hlist hlist' husable

/-- A recipe of one action. -/
def demoDocument : Json :=
  .obj [("name", .str "demo"), ("actions", .arr [.obj [("name", .str "uuid")]])]

theorem kept_demoDocument : Json.Kept 128 demoDocument := by
  have haction : Json.Kept 126 (.obj [("name", .str "uuid")]) :=
    .obj (by decide) (List.forall_mem_singleton.2 (.str _))
  exact .obj (by decide) (List.forall_mem_cons.2 ⟨.str _, List.forall_mem_singleton.2
    (.arr (List.forall_mem_singleton.2 haction))⟩)

/-- A directory with this recipe in its last file, after further documents. -/
def demoDirectory (more : List (String × Json)) : FileSystem where
  entries := (["d".toList], .dir) :: (more ++ [("demo.json", demoDocument)]).map fun f ↦
    (["d".toList, f.1.toList], .file f.2.compact.toUTF8)

/-- A draft without actions that comes before a recipe of the same name changes nothing. -/
theorem load_first_files_draft :
    let isRegistered := Action.builtinRegistry.contains
    let fs := demoDirectory []
    let fs' := demoDirectory [("demo-draft.json", .obj [("name", .str "demo")])]
    fs.list "/d" = .ok [("demo.json", false)] ∧ DiffersInFile "/d" "demo-draft.json" fs fs' ∧
      load isRegistered fs' "/d" = load isRegistered fs "/d" ∧
      load isRegistered fs "/d" ≠ .error .noRecipes := by
  intro isRegistered fs fs'
  have hlist : fs.list "/d" = .ok [("demo.json", false)] :=
    toOption_eq_some_iff.1 (by decide +kernel)
  have hlist' : fs'.list "/d" = .ok [("demo-draft.json", false), ("demo.json", false)] :=
    toOption_eq_some_iff.1 (by decide +kernel)
  have hread : fs.readText (Path.join "/d" "demo.json") = .ok demoDocument.compact :=
    toOption_eq_some_iff.1 (by decide +kernel)
  have hread' : fs'.readText (Path.join "/d" "demo.json") = .ok demoDocument.compact :=
    toOption_eq_some_iff.1 (by decide +kernel)
  have hdiffers : DiffersInFile "/d" "demo-draft.json" fs fs' := by
    refine ⟨_, _, hlist, hlist', fun other hother ↦ ⟨by simp [hother], fun hlisted ↦ ?_⟩⟩
    obtain rfl : other = "demo.json" := by simpa using hlisted
    exact hread'.trans hread.symm
  have hbefore (r : Recipe) : ¬ UsableFile isRegistered fs "/d" "demo-draft.json" r := fun h ↦ by
    simpa using ((UsableFile.iff_of_list hlist).1 h).1
  have hafter (r : Recipe) : ¬ UsableFile isRegistered fs' "/d" "demo-draft.json" r := fun h ↦ by
    have hnone : ofFile? isRegistered fs' "/d" "demo-draft.json" = none :=
      Option.isNone_iff_eq_none.1 (by decide +kernel)
    simpa [hnone] using ((UsableFile.iff_of_list hlist').1 h).2
  have hrecipe : (ofDocument isRegistered demoDocument).toOption.isSome = true := by decide +kernel
  obtain ⟨r, hr⟩ := Option.isSome_iff_exists.1 hrecipe
  have husable : UsableFile isRegistered fs "/d" "demo.json" r :=
    ⟨hlist, List.mem_singleton_self _, hread,
      .json (by decide +kernel) (Json.parse_compact kept_demoDocument), toOption_eq_some_iff.1 hr⟩
  obtain ⟨hnone, -, -, hstays⟩ := load_first_files isRegistered fs "/d" hlist
  exact ⟨hlist, hdiffers, hstays _ fs' hdiffers hbefore hafter,
    fun herror ↦ hnone.1 herror "demo.json" r husable⟩

end WebRecipe.Recipe
