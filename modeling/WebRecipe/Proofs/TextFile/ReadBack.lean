import WebRecipe.Proofs.Number.Digits
import WebRecipe.Proofs.Placeholder
import WebRecipe.Proofs.TextFile.Basic

/-!
# Saved texts

What an action saves, another one reads that looks for the file of the same name from the same
directories, whatever was in the file before. A text is handed on as it is. A list of texts is saved
with line breaks between them and is handed on as the same list when the reader asks for lines, as
long as no text has a line break itself.

A text, a truth value or a number has a text in the file to which it is saved, and one where it
takes the place of a placeholder. Both are the same, but for integers: a placeholder gives way to the
digits of an integer that is not too large, while a file gets the text of the double next to the
integer. These are the same digits just when the integer has at most 53 significant bits.

## Main results

* `Engine.saved_text_reads_back`: what is saved is read, and nothing else changes.
* `Placeholder.text_eq_scalarText`, `Json.text_int_eq_iff`: where the two texts of a value agree.
* `Engine.scalar_texts`: what is saved and what takes the place of a placeholder.
* `Engine.scalar_saved_otherwise`: an integer of 54 bits is saved as another one.
-/

namespace WebRecipe

variable {σ : Type}

/-! ### The text of a list -/

namespace Action

/-- Texts are saved with line breaks between them. -/
theorem fileText_texts (ts : List String) :
    fileText (.arr (ts.map .str)) = "\n".intercalate ts := by
  rw [fileText, List.map_map]
  exact congrArg _ (List.map_id ts)

/-- Texts without line breaks are found again between the line breaks. -/
theorem handedOn_fileText {ts : List String} (hne : ts ≠ []) (hlines : ∀ t ∈ ts, '\n' ∉ t.toList) :
    handedOn true (fileText (.arr (ts.map .str))) = .arr (ts.map .str) := by
  have hpieces : Text.splitChar '\n' ("\n".intercalate ts).toList = ts.map String.toList := by
    rw [String.toList_intercalate]
    refine Text.splitChar_intercalate (by simpa using hne) ?_
    simpa using hlines
  rw [fileText_texts, handedOn, if_pos rfl, hpieces, List.map_map]
  exact congrArg _ (List.map_congr_left fun t _ ↦ congrArg _ String.ofList_toList)

end Action

namespace Engine

variable {s : Surroundings σ} {e : Engine} {name key : String} {saving reading : ActionCall}
  {w w₁ w' u u₁ : World σ} {p q : Prepared}

/-- What saving a value comes to. -/
theorem saving_writesText (hsaving : e.TextCall s "saveToText" name saving w w₁ p)
    (hkey : p.params.text? "key" = some key) (depth : Nat) :
    Action.WritesText (fun fs path v ↦ fs.write path (Action.fileText v).toUTF8) key name w₁
      ((e.performWithin (depth + 1) saving).run.run s w) := by
  rw [hsaving.run_eq rfl]
  exact Action.saveToText_writesText hkey hsaving.file

/-- What reading a file comes to. -/
theorem reading_readsText (hreading : e.TextCall s "readFromText" name reading u u₁ q)
    (depth : Nat) :
    Action.ReadsText (q.params.bool "breakLine" false) name u₁
      ((e.performWithin (depth + 1) reading).run.run s u) := by
  rw [hreading.run_eq rfl]
  exact Action.readFromText_readsText hreading.file

/-- A value that is saved is the text of the file. -/
theorem exists_readText_of_saved (hsaving : e.TextCall s "saveToText" name saving w w₁ p)
    (hkey : p.params.text? "key" = some key) {depth : Nat}
    (hsaved : (e.performWithin (depth + 1) saving).run.run s w = (some (.ok ()), w')) {v : Json}
    (hvalue : w₁.store.get? key = some v) (htrue : Json.isTruthy (some v) = true) :
    ∃ path, w'.store.textPath? name = some path ∧
      w'.files.readText path = .ok (Action.fileText v) := by
  have hwrites := saving_writesText hsaving hkey depth
  have hstore := hwrites.store_eq
  rw [hsaved] at hwrites hstore
  obtain ⟨path, hpath, hwrite⟩ := hwrites.exists_change hvalue htrue
  exact ⟨path, hstore ▸ hpath, FileSystem.readText_write hwrite⟩

/-- Saving changes no file but that of the name, and no value but the parameters. -/
theorem saving_unchanged (hsaving : e.TextCall s "saveToText" name saving w w₁ p)
    (hkey : p.params.text? "key" = some key) (depth : Nat) :
    let done := (e.performWithin (depth + 1) saving).run.run s w
    (∀ k, k ≠ Key.params → w₁.store.get? k = w.store.get? k ∧
      done.2.store.get? k = w.store.get? k) ∧
    (done.2.files = w.files ∨ ∃ path, w.store.textPath? name = some path ∧
      FileSystem.DiffersAt path w.files done.2.files) := by
  intro done
  have hwrites := saving_writesText hsaving hkey depth
  have hfiles := hwrites.differsAt fun fs path v ↦ fs.differsAt_write path _
  rw [hsaving.announced.files, hsaving.textPath?_eq] at hfiles
  refine ⟨fun k hk ↦ ?_, hfiles⟩
  have hvalue := hsaving.announced.values k hk
  exact ⟨hvalue, (congrArg (·.get? k) hwrites.store_eq).trans hvalue⟩

/-- **Saved text reads back.** The action that saves takes the value as it is after the
announcement, which is the value from before unless the parameters themselves are saved. If it
succeeds, another action that looks for the file of the same name from the same directories, in a
world in which nobody has touched the file, succeeds and hands on what was saved: a text that is not
empty as it is, and a list of texts without line breaks, which is not empty itself, as the same list
if the action is to break lines. Whatever comes of the two actions, saving changes no other file
than that of the name and no value but the parameters, and reading changes no file at all and no
value but the parameters and the one that is handed on. -/
theorem saved_text_reads_back (s : Surroundings σ) (e : Engine) (name key : String)
    (saving reading : ActionCall) (w w₁ w' u u₁ : World σ) (p q : Prepared)
    (o : Option (Except ActionError Unit)) (depth depth' : Nat)
    (hsaving : e.TextCall s "saveToText" name saving w w₁ p)
    (hkey : p.params.text? "key" = some key)
    (hsaved : (e.performWithin (depth + 1) saving).run.run s w = (o, w'))
    (hreading : e.TextCall s "readFromText" name reading u u₁ q)
    (hbase : u.store.baseDir = w'.store.baseDir)
    (hcurrent : u.store.currentDir = w'.store.currentDir)
    (huntouched : ∀ path, w'.store.textPath? name = some path →
      u.files.readText path = w'.files.readText path) :
    let breakLine := q.params.bool "breakLine" false
    let done := (e.performWithin (depth' + 1) reading).run.run s u
    (o = some (.ok ()) →
      (∀ t : String, w₁.store.get? key = some (.str t) → t ≠ "" → breakLine = false →
        done.1 = some (.ok ()) ∧ done.2.store.input = some (.str t)) ∧
      ∀ ts : List String, w₁.store.get? key = some (.arr (ts.map .str)) → ts ≠ [] →
        (∀ t ∈ ts, '\n' ∉ t.toList) → breakLine = true →
        done.1 = some (.ok ()) ∧ done.2.store.input = some (.arr (ts.map .str))) ∧
    (∀ k, k ≠ Key.params →
      w₁.store.get? k = w.store.get? k ∧ w'.store.get? k = w.store.get? k) ∧
    (w'.files = w.files ∨ ∃ path, w.store.textPath? name = some path ∧
      FileSystem.DiffersAt path w.files w'.files) ∧
    done.2.files = u.files ∧
      ∀ k, k ≠ Key.input → k ≠ Key.params → done.2.store.get? k = u.store.get? k := by
  intro breakLine done
  have hreads : Action.ReadsText breakLine name u₁ done := reading_readsText hreading depth'
  have hunchanged := saving_unchanged hsaving hkey depth
  rw [hsaved] at hunchanged
  have hback {v : Json} (ho : o = some (.ok ())) (hvalue : w₁.store.get? key = some v)
      (htrue : Json.isTruthy (some v) = true) :
      done.1 = some (.ok ()) ∧
        done.2.store.input = some (Action.handedOn breakLine (Action.fileText v)) := by
    subst ho
    obtain ⟨path, hpath, htext⟩ := exists_readText_of_saved hsaving hkey hsaved hvalue htrue
    obtain ⟨u', hdone, hinput⟩ := hreads.exists_input
      ((hreading.textPath?_eq name).trans ((Store.textPath?_congr hbase hcurrent name).trans hpath))
      (hreading.announced.files ▸ (huntouched path hpath).trans htext)
    rw [hdone]
    exact ⟨rfl, hinput⟩
  refine ⟨fun ho ↦ ⟨fun t hvalue ht hbreak ↦ ?_, fun ts hvalue hts hlines hbreak ↦ ?_⟩,
    hunchanged.1, hunchanged.2, ?_, fun k hinput hparams ↦ ?_⟩
  · have hfilled : (!t.isEmpty) = true := by simpa using ht
    have hread := hback ho hvalue hfilled
    rwa [hbreak] at hread
  · have hread := hback ho hvalue rfl
    rwa [hbreak, Action.handedOn_fileText hts hlines] at hread
  · exact hreads.unchanged.1.trans hreading.announced.files
  · exact (hreads.unchanged.2 k hinput).trans (hreading.announced.values k hparams)

/-- A list with an empty text in it is saved over an older text and read back line by line. -/
theorem saved_text_reads_back_lines :
    let e : Engine := { registry := Action.builtinRegistry }
    let ts := ["a", "", "b"]
    let saving : ActionCall :=
      ⟨"saveToText", some [("key", .str "K"), ("filename", .str "f")], true⟩
    let reading : ActionCall :=
      ⟨"readFromText", some [("filename", .str "f"), ("breakLine", .bool true)], true⟩
    let saved := (e.performWithin 1 saving).run.run Rehearsal.surroundings
      (directoryWorld "older\ntext\n" [("K", .arr (ts.map .str))])
    let done := (e.performWithin 1 reading).run.run Rehearsal.surroundings saved.2
    saved.1 = some (.ok ()) ∧ done.1 = some (.ok ()) ∧
      done.2.store.input = some (.arr (ts.map .str)) := by
  intro e ts saving reading saved done
  let w := directoryWorld "older\ntext\n" [("K", .arr (ts.map .str))]
  have hsucceeds : saved.1 = some (.ok ()) := eq_some_ok_of_isOk (by decide +kernel)
  have hsavable : Schema.validate "saveToText" saving.paramsOrEmpty =
      .ok saving.paramsOrEmpty := rfl
  have hreadable : Schema.validate "readFromText" reading.paramsOrEmpty =
      .ok reading.paramsOrEmpty := rfl
  have hsaving : e.TextCall Rehearsal.surroundings "saveToText" "f" saving w _ _ :=
    .of_plain rfl rfl (by decide +kernel) hsavable rfl w
  have hreading : e.TextCall Rehearsal.surroundings "readFromText" "f" reading saved.2 _ _ :=
    .of_plain rfl rfl (by decide +kernel) hreadable rfl saved.2
  obtain ⟨hback, -⟩ := saved_text_reads_back Rehearsal.surroundings e "f" "K" saving reading w _
    saved.2 saved.2 _ _ _ saved.1 0 0 hsaving rfl rfl hreading rfl rfl fun _ _ ↦ rfl
  exact ⟨hsucceeds, (hback hsucceeds).2 ts rfl (List.cons_ne_nil _ _) (by decide) rfl⟩

end Engine
end WebRecipe

namespace WebRecipe

variable {σ : Type}

/-! ### Two texts -/

namespace Placeholder

/-- A single value that is no integer has one text. -/
theorem text_eq_scalarText {v : Json} (h : isComposite v = false) (hint : ∀ n, v ≠ .int n) :
    v.text = scalarText v := by
  cases v with
  | null => cases h
  | arr => cases h
  | obj => cases h
  | int n => exact absurd rfl (hint n)
  | bool b => cases b <;> rfl
  | double x => rfl
  | str t => rfl

/-- An integer that is too large for 64 bits with a sign has one text. -/
theorem text_int_eq_scalarText {n : Int} (h : Json.maxInt64 < n) :
    Json.text (.int n) = scalarText (.int n) := by
  rw [scalarText, if_neg (by omega)]
  rfl

theorem scalarText_int {n : Int} (h : n ≤ Json.maxInt64) : scalarText (.int n) = toString n :=
  if_pos h

/-- In a template without placeholders for lists and objects, a placeholder of a name gives way to
the text of the value under it. -/
theorem resolveText_placed {lookup : String → Option Json} {key template : String} {v : Json}
    {holes : List (List Char × List Char)} {tail : List Char} (hvalue : lookup key = some v)
    (hscan : Scan template.toList holes tail)
    (hplain : ∀ hole ∈ holes, ∀ u, ¬ BindsComposite lookup hole.2 u) :
    resolveText lookup template = .str (String.ofList
        (holes.flatMap (fun hole ↦ hole.1 ++ placed lookup hole.2) ++ tail)) ∧
      ∀ hole ∈ holes, nameOf hole.2 = key → placed lookup hole.2 = (scalarText v).toList := by
  refine ⟨resolveText_eq_iff.2 (.text hscan hplain), fun hole _ hname ↦ ?_⟩
  rw [placed, hname, hvalue]
  rfl

end Placeholder

/-- An integer of 64 bits is saved with its own digits just when it has at most 53 significant bits.
-/
theorem Json.text_int_eq_iff {n : Int} (hlow : Json.minInt64 ≤ n) (hhigh : n < 2 ^ 64) :
    Json.text (.int n) = toString n ↔ Double.Exact n := by
  have hlow' : -(2 : Int) ^ 63 ≤ n := hlow
  exact Double.numberText_ofInt_eq_iff (by omega)

namespace Engine

/-- **A single value has two texts.** A value under a key is a text, a truth value or a number, and
an integer is one of 64 bits with or without a sign. One text is in the file after the value was
saved, if it counts as true; the other takes the place of every placeholder of the key, in every
template in which no placeholder stands for a list, an object or `null`, and whatever else is in the
store. The two texts are the same for every value that is no integer. A placeholder gives way to the
digits of the integer up to the largest integer of 64 bits with a sign, and from there on to what is
saved; and what is saved are the digits of the integer just when it has at most 53 significant bits.
-/
theorem scalar_texts (s : Surroundings σ) (e : Engine) (name key : String) (saving : ActionCall)
    (w w₁ w' : World σ) (p : Prepared) (depth : Nat) (v : Json)
    (hsaving : e.TextCall s "saveToText" name saving w w₁ p)
    (hkey : p.params.text? "key" = some key)
    (hsaved : (e.performWithin (depth + 1) saving).run.run s w = (some (.ok ()), w'))
    (hvalue : w₁.store.get? key = some v) (hscalar : Placeholder.isComposite v = false)
    (hrange : ∀ n, v = .int n → Json.minInt64 ≤ n ∧ n < 2 ^ 64) :
    ∃ written placed : String,
      (Json.isTruthy (some v) = true → ∃ path, w'.store.textPath? name = some path ∧
        w'.files.readText path = .ok written) ∧
      (∀ (st : Store) (template : String) (holes : List (List Char × List Char)) (tail : List Char),
        st.get? key = some v → Placeholder.Scan template.toList holes tail →
        (∀ hole ∈ holes, ∀ u, ¬ Placeholder.BindsComposite st.get? hole.2 u) →
        Placeholder.resolveText st.get? template = .str (String.ofList
            (holes.flatMap (fun hole ↦ hole.1 ++ Placeholder.placed st.get? hole.2) ++ tail)) ∧
          ∀ hole ∈ holes, Placeholder.nameOf hole.2 = key →
            Placeholder.placed st.get? hole.2 = placed.toList) ∧
      ((∀ n, v ≠ .int n) → written = placed) ∧
      ∀ n, v = .int n → (n ≤ Json.maxInt64 → placed = toString n) ∧
        (Json.maxInt64 < n → placed = written) ∧ (written = toString n ↔ Double.Exact n) := by
  refine ⟨v.text, Placeholder.scalarText v, fun htrue ↦ ?_,
    fun st template holes tail ↦ Placeholder.resolveText_placed,
    Placeholder.text_eq_scalarText hscalar, ?_⟩
  · have hfile : Action.fileText v = v.text := by
      cases v <;> first | rfl | cases hscalar
    rw [← hfile]
    exact exists_readText_of_saved hsaving hkey hsaved hvalue htrue
  · rintro n rfl
    obtain ⟨hlow, hhigh⟩ := hrange n rfl
    exact ⟨Placeholder.scalarText_int, fun h ↦ (Placeholder.text_int_eq_scalarText h).symm,
      Json.text_int_eq_iff hlow hhigh⟩

/-! ### Large integers -/

/-- An action that saves a value to a text file. -/
def savingCall : ActionCall :=
  ⟨"saveToText", some [("key", .str "K"), ("filename", .str "f")], true⟩

/-- What saving an integer comes to. -/
def savingInteger (n : Int) : Option (Except ActionError Unit) × World Rehearsal :=
  (performWithin { registry := Action.builtinRegistry } 1 savingCall).run.run Rehearsal.surroundings
    (directoryWorld "" [("K", .int n)])

/-- An integer of 64 bits whose last eleven are zero is saved with its own digits. -/
theorem scalar_texts_exact :
    (savingInteger 18446744073709549568).1 = some (.ok ()) ∧
      ∃ path, (savingInteger 18446744073709549568).2.store.textPath? "f" = some path ∧
        (savingInteger 18446744073709549568).2.files.readText path =
          .ok "18446744073709549568" := by
  have hsucceeds : (savingInteger 18446744073709549568).1 = some (.ok ()) :=
    eq_some_ok_of_isOk (by decide +kernel)
  have hchecked : Schema.validate "saveToText" savingCall.paramsOrEmpty =
      .ok savingCall.paramsOrEmpty := rfl
  have hsaving : TextCall { registry := Action.builtinRegistry } Rehearsal.surroundings
      "saveToText" "f" savingCall (directoryWorld "" [("K", .int 18446744073709549568)]) _ _ :=
    .of_plain rfl rfl (by decide +kernel) hchecked rfl _
  obtain ⟨written, placed, hfile, -, -, hint⟩ := scalar_texts _ _ _ "K" _ _ _ _ _ _
    (.int 18446744073709549568) hsaving rfl (Prod.ext hsucceeds rfl) rfl rfl (by
      rintro n ⟨⟩
      decide +kernel)
  obtain ⟨-, -, hdigits⟩ := hint _ rfl
  have hwritten := hdigits.2 ⟨2 ^ 53 - 1, 11, by decide, by decide⟩
  refine ⟨hsucceeds, ?_⟩
  rw [hwritten] at hfile
  exact hfile (by decide +kernel)

/-- An integer of 54 bits takes the place of a placeholder with its own digits, and is saved with
those of another one. -/
theorem scalar_saved_otherwise :
    let saved := savingInteger 9007199254740993
    let lookup := (directoryWorld "" [("K", .int 9007199254740993)]).store.get?
    saved.1 = some (.ok ()) ∧
      (saved.2.files.readText "/r/f.txt").toOption = some "9007199254740992" ∧
      (Placeholder.resolveText lookup "\x7b\x7bK\x7d\x7d").asStr? = some "9007199254740993" :=
  ⟨eq_some_ok_of_isOk (by decide +kernel), by decide +kernel, by decide +kernel⟩

end Engine
end WebRecipe
