import WebRecipe.Proofs.TextFile.Basic
import Mathlib.Data.List.Forall2

/-!
# Appending values to a text file

Values that are appended to one file come after its old content, in the order of the actions, and no
action loses what another one has written. A value that does not count as true is left out. A single
value becomes a line that is ended; the items of a list become lines as well, but the last of them
is only ended by what is appended next, so that the line may go on. A list that is appended last,
and values that are no lists, keep their own lines.

## Main definitions

* `Json.lines`: the lines of a value.
* `Action.Block`: what a value may become in a file.
* `Engine.Appends`: values are appended to the file at a location.

## Main results

* `Engine.Appends.bytesAt_eq`: the file after values were appended.
* `Engine.appended_values`: the values come in order, and keep their lines.
* `Engine.appended_values_glued`: a value is left out, and the next one is on the line of an item.
-/

namespace WebRecipe

variable {σ : Type}

/-! ### Lines of values -/

/-- The lines of a value: one for each item of a list, and one for any other value. -/
def Json.lines (v : Json) : List String :=
  (v.asArr?.map fun items ↦ items.map Json.text).getD [v.text]

/-- Texts that are each ended by a line break. -/
def Text.ended (lines : List String) : String :=
  String.join (lines.map (· ++ "\n"))

namespace Action

/-- What a value may become in a file: its lines, each of them ended; after the last item of a list
the end of the line may be missing. -/
inductive Block : Json → String → Prop
  | ended (v : Json) : Block v (Text.ended v.lines)
  | open (items : List Json) : Block (.arr items) ("\n".intercalate (items.map Json.text))

/-- A value that is no list becomes a line that is ended. -/
theorem appendedText_single {v : Json} (h : v.asArr? = none) :
    appendedText v = Text.ended v.lines := by
  have hsingle : isList v = false := by cases v <;> first | rfl | cases h
  rw [appendedText, hsingle, Json.lines, h]
  simp [Text.ended]

/-- A list becomes its lines with line breaks between them. -/
theorem appendedText_list (items : List Json) :
    appendedText (.arr items) = "\n".intercalate (Json.lines (.arr items)) :=
  rfl

theorem eq_list_of_asArr? {v : Json} {items : List Json} (h : v.asArr? = some items) :
    v = .arr items := by
  cases v <;> cases h
  rfl

theorem block_appendedText (v : Json) : Block v (appendedText v) := by
  cases h : v.asArr? with
  | none => exact appendedText_single h ▸ .ended v
  | some items =>
    obtain rfl := eq_list_of_asArr? h
    exact .open items

end Action

theorem Text.toList_ended (lines : List String) :
    (Text.ended lines).toList = (lines.map String.toList).flatMap (· ++ ['\n']) := by
  rw [Text.ended, String.toList_join, List.flatMap_map, List.flatMap_map]
  exact List.flatMap_congr fun l _ ↦ String.toList_append

/-- Lines that are ended are found again, before those of what follows. -/
theorem Text.splitChar_ended_append {lines : List String} (h : ∀ l ∈ lines, '\n' ∉ l.toList)
    (rest : String) :
    splitChar '\n' (ended lines ++ rest).toList =
      lines.map String.toList ++ splitChar '\n' rest.toList := by
  rw [String.toList_append, toList_ended, splitChar_ended]
  simpa using h

namespace Action

/-- The lines of the value that is appended last are found again. After a line break at the end one
more line begins, which is empty. -/
theorem exists_splitChar_appendedText {v : Json} (h : ∀ l ∈ v.lines, '\n' ∉ l.toList) :
    ∃ tail, (tail = [] ∨ tail = [[]]) ∧
      Text.splitChar '\n' (appendedText v).toList = v.lines.map String.toList ++ tail := by
  cases hv : v.asArr? with
  | none =>
    refine ⟨[[]], .inr rfl, ?_⟩
    have hsplit := Text.splitChar_ended_append h ""
    rwa [String.append_empty, ← appendedText_single hv] at hsplit
  | some items =>
    obtain rfl := eq_list_of_asArr? hv
    rw [appendedText_list, String.toList_intercalate]
    by_cases hempty : (Json.lines (.arr items)).map String.toList = []
    · exact ⟨[[]], .inr rfl, by rw [hempty]; rfl⟩
    · refine ⟨[], .inl rfl, ?_⟩
      rw [List.append_nil]
      exact Text.splitChar_intercalate hempty (by simpa using h)

/-- The lines of values are found again if no list is appended before another value. -/
theorem exists_splitChar_appendedTexts {vs : List Json}
    (h : ∀ v ∈ vs, ∀ l ∈ v.lines, '\n' ∉ l.toList) (hlast : ∀ v ∈ vs.dropLast, v.asArr? = none) :
    ∃ tail, (tail = [] ∨ tail = [[]]) ∧
      Text.splitChar '\n' (String.join (vs.map appendedText)).toList =
        (vs.flatMap Json.lines).map String.toList ++ tail := by
  induction vs with
  | nil => exact ⟨[[]], .inr rfl, rfl⟩
  | cons v vs ih =>
    rw [List.forall_mem_cons] at h
    cases vs with
    | nil => simpa using exists_splitChar_appendedText h.1
    | cons next vs =>
      rw [List.dropLast_cons_cons, List.forall_mem_cons] at hlast
      obtain ⟨tail, htail, hsplit⟩ := ih h.2 hlast.2
      refine ⟨tail, htail, ?_⟩
      rw [List.map_cons, String.join_cons, appendedText_single hlast.1,
        Text.splitChar_ended_append h.1, hsplit, ← List.append_assoc, ← List.map_append,
        ← List.flatMap_cons]

end Action

/-! ### Values in a row -/

namespace Engine

/-- Values are appended one after another to the file at a location, by actions that all succeed. An
action may find the file by any name, and the value under any key. Between two actions the world may
change, but not the file. -/
inductive Appends (e : Engine) (s : Surroundings σ) (loc : Location) :
    List Json → World σ → World σ → Prop
  | nil (w : World σ) : Appends e s loc [] w w
  | cons {call : ActionCall} {p : Prepared} {name key : String} {depth : Nat} {v : Json}
      {vs : List Json} {w w₁ w' u u' : World σ}
      (appending : e.TextCall s "appendToText" name call w w₁ p)
      (keyed : p.params.text? "key" = some key) (held : w₁.store.get? key = some v)
      (leads : ∀ path, w.store.textPath? name = some path → w.files.locate path = .ok loc)
      (performed : (e.performWithin (depth + 1) call).run.run s w = (some (.ok ()), w'))
      (between : u.files.bytesAt loc = w'.files.bytesAt loc) (later : Appends e s loc vs u u') :
      Appends e s loc (v :: vs) w u'

variable {e : Engine} {s : Surroundings σ} {loc : Location} {vs : List Json} {w w' : World σ}

/-- What appending a value comes to. -/
theorem appending_writesText {call : ActionCall} {p : Prepared} {name key : String} {w₁ : World σ}
    (happending : e.TextCall s "appendToText" name call w w₁ p)
    (hkey : p.params.text? "key" = some key) (depth : Nat) :
    Action.WritesText (fun fs path v ↦ fs.append path (Action.appendedText v).toUTF8) key name w₁
      ((e.performWithin (depth + 1) call).run.run s w) := by
  rw [happending.run_eq rfl]
  exact Action.appendToText_writesText hkey happending.file

/-- One value is appended, or left out if it does not count as true. -/
theorem bytesAt_of_appended {call : ActionCall} {p : Prepared} {name key : String} {depth : Nat}
    {v : Json} {w₁ : World σ} (happending : e.TextCall s "appendToText" name call w w₁ p)
    (hkey : p.params.text? "key" = some key) (hvalue : w₁.store.get? key = some v)
    (hleads : ∀ path, w.store.textPath? name = some path → w.files.locate path = .ok loc)
    (hperformed : (e.performWithin (depth + 1) call).run.run s w = (some (.ok ()), w')) :
    w'.files.bytesAt loc = w.files.bytesAt loc ++
      (if Json.isTruthy (some v) then Action.appendedText v else "").toUTF8 := by
  have hwrites := appending_writesText happending hkey depth
  rw [hperformed] at hwrites
  rcases hwrites.skipped_or_changed with ⟨hfalse, rfl⟩ | ⟨v', path, hvalue', htrue, hpath, hchange⟩
  · rw [hvalue] at hfalse
    rw [hfalse, happending.announced.files]
    exact ByteArray.append_empty.symm
  · obtain rfl : v' = v := Option.some.inj (hvalue'.symm.trans hvalue)
    rw [happending.textPath?_eq] at hpath
    rw [happending.announced.files] at hchange
    obtain ⟨loc', hloc, hno, hfiles⟩ := FileSystem.append_eq_ok_iff.1 hchange
    obtain rfl : loc' = loc := Except.ok.inj (hloc.symm.trans (hleads path hpath))
    rw [hfiles, FileSystem.bytesAt_put_self hno, htrue]
    rfl

/-- The values that count as true come after what was in the file, in their order. -/
theorem Appends.bytesAt_eq (h : e.Appends s loc vs w w') :
    w'.files.bytesAt loc = w.files.bytesAt loc ++ (String.join
      ((vs.filter fun v ↦ Json.isTruthy (some v)).map Action.appendedText)).toUTF8 := by
  induction h with
  | nil w => exact ByteArray.append_empty.symm
  | @cons _ _ _ _ _ v _ _ _ _ _ _ appending keyed held leads performed between _ ih =>
    rw [ih, between, bytesAt_of_appended appending keyed held leads performed,
      ByteArray.append_assoc]
    cases htrue : Json.isTruthy (some v) with
    | false =>
      rw [List.filter_cons_of_neg (by simpa using htrue)]
      exact congrArg _ ByteArray.empty_append
    | true =>
      rw [List.filter_cons_of_pos (by simpa using htrue), List.map_cons, String.join_cons,
        String.toUTF8_eq_toByteArray, String.toUTF8_eq_toByteArray, String.toUTF8_eq_toByteArray,
        String.toByteArray_append]
      rfl

/-- **Appended values come in their order and keep their lines.** Values are appended to one file by
actions that all succeed. Then the file is what it was before, followed by one block after another
for those values that count as true: a value that is no list is a line of its own, which is ended,
and a list has a line for each item; whether the last of them is ended is left open. Nothing else is
in the file, so that values that do not count as true leave no trace. If the file was empty or ended
with a line break before, if no list is appended before another value, and if no text has a line
break itself, then the lines of the file are those from before and those of the values, in this
order. -/
theorem appended_values (e : Engine) (s : Surroundings σ) (loc : Location) (vs : List Json)
    (w w' : World σ) (happended : e.Appends s loc vs w w') :
    let written := vs.filter fun v ↦ Json.isTruthy (some v)
    ∃ blocks : List String, List.Forall₂ Action.Block written blocks ∧
      w'.files.bytesAt loc = w.files.bytesAt loc ++ (String.join blocks).toUTF8 ∧
      ∀ old : List String, w.files.bytesAt loc = (Text.ended old).toUTF8 →
        (∀ l ∈ old, '\n' ∉ l.toList) → (∀ v ∈ written, ∀ l ∈ v.lines, '\n' ∉ l.toList) →
        (∀ v ∈ written.dropLast, v.asArr? = none) →
        ∃ (text : String) (tail : List (List Char)), w'.files.bytesAt loc = text.toUTF8 ∧
          (tail = [] ∨ tail = [[]]) ∧ Text.splitChar '\n' text.toList =
            (old ++ written.flatMap Json.lines).map String.toList ++ tail := by
  intro written
  have hbytes := happended.bytesAt_eq
  refine ⟨written.map Action.appendedText, ?_, hbytes, fun old hold hlines hwritten hlast ↦ ?_⟩
  · rw [List.forall₂_map_right_iff, List.forall₂_same]
    exact fun v _ ↦ Action.block_appendedText v
  · obtain ⟨tail, htail, hsplit⟩ := Action.exists_splitChar_appendedTexts hwritten hlast
    refine ⟨Text.ended old ++ String.join (written.map Action.appendedText), tail, ?_, htail, ?_⟩
    · rw [hbytes, hold]
      simp only [String.toUTF8_eq_toByteArray, String.toByteArray_append]
      rfl
    · rw [Text.splitChar_ended_append hlines, hsplit, List.map_append, List.append_assoc]

/-! ### Three values -/

/-- An action that appends the value under a key to the file of a name. -/
def appendingCall (key name : String) : ActionCall :=
  ⟨"appendToText", some [("key", .str key), ("filename", .str name)], true⟩

/-- What such an action comes to. -/
def appending (key name : String) (w : World Rehearsal) :
    Option (Except ActionError Unit) × World Rehearsal :=
  (performWithin { registry := Action.builtinRegistry } 1 (appendingCall key name)).run.run
    Rehearsal.surroundings w

section Appending

variable {w u : World Rehearsal} {key name : String}
  (hplain : (Json.obj (appendingCall key name).paramsOrEmpty).Plain)
  (hchecked : Schema.validate "appendToText" (appendingCall key name).paramsOrEmpty =
    .ok (appendingCall key name).paramsOrEmpty)

include hplain hchecked

/-- Appending a value leaves the values alone. -/
theorem get?_appending {other : String} (hother : other ≠ Key.params) :
    (appending key name w).2.store.get? other = w.store.get? other := by
  have hcall : TextCall { registry := Action.builtinRegistry } Rehearsal.surroundings "appendToText"
      name (appendingCall key name) w _ _ :=
    .of_plain rfl rfl hplain hchecked rfl w
  have hstore := (appending_writesText hcall rfl 0).store_eq
  exact (congrArg (·.get? other) hstore).trans (Store.get?_put_other hother)

/-- A value is appended by an action whose parameters have no templates. -/
theorem Appends.cons_plain {v : Json} (hother : key ≠ Key.params) (held : w.store.get? key = some v)
    (hleads : (w.store.textPath? name).map (fun path ↦ (w.files.locate path).toOption) =
      some (some loc))
    (hsucceeds : (appending key name w).1.map Except.isOk = some true)
    (later : Appends { registry := Action.builtinRegistry } Rehearsal.surroundings loc vs
      (appending key name w).2 u) :
    Appends { registry := Action.builtinRegistry } Rehearsal.surroundings loc (v :: vs) w u := by
  refine .cons (.of_plain rfl rfl hplain hchecked rfl w) rfl
    ((Store.get?_put_other hother).trans held) (fun path hpath ↦ ?_)
    (Prod.ext (eq_some_ok_of_isOk hsucceeds) rfl) rfl later
  rw [hpath] at hleads
  exact toOption_eq_some_iff.1 (Option.some.inj hleads)

end Appending

/-- A world with a list, the number zero and a text under keys of their own. -/
def threeValues : World Rehearsal :=
  directoryWorld "old\n" [("LIST", .arr [.str "a", .str "b"]), ("ZERO", .int 0), ("TEXT", .str "c")]

/-- Zero, a text and a list are appended to a file with one line: the file has three more lines. -/
theorem appended_values_list_last :
    let loc := ["r".toList, "f.txt".toList]
    let w' := (appending "LIST" "f" (appending "TEXT" "f" (appending "ZERO" "f" threeValues).2).2).2
    ∃ (text : String) (tail : List (List Char)), w'.files.bytesAt loc = text.toUTF8 ∧
      (tail = [] ∨ tail = [[]]) ∧ Text.splitChar '\n' text.toList =
        ["old", "c", "a", "b"].map String.toList ++ tail := by
  intro loc w'
  let vs : List Json := [.int 0, .str "c", .arr [.str "a", .str "b"]]
  have hlist : (Json.obj (appendingCall "LIST" "f").paramsOrEmpty).Plain := by decide +kernel
  have hzero : (Json.obj (appendingCall "ZERO" "f").paramsOrEmpty).Plain := by decide +kernel
  have htext : (Json.obj (appendingCall "TEXT" "f").paramsOrEmpty).Plain := by decide +kernel
  have happended : Appends { registry := Action.builtinRegistry } Rehearsal.surroundings loc vs
      threeValues w' := by
    refine .cons_plain hzero rfl (by decide) rfl (by decide +kernel) (by decide +kernel) ?_
    refine .cons_plain htext rfl (by decide) (get?_appending hzero rfl (by decide))
      (by decide +kernel) (by decide +kernel) ?_
    exact .cons_plain hlist rfl (by decide)
      ((get?_appending htext rfl (by decide)).trans (get?_appending hzero rfl (by decide)))
      (by decide +kernel) (by decide +kernel) (.nil _)
  have hwritten : (vs.filter fun v ↦ Json.isTruthy (some v)).flatMap Json.lines =
      ["c", "a", "b"] := by
    decide +kernel
  obtain ⟨-, -, -, hlines⟩ := appended_values _ _ _ _ _ _ happended
  have hfound := hlines ["old"] (by decide +kernel) (by decide) (by decide +kernel)
    (by decide +kernel)
  rwa [hwritten] at hfound

/-- A list, zero and a text are appended to a file that is missing: zero is left out, and the text
is on the line of the last item. -/
theorem appended_values_glued :
    let e : Engine := { registry := Action.builtinRegistry }
    let loc := ["r".toList, "g.txt".toList]
    let vs : List Json := [.arr [.str "a", .str "b"], .int 0, .str "c"]
    let w' := (appending "TEXT" "g" (appending "ZERO" "g" (appending "LIST" "g" threeValues).2).2).2
    e.Appends Rehearsal.surroundings loc vs threeValues w' ∧
      threeValues.files.pathExists "/r/g.txt" = false ∧
      w'.files.bytesAt loc = "a\nbc\n".toUTF8 ∧
      Text.ended (vs.flatMap Json.lines) = "a\nb\n0\nc\n" ∧
      w'.files.bytesAt loc ≠ (Text.ended (vs.flatMap Json.lines)).toUTF8 := by
  intro e loc vs w'
  have hlist : (Json.obj (appendingCall "LIST" "g").paramsOrEmpty).Plain := by decide +kernel
  have hzero : (Json.obj (appendingCall "ZERO" "g").paramsOrEmpty).Plain := by decide +kernel
  have htext : (Json.obj (appendingCall "TEXT" "g").paramsOrEmpty).Plain := by decide +kernel
  refine ⟨?_, by decide +kernel, by decide +kernel, by decide +kernel, by decide +kernel⟩
  refine .cons_plain hlist rfl (by decide) rfl (by decide +kernel) (by decide +kernel) ?_
  refine .cons_plain hzero rfl (by decide) (get?_appending hlist rfl (by decide))
    (by decide +kernel) (by decide +kernel) ?_
  exact .cons_plain htext rfl (by decide)
    ((get?_appending hzero rfl (by decide)).trans (get?_appending hlist rfl (by decide)))
    (by decide +kernel) (by decide +kernel) (.nil _)

end Engine
end WebRecipe
