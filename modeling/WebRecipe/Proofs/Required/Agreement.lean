import WebRecipe.Action.Login
import WebRecipe.Action.Pages
import WebRecipe.Proofs.Engine
import WebRecipe.Proofs.Footprint.Builtin
import WebRecipe.Proofs.Required.Alone
import WebRecipe.Proofs.Required.Supplied
import WebRecipe.Proofs.Schema.Projection

/-!
# Schemas and handlers agree

The texts that a built-in action reads before it does anything else are those that its schema asks
for, in the same order. Branches, loops, the login and the calls of page methods read their own texts
first as well; what they perform is supplied if the context is, and they add no words of a missing
text to it. Parameters that pass the check have the texts, so no action fails for a missing text: not
at the top of a recipe, not in a block, and not where the login or the call of a page method performs
it, since all of them are resolved and checked in the same way.

## Main definitions

* `Schema.requiredTexts`: the texts that an object must have.
* `Handler.Agrees`: a handler reads the texts that the schema of its name asks for.

## Main results

* `Action.branch_reads`, `Action.countingLoop_reads`, `Action.itemLoop_reads`,
  `Action.conditionLoop_reads`, `Action.callMethod_reads`, `Action.login_reads`.
* `Schema.exists_text_of_validate`: parameters that pass the check have the texts.
* `Action.builtins_agree`: the table of schemas agrees with that of handlers.
* `Engine.performs_supplied`: no action fails for a missing text.
-/

namespace WebRecipe.Action

variable {said : Option String} {cx : Context}

open SuppliedAfter

/-! ### Branches and loops -/

private theorem accepted_supplied {action condition : String} :
    (ofExcept (match Condition.accept condition with
      | .ok _ => return condition
      | .error e => throw (.condition action e)) : Action String).SuppliedAfter said := by
  split
  · exact .pure
  · exact .throw id

private theorem elseActions_supplied {ps : Members} {action : String} {hasElse : Bool} :
    (ofExcept (if hasElse then some <$> ps.body action "elseActions" else pure none) :
      Action (Option (List ActionCall))).SuppliedAfter said := by
  split
  · unfold Members.body
    generalize Decode.list ActionCall.decode _ = decoded
    cases decoded with
    | error e => exact .throw id
    | ok actions => exact .pure
  · exact .pure

private theorem conditionHolds_supplied {action condition : String} :
    (conditionHolds action condition).SuppliedAfter said :=
  .bind .command fun _ ↦ .orFail_of_not fun _ ↦ id

private theorem showEnd_supplied {line : String} {block : Action Unit} (h : block.Supplied) :
    (showEnd line block).SuppliedAfter said :=
  .bind (.indented h) fun _ ↦ .command

theorem branch_reads (action : String) (hasElse : Bool) :
    Handler.Reads action ["condition"] (branch action hasElse) := by
  intro cx ps hcx
  refine .text_bind fun condition ↦ .done ?_
  refine .bind accepted_supplied fun condition ↦ ?_
  refine .bind .body fun actions ↦ ?_
  refine .bind elseActions_supplied fun elseActions ↦ ?_
  refine .bind .command fun _ ↦ ?_
  refine .bind conditionHolds_supplied fun holds ↦ ?_
  refine .ite ?_ ?_
  · exact .bind .command fun _ ↦ showEnd_supplied (.runBlock hcx actions)
  · refine .bind .command fun _ ↦ ?_
    split
    · exact showEnd_supplied (.runBlock hcx _)
    · exact .pure

private theorem countingRounds_supplied (hcx : ∀ call, (cx.perform call).Supplied)
    {actions : List ActionCall} {limit step : Int} (count : Nat) (i : Int) :
    (countingRounds cx actions limit step count i).SuppliedAfter said := by
  induction count generalizing i with
  | zero => exact .pure
  | succ count ih =>
    refine .bind .command fun _ ↦ ?_
    refine .bind .command fun _ ↦ ?_
    exact .bind (.runBlock hcx actions) fun _ ↦ ih (i + step)

theorem countingLoop_reads : Handler.Reads "for" [] countingLoop := by
  intro cx ps hcx
  refine .done (.bind .body fun actions ↦ ?_)
  refine .ite (.throw_bind (not_saysMissing (by simp))) ?_
  exact showEnd_supplied (countingRounds_supplied hcx _ _)

private theorem itemRounds_supplied (hcx : ∀ call, (cx.perform call).Supplied)
    {actions : List ActionCall} {key : String} {total : Nat} (n : Nat) (items : List Json) :
    (itemRounds cx actions key total n items).SuppliedAfter said := by
  induction items generalizing n with
  | nil => exact .pure
  | cons item rest ih =>
    refine .bind .command fun _ ↦ ?_
    refine .bind .command fun _ ↦ ?_
    exact .bind (.runBlock hcx actions) fun _ ↦ ih (n + 1)

theorem itemLoop_reads : Handler.Reads "forEach" ["key"] itemLoop := by
  intro cx ps hcx
  refine .text fun key ↦ .done ?_
  refine .bind .body fun actions ↦ ?_
  refine .bind .command fun value ↦ ?_
  split
  · exact showEnd_supplied (itemRounds_supplied hcx _ _)
  · exact .throw (not_saysMissing (by simp))
  · exact .throw (not_saysMissing (by simp))

private theorem conditionRounds_supplied (hcx : ∀ call, (cx.perform call).Supplied)
    {actions : List ActionCall} {condition : String} (patience : Nat) :
    (conditionRounds cx actions condition patience).SuppliedAfter said := by
  induction patience with
  | zero => exact .unfinished
  | succ patience ih =>
    refine .bind conditionHolds_supplied fun holds ↦ ?_
    exact .ite (.bind (.runBlock hcx actions) fun _ ↦ ih) .pure

theorem conditionLoop_reads : Handler.Reads "while" ["condition"] conditionLoop := by
  intro cx ps hcx
  refine .text_bind fun condition ↦ .done ?_
  refine .bind accepted_supplied fun condition ↦ ?_
  refine .bind .body fun actions ↦ ?_
  exact showEnd_supplied (conditionRounds_supplied hcx _)

/-! ### Methods of pages -/

theorem callMethod_reads : Handler.Reads "puppeteer" ["func"] callMethod := by
  intro cx ps hcx
  refine .text fun method ↦ .done ?_
  refine .bind .command fun _ ↦ ?_
  refine .ite ?_ ?_
  · exact .bind .command fun key ↦ hcx _
  · refine .bind .needPage fun page ↦ ?_
    refine .bind .lift fun outcome ↦ ?_
    split
    · exact .command
    · exact .command

/-! ### Logging in -/

private theorem restore_supplied {page : PageId} {cache : String} {name : Option String} :
    (Login.restore page cache name).SuppliedAfter said := by
  refine .bind .pathExists fun found ↦ .ite ?_ .pure
  refine .bind .command fun _ ↦ ?_
  refine .bind .file fun text ↦ ?_
  refine .bind .command fun now ↦ .ite ?_ ?_
  · refine .bind (.onPage (relays_pageFailure _)) fun _ ↦ ?_
    exact .bind .command fun _ ↦ .pure
  · refine .bind .file fun _ ↦ ?_
    exact .bind .command fun _ ↦ .pure

theorem login_reads : Handler.Reads "login"
    ["url", "usernameSelector", "username", "passwordSelector", "password", "submitSelector"]
    login := by
  intro cx ps hcx
  refine .text_bind fun url ↦ ?_
  refine .text_bind fun usernameSelector ↦ ?_
  refine .text_bind fun username ↦ ?_
  refine .text_bind fun passwordSelector ↦ ?_
  refine .text_bind fun password ↦ ?_
  refine .text_bind fun submitSelector ↦ .done ?_
  refine .bind .pure fun login ↦ ?_
  refine .bind .needPage fun page ↦ .withRetries (.indented ?_)
  refine .bind .getText fun base ↦ ?_
  split
  · exact .throw (not_saysMissing (by simp))
  · refine .bind restore_supplied fun restored ↦ .ite .pure ?_
    exact .bind .lift fun outcome ↦ .orFail_of_not fun _ ↦ id

end WebRecipe.Action

namespace WebRecipe

/-! ### Texts that schemas ask for -/

namespace Schema

/-- Whether nothing but texts fits a schema. -/
def isText : Schema → Bool
  | text _ => true
  | name => true
  | choice _ => true
  | _ => false

/-- The texts that an object must have. -/
def requiredTexts (s : Schema) : List String :=
  (s.properties.filter fun p ↦ p.2.isText && s.requiredKeys.contains p.1).map Prod.fst

/-- A value without issues is a text where nothing else fits. -/
private theorem exists_text_of_check {s : Schema} (hs : s.isText = true) {v : Json}
    (h : s.check v = []) : ∃ t, v = .str t := by
  cases v with
  | str t => exact ⟨t, rfl⟩
  | _ => cases s <;> simp [isText, check, typeIssue] at hs h

/-- Parameters that pass the check have the texts that an action cannot do without. -/
theorem exists_text_of_validate {action : String} {s : Schema} (hs : ofAction? action = some s)
    {ps qs : Members} (h : validate action ps = .ok qs) :
    ∀ key ∈ s.requiredTexts, ∃ t, qs.get? key = some (.str t) := by
  intro key hkey
  obtain ⟨p, hp, rfl⟩ := List.mem_map.1 hkey
  obtain ⟨hp, hrequired⟩ := List.mem_filter.1 hp
  obtain ⟨htext, hrequired⟩ := (Bool.and_eq_true _ _).mp hrequired
  have hhas := has_of_validate hs h (List.contains_iff_mem.1 hrequired)
  rw [Members.has_eq_isSome] at hhas
  obtain ⟨v, hv⟩ := Option.isSome_iff_exists.1 hhas
  obtain ⟨t, rfl⟩ := exists_text_of_check htext (check_of_get? hs h hp hv)
  exact ⟨t, hv⟩

end Schema

/-! ### Handlers -/

/-- A handler reads the texts that the schema of its name asks for. -/
def Handler.Agrees (name : String) (h : Handler) : Prop :=
  ∃ s, Schema.ofAction? name = some s ∧ h.Reads name s.requiredTexts

namespace Action

private theorem agrees {name : String} {h : Handler} {s : Schema} {keys : List String}
    (hs : Schema.ofAction? name = some s) (hkeys : s.requiredTexts = keys)
    (hh : h.Reads name keys) : h.Agrees name :=
  ⟨s, hs, hkeys ▸ hh⟩

/-- The texts that a built-in action reads are those that its schema asks for. -/
theorem builtins_agree : ∀ p ∈ builtins, Handler.Agrees p.1 p.2 := by
  simp only [builtins, List.forall_mem_cons]
  exact ⟨agrees rfl rfl setVariable_reads, agrees rfl rfl getVariable_reads,
    agrees rfl rfl deleteVariable_reads, agrees rfl rfl transferVariable_reads,
    agrees rfl rfl appendToVariable_reads, agrees rfl rfl countStart_reads,
    agrees rfl rfl countIncrement_reads, agrees rfl rfl countDecrement_reads,
    agrees rfl rfl (branch_reads "if" false), agrees rfl rfl (branch_reads "ifElse" true),
    agrees rfl rfl countingLoop_reads, agrees rfl rfl itemLoop_reads,
    agrees rfl rfl conditionLoop_reads, agrees rfl rfl setBaseDir_reads,
    agrees rfl rfl setCurrentDir_reads, agrees rfl rfl resetCurrentDir_reads,
    agrees rfl rfl backToParentDir_reads, agrees rfl rfl createDir_reads,
    agrees rfl rfl deleteFolder_reads, agrees rfl rfl listFolders_reads,
    agrees rfl rfl createFile_reads, agrees rfl rfl readFromText_reads,
    agrees rfl rfl saveToText_reads, agrees rfl rfl appendToText_reads,
    agrees rfl rfl deleteFile_reads, agrees rfl rfl fileExists_reads,
    agrees rfl rfl checkStringInFile_reads, agrees rfl rfl download_reads,
    agrees rfl rfl callMethod_reads, agrees rfl rfl newPage_reads, agrees rfl rfl closePage_reads,
    agrees rfl rfl switchPage_reads, agrees rfl rfl screenshot_reads,
    agrees rfl rfl screenshotElement_reads, agrees rfl rfl getElements_reads,
    agrees rfl rfl getChildren_reads, agrees rfl rfl elementExists_reads,
    agrees rfl rfl click_reads, agrees rfl rfl clickAll_reads, agrees rfl rfl scrollWaitClick_reads,
    agrees rfl rfl typeText_reads, agrees rfl rfl login_reads, agrees rfl rfl sleep_reads,
    agrees rfl rfl log_reads, agrees rfl rfl sanitizeString_reads,
    agrees rfl rfl replaceString_reads, agrees rfl rfl matchFromString_reads,
    agrees rfl rfl matchFromSelector_reads, agrees rfl rfl random_reads, agrees rfl rfl uuid_reads,
    agrees rfl rfl getExtension_reads, agrees rfl rfl userInput_reads, List.forall_mem_nil _⟩

end Action

/-! ### Performing actions -/

namespace Engine

variable {e : Engine}

/-- What preparing an action ends with has parameters that pass the check, and the handler of its
name. -/
private theorem checked_of_ends_prepare {call : ActionCall} {log : Log} {p : Prepared}
    (h : (e.prepare call).run.Ends log (.ok p)) :
    (∃ resolved, Schema.validate call.name resolved = .ok p.params) ∧
      e.registry.get? call.name = some p.handler := by
  rw [prepare] at h
  obtain ⟨_, _, -, h⟩ := Routine.ends_command_bind.1 h
  obtain ⟨_, _, -, h⟩ := Routine.ends_command_bind.1 h
  obtain ⟨resolved, _, -, h⟩ := Routine.ends_command_bind.1 h
  obtain ⟨_, _, -, h⟩ := Routine.ends_command_bind.1 h
  obtain ⟨params, _, _, -, hchecked, h⟩ := Routine.ends_bind_ok.1 h
  obtain ⟨-, hchecked⟩ := Routine.ends_done.1 hchecked
  obtain ⟨_, _, -, h⟩ := Routine.ends_command_bind.1 h
  cases hhandler : e.registry.get? call.name with
  | none =>
    rw [hhandler] at h
    cases (Routine.ends_done.1 h).2
  | some handler =>
    rw [hhandler] at h
    obtain ⟨_, _, -, h⟩ := Routine.ends_command_bind.1 h
    cases (Routine.ends_done.1 h).2
    exact ⟨⟨resolved, hchecked⟩, rfl⟩

variable (hreg : e.registry = Action.builtinRegistry)

include hreg

/-- With parameters that pass the check, a built-in action is supplied if what it performs is. -/
private theorem handler_supplied {name : String} {h : Handler}
    (hget : e.registry.get? name = some h) {given ps : Members}
    (hchecked : Schema.validate name given = .ok ps) {cx : Context}
    (hcx : ∀ call, (cx.perform call).Supplied) : (h cx ps).Supplied := by
  obtain ⟨s, hs, hreads⟩ := Action.builtins_agree _ (mem_builtins_of_get? hreg hget)
  exact (hreads cx ps hcx).supplied (Schema.exists_text_of_validate hs hchecked)

/-- Performing an action is supplied, whatever is nested in it. -/
theorem performs_supplied (depth : Nat) (call : ActionCall) :
    (e.performWithin depth call).Supplied := by
  induction depth generalizing call with
  | zero => exact .unfinished
  | succ depth ih =>
    rw [performWithin, prepare_bind]
    refine .bind .command fun _ ↦ ?_
    refine .bind .command fun _ ↦ ?_
    refine .bind .command fun resolved ↦ ?_
    refine .bind .command fun _ ↦ ?_
    refine .ofExcept_bind (fun err herr ↦ ?_) fun params hchecked ↦ ?_
    · obtain ⟨_, rfl⟩ := Schema.validate_eq_error herr
      exact id
    refine .bind .command fun _ ↦ ?_
    cases hget : e.registry.get? call.name with
    | none => exact .throw id
    | some handler => exact .bind .command fun page ↦ handler_supplied hreg hget hchecked ih

/-- **No action fails for a missing text.** A built-in action has a schema. If its parameters lack a
text that the schema asks for, it fails at once and names one of them: these are the texts that it
reads. Parameters that pass the check after their placeholders were replaced have them all, and then
the action does not fail for a missing text if what it performs does not. Hence no action that is
performed does, at whatever depth, nor an action that is started after it was prepared. The words of
pages, files and the console are the exception: an action may repeat them. -/
theorem no_text_missing :
    (∀ name h, e.registry.get? name = some h → ∃ s, Schema.ofAction? name = some s ∧
      ∀ cx : Context, (∀ call, (cx.perform call).Supplied) →
        (∀ ps : Members, (∃ key ∈ s.requiredTexts, ∀ v, ps.get? key ≠ some (.str v)) →
          ∃ key ∈ s.requiredTexts, (∀ v, ps.get? key ≠ some (.str v)) ∧
            h cx ps = throw (.failed name ("Missing string parameter '" ++ key ++ "'"))) ∧
        ∀ (st : Store) given ps,
          Schema.validate name (Placeholder.resolveMembers st.get? given) = .ok ps →
            (∀ key ∈ s.requiredTexts, ∃ v, ps.get? key = some (.str v)) ∧ (h cx ps).Supplied) ∧
    (∀ depth call, (e.performWithin depth call).Supplied) ∧
    ∀ call log p, (e.prepare call).run.Ends log (.ok p) → (e.start p).Supplied := by
  refine ⟨fun name h hget ↦ ?_, performs_supplied hreg, fun call log p hprepared ↦ ?_⟩
  · obtain ⟨s, hs, hreads⟩ := Action.builtins_agree _ (mem_builtins_of_get? hreg hget)
    refine ⟨s, hs, fun cx hcx ↦ ⟨fun ps ↦ (hreads cx ps hcx).fails, fun st given ps hchecked ↦ ?_⟩⟩
    exact ⟨Schema.exists_text_of_validate hs hchecked, handler_supplied hreg hget hchecked hcx⟩
  · obtain ⟨⟨_, hchecked⟩, hget⟩ := checked_of_ends_prepare hprepared
    exact handler_supplied hreg hget hchecked (performs_supplied hreg _)

omit hreg in
/-- A message with a placeholder that the store fills: the text is there, and the action is
supplied. So is a login, with what it performs. -/
theorem no_text_missing_message :
    let e : Engine := { registry := Action.builtinRegistry }
    let cx : Context := ⟨{}, none, e.performWithin 1, 10⟩
    let given : Members := [("message", .str "hi \x7b\x7bNAME\x7d\x7d")]
    let ps : Members := [("message", .str "hi you")]
    Schema.validate "log"
        (Placeholder.resolveMembers (Store.put {} "NAME" (.str "you")).get? given) = .ok ps ∧
      (∃ v, ps.get? "message" = some (.str v)) ∧ (Action.log cx ps).Supplied ∧
      (e.performWithin 3 ⟨"login", none, true⟩).Supplied := by
  intro e cx given ps
  have hpieces : Placeholder.pieces "hi \x7b\x7bNAME\x7d\x7d".toList =
      [.char 'h', .char 'i', .char ' ', .hole ['N', 'A', 'M', 'E']] := by
    decide +kernel
  have hresolved :
      Placeholder.resolveMembers (Store.put {} "NAME" (.str "you")).get? given = ps := by
    rw [Placeholder.resolveMembers, List.map_singleton, Placeholder.resolve,
      Placeholder.resolveText, hpieces]
    rfl
  have hchecked : Schema.validate "log"
      (Placeholder.resolveMembers (Store.put {} "NAME" (.str "you")).get? given) = .ok ps := by
    rw [hresolved]
    rfl
  obtain ⟨hhandlers, hperforms, -⟩ :=
    no_text_missing (show e.registry = Action.builtinRegistry from rfl)
  obtain ⟨s, hs, hsupplied⟩ := hhandlers "log" Action.log rfl
  obtain ⟨htexts, hlog⟩ := (hsupplied cx fun call ↦ hperforms 1 call).2 _ _ ps hchecked
  cases hs
  exact ⟨hchecked, htexts "message" (by decide +kernel), hlog, hperforms 3 _⟩

end Engine
end WebRecipe
