import WebRecipe.Proofs.Login.Submission
import WebRecipe.Proofs.Page.Typed

/-!
# Secrets

A secret text that is typed, and the password of a login, do not come out: two runs that differ in it
alone put out the same lines, come to the same result or the same error, and leave the same files.
Their pages differ in the event of typing at most. So it is on every path, also where a page fails and
an attempt is repeated.

## Main definitions

* `Members.DifferAt`: parameters that differ in one text.

## Main results

* `Action.typeText_alike`, `Action.Login.once_alike`: what runs alike with two secrets.
* `Engine.secret_hidden`: secrets do not come out.
-/

namespace WebRecipe

variable {σ : Type} {R : σ → σ → Prop}

/-! ### Parameters that differ in one text -/

/-- Two sets of parameters are the same but for one parameter, which is a text in both. -/
structure Members.DifferAt (key a b : String) (ps ps' : Members) : Prop where
  others : ∀ other, other ≠ key → ps.get? other = ps'.get? other
  left : ps.get? key = some (.str a)
  right : ps'.get? key = some (.str b)

namespace Schema

/-- Objects have the same issues in which the same members are missing, and the values of declared
properties have the same issues. -/
theorem check_object_congr {properties : List (String × Schema)} {required : List String}
    {missingFirst : Bool} {ms ms' : Members}
    (hhas : ∀ key ∈ required, Members.has ms key = Members.has ms' key)
    (hchecked : ∀ p ∈ properties,
      (Members.get? ms p.1).map p.2.check = (Members.get? ms' p.1).map p.2.check) :
    (object properties required missingFirst).check (.obj ms) =
      (object properties required missingFirst).check (.obj ms') := by
  have hmissing : missingIssues required ms = missingIssues required ms' := by
    rw [missingIssues, missingIssues]
    exact congrArg _ (List.filter_congr fun key hkey ↦ congrArg (!·) (hhas key hkey))
  have hproperties : checkProperties properties ms = checkProperties properties ms' := by
    induction properties with
    | nil => rfl
    | cons p rest ih =>
      obtain ⟨hp, hrest⟩ := List.forall_mem_cons.1 hchecked
      rw [checkProperties, checkProperties, ih hrest]
      refine congrArg (· ++ _) ?_
      cases hv : ms.get? p.1 <;> cases hv' : ms'.get? p.1 <;> simp_all
  rw [check, check, hmissing, hproperties]

/-- The check fails alike for parameters that differ in a text which has no issues. -/
theorem validate_eq_error_iff {action key a b : String} {required optional : List (String × Schema)}
    (hs : ofAction? action = some (params required optional))
    (hurl : key ∉ urlParams action) {ps ps' : Members} (h : ps.DifferAt key a b ps')
    (hchecked : ∀ p ∈ required ++ optional, p.1 = key → p.2.check (.str a) = p.2.check (.str b))
    (err : ActionError) : validate action ps = .error err ↔ validate action ps' = .error err := by
  have hissues : (params required optional).check (.obj ps) =
      (params required optional).check (.obj ps') := by
    refine check_object_congr (fun other _ ↦ ?_) fun p hp ↦ ?_
    · rw [Members.has_eq_isSome, Members.has_eq_isSome]
      by_cases hother : other = key
      · rw [hother, h.left, h.right]
        rfl
      · rw [h.others other hother]
    · by_cases hkey : p.1 = key
      · rw [hkey, h.left, h.right, Option.map_some, Option.map_some, hchecked p hp hkey]
      · rw [h.others p.1 hkey]
  have hurls : urlIssues action ps (fun _ ↦ false) = urlIssues action ps' fun _ ↦ false := by
    refine List.filterMap_congr fun other hother ↦ ?_
    have hne : other ≠ key := by
      rintro rfl
      exact hurl (List.mem_of_mem_filter hother)
    rw [h.others other hne]
  rw [validate, validate, hs]
  dsimp only
  rw [hissues, hurls]
  split <;> simp

end Schema

namespace Action

variable {s : Surroundings σ} {a b : String} {page : PageId} {cx : Context}

/-! ### Typing and clicking -/

/-- A secret text is not shown, whether it is typed or not. -/
theorem typeOnce_secret_alike (hs : s.Hides R a b) (page : PageId) (selector : String) :
    Alike s R (typeOnce page selector a true) (typeOnce page selector b true) :=
  .bind (.display _) fun _ ↦ .bind (.onPage hs _ _ _) fun _ ↦ .onPage_typeText hs _ _ _

/-- Typing runs alike when a secret text differs. -/
theorem typeText_secret_alike (hs : s.Hides R a b) {qs qs' : Members}
    (hselector : qs.get? "selector" = qs'.get? "selector")
    (htext : qs.get? "text" = some (.str a)) (htext' : qs'.get? "text" = some (.str b))
    (hsecret : qs.get? "secret" = some (.bool true))
    (hsecret' : qs'.get? "secret" = some (.bool true)) :
    Alike s R (typeText cx qs) (typeText cx qs') := by
  have hread {ms : Members} {text : String} (h : ms.get? "text" = some (.str text)) :
      ms.text "type" "text" = .ok text := by
    rw [Members.text, h]
    rfl
  have hmasked {ms : Members} (h : ms.get? "secret" = some (.bool true)) :
      ms.bool "secret" false = true := by
    rw [Members.bool, h]
    rfl
  rw [typeText, typeText, Members.text, hselector, ← Members.text, hmasked hsecret,
    hmasked hsecret']
  refine .bind (.ofExcept _) fun selector ↦ .ofExcept_bind (hread htext) (hread htext') ?_
  exact .bind (.ofExcept _) fun page ↦ .withRetries _ (typeOnce_secret_alike hs page selector)

variable (hs : s.Hides R a b)

include hs

theorem typeText_alike (ps : Members) : Alike s R (typeText cx ps) (typeText cx ps) := by
  refine .bind (.ofExcept _) fun selector ↦ .bind (.ofExcept _) fun text ↦ ?_
  refine .bind (.ofExcept _) fun page ↦ .withRetries _ (.bind (.display _) fun _ ↦ ?_)
  exact .bind (.onPage hs _ _ _) fun _ ↦ .onPage hs _ _ _

theorem click_alike (ps : Members) : Alike s R (click cx ps) (click cx ps) := by
  refine .bind (.ofExcept _) fun selector ↦ .bind (.ofExcept _) fun page ↦ .withRetries _ ?_
  refine .ite (.bind (.onPage hs _ _ _) fun _ ↦ .onPage hs _ _ _) ?_
  refine .bind (.onPage hs _ _ _) fun count ↦ .ite (.throw_bind _) ?_
  cases ps.text? "text" with
  | none => exact .throw _
  | some text =>
    refine .bind (.onPage hs _ _ _) fun texts ↦ ?_
    split
    · exact .onPage hs _ _ _
    · exact .throw _

/-- A page is gone to by the name of the method. -/
theorem callMethod_goto_alike (url : String) :
    Alike s R (callMethod cx [("func", .str "goto"), ("url", .str url)])
      (callMethod cx [("func", .str "goto"), ("url", .str url)]) := by
  refine .ofExcept_bind (a := "goto") rfl rfl (.bind (.display _) fun _ ↦ ?_)
  rw [if_neg (by decide)]
  refine .bind (.ofExcept _) fun page ↦ ?_
  refine .bind (Routine.Alike.of_madeOf
    (pageMethod_madeOf (.page hs page) .sleep _ _ _).routine) fun outcome ↦ ?_
  cases outcome with
  | ok result => exact .put _ _
  | error err => exact .display _

/-! ### Making a directory -/

omit hs

private theorem baseDir_alike (action : String) :
    Alike s R (baseDir action) (baseDir action) := by
  refine .bind (.getText (by decide)) fun dir ↦ ?_
  cases dir with
  | some dir => exact .pure _
  | none => exact .throw _

private theorem currentDir_alike (action : String) :
    Alike s R (currentDir action) (currentDir action) := by
  refine .bind (.getText (by decide)) fun dir ↦ ?_
  cases dir with
  | some dir => exact .pure _
  | none => exact baseDir_alike action

private theorem confined_alike (action dir path : String) :
    Alike s R (confined action dir path) (confined action dir path) := by
  refine .bind (baseDir_alike action) fun base ↦ ?_
  cases Path.confine base dir path with
  | some p => exact .pure _
  | none => exact .throw _

theorem createDir_alike (ps : Members) : Alike s R (createDir cx ps) (createDir cx ps) := by
  refine .bind (.ofExcept _) fun dir ↦ .bind (.display _) fun _ ↦ ?_
  refine .bind (.ite (baseDir_alike _) (currentDir_alike _)) fun start ↦ ?_
  exact .bind (confined_alike _ _ _) fun target ↦ .file _ _ _

/-! ### Logging in -/

namespace Login

section Performed

variable {e : Engine} {depth : Nat}
  (hbuiltin : ∀ name ∈ performed, e.registry.get? name = builtinRegistry.get? name)

include hbuiltin

/-- An action that a login performs runs alike if its parameters stay as they are and its handler
runs alike. -/
private theorem performed_alike {name : String} (hname : name ∈ performed) {handler : Handler}
    (hof : builtinRegistry.get? name = some handler) {ps : Members}
    (hplain : ∀ lookup, Placeholder.resolveMembers lookup ps = ps)
    (hruns : ∀ qs cx, Schema.validate name ps = .ok qs → Alike s R (handler cx qs) (handler cx qs)) :
    Alike s R (e.performWithin depth ⟨name, some ps, true⟩)
      (e.performWithin depth ⟨name, some ps, true⟩) := by
  cases depth with
  | zero => exact .unfinished
  | succ depth =>
    refine Engine.performWithin_alike hplain hplain (fun _ ↦ Iff.rfl) ?_
    intro qs qs' handler' cx hchecked hchecked' hget _
    obtain rfl := Except.ok.inj (hchecked.symm.trans hchecked')
    obtain rfl := Option.some.inj (hof.symm.trans ((hbuiltin name hname).symm.trans hget))
    exact hruns qs cx hchecked

private theorem goto_alike (hs : s.Hides R a b) {url : String} (hurl : Placeholder.Free url) :
    Alike s R
      (e.performWithin depth ⟨"puppeteer", some [("func", .str "goto"), ("url", .str url)], true⟩)
      (e.performWithin depth ⟨"puppeteer", some [("func", .str "goto"), ("url", .str url)], true⟩) := by
  have hgoto : Placeholder.Free "goto" := by decide +kernel
  refine performed_alike hbuiltin (by decide) rfl (fun lookup ↦ ?_) fun qs cx hchecked ↦ ?_
  · simp [Placeholder.resolveMembers, Placeholder.resolve, hgoto.resolveText_eq,
      hurl.resolveText_eq]
  · obtain rfl := Except.ok.inj ((validate_goto url).symm.trans hchecked)
    exact callMethod_goto_alike hs url

private theorem type_alike (hs : s.Hides R a b) {selector text : String}
    (hselector : Placeholder.Free selector) (htext : Placeholder.Free text) :
    Alike s R
      (e.performWithin depth
        ⟨"type", some [("selector", .str selector), ("text", .str text)], true⟩)
      (e.performWithin depth
        ⟨"type", some [("selector", .str selector), ("text", .str text)], true⟩) := by
  refine performed_alike hbuiltin (by decide) rfl (fun lookup ↦ ?_) fun qs cx _ ↦
    typeText_alike hs qs
  simp [Placeholder.resolveMembers, Placeholder.resolve, hselector.resolveText_eq,
    htext.resolveText_eq]

private theorem clicking_alike (hs : s.Hides R a b) {selector : String}
    (hselector : Placeholder.Free selector) :
    Alike s R (e.performWithin depth ⟨"click", some [("selector", .str selector)], true⟩)
      (e.performWithin depth ⟨"click", some [("selector", .str selector)], true⟩) := by
  refine performed_alike hbuiltin (by decide) rfl (fun lookup ↦ ?_) fun qs cx hchecked ↦ ?_
  · simp [Placeholder.resolveMembers, Placeholder.resolve, hselector.resolveText_eq]
  · exact click_alike hs qs

private theorem makingDir_alike {dir : String} (hdir : Placeholder.Free dir) :
    Alike s R
      (e.performWithin depth
        ⟨"createDir", some [("dir", .str dir), ("useBaseDir", .bool true)], true⟩)
      (e.performWithin depth
        ⟨"createDir", some [("dir", .str dir), ("useBaseDir", .bool true)], true⟩) := by
  refine performed_alike hbuiltin (by decide) rfl (fun lookup ↦ ?_) fun qs cx _ ↦
    createDir_alike qs
  simp [Placeholder.resolveMembers, Placeholder.resolve, hdir.resolveText_eq]

/-- A secret text is typed by an action that a login performs. -/
theorem type_secret_alike (hs : s.Hides R a b) {ps ps' : Members}
    (hplain : ∀ lookup, Placeholder.resolveMembers lookup ps = ps)
    (hplain' : ∀ lookup, Placeholder.resolveMembers lookup ps' = ps')
    (hdiffer : ps.DifferAt "text" a b ps') (hsecret : ps.get? "secret" = some (.bool true))
    {awaited : Bool} :
    Alike s R (e.performWithin depth ⟨"type", some ps, awaited⟩)
      (e.performWithin depth ⟨"type", some ps', awaited⟩) := by
  cases depth with
  | zero => exact .unfinished
  | succ depth =>
    have hs' : Schema.ofAction? "type" =
        some (.params [("selector", .filled), ("text", .anyText)] [("secret", .boolean)]) :=
      rfl
    refine Engine.performWithin_alike hplain hplain' ?_ ?_
    · refine Schema.validate_eq_error_iff hs' (by decide) hdiffer ?_
      simp [Schema.check, Schema.anyText, Schema.lengthIssue]
    · intro qs qs' handler cx hchecked hchecked' hget _
      obtain rfl : handler = typeText :=
        Option.some.inj (hget.symm.trans (hbuiltin "type" (by decide)))
      have hkept {ms ms' : Members} (h : Schema.validate "type" ms = .ok ms') (key : String)
          (hkey : key ∈ ["selector", "text", "secret"]) : ms'.get? key = ms.get? key := by
        refine Schema.get?_declared_of_validate hs' rfl h (List.mem_map.1 hkey) ?_
        simp [Schema.properties, Schema.params, Schema.default?, Schema.filled, Schema.anyText]
      have hread := hkept hchecked
      have hread' := hkept hchecked'
      refine typeText_secret_alike hs ?_ ?_ ?_ ?_ ?_
      · rw [hread _ (by decide), hread' _ (by decide), hdiffer.others _ (by decide)]
      · rw [hread _ (by decide), hdiffer.left]
      · rw [hread' _ (by decide), hdiffer.right]
      · rw [hread _ (by decide), hsecret]
      · rw [hread' _ (by decide), ← hdiffer.others _ (by decide), hsecret]

/-! ### Attempts -/

omit hbuiltin in
private theorem awaitVisible_alike (hs : s.Hides R a b) (selector : String) (timeout : Nat) :
    Alike s R (awaitVisible page selector timeout) (awaitVisible page selector timeout) :=
  .bind (.onPage hs _ _ _) fun _ ↦ .pure _

omit hbuiltin in
private theorem restore_alike (hs : s.Hides R a b) (cache : String) (name : Option String) :
    Alike s R (restore page cache name) (restore page cache name) := by
  refine .bind (.pathExists _) fun found ↦ .ite ?_ (.pure _)
  refine .bind (.display _) fun _ ↦ .bind (.file _ _ _) fun text ↦ .bind (.now hs) fun now ↦ ?_
  refine .ite ?_ ?_
  · exact .bind (.onPage hs _ _ _) fun _ ↦ .bind (.display _) fun _ ↦ .pure _
  · exact .bind (.file _ _ _) fun _ ↦ .bind (.display _) fun _ ↦ .pure _

private theorem saveCookies_alike (hs : s.Hides R a b)
    (hperform : cx.perform = e.performWithin depth) (cache : String) :
    Alike s R (saveCookies cx page cache) (saveCookies cx page cache) := by
  refine .bind (.onPage hs _ _ _) fun cookies ↦ .ite (.pure _) ?_
  have hwrite : Alike s R (do
      let _ ← file "login" "write" (.write cache (writeCookies cookies).toUTF8)
      display ": Cookies saved") (do
      let _ ← file "login" "write" (.write cache (writeCookies cookies).toUTF8)
      display ": Cookies saved") :=
    .bind (.file _ _ _) fun _ ↦ .display _
  split
  · exact hwrite
  · refine .bind (.pathExists _) fun found ↦ .ite ?_ hwrite
    rw [Context.invoke, hperform]
    exact .bind (makingDir_alike hbuiltin (by decide +kernel)) fun _ ↦ hwrite

omit hbuiltin in
/-- The parameters with which a secret text is typed stay as they are and differ in the text. -/
private theorem differAt_text (selector a b : String) :
    Members.DifferAt "text" a b
      [("selector", .str selector), ("text", .str a), ("secret", .bool true)]
      [("selector", .str selector), ("text", .str b), ("secret", .bool true)] := by
  refine ⟨fun other hother ↦ ?_, rfl, rfl⟩
  simp only [Members.get?, List.lookup_cons, beq_eq_false_iff_ne.2 hother]

/-- Filling in the form runs alike with two passwords. -/
private theorem fillIn_alike (hs : s.Hides R a b) (hperform : cx.perform = e.performWithin depth)
    {login : Login} (hfree : ∀ text ∈ login.texts, Placeholder.Free text)
    (hfree' : Placeholder.Free b) (hpassword : login.password = a) :
    Alike s R (fillIn cx page login) (fillIn cx page { login with password := b }) := by
  simp only [texts, List.forall_mem_cons] at hfree
  obtain ⟨hurl, huser, husername, hpass, hfree, hsubmit, -⟩ := hfree
  have hplain {text : String} (htext : Placeholder.Free text) (lookup : String → Option Json) :
      Placeholder.resolveMembers lookup [("selector", .str login.passwordSelector),
        ("text", .str text), ("secret", .bool true)] = [("selector", .str login.passwordSelector),
          ("text", .str text), ("secret", .bool true)] := by
    simp [Placeholder.resolveMembers, Placeholder.resolve, hpass.resolveText_eq,
      htext.resolveText_eq]
  rw [fillIn, fillIn, Context.invoke, Context.invoke, Context.invoke, Context.invoke,
    Context.invoke, hperform]
  rw [hpassword] at hfree ⊢
  refine .bind (goto_alike hbuiltin hs hurl) fun _ ↦ .bind (.display _) fun _ ↦ ?_
  refine .bind (awaitVisible_alike hs _ _) fun _ ↦ ?_
  refine .bind (type_alike hbuiltin hs huser husername) fun _ ↦ ?_
  refine .bind (awaitVisible_alike hs _ _) fun _ ↦ ?_
  refine .bind (type_secret_alike hbuiltin hs (hplain hfree) (hplain hfree')
    (differAt_text _ a b) rfl) fun _ ↦ ?_
  refine .bind (.display _) fun _ ↦ .bind (awaitVisible_alike hs _ _) fun _ ↦ ?_
  refine .bind (clicking_alike hbuiltin hs hsubmit) fun _ ↦ .bind (.display _) fun _ ↦ ?_
  exact .bind (.onPage hs _ _ _) fun _ ↦ .pure _

/-- An attempt to log in runs alike with two passwords, also when it fails. -/
theorem once_alike (hs : s.Hides R a b) (hperform : cx.perform = e.performWithin depth)
    {login : Login} (hfree : ∀ text ∈ login.texts, Placeholder.Free text)
    (hfree' : Placeholder.Free b) (hpassword : login.password = a) :
    Alike s R (login.once cx page) ({ login with password := b }.once cx page) := by
  refine .indented (.bind (.getText (by decide)) fun base ↦ ?_)
  cases base with
  | none => exact .throw _
  | some base =>
    refine .bind (restore_alike hs _ _) fun restored ↦ .ite (.pure _) ?_
    have hsubmit : Alike s R (submit cx page login (Path.join base cookiesFile))
        (submit cx page { login with password := b } (Path.join base cookiesFile)) := by
      rw [submit_eq, submit_eq]
      exact .bind (fillIn_alike hbuiltin hs hperform hfree hfree' hpassword) fun _ ↦
        saveCookies_alike hbuiltin hs hperform _
    exact .bind hsubmit.outcome fun outcome ↦ .ofExcept _

end Performed

/-- A text of a login that is given is found under some key. -/
theorem GivenBy.exists_key {login : Login} {ps : Members} (h : login.GivenBy ps) {text : String}
    (htext : text ∈ login.texts) : ∃ key, ps.get? key = some (.str text) := by
  simp only [texts, List.mem_cons, List.not_mem_nil, or_false] at htext
  rcases htext with rfl | rfl | rfl | rfl | rfl | rfl
  · exact ⟨_, h.url⟩
  · exact ⟨_, h.usernameSelector⟩
  · exact ⟨_, h.username⟩
  · exact ⟨_, h.passwordSelector⟩
  · exact ⟨_, h.password⟩
  · exact ⟨_, h.submitSelector⟩

/-- Logins that are given with parameters which differ in the password differ in it alone. -/
theorem GivenBy.differ {login login' : Login} {ps ps' : Members} (h : login.GivenBy ps)
    (h' : login'.GivenBy ps') (hdiffer : ps.DifferAt "password" a b ps') :
    login.password = a ∧ login' = { login with password := b } := by
  have hsame {key text text' : String} (hkey : key ≠ "password")
      (hleft : ps.get? key = some (.str text)) (hright : ps'.get? key = some (.str text')) :
      text = text' :=
    Json.str.inj (Option.some.inj (hleft.symm.trans ((hdiffer.others key hkey).trans hright)))
  have hpassword : login.password = a :=
    Json.str.inj (Option.some.inj (h.password.symm.trans hdiffer.left))
  have hpassword' : login'.password = b :=
    Json.str.inj (Option.some.inj (h'.password.symm.trans hdiffer.right))
  have hname : login.cookieName = login'.cookieName := by
    rw [← h.cookieName, hdiffer.others _ (by decide), h'.cookieName]
  refine ⟨hpassword, ?_⟩
  rw [hsame (by decide) h.url h'.url, hsame (by decide) h.usernameSelector h'.usernameSelector,
    hsame (by decide) h.username h'.username,
    hsame (by decide) h.passwordSelector h'.passwordSelector,
    hsame (by decide) h.submitSelector h'.submitSelector, hname, ← hpassword']

end Login
end Action

namespace Engine

variable {e : Engine} {depth : Nat}

/-- A login runs alike with two passwords. -/
theorem login_secret_alike {s : Surroundings σ} {a b : String} (hs : s.Hides R a b)
    (hbuiltin : ∀ name ∈ "login" :: Action.Login.performed,
      e.registry.get? name = Action.builtinRegistry.get? name) {ps ps' : Members}
    (hdiffer : ps.DifferAt "password" a b ps') (hfilled : a ≠ "") (hfilled' : b ≠ "")
    (hplain : (Json.obj ps).Plain) (hplain' : (Json.obj ps').Plain) {awaited : Bool} :
    Action.Alike s R (e.performWithin depth ⟨"login", some ps, awaited⟩)
      (e.performWithin depth ⟨"login", some ps', awaited⟩) := by
  cases depth with
  | zero => exact .unfinished
  | succ depth =>
    refine performWithin_alike (fun _ ↦ Placeholder.resolveMembers_eq_self hplain)
      (fun _ ↦ Placeholder.resolveMembers_eq_self hplain') ?_ ?_
    · refine Schema.validate_eq_error_iff Action.Login.ofAction?_login (by decide) hdiffer ?_
      have hlength {text : String} (h : text ≠ "") : Schema.filled.check (.str text) = [] :=
        Schema.check_text_eq_nil.2
          ⟨text, rfl, Nat.one_le_iff_ne_zero.2 (mt String.length_eq_zero_iff.1 h)⟩
      simp [Action.Login.neededKeys, hlength hfilled, hlength hfilled']
    · intro qs qs' handler cx hchecked hchecked' hget hperform
      obtain rfl : handler = Action.login :=
        Option.some.inj (hget.symm.trans (hbuiltin "login" List.mem_cons_self))
      obtain ⟨login, hlogin, hgiven, -⟩ := Action.Login.exists_ofParams hchecked
      obtain ⟨login', hlogin', hgiven', -⟩ := Action.Login.exists_ofParams hchecked'
      obtain ⟨hpassword, rfl⟩ := hgiven.differ hgiven' hdiffer
      refine .ofExcept_bind hlogin hlogin' (.bind (.ofExcept _) fun page ↦ .withRetries _ ?_)
      refine Action.Login.once_alike (fun name h ↦ hbuiltin name (List.mem_cons_of_mem _ h)) hs
        hperform (fun text htext ↦ ?_) (Placeholder.free_of_plain hplain' hdiffer.right) hpassword
      obtain ⟨key, hkey⟩ := hgiven.exists_key htext
      exact Placeholder.free_of_plain hplain hkey

/-- **Secrets do not come out.** Two runs of a login differ in the password alone, or two runs of
typing a secret text in that text alone; neither text is empty, and no text among the parameters is a
template. Then both runs, in the same world with the same scripted pages, come to the same result or
the same error, put out the same lines, leave the same files and take the same time. Their pages are
the same but for the events of typing, in which the one text stands in the place of the other. It
does not matter which calls of a page fail, and how often an attempt is repeated. -/
theorem secret_hidden (e : Engine) (depth : Nat) (action key : String) (awaited : Bool)
    (hbuiltin : ∀ name ∈ "login" :: Action.Login.performed,
      e.registry.get? name = Action.builtinRegistry.get? name)
    (ps ps' : Members) (a b : String)
    (haction : (action = "login" ∧ key = "password") ∨
      (action = "type" ∧ key = "text" ∧ ps.get? "secret" = some (.bool true)))
    (hdiffer : ps.DifferAt key a b ps') (hfilled : a ≠ "") (hfilled' : b ≠ "")
    (hplain : (Json.obj ps).Plain) (hplain' : (Json.obj ps').Plain) (w : World Rehearsal) :
    let performed := (e.performWithin depth ⟨action, some ps, awaited⟩).run.run
      Rehearsal.surroundings w
    let performed' := (e.performWithin depth ⟨action, some ps', awaited⟩).run.run
      Rehearsal.surroundings w
    performed.1 = performed'.1 ∧ performed.2.lines = performed'.2.lines ∧
      performed.2.files = performed'.2.files ∧ performed.2.clock = performed'.2.clock ∧
      performed.2.rest.Alike a b performed'.2.rest := by
  intro performed performed'
  have hs := Rehearsal.hides a b
  have halike : Action.Alike Rehearsal.surroundings (Rehearsal.Alike a b)
      (e.performWithin depth ⟨action, some ps, awaited⟩)
      (e.performWithin depth ⟨action, some ps', awaited⟩) := by
    rcases haction with ⟨rfl, rfl⟩ | ⟨rfl, rfl, hsecret⟩
    · exact login_secret_alike hs hbuiltin hdiffer hfilled hfilled' hplain hplain'
    · exact Action.Login.type_secret_alike
        (fun name h ↦ hbuiltin name (List.mem_cons_of_mem _ h)) hs
        (fun _ ↦ Placeholder.resolveMembers_eq_self hplain)
        (fun _ ↦ Placeholder.resolveMembers_eq_self hplain') hdiffer hsecret
  obtain ⟨hresult, hworld⟩ := halike.runs (.refl w (.refl w.rest))
  exact ⟨hresult, hworld.lines, hworld.files, hworld.clock, hworld.rest⟩

/-- Parameters of a login on the page of a form differ in the password. -/
theorem differAt_formParams (a b : String) :
    (formParams a).DifferAt "password" a b (formParams b) := by
  refine ⟨fun other hother ↦ ?_, rfl, rfl⟩
  simp only [formParams, Members.get?, List.lookup_cons, beq_eq_false_iff_ne.2 hother]

/-- Typing fails once and is repeated in two logins with different passwords, which put out the same
lines. The password itself is typed. -/
theorem secret_hidden_repeated :
    let e : Engine := { registry := Action.builtinRegistry }
    let page : ScriptedPage := { formPage with failures := [("type", "Navigation timeout")] }
    let w : World Rehearsal := { formWorld [] with rest := { pages := #[page] } }
    let performed (password : String) :=
      (e.performWithin 3 ⟨"login", some (formParams password), true⟩).run.run
        Rehearsal.surroundings w
    (performed "hunter2").1 = (performed "swordfish").1 ∧
      (performed "hunter2").2.lines = (performed "swordfish").2.lines ∧
      (performed "hunter2").2.rest.Alike "hunter2" "swordfish" (performed "swordfish").2.rest ∧
      (performed "hunter2").1.map Except.isOk = some true ∧
      (performed "hunter2").2.rest.pages[0]?.map (·.events.contains "type #pass hunter2") =
        some true := by
  intro e page w performed
  obtain ⟨hresult, hlines, -, -, hrest⟩ := secret_hidden e 3 "login" "password" true (fun _ _ ↦ rfl)
    (formParams "hunter2") (formParams "swordfish") "hunter2" "swordfish" (.inl ⟨rfl, rfl⟩)
    (differAt_formParams _ _) (by decide) (by decide) (by decide +kernel) (by decide +kernel) w
  exact ⟨hresult, hlines, hrest, by decide +kernel, by decide +kernel⟩

end Engine
end WebRecipe
