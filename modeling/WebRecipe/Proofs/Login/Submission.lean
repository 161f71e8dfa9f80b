import WebRecipe.Proofs.Page.Builtin
import WebRecipe.Proofs.Page.Calls
import WebRecipe.Proofs.Schema

/-!
# What a login types

A login without saved cookies goes to its URL, types the user name and the password into their fields,
clicks the button and waits for the next page; then it asks the page for its cookies. It has other
actions do the first three, each of which resolves its parameters again. The texts of the login were
resolved before, and so they arrive as they are if no placeholder stands in them. A placeholder that
came into a text with a stored value is replaced on the way.

## Main definitions

* `Action.Login.submission`: the calls of the page up to the one for its cookies.
* `Action.Login.attemptWith`: an attempt to log in whose cookies are saved in a given file.
* `World.LacksCookies`: no saved cookies are taken in the place of a login.

## Main results

* `Action.Login.fillIn_delivers`: the form is filled in and submitted with the texts of the login.
* `Engine.login_delivers`: what a login types that was resolved.
-/

namespace WebRecipe

variable {σ : Type}

namespace Action

variable {s : Surroundings σ} {page : PageId} {cx : Context}

/-! ### Typing and clicking -/

theorem typeText_delivers (hpage : cx.page = some page) {ps : Members} {selector text : String}
    (hselector : ps.get? "selector" = some (.str selector))
    (htext : ps.get? "text" = some (.str text)) :
    Delivers s page (typeText cx ps)
      [.waitForSelector selector true visibleTimeout, .typeText selector text] := by
  refine .text_bind hselector (.text_bind htext (.needPage_bind hpage ?_))
  refine .withRetries _ (.bind (.display _) fun _ ↦ ?_)
  exact .bind (.onPage _ _) fun _ ↦ .onPage _ _

/-- A click on a selector alone is made on the first element. -/
theorem click_delivers (hpage : cx.page = some page) {selector : String} :
    Delivers s page (click cx [("selector", .str selector)])
      [.waitForSelector selector true visibleTimeout, .click selector 0] := by
  refine .text_bind rfl (.needPage_bind hpage ?_)
  exact .withRetries _ (.bind (.onPage _ _) fun _ ↦ .onPage _ _)

/-- A page is gone to by the name of the method. -/
theorem callMethod_goto_delivers (hpage : cx.page = some page) {url : String} :
    Delivers s page (callMethod cx [("func", .str "goto"), ("url", .str url)])
      [.goto url PageMethod.navigationTimeout] := by
  have hcall : Delivers s page
      (ExceptT.lift (PageMethod.call page "goto" none [.str url]).run :
        Action (Except PageError Json)) [.goto url PageMethod.navigationTimeout] := by
    refine ⟨fun w later hactive hanswers ↦ ?_⟩
    obtain ⟨reply, rest, hreply, hlater⟩ := hanswers.exists_reply
    have hgoes : (ExceptT.lift (PageMethod.call page "goto" none [.str url]).run :
        Action (Except PageError Json)).run =
          Routine.command (.page page (.goto url PageMethod.navigationTimeout)) >>=
            fun o : Except PageError Unit ↦ .done (.ok (o.map fun _ ↦ .null)) := by
      refine congrArg (Routine.step _) (funext fun o ↦ ?_)
      cases o <;> rfl
    have hmakes := Routine.makes_page s w page (.goto url PageMethod.navigationTimeout)
    rw [hreply] at hmakes
    rw [hgoes]
    exact ⟨_, _, hmakes.bind (.done _ _), hactive, hlater⟩
  refine .text_bind rfl (.bind (.display _) fun _ ↦ ?_)
  rw [if_neg (by decide)]
  refine .needPage_bind hpage (.bind hcall fun outcome ↦ ?_)
  cases outcome with
  | ok result => exact .put _ _
  | error err => exact .display _

/-! ### Filling in a form -/

namespace Login

/-- The calls of the page from going to it up to the next page. -/
def submission (login : Login) : List PageCall :=
  [.goto login.url PageMethod.navigationTimeout,
    .waitForSelector login.usernameSelector true usernameTimeout,
    .waitForSelector login.usernameSelector true visibleTimeout,
    .typeText login.usernameSelector login.username,
    .waitForSelector login.passwordSelector true visibleTimeout,
    .waitForSelector login.passwordSelector true visibleTimeout,
    .typeText login.passwordSelector login.password,
    .waitForSelector login.submitSelector true visibleTimeout,
    .waitForSelector login.submitSelector true visibleTimeout,
    .click login.submitSelector 0,
    .waitForNavigation submitTimeout]

/-- Goes to the page, fills in the form and waits for the next page. -/
def fillIn (cx : Context) (page : PageId) (login : Login) : Action Unit := do
  cx.invoke "puppeteer" [("func", .str "goto"), ("url", .str login.url)]
  display ": Page loaded"
  awaitVisible page login.usernameSelector usernameTimeout
  cx.invoke "type" [("selector", .str login.usernameSelector), ("text", .str login.username)]
  awaitVisible page login.passwordSelector visibleTimeout
  cx.invoke "type" [("selector", .str login.passwordSelector), ("text", .str login.password),
    ("secret", .bool true)]
  display ": Credentials entered"
  awaitVisible page login.submitSelector visibleTimeout
  cx.invoke "click" [("selector", .str login.submitSelector)]
  display ": Login submitted"
  let _ ← onPage page (.waitForNavigation submitTimeout) (pageFailure "login")

/-- The cookies are saved after the form was filled in. -/
theorem submit_eq (cx : Context) (page : PageId) (login : Login) (cache : String) :
    submit cx page login cache = (do fillIn cx page login; saveCookies cx page cache) := by
  simp only [submit, fillIn, bind_assoc, pure_bind]

/-- The texts that a login has other actions resolve again. -/
def texts (login : Login) : List String :=
  [login.url, login.usernameSelector, login.username, login.passwordSelector, login.password,
    login.submitSelector]

theorem awaitVisible_delivers (selector : String) (timeout : Nat) :
    Delivers s page (awaitVisible page selector timeout)
      [.waitForSelector selector true timeout] :=
  .bind (.onPage _ _) fun _ ↦ .pure _

/-- The parameters of going to a page pass the check as they are. -/
theorem validate_goto (url : String) :
    Schema.validate "puppeteer" [("func", .str "goto"), ("url", .str url)] =
      .ok [("func", .str "goto"), ("url", .str url)] := by
  have hcheck : (Schema.params [("func", .filled)] [("func2", .anyText)]).check
      (.obj [("func", .str "goto"), ("url", .str url)]) = [] := by
    refine Schema.check_object_eq_nil.2 ⟨_, rfl, ?_, ?_⟩
    · simp [Members.has]
    · have hfilled : Schema.filled.check (.str "goto") = [] :=
        Schema.check_text_eq_nil.2 ⟨"goto", rfl, by decide⟩
      simp [Members.get?, List.lookup_cons, hfilled]
  exact Schema.validate_of_check rfl hcheck rfl

section Performed

variable {e : Engine} {depth : Nat}
  (hbuiltin : ∀ name ∈ performed, e.registry.get? name = builtinRegistry.get? name)

include hbuiltin

private theorem goto_delivers {url : String} (hurl : Placeholder.Free url) :
    Delivers s page
      (e.performWithin (depth + 1)
        ⟨"puppeteer", some [("func", .str "goto"), ("url", .str url)], true⟩)
      [.goto url PageMethod.navigationTimeout] := by
  have hgoto : Placeholder.Free "goto" := by decide +kernel
  refine Engine.delivers_performWithin (fun lookup ↦ ?_) (validate_goto url)
    (hbuiltin _ (by decide)) fun cx hcx ↦ callMethod_goto_delivers hcx
  simp [Placeholder.resolveMembers, Placeholder.resolve, hgoto.resolveText_eq, hurl.resolveText_eq]

private theorem type_delivers {selector text : String} (hselector : Placeholder.Free selector)
    (hfilled : 1 ≤ selector.length) (htext : Placeholder.Free text) {extra : Members}
    (hextra : extra = [] ∨ extra = [("secret", .bool true)]) :
    Delivers s page
      (e.performWithin (depth + 1)
        ⟨"type", some (("selector", .str selector) :: ("text", .str text) :: extra), true⟩)
      [.waitForSelector selector true visibleTimeout, .typeText selector text] := by
  have hcheck : (Schema.params [("selector", .filled), ("text", .anyText)]
      [("secret", .boolean)]).check
        (.obj (("selector", .str selector) :: ("text", .str text) :: extra)) = [] := by
    refine Schema.check_object_eq_nil.2 ⟨_, rfl, ?_, ?_⟩
    · simp [Members.has]
    · have hselector : Schema.filled.check (.str selector) = [] :=
        Schema.check_text_eq_nil.2 ⟨selector, rfl, hfilled⟩
      have htext : Schema.anyText.check (.str text) = [] :=
        Schema.check_text_eq_nil.2 ⟨text, rfl, Nat.zero_le _⟩
      rcases hextra with rfl | rfl <;>
        simp [Members.get?, List.lookup_cons, hselector, htext, Schema.check]
  have hchecked : Schema.validate "type" (("selector", .str selector) :: ("text", .str text) ::
      extra) = .ok (("selector", .str selector) :: ("text", .str text) :: extra) := by
    rw [Schema.validate_of_check rfl hcheck rfl]
    rcases hextra with rfl | rfl <;> rfl
  refine Engine.delivers_performWithin (fun lookup ↦ ?_) hchecked (hbuiltin _ (by decide))
    fun cx hcx ↦ typeText_delivers hcx rfl rfl
  rcases hextra with rfl | rfl <;>
    simp [Placeholder.resolveMembers, Placeholder.resolve, hselector.resolveText_eq,
      htext.resolveText_eq]

private theorem clicking_delivers {selector : String} (hselector : Placeholder.Free selector)
    (hfilled : 1 ≤ selector.length) :
    Delivers s page
      (e.performWithin (depth + 1) ⟨"click", some [("selector", .str selector)], true⟩)
      [.waitForSelector selector true visibleTimeout, .click selector 0] := by
  have hcheck : (Schema.params [("selector", .filled)]
      [("attribute", .anyText), ("text", .anyText)]).check
        (.obj [("selector", .str selector)]) = [] := by
    refine Schema.check_object_eq_nil.2 ⟨_, rfl, ?_, ?_⟩
    · simp [Members.has]
    · have hselector : Schema.filled.check (.str selector) = [] :=
        Schema.check_text_eq_nil.2 ⟨selector, rfl, hfilled⟩
      simp [Members.get?, List.lookup_cons, hselector]
  refine Engine.delivers_performWithin (fun lookup ↦ ?_) (Schema.validate_of_check rfl hcheck rfl)
    (hbuiltin _ (by decide)) fun cx hcx ↦ click_delivers hcx
  simp [Placeholder.resolveMembers, Placeholder.resolve, hselector.resolveText_eq]

/-- A form is filled in with the texts of the login, if no placeholder stands in them. -/
theorem fillIn_delivers (hperform : cx.perform = e.performWithin (depth + 1)) {login : Login}
    (hfree : ∀ text ∈ login.texts, Placeholder.Free text)
    (hfilled : ∀ text ∈ login.texts, 1 ≤ text.length) :
    Delivers s page (fillIn cx page login) login.submission := by
  simp only [texts, List.forall_mem_cons] at hfree hfilled
  obtain ⟨hurl, huser, husername, hpass, hpassword, hsubmit, -⟩ := hfree
  obtain ⟨-, huser', -, hpass', -, hsubmit', -⟩ := hfilled
  rw [fillIn, Context.invoke, Context.invoke, Context.invoke, Context.invoke, hperform]
  refine .bind (goto_delivers hbuiltin hurl) fun _ ↦ ?_
  refine .bind (.display _) fun _ ↦ ?_
  refine .bind (awaitVisible_delivers _ _) fun _ ↦ ?_
  refine .bind (type_delivers hbuiltin huser huser' husername (.inl rfl)) fun _ ↦ ?_
  refine .bind (awaitVisible_delivers _ _) fun _ ↦ ?_
  refine .bind (type_delivers hbuiltin hpass hpass' hpassword (.inr rfl)) fun _ ↦ ?_
  refine .bind (.display _) fun _ ↦ ?_
  refine .bind (awaitVisible_delivers _ _) fun _ ↦ ?_
  refine .bind (clicking_delivers hbuiltin hsubmit hsubmit') fun _ ↦ ?_
  refine .bind (.display _) fun _ ↦ ?_
  exact .bind (.onPage _ _) fun _ ↦ .pure _

/-! ### Saving the cookies -/

private theorem createDir_asksNothing (s : Surroundings σ) (ps : Members) :
    MadeOf s (·.pageCall? = none) (fun _ ↦ False)
      (e.performWithin (depth + 1) ⟨"createDir", some ps, true⟩) (fun _ ↦ True) := by
  refine .bind (e.prepare_asksNothing s _) fun p hp ↦ ?_
  have hhandler : p.handler = createDir :=
    Option.some.inj (hp.symm.trans (hbuiltin "createDir" (by decide)))
  rw [Engine.dispatch, hhandler]
  -- the action does not look at its page, and so it keeps to none
  have hnone := createDir_keepsPage s ⟨e.settings, none, e.performWithin depth, e.patience⟩ p.params
  refine ⟨hnone.routine.weaken (fun c hc ↦ ?_) fun _ ↦ id⟩
  cases c with
  | page => cases hc
  | _ => rfl

/-- Where cookies are saved the page is asked for them, and for nothing else. -/
theorem pageCalls_saveCookies (hperform : cx.perform = e.performWithin (depth + 1))
    (s : Surroundings σ) (w : World σ) (page : PageId) (cache : String) :
    (saveCookies cx page cache).run.pageCalls s w = [(page, .cookies)] := by
  have hsaved : ∃ f : PageCall.cookies.Reply → Action Unit,
      saveCookies cx page cache = onPage page .cookies (pageFailure "login") >>= f ∧
        ∀ cookies, MadeOf s (·.pageCall? = none) (fun _ ↦ False) (f cookies) (fun _ ↦ True) := by
    refine ⟨_, rfl, fun cookies ↦ .ite (.pure trivial) ?_⟩
    have hwrite : MadeOf s (·.pageCall? = none) (fun _ ↦ False) (do
        let _ ← file "login" "write" (.write cache (writeCookies cookies).toUTF8)
        display ": Cookies saved") (fun _ ↦ True) :=
      .bind (.bind (.command rfl) fun _ _ ↦ .orFail) fun _ _ ↦ .command rfl
    split
    · exact hwrite
    · have hexists (path : String) : MadeOf s (·.pageCall? = none) (fun _ ↦ False)
          (pathExists path) (fun _ ↦ True) := by
        refine .bind (.command rfl) fun reply _ ↦ ?_
        split
        · exact .pure trivial
        · exact .pure trivial
      refine .bind (hexists _) fun found _ ↦ .ite ?_ hwrite
      rw [Context.invoke, hperform]
      exact .bind (createDir_asksNothing hbuiltin s _) fun _ _ ↦ hwrite
  obtain ⟨f, hsaves, hf⟩ := hsaved
  have hasks := makes_onPage s w page .cookies (pageFailure "login")
  rw [hsaves, ExceptT.run_bind, Routine.pageCalls_bind hasks]
  cases (s.page page .cookies w.rest).1 with
  | error err => rfl
  | ok cookies =>
    exact congrArg (List.cons _) (Routine.pageCalls_of_madeOf (hf cookies).routine fun _ h ↦ h)

end Performed
end Login
end Action

/-! ### Saved cookies that are not taken -/

/-- No saved cookies are taken in the place of a login: there is no file of them, or what can be read
in it holds no valid cookie that counts, and the file can be deleted. -/
inductive World.LacksCookies (s : Surroundings σ) (w : World σ) (cache : String)
    (name : Option String) : Prop
  | absent (missing : w.files.pathExists cache = false)
  | stale {text : String} (reads : w.files.readText cache = .ok text)
      (stale : (Action.Login.token? name (Action.Login.readCookies text)).any
        (Action.Login.isValidAt (s.now w.rest)) = false)
      (removes : (w.files.removeFile cache).1 = .ok ())

/-- Only the files and the time of day matter for saved cookies. -/
theorem World.LacksCookies.of_eq {s : Surroundings σ} {w w' : World σ} {cache : String}
    {name : Option String} (h : w.LacksCookies s cache name) (hfiles : w'.files = w.files)
    (hrest : w'.rest = w.rest) : w'.LacksCookies s cache name := by
  cases h with
  | absent missing => exact .absent (hfiles ▸ missing)
  | stale reads stale removes =>
    exact .stale (hfiles ▸ reads) (hrest ▸ stale) (hfiles ▸ removes)

namespace Action.Login

variable {s : Surroundings σ} {w : World σ} {page : PageId} {cache : String} {name : Option String}

/-- Saved cookies that can be read are taken if the one that counts is valid, and else deleted. -/
theorem restore_makes_of_read {text : String} {calls : List (PageId × PageCall)}
    {o : Except ActionError Bool} {w' : World σ} (hfound : w.files.pathExists cache = true)
    (hreads : w.files.readText cache = .ok text)
    (h : (if (token? name (readCookies text)).any (isValidAt (s.now w.rest)) then (do
        let _ ← onPage page (.setCookies (readCookies text)) (pageFailure "login")
        display ": Cookies loaded"
        return true)
      else (do
        let _ ← file "login" "unlink" (.removeFile cache)
        display ": Cookies expired"
        return false) : Action Bool).run.Makes s (w.showing ": Loading cookies") calls o w') :
    (restore page cache name).run.Makes s w calls o w' := by
  have hexists : (pathExists cache).run.Makes s w [] (.ok (w.files.pathExists cache)) w :=
    ⟨rfl, rfl⟩
  have hread : (FileCall.readText cache).answer (w.showing ": Loading cookies").files =
      (.ok text, w.files) :=
    Prod.ext hreads rfl
  rw [hfound] at hexists
  exact makes_bind hexists (makes_bind (makes_command rfl)
    (makes_bind (makes_file "login" "read" hread) (makes_bind (makes_command rfl) h)))

/-- Where there are no valid cookies a login goes on without asking the page for anything. -/
theorem restore_makes_of_lacks (page : PageId) (h : w.LacksCookies s cache name) :
    ∃ w', (restore page cache name).run.Makes s w [] (.ok false) w' ∧
      w'.store = w.store ∧ w'.rest = w.rest := by
  cases hfound : w.files.pathExists cache with
  | false =>
    have hexists : (pathExists cache).run.Makes s w [] (.ok (w.files.pathExists cache)) w :=
      ⟨rfl, rfl⟩
    rw [hfound] at hexists
    exact ⟨w, makes_bind hexists (.done _ _), rfl, rfl⟩
  | true =>
    cases h with
    | absent missing => cases missing.symm.trans hfound
    | stale reads stale removes =>
      have hremove : (FileCall.removeFile cache).answer (w.showing ": Loading cookies").files =
          (.ok (), (w.files.removeFile cache).2) :=
        Prod.ext removes rfl
      let kept : World σ := { w.showing ": Loading cookies" with
        files := (w.files.removeFile cache).2 }
      refine ⟨kept.showing ": Cookies expired", restore_makes_of_read hfound reads ?_, rfl, rfl⟩
      rw [stale, if_neg Bool.false_ne_true]
      exact makes_bind (makes_file "login" "unlink" hremove)
        (makes_bind (makes_command rfl) (.done _ _))

/-- An attempt to log in whose file of saved cookies is known. -/
def attemptWith (cx : Context) (page : PageId) (login : Login) (cache : String) : Action Unit := do
  if ← restore page cache login.cookieName then return ()
  let outcome ← ExceptT.lift (submit cx page login cache).run
  orFail (fun e ↦ .network "login" login.url e.message) outcome

section Attempt

variable {cx : Context} {login : Login} {base : String}
  (hbase : (w.store.get? Key.baseDir).bind Json.asStr? = some base)

include hbase

theorem makes_baseDir (s : Surroundings σ) :
    (getText Key.baseDir).run.Makes s w.deeper [] (.ok (some base)) w.deeper := by
  refine ⟨rfl, ?_⟩
  rw [← hbase, ← Store.get?_put_other (show Key.baseDir ≠ Key.indent by decide)]
  rfl

/-- The file of saved cookies is in the base directory. -/
theorem makes_once {calls : List (PageId × PageCall)} {o : Except ActionError Unit} {w' : World σ}
    (h : (login.attemptWith cx page (Path.join base cookiesFile)).run.Makes s w.deeper calls o w') :
    (login.once cx page).run.Makes s w calls o w'.shallower :=
  makes_indented (makes_bind (makes_baseDir hbase s) h)

theorem pageCalls_once_eq : (login.once cx page).run.pageCalls s w =
    (login.attemptWith cx page (Path.join base cookiesFile)).run.pageCalls s w.deeper := by
  rw [once, pageCalls_indented, ExceptT.run_bind, Routine.pageCalls_bind (makes_baseDir hbase s)]
  rfl

end Attempt

/-- Where saved cookies are not taken an attempt asks what submitting the form asks. -/
theorem pageCalls_attemptWith {cx : Context} {login : Login} {w' : World σ}
    (h : (restore page cache login.cookieName).run.Makes s w [] (.ok false) w') :
    (login.attemptWith cx page cache).run.pageCalls s w =
      (submit cx page login cache).run.pageCalls s w' := by
  rw [attemptWith, ExceptT.run_bind, Routine.pageCalls_bind h]
  refine (congrArg (Routine.pageCalls s w') (ExceptT.run_bind_lift _ _)).trans ?_
  exact Routine.pageCalls_bind_of_silent _ fun _ _ ↦ rfl

/-- An attempt without valid cookies asks the page what filling in the form and saving the cookies
asks it. -/
theorem pageCalls_once {e : Engine} {depth : Nat} {cx : Context}
    (hbuiltin : ∀ name ∈ performed, e.registry.get? name = builtinRegistry.get? name)
    (hperform : cx.perform = e.performWithin (depth + 1)) {login : Login}
    (hfree : ∀ text ∈ login.texts, Placeholder.Free text)
    (hfilled : ∀ text ∈ login.texts, 1 ≤ text.length)
    (hactive : w.store.activePage = some page) {base : String}
    (hbase : (w.store.get? Key.baseDir).bind Json.asStr? = some base)
    (hlacks : w.LacksCookies s (Path.join base cookiesFile) login.cookieName)
    (hanswers : s.Answers page (login.submission ++ [.cookies]) w.rest) :
    (login.once cx page).run.pageCalls s w =
      (login.submission ++ [PageCall.cookies]).map fun c ↦ (page, c) := by
  have hdeeper : w.deeper.LacksCookies s (Path.join base cookiesFile) login.cookieName :=
    hlacks.of_eq rfl rfl
  obtain ⟨w₁, hrestore, hstore, hrest⟩ := restore_makes_of_lacks page hdeeper
  have hactive₁ : w₁.store.activePage = some page := by
    rw [hstore]
    exact (w.store.activePage_put _ _).trans hactive
  have hfilling : Delivers s page (fillIn cx page login) login.submission :=
    fillIn_delivers hbuiltin hperform hfree hfilled
  obtain ⟨_, w₂, hfill, -, -⟩ := hfilling.makes w₁ [.cookies] hactive₁ (hrest ▸ hanswers)
  have hsubmit : (submit cx page login (Path.join base cookiesFile)).run.pageCalls s w₁ =
      (login.submission ++ [PageCall.cookies]).map fun c ↦ (page, c) := by
    rw [submit_eq, ExceptT.run_bind, Routine.pageCalls_bind hfill, List.map_append]
    exact congrArg _ (pageCalls_saveCookies hbuiltin hperform s w₂ page _)
  rw [pageCalls_once_eq hbase, pageCalls_attemptWith hrestore]
  exact hsubmit

/-! ### The parameters of a login -/

/-- The texts of a login are those that are given. -/
structure GivenBy (login : Login) (ps : Members) : Prop where
  url : ps.get? "url" = some (.str login.url)
  usernameSelector : ps.get? "usernameSelector" = some (.str login.usernameSelector)
  username : ps.get? "username" = some (.str login.username)
  passwordSelector : ps.get? "passwordSelector" = some (.str login.passwordSelector)
  password : ps.get? "password" = some (.str login.password)
  submitSelector : ps.get? "submitSelector" = some (.str login.submitSelector)
  cookieName : (ps.get? "cookieName").bind Json.asStr? = login.cookieName

/-- The parameters that a login cannot do without. -/
def neededKeys : List String :=
  ["url", "usernameSelector", "username", "passwordSelector", "password", "submitSelector"]

theorem ofAction?_login : Schema.ofAction? "login" =
    some (.params (neededKeys.map fun key ↦ (key, .filled)) [("cookieName", .anyText)]) :=
  rfl

/-- The parameters of a login stay as they are when they pass the check. -/
private theorem get?_of_validate_login {ps qs : Members} (h : Schema.validate "login" ps = .ok qs)
    {key : String} (hkey : key ∈ neededKeys ++ ["cookieName"]) : qs.get? key = ps.get? key := by
  have hdeclared : ∃ p ∈ neededKeys.map (fun key ↦ (key, Schema.filled)) ++
      [("cookieName", Schema.anyText)], p.1 = key := by
    simpa [eq_comm] using hkey
  refine Schema.get?_declared_of_validate ofAction?_login rfl h hdeclared fun p hp _ ↦ ?_
  rcases List.mem_append.1 hp with hp | hp
  · obtain ⟨_, -, rfl⟩ := List.mem_map.1 hp
    rfl
  · cases List.mem_singleton.1 hp
    rfl

/-- A login whose parameters pass the check has its texts, and none that it needs is empty. -/
theorem exists_ofParams {ps qs : Members} (h : Schema.validate "login" ps = .ok qs) :
    ∃ login, ofParams qs = .ok login ∧ login.GivenBy ps ∧
      ∀ text ∈ login.texts, 1 ≤ text.length := by
  obtain ⟨hrequired, hchecked⟩ := Schema.checked_of_validate ofAction?_login h
  have htext (key : String) (hkey : key ∈ neededKeys) : ∃ text, ps.get? key = some (.str text) ∧
      qs.text "login" key = .ok text ∧ 1 ≤ text.length := by
    have hmem := List.mem_map_of_mem (f := fun key ↦ (key, Schema.filled)) hkey
    obtain ⟨v, hv⟩ := Option.isSome_iff_exists.1 (hrequired _ hmem)
    obtain ⟨text, rfl, hfilled⟩ := Schema.check_text_eq_nil.1
      (hchecked _ (List.mem_append_left _ hmem) v hv)
    refine ⟨text, hv, ?_, hfilled⟩
    rw [Members.text, get?_of_validate_login h (List.mem_append_left _ hkey), hv]
    rfl
  obtain ⟨url, hurl, hurl', hurlFilled⟩ := htext "url" (by decide)
  obtain ⟨user, huser, huser', huserFilled⟩ := htext "usernameSelector" (by decide)
  obtain ⟨username, husername, husername', husernameFilled⟩ := htext "username" (by decide)
  obtain ⟨pass, hpass, hpass', hpassFilled⟩ := htext "passwordSelector" (by decide)
  obtain ⟨password, hpassword, hpassword', hpasswordFilled⟩ := htext "password" (by decide)
  obtain ⟨submit, hsubmit, hsubmit', hsubmitFilled⟩ := htext "submitSelector" (by decide)
  have hname : qs.text? "cookieName" = (ps.get? "cookieName").bind Json.asStr? := by
    rw [Members.text?, get?_of_validate_login h (by decide)]
  refine ⟨⟨url, user, username, pass, password, submit, qs.text? "cookieName"⟩, ?_,
    ⟨hurl, huser, husername, hpass, hpassword, hsubmit, hname.symm⟩, ?_⟩
  · rw [ofParams, hurl', huser', husername', hpass', hpassword', hsubmit']
    rfl
  · simp [texts, hurlFilled, huserFilled, husernameFilled, hpassFilled, hpasswordFilled,
      hsubmitFilled]

end Action.Login

namespace Engine

variable {s : Surroundings σ}

/-- A login that is resolved has the texts that were given, and tries to log in on its page. -/
theorem exists_login_of_prepared {e : Engine} (depth : Nat) {call : ActionCall}
    (hname : call.name = "login")
    (hbuiltin : e.registry.get? "login" = Action.builtinRegistry.get? "login") {w w₁ : World σ}
    {p : Prepared} (hprepared : (e.prepare call).run.run s w = (some (.ok p), w₁)) {page : PageId}
    (hactive : w.store.activePage = some page) :
    ∃ login, Action.Login.ofParams p.params = .ok login ∧
      login.GivenBy (call.resolvedIn w.store) ∧ (∀ text ∈ login.texts, 1 ≤ text.length) ∧
      (e.performWithin (depth + 1) call).run.pageCalls s w =
        (Action.withRetries Action.Login.retries
          (login.once (e.context depth p) page)).run.pageCalls s w₁ ∧
      (e.performWithin (depth + 1) call).run.run s w =
        (Action.withRetries Action.Login.retries
          (login.once (e.context depth p) page)).run.run s w₁ := by
  obtain ⟨hchecked, hget, -⟩ := announced_of_prepared hprepared
  rw [hname] at hchecked hget
  obtain ⟨login, hlogin, hgiven, hfilled⟩ := Action.Login.exists_ofParams hchecked
  have hpage : p.page = some page := (page_of_prepared hprepared).trans hactive
  have hhandler : p.handler = Action.login := Option.some.inj (hget.symm.trans hbuiltin)
  have hgoes : p.handler (e.context depth p) p.params =
      Action.withRetries Action.Login.retries (login.once (e.context depth p) page) := by
    rw [hhandler, Action.login, hlogin, Context.needPage, context, hpage]
    rfl
  refine ⟨login, hlogin, hgiven, hfilled, ?_⟩
  rw [← hgoes]
  exact ⟨pageCalls_performWithin hprepared, performWithin_of_prepared hprepared depth⟩

/-- **A login types what it was given, where no placeholder stands in it.** It is resolved, its page
is active, a base directory is set, and there are no valid cookies. Its texts are those that were
given. If no placeholder stands in them and the calls of the page succeed, an attempt asks the page
for the following and nothing else: it goes to the URL, types the user name and then the password into
their fields, clicks the button once and waits for the next page, each time after the element is
visible; then it asks for the cookies. The login as a whole begins with these calls, and with them
ends, unless the cookies could not be saved for a cause that may pass. -/
theorem login_delivers (e : Engine) (s : Surroundings σ) (depth : Nat) (call : ActionCall)
    (hname : call.name = "login") (hbuiltin : ∀ name ∈ "login" :: Action.Login.performed,
      e.registry.get? name = Action.builtinRegistry.get? name)
    (w w₁ : World σ) (p : Prepared)
    (hprepared : (e.prepare call).run.run s w = (some (.ok p), w₁)) (page : PageId)
    (hactive : w.store.activePage = some page) (base : String)
    (hbase : (w.store.get? Key.baseDir).bind Json.asStr? = some base) :
    ∃ login, Action.Login.ofParams p.params = .ok login ∧
      login.GivenBy (call.resolvedIn w.store) ∧
      (w.LacksCookies s (Path.join base Action.Login.cookiesFile) login.cookieName →
        (∀ text ∈ login.texts, Placeholder.Free text) →
        s.Answers page (login.submission ++ [.cookies]) w.rest →
        let attempt := (login.once (e.context (depth + 1) p) page).run
        let performed := (e.performWithin (depth + 2) call).run
        let asked := (login.submission ++ [PageCall.cookies]).map fun c ↦ (page, c)
        attempt.pageCalls s w₁ = asked ∧ asked <+: performed.pageCalls s w ∧
        ((∀ err w', attempt.run s w₁ = (some (.error err), w') → isPassing err.message = false) →
          performed.pageCalls s w = asked ∧ performed.run s w = attempt.run s w₁)) := by
  obtain ⟨login, hlogin, hgiven, hfilled, hcalls, hrun⟩ :=
    exists_login_of_prepared (depth + 1) hname (hbuiltin _ List.mem_cons_self) hprepared hactive
  obtain ⟨-, -, hannounced⟩ := announced_of_prepared hprepared
  refine ⟨login, hlogin, hgiven, fun hlacks hfree hanswers ↦ ?_⟩
  intro attempt performed asked
  have hattempt : attempt.pageCalls s w₁ = asked := by
    have hbase₁ : (w₁.store.get? Key.baseDir).bind Json.asStr? = some base := by
      rwa [hannounced.values _ (by decide)]
    exact Action.Login.pageCalls_once (fun name h ↦ hbuiltin name (List.mem_cons_of_mem _ h)) rfl
      hfree hfilled (hannounced.activePage.trans hactive) hbase₁
      (hlacks.of_eq hannounced.files hannounced.rest) (hannounced.rest ▸ hanswers)
  refine ⟨hattempt, ?_, fun hlasting ↦ ?_⟩
  · rw [hcalls, ← hattempt]
    exact Action.pageCalls_prefix_withRetries _ _
  · obtain ⟨hsame, hlast⟩ := Action.withRetries_of_lasting Action.Login.retries hlasting
    exact ⟨hcalls.trans (hsame.trans hattempt), hrun.trans hlast⟩

/-! ### The page of a form -/

/-- The page of a form, with two fields and a button. -/
def formPage : ScriptedPage :=
  { elements := [("#user", {}), ("#pass", {}), ("#submit", {})] }

/-- A world in which the page of a form is open and active, with further values in the store. -/
def formWorld (values : Members) : World Rehearsal where
  store :=
    { values := (Key.baseDir, .str "/r/test") :: values
      pages := [(defaultPageLabel, 0)]
      activePage := some 0 }
  rest := { pages := #[formPage] }

/-- The parameters of a login on the page of a form. -/
def formParams (password : String) : Members :=
  [("url", .str "about:blank"), ("usernameSelector", .str "#user"), ("username", .str "me"),
    ("passwordSelector", .str "#pass"), ("password", .str password),
    ("submitSelector", .str "#submit")]

/-- A password without placeholders comes into the login as it is. -/
theorem resolvedIn_formParams {password : String} (h : Placeholder.Free password) (st : Store) :
    ActionCall.resolvedIn ⟨"login", some (formParams password), true⟩ st = formParams password := by
  have hurl : Placeholder.Free "about:blank" := by decide +kernel
  have huser : Placeholder.Free "#user" := by decide +kernel
  have husername : Placeholder.Free "me" := by decide +kernel
  have hpass : Placeholder.Free "#pass" := by decide +kernel
  have hsubmit : Placeholder.Free "#submit" := by decide +kernel
  simp [ActionCall.resolvedIn, ActionCall.paramsOrEmpty, formParams, Placeholder.resolveMembers,
    Placeholder.resolve, hurl.resolveText_eq, huser.resolveText_eq, husername.resolveText_eq,
    hpass.resolveText_eq, h.resolveText_eq, hsubmit.resolveText_eq]

/-- A login whose password has no placeholders is resolved with its parameters as they are. -/
theorem prepare_formParams (s : Surroundings σ) (w : World σ) {password : String}
    (h : Placeholder.Free password)
    (hchecked : Schema.validate "login" (formParams password) = .ok (formParams password)) :
    (prepare { registry := Action.builtinRegistry }
        ⟨"login", some (formParams password), true⟩).run.run s w =
      (some (.ok ⟨Action.login, formParams password, w.store.activePage⟩),
        (w.showing "Running action : login").putting Key.params (.obj (formParams password))) := by
  rw [run_prepare, resolvedIn_formParams h]
  dsimp only
  rw [hchecked]
  rfl

/-- A password with braces that are not closed is typed as it is. -/
theorem login_delivers_braces :
    let e : Engine := { registry := Action.builtinRegistry }
    let login : Action.Login :=
      ⟨"about:blank", "#user", "me", "#pass", "\x7b\x7b q", "#submit", none⟩
    let performed := (e.performWithin 2 ⟨"login", some (formParams "\x7b\x7b q"), true⟩).run
    performed.pageCalls Rehearsal.surroundings (formWorld []) =
        (login.submission ++ [PageCall.cookies]).map (fun c ↦ (0, c)) ∧
      (performed.run Rehearsal.surroundings (formWorld [])).1.map Except.isOk = some true := by
  intro e login performed
  let w := formWorld []
  have hfree : ∀ text ∈ login.texts, Placeholder.Free text := by decide +kernel
  have hpassword : Placeholder.Free "\x7b\x7b q" := by decide +kernel
  have hchecked : Schema.validate "login" (formParams "\x7b\x7b q") =
      .ok (formParams "\x7b\x7b q") :=
    Schema.validate_of_check Action.Login.ofAction?_login (by decide +kernel) (by decide +kernel)
  let p : Prepared := ⟨Action.login, formParams "\x7b\x7b q", some 0⟩
  let w₁ := (w.showing "Running action : login").putting Key.params
    (.obj (formParams "\x7b\x7b q"))
  obtain ⟨given, -, hgiven, hdelivers⟩ := login_delivers e Rehearsal.surroundings 0
    ⟨"login", some (formParams "\x7b\x7b q"), true⟩ rfl (fun _ _ ↦ rfl) w w₁ p
    (prepare_formParams Rehearsal.surroundings w hpassword hchecked) 0 rfl "/r/test" rfl
  have hlogin : given = login := by
    rw [resolvedIn_formParams hpassword] at hgiven
    obtain ⟨hurl, huser, husername, hpass, hpassword, hsubmit, hcookie⟩ := hgiven
    cases given
    cases hurl
    cases huser
    cases husername
    cases hpass
    cases hpassword
    cases hsubmit
    cases hcookie
    rfl
  subst hlogin
  have hanswers : Rehearsal.surroundings.Answers 0 (login.submission ++ [.cookies]) w.rest := by
    decide +kernel
  have hsucceeds : ((login.once (e.context 1 p) 0).run.run Rehearsal.surroundings w₁).1.map
      Except.isOk = some true := by
    decide +kernel
  obtain ⟨-, -, hlasting⟩ := hdelivers (.absent (by decide +kernel)) hfree hanswers
  obtain ⟨hcalls, hrun⟩ := hlasting fun err w' hfails ↦ by
    rw [hfails] at hsucceeds
    cases hsucceeds
  refine ⟨hcalls, ?_⟩
  rw [show performed.run Rehearsal.surroundings w = _ from hrun]
  exact hsucceeds

/-- A password that came into the login with a stored value, and in which a placeholder stands, is
typed with the placeholder replaced. -/
theorem login_types_another_password :
    let e : Engine := { registry := Action.builtinRegistry }
    let w := formWorld [("PASS", .str "p\x7b\x7bq\x7d\x7d")]
    let call : ActionCall := ⟨"login", some (formParams "\x7b\x7bPASS\x7d\x7d"), true⟩
    let performed := (e.performWithin 2 call).run.run Rehearsal.surroundings w
    ((call.resolvedIn w.store).get? "password").bind Json.asStr? = some "p\x7b\x7bq\x7d\x7d" ∧
      performed.1.map Except.isOk = some true ∧
      performed.2.rest.pages[0]?.map (·.events) =
        some #["goto about:blank", "wait #user", "wait #user", "type #user me", "wait #pass",
          "wait #pass", "type #pass pundefined", "wait #submit", "wait #submit",
          "click #submit[0]", "navigation"] :=
  ⟨by decide +kernel, by decide +kernel, by decide +kernel⟩

end Engine
end WebRecipe
