import WebRecipe.Proofs.Files
import WebRecipe.Proofs.Json.RoundTrip
import WebRecipe.Proofs.Login.Submission
import WebRecipe.Proofs.Number.Whole

/-!
# Saved cookies

A login that has submitted its form asks the page for its cookies and writes them into a file of the
base directory. Another login with the same base directory reads the file and gives the cookies to its
page, instead of going to the page of the form, while the cookie that counts has not expired. If there
is no such cookie or it has expired, the file is deleted first, and then the form is submitted.

The seconds after which a cookie expires are written with a point and a zero. The zero is read as a
further digit: ten times the number is rounded to a double, which is then divided by ten. This gives
the number again if its tenfold has at most 54 bits, and of the larger ones only for some.

## Main definitions

* `Cookie.IsKept`: a cookie that is the same when it is written and read back.
* `Action.Login.Lasts`: the cookie that counts has not expired.
* `Routine.cookiesGot`: the cookies that a routine gets from a page.
* `Action.Login.HasSaved`: the base directory has a file with these cookies.

## Main results

* `Action.Login.readCookies_writeCookies`: cookies are read back from their text.
* `Action.Login.readText_of_once`: what an attempt that submitted the form has saved.
* `Action.Login.once_makes_of_lasts`, `Action.Login.restore_makes_of_not_lasts`: saved cookies are
  taken, or their file is deleted.
* `Engine.login_takes_saved_cookies`: a login takes the cookies that another one saved.
-/

namespace WebRecipe

variable {σ α β : Type}

/-! ### The text of cookies -/

namespace Cookie

/-- A cookie expires a whole number of seconds after the beginning of 1970. -/
structure ExpiresAt (c : Cookie) (z : Int) : Prop where
  whole : Double.isWhole c.expires = true
  seconds : Whole.ofFloat c.expires = .int z

/-- A cookie is the same when it is written and read back: it expires after a whole number of seconds,
and ten times the number, rounded to a double, over ten is the number again. -/
def IsKept (c : Cookie) : Prop :=
  ∃ z : Int, c.ExpiresAt z ∧ z.natAbs < 2 ^ 53 ∧
    Float.ofNat (10 * z.natAbs) / Float.ofNat 10 = Float.ofNat z.natAbs

/-- The tenfold of the seconds has at most 54 bits, as it has in the next fifty million years. -/
theorem ExpiresAt.isKept {c : Cookie} {z : Int} (h : c.ExpiresAt z) (hz : 10 * z.natAbs ≤ 2 ^ 54) :
    c.IsKept :=
  ⟨z, h, by omega, Double.ofNat_ten_mul_div hz⟩

theorem decode_toJson (c : Cookie) : decode c.toJson = .ok c :=
  rfl

theorem decode_list (cookies : List Cookie) :
    Decode.list decode (.arr (cookies.map toJson)) = .ok cookies := by
  rw [Decode.list]
  induction cookies with
  | nil => rfl
  | cons c cookies ih =>
    rw [List.map_cons, List.mapM_cons, decode_toJson, ih]
    rfl

theorem IsKept.kept_toJson {c : Cookie} (h : c.IsKept) (depth : Nat) :
    Json.Kept (depth + 2) c.toJson := by
  obtain ⟨z, hz, hsmall, htenth⟩ := h
  obtain ⟨negative, hexpires, -⟩ := Double.eq_ofWhole hz.whole hz.seconds hsmall
  have hkeys : (fields.map Decode.Field.name).Nodup := by decide
  refine .obj hkeys ?_
  rw [hexpires]
  simp only [List.forall_mem_cons]
  exact ⟨.str _, .str _, .str _, .str _, .double negative hsmall htenth, .bool _, .bool _,
    List.forall_mem_nil _⟩

end Cookie

namespace Action.Login

/-- Cookies are read back from their text. -/
theorem readCookies_writeCookies {cookies : List Cookie} (h : ∀ c ∈ cookies, c.IsKept) :
    readCookies (writeCookies cookies) = cookies := by
  have hkept : Json.Kept 128 (.arr (cookies.map Cookie.toJson)) := by
    refine .arr fun v hv ↦ ?_
    obtain ⟨c, hc, rfl⟩ := List.mem_map.1 hv
    exact (h c hc).kept_toJson _
  rw [readCookies, writeCookies, Json.parse_compact hkept]
  dsimp only
  rw [Cookie.decode_list]

/-- A cookie is valid as long as its seconds are not over. -/
theorem isValidAt_iff {now z : Int} {c : Cookie} (hnow : now.natAbs < 2 ^ 53) (hc : c.ExpiresAt z)
    (hz : z.natAbs < 2 ^ 53) : isValidAt now c = true ↔ now < 1000 * z := by
  obtain ⟨negative, hexpires, hsigned⟩ := Double.eq_ofWhole hc.whole hc.seconds hz
  rw [isValidAt, decide_eq_true_iff, hexpires, Double.ofInt_lt_thousand_mul hnow negative hz, hsigned]

/-- The cookie that counts is there and has not expired at a time of day in milliseconds. -/
def Lasts (name : Option String) (cookies : List Cookie) (now : Int) : Prop :=
  ∃ c z, token? name cookies = some c ∧ c.ExpiresAt z ∧ now < 1000 * z

theorem mem_of_token? {name : Option String} {cookies : List Cookie} {c : Cookie}
    (h : token? name cookies = some c) : c ∈ cookies := by
  cases name with
  | none => exact List.mem_of_head? h
  | some n => exact List.mem_of_find?_eq_some h

theorem any_isValidAt_iff {name : Option String} {cookies : List Cookie} {now : Int}
    (hkept : ∀ c ∈ cookies, c.IsKept) (hnow : now.natAbs < 2 ^ 53) :
    (token? name cookies).any (isValidAt now) = true ↔ Lasts name cookies now := by
  rw [Lasts]
  cases htoken : token? name cookies with
  | none => simp
  | some c =>
    obtain ⟨z, hz, hsmall, -⟩ := hkept c (mem_of_token? htoken)
    rw [Option.any_some, isValidAt_iff hnow hz hsmall]
    constructor
    · exact fun h ↦ ⟨c, z, rfl, hz, h⟩
    · rintro ⟨_, z', ⟨⟩, hz', h⟩
      cases hz.seconds.symm.trans hz'.seconds
      exact h

end Action.Login

/-! ### Cookies that are saved -/

/-- The cookies that a reply to a command brings from a page. -/
def Command.cookies? (page : PageId) : (c : Command) → c.Reply → Option (List Cookie)
  | .page p .cookies, .ok cookies => if p = page then some cookies else none
  | _, _ => none

namespace Routine

/-- The cookies of a page, each time that a routine which has the world for itself gets them. -/
def cookiesGot (s : Surroundings σ) (page : PageId) (w : World σ) : Routine α → List (List Cookie)
  | done _ => []
  | unfinished => []
  | step c next => (c.cookies? page (w.answer s c).1).toList ++
      cookiesGot s page (w.answer s c).2 (next (w.answer s c).1)

variable {s : Surroundings σ} {w w' : World σ} {page : PageId} {r : Routine α} {f : α → Routine β}

theorem cookiesGot_bind {a : α} (h : r.run s w = (some a, w')) (f : α → Routine β) :
    (r >>= f).cookiesGot s page w = r.cookiesGot s page w ++ (f a).cookiesGot s page w' := by
  induction r generalizing w with
  | done b =>
    cases h
    rfl
  | unfinished => cases h
  | step c next ih => rw [step_bind, cookiesGot, cookiesGot, ih _ h, List.append_assoc]

/-- A routine that performs no actions and does not ask a page for its cookies gets none. -/
theorem MadeOf.cookiesGot_eq_nil {may : Command → Prop} {post : α → Prop}
    (h : r.MadeOf s may (fun _ ↦ False) post)
    (hmay : ∀ c, may c → ∀ reply, c.cookies? page reply = none) : r.cookiesGot s page w = [] := by
  induction h generalizing w with
  | done => rfl
  | unfinished => rfl
  | step hc _ ih =>
    rw [cookiesGot, hmay _ hc, ih w]
    rfl
  | part h => exact h.elim

end Routine

namespace Action

variable {s : Surroundings σ} {w w' : World σ}

theorem cookiesGot_bind {x : Action α} {a : α} (h : x.run.run s w = (some (.ok a), w'))
    (f : α → Action β) (page : PageId) : (x >>= f).run.cookiesGot s page w =
      x.run.cookiesGot s page w ++ (f a).run.cookiesGot s page w' := by
  rw [ExceptT.run_bind]
  exact Routine.cookiesGot_bind h _

theorem cookiesGot_indented {x : Action α} {o : Except ActionError α}
    (h : x.run.run s w.deeper = (some o, w')) (page : PageId) :
    (indented x).run.cookiesGot s page w = x.run.cookiesGot s page w.deeper := by
  rw [run_indented]
  refine (Routine.cookiesGot_bind h _).trans ?_
  exact List.append_nil _

namespace Login

variable {cx : Context} {page : PageId} {cache : String} {cookies : List Cookie}

/-- Cookies that could be written can be read. -/
private theorem readText_of_write {cookies : List Cookie}
    (h : (do
        let _ ← file "login" "write" (.write cache (writeCookies cookies).toUTF8)
        display ": Cookies saved" : Action Unit).run.run s w = (some (.ok ()), w')) :
    w'.files.readText cache = .ok (writeCookies cookies) := by
  obtain ⟨_, u, hwrite, hdisplay⟩ := exists_of_run_bind h
  cases hdisplay
  have hfile : (file "login" "write" (.write cache (writeCookies cookies).toUTF8)).run.run s w =
      (some ((w.files.write cache (writeCookies cookies).toUTF8).1.mapError
        (.file "login" "write" cache)),
        { w with files := (w.files.write cache (writeCookies cookies).toUTF8).2 }) :=
    rfl
  rw [hfile] at hwrite
  cases hchange : w.files.write cache (writeCookies cookies).toUTF8 with
  | mk o fs =>
    rw [hchange] at hwrite
    cases o with
    | error err => cases hwrite
    | ok reply =>
      cases hwrite
      exact FileSystem.readText_write hchange

/-- A page that gives its cookies does so once. -/
private theorem cookiesGot_onPage {toError : PageError → ActionError} {cookies : List Cookie}
    (h : (onPage page .cookies toError).run.run s w = (some (.ok cookies), w')) :
    (onPage page .cookies toError).run.cookiesGot s page w = [cookies] := by
  replace h : (some ((s.page page .cookies w.rest).1.mapError toError),
      { w with rest := (s.page page .cookies w.rest).2 }) = (some (.ok cookies), w') := h
  have hgot : (onPage page .cookies toError).run.cookiesGot s page w =
      ((Command.page page .cookies).cookies? page (s.page page .cookies w.rest).1).toList ++ [] :=
    rfl
  rw [hgot]
  cases hreply : (s.page page .cookies w.rest).1 with
  | error err =>
    rw [hreply] at h
    cases h
  | ok reply =>
    rw [hreply] at h
    cases h
    exact congrArg (fun got : Option (List Cookie) ↦ got.toList ++ []) (if_pos rfl)

/-- Cookies that are saved are those that the page has, and can be read if there are any. -/
private theorem exists_saved_of_saveCookies
    (h : (saveCookies cx page cache).run.run s w = (some (.ok ()), w')) :
    ∃ cookies ∈ (saveCookies cx page cache).run.cookiesGot s page w, cookies ≠ [] →
      w'.files.readText cache = .ok (writeCookies cookies) := by
  obtain ⟨cookies, u, hasked, hsaves⟩ := exists_of_run_bind h
  rw [saveCookies, cookiesGot_bind hasked]
  refine ⟨cookies, List.mem_append_left _ ?_, fun hfilled ↦ ?_⟩
  · exact (congrArg (cookies ∈ ·) (cookiesGot_onPage hasked)).mpr List.mem_cons_self
  · rw [if_neg fun hempty ↦ hfilled (List.isEmpty_iff.1 hempty)] at hsaves
    split at hsaves
    · exact readText_of_write hsaves
    · obtain ⟨found, u', -, hsaves⟩ := exists_of_run_bind hsaves
      split at hsaves
      · obtain ⟨_, u'', -, hsaves⟩ := exists_of_run_bind hsaves
        exact readText_of_write hsaves
      · exact readText_of_write hsaves

/-- Saved cookies are taken or deleted without the page being asked for its cookies. -/
private theorem cookiesGot_restore (s : Surroundings σ) (w : World σ) (page : PageId)
    (cache : String) (name : Option String) :
    (restore page cache name).run.cookiesGot s page w = [] := by
  have hfile {action operation : String} {call : FileCall} :
      MadeOf s (fun c ↦ ∀ reply, c.cookies? page reply = none) (fun _ ↦ False)
        (file action operation call) (fun _ ↦ True) :=
    .bind (.command fun _ ↦ rfl) fun _ _ ↦ .orFail
  have hexists : MadeOf s (fun c ↦ ∀ reply, c.cookies? page reply = none) (fun _ ↦ False)
      (pathExists cache) (fun _ ↦ True) := by
    refine .bind (.command fun _ ↦ rfl) fun reply _ ↦ ?_
    split
    · exact .pure trivial
    · exact .pure trivial
  have hrestore : MadeOf s (fun c ↦ ∀ reply, c.cookies? page reply = none) (fun _ ↦ False)
      (restore page cache name) (fun _ ↦ True) := by
    refine .bind hexists fun found _ ↦ .ite ?_ (.pure trivial)
    refine .bind (.command fun _ ↦ rfl) fun _ _ ↦ ?_
    refine .bind hfile fun text _ ↦ ?_
    refine .bind (.command fun _ ↦ rfl) fun now _ ↦ .ite ?_ ?_
    · refine .bind (.bind (.command fun _ ↦ rfl) fun _ _ ↦ .orFail) fun _ _ ↦ ?_
      exact .bind (.command fun _ ↦ rfl) fun _ _ ↦ .pure trivial
    · refine .bind hfile fun _ _ ↦ ?_
      exact .bind (.command fun _ ↦ rfl) fun _ _ ↦ .pure trivial
  exact hrestore.routine.cookiesGot_eq_nil fun _ h ↦ h

/-- An attempt that succeeds and gets the cookies of the page has saved them. -/
private theorem readText_of_attemptWith {login : Login}
    (h : (login.attemptWith cx page cache).run.run s w = (some (.ok ()), w'))
    (hgot : (login.attemptWith cx page cache).run.cookiesGot s page w = [cookies])
    (hfilled : cookies ≠ []) : w'.files.readText cache = .ok (writeCookies cookies) := by
  obtain ⟨restored, u, hrestore, h⟩ := exists_of_run_bind h
  rw [attemptWith, cookiesGot_bind hrestore, cookiesGot_restore, List.nil_append] at hgot
  split at h
  case isTrue htaken =>
    rw [if_pos htaken] at hgot
    cases hgot
  case isFalse htaken =>
    rw [if_neg htaken, ExceptT.run_bind_lift] at hgot
    rw [ExceptT.run_bind_lift] at h
    obtain ⟨outcome, u', hsubmit, hend⟩ := Routine.exists_of_run_bind h
    rw [Routine.cookiesGot_bind hsubmit] at hgot
    cases outcome with
    | error err => cases hend
    | ok _ =>
      cases hend
      rw [submit_eq] at hsubmit hgot
      obtain ⟨_, _, hfill, hsaves⟩ := exists_of_run_bind hsubmit
      obtain ⟨saved, hsaved, hread⟩ := exists_saved_of_saveCookies hsaves
      rw [cookiesGot_bind hfill] at hgot
      -- the cookies that are saved are among those that the attempt got, which are one list
      have hmem : saved ∈ [cookies] := by
        rw [← hgot]
        exact List.mem_append_left _ (List.mem_append_right _ hsaved)
      cases List.mem_singleton.1 hmem
      exact hread hfilled

/-- What an attempt that succeeds and gets the cookies of the page has saved. -/
theorem readText_of_once {login : Login} {base : String}
    (hbase : (w.store.get? Key.baseDir).bind Json.asStr? = some base)
    (h : (login.once cx page).run.run s w = (some (.ok ()), w'))
    (hgot : (login.once cx page).run.cookiesGot s page w = [cookies]) (hfilled : cookies ≠ []) :
    w'.files.readText (Path.join base cookiesFile) = .ok (writeCookies cookies) := by
  have hread := (makes_baseDir hbase s).run_eq
  obtain ⟨u, hattempt, rfl⟩ := exists_of_run_indented h
  rw [once, cookiesGot_indented hattempt, cookiesGot_bind hread] at hgot
  obtain ⟨base?, u', hread', hattempt⟩ := exists_of_run_bind hattempt
  cases hread.symm.trans hread'
  show u.files.readText _ = _
  exact readText_of_attemptWith hattempt hgot hfilled

end Login
end Action

/-! ### Cookies that are taken -/

/-- The state of the surroundings after a call of a page was made so many times. -/
def Surroundings.afterCalls (s : Surroundings σ) (page : PageId) (c : PageCall) (rest : σ) :
    Nat → σ
  | 0 => rest
  | n + 1 => (s.page page c (s.afterCalls page c rest n)).2

namespace Action.Login

variable {s : Surroundings σ} {w : World σ} {page : PageId} {cache : String} {name : Option String}
  {cookies : List Cookie}

section Restored

variable (hsaved : w.files.readText cache = .ok (writeCookies cookies))
  (hkept : ∀ c ∈ cookies, c.IsKept) (hnow : (s.now w.rest).natAbs < 2 ^ 53)

include hsaved hkept hnow

/-- Saved cookies are given to the page, as they were, if the one that counts has not expired. -/
theorem restore_makes_of_lasts (hlasts : Lasts name cookies (s.now w.rest))
    {o : Except PageError Unit} {rest : σ}
    (hset : s.page page (.setCookies cookies) w.rest = (o, rest)) :
    ∃ w', (restore page cache name).run.Makes s w [(page, .setCookies cookies)]
        ((o.mapError (pageFailure "login")).map fun _ ↦ true) w' ∧
      w'.store = w.store ∧ w'.files = w.files ∧ w'.rest = rest := by
  have hfound := FileSystem.pathExists_of_readText hsaved
  have hvalid := (any_isValidAt_iff hkept hnow).2 hlasts
  let set : World σ := { w.showing ": Loading cookies" with rest := rest }
  have hsets : (onPage page (.setCookies cookies) (pageFailure "login")).run.Makes s
      (w.showing ": Loading cookies") [(page, .setCookies cookies)]
      (o.mapError (pageFailure "login")) set := by
    have hmakes := makes_onPage s (w.showing ": Loading cookies") page (.setCookies cookies)
      (pageFailure "login")
    rwa [show s.page page (.setCookies cookies) (w.showing ": Loading cookies").rest = _
      from hset] at hmakes
  cases o with
  | error err =>
    refine ⟨set, restore_makes_of_read hfound hsaved ?_, rfl, rfl, rfl⟩
    rw [readCookies_writeCookies hkept, if_pos hvalid]
    exact makes_bind_error hsets
  | ok reply =>
    refine ⟨set.showing ": Cookies loaded", restore_makes_of_read hfound hsaved ?_, rfl, rfl, rfl⟩
    rw [readCookies_writeCookies hkept, if_pos hvalid]
    exact makes_bind hsets (makes_bind (makes_command rfl) (.done _ _))

/-- The file of saved cookies is deleted if the one that counts is missing or has expired. -/
theorem restore_makes_of_not_lasts (page : PageId) (hlasts : ¬ Lasts name cookies (s.now w.rest)) :
    ∃ w', (restore page cache name).run.Makes s w [] (.ok false) w' ∧
      w'.files.pathExists cache = false := by
  have hvalid := mt (any_isValidAt_iff hkept hnow).1 hlasts
  obtain ⟨fs, hremove, hgone⟩ := FileSystem.removeFile_of_readText hsaved
  have hanswer : (FileCall.removeFile cache).answer (w.showing ": Loading cookies").files =
      (.ok (), fs) :=
    hremove
  let kept : World σ := { w.showing ": Loading cookies" with files := fs }
  refine ⟨kept.showing ": Cookies expired",
    restore_makes_of_read (FileSystem.pathExists_of_readText hsaved) hsaved ?_, hgone⟩
  rw [readCookies_writeCookies hkept, if_neg hvalid]
  exact makes_bind (makes_file "login" "unlink" hanswer)
    (makes_bind (makes_command rfl) (.done _ _))

end Restored

/-- The base directory of a world has a file with these cookies. -/
structure HasSaved (w : World σ) (base : String) (cookies : List Cookie) : Prop where
  baseDir : (w.store.get? Key.baseDir).bind Json.asStr? = some base
  text : w.files.readText (Path.join base cookiesFile) = .ok (writeCookies cookies)

/-- An attempt that takes saved cookies gives them to the page, and does not touch their file. -/
theorem once_makes_of_lasts (cx : Context) (page : PageId) {login : Login} {base : String}
    (hsaved : HasSaved w base cookies) (hkept : ∀ c ∈ cookies, c.IsKept)
    (hnow : (s.now w.rest).natAbs < 2 ^ 53)
    (hlasts : Lasts login.cookieName cookies (s.now w.rest)) {o : Except PageError Unit} {rest : σ}
    (hset : s.page page (.setCookies cookies) w.rest = (o, rest)) :
    ∃ w', (login.once cx page).run.Makes s w [(page, .setCookies cookies)]
        (o.mapError (pageFailure "login")) w' ∧
      HasSaved w' base cookies ∧ w'.rest = rest := by
  obtain ⟨u, hrestore, hstore, hfiles, hrest⟩ :=
    restore_makes_of_lasts (w := w.deeper) hsaved.text hkept hnow hlasts hset
  have hdir (st : Store) (v : Json) :
      (st.put Key.indent v).get? Key.baseDir = st.get? Key.baseDir :=
    Store.get?_put_other (by decide)
  have hbase : u.shallower.store.get? Key.baseDir = w.store.get? Key.baseDir :=
    (hdir u.store _).trans ((congrArg (·.get? Key.baseDir) hstore).trans (hdir w.store _))
  refine ⟨u.shallower, makes_once hsaved.baseDir ?_, ⟨hbase ▸ hsaved.baseDir, ?_⟩, hrest⟩
  · cases o with
    | error err => exact makes_bind_error hrestore
    | ok reply => exact makes_bind hrestore (.done _ _)
  · exact (congrArg (·.readText (Path.join base cookiesFile)) hfiles).trans hsaved.text

/-- A login that takes saved cookies makes no other call, if the cookie that counts has not expired
when the call failed and is made again. -/
theorem forall_pageCalls_of_lasts (cx : Context) (page : PageId) {login : Login} {base : String}
    (hsaved : HasSaved w base cookies) (hkept : ∀ c ∈ cookies, c.IsKept)
    (hlater : ∀ n < retries.maxAttempts,
      (s.now (s.afterCalls page (.setCookies cookies) w.rest n)).natAbs < 2 ^ 53 ∧
        Lasts login.cookieName cookies
          (s.now (s.afterCalls page (.setCookies cookies) w.rest n))) :
    ∀ asked ∈ (withRetries retries (login.once cx page)).run.pageCalls s w,
      asked = (page, .setCookies cookies) := by
  -- an attempt finds the file as it was, after one more call of the page
  have hnext (n : Nat) (u : World σ) (hn : n < retries.maxAttempts)
      (hu : HasSaved u base cookies ∧
        u.rest = s.afterCalls page (.setCookies cookies) w.rest n) :
      ∃ o u', (login.once cx page).run.Makes s u [(page, .setCookies cookies)] o u' ∧
        HasSaved u' base cookies ∧
        u'.rest = s.afterCalls page (.setCookies cookies) w.rest (n + 1) := by
    obtain ⟨hsaved', hrest⟩ := hu
    obtain ⟨hnow, hlasts⟩ := hlater n hn
    rw [← hrest] at hnow hlasts
    obtain ⟨u', hmakes, hsaved'', hrest'⟩ :=
      once_makes_of_lasts cx page hsaved' hkept hnow hlasts rfl
    refine ⟨_, u', hmakes, hsaved'', ?_⟩
    rw [hrest', hrest]
    rfl
  refine forall_pageCalls_withRetries
    (I := fun n u ↦ HasSaved u base cookies ∧
      u.rest = s.afterCalls page (.setCookies cookies) w.rest n) ⟨hsaved, rfl⟩ ?_ ?_
    (fun _ _ _ h ↦ ⟨⟨h.1.baseDir, h.1.text⟩, h.2⟩) (fun _ _ _ h ↦ ⟨⟨h.1.baseDir, h.1.text⟩, h.2⟩)
    (by decide)
  · intro n u hn hu
    obtain ⟨_, _, hmakes, -⟩ := hnext n u hn hu
    rw [hmakes.calls_eq]
    exact fun _ h ↦ List.mem_singleton.1 h
  · intro n u o u' hn hu hx
    obtain ⟨_, u'', hmakes, hu''⟩ := hnext n u hn hu
    cases hmakes.run_eq.symm.trans hx
    exact hu''

end Action.Login

namespace Engine

/-- **A login takes the cookies that another one saved.** An attempt to log in succeeds and gets one
list of cookies from its page, which is not empty and whose cookies are kept in a text. Later another
login is resolved, with the same base directory, whose file of cookies nobody has touched. As long as
the cookie that counts has not expired, an attempt of this login gives its page exactly these cookies
and asks it for nothing else. The login begins with this call and succeeds if the call does; and if the
cookie has not expired when the call failed and is made again, the login asks for nothing else at all.
If the cookie that counts is missing or has expired, the file is deleted before the form is submitted,
and until then the page is asked for nothing. A time of day in milliseconds is below `2 ^ 53` for the
next 285 000 years. -/
theorem login_takes_saved_cookies (s : Surroundings σ) (cx : Context) (page₀ : PageId)
    (first : Action.Login) (base : String) (v v₁ : World σ) (cookies : List Cookie)
    (hbase₀ : (v.store.get? Key.baseDir).bind Json.asStr? = some base)
    (hfirst : (first.once cx page₀).run.run s v = (some (.ok ()), v₁))
    (hgot : (first.once cx page₀).run.cookiesGot s page₀ v = [cookies]) (hfilled : cookies ≠ [])
    (hkept : ∀ c ∈ cookies, c.IsKept) (e : Engine) (depth : Nat) (call : ActionCall)
    (hname : call.name = "login")
    (hbuiltin : e.registry.get? "login" = Action.builtinRegistry.get? "login")
    (w w₁ : World σ) (p : Prepared)
    (hprepared : (e.prepare call).run.run s w = (some (.ok p), w₁)) (page : PageId)
    (hactive : w.store.activePage = some page)
    (hbase : (w.store.get? Key.baseDir).bind Json.asStr? = some base)
    (huntouched : w.files.readText (Path.join base Action.Login.cookiesFile) =
      v₁.files.readText (Path.join base Action.Login.cookiesFile))
    (hnow : (s.now w.rest).natAbs < 2 ^ 53) :
    ∃ login, Action.Login.ofParams p.params = .ok login ∧
      login.GivenBy (call.resolvedIn w.store) ∧
      let cache := Path.join base Action.Login.cookiesFile
      let attempt := (login.once (e.context depth p) page).run
      let performed := (e.performWithin (depth + 1) call).run
      let taken := (page, PageCall.setCookies cookies)
      (Action.Login.Lasts login.cookieName cookies (s.now w.rest) →
        attempt.pageCalls s w₁ = [taken] ∧ [taken] <+: performed.pageCalls s w ∧
        (s.Answers page [.setCookies cookies] w.rest →
          performed.pageCalls s w = [taken] ∧ (performed.run s w).1 = some (.ok ())) ∧
        ((∀ n < Action.Login.retries.maxAttempts,
            (s.now (s.afterCalls page (.setCookies cookies) w.rest n)).natAbs < 2 ^ 53 ∧
              Action.Login.Lasts login.cookieName cookies
                (s.now (s.afterCalls page (.setCookies cookies) w.rest n))) →
          ∀ asked ∈ performed.pageCalls s w, asked = taken)) ∧
      (¬ Action.Login.Lasts login.cookieName cookies (s.now w.rest) →
        ∃ w₂, (Action.Login.restore page cache login.cookieName).run.Makes s w₁.deeper []
            (.ok false) w₂ ∧
          w₂.files.pathExists cache = false ∧
          attempt.pageCalls s w₁ =
            (Action.Login.submit (e.context depth p) page login cache).run.pageCalls s w₂ ∧
          attempt.pageCalls s w₁ <+: performed.pageCalls s w) := by
  have hwritten := Action.Login.readText_of_once hbase₀ hfirst hgot hfilled
  obtain ⟨login, hlogin, hgiven, -, hcalls, hrun⟩ :=
    exists_login_of_prepared depth hname hbuiltin hprepared hactive
  obtain ⟨-, -, hannounced⟩ := announced_of_prepared hprepared
  have hsaved : Action.Login.HasSaved w₁ base cookies :=
    ⟨by rwa [hannounced.values _ (by decide)], by rw [hannounced.files, huntouched, hwritten]⟩
  rw [← hannounced.rest] at hnow ⊢
  refine ⟨login, hlogin, hgiven, ?_⟩
  intro cache attempt performed taken
  have hprefix : attempt.pageCalls s w₁ <+: performed.pageCalls s w := by
    rw [hcalls]
    exact Action.pageCalls_prefix_withRetries _ _
  refine ⟨fun hlasts ↦ ?_, fun hlasts ↦ ?_⟩
  · have hattempt {o : Except PageError Unit} {rest : σ}
        (hset : s.page page (.setCookies cookies) w₁.rest = (o, rest)) :=
      Action.Login.once_makes_of_lasts (e.context depth p) page hsaved hkept hnow hlasts hset
    have hcall : attempt.pageCalls s w₁ = [taken] := by
      obtain ⟨_, hmakes, -⟩ := hattempt rfl
      exact hmakes.calls_eq
    refine ⟨hcall, hcall ▸ hprefix, fun hanswers ↦ ?_, fun hlater ↦ ?_⟩
    · obtain ⟨_, rest, hset, -⟩ := hanswers.exists_reply
      obtain ⟨w', hmakes, -⟩ := hattempt hset
      have htried := Action.makes_withRetries Action.Login.retries hmakes nofun
      exact ⟨hcalls.trans htried.calls_eq, congrArg Prod.fst (hrun.trans htried.run_eq)⟩
    · rw [hcalls]
      exact Action.Login.forall_pageCalls_of_lasts (e.context depth p) page hsaved hkept hlater
  · obtain ⟨w₂, hrestore, hgone⟩ := Action.Login.restore_makes_of_not_lasts (w := w₁.deeper)
      hsaved.text hkept hnow page hlasts
    refine ⟨w₂, hrestore, hgone, ?_, hprefix⟩
    rw [Action.Login.pageCalls_once_eq hsaved.baseDir, Action.Login.pageCalls_attemptWith hrestore]

/-! ### The cookie of a page -/

/-- A cookie that expires after so many seconds. -/
def sessionCookie (expires : Float) : Cookie :=
  { name := "sid", value := "v", domain := "app.test", path := "/", expires, httpOnly := true
    secure := true }

/-- A world in which the page of a form is open that has a cookie. -/
def cookieWorld (expires : Float) : World Rehearsal :=
  { formWorld [] with
    rest := { pages := #[{ formPage with cookies := [sessionCookie expires] }] } }

/-- A login gives its page the cookie that an attempt before it has saved. -/
theorem login_takes_saved_cookies_lasting :
    let e : Engine := { registry := Action.builtinRegistry }
    let p : Prepared := ⟨Action.login, formParams "secret", some 0⟩
    let login : Action.Login := ⟨"about:blank", "#user", "me", "#pass", "secret", "#submit", none⟩
    let attempt := (login.once (e.context 1 p) 0).run
    let performed := (e.performWithin 2 ⟨"login", some (formParams "secret"), true⟩).run
    let w := (attempt.run Rehearsal.surroundings (cookieWorld 4102444800)).2
    attempt.cookiesGot Rehearsal.surroundings 0 (cookieWorld 4102444800) =
        [[sessionCookie 4102444800]] ∧
      performed.pageCalls Rehearsal.surroundings w =
        [(0, .setCookies [sessionCookie 4102444800])] ∧
      (performed.run Rehearsal.surroundings w).1 = some (.ok ()) := by
  intro e p login attempt performed w
  let s := Rehearsal.surroundings
  let v := cookieWorld 4102444800
  let cookies := [sessionCookie 4102444800]
  let call : ActionCall := ⟨"login", some (formParams "secret"), true⟩
  have hgot : attempt.cookiesGot s 0 v = [cookies] := by decide +kernel
  have hsucceeds : (attempt.run s v).1.map Except.isOk = some true := by decide +kernel
  obtain ⟨hactive, hbase, hnow, hearly, hanswers⟩ : w.store.activePage = some 0 ∧
      (w.store.get? Key.baseDir).bind Json.asStr? = some "/r/test" ∧
      (s.now w.rest).natAbs < 2 ^ 53 ∧ s.now w.rest < 1000 * 4102444800 ∧
      s.Answers 0 [.setCookies cookies] w.rest := by
    decide +kernel
  have hfirst : attempt.run s v = (some (.ok ()), w) := by
    change attempt.run s v = (some (.ok ()), (attempt.run s v).2)
    generalize attempt.run s v = r at hsucceeds
    obtain ⟨_ | ⟨_ | _⟩, _⟩ := r
    · cases hsucceeds
    · cases hsucceeds
    · rfl
  -- what else the world is like after the first login does not matter
  clear_value w
  have hpassword : Placeholder.Free "secret" := by decide +kernel
  have hchecked : Schema.validate "login" (formParams "secret") = .ok (formParams "secret") :=
    Schema.validate_of_check Action.Login.ofAction?_login (by decide +kernel) (by decide +kernel)
  have hprepared : (e.prepare call).run.run s w =
      (some (.ok p), (w.showing "Running action : login").putting Key.params
        (.obj (formParams "secret"))) := by
    rw [prepare_formParams s w hpassword hchecked, hactive]
  have hexpires : (sessionCookie 4102444800).ExpiresAt 4102444800 :=
    ⟨by decide +kernel, by decide +kernel⟩
  have hkept : ∀ c ∈ cookies, c.IsKept := by
    intro c hc
    cases List.mem_singleton.1 hc
    exact hexpires.isKept (by decide)
  obtain ⟨given, -, hgiven, hlasting, -⟩ := login_takes_saved_cookies s (e.context 1 p) 0 login
    "/r/test" v w cookies rfl hfirst hgot (List.cons_ne_nil _ _) hkept e 1 call rfl rfl w _ p
    hprepared 0 hactive hbase rfl hnow
  have hlasts : Action.Login.Lasts given.cookieName cookies (s.now w.rest) := by
    have hname : given.cookieName = none := by
      rw [← hgiven.cookieName, resolvedIn_formParams hpassword]
      rfl
    rw [hname]
    exact ⟨_, _, rfl, hexpires, hearly⟩
  obtain ⟨-, -, htaken, -⟩ := hlasting hlasts
  exact ⟨hgot, htaken hanswers⟩

/-- A cookie whose seconds are a number of 51 bits is given back with other seconds. -/
theorem login_takes_another_cookie :
    let e : Engine := { registry := Action.builtinRegistry }
    let performed := (e.performWithin 2 ⟨"login", some (formParams "secret"), true⟩).run
    let w := (performed.run Rehearsal.surroundings (cookieWorld 1801439850948199)).2
    let w' := (performed.run Rehearsal.surroundings w).2
    Double.isWhole 1801439850948199 = true ∧
      Whole.ofFloat 1801439850948199 = .int 1801439850948199 ∧
      (w.rest.pages[0]?.map fun page ↦ page.cookies.map fun c ↦ Double.isWhole c.expires) =
        some [true] ∧
      (w'.rest.pages[0]?.map fun page ↦
        (page.events.back?, page.cookies.map fun c ↦ Double.isWhole c.expires)) =
        some (some "set_cookies 1", [false]) :=
  ⟨by decide +kernel, by decide +kernel, by decide +kernel, by decide +kernel⟩

end Engine
end WebRecipe
