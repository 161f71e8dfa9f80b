import WebRecipe.Proofs.Routine.Log
import WebRecipe.Run.Machine

/-!
# Accounts of machines

Whoever has the turn when, what a machine does can be told afterwards: the main sequence has passed
some of its stages, one after another, and is at the next one or has failed in it, and whatever was
started beside it has done its part on its own. An account is told by the log of each of them; it
covers all that was done, and holds for all sequences of turns.

## Main definitions

* `Machine.logOf`: what was done for somebody in a sequence of turns.
* `InOrder`: several in a row, each of which may leave something.
* `Machine.Course`: how far the main sequence has come.
* `Machine.Crew`: how far those beside it have come.
* `Machine.Account`: both together.

## Main results

* `Machine.Account.advance`: a turn adds to the account what was done in it.
* `Machine.account`: the account after any sequence of turns.
-/

namespace WebRecipe

/-! ### In a row -/

/-- Several did something one after another, as a relation says for each one, and some of them left
something. -/
inductive InOrder {ι κ : Type} (R : ι → Log → Option κ → Prop) : List ι → Log → List κ → Prop
  | nil : InOrder R [] [] []
  | cons {i : ι} {is : List ι} {l l' : Log} {o : Option κ} {left : List κ} :
      R i l o → InOrder R is l' left → InOrder R (i :: is) (l ++ l') (o.toList ++ left)

namespace InOrder

variable {ι κ : Type} {R : ι → Log → Option κ → Prop}

theorem append {is is' : List ι} {l l' : Log} {left left' : List κ} (h : InOrder R is l left)
    (h' : InOrder R is' l' left') : InOrder R (is ++ is') (l ++ l') (left ++ left') := by
  induction h with
  | nil => exact h'
  | cons hi _ ih =>
    rw [List.append_assoc, List.append_assoc]
    exact .cons hi ih

theorem single {i : ι} {l : Log} {o : Option κ} (h : R i l o) : InOrder R [i] l o.toList := by
  have hcons := InOrder.cons h .nil
  rw [List.append_nil, List.append_nil] at hcons
  exact hcons

end InOrder

namespace Machine

variable {σ : Type}

/-! ### Logs of turns -/

/-- What is carried out for a routine when it has the turn; one that sleeps is only woken. -/
def deedOf {α : Type} (s : Surroundings σ) (w : World σ) : Option Nat → Routine α → Option Deed
  | some _, _ => none
  | none, .step c _ => some ⟨c, (reply s w c).1⟩
  | none, _ => none

/-- What is carried out at a turn. -/
def deed? (s : Surroundings σ) (m : Machine σ) : Turn → Option Deed
  | .main =>
    match m.main with
    | .working current _ wakeAt => deedOf s m.world wakeAt current
    | _ => none
  | .job number =>
    match m.jobs.lookup number with
    | some j => deedOf s m.world j.wakeAt j.routine
    | none => none

/-- What is done at a turn for somebody: nothing for all but the one who has the turn. -/
def deeds (s : Surroundings σ) (m : Machine σ) (turn who : Turn) : Log :=
  if who = turn then (m.deed? s turn).toList else []

/-- What is done for somebody in a sequence of turns. -/
def logOf (s : Surroundings σ) (m : Machine σ) : List Turn → Turn → Log
  | [], _ => []
  | turn :: turns, who => m.deeds s turn who ++ logOf s (m.advance s turn) turns who

theorem reply_fst (s : Surroundings σ) (w : World σ) (c : Command) :
    (reply s w c).1 = (w.answer s c).1 := by
  cases c <;> rfl

private theorem answeredIn_of_deedOf {α : Type} {s : Surroundings σ} {w : World σ}
    {wakeAt : Option Nat} {r : Routine α} {d : Deed} (h : deedOf s w wakeAt r = some d) :
    d.AnsweredIn s := by
  rw [deedOf.eq_def] at h
  split at h
  · cases h
  · cases h
    exact ⟨w, reply_fst s w _⟩
  · cases h

/-- What is carried out at a turn is answered by the world. -/
theorem answeredIn_of_deed? {s : Surroundings σ} {m : Machine σ} {turn : Turn} {d : Deed}
    (h : m.deed? s turn = some d) : d.AnsweredIn s := by
  cases turn <;>
  · rw [deed?] at h
    split at h
    · exact answeredIn_of_deedOf h
    · cases h

/-- Whatever is done in a sequence of turns is answered by the world. -/
theorem answeredIn_of_mem_logOf {s : Surroundings σ} {turns : List Turn} {m : Machine σ}
    {who : Turn} {d : Deed} (h : d ∈ logOf s m turns who) : d.AnsweredIn s := by
  induction turns generalizing m with
  | nil => cases h
  | cons turn turns ih =>
    rw [logOf, List.mem_append] at h
    rcases h with h | h
    · rw [deeds] at h
      split at h
      · exact answeredIn_of_deed? (Option.mem_toList.1 h)
      · cases h
    · exact ih h

/-! ### The main sequence -/

/-- The stages were passed one after another, and some of them left something to be started. -/
def Passed : List Stage → Log → List (Action Unit) → Prop :=
  InOrder fun stage log deferred ↦ stage.run.Ends log (.ok deferred)

/-- How far the main sequence has come, and what was started beside it. -/
inductive Course (stages : List Stage) (log : Log) : MainSequence → List (Action Unit) → Prop
  | working {before later : List Stage} {stage : Stage} {l l' : Log} {started : List (Action Unit)}
      {current : Routine (Except ActionError (Option (Action Unit)))} {wakeAt : Option Nat}
      (split : stages = before ++ stage :: later) (hlog : log = l ++ l')
      (passed : Passed before l started) (goes : stage.run.Goes l' current) :
      Course stages log (.working current later wakeAt) started
  | ended {started : List (Action Unit)} (passed : Passed stages log started) :
      Course stages log .over started
  | failed {before later : List Stage} {stage : Stage} {l l' : Log} {started : List (Action Unit)}
      {e : ActionError} (split : stages = before ++ stage :: later) (hlog : log = l ++ l')
      (passed : Passed before l started) (fails : stage.run.Ends l' (.error e)) :
      Course stages log (.failed e) started

namespace Course

variable {stages later : List Stage} {log : Log} {started : List (Action Unit)}

/-- The main sequence goes on with the stages that are left. -/
theorem ofPassed {before : List Stage} (hpassed : Passed before log started) :
    Course (before ++ later) log (mainOf later) started := by
  cases later with
  | nil =>
    rw [List.append_nil]
    exact .ended hpassed
  | cons stage later =>
    exact .working rfl (List.append_nil log).symm hpassed (.refl _)

theorem step {c : Command}
    {next : c.Reply → Routine (Except ActionError (Option (Action Unit)))} {wakeAt : Option Nat}
    (h : Course stages log (.working (.step c next) later wakeAt) started) (reply : c.Reply)
    (wakeAt' : Option Nat) :
    Course stages (log ++ [⟨c, reply⟩]) (.working (next reply) later wakeAt') started := by
  cases h with
  | working hsplit hlog hpassed hgoes =>
    refine .working hsplit ?_ hpassed (hgoes.concat reply)
    rw [hlog, List.append_assoc]

theorem wake {current : Routine (Except ActionError (Option (Action Unit)))}
    {wakeAt : Option Nat} (h : Course stages log (.working current later wakeAt) started)
    (wakeAt' : Option Nat) : Course stages log (.working current later wakeAt') started := by
  cases h with
  | working hsplit hlog hpassed hgoes => exact .working hsplit hlog hpassed hgoes

theorem stageFails {e : ActionError} {wakeAt : Option Nat}
    (h : Course stages log (.working (.done (.error e)) later wakeAt) started) :
    Course stages log (.failed e) started := by
  cases h with
  | working hsplit hlog hpassed hgoes => exact .failed hsplit hlog hpassed hgoes

theorem stagePasses {deferred : Option (Action Unit)} {wakeAt : Option Nat}
    (h : Course stages log (.working (.done (.ok deferred)) later wakeAt) started) :
    Course stages log (mainOf later) (started ++ deferred.toList) := by
  cases h with
  | @working before _ stage _ _ _ _ _ hsplit hlog hpassed hgoes =>
    rw [hsplit, hlog, List.append_cons]
    exact .ofPassed (hpassed.append (.single hgoes))

end Course

/-! ### Those beside it -/

/-- The failure among the outcomes, if it is one. -/
def failure? : Except ActionError Unit → Option ActionError
  | .error e => some e
  | .ok () => none

/-- The failures among the outcomes of those that have ended. -/
def failuresOf (ended : List (Nat × Except ActionError Unit)) : List ActionError :=
  ended.filterMap fun entry ↦ failure? entry.2

private theorem failuresOf_concat (ended : List (Nat × Except ActionError Unit)) (n : Nat)
    (o : Except ActionError Unit) :
    failuresOf (ended ++ [(n, o)]) = failuresOf ended ++ (failure? o).toList := by
  rw [failuresOf, List.filterMap_append]
  cases o <;> rfl

/-- Each of those who were started has come as far as its log says, and nobody else did anything. -/
structure Begun (started : List (Action Unit)) (log : Nat → Log) : Prop where
  goes : ∀ n (a : Action Unit), started[n]? = some a → ∃ r, a.run.Goes (log n) r
  idle : ∀ n, started.length ≤ n → log n = []

/-- How far those who were started have come: each one has ended, or is in flight, and not both. -/
structure Crew (started : List (Action Unit)) (log : Nat → Log) (jobs : List (Nat × Job))
    (ended : List (Nat × Except ActionError Unit)) : Prop where
  begun : Begun started log
  running : ∀ n j, (n, j) ∈ jobs → ∃ a, started[n]? = some a ∧ a.run.Goes (log n) j.routine
  ends : ∀ n o, (n, o) ∈ ended → ∃ a, started[n]? = some a ∧ a.run.Ends (log n) o
  numbers : (ended.map Prod.fst ++ jobs.map Prod.fst).Perm (List.range started.length)

private theorem length_lt {started : List (Action Unit)} {n : Nat} {a : Action Unit}
    (h : started[n]? = some a) : n < started.length :=
  (List.getElem?_eq_some_iff.1 h).1

/-- One of those who were started goes on. -/
theorem Begun.goOn {started : List (Action Unit)} {log : Nat → Log} {n : Nat} {l : Log}
    {a : Action Unit} {r : Routine (Except ActionError Unit)} (h : Begun started log)
    (ha : started[n]? = some a) (hgoes : a.run.Goes (log n ++ l) r) :
    Begun started (fun k ↦ log k ++ if k = n then l else []) where
  goes k b hb := by
    by_cases hk : k = n
    · subst hk
      cases ha.symm.trans hb
      rw [if_pos rfl]
      exact ⟨r, hgoes⟩
    · rw [if_neg hk, List.append_nil]
      exact h.goes k b hb
  idle k hk := by
    have hkn : k ≠ n := Nat.ne_of_gt (Nat.lt_of_lt_of_le (length_lt ha) hk)
    rw [if_neg hkn, List.append_nil]
    exact h.idle k hk

/-- One more is started, and has not done anything yet. -/
theorem Begun.join {started : List (Action Unit)} {log : Nat → Log} (h : Begun started log)
    (a : Action Unit) : Begun (started ++ [a]) log where
  goes n b hb := by
    by_cases hn : n < started.length
    · rw [List.getElem?_append_left hn] at hb
      exact h.goes n b hb
    · rw [h.idle n (Nat.not_lt.1 hn)]
      exact ⟨b.run, .refl _⟩
  idle n hn := by
    rw [List.length_append] at hn
    exact h.idle n (Nat.le_trans (Nat.le_add_right _ _) hn)

private theorem mem_of_lookup {jobs : List (Nat × Job)} {n : Nat} {j : Job}
    (h : jobs.lookup n = some j) : (n, j) ∈ jobs := by
  obtain ⟨l, l', rfl, -⟩ := List.lookup_eq_some_iff.1 h
  exact List.mem_append_right _ List.mem_cons_self

private theorem map_fst_setJob (n : Nat) (j : Job) (jobs : List (Nat × Job)) :
    (setJob n j jobs).map Prod.fst = jobs.map Prod.fst := by
  rw [setJob, List.map_map]
  refine List.map_congr_left fun entry _ ↦ ?_
  rw [Function.comp_apply]
  split
  case isTrue h => exact (beq_iff_eq.1 h).symm
  case isFalse => rfl

namespace Crew

variable {started : List (Action Unit)} {log : Nat → Log} {jobs : List (Nat × Job)}
  {ended : List (Nat × Except ActionError Unit)}

theorem empty : Crew [] (fun _ ↦ []) [] [] where
  begun := ⟨nofun, fun _ _ ↦ rfl⟩
  running := nofun
  ends := nofun
  numbers := .refl []

theorem join (h : Crew started log jobs ended) (a : Action Unit) :
    Crew (started ++ [a]) log (jobs ++ [(started.length, ⟨a, none⟩)]) ended := by
  have hold {n : Nat} {b : Action Unit} (hb : started[n]? = some b) :
      (started ++ [a])[n]? = some b := by
    rw [List.getElem?_append_left (length_lt hb), hb]
  refine ⟨h.begun.join a, fun n j hj ↦ ?_, fun n o ho ↦ ?_, ?_⟩
  · rcases List.mem_append.1 hj with hj | hj
    · obtain ⟨b, hb, hgoes⟩ := h.running n j hj
      exact ⟨b, hold hb, hgoes⟩
    · cases List.mem_singleton.1 hj
      rw [h.begun.idle started.length (Nat.le_refl _)]
      exact ⟨a, List.getElem?_concat_length, .refl _⟩
  · obtain ⟨b, hb, hends⟩ := h.ends n o ho
    exact ⟨b, hold hb, hends⟩
  · rw [List.map_append, ← List.append_assoc, List.length_append, List.length_singleton,
      List.range_succ]
    exact h.numbers.append_right _

/-- Nobody has ended and is still in flight. -/
private theorem ne_of_lookup (h : Crew started log jobs ended) {n m : Nat} {j : Job}
    {o : Except ActionError Unit} (hn : jobs.lookup n = some j) (hm : (m, o) ∈ ended) : m ≠ n := by
  have hnodup := h.numbers.nodup_iff.2 List.nodup_range
  rw [List.nodup_append] at hnodup
  exact hnodup.2.2 m (List.mem_map_of_mem hm) n (List.mem_map_of_mem (mem_of_lookup hn))

/-- One of those in flight goes on. -/
theorem goOn (h : Crew started log jobs ended) {n : Nat} {j j' : Job} {l : Log}
    (hlookup : jobs.lookup n = some j) (hgoes : j.routine.Goes l j'.routine) :
    Crew started (fun k ↦ log k ++ if k = n then l else []) (setJob n j' jobs) ended := by
  obtain ⟨a, ha, hlog⟩ := h.running n j (mem_of_lookup hlookup)
  refine ⟨h.begun.goOn ha (hlog.trans hgoes), fun m i hi ↦ ?_, fun m o ho ↦ ?_, ?_⟩
  · obtain ⟨entry, hentry, heq⟩ := List.mem_map.1 hi
    split at heq
    case isTrue =>
      cases heq
      rw [if_pos rfl]
      exact ⟨a, ha, hlog.trans hgoes⟩
    case isFalse hne =>
      subst heq
      have hm : m ≠ n := fun hm ↦ hne (beq_iff_eq.2 hm)
      rw [if_neg hm, List.append_nil]
      exact h.running m i hentry
  · rw [if_neg (h.ne_of_lookup hlookup ho), List.append_nil]
    exact h.ends m o ho
  · rw [map_fst_setJob]
    exact h.numbers

/-- One of those in flight ends. -/
theorem leave (h : Crew started log jobs ended) {n : Nat} {o : Except ActionError Unit}
    {wakeAt : Option Nat} (hlookup : jobs.lookup n = some ⟨.done o, wakeAt⟩) :
    Crew started log (dropJob n jobs) (ended ++ [(n, o)]) := by
  have hmem := mem_of_lookup hlookup
  refine ⟨h.begun, fun m i hi ↦ h.running m i (List.mem_filter.1 hi).1, fun m o' ho ↦ ?_, ?_⟩
  · rcases List.mem_append.1 ho with ho | ho
    · exact h.ends m o' ho
    · cases List.mem_singleton.1 ho
      exact h.running n _ hmem
  · have hnodup := h.numbers.nodup_iff.2 List.nodup_range
    rw [List.nodup_append] at hnodup
    have hdrop : (dropJob n jobs).map Prod.fst = (jobs.map Prod.fst).erase n := by
      rw [List.Nodup.erase_eq_filter hnodup.2.1 n, List.filter_map]
      rfl
    have hn : n ∈ jobs.map Prod.fst := List.mem_map_of_mem hmem
    rw [hdrop, List.map_append, List.append_assoc]
    exact .trans (.append_left _ (List.perm_cons_erase hn).symm) h.numbers

end Crew

/-! ### Both together -/

/-- How a machine has come to where it is, by the log of the main sequence and the logs of those
beside it. When the main sequence has failed, whoever was in flight was dropped; until then the
failures are those of the ones that have ended. -/
inductive Account (stages : List Stage) (log : Log) (logs : Nat → Log) (m : Machine σ) : Prop
  | failed {started : List (Action Unit)} {e : ActionError} (main : m.main = .failed e)
      (course : Course stages log (.failed e) started) (begun : Begun started logs)
      (dropped : m.jobs = [])
  | going {started : List (Action Unit)} {ended : List (Nat × Except ActionError Unit)}
      (unfailed : ∀ e, m.main ≠ .failed e) (course : Course stages log m.main started)
      (crew : Crew started logs m.jobs ended) (count : m.started = started.length)
      (failures : m.failures = failuresOf ended)

private theorem mainOf_ne_failed (stages : List Stage) (e : ActionError) :
    mainOf stages ≠ .failed e := by
  cases stages <;> exact nofun

namespace Account

variable {s : Surroundings σ} {stages : List Stage} {log : Log} {logs : Nat → Log} {m : Machine σ}

/-- Nothing was done at the beginning. -/
theorem start (w : World σ) (stages : List Stage) :
    Account stages [] (fun _ ↦ []) (Machine.start w stages) :=
  .going (mainOf_ne_failed stages) (.ofPassed .nil) .empty rfl rfl

private theorem endStage {later : List Stage} {outcome : Except ActionError (Option (Action Unit))}
    {wakeAt : Option Nat} (h : Account stages log logs m)
    (hmain : m.main = .working (.done outcome) later wakeAt) :
    Account stages log logs (m.endStage later outcome) := by
  cases h with
  | failed hfailed => cases hfailed.symm.trans hmain
  | @going started _ _ course crew count failures =>
    rw [hmain] at course
    match outcome with
    | .error e => exact .failed rfl course.stageFails crew.begun rfl
    | .ok none =>
      have hpasses := course.stagePasses
      rw [Option.toList_none, List.append_nil] at hpasses
      exact .going (mainOf_ne_failed _) hpasses crew count failures
    | .ok (some deferred) =>
      have hjoin := crew.join deferred
      have hcount : (started ++ [deferred]).length = started.length + 1 := List.length_append
      rw [← count] at hjoin hcount
      exact .going (mainOf_ne_failed _) course.stagePasses hjoin hcount.symm failures

/-- A turn of the main sequence adds to its log what was done. -/
theorem stepMain (h : Account stages log logs m) :
    Account stages (log ++ (m.deed? s .main).toList) logs (m.stepMain s) := by
  have hidle (hdeed : m.deed? s .main = none) (h' : Account stages log logs (m.stepMain s)) :
      Account stages (log ++ (m.deed? s .main).toList) logs (m.stepMain s) := by
    rw [hdeed, Option.toList_none, List.append_nil]
    exact h'
  match hmain : m.main with
  | .over => exact hidle (by rw [deed?, hmain]) (by rw [Machine.stepMain, hmain]; exact h)
  | .failed e => exact hidle (by rw [deed?, hmain]) (by rw [Machine.stepMain, hmain]; exact h)
  | .working current later wakeAt =>
    match wakeAt, current with
    | none, .done outcome =>
      refine hidle (by rw [deed?, hmain]; rfl) ?_
      rw [Machine.stepMain, hmain]
      exact h.endStage hmain
    | none, .unfinished =>
      exact hidle (by rw [deed?, hmain]; rfl) (by rw [Machine.stepMain, hmain]; exact h)
    | some time, _ =>
      refine hidle (by rw [deed?, hmain]; rfl) ?_
      rw [Machine.stepMain, hmain]
      cases h with
      | failed hfailed => cases hfailed.symm.trans hmain
      | going unfailed course crew count failures =>
        rw [hmain] at course
        exact .going nofun (course.wake none) crew count failures
    | none, .step c next =>
      rw [deed?, Machine.stepMain, hmain]
      cases h with
      | failed hfailed => cases hfailed.symm.trans hmain
      | going unfailed course crew count failures =>
        rw [hmain] at course
        exact .going nofun (course.step _ _) crew count failures

/-- A turn of somebody beside the main sequence adds to the log what was done. -/
theorem stepJob (h : Account stages log logs m) (n : Nat) :
    Account stages log (fun k ↦ logs k ++ if k = n then (m.deed? s (.job n)).toList else [])
      (m.stepJob s n) := by
  have hsame (hdeed : m.deed? s (.job n) = none) :
      (fun k ↦ logs k ++ if k = n then (m.deed? s (.job n)).toList else []) = logs := by
    funext k
    rw [hdeed, Option.toList_none, ite_self, List.append_nil]
  cases hlookup : m.jobs.lookup n with
  | none =>
    rw [hsame (by rw [deed?, hlookup]), Machine.stepJob, hlookup]
    exact h
  | some j =>
    cases h with
    | failed _ _ _ hdropped => rw [hdropped] at hlookup; cases hlookup
    | going unfailed course crew count failures =>
      obtain ⟨routine, wakeAt⟩ := j
      match wakeAt, routine with
      | some time, _ =>
        rw [Machine.stepJob, deed?, hlookup]
        exact .going unfailed course (crew.goOn hlookup (.refl _)) count failures
      | none, .done (.ok ()) =>
        rw [hsame (by rw [deed?, hlookup]; rfl), Machine.stepJob, hlookup]
        refine .going unfailed course (crew.leave hlookup) count ?_
        rw [failuresOf_concat, ← failures]
        exact (List.append_nil _).symm
      | none, .done (.error e) =>
        rw [hsame (by rw [deed?, hlookup]; rfl), Machine.stepJob, hlookup]
        refine .going unfailed course (crew.leave hlookup) count ?_
        rw [failuresOf_concat, ← failures]
        rfl
      | none, .step c next =>
        rw [Machine.stepJob, deed?, hlookup]
        exact .going unfailed course (crew.goOn hlookup (.step (.refl _))) count failures
      | none, .unfinished =>
        rw [hsame (by rw [deed?, hlookup]; rfl), Machine.stepJob, hlookup]
        exact .going unfailed course crew count failures

/-- Whatever turns are taken, the account goes on with what was done in them. -/
theorem advanceAll (h : Account stages log logs m) (turns : List Turn) :
    Account stages (log ++ logOf s m turns .main) (fun n ↦ logs n ++ logOf s m turns (.job n))
      (m.advanceAll s turns) := by
  induction turns generalizing m log logs with
  | nil =>
    simp only [logOf, List.append_nil]
    exact h
  | cons turn turns ih =>
    simp only [logOf, ← List.append_assoc]
    cases turn with
    | main =>
      have hjob (n : Nat) : m.deeds s .main (.job n) = [] := if_neg nofun
      simp only [hjob, List.append_nil]
      exact ih h.stepMain
    | job n =>
      have hmain : m.deeds s (.job n) .main = [] := if_neg nofun
      have hjob (k : Nat) : m.deeds s (.job n) (.job k) =
          if k = n then (m.deed? s (.job n)).toList else [] := by
        simp only [deeds, Turn.job.injEq]
      simp only [hmain, hjob, List.append_nil]
      exact ih (h.stepJob n)

end Account

/-- The account of a machine after any sequence of turns. -/
theorem account (s : Surroundings σ) (w : World σ) (stages : List Stage) (turns : List Turn) :
    Account stages (logOf s (start w stages) turns .main)
      (fun n ↦ logOf s (start w stages) turns (.job n)) ((start w stages).advanceAll s turns) := by
  have h := (Account.start w stages).advanceAll (s := s) turns
  simp only [List.nil_append] at h
  exact h

end Machine
end WebRecipe
