import WebRecipe.Proofs.Routine.Counting
import WebRecipe.Proofs.Run.Undivided
import WebRecipe.Proofs.Schema

/-!
# Counters

While many actions count at a time, the number that the counter holds and the differences that are
still to come make up a total. A turn keeps the total unless it writes a number that was read before
somebody else wrote.

## Main definitions

* `Engine.Reckoning`: what the counter holds and what everybody owes come to the total.
* `Machine.writers`: those who have read the counter and are about to write it.

## Main results

* `Engine.Reckoning.advance`: a turn goes on with the reckoning, and keeps its total if nobody else
  has read the counter.
* `Engine.counts_kept`: the counter holds its number and all differences in the end.
-/

namespace WebRecipe

namespace Engine

variable {key : String} {st₀ : Store} {e : Engine}

/-! ### Turns -/

/-- What the main sequence owes to a counter: what its stage owes, and the differences of the stages
after it. -/
inductive MainOwes (e : Engine) (key : String) (st₀ : Store) :
    Option Int → Int → MainSequence → Prop
  | ended : MainOwes e key st₀ none 0 .over
  | working {held : Option Int} {d : Int} {calls : List ActionCall}
      {current : Routine (Except ActionError (Option (Action Unit)))}
      (stage : Owes key st₀ (Leaves key st₀) held d current)
      (later : ∀ call ∈ calls, call.CountsOn key st₀) :
      MainOwes e key st₀ held (d + (calls.map ActionCall.difference).sum)
        (.working current (calls.map e.stageOf) none)

/-- The main sequence is over or at a stage, and does not sleep. -/
theorem MainOwes.over_or_working {held : Option Int} {d : Int} {main : MainSequence}
    (h : MainOwes e key st₀ held d main) :
    held = none ∧ d = 0 ∧ main = .over ∨
      ∃ (current : Routine (Except ActionError (Option (Action Unit)))) (d' : Int)
        (calls : List ActionCall), main = .working current (calls.map e.stageOf) none ∧
        Owes key st₀ (Leaves key st₀) held d' current ∧
        d = d' + (calls.map ActionCall.difference).sum ∧
        ∀ call ∈ calls, call.CountsOn key st₀ := by
  cases h with
  | ended => exact .inl ⟨rfl, rfl, rfl⟩
  | working stage later => exact .inr ⟨_, _, _, rfl, stage, rfl, later⟩

theorem mainOwes_mainOf (he : e.HasCounting) {calls : List ActionCall}
    (hcalls : ∀ call ∈ calls, call.CountsOn key st₀) :
    MainOwes e key st₀ none (calls.map ActionCall.difference).sum
      (Machine.mainOf (calls.map e.stageOf)) := by
  cases calls with
  | nil => exact .ended
  | cons call calls =>
    obtain ⟨hcall, hcalls⟩ := List.forall_mem_cons.1 hcalls
    exact .working (owes_stageOf he hcall) hcalls

/-- Whoever holds a number after a turn has held it before, or has read the counter at his turn. -/
def Reads (key : String) (turn : Turn) (deed : Option Deed) (held held' : Turn → Option Int) :
    Prop :=
  ∀ who, held' who ≠ none → who ≠ turn ∧ held who ≠ none ∨
    who = turn ∧ ∃ d, deed = some d ∧ d.command = .store (.get key)

theorem reads_self {key : String} {turn : Turn} {deed : Option Deed} {held : Turn → Option Int}
    (h : held turn = none) : Reads key turn deed held held := by
  refine fun who hwho ↦ .inl ⟨?_, hwho⟩
  rintro rfl
  exact hwho h

theorem reads_update {key : String} {turn : Turn} {d : Deed} {held : Turn → Option Int}
    {held' : Option Int} (h : held' = none ∨ d.command = .store (.get key)) :
    Reads key turn (some d) held (Function.update held turn held') := by
  intro who hwho
  by_cases hturn : who = turn
  · subst hturn
    rw [Function.update_self] at hwho
    exact .inr ⟨rfl, d, rfl, h.resolve_left hwho⟩
  · rw [Function.update_of_ne hturn] at hwho
    exact .inl ⟨hturn, hwho⟩

/-- At most one holds a number. -/
def Alone (held : Turn → Option Int) : Prop :=
  ∀ who who', held who ≠ none → held who' ≠ none → who = who'

/-- Whoever holds a number holds that of the counter. -/
def Current (held : Turn → Option Int) (v : Int) : Prop :=
  ∀ who, ∀ u ∈ held who, u = v

/-- What is true of what one holds after his turn, and of what the others hold, is true of all that
is held. -/
theorem forall_mem_update {held : Turn → Option Int} {held' : Option Int} {who : Turn}
    {P : Int → Prop} (hself : ∀ u ∈ held', P u) (hothers : ∀ x, x ≠ who → ∀ u ∈ held x, P u) :
    ∀ x, ∀ u ∈ Function.update held who held' x, P u := by
  intro x u hu
  by_cases hx : x = who
  · subst hx
    rw [Function.update_self] at hu
    exact hself u hu
  · rw [Function.update_of_ne hx] at hu
    exact hothers x hx u hu

/-- Whoever goes on with a command settles what he owes with the counter. -/
theorem Current.update {held : Turn → Option Int} {v v' : Int} {who : Turn} {held' : Option Int}
    (h : Current held v) (hheld' : ∀ u ∈ held', u = v') (hchange : v' = v ∨ held who ≠ none)
    (halone : Alone held) : Current (Function.update held who held') v' := by
  refine forall_mem_update hheld' fun x hx u hu ↦ ?_
  rcases hchange with rfl | hwho
  · exact h x u hu
  · exact absurd (halone x who (by rw [Option.mem_def.1 hu]; nofun) hwho) hx

theorem Current.of_none {held : Turn → Option Int} (h : ∀ who, held who = none) (v : Int) :
    Current held v := by
  intro who u hu
  rw [h who] at hu
  cases hu

/-- The reckoning of a counter while actions count on it: what the counter holds, and what everybody
still owes to it, come to the total. Nobody has failed or sleeps. -/
structure Reckoning {σ : Type} (e : Engine) (key : String) (st₀ : Store) (total : Int)
    (owed : Turn → Int) (held : Turn → Option Int) (v : Int) (m : Machine σ) : Prop where
  counts : m.world.store.Counts key st₀ v
  main : MainOwes e key st₀ (held .main) (owed .main) m.main
  jobs : ∀ n j, m.jobs.lookup n = some j → n < m.started ∧ j.wakeAt = none ∧
    Owes key st₀ (fun _ d ↦ d = 0) (held (.job n)) (owed (.job n)) j.routine
  gone : ∀ n, m.jobs.lookup n = none → held (.job n) = none ∧ owed (.job n) = 0
  failures : m.failures = []
  small : ∀ who, ∀ u ∈ held who, u.natAbs < 2 ^ 53
  total : v + owed .main + ∑ n ∈ Finset.range m.started, owed (.job n) = total

namespace Reckoning

variable {σ : Type} {s : Surroundings σ} {total v : Int} {owed : Turn → Int}
  {held : Turn → Option Int} {m : Machine σ}

/-- Nothing is done at the beginning. -/
theorem start (he : e.HasCounting) {w : World σ} {calls : List ActionCall}
    (hcalls : ∀ call ∈ calls, call.CountsOn key w.store)
    (hv : w.store.get? key = some (.int v)) (hsmall : v.natAbs < 2 ^ 53) :
    Reckoning e key w.store (v + (calls.map ActionCall.difference).sum)
      (fun who ↦ if who = .main then (calls.map ActionCall.difference).sum else 0) (fun _ ↦ none) v
      (Machine.start w (calls.map e.stageOf)) where
  counts := ⟨hv, hsmall, .refl _⟩
  main := mainOwes_mainOf he hcalls
  jobs := nofun
  gone _ _ := ⟨rfl, rfl⟩
  failures := rfl
  small := nofun
  total := Int.add_zero _

/-- Whoever goes on with a command holds what the counter holds, or nothing. -/
private theorem small_update {who : Turn} {held' : Option Int} {v' : Int}
    (h : Reckoning e key st₀ total owed held v m) (hheld' : ∀ u ∈ held', u = v')
    (hsmall : v'.natAbs < 2 ^ 53) :
    ∀ x, ∀ u ∈ Function.update held who held' x, u.natAbs < 2 ^ 53 :=
  forall_mem_update (fun u hu ↦ hheld' u hu ▸ hsmall) fun x _ ↦ h.small x

/-- The main sequence leaves what it owes to somebody whom it starts. -/
private theorem join {main : MainSequence} {d rest : Int} {a : Action Unit}
    (h : Reckoning e key st₀ total owed held v m) (hnone : held .main = none)
    (howed : owed .main = d + rest) (hmain : MainOwes e key st₀ none rest main)
    (ha : Owes key st₀ (fun _ d' ↦ d' = 0) none d a.run) :
    ∃ owed', Reckoning e key st₀ total owed' held v
      { m with
        main := main
        jobs := m.jobs ++ [(m.started, ⟨a, none⟩)]
        started := m.started + 1 } := by
  have hnew : m.jobs.lookup m.started = none := by
    rw [Option.eq_none_iff_forall_ne_some]
    exact fun j hj ↦ absurd (h.jobs _ j hj).1 (Nat.lt_irrefl _)
  obtain ⟨owed', hself, howed', hold⟩ : ∃ owed' : Turn → Int, owed' (.job m.started) = d ∧
      owed' .main = rest ∧ ∀ n, n ≠ m.started → owed' (.job n) = owed (.job n) :=
    ⟨Function.update (Function.update owed .main rest) (.job m.started) d, by simp, by simp,
      fun n hn ↦ by simp [hn]⟩
  have hlookup {n : Nat} (hn : n ≠ m.started) :
      (m.jobs ++ [(m.started, (⟨a, none⟩ : Job))]).lookup n = m.jobs.lookup n := by
    rw [List.lookup_append, List.lookup_cons, beq_eq_false_iff_ne.2 hn]
    exact Option.or_none
  refine ⟨owed', h.counts, ?_, fun n j hj ↦ ?_, fun n hn ↦ ?_, h.failures, h.small, ?_⟩
  · rw [hnone, howed']
    exact hmain
  · by_cases hnew' : n = m.started
    · subst hnew'
      rw [List.lookup_append, hnew, List.lookup_cons_self] at hj
      cases hj
      rw [hself, (h.gone _ hnew).1]
      exact ⟨Nat.lt_succ_self _, rfl, ha⟩
    · rw [hlookup hnew'] at hj
      rw [hold n hnew']
      obtain ⟨hlt, hrest⟩ := h.jobs n j hj
      exact ⟨Nat.lt_succ_of_lt hlt, hrest⟩
  · by_cases hnew' : n = m.started
    · subst hnew'
      rw [List.lookup_append, hnew, List.lookup_cons_self] at hn
      cases hn
    · rw [hlookup hnew'] at hn
      rw [hold n hnew']
      exact h.gone n hn
  · have htotal := h.total
    have hsum : ∑ n ∈ Finset.range m.started, owed' (.job n) =
        ∑ n ∈ Finset.range m.started, owed (.job n) :=
      Finset.sum_congr rfl fun n hn ↦ hold n (Nat.ne_of_lt (Finset.mem_range.1 hn))
    rw [Finset.sum_range_succ, hsum, hself, howed']
    omega

/-- What a turn changes of a reckoning. Its total stays if at most one holds a number, which is that
of the counter. -/
def Goes (e : Engine) (key : String) (st₀ : Store) (total : Int) (held : Turn → Option Int)
    (v : Int) (turn : Turn) (deed : Option Deed) (m : Machine σ) : Prop :=
  ∃ total' owed' held' v', Reckoning e key st₀ total' owed' held' v' m ∧
    Reads key turn deed held held' ∧
    (Alone held → Current held v → Current held' v' ∧ total' = total)

/-- A turn of somebody who holds nothing and settles nothing. -/
private theorem goes (h : Reckoning e key st₀ total owed held v m) {turn : Turn}
    {deed : Option Deed} (hnone : held turn = none) :
    Goes e key st₀ total held v turn deed m :=
  ⟨total, owed, held, v, h, reads_self hnone, fun _ hcurrent ↦ ⟨hcurrent, rfl⟩⟩

/-- Somebody beside the main sequence ends who owes nothing. -/
private theorem dropJob (h : Reckoning e key st₀ total owed held v m) {k : Nat}
    (hnone : held (.job k) = none) (hzero : owed (.job k) = 0) :
    Reckoning e key st₀ total owed held v
      { m with
        jobs := Machine.dropJob k m.jobs
        failures := m.failures ++ (Machine.failure? (.ok ())).toList } := by
  refine { h with jobs := fun n j hj ↦ ?_, gone := fun n hn ↦ ?_, failures := ?_ }
  · by_cases hk : n = k
    · subst hk
      rw [Machine.lookup_dropJob_self] at hj
      cases hj
    · rw [Machine.lookup_dropJob_of_ne hk] at hj
      exact h.jobs n j hj
  · by_cases hk : n = k
    · subst hk
      exact ⟨hnone, hzero⟩
    · rw [Machine.lookup_dropJob_of_ne hk] at hn
      exact h.gone n hn
  · rw [h.failures]
    rfl

/-- What those beside the main sequence owe when one of them owes something else. -/
private theorem sum_update_job {k started : Nat} (hk : k < started) (d : Int) :
    ∑ n ∈ Finset.range started, Function.update owed (.job k) d (.job n) =
      ∑ n ∈ Finset.range started, owed (.job n) - owed (.job k) + d := by
  have hmem : k ∈ Finset.range started := Finset.mem_range.2 hk
  have hrest : ∑ n ∈ (Finset.range started).erase k, Function.update owed (.job k) d (.job n) =
      ∑ n ∈ (Finset.range started).erase k, owed (.job n) := by
    refine Finset.sum_congr rfl fun n hn ↦ Function.update_of_ne ?_ ..
    simpa using Finset.ne_of_mem_erase hn
  rw [← Finset.add_sum_erase _ _ hmem, ← Finset.add_sum_erase _ _ hmem, hrest,
    Function.update_self]
  omega

section

variable (h : Reckoning e key st₀ total owed held v m) (he : e.HasCounting)
  (hkey : key ≠ Key.params)

include h he hkey

/-- A turn of the main sequence. -/
theorem stepMain (hexact : ((m.stepMain s).world.store.get? key).all Json.isExact = true) :
    Goes e key st₀ total held v .main (m.deed? s .main) (m.stepMain s) := by
  have hstep := m.mainStep s
  generalize m.deed? s .main = deed, m.stepMain s = m' at hstep hexact ⊢
  rcases h.main.over_or_working with
    ⟨hnone, -, hover⟩ | ⟨current, d, calls, hworking, hstage, howed, hcalls⟩
  · cases hstep <;> first | exact h.goes hnone | (rename_i main; cases main.symm.trans hover)
  have hmainOf := mainOwes_mainOf he hcalls
  cases hstep with
  | finished main => cases main.symm.trans hworking
  | failed main => cases main.symm.trans hworking
  | wakes main => cases main.symm.trans hworking
  | stuck main =>
    cases main.symm.trans hworking
    exact absurd hstage Owes.not_unfinished
  | fails main =>
    cases main.symm.trans hworking
    obtain ⟨-, a, ha, -⟩ := hstage.of_done
    cases ha
  | passes main =>
    cases main.symm.trans hworking
    obtain ⟨hnone, a, ha, hleaves⟩ := hstage.of_done
    cases ha
    obtain rfl : d = 0 := hleaves
    have hpasses : Reckoning e key st₀ total owed held v
        { m with main := Machine.mainOf (calls.map e.stageOf) } := by
      refine { h with main := ?_ }
      rw [hnone, howed, Int.zero_add]
      exact hmainOf
    exact hpasses.goes hnone
  | starts main =>
    cases main.symm.trans hworking
    obtain ⟨hnone, a, ha, hleaves⟩ := hstage.of_done
    cases ha
    obtain ⟨owed', hjoin⟩ := h.join hnone howed hmainOf hleaves
    exact hjoin.goes hnone
  | goesOn main =>
    cases main.symm.trans hworking
    rw [hstage.reply_eq] at hexact ⊢
    obtain ⟨held', d', v', hlater, hcounts, hheld', hchange, hread, hsum⟩ :=
      hstage.step hkey s h.counts (h.small .main) hexact
    have hjob (n : Nat) : Turn.job n ≠ .main := nofun
    refine ⟨_, Function.update owed .main (d' + (calls.map ActionCall.difference).sum),
      Function.update held .main held', v',
      ⟨hcounts, ?_, fun n j hj ↦ ?_, fun n hn ↦ ?_, h.failures,
        h.small_update hheld' hcounts.small, rfl⟩, reads_update hread, fun halone hcurrent ↦
        ⟨hcurrent.update hheld' hchange halone, ?_⟩⟩
    · rw [Function.update_self, Function.update_self]
      exact .working hlater hcalls
    · rw [Function.update_of_ne (hjob n), Function.update_of_ne (hjob n)]
      exact h.jobs n j hj
    · rw [Function.update_of_ne (hjob n), Function.update_of_ne (hjob n)]
      exact h.gone n hn
    · have htotal := h.total
      have hsum := hsum (hcurrent .main)
      simp only [Function.update_self, Function.update_of_ne (hjob _)]
      omega

omit he

/-- A turn of somebody beside the main sequence. -/
theorem stepJob (k : Nat)
    (hexact : ((m.stepJob s k).world.store.get? key).all Json.isExact = true) :
    Goes e key st₀ total held v (.job k) (m.deed? s (.job k)) (m.stepJob s k) := by
  have hstep := m.jobStep s k
  generalize m.deed? s (.job k) = deed, m.stepJob s k = m' at hstep hexact ⊢
  cases hstep with
  | absent job => exact h.goes (h.gone k job).1
  | stuck job => exact absurd (h.jobs k _ job).2.2 Owes.not_unfinished
  | wakes job => cases (h.jobs k _ job).2.1
  | ends job =>
    obtain ⟨-, -, howes⟩ := h.jobs k _ job
    obtain ⟨hnone, a, rfl, hzero⟩ := howes.of_done
    exact (h.dropJob hnone hzero).goes hnone
  | goesOn job =>
    obtain ⟨hlt, -, howes⟩ := h.jobs k _ job
    rw [howes.reply_eq] at hexact ⊢
    obtain ⟨held', d', v', hlater, hcounts, hheld', hchange, hread, hsum⟩ :=
      howes.step hkey s h.counts (h.small (.job k)) hexact
    have hmain : Turn.main ≠ .job k := nofun
    have hother {n : Nat} (hn : n ≠ k) : Turn.job n ≠ .job k := by simpa using hn
    refine ⟨_, Function.update owed (.job k) d', Function.update held (.job k) held', v',
      ⟨hcounts, ?_, fun n j hj ↦ ?_, fun n hn ↦ ?_, h.failures,
        h.small_update hheld' hcounts.small, rfl⟩, reads_update hread, fun halone hcurrent ↦
        ⟨hcurrent.update hheld' hchange halone, ?_⟩⟩
    · rw [Function.update_of_ne hmain, Function.update_of_ne hmain]
      exact h.main
    · by_cases hk : n = k
      · subst hk
        rw [Machine.lookup_setJob_self job] at hj
        cases hj
        rw [Function.update_self, Function.update_self]
        exact ⟨hlt, rfl, hlater⟩
      · rw [Machine.lookup_setJob_of_ne hk] at hj
        rw [Function.update_of_ne (hother hk), Function.update_of_ne (hother hk)]
        exact h.jobs n j hj
    · have hk : n ≠ k := by
        rintro rfl
        rw [Machine.lookup_setJob_self job] at hn
        cases hn
      rw [Machine.lookup_setJob_of_ne hk] at hn
      rw [Function.update_of_ne (hother hk), Function.update_of_ne (hother hk)]
      exact h.gone n hn
    · have htotal := h.total
      have hsum := hsum (hcurrent (.job k))
      rw [sum_update_job hlt, Function.update_of_ne hmain]
      omega

include he

/-- A turn of whoever has it. -/
theorem advance (turn : Turn)
    (hexact : ((m.advance s turn).world.store.get? key).all Json.isExact = true) :
    Goes e key st₀ total held v turn (m.deed? s turn) (m.advance s turn) := by
  cases turn with
  | main => exact h.stepMain he hkey hexact
  | job k => exact h.stepJob hkey k hexact

end

end Reckoning
end Engine

/-! ### Counting in turns -/

namespace Machine

variable {σ : Type}

/-- Whether somebody puts a value under a name next. -/
def putsNext (key : String) : NextStep → Bool
  | .command (.store (.put k _)) => k == key
  | _ => false

/-- Those who are about to put a value under a name. An action that counts has read the counter then
and has not written it yet. -/
def writers (key : String) (m : Machine σ) : List Turn :=
  (.main :: m.jobs.map (fun entry ↦ .job entry.1)).filter fun who ↦ putsNext key (m.next who)

/-- Whether the number under a name can be counted on from exactly. -/
def countsExactly (key : String) (m : Machine σ) : Bool :=
  (m.world.store.get? key).all Json.isExact

/-- Only a counter and the announced parameters are changed, and nobody fails. -/
structure CountsOnly (key : String) (st₀ : Store) (m : Machine σ) : Prop where
  others : ∀ name, name ≠ key → name ≠ Key.params → m.world.store.get? name = st₀.get? name
  succeeds : ∀ o, m.outcome? = some o → o = .ok ()

/-- When everything has ended, the counter holds the total. -/
structure Counted (key : String) (st₀ : Store) (total : Int) (m : Machine σ) : Prop extends
    CountsOnly key st₀ m where
  holds : m.outcome?.isSome = true → m.world.store.get? key = some (.int total)

end Machine

namespace Engine

variable {σ : Type} {s : Surroundings σ} {e : Engine} {key : String} {st₀ : Store} {total v : Int}
  {owed : Turn → Int} {held : Turn → Option Int} {m : Machine σ}

namespace Reckoning

/-- Whoever holds a number is about to write it. -/
theorem mem_writers (h : Reckoning e key st₀ total owed held v m) {who : Turn}
    (hwho : held who ≠ none) : who ∈ m.writers key := by
  obtain ⟨u, hu⟩ := Option.ne_none_iff_exists'.1 hwho
  cases who with
  | main =>
    rcases h.main.over_or_working with ⟨hnone, -⟩ | ⟨current, d, calls, hworking, hstage, -⟩
    · exact absurd hnone hwho
    · rw [hu] at hstage
      obtain ⟨x, next, rfl⟩ := hstage.exists_put
      refine List.mem_filter.2 ⟨List.mem_cons_self, ?_⟩
      rw [Machine.next, hworking]
      exact beq_self_eq_true key
  | job n =>
    cases hjob : m.jobs.lookup n with
    | none => exact absurd (h.gone n hjob).1 hwho
    | some j =>
      obtain ⟨-, -, howes⟩ := h.jobs n j hjob
      rw [hu] at howes
      obtain ⟨x, next, hroutine⟩ := howes.exists_put
      obtain ⟨before, after, hjobs, -⟩ := List.lookup_eq_some_iff.1 hjob
      refine List.mem_filter.2 ⟨List.mem_cons_of_mem _ (List.mem_map.2 ⟨(n, j), ?_, rfl⟩), ?_⟩
      · rw [hjobs]
        exact List.mem_append_right _ List.mem_cons_self
      · rw [Machine.next, hjob]
        dsimp only
        rw [hroutine]
        exact beq_self_eq_true key

/-- Only one holds a number as long as only one is about to write the counter. -/
theorem alone (h : Reckoning e key st₀ total owed held v m)
    (hwriters : (m.writers key).length ≤ 1) : Alone held := by
  intro who who' hwho hwho'
  have hmem := h.mem_writers hwho
  have hmem' := h.mem_writers hwho'
  rcases hlist : m.writers key with _ | ⟨x, _ | ⟨y, rest⟩⟩
  · rw [hlist] at hmem
    cases hmem
  · rw [hlist, List.mem_singleton] at hmem hmem'
    rw [hmem, hmem']
  · rw [hlist] at hwriters
    exact absurd hwriters (by simp)

/-- Once everything has ended, nothing has failed and nothing is owed. -/
theorem outcome (h : Reckoning e key st₀ total owed held v m)
    {o : Except ActionError Unit} (ho : m.outcome? = some o) : o = .ok () ∧ v = total := by
  rcases h.main.over_or_working with ⟨-, hzero, hover⟩ | ⟨current, d, calls, hworking, -⟩
  · rw [Machine.outcome?, hover] at ho
    have hjobs : m.jobs = [] := by
      by_contra hne
      rw [List.isEmpty_eq_false_iff.2 hne] at ho
      cases ho
    rw [hjobs, h.failures] at ho
    have hsum : ∑ n ∈ Finset.range m.started, owed (.job n) = 0 :=
      Finset.sum_eq_zero fun n _ ↦ (h.gone n (by rw [hjobs]; rfl)).2
    have htotal := h.total
    rw [hzero, hsum, Int.add_zero, Int.add_zero] at htotal
    exact ⟨(Option.some.inj ho).symm, htotal⟩
  · rw [Machine.outcome?, hworking] at ho
    cases ho

/-- Whatever comes of the total, only the counter and the parameters are changed. -/
theorem countsOnly (h : Reckoning e key st₀ total owed held v m) : m.CountsOnly key st₀ where
  others _ hne hparams := h.counts.agree.get?_of ⟨hne, hparams⟩
  succeeds _ ho := (h.outcome ho).1

/-- A reckoning says what counting has come to. -/
theorem counted (h : Reckoning e key st₀ total owed held v m) : m.Counted key st₀ total where
  toCountsOnly := h.countsOnly
  holds ho := by
    obtain ⟨o, ho⟩ := Option.isSome_iff_exists.1 ho
    obtain ⟨-, rfl⟩ := h.outcome ho
    exact h.counts.holds

variable (hkey : key ≠ Key.params) (he : e.HasCounting)

include hkey he

/-- The reckoning goes on over all turns. Its total stays as long as one at a time is about to write
the counter. -/
theorem advanceAll (h : Reckoning e key st₀ total owed held v m) (hheld : ∀ who, held who = none)
    {turns : List Turn}
    (hexact : ∀ before, before <+: turns → (m.advanceAll s before).countsExactly key = true) :
    ∃ total' owed' held' v', Reckoning e key st₀ total' owed' held' v' (m.advanceAll s turns) ∧
      ((∀ before, before <+: turns → ((m.advanceAll s before).writers key).length ≤ 1) →
        Current held' v' ∧ total' = total) := by
  induction turns using List.reverseRecOn with
  | nil => exact ⟨total, owed, held, v, h, fun _ ↦ ⟨.of_none hheld v, rfl⟩⟩
  | append_singleton turns turn ih =>
    have hearlier {before : List Turn} (hbefore : before <+: turns) : before <+: turns ++ [turn] :=
      hbefore.trans (List.prefix_append _ _)
    obtain ⟨total', owed', held', v', h', hkept⟩ := ih fun before hbefore ↦
      hexact before (hearlier hbefore)
    have hnext := hexact _ (List.prefix_refl _)
    rw [Machine.countsExactly, Machine.advanceAll_concat] at hnext
    obtain ⟨total'', owed'', held'', v'', h'', -, hgoes⟩ := h'.advance he hkey turn hnext
    rw [Machine.advanceAll_concat]
    refine ⟨total'', owed'', held'', v'', h'', fun hwriters ↦ ?_⟩
    obtain ⟨hcurrent, rfl⟩ := hkept fun before hbefore ↦ hwriters before (hearlier hbefore)
    exact hgoes (h'.alone (hwriters turns (hearlier (List.prefix_refl _)))) hcurrent

end Reckoning

end Engine
end WebRecipe
