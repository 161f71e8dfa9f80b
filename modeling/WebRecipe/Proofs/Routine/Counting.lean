import WebRecipe.Proofs.Condition.JsonForm
import WebRecipe.Proofs.Number.Natural
import WebRecipe.Proofs.Resolving
import WebRecipe.Run.Machine

/-!
# Routines that count

An action that counts reads the counter and writes the next number, in two accesses to the store.
What it does besides leaves the counter alone. So whoever is to count owes the counter a difference
until his second access, and holds the number that he has read between the two.

## Main definitions

* `Store.Counts`: a counter holds an integer, and all else in the store is as in another store.
* `Owes`: a routine is still to add a difference to a counter.

## Main results

* `Owes.step`: what a command of a routine that counts does to the counter.
* `Engine.owes_stageOf`: a stage with an action that counts owes its difference, or leaves it to
  what it starts.
-/

namespace WebRecipe

/-! ### Numbers of counters -/

namespace Json

/-- Whether a number is below `2 ^ 53` in magnitude, so that counting on from it is exact. What is
no number cannot be counted on from at all. -/
def isExact : Json → Bool
  | int v => v.natAbs < 2 ^ 53
  | double x => -9007199254740992 < x && x < 9007199254740992
  | _ => true

/-- One more or one less than an integer is the next integer, as long as numbers are exact. -/
theorem ofDouble_add_unit {v d : Int} (hv : v.natAbs < 2 ^ 53) (hd : d = 1 ∨ d = -1)
    (h : (ofDouble (Float.ofInt v + Float.ofInt d)).isExact = true) :
    ofDouble (Float.ofInt v + Float.ofInt d) = int (v + d) ∧ (v + d).natAbs < 2 ^ 53 := by
  by_cases hsum : (v + d).natAbs < 2 ^ 53
  · rw [Double.ofInt_add hv (by omega) hsum, ofDouble_ofInt hsum]
    exact ⟨rfl, hsum⟩
  · -- the two numbers next to the greatest and the least one
    refine absurd h ?_
    obtain ⟨rfl, rfl⟩ | ⟨rfl, rfl⟩ :
        v = 9007199254740991 ∧ d = 1 ∨ v = -9007199254740991 ∧ d = -1 := by
      omega
    · decide +kernel
    · decide +kernel

end Json

/-! ### Stores with a counter -/

namespace Store

/-- All names but that of a counter and that of the announced parameters. -/
def Aside (key name : String) : Prop :=
  name ≠ key ∧ name ≠ Key.params

/-- A counter holds an integer, and all else in the store is as in another store. -/
structure Counts (st : Store) (key : String) (st₀ : Store) (v : Int) : Prop where
  holds : st.get? key = some (.int v)
  small : v.natAbs < 2 ^ 53
  agree : st.AgreeOn (Aside key) st₀

variable {key : String} {st st₀ : Store} {v : Int}

/-- Pages are no integers. -/
theorem isPageView_of_int (h : st.get? key = some (.int v)) : Key.isPageView key = false := by
  rw [Bool.eq_false_iff, ne_eq, Key.isPageView, Bool.or_eq_true, beq_iff_eq, beq_iff_eq]
  rintro (rfl | rfl)
  · rw [get?, if_pos rfl] at h
    cases h
  · rw [get?, if_neg (by decide), if_pos rfl, Option.map_eq_some_iff] at h
    obtain ⟨label, -, hlabel⟩ := h
    cases hlabel

theorem AgreeOn.get?_of {names : String → Prop} {s t : Store} (h : AgreeOn names s t)
    {name : String} (hname : names name) : s.get? name = t.get? name := by
  rw [get?, get?, activeLabel?, activeLabel?, h.pages, h.activePage, h.values name hname]

namespace Counts

variable (h : st.Counts key st₀ v)

include h

/-- What is put under the name of the parameters is put aside. -/
theorem put_params (hkey : key ≠ Key.params) (value : Json) :
    (st.put Key.params value).Counts key st₀ v where
  holds := by rw [get?_put_of_ne (isPageView_of_int h.holds) hkey, h.holds]
  small := h.small
  agree := ((st.agreeOn_put Key.params value).mono fun _ hname ↦ hname.2).trans h.agree

/-- The integer next to one that somebody has read is put under the name of the counter. -/
theorem put {u d : Int} (hu : u.natAbs < 2 ^ 53) (hd : d = 1 ∨ d = -1)
    (hexact : ((st.put key (.ofDouble (Float.ofInt u + Float.ofInt d))).get? key).all
      Json.isExact = true) :
    (st.put key (.ofDouble (Float.ofInt u + Float.ofInt d))).Counts key st₀ (u + d) := by
  have hput := get?_put_self (s := st) (isPageView_of_int h.holds)
    (.ofDouble (Float.ofInt u + Float.ofInt d))
  rw [hput] at hexact
  obtain ⟨hnext, hsmall⟩ := Json.ofDouble_add_unit hu hd hexact
  refine ⟨by rw [hput, hnext], hsmall, ?_⟩
  exact ((st.agreeOn_put key _).mono fun _ hname ↦ hname.1).trans h.agree

end Counts
end Store

/-! ### Routines that count -/

/-- What an action adds to a counter. -/
def ActionCall.difference (call : ActionCall) : Int :=
  if call.name = "countIncrement" then 1 else -1

/-- An action counts up or down on a key, whatever the counter and the announced parameters are. -/
structure ActionCall.CountsOn (key : String) (st₀ : Store) (call : ActionCall) : Prop where
  name : call.name = "countIncrement" ∨ call.name = "countDecrement"
  params : ∀ st, Store.AgreeOn (Store.Aside key) st st₀ →
    ∃ ps, Schema.validate call.name (Placeholder.resolveMembers st.get? call.paramsOrEmpty) =
      .ok ps ∧ ps.text? "key" = some key

/-- `Owes key st₀ left held d r` says that a routine `r` is still to add `d` to a counter, or to
leave this to somebody as `left` says. It holds the number that it has read just if it writes the
counter with its next command. -/
inductive Owes (key : String) (st₀ : Store) {α : Type} (left : α → Int → Prop) :
    Option Int → Int → Routine (Except ActionError α) → Prop
  | done {a : α} {d : Int} (leaves : left a d) : Owes key st₀ left none d (.done (.ok a))
  | display {text : String} {d : Int}
      {next : (Command.display text).Reply → Routine (Except ActionError α)}
      (later : Owes key st₀ left none d (next ())) :
      Owes key st₀ left none d (.step (.display text) next)
  | announce {value : Json} {d : Int}
      {next : (Command.store (.put Key.params value)).Reply → Routine (Except ActionError α)}
      (later : Owes key st₀ left none d (next ())) :
      Owes key st₀ left none d (.step (.store (.put Key.params value)) next)
  | resolve {params : Members} {d : Int}
      {next : (Command.store (.resolve params)).Reply → Routine (Except ActionError α)}
      (later : ∀ st, Store.AgreeOn (Store.Aside key) st st₀ →
        Owes key st₀ left none d (next (Placeholder.resolveMembers st.get? params))) :
      Owes key st₀ left none d (.step (.store (.resolve params)) next)
  | activePage {d : Int}
      {next : (Command.store .activePage).Reply → Routine (Except ActionError α)}
      (later : ∀ page, Owes key st₀ left none d (next page)) :
      Owes key st₀ left none d (.step (.store .activePage) next)
  | read {d : Int} {next : (Command.store (.get key)).Reply → Routine (Except ActionError α)}
      (later : ∀ v, Owes key st₀ left (some v) d (next (some (.int v)))) :
      Owes key st₀ left none d (.step (.store (.get key)) next)
  | write {v d : Int} {x : Json}
      {next : (Command.store (.put key x)).Reply → Routine (Except ActionError α)}
      (unit : d = 1 ∨ d = -1) (value : x = .ofDouble (Float.ofInt v + Float.ofInt d))
      (later : Owes key st₀ left none 0 (next ())) :
      Owes key st₀ left (some v) d (.step (.store (.put key x)) next)

namespace Owes

variable {σ α β : Type} {key : String} {st₀ : Store} {left : α → Int → Prop}
  {left' : β → Int → Prop} {held : Option Int} {d : Int}

/-- Whoever goes on with the result goes on with what is left to him. -/
theorem bind {x : Action α} {f : α → Action β} (h : Owes key st₀ left held d x.run)
    (hf : ∀ a d', left a d' → Owes key st₀ left' none d' (f a).run) :
    Owes key st₀ left' held d (x >>= f).run := by
  change Owes key st₀ left' held d (x.run >>= _)
  generalize x.run = r at h
  induction h with
  | done leaves => exact hf _ _ leaves
  | display _ ih => exact .display ih
  | announce _ ih => exact .announce ih
  | resolve _ ih => exact .resolve ih
  | activePage _ ih => exact .activePage ih
  | read _ ih => exact .read ih
  | write unit value _ ih => exact .write unit value ih

/-- A command of a routine that counts. The counter only changes when the routine writes, and the
routine only holds a number when it has just read it. What the counter and the routine together come
to stays, as long as the counter is as it was read. -/
theorem step {c : Command} {next : c.Reply → Routine (Except ActionError α)}
    (h : Owes key st₀ left held d (.step c next)) (hkey : key ≠ Key.params) (s : Surroundings σ)
    {w : World σ} {v : Int} (hw : w.store.Counts key st₀ v) (hheld : ∀ u ∈ held, u.natAbs < 2 ^ 53)
    (hexact : ((w.answer s c).2.store.get? key).all Json.isExact = true) :
    ∃ held' d' v', Owes key st₀ left held' d' (next (w.answer s c).1) ∧
      (w.answer s c).2.store.Counts key st₀ v' ∧ (∀ u ∈ held', u = v') ∧
      (v' = v ∨ held ≠ none) ∧ (held' = none ∨ c = .store (.get key)) ∧
      ((∀ u ∈ held, u = v) → v' + d' = v + d) := by
  cases h with
  | display later => exact ⟨none, d, v, later, hw, nofun, .inl rfl, .inl rfl, fun _ ↦ rfl⟩
  | announce later =>
    exact ⟨none, d, v, later, hw.put_params hkey _, nofun, .inl rfl, .inl rfl, fun _ ↦ rfl⟩
  | resolve later =>
    exact ⟨none, d, v, later _ hw.agree, hw, nofun, .inl rfl, .inl rfl, fun _ ↦ rfl⟩
  | activePage later => exact ⟨none, d, v, later _, hw, nofun, .inl rfl, .inl rfl, fun _ ↦ rfl⟩
  | read later =>
    have hreply : (w.answer s (.store (.get key))).1 = some (.int v) := hw.holds
    refine ⟨some v, d, v, ?_, hw, ?_, .inl rfl, .inr rfl, fun _ ↦ rfl⟩
    · rw [hreply]
      exact later v
    · rintro u ⟨⟩
      rfl
  | @write u _ x _ unit value later =>
    subst value
    refine ⟨none, 0, u + d, later, hw.put (hheld u rfl) unit hexact, nofun, .inr nofun, .inl rfl,
      fun hcurrent ↦ ?_⟩
    rw [hcurrent u rfl, Int.add_zero]

/-- A routine that counts does not fail, and has nothing in hand at its end. -/
theorem of_done {o : Except ActionError α} (h : Owes key st₀ left held d (.done o)) :
    held = none ∧ ∃ a, o = .ok a ∧ left a d := by
  cases h with
  | done leaves => exact ⟨rfl, _, rfl, leaves⟩

/-- A routine that counts is not given up. -/
theorem not_unfinished : ¬ Owes key st₀ left held d .unfinished := nofun

/-- A routine that counts never sleeps. -/
theorem reply_eq {c : Command} {next : c.Reply → Routine (Except ActionError α)}
    (h : Owes key st₀ left held d (.step c next)) (s : Surroundings σ) (w : World σ) :
    Machine.reply s w c = ((w.answer s c).1, (w.answer s c).2, none) := by
  cases h <;> rfl

/-- Whoever holds a number is about to write it. -/
theorem exists_put {r : Routine (Except ActionError α)} {v : Int}
    (h : Owes key st₀ left (some v) d r) :
    ∃ x next, r = .step (.store (.put key x)) next := by
  cases h with
  | write => exact ⟨_, _, rfl⟩

end Owes

/-! ### Actions that count -/

namespace Action

variable {key action : String} {st₀ : Store} {d : Int}

/-- An action that counts owes what it adds until it has written the counter. -/
theorem owes_count {ps : Members} (hps : ps.text? "key" = some key) (hd : d = 1 ∨ d = -1)
    (line : String → Json → String) :
    Owes key st₀ (fun _ d' ↦ d' = 0) none d (do
      let key ← ofExcept (ps.text action "key")
      let count ← addToCounter action key (Float.ofInt d)
      display (line key count) : Action Unit).run := by
  have htext : ps.text action "key" = .ok key := by
    rw [Members.text, show (ps.get? "key").bind Json.asStr? = some key from hps]
  rw [htext]
  exact .read fun v ↦ .write hd rfl (.display (.done rfl))

end Action

namespace Engine

variable {key : String} {st₀ : Store} {e : Engine} {call : ActionCall}

/-- The two actions that count are registered. -/
structure HasCounting (e : Engine) : Prop where
  increment : e.registry.get? "countIncrement" = some Action.countIncrement
  decrement : e.registry.get? "countDecrement" = some Action.countDecrement

/-- An action that counts owes its difference when its handler begins. -/
theorem owes_dispatch (he : e.HasCounting) (hcall : call.CountsOn key st₀)
    {p : Prepared} (hhandler : e.registry.get? call.name = some p.handler)
    (hps : p.params.text? "key" = some key) (perform : ActionCall → Action Unit) :
    Owes key st₀ (fun _ d ↦ d = 0) none call.difference (e.dispatch perform p).run := by
  rw [ActionCall.difference, dispatch]
  rcases hcall.name with hname | hname
  · rw [hname, he.increment] at hhandler
    rw [if_pos hname, ← Option.some.inj hhandler]
    exact Action.owes_count hps (.inl rfl) fun key count ↦
      ": Incrementing count " ++ key ++ " to " ++ count.text
  · rw [hname, he.decrement] at hhandler
    rw [if_neg (by rw [hname]; decide), ← Option.some.inj hhandler]
    exact Action.owes_count hps (.inr rfl) fun key count ↦
      ": Decrementing count " ++ key ++ " to " ++ count.text

/-- The preparation of an action that counts succeeds, and leaves the counter alone. -/
theorem owes_prepare_bind {β : Type} {left : β → Int → Prop} {d : Int} (he : e.HasCounting)
    (hcall : call.CountsOn key st₀) {f : Prepared → Action β}
    (hf : ∀ p, e.registry.get? call.name = some p.handler → p.params.text? "key" = some key →
      Owes key st₀ left none d (f p).run) :
    Owes key st₀ left none d (e.prepare call >>= f).run := by
  obtain ⟨handler, hhandler⟩ : ∃ handler, e.registry.get? call.name = some handler := by
    rcases hcall.name with hname | hname <;> rw [hname]
    · exact ⟨_, he.increment⟩
    · exact ⟨_, he.decrement⟩
  rw [prepare_bind]
  refine .display (.announce (.resolve fun st hst ↦ .announce ?_))
  obtain ⟨ps, hps, hkey⟩ := hcall.params st hst
  change Owes key st₀ left none d (Action.ofExcept (Schema.validate call.name
    (Placeholder.resolveMembers st.get? call.paramsOrEmpty)) >>= _).run
  rw [hps]
  refine .announce ?_
  rw [hhandler]
  exact .activePage fun page ↦ hf ⟨handler, ps, page⟩ hhandler hkey

/-- What a stage leaves to be started owes what the stage has not done. -/
def Leaves (key : String) (st₀ : Store) (deferred : Option (Action Unit)) (d : Int) : Prop :=
  deferred.elim (d = 0) fun a ↦ Owes key st₀ (fun _ d' ↦ d' = 0) none d a.run

/-- An action that counts owes its difference from its preparation on. -/
theorem owes_perform (he : e.HasCounting) (hcall : call.CountsOn key st₀) :
    Owes key st₀ (fun _ d ↦ d = 0) none call.difference (e.perform call).run :=
  owes_prepare_bind he hcall fun _ hhandler hps ↦ owes_dispatch he hcall hhandler hps _

/-- A stage that counts owes its difference, or leaves it to what it starts. -/
theorem owes_stageOf (he : e.HasCounting) (hcall : call.CountsOn key st₀) :
    Owes key st₀ (Leaves key st₀) none call.difference (e.stageOf call).run := by
  rw [stageOf]
  split
  · refine (owes_perform he hcall).bind ?_
    rintro _ _ rfl
    exact .done rfl
  · exact owes_prepare_bind he hcall fun p hhandler hps ↦
      .done (owes_dispatch he hcall hhandler hps _)

end Engine
end WebRecipe
