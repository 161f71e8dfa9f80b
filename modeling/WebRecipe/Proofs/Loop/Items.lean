import WebRecipe.Proofs.Plain
import WebRecipe.Proofs.Resolving

/-!
# Rounds over values

A loop over numbers or over items goes through rounds, one for each value: a line is shown, the
value is handed on, and the block of the loop is started. Which values these are is settled before
the first round, so that nothing that the block does can change how often, in which order and with
which values it is started. The rounds end early only with a block that fails or is given up.

A loop over the items of a list takes the list from the store once, before its first round. The
block may do to the variable what it likes: it may append to it, overwrite it, delete it, or go
through it in a loop of its own. It is started with the items that the list had at the beginning,
each in its turn, and with no others.

## Main definitions

* `Round`, `World.entering`: a round, and the world in which its block starts.
* `Rounds`: what rounds come to, and the worlds in which the block is started.
* `Action.rounds`: the action of going through rounds.
* `StartsWith`: what is known of the starts of a block.
* `Action.itemRound`, `Action.roundsOf`: the rounds for the items of a list.

## Main results

* `Action.rounds_run`: going through rounds comes to what the relation says.
* `Rounds.startsWith`: the block is started with each value in order, up to the first failure.
* `Engine.performWithin_rounds`: what an action comes to whose handler goes through rounds.
* `Action.leads_itemLoop`: a loop over a list leads to the rounds for its items.
* `Engine.itemLoop_snapshot`: a loop over items works on a snapshot.
-/

namespace WebRecipe

variable {σ : Type}

/-- A round of a loop: the line at its beginning, and the value that is handed on. -/
structure Round where
  line : String
  value : Json

/-- The world in which the block of a round starts. -/
def World.entering (w : World σ) (round : Round) : World σ :=
  (w.showing round.line).putting Key.input round.value

theorem World.input_entering (w : World σ) (round : Round) :
    (w.entering round).store.input = some round.value :=
  World.input_putting _ _

/-- `Rounds s block rounds w starts r` goes through rounds from the world `w`: a block is started in
the worlds `starts`, each entered from the one that the block before has left, and the rounds come
to `r`. -/
inductive Rounds (s : Surroundings σ) (block : Action Unit) : List Round → World σ →
    List (World σ) → Option (Except ActionError Unit) × World σ → Prop
  | finished {w : World σ} : Rounds s block [] w [] (some (.ok ()), w)
  | passed {round : Round} {rest : List Round} {w w' : World σ} {starts : List (World σ)}
      {r : Option (Except ActionError Unit) × World σ}
      (ran : block.run.run s (w.entering round) = (some (.ok ()), w'))
      (later : Rounds s block rest w' starts r) :
      Rounds s block (round :: rest) w (w.entering round :: starts) r
  | failed {round : Round} {rest : List Round} {w w' : World σ} {err : ActionError}
      (ran : block.run.run s (w.entering round) = (some (.error err), w')) :
      Rounds s block (round :: rest) w [w.entering round] (some (.error err), w')
  | givenUp {round : Round} {rest : List Round} {w w' : World σ}
      (ran : block.run.run s (w.entering round) = (none, w')) :
      Rounds s block (round :: rest) w [w.entering round] (none, w')

/-- A block is started with values in order, up to a start after which it fails or is given up, or
else with all of them. -/
structure StartsWith (s : Surroundings σ) (block : Action Unit) (values : List Json)
    (starts : List (World σ)) (r : Option (Except ActionError Unit) × World σ) : Prop where
  /-- There are no more starts than values. -/
  length_le : starts.length ≤ values.length
  /-- The value that is handed on at each start is the one whose turn it is. -/
  inputs : starts.map (fun start ↦ start.store.input) = (values.take starts.length).map some
  /-- The block succeeds after each start but the last one. -/
  passes : ∀ start ∈ starts.dropLast, (block.run.run s start).1 = some (.ok ())
  /-- When all has succeeded, the block was started with every value. -/
  finishes : r.1 = some (.ok ()) → starts.length = values.length
  /-- A failure is that of the block after its last start. -/
  fails : ∀ err, r.1 = some (.error err) →
    ∃ start, starts.getLast? = some start ∧ block.run.run s start = r
  /-- If the block ends after each start, then so does all of it. -/
  ends : (∀ start ∈ starts, (block.run.run s start).1 ≠ none) → r.1 ≠ none

/-- At each start the value is handed on whose turn it is. -/
theorem StartsWith.input_eq {s : Surroundings σ} {block : Action Unit} {values : List Json}
    {starts : List (World σ)} {r : Option (Except ActionError Unit) × World σ}
    (h : StartsWith s block values starts r) {i : Nat} {start : World σ} {v : Json}
    (hstart : starts[i]? = some start) (hv : values[i]? = some v) :
    start.store.input = some v := by
  have hi : i < starts.length := (List.getElem?_eq_some_iff.1 hstart).1
  have hinputs := congrArg (fun vs ↦ vs[i]?) h.inputs
  simp only [List.getElem?_map, List.getElem?_take, if_pos hi, hstart, hv, Option.map_some]
    at hinputs
  exact Option.some.inj hinputs

namespace Rounds

variable {s : Surroundings σ} {block : Action Unit} {rounds : List Round} {w : World σ}
  {starts : List (World σ)} {r : Option (Except ActionError Unit) × World σ}

/-- A round in which the block fails or is given up is the last one. -/
private theorem startsWith_single {round : Round} {rest : List Round}
    (hfails : ∀ err, r.1 = some (.error err) → block.run.run s (w.entering round) = r)
    (hends : r.1 = none → (block.run.run s (w.entering round)).1 = none)
    (hok : r.1 ≠ some (.ok ())) :
    StartsWith s block ((round :: rest).map Round.value) [w.entering round] r where
  length_le := Nat.succ_le_succ (Nat.zero_le _)
  inputs := congrArg (fun v ↦ [v]) (w.input_entering round)
  passes := nofun
  finishes h := absurd h hok
  fails err h := ⟨_, rfl, hfails err h⟩
  ends h hnone := h _ List.mem_cons_self (hends hnone)

/-- The block is started with each value in order, up to the first failure. -/
theorem startsWith (h : Rounds s block rounds w starts r) :
    StartsWith s block (rounds.map Round.value) starts r := by
  induction h with
  | finished =>
    exact ⟨Nat.le_refl _, rfl, nofun, fun _ ↦ rfl, nofun, fun _ ↦ nofun⟩
  | @passed round rest w w' starts r ran later ih =>
    refine ⟨Nat.succ_le_succ ih.length_le, ?_, ?_, fun h ↦ congrArg (· + 1) (ih.finishes h), ?_,
      fun h ↦ ih.ends fun start hstart ↦ h start (List.mem_cons_of_mem _ hstart)⟩
    · rw [List.map_cons, ih.inputs, w.input_entering]
      rfl
    · intro start hstart
      cases starts with
      | nil => cases hstart
      | cons next starts =>
        rcases List.mem_cons.1 hstart with rfl | hstart
        · rw [ran]
        · exact ih.passes start hstart
    · intro err herr
      obtain ⟨start, hlast, hrun⟩ := ih.fails err herr
      refine ⟨start, ?_, hrun⟩
      rw [List.getLast?_cons, hlast]
      rfl
  | failed ran => exact startsWith_single (fun _ _ ↦ ran) nofun nofun
  | givenUp ran => exact startsWith_single nofun (fun _ ↦ congrArg Prod.fst ran) nofun

end Rounds

/-! ### Going through rounds -/

namespace Action

/-- Shows a line, hands a value on and performs actions, for each of some rounds. -/
def rounds (cx : Context) (actions : List ActionCall) : List Round → Action Unit
  | [] => return ()
  | round :: rest => do
    display round.line
    setInput round.value
    cx.runBlock actions
    rounds cx actions rest

variable {s : Surroundings σ}

/-- A round begins with entering it. -/
private theorem run_rounds_cons (s : Surroundings σ) (w : World σ) (cx : Context)
    (actions : List ActionCall) (round : Round) (rest : List Round) :
    (rounds cx actions (round :: rest)).run.run s w =
      (cx.runBlock actions >>= fun _ ↦ rounds cx actions rest).run.run s (w.entering round) :=
  rfl

/-- Going through rounds comes to what the relation says. -/
theorem rounds_run (s : Surroundings σ) (cx : Context) (actions : List ActionCall)
    (todo : List Round) (w : World σ) :
    ∃ starts, Rounds s (cx.runBlock actions) todo w starts
      ((rounds cx actions todo).run.run s w) := by
  induction todo generalizing w with
  | nil => exact ⟨[], .finished⟩
  | cons round rest ih =>
    rw [run_rounds_cons, run_bind]
    cases hblock : (cx.runBlock actions).run.run s (w.entering round) with
    | mk o w' =>
      match o with
      | some (.ok ()) =>
        obtain ⟨starts, hlater⟩ := ih w'
        exact ⟨_, .passed hblock hlater⟩
      | some (.error err) => exact ⟨_, .failed hblock⟩
      | none => exact ⟨_, .givenUp hblock⟩

/-- Wherever the block of a round starts is reached by going through the rounds. -/
theorem reaches_of_rounds {cx : Context} {actions : List ActionCall} {todo : List Round}
    {w : World σ} {starts : List (World σ)} {r : Option (Except ActionError Unit) × World σ}
    (h : Rounds s (cx.runBlock actions) todo w starts r) :
    ∀ start ∈ starts, Reaches s w (rounds cx actions todo) (cx.runBlock actions) start := by
  have henter {round : Round} {rest : List Round} {w start : World σ}
      (hround : Reaches s (w.entering round)
        (cx.runBlock actions >>= fun _ ↦ rounds cx actions rest) (cx.runBlock actions) start) :
      Reaches s w (rounds cx actions (round :: rest)) (cx.runBlock actions) start := by
    obtain ⟨k, hk⟩ := hround
    exact ⟨k, .step (.step hk)⟩
  have hfirst {round : Round} {rest : List Round} {w : World σ} :
      Reaches s w (rounds cx actions (round :: rest)) (cx.runBlock actions) (w.entering round) :=
    henter (Reaches.bind (.refl s _ _) _)
  induction h with
  | finished => exact nofun
  | passed ran _ ih =>
    refine List.forall_mem_cons.2 ⟨hfirst, fun start hstart ↦ ?_⟩
    exact henter (.after ran (ih start hstart))
  | failed => exact List.forall_mem_cons.2 ⟨hfirst, nofun⟩
  | givenUp => exact List.forall_mem_cons.2 ⟨hfirst, nofun⟩

end Action

/-! ### Actions that go through rounds -/

namespace Engine

variable {e : Engine} {s : Surroundings σ} {w w₁ : World σ} {call : ActionCall} {p : Prepared}
  {depth : Nat} {actions : List ActionCall} {line : String}

/-- An action whose handler goes through rounds one block deeper comes to what the rounds come to.
It reaches each start of the block, and it comes to an end if the block does so after each start. -/
theorem performWithin_rounds (hprepared : (e.prepare call).run.run s w = (some (.ok p), w₁))
    {todo : List Round} (hhandler : (p.handler (e.context depth p) p.params).run.Leads s w₁
      (Action.showEnd line (Action.rounds (e.context depth p) actions todo)).run w₁) :
    let block := (e.context depth p).runBlock actions
    let r := (Action.rounds (e.context depth p) actions todo).run.run s w₁.deeper
    let performed := (e.performWithin (depth + 1) call).run.run s w
    ∃ starts, Rounds s block todo w₁.deeper starts r ∧ performed = Action.closed line r ∧
      (∀ begun ∈ starts, Action.Reaches s w (e.performWithin (depth + 1) call) block begun) ∧
      ((∀ begun ∈ starts, (block.run.run s begun).1 ≠ none) → performed.1 ≠ none) := by
  intro block r performed
  obtain ⟨starts, hrounds⟩ := Action.rounds_run s (e.context depth p) actions todo w₁.deeper
  obtain ⟨hclosed, hreaches⟩ := performWithin_showEnd hprepared hhandler
  refine ⟨starts, hrounds, hclosed, fun begun hbegun ↦ ?_, fun hends ↦ ?_⟩
  · exact hreaches _ _ (Action.reaches_of_rounds hrounds begun hbegun)
  · change ((e.performWithin (depth + 1) call).run.run s w).1 ≠ none
    rw [hclosed, Action.closed_fst]
    exact hrounds.startsWith.ends hends

end Engine
end WebRecipe

/-! ### Items -/

namespace WebRecipe

variable {σ : Type}

namespace Action

variable {s : Surroundings σ} {w : World σ} {cx : Context} {ps : Members}
  {actions : List ActionCall} {key : String} {items : List Json}

/-- The round for an item with its number in a list. -/
def itemRound (key : String) (total : Nat) (item : Json) (n : Nat) : Round :=
  ⟨": " ++ key ++ "[" ++ toString n ++ "/" ++ toString total ++ "]: " ++ Path.sanitize item.text,
    item⟩

/-- The rounds for the items of a list, which are numbered from one. -/
def roundsOf (key : String) (items : List Json) : List Round :=
  (items.zipIdx 1).map fun m ↦ itemRound key items.length m.1 m.2

/-- There is a round for each item. -/
theorem value_roundsOf (key : String) (items : List Json) :
    (roundsOf key items).map Round.value = items := by
  rw [roundsOf, List.map_map]
  exact List.zipIdx_map_fst 1 items

/-- The rounds of a loop over items are those for the items. -/
theorem itemRounds_eq (cx : Context) (actions : List ActionCall) (key : String) (total n : Nat)
    (items : List Json) :
    itemRounds cx actions key total n items =
      rounds cx actions ((items.zipIdx n).map fun m ↦ itemRound key total m.1 m.2) := by
  induction items generalizing n with
  | nil => rfl
  | cons item rest ih =>
    rw [itemRounds, ih]
    rfl

/-- A loop over items leads to the rounds for the items that the list has in the store. -/
theorem leads_itemLoop (hkey : ps.text "forEach" "key" = .ok key)
    (hbody : ps.body "forEach" "actions" = .ok actions)
    (hitems : w.store.get? key = some (.arr items)) :
    (itemLoop cx ps).run.Leads s w
      (showEnd ": End of forEach" (rounds cx actions (roundsOf key items))).run w := by
  rw [itemLoop, hkey, hbody]
  refine .step ?_
  have hreply : (w.answer s (.store (.get key))).1 = some (.arr items) := hitems
  rw [hreply]
  exact .of_eq (congrArg (fun r ↦ (showEnd ": End of forEach" r).run)
    (itemRounds_eq cx actions key items.length 1 items)) w

end Action

/-- A list that is in the store after an action was announced was there before. -/
theorem World.OnlyAnnounced.get?_of_arr {name key : String} {w w' : World σ} {items : List Json}
    (h : w.OnlyAnnounced name w') (hitems : w'.store.get? key = some (.arr items)) :
    w.store.get? key = some (.arr items) := by
  by_cases hkey : key = Key.params
  · obtain ⟨ps, hstore⟩ := h.store
    rw [hstore, hkey, Store.get?_put_self (by decide)] at hitems
    cases hitems
  · rw [← h.values key hkey, hitems]

/-- **A loop over items works on a snapshot.** When its handler begins there is a list under its
key. Whatever its block does, the block is started with the items of this list, one after another,
until there are no more or the block fails. The loop comes to an end if the block does so after each
start. -/
theorem Engine.itemLoop_snapshot (e : Engine) (s : Surroundings σ)
    (hforEach : e.registry.get? "forEach" = some Action.itemLoop) (depth : Nat) (call : ActionCall)
    (hname : call.name = "forEach") (w w₁ : World σ) (p : Prepared)
    (hprepared : (e.prepare call).run.run s w = (some (.ok p), w₁)) (key : String)
    (hkey : p.params.text "forEach" "key" = .ok key) (items : List Json)
    (hitems : w₁.store.get? key = some (.arr items)) (actions : List ActionCall)
    (hbody : p.params.body "forEach" "actions" = .ok actions) :
    let block := (e.context depth p).runBlock actions
    let performed := (e.performWithin (depth + 1) call).run.run s w
    w.OnlyAnnounced "forEach" w₁ ∧ w.store.get? key = some (.arr items) ∧
    ∃ starts r, Rounds s block (Action.roundsOf key items) w₁.deeper starts r ∧
      StartsWith s block items starts r ∧ performed = Action.closed ": End of forEach" r ∧
      (∀ begun ∈ starts, Action.Reaches s w (e.performWithin (depth + 1) call) block begun) ∧
      ((∀ begun ∈ starts, (block.run.run s begun).1 ≠ none) → performed.1 ≠ none) := by
  intro block performed
  obtain ⟨-, hget, hannounced⟩ := announced_of_prepared hprepared
  rw [hname] at hget hannounced
  have hhandler : p.handler = Action.itemLoop := Option.some.inj (hget.symm.trans hforEach)
  obtain ⟨starts, hrounds, hperforms⟩ := performWithin_rounds hprepared
    (hhandler ▸ Action.leads_itemLoop hkey hbody hitems)
  have hstarts := hrounds.startsWith
  rw [Action.value_roundsOf] at hstarts
  exact ⟨hannounced, hannounced.get?_of_arr hitems, starts, _, hrounds, hstarts, hperforms⟩

/-- A loop goes through a list while its block makes the list longer, and says the two items that
there were. -/
theorem Engine.itemLoop_snapshot_growing :
    let e : Engine := { registry := Action.builtinRegistry }
    let list : Json := .arr [.str "a", .str "b"]
    let c : Members := [("key", .str "LIST"), ("value", .str "c")]
    let text : Members := [("message", .str "\x7b\x7bINPUT\x7d\x7d")]
    let call : ActionCall := ⟨"forEach", some [("key", .str "LIST"), ("actions", .arr
      [.obj [("name", .str "appendToVariable"), ("params", .obj c)],
        .obj [("name", .str "log"), ("params", .obj text)]])], true⟩
    let w : World Rehearsal := { store := ({} : Store).put "LIST" list, rest := {} }
    let w₁ := (w.showing "Running action : forEach").putting Key.params (.obj call.paramsOrEmpty)
    let performed := (e.performWithin 2 call).run.run Rehearsal.surroundings w
    (∃ cx starts r, Rounds Rehearsal.surroundings
      (Context.runBlock cx [⟨"appendToVariable", some c, true⟩, ⟨"log", some text, true⟩])
      (Action.roundsOf "LIST" [.str "a", .str "b"]) w₁.deeper starts r ∧
      performed = Action.closed ": End of forEach" r) ∧
    performed.2.lines = #["Running action : forEach", "  : LIST[1/2]: a",
      "  Running action : appendToVariable", "  : Appending to variable LIST",
      "  Running action : log", "  : a", "  : LIST[2/2]: b",
      "  Running action : appendToVariable", "  : Appending to variable LIST",
      "  Running action : log", "  : b", ": End of forEach"] := by
  intro e list c text call w w₁ performed
  have hresolved : call.resolvedIn w.store = call.paramsOrEmpty :=
    congrArg (fun v ↦ ("key", v) :: call.paramsOrEmpty.tail) (Placeholder.resolveText_eq_self rfl)
  have hprepared : (e.prepare call).run.run Rehearsal.surroundings w =
      (some (.ok ⟨Action.itemLoop, call.paramsOrEmpty, none⟩), w₁) := by
    rw [run_prepare, hresolved]
    rfl
  obtain ⟨-, -, starts, r, hrounds, -, hclosed, -⟩ := itemLoop_snapshot e Rehearsal.surroundings rfl
    1 call rfl w w₁ _ hprepared "LIST" rfl [.str "a", .str "b"] rfl
    [⟨"appendToVariable", some c, true⟩, ⟨"log", some text, true⟩] rfl
  exact ⟨⟨_, starts, r, hrounds, hclosed⟩, by decide +kernel⟩

end WebRecipe
