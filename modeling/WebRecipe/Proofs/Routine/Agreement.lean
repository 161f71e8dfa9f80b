import WebRecipe.Proofs.Routine.Contract
import WebRecipe.Retry

/-!
# Routines that agree

Two routines agree in a world when the one runs as the other does, that is, comes to the same result
and leaves the same world, as long as the assumption of a contract holds of the moments of the
other. An action follows another one when they agree wherever something holds that the other one
keeps.

## Main definitions

* `Contract.Agrees`: two routines agree in a world.
* `Contract.Follows`: an action agrees with another one that keeps what holds.

## Main results

* `Contract.agrees_bind`, `Contract.Follows.bind`: routines in a row.
* `Contract.agrees_attemptFrom`: routines that are tried again and again.
-/

namespace WebRecipe

variable {σ α β : Type}

namespace Routine

/-- The second of two routines in a row runs in the world that the first one leaves. -/
theorem run_bind (s : Surroundings σ) (w : World σ) (r : Routine α) (f : α → Routine β) :
    (r >>= f).run s w = match r.run s w with
      | (some a, w') => (f a).run s w'
      | (none, w') => (none, w') := by
  induction r generalizing w with
  | done a => rfl
  | unfinished => rfl
  | step c next ih => exact ih _ _

/-- Two routines in a row come to a result if both do. -/
theorem exists_of_run_bind {s : Surroundings σ} {w w' : World σ} {r : Routine α}
    {f : α → Routine β} {b : β} (h : (r >>= f).run s w = (some b, w')) :
    ∃ a u, r.run s w = (some a, u) ∧ (f a).run s u = (some b, w') := by
  induction r generalizing w with
  | done a => exact ⟨a, w, rfl, h⟩
  | unfinished => cases h
  | step c next ih => exact ih _ h

/-- The moments of the first of two routines in a row are moments of both together. -/
theorem mem_moments_bind {s : Surroundings σ} {author : Option String} {w : World σ}
    {r : Routine α} {f : α → Routine β} {m : Moment σ} (h : m ∈ r.moments s author w) :
    m ∈ (r >>= f).moments s author w := by
  induction r generalizing author w with
  | done a => cases h
  | unfinished => cases h
  | step c next ih =>
    rcases List.mem_cons.1 h with rfl | h
    · exact List.mem_cons_self
    · exact List.mem_cons_of_mem _ (ih _ h)

end Routine

namespace Contract

variable (k : Contract σ)

/-- As long as the assumption holds of the moments of a routine, another one runs as it does. -/
def Agrees (author : Option String) (w : World σ) (x y : Routine α) : Prop :=
  (∀ m ∈ x.moments k.surroundings author w, k.assumes m) →
    y.run k.surroundings w = x.run k.surroundings w

variable {k} {author : Option String} {w : World σ}

theorem Agrees.refl (x : Routine α) : k.Agrees author w x x :=
  fun _ ↦ rfl

/-- The same command first, and then routines that agree in the world after it. -/
theorem agrees_step {c : Command} {next next' : c.Reply → Routine α}
    (h : k.assumes ⟨author, w, c⟩ → k.Agrees (c.latest author) (w.answer k.surroundings c).2
      (next (w.answer k.surroundings c).1) (next' (w.answer k.surroundings c).1)) :
    k.Agrees author w (.step c next) (.step c next') := by
  intro hassumes
  obtain ⟨hnow, hlater⟩ := List.forall_mem_cons.1 hassumes
  exact h hnow hlater

private theorem run_bind_of_ensures {x : Routine α} {f g : α → Routine β}
    (h : k.Ensures (fun a author w ↦ k.Agrees author w (f a) (g a)) author w x)
    (hassumes : ∀ m ∈ (x >>= f).moments k.surroundings author w, k.assumes m) :
    (x >>= g).run k.surroundings w = (x >>= f).run k.surroundings w := by
  induction x generalizing author w with
  | done a => exact h hassumes
  | unfinished => rfl
  | step c next ih =>
    obtain ⟨hnow, hlater⟩ := List.forall_mem_cons.1 hassumes
    exact ih _ (h hnow).2 hlater

/-- Routines in a row agree when the first ones do, and the second ones wherever the first one
ends. -/
theorem agrees_bind {x y : Routine α} {f g : α → Routine β} (h : k.Agrees author w x y)
    (hfg : k.Ensures (fun a author w ↦ k.Agrees author w (f a) (g a)) author w x) :
    k.Agrees author w (x >>= f) (y >>= g) := by
  intro hassumes
  have hfirst : y.run k.surroundings w = x.run k.surroundings w :=
    h fun m hm ↦ hassumes m (Routine.mem_moments_bind hm)
  calc (y >>= g).run k.surroundings w
      = (x >>= g).run k.surroundings w := by rw [Routine.run_bind, Routine.run_bind, hfirst]
    _ = (x >>= f).run k.surroundings w := run_bind_of_ensures hfg hassumes

/-! ### Actions -/

variable (k) in
/-- An action keeps what holds of the author and the world, and another one agrees with it wherever
this holds. -/
structure Follows (I : Option String → World σ → Prop) (x y : Action α) : Prop where
  keeps : k.Keeps I x (fun _ ↦ True)
  agrees : ∀ author w, I author w → k.Agrees author w x.run y.run

namespace Follows

variable {I : Option String → World σ → Prop} {x y : Action α} {f g : α → Action β}

theorem refl (h : k.Keeps I x (fun _ ↦ True)) : k.Follows I x x :=
  ⟨h, fun _ _ _ ↦ .refl _⟩

/-- The second of two actions in a row is reached when the first one succeeds. -/
theorem agrees_bind (h : k.Follows I x y) {author : Option String} {w : World σ} (hI : I author w)
    (hfg : ∀ a author w, I author w → k.Agrees author w (f a).run (g a).run) :
    k.Agrees author w (x >>= f).run (y >>= g).run := by
  rw [ExceptT.run_bind, ExceptT.run_bind]
  refine Contract.agrees_bind (h.agrees author w hI) ?_
  refine (h.keeps.ensures author w hI).mono fun r author w hr ↦ ?_
  cases r with
  | ok a => exact hfg a author w hr.1
  | error e => exact .refl _

theorem bind (h : k.Follows I x y) (hfg : ∀ a, k.Follows I (f a) (g a)) :
    k.Follows I (x >>= f) (y >>= g) where
  keeps := h.keeps.bind fun a _ ↦ (hfg a).keeps
  agrees _ _ hI := h.agrees_bind hI fun a author w hw ↦ (hfg a).agrees author w hw

/-- The same action first, and then actions that follow each other. -/
theorem after {x : Action α} (h : k.Keeps I x (fun _ ↦ True)) (hfg : ∀ a, k.Follows I (f a) (g a)) :
    k.Follows I (x >>= f) (x >>= g) :=
  (refl h).bind hfg

theorem ite {c : Prop} [Decidable c] {x' y' : Action α} (h : k.Follows I x y)
    (h' : k.Follows I x' y') : k.Follows I (if c then x else x') (if c then y else y') := by
  split
  · exact h
  · exact h'

/-- Actions whose outcome is looked at. -/
theorem outcome (h : k.Follows I x y) : k.Follows I (ExceptT.lift x.run) (ExceptT.lift y.run) where
  keeps := .lift h.keeps.preserves
  agrees author w hI := by
    rw [ExceptT.run_lift, ExceptT.run_lift, map_eq_pure_bind, map_eq_pure_bind]
    refine Contract.agrees_bind (h.agrees author w hI) ?_
    exact (h.keeps.ensures author w hI).mono fun _ _ _ _ ↦ .refl _

end Follows

section Retry

variable {ε : Type} {options : RetryOptions} {operation operation' : Nat → Routine (Except ε α)}
  {passing : ε → Bool} {pause : Nat → Duration → Routine Unit} {I : Option String → World σ → Prop}

/-- What every attempt and every pause preserve, trying again and again preserves. -/
theorem Preserves.attemptFrom (hop : ∀ n, k.Preserves I (operation n))
    (hpause : ∀ n delay, k.Preserves I (pause n delay))
    (attempt : Nat) (delay : Duration) (more : Nat) :
    k.Preserves I (Retry.attemptFrom options operation passing pause attempt delay more) := by
  induction more generalizing attempt delay with
  | zero => exact hop attempt
  | succ more ih =>
    refine .bind (hop attempt) fun outcome ↦ ?_
    cases outcome with
    | ok a => exact .done
    | error e =>
      show k.Preserves I (if passing e then _ else _)
      split
      · exact .bind (hpause _ _) fun _ ↦ ih _ _
      · exact .done

/-- Attempts that agree still do so when they are made again and again. -/
theorem agrees_attemptFrom (hop : ∀ n, k.Preserves I (operation n))
    (hpause : ∀ n delay, k.Preserves I (pause n delay))
    (hagrees : ∀ n author w, I author w → k.Agrees author w (operation n) (operation' n))
    (attempt : Nat) (delay : Duration) (more : Nat) {author : Option String} {w : World σ}
    (hI : I author w) :
    k.Agrees author w
      (Retry.attemptFrom options operation passing pause attempt delay more)
      (Retry.attemptFrom options operation' passing pause attempt delay more) := by
  induction more generalizing attempt delay author w with
  | zero => exact hagrees attempt author w hI
  | succ more ih =>
    refine agrees_bind (hagrees attempt author w hI) ?_
    refine ((hop attempt).ensures author w hI).mono fun outcome author w hw ↦ ?_
    cases outcome with
    | ok a => exact .refl _
    | error e =>
      show k.Agrees author w (if passing e then _ else _) (if passing e then _ else _)
      split
      · refine agrees_bind (.refl _) ?_
        exact ((hpause _ _).ensures author w hw).mono fun _ _ _ hw ↦ ih _ _ hw
      · exact .refl _

end Retry

end Contract
end WebRecipe
