import Mathlib.Algebra.Group.Nat.Defs
import Mathlib.Order.Bounds.Basic
import WebRecipe.Retry

/-!
# How often and after which delays

An operation whose outcomes are a stream is tried until one of them settles the matter or no attempt
is left. Everything that happens is determined by the number of the last attempt, which is the least
of three (`IsLastAttempt`), and by the delays, which are the terms of a geometric progression, cut
off at a limit (`RetryOptions.delayAfter`).

The delay that is carried from one attempt to the next is a product that stays at the longest
duration once it would exceed it. A limit is a duration as well, so cutting off hides where the
product stopped growing (`RetryOptions.Grown.shorter_eq`).

## Main results

* `Retry.run_eq_rounds`: the attempts, announcements and sleeps in their order, and the result.
-/

namespace WebRecipe

/-! ### Delays -/

/-- The delay after attempt `i`, which is counted from 1: the initial delay times `i - 1` factors,
but not more than the limit. -/
def RetryOptions.delayAfter (options : RetryOptions) (i : Nat) : Duration where
  nanos := min (options.initialDelay.nanos * options.multiplier ^ (i - 1)) options.maxDelay.nanos
  nanos_le := Nat.le_trans (Nat.min_le_right _ _) options.maxDelay.nanos_le

/-- A delay after `n` products: the exact one, or the longest duration. -/
def RetryOptions.Grown (options : RetryOptions) (n : Nat) (delay : Duration) : Prop :=
  delay.nanos = min (options.initialDelay.nanos * options.multiplier ^ n) longestNanos

namespace RetryOptions.Grown

variable {options : RetryOptions} {n : Nat} {delay : Duration}

theorem initial (options : RetryOptions) : options.Grown 0 options.initialDelay := by
  simp [Grown, options.initialDelay.nanos_le]

/-- Cutting off a product before it is multiplied again loses nothing. -/
private theorem min_mul_min (x m limit : Nat) :
    min (min x limit * m) limit = min (x * m) limit := by
  rcases Nat.le_total x limit with hx | hx
  · rw [Nat.min_eq_left hx]
  · rw [Nat.min_eq_right hx]
    rcases Nat.eq_zero_or_pos m with rfl | hm
    · simp
    · have hlimit : limit ≤ limit * m := Nat.le_mul_of_pos_right limit hm
      rw [Nat.min_eq_right hlimit, Nat.min_eq_right (hlimit.trans (Nat.mul_le_mul_right m hx))]

theorem times (h : options.Grown n delay) :
    options.Grown (n + 1) (delay.times options.multiplier) := by
  unfold Grown at h ⊢
  rw [Duration.nanos_times, h, min_mul_min, Nat.pow_succ, Nat.mul_assoc]

theorem shorter_eq (h : options.Grown n delay) :
    delay.shorter options.maxDelay = options.delayAfter (n + 1) := by
  rw [Duration.mk.injEq]
  show min delay.nanos options.maxDelay.nanos = min _ options.maxDelay.nanos
  rw [h, Nat.min_assoc, Nat.min_eq_right options.maxDelay.nanos_le, Nat.add_sub_cancel]

end RetryOptions.Grown

/-! ### The last attempt -/

namespace Retry

variable {ε α : Type}

/-- Whether an outcome leaves nothing to be tried: a success, or a failure for a lasting cause. -/
def Settles (passing : ε → Bool) : Except ε α → Prop
  | .ok _ => True
  | .error e => passing e = false

/-- `k` is the least of the number of attempts allowed, which is at least 1, and the numbers of the
attempts whose outcome settles the matter. Attempts are counted from 1, outcomes from 0. -/
def IsLastAttempt (options : RetryOptions) (passing : ε → Bool) (outcomes : Nat → Except ε α)
    (k : Nat) : Prop :=
  IsLeast {i | i = max options.maxAttempts 1 ∨ ∃ n, i = n + 1 ∧ Settles passing (outcomes n)} k

namespace IsLastAttempt

variable {options : RetryOptions} {passing : ε → Bool} {outcomes : Nat → Except ε α}

/-- The attempt that is the last one allowed is the last one when nothing has settled the matter. -/
theorem of_allowed {n : Nat} (hmax : max options.maxAttempts 1 = n + 1)
    (hearlier : ∀ i < n, ¬ Settles passing (outcomes i)) :
    IsLastAttempt options passing outcomes (n + 1) := by
  refine ⟨.inl hmax.symm, ?_⟩
  rintro i (rfl | ⟨j, rfl, hj⟩)
  · exact Nat.le_of_eq hmax.symm
  · exact Nat.succ_le_succ (Nat.le_of_not_lt fun hlt ↦ hearlier j hlt hj)

/-- The first attempt that settles the matter is the last one, if it is allowed. -/
theorem of_settles {n : Nat} (hmax : n < options.maxAttempts)
    (hsettles : Settles passing (outcomes n)) (hearlier : ∀ i < n, ¬ Settles passing (outcomes i)) :
    IsLastAttempt options passing outcomes (n + 1) := by
  refine ⟨.inr ⟨n, rfl, hsettles⟩, ?_⟩
  rintro i (rfl | ⟨j, rfl, hj⟩)
  · exact Nat.le_trans hmax (Nat.le_max_left _ _)
  · exact Nat.succ_le_succ (Nat.le_of_not_lt fun hlt ↦ hearlier j hlt hj)

end IsLastAttempt

/-! ### The rounds -/

section Rounds

variable {m : Type → Type} [Monad m] [LawfulMonad m] (options : RetryOptions) (passing : ε → Bool)
  (outcomes : Nat → Except ε α) (call : Nat → m Unit) (announce : Nat → Duration → m Unit)
  (sleep : Duration → m Unit)

/-- What happens from call `n` on to the next one, when its outcome is a passing failure. -/
def round (n : Nat) : m Unit := do
  call n
  announce (n + 1) (options.delayAfter (n + 1))
  sleep (options.delayAfter (n + 1))

/-- From call `n` on, with `more` further calls allowed: some number of rounds and a last call. -/
theorem exists_attemptFrom_eq (n more : Nat) (delay : Duration)
    (hmore : max options.maxAttempts 1 = n + more + 1) (hdelay : options.Grown n delay)
    (hearlier : ∀ i < n, ¬ Settles passing (outcomes i)) :
    ∃ rounds, IsLastAttempt options passing outcomes (n + rounds + 1) ∧
      attemptFrom options (fun i ↦ do call i; return outcomes i) passing
          (fun i d ↦ do announce i d; sleep d) n delay more =
        (do
          forM (List.range' n rounds) (round options call announce sleep)
          call (n + rounds)
          return outcomes (n + rounds)) := by
  induction more generalizing n delay with
  | zero => exact ⟨0, .of_allowed hmore hearlier, by simp [attemptFrom]⟩
  | succ more ih =>
    by_cases hsettles : Settles passing (outcomes n)
    case pos =>
      refine ⟨0, .of_settles (by omega) hsettles hearlier, ?_⟩
      cases houtcome : outcomes n with
      | ok a => simp [attemptFrom, houtcome]
      | error e =>
        rw [houtcome] at hsettles
        simp [attemptFrom, houtcome, show passing e = false from hsettles]
    case neg =>
      have hearlier' : ∀ i < n + 1, ¬ Settles passing (outcomes i) := by
        intro i hi
        rcases Nat.lt_succ_iff_lt_or_eq.1 hi with hi | rfl
        · exact hearlier i hi
        · exact hsettles
      obtain ⟨rounds, hlast, hrest⟩ := ih (n + 1) (delay.times options.multiplier) (by omega)
        hdelay.times hearlier'
      refine ⟨rounds + 1, by rwa [Nat.add_right_comm n 1 rounds] at hlast, ?_⟩
      cases houtcome : outcomes n with
      | ok a => exact absurd (by rw [houtcome]; trivial) hsettles
      | error e =>
        have hpassing : passing e = true := by
          rw [houtcome] at hsettles
          exact Bool.eq_true_of_not_eq_false hsettles
        rw [attemptFrom, List.range'_succ, List.forM_cons]
        simp only [bind_assoc, pure_bind, houtcome, hpassing, if_true, hdelay.shorter_eq, hrest,
          round, Nat.add_assoc, Nat.add_comm 1]

/-- **How often and after which delays an operation is tried.** It is called `k` times, where `k` is
the least of the number of attempts allowed and the numbers of the attempts that settle the matter,
and its last outcome counts. Between two calls the number of attempts made is announced with the
exact delay, cut off at the limit, and that delay is slept. -/
theorem run_eq_rounds :
    ∃ k, IsLastAttempt options passing outcomes k ∧
      run options (fun i ↦ do call i; return outcomes i) passing announce sleep =
        (do
          forM (List.range (k - 1)) (round options call announce sleep)
          call (k - 1)
          return outcomes (k - 1)) := by
  have hmore : max options.maxAttempts 1 = 0 + (options.maxAttempts - 1) + 1 := by omega
  obtain ⟨rounds, hlast, hrun⟩ := exists_attemptFrom_eq options passing outcomes call announce
    sleep 0 (options.maxAttempts - 1) options.initialDelay hmore (.initial options) nofun
  simp only [Nat.zero_add] at hlast hrun
  refine ⟨rounds + 1, hlast, ?_⟩
  rw [List.range_eq_range']
  exact hrun

end Rounds

/-- Three passing failures and a success: four calls, and the last of three delays is cut off. -/
theorem run_eq_rounds_cutOff :
    let options : RetryOptions :=
      { maxAttempts := 5, initialDelay := .ofMillis 1, maxDelay := .ofMillis 3, multiplier := 2 }
    let outcomes (n : Nat) : Except String Nat := if n < 3 then .error "ECONNRESET" else .ok n
    let call (_ : Nat) : StateM (List (Nat × Duration)) Unit := pure ()
    let announce (i : Nat) (delay : Duration) : StateM (List (Nat × Duration)) Unit :=
      modify (· ++ [(i, delay)])
    let sleep (_ : Duration) : StateM (List (Nat × Duration)) Unit := pure ()
    LawfulMonad (StateM (List (Nat × Duration))) ∧
      (∃ k, IsLastAttempt options isPassing outcomes k ∧
        run options (fun i ↦ do call i; return outcomes i) isPassing announce sleep =
          (do
            forM (List.range (k - 1)) (round options call announce sleep)
            call (k - 1)
            return outcomes (k - 1))) ∧
      Id.run ((run options (fun i ↦ do call i; return outcomes i) isPassing announce
        sleep).run []) = (.ok 3, [(1, .ofMillis 1), (2, .ofMillis 2), (3, .ofMillis 3)]) := by
  intro options outcomes call announce sleep
  exact ⟨inferInstance, run_eq_rounds options isPassing outcomes call announce sleep,
    by decide +kernel⟩

end Retry
end WebRecipe
