import WebRecipe.Action.Builtin
import WebRecipe.Http.Service
import WebRecipe.Proofs.RateLimit.Answers
import WebRecipe.Rehearsal

/-!
# Coming back after a refusal

A client that is refused is refused until its window is over, and accepted from then on, if it makes
no requests meanwhile; what others do does not matter. The answer of the service tells it a number
of seconds: the time that is left of the window, rounded down, but at least one second. So the
number is enough when the time that is left is not longer than a second or consists of whole
seconds, and not otherwise. One second more is always enough.

## Main definitions

* `Http.Visit`, `Http.limitAfter`: requests to the service, and the limit after them.
* `Http.Visit.Refused`: the client made too many requests.

## Main results

* `RateLimit.check_after_refusal`: how a client is answered that was refused before.
* `Http.back_after_refusal`: when a client is accepted that comes back.
-/

namespace WebRecipe

/-! ### The window of a refused client -/

namespace RateLimit

open Exchange

variable {κ : Type} [BEq κ] {window most now later : Nat} {requests between : List (κ × Nat)}
  {client : κ}

private theorem forall_exchanges {p : κ × Nat → Prop} {limit : RateLimit κ}
    (h : ∀ r ∈ requests, p r) : ∀ x ∈ limit.exchanges requests, p x.request := by
  intro x hx
  refine h x.request ?_
  rw [← limit.map_request_exchanges requests]
  exact List.mem_map_of_mem hx

variable [LawfulBEq κ]

/-- Requests of others do not count. -/
theorem windowAt_append_of_ne {history others : List (Exchange κ)}
    (h : ∀ y ∈ others, y.client ≠ client) :
    windowAt window (history ++ others) client now = windowAt window history client now := by
  have hnone : others.filter (fun y ↦ y.client == client) = [] :=
    List.filter_eq_nil_iff.2 fun y hy heq ↦ h y hy (beq_iff_eq.1 heq)
  rw [← windowAt_filter, List.filter_append, hnone, List.append_nil, windowAt_filter]

/-- Whoever is refused has a full window, and is told the time that is left of it. -/
theorem Keeps.exists_full_of_refused {limit : RateLimit κ} {history : List (Exchange κ)}
    {wait : Nat} (h : limit.Keeps window most history) (hmost : 0 < most)
    (hnow : ∀ x ∈ history, x.time ≤ now)
    (hrefused : (limit.check client now).1 = .error wait) :
    ∃ opened, openSince? window (timesOf client history) now = some opened ∧
      acceptedIn window client opened history = most ∧ opened ≤ now ∧
      opened + window = now + wait := by
  have hjudged : Judged window most history (limit.exchange (client, now)) := h.judged hmost hnow
  obtain ⟨opened, hopened, hfull, hwait⟩ := (hjudged.refused_iff wait).1 hrefused
  have hpos := (hjudged.wait_bounds wait hrefused).1
  replace hopened : openSince? window (timesOf client history) now = some opened := hopened
  replace hwait : wait = opened + window - now := hwait
  have hbegun : (openSince? window (timesOf client history) now).getD now ≤ now :=
    openSince?_getD_le hnow
  rw [hopened, Option.getD_some] at hbegun
  exact ⟨opened, hopened, hfull, hbegun, by omega⟩

/-- A client that was refused, and made no requests since, is refused until the time is over that
was left of its window, and accepted from then on. -/
theorem check_after_refusal {wait : Nat}
    (hsorted : ((requests ++ (client, now) :: between).map Prod.snd).Pairwise (· ≤ ·))
    (hlater : ∀ r ∈ requests ++ (client, now) :: between, r.2 ≤ later)
    (hrefused : (((RateLimit.new window most).after requests).check client now).1 = .error wait)
    (hsilent : ∀ r ∈ between, r.1 ≠ client) :
    (((RateLimit.new window most).after (requests ++ (client, now) :: between)).check client
      later).1 = if later < now + wait then .error (now + wait - later) else .ok () := by
  have hmost : 0 < max most 1 := Nat.le_max_right most 1
  have hanswer : (((RateLimit.new window most).after (requests ++ (client, now) :: between)).check
      client later).1 = judge window (max most 1) later
        (windowAt window ((RateLimit.new window most).exchanges
          (requests ++ (client, now) :: between)) client later) :=
    (keeps_after hsorted).answer hmost (forall_exchanges hlater) client
  rw [List.map_append, List.pairwise_append] at hsorted
  have hnow : ∀ r ∈ requests, r.2 ≤ now := fun r hr ↦
    hsorted.2.2 r.2 (List.mem_map_of_mem hr) now List.mem_cons_self
  obtain ⟨opened, hopened, hfull, hbegun, hend⟩ :=
    (keeps_after hsorted.1).exists_full_of_refused hmost (forall_exchanges hnow) hrefused
  -- the client has the window that it had right after the refusal
  have hwindow : windowAt window ((RateLimit.new window most).exchanges requests ++
      [⟨client, now, .error wait⟩]) client later =
        if later < opened + window then some ⟨opened, max most 1⟩ else none := by
    rw [← hfull]
    exact windowAt_concat_self (hlater _ (List.mem_append_right _ List.mem_cons_self))
      (congrArg (Option.getD · now) hopened) hbegun
  have hx : ((RateLimit.new window most).after requests).exchange (client, now) =
      ⟨client, now, .error wait⟩ :=
    congrArg (Exchange.mk client now) hrefused
  rw [hanswer, exchanges_append, exchanges, hx, ← List.singleton_append, ← List.append_assoc,
    windowAt_append_of_ne (forall_exchanges hsilent), hwindow, hend]
  split
  · rw [judge, if_pos (Nat.le_refl _), hend]
  · rfl

end RateLimit

/-! ### The seconds that are told -/

namespace Http

variable {σ κ : Type}

/-- A request that comes to the service, and the world that it meets. -/
structure Visit (σ κ : Type) where
  world : World σ
  env : Environment
  request : Request κ

/-- The time of a request. -/
def Visit.time (v : Visit σ κ) : Nat :=
  v.world.clock

/-- The requests that count against a rate limit, each with its client and its time. -/
def counted (visits : List (Visit σ κ)) : List (κ × Nat) :=
  visits.filterMap fun v ↦
    if v.request.method = "OPTIONS" then none else some (v.request.client, v.time)

/-- What is answered where the rate limit admits a request is no refusal. -/
theorem status_answerAllowed {e : Engine} {s : Surroundings σ} {w : World σ} {env : Environment}
    {r : Request κ} {a : Answer} (h : (answerAllowed e s w env r).1 = some a) :
    a.status ≠ 429 := by
  rw [answerAllowed.eq_def] at h
  dsimp only at h
  split at h
  case h_4 =>
    rw [answerPosted.eq_def] at h
    split at h
    · cases h
    · split at h <;> cases h <;> simp [Answer.json, Answer.internalError]
  all_goals
    cases h
    simp

section Limits

variable [BEq κ] (e : Engine) (s : Surroundings σ) (limit : RateLimit κ)

/-- The answer to a request, and the limit and the world after it. -/
def Visit.answered (v : Visit σ κ) : Option Answer × RateLimit κ × World σ :=
  answer e s limit v.world v.env v.request

/-- The limit after requests. -/
def limitAfter (visits : List (Visit σ κ)) : RateLimit κ :=
  visits.foldl (fun limit v ↦ (v.answered e s limit).2.1) limit

/-- Whether a request is refused because its client made too many. -/
def Visit.Refused (v : Visit σ κ) : Prop :=
  (v.answered e s limit).1.map Answer.status = some 429

instance (v : Visit σ κ) : Decidable (v.Refused e s limit) :=
  inferInstanceAs (Decidable (_ = _))

variable {e s limit}

/-- A request that counts and that the limit refuses is answered by how long to wait. -/
theorem Visit.answered_of_error {v : Visit σ κ} {wait : Nat}
    (hmethod : v.request.method ≠ "OPTIONS")
    (h : (limit.check v.request.client v.time).1 = .error wait) :
    (v.answered e s limit).1 = some (.tooMany wait) := by
  have hcheck : limit.check v.request.client v.world.clock =
      (.error wait, (limit.check v.request.client v.world.clock).2) := Prod.ext h rfl
  rw [Visit.answered, answer.eq_def, if_neg hmethod, hcheck]

/-- A request is refused when it counts and the limit refuses it. -/
theorem Visit.refused_iff {v : Visit σ κ} : v.Refused e s limit ↔
    v.request.method ≠ "OPTIONS" ∧
      ∃ wait, (limit.check v.request.client v.time).1 = .error wait := by
  constructor
  · intro h
    obtain ⟨a, ha, hstatus⟩ := Option.map_eq_some_iff.1 h
    rw [Visit.answered, answer.eq_def] at ha
    split at ha
    case isTrue =>
      cases ha
      cases hstatus
    case isFalse hmethod =>
      split at ha
      case h_1 wait limit' hcheck => exact ⟨hmethod, wait, congrArg Prod.fst hcheck⟩
      case h_2 => exact absurd hstatus (status_answerAllowed ha)
  · rintro ⟨hmethod, wait, hwait⟩
    rw [Visit.Refused, Visit.answered_of_error hmethod hwait]
    rfl

/-- A request leaves the limit that its client leaves, if it counts. -/
theorem Visit.limit_answered {v : Visit σ κ} : (v.answered e s limit).2.1 =
    if v.request.method = "OPTIONS" then limit else (limit.check v.request.client v.time).2 := by
  rw [Visit.answered, answer.eq_def]
  split
  · rfl
  · show _ = (limit.check v.request.client v.world.clock).2
    split <;> rename_i hcheck <;> rw [hcheck]

theorem limitAfter_eq {visits : List (Visit σ κ)} :
    limitAfter e s limit visits = limit.after (counted visits) := by
  induction visits generalizing limit with
  | nil => rfl
  | cons v visits ih =>
    have hcons : limitAfter e s limit (v :: visits) =
        limitAfter e s (v.answered e s limit).2.1 visits := rfl
    rw [hcons, ih, Visit.limit_answered, counted, counted, List.filterMap_cons]
    split <;> rfl

end Limits

/-! ### Coming back -/

section Counted

variable {visits : List (Visit σ κ)}

theorem mem_counted {r : κ × Nat} (h : r ∈ counted visits) :
    ∃ v ∈ visits, (v.request.client, v.time) = r := by
  obtain ⟨v, hv, hr⟩ := List.mem_filterMap.1 h
  split at hr
  · cases hr
  · exact ⟨v, hv, Option.some.inj hr⟩

/-- Requests that come in the order of their times count in this order. -/
theorem pairwise_counted (h : (visits.map Visit.time).Pairwise (· ≤ ·)) :
    ((counted visits).map Prod.snd).Pairwise (· ≤ ·) := by
  rw [List.pairwise_map] at h ⊢
  refine List.Pairwise.filterMap _ (fun v v' hle r hr r' hr' ↦ ?_) h
  split at hr <;> split at hr' <;> cases hr <;> cases hr'
  exact hle

end Counted

variable [BEq κ] [LawfulBEq κ]

/-- **When a client that comes back is accepted.** Requests come to the service in the order of
their times, one is refused, and the next one of the same client comes later. It is refused just
when the window of the client is not over yet. The answer to the first one tells the client the
whole seconds that are left of the window, but at least one. After so many seconds the client is
accepted if the time that was left is at most a second or consists of whole seconds, and refused
otherwise. After one second more it is accepted in any case. -/
theorem back_after_refusal (e : Engine) (s : Surroundings σ) (window most : Nat)
    (before between : List (Visit σ κ)) (refused back : Visit σ κ)
    (hsorted : ((before ++ refused :: (between ++ [back])).map Visit.time).Pairwise (· ≤ ·))
    (hrefused : refused.Refused e s (limitAfter e s (.new window most) before))
    (hclient : back.request.client = refused.request.client)
    (hsilent : ∀ v ∈ between, v.request.client ≠ refused.request.client) :
    ∃ wait seconds,
      (((RateLimit.new window most).after (counted before)).check refused.request.client
        refused.time).1 = .error wait ∧ seconds = max (wait / 1000) 1 ∧
      (refused.answered e s (limitAfter e s (.new window most) before)).1.bind Answer.retryAfter =
        some seconds ∧
      (back.Refused e s (limitAfter e s (.new window most) (before ++ refused :: between)) ↔
        back.request.method ≠ "OPTIONS" ∧ back.time < refused.time + wait) ∧
      (wait ≤ 1000 ∨ 1000 ∣ wait → refused.time + 1000 * seconds ≤ back.time →
        ¬ back.Refused e s (limitAfter e s (.new window most) (before ++ refused :: between))) ∧
      (1000 < wait ∧ ¬ 1000 ∣ wait → back.request.method ≠ "OPTIONS" →
        back.time = refused.time + 1000 * seconds →
        back.Refused e s (limitAfter e s (.new window most) (before ++ refused :: between))) ∧
      (refused.time + 1000 * (seconds + 1) ≤ back.time →
        ¬ back.Refused e s (limitAfter e s (.new window most) (before ++ refused :: between))) := by
  obtain ⟨hmethod, wait, hwait⟩ := Visit.refused_iff.1 hrefused
  have hanswer := Visit.answered_of_error (e := e) (s := s) hmethod hwait
  -- the requests that count, in the order of their times
  have hcounted : counted (before ++ refused :: between) =
      counted before ++ (refused.request.client, refused.time) :: counted between := by
    rw [counted, List.filterMap_append, List.filterMap_cons, if_neg hmethod]
    rfl
  rw [← List.cons_append, ← List.append_assoc, List.map_append, List.pairwise_append] at hsorted
  obtain ⟨hearlier, -, hlast⟩ := hsorted
  have hlater : ∀ r ∈ counted (before ++ refused :: between), r.2 ≤ back.time := by
    intro r hr
    obtain ⟨v, hv, rfl⟩ := mem_counted hr
    exact hlast v.time (List.mem_map_of_mem hv) back.time List.mem_cons_self
  have hpairwise := pairwise_counted hearlier
  rw [hcounted] at hlater hpairwise
  have hothers : ∀ r ∈ counted between, r.1 ≠ refused.request.client := by
    intro r hr
    obtain ⟨v, hv, rfl⟩ := mem_counted hr
    exact hsilent v hv
  rw [limitAfter_eq] at hwait
  have hback : back.Refused e s (limitAfter e s (.new window most) (before ++ refused :: between)) ↔
      back.request.method ≠ "OPTIONS" ∧ back.time < refused.time + wait := by
    rw [Visit.refused_iff, limitAfter_eq, hcounted, hclient,
      RateLimit.check_after_refusal hpairwise hlater hwait hothers]
    refine and_congr_right fun _ ↦ ?_
    split
    case isTrue hopen => exact iff_of_true ⟨_, rfl⟩ hopen
    case isFalse hover => exact iff_of_false nofun hover
  refine ⟨wait, _, hwait, rfl, by rw [hanswer]; rfl, hback, ?_, ?_, ?_⟩
  · rw [hback]
    omega
  · rw [hback]
    exact fun hwait hcounts htime ↦ ⟨hcounts, by omega⟩
  · rw [hback]
    omega

/-- A client asks for a page that is not there, at a time. -/
def asking (method : String) (client : Address) (time : Nat) : Visit Rehearsal Address where
  world := { clock := time, rest := {} }
  env := []
  request := { method, target := "/nowhere", contentType := none, body := "", client }

/-- A window of three seconds for one request: the second one is refused with three seconds left,
and while another client is served the time goes by. -/
theorem back_after_refusal_threeSeconds :
    let e : Engine := { registry := Action.builtinRegistry }
    let s := Rehearsal.surroundings
    let here := Address.bytes 10 0 0 1
    let before := [asking "GET" here 0]
    let between := [asking "GET" (Address.bytes 10 0 0 2) 10]
    (asking "GET" here 0).Refused e s (limitAfter e s (.new 3000 1) before) ∧
      ¬ (asking "GET" here 3000).Refused e s
        (limitAfter e s (.new 3000 1) (before ++ asking "GET" here 0 :: between)) := by
  intro e s here before between
  have hrefused : (asking "GET" here 0).Refused e s (limitAfter e s (.new 3000 1) before) := by
    decide +kernel
  obtain ⟨wait, seconds, hwait, rfl, -, -, henough, -⟩ := back_after_refusal e s 3000 1 before
    between (asking "GET" here 0) (asking "GET" here 3000) (by decide) hrefused rfl (by decide)
  have hleft : (((RateLimit.new 3000 1).after (counted before)).check here 0).1 = .error 3000 := by
    decide +kernel
  obtain rfl : 3000 = wait := Except.error.inj (hleft.symm.trans hwait)
  exact ⟨hrefused, henough (.inr (by decide)) (by decide)⟩

/-- A window of one and a half seconds for one request: the second one is refused and told to come
back after one second, and is refused then. -/
theorem refused_after_seconds_told :
    let e : Engine := { registry := Action.builtinRegistry }
    let s := Rehearsal.surroundings
    let client := Address.bytes 10 0 0 1
    let limit := limitAfter e s (.new 1500 1) [asking "GET" client 0]
    (asking "GET" client 0).Refused e s limit ∧
      ((asking "GET" client 0).answered e s limit).1.bind Answer.retryAfter = some 1 ∧
      (asking "GET" client 1000).Refused e s
        (limitAfter e s (.new 1500 1) [asking "GET" client 0, asking "GET" client 0]) := by
  decide +kernel

end Http
end WebRecipe
