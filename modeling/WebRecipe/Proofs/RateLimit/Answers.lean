import WebRecipe.Address
import WebRecipe.Proofs.RateLimit.Kept

/-!
# Rate limits as fixed windows

In each window of a client so many requests are accepted, and the others are told to wait until the
window is over. The windows of one client have nothing to do with those of another one, although
every request makes a limit forget all windows that are over.

A window of no length is never open, not even to the request that opens it. Then everything is
accepted, and still a limit tracks the client of the last request.

## Main definitions

* `RateLimit.Judged`: an answer is as the requests before it say.

## Main results

* `RateLimit.keeps_after`: what a limit keeps of requests in the order of their times.
* `RateLimit.fixed_windows`: the answers to all requests, whoever makes them when.
-/

namespace WebRecipe
namespace RateLimit

open Exchange

variable {κ : Type} {window most : Nat} {requests : List (κ × Nat)}

/-! ### Requests in the order of their times -/

private theorem time_le {before after : List (Exchange κ)} {x : Exchange κ}
    (hsorted : ((before ++ x :: after).map time).Pairwise (· ≤ ·)) :
    ∀ y ∈ before, y.time ≤ x.time := by
  rw [List.map_append, List.pairwise_append] at hsorted
  exact fun y hy ↦ hsorted.2.2 y.time (List.mem_map_of_mem hy) x.time List.mem_cons_self

variable [BEq κ]

private theorem map_time_exchanges (limit : RateLimit κ) (requests : List (κ × Nat)) :
    (limit.exchanges requests).map time = requests.map Prod.snd := by
  conv_rhs => rw [← limit.map_request_exchanges requests, List.map_map]
  rfl

private theorem pairwise_timesOf {history : List (Exchange κ)} {client : κ}
    (hsorted : (history.map time).Pairwise (· ≤ ·)) :
    (timesOf client history).Pairwise (· ≤ ·) :=
  hsorted.sublist (List.filter_sublist.map time)

variable [LawfulBEq κ]

/-- What a limit keeps of requests in the order of their times. -/
theorem keeps_after (hsorted : (requests.map Prod.snd).Pairwise (· ≤ ·)) :
    ((RateLimit.new window most : RateLimit κ).after requests).Keeps window (max most 1)
      ((RateLimit.new window most).exchanges requests) := by
  induction requests using List.reverseRecOn with
  | nil => exact Keeps.new window most
  | append_singleton requests r ih =>
    have hhistory := hsorted
    rw [← map_time_exchanges (RateLimit.new window most), exchanges_concat] at hhistory
    rw [List.map_append, List.pairwise_append] at hsorted
    rw [after_concat, exchanges_concat]
    refine (ih hsorted.1).check (Nat.le_max_right most 1) (time_le hhistory) (pairwise_timesOf ?_)
    rw [map_time_exchanges]
    exact hsorted.1

/-- A limit keeps what came before an exchange, and answers with the exchange. -/
private theorem keeps_of_split (hsorted : (requests.map Prod.snd).Pairwise (· ≤ ·))
    {before after : List (Exchange κ)} {x : Exchange κ}
    (hsplit : (RateLimit.new window most).exchanges requests = before ++ x :: after) :
    (∀ y ∈ before, y.time ≤ x.time) ∧ (before.map time).Pairwise (· ≤ ·) ∧
      ∃ limit, limit = (RateLimit.new window most).after (before.map request) ∧
        limit.Keeps window (max most 1) before ∧ x = limit.exchange (x.client, x.time) := by
  rw [← map_time_exchanges (RateLimit.new window most), hsplit] at hsorted
  have hbefore : (before.map time).Pairwise (· ≤ ·) := by
    rw [List.map_append] at hsorted
    exact (List.pairwise_append.1 hsorted).1
  obtain ⟨heq, hx, -⟩ := exchanges_split hsplit
  refine ⟨time_le hsorted, hbefore, _, rfl, ?_, hx⟩
  conv => arg 4; rw [heq]
  exact keeps_after (by rwa [List.map_map])

/-! ### Answers -/

/-- An answer is as the requests before it say. -/
structure Judged (window most : Nat) (before : List (Exchange κ)) (x : Exchange κ) : Prop where
  refused_iff : ∀ wait, x.answer = .error wait ↔
    ∃ opened, openSince? window (timesOf x.client before) x.time = some opened ∧
      acceptedIn window x.client opened before = most ∧ wait = opened + window - x.time
  wait_bounds : ∀ wait, x.answer = .error wait → 0 < wait ∧ wait ≤ window
  opens : (∀ opened, lastOpening? window (timesOf x.client before) = some opened →
      opened + window ≤ x.time) →
    x.answer = .ok () ∧ lastOpening? window (timesOf x.client (before ++ [x])) = some x.time

/-- A limit that keeps what it should answers as it should. -/
theorem Keeps.judged {limit : RateLimit κ} {before : List (Exchange κ)} {client : κ} {now : Nat}
    (h : limit.Keeps window most before) (hmost : 0 < most) (hnow : ∀ x ∈ before, x.time ≤ now) :
    Judged window most before (limit.exchange (client, now)) := by
  have hrefused (wait : Nat) : (limit.check client now).1 = .error wait ↔
      ∃ opened, openSince? window (timesOf client before) now = some opened ∧
        acceptedIn window client opened before = most ∧ wait = opened + window - now := by
    rcases h.check_cases hmost hnow client with ⟨w, hw, hcount, hcheck⟩ | ⟨w, hw, hcount, hcheck⟩
    · obtain ⟨t, ht, rfl⟩ := Option.map_eq_some_iff.1 hw
      rw [hcheck]
      constructor
      · intro hwait
        exact ⟨t, ht, hcount, (Except.error.inj hwait).symm⟩
      · rintro ⟨opened, hopened, -, rfl⟩
        rw [ht] at hopened
        rw [Option.some.inj hopened]
    · rw [hcheck]
      constructor
      · nofun
      · rintro ⟨opened, hopened, haccepted, -⟩
        rw [windowAt, hopened, Option.map_some, Option.getD_some] at hw
        rw [← hw, haccepted] at hcount
        exact absurd hcount (Nat.lt_irrefl most)
  refine ⟨hrefused, fun wait hwait ↦ ?_, fun hover ↦ ?_⟩
  · obtain ⟨opened, hopened, -, rfl⟩ := (hrefused wait).1 hwait
    have hle : (openSince? window (timesOf client before) now).getD now ≤ now :=
      openSince?_getD_le hnow
    rw [hopened, Option.getD_some] at hle
    have hlt := (openSince?_eq_some_iff.1 hopened).2
    omega
  · have hnone : openSince? window (timesOf client before) now = none := by
      rw [Option.eq_none_iff_forall_ne_some]
      intro opened hopened
      obtain ⟨hlast, hlt⟩ := openSince?_eq_some_iff.1 hopened
      exact absurd hlt (Nat.not_lt.2 (hover opened hlast))
    refine ⟨?_, ?_⟩
    · refine (h.answer hmost hnow client).trans ?_
      rw [windowAt, hnone]
      rfl
    · rw [timesOf_concat_self, lastOpening?_concat]
      exact congrArg (fun o : Option Nat ↦ some (o.getD now)) hnone

/-- All answers are as the requests before them say. -/
theorem judged_of_split (hsorted : (requests.map Prod.snd).Pairwise (· ≤ ·))
    {before after : List (Exchange κ)} {x : Exchange κ}
    (hsplit : (RateLimit.new window most).exchanges requests = before ++ x :: after) :
    Judged window (max most 1) before x := by
  obtain ⟨hnow, -, limit, -, hkeeps, hx⟩ := keeps_of_split hsorted hsplit
  rw [hx]
  exact hkeeps.judged (Nat.le_max_right most 1) hnow

/-- In the window that a request opens, no more requests are accepted than may be. -/
theorem acceptedIn_le (hsorted : (requests.map Prod.snd).Pairwise (· ≤ ·))
    {before after : List (Exchange κ)} {x : Exchange κ}
    (hsplit : (RateLimit.new window most).exchanges requests = before ++ x :: after)
    (hopen : openSince? window (timesOf x.client before) x.time = none) :
    acceptedIn window x.client x.time (before ++ x :: after) ≤ max most 1 := by
  induction after using List.reverseRecOn generalizing requests with
  | nil =>
    obtain ⟨-, hbefore, -⟩ := keeps_of_split hsorted hsplit
    rw [acceptedIn_concat, acceptedIn_eq_zero hopen (pairwise_timesOf hbefore)]
    split <;> omega
  | append_singleton after y ih =>
    rw [← List.cons_append, ← List.append_assoc] at hsplit ⊢
    obtain ⟨hlast, hbefore, -⟩ := keeps_of_split hsorted hsplit
    have hle : acceptedIn window x.client x.time (before ++ x :: after) ≤ max most 1 := by
      refine ih ?_ (exchanges_split hsplit).1.symm
      rwa [List.map_map]
    rw [acceptedIn_concat]
    split
    case isFalse => exact hle
    case isTrue hin =>
      simp only [isAcceptedIn, Bool.and_eq_true, decide_eq_true_iff, beq_iff_eq] at hin
      obtain ⟨⟨⟨hclient, hok⟩, -⟩, hlt⟩ := hin
      -- the window is open to the last request, which was accepted since it was not full
      have hsince : openSince? window (timesOf y.client (before ++ x :: after)) y.time =
          some x.time := by
        rw [openSince?_eq_some_iff, hclient, timesOf_append_cons_self]
        refine ⟨lastOpening?_append hopen fun time htime ↦ ?_, hlt⟩
        obtain ⟨z, hz, rfl⟩ := List.mem_map.1 htime
        exact Nat.lt_of_le_of_lt (hlast z (List.mem_append_right _
          (List.mem_cons_of_mem x (List.mem_filter.1 hz).1))) hlt
      have hne : acceptedIn window x.client x.time (before ++ x :: after) ≠ max most 1 := by
        intro hfull
        rw [← hclient] at hfull
        rw [((judged_of_split hsorted hsplit).refused_iff _).2 ⟨x.time, hsince, hfull, rfl⟩] at hok
        cases hok
      omega

/-! ### Independence -/

/-- A client gets the answer that it gets from a limit that had no other client. -/
private theorem exchange_filter (hsorted : (requests.map Prod.snd).Pairwise (· ≤ ·)) {client : κ}
    {now : Nat} (hnow : ∀ r ∈ requests, r.2 ≤ now)
    (h : ((RateLimit.new window most).exchanges requests).filter (fun x ↦ x.client == client) =
      (RateLimit.new window most).exchanges (requests.filter (fun r ↦ r.1 == client))) :
    ((RateLimit.new window most).after requests).exchange (client, now) =
      ((RateLimit.new window most).after (requests.filter (fun r ↦ r.1 == client))).exchange
        (client, now) := by
  have hown : ((requests.filter (fun r ↦ r.1 == client)).map Prod.snd).Pairwise (· ≤ ·) :=
    hsorted.sublist (List.filter_sublist.map Prod.snd)
  have hhistory : ∀ x ∈ (RateLimit.new window most : RateLimit κ).exchanges requests,
      x.time ≤ now := by
    intro x hx
    refine hnow x.request ?_
    rw [← map_request_exchanges (RateLimit.new window most) requests]
    exact List.mem_map_of_mem hx
  have hmost : 0 < max most 1 := Nat.le_max_right most 1
  refine congrArg (Exchange.mk client now) ?_
  rw [(keeps_after hsorted).answer hmost hhistory client, (keeps_after hown).answer hmost ?_ client,
    ← h, windowAt_filter]
  rw [← h]
  exact fun x hx ↦ hhistory x (List.mem_filter.1 hx).1

/-- The answers to a client are those of a limit that has no other client. -/
theorem exchanges_filter (hsorted : (requests.map Prod.snd).Pairwise (· ≤ ·)) (client : κ) :
    ((RateLimit.new window most).exchanges requests).filter (fun x ↦ x.client == client) =
      (RateLimit.new window most).exchanges (requests.filter (fun r ↦ r.1 == client)) := by
  induction requests using List.reverseRecOn with
  | nil => rfl
  | append_singleton requests r ih =>
    rw [List.map_append, List.pairwise_append] at hsorted
    replace ih := ih hsorted.1
    have hnow : ∀ q ∈ requests, q.2 ≤ r.2 := fun q hq ↦
      hsorted.2.2 q.2 (List.mem_map_of_mem hq) r.2 List.mem_cons_self
    rw [exchanges_concat, List.filter_append, List.filter_append, ih]
    obtain ⟨sender, now⟩ := r
    by_cases hclient : sender = client
    case pos =>
      subst hclient
      have hself : [(sender, now)].filter (fun r ↦ r.1 == sender) = [(sender, now)] :=
        List.filter_cons_of_pos (beq_self_eq_true sender)
      rw [hself, exchanges_concat, ← exchange_filter hsorted.1 hnow ih]
      simp [exchange]
    case neg => simp [exchange, hclient]

omit [LawfulBEq κ] in
/-- Forgetting windows that are over changes nothing later. -/
theorem check_pruned {limit : RateLimit κ} {now later : Nat} (h : now ≤ later) (client : κ) :
    (limit.pruned now).check client later = limit.check client later := by
  have hpruned : (limit.pruned now).pruned later = limit.pruned later := by
    unfold pruned
    rw [List.filter_filter]
    congr 1
    refine List.filter_congr fun c _ ↦ ?_
    simp only [isOpen, Bool.and_eq_left_iff_imp, decide_eq_true_iff]
    omega
  unfold RateLimit.check
  rw [hpruned]

omit [LawfulBEq κ] in
theorem exchanges_pruned {limit : RateLimit κ} {now : Nat} (h : ∀ r ∈ requests, now ≤ r.2) :
    (limit.pruned now).exchanges requests = limit.exchanges requests := by
  cases requests with
  | nil => rfl
  | cons r later =>
    rw [exchanges, exchanges, exchange, exchange, check_pruned (h r List.mem_cons_self)]

omit [LawfulBEq κ] in
private theorem check_refused {limit : RateLimit κ} {client : κ} {now : Nat}
    (h : (limit.check client now).1.isOk = false) :
    (limit.check client now).2 = limit.pruned now := by
  unfold RateLimit.check at h ⊢
  dsimp only at h ⊢
  split at h
  case isTrue hfull => rw [if_pos hfull]
  case isFalse => cases h

omit [LawfulBEq κ] in
/-- A refusal takes nothing from anybody: without the request the others are answered the same. -/
theorem exchanges_without_refused (hsorted : (requests.map Prod.snd).Pairwise (· ≤ ·))
    {before after : List (Exchange κ)} {x : Exchange κ}
    (hsplit : (RateLimit.new window most).exchanges requests = before ++ x :: after)
    (hrefused : x.answer.isOk = false) :
    (RateLimit.new window most).exchanges ((before ++ after).map request) = before ++ after := by
  obtain ⟨heq, hx, hafter⟩ := exchanges_split hsplit
  have hpruned : (RateLimit.new window most : RateLimit κ).after ((before ++ [x]).map request) =
      ((RateLimit.new window most).after (before.map request)).pruned x.time := by
    rw [List.map_append]
    refine after_concat.trans (check_refused ?_)
    rw [hx] at hrefused
    exact hrefused
  have hlater : ∀ r ∈ after.map request, x.time ≤ r.2 := by
    rw [← map_time_exchanges (RateLimit.new window most), hsplit, List.map_append,
      List.pairwise_append, List.map_cons, List.pairwise_cons] at hsorted
    intro r hr
    obtain ⟨y, hy, rfl⟩ := List.mem_map.1 hr
    exact hsorted.2.1.1 y.time (List.mem_map_of_mem hy)
  rw [hpruned, exchanges_pruned hlater] at hafter
  rw [List.map_append, exchanges_append, ← heq, ← hafter]

/-! ### All requests -/

/-- Requests in the order of their times are answered in fixed windows. The answers to a client are
those of a limit that has no other client, and each answer is as the client's requests before it
say. In a window that a request opens, no more requests are accepted than may be. Leaving out a
refused request changes no other answer. If windows have a length, the clients with an open window
are tracked. -/
theorem fixed_windows (window most : Nat) (requests : List (κ × Nat))
    (hsorted : (requests.map Prod.snd).Pairwise (· ≤ ·)) :
    (∀ client,
      ((RateLimit.new window most).exchanges requests).filter (fun x ↦ x.client == client) =
        (RateLimit.new window most).exchanges (requests.filter (fun r ↦ r.1 == client))) ∧
    ∀ before x after, (RateLimit.new window most).exchanges requests = before ++ x :: after →
      Judged window (max most 1) before x ∧
      (openSince? window (timesOf x.client before) x.time = none →
        acceptedIn window x.client x.time (before ++ x :: after) ≤ max most 1) ∧
      (x.answer.isOk = false →
        (RateLimit.new window most).exchanges ((before ++ after).map request) = before ++ after) ∧
      (0 < window → ∃ clients : List κ, clients.Nodup ∧
        (∀ client, client ∈ clients ↔
          (openSince? window (timesOf client (before ++ [x])) x.time).isSome) ∧
        ((RateLimit.new window most).after ((before ++ [x]).map request)).tracked =
          clients.length) := by
  refine ⟨exchanges_filter hsorted, fun before x after hsplit ↦ ⟨judged_of_split hsorted hsplit,
    acceptedIn_le hsorted hsplit, exchanges_without_refused hsorted hsplit, fun hwindow ↦ ?_⟩⟩
  obtain ⟨hnow, hbefore, limit, rfl, hkeeps, hx⟩ := keeps_of_split hsorted hsplit
  have htimes : (timesOf x.client before).Pairwise (· ≤ ·) := pairwise_timesOf hbefore
  obtain ⟨clients, hnodup, hclients, htracked⟩ :=
    hkeeps.tracked_check hwindow (Nat.le_max_right most 1) hnow htimes
  refine ⟨clients, hnodup, ?_, ?_⟩
  · rw [← hx] at hclients
    exact hclients
  · rw [List.map_append, List.map_singleton, after_concat]
    exact htracked

/-- Two clients in windows of ten milliseconds for two requests: one of them is refused until its
window is over, which does not change the answers to the other requests. -/
theorem fixed_windows_two_clients :
    let here := Address.bytes 10 0 0 1
    let there := Address.bytes 10 0 0 2
    let requests := [(here, 0), (here, 4), (there, 5), (here, 9), (here, 10)]
    let before : List (Exchange Address) := [⟨here, 0, .ok ()⟩, ⟨here, 4, .ok ()⟩,
      ⟨there, 5, .ok ()⟩]
    let after : List (Exchange Address) := [⟨here, 10, .ok ()⟩]
    (requests.map Prod.snd).Pairwise (· ≤ ·) ∧
    (RateLimit.new 10 2).exchanges requests = before ++ ⟨here, 9, .error 1⟩ :: after ∧
    (RateLimit.new 10 2).exchanges ((before ++ after).map request) = before ++ after := by
  intro here there requests before after
  have hsorted : (requests.map Prod.snd).Pairwise (· ≤ ·) := by decide
  have hsplit : (RateLimit.new 10 2).exchanges requests =
      before ++ ⟨here, 9, .error 1⟩ :: after := by decide
  have hwindows := (fixed_windows 10 2 requests hsorted).2 before _ after hsplit
  exact ⟨hsorted, hsplit, hwindows.2.2.1 rfl⟩

/-- A window of no length is not open, and its client is tracked. -/
theorem tracked_without_window :
    let client := Address.bytes 10 0 0 1
    ((RateLimit.new 0 1).after [(client, 0)]).tracked = 1 ∧
      openSince? 0 [0] 0 = none := by
  decide

end RateLimit
end WebRecipe
