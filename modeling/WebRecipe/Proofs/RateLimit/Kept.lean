import Mathlib.Data.List.Induction
import WebRecipe.RateLimit

/-!
# What a rate limit keeps

The requests of a client fall into windows, which are told by the times of its requests alone: a
request opens a window when none is open, and the window is open for a fixed time. A limit keeps of
the requests so far the windows that may still be open, with the number of requests that were
accepted in them. It forgets the others whenever anybody makes a request.

## Main definitions

* `Exchange`, `RateLimit.exchanges`: requests with the answers to them.
* `RateLimit.lastOpening?`, `RateLimit.openSince?`: the windows of a client by the times of its
  requests.
* `RateLimit.Keeps`: what a limit keeps of the requests so far.

## Main results

* `RateLimit.Keeps.check`: what a limit keeps after a request.
* `RateLimit.Keeps.answer`: the answer to a request by the window that is open to it.
* `RateLimit.Keeps.tracked_check`: the clients that a limit tracks.
-/

namespace WebRecipe

/-- A request of a client at a time, with the answer to it. -/
structure Exchange (κ : Type) where
  client : κ
  time : Nat
  answer : Except Nat Unit
  deriving DecidableEq

namespace Exchange

variable {κ : Type}

/-- The client and the time of a request. -/
def request (x : Exchange κ) : κ × Nat :=
  (x.client, x.time)

variable [BEq κ]

/-- The times of the requests of a client. -/
def timesOf (client : κ) (history : List (Exchange κ)) : List Nat :=
  (history.filter (fun x ↦ x.client == client)).map time

/-- Whether a request of a client was accepted in the window that opened at a time. -/
def isAcceptedIn (window : Nat) (client : κ) (opened : Nat) (x : Exchange κ) : Bool :=
  x.client == client && x.answer.isOk && opened ≤ x.time && x.time < opened + window

/-- How many requests of a client were accepted in the window that opened at a time. -/
def acceptedIn (window : Nat) (client : κ) (opened : Nat) (history : List (Exchange κ)) : Nat :=
  history.countP (isAcceptedIn window client opened)

end Exchange

namespace RateLimit

open Exchange

variable {κ : Type}

/-! ### Windows by the times of requests -/

section Times

variable {window now : Nat} {times : List Nat}

/-- When the last window opened: a request opens one when none is open. -/
def lastOpening? (window : Nat) (times : List Nat) : Option Nat :=
  times.foldl (fun opened now ↦ some ((opened.filter (now < · + window)).getD now)) none

/-- When the window opened that is open at a time. -/
def openSince? (window : Nat) (times : List Nat) (now : Nat) : Option Nat :=
  (lastOpening? window times).filter (now < · + window)

theorem lastOpening?_concat :
    lastOpening? window (times ++ [now]) = some ((openSince? window times now).getD now) := by
  rw [lastOpening?, List.foldl_append]
  rfl

theorem openSince?_eq_some_iff {opened : Nat} :
    openSince? window times now = some opened ↔
      lastOpening? window times = some opened ∧ now < opened + window := by
  rw [openSince?, Option.filter_eq_some_iff, decide_eq_true_iff]

/-- A window opens with a request. -/
theorem mem_of_lastOpening? {opened : Nat} (h : lastOpening? window times = some opened) :
    opened ∈ times := by
  induction times using List.reverseRecOn generalizing opened with
  | nil => cases h
  | append_singleton times now ih =>
    rw [lastOpening?_concat] at h
    cases hopen : openSince? window times now with
    | none =>
      rw [hopen] at h
      cases h
      exact List.mem_append_right _ List.mem_cons_self
    | some t =>
      rw [hopen] at h
      cases h
      exact List.mem_append_left _ (ih (openSince?_eq_some_iff.1 hopen).1)

/-- A window that has a length is open to the request that opens it. -/
theorem lt_openSince?_getD_add (hwindow : 0 < window) :
    now < (openSince? window times now).getD now + window := by
  cases hopen : openSince? window times now with
  | none => exact Nat.lt_add_of_pos_right hwindow
  | some opened => exact (openSince?_eq_some_iff.1 hopen).2

/-- No window opens while one is open. -/
theorem lastOpening?_append {later : List Nat} (hopen : openSince? window times now = none)
    (hlater : ∀ time ∈ later, time < now + window) :
    lastOpening? window (times ++ now :: later) = some now := by
  induction later using List.reverseRecOn with
  | nil => rw [lastOpening?_concat, hopen, Option.getD_none]
  | append_singleton later last ih =>
    obtain ⟨hbefore, hlast⟩ := List.forall_mem_append.1 hlater
    have hsince : openSince? window (times ++ now :: later) last = some now :=
      openSince?_eq_some_iff.2 ⟨ih hbefore, hlast last List.mem_cons_self⟩
    rw [← List.cons_append, ← List.append_assoc, lastOpening?_concat, hsince, Option.getD_some]

/-- When no window is open at a time, no request was made at this time or later, unless windows have
no length. -/
theorem lt_of_openSince?_eq_none (hopen : openSince? window times now = none)
    (hwindow : 0 < window) (hsorted : times.Pairwise (· ≤ ·)) {time : Nat} (htime : time ∈ times) :
    time < now := by
  -- up to the last window, and in it, all requests come before its end
  have hend : ∃ opened, lastOpening? window times = some opened ∧ time < opened + window := by
    clear hopen
    induction times using List.reverseRecOn with
    | nil => cases htime
    | append_singleton times last ih =>
      obtain ⟨hsorted, -, hlast⟩ := List.pairwise_append.1 hsorted
      have hle : time ≤ last := by
        rcases List.mem_append.1 htime with htime | htime
        · exact hlast time htime last List.mem_cons_self
        · exact Nat.le_of_eq (List.mem_singleton.1 htime)
      rw [lastOpening?_concat]
      cases hopen : openSince? window times last with
      | none => exact ⟨last, rfl, by omega⟩
      | some opened => exact ⟨opened, rfl, by have := (openSince?_eq_some_iff.1 hopen).2; omega⟩
  obtain ⟨opened, hlast, hlt⟩ := hend
  refine Nat.lt_of_lt_of_le hlt (Nat.not_lt.1 fun hnow ↦ ?_)
  rw [openSince?_eq_some_iff.2 ⟨hlast, hnow⟩] at hopen
  cases hopen

end Times

/-! ### Histories -/

variable [BEq κ]

/-- The limit after requests. -/
def after (limit : RateLimit κ) (requests : List (κ × Nat)) : RateLimit κ :=
  requests.foldl (fun limit r ↦ (limit.check r.1 r.2).2) limit

/-- The answer to a request, with the request. -/
def exchange (limit : RateLimit κ) (r : κ × Nat) : Exchange κ :=
  ⟨r.1, r.2, (limit.check r.1 r.2).1⟩

/-- Requests with the answers to them. -/
def exchanges (limit : RateLimit κ) : List (κ × Nat) → List (Exchange κ)
  | [] => []
  | r :: later => limit.exchange r :: exchanges (limit.check r.1 r.2).2 later

section Histories

variable {limit : RateLimit κ} {requests later : List (κ × Nat)} {r : κ × Nat}

theorem map_request_exchanges (limit : RateLimit κ) (requests : List (κ × Nat)) :
    (limit.exchanges requests).map request = requests := by
  induction requests generalizing limit with
  | nil => rfl
  | cons r later ih => rw [exchanges, List.map_cons, ih]; rfl

theorem exchanges_append :
    limit.exchanges (requests ++ later) =
      limit.exchanges requests ++ (limit.after requests).exchanges later := by
  induction requests generalizing limit with
  | nil => rfl
  | cons r requests ih => rw [List.cons_append, exchanges, exchanges, ih]; rfl

theorem exchanges_concat :
    limit.exchanges (requests ++ [r]) =
      limit.exchanges requests ++ [(limit.after requests).exchange r] :=
  exchanges_append

theorem after_concat :
    limit.after (requests ++ [r]) = ((limit.after requests).check r.1 r.2).2 := by
  rw [after, List.foldl_append]
  rfl

/-- An exchange is that of its request after those before it. -/
theorem exchanges_split {before after : List (Exchange κ)} {x : Exchange κ}
    (h : limit.exchanges requests = before ++ x :: after) :
    before = limit.exchanges (before.map request) ∧
      x = (limit.after (before.map request)).exchange x.request ∧
      after = (limit.after ((before ++ [x]).map request)).exchanges (after.map request) := by
  have hrequests : requests = before.map request ++ ([x].map request ++ after.map request) := by
    rw [← limit.map_request_exchanges requests, h, List.map_append]
    rfl
  rw [hrequests, exchanges_append, exchanges_append] at h
  obtain ⟨hbefore, hrest⟩ := List.append_inj h (by
    rw [← List.length_map request, map_request_exchanges, List.length_map])
  obtain ⟨hx, hafter⟩ := List.cons.inj hrest
  refine ⟨hbefore.symm, hx.symm, ?_⟩
  rw [List.map_append, RateLimit.after, List.foldl_append]
  exact hafter.symm

end Histories

/-- The window of a client that is open at a time, by the requests so far. -/
def windowAt (window : Nat) (history : List (Exchange κ)) (client : κ) (now : Nat) :
    Option RequestWindow :=
  (openSince? window (timesOf client history) now).map fun opened ↦
    ⟨opened, acceptedIn window client opened history⟩

section Windows

variable {window now : Nat} {history : List (Exchange κ)} {client : κ}

theorem acceptedIn_concat {opened : Nat} {x : Exchange κ} :
    acceptedIn window client opened (history ++ [x]) =
      acceptedIn window client opened history +
        if isAcceptedIn window client opened x then 1 else 0 := by
  rw [acceptedIn, List.countP_append, List.countP_singleton]
  rfl

/-- The windows of a client are told by its own requests. -/
theorem windowAt_filter :
    windowAt window (history.filter (fun x ↦ x.client == client)) client now =
      windowAt window history client now := by
  have htimes : timesOf client (history.filter (fun x ↦ x.client == client)) =
      timesOf client history := by
    rw [timesOf, List.filter_filter]
    simp only [Bool.and_self]
    rfl
  have haccepted (opened : Nat) :
      acceptedIn window client opened (history.filter (fun x ↦ x.client == client)) =
        acceptedIn window client opened history := by
    rw [acceptedIn, List.countP_filter, acceptedIn]
    refine List.countP_congr fun x _ ↦ ?_
    simp only [isAcceptedIn, Bool.and_eq_true]
    tauto
  simp only [windowAt, htimes, haccepted]

/-- A window that is open at a time opened at this time or before. -/
theorem openSince?_getD_le (hnow : ∀ x ∈ history, x.time ≤ now) :
    (openSince? window (timesOf client history) now).getD now ≤ now := by
  cases hopen : openSince? window (timesOf client history) now with
  | none => exact Nat.le_refl now
  | some opened =>
    obtain ⟨x, hx, rfl⟩ := List.mem_map.1 (mem_of_lastOpening? (openSince?_eq_some_iff.1 hopen).1)
    exact hnow x (List.mem_filter.1 hx).1

/-- Nothing was accepted in a window before it opened. -/
theorem acceptedIn_eq_zero (hopen : openSince? window (timesOf client history) now = none)
    (hsorted : (timesOf client history).Pairwise (· ≤ ·)) :
    acceptedIn window client now history = 0 := by
  rw [acceptedIn, List.countP_eq_zero]
  intro x hx haccepted
  simp only [isAcceptedIn, Bool.and_eq_true, decide_eq_true_iff] at haccepted
  obtain ⟨⟨⟨hclient, -⟩, hle⟩, hlt⟩ := haccepted
  have htime : x.time ∈ timesOf client history :=
    List.mem_map_of_mem (List.mem_filter.2 ⟨hx, hclient⟩)
  have := lt_of_openSince?_eq_none hopen (by omega) hsorted htime
  omega

variable [LawfulBEq κ]

theorem timesOf_append_cons_self {x : Exchange κ} {later : List (Exchange κ)} :
    timesOf x.client (history ++ x :: later) =
      timesOf x.client history ++ x.time :: timesOf x.client later := by
  simp only [timesOf, List.filter_append, List.map_append, List.filter_cons, beq_self_eq_true,
    if_true, List.map_cons]

theorem timesOf_concat_self {x : Exchange κ} :
    timesOf x.client (history ++ [x]) = timesOf x.client history ++ [x.time] :=
  timesOf_append_cons_self

theorem timesOf_concat_of_ne {x : Exchange κ} (h : x.client ≠ client) :
    timesOf client (history ++ [x]) = timesOf client history := by
  simp only [timesOf, List.filter_append, List.filter_cons, beq_eq_false_iff_ne.2 h,
    Bool.false_eq_true, if_false, List.filter_nil, List.append_nil]

/-- A request of somebody else does not count. -/
theorem windowAt_concat_of_ne {x : Exchange κ} (h : x.client ≠ client) :
    windowAt window (history ++ [x]) client now = windowAt window history client now := by
  have hx (opened : Nat) : isAcceptedIn window client opened x = false := by
    rw [isAcceptedIn, beq_eq_false_iff_ne.2 h]
    rfl
  simp only [windowAt, timesOf_concat_of_ne h, acceptedIn_concat, hx, Bool.false_eq_true,
    if_false, Nat.add_zero]

/-- A request counts in the window that is open to it, or opens one. -/
theorem windowAt_concat_self {x : Exchange κ} {opened : Nat} (hnow : x.time ≤ now)
    (hopened : (openSince? window (timesOf x.client history) x.time).getD x.time = opened)
    (hle : opened ≤ x.time) :
    windowAt window (history ++ [x]) x.client now =
      if now < opened + window then
        some ⟨opened, acceptedIn window x.client opened history + if x.answer.isOk then 1 else 0⟩
      else none := by
  rw [windowAt, openSince?, timesOf_concat_self, lastOpening?_concat, hopened, Option.filter_some]
  by_cases hlt : now < opened + window
  · have htime : x.time < opened + window := Nat.lt_of_le_of_lt hnow hlt
    simp only [hlt, decide_true, if_true, Option.map_some, acceptedIn_concat, isAcceptedIn,
      beq_self_eq_true, Bool.true_and, htime, hle, Bool.and_true]
  · simp only [hlt, decide_false, Bool.false_eq_true, if_false, Option.map_none]

end Windows

/-! ### What a limit keeps -/

section Tables

variable {clients : List (κ × RequestWindow)} {client other : κ} {w : RequestWindow}

/-- Leaving out the windows that are not of a kind leaves out that of a client if it is not. -/
private theorem lookup_filter [LawfulBEq κ] {p : RequestWindow → Bool}
    (hnodup : (clients.map Prod.fst).Nodup) :
    (clients.filter (fun c ↦ p c.2)).lookup client = (clients.lookup client).filter p := by
  induction clients with
  | nil => rfl
  | cons c clients ih =>
    obtain ⟨k, v⟩ := c
    rw [List.map_cons, List.nodup_cons] at hnodup
    have hrest := ih hnodup.2
    by_cases hclient : client = k
    · have hnone : clients.lookup client = none := List.lookup_eq_none_iff.2 fun d hd ↦
        bne_iff_ne.2 fun heq ↦ hnodup.1 (List.mem_map.2 ⟨d, hd, heq.symm.trans hclient⟩)
      rw [hnone] at hrest
      cases hp : p v with
      | true => simp [hclient, hp, Option.filter]
      | false => simp [hclient, hp, Option.filter, hclient ▸ hrest]
    · have hne := beq_eq_false_iff_ne.2 hclient
      cases hp : p v with
      | true => simp [List.lookup_cons, hp, hne, hrest]
      | false => simp [List.lookup_cons, hp, hne, hrest]

private theorem mem_map_fst_iff [LawfulBEq κ] :
    client ∈ clients.map Prod.fst ↔ (clients.lookup client).isSome := by
  induction clients with
  | nil => simp
  | cons c clients ih =>
    rw [List.map_cons, List.mem_cons, ih, List.lookup_cons]
    cases hclient : client == c.1 with
    | true => simp only [beq_iff_eq.1 hclient, true_or, Option.isSome_some]
    | false => simp only [beq_eq_false_iff_ne.1 hclient, false_or]

private theorem lookup_setWindow [LawfulBEq κ] :
    (setWindow client w clients).lookup other =
      if other == client then some w else clients.lookup other := by
  induction clients with
  | nil =>
    rw [setWindow, List.lookup_cons, List.lookup_nil]
    cases other == client <;> rfl
  | cons c clients ih =>
    obtain ⟨k, v⟩ := c
    rw [setWindow]
    split
    case isTrue hk =>
      rw [beq_iff_eq.1 hk, List.lookup_cons, List.lookup_cons]
      cases other == client <;> rfl
    case isFalse hk =>
      rw [List.lookup_cons, List.lookup_cons, ih]
      cases hother : other == k with
      | true => simp only [beq_iff_eq.1 hother, hk, Bool.false_eq_true, if_false]
      | false => rfl

private theorem mem_setWindow {c : κ × RequestWindow} (h : c ∈ setWindow client w clients) :
    c ∈ clients ∨ c.2 = w := by
  induction clients with
  | nil => exact .inr (congrArg Prod.snd (List.mem_singleton.1 h))
  | cons d clients ih =>
    rw [setWindow] at h
    split at h
    · rcases List.mem_cons.1 h with rfl | h
      · exact .inr rfl
      · exact .inl (List.mem_cons_of_mem d h)
    · rcases List.mem_cons.1 h with rfl | h
      · exact .inl List.mem_cons_self
      · exact (ih h).imp_left (List.mem_cons_of_mem d)

private theorem map_fst_setWindow [LawfulBEq κ] :
    (setWindow client w clients).map Prod.fst =
      if client ∈ clients.map Prod.fst then clients.map Prod.fst
      else clients.map Prod.fst ++ [client] := by
  induction clients with
  | nil => rfl
  | cons d clients ih =>
    obtain ⟨k, v⟩ := d
    rw [setWindow]
    by_cases hk : k = client
    · simp [hk]
    · have hclient : client ≠ k := Ne.symm hk
      rw [if_neg (by simpa using hk), List.map_cons, ih]
      simp only [List.map_cons, List.mem_cons, hclient, false_or]
      split <;> rfl

private theorem nodup_setWindow [LawfulBEq κ] (hnodup : (clients.map Prod.fst).Nodup) :
    ((setWindow client w clients).map Prod.fst).Nodup := by
  rw [map_fst_setWindow]
  split
  case isTrue => exact hnodup
  case isFalse hclient =>
    refine List.nodup_append.2 ⟨hnodup, List.pairwise_singleton _ _, fun a ha b hb heq ↦ ?_⟩
    rw [heq, List.mem_singleton.1 hb] at ha
    exact hclient ha

end Tables

/-- What a limit keeps of the requests so far: of the windows that may still be open, when each one
opened and how many requests were accepted in it. -/
structure Keeps (limit : RateLimit κ) (window most : Nat) (history : List (Exchange κ)) : Prop where
  window_eq : limit.window = window
  maxRequests_eq : limit.maxRequests = most
  nodup : (limit.clients.map Prod.fst).Nodup
  counts : ∀ c ∈ limit.clients, c.2.count ≤ most
  windows : ∀ now, (∀ x ∈ history, x.time ≤ now) → ∀ client,
    (limit.clients.lookup client).filter (limit.isOpen now) = windowAt window history client now

omit [BEq κ] in
private theorem isOpen_eq {limit : RateLimit κ} {now : Nat} {w : RequestWindow}
    (hle : w.started ≤ now) : limit.isOpen now w = decide (now < w.started + limit.window) :=
  decide_eq_decide.2 (by omega)

/-- A window that is open at a time is the one that was open before, if that one is not over. -/
theorem windowAt_filter_isOpen {limit : RateLimit κ} {history : List (Exchange κ)} {client : κ}
    {now later : Nat} (hlater : now ≤ later) (htimes : ∀ x ∈ history, x.time ≤ later) :
    (windowAt limit.window history client now).filter (limit.isOpen later) =
      windowAt limit.window history client later := by
  unfold windowAt openSince?
  cases hlast : lastOpening? limit.window (timesOf client history) with
  | none => rfl
  | some opened =>
    obtain ⟨x, hx, rfl⟩ := List.mem_map.1 (mem_of_lastOpening? hlast)
    have hle : x.time ≤ later := htimes x (List.mem_filter.1 hx).1
    have hisOpen (count : Nat) : limit.isOpen later ⟨x.time, count⟩ =
        decide (later < x.time + limit.window) := isOpen_eq hle
    rw [Option.filter_some, Option.filter_some]
    by_cases hopen : later < x.time + limit.window
    · have hnow : now < x.time + limit.window := Nat.lt_of_le_of_lt hlater hopen
      simp only [hopen, hnow, decide_true, if_true, Option.map_some, Option.filter_some, hisOpen]
    · by_cases hnow : now < x.time + limit.window <;>
        simp only [hopen, hnow, decide_true, decide_false, if_true, Bool.false_eq_true, if_false,
          Option.map_some, Option.map_none, Option.filter_some, Option.filter_none, hisOpen]

/-- The answer to a request at a time, by the window that is open to it. -/
def judge (window most now : Nat) : Option RequestWindow → Except Nat Unit
  | some w => if most ≤ w.count then .error (w.started + window - now) else .ok ()
  | none => .ok ()

namespace Keeps

theorem new (window most : Nat) :
    Keeps (RateLimit.new window most : RateLimit κ) window (max most 1) [] where
  window_eq := rfl
  maxRequests_eq := rfl
  nodup := List.nodup_nil
  counts := nofun
  windows _ _ _ := rfl

variable [LawfulBEq κ] {limit : RateLimit κ} {window most now : Nat} {history : List (Exchange κ)}
  {client : κ} (h : limit.Keeps window most history)

include h

/-- The window of a client that a limit finds. -/
theorem lookup_pruned (hnow : ∀ x ∈ history, x.time ≤ now) (client : κ) :
    (limit.pruned now).clients.lookup client = windowAt window history client now := by
  rw [← h.windows now hnow client]
  exact lookup_filter h.nodup

/-- In no window more requests were accepted than may be. -/
theorem count_le (hnow : ∀ x ∈ history, x.time ≤ now) {w : RequestWindow}
    (hw : windowAt window history client now = some w) : w.count ≤ most := by
  rw [← h.lookup_pruned hnow] at hw
  obtain ⟨before, after, hclients, -⟩ := List.lookup_eq_some_iff.1 hw
  have hmem : (client, w) ∈ (limit.pruned now).clients :=
    hclients ▸ List.mem_append_right _ List.mem_cons_self
  exact h.counts _ (List.mem_filter.1 hmem).1

/-- What a limit does with a request: it refuses it, or counts it in the window that is open or is
opened by it. -/
theorem check_cases (hmost : 0 < most) (hnow : ∀ x ∈ history, x.time ≤ now) (client : κ) :
    (∃ w, windowAt window history client now = some w ∧ w.count = most ∧
      limit.check client now = (.error (w.started + window - now), limit.pruned now)) ∨
    ∃ w, (windowAt window history client now).getD ⟨now, 0⟩ = w ∧ w.count < most ∧
      limit.check client now = (.ok (), { limit.pruned now with
        clients := setWindow client ⟨w.started, w.count + 1⟩ (limit.pruned now).clients }) := by
  have hwait (w : RequestWindow) : w.started + (limit.pruned now).window - now =
      w.started + window - now := congrArg (w.started + · - now) h.window_eq
  have hmax : (limit.pruned now).maxRequests = most := h.maxRequests_eq
  unfold RateLimit.check
  simp only [h.lookup_pruned hnow, hmax, hwait]
  cases hw : windowAt window history client now with
  | none =>
    rw [Option.getD_none, if_neg (Nat.not_le.2 hmost)]
    exact .inr ⟨_, rfl, hmost, rfl⟩
  | some w =>
    rw [Option.getD_some]
    split
    case isTrue hcount => exact .inl ⟨w, rfl, Nat.le_antisymm (h.count_le hnow hw) hcount, rfl⟩
    case isFalse hcount => exact .inr ⟨w, rfl, Nat.not_le.1 hcount, rfl⟩

/-- A limit answers as the window tells that is open to the request. -/
theorem answer (hmost : 0 < most) (hnow : ∀ x ∈ history, x.time ≤ now) (client : κ) :
    (limit.check client now).1 = judge window most now (windowAt window history client now) := by
  rcases h.check_cases hmost hnow client with ⟨w, hw, hcount, hcheck⟩ | ⟨w, hw, hcount, hcheck⟩
  · rw [hcheck, hw, judge, if_pos (Nat.le_of_eq hcount.symm)]
  · rw [hcheck]
    cases hopen : windowAt window history client now with
    | none => rfl
    | some w' =>
      rw [hopen, Option.getD_some] at hw
      rw [judge, hw, if_neg (Nat.not_le.2 hcount)]

/-- The window of the client of a request, after the request. -/
private theorem lookup_check (hmost : 0 < most) (hnow : ∀ x ∈ history, x.time ≤ now)
    (hsorted : (timesOf client history).Pairwise (· ≤ ·)) {opened : Nat}
    (hopened : (openSince? window (timesOf client history) now).getD now = opened) :
    (limit.check client now).2.clients.lookup client =
      some ⟨opened, acceptedIn window client opened history +
        if (limit.check client now).1.isOk then 1 else 0⟩ := by
  rcases h.check_cases hmost hnow client with ⟨w, hw, hcount, hcheck⟩ | ⟨w, hw, hcount, hcheck⟩
  · rw [hcheck, h.lookup_pruned hnow, hw]
    obtain ⟨t, ht, rfl⟩ := Option.map_eq_some_iff.1 hw
    rw [ht, Option.getD_some] at hopened
    rw [← hopened]
    rfl
  · rw [hcheck, lookup_setWindow, beq_self_eq_true, if_pos rfl, ← hw, windowAt]
    cases hopen : openSince? window (timesOf client history) now with
    | none =>
      rw [hopen, Option.getD_none] at hopened
      rw [← hopened, acceptedIn_eq_zero hopen hsorted]
      rfl
    | some t =>
      rw [hopen, Option.getD_some] at hopened
      rw [← hopened]
      rfl

/-- The window of anybody else after a request, if it is open later. -/
private theorem lookup_check_of_ne (hmost : 0 < most) (hnow : ∀ x ∈ history, x.time ≤ now)
    {other : κ} (hother : other ≠ client) :
    (limit.check client now).2.clients.lookup other = windowAt window history other now := by
  rcases h.check_cases hmost hnow client with ⟨w, -, -, hcheck⟩ | ⟨w, -, -, hcheck⟩
  · rw [hcheck, h.lookup_pruned hnow]
  · rw [hcheck, lookup_setWindow, beq_eq_false_iff_ne.2 hother, if_neg Bool.false_ne_true,
      h.lookup_pruned hnow]

private theorem window_check (hmost : 0 < most) (hnow : ∀ x ∈ history, x.time ≤ now) (client : κ) :
    (limit.check client now).2.window = window := by
  rcases h.check_cases hmost hnow client with ⟨w, -, -, hcheck⟩ | ⟨w, -, -, hcheck⟩ <;>
  · rw [hcheck]
    exact h.window_eq

/-- What a limit keeps after a request. -/
theorem check (hmost : 0 < most) (hnow : ∀ x ∈ history, x.time ≤ now)
    (hsorted : (timesOf client history).Pairwise (· ≤ ·)) :
    (limit.check client now).2.Keeps window most (history ++ [limit.exchange (client, now)]) where
  window_eq := h.window_check hmost hnow client
  maxRequests_eq := by
    rcases h.check_cases hmost hnow client with ⟨w, -, -, hcheck⟩ | ⟨w, -, -, hcheck⟩ <;>
    · rw [hcheck]
      exact h.maxRequests_eq
  nodup := by
    have hpruned : ((limit.pruned now).clients.map Prod.fst).Nodup :=
      h.nodup.sublist (List.filter_sublist.map Prod.fst)
    rcases h.check_cases hmost hnow client with ⟨w, -, -, hcheck⟩ | ⟨w, -, -, hcheck⟩
    · rw [hcheck]
      exact hpruned
    · rw [hcheck]
      exact nodup_setWindow hpruned
  counts := by
    have hpruned : ∀ c ∈ (limit.pruned now).clients, c.2.count ≤ most := fun c hc ↦
      h.counts c (List.mem_filter.1 hc).1
    rcases h.check_cases hmost hnow client with ⟨w, -, -, hcheck⟩ | ⟨w, -, hcount, hcheck⟩
    · rw [hcheck]
      exact hpruned
    · rw [hcheck]
      intro c hc
      rcases mem_setWindow hc with hc | hc
      · exact hpruned c hc
      · rw [hc]
        exact hcount
  windows := by
    intro later hlater other
    obtain ⟨hhistory, hlast⟩ := List.forall_mem_append.1 hlater
    have hle : now ≤ later := hlast _ List.mem_cons_self
    have hwindow := h.window_check hmost hnow client
    by_cases hother : other = client
    case neg =>
      rw [h.lookup_check_of_ne hmost hnow hother, windowAt_concat_of_ne (Ne.symm hother), ← hwindow,
        windowAt_filter_isOpen hle hhistory]
    case pos =>
      subst hother
      have hopened : (openSince? window (timesOf other history) now).getD now ≤ now :=
        openSince?_getD_le hnow
      refine Eq.trans ?_
        (windowAt_concat_self (x := limit.exchange (other, now)) hle rfl hopened).symm
      rw [h.lookup_check hmost hnow hsorted rfl, Option.filter_some,
        isOpen_eq (Nat.le_trans hopened hle), hwindow]
      simp only [decide_eq_true_iff]
      rfl

/-- The windows that a limit tracks after a request are the open ones, if windows have a length. -/
theorem lookup_check_eq_windowAt (hwindow : 0 < window) (hmost : 0 < most)
    (hnow : ∀ x ∈ history, x.time ≤ now)
    (hsorted : (timesOf client history).Pairwise (· ≤ ·)) (other : κ) :
    (limit.check client now).2.clients.lookup other =
      windowAt window (history ++ [limit.exchange (client, now)]) other now := by
  by_cases hother : other = client
  case neg =>
    rw [h.lookup_check_of_ne hmost hnow hother, windowAt_concat_of_ne (Ne.symm hother)]
  case pos =>
    subst hother
    refine Eq.trans ?_ (windowAt_concat_self (x := limit.exchange (other, now)) (Nat.le_refl now)
      rfl
      (openSince?_getD_le hnow)).symm
    exact (h.lookup_check hmost hnow hsorted rfl).trans
      (if_pos (lt_openSince?_getD_add hwindow)).symm

/-- If windows have a length, a limit tracks the clients with an open one after a request. -/
theorem tracked_check (hwindow : 0 < window) (hmost : 0 < most) (hnow : ∀ x ∈ history, x.time ≤ now)
    (hsorted : (timesOf client history).Pairwise (· ≤ ·)) :
    ∃ clients : List κ, clients.Nodup ∧
      (∀ other, other ∈ clients ↔
        (openSince? window (timesOf other (history ++ [limit.exchange (client, now)]))
          now).isSome) ∧
      (limit.check client now).2.tracked = clients.length := by
  refine ⟨(limit.check client now).2.clients.map Prod.fst, (h.check hmost hnow hsorted).nodup,
    fun other ↦ ?_, (List.length_map _).symm⟩
  rw [mem_map_fst_iff, h.lookup_check_eq_windowAt hwindow hmost hnow hsorted, windowAt,
    Option.isSome_map]

end Keeps

end RateLimit
end WebRecipe
