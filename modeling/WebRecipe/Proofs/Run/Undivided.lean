import WebRecipe.Proofs.Run.Outcome
import WebRecipe.Proofs.Run.View

/-!
# Turns that belong together

The schedule of a run lets one work at a time, until it waits for something, goes to sleep or ends.
So whoever has carried out any other command has the next turn as well, and nobody comes between the
two commands. For this it matters that those in line are awake, and that whoever sleeps is only
woken at his next turn.

## Main definitions

* `Machine.Undivided`: nobody comes in after commands of a kind.
* `Line.Fits`: a line is as the machine has it.

## Main results

* `Machine.exists_undivided_turns_of_runFor`: the turns that a schedule takes.
* `Engine.run_eq_runBy_undivided`: the turns that a run takes.
-/

namespace WebRecipe

namespace Machine

variable {σ : Type} {s : Surroundings σ} {m : Machine σ}

/-! ### Undivided turns -/

/-- Whoever carries out a command after which it stays in line has the next turn as well, if there
is one. -/
def Undivided (s : Surroundings σ) (stays : Deed → Prop) (m : Machine σ) (turns : List Turn) :
    Prop :=
  ∀ before turn turn' after d, turns = before ++ turn :: turn' :: after →
    (m.advanceAll s before).deed? s turn = some d → stays d → turn' = turn

namespace Undivided

variable {stays : Deed → Prop} {turns : List Turn}

theorem nil : Undivided s stays m [] := by
  intro before turn turn' after d hsplit
  exact absurd hsplit.symm (List.append_ne_nil_of_right_ne_nil _ (List.cons_ne_nil _ _))

theorem cons {turn : Turn} (h : Undivided s stays (m.advance s turn) turns)
    (hfirst : ∀ d, m.deed? s turn = some d → stays d → ∀ turn' ∈ turns.head?, turn' = turn) :
    Undivided s stays m (turn :: turns) := by
  intro before turn₁ turn₂ after d hsplit hdeed hstays
  cases before with
  | nil =>
    obtain ⟨rfl, rfl⟩ := List.cons.inj hsplit
    exact hfirst d hdeed hstays turn₂ rfl
  | cons turn₀ before =>
    obtain ⟨rfl, hrest⟩ := List.cons.inj hsplit
    exact h before turn₁ turn₂ after d hrest hdeed hstays

theorem of_concat {turn : Turn} (h : Undivided s stays m (turns ++ [turn])) :
    Undivided s stays m turns := by
  intro before turn₁ turn₂ after d hsplit hdeed hstays
  refine h before turn₁ turn₂ (after ++ [turn]) d ?_ hdeed hstays
  rw [hsplit, List.append_assoc]
  rfl

/-- Nobody comes between the turns of one alone. -/
theorem replicate (n : Nat) (turn : Turn) : Undivided s stays m (List.replicate n turn) := by
  intro before turn₁ turn₂ after d hsplit _ _
  have hall {t : Turn} (ht : t ∈ before ++ turn₁ :: turn₂ :: after) : t = turn :=
    List.eq_of_mem_replicate (hsplit ▸ ht)
  have hfirst : turn₁ = turn := hall (by simp)
  have hsecond : turn₂ = turn := hall (by simp)
  exact hsecond.trans hfirst.symm

end Undivided

/-- Those who rest are woken one after another, and nothing is carried out meanwhile. -/
theorem wakeAll {turns : List Turn} (hnodup : turns.Nodup)
    (hknown : ∀ who ∈ turns, m.Known who) (hresting : ∀ who ∈ turns, m.Resting who) :
    (∀ who ∈ turns, ((m.advanceAll s turns).view who).1 = none) ∧
      ∀ stays turns', Undivided s stays (m.advanceAll s turns) turns' →
        Undivided s stays m (turns ++ turns') := by
  induction turns generalizing m with
  | nil => exact ⟨nofun, fun _ _ h ↦ h⟩
  | cons turn turns ih =>
    obtain ⟨hturn, hrest⟩ := List.nodup_cons.1 hnodup
    obtain ⟨hturnKnown, hrestKnown⟩ := List.forall_mem_cons.1 hknown
    obtain ⟨hturnResting, hrestResting⟩ := List.forall_mem_cons.1 hresting
    obtain ⟨hwoken, hundivided⟩ := ih (m := m.advance s turn) hrest
      (fun who hwho ↦ (hrestKnown who hwho).advance turn) fun who hwho ↦
        (hrestResting who hwho).advance_of_ne (hrestKnown who hwho) fun heq ↦ hturn (heq ▸ hwho)
    refine ⟨List.forall_mem_cons.2 ⟨?_, hwoken⟩, fun stays turns' h ↦ ?_⟩
    · rcases view_advanceAll_of_not_mem (s := s) (hturnKnown.advance turn) hturn with
        hsame | hdropped
      · exact (congrArg Prod.fst hsame).trans hturnResting.view_advance
      · exact congrArg Prod.fst hdropped
    · refine .cons (hundivided stays turns' h) fun d hdeed ↦ ?_
      rw [hturnResting.deed?_eq_none] at hdeed
      cases hdeed

/-- A command at which the turn passes on: it waits for something, or sleeps. -/
def pauses : Command → Bool
  | .sleep _ => true
  | c => waits c

theorem pauses_of_waits {c : Command} (h : waits c = true) : pauses c = true := by
  cases c with
  | sleep => rfl
  | _ => exact h

/-- Only a command that sleeps puts to sleep. -/
theorem reply_snd_of_not_pauses {w : World σ} {c : Command} (h : ∀ ms, c = .sleep ms → ms = 0) :
    (reply s w c).2.2 = none := by
  cases c with
  | sleep ms => exact if_pos (h ms rfl)
  | _ => rfl

end Machine

/-! ### Lines -/

namespace Line

variable {σ : Type} {s : Surroundings σ} {m : Machine σ} {l : Line}

/-- Everybody in a line, or beside it. -/
def everybody (l : Line) : List Turn :=
  l.ready ++ (l.waiting ++ l.sleeping.map Prod.fst)

/-- A line is as the machine has it: nobody is in it twice, whoever is ready or waits is awake, and
whoever sleeps is asleep, or has been dropped. -/
structure Fits (l : Line) (m : Machine σ) : Prop where
  nodup : l.everybody.Nodup
  known : ∀ who ∈ l.everybody, m.Known who
  awake : ∀ who ∈ l.ready ++ l.waiting, (m.view who).1 = none
  asleep : ∀ who ∈ l.sleeping.map Prod.fst, m.Resting who

theorem Fits.start (w : World σ) (stages : List Stage) : Fits {} (Machine.start w stages) where
  nodup := by decide
  known := List.forall_mem_singleton.2 trivial
  awake := by
    refine List.forall_mem_singleton.2 ?_
    cases stages <;> rfl
  asleep := nofun

/-- Who is in line may change with a turn of somebody, as long as nobody else comes to be ready or
to sleep. -/
private theorem Fits.of_advance (h : l.Fits m) {who : Turn} {l' : Line}
    (hperm : l'.everybody.Perm l.everybody)
    (hready : ∀ x ∈ l'.ready ++ l'.waiting, x ≠ who → x ∈ l.ready ++ l.waiting)
    (hsleeping : ∀ x ∈ l'.sleeping.map Prod.fst, x ≠ who → x ∈ l.sleeping.map Prod.fst)
    (hawake : who ∈ l'.ready ++ l'.waiting → ((m.advance s who).view who).1 = none)
    (hasleep : who ∈ l'.sleeping.map Prod.fst → ((m.advance s who).view who).1 ≠ none) :
    l'.Fits (m.advance s who) where
  nodup := hperm.nodup_iff.2 h.nodup
  known x hx := (h.known x (hperm.mem_iff.1 hx)).advance who
  awake x hx := by
    by_cases hwho : x = who
    · subst hwho
      exact hawake hx
    · have hmem := hready x hx hwho
      have hknown := h.known x (by
        rw [everybody, ← List.append_assoc]
        exact List.mem_append_left _ hmem)
      rcases Machine.view_advance_of_ne (s := s) hknown hwho with hsame | hdropped
      · rw [hsame]
        exact h.awake x hmem
      · rw [hdropped]
  asleep x hx := by
    by_cases hwho : x = who
    · subst hwho
      exact fun hnone ↦ absurd hnone (hasleep hx)
    · have hmem := hsleeping x hx hwho
      have hknown := h.known x (by
        rw [everybody, ← List.append_assoc]
        exact List.mem_append_right _ hmem)
      exact (h.asleep x hmem).advance_of_ne hknown hwho

section Head

variable {who : Turn} {rest : List Turn} (h : l.Fits m) (hready : l.ready = who :: rest)

include h hready

/-- Nobody who is ready sleeps. -/
private theorem Fits.not_mem_sleeping : who ∉ l.sleeping.map Prod.fst := by
  have hnodup := h.nodup
  rw [everybody, hready, List.cons_append, List.nodup_cons] at hnodup
  exact fun hmem ↦ hnodup.1 (List.mem_append_right _ (List.mem_append_right _ hmem))

/-- The head of the line stays there. -/
private theorem Fits.stay (hawake : ((m.advance s who).view who).1 = none) :
    l.Fits (m.advance s who) :=
  h.of_advance (.refl _) (fun _ hx _ ↦ hx) (fun _ hx _ ↦ hx) (fun _ ↦ hawake)
    fun hx ↦ absurd hx (h.not_mem_sleeping hready)

/-- The head of the line waits for something. -/
private theorem Fits.wait (hawake : ((m.advance s who).view who).1 = none) :
    Fits { l with ready := rest, waiting := l.waiting ++ [who] } (m.advance s who) := by
  refine h.of_advance ?_ (fun x hx hwho ↦ ?_) (fun _ hx _ ↦ hx) (fun _ ↦ hawake)
    fun hx ↦ absurd hx (h.not_mem_sleeping hready)
  · simp only [everybody, hready, List.append_assoc, List.cons_append, List.nil_append]
    rw [← List.append_assoc, ← List.append_assoc]
    exact List.perm_middle
  · simp only [hready, List.mem_append, List.mem_cons, List.not_mem_nil, or_false] at hx ⊢
    rcases hx with hx | hx | hx
    · exact .inl (.inr hx)
    · exact .inr hx
    · exact absurd hx hwho

/-- The head of the line goes to sleep. -/
private theorem Fits.sleep {time : Nat} (hasleep : ((m.advance s who).view who).1 ≠ none) :
    Fits { l with ready := rest, sleeping := l.sleeping ++ [(who, time)] } (m.advance s who) := by
  have hnodup := h.nodup
  rw [everybody, hready, List.cons_append, List.nodup_cons] at hnodup
  refine h.of_advance ?_ (fun x hx hwho ↦ ?_) (fun x hx hwho ↦ ?_) (fun hx ↦ ?_) fun _ ↦ hasleep
  · simp only [everybody, hready, List.map_append, List.map_cons, List.map_nil, List.cons_append]
    rw [← List.append_assoc, ← List.append_assoc]
    refine List.perm_middle.trans ?_
    rw [List.append_nil, List.append_assoc]
  · rw [hready]
    exact List.mem_cons_of_mem _ hx
  · rw [List.map_append, List.mem_append] at hx
    exact hx.resolve_right fun hx ↦ hwho (List.mem_singleton.1 hx)
  · refine absurd ?_ hnodup.1
    rw [← List.append_assoc]
    exact List.mem_append_left _ hx

/-- The head of the line leaves it. -/
private theorem Fits.leave : Fits { l with ready := rest } m where
  nodup := by
    have hnodup := h.nodup
    rw [everybody, hready, List.cons_append, List.nodup_cons] at hnodup
    exact hnodup.2
  known x hx := h.known x (by rw [everybody, hready]; exact List.mem_cons_of_mem _ hx)
  awake x hx := h.awake x (by rw [hready]; exact List.mem_cons_of_mem _ hx)
  asleep := h.asleep

end Head

/-- Somebody new joins the line. -/
private theorem Fits.join (h : l.Fits m) {n : Nat} (hnew : .job n ∉ l.everybody)
    (hknown : m.Known (.job n)) (hawake : (m.view (.job n)).1 = none) :
    Fits { l with ready := l.ready ++ [.job n] } m := by
  have hperm :
      (everybody { l with ready := l.ready ++ [.job n] }).Perm (.job n :: l.everybody) := by
    simp only [everybody, List.append_assoc, List.cons_append, List.nil_append]
    exact List.perm_middle
  refine ⟨hperm.nodup_iff.2 (List.nodup_cons.2 ⟨hnew, h.nodup⟩), fun x hx ↦ ?_, fun x hx ↦ ?_,
    h.asleep⟩
  · rcases List.mem_cons.1 (hperm.mem_iff.1 hx) with rfl | hx
    · exact hknown
    · exact h.known x hx
  · simp only [List.append_assoc, List.mem_append, List.mem_singleton] at hx
    rcases hx with hx | rfl | hx
    · exact h.awake x (List.mem_append_left _ hx)
    · exact hawake
    · exact h.awake x (List.mem_append_right _ hx)

/-- The main sequence first, and all others after it. -/
theorem mainFirst_perm (turns : List Turn) : (mainFirst turns).Perm turns :=
  List.filter_append_perm _ turns

/-- Those who have waited are ready. -/
private theorem Fits.answer (h : l.Fits m) (hready : l.ready = []) :
    Fits { l with ready := mainFirst l.waiting, waiting := [] } m := by
  have hperm : (everybody { l with ready := mainFirst l.waiting, waiting := [] }).Perm
      l.everybody := by
    simp only [everybody, hready, List.nil_append]
    exact (mainFirst_perm _).append_right _
  refine ⟨hperm.nodup_iff.2 h.nodup, fun x hx ↦ h.known x (hperm.mem_iff.1 hx), fun x hx ↦ ?_,
    h.asleep⟩
  rw [List.append_nil] at hx
  exact h.awake x (List.mem_append_right _ ((mainFirst_perm _).mem_iff.1 hx))

/-- Whoever is woken next was asleep. -/
private theorem nextSleepers_spec (l : Line) :
    ∃ sleepers : List (Turn × Nat), sleepers.Sublist l.sleeping ∧
      l.nextSleepers.Perm (sleepers.map Prod.fst) := by
  rw [nextSleepers]
  split
  · exact ⟨[], List.nil_sublist _, .refl _⟩
  · exact ⟨_, List.filter_sublist, mainFirst_perm _⟩

/-- Whoever was asleep is ready, or goes on sleeping. -/
private theorem Fits.wake (h : l.Fits m) (hready : l.ready = []) (hwaiting : l.waiting = []) :
    Fits { l with
        ready := l.nextSleepers
        sleeping := l.sleeping.filter (fun e ↦ !l.nextSleepers.contains e.1) }
      (m.advanceAll s l.nextSleepers) ∧
      ∀ stays turns', Machine.Undivided s stays (m.advanceAll s l.nextSleepers) turns' →
        Machine.Undivided s stays m (l.nextSleepers ++ turns') := by
  obtain ⟨sleepers, hsub, hperm⟩ := l.nextSleepers_spec
  have heverybody : l.everybody = l.sleeping.map Prod.fst := by
    rw [everybody, hready, hwaiting, List.nil_append, List.nil_append]
  have hnodup := h.nodup
  have hknown := h.known
  rw [heverybody] at hnodup hknown
  have hwoken : ∀ who ∈ l.nextSleepers, who ∈ l.sleeping.map Prod.fst := fun who hwho ↦
    (hsub.map Prod.fst).subset (hperm.mem_iff.1 hwho)
  have hwokenNodup : l.nextSleepers.Nodup := hperm.nodup_iff.2 (hnodup.sublist (hsub.map Prod.fst))
  obtain ⟨hawake, hundivided⟩ := Machine.wakeAll (s := s) hwokenNodup
    (fun who hwho ↦ hknown who (hwoken who hwho)) fun who hwho ↦ h.asleep who (hwoken who hwho)
  have hasleep : ∀ who ∈ (l.sleeping.filter (fun e ↦ !l.nextSleepers.contains e.1)).map Prod.fst,
      who ∈ l.sleeping.map Prod.fst ∧ who ∉ l.nextSleepers := by
    intro who hwho
    obtain ⟨entry, hentry, rfl⟩ := List.mem_map.1 hwho
    obtain ⟨hmem, hnot⟩ := List.mem_filter.1 hentry
    refine ⟨List.mem_map_of_mem hmem, fun hcontains ↦ ?_⟩
    rw [List.contains_iff_mem.2 hcontains] at hnot
    cases hnot
  refine ⟨⟨?_, fun who hwho ↦ ?_, fun who hwho ↦ ?_, fun who hwho ↦ ?_⟩, hundivided⟩
  · rw [everybody, hwaiting, List.nil_append, List.nodup_append]
    refine ⟨hwokenNodup, hnodup.sublist (List.filter_sublist.map _),
      fun who hwho who' hwho' heq ↦ ?_⟩
    exact (hasleep who' hwho').2 (heq ▸ hwho)
  · rw [everybody, hwaiting, List.nil_append, List.mem_append] at hwho
    refine (hknown who ?_).advanceAll _
    exact hwho.elim (hwoken who) fun hwho ↦ (hasleep who hwho).1
  · rw [hwaiting, List.append_nil] at hwho
    exact hawake who hwho
  · obtain ⟨hmem, hnot⟩ := hasleep who hwho
    rcases Machine.view_advanceAll_of_not_mem (s := s) (hknown who hmem) hnot with hsame | hdropped
    · rw [Machine.Resting, hsame]
      exact h.asleep who hmem
    · rw [Machine.Resting, hdropped]
      exact fun _ ↦ rfl

end Line

/-! ### Schedules -/

namespace Machine

variable {σ : Type} {s : Surroundings σ} {m : Machine σ} {l : Line}

/-- When the head of a line takes a step, the line fits the machine again. The head is still at the
head after a command at which the turn does not pass on. -/
private theorem stepHead_spec {m' : Machine σ} {l' : Line} {who : Turn} {rest : List Turn}
    (hfits : l.Fits m) (hnumbered : m.Numbered) (hready : l.ready = who :: rest)
    (h : m.stepHead s l who rest = some (m', l')) :
    l'.Fits m' ∧ (m' = m ∧ m.next who = .absent ∨ m' = m.advance s who ∧
      ∀ d, m.deed? s who = some d → pauses d.command = false →
        l'.ready = who :: rest ∧ m'.next who ≠ .absent) := by
  have hawake : (m.view who).1 = none := hfits.awake who (by rw [hready]; exact List.mem_cons_self)
  have hcommand {d : Deed} (hdeed : m.deed? s who = some d) : m.next who = .command d.command := by
    rw [← view_snd, view_of_deed? hdeed]
  have hview {x : NextStep} (hnext : m.next who = x) : m.view who = (none, x) :=
    Prod.ext hawake ((m.view_snd who).trans hnext)
  rw [stepHead] at h
  split at h
  case h_1 hnext =>
    cases h
    exact ⟨hfits.leave hready, .inl ⟨rfl, hnext⟩⟩
  case h_2 => cases h
  case h_3 hnext =>
    cases h
    have hstay := hfits.stay hready (view_advance_of_result (s := s) (hview hnext))
    refine ⟨?_, .inr ⟨rfl, fun d hdeed ↦ by rw [hcommand hdeed] at hnext; cases hnext⟩⟩
    rw [joinStarted]
    split
    case isTrue hstarted =>
      refine hstay.join (fun hmem ↦ ?_) hstarted (hnumbered.view_started who)
      exact Nat.lt_irrefl _ (hfits.known _ hmem)
    case isFalse => exact hstay
  case h_4 c hnext =>
    obtain ⟨x, hx, hafter⟩ := view_advance_of_command (s := s) (hview hnext)
    have hpresent : (m.advance s who).next who ≠ .absent := by
      rw [← view_snd, hafter]
      exact hx
    have hgoesOn (hc : ∀ ms, c = .sleep ms → ms = 0) : ((m.advance s who).view who).1 = none := by
      rw [hafter]
      exact reply_snd_of_not_pauses hc
    have hkept {d : Deed} (hdeed : m.deed? s who = some d) : c = d.command :=
      NextStep.command.inj (hnext.symm.trans (hcommand hdeed))
    dsimp only at h
    split at h
    case isTrue hwaits =>
      cases h
      refine ⟨hfits.wait hready (hgoesOn ?_), .inr ⟨rfl, fun d hdeed hpauses ↦ ?_⟩⟩
      · rintro ms rfl
        cases hwaits
      · rw [← hkept hdeed, pauses_of_waits hwaits] at hpauses
        cases hpauses
    case isFalse =>
      split at h
      case h_1 ms =>
        have hnever (d : Deed) (hdeed : m.deed? s who = some d)
            (hpauses : pauses d.command = false) :
            l'.ready = who :: rest ∧ m'.next who ≠ .absent := by
          rw [← hkept hdeed] at hpauses
          cases hpauses
        split at h
        case isTrue hms =>
          cases h
          refine ⟨hfits.stay hready (hgoesOn ?_), .inr ⟨rfl, hnever⟩⟩
          rintro _ ⟨⟩
          exact hms
        case isFalse hms =>
          cases h
          refine ⟨hfits.sleep hready ?_, .inr ⟨rfl, hnever⟩⟩
          rw [hafter, reply, if_neg hms]
          exact nofun
      case h_2 hsleep =>
        cases h
        refine ⟨hfits.stay hready (hgoesOn fun ms hc ↦ ?_), .inr ⟨rfl, fun _ _ _ ↦
          ⟨hready, hpresent⟩⟩⟩
        exact (hsleep ms hc).elim

/-- The turns that a run takes until it ends are undivided after commands at which the turn does not
pass on. The first turn is the one of the head of the line, if it is there. -/
theorem exists_undivided_turns_of_runFor {stays : Deed → Prop}
    (hstays : ∀ d, stays d → pauses d.command = false) {steps : Nat} {m' : Machine σ}
    {outcome : Except ActionError Unit} (hfits : l.Fits m) (hnumbered : m.Numbered)
    (h : m.runFor s steps l = (some outcome, m')) :
    ∃ turns, m' = m.advanceAll s turns ∧ m'.outcome? = some outcome ∧ Undivided s stays m turns ∧
      ∀ who rest, l.ready = who :: rest → m.next who ≠ .absent →
        ∀ turn ∈ turns.head?, turn = who := by
  induction steps generalizing m l with
  | zero => cases h
  | succ steps ih =>
    rw [runFor] at h
    split at h
    case h_1 houtcome =>
      cases h
      refine ⟨[], rfl, houtcome, .nil, ?_⟩
      rintro who rest - - turn ⟨⟩
    case h_2 =>
      split at h
      case h_1 who rest hready =>
        split at h
        case h_1 m₁ l₁ hstep =>
          -- the head of the line is not there any more, or it takes a step
          obtain ⟨hfits₁, hcases⟩ := stepHead_spec hfits hnumbered hready hstep
          rcases hcases with ⟨rfl, habsent⟩ | ⟨rfl, hstay⟩
          · obtain ⟨turns, hm', houtcome, hundivided, -⟩ := ih hfits₁ hnumbered h
            refine ⟨turns, hm', houtcome, hundivided, fun who' rest' hready' hpresent ↦ ?_⟩
            cases hready.symm.trans hready'
            exact absurd habsent hpresent
          · obtain ⟨turns, hm', houtcome, hundivided, hfirst⟩ := ih hfits₁ (hnumbered.advance who) h
            refine ⟨who :: turns, hm', houtcome, hundivided.cons fun d hdeed hd ↦ ?_,
              fun who' rest' hready' _ turn hturn ↦ ?_⟩
            · obtain ⟨hready₁, hpresent⟩ := hstay d hdeed (hstays d hd)
              exact hfirst who rest hready₁ hpresent
            · cases hready.symm.trans hready'
              exact (Option.some.inj hturn).symm
        case h_2 => cases h
      case h_2 hready =>
        -- nobody is ready: those who have waited go on, or the next sleepers are woken
        have hnobody {turns : List Turn} (who : Turn) (rest : List Turn)
            (hready' : l.ready = who :: rest) (_ : m.next who ≠ .absent) :
            ∀ turn ∈ turns.head?, turn = who := by
          rw [hready] at hready'
          cases hready'
        split at h
        case isTrue hwaiting =>
          obtain ⟨hfits₁, hwoken⟩ := hfits.wake (s := s) hready (List.isEmpty_iff.1 hwaiting)
          split at h
          case h_1 => cases h
          case h_2 =>
            obtain ⟨turns, hm', houtcome, hundivided, -⟩ := ih hfits₁ (hnumbered.advanceAll _) h
            refine ⟨l.nextSleepers ++ turns, ?_, houtcome, hwoken _ _ hundivided, hnobody⟩
            rw [hm', advanceAll, advanceAll, advanceAll, List.foldl_append]
        case isFalse =>
          obtain ⟨turns, hm', houtcome, hundivided, -⟩ := ih (hfits.answer hready) hnumbered h
          exact ⟨turns, hm', houtcome, hundivided, hnobody⟩

end Machine

/-! ### Runs -/

namespace Engine

variable {σ : Type}

/-- The machine of a run, once its first page is opened. -/
def begun (e : Engine) (s : Surroundings σ) (w : World σ) (env : Environment)
    (recipes : List Recipe) (selection payloadId : Option String) : Machine σ :=
  Machine.start (openFirstPage.run.run s { w with store := initialStore env payloadId }).2
    (e.stages recipes selection)

/-- The turns that a run takes are undivided after commands at which the turn does not pass on,
unless the run is given up. -/
theorem run_eq_runBy_undivided {stays : Deed → Prop}
    (hstays : ∀ d, stays d → Machine.pauses d.command = false) (e : Engine) (s : Surroundings σ)
    (w : World σ) (env : Environment) (recipes : List Recipe)
    (selection payloadId : Option String) :
    (e.run s w env recipes selection payloadId).1 = none ∨
      ∃ turns, Machine.Undivided s stays (e.begun s w env recipes selection payloadId) turns ∧
        e.run s w env recipes selection payloadId =
          e.runBy s w env recipes selection payloadId turns := by
  simp only [run, runBy, begun]
  rcases run_openFirstPage s { w with store := initialStore env payloadId } with
    ⟨message, w', hopen⟩ | ⟨w', hopen⟩
  · rw [hopen]
    exact .inr ⟨[], .nil, rfl⟩
  · rw [hopen]
    dsimp only
    cases hrun : (Machine.start w' (e.stages recipes selection)).runFor s maxSteps {} with
    | mk outcome m =>
      cases outcome with
      | none => exact .inl rfl
      | some outcome =>
        obtain ⟨turns, rfl, houtcome, hundivided, -⟩ :=
          Machine.exists_undivided_turns_of_runFor hstays (Line.Fits.start w' _)
            (Machine.Numbered.start w' _) hrun
        refine .inr ⟨turns, hundivided, ?_⟩
        rw [houtcome]

end Engine
end WebRecipe
