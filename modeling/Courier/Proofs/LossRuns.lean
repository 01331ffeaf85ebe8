import Mathlib.Data.List.DropRight
import Mathlib.Data.List.Induction
import Courier.Error
import Courier.Watchdog.Basic

/-!
What a watchdog makes of a whole history of checks. Of the history it remembers the clock at the first check
of the loss run that goes on at its end, and whether the last thing it did to the containers was to destroy
them. What a check leads to is told by these two alone, so that a loss acts once, when it has lasted.
-/
namespace Courier

/-- A check of the connection: what the probe answers, the count of the clock, and the containers as they are
then. -/
structure Check where
  probe : Except TransportError Bool
  now : Nat
  containers : List Container

namespace Check

/-- Whether a check finds no connection. A probe that fails finds none. -/
def fails (c : Check) : Bool :=
  match c.probe with
  | .ok connected => !connected
  | .error _ => true

/-- The failed checks at the end of a history, back to the last check that found the connection. -/
def lossRun (history : List Check) : List Check := history.rtakeWhile fails

theorem lossRun_snoc (history : List Check) (c : Check) :
    lossRun (history ++ [c]) = if c.fails then lossRun history ++ [c] else [] :=
  List.rtakeWhile_concat ..

theorem lossRun_append {run : List Check} (lost : ∀ c ∈ run, c.fails = true) (history : List Check) :
    lossRun (history ++ run) = lossRun history ++ run := by
  induction run using List.reverseRecOn with
  | nil => simp
  | append_singleton run c ih =>
    have earlier := ih (fun x inside => lost x (List.mem_append_left _ inside))
    rw [← List.append_assoc, lossRun_snoc, if_pos (lost c (by simp)), earlier, List.append_assoc]

/-- How far the clock went from the first to the last of some checks. -/
def elapsed (run : List Check) : Nat := (run.getLast?.map now).getD 0 - (run.head?.map now).getD 0

theorem elapsed_snoc (run : List Check) (c : Check) :
    elapsed (run ++ [c]) = c.now - (run.head?.map now).getD c.now := by
  have last : (run ++ [c]).getLast? = some c := List.getLast?_concat
  have first : (run ++ [c]).head?.map now = some ((run.head?.map now).getD c.now) := by
    cases run with
    | nil => rfl
    | cons x run => rfl
  rw [elapsed, last, first]
  rfl

theorem elapsed_le {early rest : List Check} {c : Check}
    (ordered : (early ++ c :: rest).Pairwise (fun a b => a.now ≤ b.now)) :
    elapsed (early ++ [c]) ≤ elapsed (early ++ c :: rest) := by
  rcases List.eq_nil_or_concat rest with rfl | ⟨between, last, rfl⟩
  · exact Nat.le_refl _
  · have front : early ++ c :: between.concat last = (early ++ c :: between) ++ [last] := by simp
    have since : (((early ++ c :: between).head?.map now).getD last.now) = (early.head?.map now).getD c.now := by
      cases early with
      | nil => rfl
      | cons x early => rfl
    have later : c.now ≤ last.now :=
      (List.pairwise_cons.mp (List.pairwise_append.mp ordered).2.1).1 last (by simp)
    rw [front, elapsed_snoc, elapsed_snoc, since]
    exact Nat.sub_le_sub_right later _

/-- The checks of a loss run fail, and the run starts where no loss was going on. -/
theorem of_lossRun_eq {history run : List Check} (whole : lossRun (history ++ run) = run) :
    (∀ c ∈ run, c.fails = true) ∧ lossRun history = [] := by
  have lost : ∀ c ∈ run, c.fails = true := by
    intro c inside
    rw [← whole] at inside
    exact List.mem_rtakeWhile_imp inside
  refine ⟨lost, ?_⟩
  rw [lossRun_append lost] at whole
  simpa using whole

end Check

namespace Watchdog

open Check (lossRun lossRun_snoc lossRun_append of_lossRun_eq elapsed elapsed_snoc elapsed_le)

/-! ### One check -/

/-- What a check leads to, and the watchdog after it. -/
def checked (w : Watchdog) (c : Check) : Transition × Watchdog :=
  let (t, next, _) := w.check (!c.fails) c.now c.containers
  (t, next)

theorem checked_of_found (w : Watchdog) {c : Check} (found : c.fails = false) :
    w.checked c = (if w.active then .unchanged else .registered, { w with active := true, lostAt := none }) := by
  simp only [checked, check, look, found, Bool.not_false, if_true]

theorem checked_of_fails (w : Watchdog) {c : Check} (lost : c.fails = true) :
    w.checked c =
      if w.config.lossThreshold.nanos ≤ c.now - w.lostAt.getD c.now ∧ w.active then
        (.destroyed, { w with active := false, lostAt := some (w.lostAt.getD c.now) })
      else
        (if w.lostAt.isSome then .unchanged else .lossDetected,
          { w with lostAt := some (w.lostAt.getD c.now) }) := by
  simp only [checked, check, look, lost, Bool.not_true, Bool.false_eq_true, if_false]

/-- Only the two transitions that ask the containers for something change whether the watchdog is active. -/
theorem active_checked (w : Watchdog) (c : Check) :
    ((w.checked c).1 = .destroyed ∧ w.active = true ∧ (w.checked c).2.active = false) ∨
      ((w.checked c).1 = .registered ∧ w.active = false ∧ (w.checked c).2.active = true) ∨
      ((w.checked c).1 ≠ .destroyed ∧ (w.checked c).1 ≠ .registered ∧ (w.checked c).2.active = w.active) := by
  cases lost : c.fails with
  | false =>
    rw [checked_of_found w lost]
    cases active : w.active with
    | true => exact .inr (.inr ⟨nofun, nofun, rfl⟩)
    | false => exact .inr (.inl ⟨rfl, rfl, rfl⟩)
  | true =>
    rw [checked_of_fails w lost]
    split
    · rename_i long
      exact .inl ⟨rfl, long.2, rfl⟩
    · right
      right
      split
      · exact ⟨nofun, nofun, rfl⟩
      · exact ⟨nofun, nofun, rfl⟩

/-! ### Histories -/

/-- The watchdog after some checks. -/
def after (w : Watchdog) (history : List Check) : Watchdog := history.foldl (fun w c => (w.checked c).2) w

/-- What the checks of a history lead to, in order. -/
def transitions : Watchdog → List Check → List Transition
  | _, [] => []
  | w, c :: rest => (w.checked c).1 :: transitions (w.checked c).2 rest

theorem after_snoc (w : Watchdog) (history : List Check) (c : Check) :
    w.after (history ++ [c]) = ((w.after history).checked c).2 := by
  simp only [after, List.foldl_append, List.foldl_cons, List.foldl_nil]

theorem transitions_append (w : Watchdog) (before rest : List Check) :
    w.transitions (before ++ rest) = w.transitions before ++ (w.after before).transitions rest := by
  induction before generalizing w with
  | nil => rfl
  | cons c before ih =>
    simp only [List.cons_append, transitions]
    rw [ih]
    rfl

theorem transitions_snoc (w : Watchdog) (history : List Check) (c : Check) :
    w.transitions (history ++ [c]) = w.transitions history ++ [((w.after history).checked c).1] :=
  w.transitions_append history [c]

theorem length_transitions (w : Watchdog) (history : List Check) :
    (w.transitions history).length = history.length := by
  induction history generalizing w with
  | nil => rfl
  | cons c rest ih =>
    simp only [transitions, List.length_cons]
    rw [ih]

theorem mem_transitions {w : Watchdog} {history : List Check} {t : Transition} (inside : t ∈ w.transitions history) :
    ∃ before c rest, history = before ++ c :: rest ∧ ((w.after before).checked c).1 = t := by
  induction history generalizing w with
  | nil => cases inside
  | cons c rest ih =>
    rcases List.mem_cons.mp inside with here | later
    · exact ⟨[], c, rest, rfl, here.symm⟩
    · obtain ⟨before, x, rest, rfl, leads⟩ := ih later
      exact ⟨c :: before, x, rest, rfl, leads⟩

/-! ### What is remembered of a history -/

section New
variable (config : WatchdogConfig) (history : List Check)

theorem config_after : ((new config).after history).config = config := by
  induction history using List.reverseRecOn with
  | nil => rfl
  | append_singleton history c ih =>
    rw [after_snoc]
    cases lost : c.fails with
    | false =>
      rw [checked_of_found _ lost]
      exact ih
    | true =>
      rw [checked_of_fails _ lost]
      split
      · exact ih
      · exact ih

/-- The watchdog remembers the clock at the first check of the loss run that goes on. -/
theorem lostAt_after : ((new config).after history).lostAt = (lossRun history).head?.map Check.now := by
  induction history using List.reverseRecOn with
  | nil => rfl
  | append_singleton history c ih =>
    rw [after_snoc, lossRun_snoc]
    cases lost : c.fails with
    | false =>
      rw [checked_of_found _ lost]
      rfl
    | true =>
      have since : (lossRun history ++ [c]).head?.map Check.now =
          some (((lossRun history).head?.map Check.now).getD c.now) := by
        cases lossRun history with
        | nil => rfl
        | cons first rest => rfl
      rw [checked_of_fails _ lost, if_pos rfl, since, ← ih]
      split
      · rfl
      · rfl

/-- What a check leads to is told by the loss run that it ends and by whether the watchdog is active. -/
theorem checked_after (c : Check) :
    (((new config).after history).checked c).1 =
      if c.fails then
        if config.lossThreshold.nanos ≤ elapsed (lossRun (history ++ [c])) ∧ ((new config).after history).active then
          .destroyed
        else if lossRun history = [] then .lossDetected
        else .unchanged
      else if ((new config).after history).active then .unchanged
      else .registered := by
  cases lost : c.fails with
  | false =>
    rw [checked_of_found _ lost]
    rfl
  | true =>
    rw [checked_of_fails _ lost, config_after, lostAt_after, if_pos rfl, lossRun_snoc, if_pos lost, elapsed_snoc]
    split
    · rfl
    · cases lossRun history with
      | nil => rfl
      | cons first rest => rfl

end New

/-! ### Destroying and registering -/

/-- Whether containers have been destroyed and not been registered since, by what the checks led to. -/
def Down (ts : List Transition) : Prop := ∃ before since, ts = before ++ .destroyed :: since ∧ .registered ∉ since

theorem down_snoc (ts : List Transition) (t : Transition) :
    Down (ts ++ [t]) ↔ t = .destroyed ∨ (t ≠ .registered ∧ Down ts) := by
  constructor
  · rintro ⟨before, since, split, none⟩
    rcases List.eq_nil_or_concat since with rfl | ⟨earlier, last, rfl⟩
    · left
      simpa using (List.append_inj' split rfl).2
    · right
      have split : ts ++ [t] = (before ++ .destroyed :: earlier) ++ [last] := by simpa using split
      obtain ⟨rfl, same⟩ := List.append_inj' split rfl
      obtain rfl : t = last := by simpa using same
      refine ⟨?_, before, earlier, rfl, fun inside => none (by simp [inside])⟩
      rintro rfl
      exact none (by simp)
  · rintro (rfl | ⟨other, before, since, rfl, none⟩)
    · exact ⟨ts, [], rfl, List.not_mem_nil⟩
    · refine ⟨before, since ++ [t], by simp, ?_⟩
      intro inside
      rcases List.mem_append.mp inside with earlier | last
      · exact none earlier
      · exact other (List.mem_singleton.mp last).symm

/-- A watchdog is inactive from the check that destroys to the one that registers. -/
theorem active_after_iff (config : WatchdogConfig) (history : List Check) :
    ((new config).after history).active = false ↔ Down ((new config).transitions history) := by
  induction history using List.reverseRecOn with
  | nil =>
    constructor
    · nofun
    · rintro ⟨before, since, split, _⟩
      simp [transitions] at split
  | append_singleton history c ih =>
    rw [after_snoc, transitions_snoc, down_snoc, ← ih]
    rcases ((new config).after history).active_checked c with
      ⟨leads, was, now⟩ | ⟨leads, was, now⟩ | ⟨notDestroyed, notRegistered, now⟩
    · simp [leads, now]
    · simp [leads, now]
    · simp [notDestroyed, notRegistered, now]

/-- The transitions that ask the containers for something. -/
def switches (ts : List Transition) : List Transition := ts.filter (fun t => t = .destroyed ∨ t = .registered)

/-- What the containers are asked for the `i`-th time, the first time being number zero. -/
def turn (i : Nat) : Transition := if i % 2 = 0 then .destroyed else .registered

/-- Destroying and registering take turns; it is time to destroy exactly if the watchdog is active. -/
theorem switches_alternate (config : WatchdogConfig) (history : List Check) :
    switches ((new config).transitions history) =
        (List.range (switches ((new config).transitions history)).length).map turn ∧
      (((new config).after history).active = true ↔
        turn (switches ((new config).transitions history)).length = .destroyed) := by
  induction history using List.reverseRecOn with
  | nil => exact ⟨rfl, fun _ => rfl, fun _ => rfl⟩
  | append_singleton history c ih =>
    obtain ⟨turns, next⟩ := ih
    generalize before : switches ((new config).transitions history) = done at turns next
    have parity : turn (done.length + 1) = .destroyed ↔ ¬ turn done.length = .destroyed := by
      unfold turn
      rcases Nat.mod_two_eq_zero_or_one done.length with even | odd
      · have odd : (done.length + 1) % 2 = 1 := by omega
        simp [even, odd]
      · have even : (done.length + 1) % 2 = 0 := by omega
        simp [even, odd]
    have registers : ¬ turn done.length = .destroyed → turn done.length = .registered := by
      unfold turn
      split
      · exact fun other => absurd rfl other
      · exact fun _ => rfl
    have split (t : Transition) : switches ((new config).transitions history ++ [t]) = done ++ switches [t] := by
      rw [← before]
      exact List.filter_append ..
    rw [after_snoc, transitions_snoc, split]
    rcases ((new config).after history).active_checked c with
      ⟨leads, was, now⟩ | ⟨leads, was, now⟩ | ⟨notDestroyed, notRegistered, now⟩
    · have here : turn done.length = .destroyed := next.mp was
      have new : switches [(Transition.destroyed)] = [.destroyed] := rfl
      rw [leads, now, new, List.length_append, List.length_singleton, List.range_succ, List.map_append, ← turns]
      exact ⟨by simp [here], by simp [parity, here]⟩
    · have here : ¬ turn done.length = .destroyed := by
        intro destroys
        rw [next.mpr destroys] at was
        cases was
      have new : switches [(Transition.registered)] = [.registered] := rfl
      rw [leads, now, new, List.length_append, List.length_singleton, List.range_succ, List.map_append, ← turns]
      exact ⟨by simp [registers here], by simp [parity, here]⟩
    · have none : switches [(((new config).after history).checked c).1] = [] := by
        simp [switches, notDestroyed, notRegistered]
      rw [now, none, List.append_nil]
      exact ⟨turns, next⟩

/-! ### Whole losses -/

private theorem not_destroyed_of_inactive {w : Watchdog} (inactive : w.active = false) {run : List Check}
    (lost : ∀ c ∈ run, c.fails = true) : .destroyed ∉ w.transitions run := by
  induction run generalizing w with
  | nil => exact List.not_mem_nil
  | cons c run ih =>
    have fails := lost c List.mem_cons_self
    have stays : (w.checked c).1 ≠ .destroyed ∧ (w.checked c).2.active = false := by
      rw [checked_of_fails w fails, if_neg (by simp [inactive])]
      refine ⟨?_, inactive⟩
      split <;> nofun
    intro inside
    rcases List.mem_cons.mp inside with here | later
    · exact stays.1 here.symm
    · exact ih stays.2 (fun x member => lost x (List.mem_cons_of_mem _ member)) later

/-- As long as the connection is not found again, containers are destroyed once at most. -/
private theorem count_destroyed_le (w : Watchdog) {run : List Check} (lost : ∀ c ∈ run, c.fails = true) :
    (w.transitions run).count .destroyed ≤ 1 := by
  induction run generalizing w with
  | nil => exact Nat.zero_le 1
  | cons c run ih =>
    have later : ∀ x ∈ run, x.fails = true := fun x member => lost x (List.mem_cons_of_mem _ member)
    rcases w.active_checked c with ⟨leads, _, now⟩ | ⟨leads, _, _⟩ | ⟨notDestroyed, _, _⟩
    · have none := List.count_eq_zero.mpr (not_destroyed_of_inactive now later)
      simp only [transitions, leads, List.count_cons_self, none, Nat.zero_add, Nat.le_refl]
    · rw [transitions, leads, List.count_cons_of_ne (by decide)]
      exact ih _ later
    · rw [transitions, List.count_cons_of_ne notDestroyed]
      exact ih _ later

/-- A loss run that is shorter than the threshold destroys nothing. -/
private theorem not_destroyed_of_short {config : WatchdogConfig} {before run : List Check}
    (ordered : run.Pairwise (fun a b => a.now ≤ b.now)) (whole : lossRun (before ++ run) = run)
    (short : elapsed run < config.lossThreshold.nanos) :
    .destroyed ∉ ((new config).after before).transitions run := by
  obtain ⟨lost, calm⟩ := of_lossRun_eq whole
  intro inside
  obtain ⟨early, c, rest, rfl, leads⟩ := mem_transitions inside
  have here : (((new config).after (before ++ early)).checked c).1 = .destroyed := by
    rw [after, List.foldl_append]
    exact leads
  have fails : c.fails = true := lost c (by simp)
  have front : ∀ x ∈ early ++ [c], x.fails = true := by
    intro x member
    rcases List.mem_append.mp member with sooner | last
    · exact lost x (List.mem_append_left _ sooner)
    · rw [List.mem_singleton.mp last]
      exact fails
  have part : lossRun (before ++ early ++ [c]) = early ++ [c] := by
    rw [List.append_assoc, lossRun_append front, calm, List.nil_append]
  have within := elapsed_le ordered
  rw [checked_after, if_pos fails, part] at here
  split at here
  · rename_i long
    exact Nat.not_lt.mpr (Nat.le_trans long.1 within) short
  · split at here <;> cases here

/-- What a watchdog does in the course of any history of checks whose clock does not go back. A check destroys
exactly if it fails while the watchdog is active and its loss run has lasted for the threshold; it registers
exactly if it finds the connection while the watchdog is inactive; it detects a loss exactly if it is the first
of its loss run and does not destroy; and it changes nothing otherwise. So destroying and registering take
turns, the watchdog is inactive between the two and at no other time, a loss run destroys once at most, and one
that is shorter than the threshold never does. -/
theorem transitions_follow_losses (config : WatchdogConfig) (history : List Check)
    (ordered : history.Pairwise (fun a b => a.now ≤ b.now)) :
    let w := new config
    (∀ before c rest, history = before ++ c :: rest →
      ∃ t, (w.transitions history)[before.length]? = some t ∧
        (t = .destroyed ↔ c.fails = true ∧ (w.after before).active = true ∧
          config.lossThreshold.nanos ≤ elapsed (lossRun (before ++ [c]))) ∧
        (t = .registered ↔ c.fails = false ∧ (w.after before).active = false) ∧
        (t = .lossDetected ↔ c.fails = true ∧ lossRun (before ++ [c]) = [c] ∧ t ≠ .destroyed) ∧
        (t = .unchanged ↔ t ≠ .destroyed ∧ t ≠ .registered ∧ t ≠ .lossDetected)) ∧
      switches (w.transitions history) = (List.range (switches (w.transitions history)).length).map turn ∧
      (∀ before rest, history = before ++ rest →
        ((w.after before).active = false ↔ Down (w.transitions before))) ∧
      ∀ before run rest, history = before ++ run ++ rest → lossRun (before ++ run) = run →
        ((w.after before).transitions run).count .destroyed ≤ 1 ∧
          (elapsed run < config.lossThreshold.nanos → .destroyed ∉ (w.after before).transitions run) := by
  intro w
  refine ⟨?_, (switches_alternate config history).1, fun before _ _ => active_after_iff config before, ?_⟩
  · rintro before c rest rfl
    refine ⟨((w.after before).checked c).1, ?_, ?_⟩
    · rw [transitions_append, List.getElem?_append_right (Nat.le_of_eq (w.length_transitions before)),
        length_transitions, Nat.sub_self]
      rfl
    · rw [checked_after config before c]
      cases lost : c.fails with
      | false =>
        rw [if_neg Bool.false_ne_true]
        cases ((new config).after before).active with
        | true => simp
        | false => simp
      | true =>
        have first : lossRun (before ++ [c]) = [c] ↔ lossRun before = [] := by
          rw [lossRun_snoc, if_pos lost]
          simp
        rw [if_pos rfl, first]
        by_cases long : config.lossThreshold.nanos ≤ elapsed (lossRun (before ++ [c])) ∧
            ((new config).after before).active = true
        · simp [w, long]
        · have other : ¬ (((new config).after before).active = true ∧
              config.lossThreshold.nanos ≤ elapsed (lossRun (before ++ [c]))) := fun both => long both.symm
          rw [if_neg long]
          by_cases start : lossRun before = []
          · simpa [start] using other
          · simpa [start] using other
  · rintro before run rest rfl whole
    refine ⟨count_destroyed_le _ (of_lossRun_eq whole).1, not_destroyed_of_short ?_ whole⟩
    exact (List.pairwise_append.mp (List.pairwise_append.mp ordered).1).2.1

/-- A loss that lasts, and later one that does not. -/
private def storm : List Check :=
  [⟨.ok false, 0, []⟩, ⟨.error (.connection "refused"), 60000000000, []⟩, ⟨.ok false, 75000000000, []⟩,
    ⟨.ok true, 90000000000, []⟩, ⟨.ok false, 105000000000, []⟩, ⟨.ok false, 164999999999, []⟩,
    ⟨.ok true, 165000000000, []⟩]

theorem transitions_follow_losses_storm :
    (new .standard).transitions storm =
        [.lossDetected, .destroyed, .unchanged, .registered, .lossDetected, .unchanged, .unchanged] ∧
      elapsed [storm[4], storm[5]] < WatchdogConfig.standard.lossThreshold.nanos ∧
      .destroyed ∉ ((new .standard).after (storm.take 4)).transitions [storm[4], storm[5]] := by
  have short : elapsed [storm[4], storm[5]] < WatchdogConfig.standard.lossThreshold.nanos := by decide
  refine ⟨rfl, short, ?_⟩
  have whole := transitions_follow_losses .standard storm (by decide)
  exact (whole.2.2.2 (storm.take 4) [storm[4], storm[5]] [storm[6]] rfl rfl).2 short

end Watchdog
end Courier
