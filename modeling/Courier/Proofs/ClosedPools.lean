import Courier.Proofs.PoolLimits

/-!
Pools that are shut down. From the start of a shutdown on no task is accepted. Its end leaves no group
behind and nothing that could still move (`Pool.Closed`): the tasks that are not done then are never done,
and the pool goes on to count them.
-/
namespace Courier.Pool
variable {α : Type}

/-- A pool after the end of a shutdown. -/
structure Closed (p : Pool α) : Prop where
  refusing : p.accepting = false
  unstaffed : p.staffed = false
  inTime : p.late = false
  groups : p.groups = .empty
  ready : p.ready = []
  held : p.held = []

theorem submit_of_refusing {p : Pool α} (refusing : p.accepting = false) (name : String) (limit : Nat) (work : α) :
    p.submit name limit work = .error (.rejected name) := by
  rw [submit_eq]
  simp [refusing]

/-- Nothing happens to a closed pool. -/
theorem Closed.step {p : Pool α} (closed : Closed p) (s : Step α) : p.step s = p := by
  obtain ⟨refusing, unstaffed, inTime, groups, ready, held⟩ := closed
  cases p with
  | mk config groups' ready' held' outstanding accepting staffed late nextTicket =>
    simp only at refusing unstaffed inTime groups ready held
    subst refusing unstaffed inTime groups ready held
    cases s with
    | submit name limit work => simp [Pool.step, submit, Except.toOption]
    | pickUp => rfl
    | complete ticket => rfl
    | stopAccepting => rfl
    | timeOut => rfl
    | conclude timeout =>
      by_cases drained : outstanding = 0
      · simp [Pool.step, conclude, drained]
      · simp [Pool.step, conclude, drained]

theorem Closed.notes {p : Pool α} (closed : Closed p) (s : Step α) :
    p.accepted? s = none ∧ p.pickedUp? s = none ∧ p.completed? s = none := by
  cases s with
  | submit name limit work => exact ⟨by simp [accepted?, submit_of_refusing closed.refusing], rfl, rfl⟩
  | pickUp => exact ⟨rfl, by simp [pickedUp?, Pool.pickUp, closed.ready], rfl⟩
  | complete ticket => exact ⟨rfl, rfl, by simp [completed?, closed.held]⟩
  | stopAccepting => exact ⟨rfl, rfl, rfl⟩
  | timeOut => exact ⟨rfl, rfl, rfl⟩
  | conclude timeout => exact ⟨rfl, rfl, rfl⟩

theorem Closed.run {p : Pool α} (closed : Closed p) (steps : List (Step α)) : p.run steps = p := by
  induction steps with
  | nil => rfl
  | cons s rest ih =>
    show (p.step s).run rest = p
    rw [closed.step, ih]

theorem Closed.noted {β : Type} {note : Pool α → Step α → Option β} {p : Pool α} (closed : Closed p)
    (nothing : ∀ s, note p s = none) (steps : List (Step α)) : Pool.noted note p steps = [] := by
  induction steps with
  | nil => rfl
  | cons s rest ih => rw [Pool.noted, nothing, closed.step, ih]; rfl

/-- The end of a shutdown that times out closes the pool. -/
theorem closed_of_timesOut {p : Pool α} {s : Step α} (late : p.timesOut s = true) : Closed (p.step s) := by
  cases s with
  | conclude timeout =>
    rw [step_conclude_of_timesOut late]
    exact ⟨rfl, rfl, rfl, rfl, rfl, rfl⟩
  | submit name limit work => cases late
  | pickUp => cases late
  | complete ticket => cases late
  | stopAccepting => cases late
  | timeOut => cases late

/-- So does the end of one that finds the pool drained. -/
theorem closed_of_drained {p : Pool α} (inv : Accounted p) (counted : Counted p) {timeout : Span}
    (drained : p.timesOut (.conclude timeout) = false) : Closed (p.step (.conclude timeout)) := by
  obtain ⟨none, after⟩ := step_conclude_of_drained drained
  have tasks := List.append_eq_nil_iff.mp (tasks_eq_nil inv counted none)
  have active := List.append_eq_nil_iff.mp tasks.2
  have inTime : p.late = false := by
    simp only [timesOut, Bool.or_eq_false_iff] at drained
    exact drained.1
  have groups := groups_eq_empty inv counted none
  rw [after]
  exact ⟨rfl, rfl, inTime, groups, active.1, active.2⟩

/-! ### Runs with shutdowns -/

/-- A run is in time throughout, or in time up to a shutdown that times out. -/
private theorem first_timeout (p : Pool α) (steps : List (Step α)) :
    p.inTime steps = true ∨ ∃ early late s, steps = early ++ s :: late ∧ p.inTime early = true ∧
      (p.run early).timesOut s = true := by
  induction steps generalizing p with
  | nil => exact .inl rfl
  | cons s rest ih =>
    cases late : p.timesOut s with
    | true => exact .inr ⟨[], rest, s, rfl, rfl, late⟩
    | false =>
      rcases ih (p.step s) with inTime | ⟨early, later, t, rfl, inTime, out⟩
      · exact .inl (by simp [Pool.inTime, late, inTime])
      · exact .inr ⟨s :: early, later, t, rfl, by simp [Pool.inTime, late, inTime], out⟩

private theorem timesOut_notes {p : Pool α} {s : Step α} (late : p.timesOut s = true) :
    (p.step s).outstanding = p.outstanding ∧ p.accepted? s = none ∧ p.pickedUp? s = none ∧ p.completed? s = none := by
  cases s with
  | conclude timeout => exact ⟨by rw [step_conclude_of_timesOut late], rfl, rfl, rfl⟩
  | submit name limit work => cases late
  | pickUp => cases late
  | complete ticket => cases late
  | stopAccepting => cases late
  | timeOut => cases late

/-- A run in which a shutdown times out stands still from there on: it has noted what it had noted until then. -/
theorem inTime_or_cut_off (p : Pool α) (steps : List (Step α)) :
    p.inTime steps = true ∨ ∃ early, p.inTime early = true ∧ Closed (p.run steps) ∧
      (p.run steps).outstanding = (p.run early).outstanding ∧ p.accepted steps = p.accepted early ∧
      p.pickedUp steps = p.pickedUp early ∧ p.completed steps = p.completed early := by
  rcases first_timeout p steps with inTime | ⟨early, late, s, rfl, inTime, out⟩
  · exact .inl inTime
  · have closed := closed_of_timesOut out
    obtain ⟨outstanding, accepted, pickedUp, completed⟩ := timesOut_notes out
    have cut {β : Type} {note : Pool α → Step α → Option β} (here : note (p.run early) s = none)
        (later : ∀ t, note ((p.run early).step s) t = none) :
        noted note p (early ++ s :: late) = noted note p early := by
      rw [noted_append, noted, here, closed.noted later]
      simp
    have after : p.run (early ++ s :: late) = (p.run early).step s := by
      rw [run_append]
      exact closed.run late
    refine .inr ⟨early, inTime, by rw [after]; exact closed, by rw [after, outstanding], ?_, ?_, ?_⟩
    · rw [Pool.accepted, cut accepted (fun t => (closed.notes t).1), Pool.accepted]
    · exact cut pickedUp (fun t => (closed.notes t).2.1)
    · exact cut completed (fun t => (closed.notes t).2.2)

/-- Wherever a shutdown ends, the pool is closed. -/
theorem closed_conclude (config : PoolConfig) (steps : List (Step α)) (timeout : Span) :
    Closed (((new config : Pool α).run steps).step (.conclude timeout)) := by
  rcases inTime_or_cut_off (new config : Pool α) steps with inTime | ⟨_, _, closed, _⟩
  · have inv := accounted_run (accounted_new config) steps (α := α)
    have counted := counted_run (accounted_new config) (counted_new config) steps inTime
    cases late : ((new config : Pool α).run steps).timesOut (.conclude timeout) with
    | false => exact closed_of_drained inv counted late
    | true => exact closed_of_timesOut late
  · rw [closed.step]
    exact closed

theorem refusing_step {p : Pool α} (refusing : p.accepting = false) (s : Step α) : (p.step s).accepting = false := by
  cases s with
  | submit name limit work => simpa [step, submit_of_refusing refusing, Except.toOption] using refusing
  | pickUp =>
    cases picked : p.pickUp with
    | none => simpa [step, picked] using refusing
    | some found =>
      obtain ⟨job, q⟩ := found
      obtain ⟨rest, line, rfl⟩ := pickUp_some picked
      simpa [step, picked] using refusing
  | complete ticket =>
    show (p.complete ticket).accepting = false
    unfold complete
    split
    · exact refusing
    · exact refusing
  | stopAccepting => rfl
  | timeOut =>
    obtain ⟨_, _, is⟩ := p.timeOut_eq
    rw [step, is]
    exact refusing
  | conclude timeout =>
    cases late : p.timesOut (.conclude timeout) with
    | false => rw [(step_conclude_of_drained late).2]
    | true => rw [step_conclude_of_timesOut late]

theorem refusing_run {p : Pool α} (refusing : p.accepting = false) (steps : List (Step α)) :
    (p.run steps).accepting = false := by
  induction steps generalizing p with
  | nil => exact refusing
  | cons s rest ih => exact ih (refusing_step refusing s)

/-! ### Tasks that are not done -/

private theorem outstanding_step {p : Pool α} (inv : Accounted p) (counts : p.outstanding = p.tasks.length) (s : Step α)
    (drained : p.timesOut s = false) : (p.step s).outstanding = (p.step s).tasks.length := by
  have moved := (tasks_step inv s drained).length_eq
  simp only [List.length_append] at moved
  cases s with
  | submit name limit work =>
    rcases accepted?_submit p name limit work with ⟨_, same⟩ | ⟨taken, after⟩
    · rw [same]
      exact counts
    · have more : (p.step (.submit name limit work)).outstanding = p.outstanding + 1 := by rw [after]; rfl
      simp only [taken, completed?, Option.map_some, Option.toList_some, Option.toList_none, List.length_nil,
        List.length_singleton] at moved
      omega
  | pickUp =>
    have same : (p.step .pickUp).outstanding = p.outstanding := by
      cases picked : p.pickUp with
      | none => simp [step, picked]
      | some found =>
        obtain ⟨job, q⟩ := found
        obtain ⟨rest, _, rfl⟩ := pickUp_some picked
        simp [step, picked]
    simp only [accepted?, completed?, Option.map_none, Option.toList_none, List.length_nil] at moved
    omega
  | complete ticket =>
    cases found : p.held.find? (fun j => j.ticket == ticket) with
    | none =>
      have same : p.step (.complete ticket) = p := by simp [step, complete, found]
      rw [same]
      exact counts
    | some job =>
      have less : (p.step (.complete ticket)).outstanding = p.outstanding - 1 := by simp [step, complete, found]
      simp only [accepted?, completed?, found, Option.map_none, Option.toList_none, Option.toList_some,
        List.length_nil, List.length_singleton] at moved
      omega
  | stopAccepting => exact counts
  | timeOut =>
    obtain ⟨_, _, is⟩ := p.timeOut_eq
    rw [step, is]
    exact counts
  | conclude timeout =>
    rw [(step_conclude_of_drained drained).2]
    exact counts

/-- Until a shutdown times out a pool counts its tasks. -/
theorem outstanding_run {p : Pool α} (inv : Accounted p) (counts : p.outstanding = p.tasks.length)
    (steps : List (Step α)) (inTime : p.inTime steps = true) :
    (p.run steps).outstanding = (p.run steps).tasks.length := by
  induction steps generalizing p with
  | nil => exact counts
  | cons s rest ih =>
    obtain ⟨first, later⟩ : p.timesOut s = false ∧ (p.step s).inTime rest = true := by
      simpa [Pool.inTime] using inTime
    exact ih (accounted_step inv s) (outstanding_step inv counts s first) later

/-- What a pool counts as outstanding are the accepted tasks that are not done, whatever became of them. -/
theorem unfinished_run (config : PoolConfig) (steps : List (Step α)) :
    ∃ left, ((new config).accepted steps).Perm (left ++ (new config).completed steps) ∧
      ((new config).run steps).outstanding = left.length ∧
      ((new config).inTime steps = true → left = ((new config).run steps).tasks) := by
  have until_ (early : List (Step α)) (inTime : (new config : Pool α).inTime early = true) :
      ((new config).accepted early).Perm (((new config).run early).tasks ++ (new config).completed early) ∧
        ((new config).run early).outstanding = ((new config : Pool α).run early).tasks.length := by
    refine ⟨?_, outstanding_run (accounted_new config) rfl early inTime⟩
    simpa [tasks, queued, active, new, Table.empty] using (tasks_run (accounted_new config) early inTime).symm
  by_cases inTime : (new config : Pool α).inTime steps = true
  · exact ⟨_, (until_ steps inTime).1, (until_ steps inTime).2, fun _ => rfl⟩
  · -- once a shutdown has timed out nothing is counted any more, so all is as it was just before
    obtain ⟨early, inTime', _, outstanding, accepted, _, completed⟩ :=
      (inTime_or_cut_off (new config : Pool α) steps).resolve_left inTime
    refine ⟨_, ?_, outstanding.trans (until_ early inTime').2, fun whole => absurd whole inTime⟩
    rw [accepted, completed]
    exact (until_ early inTime').1

/-- From the start of a shutdown on every submission is refused. If the shutdown ends well, every task ever
accepted has been completed, once, and nothing is outstanding; if it times out, it reports how many accepted
tasks have not been completed, which are none only if the last of them were completed after its time was over. If
there are some, so does every shutdown after it. In both cases no group is left, and nothing happens to the pool any
more. -/
theorem shutdown_accounts_for_all_tasks (config : PoolConfig) (before during : List (Step α)) (timeout : Span) :
    let steps := before ++ .stopAccepting :: during
    let p := (new config).run steps
    let accepted := (new config).accepted steps
    let completed := (new config).completed steps
    let answer := (p.conclude timeout).1
    let closed := (p.conclude timeout).2
    (∀ more name limit work, (((new config).run (before ++ [.stopAccepting])).run more).submit name limit work =
        .error (.rejected name)) ∧
      (accepted.map Job.ticket).Nodup ∧
      (answer = .ok () → accepted.Perm completed ∧ closed.outstanding = 0) ∧
      (∀ why, answer = .error why → ∃ left, accepted.Perm (left ++ completed) ∧ (left ≠ [] ∨ p.late = true) ∧
        ((new config).inTime steps = true → left = p.queued ++ (p.ready ++ p.held)) ∧
        why = .shutdownTimeout timeout left.length ∧
        ∀ more later, ((closed.run more).conclude later).1 =
          if left = [] then .ok () else .error (.shutdownTimeout later left.length)) ∧
      closed.groups = .empty ∧
      ∀ more, closed.run more = closed := by
  intro steps p accepted completed answer closed
  have shut : Closed closed := closed_conclude config steps timeout
  obtain ⟨left, all, outstanding, places⟩ := unfinished_run config steps (α := α)
  obtain ⟨k, _, tickets⟩ := tickets_accepted (new config : Pool α) steps
  refine ⟨fun more name limit work => ?_, ?_, fun ends => ?_, fun why ends => ?_, shut.groups, shut.run⟩
  · refine submit_of_refusing (refusing_run ?_ more) name limit work
    rw [run_append]
    rfl
  · show (((new config).accepted steps).map Job.ticket).Nodup
    rw [tickets]
    exact List.nodup_range'
  · have drained : p.outstanding = 0 ∧ p.late = false := by
      by_contra late
      simp [answer, conclude, late] at ends
    have none : left = [] := List.length_eq_zero_iff.mp (outstanding ▸ drained.1)
    refine ⟨by simpa [none] using all, ?_⟩
    simp [closed, conclude, drained]
  · have late : ¬ (p.outstanding = 0 ∧ p.late = false) := by
      intro drained
      simp [answer, conclude, drained] at ends
    have count : closed.outstanding = left.length := by
      rw [← outstanding]
      simp only [closed, conclude, late, if_false]
      rfl
    refine ⟨left, all, ?_, places, ?_, fun more later => ?_⟩
    · by_contra neither
      obtain ⟨none, inTime⟩ := not_or.mp neither
      have empty : p.outstanding = 0 := outstanding.trans (List.length_eq_zero_iff.mpr (not_not.mp none))
      exact late ⟨empty, by simpa using inTime⟩
    · have told : answer = .error (.shutdownTimeout timeout p.outstanding) := by
        simp only [answer, conclude, late, if_false]
      rw [ends] at told
      rw [← outstanding]
      exact Except.error.inj told
    · rw [shut.run]
      by_cases none : left = []
      · simp [conclude, count, shut.inTime, none]
      · simp [conclude, count, shut.inTime, none]

/-- A shutdown that leaves one task of two behind. -/
example :
    let steps : List (Step Unit) := [.submit "mail" 1 (), .submit "mail" 1 (), .pickUp, .stopAccepting,
      .submit "post" 1 (), .complete 0]
    (((new ⟨2, 5⟩).run steps).conclude .zero).1 = .error (.shutdownTimeout .zero 1) := rfl

/-- A shutdown whose time is over, and whose last task is completed before it tells what is left. -/
example :
    let steps : List (Step Unit) := [.submit "mail" 1 (), .pickUp, .stopAccepting, .timeOut, .complete 0]
    (((new ⟨2, 5⟩).run steps).conclude .zero).1 = .error (.shutdownTimeout .zero 0) := rfl

end Courier.Pool
