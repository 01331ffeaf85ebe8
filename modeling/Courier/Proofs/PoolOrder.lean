import Courier.Proofs.ClosedPools

/-!
In which order the tasks of a group are served. On its way a task stands in two queues, that of its group and
the line for a worker, and every step that moves tasks takes them from the head of the one to the end of the
other; so the tasks of a group keep the order in which they came.
-/
namespace Courier.Pool
variable {α : Type}

/-- The tasks of a group that no worker has taken yet: those in the line, then those in the queue of the group. -/
def waiting (p : Pool α) (name : String) : List (Job α) := ofGroup name p.ready ++ (p.group name).queue

theorem Closed.waiting {p : Pool α} (closed : Closed p) (name : String) : p.waiting name = [] := by
  simp [Pool.waiting, group, closed.ready, closed.groups, Group.idle]

/-! ### One step -/

private theorem waiting_submit {p : Pool α} (inv : Accounted p) (name other : String) (limit : Nat) (work : α) :
    (p.entered other limit work).waiting name =
      p.waiting name ++ ofGroup name [⟨p.nextTicket, other, work⟩] := by
  have filed := filed_joined inv other limit work
  by_cases same : other = name
  · subst same
    have passing : ofGroup other ((p.group other).joined limit ⟨p.nextTicket, other, work⟩).passing =
        ((p.group other).joined limit ⟨p.nextTicket, other, work⟩).passing :=
      ofGroup_eq_self (fun job member => filed job (Group.mem_passing member))
    have queue := ((p.group other).joined limit ⟨p.nextTicket, other, work⟩).passing_append_queue
    have after : (p.entered other limit work).group other =
        ((p.group other).joined limit ⟨p.nextTicket, other, work⟩).promoted := by
      simp [group, entered, Table.get?_insert]
    rw [waiting, after]
    simp only [entered, ofGroup_append, passing, List.append_assoc, queue]
    simp [waiting, Group.joined, ofGroup]
  · have passing : ofGroup name ((p.group other).joined limit ⟨p.nextTicket, other, work⟩).passing = [] :=
      ofGroup_eq_nil (fun job member => filed job (Group.mem_passing member)) same
    have after : (p.entered other limit work).group name = p.group name := by
      simp [group, entered, Table.get?_insert, same]
    rw [waiting, after]
    have new : ofGroup name [(⟨p.nextTicket, other, work⟩ : Job α)] = [] := by simp [ofGroup, same]
    simp only [entered, ofGroup_append, passing, new, List.append_nil, waiting]

private theorem waiting_complete {p : Pool α} (inv : Accounted p) (name : String) (ticket : Nat) :
    (p.complete ticket).waiting name = p.waiting name := by
  cases found : p.held.find? (fun j => j.ticket == ticket) with
  | none => simp [complete, found]
  | some job =>
    obtain ⟨g, known, _⟩ := group_of_active inv (List.mem_append_right _ (List.mem_of_find?_eq_some found))
    have filed := inv.filed job.group g known
    have queue : g.relieved.passing ++ g.relieved.promoted.queue = g.queue := g.relieved.passing_append_queue
    have ready : (p.complete ticket).ready = p.ready ++ g.relieved.passing := by
      simp only [complete, found, released, known]
      split <;> rfl
    by_cases same : job.group = name
    · subst same
      have passing : ofGroup job.group g.relieved.passing = g.relieved.passing :=
        ofGroup_eq_self (fun j member => filed j (Group.mem_passing (g := g.relieved) member))
      have after : ((p.complete ticket).group job.group).queue = g.relieved.promoted.queue := by
        by_cases idle : g.relieved.promoted.isIdle
        · have empty : g.relieved.promoted.queue = [] := by
            have load := Group.isIdle_eq_true_iff.mp idle
            exact List.length_eq_zero_iff.mp (by unfold Group.load at load; omega)
          simp [complete, found, released, known, idle, group, Table.get?_erase, Group.idle, empty]
        · simp [complete, found, released, known, idle, group, Table.get?_insert]
      rw [waiting, ready, after, ofGroup_append, passing, List.append_assoc, queue, waiting, group_of_get? known]
    · have passing : ofGroup name g.relieved.passing = [] :=
        ofGroup_eq_nil (fun j member => filed j (Group.mem_passing (g := g.relieved) member)) same
      have after : (p.complete ticket).group name = p.group name := by
        by_cases idle : g.relieved.promoted.isIdle
        · simp [complete, found, released, known, idle, group, Table.get?_erase, same]
        · simp [complete, found, released, known, idle, group, Table.get?_insert, same]
      rw [waiting, ready, after, ofGroup_append, passing, List.append_nil, waiting]

/-- A worker takes the first waiting task of its group, and a task that is accepted becomes the last one. -/
theorem waiting_step {p : Pool α} (inv : Accounted p) (s : Step α) (drained : p.timesOut s = false) (name : String) :
    ofGroup name (p.pickedUp? s).toList ++ (p.step s).waiting name =
      p.waiting name ++ ofGroup name ((p.accepted? s).map Prod.fst).toList := by
  cases s with
  | submit other limit work =>
    rcases accepted?_submit p other limit work with ⟨refused, same⟩ | ⟨taken, after⟩
    · simp [refused, same, pickedUp?]
    · rw [after, taken, waiting_submit inv]
      rfl
  | pickUp =>
    cases picked : p.pickUp with
    | none => simp [step, picked, pickedUp?, accepted?]
    | some head =>
      obtain ⟨job, q⟩ := head
      obtain ⟨rest, line, rfl⟩ := pickUp_some picked
      have line' : ofGroup name p.ready = ofGroup name [job] ++ ofGroup name rest := by
        rw [← ofGroup_append, line]
        rfl
      simp [step, picked, pickedUp?, accepted?, waiting, group, line']
  | complete ticket => simpa [step, pickedUp?, accepted?] using waiting_complete inv name ticket
  | stopAccepting => simp [step, stopAccepting, pickedUp?, accepted?, waiting, group]
  | timeOut =>
    obtain ⟨_, _, is⟩ := p.timeOut_eq
    simp [step, is, pickedUp?, accepted?, waiting, group]
  | conclude timeout =>
    rw [(step_conclude_of_drained drained).2]
    simp [pickedUp?, accepted?, waiting, group]

/-! ### Runs -/

theorem waiting_run {p : Pool α} (inv : Accounted p) (steps : List (Step α)) (drained : p.inTime steps = true)
    (name : String) :
    ofGroup name (p.pickedUp steps) ++ (p.run steps).waiting name =
      p.waiting name ++ ofGroup name (p.accepted steps) := by
  induction steps generalizing p with
  | nil => simp [pickedUp, accepted, noted, run]
  | cons s rest ih =>
    obtain ⟨first, later⟩ : p.timesOut s = false ∧ (p.step s).inTime rest = true := by
      simpa [inTime] using drained
    have head := waiting_step inv s first name
    have tail := ih (accounted_step inv s) later
    have came : p.accepted (s :: rest) = ((p.accepted? s).map Prod.fst).toList ++ (p.step s).accepted rest := by
      simp only [accepted, noted, List.map_append]
      cases p.accepted? s <;> rfl
    have went : p.pickedUp (s :: rest) = (p.pickedUp? s).toList ++ (p.step s).pickedUp rest := rfl
    rw [came, went, ofGroup_append, ofGroup_append, List.append_assoc, ← List.append_assoc (p.waiting name), ← head,
      List.append_assoc]
    exact congrArg _ tail

/-- As long as there are workers, no shutdown has timed out. -/
theorem inTime_of_staffed (p : Pool α) (steps : List (Step α)) (staffed : (p.run steps).staffed = true) :
    p.inTime steps = true := by
  rcases inTime_or_cut_off p steps with inTime | ⟨_, _, closed, _⟩
  · exact inTime
  · rw [closed.unstaffed] at staffed
    cases staffed

theorem staffed_of_pickUp {p q : Pool α} {job : Job α} (picked : p.pickUp = some (job, q)) : p.staffed = true := by
  unfold pickUp at picked
  split at picked
  · cases picked
  · split at picked
    · rename_i free
      exact free.1
    · cases picked

/-- A group runs no more tasks than the largest of the limits that its submissions bring. -/
theorem running_le_of_submits {c : Nat} (config : PoolConfig) (steps : List (Step α)) (name : String)
    (only : ∀ limit work, .submit name limit work ∈ steps → limit ≤ c) :
    (((new config).run steps).group name).running ≤ max c 1 := by
  cases found : ((new config : Pool α).run steps).groups.get? name with
  | none =>
    rw [group_of_get?_none found]
    exact Nat.zero_le _
  | some g =>
    obtain ⟨l, member, bound⟩ := (limited_run config steps name g found).bounded
    obtain ⟨work, inside⟩ := submit_of_mem_limits (limitsSince_subset name _ steps l member)
    have limit := only l work inside
    rw [group_of_get? found]
    omega

/-- In every run the tasks of a group are picked up in the order in which they were accepted: those picked up
come first, then those in the line, then those in the queue of the group, and after them there are none but
those that a shutdown has dropped. If all submissions to the group bring the limit one, a worker picks up a
task of it only when all tasks that were accepted for it before are completed. -/
theorem groups_are_served_in_order (config : PoolConfig) (steps : List (Step α)) (name : String) :
    let p := (new config).run steps
    let accepted := ofGroup name ((new config).accepted steps)
    let pickedUp := ofGroup name ((new config).pickedUp steps)
    let completed := ofGroup name ((new config).completed steps)
    (∃ dropped, accepted = pickedUp ++ (ofGroup name p.ready ++ (p.group name).queue) ++ dropped ∧
        ((new config).inTime steps = true → dropped = [])) ∧
      ∀ job q, p.pickUp = some (job, q) → job.group = name →
        (∃ later, accepted = pickedUp ++ job :: later) ∧
          ((∀ limit work, .submit name limit work ∈ steps → limit ≤ 1) → completed.Perm pickedUp) := by
  intro p accepted pickedUp completed
  have inv := accounted_run (accounted_new config) steps (α := α)
  have until_ (early : List (Step α)) (inTime : (new config : Pool α).inTime early = true) :
      ofGroup name ((new config).accepted early) =
        ofGroup name ((new config).pickedUp early) ++ ((new config).run early).waiting name := by
    simpa [waiting, new, group, Group.idle] using (waiting_run (accounted_new config) early inTime name).symm
  refine ⟨?_, fun job q picked mine => ?_⟩
  · by_cases inTime : (new config : Pool α).inTime steps = true
    · exact ⟨[], (until_ steps inTime).trans (List.append_nil _).symm, fun _ => rfl⟩
    · obtain ⟨early, inTime', closed, _, came, went, _⟩ :=
        (inTime_or_cut_off (new config : Pool α) steps).resolve_left inTime
      refine ⟨((new config).run early).waiting name, ?_, fun whole => absurd whole inTime⟩
      have none : ofGroup name p.ready ++ (p.group name).queue = [] := closed.waiting name
      simp only [accepted, pickedUp, came, went, none, List.append_nil]
      exact until_ early inTime'
  · have inTime := inTime_of_staffed _ _ (staffed_of_pickUp picked)
    obtain ⟨rest, line, _⟩ := pickUp_some picked
    refine ⟨⟨ofGroup name rest ++ (p.group name).queue, ?_⟩, fun serial => ?_⟩
    · have first : ofGroup name p.ready = job :: ofGroup name rest := by
        rw [line, ofGroup_cons, if_pos mine]
      have order := until_ steps inTime
      rw [waiting, first] at order
      exact order
    · -- the task in the line is the one task that the group runs, so that no worker holds another one
      have running : (p.group name).running = (ofGroup name p.active).length := inv.running name
      have bound : (p.group name).running ≤ max 1 1 := running_le_of_submits config steps name serial
      have mem : job ∈ ofGroup name p.ready := mem_ofGroup.mpr ⟨by rw [line]; exact List.mem_cons_self, mine⟩
      have one := List.length_pos_of_mem mem
      rw [active, ofGroup_append, List.length_append] at running
      have idle : ofGroup name p.held = [] := List.length_eq_zero_iff.mp (by omega)
      have held : (ofGroup name (p.held ++ (new config).completed steps)).Perm
          (ofGroup name ((new config : Pool α).held ++ (new config).pickedUp steps)) :=
        (held_run (accounted_new config) steps inTime).filter _
      rw [ofGroup_append, idle] at held
      exact held

/-- A limit that is raised lets the tasks that wait go first. -/
example :
    let steps : List (Step Nat) := [.submit "mail" 1 10, .submit "mail" 1 11, .submit "post" 1 20,
      .submit "mail" 2 12, .pickUp, .pickUp, .complete 0, .pickUp, .pickUp]
    ((new ⟨8, 8⟩).pickedUp steps).map Job.work = [10, 20, 11, 12] := rfl

end Courier.Pool
