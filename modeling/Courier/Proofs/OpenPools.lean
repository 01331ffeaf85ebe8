import Courier.Engine.Basic
import Courier.Proofs.PoolLimits

/-!
Pools that are not shut down. Their workers never stop: as long as there are tasks, a worker holds one or
can pick one up. Of the tasks of an engine's pool only some are deliveries.
-/
namespace Courier.Pool

section Open
variable {α : Type}

/-- A pool that has not been shut down and whose counts are in order. -/
structure Open (p : Pool α) : Prop where
  accounted : Accounted p
  counted : Counted p
  accepting : p.accepting = true
  staffed : p.staffed = true
  full : ∀ name g, p.groups.get? name = some g → 0 < g.limit ∧ (g.queue ≠ [] → g.limit ≤ g.running)

theorem open_new (config : PoolConfig) : Open (new config : Pool α) where
  accounted := accounted_new config
  counted := counted_new config
  accepting := rfl
  staffed := rfl
  full _ _ found := nomatch found

theorem Open.group_limit {p : Pool α} (open_ : Open p) (s : Step α) {name : String} {h : Group α}
    (found : (p.step s).groups.get? name = some h) : 0 < h.limit ∧ (h.queue ≠ [] → h.limit ≤ h.running) := by
  rcases group_step p s found with ⟨before, _⟩ | ⟨limit, job, _, rfl⟩ | ⟨g, before, _, rfl⟩
  · exact open_.full name h before
  · exact ⟨Nat.lt_of_lt_of_le Nat.zero_lt_one (Nat.le_max_right limit 1), Group.limit_le_running_promoted _⟩
  · exact ⟨(open_.full name g before).1, Group.limit_le_running_promoted _⟩

/-- A pool stays open if nobody starts a shutdown. -/
theorem Open.step {p : Pool α} (open_ : Open p) (s : Step α) (inTime : p.timesOut s = false)
    (accepting : (p.step s).accepting = true) (staffed : (p.step s).staffed = true) : Open (p.step s) where
  accounted := accounted_step open_.accounted s
  counted := counted_step open_.accounted open_.counted s inTime
  accepting := accepting
  staffed := staffed
  full _ _ found := open_.group_limit s found

theorem Open.submit {p q : Pool α} (open_ : Open p) {name : String} {limit : Nat} {work : α}
    (taken : p.submit name limit work = .ok q) : Open q := by
  have after : p.step (.submit name limit work) = q := by simp [Pool.step, taken, Except.toOption]
  have fields := submit_ok taken
  have next := open_.step (.submit name limit work) rfl
  rw [after] at next
  exact next (by rw [fields]; exact open_.accepting) (by rw [fields]; exact open_.staffed)

theorem Open.pickUp {p q : Pool α} (open_ : Open p) {job : Job α} (picked : p.pickUp = some (job, q)) : Open q := by
  have after : p.step .pickUp = q := by simp [Pool.step, picked]
  obtain ⟨rest, _, fields⟩ := pickUp_some picked
  have next := open_.step .pickUp rfl
  rw [after] at next
  exact next (by rw [fields]; exact open_.accepting) (by rw [fields]; exact open_.staffed)

theorem tasks_pickUp {p q : Pool α} (open_ : Open p) {job : Job α} (picked : p.pickUp = some (job, q)) :
    q.tasks.Perm p.tasks := by
  have tasks := tasks_step open_.accounted .pickUp rfl
  have after : p.step .pickUp = q := by simp [Pool.step, picked]
  rw [after] at tasks
  simpa [completed?, accepted?] using tasks

theorem fields_complete (p : Pool α) (ticket : Nat) :
    (p.complete ticket).config = p.config ∧ (p.complete ticket).accepting = p.accepting ∧
      (p.complete ticket).staffed = p.staffed := by
  unfold complete
  split
  · exact ⟨rfl, rfl, rfl⟩
  · exact ⟨rfl, rfl, rfl⟩

theorem Open.complete {p : Pool α} (open_ : Open p) (ticket : Nat) : Open (p.complete ticket) := by
  obtain ⟨_, accepting, staffed⟩ := p.fields_complete ticket
  exact open_.step (.complete ticket) rfl (accepting.trans open_.accepting) (staffed.trans open_.staffed)

/-- An open pool refuses a task only if it is full, and for no other reason. -/
theorem Open.refusal {p : Pool α} (open_ : Open p) {name : String} {limit : Nat} {work : α} {why : DeliveryError}
    (refused : p.submit name limit work = .error why) :
    p.config.capacity ≤ p.outstanding ∧ why = .queueFull name p.config.capacity := by
  rw [submit_eq] at refused
  simp only [open_.accepting, true_and, if_true] at refused
  split at refused
  · cases refused
  · rename_i full
    exact ⟨Nat.not_lt.mp full, (Except.error.inj refused).symm⟩

/-! ### Waiting tasks -/

private theorem queued_of_inactive {p : Pool α} (open_ : Open p) (inactive : p.active = []) : p.queued = [] := by
  refine List.flatMap_eq_nil_iff.mpr (fun entry member => ?_)
  have found := Table.get?_eq_some_iff.mpr member
  obtain ⟨limit, full⟩ := open_.full entry.1 entry.2 found
  have running := open_.accounted.running entry.1
  rw [group_of_get? found, inactive] at running
  by_cases waiting : entry.2.queue = []
  · exact waiting
  · have busy := full waiting
    simp only [ofGroup_nil, List.length_nil] at running
    omega

/-- If there are tasks and no worker holds one, a worker can pick one up. -/
theorem Open.exists_pickUp {p : Pool α} (open_ : Open p) (idle : p.held = []) (waiting : p.tasks ≠ []) :
    ∃ job q, p.pickUp = some (job, q) := by
  cases line : p.ready with
  | nil =>
    have inactive : p.active = [] := by rw [active, line, idle, List.append_nil]
    refine absurd ?_ waiting
    rw [tasks, queued_of_inactive open_ inactive, inactive, List.append_nil]
  | cons job rest =>
    have free : p.staffed = true ∧ p.held.length < p.config.workerCount := by
      rw [idle]
      exact ⟨open_.staffed, Nat.lt_of_lt_of_le Nat.zero_lt_one (Nat.le_max_right p.config.workers 1)⟩
    refine ⟨job, { p with ready := rest, held := p.held ++ [job] }, ?_⟩
    simp only [Pool.pickUp, line]
    rw [if_pos free]

/-- A pool without tasks has room for one. -/
theorem Open.outstanding_lt {p : Pool α} (open_ : Open p) (none : p.tasks = []) :
    p.outstanding < p.config.capacity := by
  have queued : p.queued = [] := (List.append_eq_nil_iff.mp none).1
  have inactive : p.active = [] := (List.append_eq_nil_iff.mp none).2
  have groups : p.groups.entries = [] := by
    refine List.eq_nil_iff_forall_not_mem.mpr (fun entry member => ?_)
    have found := Table.get?_eq_some_iff.mpr member
    have loaded := open_.accounted.loaded entry.1 entry.2 found
    have running := open_.accounted.running entry.1
    have queue : entry.2.queue = [] := List.flatMap_eq_nil_iff.mp queued entry member
    rw [group_of_get? found, inactive] at running
    rw [Group.load, running, queue] at loaded
    simp at loaded
  have counted : p.outstanding = p.groups.total Group.load := open_.counted
  rw [counted, Table.total, groups]
  exact Nat.lt_of_lt_of_le Nat.zero_lt_one (Nat.le_max_right p.config.maxPending 1)

/-! ### Revised tasks -/

/-- A worker's task, in its new form, next to the same other tasks. -/
theorem tasks_revise {p : Pool α} (inv : Accounted p) {ticket : Nat} {job : Job α} (work : α)
    (found : p.held.find? (fun j => j.ticket == ticket) = some job) :
    ∃ others, p.tasks.Perm (job :: others) ∧ (p.revise ticket work).tasks.Perm ({ job with work } :: others) := by
  have held := held_perm (held_distinct inv) found
  have hit : job.ticket = ticket := by simpa using List.find?_some found
  have kept : (p.held.filter (fun j => j.ticket != ticket)).map
      (fun j => if j.ticket = ticket then { j with work } else j) = p.held.filter (fun j => j.ticket != ticket) := by
    refine (List.map_congr_left (fun j member => ?_)).trans (List.map_id _)
    have other : j.ticket ≠ ticket := by simpa using (List.mem_filter.mp member).2
    rw [if_neg other]
    rfl
  have revised : (p.revise ticket work).held.Perm
      ({ job with work } :: p.held.filter (fun j => j.ticket != ticket)) := by
    have mapped := held.map (fun j => if j.ticket = ticket then { j with work } else j)
    rw [List.map_cons, kept, if_pos hit] at mapped
    exact mapped
  refine ⟨p.queued ++ (p.ready ++ p.held.filter (fun j => j.ticket != ticket)), ?_, ?_⟩
  · exact ((held.append_left p.ready).trans List.perm_middle).append_left p.queued |>.trans List.perm_middle
  · exact ((revised.append_left p.ready).trans List.perm_middle).append_left p.queued |>.trans List.perm_middle

theorem mem_held_revise {p : Pool α} {ticket : Nat} {job : Job α} (work : α)
    (found : p.held.find? (fun j => j.ticket == ticket) = some job) :
    { job with work } ∈ (p.revise ticket work).held := by
  have hit : job.ticket = ticket := by simpa using List.find?_some found
  exact List.mem_map.mpr ⟨job, List.mem_of_find?_eq_some found, by rw [if_pos hit]⟩

private theorem tickets_revise (p : Pool α) (ticket : Nat) (work : α) :
    (p.revise ticket work).tasks.map Job.ticket = p.tasks.map Job.ticket := by
  have same (job : Job α) : (if job.ticket = ticket then { job with work } else job).ticket = job.ticket := by
    split <;> rfl
  have held : (p.revise ticket work).held.map Job.ticket = p.held.map Job.ticket := by
    rw [revise, List.map_map]
    exact List.map_congr_left (fun job _ => same job)
  show ((p.queued ++ (p.ready ++ (p.revise ticket work).held)).map Job.ticket) = _
  simp only [tasks, active, List.map_append, held]

private theorem running_revise (p : Pool α) (ticket : Nat) (work : α) (name : String) :
    (ofGroup name (p.revise ticket work).active).length = (ofGroup name p.active).length := by
  have same (job : Job α) : (if job.ticket = ticket then { job with work } else job).group = job.group := by
    split <;> rfl
  have held : (ofGroup name (p.revise ticket work).held).length = (ofGroup name p.held).length := by
    simp only [revise, ofGroup, List.filter_map, List.length_map, Function.comp_def, same]
  show (ofGroup name (p.ready ++ (p.revise ticket work).held)).length = (ofGroup name (p.ready ++ p.held)).length
  rw [ofGroup_append, ofGroup_append, List.length_append, List.length_append, held]

theorem accounted_revise {p : Pool α} (inv : Accounted p) (ticket : Nat) (work : α) : Accounted (p.revise ticket work) := by
  refine ⟨inv.filed, inv.loaded, fun name => ?_, ?_, fun job member => ?_⟩
  · rw [running_revise]
    exact inv.running name
  · rw [tickets_revise]
    exact inv.distinct
  · have there : job.ticket ∈ p.tasks.map Job.ticket := by
      rw [← tickets_revise p ticket work]
      exact List.mem_map_of_mem member
    obtain ⟨old, inside, same⟩ := List.mem_map.mp there
    exact same ▸ inv.fresh old inside

theorem Open.revise {p : Pool α} (open_ : Open p) (ticket : Nat) (work : α) : Open (p.revise ticket work) where
  accounted := accounted_revise open_.accounted ticket work
  counted := open_.counted
  accepting := open_.accepting
  staffed := open_.staffed
  full := open_.full

end Open

/-! ### Deliveries -/

end Courier.Pool

namespace Courier

/-- The delivery that a task is, if it is one. -/
def Task.delivery? : Task → Option Delivery
  | .delivery d => some d
  | .foreign _ => none

namespace Pool
variable {p q : Pool Task}

/-- The deliveries among the tasks of a pool. -/
def deliveries (p : Pool Task) : List Delivery := p.tasks.filterMap (fun job => job.work.delivery?)

theorem mem_deliveries {job : Job Task} {d : Delivery} (member : job ∈ p.tasks) (is : job.work = .delivery d) :
    d ∈ p.deliveries :=
  List.mem_filterMap.mpr ⟨job, member, by rw [is]; rfl⟩

private theorem deliveries_of_perm {job : Job Task} {others : List (Job Task)} (tasks : p.tasks.Perm (job :: others)) :
    p.deliveries.Perm (job.work.delivery?.toList ++ others.filterMap (fun job => job.work.delivery?)) := by
  have mapped : p.deliveries.Perm ((job :: others).filterMap (fun job => job.work.delivery?)) := tasks.filterMap _
  cases is : job.work.delivery? with
  | none => simpa [is] using mapped
  | some d => simpa [is] using mapped

theorem deliveries_submit {name : String} {limit : Nat} {work : Task} (taken : p.submit name limit work = .ok q) :
    q.deliveries.Perm (work.delivery?.toList ++ p.deliveries) := by
  have tasks := tasks_entered p name limit work
  rw [← submit_ok taken] at tasks
  exact deliveries_of_perm tasks

theorem deliveries_pickUp (open_ : Open p) {job : Job Task} (picked : p.pickUp = some (job, q)) :
    q.deliveries.Perm p.deliveries :=
  (tasks_pickUp open_ picked).filterMap _

theorem deliveries_complete (open_ : Open p) {ticket : Nat} {job : Job Task}
    (found : p.held.find? (fun j => j.ticket == ticket) = some job) :
    p.deliveries.Perm (job.work.delivery?.toList ++ (p.complete ticket).deliveries) :=
  deliveries_of_perm (tasks_complete open_.accounted found)

theorem deliveries_revise (open_ : Open p) {ticket : Nat} {job : Job Task} {d : Delivery} (next : Delivery)
    (found : p.held.find? (fun j => j.ticket == ticket) = some job) (is : job.work = .delivery d) :
    ∃ others, p.deliveries.Perm (d :: others) ∧ (p.revise ticket (.delivery next)).deliveries.Perm (next :: others) := by
  obtain ⟨others, before, after⟩ := tasks_revise open_.accounted (.delivery next) found
  have old := deliveries_of_perm before
  rw [is] at old
  exact ⟨_, old, deliveries_of_perm after⟩

end Pool
end Courier
