import Mathlib.Data.List.Perm.Basic
import Courier.Pool.Basic
import Courier.Proofs.Tables

/-!
Where the tasks of a pool are. A run notes which tasks it accepts, picks up and completes. Until a
shutdown times out every accepted task is in one place: in the queue of its group, in the line, held
by a worker, or completed. The counts of the pool and of its groups agree with those places
(`Pool.Accounted`), so that a completion always finds its group.
-/
namespace Courier

namespace Group
variable {α : Type}

theorem passing_append_queue (g : Group α) : g.passing ++ g.promoted.queue = g.queue :=
  List.take_append_drop ..

theorem mem_passing {g : Group α} {job : Job α} (member : job ∈ g.passing) : job ∈ g.queue :=
  List.mem_of_mem_take member

theorem mem_promoted_queue {g : Group α} {job : Job α} (member : job ∈ g.promoted.queue) : job ∈ g.queue :=
  List.mem_of_mem_drop member

@[simp] theorem promoted_running (g : Group α) : g.promoted.running = g.running + g.passing.length := rfl

/-- The tasks that a group runs or keeps waiting. -/
def load (g : Group α) : Nat := g.running + g.queue.length

theorem load_promoted (g : Group α) : g.promoted.load = g.load := by
  have split := congrArg List.length g.passing_append_queue
  simp only [List.length_append] at split
  simp only [load, promoted_running]
  omega

theorem isIdle_eq_true_iff {g : Group α} : g.isIdle = true ↔ g.load = 0 := by
  simp [isIdle, load, List.isEmpty_iff]

end Group

namespace Pool
variable {α : Type}

/-! ### Places -/

/-- The tasks that wait in the queue of their group. -/
def queued (p : Pool α) : List (Job α) := p.groups.entries.flatMap (fun e => e.2.queue)

/-- The tasks that their group has let through: in the line, then those held by workers. -/
def active (p : Pool α) : List (Job α) := p.ready ++ p.held

/-- All tasks of a pool. -/
def tasks (p : Pool α) : List (Job α) := p.queued ++ p.active

theorem mem_tasks_of_held {p : Pool α} {job : Job α} (member : job ∈ p.held) : job ∈ p.tasks :=
  List.mem_append_right _ (List.mem_append_right _ member)

/-- The tasks in a list that belong to a group. -/
def ofGroup (name : String) (jobs : List (Job α)) : List (Job α) :=
  jobs.filter (fun job => job.group = name)

/-! ### What a run notes -/

/-- The task that a step accepts, and the limit that came with it. -/
def accepted? (p : Pool α) : Step α → Option (Job α × Nat)
  | .submit name limit work =>
    match p.submit name limit work with
    | .ok _ => some (⟨p.nextTicket, name, work⟩, limit)
    | .error _ => none
  | _ => none

/-- The task that a worker picks up in a step. -/
def pickedUp? (p : Pool α) : Step α → Option (Job α)
  | .pickUp => p.pickUp.map Prod.fst
  | _ => none

/-- The task that a worker completes in a step. -/
def completed? (p : Pool α) : Step α → Option (Job α)
  | .complete ticket => p.held.find? (fun job => job.ticket == ticket)
  | _ => none

/-- What is noted of the steps of a run, in order. -/
def noted {β : Type} (note : Pool α → Step α → Option β) : Pool α → List (Step α) → List β
  | _, [] => []
  | p, s :: rest => (note p s).toList ++ noted note (p.step s) rest

/-- The tasks accepted in a run. -/
def accepted (p : Pool α) (steps : List (Step α)) : List (Job α) := (noted accepted? p steps).map Prod.fst

/-- The tasks picked up in a run. -/
def pickedUp (p : Pool α) (steps : List (Step α)) : List (Job α) := noted pickedUp? p steps

/-- The tasks completed in a run. -/
def completed (p : Pool α) (steps : List (Step α)) : List (Job α) := noted completed? p steps

/-- Whether a step is the end of a shutdown that does not find the pool drained. -/
def timesOut (p : Pool α) : Step α → Bool
  | .conclude _ => p.late || p.outstanding ≠ 0
  | _ => false

/-- Whether no shutdown in a run times out. -/
def inTime : Pool α → List (Step α) → Bool
  | _, [] => true
  | p, s :: rest => !p.timesOut s && inTime (p.step s) rest

/-- The places of the tasks and the counts of the groups agree. -/
structure Accounted (p : Pool α) : Prop where
  filed : ∀ name g, p.groups.get? name = some g → ∀ job ∈ g.queue, job.group = name
  loaded : ∀ name g, p.groups.get? name = some g → 0 < g.load
  running : ∀ name, (p.group name).running = (ofGroup name p.active).length
  distinct : (p.tasks.map Job.ticket).Nodup
  fresh : ∀ job ∈ p.tasks, job.ticket < p.nextTicket

/-- The count of outstanding tasks is what the groups run and keep waiting. -/
def Counted (p : Pool α) : Prop := p.outstanding = p.groups.total Group.load

/-! ### Groups in the table -/

theorem group_of_get? {p : Pool α} {name : String} {g : Group α} (found : p.groups.get? name = some g) :
    p.group name = g := by
  simp [group, found]

theorem group_of_get?_none {p : Pool α} {name : String} (absent : p.groups.get? name = none) :
    p.group name = .idle := by
  simp [group, absent]

/-- The tasks that wait in the queues of the groups in a table. -/
private def queuedIn (t : Table String (Group α)) : List (Job α) := t.entries.flatMap (fun e => e.2.queue)

/-- A table in which a group is as given, or absent if it has no tasks. -/
private def regrouped (t : Table String (Group α)) (name : String) (g : Group α) : Table String (Group α) :=
  if g.isIdle then t.erase name else t.insert name g

private theorem get?_regrouped (t : Table String (Group α)) (name x : String) (g : Group α) :
    (regrouped t name g).get? x = if name = x then (if g.isIdle then none else some g) else t.get? x := by
  unfold regrouped
  by_cases idle : g.isIdle
  · simp [idle, Table.get?_erase]
  · simp [idle, Table.get?_insert]

private theorem queuedIn_regrouped (t : Table String (Group α)) (name : String) (g : Group α) :
    (queuedIn (regrouped t name g)).Perm (g.queue ++ queuedIn (t.erase name)) := by
  unfold regrouped
  by_cases idle : g.isIdle
  · have empty : g.queue = [] := by
      have load := Group.isIdle_eq_true_iff.mp idle
      exact List.length_eq_zero_iff.mp (by unfold Group.load at load; omega)
    simp [idle, empty]
  · simpa [idle, queuedIn] using (Table.entries_insert_perm t name g).flatMap_right (fun e => e.2.queue)

private theorem total_regrouped (t : Table String (Group α)) (name : String) (g : Group α) :
    (regrouped t name g).total Group.load = g.load + (t.erase name).total Group.load := by
  unfold regrouped
  by_cases idle : g.isIdle
  · simp [idle, Group.isIdle_eq_true_iff.mp idle]
  · have sums := ((Table.entries_insert_perm t name g).map (fun e => e.2.load)).sum_nat
    simpa [idle, Table.total] using sums

private theorem queued_perm (p : Pool α) (name : String) :
    p.queued.Perm ((p.group name).queue ++ queuedIn (p.groups.erase name)) := by
  have split := (Table.entries_perm p.groups name).flatMap_right (fun e => e.2.queue)
  cases found : p.groups.get? name with
  | none => simpa [found, group, Group.idle, queued, queuedIn] using split
  | some g => simpa [found, group, queued, queuedIn] using split

private theorem total_split (p : Pool α) (name : String) :
    p.groups.total Group.load = (p.group name).load + (p.groups.erase name).total Group.load := by
  have sums := ((Table.entries_perm p.groups name).map (fun e => e.2.load)).sum_nat
  cases found : p.groups.get? name with
  | none => simpa [found, group, Group.idle, Group.load, Table.total] using sums
  | some g => simpa [found, group, Table.total] using sums

/-! ### Tasks of one group -/

@[simp] theorem ofGroup_nil (name : String) : ofGroup name ([] : List (Job α)) = [] := rfl

@[simp] theorem ofGroup_append (name : String) (a b : List (Job α)) :
    ofGroup name (a ++ b) = ofGroup name a ++ ofGroup name b :=
  List.filter_append ..

theorem ofGroup_cons (name : String) (job : Job α) (jobs : List (Job α)) :
    ofGroup name (job :: jobs) = if job.group = name then job :: ofGroup name jobs else ofGroup name jobs := by
  by_cases same : job.group = name <;> simp [ofGroup, same]

theorem ofGroup_eq_self {name : String} {jobs : List (Job α)} (same : ∀ job ∈ jobs, job.group = name) :
    ofGroup name jobs = jobs :=
  List.filter_eq_self.mpr (by simpa using same)

theorem ofGroup_eq_nil {name other : String} {jobs : List (Job α)} (same : ∀ job ∈ jobs, job.group = name)
    (different : name ≠ other) : ofGroup other jobs = [] :=
  List.filter_eq_nil_iff.mpr (fun job member => by simpa [same job member] using different)

theorem mem_ofGroup {name : String} {job : Job α} {jobs : List (Job α)} :
    job ∈ ofGroup name jobs ↔ job ∈ jobs ∧ job.group = name := by
  simp [ofGroup]

/-! ### Promotion -/

/-- The pool that a submission leads to if it is not refused. -/
def entered (p : Pool α) (name : String) (limit : Nat) (work : α) : Pool α :=
  let g := (p.group name).joined limit ⟨p.nextTicket, name, work⟩
  { p with
    groups := p.groups.insert name g.promoted
    ready := p.ready ++ g.passing
    outstanding := p.outstanding + 1
    nextTicket := p.nextTicket + 1 }

theorem submit_eq (p : Pool α) (name : String) (limit : Nat) (work : α) :
    p.submit name limit work =
      if p.accepting = true ∧ p.outstanding < p.config.capacity then .ok (p.entered name limit work)
      else if p.accepting then .error (.queueFull name p.config.capacity) else .error (.rejected name) := by
  unfold submit entered
  by_cases open_ : p.accepting = true
  · by_cases full : p.config.capacity ≤ p.outstanding
    · simp [open_, full, Nat.not_lt.mpr full]
    · simp [open_, full, Nat.not_le.mp full]
  · simp [open_]

theorem submit_ok {p q : Pool α} {name : String} {limit : Nat} {work : α}
    (taken : p.submit name limit work = .ok q) : q = p.entered name limit work := by
  rw [submit_eq] at taken
  split at taken
  · exact (Except.ok.inj taken).symm
  · split at taken <;> cases taken

theorem submit_rejected_iff {p : Pool α} {name : String} {limit : Nat} {work : α} :
    p.submit name limit work = .error (.rejected name) ↔ p.accepting = false := by
  rw [submit_eq]
  cases open_ : p.accepting with
  | false => simp
  | true => by_cases room : p.outstanding < p.config.capacity <;> simp [room]

theorem submit_queueFull_iff {p : Pool α} {name : String} {limit : Nat} {work : α} :
    p.submit name limit work = .error (.queueFull name p.config.capacity) ↔
      p.accepting = true ∧ p.config.capacity ≤ p.outstanding := by
  rw [submit_eq]
  cases open_ : p.accepting with
  | false => simp
  | true => by_cases room : p.outstanding < p.config.capacity <;> simp [room, ← Nat.not_lt]

theorem submit_ok_iff {p q : Pool α} {name : String} {limit : Nat} {work : α} :
    p.submit name limit work = .ok q ↔
      p.accepting = true ∧ p.outstanding < p.config.capacity ∧ p.entered name limit work = q := by
  rw [submit_eq]
  cases open_ : p.accepting with
  | false => simp
  | true => by_cases room : p.outstanding < p.config.capacity <;> simp [room]

/-- The tasks of a pool that differs from another one in one group, in which it has promoted tasks. -/
private theorem tasks_regrouped {p q : Pool α} {name : String} {g : Group α} {kept : List (Job α)}
    (groups : q.groups = regrouped p.groups name g.promoted) (active : q.active.Perm (g.passing ++ kept)) :
    q.tasks.Perm (g.queue ++ (queuedIn (p.groups.erase name) ++ kept)) := by
  have queued : q.queued.Perm (g.promoted.queue ++ queuedIn (p.groups.erase name)) := by
    unfold Pool.queued
    rw [groups]
    exact queuedIn_regrouped ..
  refine (queued.append active).trans ?_
  rw [← g.passing_append_queue]
  simp only [List.append_assoc]
  have turn : (g.promoted.queue ++ queuedIn (p.groups.erase name) ++ g.passing).Perm
      (g.passing ++ (g.promoted.queue ++ queuedIn (p.groups.erase name))) := List.perm_append_comm
  simpa only [List.append_assoc] using turn.append_right kept

/-- What promotion does to the tasks, in a pool that differs from another one only in one group. -/
private structure Promotes (p q : Pool α) (name : String) (g : Group α) (kept : List (Job α)) : Prop where
  groups : q.groups = regrouped p.groups name g.promoted
  active : q.active.Perm (g.passing ++ kept)
  filed : ∀ job ∈ g.queue, job.group = name
  here : g.running = (ofGroup name kept).length
  elsewhere : ∀ x, name ≠ x → (ofGroup x kept).length = (ofGroup x p.active).length

private theorem Promotes.get? {p q : Pool α} {name : String} {g : Group α} {kept : List (Job α)}
    (moved : Promotes p q name g kept) (x : String) :
    q.groups.get? x = if name = x then (if g.promoted.isIdle then none else some g.promoted) else p.groups.get? x := by
  rw [moved.groups, get?_regrouped]

private theorem Promotes.tasks {p q : Pool α} {name : String} {g : Group α} {kept : List (Job α)}
    (moved : Promotes p q name g kept) :
    q.tasks.Perm (g.queue ++ (queuedIn (p.groups.erase name) ++ kept)) :=
  tasks_regrouped moved.groups moved.active

private theorem Promotes.filed_loaded {p q : Pool α} {name : String} {g : Group α} {kept : List (Job α)}
    (moved : Promotes p q name g kept) (inv : Accounted p) (x : String) (h : Group α)
    (found : q.groups.get? x = some h) : (∀ job ∈ h.queue, job.group = x) ∧ 0 < h.load := by
  rw [moved.get?] at found
  by_cases same : name = x
  · subst same
    by_cases idle : g.promoted.isIdle
    · simp [idle] at found
    · have value : g.promoted = h := by simpa [idle] using found
      subst value
      refine ⟨fun job member => moved.filed job (Group.mem_promoted_queue member), ?_⟩
      exact Nat.pos_of_ne_zero (fun none => idle (Group.isIdle_eq_true_iff.mpr none))
  · rw [if_neg same] at found
    exact ⟨inv.filed x h found, inv.loaded x h found⟩

private theorem Promotes.running {p q : Pool α} {name : String} {g : Group α} {kept : List (Job α)}
    (moved : Promotes p q name g kept) (inv : Accounted p) (x : String) :
    (q.group x).running = (ofGroup x q.active).length := by
  have passing : ∀ job ∈ g.passing, job.group = name := fun job member => moved.filed job (Group.mem_passing member)
  have counted : (ofGroup x q.active).length = (ofGroup x (g.passing ++ kept)).length := by
    unfold ofGroup
    exact (moved.active.filter _).length_eq
  rw [counted, ofGroup_append, List.length_append]
  by_cases same : name = x
  · subst same
    rw [ofGroup_eq_self passing, ← moved.here]
    by_cases idle : g.promoted.isIdle
    · have absent : q.groups.get? name = none := by rw [moved.get?]; simp [idle]
      have load := Group.isIdle_eq_true_iff.mp idle
      simp only [Group.load, Group.promoted_running] at load
      rw [group_of_get?_none absent]
      show 0 = _
      omega
    · have found : q.groups.get? name = some g.promoted := by rw [moved.get?]; simp [idle]
      rw [group_of_get? found, Group.promoted_running]
      omega
  · have group : q.group x = p.group x := by
      unfold Pool.group
      rw [moved.get?, if_neg same]
    rw [group, inv.running, ofGroup_eq_nil passing same, moved.elsewhere x same]
    simp

private theorem Promotes.accounted {p q : Pool α} {name : String} {g : Group α} {kept : List (Job α)}
    (moved : Promotes p q name g kept) (inv : Accounted p) (distinct : (q.tasks.map Job.ticket).Nodup)
    (fresh : ∀ job ∈ q.tasks, job.ticket < q.nextTicket) : Accounted q where
  filed x h found := (moved.filed_loaded inv x h found).1
  loaded x h found := (moved.filed_loaded inv x h found).2
  running x := moved.running inv x
  distinct := distinct
  fresh := fresh

private theorem Promotes.total {p q : Pool α} {name : String} {g : Group α} {kept : List (Job α)}
    (moved : Promotes p q name g kept) :
    q.groups.total Group.load + (p.group name).load = p.groups.total Group.load + g.load := by
  have before := total_split p name
  rw [moved.groups, total_regrouped, Group.load_promoted]
  omega

/-! ### Submissions -/

theorem filed_joined {p : Pool α} (inv : Accounted p) (name : String) (limit : Nat) (work : α) :
    ∀ job ∈ ((p.group name).joined limit ⟨p.nextTicket, name, work⟩).queue, job.group = name := by
  intro job member
  have old : job ∈ (p.group name).queue ∨ job = ⟨p.nextTicket, name, work⟩ := by
    simpa [Group.joined] using member
  rcases old with old | new
  · cases found : p.groups.get? name with
    | none => simp [group_of_get?_none found, Group.idle] at old
    | some g => exact inv.filed name g found job (by simpa [group_of_get? found] using old)
  · rw [new]

private theorem groups_entered (p : Pool α) (name : String) (limit : Nat) (work : α) :
    (p.entered name limit work).groups =
      regrouped p.groups name ((p.group name).joined limit ⟨p.nextTicket, name, work⟩).promoted := by
  have busy : ((p.group name).joined limit ⟨p.nextTicket, name, work⟩).promoted.isIdle ≠ true := by
    rw [ne_eq, Group.isIdle_eq_true_iff, Group.load_promoted]
    simp [Group.load, Group.joined]
  simp [entered, regrouped, busy]

private theorem active_entered (p : Pool α) (name : String) (limit : Nat) (work : α) :
    (p.entered name limit work).active.Perm
      (((p.group name).joined limit ⟨p.nextTicket, name, work⟩).passing ++ p.active) := by
  simp only [active, entered, List.append_assoc]
  have turn : (p.ready ++ ((p.group name).joined limit ⟨p.nextTicket, name, work⟩).passing).Perm
      (((p.group name).joined limit ⟨p.nextTicket, name, work⟩).passing ++ p.ready) := List.perm_append_comm
  simpa only [List.append_assoc] using turn.append_right p.held

private theorem promotes_entered {p : Pool α} (inv : Accounted p) (name : String) (limit : Nat) (work : α) :
    Promotes p (p.entered name limit work) name ((p.group name).joined limit ⟨p.nextTicket, name, work⟩) p.active where
  groups := groups_entered p name limit work
  active := active_entered p name limit work
  filed := filed_joined inv name limit work
  here := inv.running name
  elsewhere _ _ := rfl

theorem tasks_entered (p : Pool α) (name : String) (limit : Nat) (work : α) :
    (p.entered name limit work).tasks.Perm (⟨p.nextTicket, name, work⟩ :: p.tasks) := by
  have split := tasks_regrouped (groups_entered p name limit work) (active_entered p name limit work)
  have queue : ((p.group name).joined limit ⟨p.nextTicket, name, work⟩).queue =
      (p.group name).queue ++ [⟨p.nextTicket, name, work⟩] := rfl
  rw [queue, List.append_assoc, List.singleton_append] at split
  refine split.trans (List.perm_middle.trans ((List.Perm.cons _) ?_))
  rw [← List.append_assoc]
  exact ((queued_perm p name).append_right p.active).symm

private theorem accounted_entered {p : Pool α} (inv : Accounted p) (name : String) (limit : Nat) (work : α) :
    Accounted (p.entered name limit work) := by
  have tasks := tasks_entered p name limit work
  refine (promotes_entered inv name limit work).accounted inv ?_ ?_
  · refine (tasks.map Job.ticket).nodup_iff.mpr (List.nodup_cons.mpr ⟨?_, inv.distinct⟩)
    intro member
    obtain ⟨job, inside, same⟩ := List.mem_map.mp member
    have older := inv.fresh job inside
    simp only at same
    omega
  · intro job member
    show job.ticket < p.nextTicket + 1
    rcases List.mem_cons.mp (tasks.mem_iff.mp member) with new | old
    · rw [new]; exact Nat.lt_succ_self _
    · exact Nat.lt_succ_of_lt (inv.fresh job old)

private theorem counted_entered {p : Pool α} (inv : Accounted p) (counted : Counted p) (name : String) (limit : Nat)
    (work : α) : Counted (p.entered name limit work) := by
  have total := (promotes_entered inv name limit work).total
  have load : ((p.group name).joined limit ⟨p.nextTicket, name, work⟩).load = (p.group name).load + 1 := by
    simp only [Group.load, Group.joined, List.length_append, List.length_singleton]
    omega
  have before : p.outstanding = p.groups.total Group.load := counted
  show p.outstanding + 1 = (p.entered name limit work).groups.total Group.load
  omega

/-! ### Completions -/

/-- A task that workers or the line hold belongs to a group in the table, which counts it as running. -/
theorem group_of_active {p : Pool α} (inv : Accounted p) {job : Job α} (member : job ∈ p.active) :
    ∃ g, p.groups.get? job.group = some g ∧ 0 < g.running := by
  have counted := inv.running job.group
  have positive : 0 < (ofGroup job.group p.active).length :=
    List.length_pos_of_mem (mem_ofGroup.mpr ⟨member, rfl⟩)
  cases found : p.groups.get? job.group with
  | none =>
    rw [group_of_get?_none found] at counted
    simp only [Group.idle] at counted
    omega
  | some g =>
    rw [group_of_get? found] at counted
    exact ⟨g, rfl, by omega⟩

theorem held_perm {jobs : List (Job α)} {ticket : Nat} {job : Job α}
    (distinct : (jobs.map Job.ticket).Nodup) (found : jobs.find? (fun j => j.ticket == ticket) = some job) :
    jobs.Perm (job :: jobs.filter (fun j => j.ticket != ticket)) := by
  induction jobs with
  | nil => simp at found
  | cons head rest ih =>
    simp only [List.map_cons, List.nodup_cons] at distinct
    by_cases hit : head.ticket = ticket
    · have same : head = job := by simpa [hit] using found
      subst same
      have others : rest.filter (fun j => j.ticket != ticket) = rest := by
        refine List.filter_eq_self.mpr (fun j member => ?_)
        have different : j.ticket ≠ ticket := by
          rintro rfl
          exact distinct.1 (hit ▸ List.mem_map.mpr ⟨j, member, rfl⟩)
        simpa using different
      simp [hit, others]
    · have later : rest.find? (fun j => j.ticket == ticket) = some job := by simpa [hit] using found
      rw [List.filter_cons_of_pos (by simpa using hit)]
      exact ((ih distinct.2 later).cons head).trans (List.Perm.swap ..)

theorem held_distinct {p : Pool α} (inv : Accounted p) : (p.held.map Job.ticket).Nodup := by
  refine inv.distinct.sublist (List.Sublist.map _ ?_)
  exact (List.sublist_append_right p.ready p.held).trans (List.sublist_append_right p.queued p.active)

private theorem complete_eq {p : Pool α} {ticket : Nat} {job : Job α} {g : Group α}
    (found : p.held.find? (fun j => j.ticket == ticket) = some job) (known : p.groups.get? job.group = some g) :
    p.complete ticket =
      { p with
        groups := regrouped p.groups job.group g.relieved.promoted
        ready := p.ready ++ g.relieved.passing
        held := p.held.filter (fun j => j.ticket != ticket)
        outstanding := p.outstanding - 1 } := by
  by_cases idle : g.relieved.promoted.isIdle
  · simp [complete, found, released, known, regrouped, idle]
  · simp [complete, found, released, known, regrouped, idle]

private theorem promotes_complete {p : Pool α} (inv : Accounted p) {ticket : Nat} {job : Job α} {g : Group α}
    (found : p.held.find? (fun j => j.ticket == ticket) = some job) (known : p.groups.get? job.group = some g) :
    Promotes p (p.complete ticket) job.group g.relieved (p.ready ++ p.held.filter (fun j => j.ticket != ticket)) := by
  have held := held_perm (held_distinct inv) found
  have one (x : String) : (ofGroup x p.active).length =
      (ofGroup x (p.ready ++ p.held.filter (fun j => j.ticket != ticket))).length +
        if job.group = x then 1 else 0 := by
    have parts : (ofGroup x p.held).length =
        (ofGroup x (job :: p.held.filter (fun j => j.ticket != ticket))).length := by
      unfold ofGroup
      exact (held.filter _).length_eq
    rw [ofGroup_cons] at parts
    simp only [active, ofGroup_append, List.length_append, parts]
    by_cases same : job.group = x
    · simp only [same, if_true, List.length_cons]; omega
    · simp only [same, if_false]; omega
  refine ⟨?_, ?_, ?_, ?_, ?_⟩
  · rw [complete_eq found known]
  · rw [complete_eq found known]
    simp only [active, List.append_assoc]
    have turn : (p.ready ++ g.relieved.passing).Perm (g.relieved.passing ++ p.ready) := List.perm_append_comm
    simpa only [List.append_assoc] using turn.append_right (p.held.filter (fun j => j.ticket != ticket))
  · exact inv.filed job.group g known
  · have counted := inv.running job.group
    rw [group_of_get? known, one, if_pos rfl] at counted
    show g.running - 1 = _
    omega
  · intro x different
    rw [one, if_neg different, Nat.add_zero]

theorem held_complete {p : Pool α} {ticket : Nat} {job : Job α}
    (found : p.held.find? (fun j => j.ticket == ticket) = some job) :
    (p.complete ticket).held = p.held.filter (fun j => j.ticket != ticket) := by
  simp [complete, found]

theorem find?_held {p : Pool α} (inv : Accounted p) {job : Job α} (inside : job ∈ p.held) :
    p.held.find? (fun j => j.ticket == job.ticket) = some job := by
  cases found : p.held.find? (fun j => j.ticket == job.ticket) with
  | none =>
    have other := List.find?_eq_none.mp found job inside
    simp at other
  | some other =>
    rcases List.mem_cons.mp ((held_perm (held_distinct inv) found).mem_iff.mp inside) with same | elsewhere
    · rw [same]
    · have apart := (List.mem_filter.mp elsewhere).2
      simp at apart

theorem tasks_complete {p : Pool α} (inv : Accounted p) {ticket : Nat} {job : Job α}
    (found : p.held.find? (fun j => j.ticket == ticket) = some job) :
    p.tasks.Perm (job :: (p.complete ticket).tasks) := by
  have held := held_perm (held_distinct inv) found
  have member : job ∈ p.active := List.mem_append_right _ (List.mem_of_find?_eq_some found)
  obtain ⟨g, known, _⟩ := group_of_active inv member
  have after := (promotes_complete inv found known).tasks
  have queue : g.relieved.queue = (p.group job.group).queue := by rw [group_of_get? known]; rfl
  rw [queue] at after
  have active : p.active.Perm (job :: (p.ready ++ p.held.filter (fun j => j.ticket != ticket))) :=
    (held.append_left p.ready).trans List.perm_middle
  refine ((queued_perm p job.group).append active).trans (List.perm_middle.trans (List.Perm.cons _ ?_))
  rw [List.append_assoc]
  exact after.symm

private theorem accounted_complete {p : Pool α} (inv : Accounted p) {ticket : Nat} {job : Job α}
    (found : p.held.find? (fun j => j.ticket == ticket) = some job) : Accounted (p.complete ticket) := by
  have tasks := tasks_complete inv found
  have member : job ∈ p.active := List.mem_append_right _ (List.mem_of_find?_eq_some found)
  obtain ⟨g, known, _⟩ := group_of_active inv member
  refine (promotes_complete inv found known).accounted inv ?_ ?_
  · exact (List.nodup_cons.mp ((tasks.map Job.ticket).nodup_iff.mp inv.distinct)).2
  · intro other inside
    rw [complete_eq found known]
    exact inv.fresh other (tasks.mem_iff.mpr (List.mem_cons_of_mem _ inside))

private theorem counted_complete {p : Pool α} (inv : Accounted p) (counted : Counted p) {ticket : Nat} {job : Job α}
    (found : p.held.find? (fun j => j.ticket == ticket) = some job) : Counted (p.complete ticket) := by
  have member : job ∈ p.active := List.mem_append_right _ (List.mem_of_find?_eq_some found)
  obtain ⟨g, known, positive⟩ := group_of_active inv member
  have total := (promotes_complete inv found known).total
  rw [group_of_get? known] at total
  have load : g.relieved.load + 1 = g.load := by
    simp only [Group.load, Group.relieved]
    omega
  have before : p.outstanding = p.groups.total Group.load := counted
  have after : (p.complete ticket).outstanding = p.outstanding - 1 := by rw [complete_eq found known]
  unfold Counted
  omega

/-! ### Pools without tasks -/

/-- A pool with nothing outstanding has no groups. -/
theorem groups_eq_empty {p : Pool α} (inv : Accounted p) (counted : Counted p) (none : p.outstanding = 0) :
    p.groups = .empty := by
  have total : p.outstanding = p.groups.total Group.load := counted
  have entries : p.groups.entries = [] := by
    refine List.eq_nil_iff_forall_not_mem.mpr (fun entry member => ?_)
    have loaded := inv.loaded entry.1 entry.2 (Table.get?_eq_some_iff.mpr member)
    have sum : 0 < p.groups.total Group.load :=
      List.sum_pos_iff_exists_pos_nat.mpr ⟨entry.2.load, List.mem_map.mpr ⟨entry, member, rfl⟩, loaded⟩
    omega
  cases groups : p.groups with
  | mk entries' distinct =>
    rw [groups] at entries
    cases entries
    rfl

/-- A pool with nothing outstanding has no tasks. -/
theorem tasks_eq_nil {p : Pool α} (inv : Accounted p) (counted : Counted p) (none : p.outstanding = 0) :
    p.tasks = [] := by
  have groups := groups_eq_empty inv counted none
  have inactive : p.active = [] := by
    refine List.eq_nil_iff_forall_not_mem.mpr (fun job member => ?_)
    obtain ⟨g, found, _⟩ := group_of_active inv member
    rw [groups] at found
    cases found
  rw [tasks, inactive, List.append_nil, queued, groups]
  rfl

/-! ### Steps -/

/-- When the time for a shutdown is over, nothing changes but that workers may not take tasks any more. -/
theorem timeOut_eq (p : Pool α) : ∃ staffed late, p.timeOut = { p with staffed, late } := by
  unfold timeOut
  split
  · exact ⟨_, _, rfl⟩
  · exact ⟨p.staffed, p.late, rfl⟩

/-- The end of a shutdown that finds the pool drained. -/
theorem step_conclude_of_drained {p : Pool α} {timeout : Span} (drained : p.timesOut (.conclude timeout) = false) :
    p.outstanding = 0 ∧ p.step (.conclude timeout) = { p with accepting := false, staffed := false } := by
  obtain ⟨inTime, none⟩ : p.late = false ∧ p.outstanding = 0 := by simpa [timesOut] using drained
  exact ⟨none, by simp [step, conclude, inTime, none]⟩

/-- The end of a shutdown that has timed out. -/
theorem step_conclude_of_timesOut {p : Pool α} {timeout : Span} (late : p.timesOut (.conclude timeout) = true) :
    p.step (.conclude timeout) = { p with
      accepting := false, staffed := false, late := false, groups := .empty, ready := [], held := [] } := by
  have left : ¬ (p.outstanding = 0 ∧ p.late = false) := by
    rintro ⟨none, inTime⟩
    simp [timesOut, none, inTime] at late
  simp only [step, conclude, left, if_false]

theorem pickUp_some {p q : Pool α} {job : Job α} (picked : p.pickUp = some (job, q)) :
    ∃ rest, p.ready = job :: rest ∧ q = { p with ready := rest, held := p.held ++ [job] } := by
  unfold pickUp at picked
  cases line : p.ready with
  | nil => simp [line] at picked
  | cons head rest =>
    simp only [line] at picked
    split at picked
    · obtain ⟨rfl, rfl⟩ : head = job ∧ _ = q := by simpa using picked
      exact ⟨rest, rfl, rfl⟩
    · cases picked

/-- Tasks that only change places among the line and the workers leave the account as it is. -/
private theorem accounted_of_perm {p q : Pool α} (inv : Accounted p) (groups : q.groups = p.groups)
    (active : q.active.Perm p.active) (next : q.nextTicket = p.nextTicket) : Accounted q := by
  have tasks : q.tasks.Perm p.tasks := by
    unfold tasks queued
    rw [groups]
    exact active.append_left _
  refine ⟨?_, ?_, ?_, ?_, ?_⟩
  · rw [groups]; exact inv.filed
  · rw [groups]; exact inv.loaded
  · intro name
    have counted : (ofGroup name q.active).length = (ofGroup name p.active).length := by
      unfold ofGroup
      exact (active.filter _).length_eq
    rw [counted, ← inv.running name]
    unfold group
    rw [groups]
  · exact (tasks.map Job.ticket).nodup_iff.mpr inv.distinct
  · intro job member
    rw [next]
    exact inv.fresh job (tasks.mem_iff.mp member)

private theorem accounted_none {p : Pool α} (groups : p.groups = .empty) (ready : p.ready = []) (held : p.held = []) :
    Accounted p := by
  have tasks : p.tasks = [] := by simp [tasks, queued, active, groups, ready, held, Table.empty]
  refine ⟨?_, ?_, ?_, ?_, ?_⟩
  · simp [groups]
  · simp [groups]
  · simp [group, groups, active, ready, held, Group.idle]
  · simp [tasks]
  · simp [tasks]

theorem accounted_new (config : PoolConfig) : Accounted (new config : Pool α) := accounted_none rfl rfl rfl

theorem counted_new (config : PoolConfig) : Counted (new config : Pool α) := rfl

theorem accounted_step {p : Pool α} (inv : Accounted p) (s : Step α) : Accounted (p.step s) := by
  cases s with
  | submit name limit work =>
    cases taken : p.submit name limit work with
    | error why => simpa [step, taken, Except.toOption] using inv
    | ok q =>
      simp only [step, taken, Except.toOption, Option.getD_some]
      rw [submit_ok taken]
      exact accounted_entered inv name limit work
  | pickUp =>
    cases picked : p.pickUp with
    | none => simpa [step, picked] using inv
    | some found =>
      obtain ⟨job, q⟩ := found
      obtain ⟨rest, line, rfl⟩ := pickUp_some picked
      simp only [step, picked, Option.map_some, Option.getD_some]
      refine accounted_of_perm inv rfl ?_ rfl
      simp only [active, line, ← List.append_assoc]
      exact List.perm_append_singleton job (rest ++ p.held)
  | complete ticket =>
    cases found : p.held.find? (fun j => j.ticket == ticket) with
    | none => simpa [step, complete, found] using inv
    | some job => exact accounted_complete inv found
  | stopAccepting => exact accounted_of_perm inv rfl (List.Perm.refl _) rfl
  | timeOut =>
    obtain ⟨_, _, is⟩ := p.timeOut_eq
    rw [step, is]
    exact accounted_of_perm inv rfl (List.Perm.refl _) rfl
  | conclude timeout =>
    cases late : p.timesOut (.conclude timeout) with
    | false =>
      rw [(step_conclude_of_drained late).2]
      exact accounted_of_perm inv rfl (List.Perm.refl _) rfl
    | true =>
      rw [step_conclude_of_timesOut late]
      exact accounted_none rfl rfl rfl

theorem counted_step {p : Pool α} (inv : Accounted p) (counted : Counted p) (s : Step α)
    (drained : p.timesOut s = false) : Counted (p.step s) := by
  cases s with
  | submit name limit work =>
    cases taken : p.submit name limit work with
    | error why => simpa [step, taken, Except.toOption] using counted
    | ok q =>
      simp only [step, taken, Except.toOption, Option.getD_some]
      rw [submit_ok taken]
      exact counted_entered inv counted name limit work
  | pickUp =>
    cases picked : p.pickUp with
    | none => simpa [step, picked] using counted
    | some found =>
      obtain ⟨job, q⟩ := found
      obtain ⟨rest, line, rfl⟩ := pickUp_some picked
      simp only [step, picked, Option.map_some, Option.getD_some]
      exact counted
  | complete ticket =>
    cases found : p.held.find? (fun j => j.ticket == ticket) with
    | none => simpa [step, complete, found] using counted
    | some job => exact counted_complete inv counted found
  | stopAccepting => exact counted
  | timeOut =>
    obtain ⟨_, _, is⟩ := p.timeOut_eq
    rw [step, is]
    exact counted
  | conclude timeout =>
    rw [(step_conclude_of_drained drained).2]
    exact counted

/-- A step moves tasks around, takes in those it accepts and lets go of those it completes. -/
theorem tasks_step {p : Pool α} (inv : Accounted p) (s : Step α) (drained : p.timesOut s = false) :
    ((p.step s).tasks ++ (p.completed? s).toList).Perm (p.tasks ++ ((p.accepted? s).map Prod.fst).toList) := by
  cases s with
  | submit name limit work =>
    cases taken : p.submit name limit work with
    | error why => simp [step, taken, Except.toOption, accepted?, completed?]
    | ok q =>
      have tasks := tasks_entered p name limit work
      simp only [step, taken, Except.toOption, Option.getD_some, accepted?, completed?, Option.map_some,
        Option.toList_some, Option.toList_none, List.append_nil]
      rw [submit_ok taken]
      exact tasks.trans (List.perm_append_singleton _ p.tasks).symm
  | pickUp =>
    cases picked : p.pickUp with
    | none => simp [step, picked, accepted?, completed?]
    | some found =>
      obtain ⟨job, q⟩ := found
      obtain ⟨rest, line, rfl⟩ := pickUp_some picked
      simp only [step, picked, Option.map_some, Option.getD_some, accepted?, completed?, Option.map_none,
        Option.toList_none, List.append_nil]
      show (p.queued ++ (rest ++ (p.held ++ [job]))).Perm (p.queued ++ (p.ready ++ p.held))
      rw [line, ← List.append_assoc rest]
      exact (List.perm_append_singleton job (rest ++ p.held)).append_left _
  | complete ticket =>
    cases found : p.held.find? (fun j => j.ticket == ticket) with
    | none => simp [step, complete, found, accepted?, completed?]
    | some job =>
      have tasks := tasks_complete inv found
      simp only [step, accepted?, completed?, found, Option.map_none, Option.toList_none, Option.toList_some,
        List.append_nil]
      exact (List.perm_append_singleton job _).trans tasks.symm
  | stopAccepting => simp [step, stopAccepting, accepted?, completed?, tasks, queued, active]
  | timeOut =>
    obtain ⟨_, _, is⟩ := p.timeOut_eq
    simp [step, is, accepted?, completed?, tasks, queued, active]
  | conclude timeout =>
    rw [(step_conclude_of_drained drained).2]
    simp [accepted?, completed?, tasks, queued, active]

/-- The tasks that workers hold are those picked up and not completed. -/
theorem held_step {p : Pool α} (inv : Accounted p) (s : Step α) (drained : p.timesOut s = false) :
    ((p.step s).held ++ (p.completed? s).toList).Perm (p.held ++ (p.pickedUp? s).toList) := by
  cases s with
  | submit name limit work =>
    cases taken : p.submit name limit work with
    | error why => simp [step, taken, Except.toOption, pickedUp?, completed?]
    | ok q =>
      simp only [step, taken, Except.toOption, Option.getD_some, pickedUp?, completed?, submit_ok taken]
      exact List.Perm.refl _
  | pickUp =>
    cases picked : p.pickUp with
    | none => simp [step, picked, pickedUp?, completed?]
    | some found =>
      obtain ⟨job, q⟩ := found
      obtain ⟨rest, line, rfl⟩ := pickUp_some picked
      simp [step, picked, pickedUp?, completed?]
  | complete ticket =>
    cases found : p.held.find? (fun j => j.ticket == ticket) with
    | none => simp [step, complete, found, pickedUp?, completed?]
    | some job =>
      have held := held_perm (held_distinct inv) found
      simp only [step, pickedUp?, completed?, found, held_complete found, Option.toList_none, Option.toList_some,
        List.append_nil]
      exact (List.perm_append_singleton job _).trans held.symm
  | stopAccepting => simp [step, stopAccepting, pickedUp?, completed?]
  | timeOut =>
    obtain ⟨_, _, is⟩ := p.timeOut_eq
    simp [step, is, pickedUp?, completed?]
  | conclude timeout =>
    rw [(step_conclude_of_drained drained).2]
    simp [pickedUp?, completed?]

theorem tickets_step (p : Pool α) (s : Step α) :
    ∃ k, (p.step s).nextTicket = p.nextTicket + k ∧
      ((p.accepted? s).toList.map Prod.fst).map Job.ticket = List.range' p.nextTicket k := by
  cases s with
  | submit name limit work =>
    cases taken : p.submit name limit work with
    | error why => exact ⟨0, by simp [step, taken, Except.toOption], by simp [accepted?, taken]⟩
    | ok q =>
      refine ⟨1, ?_, by simp [accepted?, taken]⟩
      simp [step, taken, Except.toOption, submit_ok taken, entered]
  | pickUp =>
    refine ⟨0, ?_, by simp [accepted?]⟩
    cases picked : p.pickUp with
    | none => simp [step, picked]
    | some found =>
      obtain ⟨job, q⟩ := found
      obtain ⟨rest, line, rfl⟩ := pickUp_some picked
      simp [step, picked]
  | complete ticket =>
    refine ⟨0, ?_, by simp [accepted?]⟩
    cases found : p.held.find? (fun j => j.ticket == ticket) with
    | none => simp [step, complete, found]
    | some job => simp [step, complete, found]
  | stopAccepting => exact ⟨0, by simp [step, stopAccepting], by simp [accepted?]⟩
  | timeOut =>
    obtain ⟨_, _, is⟩ := p.timeOut_eq
    exact ⟨0, by simp [step, is], by simp [accepted?]⟩
  | conclude timeout =>
    refine ⟨0, ?_, by simp [accepted?]⟩
    cases late : p.timesOut (.conclude timeout) with
    | false => rw [(step_conclude_of_drained late).2, Nat.add_zero]
    | true => rw [step_conclude_of_timesOut late, Nat.add_zero]

/-! ### Runs -/

theorem accounted_run {p : Pool α} (inv : Accounted p) (steps : List (Step α)) : Accounted (p.run steps) := by
  induction steps generalizing p with
  | nil => exact inv
  | cons s rest ih => exact ih (accounted_step inv s)

theorem counted_run {p : Pool α} (inv : Accounted p) (counted : Counted p) (steps : List (Step α))
    (drained : p.inTime steps = true) : Counted (p.run steps) := by
  induction steps generalizing p with
  | nil => exact counted
  | cons s rest ih =>
    obtain ⟨first, later⟩ : p.timesOut s = false ∧ (p.step s).inTime rest = true := by
      simpa [inTime] using drained
    exact ih (accounted_step inv s) (counted_step inv counted s first) later

/-- What notes before and after each step agree on, they agree on over a whole run. -/
private theorem noted_perm {β : Type} (holds : Pool α → List β) (out into : Pool α → Step α → Option β)
    (balanced : ∀ (p : Pool α) (s : Step α), Accounted p → p.timesOut s = false →
      (holds (p.step s) ++ (out p s).toList).Perm (holds p ++ (into p s).toList))
    {p : Pool α} (inv : Accounted p) (steps : List (Step α)) (drained : p.inTime steps = true) :
    (holds (p.run steps) ++ noted out p steps).Perm (holds p ++ noted into p steps) := by
  induction steps generalizing p with
  | nil => exact List.Perm.refl _
  | cons s rest ih =>
    obtain ⟨first, later⟩ : p.timesOut s = false ∧ (p.step s).inTime rest = true := by
      simpa [inTime] using drained
    have tail := ih (accounted_step inv s) later
    have head := balanced p s inv first
    show (holds ((p.step s).run rest) ++ ((out p s).toList ++ noted out (p.step s) rest)).Perm
      (holds p ++ ((into p s).toList ++ noted into (p.step s) rest))
    calc holds ((p.step s).run rest) ++ ((out p s).toList ++ noted out (p.step s) rest)
      _ |>.Perm (holds ((p.step s).run rest) ++ (noted out (p.step s) rest ++ (out p s).toList)) :=
        List.perm_append_comm.append_left _
      _ |>.Perm (holds (p.step s) ++ noted into (p.step s) rest ++ (out p s).toList) := by
        rw [← List.append_assoc]; exact tail.append_right _
      _ |>.Perm (holds (p.step s) ++ (out p s).toList ++ noted into (p.step s) rest) := by
        rw [List.append_assoc, List.append_assoc]; exact List.perm_append_comm.append_left _
      _ |>.Perm (holds p ++ ((into p s).toList ++ noted into (p.step s) rest)) := by
        rw [← List.append_assoc (holds p)]; exact head.append_right _

private theorem noted_map {β γ : Type} (note : Pool α → Step α → Option β) (f : β → γ) (p : Pool α)
    (steps : List (Step α)) :
    (noted note p steps).map f = noted (fun p s => (note p s).map f) p steps := by
  induction steps generalizing p with
  | nil => rfl
  | cons s rest ih =>
    simp only [noted, List.map_append, ih]
    cases note p s <;> rfl

theorem tasks_run {p : Pool α} (inv : Accounted p) (steps : List (Step α)) (drained : p.inTime steps = true) :
    ((p.run steps).tasks ++ p.completed steps).Perm (p.tasks ++ p.accepted steps) := by
  have balance := noted_perm tasks completed? (fun p s => (p.accepted? s).map Prod.fst)
    (fun _ s inv first => tasks_step inv s first) inv steps drained
  rw [← noted_map] at balance
  exact balance

theorem held_run {p : Pool α} (inv : Accounted p) (steps : List (Step α)) (drained : p.inTime steps = true) :
    ((p.run steps).held ++ p.completed steps).Perm (p.held ++ p.pickedUp steps) :=
  noted_perm held completed? pickedUp? (fun _ s inv first => held_step inv s first) inv steps drained

/-- Accepted tasks are numbered as they come. -/
theorem tickets_accepted (p : Pool α) (steps : List (Step α)) :
    ∃ k, (p.run steps).nextTicket = p.nextTicket + k ∧
      (p.accepted steps).map Job.ticket = List.range' p.nextTicket k := by
  induction steps generalizing p with
  | nil => exact ⟨0, rfl, rfl⟩
  | cons s rest ih =>
    obtain ⟨first, here, head⟩ := tickets_step p s
    obtain ⟨later, after, tail⟩ := ih (p.step s)
    refine ⟨first + later, ?_, ?_⟩
    · show ((p.step s).run rest).nextTicket = _
      rw [after, here, Nat.add_assoc]
    · rw [accepted] at tail
      simp only [accepted, noted, List.map_append, head, tail, here]
      rw [List.range'_append_1]

/-- In every run in which no shutdown times out, each accepted task is in one place: in the queue of
its group, in the line, held by a worker, or completed. No task is picked up twice. The pool counts
what its groups run and keep waiting, a group counts its tasks in the line or with workers, and it is
in the table exactly if it has tasks; so a completion always finds its group, with a task to take off. -/
theorem accepted_tasks_in_one_place (config : PoolConfig) (steps : List (Step α))
    (drained : (new config : Pool α).inTime steps = true) :
    let p := (new config).run steps
    let accepted := (new config).accepted steps
    let pickedUp := (new config).pickedUp steps
    let completed := (new config).completed steps
    accepted.Perm (p.queued ++ p.ready ++ p.held ++ completed) ∧
      (accepted.map Job.ticket).Nodup ∧ (pickedUp.map Job.ticket).Nodup ∧
      (∀ name g, p.groups.get? name = some g → ∀ job ∈ g.queue, job.group = name) ∧
      p.outstanding = p.groups.total (fun g => g.running + g.queue.length) ∧
      (∀ name, (p.group name).running = (ofGroup name (p.ready ++ p.held)).length) ∧
      (∀ name, p.groups.contains name = true ↔ 0 < (p.group name).running + (p.group name).queue.length) ∧
      (∀ job ∈ p.held, ∃ g, p.groups.get? job.group = some g ∧ 0 < g.running) := by
  have inv := accounted_run (accounted_new config) steps
  have tasks := tasks_run (accounted_new config) steps drained
  have held := held_run (accounted_new config) steps drained
  obtain ⟨k, _, tickets⟩ := tickets_accepted (new config) steps
  have numbered : (((new config).accepted steps).map Job.ticket).Nodup := by
    rw [tickets]
    exact List.nodup_range'
  have placed : ((new config).accepted steps).Perm
      (((new config).run steps).tasks ++ (new config).completed steps) := by
    simpa [Pool.tasks, queued, active, new, Table.empty] using tasks.symm
  have picked : ((new config).pickedUp steps).Perm
      (((new config).run steps).held ++ (new config).completed steps) := by
    simpa [new] using held.symm
  refine ⟨?_, numbered, ?_, inv.filed, counted_run (accounted_new config) (counted_new config) steps drained,
    inv.running, ?_, ?_⟩
  · simpa [Pool.tasks, active, List.append_assoc] using placed
  · have all := (placed.map Job.ticket).nodup_iff.mp numbered
    refine (picked.map Job.ticket).nodup_iff.mpr (all.sublist (List.Sublist.map _ ?_))
    refine List.Sublist.append_right ?_ _
    exact (List.sublist_append_right _ _).trans (List.sublist_append_right _ _)
  · intro name
    rw [Table.contains_eq_true_iff]
    constructor
    · rintro ⟨g, found⟩
      rw [group_of_get? found]
      exact inv.loaded name g found
    · intro busy
      cases found : ((new config).run steps).groups.get? name with
      | none =>
        rw [group_of_get?_none found] at busy
        simp [Group.idle] at busy
      | some g => exact ⟨g, rfl⟩
  · intro job member
    exact group_of_active inv (List.mem_append_right _ member)

/-- Two tasks of one group that may run one at a time, then a shutdown that finds the pool drained. -/
theorem accepted_tasks_in_one_place_drained :
    let steps : List (Step Unit) := [.submit "mail" 1 (), .submit "mail" 1 (), .pickUp, .complete 0,
      .pickUp, .stopAccepting, .complete 1, .conclude .zero]
    let p := (new ⟨2, 5⟩ : Pool Unit).run steps
    (new ⟨2, 5⟩ : Pool Unit).inTime steps = true ∧
      ((new ⟨2, 5⟩).accepted steps).Perm (p.queued ++ p.ready ++ p.held ++ (new ⟨2, 5⟩).completed steps) := by
  refine ⟨by decide, (accepted_tasks_in_one_place ⟨2, 5⟩ _ (by decide)).1⟩

end Pool
end Courier
