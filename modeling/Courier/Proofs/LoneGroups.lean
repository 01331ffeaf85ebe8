import Mathlib.Data.List.Basic
import Mathlib.Data.List.Nodup
import Courier.Proofs.OpenPools

/-!
A group by itself. Some steps of a run are about one group: its tasks are submitted, picked up or completed in them.
If no submission is refused, these steps alone make a run in which the same becomes of the group; its tasks only
have other tickets, since nobody else takes any. So it does not matter to a group what other groups there are.
-/
namespace Courier
variable {α : Type}

/-- A task with the ticket that its own stands for. -/
def Job.renumbered (number : Nat → Nat) (job : Job α) : Job α := { job with ticket := number job.ticket }

namespace Group
variable (number : Nat → Nat) (g : Group α)

def renumbered : Group α := { g with queue := g.queue.map (Job.renumbered number) }

theorem passing_renumbered : (g.renumbered number).passing = g.passing.map (Job.renumbered number) := by
  simp [passing, renumbered, List.map_take]

theorem promoted_renumbered : (g.renumbered number).promoted = g.promoted.renumbered number := by
  have same := congrArg List.length (g.passing_renumbered number)
  rw [List.length_map] at same
  simp only [promoted, same]
  simp [renumbered, List.map_drop]

theorem isIdle_renumbered : (g.renumbered number).isIdle = g.isIdle := by
  show (decide (g.running = 0) && (g.queue.map (Job.renumbered number)).isEmpty) = _
  rw [List.isEmpty_map]
  rfl

theorem load_renumbered : (g.renumbered number).load = g.load := by
  simp [load, renumbered]

theorem relieved_renumbered : (g.renumbered number).relieved = g.relieved.renumbered number := rfl

theorem joined_renumbered (limit : Nat) (job : Job α) :
    (g.renumbered number).joined limit (job.renumbered number) = (g.joined limit job).renumbered number := by
  simp [joined, renumbered]

end Group

namespace Pool

def Step.renumbered (number : Nat → Nat) : Step α → Step α
  | .complete ticket => .complete (number ticket)
  | s => s

/-- The group that a step is about: that of the task which is submitted, picked up or completed. -/
def concerned? (p : Pool α) : Step α → Option String
  | .submit name _ _ => some name
  | .pickUp => (p.pickedUp? .pickUp).map Job.group
  | .complete ticket => (p.completed? (.complete ticket)).map Job.group
  | _ => none

/-- A step, if it is about a group. -/
def own? (name : String) (p : Pool α) (s : Step α) : Option (Step α) :=
  if p.concerned? s = some name then some s else none

/-- Something that is to be seen of a group: a step that is about it, or that a task of it comes through to the
line for a worker. -/
inductive Sight (α : Type)
  | step (s : Step α)
  | through (job : Job α)

def Sight.renumbered (number : Nat → Nat) : Sight α → Sight α
  | .step s => .step (s.renumbered number)
  | .through job => .through (job.renumbered number)

/-- What is to be seen of a group in a step. -/
def sights (p : Pool α) (name : String) (s : Step α) : List (Sight α) :=
  (own? name p s).toList.map .step ++ (ofGroup name ((p.passages s).map Prod.fst)).map .through

/-- What is to be seen of a group in a run, in order. -/
def course (name : String) : Pool α → List (Step α) → List (Sight α)
  | _, [] => []
  | p, s :: rest => p.sights name s ++ course name (p.step s) rest

/-- Whether a step submits a task that is accepted, or is one of a worker. -/
def goesWell (p : Pool α) : Step α → Bool
  | .submit name limit work => (p.accepted? (.submit name limit work)).isSome
  | .pickUp | .complete _ => true
  | _ => false

/-- Whether a run consists of submissions, none of which is refused, and of what workers do. -/
def smooth : Pool α → List (Step α) → Bool
  | _, [] => true
  | p, s :: rest => p.goesWell s && smooth (p.step s) rest

/-- How many tasks of a group were accepted in a run before the one with a ticket. -/
def numberIn (name : String) (p : Pool α) (steps : List (Step α)) (ticket : Nat) : Nat :=
  ((ofGroup name (p.accepted steps)).map Job.ticket).idxOf ticket

/-! ### Completions -/

section Complete
variable {p : Pool α} {ticket : Nat} {job : Job α} {g : Group α}
variable (found : p.held.find? (fun j => j.ticket == ticket) = some job) (known : p.groups.get? job.group = some g)
include found known

theorem get?_complete (name : String) :
    (p.complete ticket).groups.get? name =
      if job.group = name then (if g.relieved.promoted.isIdle then none else some g.relieved.promoted)
      else p.groups.get? name := by
  by_cases idle : g.relieved.promoted.isIdle
  · simp [complete, found, released, known, idle, Table.get?_erase]
  · simp [complete, found, released, known, idle, Table.get?_insert]

theorem ready_complete : (p.complete ticket).ready = p.ready ++ g.relieved.passing := by
  by_cases idle : g.relieved.promoted.isIdle
  · simp [complete, found, released, known, idle]
  · simp [complete, found, released, known, idle]

theorem passages_complete : (p.passages (.complete ticket)).map Prod.fst = g.relieved.passing := by
  simp [passages, promoting?, completed?, found, known, Group.passages_fst]

end Complete

theorem passages_submit {p : Pool α} {name : String} {limit : Nat} {work : α} {a : Job α × Nat}
    (taken : p.accepted? (.submit name limit work) = some a) :
    (p.passages (.submit name limit work)).map Prod.fst = ((p.group name).joined limit a.1).passing := by
  simp [passages, promoting?, taken, Group.passages_fst]

/-! ### A group and its copy -/

/-- A pool in which a group is as in another pool, with tickets of its own, and alone. -/
structure Lone (name : String) (number : Nat → Nat) (p q : Pool α) : Prop where
  open_ : p.Open
  alone : q.Open
  config : q.config = p.config
  group : q.groups.get? name = (p.groups.get? name).map (Group.renumbered number)
  others : ∀ other, other ≠ name → q.groups.get? other = none
  ready : q.ready = (ofGroup name p.ready).map (Job.renumbered number)
  held : q.held = (ofGroup name p.held).map (Job.renumbered number)

section Lone
variable {name : String} {number : Nat → Nat} {p q : Pool α}

theorem lone_new (name : String) (number : Nat → Nat) (config : PoolConfig) :
    Lone name number (new config : Pool α) (new config) where
  open_ := open_new config
  alone := open_new config
  config := rfl
  group := rfl
  others _ _ := rfl
  ready := rfl
  held := rfl

variable (lone : Lone name number p q)
include lone

theorem Lone.group_eq : q.group name = (p.group name).renumbered number := by
  unfold Pool.group
  rw [lone.group]
  cases p.groups.get? name with
  | none => rfl
  | some g => rfl

/-- The pool of the group alone has no more tasks. -/
theorem Lone.outstanding_le : q.outstanding ≤ p.outstanding := by
  have counted : p.outstanding = p.groups.total Group.load := lone.open_.counted
  have counted' : q.outstanding = q.groups.total Group.load := lone.alone.counted
  have whole := p.groups.total_eq name Group.load
  have whole' := q.groups.total_eq name Group.load
  have none : (q.groups.erase name).entries = [] := by
    apply List.eq_nil_iff_forall_not_mem.mpr
    intro entry member
    have found : (q.groups.erase name).get? entry.1 = some entry.2 := Table.get?_eq_some_iff.mpr member
    rw [Table.get?_erase] at found
    by_cases same : name = entry.1
    · simp [same] at found
    · simp [same, lone.others entry.1 (Ne.symm same)] at found
  have rest : (q.groups.erase name).total Group.load = 0 := by simp [Table.total, none]
  have load : ((q.groups.get? name).map Group.load).getD 0 = ((p.groups.get? name).map Group.load).getD 0 := by
    rw [lone.group]
    cases p.groups.get? name with
    | none => rfl
    | some g => exact Group.load_renumbered number g
  omega

theorem Lone.length_held_le : q.held.length ≤ p.held.length := by
  rw [lone.held, List.length_map]
  exact List.length_filter_le ..

/-- The pools keep to each other in a step of which the second one has no part. -/
theorem Lone.rests (s : Step α) (inTime : p.timesOut s = false) (accepting : (p.step s).accepting = true)
    (staffed : (p.step s).staffed = true) (config : (p.step s).config = p.config)
    (group : (p.step s).groups.get? name = p.groups.get? name)
    (ready : ofGroup name (p.step s).ready = ofGroup name p.ready)
    (held : ofGroup name (p.step s).held = ofGroup name p.held) : Lone name number (p.step s) q where
  open_ := lone.open_.step s inTime accepting staffed
  alone := lone.alone
  config := lone.config.trans config.symm
  group := by rw [group]; exact lone.group
  others := lone.others
  ready := by rw [ready]; exact lone.ready
  held := by rw [held]; exact lone.held

/-- A step that is not about the group does nothing to it. -/
theorem Lone.other {s : Step α} (well : p.goesWell s = true) (other : p.concerned? s ≠ some name) :
    Lone name number (p.step s) q ∧ ofGroup name ((p.passages s).map Prod.fst) = [] := by
  have inv := lone.open_.accounted
  cases s with
  | submit name' limit work =>
    have apart : name' ≠ name := fun same => other (by rw [same]; rfl)
    rcases accepted?_submit p name' limit work with ⟨refused, _⟩ | ⟨taken, after⟩
    · simp [goesWell, refused] at well
    · have passing := ofGroup_eq_nil (fun job member => filed_joined inv name' limit work job (Group.mem_passing member)) apart
      constructor
      · apply lone.rests (.submit name' limit work) rfl
        · rw [after]; exact lone.open_.accepting
        · rw [after]; exact lone.open_.staffed
        · rw [after]; rfl
        · simp [after, entered, Table.get?_insert, apart]
        · simp [after, entered, passing]
        · rw [after]; rfl
      · rw [passages_submit taken]
        exact passing
  | pickUp =>
    cases picked : p.pickUp with
    | none =>
      have same : p.step .pickUp = p := by simp [step, picked]
      rw [same]
      exact ⟨lone, rfl⟩
    | some found =>
      obtain ⟨job, after⟩ := found
      obtain ⟨rest, line, rfl⟩ := pickUp_some picked
      have apart : job.group ≠ name := by
        intro same
        apply other
        simp [concerned?, pickedUp?, picked, same]
      refine ⟨lone.rests .pickUp rfl ?_ ?_ ?_ ?_ ?_ ?_, rfl⟩
      · simpa [step, picked] using lone.open_.accepting
      · simpa [step, picked] using lone.open_.staffed
      · simp [step, picked]
      · simp [step, picked]
      · simp [step, picked, line, ofGroup_cons, apart]
      · simp [step, picked, ofGroup_cons, apart]
  | complete ticket =>
    cases found : p.held.find? (fun j => j.ticket == ticket) with
    | none =>
      have same : p.step (.complete ticket) = p := by simp [step, complete, found]
      rw [same]
      exact ⟨lone, by simp [passages, promoting?, completed?, found]⟩
    | some job =>
      have apart : job.group ≠ name := by
        intro same
        apply other
        simp [concerned?, completed?, found, same]
      obtain ⟨g, known, _⟩ := group_of_active inv (List.mem_append_right _ (List.mem_of_find?_eq_some found))
      have filed := inv.filed job.group g known
      have passing : ofGroup name g.relieved.passing = [] :=
        ofGroup_eq_nil (fun j member => filed j (Group.mem_passing (g := g.relieved) member)) apart
      obtain ⟨config, accepting, staffed⟩ := p.fields_complete ticket
      refine ⟨lone.rests (.complete ticket) rfl ?_ ?_ config ?_ ?_ ?_, by rw [passages_complete found known, passing]⟩
      · exact accepting.trans lone.open_.accepting
      · exact staffed.trans lone.open_.staffed
      · simp [step, get?_complete found known, apart]
      · simp [step, ready_complete found known, passing]
      · have split := held_perm (held_distinct inv) found
        simp only [step, held_complete found, ofGroup, List.filter_filter]
        apply List.filter_congr
        intro j member
        rcases List.mem_cons.mp (split.mem_iff.mp member) with rfl | stays
        · simp [apart]
        · simp [(List.mem_filter.mp stays).2]
  | stopAccepting => simp [goesWell] at well
  | timeOut => simp [goesWell] at well
  | conclude timeout => simp [goesWell] at well

/-- What the second pool does in a step that is about the group: the same, with tickets of its own. -/
structure Follows (name : String) (number : Nat → Nat) (p q : Pool α) (s : Step α) : Prop where
  lone : Lone name number (p.step s) (q.step (s.renumbered number))
  goesWell : q.goesWell (s.renumbered number) = true
  own : q.concerned? (s.renumbered number) = some name
  through : (q.passages (s.renumbered number)).map Prod.fst =
    (ofGroup name ((p.passages s).map Prod.fst)).map (Job.renumbered number)
  tickets : (q.step (s.renumbered number)).nextTicket = q.nextTicket + ((p.accepted? s).map Prod.fst).toList.length

theorem Lone.submits {limit : Nat} {work : α} (well : p.goesWell (.submit name limit work) = true)
    (next : number p.nextTicket = q.nextTicket) : Follows name number p q (.submit name limit work) := by
  have inv := lone.open_.accounted
  rcases accepted?_submit p name limit work with ⟨refused, _⟩ | ⟨taken, after⟩
  · simp [Pool.goesWell, refused] at well
  · have room : q.outstanding < q.config.capacity := by
      have fits : p.outstanding < p.config.capacity := by
        have offered := submit_eq p name limit work
        by_cases room : p.outstanding < p.config.capacity
        · exact room
        · simp [accepted?, offered, lone.open_.accepting, room] at taken
      have fewer := lone.outstanding_le
      rw [lone.config]
      omega
    have taken' : q.submit name limit work = .ok (q.entered name limit work) := by
      rw [submit_eq, if_pos ⟨lone.alone.accepting, room⟩]
    have accepted' : q.accepted? (.submit name limit work) = some (⟨q.nextTicket, name, work⟩, limit) := by
      simp [accepted?, taken']
    have after' : q.step (.submit name limit work) = q.entered name limit work := by
      simp [step, taken', Except.toOption]
    have joined : (q.group name).joined limit ⟨q.nextTicket, name, work⟩ =
        ((p.group name).joined limit ⟨p.nextTicket, name, work⟩).renumbered number := by
      rw [lone.group_eq, ← Group.joined_renumbered, Job.renumbered, next]
    have filed := filed_joined inv name limit work
    have passing := ofGroup_eq_self (fun job member => filed job (Group.mem_passing member))
    constructor
    · refine ⟨lone.open_.step _ rfl ?_ ?_, lone.alone.step _ rfl ?_ ?_, ?_, ?_, ?_, ?_, ?_⟩
      · rw [after]; exact lone.open_.accepting
      · rw [after]; exact lone.open_.staffed
      · simp only [Step.renumbered, after']; exact lone.alone.accepting
      · simp only [Step.renumbered, after']; exact lone.alone.staffed
      · simp only [Step.renumbered, after, after', entered, lone.config]
      · simp only [Step.renumbered, after, after', entered, joined, Table.get?_insert, if_true, Option.map_some,
          Group.promoted_renumbered]
      · intro other apart
        simp only [Step.renumbered, after', entered, Table.get?_insert, Ne.symm apart, if_false]
        exact lone.others other apart
      · simp only [Step.renumbered, after, after', entered, joined, ofGroup_append, passing, List.map_append,
          Group.passing_renumbered, lone.ready]
      · simp only [Step.renumbered, after, after', entered]
        exact lone.held
    · simp [Step.renumbered, Pool.goesWell, accepted']
    · rfl
    · simp only [Step.renumbered]
      rw [passages_submit accepted', passages_submit taken, passing, joined, Group.passing_renumbered]
    · simp [Step.renumbered, after', entered, taken]

theorem Lone.picksUp (own : p.concerned? .pickUp = some name) : Follows name number p q .pickUp := by
  cases picked : p.pickUp with
  | none => simp [concerned?, pickedUp?, picked] at own
  | some found =>
    obtain ⟨job, after⟩ := found
    obtain ⟨rest, line, rfl⟩ := pickUp_some picked
    have mine : job.group = name := by simpa [concerned?, pickedUp?, picked] using own
    have line' : q.ready = job.renumbered number :: (ofGroup name rest).map (Job.renumbered number) := by
      rw [lone.ready, line, ofGroup_cons, if_pos mine, List.map_cons]
    have free : p.held.length < p.config.workerCount := by
      unfold Pool.pickUp at picked
      simp only [line] at picked
      by_cases room : p.staffed = true ∧ p.held.length < p.config.workerCount
      · exact room.2
      · simp [room] at picked
    have free' : q.held.length < q.config.workerCount := by
      have fewer := lone.length_held_le
      rw [lone.config]
      omega
    have picked' : q.pickUp = some (job.renumbered number,
        { q with
          ready := (ofGroup name rest).map (Job.renumbered number)
          held := q.held ++ [job.renumbered number] }) := by
      simp only [Pool.pickUp, line', lone.alone.staffed, free', and_self, if_true]
    constructor
    · refine ⟨lone.open_.step _ rfl ?_ ?_, lone.alone.step _ rfl ?_ ?_, ?_, ?_, ?_, ?_, ?_⟩
      · simpa [step, picked] using lone.open_.accepting
      · simpa [step, picked] using lone.open_.staffed
      · simpa [Step.renumbered, step, picked'] using lone.alone.accepting
      · simpa [Step.renumbered, step, picked'] using lone.alone.staffed
      · simpa [Step.renumbered, step, picked, picked'] using lone.config
      · simpa [Step.renumbered, step, picked, picked'] using lone.group
      · simpa [Step.renumbered, step, picked'] using lone.others
      · simp [Step.renumbered, step, picked, picked']
      · simp [Step.renumbered, step, picked, picked', lone.held, ofGroup_cons, mine]
    · rfl
    · simp [Step.renumbered, concerned?, pickedUp?, picked', Job.renumbered, mine]
    · rfl
    · simp [Step.renumbered, step, picked', accepted?]

/-- When a worker is done with a task of the group, both pools keep the others. -/
private theorem Lone.held_without {job : Job α} {ticket : Nat} (inside : job ∈ p.held) (mine : job.group = name)
    (hit : job.ticket = ticket) :
    q.held.filter (fun j => j.ticket != number ticket) =
      (ofGroup name (p.held.filter (fun j => j.ticket != ticket))).map (Job.renumbered number) := by
  have distinct : ((ofGroup name p.held).map (fun j => number j.ticket)).Nodup := by
    have tickets := held_distinct lone.alone.accounted
    rw [lone.held, List.map_map] at tickets
    exact tickets
  have member : job ∈ ofGroup name p.held := mem_ofGroup.mpr ⟨inside, mine⟩
  have others : (ofGroup name p.held).filter (fun j => number j.ticket != number ticket) =
      (ofGroup name p.held).filter (fun j => j.ticket != ticket) := by
    apply List.filter_congr
    intro j other
    by_cases same : j.ticket = ticket
    · rw [same, bne_self_eq_false, bne_self_eq_false]
    · have apart : number j.ticket ≠ number ticket := by
        intro equal
        have is := List.inj_on_of_nodup_map distinct other member (equal.trans (congrArg number hit.symm))
        exact same (by rw [is, hit])
      rw [bne_iff_ne.mpr apart, bne_iff_ne.mpr same]
  have turn : (ofGroup name p.held).filter (fun j => j.ticket != ticket) =
      ofGroup name (p.held.filter (fun j => j.ticket != ticket)) := List.filter_comm ..
  rw [lone.held, List.filter_map, ← turn, ← others]
  rfl

theorem Lone.completes {ticket : Nat} (own : p.concerned? (.complete ticket) = some name) :
    Follows name number p q (.complete ticket) := by
  have inv := lone.open_.accounted
  have inv' := lone.alone.accounted
  cases found : p.held.find? (fun j => j.ticket == ticket) with
  | none => simp [concerned?, completed?, found] at own
  | some job =>
    have mine : job.group = name := by simpa [concerned?, completed?, found] using own
    have hit : job.ticket = ticket := by simpa using List.find?_some found
    have inside := List.mem_of_find?_eq_some found
    obtain ⟨g, known, _⟩ := group_of_active inv (List.mem_append_right _ inside)
    have inside' : job.renumbered number ∈ q.held := by
      rw [lone.held]
      exact List.mem_map_of_mem (mem_ofGroup.mpr ⟨inside, mine⟩)
    have found' : q.held.find? (fun j => j.ticket == number ticket) = some (job.renumbered number) := by
      rw [← hit]
      exact find?_held inv' inside'
    have known' : q.groups.get? (job.renumbered number).group = some (g.renumbered number) := by
      show q.groups.get? job.group = _
      rw [mine, lone.group, ← mine, known]
      rfl
    have passing : ofGroup name g.relieved.passing = g.relieved.passing := by
      apply ofGroup_eq_self
      intro j member
      rw [← mine]
      exact inv.filed job.group g known j (Group.mem_passing (g := g.relieved) member)
    obtain ⟨config, accepting, staffed⟩ := p.fields_complete ticket
    obtain ⟨config', accepting', staffed'⟩ := q.fields_complete (number ticket)
    constructor
    · refine ⟨lone.open_.step _ rfl ?_ ?_, lone.alone.step _ rfl ?_ ?_, ?_, ?_, ?_, ?_, ?_⟩
      · exact accepting.trans lone.open_.accepting
      · exact staffed.trans lone.open_.staffed
      · exact accepting'.trans lone.alone.accepting
      · exact staffed'.trans lone.alone.staffed
      · exact config'.trans (lone.config.trans config.symm)
      · simp only [Step.renumbered, step, get?_complete found known, get?_complete found' known',
          Group.relieved_renumbered, Group.promoted_renumbered, Group.isIdle_renumbered]
        rw [if_pos mine, if_pos (show (job.renumbered number).group = name from mine)]
        by_cases idle : g.relieved.promoted.isIdle
        · simp [idle]
        · simp [idle]
      · intro other apart
        simp only [Step.renumbered, step, get?_complete found' known']
        rw [if_neg (fun same => apart (same.symm.trans mine))]
        exact lone.others other apart
      · simp only [Step.renumbered, step, ready_complete found known, ready_complete found' known', ofGroup_append,
          passing, List.map_append, Group.relieved_renumbered, Group.passing_renumbered, lone.ready]
      · simp only [Step.renumbered, step, held_complete found, held_complete found']
        exact lone.held_without inside mine hit
    · rfl
    · simp [Step.renumbered, concerned?, completed?, found', Job.renumbered, mine]
    · simp only [Step.renumbered]
      rw [passages_complete found known, passages_complete found' known', passing, Group.relieved_renumbered,
        Group.passing_renumbered]
    · simp [Step.renumbered, step, complete, found', accepted?]

omit lone in
/-- What is to be seen of the group in its step is the same in both pools. -/
theorem Follows.sights {s : Step α} (follows : Follows name number p q s) (own : p.concerned? s = some name) :
    q.sights name (s.renumbered number) = (p.sights name s).map (Sight.renumbered number) := by
  have through : ofGroup name ((q.passages (s.renumbered number)).map Prod.fst) =
      (ofGroup name ((p.passages s).map Prod.fst)).map (Job.renumbered number) := by
    rw [follows.through]
    apply ofGroup_eq_self
    intro job member
    obtain ⟨job', inside, rfl⟩ := List.mem_map.mp member
    exact (mem_ofGroup.mp inside).2
  have mine : own? name p s = some s := if_pos own
  have mine' : own? name q (s.renumbered number) = some (s.renumbered number) := if_pos follows.own
  simp [Pool.sights, through, mine, mine', Sight.renumbered, Function.comp_def]

end Lone

/-! ### Runs -/

/-- The steps of a run that are about a group, with tickets of their own. -/
def ownSteps (p : Pool α) (name : String) (number : Nat → Nat) (steps : List (Step α)) : List (Step α) :=
  (noted (own? name) p steps).map (Step.renumbered number)

theorem accepted_cons (p : Pool α) (s : Step α) (rest : List (Step α)) :
    p.accepted (s :: rest) = ((p.accepted? s).map Prod.fst).toList ++ (p.step s).accepted rest := by
  simp only [accepted, noted, List.map_append]
  cases p.accepted? s with
  | none => rfl
  | some a => rfl

/-- A task that a step accepts belongs to the group that the step is about. -/
private theorem ofGroup_accepted? (name : String) (p : Pool α) (s : Step α) :
    ofGroup name ((p.accepted? s).map Prod.fst).toList =
      if p.concerned? s = some name then ((p.accepted? s).map Prod.fst).toList else [] := by
  cases s with
  | submit other limit work =>
    rcases accepted?_submit p other limit work with ⟨refused, _⟩ | ⟨taken, _⟩
    · simp [refused]
    · by_cases same : other = name
      · subst same
        simp [taken, concerned?, ofGroup]
      · simp [taken, concerned?, ofGroup, same]
  | pickUp => simp [accepted?]
  | complete ticket => simp [accepted?]
  | stopAccepting => simp [accepted?]
  | timeOut => simp [accepted?]
  | conclude timeout => simp [accepted?]

/-- If the tickets stand for the tasks of the group in the order in which they come, the group alone goes the
same course. -/
theorem Lone.run {name : String} {number : Nat → Nat} {p q : Pool α} (lone : Lone name number p q) {n : Nat}
    {steps : List (Step α)} (smooth : p.smooth steps = true)
    (numbered : (ofGroup name (p.accepted steps)).map (fun job => number job.ticket) = List.range' q.nextTicket n) :
    Lone name number (p.run steps) (q.run (p.ownSteps name number steps)) ∧
      q.smooth (p.ownSteps name number steps) = true ∧
      course name q (p.ownSteps name number steps) = (course name p steps).map (Sight.renumbered number) := by
  induction steps generalizing p q n with
  | nil => exact ⟨lone, rfl, rfl⟩
  | cons s rest ih =>
    obtain ⟨well, later⟩ : p.goesWell s = true ∧ (p.step s).smooth rest = true := by simpa [Pool.smooth] using smooth
    rw [accepted_cons, ofGroup_append, ofGroup_accepted?] at numbered
    by_cases own : p.concerned? s = some name
    · have mine : own? name p s = some s := if_pos own
      have steps' : p.ownSteps name number (s :: rest) = s.renumbered number :: (p.step s).ownSteps name number rest := by
        simp [ownSteps, noted, mine]
      rw [if_pos own] at numbered
      have follows : Follows name number p q s := by
        cases s with
        | submit name' limit work =>
          obtain rfl : name' = name := by simpa [concerned?] using own
          apply lone.submits well
          rcases accepted?_submit p name' limit work with ⟨refused, _⟩ | ⟨taken, _⟩
          · simp [goesWell, refused] at well
          · cases n with
            | zero => simp [taken] at numbered
            | succ n =>
              simp only [taken, Option.map_some, Option.toList_some, List.singleton_append, List.map_cons,
                List.range'_succ, List.cons.injEq] at numbered
              exact numbered.1
        | pickUp => exact lone.picksUp own
        | complete ticket => exact lone.completes own
        | stopAccepting => simp [goesWell] at well
        | timeOut => simp [goesWell] at well
        | conclude timeout => simp [goesWell] at well
      have rest' : ∃ n', (ofGroup name ((p.step s).accepted rest)).map (fun job => number job.ticket) =
          List.range' (q.step (s.renumbered number)).nextTicket n' := by
        rw [follows.tickets]
        cases taken : p.accepted? s with
        | none => exact ⟨n, by simpa [taken] using numbered⟩
        | some a =>
          cases n with
          | zero => simp [taken] at numbered
          | succ n =>
            simp only [taken, Option.map_some, Option.toList_some, List.singleton_append, List.map_cons,
              List.range'_succ, List.cons.injEq] at numbered
            exact ⟨n, numbered.2⟩
      obtain ⟨n', rest'⟩ := rest'
      obtain ⟨end_, smooth', course'⟩ := ih follows.lone later rest'
      rw [steps']
      refine ⟨end_, ?_, ?_⟩
      · simp [Pool.smooth, follows.goesWell, smooth']
      · simp only [course, List.map_append]
        rw [follows.sights own, course']
    · have none : own? name p s = none := if_neg own
      have steps' : p.ownSteps name number (s :: rest) = (p.step s).ownSteps name number rest := by
        simp [ownSteps, noted, none]
      rw [if_neg own] at numbered
      obtain ⟨still, quiet⟩ := lone.other well own
      obtain ⟨end_, smooth', course'⟩ := ih still later numbered
      rw [steps']
      refine ⟨end_, smooth', ?_⟩
      simp only [course, sights, none, quiet]
      exact course'

/-- The tasks of a group are numbered as they come. -/
theorem numberIn_accepted (config : PoolConfig) (steps : List (Step α)) (name : String) :
    (ofGroup name ((new config).accepted steps)).map (fun job => (new config).numberIn name steps job.ticket) =
      List.range (ofGroup name ((new config).accepted steps)).length := by
  obtain ⟨k, _, tickets⟩ := tickets_accepted (new config) steps
  have distinct : ((ofGroup name ((new config).accepted steps)).map Job.ticket).Nodup := by
    have all : (((new config).accepted steps).map Job.ticket).Nodup := by
      rw [tickets]
      exact List.nodup_range'
    exact all.sublist (List.filter_sublist.map _)
  apply List.ext_getElem
  · simp
  · intro i low high
    rw [List.getElem_map, List.getElem_range, numberIn, ← List.getElem_map Job.ticket]
    exact distinct.idxOf_getElem i (by simpa using low)

/-- In a run of workers and of submissions, none of which is refused, it does not matter to a group what becomes of
the others. The steps that are about it make a run by themselves, in which no submission is refused either; the
group's tasks, numbered as they come, have their numbers as tickets. After that run the group is in the table just if
it was, with as many tasks running, the same ones waiting in the same order, and the same limit; and in its course
the same tasks have come through at the same steps of the group. -/
theorem groups_do_not_interfere (config : PoolConfig) {steps : List (Step α)} (name : String)
    (smooth : (new config : Pool α).smooth steps = true) :
    let p : Pool α := new config
    let number := p.numberIn name steps
    let own := p.ownSteps name number steps
    (ofGroup name (p.accepted steps)).map (fun job => number job.ticket) =
        List.range (ofGroup name (p.accepted steps)).length ∧
      p.smooth own = true ∧
      (p.run own).groups.get? name = ((p.run steps).groups.get? name).map (Group.renumbered number) ∧
      course name p own = (course name p steps).map (Sight.renumbered number) := by
  intro p number own
  have numbered := numberIn_accepted config steps name
  have begin_ := numbered
  rw [List.range_eq_range'] at begin_
  obtain ⟨lone, smooth', course'⟩ := (lone_new name number config).run smooth begin_
  exact ⟨numbered, smooth', lone.group, course'⟩

/-- A group whose only task is never done, and another one that goes on beside it. -/
private def crowd : List (Step Unit) :=
  [.submit "slow" 1 (), .pickUp, .submit "mail" 1 (), .submit "slow" 1 (), .submit "mail" 1 (), .pickUp, .complete 1,
    .submit "slow" 1 (), .submit "mail" 2 ()]

theorem groups_do_not_interfere_crowd :
    let p : Pool Unit := new ⟨2, 9⟩
    let own : List (Step Unit) :=
      [.submit "mail" 1 (), .submit "mail" 1 (), .pickUp, .complete 0, .submit "mail" 2 ()]
    p.smooth crowd = true ∧ p.ownSteps "mail" (p.numberIn "mail" crowd) crowd = own ∧
      (p.run own).groups.get? "mail" =
        ((p.run crowd).groups.get? "mail").map (Group.renumbered (p.numberIn "mail" crowd)) := by
  have smooth : (new ⟨2, 9⟩ : Pool Unit).smooth crowd = true := by decide
  exact ⟨smooth, rfl, (groups_do_not_interfere ⟨2, 9⟩ "mail" smooth).2.2.1⟩

end Pool
end Courier
