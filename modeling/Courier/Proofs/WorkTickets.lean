import Courier.Proofs.Attempts
import Courier.Proofs.OpenPools

/-!
Deliveries whose handlers are at work. A worker that holds a delivery has called its handler or is about to
start the next try; which of the two is told by a list of tickets. Every delivery of such a list is held by a
worker, and every other delivery of the pool is ready for its next try.
-/
namespace Courier

namespace Pool

section Open
variable {α : Type}

theorem Open.tasks_eq_nil {p : Pool α} (open_ : Open p) (none : p.outstanding = 0) : p.tasks = [] :=
  Pool.tasks_eq_nil open_.accounted open_.counted none

/-- A ticket is on one task only. -/
theorem Open.ticket_ne {p : Pool α} (open_ : Open p) {job : Job α} {others : List (Job α)}
    (tasks : p.tasks.Perm (job :: others)) {other : Job α} (member : other ∈ others) : other.ticket ≠ job.ticket := by
  have distinct := (tasks.map Job.ticket).nodup_iff.mp open_.accounted.distinct
  intro same
  exact (List.nodup_cons.mp distinct).1 (same ▸ List.mem_map_of_mem member)

end Open

/-- An open pool in which the handlers of some tickets are at work. -/
structure Manned (p : Pool Task) (working : List Nat) : Prop where
  open_ : p.Open
  distinct : working.Nodup
  busy : ∀ ticket ∈ working, ∃ job ∈ p.held, job.ticket = ticket ∧
    ∃ d, job.work = .delivery d ∧ d.attempt.state = .delivering
  ready : ∀ job ∈ p.tasks, ∀ d, job.work = .delivery d → job.ticket ∉ working → d.attempt.IsReady

section Manned
variable {p q : Pool Task} {working : List Nat}

theorem manned_new (config : PoolConfig) : Manned (new config) [] where
  open_ := open_new config
  distinct := List.nodup_nil
  busy ticket member := absurd member List.not_mem_nil
  ready job member := by
    have none : (new config : Pool Task).tasks = [] := (open_new config).tasks_eq_nil rfl
    rw [none] at member
    cases member

/-- The delivery of a ticket whose handler is at work. -/
theorem Manned.delivering (manned : p.Manned working) {ticket : Nat} {job : Job Task} {d : Delivery}
    (found : p.held.find? (fun j => j.ticket == ticket) = some job) (is : job.work = .delivery d)
    (busy : ticket ∈ working) : d.attempt.state = .delivering := by
  obtain ⟨other, inside, rfl, d', work, state⟩ := manned.busy ticket busy
  have same : job = other := Option.some.inj (found.symm.trans (find?_held manned.open_.accounted inside))
  rw [same, work] at is
  cases is
  exact state

theorem Manned.isReady (manned : p.Manned working) {ticket : Nat} {job : Job Task} {d : Delivery}
    (found : p.held.find? (fun j => j.ticket == ticket) = some job) (is : job.work = .delivery d)
    (idle : ticket ∉ working) : d.attempt.IsReady := by
  have hit : job.ticket = ticket := by simpa using List.find?_some found
  exact manned.ready job (mem_tasks_of_held (List.mem_of_find?_eq_some found)) d is (hit ▸ idle)

/-- A task comes in whose delivery, if it is one, is ready. -/
theorem Manned.submit (manned : p.Manned working) {name : String} {limit : Nat} {work : Task}
    (taken : p.submit name limit work = .ok q) (ready : ∀ d, work = .delivery d → d.attempt.IsReady) :
    q.Manned working where
  open_ := manned.open_.submit taken
  distinct := manned.distinct
  busy := by
    rw [submit_ok taken]
    exact manned.busy
  ready := by
    intro job member d is idle
    rw [submit_ok taken] at member
    rcases List.mem_cons.mp ((tasks_entered p name limit work).mem_iff.mp member) with rfl | old
    · exact ready d is
    · exact manned.ready job old d is idle

theorem Manned.pickUp (manned : p.Manned working) {job : Job Task} (picked : p.pickUp = some (job, q)) :
    q.Manned working where
  open_ := manned.open_.pickUp picked
  distinct := manned.distinct
  busy := by
    obtain ⟨rest, _, rfl⟩ := pickUp_some picked
    intro ticket member
    obtain ⟨old, inside, works⟩ := manned.busy ticket member
    exact ⟨old, List.mem_append_left _ inside, works⟩
  ready other member := manned.ready other ((tasks_pickUp manned.open_ picked).mem_iff.mp member)

/-- A worker calls the handler of the delivery that it holds. -/
theorem Manned.revise (manned : p.Manned working) {ticket : Nat} {job : Job Task} {d : Delivery}
    (found : p.held.find? (fun j => j.ticket == ticket) = some job) (idle : ticket ∉ working)
    (delivering : d.attempt.state = .delivering) : (p.revise ticket (.delivery d)).Manned (ticket :: working) := by
  have hit : job.ticket = ticket := by simpa using List.find?_some found
  obtain ⟨others, before, after⟩ := tasks_revise manned.open_.accounted (.delivery d) found
  refine ⟨manned.open_.revise ticket _, List.nodup_cons.mpr ⟨idle, manned.distinct⟩, ?_, ?_⟩
  · intro other member
    rcases List.mem_cons.mp member with rfl | old
    · exact ⟨_, mem_held_revise _ found, hit, d, rfl, delivering⟩
    · obtain ⟨job', inside, same, works⟩ := manned.busy other old
      have apart : job'.ticket ≠ ticket := by
        rintro rfl
        exact idle (same ▸ old)
      exact ⟨job', List.mem_map.mpr ⟨job', inside, if_neg apart⟩, same, works⟩
  · intro other member d' is rest
    rcases List.mem_cons.mp (after.mem_iff.mp member) with rfl | old
    · exact absurd (List.mem_cons.mpr (.inl hit)) rest
    · refine manned.ready other (before.mem_iff.mpr (List.mem_cons_of_mem _ old)) d' is (fun inside => ?_)
      exact rest (List.mem_cons_of_mem _ inside)

/-- A worker is done with a task. -/
theorem Manned.complete (manned : p.Manned working) (ticket : Nat) :
    (p.complete ticket).Manned (working.erase ticket) := by
  cases found : p.held.find? (fun j => j.ticket == ticket) with
  | none =>
    have idle : ticket ∉ working := by
      intro member
      obtain ⟨job, inside, rfl, _⟩ := manned.busy ticket member
      rw [find?_held manned.open_.accounted inside] at found
      cases found
    have same : p.complete ticket = p := by simp only [Pool.complete, found]
    rw [same, List.erase_of_not_mem idle]
    exact manned
  | some job =>
    have hit : job.ticket = ticket := by simpa using List.find?_some found
    have tasks := tasks_complete manned.open_.accounted found
    refine ⟨manned.open_.complete ticket, manned.distinct.erase ticket, ?_, ?_⟩
    · intro other member
      obtain ⟨apart, old⟩ := manned.distinct.mem_erase_iff.mp member
      obtain ⟨job', inside, rfl, works⟩ := manned.busy other old
      rw [held_complete found]
      exact ⟨job', List.mem_filter.mpr ⟨inside, by simpa using apart⟩, rfl, works⟩
    · intro other member d is rest
      refine manned.ready other (tasks.mem_iff.mpr (List.mem_cons_of_mem _ member)) d is (fun inside => rest ?_)
      exact (List.mem_erase_of_ne (hit ▸ manned.open_.ticket_ne tasks member)).mpr inside

end Manned

end Pool
end Courier
