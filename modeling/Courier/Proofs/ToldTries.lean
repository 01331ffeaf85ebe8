import Courier.Proofs.Chronicles

/-!
What is told about each try in the course of a run. As long as a worker holds a delivery, no more has been told than
that its try starts; the rest is told when it ends. So all events of one try are about the same attempt, with the one
exception that a failure followed by another try is told as if the try that failed had been a retry.
-/
namespace Courier.Chronicle
variable {w : Chronicle}

/-- Whether what has been told fits what the tasks are up to. -/
structure Faithful (w : Chronicle) : Prop where
  orderly : w.system.Orderly
  tasks : ∀ job ∈ w.system.engine.pool.tasks, ∀ d, job.work = .delivery d → d.Announced (w.toldOf job.ticket)
  past : ∀ ticket, TryEvents (w.toldOf ticket)
  fresh : ∀ ticket, w.system.engine.pool.nextTicket ≤ ticket → w.toldOf ticket = []

theorem toldOf_note (w : Chronicle) (depot : Depot) (source : Option Source) (ticket : Nat) (told : List Event)
    (rest : Option Rest) (other : Nat) :
    (w.note depot source (told.map (fun e => (ticket, e))) rest).toldOf other =
      w.toldOf other ++ if ticket = other then told else [] := by
  by_cases same : ticket = other
  · simp [toldOf, note, same]
  · simp [toldOf, note, same]

/-- What has been told about the try of a delivery that a worker holds fits it. -/
theorem Faithful.announced (faithful : w.Faithful) {ticket : Nat} {job : Job Task} {d : Delivery}
    (found : w.system.engine.pool.held.find? (fun job => job.ticket == ticket) = some job)
    (is : job.work = .delivery d) : d.Announced (w.toldOf ticket) := by
  have inside : job ∈ w.system.engine.pool.tasks := Pool.mem_tasks_of_held (List.mem_of_find?_eq_some found)
  have hit : job.ticket = ticket := by simpa using List.find?_some found
  rw [← hit]
  exact faithful.tasks job inside d is

/-- Tasks may come and go as long as nothing is told. -/
theorem Faithful.silent (faithful : w.Faithful) {depot : Depot} (orderly : depot.system.Orderly)
    (pool : w.system.engine.pool.Admits Task.IsFresh depot.system.engine.pool) (source : Option Source) (rest : Option Rest) :
    (w.note depot source [] rest).Faithful := by
  have same (ticket : Nat) : (w.note depot source [] rest).toldOf ticket = w.toldOf ticket := by simp [toldOf, note]
  constructor
  · exact orderly
  · intro job member d is
    rw [same]
    rcases pool.tasks job member with old | ⟨late, ready⟩
    · exact faithful.tasks job old d is
    · exact .inl ⟨ready d is, faithful.fresh job.ticket late⟩
  · intro ticket
    rw [same]
    exact faithful.past ticket
  · intro ticket late
    rw [same]
    exact faithful.fresh ticket (Nat.le_trans pool.tickets late)

/-- What is told about a task that a worker holds is told of no other one. -/
theorem Faithful.tells (faithful : w.Faithful) {depot : Depot} (orderly : depot.system.Orderly) {ticket : Nat}
    {job : Job Task} (inside : job ∈ w.system.engine.pool.tasks) (hit : job.ticket = ticket)
    (next : w.system.engine.pool.nextTicket ≤ depot.system.engine.pool.nextTicket) (told : List Event)
    (whole : TryEvents (w.toldOf ticket ++ told))
    (tasks : ∀ other ∈ depot.system.engine.pool.tasks,
      (other ∈ w.system.engine.pool.tasks ∧ other.ticket ≠ ticket) ∨
        other.ticket = ticket ∧ ∀ d, other.work = .delivery d → d.Announced (w.toldOf ticket ++ told))
    (rest : Option Rest) : (w.note depot none (told.map (fun e => (ticket, e))) rest).Faithful := by
  constructor
  · exact orderly
  · intro other member d is
    rw [toldOf_note]
    rcases tasks other member with ⟨old, apart⟩ | ⟨same, announced⟩
    · rw [if_neg (Ne.symm apart), List.append_nil]
      exact faithful.tasks other old d is
    · rw [if_pos same.symm, same]
      exact announced d is
  · intro other
    rw [toldOf_note]
    by_cases same : ticket = other
    · rw [if_pos same, ← same]
      exact whole
    · rw [if_neg same, List.append_nil]
      exact faithful.past other
  · intro other late
    have late := Nat.le_trans next late
    have early := faithful.orderly.accounted.fresh job inside
    rw [toldOf_note, if_neg (by omega), List.append_nil]
    exact faithful.fresh other late

/-- Whatever happens, what has been told fits the tasks. -/
theorem Faithful.note (faithful : w.Faithful) {depot : Depot} {source : Option Source} {told : List (Nat × Event)}
    {rest : Option Rest} (change : w.system.Change depot.system source told rest) :
    (w.note depot source told rest).Faithful := by
  have orderly := change.orderly faithful.orderly
  have inv := faithful.orderly.accounted
  have tickets := change.nextTicket_le
  cases change with
  | idles engine pool counted alarms =>
    exact faithful.silent orderly (pool.mono (fun _ foreign => foreign.isFresh)) none none
  | takes outside engine alarms => exact faithful.silent orderly engine.pool _ none
  | resubmits member purpose due engine pool counted alarms => exact faithful.silent orderly pool _ none
  | @begins ticket job d found is ready engine pool counted alarms =>
    have inside := Pool.mem_tasks_of_held (List.mem_of_find?_eq_some found)
    have hit : job.ticket = ticket := by simpa using List.find?_some found
    have quiet : w.toldOf ticket = [] := by
      rcases faithful.announced found is with ⟨_, none⟩ | ⟨state, _⟩
      · exact none
      · exact absurd state ready.not_delivering
    refine faithful.tells orderly inside hit tickets [.attemptStarted (d.begun w.system.now).context] ?_ ?_ none
    · rw [quiet]
      exact .started _
    · intro other member
      rw [pool] at member
      rcases Pool.mem_tasks_revise inv found member with rfl | elsewhere
      · refine .inr ⟨hit, ?_⟩
        rintro d ⟨⟩
        rw [quiet]
        exact .inr ⟨rfl, rfl⟩
      · exact .inl elsewhere
  | @ends ticket job d told rest found is closes pool counted leaves =>
    have inside := Pool.mem_tasks_of_held (List.mem_of_find?_eq_some found)
    have hit : job.ticket = ticket := by simpa using List.find?_some found
    refine faithful.tells orderly inside hit tickets told ?_ ?_ rest
    · exact closes.whole _ (faithful.announced found is)
    · intro other member
      rw [pool] at member
      exact .inl (Pool.mem_tasks_complete inv found member)

theorem Faithful.act (faithful : w.Faithful) (a : Depot.Act) : (w.act a).Faithful := by
  obtain ⟨source, told, rest, is, change, _⟩ := act_cases faithful.orderly a
  rw [is]
  exact faithful.note change

theorem faithful_opened (clock : Clock) (broker : Broker) (config : EngineConfig) (registry : Registry)
    (interceptors : Nat) (pollers : List Poller) :
    (opened clock broker config registry interceptors pollers).Faithful where
  orderly := orderly_opened clock broker config registry interceptors pollers
  tasks _ member := nomatch member
  past _ := .none
  fresh _ _ := rfl

/-- In every run of an engine, whatever else happens to the depot, all that is told about one try is told of the same
attempt, except that a failure with another try to follow is told of it as a retry, whether it is one or not. -/
theorem events_of_a_try_agree (clock : Clock) (broker : Broker) (config : EngineConfig) (registry : Registry)
    (interceptors : Nat) (pollers : List Poller) (acts : List Depot.Act) (ticket : Nat) :
    TryEvents (((opened clock broker config registry interceptors pollers).run acts).toldOf ticket) := by
  have faithful : ((opened clock broker config registry interceptors pollers).run acts).Faithful := by
    apply run_keeps (faithful_opened clock broker config registry interceptors pollers)
    intro w a _ faithful
    exact faithful.act a
  exact faithful.past ticket

private def clerk : Trigger := .new ⟨"orders", "created"⟩ "clerk"

private def order : Message := ⟨"request", ⟨"orders", "created"⟩, [], 1, 0, 0, false, .timely, .epoch, none⟩

/-- A message that has never been tried before, and a handler that fails. -/
private def setback : List Depot.Act :=
  [.outside (.deliver order clerk), .outside .pickUp,
    .outside (.start 0 (fun _ _ => .proceed)), .outside (.finish 0 (.error ⟨"unreachable"⟩) 0)]

/-- The first try of a message: when it fails, it is told of it as a retry. -/
theorem first_try_told_as_retry :
    let last := (opened (.startedAt .epoch) .empty ⟨.standard, .inProcess, .standard, .zero⟩ .empty 0 []).run setback
    ∃ first second : AttemptContext, last.toldOf 0 = [.attemptStarted first, .retryScheduled second "unreachable" 3000] ∧
      first.isRetry = false ∧ second.isRetry = true ∧ second ≠ first := by
  refine ⟨⟨"request", ⟨"orders", "created"⟩, "clerk", 1, false, .epoch⟩,
    ⟨"request", ⟨"orders", "created"⟩, "clerk", 1, true, .epoch⟩, ?_⟩
  decide +kernel

end Courier.Chronicle
