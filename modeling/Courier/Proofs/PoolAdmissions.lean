import Courier.Proofs.ClosedPools

/-!
Which tasks a pool lets in. It never has more tasks outstanding than it has room for. A submission counts its
task before it looks whether there is room, and takes the count back when there is none (`Pool.takeIn`); what
it leaves behind is the same as if it had looked first, so a refusal leaves nothing (`Pool.submit`).
-/
namespace Courier.Pool
variable {α : Type}

/-! ### A submission, bit by bit -/

/-- Work on a pool. What was done before an error stays. -/
abbrev Admission (α : Type) := EStateM DeliveryError (Pool α)

/-- Counts a task, and says how many were outstanding before. -/
def countIn : Admission α Nat :=
  modifyGet (fun p => (p.outstanding, { p with outstanding := p.outstanding + 1 }))

/-- Takes a task off the count. -/
def countOut : Admission α Unit := modify (fun p => { p with outstanding := p.outstanding - 1 })

/-- Puts a task into the queue of its group, under a new limit, and promotes what the limit lets through. -/
def file (name : String) (limit : Nat) (work : α) : Admission α Unit :=
  modify (fun p =>
    let g := (p.group name).joined limit ⟨p.nextTicket, name, work⟩
    { p with
      groups := p.groups.insert name g.promoted
      ready := p.ready ++ g.passing
      nextTicket := p.nextTicket + 1 })

def takeIn (name : String) (limit : Nat) (work : α) : Admission α Unit := do
  let previous ← countIn
  if ¬ (← get).accepting then
    countOut
    throw (.rejected name)
  if (← get).config.capacity ≤ previous then
    countOut
    throw (.queueFull name (← get).config.capacity)
  file name limit work

/-- Done bit by bit, a submission comes to the same. -/
theorem takeIn_run (p : Pool α) (name : String) (limit : Nat) (work : α) :
    (takeIn name limit work).run p =
      match p.submit name limit work with
      | .ok q => .ok () q
      | .error why => .error why p := by
  obtain ⟨config, groups, ready, held, outstanding, accepting, staffed, nextTicket⟩ := p
  cases accepting with
  | false => simp [submit_eq, takeIn, countIn, countOut]
  | true =>
    by_cases room : outstanding < config.capacity
    · have notFull : ¬ config.capacity ≤ outstanding := Nat.not_le.mpr room
      simp [submit_eq, takeIn, countIn, file, entered, group, room, notFull]
    · have full : config.capacity ≤ outstanding := Nat.not_lt.mp room
      simp [submit_eq, takeIn, countIn, countOut, room, full]

/-! ### The count of outstanding tasks -/

/-- Whether nothing is accepted after a step. -/
def Step.closes : Step α → Bool
  | .stopAccepting => true
  | .conclude _ => true
  | _ => false

/-- What a step makes of a pool that decides over admission: only a submission that finds room adds to the count. -/
structure Counts (p : Pool α) (s : Step α) (q : Pool α) : Prop where
  config : q.config = p.config
  accepting : q.accepting = (p.accepting && !s.closes)
  outstanding : q.outstanding ≤ p.outstanding ∨
    p.outstanding < p.config.capacity ∧ q.outstanding = p.outstanding + 1

theorem counts_step (p : Pool α) (s : Step α) : Counts p s (p.step s) := by
  cases s with
  | submit name limit work =>
    by_cases room : p.accepting = true ∧ p.outstanding < p.config.capacity
    · have taken : p.step (.submit name limit work) = p.entered name limit work := by
        simp [step, submit_eq, room, Except.toOption]
      rw [taken]
      exact ⟨rfl, by simp [entered, Step.closes], .inr ⟨room.2, rfl⟩⟩
    · have same : p.step (.submit name limit work) = p := by
        rw [step, submit_eq, if_neg room]
        split <;> rfl
      rw [same]
      exact ⟨rfl, by simp [Step.closes], .inl (Nat.le_refl _)⟩
  | pickUp =>
    cases picked : p.pickUp with
    | none =>
      have same : p.step .pickUp = p := by simp [step, picked]
      rw [same]
      exact ⟨rfl, by simp [Step.closes], .inl (Nat.le_refl _)⟩
    | some found =>
      obtain ⟨job, q⟩ := found
      obtain ⟨rest, _, rfl⟩ := pickUp_some picked
      constructor <;> simp [step, picked, Step.closes]
  | complete ticket =>
    cases found : p.held.find? (fun j => j.ticket == ticket) with
    | none => constructor <;> simp [step, complete, found, Step.closes]
    | some job => constructor <;> simp [step, complete, found, Step.closes]
  | stopAccepting => constructor <;> simp [step, stopAccepting, Step.closes]
  | timeOut =>
    obtain ⟨_, _, is⟩ := p.timeOut_eq
    constructor <;> simp [step, is, Step.closes]
  | conclude timeout =>
    cases late : p.timesOut (.conclude timeout) with
    | false =>
      rw [(step_conclude_of_drained late).2]
      constructor <;> simp [Step.closes]
    | true =>
      rw [step_conclude_of_timesOut late]
      constructor <;> simp [Step.closes]

theorem counts_run (p : Pool α) (steps : List (Step α)) (within : p.outstanding ≤ p.config.capacity) :
    (p.run steps).config = p.config ∧ (p.run steps).accepting = (p.accepting && !steps.any Step.closes) ∧
      (p.run steps).outstanding ≤ p.config.capacity := by
  induction steps generalizing p with
  | nil => exact ⟨rfl, by simp [run], within⟩
  | cons s rest ih =>
    obtain ⟨config, accepting, outstanding⟩ := counts_step p s
    have bounded : (p.step s).outstanding ≤ (p.step s).config.capacity := by
      rw [config]
      omega
    obtain ⟨config', accepting', bounded'⟩ := ih (p.step s) bounded
    refine ⟨config'.trans config, ?_, config ▸ bounded'⟩
    show ((p.step s).run rest).accepting = _
    rw [accepting', accepting]
    simp [Bool.and_assoc]

/-- The submission of a task: its group, the group's limit and the work. -/
def Step.ofOffer (offer : String × Nat × α) : Step α := .submit offer.1 offer.2.1 offer.2.2

/-- As long as tasks only come in, as many more are outstanding as were offered, up to what the pool has room for. -/
theorem outstanding_offers {p : Pool α} (accepting : p.accepting = true) (within : p.outstanding ≤ p.config.capacity)
    (offers : List (String × Nat × α)) :
    (p.run (offers.map .ofOffer)).outstanding = min (p.outstanding + offers.length) p.config.capacity := by
  induction offers generalizing p with
  | nil => exact (Nat.min_eq_left within).symm
  | cons offer rest ih =>
    show ((p.step (.ofOffer offer)).run (rest.map .ofOffer)).outstanding = _
    by_cases room : p.outstanding < p.config.capacity
    · have taken : p.step (.ofOffer offer) = p.entered offer.1 offer.2.1 offer.2.2 := by
        simp [Step.ofOffer, step, submit_eq, accepting, room, Except.toOption]
      have entered := ih (p := p.entered offer.1 offer.2.1 offer.2.2) accepting room
      have later : p.outstanding + 1 + rest.length = p.outstanding + (offer :: rest).length := by
        rw [List.length_cons]
        omega
      rw [taken, entered, ← later]
      rfl
    · have same : p.step (.ofOffer offer) = p := by
        simp [Step.ofOffer, step, submit_eq, accepting, room, Except.toOption]
      rw [same, ih accepting within, List.length_cons]
      omega

/-! ### Refusals -/

/-- A submission that is refused takes the pool nowhere. -/
theorem step_of_refused {p : Pool α} {name : String} {limit : Nat} {work : α} {why : DeliveryError}
    (refused : p.submit name limit work = .error why) : p.step (.submit name limit work) = p := by
  simp [step, refused, Except.toOption]

theorem accepted?_of_refused {p : Pool α} {name : String} {limit : Nat} {work : α} {why : DeliveryError}
    (refused : p.submit name limit work = .error why) : p.accepted? (.submit name limit work) = none := by
  simp [accepted?, refused]

/-- A run with a submission that is refused is the run without it. -/
theorem run_without_refused {p : Pool α} {name : String} {limit : Nat} {work : α} {why : DeliveryError}
    {before : List (Step α)} (refused : (p.run before).submit name limit work = .error why) (after : List (Step α)) :
    p.run (before ++ .submit name limit work :: after) = p.run (before ++ after) := by
  rw [run_append, run_append]
  show ((p.run before).step (.submit name limit work)).run after = _
  rw [step_of_refused refused]

/-- Nor is there a note of it, if none is taken where it is refused. -/
theorem noted_without_refused {β : Type} {note : Pool α → Step α → Option β} {p : Pool α} {name : String}
    {limit : Nat} {work : α} {why : DeliveryError} {before : List (Step α)}
    (refused : (p.run before).submit name limit work = .error why)
    (none : note (p.run before) (.submit name limit work) = none) (after : List (Step α)) :
    noted note p (before ++ .submit name limit work :: after) = noted note p (before ++ after) := by
  rw [noted_append, noted_append, noted, none, step_of_refused refused]
  rfl

/-- A task that is picked up has been accepted. -/
theorem pickedUp_subset_accepted (config : PoolConfig) (steps : List (Step α)) :
    (new config).pickedUp steps ⊆ (new config).accepted steps := by
  have until_ (early : List (Step α)) (inTime : (new config : Pool α).inTime early = true) :
      (new config).pickedUp early ⊆ (new config).accepted early := by
    intro job member
    have held := held_run (accounted_new config) early inTime
    have tasks := tasks_run (accounted_new config) early inTime
    have here : job ∈ ((new config).run early).held ++ (new config).completed early :=
      held.mem_iff.mpr (List.mem_append_right _ member)
    have there : job ∈ ((new config).run early).tasks ++ (new config).completed early := by
      rcases List.mem_append.mp here with held | completed
      · exact List.mem_append_left _ (mem_tasks_of_held held)
      · exact List.mem_append_right _ completed
    rcases List.mem_append.mp (tasks.mem_iff.mp there) with none | accepted
    · exact absurd none List.not_mem_nil
    · exact accepted
  rcases inTime_or_cut_off (new config : Pool α) steps with inTime | ⟨early, inTime, _, _, accepted, pickedUp, _⟩
  · exact until_ steps inTime
  · rw [accepted, pickedUp]
    exact until_ early inTime

/-- What is picked up in a run is the work of one of its submissions. -/
theorem submit_of_mem_pickedUp {config : PoolConfig} {steps : List (Step α)} {job : Job α}
    (member : job ∈ (new config).pickedUp steps) : ∃ limit, .submit job.group limit job.work ∈ steps := by
  obtain ⟨⟨_, limit⟩, taken, rfl⟩ := List.mem_map.mp (pickedUp_subset_accepted config steps member)
  exact ⟨limit, submit_of_mem_accepted taken⟩

/-- Between the calls to a pool, whatever has happened to it, no more tasks are outstanding than it has room for. A
submission is rejected if the pool accepts no more, that is after the start or the end of a shutdown; it finds the
queue full if it would be one task too many; otherwise one task more is outstanding. A submission that is refused
leaves the pool as it was, also when it counts its task before it looks; with or without it everything goes on
alike, and every task that is ever picked up is that of another submission. -/
theorem admission_is_bounded_and_refusals_leave_no_trace (config : PoolConfig) (before : List (Step α))
    (name : String) (limit : Nat) (work : α) :
    let p := (new config).run before
    let bound := max 1 config.maxPending
    let offer := Step.submit name limit work
    p.outstanding ≤ bound ∧
      (p.accepting = false ↔ ∃ s ∈ before, s.closes = true) ∧
      (p.submit name limit work = .error (.rejected name) ↔ p.accepting = false) ∧
      (p.submit name limit work = .error (.queueFull name bound) ↔ p.accepting = true ∧ p.outstanding = bound) ∧
      ((∃ q, p.submit name limit work = .ok q ∧ (takeIn name limit work).run p = .ok () q ∧
        q.outstanding = p.outstanding + 1) ↔ p.accepting = true ∧ p.outstanding ≠ bound) ∧
      ∀ why, p.submit name limit work = .error why →
        (takeIn name limit work).run p = .error why p ∧ p.step offer = p ∧
          ∀ after, (new config).run (before ++ offer :: after) = (new config).run (before ++ after) ∧
            (new config).accepted (before ++ offer :: after) = (new config).accepted (before ++ after) ∧
            (new config).pickedUp (before ++ offer :: after) = (new config).pickedUp (before ++ after) ∧
            (new config).completed (before ++ offer :: after) = (new config).completed (before ++ after) ∧
            ∀ job ∈ (new config).pickedUp (before ++ offer :: after),
              ∃ other, .submit job.group other job.work ∈ before ++ after := by
  intro p bound offer
  have capacity : (new config : Pool α).config.capacity = bound := Nat.max_comm ..
  obtain ⟨settings, door, within⟩ := counts_run (new config : Pool α) before (Nat.zero_le _)
  have bounded : p.outstanding ≤ bound := capacity ▸ within
  have room : p.config.capacity = bound := (congrArg PoolConfig.capacity settings).trans capacity
  refine ⟨bounded, ?_, submit_rejected_iff, ?_, ?_, fun why refused => ⟨?_, step_of_refused refused, fun after => ?_⟩⟩
  · rw [door]
    simp [new]
  · rw [← room, submit_queueFull_iff, room]
    exact and_congr_right (fun _ => ⟨fun full => Nat.le_antisymm bounded full, fun is => is.ge⟩)
  · constructor
    · rintro ⟨q, taken, -, -⟩
      obtain ⟨open_, free, -⟩ := submit_ok_iff.mp taken
      exact ⟨open_, by omega⟩
    · rintro ⟨open_, free⟩
      have taken : p.submit name limit work = .ok (p.entered name limit work) :=
        submit_ok_iff.mpr ⟨open_, by omega, rfl⟩
      exact ⟨_, taken, by rw [takeIn_run, taken], rfl⟩
  · rw [takeIn_run, refused]
  · have picked : noted pickedUp? (new config) (before ++ offer :: after) = noted pickedUp? (new config) (before ++ after) :=
      noted_without_refused refused rfl after
    refine ⟨run_without_refused refused after, ?_, picked, noted_without_refused refused rfl after, fun job member => ?_⟩
    · exact congrArg (List.map Prod.fst) (noted_without_refused refused (accepted?_of_refused refused) after)
    · rw [pickedUp, picked] at member
      exact submit_of_mem_pickedUp member

/-- A pool without room counts as one with room for one task. -/
example :
    let p := (new ⟨1, 0⟩ : Pool Unit).run [.submit "mail" 1 ()]
    (takeIn "post" 1 ()).run p = .error (.queueFull "post" 1) p := rfl

end Courier.Pool
