import Mathlib.Data.List.Induction
import Courier.Proofs.PoolTasks

/-!
How many tasks of a group run at once. A task leaves the queue of its group only while fewer tasks run
than the group's last accepted task allows (`Group.passages`), so that no group runs more than one of
its limits allowed; and no step leaves a task in the queue while the group could run it.
-/
namespace Courier

namespace Group
variable {α : Type}

/-- The tasks that leave a queue one after the other while fewer run than the limit says, each with the
    group as it is when the task leaves. -/
def passagesFrom (limit : Nat) : Nat → List (Job α) → List (Job α × Group α)
  | _, [] => []
  | running, job :: rest =>
    if running < limit then (job, ⟨running, limit, job :: rest⟩) :: passagesFrom limit (running + 1) rest
    else []

/-- The tasks that the limit lets through, one after the other. -/
def passages (g : Group α) : List (Job α × Group α) := passagesFrom g.limit g.running g.queue

private theorem passagesFrom_fst (limit running : Nat) (queue : List (Job α)) :
    (passagesFrom limit running queue).map Prod.fst = queue.take (limit - running) := by
  induction queue generalizing running with
  | nil => simp [passagesFrom]
  | cons job rest ih =>
    by_cases free : running < limit
    · have room : limit - running = (limit - (running + 1)) + 1 := by omega
      simp only [passagesFrom, free, if_true, List.map_cons, ih, room, List.take_succ_cons]
    · have none : limit - running = 0 := by omega
      simp [passagesFrom, free, none]

/-- Going one by one, the same tasks come through as in one go. -/
theorem passages_fst (g : Group α) : g.passages.map Prod.fst = g.passing := passagesFrom_fst ..

private theorem passagesFrom_spec {limit running : Nat} {queue : List (Job α)} {job : Job α} {h : Group α}
    (passed : (job, h) ∈ passagesFrom limit running queue) :
    h.running < h.limit ∧ h.limit = limit ∧ h.queue.head? = some job := by
  induction queue generalizing running with
  | nil => simp [passagesFrom] at passed
  | cons head rest ih =>
    by_cases free : running < limit
    · simp only [passagesFrom, free, if_true, List.mem_cons] at passed
      rcases passed with first | later
      · cases first
        exact ⟨free, rfl, rfl⟩
      · exact ih later
    · simp [passagesFrom, free] at passed

theorem passages_spec {g h : Group α} {job : Job α} (passed : (job, h) ∈ g.passages) :
    h.running < h.limit ∧ h.limit = g.limit ∧ h.queue.head? = some job :=
  passagesFrom_spec passed

theorem promoted_running_le (g : Group α) : g.promoted.running ≤ max g.running g.limit := by
  have short : g.passing.length ≤ g.limit - g.running := List.length_take_le ..
  rw [promoted_running]
  omega

/-- After a promotion tasks wait only if as many run as may. -/
theorem limit_le_running_promoted (g : Group α) (waiting : g.promoted.queue ≠ []) :
    g.promoted.limit ≤ g.promoted.running := by
  have left : 0 < (g.queue.drop (g.limit - g.running)).length := List.length_pos_iff.mpr waiting
  have taken : g.passing.length = min (g.limit - g.running) g.queue.length := List.length_take
  rw [List.length_drop] at left
  rw [promoted_running]
  show g.limit ≤ _
  omega

end Group

namespace Pool
variable {α : Type}

/-! ### Limits in the course of a run -/

/-- The limit that an accepted task brings to a group. -/
def limitFor (name : String) (a : Job α × Nat) : Option Nat := if a.1.group = name then some a.2 else none

/-- The limits that the accepted tasks of a group have brought in a run, the last one last. -/
def limits (name : String) (p : Pool α) (steps : List (Step α)) : List Nat :=
  (noted accepted? p steps).filterMap (limitFor name)

/-- The limits that came with the tasks of a group since the group was last created, given those
    that came before the run. -/
def limitsSince (name : String) : Pool α → List Nat → List (Step α) → List Nat
  | _, seen, [] => seen
  | p, seen, s :: rest =>
    let seen := seen ++ ((p.accepted? s).bind (limitFor name)).toList
    limitsSince name (p.step s) (if (p.step s).groups.contains name then seen else []) rest

/-- The group in which a step promotes tasks, as it is just before. -/
def promoting? (p : Pool α) : Step α → Option (Group α)
  | .submit name limit work =>
    (p.accepted? (.submit name limit work)).map (fun a => (p.group name).joined limit a.1)
  | .complete ticket =>
    (p.completed? (.complete ticket)).bind (fun job => (p.groups.get? job.group).map Group.relieved)
  | _ => none

/-- The tasks that leave the queue of their group in a step, each with the group as it then is. -/
def passages (p : Pool α) (s : Step α) : List (Job α × Group α) :=
  ((p.promoting? s).map Group.passages).getD []

theorem run_append (p : Pool α) (before after : List (Step α)) :
    p.run (before ++ after) = (p.run before).run after :=
  List.foldl_append ..

theorem noted_append {β : Type} (note : Pool α → Step α → Option β) (p : Pool α) (before after : List (Step α)) :
    noted note p (before ++ after) = noted note p before ++ noted note (p.run before) after := by
  induction before generalizing p with
  | nil => rfl
  | cons s rest ih =>
    simp only [List.cons_append, noted, ih, List.append_assoc]
    rfl

private theorem limits_snoc (name : String) (p : Pool α) (steps : List (Step α)) (s : Step α) :
    limits name p (steps ++ [s]) =
      limits name p steps ++ (((p.run steps).accepted? s).bind (limitFor name)).toList := by
  unfold limits
  rw [noted_append, List.filterMap_append]
  simp only [noted, List.append_nil]
  cases (p.run steps).accepted? s with
  | none => rfl
  | some a =>
    simp only [Option.toList_some, Option.bind_some, List.filterMap_cons, List.filterMap_nil]
    cases limitFor name a <;> rfl

private theorem limitsSince_snoc (name : String) (p : Pool α) (seen : List Nat) (steps : List (Step α)) (s : Step α) :
    limitsSince name p seen (steps ++ [s]) =
      if (p.run (steps ++ [s])).groups.contains name then
        limitsSince name p seen steps ++ (((p.run steps).accepted? s).bind (limitFor name)).toList
      else [] := by
  induction steps generalizing p seen with
  | nil => rfl
  | cons first rest ih => exact ih ..

/-! ### Groups from step to step -/

theorem accepted?_submit (p : Pool α) (name : String) (limit : Nat) (work : α) :
    (p.accepted? (.submit name limit work) = none ∧ p.step (.submit name limit work) = p) ∨
      (p.accepted? (.submit name limit work) = some (⟨p.nextTicket, name, work⟩, limit) ∧
        p.step (.submit name limit work) = p.entered name limit work) := by
  cases taken : p.submit name limit work with
  | error why => exact .inl ⟨by simp [accepted?, taken], by simp [step, taken, Except.toOption]⟩
  | ok q =>
    refine .inr ⟨by simp [accepted?, taken], ?_⟩
    simp [step, taken, Except.toOption, submit_ok taken]

/-- A group that is in the table after a step was there before and nothing came to it, or it has
    been joined by an accepted task, or one of its tasks has been completed. -/
theorem group_step (p : Pool α) (s : Step α) {name : String} {h : Group α}
    (found : (p.step s).groups.get? name = some h) :
    (p.groups.get? name = some h ∧ (p.accepted? s).bind (limitFor name) = none) ∨
      (∃ limit job, (p.accepted? s).bind (limitFor name) = some limit ∧
        h = ((p.group name).joined limit job).promoted) ∨
      ∃ g, p.groups.get? name = some g ∧ (p.accepted? s).bind (limitFor name) = none ∧ h = g.relieved.promoted := by
  cases s with
  | submit other limit work =>
    rcases accepted?_submit p other limit work with ⟨refused, same⟩ | ⟨taken, after⟩
    · rw [same] at found
      exact .inl ⟨found, by simp [refused]⟩
    · rw [after] at found
      simp only [entered, Table.get?_insert] at found
      by_cases same : other = name
      · subst same
        refine .inr (.inl ⟨limit, ⟨p.nextTicket, other, work⟩, by simp [taken, limitFor], ?_⟩)
        simpa using found.symm
      · rw [if_neg same] at found
        exact .inl ⟨found, by simp [taken, limitFor, same]⟩
  | pickUp =>
    refine .inl ⟨?_, rfl⟩
    cases picked : p.pickUp with
    | none => simpa [step, picked] using found
    | some head =>
      obtain ⟨job, q⟩ := head
      obtain ⟨rest, line, rfl⟩ := pickUp_some picked
      simpa [step, picked] using found
  | complete ticket =>
    cases held : p.held.find? (fun j => j.ticket == ticket) with
    | none => exact .inl ⟨by simpa [step, complete, held] using found, rfl⟩
    | some job =>
      simp only [step, complete, held, released] at found
      cases known : p.groups.get? job.group with
      | none => exact .inl ⟨by simpa [known] using found, rfl⟩
      | some g =>
        by_cases idle : g.relieved.promoted.isIdle
        · simp only [known, idle, if_true, Table.get?_erase] at found
          split at found
          · cases found
          · exact .inl ⟨found, rfl⟩
        · simp only [known, idle, Bool.false_eq_true, if_false, Table.get?_insert] at found
          split at found
          · rename_i same
            subst same
            exact .inr (.inr ⟨g, known, rfl, (Option.some.inj found).symm⟩)
          · exact .inl ⟨found, rfl⟩
  | stopAccepting => exact .inl ⟨found, rfl⟩
  | timeOut =>
    obtain ⟨_, _, is⟩ := p.timeOut_eq
    rw [step, is] at found
    exact .inl ⟨found, rfl⟩
  | conclude timeout =>
    cases late : p.timesOut (.conclude timeout) with
    | false =>
      rw [(step_conclude_of_drained late).2] at found
      exact .inl ⟨found, rfl⟩
    | true =>
      rw [step_conclude_of_timesOut late] at found
      cases found

/-- What is known of a group from the limits that its tasks have brought, in all and since the group
    was last created: the last one holds, one of the others was enough for the tasks that run, and
    tasks wait only if as many run as may. -/
structure Limited (all since : List Nat) (g : Group α) : Prop where
  last : ∃ l, all.getLast? = some l ∧ g.limit = max l 1
  bounded : ∃ l ∈ since, g.running ≤ max l 1
  current : ∃ l ∈ since, g.limit = max l 1
  full : g.queue ≠ [] → g.limit ≤ g.running

private theorem limited_joined {all since : List Nat} {g : Group α} (limit : Nat) (job : Job α)
    (small : g.running = 0 ∨ ∃ l ∈ since, g.running ≤ max l 1) :
    Limited (all ++ [limit]) (since ++ [limit]) (g.joined limit job).promoted := by
  have peak : (g.joined limit job).promoted.running ≤ max g.running (max limit 1) := Group.promoted_running_le _
  refine ⟨⟨limit, by simp, rfl⟩, ?_, ⟨limit, by simp, rfl⟩, Group.limit_le_running_promoted _⟩
  rcases small with idle | ⟨l, member, bound⟩
  · exact ⟨limit, by simp, by omega⟩
  · by_cases larger : l ≤ limit
    · exact ⟨limit, by simp, by omega⟩
    · exact ⟨l, by simp [member], by omega⟩

private theorem limited_relieved {all since : List Nat} {g : Group α} (known : Limited all since g) :
    Limited all since g.relieved.promoted := by
  have peak : g.relieved.promoted.running ≤ max (g.running - 1) g.limit := Group.promoted_running_le _
  refine ⟨known.last, ?_, known.current, Group.limit_le_running_promoted _⟩
  obtain ⟨l, member, bound⟩ := known.bounded
  obtain ⟨k, inside, limit⟩ := known.current
  by_cases larger : l ≤ k
  · exact ⟨k, inside, by omega⟩
  · exact ⟨l, member, by omega⟩

/-- Every group in the table keeps to the limits of its tasks. -/
theorem limited_run (config : PoolConfig) (steps : List (Step α)) (name : String) (g : Group α)
    (found : ((new config : Pool α).run steps).groups.get? name = some g) :
    Limited (limits name (new config) steps) (limitsSince name (new config) [] steps) g := by
  induction steps using List.reverseRecOn generalizing g with
  | nil => cases found
  | append_singleton steps s ih =>
    have here : ((new config : Pool α).run (steps ++ [s])).groups.contains name = true :=
      Table.contains_eq_true_iff.mpr ⟨g, found⟩
    rw [limits_snoc, limitsSince_snoc, if_pos here]
    rw [run_append] at found
    rcases group_step ((new config).run steps) s found with ⟨before, none⟩ | ⟨limit, job, came, rfl⟩ |
      ⟨old, before, none, rfl⟩
    · simpa [none] using ih g before
    · rw [came]
      refine limited_joined limit job ?_
      cases before : ((new config : Pool α).run steps).groups.get? name with
      | none => exact .inl (by rw [group_of_get?_none before]; rfl)
      | some old =>
        rw [group_of_get? before]
        exact .inr (ih old before).bounded
    · simpa [none] using limited_relieved (ih old before)

/-- What joins the line in a step are the tasks that come through, and nothing overtakes in the line. -/
theorem ready_step (p : Pool α) (s : Step α) :
    ∃ kept, kept <:+ p.ready ∧ (p.step s).ready = kept ++ (p.passages s).map Prod.fst := by
  have stays (q : Pool α) (none : p.promoting? s = none) (same : q.ready = p.ready) :
      ∃ kept, kept <:+ p.ready ∧ q.ready = kept ++ (p.passages s).map Prod.fst :=
    ⟨p.ready, List.suffix_refl _, by simp [passages, none, same]⟩
  cases s with
  | submit name limit work =>
    rcases accepted?_submit p name limit work with ⟨refused, same⟩ | ⟨taken, after⟩
    · exact stays _ (by simp [promoting?, refused]) (by rw [same])
    · refine ⟨p.ready, List.suffix_refl _, ?_⟩
      simp only [after, entered, passages, promoting?, taken, Option.map_some, Option.getD_some, Group.passages_fst]
  | pickUp =>
    cases picked : p.pickUp with
    | none => exact stays _ rfl (by simp [step, picked])
    | some head =>
      obtain ⟨job, q⟩ := head
      obtain ⟨rest, line, rfl⟩ := pickUp_some picked
      exact ⟨rest, line ▸ List.suffix_cons job rest, by simp [step, picked, passages, promoting?]⟩
  | complete ticket =>
    cases held : p.held.find? (fun j => j.ticket == ticket) with
    | none => exact stays _ (by simp [promoting?, completed?, held]) (by simp [step, complete, held])
    | some job =>
      cases known : p.groups.get? job.group with
      | none =>
        exact stays _ (by simp [promoting?, completed?, held, known]) (by simp [step, complete, held, released, known])
      | some g =>
        refine ⟨p.ready, List.suffix_refl _, ?_⟩
        simp only [passages, promoting?, completed?, held, known, Option.bind_some, Option.map_some,
          Option.getD_some, Group.passages_fst, step, complete, released]
        split <;> rfl
  | stopAccepting => exact stays _ rfl rfl
  | timeOut =>
    obtain ⟨_, _, is⟩ := p.timeOut_eq
    exact stays _ rfl (by rw [step, is])
  | conclude timeout =>
    cases late : p.timesOut (.conclude timeout) with
    | false => exact stays _ rfl (by rw [(step_conclude_of_drained late).2])
    | true => exact ⟨[], List.nil_suffix, by rw [step_conclude_of_timesOut late]; simp [passages, promoting?]⟩

/-- When a task comes through, fewer run than the last limit that came to its group. -/
theorem passages_run (config : PoolConfig) (steps : List (Step α)) (s : Step α) {job : Job α} {g : Group α}
    (passed : (job, g) ∈ ((new config).run steps).passages s) :
    g.running < g.limit ∧ g.queue.head? = some job ∧
      ∃ l, (limits job.group (new config) (steps ++ [s])).getLast? = some l ∧ g.limit = max l 1 := by
  have inv := accounted_run (accounted_new config) steps
  cases promoted : ((new config : Pool α).run steps).promoting? s with
  | none => simp [passages, promoted] at passed
  | some start =>
    have through : (job, g) ∈ start.passages := by simpa [passages, promoted] using passed
    obtain ⟨free, limit, head⟩ := Group.passages_spec through
    refine ⟨free, head, ?_⟩
    have queued : job ∈ start.queue := by
      have member : job ∈ start.passages.map Prod.fst := List.mem_map.mpr ⟨_, through, rfl⟩
      rw [Group.passages_fst] at member
      exact Group.mem_passing member
    rw [limits_snoc, limit]
    cases s with
    | submit name bound work =>
      rcases accepted?_submit ((new config).run steps) name bound work with ⟨refused, _⟩ | ⟨taken, _⟩
      · simp [promoting?, refused] at promoted
      · rw [promoting?, taken, Option.map_some] at promoted
        cases promoted
        have same : job.group = name := filed_joined inv name bound work job queued
        exact ⟨bound, by simp [taken, limitFor, same], rfl⟩
    | complete ticket =>
      cases held : ((new config : Pool α).run steps).held.find? (fun j => j.ticket == ticket) with
      | none => simp [promoting?, completed?, held] at promoted
      | some done =>
        cases known : ((new config : Pool α).run steps).groups.get? done.group with
        | none => simp [promoting?, completed?, held, known] at promoted
        | some old =>
          simp only [promoting?, completed?, held, known, Option.bind_some, Option.map_some] at promoted
          cases promoted
          have same : job.group = done.group := inv.filed done.group old known job queued
          obtain ⟨l, last, is⟩ := (limited_run config steps done.group old known).last
          exact ⟨l, by simpa [same, accepted?] using last, is⟩
    | pickUp => cases promoted
    | stopAccepting => cases promoted
    | timeOut => cases promoted
    | conclude timeout => cases promoted

/-- What is accepted has been submitted, with its limit. -/
theorem submit_of_mem_accepted {a : Job α × Nat} {p : Pool α} {steps : List (Step α)}
    (member : a ∈ noted accepted? p steps) : .submit a.1.group a.2 a.1.work ∈ steps := by
  induction steps generalizing p with
  | nil => exact absurd member List.not_mem_nil
  | cons s rest ih =>
    rw [noted, List.mem_append] at member
    rcases member with here | later
    · cases s with
      | submit name limit work =>
        rcases accepted?_submit p name limit work with ⟨refused, _⟩ | ⟨taken, _⟩
        · simp [refused] at here
        · have is : a = (⟨p.nextTicket, name, work⟩, limit) := by simpa [taken] using here
          simp [is]
      | pickUp => simp [accepted?] at here
      | complete ticket => simp [accepted?] at here
      | stopAccepting => simp [accepted?] at here
      | timeOut => simp [accepted?] at here
      | conclude timeout => simp [accepted?] at here
    · exact List.mem_cons_of_mem _ (ih later)

/-- The limits of a group are those of its submissions. -/
theorem submit_of_mem_limits {name : String} {l : Nat} {p : Pool α} {steps : List (Step α)}
    (member : l ∈ limits name p steps) : ∃ work, .submit name l work ∈ steps := by
  obtain ⟨⟨job, limit⟩, taken, here⟩ := List.mem_filterMap.mp member
  have inside := submit_of_mem_accepted taken
  by_cases same : job.group = name
  · subst same
    have value : limit = l := by simpa [limitFor] using here
    subst value
    exact ⟨job.work, inside⟩
  · simp [limitFor, same] at here

private theorem limits_of_submits {name : String} {c : Nat} (p : Pool α) (steps : List (Step α))
    (only : ∀ limit work, .submit name limit work ∈ steps → limit = c) :
    ∀ l ∈ limits name p steps, l = c := by
  intro l member
  obtain ⟨work, inside⟩ := submit_of_mem_limits member
  exact only l work inside

theorem limitsSince_subset (name : String) (p : Pool α) (steps : List (Step α)) :
    ∀ l ∈ limitsSince name p [] steps, l ∈ limits name p steps := by
  induction steps using List.reverseRecOn with
  | nil => simp [limitsSince]
  | append_singleton steps s ih =>
    intro l member
    rw [limitsSince_snoc] at member
    rw [limits_snoc]
    split at member
    · rcases List.mem_append.mp member with old | new
      · exact List.mem_append_left _ (ih l old)
      · exact List.mem_append_right _ new
    · cases member

/-- In every run: a task comes through only while fewer tasks of its group run than the last accepted
    task of the group allows, one at least. So no group runs more tasks than one of its limits since it
    was last created, nor more than `c` if its tasks always bring `c`. After every step a group with
    waiting tasks runs as many as it may, one at least. -/
theorem groups_keep_to_limits (config : PoolConfig) (steps : List (Step α)) (name : String) :
    let p := (new config : Pool α).run steps
    (∀ s, (∃ kept, kept <:+ p.ready ∧ (p.step s).ready = kept ++ (p.passages s).map Prod.fst) ∧
      ∀ job g, (job, g) ∈ p.passages s → g.running < g.limit ∧ g.queue.head? = some job ∧
        ∃ l, (limits job.group (new config) (steps ++ [s])).getLast? = some l ∧ g.limit = max l 1) ∧
      (ofGroup name p.held).length ≤ (p.group name).running ∧
      (∀ g, p.groups.get? name = some g →
        (∃ l ∈ limitsSince name (new config) [] steps, g.running ≤ max l 1) ∧
          (∃ l, (limits name (new config) steps).getLast? = some l ∧ g.limit = max l 1) ∧
          (g.queue ≠ [] → g.limit ≤ g.running ∧ ∃ job ∈ p.ready ++ p.held, job.group = name)) ∧
      ∀ c, (∀ limit work, .submit name limit work ∈ steps → limit = c) → (p.group name).running ≤ max c 1 := by
  have inv := accounted_run (accounted_new config) steps (α := α)
  have running := inv.running name
  refine ⟨fun s => ⟨ready_step _ s, fun job g passed => passages_run config steps s passed⟩, ?_, ?_, ?_⟩
  · rw [running, active, ofGroup_append, List.length_append]
    omega
  · intro g found
    have known := limited_run config steps name g found
    refine ⟨known.bounded, known.last, fun waiting => ⟨known.full waiting, ?_⟩⟩
    obtain ⟨l, _, limit⟩ := known.current
    have enough := known.full waiting
    rw [group_of_get? found] at running
    have some_ : 0 < (ofGroup name ((new config : Pool α).run steps).active).length := by omega
    obtain ⟨job, member⟩ := List.exists_mem_of_length_pos some_
    exact ⟨job, mem_ofGroup.mp member⟩
  · intro c only
    cases found : ((new config : Pool α).run steps).groups.get? name with
    | none =>
      rw [group_of_get?_none found]
      exact Nat.zero_le _
    | some g =>
      rw [group_of_get? found]
      obtain ⟨l, member, bound⟩ := (limited_run config steps name g found).bounded
      rw [limits_of_submits (new config) steps only l (limitsSince_subset name _ steps l member)] at bound
      exact bound

end Pool
end Courier
