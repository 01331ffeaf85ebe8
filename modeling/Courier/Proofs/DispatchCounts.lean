import Courier.Proofs.Chronicles

/-!
What the count of dispatched deliveries counts. A retry that the engine has kept enters the pool again without being
counted. One that has rested in the store is handed to the engine by a poll, like any other message, and is counted like
one. So the count leaves out retries just as far as they wait with the engine.
-/
namespace Courier

/-- Whether a delivery is a retry that comes back from the store. -/
def Arrival.restored (a : Arrival) : Bool :=
  a.again && match a.source with
    | .stored _ => true
    | _ => false

namespace Chronicle
variable {w : Chronicle} {config : EngineConfig}

/-! ### What has come in -/

theorem tickets_newArrivals (w : Chronicle) (after : System) (source : Source) :
    (w.newArrivals after (some source)).map Arrival.ticket =
      List.range' w.system.engine.pool.nextTicket
        (after.engine.pool.nextTicket - w.system.engine.pool.nextTicket) := by
  simp [newArrivals, Function.comp_def]

theorem length_newArrivals (w : Chronicle) (after : System) (source : Source) :
    (w.newArrivals after (some source)).length = after.engine.pool.nextTicket - w.system.engine.pool.nextTicket := by
  have length := congrArg List.length (w.tickets_newArrivals after source)
  simpa using length

/-- Whether every delivery that has come in is written down, and only once. -/
structure Listed (w : Chronicle) : Prop where
  distinct : (w.arrivals.map Arrival.ticket).Nodup
  past : ∀ a ∈ w.arrivals, a.ticket < w.system.engine.pool.nextTicket
  tasks : ∀ job ∈ w.system.engine.pool.tasks, ∀ d, job.work = .delivery d →
    ∃ a ∈ w.arrivals, a.ticket = job.ticket

theorem Listed.note (listed : w.Listed) (inv : w.system.engine.pool.Accounted) {depot : Depot} {source : Option Source}
    {told : List (Nat × Event)} {rest : Option Rest} (change : w.system.Change depot.system source told rest) :
    (w.note depot source told rest).Listed := by
  have tickets := change.nextTicket_le
  have known {job : Job Task} (old : job ∈ w.system.engine.pool.tasks) {d : Delivery} (is : job.work = .delivery d) :
      ∃ a ∈ w.arrivals ++ w.newArrivals depot.system source, a.ticket = job.ticket := by
    obtain ⟨a, member, same⟩ := listed.tasks job old d is
    exact ⟨a, List.mem_append_left _ member, same⟩
  have comes {source : Source} {P : Task → Prop} (pool : w.system.engine.pool.Admits P depot.system.engine.pool)
      {job : Job Task} (member : job ∈ depot.system.engine.pool.tasks)
      (late : w.system.engine.pool.nextTicket ≤ job.ticket) :
      ∃ a ∈ w.arrivals ++ w.newArrivals depot.system (some source), a.ticket = job.ticket := by
    have early := pool.accounted.fresh job member
    have inside : job.ticket ∈ (w.newArrivals depot.system (some source)).map Arrival.ticket := by
      rw [tickets_newArrivals, List.mem_range'_1]
      omega
    obtain ⟨a, new, same⟩ := List.mem_map.mp inside
    exact ⟨a, List.mem_append_right _ new, same⟩
  constructor
  · show ((w.arrivals ++ w.newArrivals depot.system source).map Arrival.ticket).Nodup
    rw [List.map_append, List.nodup_append]
    refine ⟨listed.distinct, ?_, ?_⟩
    · cases source with
      | none => exact List.nodup_nil
      | some source =>
        rw [tickets_newArrivals]
        exact List.nodup_range'
    · intro ticket old other new
      obtain ⟨a, before, rfl⟩ := List.mem_map.mp old
      obtain ⟨b, after, rfl⟩ := List.mem_map.mp new
      have first := listed.past a before
      have second := (mem_newArrivals after).2.2
      omega
  · intro a member
    rcases List.mem_append.mp member with old | new
    · exact Nat.lt_of_lt_of_le (listed.past a old) tickets
    · cases source with
      | none => cases new
      | some source =>
        have inside := List.mem_map_of_mem (f := Arrival.ticket) new
        rw [tickets_newArrivals, List.mem_range'_1] at inside
        show a.ticket < depot.system.engine.pool.nextTicket
        omega
  · intro job member d is
    cases change with
    | idles engine pool counted alarms =>
      rcases pool.tasks job member with old | ⟨_, foreign⟩
      · exact known old is
      · exact absurd is (foreign d)
    | takes outside engine alarms =>
      rcases engine.pool.tasks job member with old | ⟨late, _⟩
      · exact known old is
      · exact comes engine.pool member late
    | resubmits alarm purpose due engine pool counted alarms =>
      rcases pool.tasks job member with old | ⟨late, _⟩
      · exact known old is
      · exact comes pool member late
    | begins found work ready engine pool counted alarms =>
      have member : job ∈ depot.system.engine.pool.tasks := member
      rw [pool] at member
      rcases Pool.mem_tasks_revise inv found member with rfl | ⟨old, _⟩
      · have before := known (Pool.mem_tasks_of_held (List.mem_of_find?_eq_some found)) work
        exact before
      · exact known old is
    | ends found work closes pool counted leaves =>
      have member : job ∈ depot.system.engine.pool.tasks := member
      rw [pool] at member
      exact known (Pool.mem_tasks_complete inv found member).1 is

theorem listed_opened (clock : Clock) (broker : Broker) (config : EngineConfig) (registry : Registry)
    (interceptors : Nat) (pollers : List Poller) :
    (opened clock broker config registry interceptors pollers).Listed where
  distinct := List.nodup_nil
  past _ member := nomatch member
  tasks _ member := nomatch member

/-! ### What is counted -/

/-- Whether the dispatched deliveries are those that are no retries and those that come back from the store. -/
structure Counted (config : EngineConfig) (w : Chronicle) : Prop where
  orderly : w.system.Orderly
  settings : w.system.engine.config = config
  armed : ∀ alarm ∈ w.system.alarms.waiting, ∀ id, alarm.purpose = .retry id → ∃ r ∈ w.rests, r.source = .kept id
  again : ∀ r ∈ w.rests, r.source ≠ .sent
  route : config.route = .inProcess → ∀ r ∈ w.rests, ∀ e, r.source ≠ .stored e
  arrivals : ∀ a ∈ w.arrivals, a.again = true → ∃ r ∈ w.rests, r.source = a.source
  counted : w.system.engine.dispatched = w.arrivals.countP (fun a => !a.again) + w.arrivals.countP Arrival.restored

theorem again_iff_of_mem_newArrivals {after : System} {source : Option Source} {a : Arrival}
    (new : a ∈ w.newArrivals after source) : a.again = true ↔ ∃ r ∈ w.rests, r.source = a.source := by
  cases source with
  | none => cases new
  | some source =>
    obtain ⟨ticket, _, rfl⟩ := List.mem_map.mp new
    simp

/-- A message that comes in from outside the engine is counted, whether it is a retry or not. -/
theorem Counted.countP_takes (counted : w.Counted config) (after : System) {source : Source}
    (outside : ∀ id, source ≠ .kept id) :
    (w.newArrivals after (some source)).countP (fun a => !a.again) +
        (w.newArrivals after (some source)).countP Arrival.restored =
      after.engine.pool.nextTicket - w.system.engine.pool.nextTicket := by
  rw [← length_newArrivals w after source]
  have comes (a : Arrival) (new : a ∈ w.newArrivals after (some source)) : a.source = source :=
    (Option.some.inj (mem_newArrivals new).1).symm
  by_cases rests : ∃ r ∈ w.rests, r.source = source
  · have stored : ∃ e, source = .stored e := by
      obtain ⟨r, member, is⟩ := rests
      cases source with
      | sent => exact absurd is (counted.again r member)
      | kept id => exact absurd rfl (outside id)
      | stored e => exact ⟨e, rfl⟩
    obtain ⟨e, is⟩ := stored
    have again (a : Arrival) (new : a ∈ w.newArrivals after (some source)) : a.again = true := by
      rw [again_iff_of_mem_newArrivals new, comes a new]
      exact rests
    rw [List.countP_eq_zero.mpr, List.countP_eq_length.mpr, Nat.zero_add]
    · intro a new
      simp [Arrival.restored, again a new, comes a new, is]
    · intro a new
      simp [again a new]
  · have first (a : Arrival) (new : a ∈ w.newArrivals after (some source)) : a.again = false := by
      rw [← Bool.not_eq_true, again_iff_of_mem_newArrivals new, comes a new]
      exact rests
    rw [List.countP_eq_length.mpr, List.countP_eq_zero.mpr, Nat.add_zero]
    · intro a new
      simp [Arrival.restored, first a new]
    · intro a new
      simp [first a new]

/-- A retry that the engine has kept is not counted. -/
theorem Counted.countP_resubmits (counted : w.Counted config) (after : System) {alarm : Alarm Purpose} {id : Nat}
    (member : alarm ∈ w.system.alarms.waiting) (purpose : alarm.purpose = .retry id) :
    (w.newArrivals after (some (.kept id))).countP (fun a => !a.again) +
      (w.newArrivals after (some (.kept id))).countP Arrival.restored = 0 := by
  have comes (a : Arrival) (new : a ∈ w.newArrivals after (some (.kept id))) : a.source = .kept id :=
    (Option.some.inj (mem_newArrivals new).1).symm
  rw [List.countP_eq_zero.mpr, List.countP_eq_zero.mpr]
  · intro a new
    simp [Arrival.restored, comes a new]
  · intro a new
    have again : a.again = true := by
      rw [again_iff_of_mem_newArrivals new, comes a new]
      exact counted.armed alarm member id purpose
    simp [again]

/-- Whatever happens, the count grows by what comes in and is no retry, or comes back from the store. -/
theorem Counted.note (counted : w.Counted config) {depot : Depot} {source : Option Source} {told : List (Nat × Event)}
    {rest : Option Rest} (change : w.system.Change depot.system source told rest) :
    (w.note depot source told rest).Counted config where
  orderly := change.orderly counted.orderly
  settings := change.config.trans counted.settings
  armed := by
    intro alarm member id purpose
    rcases change.alarm_cases member with old | ⟨old, inside, same, _⟩ | ⟨r, new, is, kept, _⟩
    · obtain ⟨r, inside, is⟩ := counted.armed alarm old id purpose
      exact ⟨r, List.mem_append_left _ inside, is⟩
    · obtain ⟨r, inside, is⟩ := counted.armed old inside id (same.trans purpose)
      exact ⟨r, List.mem_append_left _ inside, is⟩
    · rw [purpose] at is
      cases is
      exact ⟨r, List.mem_append_right _ (Option.mem_toList.mpr new), kept⟩
  again := by
    intro r member
    rcases List.mem_append.mp member with old | new
    · exact counted.again r old
    · obtain ⟨ticket, job, d, _, _, leaves⟩ := change.leaves_of_rest (Option.mem_toList.mp new)
      cases leaves with
      | entry delivering route engine alarms =>
        intro is
        cases is
      | retry delivering config pending nextRetry alarms =>
        intro is
        cases is
  route := by
    intro route r member
    rcases List.mem_append.mp member with old | new
    · exact counted.route route r old
    · obtain ⟨ticket, job, d, _, _, leaves⟩ := change.leaves_of_rest (Option.mem_toList.mp new)
      cases leaves with
      | entry delivering elsewhere engine alarms =>
        rw [counted.settings, route] at elsewhere
        cases elsewhere
      | retry delivering config pending nextRetry alarms =>
        intro e is
        cases is
  arrivals := by
    intro a member again
    have rests : ∃ r ∈ w.rests, r.source = a.source := by
      rcases List.mem_append.mp member with old | new
      · exact counted.arrivals a old again
      · exact (again_iff_of_mem_newArrivals new).mp again
    obtain ⟨r, inside, is⟩ := rests
    exact ⟨r, List.mem_append_left _ inside, is⟩
  counted := by
    have before := counted.counted
    show depot.system.engine.dispatched = (w.arrivals ++ w.newArrivals depot.system source).countP _ +
      (w.arrivals ++ w.newArrivals depot.system source).countP _
    rw [List.countP_append, List.countP_append]
    cases change with
    | idles engine pool same alarms =>
      rw [same]
      exact before
    | takes outside engine alarms =>
      have more := counted.countP_takes depot.system outside
      have dispatched := engine.counted
      have tickets := engine.pool.tickets
      omega
    | resubmits member purpose due engine pool same alarms =>
      have none := counted.countP_resubmits depot.system member purpose
      omega
    | begins found is ready engine pool same alarms =>
      rw [same]
      exact before
    | ends found is closes pool same leaves =>
      rw [same]
      exact before

theorem counted_opened (clock : Clock) (broker : Broker) (config : EngineConfig) (registry : Registry)
    (interceptors : Nat) (pollers : List Poller) :
    (opened clock broker config registry interceptors pollers).Counted config where
  orderly := orderly_opened clock broker config registry interceptors pollers
  settings := rfl
  armed _ member := nomatch member
  again _ member := nomatch member
  route _ _ member := nomatch member
  arrivals _ member := nomatch member
  counted := rfl

/-- In every run, each delivery is written down once, when it comes in. The dispatched ones are those that are no retries
and the retries that come back from the store, so where retries wait with the engine, no retry is counted. -/
theorem dispatched_counts_stored_retries (clock : Clock) (broker : Broker) (config : EngineConfig) (registry : Registry)
    (interceptors : Nat) (pollers : List Poller) (acts : List Depot.Act) :
    let last := (opened clock broker config registry interceptors pollers).run acts
    (last.arrivals.map Arrival.ticket).Nodup ∧
      (∀ job ∈ last.system.engine.pool.tasks, ∀ d, job.work = .delivery d →
        ∃ a ∈ last.arrivals, a.ticket = job.ticket) ∧
      last.system.engine.stats.dispatched =
        last.arrivals.countP (fun a => !a.again) + last.arrivals.countP Arrival.restored ∧
      (config.route = .inProcess → last.system.engine.stats.dispatched = last.arrivals.countP (fun a => !a.again)) := by
  intro last
  have holds : last.Counted config ∧ last.Listed := by
    apply run_keeps (P := fun w => w.Counted config ∧ w.Listed)
    · exact ⟨counted_opened clock broker config registry interceptors pollers,
        listed_opened clock broker config registry interceptors pollers⟩
    · rintro w a _ ⟨counted, listed⟩
      obtain ⟨source, told, rest, is, change, _⟩ := act_cases counted.orderly a
      rw [is]
      exact ⟨counted.note change, listed.note counted.orderly.accounted change⟩
  obtain ⟨counted, listed⟩ := holds
  refine ⟨listed.distinct, listed.tasks, counted.counted, ?_⟩
  intro route
  have none : last.arrivals.countP Arrival.restored = 0 := by
    rw [List.countP_eq_zero]
    intro a member restored
    unfold Arrival.restored at restored
    obtain ⟨again, stored⟩ := Bool.and_eq_true_iff.mp restored
    obtain ⟨r, inside, is⟩ := counted.arrivals a member again
    cases source : a.source with
    | sent => simp [source] at stored
    | kept id => simp [source] at stored
    | stored e => exact counted.route route r inside e (is.trans source)
  have all := counted.counted
  rw [none] at all
  exact all

private def teller : Trigger := .new ⟨"orders", "paid"⟩ "teller"

private def payment : Message := ⟨"request", ⟨"orders", "paid"⟩, [], 1, 0, 0, false, .timely, .epoch, none⟩

/-- A depot whose engine has a handler for the message. -/
private def bank (route : RetryRoute) : Chronicle :=
  opened (.startedAt .epoch) .empty ⟨.standard, route, .standard, .zero⟩
    ⟨Table.empty.insert ⟨"orders", "paid"⟩ [teller], Table.empty.insert "teller" teller⟩ 0 [⟨.standard, .empty⟩]

/-- A message is tried twice: the handler fails, the retry comes back in some way, and the handler succeeds. -/
private def twoTries (back : List Depot.Act) : List Depot.Act :=
  [.outside (.dispatch payment), .outside .pickUp,
      .outside (.start 0 (fun _ _ => .proceed)), .outside (.finish 0 (.error ⟨"unreachable"⟩) 0),
      .outside (.passTo 3000000000)] ++
    back ++
    [.outside .pickUp, .outside (.start 1 (fun _ _ => .proceed)),
      .outside (.finish 1 (.ok ()) 0)]

/-- One message with one retry: it counts once if the retry waits with the engine, and twice if it waits in the
store. -/
theorem stored_retry_counts_twice :
    let kept := (bank .inProcess).run (twoTries [.outside (.ring 0 0)])
    let stored := (bank .delayStore).run
      (twoTries [.beginPoll 0, .go 0, .go 0, .go 0])
    (kept.system.engine.pool.outstanding = 0 ∧ kept.system.engine.stats.acked = 1 ∧
        kept.arrivals.countP (fun a => !a.again) = 1 ∧ kept.system.engine.stats.dispatched = 1) ∧
      stored.system.engine.pool.outstanding = 0 ∧ stored.system.engine.stats.acked = 1 ∧
        stored.arrivals.countP (fun a => !a.again) = 1 ∧ stored.system.engine.stats.dispatched = 2 := by
  decide +kernel

end Chronicle
end Courier
