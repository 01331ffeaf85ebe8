import Courier.Proofs.ToldTries

/-!
How long a retry rests. An alarm for a retry does not go off before the wait is over, however often it is set anew, and
an entry of the store is due no earlier than that, since the seconds are rounded up. Whoever brings a retry back does
so at that time or later, and its next try starts later still; whatever happens in between only makes it later.
-/
namespace Courier

/-! ### Polls fetch what is due -/

/-- Whether a poll may still hand an entry to the engine. -/
def Poll.Ahead (poll : Poll) (e : DueEntry) : Prop := e ∈ poll.rest ∨ poll.stage = .holding e

theorem Poll.ahead_step {poll : Poll} {p : Poller} {s : System} {e : DueEntry}
    (ahead : (poll.step System.surroundings p s).1.Ahead e) : poll.Ahead e := by
  have goes := (poll.goes p s).1
  unfold Ahead at ahead ⊢
  generalize (poll.step System.surroundings p s).1 = next at goes ahead
  generalize (poll.step System.surroundings p s).2.2 = after at goes
  generalize Depot.handover? poll p s = handed at goes
  cases goes with
  | ends how was rest stage =>
    rcases ahead with later | holding
    · exact .inl (rest.subset later)
    · simp [stage] at holding
  | looks x was rest stage =>
    rw [rest]
    rcases ahead with later | holding
    · exact .inl (List.mem_cons_of_mem x later)
    · rcases stage with same | free
      · rw [same] at holding
        cases holding
        exact .inl List.mem_cons_self
      · exact absurd holding (free e).1
  | drops x why was bad rest stage =>
    rcases ahead with later | holding
    · exact .inl (rest ▸ later)
    · simp [stage] at holding
  | hands h m genuine was rest stage =>
    rcases ahead with later | holding
    · exact .inl (rest ▸ later)
    · rcases stage with ⟨n, _, clearing⟩ | ⟨why, _, free⟩
      · simp [clearing] at holding
      · exact absurd holding (free e).1
  | clears x was rest free =>
    rcases ahead with later | holding
    · exact .inl (rest ▸ later)
    · exact absurd holding (free e).1

theorem DueStore.dueAt_le_of_fetch {s : DueStore} {now : Instant} {limit : Nat} {batch : List DueEntry}
    (fetched : s.fetch now limit = .ok batch) {e : DueEntry} (member : e ∈ batch) : e.dueAt ≤ now := by
  unfold fetch at fetched
  split at fetched
  · cases fetched
  · cases fetched
    rw [due_eq_take] at member
    exact (mem_allDue.mp (List.mem_of_mem_take member)).2

theorem Poller.dueAt_le_of_startPoll {p : Poller} {s : System} {poll : Poll}
    (started : p.startPoll System.surroundings s = .ok poll) {e : DueEntry} (ahead : poll.Ahead e) : e.dueAt ≤ s.now := by
  unfold startPoll at started
  split at started
  · cases fetched : System.surroundings.fetch s (System.surroundings.now s) p.config.batchSize with
    | error why => simp [fetched, bind, Except.bind] at started
    | ok batch =>
      obtain rfl : Poll.ofBatch batch = poll := by
        simpa [fetched, bind, Except.bind, pure, Except.pure] using started
      rcases ahead with member | holding
      · exact DueStore.dueAt_le_of_fetch fetched member
      · cases holding
  · cases started
    rcases ahead with member | holding
    · cases member
    · cases holding

/-! ### The clock -/

/-- Whether the clock can count up to the time that passes in an act. -/
def Depot.Act.Counts (a : Depot.Act) : Prop := ∀ n, a = .outside (.passTo n) → n < 2 ^ 64

namespace Chronicle
variable {w : Chronicle}

/-- Only what happens in the system apart from the pollers moves the clock. -/
theorem clock_act (w : Chronicle) (a : Depot.Act) :
    (w.act a).system.clock = w.system.clock ∨ ∃ b, a = .outside b ∧ (w.act a).system = w.system.act b := by
  cases a with
  | beginPoll place => exact .inl (w.depot.keeps_poll (by simp)).1
  | go k => exact .inl (w.depot.keeps_poll (by simp)).1
  | outside b => exact .inr ⟨b, rfl, rfl⟩

theorem start_act (w : Chronicle) (a : Depot.Act) : (w.act a).system.clock.start = w.system.clock.start := by
  rcases w.clock_act a with same | ⟨b, _, is⟩
  · rw [same]
  · rw [is]
    exact System.start_act w.system b

theorem count_le_act (w : Chronicle) {a : Depot.Act} (counts : a.Counts) : w.system.count ≤ (w.act a).system.count := by
  rcases w.clock_act a with same | ⟨b, rfl, is⟩
  · exact Nat.le_of_eq (System.count_congr same).symm
  · rw [is]
    apply System.count_le_act
    intro n passes
    exact counts n (by rw [passes])

/-- Entries that are due when a poll fetches them are due ever after. -/
theorem due_act (due : ∀ r ∈ w.depot.rounds, ∀ e, r.poll.Ahead e → e.dueAt ≤ w.system.now) (a : Depot.Act) :
    ∀ r ∈ (w.act a).depot.rounds, ∀ e, r.poll.Ahead e → e.dueAt ≤ w.system.now := by
  cases a with
  | outside b => exact due
  | beginPoll place =>
    intro r member
    have member : r ∈ (w.depot.beginPoll place).rounds := member
    unfold Depot.beginPoll at member
    split at member
    · exact due r member
    · split at member
      · exact due r member
      · rename_i started
        rcases List.mem_append.mp member with old | new
        · exact due r old
        · rw [List.mem_singleton.mp new]
          intro e
          exact Poller.dueAt_le_of_startPoll started
  | go k =>
    intro r member
    have member : r ∈ (w.depot.go k).rounds := member
    unfold Depot.go at member
    split at member
    · exact due r member
    · rename_i found
      split at member
      · exact due r member
      · rcases List.mem_or_eq_of_mem_set member with old | rfl
        · exact due r old
        · intro e ahead
          exact due _ (List.mem_of_getElem? found) e (Poll.ahead_step ahead)

end Chronicle

/-! ### Retries that rest -/

/-- Whether an entry of the store can count the seconds of a retry that rests in it. Seconds that it cannot count wrap
round, and the retry is due at once. -/
def Rest.IsCounted (r : Rest) : Prop := ∀ e, r.source = .stored e → r.wait.ceilSeconds < 2 ^ 64

/-- Whether a retry that rests cannot be brought back before its wait is over. -/
structure Rest.Waits (start : Instant) (s : System) (r : Rest) : Prop where
  again : r.source ≠ .sent
  kept : ∀ id, r.source = .kept id → id < s.engine.nextRetry ∧ ∃ n, r.startedAt = start.later (.ofNanos n) ∧
    ∀ alarm ∈ s.alarms.waiting, alarm.purpose = .retry id → n + r.wait.nanos ≤ alarm.deadline
  stored : r.IsCounted → ∀ e, r.source = .stored e → r.startedAt.later r.wait ≤ e.dueAt

/-- Whether a delivery that has come in came from where it did no earlier than a retry could. -/
structure Arrival.Late (s : System) (rests : List Rest) (a : Arrival) : Prop where
  past : a.now ≤ s.now
  kept : ∀ id, a.source = .kept id → id < s.engine.nextRetry
  stored : ∀ e, a.source = .stored e → e.dueAt ≤ a.now
  rested : ∀ r ∈ rests, r.source = a.source → r.IsCounted → r.startedAt.later r.wait ≤ a.now

namespace System
variable {s after : System} {source : Option Source} {told : List (Nat × Event)} {rest : Option Rest}
  {start : Instant}

/-- A retry that rests goes on waiting, whatever happens. -/
theorem Change.waits (change : s.Change after source told rest) {r : Rest} (waits : r.Waits start s) :
    r.Waits start after where
  again := waits.again
  kept := by
    intro id is
    obtain ⟨known, n, startedAt, alarms⟩ := waits.kept id is
    refine ⟨Nat.lt_of_lt_of_le known change.nextRetry_le, n, startedAt, ?_⟩
    intro alarm member purpose
    rcases change.alarm_cases member with old | ⟨old, inside, same, late⟩ | ⟨_, _, new, _⟩
    · exact alarms alarm old purpose
    · exact Nat.le_trans (alarms old inside (same.trans purpose)) late
    · -- the number of a retry that has come to rest just now is new
      rw [purpose] at new
      cases new
      exact absurd known (Nat.lt_irrefl _)
  stored := waits.stored

/-- What has come in stays late for the retries that come to rest afterwards. -/
theorem Change.late (change : s.Change after source told rest) (start : Instant) (passed : s.now ≤ after.now)
    {rests : List Rest} {a : Arrival} (late : a.Late s rests) (waits : ∀ r ∈ rest, r.Waits start after) :
    a.Late after (rests ++ rest.toList) where
  past := Instant.le_trans late.past passed
  kept id is := Nat.lt_of_lt_of_le (late.kept id is) change.nextRetry_le
  stored := late.stored
  rested := by
    intro r member same counted
    rcases List.mem_append.mp member with old | new
    · exact late.rested r old same counted
    · have new : r ∈ rest := Option.mem_toList.mp new
      cases is : r.source with
      | sent => exact absurd is (waits r new).again
      | kept id =>
        -- the delivery comes from a retry with an earlier number
        have known := late.kept id (same.symm.trans is)
        rw [change.id_of_rest new is] at known
        exact absurd known (Nat.lt_irrefl _)
      | stored e => exact Instant.le_trans ((waits r new).stored counted e is) (late.stored e (same.symm.trans is))

/-- A retry that the engine has kept comes in when an alarm for it is due. -/
theorem Change.due_of_kept {id : Nat} (change : s.Change after source told rest) (is : source = some (.kept id)) :
    ∃ alarm ∈ s.alarms.waiting, alarm.purpose = .retry id ∧ alarm.deadline ≤ s.count := by
  cases change with
  | idles engine pool counted alarms => cases is
  | takes outside engine alarms => exact absurd (Option.some.inj is) (outside id)
  | resubmits member purpose due engine pool counted alarms =>
    cases is
    exact ⟨_, member, purpose, due⟩
  | begins found work ready engine pool counted alarms => cases is
  | ends found work closes pool counted leaves => cases is

section Plain
variable (plain : start.nano < 1000000000) (since : s.clock.start = start)
  (armed : ∀ alarm ∈ s.alarms.waiting, ∀ id, alarm.purpose = .retry id → id < s.engine.nextRetry)
include plain since armed

/-- A retry that comes to rest waits from when its last try started. -/
theorem Change.rest_waits (change : s.Change after source told rest) {r : Rest} (new : r ∈ rest)
    (started : ∃ n ≤ s.count, r.startedAt = start.later (.ofNanos n)) : r.Waits start after := by
  obtain ⟨n, early, startedAt⟩ := started
  obtain ⟨ticket, job, d, _, _, leaves⟩ := change.leaves_of_rest new
  cases leaves with
  | @entry m wait delivering route engine alarms =>
    constructor
    · intro is
      cases is
    · intro id is
      cases is
    · intro counted e is
      have long := wait.nanos_le_wholeSeconds (counted e is)
      cases is
      show Instant.later _ wait ≤ s.now.later (.ofSeconds wait.wholeSeconds)
      rw [startedAt]
      show (start.later (.ofNanos n)).later wait ≤
        (s.clock.start.later s.clock.elapsedSpan).later (.ofSeconds wait.wholeSeconds)
      rw [since]
      apply Instant.later_later_mono plain
      have counted : n ≤ s.clock.elapsed.toNat := early
      rw [Clock.nanos_elapsedSpan, Span.nanos_ofNanos, Span.nanos_ofSeconds]
      omega
  | @retry wait delivering config pending nextRetry alarms =>
    constructor
    · intro is
      cases is
    · intro id is
      cases is
      refine ⟨by omega, n, startedAt, ?_⟩
      intro alarm member purpose
      rcases change.alarm_cases member with old | ⟨old, inside, same, _⟩ | ⟨r, is, _, _, late⟩
      · exact absurd (armed alarm old _ purpose) (Nat.lt_irrefl _)
      · exact absurd (armed old inside _ (same.trans purpose)) (Nat.lt_irrefl _)
      · obtain rfl := Option.mem_unique is new
        exact Nat.le_trans (Nat.add_le_add_right early _) late
    · intro _ e is
      cases is

/-- What comes in comes from where no retry is still waiting. -/
theorem Change.arrival_late (change : s.Change after source told rest) {a : Arrival} (comes : source = some a.source)
    (now : a.now = s.now) {rests : List Rest} (waits : ∀ r ∈ rests, r.Waits start s)
    (due : ∀ e, a.source = .stored e → e.dueAt ≤ s.now) : a.Late s rests := by
  have ended (r : Rest) (inside : r ∈ rests) {n : Nat} (startedAt : r.startedAt = start.later (.ofNanos n))
      (passed : n + r.wait.nanos ≤ s.count) : r.startedAt.later r.wait ≤ a.now := by
    rw [now, startedAt]
    show _ ≤ s.clock.start.later s.clock.elapsedSpan
    rw [since]
    apply Instant.later_later_le plain
    have passed : n + r.wait.nanos ≤ s.clock.elapsed.toNat := passed
    rw [Clock.nanos_elapsedSpan, Span.nanos_ofNanos]
    omega
  constructor
  · rw [now]
    exact Instant.le_refl _
  · intro id is
    obtain ⟨alarm, member, purpose, _⟩ := change.due_of_kept (comes.trans (congrArg some is))
    exact armed alarm member id purpose
  · intro e is
    rw [now]
    exact due e is
  · intro r inside same counted
    cases is : a.source with
    | sent => exact absurd (same.trans is) (waits r inside).again
    | kept id =>
      obtain ⟨alarm, member, purpose, early⟩ := change.due_of_kept (comes.trans (congrArg some is))
      obtain ⟨_, n, startedAt, alarms⟩ := (waits r inside).kept id (same.trans is)
      exact ended r inside startedAt (Nat.le_trans (alarms alarm member purpose) early)
    | stored e =>
      rw [now]
      exact Instant.le_trans ((waits r inside).stored counted e (same.trans is)) (due e is)

end Plain

end System

namespace Chronicle
variable {w : Chronicle} {start : Instant}

/-! ### Runs -/

/-- Whether no retry comes back before its wait is over. -/
structure Punctual (start : Instant) (w : Chronicle) : Prop where
  faithful : w.Faithful
  since : w.system.clock.start = start
  due : ∀ r ∈ w.depot.rounds, ∀ e, r.poll.Ahead e → e.dueAt ≤ w.system.now
  armed : ∀ alarm ∈ w.system.alarms.waiting, ∀ id, alarm.purpose = .retry id → id < w.system.engine.nextRetry
  started : ∀ ticket c, .attemptStarted c ∈ w.toldOf ticket →
    ∃ n ≤ w.system.count, c.startedAt = start.later (.ofNanos n)
  waits : ∀ r ∈ w.rests, r.Waits start w.system
  tried : ∀ r ∈ w.rests, ∃ c, .attemptStarted c ∈ w.toldOf r.ticket ∧ c.startedAt = r.startedAt
  late : ∀ a ∈ w.arrivals, a.Late w.system w.rests
  waited : ∀ a ∈ w.arrivals, ∀ c, .attemptStarted c ∈ w.toldOf a.ticket → a.now ≤ c.startedAt

/-- An attempt that is told of as started starts now. -/
theorem startedAt_of_change {s after : System} {source : Option Source} {told : List (Nat × Event)}
    {rest : Option Rest} (change : s.Change after source told rest) {ticket : Nat} {c : AttemptContext}
    (member : (ticket, Event.attemptStarted c) ∈ told) : c.startedAt = s.now := by
  cases change with
  | idles engine pool counted alarms => cases member
  | takes outside engine alarms => cases member
  | resubmits inside purpose due engine pool counted alarms => cases member
  | begins found is ready engine pool counted alarms =>
    cases List.mem_singleton.mp member
    rfl
  | ends found is closes pool counted leaves =>
    obtain ⟨e, inside, same⟩ := List.mem_map.mp member
    cases same
    rw [(closes.started c inside).2]
    rfl

/-- A retry that comes to rest is one of a try that has been told of as started. -/
theorem Faithful.tried (faithful : w.Faithful) {after : System} {source : Option Source} {told : List (Nat × Event)}
    {rest : Option Rest} (change : w.system.Change after source told rest) {r : Rest} (new : r ∈ rest) :
    ∃ c, .attemptStarted c ∈ w.toldOf r.ticket ∧ c.startedAt = r.startedAt := by
  obtain ⟨ticket, job, d, found, is, leaves⟩ := change.leaves_of_rest new
  have announced (delivering : d.attempt.state = .delivering) :
      ∃ c, .attemptStarted c ∈ w.toldOf ticket ∧ c.startedAt = d.attempt.startedAt := by
    rcases faithful.announced found is with ⟨ready, _⟩ | ⟨_, told⟩
    · exact absurd delivering ready.not_delivering
    · rw [told]
      exact ⟨d.context, List.mem_cons_self, rfl⟩
  cases leaves with
  | entry delivering route engine alarms => exact announced delivering
  | retry delivering config pending nextRetry alarms => exact announced delivering

/-- Whatever happens while the clock does not go back, no retry comes back too early. -/
theorem Punctual.note (punctual : w.Punctual start) (plain : start.nano < 1000000000) {depot : Depot}
    {source : Option Source} {told : List (Nat × Event)} {rest : Option Rest}
    (change : w.system.Change depot.system source told rest) (since : depot.system.clock.start = start)
    (counted : w.system.count ≤ depot.system.count) (passed : w.system.now ≤ depot.system.now)
    (due : ∀ r ∈ depot.rounds, ∀ e, r.poll.Ahead e → e.dueAt ≤ w.system.now)
    (fetched : ∀ e, source = some (.stored e) → e.dueAt ≤ w.system.now) :
    (w.note depot source told rest).Punctual start := by
  have more {ticket : Nat} {e : Event} (before : e ∈ w.toldOf ticket) :
      e ∈ (w.note depot source told rest).toldOf ticket :=
    mem_toldOf.mpr (List.mem_append_left _ (mem_toldOf.mp before))
  have new_or_old {ticket : Nat} {c : AttemptContext}
      (member : .attemptStarted c ∈ (w.note depot source told rest).toldOf ticket) :
      .attemptStarted c ∈ w.toldOf ticket ∨ c.startedAt = w.system.now := by
    rcases List.mem_append.mp (mem_toldOf.mp member) with old | new
    · exact .inl (mem_toldOf.mpr old)
    · exact .inr (startedAt_of_change change new)
  have waits (r : Rest) (member : r ∈ w.rests ++ rest.toList) : r.Waits start depot.system := by
    rcases List.mem_append.mp member with old | new
    · exact change.waits (punctual.waits r old)
    · have new : r ∈ rest := Option.mem_toList.mp new
      obtain ⟨c, before, same⟩ := punctual.faithful.tried change new
      apply change.rest_waits plain punctual.since punctual.armed new
      rw [← same]
      exact punctual.started r.ticket c before
  have arrives (a : Arrival) (member : a ∈ w.arrivals ++ w.newArrivals depot.system source) :
      a.Late w.system w.rests := by
    rcases List.mem_append.mp member with old | new
    · exact punctual.late a old
    · obtain ⟨comes, now, _⟩ := mem_newArrivals new
      apply change.arrival_late plain punctual.since punctual.armed comes now punctual.waits
      intro e is
      exact fetched e (comes.trans (congrArg some is))
  constructor
  · exact punctual.faithful.note change
  · exact since
  · intro r member e ahead
    exact Instant.le_trans (due r member e ahead) passed
  · intro alarm member id purpose
    have bound := change.nextRetry_le
    rcases change.alarm_cases member with old | ⟨old, inside, same, _⟩ | ⟨r, inside, new, is, _⟩
    · exact Nat.lt_of_lt_of_le (punctual.armed alarm old id purpose) bound
    · exact Nat.lt_of_lt_of_le (punctual.armed old inside id (same.trans purpose)) bound
    · rw [purpose] at new
      cases new
      exact ((waits r (List.mem_append_right _ (Option.mem_toList.mpr inside))).kept _ is).1
  · intro ticket c member
    rcases new_or_old member with old | now
    · obtain ⟨n, early, startedAt⟩ := punctual.started ticket c old
      exact ⟨n, Nat.le_trans early counted, startedAt⟩
    · refine ⟨w.system.count, counted, ?_⟩
      rw [now, ← punctual.since]
      rfl
  · exact waits
  · intro r member
    rcases List.mem_append.mp member with old | new
    · obtain ⟨c, before, same⟩ := punctual.tried r old
      exact ⟨c, more before, same⟩
    · obtain ⟨c, before, same⟩ := punctual.faithful.tried change (Option.mem_toList.mp new)
      exact ⟨c, more before, same⟩
  · intro a member
    apply change.late start passed (arrives a member)
    intro r new
    exact waits r (List.mem_append_right _ (Option.mem_toList.mpr new))
  · intro a member c is
    have past := (arrives a member).past
    rcases new_or_old is with old | now
    · rcases List.mem_append.mp member with before | new
      · exact punctual.waited a before c old
      · -- nothing has been told about a try that has just come in
        rw [punctual.faithful.fresh a.ticket (mem_newArrivals new).2.2] at old
        cases old
    · rw [now]
      exact past

theorem Punctual.act (punctual : w.Punctual start) (plain : start.nano < 1000000000) {a : Depot.Act} (counts : a.Counts) :
    (w.act a).Punctual start := by
  have since := (w.start_act a).trans punctual.since
  have counted := w.count_le_act counts
  have within : w.system.clock.start ≤ Instant.latest := by
    rw [punctual.since]
    exact Instant.le_latest plain
  have passed := System.now_le_of_count_le within (w.start_act a) counted
  have due := w.due_act punctual.due a
  obtain ⟨source, told, rest, is, change, fetched⟩ := act_cases punctual.faithful.orderly a
  rw [is]
  apply punctual.note plain change since counted passed due
  intro e found
  obtain ⟨r, member, holding⟩ := fetched e found
  exact punctual.due r member e (.inr holding)

private def porter : Trigger := .new ⟨"parcels", "sent"⟩ "porter"

private def parcel : Message := ⟨"parcel", ⟨"parcels", "sent"⟩, [], 1, 0, 0, false, .timely, .epoch, none⟩

/-- A chronicle with a porter, where failures are to wait in the store for all time. -/
private def forever : Chronicle :=
  opened (.startedAt .epoch) .empty ⟨⟨3, .longest, .longest, 0.0, .fixed⟩, .delayStore, .standard, .zero⟩
    ⟨Table.empty.insert ⟨"parcels", "sent"⟩ [porter], Table.empty.insert "porter" porter⟩ 0 [⟨.standard, .empty⟩]

/-- The longest wait leads past the latest instant, and its seconds are not counted: the next try starts on a clock
that has not moved. -/
theorem uncounted_wait_is_none :
    let last := forever.run [.outside (.deliver parcel porter), .outside .pickUp,
      .outside (.start 0 (fun _ _ => .proceed)), .outside (.finish 0 (.error ⟨"nobody home"⟩) 0),
      .beginPoll 0, .go 0, .go 0, .outside .pickUp, .outside (.start 1 (fun _ _ => .proceed))]
    last.rests.map (fun r => (r.ticket, r.startedAt, r.wait)) = [(0, .epoch, .longest)] ∧
      last.rests.map Rest.source = (last.arrivals.filter (fun a => a.ticket = 1)).map Arrival.source ∧
      last.toldOf 1 = [.attemptStarted ⟨"parcel", ⟨"parcels", "sent"⟩, "porter", 2, true, .epoch⟩] := by
  decide +kernel

end Chronicle
end Courier
