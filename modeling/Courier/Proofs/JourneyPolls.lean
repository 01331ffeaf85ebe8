import Courier.Proofs.Journeys

/-!
What the poller does to the message of an errand. A poll leaves a message alone that no entry holds. The entry
that holds it stays in the store until the engine has taken the message; from then on it is only cleared away.
-/
namespace Courier

namespace Poll

theorem ended_of_isOver {poll : Poll} (ended : poll.isOver = true) : ∃ how, poll.stage = .ended how := by
  unfold isOver at ended
  split at ended
  · rename_i how stage
    exact ⟨how, stage⟩
  · cases ended

/-! ### What a step of a poll leaves alone -/

/-- What no step of a poll changes, and how long the locks last that it takes. -/
structure Keeps (s after : System) (p next : Poller) : Prop where
  clock : after.clock = s.clock
  alarms : after.alarms = s.alarms
  publishes : after.broker.publishError = s.broker.publishError
  fetches : after.broker.store.fetchError = s.broker.store.fetchError
  locks : ∀ key ends, after.broker.store.locks.get? key = some ends →
    s.broker.store.locks.get? key = some ends ∨ ends = s.count + p.config.lockTimeout.nanos
  config : next.config = p.config

private theorem keeps_claim (s : System) (p : Poller) (e : DueEntry) {next : Poller} (config : next.config = p.config) :
    Keeps s (s.claim e p.config.lockTimeout).2 p next := by
  have fetches : (s.broker.store.claim e p.config.lockTimeout s.count).2.fetchError = s.broker.store.fetchError := by
    unfold DueStore.claim
    split
    · rfl
    · split
      · rfl
      · rfl
  refine ⟨rfl, rfl, rfl, fetches, fun key ends found => ?_, config⟩
  rcases s.broker.store.claim_cases e p.config.lockTimeout s.count with ⟨_, _, same⟩ | ⟨_, _, put⟩ | ⟨_, _, same⟩
  · exact .inl (same ▸ found)
  · have found : (s.broker.store.locks.insert e.lockKey (s.count + p.config.lockTimeout.nanos)).get? key = some ends :=
      put ▸ found
    rw [Table.get?_insert] at found
    split at found
    · exact .inr (Option.some.inj found).symm
    · exact .inl found
  · exact .inl (same ▸ found)

/-- A step of a poll changes the engine, the entries and locks of the store, and what the poller remembers. -/
theorem keeps_step (poll : Poll) (p : Poller) (s : System) :
    Keeps s (poll.step System.surroundings p s).2.2 p (poll.step System.surroundings p s).2.1 := by
  obtain ⟨goes, config⟩ := poll.goes p s
  generalize (poll.step System.surroundings p s).2.2 = after at goes ⊢
  generalize Depot.handover? poll p s = handed at goes
  have same (locks : after.broker.store.locks = s.broker.store.locks) (clock : after.clock = s.clock)
      (alarms : after.alarms = s.alarms) (publishes : after.broker.publishError = s.broker.publishError)
      (fetches : after.broker.store.fetchError = s.broker.store.fetchError) :
      Keeps s after p (poll.step System.surroundings p s).2.1 :=
    ⟨clock, alarms, publishes, fetches, fun _ _ found => .inl (locks ▸ found), config⟩
  cases goes with
  | ends => exact same rfl rfl rfl rfl rfl
  | looks e => exact keeps_claim s p e config
  | drops => exact same rfl rfl rfl rfl rfl
  | hands => exact same rfl rfl rfl rfl rfl
  | clears => exact same rfl rfl rfl rfl rfl

/-- The engine is what it was, or what the message that is handed to it makes of it. -/
theorem engine_step (poll : Poll) (p : Poller) (s : System) :
    (poll.step System.surroundings p s).2.2.engine =
      ((Depot.handover? poll p s).map Handover.after).getD s.engine := by
  have goes := (poll.goes p s).1
  generalize (poll.step System.surroundings p s).2.2 = after at goes ⊢
  generalize Depot.handover? poll p s = handed at goes ⊢
  cases goes with
  | ends => rfl
  | looks => rfl
  | drops => rfl
  | hands => rfl
  | clears => rfl

/-- How many steps a poll has left at most. -/
def toGo (poll : Poll) : Nat :=
  match poll.stage with
  | .looking => 3 * poll.rest.length + 1
  | .holding _ => 3 * poll.rest.length + 3
  | .clearing _ => 3 * poll.rest.length + 2
  | .ended _ => 0

private theorem toGo_holding {poll : Poll} {e : DueEntry} (holding : poll.stage = .holding e) :
    poll.toGo = 3 * poll.rest.length + 3 := by
  rw [toGo, holding]

private theorem toGo_clearing {poll : Poll} {e : DueEntry} (clearing : poll.stage = .clearing e) :
    poll.toGo = 3 * poll.rest.length + 2 := by
  rw [toGo, clearing]

private theorem IsFree.toGo_le {poll : Poll} (free : poll.IsFree) : poll.toGo ≤ 3 * poll.rest.length + 1 := by
  unfold toGo
  cases stage : poll.stage with
  | looking => exact Nat.le_refl _
  | ended how => exact Nat.zero_le _
  | holding e => exact absurd stage (free e).1
  | clearing e => exact absurd stage (free e).2

/-- A poll comes to its end. -/
theorem toGo_step {poll : Poll} (under : poll.isOver = false) (p : Poller) (s : System) :
    (poll.step System.surroundings p s).1.toGo < poll.toGo := by
  have goes := (poll.goes p s).1
  generalize (poll.step System.surroundings p s).1 = next at goes ⊢
  generalize Depot.handover? poll p s = handed at goes
  generalize (poll.step System.surroundings p s).2.2 = after at goes
  cases goes with
  | ends how was rest stage =>
    have none : next.toGo = 0 := by rw [toGo, stage]
    rw [none, toGo]
    unfold isOver at under
    split
    · exact Nat.succ_pos _
    · exact Nat.succ_pos _
    · exact Nat.succ_pos _
    · rename_i stage
      rw [stage] at under
      cases under
  | looks e was rest stage =>
    have here : poll.toGo = 3 * (next.rest.length + 1) + 1 := by rw [toGo, was, rest, List.length_cons]
    rcases stage with holding | free
    · rw [here, toGo_holding holding]
      omega
    · have few := free.toGo_le
      omega
  | drops e why was bad rest stage =>
    rw [toGo_holding was, toGo_clearing stage, rest]
    omega
  | hands h m genuine was rest stage =>
    rw [toGo_holding was, ← rest]
    rcases stage with ⟨n, ok, clearing⟩ | ⟨why, refused, free⟩
    · rw [toGo_clearing clearing]
      omega
    · have few := free.toGo_le
      omega
  | clears e was rest free =>
    have few := free.toGo_le
    rw [toGo_clearing was, ← rest]
    omega

theorem step_claims {poll : Poll} {x : DueEntry} {rest : List DueEntry} {p : Poller} {s : System}
    (looking : poll.stage = .looking) (line : poll.rest = x :: rest) (accepting : s.engine.isAccepting = true)
    (unlocked : s.broker.store.isLocked x s.count = false) (tellable : Timer.isTellable p.config.lockTimeout = true) :
    (poll.step System.surroundings p s).1.stage = .holding x := by
  simp only [step, looking, line, System.surroundings, accepting, if_true, Poll.claim, System.claim, DueStore.claim,
    unlocked, Bool.false_eq_true, if_false, tellable, Option.map_some]

end Poll

namespace Engine

/-- A message that is for one known handler goes to that handler, or is refused by a pool that is full. -/
theorem dispatch_addressed {engine : Engine} (open_ : engine.pool.Open) {m : Message} {t : Trigger}
    (target : m.targetHandler = some t.handlerId) (known : engine.registry.find t.handlerId = some t) (now : Instant) :
    (∃ pool, engine.pool.submit t.handlerId t.concurrency
          (.delivery ⟨engine.dispatched, m, t, .new m t.handlerId now⟩) = .ok pool ∧
        engine.dispatch m now = (.ok 1, { engine with pool, dispatched := engine.dispatched + 1 })) ∨
      (engine.pool.config.capacity ≤ engine.pool.outstanding ∧ ∃ why, engine.dispatch m now = (.error why, engine)) := by
  cases taken : engine.pool.submit t.handlerId t.concurrency
      (.delivery ⟨engine.dispatched, m, t, .new m t.handlerId now⟩) with
  | ok pool =>
    refine .inl ⟨pool, rfl, ?_⟩
    simp [dispatch, target, known, feed, deliver_ok_of_submit taken]
  | error why =>
    refine .inr ⟨(open_.refusal taken).1, why, ?_⟩
    simp [dispatch, target, known, feed, deliver, submit, taken, bind, Except.bind]

end Engine

namespace Journey

variable {e : Errand} {been : DueEntry → Prop} {w : Journey}

/-! ### A message that no entry holds -/

theorem goOn_step (under : w.poll.isOver = false) :
    w.goOn =
      { w with
        system := (w.poll.step System.surroundings w.poller w.system).2.2
        poller := (w.poll.step System.surroundings w.poller w.system).2.1
        poll := (w.poll.step System.surroundings w.poller w.system).1 } := by
  simp only [goOn, under, Bool.false_eq_true, if_false]

theorem toGo_goOn (under : w.poll.isOver = false) : w.goOn.poll.toGo < w.poll.toGo := by
  rw [goOn_step under]
  exact Poll.toGo_step under w.poller w.system

private theorem goOn_start (sound : w.Sound e) (ended : w.poll.isOver = true) :
    ∃ batch, w.goOn = { w with poll := .ofBatch batch } ∧
      w.system.broker.store.due w.system.now w.poller.config.batchSize = batch ∧ batch.Sublist w.entries := by
  have fetched : w.system.broker.store.fetch w.system.now w.poller.config.batchSize =
      .ok (w.system.broker.store.due w.system.now w.poller.config.batchSize) := by
    simp only [DueStore.fetch, sound.fetches]
  refine ⟨_, ?_, rfl, DueStore.fetch_ok fetched⟩
  have accepting : w.system.engine.isAccepting = true := sound.pool.accepting
  simp only [goOn, ended, if_true, Poller.startPoll, System.surroundings, accepting, fetched, bind, Except.bind, pure,
    Except.pure]

private theorem Sound.step (sound : w.Sound e) {poll : Poll} {poller : Poller} {system : System}
    (keeps : Poll.Keeps w.system system w.poller poller) (fit : Fit e system.engine) :
    Sound e { w with system, poller, poll } where
  toFit := fit
  clock := keeps.clock ▸ sound.clock
  publishes := keeps.publishes.trans sound.publishes
  fetches := keeps.fetches.trans sound.fetches
  locks key ends found := by
    have count : system.count = w.system.count := by rw [System.count, keeps.clock]; rfl
    show ends ≤ system.count + _
    rw [count]
    rcases keeps.locks key ends found with old | new
    · exact sound.locks key ends old
    · exact Nat.le_of_eq (by rw [new, sound.polling])
  polling := keeps.config.trans sound.polling

/-- If nothing is handed to the engine, all but the store and the poller lasts. -/
private theorem lasts_step {poll : Poll} {poller : Poller} {system : System}
    (keeps : Poll.Keeps w.system system w.poller poller) (engine : system.engine = w.system.engine) :
    w.Lasts { w with system, poller, poll } := by
  refine ⟨?_, ?_, ?_, keeps.alarms, rfl, ?_⟩
  · show system.engine.pool.deliveries.Perm _
    rw [engine]
    exact List.Perm.refl _
  · intro job inside d _
    show job ∈ system.engine.pool.held
    rw [engine]
    exact inside
  · show system.engine.pending = _
    rw [engine]
  · show w.system.count ≤ system.count
    exact Nat.le_of_eq (by rw [System.count, System.count, keeps.clock])

private theorem Sound.start (sound : w.Sound e) (poll : Poll) : Sound e { w with poll } :=
  ⟨sound.toFit, sound.clock, sound.publishes, sound.fetches, sound.locks, sound.polling⟩

private theorem lasts_start (poll : Poll) : w.Lasts { w with poll } :=
  ⟨List.Perm.refl _, fun _ inside _ _ => inside, rfl, rfl, rfl, Nat.le_refl _⟩

/-- A poll leaves a message alone that no entry holds. -/
theorem cleared_goOn (sound : w.Sound e) (cleared : w.Cleared) :
    w.goOn.Sound e ∧ w.Lasts w.goOn ∧ w.goOn.Cleared ∧ w.goOn.poll.IsFree := by
  by_cases ended : w.poll.isOver
  · obtain ⟨how, stage⟩ := Poll.ended_of_isOver ended
    obtain ⟨batch, started, _, part⟩ := goOn_start sound ended
    have empty : w.entries = [] := by
      refine List.eq_nil_iff_forall_not_mem.mpr (fun z inside => ?_)
      obtain ⟨y, clearing, _⟩ := cleared.entries z inside
      rw [stage] at clearing
      cases clearing
    have none : batch = [] := by
      rw [empty] at part
      exact List.sublist_nil.mp part
    subst none
    rw [started]
    refine ⟨sound.start _, lasts_start _, ?_, ?_⟩
    · refine ⟨rfl, fun x => (Poll.isFree_looking rfl x).1, fun z inside => ?_⟩
      have inside : z ∈ w.entries := inside
      rw [empty] at inside
      cases inside
    · exact Poll.isFree_looking rfl
  · have moves := Poll.moves w.poll w.poller w.system
    have keeps := Poll.keeps_step w.poll w.poller w.system
    have engine := Poll.engine_step w.poll w.poller w.system
    rw [goOn_step (by simpa using ended)]
    generalize w.poll.step System.surroundings w.poller w.system = next at moves keeps engine ⊢
    obtain ⟨poll, poller, system⟩ := next
    generalize Depot.handover? w.poll w.poller w.system = handed at moves engine
    -- a poll that has nothing at hand and nothing to come can only go by or clear an entry away
    have rest {suffix : List DueEntry} (part : suffix <:+ w.poll.rest) : suffix = [] := by
      rw [cleared.rest] at part
      exact List.suffix_nil.mp part
    cases moves with
    | passes was free part store =>
      refine ⟨sound.step keeps (engine ▸ sound.toFit), lasts_step keeps engine,
        ⟨rest part, fun x => (free x).1, fun z inside => ?_⟩, free⟩
      have old : z ∈ w.system.broker.store.entries := by
        rw [← store]
        exact inside
      obtain ⟨y, clearing, _⟩ := cleared.entries z old
      exact absurd clearing (was y).2
    | claims x was part => exact absurd (cleared.rest ▸ part) (by simp)
    | drops x why was => exact absurd was (cleared.free x)
    | takes h m taken was => exact absurd was (cleared.free _)
    | defers h m why genuine refused was => exact absurd was (cleared.free _)
    | clears x was part free store =>
      refine ⟨sound.step keeps (engine ▸ sound.toFit), lasts_step keeps engine,
        ⟨rest (part ▸ List.suffix_refl _), fun x => (free x).1, fun z inside => ?_⟩, free⟩
      have left : z ∈ (w.system.broker.store.remove x).2.entries := by
        rw [← store]
        exact inside
      obtain ⟨old, other⟩ := DueStore.mem_remove.mp left
      obtain ⟨y, clearing, same⟩ := cleared.entries z old
      cases was.symm.trans clearing
      exact absurd same other

/-! ### A message that an entry holds -/

private theorem nil_or_singleton {x : DueEntry} {entries : List DueEntry}
    (ordered : entries.Pairwise DueEntry.Precedes) (same : ∀ z ∈ entries, z = x) : entries = [] ∨ entries = [x] := by
  cases entries with
  | nil => exact .inl rfl
  | cons first rest =>
    have here := same first List.mem_cons_self
    subst here
    cases rest with
    | nil => exact .inr rfl
    | cons second rest =>
      have before := (List.pairwise_cons.mp ordered).1 second List.mem_cons_self
      rw [same second (List.mem_cons_of_mem _ List.mem_cons_self)] at before
      exact absurd before (DueEntry.Precedes.irrefl _)

/-- While nothing is being cleared away, the store holds the entry alone. -/
private theorem Alone.eq_of_apart {x : DueEntry} (alone : w.Alone x) (apart : ∀ y, w.poll.stage ≠ .clearing y) :
    ∀ z ∈ w.entries, z = x := by
  intro z inside
  rcases alone.entries z inside with is | ⟨y, clearing, _⟩
  · exact is
  · exact absurd clearing (apart y)

/-- The poller does not look at other entries while it has one at hand. -/
private theorem Alone.rest_eq_nil {x y : DueEntry} (alone : w.Alone x)
    (busy : w.poll.stage = .holding y ∨ w.poll.stage = .clearing y) : w.poll.rest = [] := by
  rcases alone.rest with empty | ⟨_, free⟩
  · exact empty
  · rcases busy with holding | clearing
    · exact absurd holding (free y).1
    · exact absurd clearing (free y).2

/-- What a poller may have done with the entry: it left it where it is, or brought its message to the engine. -/
inductive Polled (e : Errand) (been : DueEntry → Prop) (w after : Journey) (k : Nat) (x : DueEntry) (m : Message) : Prop
  | left (stored : after.Stored e k x m) (apart : ∀ y, after.poll.stage ≠ .clearing y)
      (engine : after.system.engine = w.system.engine)
  | brought (d : Delivery) (queued : after.Queued e k d) (cleared : after.Cleared) (dated : after.Dated been k)

private theorem stored_start (sound : w.Sound e) {k : Nat} {x : DueEntry} {m : Message} (stored : w.Stored e k x m)
    (ended : w.poll.isOver = true) : w.goOn.Sound e ∧ Polled e been w w.goOn k x m := by
  obtain ⟨how, stage⟩ := Poll.ended_of_isOver ended
  obtain ⟨batch, started, _, part⟩ := goOn_start sound ended
  have same : ∀ z ∈ w.entries, z = x := stored.alone.eq_of_apart (fun y => by rw [stage]; nofun)
  have found : batch = [] ∨ batch = [x] :=
    nil_or_singleton (w.system.broker.store.ordered.sublist part) (fun z inside => same z (part.subset inside))
  have free : (Poll.ofBatch batch).IsFree := Poll.isFree_looking rfl
  rw [started]
  refine ⟨sound.start _, .left ?_ ?_ rfl⟩
  · refine (lasts_start _).stored stored stored.inside ⟨fun z inside => .inl (same z inside), ?_,
      found.imp_right (fun is => ⟨is, free⟩), ?_⟩
    · exact fun y clearing => absurd clearing (free y).2
    · exact fun y holding => absurd holding (free y).1
  · exact fun y => (free y).2

private theorem handover_holding {poll : Poll} {p : Poller} {s : System} {x : DueEntry} {m : Message}
    (holding : poll.stage = .holding x) (message : x.message = .ok m) :
    ∃ told : Message, told.plain = m.plain ∧ told.targetHandler = m.targetHandler ∧
      Depot.handover? poll p s =
        some ⟨x, told, s.now, s.engine, (s.engine.dispatch told s.now).1, (s.engine.dispatch told s.now).2⟩ :=
  ⟨{ m with pollingCount := raise m.pollingCount (p.seenInVain x + 1) }, rfl, rfl, by
    simp only [Depot.handover?, holding, message]⟩

private theorem stored_takes (sound : w.Sound e) {k : Nat} {x : DueEntry} {m told : Message} (stored : w.Stored e k x m)
    (been_ : been x) (holding : w.poll.stage = .holding x) (plain : told.plain = m.plain)
    {pool : Pool Task} (taken : w.system.engine.pool.submit e.trigger.handlerId e.trigger.concurrency
      (.delivery ⟨w.system.engine.dispatched, told, e.trigger, .new told e.trigger.handlerId w.system.now⟩) = .ok pool)
    {poll : Poll} {poller : Poller} {system : System} (keeps : Poll.Keeps w.system system w.poller poller)
    (engine : system.engine = { w.system.engine with pool, dispatched := w.system.engine.dispatched + 1 })
    (rest : poll.rest = w.poll.rest) (stage : poll.stage = .clearing x)
    (store : system.broker.store.entries = w.system.broker.store.entries) :
    Sound e { w with system, poller, poll } ∧ Polled e been w { w with system, poller, poll } k x m := by
  have fit : Fit e system.engine := by
    rw [engine]
    exact ⟨sound.config, sound.registry, sound.timers, sound.pool.submit taken⟩
  have only : system.engine.pool.deliveries = [⟨w.system.engine.dispatched, told, e.trigger,
      .new told e.trigger.handlerId w.system.now⟩] := by
    have entered := Pool.deliveries_submit taken
    rw [show w.system.engine.pool.deliveries = [] from stored.none] at entered
    rw [engine]
    exact List.perm_singleton.mp entered
  have pending : system.engine.pending = w.system.engine.pending := by rw [engine]
  have same : ∀ z ∈ w.entries, z = x := stored.alone.eq_of_apart (fun y => by rw [holding]; nofun)
  refine ⟨sound.step keeps fit, .brought _ ⟨?_, only, ⟨rfl, plain.trans stored.sees, .inl rfl⟩, ⟨?_, ?_⟩, stored.waited⟩
    ⟨rest.trans (stored.alone.rest_eq_nil (.inl holding)), ?_, fun z inside => ?_⟩ ?_⟩
  · exact ⟨stored.course.fails, stored.course.allowed, stored.course.seen⟩
  · show system.engine.pending.entries = []
    rw [pending]
    exact stored.quiet.pending
  · show system.alarms.waiting = []
    rw [keeps.alarms]
    exact stored.quiet.alarms
  · intro y held
    cases stage.symm.trans held
  · have old : z ∈ w.system.broker.store.entries := by
      rw [← store]
      exact inside
    rw [same z old]
    exact ⟨x, stage, .refl x⟩
  · intro y clearing
    cases stage.symm.trans clearing
    have failures : m.failRetryCount = k.toUInt32 := congrArg Message.failRetryCount stored.sees
    refine ⟨been_, m, stored.message, ?_⟩
    rw [failures]
    exact Nat.mod_le _ _

private theorem stored_step (sound : w.Sound e) {k : Nat} {x : DueEntry} {m : Message} (stored : w.Stored e k x m)
    (been_ : been x) (under : w.poll.isOver = false) : w.goOn.Sound e ∧ Polled e been w w.goOn k x m := by
  have moves := Poll.moves w.poll w.poller w.system
  have keeps := Poll.keeps_step w.poll w.poller w.system
  have engine := Poll.engine_step w.poll w.poller w.system
  have alone := stored.alone
  rw [goOn_step under]
  generalize w.poll.step System.surroundings w.poller w.system = next at moves keeps engine ⊢
  obtain ⟨poll, poller, system⟩ := next
  generalize handedIs : Depot.handover? w.poll w.poller w.system = handed at moves engine
  -- as long as the engine stays as it is, so does the entry, which is the only one that is left
  have left (same : system.engine = w.system.engine) (inside : x ∈ system.broker.store.entries)
      (only : ∀ z ∈ system.broker.store.entries, z = x) (apart : ∀ y, poll.stage ≠ .clearing y)
      (rest : poll.rest = [] ∨ (poll.rest = [x] ∧ poll.IsFree)) (held : ∀ y, poll.stage = .holding y → y = x) :
      Sound e { w with system, poller, poll } ∧ Polled e been w { w with system, poller, poll } k x m := by
    refine ⟨sound.step keeps (same ▸ sound.toFit), .left ((lasts_step keeps same).stored stored inside ?_) apart same⟩
    exact ⟨fun z within => .inl (only z within), fun y clearing => absurd clearing (apart y), rest, held⟩
  have kept (store : system.broker.store.entries = w.system.broker.store.entries)
      (apart : ∀ y, w.poll.stage ≠ .clearing y) :
      x ∈ system.broker.store.entries ∧ ∀ z ∈ system.broker.store.entries, z = x := by
    rw [store]
    exact ⟨stored.inside, alone.eq_of_apart apart⟩
  have known : w.system.engine.registry.find e.trigger.handlerId = some e.trigger := by
    rw [sound.registry]
    exact e.registered
  cases moves with
  | passes was free part store =>
    obtain ⟨inside, only⟩ := kept store (fun y => (was y).2)
    refine left engine inside only (fun y => (free y).2) ?_ (fun y held => absurd held (free y).1)
    rcases alone.rest with empty | ⟨single, _⟩
    · rw [empty] at part
      exact .inl (List.suffix_nil.mp part)
    · rw [single] at part
      rcases List.suffix_cons_iff.mp part with all | some
      · exact .inr ⟨all, free⟩
      · exact .inl (List.suffix_nil.mp some)
  | claims y was part stage store =>
    have split : [x] = y :: poll.rest := by
      rcases alone.rest with empty | ⟨single, _⟩
      · exact absurd (empty.symm.trans part) (by simp)
      · exact single.symm.trans part
    obtain ⟨rfl, empty⟩ := List.cons.inj split
    obtain ⟨inside, only⟩ := kept store (fun y => by rw [was]; nofun)
    refine left engine inside only (fun y => by rw [stage]; nofun) (.inl empty.symm) (fun y held => ?_)
    cases stage.symm.trans held
    rfl
  | drops y why was bad =>
    rw [alone.held y was, stored.message] at bad
    cases bad
  | takes h m' taken was rest stage store engineIs =>
    have here := alone.held _ was
    rw [here] at was stage
    obtain ⟨told, plain, target, handed⟩ := handover_holding (p := w.poller) (s := w.system) was stored.message
    rw [handed] at handedIs
    obtain rfl := Option.some.inj handedIs
    rcases Engine.dispatch_addressed sound.pool (target.trans stored.target) known w.system.now with
      ⟨pool, entered, answer⟩ | ⟨_, why, answer⟩
    · rw [answer] at engineIs
      exact stored_takes sound stored been_ was plain entered keeps engineIs rest stage store
    · obtain ⟨ts, _, ok, _⟩ := taken.accepted
      rw [answer] at ok
      cases ok
  | defers h m' why genuine refused was rest free store engineIs =>
    rw [alone.held _ was] at was
    obtain ⟨told, plain, target, handed⟩ := handover_holding (p := w.poller) (s := w.system) was stored.message
    rw [handed] at handedIs
    obtain rfl := Option.some.inj handedIs
    rcases Engine.dispatch_addressed sound.pool (target.trans stored.target) known w.system.now with
      ⟨pool, entered, answer⟩ | ⟨_, why', answer⟩
    · rw [answer] at refused
      cases refused
    · rw [answer] at engineIs
      obtain ⟨inside, only⟩ := kept store (fun y => by rw [was]; nofun)
      exact left engineIs inside only (fun y => (free y).2) (.inl (rest.trans (alone.rest_eq_nil (.inl was))))
        (fun y held => absurd held (free y).1)
  | clears y was rest free store =>
    have inside : x ∈ system.broker.store.entries := by
      rw [store]
      exact DueStore.mem_remove.mpr ⟨stored.inside, alone.apart y was⟩
    refine left engine inside (fun z within => ?_) (fun y => (free y).2)
      (.inl (rest.trans (alone.rest_eq_nil (.inr was)))) (fun y held => absurd held (free y).1)
    rw [store] at within
    obtain ⟨stood, other⟩ := DueStore.mem_remove.mp within
    rcases alone.entries z stood with is | ⟨y', clearing, same⟩
    · exact is
    · cases was.symm.trans clearing
      exact absurd same other

/-- A poll leaves the entry where it is, or brings its message to the engine. -/
theorem Stored.goOn (sound : w.Sound e) {k : Nat} {x : DueEntry} {m : Message} (stored : w.Stored e k x m)
    (been_ : been x) : w.goOn.Sound e ∧ Polled e been w w.goOn k x m := by
  by_cases ended : w.poll.isOver
  · exact stored_start sound stored ended
  · exact stored_step sound stored been_ (by simpa using ended)

/-- A poll that starts finds an entry that is due. -/
theorem Stored.goOn_finds (sound : w.Sound e) {k : Nat} {x : DueEntry} {m : Message} (stored : w.Stored e k x m)
    (ended : w.poll.isOver = true) (due : x.dueAt ≤ w.system.now) : w.goOn = { w with poll := .ofBatch [x] } := by
  obtain ⟨how, stage⟩ := Poll.ended_of_isOver ended
  obtain ⟨batch, started, batchIs, _⟩ := goOn_start sound ended
  have same : ∀ z ∈ w.entries, z = x := stored.alone.eq_of_apart (fun y => by rw [stage]; nofun)
  have only : w.system.broker.store.entries = [x] := by
    rcases nil_or_singleton w.system.broker.store.ordered same with none | single
    · have inside : x ∈ w.system.broker.store.entries := stored.inside
      rw [none] at inside
      cases inside
    · exact single
  have size : 0 < w.poller.config.batchSize := by
    rw [sound.polling]
    exact (PollConfig.validate_ok e.pollable).2
  obtain ⟨n, sizeIs⟩ := Nat.exists_eq_add_of_lt size
  rw [started, ← batchIs, DueStore.due, only, sizeIs]
  simp [due]

/-- A poll gets hold of the entry if nobody has locked it. -/
theorem Stored.goOn_claims (sound : w.Sound e) {k : Nat} {x : DueEntry} {m : Message} (stored : w.Stored e k x m)
    (looking : w.poll.stage = .looking) (line : w.poll.rest = [x])
    (unlocked : w.system.broker.store.isLocked x w.system.count = false)
    (tellable : Timer.isTellable e.polling.lockTimeout = true) :
    w.goOn.Sound e ∧ w.goOn.Stored e k x m ∧ w.goOn.poll.stage = .holding x ∧
      w.goOn.system.engine = w.system.engine := by
  have under : w.poll.isOver = false := by simp only [Poll.isOver, looking]
  have next : w.goOn.Sound e ∧ Polled e (fun _ => True) w w.goOn k x m := stored_step sound stored trivial under
  obtain ⟨sound', polled⟩ := next
  have stage : w.goOn.poll.stage = .holding x := by
    rw [goOn_step under]
    exact Poll.step_claims looking line sound.pool.accepting unlocked (sound.polling ▸ tellable)
  cases polled with
  | left stored apart engine => exact ⟨sound', stored, stage, engine⟩
  | brought d queued cleared => exact absurd stage (cleared.free x)

/-- A poll that holds the entry brings its message to an engine that has room for it. -/
theorem Stored.goOn_brings (sound : w.Sound e) {k : Nat} {x : DueEntry} {m : Message} (stored : w.Stored e k x m)
    (holding : w.poll.stage = .holding x)
    (room : w.system.engine.pool.outstanding < w.system.engine.pool.config.capacity) :
    w.goOn.Sound e ∧ w.goOn.Cleared ∧ ∃ d, w.goOn.Queued e k d := by
  have under : w.poll.isOver = false := by simp only [Poll.isOver, holding]
  have next : w.goOn.Sound e ∧ Polled e (fun _ => True) w w.goOn k x m := stored_step sound stored trivial under
  obtain ⟨sound', polled⟩ := next
  cases polled with
  | brought d queued cleared => exact ⟨sound', cleared, d, queued⟩
  | left stored' apart engine =>
    -- the engine has counted one more message, so that it is not as it was
    obtain ⟨told, plain, target, handed⟩ := handover_holding (p := w.poller) (s := w.system) holding stored.message
    have known : w.system.engine.registry.find e.trigger.handlerId = some e.trigger := by
      rw [sound.registry]
      exact e.registered
    have moved := Poll.engine_step w.poll w.poller w.system
    rw [goOn_step under] at engine
    rw [handed, engine] at moved
    rcases Engine.dispatch_addressed sound.pool (target.trans stored.target) known w.system.now with
      ⟨pool, entered, answer⟩ | ⟨full, _⟩
    · rw [answer] at moved
      have counted := congrArg Engine.dispatched moved
      exact absurd counted (Nat.ne_of_lt (Nat.lt_succ_self _))
    · omega

/-- A poll keeps the message in one place. -/
theorem At.goOn (sound : w.Sound e) (place : w.At e been) (now : ∀ x ∈ w.entries, been x) :
    w.goOn.Sound e ∧ w.goOn.At e been := by
  cases place with
  | apart k site cleared dated =>
    obtain ⟨sound, lasts, cleared, free⟩ := cleared_goOn sound cleared
    exact ⟨sound, .apart k (lasts.site site (fun _ stood => stood)) cleared
      (fun y clearing => absurd clearing (free y).2)⟩
  | stored k x m stored dated =>
    obtain ⟨sound, polled⟩ := stored.goOn sound (now x stored.inside)
    refine ⟨sound, ?_⟩
    cases polled with
    | left stored apart => exact .stored k x m stored (fun y clearing => absurd clearing (apart y))
    | brought d queued cleared dated => exact .apart k (.queued d queued) cleared dated

end Journey
end Courier
