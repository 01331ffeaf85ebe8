import Courier.Proofs.Mailings

/-!
What each act does to the tokens of a mailing. Other tasks and time leave them alone. A worker, an alarm and the
poller move one token on at a time, and only to where the share of its handler has it.
-/
namespace Courier

/-- When a handler is done, its delivery is at its end or waits for its next try. It is at its end as well if the policy
breaks off. -/
theorem Engine.finish_moves (e : Engine) {d : Delivery} (busy : d.attempt.state = .delivering) (ending : Ending)
    (ticket : Nat) (draw : Float) :
    ∃ calls,
      ((e.finish ticket d ending.result draw).2 = (calls, none) ∧ ∀ route registry,
          Token.Move e.config.policy route registry ending draw (.delivery d) none (seen calls)) ∨
        ∃ next wait, (e.finish ticket d ending.result draw).2 = (calls, some (next, wait)) ∧ seen calls = [] ∧
          d.Retries e.config.policy ending draw next := by
  cases failed : ending.failure? with
  | none =>
    obtain ⟨next, calls, acked, silent⟩ := Delivery.acknowledge_ok busy e.interceptors false
    refine ⟨calls, .inl ⟨?_, fun route registry => ?_⟩⟩
    · simp only [Ending.result, failed, finish, acknowledge, acked]
    · rw [silent]
      exact .acks busy failed
  | some why =>
    have fails : ending.failure? ≠ none := by rw [failed]; exact Option.some_ne_none why
    by_cases last : e.config.policy.maxRetries ≤ bump d.message.failRetryCount
    · obtain ⟨next, calls, ended, told⟩ := Delivery.fail_exhaust busy last why draw
      refine ⟨calls, .inl ⟨?_, fun route registry => ?_⟩⟩
      · simp only [Ending.result, failed, finish, ended]
      · rw [told]
        exact .exhausts busy failed last
    · cases waits : e.config.policy.delay (bump d.message.failRetryCount) draw with
      | none =>
        obtain ⟨next, broken⟩ := Delivery.fail_broken busy last why waits
        refine ⟨[], .inl ⟨?_, fun route registry => .breaks busy fails last waits⟩⟩
        simp only [Ending.result, failed, finish, broken]
      | some wait =>
        obtain ⟨next, calls, retried, silent, trigger, state, message⟩ := Delivery.fail_retry busy last why waits
        refine ⟨calls, .inr ⟨next, wait, ?_, silent, busy, fails, last, ?_, trigger, message, state⟩⟩
        · simp only [Ending.result, failed, finish, retried]
        · rw [waits]
          exact Option.some_ne_none wait

namespace Post

variable {m : Mailing} {w after : Post}

/-! ### What leaves the store alone -/

/-- Whether the store holds the same entries and locks, and the poller is where it was. -/
structure Aside (w after : Post) : Prop where
  poller : after.poller = w.poller
  poll : after.poll = w.poll
  entries : after.entries = w.entries
  locks : after.system.broker.store.locks = w.system.broker.store.locks
  been : w.been ⊆ after.been

namespace Aside

variable (aside : w.Aside after)
include aside

theorem standing : after.standing = w.standing := by
  unfold Post.standing
  rw [aside.poll, aside.entries]

theorem tidy (tidy : w.Tidy) : after.Tidy where
  stood := by
    rw [aside.entries]
    exact List.Subset.trans tidy.stood aside.been
  unseen := aside.poller ▸ tidy.unseen
  coming := by
    rw [aside.standing, aside.poll]
    exact tidy.coming
  ordered := aside.poll ▸ tidy.ordered
  holding := by
    rw [aside.entries, aside.poll]
    exact tidy.holding
  clearing e clearing := aside.been (tidy.clearing e (aside.poll ▸ clearing))
  locked key member := by
    obtain ⟨x, stood, same⟩ := tidy.locked key (aside.locks ▸ member)
    exact ⟨x, aside.been stood, same⟩
  free := by
    rw [aside.standing, aside.poll, aside.locks]
    exact tidy.free

end Aside

/-- After what leaves the store and the poller alone, with some more calls. -/
def beside (w : Post) (system : System) (calls : List (String × DeliveryCall)) : Post :=
  ({ w with system, calls } : Post).noted

theorem aside_beside {system : System} (broker : system.broker = w.system.broker)
    (calls : List (String × DeliveryCall)) : w.Aside (w.beside system calls) where
  poller := rfl
  poll := rfl
  entries := congrArg (fun b : Broker => b.store.entries) broker
  locks := congrArg (fun b : Broker => b.store.locks) broker
  been := List.subset_append_left _ _

theorem Tidy.been_beside (tidy : w.Tidy) {system : System} (broker : system.broker = w.system.broker)
    (calls : List (String × DeliveryCall)) : (w.beside system calls).been ⊆ w.been := by
  have same : (w.beside system calls).been = w.been ++ w.entries :=
    congrArg (fun b : Broker => w.been ++ b.store.entries) broker
  rw [same]
  exact List.append_subset.mpr ⟨List.Subset.refl _, tidy.stood⟩

theorem Sound.beside (sound : w.Sound m) {system : System} {calls : List (String × DeliveryCall)}
    (broker : system.broker = w.system.broker) (fit : Fit m system.engine) (turn : Turn m w (w.beside system calls)) :
    (w.beside system calls).Sound m ∧ Turn m w (w.beside system calls) :=
  ⟨⟨fit, (aside_beside broker calls).tidy sound.toTidy, (congrArg Broker.publishError broker).trans sound.publishes,
    turn.inOrder sound.order⟩, turn⟩

/-- The tokens that are not in the pool stay as they are. -/
theorem waiting_beside {system : System} {calls : List (String × DeliveryCall)}
    (broker : system.broker = w.system.broker) (pending : system.engine.pending = w.system.engine.pending) :
    (w.beside system calls).waiting = w.waiting := by
  unfold waiting
  rw [(aside_beside broker calls).standing]
  show system.engine.pending.entries.map _ ++ _ = _
  rw [pending]

/-- If the deliveries stay in the pool, all tokens do. -/
theorem Sound.shuffled (sound : w.Sound m) {pool : Pool Task} (same : w.system.engine.pool.Shuffled pool) :
    let next := w.beside { w.system with engine := { w.system.engine with pool } } w.calls
    next.Sound m ∧ Turn m w next := by
  refine sound.beside rfl (sound.toFit.of_keepsAs ⟨rfl, rfl, rfl, rfl, rfl, rfl⟩ same.open_) ?_
  refine .rests (sound.been_beside rfl _) ?_ (fun _ => rfl)
  exact (same.deliveries.map Token.delivery).append (List.Perm.refl _)

/-- Nothing happens. -/
theorem Sound.idle (sound : w.Sound m) : w.noted.Sound m ∧ Turn m w w.noted := by
  show (w.beside w.system w.calls).Sound m ∧ Turn m w (w.beside w.system w.calls)
  exact sound.beside rfl sound.toFit (.rests (sound.been_beside rfl _) (List.Perm.refl _) (fun _ => rfl))

private theorem occupy (sound : w.Sound m) (name : String) (limit : Nat) :
    (m.act w (.occupy name limit)).Sound m ∧ Turn m w (m.act w (.occupy name limit)) := by
  obtain ⟨pool, is, same⟩ := w.system.act_occupy sound.pool name limit
  have after : m.act w (.occupy name limit) =
      w.beside { w.system with engine := { w.system.engine with pool } } w.calls := by
    simp only [Mailing.act, Mailing.next, is]
    rfl
  rw [after]
  exact sound.shuffled same

private theorem pickUp (sound : w.Sound m) : (m.act w .pickUp).Sound m ∧ Turn m w (m.act w .pickUp) := by
  obtain ⟨pool, is, same⟩ := w.system.act_pickUp sound.pool
  have after : m.act w .pickUp = w.beside { w.system with engine := { w.system.engine with pool } } w.calls := by
    simp only [Mailing.act, Mailing.next, is]
    rfl
  rw [after]
  exact sound.shuffled same

private theorem release (sound : w.Sound m) (ticket : Nat) :
    (m.act w (.release ticket)).Sound m ∧ Turn m w (m.act w (.release ticket)) := by
  cases found : w.system.engine.atWork? ticket with
  | some d =>
    have same : m.act w (.release ticket) = w.noted := by simp only [Mailing.act, Mailing.next, found]
    rw [same]
    exact sound.idle
  | none =>
    obtain ⟨pool, is, same⟩ := w.system.act_release sound.pool found
    have after : m.act w (.release ticket) =
        w.beside { w.system with engine := { w.system.engine with pool } } w.calls := by
      simp only [Mailing.act, Mailing.next, found, is]
      rfl
    rw [after]
    exact sound.shuffled same

private theorem passTo (sound : w.Sound m) (count : Nat) :
    (m.act w (.passTo count)).Sound m ∧ Turn m w (m.act w (.passTo count)) := by
  have after : m.act w (.passTo count) = w.beside (w.system.passTo count) w.calls := rfl
  rw [after]
  exact sound.beside rfl sound.toFit (.rests (sound.been_beside rfl _) (List.Perm.refl _) (fun _ => rfl))

/-! ### The handler -/

/-- The token of a delivery that a worker holds, in front of all others. -/
theorem tokens_of_deliveries {d : Delivery} {others : List Delivery}
    (deliveries : w.system.engine.pool.deliveries.Perm (d :: others)) :
    w.tokens.Perm (.delivery d :: (others.map .delivery ++ w.waiting)) :=
  (deliveries.map Token.delivery).append_right w.waiting

private theorem start (sound : w.Sound m) (ticket : Nat) :
    (m.act w (.start ticket)).Sound m ∧ Turn m w (m.act w (.start ticket)) := by
  cases found : w.system.engine.atWork? ticket with
  | none =>
    have same : m.act w (.start ticket) = w.noted := by simp only [Mailing.act, Mailing.next, found]
    rw [same]
    exact sound.idle
  | some d =>
    by_cases busy : d.attempt.state = .delivering
    · have same : m.act w (.start ticket) = w.noted := by simp only [Mailing.act, Mailing.next, found, busy, if_true]
      rw [same]
      exact sound.idle
    · have member : Token.delivery d ∈ w.tokens :=
        List.mem_append_left _ (List.mem_map_of_mem (Engine.mem_deliveries_of_atWork? found))
      have rests : d.Rests := (sound.order.known _ member).2.resolve_right busy
      obtain ⟨next, calls, started, silent, trigger, state, message⟩ :=
        d.start_ok rests.isReady w.system.engine.interceptors (fun _ _ => .proceed) w.system.now
      rw [Delivery.consult_proceed] at started
      obtain ⟨job, held, is⟩ := Engine.atWork?_some found
      obtain ⟨others, before, now⟩ := Pool.deliveries_revise sound.pool next held is
      have after : m.act w (.start ticket) =
          w.beside { w.system with
            engine := { w.system.engine with pool := w.system.engine.pool.revise ticket (.delivery next) } }
            (w.calls ++ (calls ++ [DeliveryCall.handler next.message]).map (fun call => (d.trigger.handlerId, call))) := by
        simp only [Mailing.act, Mailing.next, found, busy, if_false, System.start, Engine.start, started]
        rfl
      rw [after]
      refine sound.beside rfl (sound.toFit.of_keepsAs ⟨rfl, rfl, rfl, rfl, rfl, rfl⟩ (sound.pool.revise ticket _)) ?_
      refine .moves (.delivery d) (some (.delivery next)) rfl (tokens_of_deliveries before)
        (tokens_of_deliveries now) (fun x stood => .inl (sound.been_beside rfl _ stood))
        (.starts rests trigger (message.trans rests.begun) state) (fun other => ?_)
      refine (w.seenBy_told d.trigger.handlerId other _).trans ?_
      rw [seen_append, silent]
      rfl

/-- When a worker is done with a delivery for good, its handler has no token any more. -/
private theorem Sound.ends (sound : w.Sound m) {d : Delivery} {ticket : Nat}
    (found : w.system.engine.atWork? ticket = some d) {engine : Engine} (keeps : w.system.engine.KeepsAs engine)
    (pool : engine.pool = w.system.engine.pool.complete ticket) {calls : List DeliveryCall}
    (move : Token.Move m.config.policy m.config.route m.registry (m.ending w d) (m.draw w d) (.delivery d) none
      (seen calls)) :
    let next := w.beside { w.system with engine } (w.calls ++ calls.map (fun call => (d.trigger.handlerId, call)))
    next.Sound m ∧ Turn m w next := by
  intro next
  obtain ⟨job, held, is⟩ := Engine.atWork?_some found
  have before := Pool.deliveries_complete sound.pool held
  rw [is, ← pool] at before
  have waiting : next.waiting = w.waiting := waiting_beside rfl keeps.pending
  refine sound.beside rfl (sound.toFit.of_keepsAs keeps (pool ▸ sound.pool.complete ticket)) ?_
  refine .moves (.delivery d) none rfl (tokens_of_deliveries before) ?_
    (fun x stood => .inl (sound.been_beside rfl _ stood)) move (w.seenBy_told d.trigger.handlerId · _)
  show (engine.pool.deliveries.map Token.delivery ++ next.waiting).Perm _
  rw [waiting]
  exact List.Perm.refl _

/-- When a retry is kept, its handler's token is with the engine. -/
private theorem Sound.awaits (sound : w.Sound m) {d next : Delivery} {ticket : Nat}
    (found : w.system.engine.atWork? ticket = some d) {engine : Engine} (keeps : w.system.engine.KeepsAs engine)
    (pool : engine.pool = w.system.engine.pool.complete ticket) {calls : List DeliveryCall} (silent : seen calls = [])
    (here : m.config.route = .inProcess) (retries : d.Retries m.config.policy (m.ending w d) (m.draw w d) next)
    (wait : Span) :
    let after := w.beside (({ w.system with engine } : System).await next wait)
      (w.calls ++ calls.map (fun call => (d.trigger.handlerId, call)))
    after.Sound m ∧ Turn m w after := by
  intro after
  obtain ⟨alarms, awaits⟩ := ({ w.system with engine } : System).await_spec next wait
  obtain ⟨job, held, is⟩ := Engine.atWork?_some found
  have before := Pool.deliveries_complete sound.pool held
  rw [is, ← pool] at before
  have fit := sound.toFit.of_keepsAs keeps (pool ▸ sound.pool.complete ticket)
  obtain ⟨entries, numbered⟩ := Engine.await_numbered fit.numbered next
  have broker : (({ w.system with engine } : System).await next wait).broker = w.system.broker := by rw [awaits]
  have engineIs : (({ w.system with engine } : System).await next wait).engine = (engine.await next).2 := by rw [awaits]
  have fit : Fit m (({ w.system with engine } : System).await next wait).engine := by
    rw [engineIs]
    exact ⟨fit.config, fit.registry, fit.pool, numbered⟩
  refine sound.beside broker fit ?_
  refine .moves (.delivery d) (some (.pending engine.nextRetry next.waiting)) rfl
    (tokens_of_deliveries before) ?_ (fun x stood => .inl (sound.been_beside broker _ stood)) (.keeps here retries)
    (fun other => ?_)
  · have pending : after.waiting.Perm (.pending engine.nextRetry next.waiting :: w.waiting) := by
      unfold waiting
      rw [(aside_beside broker _).standing]
      show (List.map _ (({ w.system with engine } : System).await next wait).engine.pending.entries ++ _).Perm _
      rw [engineIs]
      rw [keeps.pending] at entries
      exact (entries.map (fun entry => Token.pending entry.1 entry.2)).append_right _
    have deliveries : after.system.engine.pool.deliveries = engine.pool.deliveries := by
      show (({ w.system with engine } : System).await next wait).engine.pool.deliveries = _
      rw [engineIs]
      rfl
    unfold tokens
    rw [deliveries]
    exact (pending.append_left _).trans List.perm_middle
  · refine (w.seenBy_told d.trigger.handlerId other calls).trans ?_
    rw [silent]

/-- No entry has held the message of a retry before, unless two of them have one digest. -/
private theorem Sound.fresh (sound : w.Sound m) {d next : Delivery} (member : Token.delivery d ∈ w.tokens)
    (retries : d.Retries m.config.policy (m.ending w d) (m.draw w d) next) (due : Instant)
    (distinct : ∀ y ∈ w.been, y.lockKey = (DueEntry.ofMessage next.addressed due).lockKey →
      y.member = (DueEntry.ofMessage next.addressed due).member) :
    ∀ y ∈ w.been, y.lockKey ≠ (DueEntry.ofMessage next.addressed due).lockKey := by
  intro y stood key
  have letter : y.letter? = some next.addressed.told := by
    rw [← DueEntry.letter?_ofMessage next.addressed due, DueEntry.letter?, DueEntry.letter?, distinct y stood key]
  have failures : y.failures = d.message.failRetryCount.toNat + 1 := by
    rw [← retries.failures due, DueEntry.failures, DueEntry.failures, letter, DueEntry.letter?_ofMessage]
  have mine : y.addressee? = (Token.delivery d).handler := by
    rw [DueEntry.addressee?, letter]
    exact congrArg (fun t : Trigger => some t.handlerId) retries.trigger
  -- an entry of the same bytes would be for this handler and as high as the retry, but all before were lower
  rcases sound.order.dated _ member y stood mine with less | is
  · rw [failures] at less
    exact absurd less (Nat.lt_irrefl _)
  · cases is

/-- An entry that has no lock and no other entry in its place comes to the store. -/
private theorem Tidy.stores (tidy : w.Tidy) {x : DueEntry} (fresh : ∀ y ∈ w.been, y.lockKey ≠ x.lockKey)
    (system : System) (calls : List (String × DeliveryCall))
    (entries : system.broker.store.entries = DueStore.placed x w.entries)
    (locks : system.broker.store.locks = w.system.broker.store.locks) :
    (w.beside system calls).Tidy ∧ (w.beside system calls).standing.Perm (x :: w.standing) := by
  have placed : (w.beside system calls).entries.Perm (x :: w.entries) := by
    show system.broker.store.entries.Perm _
    rw [entries]
    exact DueStore.placed_perm (fun y inside same => fresh y (tidy.stood inside) same.2.symm)
  have standing : (w.beside system calls).standing.Perm (x :: w.standing) := by
    unfold Post.standing
    refine (placed.filter _).trans ?_
    rw [List.filter_cons_of_pos]
    · exact List.Perm.refl _
    · split
      · rename_i e clearing
        simpa using fun same : e.SamePlace x => fresh e (tidy.clearing e clearing) same.2
      · rfl
  refine ⟨⟨?_, tidy.unseen, ?_, tidy.ordered, fun e holding => ?_, fun e clearing => ?_, fun key member => ?_, ?_⟩,
    standing⟩
  · exact List.subset_append_right _ _
  · exact fun y coming => standing.mem_iff.mpr (List.mem_cons_of_mem x (tidy.coming coming))
  · obtain ⟨inside, first⟩ := tidy.holding e holding
    exact ⟨placed.mem_iff.mpr (List.mem_cons_of_mem x inside), first⟩
  · exact List.mem_append_left _ (tidy.clearing e clearing)
  · obtain ⟨y, stood, same⟩ := tidy.locked key (locks ▸ member)
    exact ⟨y, List.mem_append_left _ stood, same⟩
  · intro y inside apart
    show y.lockKey ∉ system.broker.store.locks.keys
    rw [locks]
    rcases List.mem_cons.mp (standing.mem_iff.mp inside) with rfl | old
    · intro locked
      obtain ⟨z, stood, same⟩ := tidy.locked _ locked
      exact fresh z stood same
    · exact tidy.free y old apart

/-- When a retry goes to the store, its handler's token is the new entry. -/
private theorem Sound.stores (sound : w.Sound m) {d next : Delivery} {ticket : Nat}
    (found : w.system.engine.atWork? ticket = some d) {engine : Engine} (keeps : w.system.engine.KeepsAs engine)
    (pool : engine.pool = w.system.engine.pool.complete ticket) {calls : List DeliveryCall} (silent : seen calls = [])
    (away : m.config.route = .delayStore) (retries : d.Retries m.config.policy (m.ending w d) (m.draw w d) next)
    {due : Instant} {after : Post}
    (is : after = w.beside { w.system with engine, broker := w.system.broker.keep next.addressed due }
      (w.calls ++ calls.map (fun call => (d.trigger.handlerId, call))))
    (distinct : after.Distinct) : after.Sound m ∧ Turn m w after := by
  have member : Token.delivery d ∈ w.tokens :=
    List.mem_append_left _ (List.mem_map_of_mem (Engine.mem_deliveries_of_atWork? found))
  have stood : after.been = w.been ++ DueStore.placed (.ofMessage next.addressed due) w.entries := by rw [is]; rfl
  have fresh := sound.fresh member retries due (fun y inside => distinct y (stood ▸ List.mem_append_left _ inside) _
    (stood ▸ List.mem_append_right _ (DueStore.mem_placed_self _ _)))
  obtain ⟨tidy, standing⟩ := sound.toTidy.stores fresh
    { w.system with engine, broker := w.system.broker.keep next.addressed due }
    (w.calls ++ calls.map (fun call => (d.trigger.handlerId, call))) rfl rfl
  rw [← is] at tidy standing
  obtain ⟨job, held, work⟩ := Engine.atWork?_some found
  have before := Pool.deliveries_complete sound.pool held
  rw [work, ← pool] at before
  have turn : Turn m w after := by
    refine .moves (.delivery d) (some (.stored (.ofMessage next.addressed due))) rfl
      (tokens_of_deliveries before) ?_ (fun x inside => ?_) (.stores away retries) (fun other => ?_)
    · have waiting : after.waiting.Perm (.stored (.ofMessage next.addressed due) :: w.waiting) := by
        have pending : after.system.engine.pending = w.system.engine.pending := by rw [is]; exact keeps.pending
        unfold waiting
        rw [pending]
        exact ((standing.map Token.stored).append_left _).trans List.perm_middle
      have deliveries : after.system.engine.pool.deliveries = engine.pool.deliveries := by rw [is]; rfl
      unfold tokens
      rw [deliveries]
      exact (waiting.append_left _).trans List.perm_middle
    · rw [stood] at inside
      rcases List.mem_append.mp inside with old | inside
      · exact .inl old
      · rcases DueStore.mem_placed inside with rfl | old
        · exact .inr rfl
        · exact .inl (sound.stood old)
    · rw [is]
      refine (w.seenBy_told d.trigger.handlerId other calls).trans ?_
      rw [silent]
  refine ⟨⟨?_, tidy, ?_, turn.inOrder sound.order⟩, turn⟩
  · rw [is]
    exact sound.toFit.of_keepsAs keeps (pool ▸ sound.pool.complete ticket)
  · rw [is]
    exact sound.publishes

private theorem finish (sound : w.Sound m) {ticket : Nat} (calm : m.strains w (.finish ticket) = false)
    (distinct : (m.act w (.finish ticket)).Distinct) :
    (m.act w (.finish ticket)).Sound m ∧ Turn m w (m.act w (.finish ticket)) := by
  have idle (same : m.act w (.finish ticket) = w.noted) :
      (m.act w (.finish ticket)).Sound m ∧ Turn m w (m.act w (.finish ticket)) := by
    rw [same]
    exact sound.idle
  cases found : w.system.engine.atWork? ticket with
  | none => exact idle (by simp only [Mailing.act, Mailing.next, found])
  | some d =>
    by_cases busy : d.attempt.state = .delivering
    · have keeps := w.system.engine.keepsAs_finish ticket d (m.ending w d).result (m.draw w d)
      have pool := w.system.engine.pool_finish ticket d (m.ending w d).result (m.draw w d)
      obtain ⟨calls, cases⟩ := w.system.engine.finish_moves busy (m.ending w d) ticket (m.draw w d)
      generalize answer : w.system.engine.finish ticket d (m.ending w d).result (m.draw w d) = result at keeps pool cases
      obtain ⟨engine, told⟩ := result
      rcases cases with ⟨is, moves⟩ | ⟨next, wait, is, silent, retries⟩
      · obtain rfl : told = (calls, none) := is
        have after : m.act w (.finish ticket) =
            w.beside { w.system with engine } (w.calls ++ calls.map (fun call => (d.trigger.handlerId, call))) := by
          simp only [Mailing.act, Mailing.next, found, busy, if_true, System.finish, answer]
          rfl
        rw [after]
        exact sound.ends found keeps pool (sound.config ▸ moves m.config.route m.registry)
      · obtain rfl : told = (calls, some (next, wait)) := is
        rw [sound.config] at retries
        have after : m.act w (.finish ticket) =
            w.beside (({ w.system with engine } : System).scheduleRetry next wait)
              (w.calls ++ calls.map (fun call => (d.trigger.handlerId, call))) := by
          simp only [Mailing.act, Mailing.next, found, busy, if_true, System.finish, answer]
          rfl
        have route : engine.config.route = m.config.route := by rw [keeps.config, sound.config]
        rcases ({ w.system with engine } : System).scheduleRetry_cases next wait sound.publishes with
          ⟨here, waits⟩ | ⟨away, _, kept⟩ | ⟨away, long, _⟩
        · rw [after, waits]
          exact sound.awaits found keeps pool silent (route.symm.trans here) retries wait
        · rw [kept] at after
          exact sound.stores found keeps pool silent (route.symm.trans away) retries after distinct
        · have counts := calm
          simp only [Mailing.strains, found, answer, decide_eq_false_iff_not] at counts
          exact absurd ⟨route.symm.trans away, long⟩ counts
    · exact idle (by simp only [Mailing.act, Mailing.next, found, busy, if_false])

/-! ### Alarms -/

/-- When the pool takes a retry that the engine has kept, its handler's token is a delivery. -/
private theorem Sound.returns (sound : w.Sound m) {id : Nat} {d : Delivery}
    (kept : w.system.engine.pending.get? id = some d) {pool : Pool Task}
    (taken : w.system.engine.pool.submit d.trigger.handlerId d.trigger.concurrency (.delivery d) = .ok pool)
    (alarms : Alarms Purpose) :
    let engine := { w.system.engine with pool, pending := w.system.engine.pending.erase id }
    let next := w.beside { w.system with engine, alarms } w.calls
    next.Sound m ∧ Turn m w next := by
  intro engine next
  have pending := Table.entries_perm_of_get? kept
  have entered : pool.deliveries.Perm (d :: w.system.engine.pool.deliveries) := Pool.deliveries_submit taken
  have numbered : ∀ id ∈ engine.pending.keys, id < engine.nextRetry := fun other member =>
    sound.numbered other ((pending.map Prod.fst).mem_iff.mpr (List.mem_cons_of_mem id member))
  have first := (pending.map (fun entry => Token.pending entry.1 entry.2)).append_right (w.standing.map Token.stored)
  have before : w.tokens.Perm (.pending id d :: (w.system.engine.pool.deliveries.map .delivery ++ next.waiting)) :=
    (first.append_left _).trans List.perm_middle
  refine sound.beside rfl ⟨sound.config, sound.registry, sound.pool.submit taken, numbered⟩ ?_
  refine .moves (.pending id d) (some (.delivery d)) rfl before ((entered.map Token.delivery).append_right _)
    (fun x stood => .inl (sound.been_beside rfl _ stood)) .returns (fun other => ?_)
  rw [ite_self, List.append_nil]
  rfl

/-- What leaves the deliveries alone and the retries that the engine keeps moves no token. -/
private theorem Sound.waits (sound : w.Sound m) {engine : Engine} (keeps : w.system.engine.KeepsAs engine)
    (pool : engine.pool = w.system.engine.pool) (alarms : Alarms Purpose) :
    let next := w.beside { w.system with engine, alarms } w.calls
    next.Sound m ∧ Turn m w next := by
  intro next
  have waiting : next.waiting = w.waiting := waiting_beside rfl keeps.pending
  refine sound.beside rfl (sound.toFit.of_keepsAs keeps (pool ▸ sound.pool)) ?_
  refine .rests (sound.been_beside rfl _) ?_ (fun _ => rfl)
  show (engine.pool.deliveries.map Token.delivery ++ next.waiting).Perm _
  rw [waiting, pool]
  exact List.Perm.refl _

/-- When an alarm goes off for a retry, the pool takes it, or it waits on. -/
private theorem Sound.goesOff (sound : w.Sound m) (alarm : Alarm Purpose) (draw : Float) :
    let next := w.beside (w.system.goOff alarm draw) w.calls
    next.Sound m ∧ Turn m w next := by
  obtain ⟨engine, alarms, is, still | ⟨id, _, resubmits⟩⟩ := w.system.goOff_spec alarm draw
  · rw [is, still]
    exact sound.waits (.refl _) rfl alarms
  · rw [is, resubmits]
    cases kept : w.system.engine.pending.get? id with
    | none =>
      have same : (w.system.engine.resubmit id draw).1 = w.system.engine := by simp only [Engine.resubmit, kept]
      rw [same]
      exact sound.waits (.refl _) rfl alarms
    | some d =>
      rcases Engine.resubmit_cases sound.pool kept draw with ⟨pool, taken, answer⟩ | ⟨_, answer⟩
      · rw [answer]
        exact sound.returns kept taken alarms
      · have keeps : w.system.engine.KeepsAs (w.system.engine.resubmit id draw).1 := by
          rw [answer]
          exact ⟨rfl, rfl, rfl, rfl, rfl, rfl⟩
        exact sound.waits keeps (by rw [answer]) alarms

private theorem ring (sound : w.Sound m) (place : Nat) (draw : Float) :
    (m.act w (.ring place draw)).Sound m ∧ Turn m w (m.act w (.ring place draw)) := by
  cases due : w.system.alarms.dueAt? place w.system.count with
  | none =>
    have same : m.act w (.ring place draw) = w.noted := by
      simp only [Mailing.act, Mailing.next, System.act, due]
    rw [same]
    exact sound.idle
  | some alarm =>
    have after : m.act w (.ring place draw) = w.beside (w.system.goOff alarm draw) w.calls := by
      simp only [Mailing.act, Mailing.next, System.act, due]
      rfl
    rw [after]
    exact sound.goesOff alarm draw

private theorem outlast (sound : w.Sound m) (place : Nat) (draw : Float) :
    (m.act w (.outlast place draw)).Sound m ∧ Turn m w (m.act w (.outlast place draw)) := by
  cases far : w.system.alarms.beyondAt? place with
  | none =>
    have same : m.act w (.outlast place draw) = w.noted := by
      simp only [Mailing.act, Mailing.next, System.outlast, far]
    rw [same]
    exact sound.idle
  | some alarm =>
    have after : m.act w (.outlast place draw) = w.beside (w.system.goOff alarm draw) w.calls := by
      simp only [Mailing.act, Mailing.next, System.outlast, far]
      rfl
    rw [after]
    exact sound.goesOff alarm draw

/-! ### All acts but polls -/

/-- Whatever happens apart from the poller, at most one token moves. -/
theorem Sound.act_of_ne_poll (sound : w.Sound m) {a : Mailing.Act} (apart : a ≠ .poll) (calm : m.strains w a = false)
    (distinct : (m.act w a).Distinct) : (m.act w a).Sound m ∧ Turn m w (m.act w a) := by
  cases a with
  | occupy name limit => exact occupy sound name limit
  | pickUp => exact pickUp sound
  | start ticket => exact start sound ticket
  | finish ticket => exact finish sound calm distinct
  | release ticket => exact release sound ticket
  | ring place draw => exact ring sound place draw
  | outlast place draw => exact outlast sound place draw
  | poll => exact absurd rfl apart
  | passTo count => exact passTo sound count

end Post
end Courier
