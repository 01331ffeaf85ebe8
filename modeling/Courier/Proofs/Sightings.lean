import Courier.Proofs.JourneyPolls

/-!
What a poll sees. Of an entry that it examines it learns that somebody has the lock, or that there is no message in the
entry, or what the engine answers when the message is handed to it. What a step of a poll does is said here once, with
all that it changes: the poll, its report, what the poller remembers, and the system.
-/
namespace Courier

/-- An entry that a poll has examined, and what came of it. -/
inductive Sighting
  /-- Somebody had the lock. -/
  | locked (e : DueEntry)
  /-- The entry was claimed, and holds no message. -/
  | unreadable (e : DueEntry)
  /-- The entry was claimed, and the engine took its message for so many deliveries. -/
  | taken (h : Handover) (n : Nat)
  /-- The entry was claimed, and the engine did not take its message, or not for all recipients. -/
  | deferred (h : Handover) (why : DeliveryError)

namespace Sighting

def entry : Sighting → DueEntry
  | .locked e | .unreadable e => e
  | .taken h _ | .deferred h _ => h.entry

def isLocked : Sighting → Bool
  | .locked _ => true
  | _ => false

def isClaimed : Sighting → Bool
  | .locked _ => false
  | _ => true

def isUnreadable : Sighting → Bool
  | .unreadable _ => true
  | _ => false

def isTaken : Sighting → Bool
  | .taken _ _ => true
  | _ => false

def isDeferred : Sighting → Bool
  | .deferred _ _ => true
  | _ => false

/-- Whether the engine has no room for more messages, or takes none. -/
def isFull : Sighting → Bool
  | .deferred _ why => why.isBackpressure
  | _ => false

/-- Whether there is nothing more to do for the entry. -/
def isDone (g : Sighting) : Bool := g.isUnreadable || g.isTaken

/-- How many deliveries the engine took. -/
def deliveries : Sighting → Nat
  | .taken _ n => n
  | .deferred _ why => why.delivered
  | _ => 0

/-- How often the poller has seen the entry in vain, given how often it had before. -/
def noted (g : Sighting) (before : Option UInt32) : Option UInt32 :=
  if g.isDone then none else some (before.getD 0 + 1)

end Sighting

namespace Handover

/-- Whether a handover is what comes of handing the message of an entry to an engine, told how often the entry has been
seen in vain. -/
structure Made (h : Handover) (m : Message) (times : UInt32) (now : Instant) (engine : Engine) : Prop where
  readable : h.entry.message = .ok m
  told : h.told = { m with pollingCount := raise m.pollingCount (times + 1) }
  sameTime : h.now = now
  sameEngine : h.before = engine
  answer : engine.dispatch h.told now = (h.result, h.after)

theorem Made.genuine {h : Handover} {m : Message} {times : UInt32} {now : Instant} {engine : Engine}
    (made : h.Made m times now engine) : h.Genuine m := by
  refine ⟨made.readable, ⟨_, made.told⟩, ?_⟩
  rw [made.sameEngine, made.sameTime]
  exact made.answer

end Handover

namespace PollReport

/-- The report of a poll that has seen an entry. A claim is counted when it is made. -/
def afterSight (r : PollReport) : Sighting → PollReport
  | .locked _ => { r with conflicts := r.conflicts + 1 }
  | .unreadable _ => { r with malformed := r.malformed + 1 }
  | .taken _ n => { r with dispatched := r.dispatched + n }
  | .deferred _ why => { r with dispatched := r.dispatched + why.delivered, deferred := r.deferred + 1 }

end PollReport

namespace Poller

/-- A poller that does not know an entry. -/
def forget (p : Poller) (e : DueEntry) : Poller := { p with observations := p.observations.erase e.lockKey }

/-- A poller that has seen an entry. -/
def afterSight (p : Poller) : Sighting → Poller
  | .locked e => p.note e (p.seenInVain e + 1)
  | .unreadable e => p.forget e
  | .taken h _ => p.forget h.entry
  | .deferred h _ => (p.forget h.entry).note h.entry (p.seenInVain h.entry + 1)

theorem get?_afterSight (p : Poller) (g : Sighting) (key : String) :
    (p.afterSight g).observations.get? key =
      if g.entry.lockKey = key then g.noted (p.observations.get? key) else p.observations.get? key := by
  by_cases same : g.entry.lockKey = key
  · subst same
    cases g with
    | locked e =>
      simp [afterSight, note, Table.get?_insert, seenInVain, Sighting.noted, Sighting.entry, Sighting.isDone,
        Sighting.isUnreadable, Sighting.isTaken]
    | unreadable e =>
      simp [afterSight, forget, Table.get?_erase, Sighting.noted, Sighting.entry, Sighting.isDone,
        Sighting.isUnreadable]
    | taken h n =>
      simp [afterSight, forget, Table.get?_erase, Sighting.noted, Sighting.entry, Sighting.isDone, Sighting.isTaken]
    | deferred h why =>
      simp [afterSight, note, Table.get?_insert, seenInVain, Sighting.noted, Sighting.entry, Sighting.isDone,
        Sighting.isUnreadable, Sighting.isTaken]
  · rw [if_neg same]
    cases g with
    | locked e => exact (Table.get?_insert ..).trans (if_neg same)
    | unreadable e => exact (Table.get?_erase ..).trans (if_neg same)
    | taken h n => exact (Table.get?_erase ..).trans (if_neg same)
    | deferred h why =>
      exact ((Table.get?_insert ..).trans (if_neg same)).trans ((Table.get?_erase ..).trans (if_neg same))

theorem seenInVain_afterSight (p : Poller) (g : Sighting) (e : DueEntry) :
    (p.afterSight g).seenInVain e =
      if g.entry.lockKey = e.lockKey then if g.isDone then 0 else p.seenInVain e + 1 else p.seenInVain e := by
  rw [seenInVain, seenInVain, get?_afterSight, Sighting.noted]
  by_cases same : g.entry.lockKey = e.lockKey
  · rw [if_pos same, if_pos same]
    split
    · rfl
    · rfl
  · rw [if_neg same, if_neg same]

/-! ### The start of a poll -/

theorem startPoll_of_closed (p : Poller) {s : System} (closed : s.engine.isAccepting = false) :
    p.startPoll System.surroundings s = .ok ⟨.empty, [], [], .ended .complete⟩ := by
  simp only [startPoll, System.surroundings, closed, Bool.false_eq_true, if_false]

theorem startPoll_of_error {p : Poller} {s : System} {why : TransportError} (accepting : s.engine.isAccepting = true)
    (failed : s.broker.store.fetch s.now p.config.batchSize = .error why) :
    p.startPoll System.surroundings s = .error why := by
  simp only [startPoll, System.surroundings, accepting, if_true, failed]
  rfl

theorem startPoll_of_batch {p : Poller} {s : System} {batch : List DueEntry} (accepting : s.engine.isAccepting = true)
    (fetched : s.broker.store.fetch s.now p.config.batchSize = .ok batch) :
    p.startPoll System.surroundings s = .ok (.ofBatch batch) := by
  simp only [startPoll, System.surroundings, accepting, if_true, fetched]
  rfl

end Poller

namespace Poll

/-- A poll under way has not ended. -/
theorem stage_ne_ended {poll : Poll} (on : poll.isOver = false) (how : PollEnd) : poll.stage ≠ .ended how := by
  intro stage
  rw [isOver, stage] at on
  cases on

/-- The entry that a poll has claimed and not handed on. -/
def held (poll : Poll) : List DueEntry :=
  match poll.stage with
  | .holding e => [e]
  | _ => []

/-- A poll that takes up the next entry. -/
def takeUp (poll : Poll) (e : DueEntry) (rest : List DueEntry) : Poll :=
  { poll with rest, seen := e.lockKey :: poll.seen }

/-- A poll that has seen an entry and goes on in some way. -/
def afterSight (poll : Poll) (g : Sighting) (stage : PollStage) : Poll :=
  { poll with report := poll.report.afterSight g, stage }

/-- A poller that ends a poll remembers only what it has taken up. -/
theorem get?_close (poll : Poll) (p : Poller) (how : PollEnd) (key : String) :
    (poll.close p how).2.observations.get? key = if key ∈ poll.seen then p.observations.get? key else none := by
  simp [close, Table.get?_filterKeys]

theorem seenInVain_close (poll : Poll) (p : Poller) (how : PollEnd) (e : DueEntry) :
    (poll.close p how).2.seenInVain e = if e.lockKey ∈ poll.seen then p.seenInVain e else 0 := by
  rw [Poller.seenInVain, get?_close]
  split
  · rfl
  · rfl

/-- What the next step of a poll sees. -/
def sighting? (poll : Poll) (p : Poller) (s : System) : Option Sighting :=
  match poll.stage, poll.rest with
  | .looking, e :: _ =>
    if s.engine.isAccepting && s.broker.store.isLocked e s.count then some (.locked e) else none
  | .holding e, _ =>
    match Depot.handover? poll p s with
    | none => some (.unreadable e)
    | some h =>
      match h.result with
      | .ok n => some (.taken h n)
      | .error why => some (.deferred h why)
  | _, _ => none

/-- All that a step of a poll can be, with what becomes of the poll, the poller and the system. -/
inductive Does (poll : Poll) (p : Poller) (s : System) : Poll → Poller → System → Option Sighting → Prop
  | rests (how : PollEnd) (stage : poll.stage = .ended how) : Does poll p s poll p s none
  | finishes (looking : poll.stage = .looking) (none_ : poll.rest = []) :
      Does poll p s (poll.close p .complete).1 (poll.close p .complete).2 s none
  | stops (e : DueEntry) (rest : List DueEntry) (looking : poll.stage = .looking) (line : poll.rest = e :: rest)
      (closed : s.engine.isAccepting = false) :
      Does poll p s ((poll.takeUp e rest).close p .complete).1 ((poll.takeUp e rest).close p .complete).2 s none
  | passes (e : DueEntry) (rest : List DueEntry) (looking : poll.stage = .looking) (line : poll.rest = e :: rest)
      (accepting : s.engine.isAccepting = true) (locked : s.broker.store.isLocked e s.count = true) :
      Does poll p s ((poll.takeUp e rest).afterSight (.locked e) .looking) (p.afterSight (.locked e))
        (s.claim e p.config.lockTimeout).2 (some (.locked e))
  | breaks (e : DueEntry) (rest : List DueEntry) (looking : poll.stage = .looking) (line : poll.rest = e :: rest)
      (accepting : s.engine.isAccepting = true) (free : s.broker.store.isLocked e s.count = false)
      (endless : Timer.isTellable p.config.lockTimeout = false) :
      Does poll p s { poll.takeUp e rest with stage := .ended .broken } p (s.claim e p.config.lockTimeout).2 none
  | claims (e : DueEntry) (rest : List DueEntry) (looking : poll.stage = .looking) (line : poll.rest = e :: rest)
      (accepting : s.engine.isAccepting = true) (free : s.broker.store.isLocked e s.count = false)
      (tellable : Timer.isTellable p.config.lockTimeout = true) :
      Does poll p s
        { poll.takeUp e rest with
          report := { poll.report with claimed := poll.report.claimed + 1 }
          stage := .holding e }
        p (s.claim e p.config.lockTimeout).2 none
  | drops (e : DueEntry) (why : TransportError) (holding : poll.stage = .holding e) (bad : e.message = .error why) :
      Does poll p s (poll.afterSight (.unreadable e) (.clearing e)) (p.afterSight (.unreadable e)) s
        (some (.unreadable e))
  | takes (h : Handover) (n : Nat) (m : Message) (holding : poll.stage = .holding h.entry)
      (made : h.Made m (p.seenInVain h.entry) s.now s.engine) (ok : h.result = .ok n) :
      Does poll p s (poll.afterSight (.taken h n) (.clearing h.entry)) (p.afterSight (.taken h n))
        { s with engine := h.after } (some (.taken h n))
  | defers (h : Handover) (why : DeliveryError) (m : Message) (holding : poll.stage = .holding h.entry)
      (made : h.Made m (p.seenInVain h.entry) s.now s.engine) (refused : h.result = .error why)
      (room : why.isBackpressure = false) :
      Does poll p s (poll.afterSight (.deferred h why) .looking) (p.afterSight (.deferred h why))
        { s with engine := h.after } (some (.deferred h why))
  | fills (h : Handover) (why : DeliveryError) (m : Message) (holding : poll.stage = .holding h.entry)
      (made : h.Made m (p.seenInVain h.entry) s.now s.engine) (refused : h.result = .error why)
      (full : why.isBackpressure = true) :
      Does poll p s ((poll.afterSight (.deferred h why) .looking).close (p.afterSight (.deferred h why)) .complete).1
        ((poll.afterSight (.deferred h why) .looking).close (p.afterSight (.deferred h why)) .complete).2
        { s with engine := h.after } (some (.deferred h why))
  | clears (e : DueEntry) (clearing : poll.stage = .clearing e) :
      Does poll p s { poll with stage := .looking } p (s.remove e).2 none

private theorem does_looking {poll : Poll} (p : Poller) (s : System) (looking : poll.stage = .looking) :
    Does poll p s (poll.step System.surroundings p s).1 (poll.step System.surroundings p s).2.1
      (poll.step System.surroundings p s).2.2 (poll.sighting? p s) := by
  obtain ⟨report, rest, seen, stage⟩ := poll
  cases looking
  cases rest with
  | nil => exact .finishes rfl rfl
  | cons e rest =>
    by_cases accepting : s.engine.isAccepting = true
    · rcases s.broker.store.claim_cases e p.config.lockTimeout s.count with
        ⟨locked, is, _⟩ | ⟨free, is, _⟩ | ⟨free, is, _⟩
      · simp only [step, System.surroundings, accepting, if_true, claim, System.claim, is, Option.map_some, sighting?,
          locked, Bool.and_self]
        exact .passes e rest rfl rfl accepting locked
      · have tellable : Timer.isTellable p.config.lockTimeout = true := by
          refine Bool.of_not_eq_false (fun endless => ?_)
          simp [DueStore.claim, free, endless] at is
        simp only [step, System.surroundings, accepting, if_true, claim, System.claim, is, Option.map_some, sighting?,
          free, Bool.and_false, Bool.false_eq_true, if_false]
        exact .claims e rest rfl rfl accepting free tellable
      · have endless : Timer.isTellable p.config.lockTimeout = false := by
          refine Bool.eq_false_of_not_eq_true (fun tellable => ?_)
          simp [DueStore.claim, free, tellable] at is
        simp only [step, System.surroundings, accepting, if_true, claim, System.claim, is, Option.map_none, sighting?,
          free, Bool.and_false, Bool.false_eq_true, if_false]
        exact .breaks e rest rfl rfl accepting free endless
    · have closed : s.engine.isAccepting = false := Bool.not_eq_true _ ▸ accepting
      simp only [step, System.surroundings, closed, Bool.false_eq_true, if_false, sighting?, Bool.false_and]
      exact .stops e rest rfl rfl closed

private theorem does_holding {poll : Poll} {e : DueEntry} (p : Poller) (s : System)
    (holding : poll.stage = .holding e) :
    Does poll p s (poll.step System.surroundings p s).1 (poll.step System.surroundings p s).2.1
      (poll.step System.surroundings p s).2.2 (poll.sighting? p s) := by
  obtain ⟨report, rest, seen, stage⟩ := poll
  cases holding
  cases found : e.message with
  | error why =>
    simp only [step, hand, sighting?, Depot.handover?, found]
    exact .drops e why rfl found
  | ok m =>
    generalize toldIs : { m with pollingCount := raise m.pollingCount (p.seenInVain e + 1) } = told
    generalize answerIs : s.engine.dispatch told s.now = answer
    obtain ⟨result, after⟩ := answer
    have made : Handover.Made ⟨e, told, s.now, s.engine, result, after⟩ m (p.seenInVain e) s.now s.engine :=
      ⟨found, toldIs.symm, rfl, rfl, answerIs⟩
    cases result with
    | ok n =>
      simp only [step, hand, sighting?, Depot.handover?, found, System.surroundings, System.dispatch, toldIs, answerIs]
      exact .takes ⟨e, told, s.now, s.engine, .ok n, after⟩ n m rfl made rfl
    | error why =>
      by_cases full : why.isBackpressure = true
      · simp only [step, hand, sighting?, Depot.handover?, found, System.surroundings, System.dispatch, toldIs,
          answerIs, full, if_true]
        exact .fills ⟨e, told, s.now, s.engine, .error why, after⟩ why m rfl made rfl full
      · have room : why.isBackpressure = false := Bool.not_eq_true _ ▸ full
        simp only [step, hand, sighting?, Depot.handover?, found, System.surroundings, System.dispatch, toldIs,
          answerIs, room, Bool.false_eq_true, if_false]
        exact .defers ⟨e, told, s.now, s.engine, .error why, after⟩ why m rfl made rfl room

/-- What the next step of a poll does. -/
theorem does (poll : Poll) (p : Poller) (s : System) :
    Does poll p s (poll.step System.surroundings p s).1 (poll.step System.surroundings p s).2.1
      (poll.step System.surroundings p s).2.2 (poll.sighting? p s) := by
  cases stage : poll.stage with
  | looking => exact does_looking p s stage
  | holding e => exact does_holding p s stage
  | clearing e =>
    have none_ : poll.sighting? p s = none := by simp only [sighting?, stage]
    rw [none_]
    simp only [step, stage, clear, System.surroundings]
    exact .clears e stage
  | ended how =>
    have none_ : poll.sighting? p s = none := by simp only [sighting?, stage]
    rw [none_]
    simp only [step, stage]
    exact .rests how stage

end Poll

/-- A poll under way, and what it has seen so far. -/
structure Survey where
  poll : Poll
  poller : Poller
  system : System
  sightings : List Sighting

namespace Survey

/-- What the next step of the poll sees. -/
def sees (v : Survey) : Option Sighting := v.poll.sighting? v.poller v.system

/-- The poll does its next step. -/
def go (v : Survey) : Survey :=
  let (poll, poller, system) := v.poll.step System.surroundings v.poller v.system
  { poll, poller, system, sightings := v.sightings ++ v.sees.toList }

/-- The entries that the poll has taken up, in order. -/
def examined (v : Survey) : List DueEntry := v.sightings.map Sighting.entry ++ v.poll.held

/-- All entries of the poll's batch, as long as the poll goes on. -/
def line (v : Survey) : List DueEntry := v.examined ++ v.poll.rest

/-- The record leaves the poll as it is. -/
theorem steps_eq (n : Nat) (v : Survey) :
    v.poll.steps System.surroundings n v.poller v.system = ((go^[n] v).poll, (go^[n] v).poller, (go^[n] v).system) := by
  induction n generalizing v with
  | zero => rfl
  | succ n ih =>
    rw [Function.iterate_succ_apply]
    exact ih v.go

theorem go_eq (v : Survey) :
    ∃ poll poller system seen, v.go = ⟨poll, poller, system, v.sightings ++ Option.toList seen⟩ ∧
      v.poll.Does v.poller v.system poll poller system seen :=
  ⟨_, _, _, _, rfl, v.poll.does v.poller v.system⟩

/-- A poll takes up the entries of its batch in order. It may leave one out only if that is its end. -/
theorem line_go (v : Survey) : v.go.line = v.line ∨ v.go.poll.isOver = true ∧ v.go.line.Sublist v.line := by
  obtain ⟨poll, poller, system, seen, is, does⟩ := v.go_eq
  rw [is]
  cases does with
  | rests how stage => exact .inl (by simp [line, examined])
  | finishes looking none_ => exact .inl (by simp [line, examined, Poll.held, Poll.close, looking])
  | stops e rest looking rests closed =>
    exact .inr ⟨rfl, by simp [line, examined, Poll.held, Poll.close, Poll.takeUp, looking, rests]⟩
  | passes e rest looking rests accepting locked =>
    exact .inl (by simp [line, examined, Poll.held, Poll.afterSight, Poll.takeUp, looking, rests, Sighting.entry])
  | breaks e rest looking rests accepting free endless =>
    exact .inr ⟨rfl, by simp [line, examined, Poll.held, Poll.takeUp, looking, rests]⟩
  | claims e rest looking rests accepting free tellable =>
    exact .inl (by simp [line, examined, Poll.held, Poll.takeUp, looking, rests])
  | drops e why holding bad =>
    exact .inl (by simp [line, examined, Poll.held, Poll.afterSight, holding, Sighting.entry])
  | takes h n m holding made ok =>
    exact .inl (by simp [line, examined, Poll.held, Poll.afterSight, holding, Sighting.entry])
  | defers h why m holding made refused room =>
    exact .inl (by simp [line, examined, Poll.held, Poll.afterSight, holding, Sighting.entry])
  | fills h why m holding made refused full =>
    exact .inl (by simp [line, examined, Poll.held, Poll.afterSight, Poll.close, holding, Sighting.entry])
  | clears e clearing => exact .inl (by simp [line, examined, Poll.held, clearing])

theorem line_go_of_on {v : Survey} (on : v.go.poll.isOver = false) : v.go.line = v.line := by
  rcases v.line_go with same | ⟨finished, _⟩
  · exact same
  · rw [on] at finished
    cases finished

theorem line_go_sublist (v : Survey) : v.go.line.Sublist v.line := by
  rcases v.line_go with same | ⟨_, part⟩
  · rw [same]
  · exact part

/-- A poll that is over stays as it is. -/
theorem go_of_over {v : Survey} (finished : v.poll.isOver = true) : v.go = v := by
  obtain ⟨how, stage⟩ := Poll.ended_of_isOver finished
  obtain ⟨⟨report, rest, seen, _⟩, poller, system, sightings⟩ := v
  cases stage
  simp [go, sees, Poll.step, Poll.sighting?]

theorem isOver_iterate {v : Survey} {n : Nat} (enough : v.poll.toGo ≤ n) : (go^[n] v).poll.isOver = true := by
  induction n generalizing v with
  | zero =>
    show v.poll.isOver = true
    refine Bool.of_not_eq_false (fun on => ?_)
    have fewer := Poll.toGo_step on v.poller v.system
    have none_ : v.poll.toGo = 0 := Nat.le_zero.mp enough
    omega
  | succ n ih =>
    rw [Function.iterate_succ_apply]
    by_cases finished : v.poll.isOver = true
    · rw [go_of_over finished]
      apply ih
      obtain ⟨how, stage⟩ := Poll.ended_of_isOver finished
      rw [Poll.toGo, stage]
      exact Nat.zero_le n
    · have fewer : v.go.poll.toGo < v.poll.toGo :=
        Poll.toGo_step (Bool.eq_false_of_not_eq_true finished) v.poller v.system
      exact ih (by omega)

/-- Whether the poll remembers the locks of just those entries that it has taken up. -/
def Attentive (v : Survey) : Prop := ∀ key, key ∈ v.poll.seen ↔ ∃ e ∈ v.examined, e.lockKey = key

theorem Attentive.go {v : Survey} (attentive : v.Attentive) (on : v.go.poll.isOver = false) : v.go.Attentive := by
  have unchanged {next : Survey} (seen : next.poll.seen = v.poll.seen) (examined : next.examined = v.examined) :
      next.Attentive := by
    intro key
    rw [seen, examined]
    exact attentive key
  have takenUp {next : Survey} {e : DueEntry} (seen : next.poll.seen = e.lockKey :: v.poll.seen)
      (examined : next.examined = v.examined ++ [e]) : next.Attentive := by
    intro key
    rw [seen, examined, List.mem_cons, attentive key]
    simp only [List.mem_append, List.mem_singleton, or_and_right, exists_or, exists_eq_left]
    rw [or_comm, eq_comm]
  obtain ⟨poll, poller, system, seen, is, does⟩ := v.go_eq
  rw [is] at on ⊢
  cases does with
  | rests how stage => exact unchanged rfl (by simp [examined])
  | finishes looking none_ => cases on
  | stops e rest looking rests closed => cases on
  | passes e rest looking rests accepting locked =>
    exact takenUp rfl (by simp [examined, Poll.held, Poll.afterSight, looking, Sighting.entry])
  | breaks e rest looking rests accepting free endless => cases on
  | claims e rest looking rests accepting free tellable =>
    exact takenUp rfl (by simp [examined, Poll.held, looking])
  | drops e why holding bad =>
    exact unchanged rfl (by simp [examined, Poll.held, Poll.afterSight, holding, Sighting.entry])
  | takes h n m holding made ok =>
    exact unchanged rfl (by simp [examined, Poll.held, Poll.afterSight, holding, Sighting.entry])
  | defers h why m holding made refused room =>
    exact unchanged rfl (by simp [examined, Poll.held, Poll.afterSight, holding, Sighting.entry])
  | fills h why m holding made refused full => cases on
  | clears e clearing => exact unchanged rfl (by simp [examined, Poll.held, clearing])

end Survey
end Courier
