import Courier.Poll.Config
import Courier.Poll.Report
import Courier.Store.Entry
import Courier.Table

/-!
# Pollers

A poller brings due entries to the engine. It fetches a batch and takes the entries in order: it claims
an entry, hands its message to the engine, and takes the entry out of the store once the engine has
taken the message; an entry that holds no message is taken out as well. What the engine does not take
stays in the store until the lock ends. The message is told how often the poller saw it in vain; this
count has 32 bits and wraps round.

A poll goes on in single steps, so that those of several pollers may mix. What a poller needs of the
world around it is a handful of operations on its state.
-/
namespace Courier

/-- What a poller needs of the world around it. -/
structure Surroundings (σ : Type) where
  isAccepting : σ → Bool
  now : σ → Instant
  fetch : σ → Instant → Nat → Except TransportError (List DueEntry)
  /-- A claim breaks off if the end of its lock cannot be told. -/
  claim : σ → DueEntry → Span → Option (Except TransportError Bool) × σ
  remove : σ → DueEntry → Except TransportError Bool × σ
  dispatch : σ → Message → Except DeliveryError Nat × σ

/-- A poller between two polls. -/
structure Poller where
  config : PollConfig
  /-- How often each entry of the last batch was seen in vain, by lock. -/
  observations : Table String UInt32

/-- A poller before its first poll, if it can work with the settings. -/
def Poller.new (config : PollConfig) : Except DeliveryError Poller := do
  config.validate
  return ⟨config, .empty⟩

/-- How often a poller saw an entry in vain. -/
def Poller.seenInVain (p : Poller) (e : DueEntry) : UInt32 := (p.observations.get? e.lockKey).getD 0

/-- Notes how often an entry was seen in vain. -/
def Poller.note (p : Poller) (e : DueEntry) (times : UInt32) : Poller :=
  { p with observations := p.observations.insert e.lockKey times }

/-- How a poll ended. -/
inductive PollEnd
  | complete
  | failed (why : DeliveryError)
  /-- A claim broke off, and the poll with it. -/
  | broken

/-- What a poll does next. -/
inductive PollStage
  /-- Claims the first of the entries that are left. -/
  | looking
  /-- Hands the message of an entry that it claimed to the engine. -/
  | holding (e : DueEntry)
  /-- Takes an entry that is done with out of the store. -/
  | clearing (e : DueEntry)
  | ended (how : PollEnd)

/-- A poll under way. -/
structure Poll where
  report : PollReport
  /-- Entries that have not been looked at. -/
  rest : List DueEntry
  /-- The locks of those that have. -/
  seen : List String
  stage : PollStage

namespace Poll

def ofBatch (batch : List DueEntry) : Poll :=
  ⟨{ PollReport.empty with fetched := batch.length }, batch, [], .looking⟩

def isOver (poll : Poll) : Bool :=
  match poll.stage with
  | .ended _ => true
  | _ => false

variable {σ : Type}

/-- Ends a poll. The poller forgets the entries that were not in the batch. -/
def close (poll : Poll) (p : Poller) (how : PollEnd) : Poll × Poller :=
  ({ poll with stage := .ended how },
    { p with observations := p.observations.filterKeys (fun key => poll.seen.contains key) })

def claim (world : Surroundings σ) (poll : Poll) (p : Poller) (e : DueEntry) (s : σ) :
    Poll × Poller × σ :=
  match world.claim s e p.config.lockTimeout with
  | (none, s) => ({ poll with stage := .ended .broken }, p, s)
  | (some (.error why), s) =>
    let (poll, p) := poll.close p (.failed (.transport why))
    (poll, p, s)
  | (some (.ok false), s) =>
    ({ poll with report := { poll.report with conflicts := poll.report.conflicts + 1 } },
      p.note e (p.seenInVain e + 1), s)
  | (some (.ok true), s) =>
    ({ poll with
        report := { poll.report with claimed := poll.report.claimed + 1 }
        stage := .holding e }, p, s)

/-- Hands the message of a claimed entry to the engine. -/
def hand (world : Surroundings σ) (poll : Poll) (p : Poller) (e : DueEntry) (s : σ) :
    Poll × Poller × σ :=
  let before := p.seenInVain e
  let free := { p with observations := p.observations.erase e.lockKey }
  match e.message with
  | .error _ =>
    ({ poll with
        report := { poll.report with malformed := poll.report.malformed + 1 }
        stage := .clearing e }, free, s)
  | .ok m =>
    match world.dispatch s { m with pollingCount := raise m.pollingCount (before + 1) } with
    | (.ok n, s) =>
      ({ poll with
          report := { poll.report with dispatched := poll.report.dispatched + n }
          stage := .clearing e }, free, s)
    | (.error why, s) =>
      let report := { poll.report with
        dispatched := poll.report.dispatched + why.delivered
        deferred := poll.report.deferred + 1 }
      let noted := free.note e (before + 1)
      if why.isBackpressure then
        let (poll, p) := { poll with report }.close noted .complete
        (poll, p, s)
      else ({ poll with report, stage := .looking }, noted, s)

def clear (world : Surroundings σ) (poll : Poll) (p : Poller) (e : DueEntry) (s : σ) :
    Poll × Poller × σ :=
  match world.remove s e with
  | (.ok _, s) => ({ poll with stage := .looking }, p, s)
  | (.error why, s) =>
    let (poll, p) := poll.close p (.failed (.transport why))
    (poll, p, s)

def step (world : Surroundings σ) (poll : Poll) (p : Poller) (s : σ) : Poll × Poller × σ :=
  match poll.stage, poll.rest with
  | .ended _, _ => (poll, p, s)
  | .holding e, _ => poll.hand world p e s
  | .clearing e, _ => poll.clear world p e s
  | .looking, [] =>
    let (poll, p) := poll.close p .complete
    (poll, p, s)
  | .looking, e :: rest =>
    let poll := { poll with rest, seen := e.lockKey :: poll.seen }
    if world.isAccepting s then poll.claim world p e s
    else
      let (poll, p) := poll.close p .complete
      (poll, p, s)

def steps (world : Surroundings σ) : Nat → Poll → Poller → σ → Poll × Poller × σ
  | 0, poll, p, s => (poll, p, s)
  | n + 1, poll, p, s =>
    let (poll, p, s) := poll.step world p s
    steps world n poll p s

/-- A poll to its end. Each entry takes three steps at most. -/
def finish (world : Surroundings σ) (poll : Poll) (p : Poller) (s : σ) : Poll × Poller × σ :=
  steps world (3 * poll.rest.length + 1) poll p s

end Poll

namespace Poller

variable {σ : Type}

/-- Starts a poll, if the engine takes messages. -/
def startPoll (p : Poller) (world : Surroundings σ) (s : σ) : Except TransportError Poll :=
  if world.isAccepting s then return .ofBatch (← world.fetch s (world.now s) p.config.batchSize)
  else .ok ⟨.empty, [], [], .ended .complete⟩

def pollOnce (p : Poller) (world : Surroundings σ) (s : σ) : PollEnd × PollReport × Poller × σ :=
  match p.startPoll world s with
  | .error why => (.failed (.transport why), .empty, p, s)
  | .ok poll =>
    let (poll, p, s) := poll.finish world p s
    match poll.stage with
    | .ended how => (how, poll.report, p, s)
    | _ => (.complete, poll.report, p, s)

end Poller
end Courier
