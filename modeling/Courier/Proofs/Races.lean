import Courier.Proofs.EngineActs
import Courier.Proofs.Rounds

/-!
Pollers that race for the entries of one due store, each for an engine of its own or for one that it shares
with others. All their polls go on step by step, in any order with each other and with what else happens
around the engines. Whoever claims an entry first gets its lock. In a race that is over before any lock
ends nobody gets that lock again, whether or not the entry is still in the store; so at most one poll has
an entry at hand, and hands it over once.
-/
namespace Courier

/-- An engine and the alarms of its retries. -/
structure Station where
  engine : Engine
  alarms : Alarms Purpose

/-- A poller, and the place of the station that it works for. -/
structure Racer where
  poller : Poller
  station : Nat

/-- A poll of the racer at a place, and what it fetched. -/
structure Lap where
  racer : Nat
  batch : List DueEntry
  poll : Poll

/-- What the store answered when a lap claimed an entry. There is no answer to a claim that broke off. -/
structure Bid where
  lap : Nat
  entry : DueEntry
  answer : Option Bool

/-- Racers at one broker, with all their laps, their bids in order, and what they have handed to an engine. -/
structure Race where
  clock : Clock
  broker : Broker
  stations : List Station
  racers : List Racer
  laps : List Lap
  bids : List Bid
  handovers : List Handover

namespace Bid

/-- Whether a bid got a lock. -/
def Wins (b : Bid) (key : String) : Prop := b.entry.lockKey = key ∧ b.answer = some true

instance (b : Bid) (key : String) : Decidable (b.Wins key) := inferInstanceAs (Decidable (_ ∧ _))

/-- Whether bids met with a conflict just if their lock had been won before. -/
def Lawful (bids : List Bid) : Prop :=
  ∀ before b after, bids = before ++ b :: after → (b.answer = some false ↔ ∃ c ∈ before, c.Wins b.entry.lockKey)

theorem lawful_nil : Lawful [] := by
  intro before b after split
  simp at split

theorem lawful_snoc {bids : List Bid} {b : Bid} :
    Lawful (bids ++ [b]) ↔ Lawful bids ∧ (b.answer = some false ↔ ∃ c ∈ bids, c.Wins b.entry.lockKey) := by
  constructor
  · intro lawful
    refine ⟨fun before c after split => lawful before c (after ++ [b]) ?_, lawful bids b [] rfl⟩
    rw [split, List.append_assoc, List.cons_append]
  · rintro ⟨lawful, last⟩ before c after split
    rcases List.eq_nil_or_concat after with rfl | ⟨others, x, rfl⟩
    · obtain ⟨rfl, same⟩ := List.append_inj' split rfl
      cases same
      exact last
    · rw [List.concat_eq_append, ← List.cons_append, ← List.append_assoc] at split
      obtain ⟨shorter, _⟩ := List.append_inj' split rfl
      exact lawful before c others shorter

variable {bids : List Bid}

/-- Nobody wins a lock that was won before. -/
theorem not_wins_again {b c : Bid} {key : String}
    (last : b.answer = some false ↔ ∃ c ∈ bids, c.Wins b.entry.lockKey) (member : c ∈ bids) (won : c.Wins key) :
    ¬ b.Wins key := by
  rintro ⟨same, wins⟩
  have refused := last.mpr ⟨c, member, same ▸ won⟩
  rw [wins] at refused
  cases refused

/-- A lock is won once. -/
theorem Lawful.countP_le_one (lawful : Lawful bids) (key : String) : bids.countP (Wins · key) ≤ 1 := by
  induction bids using List.reverseRecOn with
  | nil => exact Nat.zero_le 1
  | append_singleton bids b ih =>
    obtain ⟨earlier, last⟩ := lawful_snoc.mp lawful
    rw [List.countP_append, List.countP_singleton]
    by_cases wins : b.Wins key
    · have none : bids.countP (Wins · key) = 0 := by
        rw [List.countP_eq_zero]
        intro c member won
        exact not_wins_again last member (of_decide_eq_true won) wins
      rw [none]
      split
      · exact Nat.le_refl 1
      · exact Nat.zero_le 1
    · simpa [wins] using ih earlier

theorem Lawful.unique (lawful : Lawful bids) {b c : Bid} {key : String} (first : b ∈ bids) (second : c ∈ bids)
    (wins : b.Wins key) (also : c.Wins key) : b = c := by
  induction bids using List.reverseRecOn with
  | nil => cases first
  | append_singleton bids x ih =>
    obtain ⟨earlier, last⟩ := lawful_snoc.mp lawful
    rcases List.mem_append.mp first with first | here
    · rcases List.mem_append.mp second with second | there
      · exact ih earlier first second
      · rw [List.mem_singleton.mp there] at also
        exact absurd also (not_wins_again last first wins)
    · rw [List.mem_singleton.mp here] at wins ⊢
      rcases List.mem_append.mp second with second | there
      · exact absurd wins (not_wins_again last second also)
      · exact (List.mem_singleton.mp there).symm

end Bid

namespace Race

/-! ### Acts -/

/-- Something that may happen in a race. -/
inductive Act
  /-- A racer starts a poll. -/
  | beginLap (racer : Nat)
  /-- A lap does its next step. -/
  | go (lap : Nat)
  /-- Something happens in the system of a station, apart from the racers. -/
  | outside (station : Nat) (a : System.Act)

def count (w : Race) : Nat := w.clock.elapsed.toNat

/-- The store's entries. -/
def entries (w : Race) : List DueEntry := w.broker.store.entries

/-- The locks of the store. -/
def locks (w : Race) : Table String Nat := w.broker.store.locks

/-- What a station sees. -/
def system (w : Race) (st : Station) : System := ⟨w.clock, st.engine, w.broker, st.alarms⟩

/-- The race when the system of the station at a place has become another. -/
def put (w : Race) (place : Nat) (s : System) : Race :=
  { w with clock := s.clock, broker := s.broker, stations := w.stations.set place ⟨s.engine, s.alarms⟩ }

/-- The racer at a place, and its station. -/
def seat? (w : Race) (place : Nat) : Option (Racer × Station) := do
  let r ← w.racers[place]?
  let st ← w.stations[r.station]?
  return (r, st)

/-- What the next step of a lap claims. -/
def bid? (k : Nat) (poll : Poll) (p : Poller) (s : System) : Option Bid :=
  match poll.stage, poll.rest with
  | .looking, e :: _ => if s.engine.isAccepting then some ⟨k, e, (s.claim e p.config.lockTimeout).1⟩ else none
  | _, _ => none

/-- A racer starts a poll, if the store can be looked at. -/
def beginLap (w : Race) (place : Nat) : Race :=
  match w.seat? place with
  | none => w
  | some (r, st) =>
    match r.poller.startPoll System.surroundings (w.system st) with
    | .error _ => w
    | .ok poll => { w with laps := w.laps ++ [⟨place, poll.rest, poll⟩] }

/-- The race when the lap at a place has gone on. -/
def moved (w : Race) (k : Nat) (lap : Lap) (r : Racer) (poller : Poller) (poll : Poll) (s : System)
    (bid : Option Bid) (handed : Option Handover) : Race :=
  { w.put r.station s with
    racers := w.racers.set lap.racer { r with poller }
    laps := w.laps.set k { lap with poll }
    bids := w.bids ++ bid.toList
    handovers := w.handovers ++ handed.toList }

/-- A lap does its next step. -/
def go (w : Race) (k : Nat) : Race :=
  match w.laps[k]? with
  | none => w
  | some lap =>
    match w.seat? lap.racer with
    | none => w
    | some (r, st) =>
      let s := w.system st
      let (poll, poller, after) := lap.poll.step System.surroundings r.poller s
      w.moved k lap r poller poll after (bid? k lap.poll r.poller s) (Depot.handover? lap.poll r.poller s)

/-- The race after something has happened. -/
def act (w : Race) : Act → Race
  | .beginLap place => w.beginLap place
  | .go k => w.go k
  | .outside place a =>
    match w.stations[place]? with
    | none => w
    | some st => w.put place ((w.system st).act a)

/-- The race after some things have happened. -/
def run (w : Race) (acts : List Act) : Race := acts.foldl act w

/-- The entries that come into the store in the course of a run. -/
def arrivals : Race → List Act → List DueEntry
  | _, [] => []
  | w, a :: rest => (w.act a).entries.filter (· ∉ w.entries) ++ arrivals (w.act a) rest

/-- Whether nothing has happened yet and nobody has a lock. -/
structure Fresh (w : Race) : Prop where
  laps : w.laps = []
  bids : w.bids = []
  handovers : w.handovers = []
  unlocked : ∀ key ends, w.locks.get? key = some ends → ends ≤ w.count

theorem run_append (w : Race) (before after : List Act) : w.run (before ++ after) = (w.run before).run after :=
  List.foldl_append ..

theorem arrivals_snoc (w : Race) (acts : List Act) (a : Act) :
    w.arrivals (acts ++ [a]) =
      w.arrivals acts ++ ((w.run acts).act a).entries.filter (· ∉ (w.run acts).entries) := by
  induction acts generalizing w with
  | nil => exact List.append_nil _
  | cons first rest ih =>
    simp only [List.cons_append, arrivals, ih, List.append_assoc]
    rfl

/-! ### One step of a lap -/

/-- All that a step of a lap can be: what it makes of the poll and of the system, what it claims and what it
hands over. -/
inductive Strides (k : Nat) (poll : Poll) (p : Poller) (s : System) (next : Poll) :
    System → Option Bid → Option Handover → Prop
  | rests (how : PollEnd) (was : poll.stage = .ended how) (same : next = poll) : Strides k poll p s next s none none
  | finishes (was : poll.stage = .looking) (line : poll.rest = []) (rest : next.rest = [])
      (stage : next.stage = .ended .complete) : Strides k poll p s next s none none
  | stops (e : DueEntry) (was : poll.stage = .looking) (line : poll.rest = e :: next.rest)
      (closed : s.engine.isAccepting = false) (stage : next.stage = .ended .complete) :
      Strides k poll p s next s none none
  | bids (e : DueEntry) (answer : Option Bool) (was : poll.stage = .looking) (line : poll.rest = e :: next.rest)
      (claimed : (s.claim e p.config.lockTimeout).1 = answer)
      (stage : next.stage =
        match answer with
        | some true => .holding e
        | some false => .looking
        | none => .ended .broken) :
      Strides k poll p s next (s.claim e p.config.lockTimeout).2 (some ⟨k, e, answer⟩) none
  | drops (e : DueEntry) (why : TransportError) (was : poll.stage = .holding e) (bad : e.message = .error why)
      (rest : next.rest = poll.rest) (stage : next.stage = .clearing e) : Strides k poll p s next s none none
  | hands (h : Handover) (m : Message) (genuine : h.Genuine m) (was : poll.stage = .holding h.entry)
      (before : h.before = s.engine) (rest : next.rest = poll.rest)
      (stage : (∃ n, h.result = .ok n ∧ next.stage = .clearing h.entry) ∨
        ∃ why, h.result = .error why ∧ next.IsFree) :
      Strides k poll p s next { s with engine := h.after } none (some h)
  | clears (e : DueEntry) (was : poll.stage = .clearing e) (rest : next.rest = poll.rest)
      (stage : next.stage = .looking) : Strides k poll p s next (s.remove e).2 none none

private theorem strides_looking (k : Nat) {poll : Poll} (p : Poller) (s : System) (looking : poll.stage = .looking) :
    Strides k poll p s (poll.step System.surroundings p s).1 (poll.step System.surroundings p s).2.2
      (bid? k poll p s) none := by
  obtain ⟨report, rest, seen, stage⟩ := poll
  cases looking
  cases rest with
  | nil => exact .finishes rfl rfl rfl rfl
  | cons e rest =>
    by_cases open_ : s.engine.isAccepting
    · generalize claimIs : s.claim e p.config.lockTimeout = claimed
      obtain ⟨answer, after⟩ := claimed
      have told : (s.claim e p.config.lockTimeout).1 = answer := by rw [claimIs]
      have system : after = (s.claim e p.config.lockTimeout).2 := by rw [claimIs]
      rcases answer with _ | _ | _
      · simp only [bid?, Poll.step, System.surroundings, open_, if_true, Poll.claim, claimIs, Option.map_none]
        rw [system]
        exact .bids e none rfl rfl told rfl
      · simp only [bid?, Poll.step, System.surroundings, open_, if_true, Poll.claim, claimIs, Option.map_some]
        rw [system]
        exact .bids e (some false) rfl rfl told rfl
      · simp only [bid?, Poll.step, System.surroundings, open_, if_true, Poll.claim, claimIs, Option.map_some]
        rw [system]
        exact .bids e (some true) rfl rfl told rfl
    · simp only [bid?, Poll.step, System.surroundings, open_, Bool.false_eq_true, if_false, Poll.close]
      exact .stops e rfl rfl (by simpa using open_) rfl

private theorem strides_holding (k : Nat) {poll : Poll} {e : DueEntry} (p : Poller) (s : System)
    (holding : poll.stage = .holding e) :
    Strides k poll p s (poll.step System.surroundings p s).1 (poll.step System.surroundings p s).2.2 none
      (Depot.handover? poll p s) := by
  have goes := (poll.goes p s).1
  have engine : ∀ h, Depot.handover? poll p s = some h → h.before = s.engine := by
    intro h handed
    simp only [Depot.handover?, holding] at handed
    split at handed
    · cases handed
      rfl
    · cases handed
  generalize (poll.step System.surroundings p s).1 = next at goes ⊢
  generalize (poll.step System.surroundings p s).2.2 = after at goes ⊢
  generalize Depot.handover? poll p s = handed at goes engine ⊢
  cases goes with
  | ends how was => exact absurd holding (was e).1
  | looks x was => cases holding.symm.trans was
  | drops x why was bad rest stage => exact .drops x why was bad rest stage
  | hands h m genuine was rest stage => exact .hands h m genuine was (engine h rfl) rest stage
  | clears x was => cases holding.symm.trans was

theorem strides (k : Nat) (poll : Poll) (p : Poller) (s : System) :
    Strides k poll p s (poll.step System.surroundings p s).1 (poll.step System.surroundings p s).2.2
      (bid? k poll p s) (Depot.handover? poll p s) := by
  cases stage : poll.stage with
  | looking =>
    have none : Depot.handover? poll p s = none := by simp only [Depot.handover?, stage]
    rw [none]
    exact strides_looking k p s stage
  | holding e =>
    have none : bid? k poll p s = none := by simp only [bid?, stage]
    rw [none]
    exact strides_holding k p s stage
  | clearing e =>
    have noBid : bid? k poll p s = none := by simp only [bid?, stage]
    have noHandover : Depot.handover? poll p s = none := by simp only [Depot.handover?, stage]
    rw [noBid, noHandover]
    simp only [Poll.step, stage, Poll.clear, System.surroundings]
    exact .clears e stage rfl rfl
  | ended how =>
    have noBid : bid? k poll p s = none := by simp only [bid?, stage]
    have noHandover : Depot.handover? poll p s = none := by simp only [Depot.handover?, stage]
    rw [noBid, noHandover]
    simp only [Poll.step, stage]
    exact .rests how stage rfl

/-! ### One act -/

/-- All that an act may come to. -/
inductive Turns (w : Race) (a : Act) : Race → Prop
  | rests : Turns w a w
  | begins (lap : Lap) (batch : lap.batch.Sublist w.entries) (rest : lap.poll.rest = lap.batch)
      (stage : lap.poll.stage = .looking ∨ lap.poll.stage = .ended .complete ∧ lap.poll.rest = []) :
      Turns w a { w with laps := w.laps ++ [lap] }
  | strides (k : Nat) (lap : Lap) (r : Racer) (st : Station) (p : Poller) (next : Poll) (after : System)
      (bid : Option Bid) (handed : Option Handover) (here : w.laps[k]? = some lap)
      (racer : w.racers[lap.racer]? = some r) (station : w.stations[r.station]? = some st)
      (config : p.config = r.poller.config)
      (goes : Strides k lap.poll r.poller (w.system st) next after bid handed) :
      Turns w a (w.moved k lap r p next after bid handed)
  | outside (place : Nat) (b : System.Act) (st : Station) (is : a = .outside place b)
      (here : w.stations[place]? = some st) : Turns w a (w.put place ((w.system st).act b))

theorem seat?_some {w : Race} {place : Nat} {r : Racer} {st : Station} (found : w.seat? place = some (r, st)) :
    w.racers[place]? = some r ∧ w.stations[r.station]? = some st := by
  simp only [seat?, Option.bind_eq_bind, Option.bind_eq_some_iff, Option.pure_def, Option.some.injEq,
    Prod.mk.injEq] at found
  obtain ⟨racer, there, station, here, rfl, rfl⟩ := found
  exact ⟨there, here⟩

/-- A poll starts to look at entries of the store in their order, or it is over at once. -/
private theorem startPoll_stage {p : Poller} {s : System} {poll : Poll}
    (started : p.startPoll System.surroundings s = .ok poll) :
    poll.stage = .looking ∨ poll.stage = .ended .complete ∧ poll.rest = [] := by
  unfold Poller.startPoll at started
  split at started
  · cases fetched : System.surroundings.fetch s (System.surroundings.now s) p.config.batchSize with
    | error why => simp [fetched, bind, Except.bind] at started
    | ok batch =>
      have value : Poll.ofBatch batch = poll := by
        simpa [fetched, bind, Except.bind, pure, Except.pure] using started
      exact .inl (value ▸ rfl)
  · cases started
    exact .inr ⟨rfl, rfl⟩

theorem turns (w : Race) (a : Act) : Turns w a (w.act a) := by
  cases a with
  | beginLap place =>
    simp only [act, beginLap]
    split
    · exact .rests
    · split
      · exact .rests
      · rename_i started
        exact .begins _ (Depot.startPoll_ok started).2 rfl (startPoll_stage started)
  | go k =>
    simp only [act, go]
    split
    · exact .rests
    · rename_i lap here
      split
      · exact .rests
      · rename_i r st found
        obtain ⟨racer, station⟩ := seat?_some found
        exact .strides k lap r st _ _ _ _ _ here racer station (lap.poll.goes r.poller (w.system st)).2
          (strides k lap.poll r.poller (w.system st))
  | outside place b =>
    simp only [act]
    split
    · exact .rests
    · rename_i st here
      exact .outside place b st rfl here

/-! ### Laps and steps -/

section Laps
variable {w : Race} {k j : Nat} {lap other : Lap} {r : Racer} {p : Poller} {next : Poll} {s : System}
  {bid : Option Bid} {handed : Option Handover}

theorem laps_begun (found : (w.laps ++ [lap])[k]? = some other) : w.laps[k]? = some other ∨ other = lap := by
  by_cases inside : k < w.laps.length
  · rw [List.getElem?_append_left inside] at found
    exact .inl found
  · rw [List.getElem?_append_right (Nat.le_of_not_lt inside)] at found
    exact .inr (List.mem_singleton.mp (List.mem_of_getElem? found))

/-- A lap of the race after a step is the one that has gone on, or it is what it was. -/
theorem laps_moved (found : (w.moved k lap r p next s bid handed).laps[j]? = some other) :
    j = k ∧ other = { lap with poll := next } ∨ j ≠ k ∧ w.laps[j]? = some other := by
  by_cases same : j = k
  · subst same
    have inside : j < w.laps.length := by
      by_contra outside
      rw [moved, List.getElem?_eq_none (by simpa using outside)] at found
      cases found
    rw [moved, List.getElem?_set_self inside] at found
    exact .inl ⟨rfl, (Option.some.inj found).symm⟩
  · rw [moved, List.getElem?_set_ne (Ne.symm same)] at found
    exact .inr ⟨same, found⟩

theorem laps_moved_self (same : j = k) (here : w.laps[k]? = some lap) :
    (w.moved k lap r p next s bid handed).laps[j]? = some { lap with poll := next } := by
  obtain ⟨inside, _⟩ := List.getElem?_eq_some_iff.mp here
  rw [same]
  exact List.getElem?_set_self inside

theorem laps_moved_ne (apart : j ≠ k) : (w.moved k lap r p next s bid handed).laps[j]? = w.laps[j]? :=
  List.getElem?_set_ne (Ne.symm apart)

end Laps

namespace Strides

variable {k : Nat} {poll next : Poll} {p : Poller} {s after : System} {bid : Option Bid} {handed : Option Handover}

/-- A lap has an entry at hand once it has won its lock. -/
theorem holding (goes : Strides k poll p s next after bid handed) {e : DueEntry} (stage : next.stage = .holding e) :
    bid = some ⟨k, e, some true⟩ ∧ handed = none := by
  cases goes with
  | rests how was same => cases (same ▸ was).symm.trans stage
  | finishes _ _ _ ended => cases ended.symm.trans stage
  | stops _ _ _ _ ended => cases ended.symm.trans stage
  | bids x answer was line claimed here =>
    rcases answer with _ | _ | _
    · cases here.symm.trans stage
    · cases here.symm.trans stage
    · cases here.symm.trans stage
      exact ⟨rfl, rfl⟩
  | drops _ _ _ _ _ clearing => cases clearing.symm.trans stage
  | hands h m genuine was before rest here =>
    rcases here with ⟨n, _, clearing⟩ | ⟨why, _, free⟩
    · cases clearing.symm.trans stage
    · exact absurd stage (free e).1
  | clears _ _ _ looking => cases looking.symm.trans stage

/-- A lap hands over the entry that it has at hand. -/
theorem handing {h : Handover} (goes : Strides k poll p s next after bid (some h)) : poll.stage = .holding h.entry := by
  cases goes with
  | hands _ m genuine was => exact was

end Strides

/-! ### Locks -/

/-- What holds of locks and bids all along, in a race that starts at one count of the clock and is over before
another. Every lock that was won outlasts the race, and no other lock is held. -/
structure Fair (start finish : Nat) (w : Race) : Prop where
  patient : ∀ r ∈ w.racers, finish ≤ start + r.poller.config.lockTimeout.nanos
  kept : ∀ b ∈ w.bids, ∀ key, b.Wins key → ∃ ends, w.locks.get? key = some ends ∧ finish ≤ ends
  earned : ∀ key ends, w.locks.get? key = some ends → ends ≤ start ∨ ∃ b ∈ w.bids, b.Wins key
  lawful : Bid.Lawful w.bids

section Locks
variable {start finish : Nat} {w after : Race}

theorem Fair.of_eq (fair : w.Fair start finish) (locks : after.locks = w.locks) (bids : after.bids = w.bids)
    (patient : ∀ r ∈ after.racers, finish ≤ start + r.poller.config.lockTimeout.nanos) :
    after.Fair start finish where
  patient := patient
  kept := by
    rw [bids, locks]
    exact fair.kept
  earned := by
    rw [bids, locks]
    exact fair.earned
  lawful := bids ▸ fair.lawful

/-- In the course of the race a lock is held just if it was won. -/
theorem Fair.isLocked_iff (fair : w.Fair start finish) (since : start ≤ w.count) (early : w.count < finish)
    (e : DueEntry) : w.broker.store.isLocked e w.count = true ↔ ∃ b ∈ w.bids, b.Wins e.lockKey := by
  rw [DueStore.isLocked_iff]
  constructor
  · rintro ⟨ends, found, later⟩
    rcases fair.earned _ _ found with stale | won
    · omega
    · exact won
  · rintro ⟨b, member, wins⟩
    obtain ⟨ends, found, later⟩ := fair.kept b member _ wins
    exact ⟨ends, found, Nat.lt_of_lt_of_le early later⟩

section Bids
variable {b : Bid} (fair : w.Fair start finish) (bids : after.bids = w.bids ++ [b])
  (law : b.answer = some false ↔ ∃ c ∈ w.bids, c.Wins b.entry.lockKey)
  (patient : ∀ r ∈ after.racers, finish ≤ start + r.poller.config.lockTimeout.nanos)
include fair bids law patient

private theorem Fair.lose (locks : after.locks = w.locks) (loses : b.answer ≠ some true) : after.Fair start finish := by
  refine ⟨patient, ?_, ?_, ?_⟩
  · intro c member key wins
    rw [locks]
    rcases List.mem_append.mp (bids ▸ member) with old | new
    · exact fair.kept c old key wins
    · rw [List.mem_singleton.mp new] at wins
      exact absurd wins.2 loses
  · intro key ends found
    rw [locks] at found
    rw [bids]
    rcases fair.earned key ends found with stale | ⟨c, member, wins⟩
    · exact .inl stale
    · exact .inr ⟨c, List.mem_append_left _ member, wins⟩
  · rw [bids]
    exact Bid.lawful_snoc.mpr ⟨fair.lawful, law⟩

private theorem Fair.win {ends : Nat} (locks : after.locks = w.locks.insert b.entry.lockKey ends) (long : finish ≤ ends)
    (wins : b.answer = some true) : after.Fair start finish := by
  refine ⟨patient, ?_, ?_, ?_⟩
  · intro c member key won
    rw [locks, Table.get?_insert]
    by_cases here : b.entry.lockKey = key
    · rw [if_pos here]
      exact ⟨ends, rfl, long⟩
    · rw [if_neg here]
      rcases List.mem_append.mp (bids ▸ member) with old | new
      · exact fair.kept c old key won
      · rw [List.mem_singleton.mp new] at won
        exact absurd won.1 here
  · intro key until_ found
    rw [locks, Table.get?_insert] at found
    rw [bids]
    by_cases here : b.entry.lockKey = key
    · exact .inr ⟨b, List.mem_append_right _ (List.mem_singleton_self b), here, wins⟩
    · rw [if_neg here] at found
      rcases fair.earned key until_ found with stale | ⟨c, member, won⟩
      · exact .inl stale
      · exact .inr ⟨c, List.mem_append_left _ member, won⟩
  · rw [bids]
    exact Bid.lawful_snoc.mpr ⟨fair.lawful, law⟩

end Bids

/-- Whatever the store answers to a claim, the locks stay fair. -/
private theorem Fair.bid (fair : w.Fair start finish) (since : start ≤ w.count) (early : w.count < finish)
    {ttl : Span} (long : finish ≤ start + ttl.nanos) (b : Bid)
    (claimed : (w.broker.store.claim b.entry ttl w.count).1 = b.answer)
    (locks : after.locks = (w.broker.store.claim b.entry ttl w.count).2.locks) (bids : after.bids = w.bids ++ [b])
    (patient : ∀ r ∈ after.racers, finish ≤ start + r.poller.config.lockTimeout.nanos) :
    after.Fair start finish := by
  have held := fair.isLocked_iff since early b.entry
  rcases w.broker.store.claim_cases b.entry ttl w.count with ⟨locked, told, same⟩ | ⟨free, told, put⟩ |
    ⟨free, told, same⟩
  · have answer : b.answer = some false := claimed.symm.trans told
    exact fair.lose bids (iff_of_true answer (held.mp locked)) patient (locks.trans same) (by simp [answer])
  · have answer : b.answer = some true := claimed.symm.trans told
    have law : b.answer = some false ↔ ∃ c ∈ w.bids, c.Wins b.entry.lockKey := by
      rw [← held, answer, free]
      simp
    exact fair.win bids law patient (locks.trans put) (by omega) answer
  · have answer : b.answer = none := claimed.symm.trans told
    have law : b.answer = some false ↔ ∃ c ∈ w.bids, c.Wins b.entry.lockKey := by
      rw [← held, answer, free]
      simp
    exact fair.lose bids law patient (locks.trans same) (by simp [answer])

/-- The locks stay fair, as long as nobody apart from the racers claims an entry. -/
theorem Fair.act (fair : w.Fair start finish) (since : start ≤ w.count) (early : w.count < finish) {a : Act}
    (alone : ∀ place e ttl, a ≠ .outside place (.claim e ttl)) : (w.act a).Fair start finish := by
  have turns := w.turns a
  generalize w.act a = after at turns ⊢
  cases turns with
  | rests => exact fair
  | begins lap => exact fair.of_eq rfl rfl fair.patient
  | outside place b st is here =>
    have locks : ((w.system st).act b).broker.store.locks = w.locks :=
      System.locks_act _ (fun e ttl claims => alone place e ttl (claims ▸ is))
    exact fair.of_eq locks rfl fair.patient
  | strides k lap r st p next after bid handed here racer station config goes =>
    have long := fair.patient r (List.mem_of_getElem? racer)
    have patient : ∀ x ∈ w.racers.set lap.racer { r with poller := p },
        finish ≤ start + x.poller.config.lockTimeout.nanos := by
      intro x member
      rcases List.mem_or_eq_of_mem_set member with old | new
      · exact fair.patient x old
      · rw [new, config]
        exact long
    cases goes with
    | rests => exact fair.of_eq rfl (List.append_nil _) patient
    | finishes => exact fair.of_eq rfl (List.append_nil _) patient
    | stops => exact fair.of_eq rfl (List.append_nil _) patient
    | bids e answer was line claimed => exact fair.bid since early long ⟨k, e, answer⟩ claimed rfl rfl patient
    | drops => exact fair.of_eq rfl (List.append_nil _) patient
    | hands => exact fair.of_eq rfl (List.append_nil _) patient
    | clears => exact fair.of_eq rfl (List.append_nil _) patient

end Locks

/-! ### Entries at hand -/

/-- Whoever has an entry at hand has won its lock, and nobody has handed an entry of that lock over. -/
structure Single (w : Race) : Prop where
  won : ∀ h ∈ w.handovers, ∃ b ∈ w.bids, b.Wins h.entry.lockKey
  once : (w.handovers.map (fun h => h.entry.lockKey)).Nodup
  holding : ∀ (k : Nat) lap e, w.laps[k]? = some lap → lap.poll.stage = .holding e →
    ⟨k, e, some true⟩ ∈ w.bids ∧ ∀ h ∈ w.handovers, h.entry.lockKey ≠ e.lockKey

theorem Single.act {w : Race} (single : w.Single) (before : Bid.Lawful w.bids) (a : Act)
    (lawful : Bid.Lawful (w.act a).bids) : (w.act a).Single := by
  have turns := w.turns a
  generalize w.act a = after at turns lawful ⊢
  cases turns with
  | rests => exact single
  | outside place b st is here => exact ⟨single.won, single.once, single.holding⟩
  | begins lap batch rest stage =>
    refine ⟨single.won, single.once, fun k other e found holding => ?_⟩
    rcases laps_begun found with old | rfl
    · exact single.holding k other e old holding
    · rcases stage with looking | ⟨ended, _⟩
      · cases looking.symm.trans holding
      · cases ended.symm.trans holding
  | strides k lap r st p next after bid handed here racer station config goes =>
    have more : w.bids ⊆ w.bids ++ bid.toList := List.subset_append_left _ _
    refine ⟨?_, ?_, ?_⟩
    · intro h member
      rcases List.mem_append.mp member with old | new
      · obtain ⟨b, inside, wins⟩ := single.won h old
        exact ⟨b, more inside, wins⟩
      · obtain rfl := Option.mem_toList.mp new
        obtain ⟨inside, _⟩ := single.holding k lap h.entry here goes.handing
        exact ⟨_, more inside, rfl, rfl⟩
    · cases handed with
      | none => simpa [moved] using single.once
      | some h =>
        obtain ⟨_, apart⟩ := single.holding k lap h.entry here goes.handing
        simp only [moved, Option.toList_some, List.map_append, List.map_singleton]
        refine List.nodup_append.mpr ⟨single.once, List.nodup_singleton _, ?_⟩
        intro key member other last same
        obtain ⟨x, inside, rfl⟩ := List.mem_map.mp member
        exact apart x inside (same.trans (List.mem_singleton.mp last))
    · intro j other e found holding
      rcases laps_moved found with ⟨rfl, rfl⟩ | ⟨apart, old⟩
      · obtain ⟨rfl, rfl⟩ := goes.holding holding
        refine ⟨List.mem_append_right _ (List.mem_singleton_self _), fun h member same => ?_⟩
        obtain ⟨b, inside, wins⟩ := single.won h (by simpa [moved] using member)
        exact Bid.not_wins_again (Bid.lawful_snoc.mp lawful).2 inside (same ▸ wins) ⟨rfl, rfl⟩
      · obtain ⟨mine, none⟩ := single.holding j other e old holding
        refine ⟨more mine, fun h member same => ?_⟩
        rcases List.mem_append.mp member with old | new
        · exact none h old same
        · obtain rfl := Option.mem_toList.mp new
          obtain ⟨theirs, _⟩ := single.holding k lap h.entry here goes.handing
          have one := before.unique theirs mine ⟨same, rfl⟩ ⟨rfl, rfl⟩
          cases one
          exact apart rfl

/-- Of the entries of one lock one is handed over at most, and once. -/
theorem Single.countP_le_one {w : Race} (single : w.Single) (key : String) :
    w.handovers.countP (·.entry.lockKey = key) ≤ 1 := by
  have few := List.nodup_iff_count_le_one.mp single.once key
  rw [List.count, List.countP_map] at few
  refine Nat.le_trans (List.countP_mono_left (fun h _ here => ?_)) few
  simpa using here

/-! ### Runs -/

/-- All along a race locks are fair and entries are at hand once. -/
theorem fair_run {w : Race} {acts : List Act} {finish : Nat} (fresh : w.Fresh)
    (alone : ∀ place e ttl, .outside place (.claim e ttl) ∉ acts)
    (within : ∀ before, before <+: acts → w.count ≤ (w.run before).count ∧ (w.run before).count < finish)
    (patient : ∀ r ∈ w.racers, finish ≤ w.count + r.poller.config.lockTimeout.nanos) :
    (w.run acts).Fair w.count finish ∧ (w.run acts).Single := by
  induction acts using List.reverseRecOn with
  | nil =>
    constructor
    · refine ⟨patient, ?_, fun key ends found => .inl (fresh.unlocked key ends found), ?_⟩
      · simp [run, fresh.bids]
      · exact fresh.bids ▸ Bid.lawful_nil
    · refine ⟨?_, ?_, ?_⟩
      · simp [run, fresh.handovers]
      · simp [run, fresh.handovers]
      · simp [run, fresh.laps]
  | append_singleton acts a ih =>
    have earlier : acts <+: acts ++ [a] := List.prefix_append acts [a]
    obtain ⟨fair, single⟩ := ih (fun place e ttl inside => alone place e ttl (List.mem_append_left _ inside))
      (fun before part => within before (part.trans earlier))
    obtain ⟨since, early⟩ := within acts earlier
    have next : (w.run (acts ++ [a])) = (w.run acts).act a := run_append w acts [a]
    have after := fair.act since early
      (fun place e ttl claims => alone place e ttl (List.mem_append_right _ (claims ▸ List.mem_singleton_self a)))
    rw [next]
    exact ⟨after, single.act fair.lawful a after.lawful⟩

end Race
end Courier
