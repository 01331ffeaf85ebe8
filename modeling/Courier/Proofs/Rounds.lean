import Mathlib.Data.List.Induction
import Mathlib.Data.List.Nodup
import Courier.Proofs.Recipients
import Courier.Proofs.SystemActs

/-!
Any number of polls, by any number of pollers, at one store. Every poll goes on step by step, in any
order with the others and with all else that happens in the system. A poll has a line: the entries that
it has handed to the engine, the one at hand, and those to come, each before the next in the store's
order. It takes an entry out of the store only once the engine has taken its message, or if the entry
holds none; so an entry is lost to nobody but those who take it out themselves.
-/
namespace Courier

/-- An entry whose message has been handed to an engine, and what came of it. -/
structure Handover where
  entry : DueEntry
  told : Message
  now : Instant
  before : Engine
  result : Except DeliveryError Nat
  after : Engine

/-- A poll of one of the pollers, under way or over, and what it has handed to the engine. -/
structure Round where
  /-- The place of the poller. -/
  poller : Nat
  poll : Poll
  handovers : List Handover

/-- A system, its pollers, and all their polls. -/
structure Depot where
  system : System
  pollers : List Poller
  rounds : List Round

namespace Handover

/-- Whether a handover is what an engine does with the message of the entry, told to have been seen some
number of times more. -/
def Genuine (h : Handover) (m : Message) : Prop :=
  h.entry.message = .ok m ∧
    (∃ times, h.told = { m with pollingCount := raise m.pollingCount times }) ∧
    h.before.dispatch h.told h.now = (h.result, h.after)

/-- Whether every recipient of the message has accepted one delivery of it. -/
structure Taken (h : Handover) (m : Message) : Prop where
  genuine : h.Genuine m
  accepted : ∃ ts, h.before.recipients h.told = some ts ∧ h.result = .ok ts.length ∧
    h.after.pool.tasks.Perm
      (Engine.tasksFor h.told h.now h.before.pool.nextTicket h.before.dispatched ts ++ h.before.pool.tasks)

theorem Genuine.taken {h : Handover} {m : Message} (genuine : h.Genuine m) {n : Nat} (ok : h.result = .ok n) :
    h.Taken m := by
  obtain ⟨entry, told, result⟩ := genuine
  rw [ok] at result
  obtain ⟨ts, recipients, count, tasks⟩ := Engine.dispatch_ok result
  exact ⟨⟨entry, told, ok ▸ result⟩, ts, recipients, by rw [ok, count], tasks⟩

end Handover

namespace Depot

/-! ### Acts -/

/-- Something that may happen in a depot. -/
inductive Act
  /-- A poller starts a poll. -/
  | beginPoll (poller : Nat)
  /-- A poll does its next step. -/
  | go (round : Nat)
  /-- Something happens in the system apart from the pollers. -/
  | outside (a : System.Act)

/-- A depot before the first poll. -/
def opened (system : System) (pollers : List Poller) : Depot := ⟨system, pollers, []⟩

/-- What the next step of a poll hands to the engine. -/
def handover? (poll : Poll) (p : Poller) (s : System) : Option Handover :=
  match poll.stage with
  | .holding e =>
    match e.message with
    | .ok m =>
      let told := { m with pollingCount := raise m.pollingCount (p.seenInVain e + 1) }
      let (result, after) := s.engine.dispatch told s.now
      some ⟨e, told, s.now, s.engine, result, after⟩
    | .error _ => none
  | _ => none

/-- A poll of the poller at a place starts, if the store can be looked at. -/
def beginPoll (w : Depot) (place : Nat) : Depot :=
  match w.pollers[place]? with
  | none => w
  | some p =>
    match p.startPoll System.surroundings w.system with
    | .error _ => w
    | .ok poll => { w with rounds := w.rounds ++ [⟨place, poll, []⟩] }

/-- A poll does its next step. -/
def go (w : Depot) (k : Nat) : Depot :=
  match w.rounds[k]? with
  | none => w
  | some r =>
    match w.pollers[r.poller]? with
    | none => w
    | some p =>
      let (poll, after, system) := r.poll.step System.surroundings p w.system
      let handovers := r.handovers ++ (handover? r.poll p w.system).toList
      ⟨system, w.pollers.set r.poller after, w.rounds.set k ⟨r.poller, poll, handovers⟩⟩

/-- The depot after something has happened. -/
def act (w : Depot) : Act → Depot
  | .beginPoll place => w.beginPoll place
  | .go k => w.go k
  | .outside a => { w with system := w.system.act a }

/-- The depot after some things have happened. -/
def run (w : Depot) (acts : List Act) : Depot := acts.foldl act w

/-- The store's entries. -/
def entries (w : Depot) : List DueEntry := w.system.broker.store.entries

/-- All that the polls have handed to the engine. -/
def handovers (w : Depot) : List Handover := w.rounds.flatMap Round.handovers

/-- All entries that the store holds at some time in the course of a run. -/
def stored : Depot → List Act → List DueEntry
  | w, [] => w.entries
  | w, a :: rest => w.entries ++ stored (w.act a) rest

theorem run_append (w : Depot) (before after : List Act) : w.run (before ++ after) = (w.run before).run after :=
  List.foldl_append ..

theorem stored_snoc (w : Depot) (acts : List Act) (a : Act) :
    w.stored (acts ++ [a]) = w.stored acts ++ (w.run (acts ++ [a])).entries := by
  induction acts generalizing w with
  | nil => rfl
  | cons first rest ih =>
    simp only [List.cons_append, stored, ih, List.append_assoc]
    rfl

theorem entries_run_subset_stored (w : Depot) (acts : List Act) : (w.run acts).entries ⊆ w.stored acts := by
  induction acts generalizing w with
  | nil => exact fun _ member => member
  | cons a rest ih => exact fun _ member => List.mem_append_right _ (ih (w.act a) member)

end Depot

/-! ### One step of a poll -/

namespace Poll

/-- Whether a poll has no entry at hand. -/
def IsFree (poll : Poll) : Prop := ∀ e, poll.stage ≠ .holding e ∧ poll.stage ≠ .clearing e

/-- What a step of a poll may do: to the poll, to the system, and to an entry that it hands to the
engine. -/
inductive Moves (poll : Poll) (s : System) (next : Poll) (after : System) : Option Handover → Prop
  | passes (was : poll.IsFree) (free : next.IsFree) (rest : next.rest <:+ poll.rest)
      (store : after.broker.store.entries = s.broker.store.entries) : Moves poll s next after none
  | claims (e : DueEntry) (was : poll.stage = .looking) (rest : poll.rest = e :: next.rest)
      (stage : next.stage = .holding e) (store : after.broker.store.entries = s.broker.store.entries) :
      Moves poll s next after none
  | drops (e : DueEntry) (why : TransportError) (was : poll.stage = .holding e) (bad : e.message = .error why)
      (rest : next.rest = poll.rest) (stage : next.stage = .clearing e)
      (store : after.broker.store.entries = s.broker.store.entries) : Moves poll s next after none
  | takes (h : Handover) (m : Message) (taken : h.Taken m) (was : poll.stage = .holding h.entry)
      (rest : next.rest = poll.rest) (stage : next.stage = .clearing h.entry)
      (store : after.broker.store.entries = s.broker.store.entries) (engine : after.engine = h.after) :
      Moves poll s next after (some h)
  | defers (h : Handover) (m : Message) (why : DeliveryError) (genuine : h.Genuine m)
      (refused : h.result = .error why) (was : poll.stage = .holding h.entry) (rest : next.rest = poll.rest)
      (free : next.IsFree) (store : after.broker.store.entries = s.broker.store.entries)
      (engine : after.engine = h.after) : Moves poll s next after (some h)
  | clears (e : DueEntry) (was : poll.stage = .clearing e) (rest : next.rest = poll.rest) (free : next.IsFree)
      (store : after.broker.store = (s.broker.store.remove e).2) : Moves poll s next after none

theorem isFree_looking {poll : Poll} (stage : poll.stage = .looking) : poll.IsFree := by
  intro e
  rw [stage]
  exact ⟨nofun, nofun⟩

theorem isFree_ended {poll : Poll} {how : PollEnd} (stage : poll.stage = .ended how) : poll.IsFree := by
  intro e
  rw [stage]
  exact ⟨nofun, nofun⟩

/-- All that a step of a poll can be. -/
inductive Goes (poll : Poll) (p : Poller) (s : System) (next : Poll) : System → Option Handover → Prop
  | ends (how : PollEnd) (was : poll.IsFree) (rest : next.rest <:+ poll.rest) (stage : next.stage = .ended how) :
      Goes poll p s next s none
  | looks (e : DueEntry) (was : poll.stage = .looking) (rest : poll.rest = e :: next.rest)
      (stage : next.stage = .holding e ∨ next.IsFree) : Goes poll p s next (s.claim e p.config.lockTimeout).2 none
  | drops (e : DueEntry) (why : TransportError) (was : poll.stage = .holding e) (bad : e.message = .error why)
      (rest : next.rest = poll.rest) (stage : next.stage = .clearing e) : Goes poll p s next s none
  | hands (h : Handover) (m : Message) (genuine : h.Genuine m) (was : poll.stage = .holding h.entry)
      (rest : next.rest = poll.rest)
      (stage : (∃ n, h.result = .ok n ∧ next.stage = .clearing h.entry) ∨ ∃ why, h.result = .error why ∧ next.IsFree) :
      Goes poll p s next { s with engine := h.after } (some h)
  | clears (e : DueEntry) (was : poll.stage = .clearing e) (rest : next.rest = poll.rest) (free : next.IsFree) :
      Goes poll p s next (s.remove e).2 none

private theorem goes_looking {poll : Poll} (p : Poller) (s : System) (looking : poll.stage = .looking) :
    Goes poll p s (poll.step System.surroundings p s).1 (poll.step System.surroundings p s).2.2 none ∧
      (poll.step System.surroundings p s).2.1.config = p.config := by
  obtain ⟨report, rest, seen, stage⟩ := poll
  cases looking
  cases rest with
  | nil => exact ⟨.ends .complete (isFree_looking rfl) (List.suffix_refl _) rfl, rfl⟩
  | cons e rest =>
    by_cases open_ : s.engine.isAccepting
    · generalize claimIs : s.claim e p.config.lockTimeout = claimed
      obtain ⟨result, after⟩ := claimed
      have system : after = (s.claim e p.config.lockTimeout).2 := by rw [claimIs]
      rcases result with _ | _ | _
      · simp only [step, System.surroundings, open_, if_true, claim, claimIs, Option.map_none]
        rw [system]
        exact ⟨.looks e rfl rfl (.inr (isFree_ended rfl)), trivial⟩
      · simp only [step, System.surroundings, open_, if_true, claim, claimIs, Option.map_some]
        rw [system]
        exact ⟨.looks e rfl rfl (.inr (isFree_looking rfl)), rfl⟩
      · simp only [step, System.surroundings, open_, if_true, claim, claimIs, Option.map_some]
        rw [system]
        exact ⟨.looks e rfl rfl (.inl rfl), trivial⟩
    · simp only [step, System.surroundings, open_, Bool.false_eq_true, if_false, close]
      exact ⟨.ends .complete (isFree_looking rfl) (List.suffix_cons _ _) rfl, trivial⟩

private theorem goes_holding {poll : Poll} {e : DueEntry} (p : Poller) (s : System) (holding : poll.stage = .holding e) :
    Goes poll p s (poll.step System.surroundings p s).1 (poll.step System.surroundings p s).2.2
        (Depot.handover? poll p s) ∧
      (poll.step System.surroundings p s).2.1.config = p.config := by
  obtain ⟨report, rest, seen, stage⟩ := poll
  cases holding
  cases found : e.message with
  | error why =>
    simp only [step, hand, Depot.handover?, found]
    exact ⟨.drops e why rfl found rfl rfl, trivial⟩
  | ok m =>
    generalize toldIs : { m with pollingCount := raise m.pollingCount (p.seenInVain e + 1) } = told
    generalize resultIs : s.engine.dispatch told s.now = answer
    obtain ⟨result, after⟩ := answer
    have genuine : Handover.Genuine ⟨e, told, s.now, s.engine, result, after⟩ m :=
      ⟨found, ⟨_, toldIs.symm⟩, resultIs⟩
    cases result with
    | ok n =>
      simp only [step, hand, Depot.handover?, found, System.surroundings, System.dispatch, toldIs, resultIs]
      exact ⟨.hands _ m genuine rfl rfl (.inl ⟨n, rfl, rfl⟩), trivial⟩
    | error why =>
      by_cases full : why.isBackpressure
      · simp only [step, hand, Depot.handover?, found, System.surroundings, System.dispatch, toldIs, resultIs,
          full, if_true, close]
        exact ⟨.hands _ m genuine rfl rfl (.inr ⟨why, rfl, isFree_ended rfl⟩), rfl⟩
      · simp only [step, hand, Depot.handover?, found, System.surroundings, System.dispatch, toldIs, resultIs,
          full, Bool.false_eq_true, if_false]
        exact ⟨.hands _ m genuine rfl rfl (.inr ⟨why, rfl, isFree_looking rfl⟩), rfl⟩

theorem goes (poll : Poll) (p : Poller) (s : System) :
    Goes poll p s (poll.step System.surroundings p s).1 (poll.step System.surroundings p s).2.2
        (Depot.handover? poll p s) ∧
      (poll.step System.surroundings p s).2.1.config = p.config := by
  cases stage : poll.stage with
  | looking =>
    have none : Depot.handover? poll p s = none := by simp only [Depot.handover?, stage]
    rw [none]
    exact goes_looking p s stage
  | holding e => exact goes_holding p s stage
  | clearing e =>
    have none : Depot.handover? poll p s = none := by simp only [Depot.handover?, stage]
    rw [none]
    simp only [step, stage, clear, System.surroundings]
    exact ⟨.clears e stage rfl (isFree_looking rfl), trivial⟩
  | ended how =>
    have none : Depot.handover? poll p s = none := by simp only [Depot.handover?, stage]
    rw [none]
    simp only [step, stage]
    exact ⟨.ends how (isFree_ended stage) (List.suffix_refl _) stage, trivial⟩

/-- What the next step of a poll does. -/
theorem moves (poll : Poll) (p : Poller) (s : System) :
    Moves poll s (poll.step System.surroundings p s).1 (poll.step System.surroundings p s).2.2
      (Depot.handover? poll p s) := by
  have goes := (poll.goes p s).1
  generalize (poll.step System.surroundings p s).1 = next at goes ⊢
  generalize (poll.step System.surroundings p s).2.2 = after at goes ⊢
  generalize Depot.handover? poll p s = handed at goes ⊢
  cases goes with
  | ends how was rest stage => exact .passes was (isFree_ended stage) rest rfl
  | looks e was rest stage =>
    have store : (s.claim e p.config.lockTimeout).2.broker.store.entries = s.broker.store.entries := by
      simp [System.claim]
    rcases stage with holding | free
    · exact .claims e was rest holding store
    · exact .passes (isFree_looking was) free (rest ▸ List.suffix_cons _ _) store
  | drops e why was bad rest stage => exact .drops e why was bad rest stage rfl
  | hands h m genuine was rest stage =>
    rcases stage with ⟨n, ok, clearing⟩ | ⟨why, refused, free⟩
    · exact .takes h m (genuine.taken ok) was rest clearing rfl rfl
    · exact .defers h m why genuine refused was rest free rfl rfl
  | clears e was rest free => exact .clears e was rest free rfl

end Poll

namespace Round

/-- The entries of a poll in order: those that it has handed to the engine, the one that it holds, and
those to come. -/
def line (r : Round) : List DueEntry :=
  r.handovers.map Handover.entry ++ ((match r.poll.stage with | .holding e => [e] | _ => []) ++ r.poll.rest)

/-- What holds of a poll all along, given which entries have been in the store. -/
structure Sound (been : DueEntry → Prop) (r : Round) : Prop where
  ordered : r.line.Pairwise DueEntry.Precedes
  genuine : ∀ h ∈ r.handovers, ∃ m, h.Genuine m
  coming : ∀ e ∈ r.poll.rest, been e
  holding : ∀ e, r.poll.stage = .holding e → been e
  clearing : ∀ e, r.poll.stage = .clearing e → been e ∧
    ((∃ h ∈ r.handovers, h.entry = e ∧ ∃ m, h.Taken m) ∨ ∃ why, e.message = .error why)

theorem Sound.mono {been now : DueEntry → Prop} {r : Round} (sound : r.Sound been)
    (more : ∀ e, been e → now e) : r.Sound now where
  ordered := sound.ordered
  genuine := sound.genuine
  coming e member := more e (sound.coming e member)
  holding e stage := more e (sound.holding e stage)
  clearing e stage := (sound.clearing e stage).imp_left (more e)

theorem line_of_isFree {r : Round} (free : r.poll.IsFree) :
    r.line = r.handovers.map Handover.entry ++ r.poll.rest := by
  unfold line
  split
  · rename_i e holding
    exact absurd holding (free e).1
  · rfl

theorem line_of_holding {r : Round} {e : DueEntry} (holding : r.poll.stage = .holding e) :
    r.line = r.handovers.map Handover.entry ++ e :: r.poll.rest := by
  simp only [line, holding, List.singleton_append]

theorem line_of_clearing {r : Round} {e : DueEntry} (clearing : r.poll.stage = .clearing e) :
    r.line = r.handovers.map Handover.entry ++ r.poll.rest := by
  simp only [line, clearing, List.nil_append]

theorem line_of_looking {r : Round} (looking : r.poll.stage = .looking) :
    r.line = r.handovers.map Handover.entry ++ r.poll.rest := by
  simp only [line, looking, List.nil_append]

/-- The next step of a poll keeps what holds of it. -/
theorem Sound.step {been : DueEntry → Prop} {r : Round} (sound : r.Sound been) {s after : System} {next : Poll}
    {handed : Option Handover} (moves : r.poll.Moves s next after handed) :
    Sound been ⟨r.poller, next, r.handovers ++ handed.toList⟩ := by
  obtain ⟨place, poll, handovers⟩ := r
  have old := sound.ordered
  cases moves with
  | passes _ free rest store =>
    refine ⟨?_, ?_, fun e member => sound.coming e (rest.subset member), ?_, ?_⟩
    · rw [line_of_isFree free]
      refine old.sublist ?_
      rw [line, Option.toList_none, List.append_nil]
      exact (rest.sublist.trans (List.sublist_append_right _ _)).append_left _
    · simpa using sound.genuine
    · exact fun e holding => absurd holding (free e).1
    · exact fun e clearing => absurd clearing (free e).2
  | claims e was rest stage store =>
    have first : e ∈ poll.rest := rest ▸ List.mem_cons_self
    rw [line_of_looking was, show poll.rest = e :: next.rest from rest] at old
    refine ⟨?_, by simpa using sound.genuine, ?_, ?_, ?_⟩
    · rw [line_of_holding stage]
      simpa using old
    · exact fun x member => sound.coming x (rest ▸ List.mem_cons_of_mem _ member)
    · intro x holding
      cases stage.symm.trans holding
      exact sound.coming e first
    · intro x clearing
      cases stage.symm.trans clearing
  | drops e why was bad rest stage store =>
    rw [line_of_holding was] at old
    refine ⟨?_, by simpa using sound.genuine, ?_, ?_, ?_⟩
    · rw [line_of_clearing stage]
      refine old.sublist ?_
      simp only [rest, Option.toList_none, List.append_nil]
      exact (List.sublist_cons_self _ _).append_left _
    · exact fun x member => sound.coming x (rest ▸ member)
    · intro x holding
      cases stage.symm.trans holding
    · intro x clearing
      cases stage.symm.trans clearing
      exact ⟨sound.holding e was, .inr ⟨why, bad⟩⟩
  | takes h m taken was rest stage store engine =>
    rw [line_of_holding was] at old
    refine ⟨?_, ?_, ?_, ?_, ?_⟩
    · rw [line_of_clearing stage]
      simpa [rest] using old
    · intro other member
      rcases List.mem_append.mp member with before | last
      · exact sound.genuine other before
      · cases List.mem_singleton.mp last
        exact ⟨m, taken.genuine⟩
    · exact fun x member => sound.coming x (rest ▸ member)
    · intro x holding
      cases stage.symm.trans holding
    · intro x clearing
      cases stage.symm.trans clearing
      exact ⟨sound.holding h.entry was, .inl ⟨h, by simp, rfl, m, taken⟩⟩
  | defers h m why genuine refused was rest free store engine =>
    rw [line_of_holding was] at old
    refine ⟨?_, ?_, ?_, ?_, ?_⟩
    · rw [line_of_isFree free]
      simpa [rest] using old
    · intro other member
      rcases List.mem_append.mp member with before | last
      · exact sound.genuine other before
      · cases List.mem_singleton.mp last
        exact ⟨m, genuine⟩
    · exact fun x member => sound.coming x (rest ▸ member)
    · exact fun x holding => absurd holding (free x).1
    · exact fun x clearing => absurd clearing (free x).2
  | clears e was rest free store =>
    rw [line_of_clearing was] at old
    refine ⟨?_, by simpa using sound.genuine, ?_, ?_, ?_⟩
    · rw [line_of_isFree free]
      simpa [rest] using old
    · exact fun x member => sound.coming x (rest ▸ member)
    · exact fun x holding => absurd holding (free x).1
    · exact fun x clearing => absurd clearing (free x).2

end Round

/-! ### One act -/

namespace Depot

theorem go_cases (w : Depot) (k : Nat) :
    w.go k = w ∨ ∃ r next handed, w.rounds[k]? = some r ∧ r.poll.Moves w.system next (w.go k).system handed ∧
      (w.go k).rounds = w.rounds.set k ⟨r.poller, next, r.handovers ++ handed.toList⟩ := by
  cases found : w.rounds[k]? with
  | none => exact .inl (by simp only [go, found])
  | some r =>
    cases here : w.pollers[r.poller]? with
    | none => exact .inl (by simp only [go, found, here])
    | some p =>
      refine .inr ⟨r, (r.poll.step System.surroundings p w.system).1, handover? r.poll p w.system, rfl, ?_, ?_⟩
      · simp only [go, found, here]
        exact r.poll.moves p w.system
      · simp only [go, found, here]

/-- A poll starts with entries of the store, in order, and with none of them at hand. -/
theorem startPoll_ok {p : Poller} {s : System} {poll : Poll}
    (started : p.startPoll System.surroundings s = .ok poll) :
    poll.IsFree ∧ poll.rest.Sublist s.broker.store.entries := by
  unfold Poller.startPoll at started
  by_cases open_ : System.surroundings.isAccepting s = true
  · rw [if_pos open_] at started
    cases fetched : System.surroundings.fetch s (System.surroundings.now s) p.config.batchSize with
    | error why => simp [fetched, bind, Except.bind] at started
    | ok batch =>
      have value : Poll.ofBatch batch = poll := by
        simpa [fetched, bind, Except.bind, pure, Except.pure] using started
      rw [← value]
      exact ⟨Poll.isFree_looking rfl, DueStore.fetch_ok fetched⟩
  · rw [if_neg open_] at started
    cases started
    exact ⟨Poll.isFree_ended rfl, List.nil_sublist _⟩

theorem beginPoll_cases (w : Depot) (place : Nat) :
    w.beginPoll place = w ∨ ∃ poll : Poll, poll.IsFree ∧ poll.rest.Sublist w.entries ∧
      w.beginPoll place = { w with rounds := w.rounds ++ [⟨place, poll, []⟩] } := by
  cases found : w.pollers[place]? with
  | none => exact .inl (by simp only [beginPoll, found])
  | some p =>
    cases started : p.startPoll System.surroundings w.system with
    | error why => exact .inl (by simp only [beginPoll, found, started])
    | ok poll =>
      obtain ⟨free, batch⟩ := startPoll_ok started
      exact .inr ⟨poll, free, batch, by simp only [beginPoll, found, started]⟩

private theorem sound_started {been : DueEntry → Prop} {w : Depot} (all : ∀ e ∈ w.entries, been e) (place : Nat)
    {poll : Poll} (free : poll.IsFree) (batch : poll.rest.Sublist w.entries) :
    Round.Sound been ⟨place, poll, []⟩ where
  ordered := by
    rw [Round.line_of_isFree free]
    exact w.system.broker.store.ordered.sublist batch
  genuine h member := absurd member List.not_mem_nil
  coming e first := all e (batch.subset first)
  holding e holding := absurd holding (free e).1
  clearing e clearing := absurd clearing (free e).2

/-- Whatever happens, what holds of the polls goes on to hold. -/
theorem sound_act {been : DueEntry → Prop} {w : Depot} (sound : ∀ r ∈ w.rounds, r.Sound been)
    (all : ∀ e ∈ w.entries, been e) (a : Act) : ∀ r ∈ (w.act a).rounds, r.Sound been := by
  cases a with
  | outside a => exact sound
  | beginPoll place =>
    rcases w.beginPoll_cases place with same | ⟨poll, free, batch, started⟩
    · simpa only [act, same] using sound
    · simp only [act, started]
      intro r member
      rcases List.mem_append.mp member with old | new
      · exact sound r old
      · rw [List.mem_singleton.mp new]
        exact sound_started all place free batch
  | go k =>
    rcases w.go_cases k with same | ⟨r, next, handed, here, moves, rounds⟩
    · simpa only [act, same] using sound
    · simp only [act, rounds]
      intro other member
      rcases List.mem_or_eq_of_mem_set member with old | new
      · exact sound other old
      · rw [new]
        exact (sound r (List.mem_of_getElem? here)).step moves

/-- What a poll has handed over stays on record. -/
theorem handovers_act {w : Depot} {k : Nat} {r : Round} (found : w.rounds[k]? = some r) (a : Act) :
    ∃ now, (w.act a).rounds[k]? = some now ∧ r.handovers ⊆ now.handovers := by
  have stays : ∃ now, w.rounds[k]? = some now ∧ r.handovers ⊆ now.handovers := ⟨r, found, List.Subset.refl _⟩
  cases a with
  | outside a => exact stays
  | beginPoll place =>
    rcases w.beginPoll_cases place with same | ⟨poll, _, _, started⟩
    · simpa only [act, same] using stays
    · obtain ⟨inside, value⟩ := List.getElem?_eq_some_iff.mp found
      refine ⟨r, ?_, List.Subset.refl _⟩
      simp only [act, started]
      rw [List.getElem?_append_left inside, found]
  | go j =>
    rcases w.go_cases j with same | ⟨other, next, handed, here, moves, rounds⟩
    · simpa only [act, same] using stays
    · simp only [act, rounds]
      by_cases hit : j = k
      · subst hit
        cases here.symm.trans found
        obtain ⟨inside, _⟩ := List.getElem?_eq_some_iff.mp found
        exact ⟨_, List.getElem?_set_self inside, List.subset_append_left _ _⟩
      · exact ⟨r, by rw [List.getElem?_set_ne hit, found], List.Subset.refl _⟩

/-- An entry leaves the store only if someone takes it out, if the engine has taken its message from the
same poll, or if it holds no message; as far as digests tell entries apart. -/
theorem leaves {been : DueEntry → Prop} {w : Depot} (sound : ∀ r ∈ w.rounds, r.Sound been) (a : Act)
    {e : DueEntry} (member : e ∈ w.entries) :
    e ∈ (w.act a).entries ∨ (∃ x, a = .outside (.takeOut x) ∧ x.SamePlace e) ∨
      (∃ k r, a = .go k ∧ w.rounds[k]? = some r ∧
        ((∃ h ∈ r.handovers, h.entry = e ∧ ∃ m, h.Taken m) ∨ ∃ why, e.message = .error why)) ∨
      ∃ x, (been x ∨ x ∈ (w.act a).entries) ∧ x.Collides e := by
  cases a with
  | outside a =>
    rcases w.system.store_act a with grew | ⟨x, rfl, taken⟩
    · rcases grew.mem member with stays | ⟨x, new, collides⟩
      · exact .inl stays
      · exact .inr (.inr (.inr ⟨x, .inr new, collides⟩))
    · by_cases place : x.SamePlace e
      · exact .inr (.inl ⟨x, rfl, place⟩)
      · left
        show e ∈ (w.system.act (.takeOut x)).broker.store.entries
        rw [taken]
        exact DueStore.mem_remove.mpr ⟨member, place⟩
  | beginPoll place =>
    left
    rcases w.beginPoll_cases place with same | ⟨poll, _, _, started⟩
    · simpa only [act, same] using member
    · simp only [act, started]
      exact member
  | go k =>
    rcases w.go_cases k with same | ⟨r, next, handed, here, moves, _⟩
    · exact .inl (by simpa only [act, same] using member)
    · have kept (store : (w.go k).system.broker.store.entries = w.system.broker.store.entries) :
          e ∈ (w.act (.go k)).entries := by
        show e ∈ (w.go k).system.broker.store.entries
        rw [store]
        exact member
      cases moves with
      | passes _ _ _ store => exact .inl (kept store)
      | claims _ _ _ _ store => exact .inl (kept store)
      | drops _ _ _ _ _ _ store => exact .inl (kept store)
      | takes _ _ _ _ _ _ store _ => exact .inl (kept store)
      | defers _ _ _ _ _ _ _ _ store _ => exact .inl (kept store)
      | clears x was _ _ store =>
        obtain ⟨known, done⟩ := (sound r (List.mem_of_getElem? here)).clearing x was
        by_cases place : x.SamePlace e
        · rcases place.eq_or_collides with same | collides
          · subst same
            exact .inr (.inr (.inl ⟨k, r, rfl, here, done⟩))
          · exact .inr (.inr (.inr ⟨x, .inl known, collides⟩))
        · left
          show e ∈ (w.go k).system.broker.store.entries
          rw [store]
          exact DueStore.mem_remove.mpr ⟨member, place⟩

/-! ### Runs -/

theorem handovers_run {w : Depot} {k : Nat} {r : Round} (found : w.rounds[k]? = some r) (acts : List Act) :
    ∃ now, (w.run acts).rounds[k]? = some now ∧ r.handovers ⊆ now.handovers := by
  induction acts generalizing w r with
  | nil => exact ⟨r, found, List.Subset.refl _⟩
  | cons a rest ih =>
    obtain ⟨next, here, more⟩ := handovers_act found a
    obtain ⟨now, last, evenMore⟩ := ih here
    exact ⟨now, last, List.Subset.trans more evenMore⟩

theorem sound_run (s : System) (pollers : List Poller) (acts : List Act) :
    ∀ r ∈ ((opened s pollers).run acts).rounds, r.Sound (· ∈ (opened s pollers).stored acts) := by
  induction acts using List.reverseRecOn with
  | nil => exact fun r member => absurd member List.not_mem_nil
  | append_singleton acts a ih =>
    rw [run_append]
    intro r member
    refine (sound_act ih (entries_run_subset_stored _ acts) a r member).mono (fun e been => ?_)
    rw [stored_snoc]
    exact List.mem_append_left _ been

theorem stored_append_subset (w : Depot) (before after : List Act) :
    w.stored before ⊆ w.stored (before ++ after) := by
  induction before generalizing w with
  | nil =>
    cases after with
    | nil => exact List.Subset.refl _
    | cons a rest => exact List.subset_append_left _ _
  | cons a rest ih =>
    have later := List.Subset.trans (ih (w.act a)) (List.subset_append_right w.entries _)
    exact List.append_subset.mpr ⟨List.subset_append_left _ _, later⟩

private theorem leaves_run (s : System) (pollers : List Poller) (acts : List Act) (a : Act) {e : DueEntry}
    (member : e ∈ ((opened s pollers).run acts).entries) :
    e ∈ ((opened s pollers).run (acts ++ [a])).entries ∨ (∃ x, a = .outside (.takeOut x) ∧ x.SamePlace e) ∨
      (∃ k r, a = .go k ∧ ((opened s pollers).run acts).rounds[k]? = some r ∧
        ((∃ h ∈ r.handovers, h.entry = e ∧ ∃ m, h.Taken m) ∨ ∃ why, e.message = .error why)) ∨
      ∃ x ∈ (opened s pollers).stored (acts ++ [a]), x.Collides e := by
  rw [stored_snoc, run_append]
  rcases leaves (sound_run s pollers acts) a member with stays | out | taken | ⟨x, been, collides⟩
  · exact .inl stays
  · exact .inr (.inl out)
  · exact .inr (.inr (.inl taken))
  · exact .inr (.inr (.inr ⟨x, List.mem_append.mpr been, collides⟩))

/-- An entry that holds a message stays in the store until someone takes it out or the engine has taken
its message. -/
private theorem stored_or_taken (s : System) (pollers : List Poller) (before after : List Act) {e : DueEntry}
    {m : Message} (readable : e.message = .ok m) (member : e ∈ ((opened s pollers).run before).entries)
    (left : ∀ x, .outside (.takeOut x) ∈ after → ¬ x.SamePlace e) :
    e ∈ ((opened s pollers).run (before ++ after)).entries ∨
      (∃ h ∈ ((opened s pollers).run (before ++ after)).handovers, h.entry = e ∧ h.Taken m) ∨
      ∃ x ∈ (opened s pollers).stored (before ++ after), x.Collides e := by
  induction after using List.reverseRecOn with
  | nil =>
    rw [List.append_nil]
    exact .inl member
  | append_singleton after a ih =>
    rw [← List.append_assoc]
    have earlier := ih (fun x inside => left x (List.mem_append_left _ inside))
    rcases earlier with stays | ⟨h, handed, taken⟩ | ⟨x, been, collides⟩
    · rcases leaves_run s pollers (before ++ after) a stays with stays | ⟨x, out, place⟩ |
        ⟨k, r, rfl, here, ⟨h, handed, entry, m', taken⟩ | ⟨why, bad⟩⟩ | collision
      · exact .inl stays
      · exact absurd place (left x (by simp [out]))
      · refine .inr (.inl ⟨h, ?_, entry, ?_⟩)
        · obtain ⟨now, there, more⟩ := handovers_act here (.go k)
          rw [run_append]
          exact List.mem_flatMap.mpr ⟨now, List.mem_of_getElem? there, more handed⟩
        · have same : m' = m := Except.ok.inj (taken.genuine.1.symm.trans (entry ▸ readable))
          exact same ▸ taken
      · rw [readable] at bad
        cases bad
      · exact .inr (.inr collision)
    · refine .inr (.inl ⟨h, ?_, taken⟩)
      obtain ⟨r, inside, made⟩ := List.mem_flatMap.mp handed
      obtain ⟨k, found⟩ := List.mem_iff_getElem?.mp inside
      obtain ⟨now, there, more⟩ := handovers_act found a
      rw [run_append]
      exact List.mem_flatMap.mpr ⟨now, List.mem_of_getElem? there, more made⟩
    · exact .inr (.inr ⟨x, stored_append_subset _ _ _ been, collides⟩)

private theorem handed_once {been : DueEntry → Prop} {r : Round} (sound : r.Sound been) {h other : Handover}
    (first : h ∈ r.handovers) (second : other ∈ r.handovers) (same : h.entry = other.entry) : h = other := by
  have line : (r.handovers.map Handover.entry).Pairwise DueEntry.Precedes :=
    sound.ordered.sublist (List.sublist_append_left _ _)
  have distinct : (r.handovers.map Handover.entry).Nodup := by
    refine line.imp (fun before => ?_)
    rintro rfl
    exact DueEntry.Precedes.irrefl _ before
  exact List.inj_on_of_nodup_map distinct first second same

/-- An entry whose message was refused in a poll stays in the store for the rest of that poll. -/
private theorem stored_if_refused (s : System) (pollers : List Poller) (before after : List Act) {k : Nat}
    {r : Round} {h : Handover} {why : DeliveryError}
    (found : ((opened s pollers).run (before ++ after)).rounds[k]? = some r) (handed : h ∈ r.handovers)
    (refused : h.result = .error why) (member : h.entry ∈ ((opened s pollers).run before).entries)
    (left : ∀ x, .outside (.takeOut x) ∈ after → ¬ x.SamePlace h.entry) (alone : ∀ j, .go j ∈ after → j = k) :
    h.entry ∈ ((opened s pollers).run (before ++ after)).entries ∨
      ∃ x ∈ (opened s pollers).stored (before ++ after), x.Collides h.entry := by
  have sound := sound_run s pollers (before ++ after) r (List.mem_of_getElem? found)
  obtain ⟨m, readable, _⟩ := sound.genuine h handed
  -- along every part of what happens, up to all of it
  suffices each : ∀ part rest, after = part ++ rest →
      h.entry ∈ ((opened s pollers).run (before ++ part)).entries ∨
        ∃ x ∈ (opened s pollers).stored (before ++ part), x.Collides h.entry from
    each after [] (List.append_nil after).symm
  intro part
  induction part using List.reverseRecOn with
  | nil =>
    intro rest split
    rw [List.append_nil]
    exact .inl member
  | append_singleton part a ih =>
    intro rest split
    rw [← List.append_assoc]
    have act : a ∈ after := by simp [split]
    rcases ih (a :: rest) (by simp [split]) with stays | ⟨x, been, collides⟩
    · rcases leaves_run s pollers (before ++ part) a stays with stays | ⟨x, rfl, place⟩ |
        ⟨j, r', rfl, here, ⟨other, made, entry, m', taken⟩ | ⟨bad, unreadable⟩⟩ | collision
      · exact .inl stays
      · exact absurd place (left x act)
      · obtain rfl := alone j act
        obtain ⟨now, there, more⟩ := handovers_run here (.go j :: rest)
        rw [← run_append] at there
        have whole : before ++ part ++ Act.go j :: rest = before ++ after := by simp [split]
        rw [whole, found] at there
        cases there
        have same := handed_once sound (more made) handed entry
        obtain ⟨ts, _, ok, _⟩ := taken.accepted
        rw [same, refused] at ok
        cases ok
      · rw [readable] at unreadable
        cases unreadable
      · exact .inr collision
    · exact .inr ⟨x, stored_append_subset _ _ _ been, collides⟩

/-- No message is lost between the store and the engine. Whatever happens and in whatever order, an entry
that holds a message and that nobody takes out himself stays in the store until the engine has taken that
message, with no more than its polling count raised, and each of its recipients has accepted one
delivery. In a poll an entry leaves the store only if the engine has taken its message from that very
poll, or if it holds none; a message that the engine refuses stays in the store. All this as far as
digests tell the entries of one due time apart. -/
theorem no_message_is_lost (s : System) (pollers : List Poller) (before after : List Act) :
    let w := opened s pollers
    let mid := w.run before
    let last := w.run (before ++ after)
    (∀ e, e ∈ (mid.act (.outside (.insert e))).entries) ∧
      (∀ e m, e.message = .ok m → e ∈ mid.entries → (∀ x, .outside (.takeOut x) ∈ after → ¬ x.SamePlace e) →
        e ∈ last.entries ∨ (∃ h ∈ last.handovers, h.entry = e ∧ h.Taken m) ∨
          ∃ x ∈ w.stored (before ++ after), x.Collides e) ∧
      (∀ a e, e ∈ mid.entries → e ∉ (mid.act a).entries →
        (∃ x, a = .outside (.takeOut x) ∧ x.SamePlace e) ∨
          (∃ k r, a = .go k ∧ mid.rounds[k]? = some r ∧
            ((∃ h ∈ r.handovers, h.entry = e ∧ ∃ m, h.Taken m) ∨ ∃ why, e.message = .error why)) ∨
          ∃ x ∈ w.stored (before ++ [a]), x.Collides e) ∧
      ∀ k r h why, last.rounds[k]? = some r → h ∈ r.handovers → h.result = .error why → h.entry ∈ mid.entries →
        (∀ x, .outside (.takeOut x) ∈ after → ¬ x.SamePlace h.entry) → (∀ j, .go j ∈ after → j = k) →
        h.entry ∈ last.entries ∨ ∃ x ∈ w.stored (before ++ after), x.Collides h.entry := by
  refine ⟨fun e => DueStore.mem_placed_self e _, ?_, ?_, ?_⟩
  · exact fun e m readable member left => stored_or_taken s pollers before after readable member left
  · intro a e member gone
    rcases leaves_run s pollers before a member with stays | others
    · rw [run_append] at stays
      exact absurd stays gone
    · exact others
  · exact fun k r h why found handed refused member left alone =>
      stored_if_refused s pollers before after found handed refused member left alone

/-! ### Whole polls -/

private theorem steps_eq_run {w : Depot} {k : Nat} {r : Round} {p : Poller} (found : w.rounds[k]? = some r)
    (here : w.pollers[r.poller]? = some p) (n : Nat) :
    (w.run (List.replicate n (.go k))).system = (r.poll.steps System.surroundings n p w.system).2.2 ∧
      (w.run (List.replicate n (.go k))).pollers[r.poller]? =
        some (r.poll.steps System.surroundings n p w.system).2.1 ∧
      ((w.run (List.replicate n (.go k))).rounds[k]?).map Round.poll =
        some (r.poll.steps System.surroundings n p w.system).1 := by
  induction n generalizing w r p with
  | zero => exact ⟨rfl, here, by simp [run, found, Poll.steps]⟩
  | succ n ih =>
    obtain ⟨inside, _⟩ := List.getElem?_eq_some_iff.mp found
    obtain ⟨place, _⟩ := List.getElem?_eq_some_iff.mp here
    have next : (w.go k).rounds[k]? = some ⟨r.poller, (r.poll.step System.surroundings p w.system).1,
        r.handovers ++ (handover? r.poll p w.system).toList⟩ := by
      simp only [go, found, here]
      exact List.getElem?_set_self inside
    have poller : (w.go k).pollers[r.poller]? = some (r.poll.step System.surroundings p w.system).2.1 := by
      simp only [go, found, here]
      exact List.getElem?_set_self place
    have system : (w.go k).system = (r.poll.step System.surroundings p w.system).2.2 := by
      simp only [go, found, here]
    have later := ih next poller
    rw [system] at later
    exact later

/-- A whole poll is a run of its own: it starts and does its steps. -/
theorem pollOnce_eq_run {w : Depot} {place : Nat} {p : Poller} {poll : Poll} (here : w.pollers[place]? = some p)
    (started : p.startPoll System.surroundings w.system = .ok poll) :
    let last := w.run (.beginPoll place :: List.replicate (3 * poll.rest.length + 1) (.go w.rounds.length))
    last.system = (p.pollOnce System.surroundings w.system).2.2.2 ∧
      last.pollers[place]? = some (p.pollOnce System.surroundings w.system).2.2.1 := by
  have begun : w.beginPoll place = { w with rounds := w.rounds ++ [⟨place, poll, []⟩] } := by
    simp only [beginPoll, here, started]
  have found : (w.beginPoll place).rounds[w.rounds.length]? = some ⟨place, poll, []⟩ := by
    rw [begun]
    exact List.getElem?_concat_length
  have poller : (w.beginPoll place).pollers[place]? = some p := by
    rw [begun]
    exact here
  have system : (w.beginPoll place).system = w.system := by rw [begun]
  obtain ⟨after, now, _⟩ := steps_eq_run found poller (3 * poll.rest.length + 1)
  rw [system] at after now
  have whole : (p.pollOnce System.surroundings w.system).2.2 =
      (poll.steps System.surroundings (3 * poll.rest.length + 1) p w.system).2 := by
    simp only [Poller.pollOnce, started, Poll.finish]
    split <;> rfl
  rw [whole]
  exact ⟨after, now⟩

end Depot
end Courier
