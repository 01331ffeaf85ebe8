import Courier.Proofs.EngineActs
import Courier.Proofs.Sightings

/-!
What one poll comes to, told by what it has seen. The report counts the sightings; the store loses the entries that are
done with; the lock table gains the locks of the entries that were claimed; the poller remembers the entries that it has
seen in vain. All of this holds after every step of the poll, of what has been seen so far.
-/
namespace Courier

/-- The report of a poll that has seen entries of a batch. -/
def PollReport.ofSightings (batch : List DueEntry) (sightings : List Sighting) : PollReport where
  fetched := batch.length
  claimed := sightings.countP Sighting.isClaimed
  conflicts := sightings.countP Sighting.isLocked
  dispatched := (sightings.map Sighting.deliveries).sum
  malformed := sightings.countP Sighting.isUnreadable
  deferred := sightings.countP Sighting.isDeferred

namespace Sighting

/-- The entries that are done with. -/
def done (sightings : List Sighting) : List DueEntry := (sightings.filter isDone).map entry

/-- The entries that were claimed. -/
def claimed (sightings : List Sighting) : List DueEntry := (sightings.filter isClaimed).map entry

theorem claimed_snoc {sightings : List Sighting} {g : Sighting} (claims : g.isClaimed = true) :
    claimed (sightings ++ [g]) = claimed sightings ++ [g.entry] := by
  simp [claimed, claims]

theorem claimed_passed (sightings : List Sighting) (e : DueEntry) :
    claimed (sightings ++ [.locked e]) = claimed sightings := by
  simp [claimed, isClaimed]

/-- What is remembered of a lock after some sightings, given what was remembered before. -/
def memory (key : String) (sightings : List Sighting) (before : Option UInt32) : Option UInt32 :=
  (sightings.filter (fun g => g.entry.lockKey = key)).foldl (fun known g => g.noted known) before

theorem memory_snoc (key : String) (sightings : List Sighting) (g : Sighting) (before : Option UInt32) :
    memory key (sightings ++ [g]) before =
      if g.entry.lockKey = key then g.noted (memory key sightings before) else memory key sightings before := by
  by_cases same : g.entry.lockKey = key
  · simp [memory, List.filter_append, same]
  · simp [memory, List.filter_append, same]

/-- An engine that has been handed the messages of some sightings. -/
def engineAfter (e : Engine) (sightings : List Sighting) : Engine :=
  sightings.foldl (fun e g => match g with
    | .taken h _ | .deferred h _ => h.after
    | _ => e) e

theorem engineAfter_append (e : Engine) (front back : List Sighting) :
    engineAfter e (front ++ back) = engineAfter (engineAfter e front) back := List.foldl_append ..

/-- Claimed entries cannot be read, or the engine takes their messages or does not. -/
theorem countP_claimed (sightings : List Sighting) :
    sightings.countP isClaimed =
      sightings.countP isUnreadable + sightings.countP isDeferred + sightings.countP isTaken := by
  induction sightings with
  | nil => rfl
  | cons g rest ih =>
    simp only [List.countP_cons, ih]
    cases g <;> simp [isClaimed, isUnreadable, isDeferred, isTaken] <;> omega

theorem countP_examined (sightings : List Sighting) :
    sightings.countP isClaimed + sightings.countP isLocked = sightings.length := by
  induction sightings with
  | nil => rfl
  | cons g rest ih =>
    simp only [List.countP_cons, List.length_cons, ← ih]
    cases g <;> simp [isClaimed, isLocked] <;> omega

end Sighting

namespace Poller

/-- How often a poller has seen an entry in vain, after some sightings more. -/
def seenInVainAfter (p : Poller) (sightings : List Sighting) (e : DueEntry) : UInt32 :=
  (Sighting.memory e.lockKey sightings (p.observations.get? e.lockKey)).getD 0

/-- Whether an entry cannot be claimed: somebody had its lock before the poll, or the poll has taken it itself. -/
def Barred (p : Poller) (s : System) (sightings : List Sighting) (e : DueEntry) : Prop :=
  s.broker.store.isLocked e s.count = true ∨
    0 < p.config.lockTimeout.nanos ∧ ∃ x ∈ Sighting.claimed sightings, x.lockKey = e.lockKey

/-- Whether a sighting is what a poll makes of an entry after some others: it passes over the entry just if it cannot
claim it, and hands the message of a claimed entry to the engine as the earlier ones have left it. -/
def Makes (p : Poller) (s : System) (front : List Sighting) : Sighting → Prop
  | .locked e => p.Barred s front e
  | .unreadable e => ¬ p.Barred s front e ∧ ∃ why, e.message = .error why
  | .taken h n => ¬ p.Barred s front h.entry ∧ h.result = .ok n ∧
    ∃ m, h.Made m (p.seenInVainAfter front h.entry) s.now (Sighting.engineAfter s.engine front)
  | .deferred h why => ¬ p.Barred s front h.entry ∧ h.result = .error why ∧
    ∃ m, h.Made m (p.seenInVainAfter front h.entry) s.now (Sighting.engineAfter s.engine front)

theorem Makes.free {p : Poller} {s : System} {front : List Sighting} {g : Sighting} (makes : p.Makes s front g)
    (claimed : g.isClaimed = true) : ¬ p.Barred s front g.entry := by
  cases g with
  | locked e => cases claimed
  | unreadable e => exact makes.1
  | taken h n => exact makes.1
  | deferred h why => exact makes.1

/-- How far a poll gets in its batch, and how it ends. -/
inductive Ends (p : Poller) (batch : List DueEntry) : PollEnd → List Sighting → Prop
  | whole (sightings : List Sighting) (all : sightings.map Sighting.entry = batch)
      (room : ∀ g ∈ sightings, g.isFull = false) : Ends p batch .complete sightings
  /-- The engine has no room for the message of the last entry. -/
  | full (sightings : List Sighting) (g : Sighting) (first : (sightings ++ [g]).map Sighting.entry <+: batch)
      (room : ∀ x ∈ sightings, x.isFull = false) (full : g.isFull = true) : Ends p batch .complete (sightings ++ [g])
  /-- The end of the lock cannot be told that is to be taken for the next entry. -/
  | endless (sightings : List Sighting) (e : DueEntry) (first : sightings.map Sighting.entry ++ [e] <+: batch)
      (room : ∀ g ∈ sightings, g.isFull = false) (endless : Timer.isTellable p.config.lockTimeout = false) :
      Ends p batch .broken sightings

/-- What a poll of a batch comes to that has seen some entries. -/
structure Polled (p : Poller) (s : System) (batch : List DueEntry) (how : PollEnd) (counts : PollReport) (q : Poller)
    (after : System) (sightings : List Sighting) : Prop where
  ends : p.Ends batch how sightings
  makes : ∀ front g back, sightings = front ++ g :: back → p.Makes s front g
  engine : after.engine = Sighting.engineAfter s.engine sightings
  report : counts = .ofSightings batch sightings
  entries : after.broker.store.entries = s.broker.store.entries.filter (fun x => x ∉ Sighting.done sightings)
  locks : ∀ key, after.broker.store.locks.get? key =
    if ∃ x ∈ Sighting.claimed sightings, x.lockKey = key then some (s.count + p.config.lockTimeout.nanos)
    else s.broker.store.locks.get? key
  observations : how = .complete → ∀ key, q.observations.get? key =
    if ∃ g ∈ sightings, g.entry.lockKey = key then Sighting.memory key sightings (p.observations.get? key) else none
  dispatched : after.engine.dispatched = s.engine.dispatched + counts.dispatched

end Poller

theorem Handover.Made.dispatched {h : Handover} {m : Message} {times : UInt32} {now : Instant} {engine : Engine}
    (made : h.Made m times now engine) : h.after.dispatched = engine.dispatched + Engine.answered h.result := by
  have counted := engine.dispatched_dispatch h.told now
  rw [made.answer] at counted
  exact counted

theorem PollReport.afterSight_ofSightings (batch : List DueEntry) (sightings : List Sighting) (g : Sighting) (n : Nat) :
    ({ ofSightings batch sightings with claimed := n } : PollReport).afterSight g =
      { ofSightings batch (sightings ++ [g]) with claimed := n } := by
  cases g <;>
    simp [ofSightings, afterSight, Sighting.isLocked, Sighting.isUnreadable, Sighting.isDeferred, Sighting.deliveries]

/-- The entry that a poll is about to take out of the store. -/
def Poll.parting (poll : Poll) : List DueEntry :=
  match poll.stage with
  | .clearing e => [e]
  | _ => []

theorem Poll.held_of_looking {poll : Poll} (looking : poll.stage = .looking) : poll.held = [] := by
  rw [held, looking]

theorem Poll.held_of_holding {poll : Poll} {e : DueEntry} (holding : poll.stage = .holding e) : poll.held = [e] := by
  rw [held, holding]

theorem Poll.held_of_clearing {poll : Poll} {e : DueEntry} (clearing : poll.stage = .clearing e) : poll.held = [] := by
  rw [held, clearing]

namespace Survey

variable {p : Poller} {s : System} {batch : List DueEntry} {v : Survey}

/-! ### What is counted -/

/-- Whether the counts are those of what has been seen. An entry that is held has been claimed. -/
private structure Tallied (s : System) (batch : List DueEntry) (v : Survey) : Prop where
  report : v.poll.report =
    { PollReport.ofSightings batch v.sightings with
      claimed := v.sightings.countP Sighting.isClaimed + v.poll.held.length }
  dispatched : v.system.engine.dispatched = s.engine.dispatched + (v.sightings.map Sighting.deliveries).sum

private theorem Tallied.quiet (tallied : v.Tallied s batch) {next : Survey} (sightings : next.sightings = v.sightings)
    (report : next.poll.report = v.poll.report) (held : next.poll.held = v.poll.held)
    (engine : next.system.engine = v.system.engine) : next.Tallied s batch := by
  refine ⟨?_, ?_⟩
  · rw [report, sightings, held]
    exact tallied.report
  · rw [engine, sightings]
    exact tallied.dispatched

private theorem Tallied.sees (tallied : v.Tallied s batch) {next : Survey} {g : Sighting}
    (sightings : next.sightings = v.sightings ++ [g]) (report : next.poll.report = v.poll.report.afterSight g)
    (claims : next.sightings.countP Sighting.isClaimed + next.poll.held.length =
      v.sightings.countP Sighting.isClaimed + v.poll.held.length)
    (engine : next.system.engine.dispatched = v.system.engine.dispatched + g.deliveries) : next.Tallied s batch := by
  refine ⟨?_, ?_⟩
  · rw [report, claims, sightings, tallied.report, PollReport.afterSight_ofSightings]
  · rw [engine, sightings, tallied.dispatched, List.map_append, List.sum_append, Nat.add_assoc]
    rfl

private theorem Tallied.go (tallied : v.Tallied s batch) : v.go.Tallied s batch := by
  obtain ⟨poll, poller, system, seen, is, does⟩ := v.go_eq
  rw [is]
  cases does with
  | rests how stage => exact tallied.quiet (List.append_nil _) rfl rfl rfl
  | finishes looking none_ => exact tallied.quiet (List.append_nil _) rfl (Poll.held_of_looking looking).symm rfl
  | stops e rest looking rests closed =>
    exact tallied.quiet (List.append_nil _) rfl (Poll.held_of_looking looking).symm rfl
  | passes e rest looking rests accepting locked =>
    refine tallied.sees (g := .locked e) rfl rfl ?_ rfl
    rw [Poll.held_of_looking looking]
    simp [Poll.afterSight, Poll.held, Sighting.isClaimed]
  | breaks e rest looking rests accepting free endless =>
    exact tallied.quiet (List.append_nil _) rfl (Poll.held_of_looking looking).symm rfl
  | claims e rest looking rests accepting free tellable =>
    have report := tallied.report
    rw [Poll.held_of_looking looking] at report
    refine ⟨by simp [report, Poll.held], ?_⟩
    rw [Option.toList_none, List.append_nil]
    exact tallied.dispatched
  | drops e why holding bad =>
    refine tallied.sees (g := .unreadable e) rfl rfl ?_ rfl
    rw [Poll.held_of_holding holding]
    simp [Poll.afterSight, Poll.held, Sighting.isClaimed]
  | takes h n m holding made ok =>
    refine tallied.sees (g := .taken h n) rfl rfl ?_ ?_
    · rw [Poll.held_of_holding holding]
      simp [Poll.afterSight, Poll.held, Sighting.isClaimed]
    · rw [made.dispatched, ok]
      rfl
  | defers h why m holding made refused room =>
    refine tallied.sees (g := .deferred h why) rfl rfl ?_ ?_
    · rw [Poll.held_of_holding holding]
      simp [Poll.afterSight, Poll.held, Sighting.isClaimed]
    · rw [made.dispatched, refused]
      rfl
  | fills h why m holding made refused full =>
    refine tallied.sees (g := .deferred h why) rfl rfl ?_ ?_
    · rw [Poll.held_of_holding holding]
      simp [Poll.close, Poll.held, Sighting.isClaimed]
    · rw [made.dispatched, refused]
      rfl
  | clears e clearing => exact tallied.quiet (List.append_nil _) rfl (Poll.held_of_clearing clearing).symm rfl

/-! ### What stays in the store -/

/-- Whether the store has lost just those entries that are done with, apart from one that is about to go. -/
private structure Stocked (s : System) (v : Survey) : Prop where
  known : ∀ e ∈ v.line, e ∈ s.broker.store.entries
  entries : ∃ gone, Sighting.done v.sightings = gone ++ v.poll.parting ∧
    v.system.broker.store.entries = s.broker.store.entries.filter (fun x => x ∉ gone)

private theorem Stocked.go (stocked : v.Stocked s) : v.go.Stocked s := by
  refine ⟨fun e member => stocked.known e (v.line_go_sublist.subset member), ?_⟩
  obtain ⟨gone, done, entries⟩ := stocked.entries
  obtain ⟨poll, poller, system, seen, is, does⟩ := v.go_eq
  rw [is]
  cases does with
  | rests how stage => exact ⟨gone, by simpa using done, entries⟩
  | finishes looking none_ =>
    refine ⟨gone, ?_, entries⟩
    simpa [Poll.parting, Poll.close, looking] using done
  | stops e rest looking rests closed =>
    refine ⟨gone, ?_, entries⟩
    simpa [Poll.parting, Poll.close, looking] using done
  | passes e rest looking rests accepting locked =>
    refine ⟨gone, ?_, by simpa [System.claim] using entries⟩
    simpa [Poll.parting, Poll.afterSight, looking, Sighting.done, Sighting.isDone, Sighting.isUnreadable,
      Sighting.isTaken] using done
  | breaks e rest looking rests accepting free endless =>
    refine ⟨gone, ?_, by simpa [System.claim] using entries⟩
    simpa [Poll.parting, looking] using done
  | claims e rest looking rests accepting free tellable =>
    refine ⟨gone, ?_, by simpa [System.claim] using entries⟩
    simpa [Poll.parting, looking] using done
  | drops e why holding bad =>
    refine ⟨gone, ?_, entries⟩
    rw [Poll.parting, holding, List.append_nil] at done
    simp [Poll.parting, Poll.afterSight, Sighting.done, Sighting.isDone, Sighting.isUnreadable, Sighting.entry, ← done]
  | takes h n m holding made ok =>
    refine ⟨gone, ?_, entries⟩
    rw [Poll.parting, holding, List.append_nil] at done
    simp [Poll.parting, Poll.afterSight, Sighting.done, Sighting.isDone, Sighting.isTaken, Sighting.entry, ← done]
  | defers h why m holding made refused room =>
    refine ⟨gone, ?_, entries⟩
    simpa [Poll.parting, Poll.afterSight, holding, Sighting.done, Sighting.isDone, Sighting.isUnreadable,
      Sighting.isTaken] using done
  | fills h why m holding made refused full =>
    refine ⟨gone, ?_, entries⟩
    simpa [Poll.parting, Poll.close, holding, Sighting.done, Sighting.isDone, Sighting.isUnreadable,
      Sighting.isTaken] using done
  | clears e clearing =>
    rw [Poll.parting, clearing] at done
    refine ⟨gone ++ [e], by simpa [Poll.parting] using done, ?_⟩
    have inside : e ∈ s.broker.store.entries := by
      have member : e ∈ Sighting.done v.sightings := by simp [done]
      obtain ⟨g, seen, rfl⟩ := List.mem_map.mp member
      refine stocked.known _ (List.mem_append_left _ (List.mem_append_left _ ?_))
      exact List.mem_map_of_mem (List.mem_of_mem_filter seen)
    show v.system.broker.store.entries.filter _ = _
    rw [entries, List.filter_filter]
    refine List.filter_congr (fun x member => ?_)
    -- in the store nothing else has the place of the entry
    have alone : e.SamePlace x ↔ x = e := by
      constructor
      · intro same
        rcases same.eq_or_collides with rfl | collides
        · rfl
        · exact absurd collides (DueStore.not_collides inside member)
      · rintro rfl
        exact .refl x
    simp [alone, and_comm]

/-! ### What the poller remembers -/

/-- Whether the poller remembers what it has seen and what it knew before. At the end of the poll it forgets the entries
that it has not seen. -/
private structure Remembered (p : Poller) (v : Survey) : Prop where
  attentive : v.poll.isOver = false → v.Attentive
  knows : v.poll.isOver = false → ∀ key, v.poller.observations.get? key =
    Sighting.memory key v.sightings (p.observations.get? key)
  forgets : v.poll.stage = .ended .complete → ∀ key, v.poller.observations.get? key =
    if ∃ g ∈ v.sightings, g.entry.lockKey = key then Sighting.memory key v.sightings (p.observations.get? key)
    else none

private theorem Remembered.goesOn (attentive : v.Attentive) (on : v.poll.isOver = false)
    (knows : ∀ key, v.poller.observations.get? key = Sighting.memory key v.sightings (p.observations.get? key)) :
    v.Remembered p where
  attentive _ := attentive
  knows _ := knows
  forgets stage := absurd stage (Poll.stage_ne_ended on _)

private theorem Remembered.ends {how : PollEnd} (stage : v.poll.stage = .ended how)
    (forgets : how = .complete → ∀ key, v.poller.observations.get? key =
      if ∃ g ∈ v.sightings, g.entry.lockKey = key then Sighting.memory key v.sightings (p.observations.get? key)
      else none) : v.Remembered p where
  attentive on := absurd stage (Poll.stage_ne_ended on how)
  knows on := absurd stage (Poll.stage_ne_ended on how)
  forgets complete := forgets (PollStage.ended.inj (stage.symm.trans complete))

private theorem memory_afterSight
    (knows : ∀ key, v.poller.observations.get? key = Sighting.memory key v.sightings (p.observations.get? key))
    (g : Sighting) (key : String) :
    (v.poller.afterSight g).observations.get? key =
      Sighting.memory key (v.sightings ++ [g]) (p.observations.get? key) := by
  rw [Poller.get?_afterSight, Sighting.memory_snoc, knows]

private theorem Remembered.go (remembered : v.Remembered p) (accepting : v.system.engine.isAccepting = true) :
    v.go.Remembered p := by
  by_cases finished : v.poll.isOver = true
  · rw [go_of_over finished]
    exact remembered
  have on : v.poll.isOver = false := Bool.eq_false_of_not_eq_true finished
  have knows := remembered.knows on
  have taken (key : String) := remembered.attentive on key
  have attentive := (remembered.attentive on).go
  obtain ⟨poll, poller, system, seen, is, does⟩ := v.go_eq
  rw [is] at attentive ⊢
  cases does with
  | rests how stage => exact absurd stage (Poll.stage_ne_ended on how)
  | finishes looking none_ =>
    refine .ends rfl fun _ key => ?_
    have same : key ∈ v.poll.seen ↔ ∃ g ∈ v.sightings, g.entry.lockKey = key := by
      rw [taken key]
      simp [examined, Poll.held_of_looking looking]
    rw [Option.toList_none, List.append_nil, Poll.get?_close, knows]
    exact if_congr same rfl rfl
  | stops e rest looking rests closed =>
    rw [closed] at accepting
    cases accepting
  | passes e rest looking rests accepting locked =>
    exact .goesOn (attentive rfl) rfl (memory_afterSight knows (.locked e))
  | breaks e rest looking rests accepting free endless => exact .ends rfl (fun complete => by cases complete)
  | claims e rest looking rests accepting free tellable =>
    refine .goesOn (attentive rfl) rfl ?_
    rw [Option.toList_none, List.append_nil]
    exact knows
  | drops e why holding bad => exact .goesOn (attentive rfl) rfl (memory_afterSight knows (.unreadable e))
  | takes h n m holding made ok => exact .goesOn (attentive rfl) rfl (memory_afterSight knows (.taken h n))
  | defers h why m holding made refused room =>
    exact .goesOn (attentive rfl) rfl (memory_afterSight knows (.deferred h why))
  | fills h why m holding made refused full =>
    refine .ends rfl fun _ key => ?_
    have same : key ∈ v.poll.seen ↔
        ∃ g ∈ v.sightings ++ [Sighting.deferred h why], g.entry.lockKey = key := by
      rw [taken key]
      simp [examined, Poll.held_of_holding holding, Sighting.entry, or_and_right, exists_or]
    rw [Poll.get?_close, memory_afterSight knows]
    exact if_congr same rfl rfl
  | clears e clearing =>
    refine .goesOn (attentive rfl) rfl ?_
    rw [Option.toList_none, List.append_nil]
    exact knows

/-! ### What the poll makes of the entries -/

/-- Whether the poll has made of each entry what it should. The locks are those from before the poll and those of the
entries that it has claimed. -/
private structure Making (p : Poller) (s : System) (v : Survey) : Prop where
  clock : v.system.clock = s.clock
  config : v.poller.config = p.config
  engine : v.system.engine = Sighting.engineAfter s.engine v.sightings
  locks : ∀ key, v.system.broker.store.locks.get? key =
    if ∃ x ∈ Sighting.claimed v.sightings ++ v.poll.held, x.lockKey = key then
      some (s.count + p.config.lockTimeout.nanos)
    else s.broker.store.locks.get? key
  makes : ∀ front g back, v.sightings = front ++ g :: back → p.Makes s front g
  free : ∀ e ∈ v.poll.held, ¬ p.Barred s v.sightings e

/-- Nobody had a lock that the poll has taken. -/
private theorem Making.unlocked (making : v.Making p s) {e : DueEntry}
    (own : ∃ x ∈ Sighting.claimed v.sightings, x.lockKey = e.lockKey) : s.broker.store.isLocked e s.count = false := by
  obtain ⟨x, member, same⟩ := own
  obtain ⟨g, seen, rfl⟩ := List.mem_map.mp member
  obtain ⟨inside, claimed⟩ := List.mem_filter.mp seen
  obtain ⟨front, back, split⟩ := List.append_of_mem inside
  have free := (making.makes front g back split).free claimed
  refine Bool.eq_false_of_not_eq_true (fun before => free (.inl ?_))
  rw [s.broker.store.isLocked_congr same]
  exact before

private theorem Making.isLocked_iff (making : v.Making p s) (none_ : v.poll.held = []) (e : DueEntry) :
    v.system.broker.store.isLocked e v.system.count = true ↔ p.Barred s v.sightings e := by
  have law := making.locks e.lockKey
  rw [none_, List.append_nil] at law
  rw [DueStore.isLocked, law, System.count_congr making.clock, Poller.Barred]
  by_cases own : ∃ x ∈ Sighting.claimed v.sightings, x.lockKey = e.lockKey
  · rw [if_pos own, making.unlocked own]
    simp only [Option.any_some, decide_eq_true_eq, Bool.false_eq_true, false_or, own, and_true]
    exact Nat.lt_add_right_iff_pos
  · rw [if_neg own]
    simp only [DueStore.isLocked, own, and_false, or_false]

private theorem Making.quiet (making : v.Making p s) {next : Survey} (sightings : next.sightings = v.sightings)
    (held : next.poll.held = v.poll.held) (clock : next.system.clock = v.system.clock)
    (config : next.poller.config = v.poller.config) (engine : next.system.engine = v.system.engine)
    (locks : next.system.broker.store.locks = v.system.broker.store.locks) : next.Making p s := by
  refine ⟨clock.trans making.clock, config.trans making.config, ?_, ?_, ?_, ?_⟩
  · rw [engine, sightings]
    exact making.engine
  · rw [locks, sightings, held]
    exact making.locks
  · rw [sightings]
    exact making.makes
  · rw [held, sightings]
    exact making.free

private theorem makes_snoc {sightings : List Sighting} {g : Sighting}
    (makes : ∀ front x back, sightings = front ++ x :: back → p.Makes s front x) (last : p.Makes s sightings g) :
    ∀ front x back, sightings ++ [g] = front ++ x :: back → p.Makes s front x := by
  intro front x back split
  rcases List.eq_nil_or_concat back with rfl | ⟨back, y, rfl⟩
  · obtain ⟨rfl, same⟩ := List.append_inj' split rfl
    cases same
    exact last
  · rw [List.concat_eq_append, ← List.cons_append, ← List.append_assoc] at split
    exact makes front x back (List.append_inj' split rfl).1

/-- An entry that was held has been seen. -/
private theorem Making.sees (making : v.Making p s) {next : Survey} {g : Sighting} (held : v.poll.held = [g.entry])
    (claimed : g.isClaimed = true) (makes : p.Makes s v.sightings g) (sightings : next.sightings = v.sightings ++ [g])
    (none_ : next.poll.held = []) (clock : next.system.clock = v.system.clock)
    (config : next.poller.config = v.poller.config)
    (engine : next.system.engine = Sighting.engineAfter v.system.engine [g])
    (locks : next.system.broker.store.locks = v.system.broker.store.locks) : next.Making p s := by
  refine ⟨clock.trans making.clock, config.trans making.config, ?_, ?_, ?_, ?_⟩
  · rw [engine, making.engine, sightings, Sighting.engineAfter_append]
  · intro key
    have law := making.locks key
    rw [held] at law
    rw [locks, sightings, none_, law, Sighting.claimed_snoc claimed, List.append_nil]
  · rw [sightings]
    exact makes_snoc making.makes makes
  · intro x member
    rw [none_] at member
    cases member

/-- What is handed to the engine is what the poll makes of the entry that it holds. -/
private theorem Making.made (making : v.Making p s)
    (knows : ∀ key, v.poller.observations.get? key = Sighting.memory key v.sightings (p.observations.get? key))
    {h : Handover} {m : Message} (made : h.Made m (v.poller.seenInVain h.entry) v.system.now v.system.engine) :
    h.Made m (p.seenInVainAfter v.sightings h.entry) s.now (Sighting.engineAfter s.engine v.sightings) := by
  have times : v.poller.seenInVain h.entry = p.seenInVainAfter v.sightings h.entry := by
    rw [Poller.seenInVain, knows, Poller.seenInVainAfter]
  have now : v.system.now = s.now := congrArg Clock.now making.clock
  rwa [times, now, making.engine] at made

private theorem Making.go (making : v.Making p s) (remembered : v.Remembered p) : v.go.Making p s := by
  by_cases finished : v.poll.isOver = true
  · rw [go_of_over finished]
    exact making
  have knows := remembered.knows (Bool.eq_false_of_not_eq_true finished)
  obtain ⟨poll, poller, system, seen, is, does⟩ := v.go_eq
  rw [is]
  have free {e : DueEntry} (holding : v.poll.stage = .holding e) : ¬ p.Barred s v.sightings e :=
    making.free e (by simp [Poll.held, holding])
  cases does with
  | rests how stage => exact making.quiet (List.append_nil _) rfl rfl rfl rfl rfl
  | finishes looking none_ =>
    exact making.quiet (List.append_nil _) (Poll.held_of_looking looking).symm rfl rfl rfl rfl
  | stops e rest looking rests closed =>
    exact making.quiet (List.append_nil _) (Poll.held_of_looking looking).symm rfl rfl rfl rfl
  | passes e rest looking rests accepting busy =>
    have barred := (making.isLocked_iff (Poll.held_of_looking looking) e).mp busy
    have same : (v.system.broker.store.claim e v.poller.config.lockTimeout v.system.count).2.locks =
        v.system.broker.store.locks := by simp [DueStore.claim, busy]
    refine ⟨making.clock, making.config, ?_, ?_, makes_snoc making.makes barred, ?_⟩
    · rw [Option.toList_some, Sighting.engineAfter_append, ← making.engine]
      rfl
    · intro key
      have law := making.locks key
      rw [Poll.held_of_looking looking] at law
      show (v.system.broker.store.claim e v.poller.config.lockTimeout v.system.count).2.locks.get? key = _
      rw [same, law, Option.toList_some, Sighting.claimed_passed]
      rfl
    · intro x member
      cases member
  | breaks e rest looking rests accepting free endless =>
    refine making.quiet (List.append_nil _) (Poll.held_of_looking looking).symm rfl rfl rfl ?_
    show (v.system.broker.store.claim e v.poller.config.lockTimeout v.system.count).2.locks = _
    simp [DueStore.claim, free, endless]
  | claims e rest looking rests accepting free tellable =>
    have barred := making.isLocked_iff (Poll.held_of_looking looking) e
    rw [free] at barred
    rw [Option.toList_none, List.append_nil]
    refine ⟨making.clock, making.config, making.engine, ?_, making.makes, ?_⟩
    · intro key
      have law := making.locks key
      rw [Poll.held_of_looking looking, List.append_nil] at law
      have got : (v.system.broker.store.claim e v.poller.config.lockTimeout v.system.count).2.locks =
          v.system.broker.store.locks.insert e.lockKey (s.count + p.config.lockTimeout.nanos) := by
        simp [DueStore.claim, free, tellable, ← System.count_congr making.clock, ← making.config]
      show (v.system.broker.store.claim e v.poller.config.lockTimeout v.system.count).2.locks.get? key = _
      rw [got, Table.get?_insert, law]
      by_cases same : e.lockKey = key
      · rw [if_pos same, if_pos ⟨e, by simp [Poll.held], same⟩]
      · have others : (∃ x ∈ Sighting.claimed v.sightings ++ [e], x.lockKey = key) ↔
            ∃ x ∈ Sighting.claimed v.sightings, x.lockKey = key := by
          simp only [List.mem_append, List.mem_singleton, or_and_right, exists_or, exists_eq_left, same, or_false]
        rw [if_neg same]
        exact if_congr others.symm rfl rfl
    · intro x member
      obtain rfl := List.mem_singleton.mp member
      exact fun busy => Bool.false_ne_true (barred.mpr busy)
  | drops e why holding bad =>
    exact making.sees (g := .unreadable e) (Poll.held_of_holding holding) rfl ⟨free holding, why, bad⟩ rfl rfl rfl rfl
      rfl rfl
  | takes h n m holding made ok =>
    exact making.sees (g := .taken h n) (Poll.held_of_holding holding) rfl
      ⟨free holding, ok, m, making.made knows made⟩ rfl rfl rfl rfl rfl rfl
  | defers h why m holding made refused room =>
    exact making.sees (g := .deferred h why) (Poll.held_of_holding holding) rfl
      ⟨free holding, refused, m, making.made knows made⟩ rfl rfl rfl rfl rfl rfl
  | fills h why m holding made refused full =>
    exact making.sees (g := .deferred h why) (Poll.held_of_holding holding) rfl
      ⟨free holding, refused, m, making.made knows made⟩ rfl rfl rfl rfl rfl rfl
  | clears e clearing =>
    exact making.quiet (List.append_nil _) (Poll.held_of_clearing clearing).symm rfl rfl rfl rfl

/-! ### How far the poll gets -/

/-- Whether the poll takes up its batch in order as long as the engine has room, and ends as it should. -/
private structure Progress (p : Poller) (batch : List DueEntry) (v : Survey) : Prop where
  config : v.poller.config = p.config
  line : v.poll.isOver = false → v.line = batch
  room : v.poll.isOver = false → ∀ g ∈ v.sightings, g.isFull = false
  ends : ∀ how, v.poll.stage = .ended how → p.Ends batch how v.sightings

private theorem Progress.goesOn (config : v.poller.config = p.config) (line : v.line = batch)
    (room : ∀ g ∈ v.sightings, g.isFull = false) (on : v.poll.isOver = false) : v.Progress p batch where
  config := config
  line _ := line
  room _ := room
  ends how stage := absurd stage (Poll.stage_ne_ended on how)

private theorem Progress.ended (config : v.poller.config = p.config) {how : PollEnd}
    (stage : v.poll.stage = .ended how) (ends : p.Ends batch how v.sightings) : v.Progress p batch where
  config := config
  line on := absurd stage (Poll.stage_ne_ended on how)
  room on := absurd stage (Poll.stage_ne_ended on how)
  ends _ stage' := PollStage.ended.inj (stage.symm.trans stage') ▸ ends

private theorem Progress.go (progress : v.Progress p batch) (accepting : v.system.engine.isAccepting = true) :
    v.go.Progress p batch := by
  by_cases finished : v.poll.isOver = true
  · rw [go_of_over finished]
    exact progress
  have on : v.poll.isOver = false := Bool.eq_false_of_not_eq_true finished
  have line := progress.line on
  have room := progress.room on
  have more {g : Sighting} (notFull : g.isFull = false) : ∀ x ∈ v.sightings ++ [g], x.isFull = false := by
    rw [List.forall_mem_append]
    exact ⟨room, by simpa using notFull⟩
  have config : v.go.poller.config = p.config :=
    (Poll.keeps_step v.poll v.poller v.system).config.trans progress.config
  have lasts : v.go.poll.isOver = false → v.go.line = batch := fun still => (line_go_of_on still).trans line
  obtain ⟨poll, poller, system, seen, is, does⟩ := v.go_eq
  rw [is] at config lasts ⊢
  cases does with
  | rests how stage => exact absurd stage (Poll.stage_ne_ended on how)
  | finishes looking none_ =>
    refine .ended config rfl ?_
    rw [Option.toList_none, List.append_nil]
    refine .whole v.sightings ?_ room
    simpa [Survey.line, examined, Poll.held_of_looking looking, none_] using line
  | stops e rest looking rests closed =>
    rw [closed] at accepting
    cases accepting
  | passes e rest looking rests accepting locked => exact .goesOn config (lasts rfl) (more rfl) rfl
  | breaks e rest looking rests accepting free endless =>
    refine .ended config rfl ?_
    rw [Option.toList_none, List.append_nil]
    refine .endless v.sightings e ⟨rest, ?_⟩ room (progress.config ▸ endless)
    simpa [Survey.line, examined, Poll.held_of_looking looking, rests] using line
  | claims e rest looking rests accepting free tellable =>
    refine .goesOn config (lasts rfl) ?_ rfl
    rw [Option.toList_none, List.append_nil]
    exact room
  | drops e why holding bad => exact .goesOn config (lasts rfl) (more rfl) rfl
  | takes h n m holding made ok => exact .goesOn config (lasts rfl) (more rfl) rfl
  | defers h why m holding made refused notFull => exact .goesOn config (lasts rfl) (more notFull) rfl
  | fills h why m holding made refused full =>
    refine .ended config rfl ?_
    refine .full v.sightings (.deferred h why) ⟨v.poll.rest, ?_⟩ room full
    simpa [Survey.line, examined, Poll.held_of_holding holding, Sighting.entry] using line
  | clears e clearing =>
    refine .goesOn config (lasts rfl) ?_ rfl
    rw [Option.toList_none, List.append_nil]
    exact room

/-! ### A poll from start to end -/

/-- All of this at once, as long as the engine takes messages. -/
private structure Exact (p : Poller) (s : System) (batch : List DueEntry) (v : Survey) : Prop where
  accepting : v.system.engine.isAccepting = true
  tallied : v.Tallied s batch
  stocked : v.Stocked s
  making : v.Making p s
  remembered : v.Remembered p
  progress : v.Progress p batch

theorem accepting_go (v : Survey) : v.go.system.engine.isAccepting = v.system.engine.isAccepting := by
  obtain ⟨poll, poller, system, seen, is, does⟩ := v.go_eq
  rw [is]
  have handed {h : Handover} {m : Message} {times : UInt32} (made : h.Made m times v.system.now v.system.engine) :
      h.after.isAccepting = v.system.engine.isAccepting := by
    have same := v.system.engine.accepting_dispatch h.told v.system.now
    rwa [made.answer] at same
  cases does with
  | rests | finishes | stops | passes | breaks | claims | drops | clears => rfl
  | takes h n m holding made ok => exact handed made
  | defers h why m holding made refused room => exact handed made
  | fills h why m holding made refused full => exact handed made

private theorem Exact.go (exact_ : v.Exact p s batch) : v.go.Exact p s batch where
  accepting := v.accepting_go.trans exact_.accepting
  tallied := exact_.tallied.go
  stocked := exact_.stocked.go
  making := exact_.making.go exact_.remembered
  remembered := exact_.remembered.go exact_.accepting
  progress := exact_.progress.go exact_.accepting

private theorem Exact.iterate (exact_ : v.Exact p s batch) (n : Nat) : (Survey.go^[n] v).Exact p s batch := by
  induction n generalizing v with
  | zero => exact exact_
  | succ n ih =>
    rw [Function.iterate_succ_apply]
    exact ih exact_.go

/-- A poll that begins has seen nothing. -/
private theorem exact_begun (p : Poller) {s : System} {batch : List DueEntry} (accepting : s.engine.isAccepting = true)
    (known : ∀ e ∈ batch, e ∈ s.broker.store.entries) : Exact p s batch ⟨.ofBatch batch, p, s, []⟩ where
  accepting := accepting
  tallied := ⟨rfl, rfl⟩
  stocked := ⟨known, [], rfl, by simp⟩
  making := by
    refine ⟨rfl, rfl, rfl, ?_, ?_, ?_⟩
    · simp [Sighting.claimed, Poll.held, Poll.ofBatch]
    · simp
    · simp [Poll.held, Poll.ofBatch]
  remembered := by
    refine ⟨fun _ key => ?_, fun _ key => rfl, ?_⟩
    · simp [examined, Poll.held, Poll.ofBatch]
    · intro stage
      cases stage
  progress := by
    refine ⟨rfl, fun _ => rfl, ?_, ?_⟩
    · simp
    · intro how stage
      cases stage

private theorem Exact.polled (exact_ : v.Exact p s batch) {how : PollEnd} (stage : v.poll.stage = .ended how) :
    p.Polled s batch how v.poll.report v.poller v.system v.sightings where
  ends := exact_.progress.ends how stage
  makes := exact_.making.makes
  engine := exact_.making.engine
  report := by
    have report := exact_.tallied.report
    rw [Poll.held, stage] at report
    exact report
  entries := by
    obtain ⟨gone, done, entries⟩ := exact_.stocked.entries
    rw [Poll.parting, stage, List.append_nil] at done
    rw [done]
    exact entries
  locks key := by
    have law := exact_.making.locks key
    rw [Poll.held, stage, List.append_nil] at law
    exact law
  observations complete := exact_.remembered.forgets (complete ▸ stage)
  dispatched := by
    rw [exact_.tallied.dispatched, exact_.tallied.report]
    rfl

end Survey

namespace Poller

/-- What the poll of a batch has come to is what its last step leaves. -/
private theorem pollOnce_eq_survey {p : Poller} {s : System} {batch : List DueEntry}
    (accepting : s.engine.isAccepting = true) (fetched : s.broker.store.fetch s.now p.config.batchSize = .ok batch)
    {v : Survey} (last : Survey.go^[3 * batch.length + 1] ⟨.ofBatch batch, p, s, []⟩ = v) {how : PollEnd}
    (stage : v.poll.stage = .ended how) :
    p.pollOnce System.surroundings s = (how, v.poll.report, v.poller, v.system) := by
  have steps := Survey.steps_eq (3 * batch.length + 1) ⟨.ofBatch batch, p, s, []⟩
  rw [last] at steps
  have whole : (Poll.ofBatch batch).finish System.surroundings p s = (v.poll, v.poller, v.system) := steps
  simp only [pollOnce, startPoll_of_batch accepting fetched, whole, stage]

/-- The poller remembers no more entries than a batch has. -/
private theorem size_observations_le {p q : Poller} {s after : System} {batch : List DueEntry} {counts : PollReport}
    {sightings : List Sighting} (polled : p.Polled s batch .complete counts q after sightings)
    (part : sightings.map Sighting.entry <+: batch) :
    (∀ key ∈ q.observations.keys, ∃ e ∈ batch, e.lockKey = key) ∧ q.observations.size ≤ batch.length := by
  have keys : ∀ key ∈ q.observations.keys, ∃ e ∈ batch, e.lockKey = key := by
    intro key member
    obtain ⟨⟨_, times⟩, inside, rfl⟩ := List.mem_map.mp member
    have found := Table.get?_eq_some_iff.mpr inside
    rw [polled.observations rfl] at found
    split at found
    · rename_i seen
      obtain ⟨g, member, same⟩ := seen
      exact ⟨g.entry, part.subset (List.mem_map_of_mem member), same⟩
    · cases found
  refine ⟨keys, ?_⟩
  have few : (q.observations.keys).Subperm (batch.map DueEntry.lockKey) := by
    refine List.subperm_of_subset q.observations.distinct (fun key member => ?_)
    obtain ⟨e, inside, same⟩ := keys key member
    exact List.mem_map.mpr ⟨e, inside, same⟩
  have short := few.length_le
  rwa [Table.keys, List.length_map, List.length_map] at short

/-- A poll ends as it should if it can be told how long it locks entries. -/
theorem Ends.complete {p : Poller} {batch : List DueEntry} {how : PollEnd} {sightings : List Sighting}
    (ends : p.Ends batch how sightings) (tellable : Timer.isTellable p.config.lockTimeout = true) : how = .complete := by
  cases ends with
  | whole sightings all room => rfl
  | full sightings g front room full => rfl
  | endless sightings e front room endless =>
    rw [tellable] at endless
    cases endless

theorem Ends.first {p : Poller} {batch : List DueEntry} {how : PollEnd} {sightings : List Sighting}
    (ends : p.Ends batch how sightings) : sightings.map Sighting.entry <+: batch := by
  cases ends with
  | whole sightings all room => exact all ▸ List.prefix_refl _
  | full sightings g front room full => exact front
  | endless sightings e front room endless => exact (List.prefix_append _ _).trans front

/-- What one poll comes to, whatever the store holds and whoever has its locks. If the engine takes no messages, or the
store cannot be looked at, nothing changes. Else the poll examines the first entries of the batch in the order in which
they are due: all of them unless the engine has no room for one, which is then the last. Every entry it examines it
claims or finds locked; every entry it claims cannot be read, or is taken by the engine, or is not. Just those entries
leave the store that cannot be read or are taken; the engine counts the deliveries that the report speaks of; the poller
remembers only locks of the batch. It breaks off only if the length of its locks cannot be told. -/
theorem polls_do_what_they_report (p : Poller) (s : System) :
    (s.engine.isAccepting = false → p.pollOnce System.surroundings s = (.complete, .empty, p, s)) ∧
      (∀ why, s.engine.isAccepting = true → s.broker.store.fetch s.now p.config.batchSize = .error why →
        p.pollOnce System.surroundings s = (.failed (.transport why), .empty, p, s)) ∧
      ∀ batch, s.engine.isAccepting = true → s.broker.store.fetch s.now p.config.batchSize = .ok batch →
        batch.Pairwise DueEntry.Precedes ∧ batch.length ≤ p.config.batchSize ∧
          ∃ how counts q after sightings,
            p.pollOnce System.surroundings s = (how, counts, q, after) ∧
              p.Polled s batch how counts q after sightings ∧
              (Timer.isTellable p.config.lockTimeout = true → how = .complete) ∧
              sightings.map Sighting.entry <+: batch ∧
              counts.claimed + counts.conflicts = sightings.length ∧
              counts.claimed = counts.malformed + counts.deferred + sightings.countP Sighting.isTaken ∧
              (how = .complete → (∀ key ∈ q.observations.keys, ∃ e ∈ batch, e.lockKey = key) ∧
                q.observations.size ≤ p.config.batchSize) := by
  refine ⟨?_, ?_, ?_⟩
  · intro closed
    simp only [pollOnce, p.startPoll_of_closed closed, Poll.finish, List.length_nil, Poll.steps, Poll.step]
  · intro why accepting failed
    simp only [pollOnce, startPoll_of_error accepting failed]
  · intro batch accepting fetched
    have part := DueStore.fetch_ok fetched
    have few : batch.length ≤ p.config.batchSize := DueStore.length_le_of_fetch fetched
    refine ⟨s.broker.store.ordered.sublist part, few, ?_⟩
    have begun : Survey.Exact p s batch ⟨.ofBatch batch, p, s, []⟩ :=
      Survey.exact_begun p accepting (fun e member => part.subset member)
    generalize last : Survey.go^[3 * batch.length + 1] ⟨.ofBatch batch, p, s, []⟩ = v
    have finished : v.poll.isOver = true := by
      rw [← last]
      exact Survey.isOver_iterate (Nat.le_refl _)
    obtain ⟨how, stage⟩ := Poll.ended_of_isOver finished
    have polled := (last ▸ begun.iterate _ : Survey.Exact p s batch v).polled stage
    have first := polled.ends.first
    refine ⟨how, v.poll.report, v.poller, v.system, v.sightings,
      pollOnce_eq_survey accepting fetched last stage, polled, polled.ends.complete, first, ?_, ?_, ?_⟩
    · rw [polled.report]
      exact Sighting.countP_examined v.sightings
    · rw [polled.report]
      exact Sighting.countP_claimed v.sightings
    · rintro rfl
      obtain ⟨keys, size⟩ := size_observations_le polled first
      exact ⟨keys, Nat.le_trans size few⟩

end Poller
end Courier
