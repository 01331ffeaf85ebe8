import Courier.Proofs.WholePolls

/-!
The only poller of a store. Between its polls anything may happen in the system but that somebody else claims an
entry, so a lock that is held is one that an earlier poll has got. Locks are told apart by the digest of an entry's
bytes and stay when the entry is gone; an entry that is due is left in the store just if its lock went to another
entry of the same bytes, in the same poll or in one whose lock has not ended.
-/
namespace Courier

/-! ### Patrols -/

/-- A lock that a poll got, and the count of the clock at that time. -/
structure Grant where
  entry : DueEntry
  count : Nat

/-- A system with its only poller, all that its polls have handed to the engine, and the locks that they got. -/
structure Patrol where
  system : System
  poller : Poller
  handovers : List Handover
  grants : List Grant

namespace Patrol

/-- Something that may happen in a patrol. -/
inductive Turn
  /-- The poller polls, from start to end. -/
  | poll
  /-- Something happens in the system apart from the poller. -/
  | outside (a : System.Act)

/-- A patrol before the first poll. -/
def opened (system : System) (poller : Poller) : Patrol := ⟨system, poller, [], []⟩

/-- What the next poll hands to the engine. -/
def handed (w : Patrol) : List Handover := (w.poller.tour w.system).handed

/-- The locks that the next poll gets. -/
def granted (w : Patrol) : List Grant := (w.poller.tour w.system).granted.map (⟨·, w.system.count⟩)

def poll (w : Patrol) : Patrol :=
  let (_, _, poller, system) := w.poller.pollOnce System.surroundings w.system
  ⟨system, poller, w.handovers ++ w.handed, w.grants ++ w.granted⟩

/-- The patrol after something has happened. -/
def turn (w : Patrol) : Turn → Patrol
  | .poll => w.poll
  | .outside a => { w with system := w.system.act a }

/-- The patrol after some things have happened. -/
def run (w : Patrol) (turns : List Turn) : Patrol := turns.foldl turn w

/-- The store's entries. -/
def entries (w : Patrol) : List DueEntry := w.system.broker.store.entries

/-- The entries that are due. -/
def due (w : Patrol) : List DueEntry := w.system.broker.store.allDue w.system.now

/-- Whether each poll of a run finds the store and the engine able to serve it. -/
def Smooth (w : Patrol) : List Turn → Prop
  | [] => True
  | t :: rest => (t = .poll → w.system.Ready w.poller.config) ∧ (w.turn t).Smooth rest

/-- Whether the lock of an entry is out of reach: another entry of the same lock is due before it, or a poll has got
the lock and it has not ended. -/
def Shut (w : Patrol) (e : DueEntry) : Prop :=
  (∃ x ∈ w.due, x.lockKey = e.lockKey ∧ x.Precedes e) ∨
    ∃ g ∈ w.grants, g.entry.lockKey = e.lockKey ∧ w.system.count < g.count + w.poller.config.lockTimeout.nanos

theorem run_append (w : Patrol) (before after : List Turn) : w.run (before ++ after) = (w.run before).run after :=
  List.foldl_append ..

theorem poll_eq (w : Patrol) :
    w.poll = ⟨(w.poller.tour w.system).system, (w.poller.tour w.system).poller, w.handovers ++ w.handed,
      w.grants ++ w.granted⟩ := by
  have whole := w.poller.pollOnce_eq_tour w.system
  unfold poll
  generalize w.poller.pollOnce System.surroundings w.system = result at whole ⊢
  obtain ⟨how, report, poller, system⟩ := result
  cases whole
  rfl

/-! ### Locks in the course of a run -/

/-- What holds all along: the poller's settings are as given, no lock was got in time to come, and the locks that are
held are those that polls have got and that have not ended. -/
structure Sound (w : Patrol) (config : PollConfig) : Prop where
  settings : w.poller.config = config
  past : ∀ g ∈ w.grants, g.count ≤ w.system.count
  locks : ∀ y c, w.system.count ≤ c → (w.system.broker.store.isLocked y c = true ↔
    ∃ g ∈ w.grants, g.entry.lockKey = y.lockKey ∧ c < g.count + config.lockTimeout.nanos)

variable {w : Patrol} {config : PollConfig}

theorem sound_opened {s : System} {poller : Poller} (settings : poller.config = config)
    (unlocked : ∀ key ends, s.broker.store.locks.get? key = some ends → ends ≤ s.count) :
    (opened s poller).Sound config := by
  refine ⟨settings, ?_, ?_⟩
  · intro g member
    cases member
  · intro y c late
    have free : (opened s poller).system.broker.store.isLocked y c = false := DueStore.isLocked_of_ended unlocked y late
    rw [free]
    constructor
    · intro locked
      cases locked
    · rintro ⟨g, member, _⟩
      cases member

theorem Sound.outside (sound : w.Sound config) {a : System.Act} (alone : ∀ e ttl, a ≠ .claim e ttl)
    (counts : ∀ count, a = .passTo count → count < 2 ^ 64) : (w.turn (.outside a)).Sound config := by
  have later : w.system.count ≤ (w.system.act a).count := w.system.count_le_act counts
  refine ⟨sound.settings, ?_, ?_⟩
  · intro g member
    exact Nat.le_trans (sound.past g member) later
  · intro y c late
    show (w.system.act a).broker.store.isLocked y c = true ↔ _
    rw [DueStore.isLocked, w.system.locks_act alone]
    exact sound.locks y c (Nat.le_trans later late)

/-- What a poll makes of a patrol if it can serve all entries that it finds. -/
theorem Sound.served (sound : w.Sound config) (lasts : 0 < config.lockTimeout.nanos)
    (ready : w.system.Ready config) :
    Served config.lockTimeout w.system (w.due.take config.batchSize) w.poll.system w.handed
      (w.poller.tour w.system).granted ∧ w.poll.poller.config = config := by
  obtain ⟨rfl, _, _⟩ := sound
  obtain ⟨settings, served⟩ := w.poller.tour_served ready lasts
  rw [poll_eq, due, ← DueStore.due_eq_take]
  exact ⟨served, settings⟩

theorem Sound.poll (sound : w.Sound config) (lasts : 0 < config.lockTimeout.nanos) (ready : w.system.Ready config) :
    w.poll.Sound config := by
  obtain ⟨served, settings⟩ := sound.served lasts ready
  have count : w.poll.system.count = w.system.count := System.count_congr served.clock
  have grants : w.poll.grants = w.grants ++ w.granted := by rw [poll_eq]
  have past : ∀ g ∈ w.grants ++ w.granted, g.count ≤ w.system.count := by
    intro g member
    rcases List.mem_append.mp member with old | new
    · exact sound.past g old
    · obtain ⟨x, _, rfl⟩ := List.mem_map.mp new
      exact Nat.le_refl _
  refine ⟨settings, ?_, ?_⟩
  · rw [grants, count]
    exact past
  · intro y c late
    rw [count] at late
    rw [served.locks, grants]
    split
    · rename_i got
      obtain ⟨x, member, same⟩ := got
      constructor
      · intro early
        exact ⟨⟨x, w.system.count⟩, List.mem_append_right _ (List.mem_map_of_mem member), same, early⟩
      · rintro ⟨g, member, _, early⟩
        exact Nat.lt_of_lt_of_le early (Nat.add_le_add_right (past g member) _)
    · rename_i got
      rw [sound.locks y c late]
      constructor
      · rintro ⟨g, member, held⟩
        exact ⟨g, List.mem_append_left _ member, held⟩
      · rintro ⟨g, member, same, early⟩
        rcases List.mem_append.mp member with old | new
        · exact ⟨g, old, same, early⟩
        · obtain ⟨x, inside, rfl⟩ := List.mem_map.mp new
          exact absurd ⟨x, inside, same⟩ got

theorem sound_run (sound : w.Sound config) (lasts : 0 < config.lockTimeout.nanos) {turns : List Turn}
    (alone : ∀ e ttl, .outside (.claim e ttl) ∉ turns)
    (counts : ∀ count, .outside (.passTo count) ∈ turns → count < 2 ^ 64) (smooth : w.Smooth turns) :
    (w.run turns).Sound config := by
  induction turns generalizing w with
  | nil => exact sound
  | cons t rest ih =>
    obtain ⟨ready, smooth⟩ := smooth
    refine ih ?_ ?_ ?_ smooth
    · cases t with
      | poll => exact sound.poll lasts (sound.settings ▸ ready rfl)
      | outside a =>
        refine sound.outside ?_ ?_
        · rintro e ttl rfl
          exact alone e ttl List.mem_cons_self
        · rintro count rfl
          exact counts count List.mem_cons_self
    · intro e ttl member
      exact alone e ttl (List.mem_cons_of_mem t member)
    · intro count member
      exact counts count (List.mem_cons_of_mem t member)

theorem smooth_append {before rest : List Turn} (smooth : w.Smooth (before ++ rest)) :
    w.Smooth before ∧ (w.run before).Smooth rest := by
  induction before generalizing w with
  | nil => exact ⟨trivial, smooth⟩
  | cons t before ih =>
    obtain ⟨ready, smooth⟩ := smooth
    obtain ⟨first, second⟩ := ih smooth
    exact ⟨⟨ready, first⟩, second⟩

/-! ### Entries that are due -/

/-- What a poll of all due entries leaves in the store are the entries that are shut. -/
theorem Sound.mem_poll_iff (sound : w.Sound config) (lasts : 0 < config.lockTimeout.nanos)
    (ready : w.system.Ready config) (all : w.due.length ≤ config.batchSize) {e : DueEntry} (due : e ∈ w.due)
    (known : w.system.engine.refuses e = false) :
    (e ∈ w.poll.entries ↔ w.Shut e) ∧
      (e ∉ w.poll.entries → ∀ m, e.message = .ok m → ∃ h ∈ w.handed, h.entry = e ∧ h.Taken m) := by
  obtain ⟨served, _⟩ := sound.served lasts ready
  rw [List.take_of_length_le all] at served
  have inside : e ∈ w.system.broker.store.entries := (DueStore.mem_allDue.mp due).1
  have part : ∀ x ∈ w.due, x ∈ w.system.broker.store.entries := fun x member => (DueStore.mem_allDue.mp member).1
  have stays : e ∈ w.poll.entries ↔ e ∉ (w.poller.tour w.system).granted := by
    show e ∈ w.poll.system.broker.store.entries ↔ _
    rw [served.mem_entries part, known]
    simp [inside]
  refine ⟨?_, ?_⟩
  · have held := sound.locks e w.system.count (Nat.le_refl _)
    rw [stays, served.granted, Shut, sound.settings, ← held]
    constructor
    · intro ungranted
      by_contra open_
      obtain ⟨first, unlocked⟩ := not_or.mp open_
      refine ungranted ⟨due, Bool.eq_false_iff.mpr unlocked, ?_⟩
      intro z member same before
      exact first ⟨z, member, same, before⟩
    · rintro (⟨x, member, same, before⟩ | locked) ⟨_, unlocked, first⟩
      · exact first x member same before
      · rw [unlocked] at locked
        cases locked
  · intro gone m readable
    exact served.brought e (not_not.mp (fun free => gone (stays.mpr free))) m readable known

/-- What becomes of due entries in any run of a store's only poller, if the engine takes messages and has room at each
of its polls. A poll that finds no more due entries than it may fetch brings each of them that can be read and is for
known handlers to the engine, and leaves none of them in the store, except exactly those that are shut: an entry of
the same bytes came before it in this poll, or had its lock from an earlier one, whether or not it is still there. -/
theorem due_entries_go_unless_shut (s : System) {config : PollConfig} {poller : Poller}
    (made : Poller.new config = .ok poller)
    (unlocked : ∀ key ends, s.broker.store.locks.get? key = some ends → ends ≤ s.count) {turns : List Turn}
    (alone : ∀ e ttl, .outside (.claim e ttl) ∉ turns)
    (counts : ∀ count, .outside (.passTo count) ∈ turns → count < 2 ^ 64) :
    let w := opened s poller
    w.Smooth turns → ∀ before rest, turns = before ++ .poll :: rest →
      let mid := w.run before
      let last := w.run (before ++ [.poll])
      mid.due.length ≤ config.batchSize → ∀ e ∈ mid.due, ∀ m, e.message = .ok m →
        mid.system.engine.refuses e = false →
          (e ∈ last.entries ↔ mid.Shut e) ∧ (e ∉ last.entries → ∃ h ∈ mid.handed, h.entry = e ∧ h.Taken m) := by
  rintro w smooth before rest rfl mid last all e due m readable known
  obtain ⟨rfl, lasts, _⟩ := Poller.new_ok made
  obtain ⟨sooner, ready, _⟩ := smooth_append smooth
  have sound : mid.Sound config := by
    refine sound_run (sound_opened rfl unlocked) lasts ?_ ?_ sooner
    · intro e ttl member
      exact alone e ttl (List.mem_append_left _ member)
    · intro count member
      exact counts count (List.mem_append_left _ member)
  have lastIs : last = mid.poll := w.run_append before [.poll]
  obtain ⟨stays, brought⟩ := sound.mem_poll_iff lasts (sound.settings ▸ ready rfl) all due known
  rw [lastIs]
  exact ⟨stays, fun gone => brought gone m readable⟩

private def notice : Message := ⟨"request", ⟨"orders", "expire"⟩, [], 1, 0, 0, false, .timely, .epoch, none⟩

/-- The notice as it is due for the second time. -/
private def reminder : DueEntry := .ofMessage notice (.later .epoch (.ofSeconds 1))

/-- A system whose engine has a handler for the notice, which is in the store twice. -/
private def office : System :=
  let registry : Registry :=
    ⟨Table.empty.insert ⟨"orders", "expire"⟩ [.new ⟨"orders", "expire"⟩ "closer"],
      Table.empty.insert "closer" (.new ⟨"orders", "expire"⟩ "closer")⟩
  { System.new .epoch (.new ⟨.standard, .inProcess, .standard, .zero⟩ registry 0) with
    broker := { Broker.empty with store := (DueStore.empty.schedule notice .epoch).insert reminder } }

private def watch : Patrol := opened office ⟨.standard, .empty⟩

/-- A poll when both entries are due, and another one when the lock of the first has ended. -/
private def morning : List Turn :=
  [.outside (.passTo 1000000000), .poll, .outside (.passTo 11000000000), .poll]

private theorem smooth_morning : watch.Smooth morning := by
  have ready : (watch.run (morning.take 1)).system.Ready (watch.run (morning.take 1)).poller.config ∧
      (watch.run (morning.take 3)).system.Ready (watch.run (morning.take 3)).poller.config := by decide +kernel
  exact ⟨nofun, fun _ => ready.1, nofun, fun _ => ready.2, trivial⟩

theorem due_entries_go_unless_shut_morning :
    watch.Smooth morning ∧ (watch.run (morning.take 1)).Shut reminder ∧ ¬ (watch.run (morning.take 3)).Shut reminder ∧
      ∃ h ∈ (watch.run (morning.take 3)).handed, h.entry = reminder ∧ h.Taken notice := by
  have unlocked : ∀ key ends, office.broker.store.locks.get? key = some ends → ends ≤ office.count := by
    intro key ends found
    simp [office, DueStore.schedule, DueStore.insert, DueStore.empty] at found
  have readable : reminder.message = .ok notice := Message.decode_written (m := notice) (by decide) (by decide)
  have made : Poller.new .standard = .ok ⟨.standard, .empty⟩ := rfl
  have alone : ∀ e ttl, .outside (.claim e ttl) ∉ morning := by simp [morning]
  have counts : ∀ count, .outside (.passTo count) ∈ morning → count < 2 ^ 64 := by simp [morning]
  have law := due_entries_go_unless_shut office made unlocked alone counts smooth_morning
  -- all that is to be worked out of the run, at once
  obtain ⟨⟨few, due, known, stays⟩, fewer, dueAgain, stillKnown, leaves⟩ :
      ((watch.run (morning.take 1)).due.length ≤ 100 ∧ reminder ∈ (watch.run (morning.take 1)).due ∧
          (watch.run (morning.take 1)).system.engine.refuses reminder = false ∧
          reminder ∈ (watch.run (morning.take 2)).entries) ∧
        (watch.run (morning.take 3)).due.length ≤ 100 ∧ reminder ∈ (watch.run (morning.take 3)).due ∧
          (watch.run (morning.take 3)).system.engine.refuses reminder = false ∧
          reminder ∉ (watch.run (morning.take 4)).entries := by
    decide +kernel
  have first := law (morning.take 1) (morning.drop 2) rfl few reminder due notice readable known
  have second := law (morning.take 3) [] rfl fewer reminder dueAgain notice readable stillKnown
  exact ⟨smooth_morning, first.1.mp stays, fun shut => leaves (second.1.mpr shut), second.2 leaves⟩

/-- A poll that finds two due entries, both of which can be read and are for a known handler, and leaves one of them in
the store. -/
theorem repeated_entry_stays_behind :
    let mid := watch.run (morning.take 1)
    watch.Smooth morning ∧ mid.due.length ≤ mid.poller.config.batchSize ∧ reminder ∈ mid.due ∧
      reminder.message = .ok notice ∧ mid.system.engine.refuses reminder = false ∧
      reminder ∈ (watch.run (morning.take 2)).entries := by
  have readable : reminder.message = .ok notice := Message.decode_written (m := notice) (by decide) (by decide)
  have rest : (watch.run (morning.take 1)).due.length ≤ (watch.run (morning.take 1)).poller.config.batchSize ∧
      reminder ∈ (watch.run (morning.take 1)).due ∧
      (watch.run (morning.take 1)).system.engine.refuses reminder = false ∧
      reminder ∈ (watch.run (morning.take 2)).entries := by decide +kernel
  exact ⟨smooth_morning, rest.1, rest.2.1, readable, rest.2.2⟩

end Patrol
end Courier
