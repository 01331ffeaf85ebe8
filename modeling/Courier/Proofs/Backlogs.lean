import Mathlib.Data.List.Basic
import Mathlib.Data.List.Nodup
import Courier.Proofs.LaterInstants
import Courier.Proofs.Patrols

/-!
How a store's only poller works off the entries that are due, if each poll comes when the locks of the one before have
ended. A poll fetches the first entries, whatever became of them before. Those that the engine refuses stay where they
are, so they take their share of every batch: an entry gets its turn just if fewer of them are ahead of it than a batch
has room for.
-/
namespace Courier

namespace Patrol

/-! ### Rounds -/

/-- Some polls, each with what happens in the pause after it. -/
def rounds (pauses : List (List System.Act)) : List Turn :=
  pauses.flatMap (fun pause => .poll :: pause.map .outside)

/-- The patrol after a poll and a pause. -/
def round (w : Patrol) (pause : List System.Act) : Patrol := w.poll.run (pause.map .outside)

/-- Whether each poll can serve all entries that it finds, and each pause is as long as a lock lasts and leaves the
store alone. -/
def Spaced (w : Patrol) : List (List System.Act) → Prop
  | [] => True
  | pause :: rest =>
    w.system.Ready w.poller.config ∧ (w.round pause).system.broker.store = w.poll.system.broker.store ∧
      w.system.count + w.poller.config.lockTimeout.nanos ≤ (w.round pause).system.count ∧ (w.round pause).Spaced rest

/-- The entries ahead of an entry, due or not, that the engine refuses. -/
def refusedAhead (w : Patrol) (e : DueEntry) : List DueEntry :=
  w.entries.filter (fun x => x.Precedes e ∧ w.system.engine.refuses x = true)

/-- The other entries ahead of an entry. -/
def othersAhead (w : Patrol) (e : DueEntry) : List DueEntry :=
  w.entries.filter (fun x => x.Precedes e ∧ w.system.engine.refuses x = false)

/-- The entries that the next poll fetches. -/
def batch (w : Patrol) : List DueEntry := w.due.take w.poller.config.batchSize

theorem run_rounds_cons (w : Patrol) (pause : List System.Act) (rest : List (List System.Act)) :
    w.run (rounds (pause :: rest)) = (w.round pause).run (rounds rest) := by
  show w.run ((.poll :: pause.map .outside) ++ rounds rest) = _
  rw [run_append]
  rfl

theorem outside_run (w : Patrol) (acts : List System.Act) :
    (w.run (acts.map .outside)).poller = w.poller ∧ (w.run (acts.map .outside)).handovers = w.handovers ∧
      (w.run (acts.map .outside)).system.engine.registry = w.system.engine.registry ∧
      (w.run (acts.map .outside)).system.clock.start = w.system.clock.start := by
  induction acts generalizing w with
  | nil => exact ⟨rfl, rfl, rfl, rfl⟩
  | cons a acts ih =>
    obtain ⟨poller, handovers, registry, start⟩ := ih (w.turn (.outside a))
    exact ⟨poller, handovers, registry.trans (w.system.registry_act a), start.trans (w.system.start_act a)⟩

/-- What holds between rounds: locks have ended, and each entry has one of its own. -/
structure Stocked (w : Patrol) : Prop where
  lasts : 0 < w.poller.config.lockTimeout.nanos
  within : w.system.clock.start ≤ Instant.latest
  unlocked : ∀ y c, w.system.count ≤ c → w.system.broker.store.isLocked y c = false
  distinct : ∀ x ∈ w.entries, ∀ y ∈ w.entries, x.lockKey = y.lockKey → x = y

/-- What a round makes of a patrol. The entries of the batch leave the store, unless the engine refuses them. -/
structure Clears (w next : Patrol) : Prop where
  stocked : next.Stocked
  poller : next.poller.config = w.poller.config
  refuses : next.system.engine.refuses = w.system.engine.refuses
  now : w.system.now ≤ next.system.now
  entries : ∀ y, y ∈ next.entries ↔ y ∈ w.entries ∧ (y ∈ w.batch → w.system.engine.refuses y = true)
  handovers : next.handovers = w.handovers ++ w.handed
  fetched : ∀ h ∈ w.handed, h.entry ∈ w.batch
  brought : ∀ y ∈ w.batch, ∀ m, y.message = .ok m → w.system.engine.refuses y = false →
    ∃ h ∈ w.handed, h.entry = y ∧ h.Taken m

variable {w : Patrol}

theorem mem_batch {x : DueEntry} (member : x ∈ w.batch) : x ∈ w.entries :=
  (DueStore.mem_allDue.mp (List.mem_of_mem_take member)).1

theorem Stocked.round (stocked : w.Stocked) {pause : List System.Act} (ready : w.system.Ready w.poller.config)
    (store : (w.round pause).system.broker.store = w.poll.system.broker.store)
    (late : w.system.count + w.poller.config.lockTimeout.nanos ≤ (w.round pause).system.count) :
    w.Clears (w.round pause) := by
  obtain ⟨settings, served⟩ := w.poller.tour_served ready stocked.lasts
  rw [DueStore.due_eq_take] at served
  obtain ⟨poller, handovers, registry, start⟩ : (w.round pause).poller = w.poll.poller ∧
      (w.round pause).handovers = w.poll.handovers ∧
      (w.round pause).system.engine.registry = w.poll.system.engine.registry ∧
      (w.round pause).system.clock.start = w.poll.system.clock.start := w.poll.outside_run pause
  generalize w.round pause = next at store late poller handovers registry start ⊢
  rw [poll_eq] at store poller handovers registry start
  have config : next.poller.config = w.poller.config := (congrArg Poller.config poller).trans settings
  have start : next.system.clock.start = w.system.clock.start := start.trans (congrArg Clock.start served.clock)
  have refuses : next.system.engine.refuses = w.system.engine.refuses :=
    funext (Engine.refuses_congr (registry.trans served.registry))
  -- all that is fetched gets locked, as nobody has its lock
  have granted : ∀ y, y ∈ (w.poller.tour w.system).granted ↔ y ∈ w.batch := by
    intro y
    rw [served.granted]
    constructor
    · exact And.left
    · intro member
      refine ⟨member, stocked.unlocked y _ (Nat.le_refl _), ?_⟩
      intro z inside same before
      rw [stocked.distinct z (mem_batch inside) y (mem_batch member) same] at before
      exact DueEntry.Precedes.irrefl y before
  have entries : ∀ y, y ∈ next.entries ↔ y ∈ w.entries ∧ (y ∈ w.batch → w.system.engine.refuses y = true) := by
    intro y
    show y ∈ next.system.broker.store.entries ↔ _
    rw [store, served.mem_entries (fun x member => mem_batch member), granted]
    rfl
  refine ⟨⟨config ▸ stocked.lasts, start ▸ stocked.within, ?_, ?_⟩, config, refuses, ?_, entries, handovers, ?_, ?_⟩
  · intro y c later
    rw [store, ← Bool.not_eq_true, served.locks]
    split
    · omega
    · rw [Bool.not_eq_true]
      exact stocked.unlocked y c (by omega)
  · intro x first y second
    exact stocked.distinct x ((entries x).mp first).1 y ((entries y).mp second).1
  · exact System.now_le_of_count_le stocked.within start (by omega)
  · intro h member
    exact (granted _).mp (served.handed h member)
  · intro y member
    exact served.brought y ((granted y).mpr member)

/-! ### The entries ahead -/

section Ahead
variable {next : Patrol} {e : DueEntry}

theorem mem_refusedAhead {x : DueEntry} :
    x ∈ w.refusedAhead e ↔ x ∈ w.entries ∧ x.Precedes e ∧ w.system.engine.refuses x = true := by
  simp [refusedAhead]

theorem mem_othersAhead {x : DueEntry} :
    x ∈ w.othersAhead e ↔ x ∈ w.entries ∧ x.Precedes e ∧ w.system.engine.refuses x = false := by
  simp [othersAhead]

theorem nodup_entries (w : Patrol) : w.entries.Nodup := DueStore.nodup_of_ordered w.system.broker.store.ordered

/-- An entry that is due is in the next batch if few enough come before it. -/
theorem mem_batch_iff (due : e ∈ w.due) :
    e ∈ w.batch ↔ (w.refusedAhead e).length + (w.othersAhead e).length < w.poller.config.batchSize := by
  have ordered : w.due.Pairwise DueEntry.Precedes := w.system.broker.store.ordered.filter _
  have before : w.due.filter (fun x => x.Precedes e) = w.entries.filter (fun x => x.Precedes e) := by
    rw [Patrol.due, DueStore.allDue, List.filter_filter]
    refine List.filter_congr ?_
    intro x _
    have soon : x.Precedes e → x.dueAt ≤ w.system.now :=
      fun earlier => DueStore.dueAt_le_of_precedes earlier (DueStore.mem_allDue.mp due).2
    by_cases earlier : x.Precedes e
    · simp [earlier, soon earlier]
    · simp [earlier]
  have refused : w.refusedAhead e = (w.entries.filter (fun x => x.Precedes e)).filter w.system.engine.refuses := by
    simp [refusedAhead, List.filter_filter, Bool.and_comm]
  have others : w.othersAhead e =
      (w.entries.filter (fun x => x.Precedes e)).filter (fun x => !w.system.engine.refuses x) := by
    simp [othersAhead, List.filter_filter, Bool.and_comm]
  rw [batch, DueStore.mem_take_iff ordered due, before, refused, others, ← List.length_eq_length_filter_add]

/-- An entry that is due and those ahead of it are due all together. -/
theorem length_othersAhead_lt_due (due : e ∈ w.due) : (w.othersAhead e).length < w.due.length := by
  have late := (DueStore.mem_allDue.mp due).2
  have part : e :: w.othersAhead e ⊆ w.due := by
    refine List.cons_subset.mpr ⟨due, ?_⟩
    intro x member
    obtain ⟨inside, before, _⟩ := mem_othersAhead.mp member
    exact DueStore.mem_allDue.mpr ⟨inside, DueStore.dueAt_le_of_precedes before late⟩
  have apart : e ∉ w.othersAhead e := by
    intro member
    exact DueEntry.Precedes.irrefl e (mem_othersAhead.mp member).2.1
  have distinct : (e :: w.othersAhead e).Nodup := List.nodup_cons.mpr ⟨apart, w.nodup_entries.filter _⟩
  exact (List.subperm_of_subset distinct part).length_le

/-- A round leaves all entries that the engine refuses. -/
theorem Clears.length_refusedAhead (clears : w.Clears next) (e : DueEntry) :
    (next.refusedAhead e).length = (w.refusedAhead e).length := by
  refine List.Perm.length_eq ?_
  refine (List.perm_ext_iff_of_nodup (next.nodup_entries.filter _) (w.nodup_entries.filter _)).mpr ?_
  intro x
  show x ∈ next.refusedAhead e ↔ x ∈ w.refusedAhead e
  rw [mem_refusedAhead, mem_refusedAhead, clears.entries, clears.refuses]
  constructor
  · rintro ⟨⟨inside, _⟩, ahead⟩
    exact ⟨inside, ahead⟩
  · rintro ⟨inside, before, refused⟩
    exact ⟨⟨inside, fun _ => refused⟩, before, refused⟩

theorem Clears.othersAhead_subset (clears : w.Clears next) (e : DueEntry) : next.othersAhead e ⊆ w.othersAhead e := by
  intro x member
  rw [mem_othersAhead, clears.entries, clears.refuses] at member
  exact mem_othersAhead.mpr ⟨member.1.1, member.2⟩

/-- A batch that an entry does not get into is full of entries that are ahead of it. -/
theorem precedes_of_batch (due : e ∈ w.due) (waits : e ∉ w.batch) :
    w.batch.length = w.poller.config.batchSize ∧ ∀ x ∈ w.batch, x.Precedes e := by
  have ordered : w.due.Pairwise DueEntry.Precedes := w.system.broker.store.ordered.filter _
  have split := List.take_append_drop w.poller.config.batchSize w.due
  rw [← split] at ordered due
  have later : e ∈ w.due.drop w.poller.config.batchSize := (List.mem_append.mp due).resolve_left waits
  refine ⟨?_, ?_⟩
  · have some := List.length_pos_of_mem later
    rw [List.length_drop] at some
    rw [batch, List.length_take]
    omega
  · intro x member
    exact (List.pairwise_append.mp ordered).2.2 x member e later

/-- As long as an entry does not get its turn, but might, fewer others are ahead of it with each round. -/
theorem Clears.length_othersAhead_lt (clears : w.Clears next) (due : e ∈ w.due) (waits : e ∉ w.batch)
    (few : (w.refusedAhead e).length < w.poller.config.batchSize) :
    (next.othersAhead e).length < (w.othersAhead e).length := by
  obtain ⟨full, before⟩ := precedes_of_batch due waits
  -- a batch of refused entries only would hold too many of them
  obtain ⟨z, fetched, known⟩ : ∃ z ∈ w.batch, w.system.engine.refuses z = false := by
    by_contra none
    have refused : w.batch ⊆ w.refusedAhead e := by
      intro x member
      refine mem_refusedAhead.mpr ⟨mem_batch member, before x member, ?_⟩
      refine Bool.of_not_eq_false ?_
      intro known
      exact none ⟨x, member, known⟩
    have distinct : w.batch.Nodup := (w.nodup_entries.filter _).sublist (List.take_sublist _ _)
    have small := (List.subperm_of_subset distinct refused).length_le
    omega
  have gone : z ∉ next.othersAhead e := by
    intro member
    have stays := ((clears.entries z).mp (mem_othersAhead.mp member).1).2 fetched
    rw [known] at stays
    cases stays
  have more : z :: next.othersAhead e ⊆ w.othersAhead e := by
    refine List.cons_subset.mpr ⟨?_, clears.othersAhead_subset e⟩
    exact mem_othersAhead.mpr ⟨mem_batch fetched, before z fetched, known⟩
  have distinct : (z :: next.othersAhead e).Nodup := List.nodup_cons.mpr ⟨gone, next.nodup_entries.filter _⟩
  exact (List.subperm_of_subset distinct more).length_le

end Ahead

/-! ### Many rounds -/

section Runs
variable {e : DueEntry} {m : Message} {pauses : List (List System.Act)}

/-- An entry that is due stays due as long as it is in the store. -/
theorem Clears.due {next : Patrol} (clears : w.Clears next) (due : e ∈ w.due) (inside : e ∈ next.entries) :
    e ∈ next.due :=
  DueStore.mem_allDue.mpr ⟨inside, Instant.le_trans (DueStore.mem_allDue.mp due).2 clears.now⟩

/-- An entry that has left the store does not come back, and what was handed over stays on record. -/
theorem Stocked.rest (stocked : w.Stocked) (spaced : w.Spaced pauses) :
    (∀ x, x ∈ (w.run (rounds pauses)).entries → x ∈ w.entries) ∧
      ∀ h ∈ w.handovers, h ∈ (w.run (rounds pauses)).handovers := by
  induction pauses generalizing w with
  | nil => exact ⟨fun _ inside => inside, fun _ member => member⟩
  | cons pause pauses ih =>
    obtain ⟨ready, store, late, spaced⟩ := spaced
    have clears := stocked.round ready store late
    obtain ⟨entries, handovers⟩ := ih clears.stocked spaced
    rw [run_rounds_cons]
    refine ⟨?_, ?_⟩
    · intro x inside
      exact ((clears.entries x).mp (entries x inside)).1
    · intro h member
      refine handovers h ?_
      rw [clears.handovers]
      exact List.mem_append_left _ member

/-- An entry with few enough refused ones ahead of it is brought to the engine once as many rounds have passed as
there are others ahead of it, and one more. -/
theorem Stocked.passes (stocked : w.Stocked) (spaced : w.Spaced pauses) (due : e ∈ w.due) (readable : e.message = .ok m)
    (known : w.system.engine.refuses e = false) (few : (w.refusedAhead e).length < w.poller.config.batchSize)
    (enough : (w.othersAhead e).length < pauses.length) :
    e ∉ (w.run (rounds pauses)).entries ∧ ∃ h ∈ (w.run (rounds pauses)).handovers, h.entry = e ∧ h.Taken m := by
  induction pauses generalizing w with
  | nil => cases enough
  | cons pause pauses ih =>
    obtain ⟨ready, store, late, spaced⟩ := spaced
    have clears := stocked.round ready store late
    rw [run_rounds_cons]
    by_cases turn : e ∈ w.batch
    · obtain ⟨entries, handovers⟩ := clears.stocked.rest spaced
      refine ⟨?_, ?_⟩
      · intro inside
        have refused := ((clears.entries e).mp (entries e inside)).2 turn
        rw [known] at refused
        cases refused
      · obtain ⟨h, handed, entry, taken⟩ := clears.brought e turn m readable known
        refine ⟨h, handovers h ?_, entry, taken⟩
        rw [clears.handovers]
        exact List.mem_append_right _ handed
    · have inside : e ∈ (w.round pause).entries :=
        (clears.entries e).mpr ⟨(DueStore.mem_allDue.mp due).1, fun turn' => absurd turn' turn⟩
      have fewer := clears.length_othersAhead_lt due turn few
      rw [List.length_cons] at enough
      refine ih clears.stocked spaced (clears.due due inside) ?_ ?_ (by omega)
      · rw [clears.refuses]
        exact known
      · rw [clears.length_refusedAhead, clears.poller]
        exact few

/-- An entry with too many refused ones ahead of it never gets its turn. -/
theorem Stocked.starves (stocked : w.Stocked) (spaced : w.Spaced pauses) (due : e ∈ w.due)
    (many : w.poller.config.batchSize ≤ (w.refusedAhead e).length) (fresh : ∀ h ∈ w.handovers, h.entry ≠ e) :
    e ∈ (w.run (rounds pauses)).entries ∧ ∀ h ∈ (w.run (rounds pauses)).handovers, h.entry ≠ e := by
  induction pauses generalizing w with
  | nil => exact ⟨(DueStore.mem_allDue.mp due).1, fresh⟩
  | cons pause pauses ih =>
    obtain ⟨ready, store, late, spaced⟩ := spaced
    have clears := stocked.round ready store late
    have waits : e ∉ w.batch := by
      rw [mem_batch_iff due]
      omega
    have inside : e ∈ (w.round pause).entries :=
      (clears.entries e).mpr ⟨(DueStore.mem_allDue.mp due).1, fun turn => absurd turn waits⟩
    rw [run_rounds_cons]
    refine ih clears.stocked spaced (clears.due due inside) ?_ ?_
    · rw [clears.length_refusedAhead, clears.poller]
      exact many
    · intro h member
      rw [clears.handovers] at member
      rcases List.mem_append.mp member with old | new
      · exact fresh h old
      · rintro rfl
        exact waits (clears.fetched h new)

end Runs

/-- What becomes of a store with entries of different digests, of which nobody has a lock, once its only poller has
polled at least as often as there are due entries, with pauses in which locks end and nobody else uses the store. An
entry that was due at the start, can be read and is for known handlers has been brought to the engine and is gone, if
fewer of the entries ahead of it are refused by the engine than the poller fetches at a time, whatever else is ahead of
it. If there are as many refused ones or more, it is still there and was never brought to the engine. -/
theorem due_entries_pass_few_refused (s : System) {config : PollConfig} {poller : Poller}
    (made : Poller.new config = .ok poller)
    (unlocked : ∀ key ends, s.broker.store.locks.get? key = some ends → ends ≤ s.count)
    (within : s.clock.start ≤ Instant.latest) (distinct : (s.broker.store.entries.map DueEntry.lockKey).Nodup)
    {pauses : List (List System.Act)} :
    let w := opened s poller
    let last := w.run (rounds pauses)
    w.Spaced pauses → w.due.length ≤ pauses.length → ∀ e ∈ w.due, ∀ m, e.message = .ok m →
      s.engine.refuses e = false →
        ((w.refusedAhead e).length < config.batchSize →
          e ∉ last.entries ∧ ∃ h ∈ last.handovers, h.entry = e ∧ h.Taken m) ∧
        (config.batchSize ≤ (w.refusedAhead e).length → e ∈ last.entries ∧ ∀ h ∈ last.handovers, h.entry ≠ e) := by
  intro w last spaced enough e due m readable known
  obtain ⟨rfl, lasts, _⟩ := Poller.new_ok made
  have stocked : w.Stocked := by
    refine ⟨lasts, within, ?_, List.inj_on_of_nodup_map distinct⟩
    intro y c late
    exact DueStore.isLocked_of_ended unlocked y late
  refine ⟨?_, ?_⟩
  · intro few
    exact stocked.passes spaced due readable known few (Nat.lt_of_lt_of_le (length_othersAhead_lt_due due) enough)
  · intro many
    refine stocked.starves spaced due many ?_
    intro h member
    exact absurd member List.not_mem_nil

private def parcel (target : Option String) : Message :=
  ⟨"request", ⟨"orders", "created"⟩, [], 1, 0, 0, false, .timely, .epoch, target⟩

/-- A parcel for a handler that nobody knows. -/
private def stray : DueEntry := .ofMessage (parcel (some "nobody")) .epoch

/-- Bytes that are no envelope. -/
private def scrap : DueEntry := .new [] (.later .epoch (.ofSeconds 1))

/-- A parcel that can be delivered. -/
private def good : DueEntry := .ofMessage (parcel (some "packer")) (.later .epoch (.ofSeconds 2))

private def depot : System :=
  let registry : Registry :=
    ⟨Table.empty.insert ⟨"orders", "created"⟩ [.new ⟨"orders", "created"⟩ "packer"],
      Table.empty.insert "packer" (.new ⟨"orders", "created"⟩ "packer")⟩
  let s := System.new .epoch (.new ⟨.standard, .inProcess, .standard, .zero⟩ registry 0)
  let store := ((DueStore.empty.insert stray).insert scrap).insert good
  { s with broker := { s.broker with store := store } }.passTo 2000000000

/-- Settings by which a poller fetches some number of entries at a time. -/
private def batches (size : Nat) : PollConfig := ⟨.ofSeconds 1, size, .ofSeconds 10⟩

private def shift (size : Nat) : Patrol := opened depot ⟨batches size, .empty⟩

/-- Pauses of ten seconds. -/
private def breaks : List (List System.Act) := [[.passTo 12000000000], [.passTo 22000000000], [.passTo 32000000000]]

private theorem spaced_breaks {size : Nat} (small : size = 1 ∨ size = 2) : (shift size).Spaced breaks := by
  let second := (shift size).round [.passTo 12000000000]
  let third := second.round [.passTo 22000000000]
  have checked : ((shift size).system.Ready (shift size).poller.config ∧
      (shift size).system.count + (shift size).poller.config.lockTimeout.nanos ≤ second.system.count) ∧
      (second.system.Ready second.poller.config ∧
        second.system.count + second.poller.config.lockTimeout.nanos ≤ third.system.count) ∧
      third.system.Ready third.poller.config ∧
        third.system.count + third.poller.config.lockTimeout.nanos ≤
          (third.round [.passTo 32000000000]).system.count := by
    rcases small with rfl | rfl
    · decide +kernel
    · decide +kernel
  obtain ⟨⟨first, late⟩, ⟨again, later⟩, last, latest⟩ := checked
  exact ⟨first, rfl, late, again, rfl, later, last, rfl, latest, trivial⟩

/-- What is found when the first poll comes: the good parcel is due, and one refused entry is ahead of it. -/
private theorem waits_good :
    (depot.broker.store.entries.map DueEntry.lockKey).Nodup ∧ (shift 1).due.length ≤ breaks.length ∧
      good ∈ (shift 1).due ∧ depot.engine.refuses good = false ∧ ((shift 1).refusedAhead good).length = 1 := by
  decide +kernel

private theorem readable_good : good.message = .ok (parcel (some "packer")) := Message.decode_written (m := _) (by decide) (by decide)

/-- One refused entry is ahead of the good one, which is as many as a batch of one has room for. -/
theorem due_entries_pass_few_refused_depot :
    (shift 2).Spaced breaks ∧ good ∉ ((shift 2).run (rounds breaks)).entries ∧
      (∃ h ∈ ((shift 2).run (rounds breaks)).handovers, h.entry = good ∧ h.Taken (parcel (some "packer"))) ∧
      (shift 1).Spaced breaks ∧ good ∈ ((shift 1).run (rounds breaks)).entries := by
  have unlocked : ∀ key ends, depot.broker.store.locks.get? key = some ends → ends ≤ depot.count := by
    intro key ends found
    simp [depot, System.passTo, DueStore.insert, DueStore.empty] at found
  have made : Poller.new (batches 2) = .ok ⟨batches 2, .empty⟩ := rfl
  have madeOne : Poller.new (batches 1) = .ok ⟨batches 1, .empty⟩ := rfl
  have within : depot.clock.start ≤ Instant.latest := by decide
  obtain ⟨distinct, enough, due, known, ahead⟩ := waits_good
  have law := due_entries_pass_few_refused depot made unlocked within distinct (spaced_breaks (.inr rfl)) enough good
    due _ readable_good known
  have lawOne := due_entries_pass_few_refused depot madeOne unlocked within distinct (spaced_breaks (.inl rfl)) enough
    good due _ readable_good known
  have few : ((shift 2).refusedAhead good).length < 2 := Nat.lt_of_le_of_lt (Nat.le_of_eq ahead) (by decide)
  obtain ⟨gone, brought⟩ := law.1 few
  exact ⟨spaced_breaks (.inr rfl), gone, brought, spaced_breaks (.inl rfl), (lawOne.2 (Nat.le_of_eq ahead.symm)).1⟩

/-- A poller that fetches one entry at a time, and a due entry that can be read and is for a known handler but never
leaves the store, because one that is refused is ahead of it. -/
theorem stray_entry_blocks_the_rest :
    (shift 1).Spaced breaks ∧ (depot.broker.store.entries.map DueEntry.lockKey).Nodup ∧
      (shift 1).due.length ≤ breaks.length ∧ good ∈ (shift 1).due ∧
      good.message = .ok (parcel (some "packer")) ∧ depot.engine.refuses good = false ∧
      good ∈ ((shift 1).run (rounds breaks)).entries := by
  obtain ⟨distinct, enough, due, known, _⟩ := waits_good
  have stays : good ∈ ((shift 1).run (rounds breaks)).entries := by decide +kernel
  exact ⟨spaced_breaks (.inl rfl), distinct, enough, due, readable_good, known, stays⟩

end Patrol
end Courier
