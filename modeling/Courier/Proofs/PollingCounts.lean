import Courier.Proofs.EngineActs
import Courier.Proofs.Sightings

/-!
How often a message was seen in vain before it is taken. The poller counts this for each entry and tells the message,
but with each poll it forgets the entries that it has not seen. So what it tells is how many polls in a row have seen
the entry in vain, up to the poll that brings the message to the engine.
-/
namespace Courier

/-- A poller of a system with its last poll, under way or over, and what earlier polls have seen, the latest first. -/
structure Vigil where
  survey : Survey
  earlier : List (List Sighting)

namespace Vigil

/-- Something that may happen in a vigil. -/
inductive Act
  /-- The poller starts a poll. -/
  | beginPoll
  /-- The poll does its next step. -/
  | go
  /-- Something happens in the system apart from the poller. -/
  | outside (a : System.Act)

/-- A vigil before the first poll. -/
def opened (system : System) (config : PollConfig) : Vigil :=
  ⟨⟨⟨.empty, [], [], .ended .complete⟩, ⟨config, .empty⟩, system, []⟩, []⟩

/-- A poll starts if the last one is over, the engine takes messages, and the store can be looked at. -/
def beginPoll (w : Vigil) : Vigil :=
  if w.survey.poll.isOver then
    match w.survey.poller.startPoll System.surroundings w.survey.system with
    | .error _ => w
    | .ok poll =>
      if poll.isOver then w
      else ⟨{ w.survey with poll, sightings := [] }, w.survey.sightings :: w.earlier⟩
  else w

/-- The vigil after something has happened. -/
def act (w : Vigil) : Act → Vigil
  | .beginPoll => w.beginPoll
  | .go => { w with survey := w.survey.go }
  | .outside a => { w with survey := { w.survey with system := w.survey.system.act a } }

/-- The vigil after some things have happened. -/
def run (w : Vigil) (acts : List Act) : Vigil := acts.foldl act w

/-- The store's entries. -/
def entries (w : Vigil) : List DueEntry := w.survey.system.broker.store.entries

/-- All entries that the store holds at some time in the course of a run. -/
def stored : Vigil → List Act → List DueEntry
  | w, [] => w.entries
  | w, a :: rest => w.entries ++ stored (w.act a) rest

/-- Whether a poll has seen an entry in vain. -/
def vain (e : DueEntry) (sightings : List Sighting) : Bool := sightings.any (fun g => g.entry = e ∧ ¬ g.isDone)

/-- How many polls in a row have seen an entry in vain, from the latest one back. -/
def inRow (e : DueEntry) (polls : List (List Sighting)) : Nat := (polls.takeWhile (vain e)).length

/-! ### Counting in rows -/

/-- How many polls in a row have seen an entry in vain, given what a poll under way has seen so far. -/
private def times (e : DueEntry) (sightings : List Sighting) (earlier : List (List Sighting)) : Nat :=
  if e ∈ sightings.map Sighting.entry then inRow e (sightings :: earlier) else inRow e earlier

theorem vain_of_unseen {e : DueEntry} {sightings : List Sighting} (unseen : e ∉ sightings.map Sighting.entry) :
    vain e sightings = false := by
  rw [vain, List.any_eq_false]
  intro g member
  have other : g.entry ≠ e := by
    rintro rfl
    exact unseen (List.mem_map_of_mem member)
  simp [other]

theorem inRow_of_unseen {e : DueEntry} {sightings : List Sighting} (unseen : e ∉ sightings.map Sighting.entry)
    (earlier : List (List Sighting)) : inRow e (sightings :: earlier) = 0 := by
  rw [inRow, List.takeWhile_cons_of_neg (by simp [vain_of_unseen unseen]), List.length_nil]

private theorem times_seen {e : DueEntry} {sightings : List Sighting} (unseen : e ∉ sightings.map Sighting.entry)
    {g : Sighting} (is : g.entry = e) (earlier : List (List Sighting)) :
    times e (sightings ++ [g]) earlier = if g.isDone then 0 else times e sightings earlier + 1 := by
  have member : e ∈ (sightings ++ [g]).map Sighting.entry := by simp [is]
  have vain_ : vain e (sightings ++ [g]) = !g.isDone := by
    have before := vain_of_unseen unseen
    rw [vain] at before ⊢
    rw [List.any_append, before]
    simp [is]
  rw [times, times, if_pos member, if_neg unseen, inRow, inRow]
  by_cases done : g.isDone = true
  · rw [if_pos done, List.takeWhile_cons_of_neg (by simp [vain_, done]), List.length_nil]
  · rw [if_neg done, List.takeWhile_cons_of_pos (by simp [vain_, done]), List.length_cons]

private theorem times_other {e : DueEntry} {g : Sighting} (other : g.entry ≠ e) (sightings : List Sighting)
    (earlier : List (List Sighting)) : times e (sightings ++ [g]) earlier = times e sightings earlier := by
  have same : e ∈ (sightings ++ [g]).map Sighting.entry ↔ e ∈ sightings.map Sighting.entry := by
    simp [other.symm]
  have vain_ : vain e (sightings ++ [g]) = vain e sightings := by simp [vain, other]
  have row : inRow e ((sightings ++ [g]) :: earlier) = inRow e (sightings :: earlier) := by
    simp only [inRow, List.takeWhile_cons, vain_]
    split
    · rfl
    · rfl
  rw [times, times, row]
  exact if_congr same rfl rfl

/-- When a poll ends, nothing counts for an entry that it has not seen. -/
private theorem inRow_eq_times {e : DueEntry} {sightings : List Sighting} (earlier : List (List Sighting)) :
    inRow e (sightings :: earlier) = if e ∈ sightings.map Sighting.entry then times e sightings earlier else 0 := by
  by_cases seen : e ∈ sightings.map Sighting.entry
  · rw [if_pos seen, times, if_pos seen]
  · rw [if_neg seen, inRow_of_unseen seen]

/-! ### What the poller remembers -/

section Sound
variable {been : DueEntry → Prop} {v : Survey} {earlier : List (List Sighting)}

/-- What holds of a poll all along, given which entries there are at all, and what the polls before it have seen. The
poller knows how often it has seen each entry in vain. Once the engine takes no more messages it may get that wrong, but
it will not poll again; and if it cannot tell how long to lock entries it gets none. -/
private structure Sound (been : DueEntry → Prop) (v : Survey) (earlier : List (List Sighting)) : Prop where
  ordered : v.line.Pairwise DueEntry.Precedes
  known : ∀ e ∈ v.line, been e
  attentive : v.poll.isOver = false → v.Attentive
  tellable : v.poll.held ≠ [] → Timer.isTellable v.poller.config.lockTimeout = true
  under : v.poll.isOver = false → Timer.isTellable v.poller.config.lockTimeout = true →
    ∀ e, been e → v.poller.seenInVain e = .ofNat (times e v.sightings earlier)
  finished : v.poll.isOver = true → v.system.engine.isAccepting = true →
    Timer.isTellable v.poller.config.lockTimeout = true →
    ∀ e, been e → v.poller.seenInVain e = .ofNat (inRow e (v.sightings :: earlier))

private theorem Sound.goesOn (ordered : v.line.Pairwise DueEntry.Precedes) (known : ∀ e ∈ v.line, been e)
    (attentive : v.poll.isOver = false → v.Attentive) (on : v.poll.isOver = false)
    (tellable : v.poll.held ≠ [] → Timer.isTellable v.poller.config.lockTimeout = true)
    (counts : Timer.isTellable v.poller.config.lockTimeout = true →
      ∀ e, been e → v.poller.seenInVain e = .ofNat (times e v.sightings earlier)) : Sound been v earlier where
  ordered := ordered
  known := known
  attentive := attentive
  tellable := tellable
  under _ := counts
  finished finished := by
    rw [on] at finished
    cases finished

private theorem Sound.ends (ordered : v.line.Pairwise DueEntry.Precedes) (known : ∀ e ∈ v.line, been e)
    (finished : v.poll.isOver = true) (idle : v.poll.held = [])
    (counts : v.system.engine.isAccepting = true → Timer.isTellable v.poller.config.lockTimeout = true →
      ∀ e, been e → v.poller.seenInVain e = .ofNat (inRow e (v.sightings :: earlier))) : Sound been v earlier where
  ordered := ordered
  known := known
  attentive on := by
    rw [finished] at on
    cases on
  tellable some_ := absurd idle some_
  under on := by
    rw [finished] at on
    cases on
  finished _ := counts

/-- No entry is taken up twice in a poll. -/
private theorem Sound.fresh (sound : Sound been v earlier) (e : DueEntry) (back : List DueEntry)
    (next : v.poll.held ++ v.poll.rest = e :: back) : e ∉ v.sightings.map Sighting.entry ∧ been e := by
  have line : v.line = v.sightings.map Sighting.entry ++ e :: back := by
    rw [Survey.line, Survey.examined, List.append_assoc, next]
  have ordered := sound.ordered
  rw [line] at ordered
  refine ⟨fun member => ?_, sound.known e (by simp [line])⟩
  exact DueEntry.Precedes.irrefl e ((List.pairwise_append.mp ordered).2.2 e member e List.mem_cons_self)

/-- A poll that begins has seen nothing, and the one before it counts now. -/
private theorem Sound.begins (sound : Sound been v earlier) (finished : v.poll.isOver = true)
    (accepting : v.system.engine.isAccepting = true) {batch : List DueEntry}
    (part : batch.Sublist v.system.broker.store.entries) (there : ∀ e ∈ v.system.broker.store.entries, been e) :
    Sound been { v with poll := .ofBatch batch, sightings := [] } (v.sightings :: earlier) := by
  have ordered := v.system.broker.store.ordered.sublist part
  refine .goesOn ordered (fun e member => there e (part.subset member)) (fun _ key => ?_) rfl (absurd rfl) ?_
  · simp [Survey.examined, Poll.held, Poll.ofBatch]
  · exact sound.finished finished accepting

variable (distinct : ∀ x y, been x → been y → x.lockKey = y.lockKey → x = y)
include distinct

private theorem counts_afterSight {g : Sighting} (unseen : g.entry ∉ v.sightings.map Sighting.entry)
    (there : been g.entry) (counts : ∀ e, been e → v.poller.seenInVain e = .ofNat (times e v.sightings earlier)) :
    ∀ e, been e → (v.poller.afterSight g).seenInVain e = .ofNat (times e (v.sightings ++ [g]) earlier) := by
  intro e known
  rw [Poller.seenInVain_afterSight]
  by_cases same : g.entry = e
  · rw [if_pos (congrArg DueEntry.lockKey same), times_seen (same ▸ unseen) same, counts e known]
    split
    · rfl
    · rw [UInt32.ofNat_add]
      rfl
  · rw [if_neg (fun keys => same (distinct _ _ there known keys)), times_other same, counts e known]

private theorem counts_close {poll : Poll} {p : Poller} {sightings : List Sighting} (how : PollEnd)
    (seen : ∀ key, key ∈ poll.seen ↔ ∃ x ∈ sightings.map Sighting.entry, x.lockKey = key)
    (there : ∀ x ∈ sightings.map Sighting.entry, been x)
    (counts : ∀ e, been e → p.seenInVain e = .ofNat (times e sightings earlier)) :
    ∀ e, been e → (poll.close p how).2.seenInVain e = .ofNat (inRow e (sightings :: earlier)) := by
  intro e known
  have same : e.lockKey ∈ poll.seen ↔ e ∈ sightings.map Sighting.entry := by
    rw [seen]
    constructor
    · rintro ⟨x, member, keys⟩
      exact distinct x e (there x member) known keys ▸ member
    · intro member
      exact ⟨e, member, rfl⟩
  rw [Poll.seenInVain_close, inRow_eq_times, counts e known]
  by_cases member : e ∈ sightings.map Sighting.entry
  · rw [if_pos (same.mpr member), if_pos member]
  · rw [if_neg (fun inside => member (same.mp inside)), if_neg member]
    rfl

private theorem Sound.go (sound : Sound been v earlier) : Sound been v.go earlier := by
  by_cases finished : v.poll.isOver = true
  · rw [Survey.go_of_over finished]
    exact sound
  have on : v.poll.isOver = false := Bool.eq_false_of_not_eq_true finished
  have counts := sound.under on
  have seen := sound.attentive on
  have ordered := sound.ordered.sublist v.line_go_sublist
  have known (e : DueEntry) (member : e ∈ v.go.line) : been e := sound.known e (v.line_go_sublist.subset member)
  have attentive := seen.go
  have examined (e : DueEntry) (member : e ∈ v.examined) : been e := sound.known e (List.mem_append_left _ member)
  obtain ⟨poll, poller, system, sees, is, does⟩ := v.go_eq
  rw [is] at ordered known attentive ⊢
  cases does with
  | rests how stage => exact absurd stage (Poll.stage_ne_ended on how)
  | finishes looking none_ =>
    have all : v.examined = v.sightings.map Sighting.entry := by
      simp [Survey.examined, Poll.held, looking]
    refine .ends ordered known rfl rfl fun _ tellable => ?_
    rw [Option.toList_none, List.append_nil]
    exact counts_close distinct .complete (all ▸ seen) (all ▸ examined) (counts tellable)
  | stops e rest looking rests closed =>
    refine .ends ordered known rfl rfl fun accepting => ?_
    rw [closed] at accepting
    cases accepting
  | passes e rest looking rests accepting locked =>
    obtain ⟨unseen, there⟩ := sound.fresh e rest (by simp [Poll.held, looking, rests])
    refine .goesOn ordered known attentive rfl (absurd rfl) fun tellable => ?_
    exact counts_afterSight distinct (g := .locked e) unseen there (counts tellable)
  | breaks e rest looking rests accepting free endless =>
    refine .ends ordered known rfl rfl fun _ tellable => ?_
    rw [endless] at tellable
    cases tellable
  | claims e rest looking rests accepting free tellable =>
    refine .goesOn ordered known attentive rfl (fun _ => tellable) fun _ => ?_
    rw [Option.toList_none, List.append_nil]
    exact counts tellable
  | drops e why holding bad =>
    obtain ⟨unseen, there⟩ := sound.fresh e v.poll.rest (by simp [Poll.held, holding])
    refine .goesOn ordered known attentive rfl (absurd rfl) fun tellable => ?_
    exact counts_afterSight distinct (g := .unreadable e) unseen there (counts tellable)
  | takes h n m holding made ok =>
    obtain ⟨unseen, there⟩ := sound.fresh h.entry v.poll.rest (by simp [Poll.held, holding])
    refine .goesOn ordered known attentive rfl (absurd rfl) fun tellable => ?_
    exact counts_afterSight distinct (g := .taken h n) unseen there (counts tellable)
  | defers h why m holding made refused room =>
    obtain ⟨unseen, there⟩ := sound.fresh h.entry v.poll.rest (by simp [Poll.held, holding])
    refine .goesOn ordered known attentive rfl (absurd rfl) fun tellable => ?_
    exact counts_afterSight distinct (g := .deferred h why) unseen there (counts tellable)
  | fills h why m holding made refused full =>
    obtain ⟨unseen, there⟩ := sound.fresh h.entry v.poll.rest (by simp [Poll.held, holding])
    have all : v.examined = (v.sightings ++ [Sighting.deferred h why]).map Sighting.entry := by
      simp [Survey.examined, Poll.held, holding, Sighting.entry]
    refine .ends ordered known rfl rfl fun _ tellable => ?_
    refine counts_close distinct .complete (all ▸ seen) (all ▸ examined) ?_
    have tellable : Timer.isTellable v.poller.config.lockTimeout = true := tellable
    exact counts_afterSight distinct (g := .deferred h why) unseen there (counts tellable)
  | clears e clearing =>
    refine .goesOn ordered known attentive rfl (absurd rfl) fun tellable => ?_
    rw [Option.toList_none, List.append_nil]
    exact counts tellable

/-- Whatever happens, the poller knows how often it has seen each entry in vain. -/
private theorem sound_act {w : Vigil} (there : ∀ e ∈ w.entries, been e) (sound : Sound been w.survey w.earlier)
    (a : Act) : Sound been (w.act a).survey (w.act a).earlier := by
  cases a with
  | go => exact sound.go distinct
  | outside a =>
    refine ⟨sound.ordered, sound.known, sound.attentive, sound.tellable, sound.under, fun finished accepting => ?_⟩
    -- an engine that takes messages has taken them before
    refine sound.finished finished (Bool.of_not_eq_false (fun closed => ?_))
    have still : (w.survey.system.act a).engine.isAccepting = true := accepting
    rw [System.closed_act closed] at still
    cases still
  | beginPoll =>
    by_cases finished : w.survey.poll.isOver = true
    · by_cases accepting : w.survey.system.engine.isAccepting = true
      · cases fetched : w.survey.system.broker.store.fetch w.survey.system.now w.survey.poller.config.batchSize with
        | error why =>
          simp only [act, beginPoll, finished, if_true, Poller.startPoll_of_error accepting fetched]
          exact sound
        | ok batch =>
          have on : (Poll.ofBatch batch).isOver = false := rfl
          simp only [act, beginPoll, finished, if_true, Poller.startPoll_of_batch accepting fetched, on,
            Bool.false_eq_true, if_false]
          exact sound.begins finished accepting (DueStore.fetch_ok fetched) there
      · have closed := Bool.eq_false_of_not_eq_true accepting
        have ended : (⟨.empty, [], [], .ended .complete⟩ : Poll).isOver = true := rfl
        simp only [act, beginPoll, finished, if_true, Poller.startPoll_of_closed _ closed, ended]
        exact sound
    · simp only [act, beginPoll, finished, Bool.false_eq_true, if_false]
      exact sound

private theorem sound_run {w : Vigil} {acts : List Act} (there : ∀ e ∈ w.stored acts, been e)
    (sound : Sound been w.survey w.earlier) : Sound been (w.run acts).survey (w.run acts).earlier := by
  induction acts generalizing w with
  | nil => exact sound
  | cons a rest ih =>
    refine ih (fun e member => there e (List.mem_append_right _ member)) ?_
    exact sound_act distinct (fun e member => there e (List.mem_append_left _ member)) sound a

end Sound

private theorem sound_opened (been : DueEntry → Prop) (s : System) (config : PollConfig) :
    Sound been (opened s config).survey (opened s config).earlier where
  ordered := List.Pairwise.nil
  known _ member := by cases member
  attentive on := by cases on
  tellable := absurd rfl
  under on := by cases on
  finished _ _ _ e _ := rfl

/-- What a message is told when the engine takes it: how many polls in a row have seen it, as far as a word counts. -/
private theorem told_of_sees {s : System} {config : PollConfig} {acts : List Act}
    (distinct : ∀ x ∈ (opened s config).stored acts, ∀ y ∈ (opened s config).stored acts,
      x.lockKey = y.lockKey → x = y) {h : Handover} {n : Nat}
    (sees : ((opened s config).run acts).survey.sees = some (.taken h n)) :
    ∃ m, h.Taken m ∧ h.told = { m with
      pollingCount := raise m.pollingCount (.ofNat (1 + inRow h.entry ((opened s config).run acts).earlier)) } := by
  have sound : Sound (· ∈ (opened s config).stored acts) ((opened s config).run acts).survey
      ((opened s config).run acts).earlier :=
    sound_run (fun x y first second => distinct x first y second) (fun e member => member) (sound_opened _ s config)
  generalize (opened s config).run acts = w at sees sound
  have does := w.survey.poll.does w.survey.poller w.survey.system
  have seen : w.survey.poll.sighting? w.survey.poller w.survey.system = some (.taken h n) := sees
  rw [seen] at does
  generalize (w.survey.poll.step System.surroundings w.survey.poller w.survey.system).1 = poll at does
  generalize (w.survey.poll.step System.surroundings w.survey.poller w.survey.system).2.1 = poller at does
  generalize (w.survey.poll.step System.surroundings w.survey.poller w.survey.system).2.2 = system at does
  cases does with
  | takes h n m holding made ok =>
    have held : w.survey.poll.held = [h.entry] := by rw [Poll.held, holding]
    have on : w.survey.poll.isOver = false := by rw [Poll.isOver, holding]
    obtain ⟨unseen, there⟩ := sound.fresh h.entry w.survey.poll.rest (by simp [held])
    have count := sound.under on (sound.tellable (by simp [held])) h.entry there
    rw [times, if_neg unseen] at count
    refine ⟨m, made.genuine.taken ok, ?_⟩
    rw [made.told, count, Nat.add_comm, UInt32.ofNat_add]
    rfl

/-- What a message is told about polls in vain. Whenever the engine takes a message in a poll, the message's count of
polls is raised by one for that poll, and by one for each poll before it in an unbroken row of polls that have seen the
entry and found it locked or not got its message taken; as far as the count goes. A poll that does not get to see the
entry ends the row, even though the entry is due. The entries that there ever are have to be told apart by their
locks. -/
theorem polling_counts_rows (s : System) (config : PollConfig) (acts : List Act)
    (distinct : ∀ x ∈ (opened s config).stored acts, ∀ y ∈ (opened s config).stored acts,
      x.lockKey = y.lockKey → x = y) :
    let w := (opened s config).run acts
    ∀ h n, w.survey.sees = some (.taken h n) →
      ∃ m, h.Taken m ∧
        h.told = { m with pollingCount := raise m.pollingCount (.ofNat (1 + inRow h.entry w.earlier)) } ∧
        (1 + inRow h.entry w.earlier < 2 ^ 32 →
          h.told.pollingCount.toNat = min (m.pollingCount.toNat + 1 + inRow h.entry w.earlier) 0xFFFFFFFF) := by
  intro w h n sees
  obtain ⟨m, taken, told⟩ := told_of_sees distinct sees
  refine ⟨m, taken, told, fun few => ?_⟩
  rw [told, toNat_raise, UInt32.toNat_ofNat_of_lt' few, Nat.add_assoc]

/-- Where the bound on the row comes from: the polls of a row are counted in a word, which wraps round. A row that fills
it is no row to the message, which comes to the engine just as it was stored. Only a message whose own count is full
does so besides. -/
theorem full_row_tells_nothing (s : System) (config : PollConfig) (acts : List Act)
    (distinct : ∀ x ∈ (opened s config).stored acts, ∀ y ∈ (opened s config).stored acts,
      x.lockKey = y.lockKey → x = y) :
    let w := (opened s config).run acts
    ∀ h n m, w.survey.sees = some (.taken h n) → h.entry.message = .ok m →
      (h.told = m ↔ m.pollingCount = 0xFFFFFFFF ∨ 2 ^ 32 ∣ 1 + inRow h.entry w.earlier) := by
  intro w h n m sees readable
  obtain ⟨stored, taken, told⟩ := told_of_sees distinct sees
  obtain rfl : stored = m := Except.ok.inj (taken.genuine.1.symm.trans readable)
  have same : h.told = stored ↔ raise stored.pollingCount (.ofNat (1 + inRow h.entry w.earlier)) = stored.pollingCount := by
    rw [told]
    exact ⟨congrArg Message.pollingCount, fun count => by rw [count]⟩
  have full : UInt32.ofNat (1 + inRow h.entry w.earlier) = 0 ↔ 2 ^ 32 ∣ 1 + inRow h.entry w.earlier := by
    rw [← UInt32.toNat_inj, UInt32.toNat_ofNat', Nat.dvd_iff_mod_eq_zero]
    rfl
  rw [same, raise_eq_self_iff, full]

private def notice : Message := ⟨"request", ⟨"orders", "expire"⟩, [], 1, 0, 0, false, .timely, .epoch, none⟩

private def reminder : DueEntry := .ofMessage notice (.later .epoch (.ofSeconds 1))

/-- An entry that is due before the reminder, and holds no message. -/
private def blank : DueEntry := .new [] .epoch

/-- A system whose engine has a handler for the notice, which is due for the second time. -/
private def desk : System :=
  let registry : Registry :=
    ⟨Table.empty.insert ⟨"orders", "expire"⟩ [.new ⟨"orders", "expire"⟩ "closer"],
      Table.empty.insert "closer" (.new ⟨"orders", "expire"⟩ "closer")⟩
  { System.new .epoch (.new ⟨.standard, .inProcess, .standard, .zero⟩ registry 0) with
    broker := { Broker.empty with store := DueStore.empty.insert reminder } }

/-- One entry for each poll. -/
private def pace : PollConfig := ⟨.ofSeconds 1, 1, .ofSeconds 10⟩

/-- A poll that finds the reminder locked. -/
private def before : List Act :=
  [.outside (.passTo 1000000000), .outside (.claim reminder (.ofSeconds 5)), .beginPoll, .go, .go]

/-- A poll that claims the reminder when the lock has ended. -/
private def after : List Act := [.outside (.passTo 6000000000), .beginPoll, .go]

/-- A poll in between that has no room for the reminder. -/
private def between : List Act := [.outside (.insert blank), .beginPoll, .go, .go, .go, .go]

/-- What the engine takes if the poll's next step is that it takes a message. -/
private def taking? (w : Vigil) : Option (Handover × Nat) :=
  match w.survey.sees with
  | some (.taken h n) => some (h, n)
  | _ => none

private theorem sees_of_taking? {w : Vigil} {h : Handover} {n : Nat} (taking : (h, n) ∈ w.taking?) :
    w.survey.sees = some (.taken h n) := by
  unfold taking? at taking
  split at taking
  · rename_i h' n' sees
    cases taking
    exact sees
  · cases taking

private theorem distinct_of_two {entries : List DueEntry} (two : ∀ x ∈ entries, x = reminder ∨ x = blank)
    (apart : reminder.lockKey ≠ blank.lockKey) : ∀ x ∈ entries, ∀ y ∈ entries, x.lockKey = y.lockKey → x = y := by
  intro x first y second same
  rcases two x first with rfl | rfl
  · rcases two y second with rfl | rfl
    · rfl
    · exact absurd same apart
  · rcases two y second with rfl | rfl
    · exact absurd same.symm apart
    · rfl

private theorem apart : reminder.lockKey ≠ blank.lockKey := by decide +kernel

theorem polling_counts_rows_reminder :
    let w := (opened desk pace).run (before ++ after)
    (∀ x ∈ (opened desk pace).stored (before ++ after), ∀ y ∈ (opened desk pace).stored (before ++ after),
      x.lockKey = y.lockKey → x = y) ∧
      ∃ h n, w.survey.sees = some (.taken h n) ∧ inRow h.entry w.earlier = 1 ∧ h.told.pollingCount.toNat = 2 := by
  intro w
  obtain ⟨two, ⟨h, n⟩, taking, entry, row⟩ :
      (∀ x ∈ (opened desk pace).stored (before ++ after), x = reminder ∨ x = blank) ∧
        ∃ t ∈ w.taking?, t.1.entry = reminder ∧ inRow t.1.entry w.earlier = 1 := by decide +kernel
  have distinct := distinct_of_two two apart
  have sees := sees_of_taking? taking
  obtain ⟨m, taken, _, count⟩ := polling_counts_rows desk pace (before ++ after) distinct h n sees
  have readable : reminder.message = .ok notice := Message.decode_written (m := notice) (by decide) (by decide)
  have is : m = notice := Except.ok.inj (taken.genuine.1.symm.trans (entry ▸ readable))
  refine ⟨distinct, h, n, sees, row, ?_⟩
  rw [count (by rw [row]; decide), row, is]
  rfl

/-- A reminder that is seen in vain by one poll and taken by another one later, and is told of none in vain: the poll in
between had no room for it. -/
theorem crowded_poll_ends_row :
    let w := (opened desk pace).run (before ++ between ++ after)
    (∀ x ∈ (opened desk pace).stored (before ++ between ++ after),
      ∀ y ∈ (opened desk pace).stored (before ++ between ++ after), x.lockKey = y.lockKey → x = y) ∧
      ∃ h n, w.survey.sees = some (.taken h n) ∧ h.entry.message = .ok notice ∧
        h.told.pollingCount.toNat ≠
          min (notice.pollingCount.toNat + 1 + w.earlier.countP (vain h.entry)) 0xFFFFFFFF := by
  intro w
  obtain ⟨two, ⟨h, n⟩, taking, entry, seen, told⟩ :
      (∀ x ∈ (opened desk pace).stored (before ++ between ++ after), x = reminder ∨ x = blank) ∧
        ∃ t ∈ w.taking?, t.1.entry = reminder ∧ w.earlier.countP (vain t.1.entry) = 1 ∧ t.1.told.pollingCount = 1 := by
    decide +kernel
  refine ⟨distinct_of_two two apart, h, n, sees_of_taking? taking, ?_, ?_⟩
  · rw [entry]
    exact Message.decode_written (m := notice) (by decide) (by decide)
  · rw [seen, told]
    decide

end Vigil
end Courier
