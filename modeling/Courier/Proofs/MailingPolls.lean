import Courier.Proofs.MailingTurns

/-!
What the poller does to the tokens of a mailing. Nobody else locks an entry, so the poller sees none in vain: it
claims an entry, brings its message to the handler that it is for, and takes the entry out.
-/
namespace Courier

/-- An entry is free if no lock has its name. -/
theorem DueStore.isLocked_of_absent {s : DueStore} {e : DueEntry} (absent : e.lockKey ∉ s.locks.keys) (now : Nat) :
    s.isLocked e now = false := by
  have free : s.locks.get? e.lockKey = none := by
    cases found : s.locks.get? e.lockKey with
    | none => rfl
    | some ends => exact absurd (List.mem_map_of_mem (f := Prod.fst) (Table.get?_eq_some_iff.mp found)) absent
  rw [isLocked, free]
  rfl

namespace Post

variable {m : Mailing} {w : Post}

/-- After a step of the poller. -/
def polled (w : Post) (system : System) (poller : Poller) (poll : Poll) : Post :=
  ({ w with system, poller, poll } : Post).noted

/-- While no entry is about to be taken out, all of them stand. -/
theorem standing_of_free (free : ∀ e, w.poll.stage ≠ .clearing e) : w.standing = w.entries := by
  unfold standing
  split
  · rename_i e clearing
    exact absurd clearing (free e)
  · exact List.filter_true _

theorem standing_of_clearing {e : DueEntry} (clearing : w.poll.stage = .clearing e) :
    w.standing = w.entries.filter (fun x => decide (¬ e.SamePlace x)) := by
  unfold standing
  rw [clearing]

section Steps
variable {system : System} {poller : Poller} {poll : Poll}

/-- A step of the poller puts nothing into the store. -/
private theorem Tidy.been_polled (tidy : w.Tidy) (fewer : system.broker.store.entries ⊆ w.entries) :
    (w.polled system poller poll).been ⊆ w.been :=
  List.append_subset.mpr ⟨List.Subset.refl _, List.Subset.trans fewer tidy.stood⟩

/-- If the poller leaves the engine alone, and the entries that are not about to be taken out, the tokens stay. -/
private theorem Sound.polled (sound : w.Sound m) (engine : system.engine = w.system.engine)
    (publishes : system.broker.publishError = w.system.broker.publishError)
    (fewer : system.broker.store.entries ⊆ w.entries) (standing : (w.polled system poller poll).standing = w.standing)
    (tidy : (w.polled system poller poll).Tidy) :
    (w.polled system poller poll).Sound m ∧ Turn m w (w.polled system poller poll) := by
  have turn : Turn m w (w.polled system poller poll) := by
    refine .rests (sound.been_polled fewer) ?_ (fun _ => rfl)
    show ((system.engine.pool.deliveries.map Token.delivery) ++ (system.engine.pending.entries.map _ ++
      (w.polled system poller poll).standing.map Token.stored)).Perm _
    rw [engine, standing]
    exact List.Perm.refl _
  have fit : Fit m system.engine := engine ▸ sound.toFit
  exact ⟨⟨fit, tidy, publishes.trans sound.publishes, turn.inOrder sound.order⟩, turn⟩

/-- If the poller has nothing at hand any more, and the store has just the entries that were not about to be taken
out, the tokens stay. -/
private theorem Sound.browses (sound : w.Sound m) (idle : ∀ e, w.poll.stage ≠ .holding e)
    (engine : system.engine = w.system.engine) (publishes : system.broker.publishError = w.system.broker.publishError)
    (left : system.broker.store.entries = w.standing)
    (locks : system.broker.store.locks = w.system.broker.store.locks) (unseen : poller.observations = .empty)
    (free : poll.IsFree) (coming : poll.rest ⊆ w.standing) (ordered : poll.rest.Pairwise DueEntry.Precedes) :
    (w.polled system poller poll).Sound m ∧ Turn m w (w.polled system poller poll) := by
  have standing : (w.polled system poller poll).standing = w.standing :=
    (standing_of_free (fun e => (free e).2)).trans left
  have fewer : system.broker.store.entries ⊆ w.entries := by
    rw [left]
    exact List.filter_subset_self _
  refine sound.polled engine publishes fewer standing ⟨List.subset_append_right _ _, unseen, standing ▸ coming, ordered,
    fun e holding => absurd holding (free e).1, fun e clearing => absurd clearing (free e).2, fun key member => ?_,
    fun x inside _ => ?_⟩
  · obtain ⟨x, stood, same⟩ := sound.locked key (locks ▸ member)
    exact ⟨x, List.mem_append_left _ stood, same⟩
  · show x.lockKey ∉ system.broker.store.locks.keys
    rw [locks]
    exact sound.free x (standing ▸ inside) (idle x)

end Steps

/-! ### Between two polls -/

private theorem starts (sound : w.Sound m) (ended : w.poll.isOver = true) :
    w.goOn.noted.Sound m ∧ Turn m w w.goOn.noted := by
  obtain ⟨how, stage⟩ := Poll.ended_of_isOver ended
  have free : w.poll.IsFree := Poll.isFree_ended stage
  have accepting : w.system.engine.isAccepting = true := sound.pool.accepting
  cases fetched : w.system.broker.store.fetch w.system.now w.poller.config.batchSize with
  | error why =>
    have same : w.goOn = w := by
      simp only [goOn, Journey.goOn, ended, Poller.startPoll, System.surroundings, accepting, if_true, fetched, bind,
        Except.bind]
    rw [same]
    exact sound.idle
  | ok batch =>
    have next : w.goOn.noted = w.polled w.system w.poller (.ofBatch batch) := by
      simp only [goOn, Journey.goOn, ended, Poller.startPoll, System.surroundings, accepting, if_true, fetched, bind,
        Except.bind, pure, Except.pure]
      rfl
    have all : w.standing = w.entries := standing_of_free (fun e => (free e).2)
    have part := DueStore.fetch_ok fetched
    rw [next]
    refine sound.browses (fun e => (free e).1) rfl rfl all.symm rfl sound.unseen (Poll.isFree_looking rfl) ?_
      (w.system.broker.store.ordered.sublist part)
    rw [all]
    exact part.subset

/-! ### A poll that goes on -/

/-- The poller does a step of the poll that is under way. -/
private theorem goOn_step (under : w.poll.isOver = false) {poll : Poll} {poller : Poller} {system : System}
    (step : w.poll.step System.surroundings w.poller w.system = (poll, poller, system)) :
    w.goOn.noted = w.polled system poller poll := by
  unfold goOn
  rw [Journey.goOn_step (w := ⟨w.system, w.poller, w.poll, []⟩) under, step]
  rfl

/-- Two entries that stand have locks of their own. -/
private theorem Sound.eq_of_lockKey (sound : w.Sound m) (distinct : w.Distinct) {x y : DueEntry} (first : x ∈ w.standing)
    (second : y ∈ w.standing) (key : x.lockKey = y.lockKey) : x = y := by
  have stood {z : DueEntry} (inside : z ∈ w.standing) : z ∈ w.been := sound.stood (List.mem_of_mem_filter inside)
  have token {z : DueEntry} (inside : z ∈ w.standing) : Token.stored z ∈ w.tokens :=
    List.mem_append_right _ (List.mem_append_right _ (List.mem_map_of_mem inside))
  have member := distinct x (stood first) y (stood second) key
  have handler : (Token.stored x).handler = (Token.stored y).handler := by
    show x.addressee? = y.addressee?
    rw [DueEntry.addressee?, DueEntry.addressee?, DueEntry.letter?, DueEntry.letter?, member]
  exact Token.stored.inj (sound.order.unique (token first) (token second) handler)

/-- The poller has an entry at hand now, and its lock. -/
private theorem Sound.claims (sound : w.Sound m) (distinct : w.Distinct) (free : w.poll.IsFree) {e : DueEntry}
    {rest : List DueEntry} (line : w.poll.rest = e :: rest) {store : DueStore} (entries : store.entries = w.entries)
    {ends : Nat} (locks : store.locks = w.system.broker.store.locks.insert e.lockKey ends) {poll : Poll}
    (stage : poll.stage = .holding e) (left : poll.rest = rest) :
    (w.polled (w.system.withStore store) w.poller poll).Sound m ∧
      Turn m w (w.polled (w.system.withStore store) w.poller poll) := by
  have all : w.standing = w.entries := standing_of_free (fun e => (free e).2)
  have inside : e ∈ w.standing := sound.coming (by rw [line]; exact List.mem_cons_self)
  obtain ⟨first, ordered⟩ := List.pairwise_cons.mp (line ▸ sound.ordered)
  have standing : (w.polled (w.system.withStore store) w.poller poll).standing = w.standing := by
    rw [all, ← entries]
    refine standing_of_free (fun x => ?_)
    show poll.stage ≠ _
    rw [stage]
    exact nofun
  subst left
  refine sound.polled rfl rfl (entries ▸ List.Subset.refl _) standing ⟨List.subset_append_right _ _, sound.unseen,
    fun x later => ?_, ordered, fun x holding => ?_, fun x clearing => ?_, fun key member => ?_, fun x stands apart => ?_⟩
  · rw [standing]
    exact sound.coming (by rw [line]; exact List.mem_cons_of_mem e later)
  · obtain rfl : e = x := PollStage.holding.inj (stage.symm.trans holding)
    show e ∈ store.entries ∧ _
    rw [entries]
    exact ⟨all ▸ inside, first⟩
  · exact absurd (stage.symm.trans clearing) nofun
  · have member : key ∈ store.locks.keys := member
    rw [locks] at member
    rcases (Table.mem_keys_writtenTo _ _ _ _).mp member with rfl | old
    · exact ⟨e, List.mem_append_left _ (sound.stood (all ▸ inside)), rfl⟩
    · obtain ⟨x, stood, same⟩ := sound.locked key old
      exact ⟨x, List.mem_append_left _ stood, same⟩
  · -- the one lock that is new has the name of the entry at hand, and no other entry that stands has that name
    rw [standing] at stands
    show x.lockKey ∉ store.locks.keys
    rw [locks]
    intro locked
    rcases (Table.mem_keys_writtenTo _ _ _ _).mp locked with same | old
    · exact apart (stage.trans (congrArg PollStage.holding (sound.eq_of_lockKey distinct inside stands same.symm)))
    · exact sound.free x stands (free x).1 old

/-- No lock is in the way of an entry that comes next. Either the poller has it at hand now, or the poll is over. -/
private theorem Sound.looks (sound : w.Sound m) (distinct : w.Distinct) (looking : w.poll.stage = .looking) :
    w.goOn.noted.Sound m ∧ Turn m w w.goOn.noted := by
  have under : w.poll.isOver = false := by rw [Poll.isOver, looking]
  have free : w.poll.IsFree := Poll.isFree_looking looking
  have idle : ∀ e, w.poll.stage ≠ .holding e := fun e => (free e).1
  have all : w.standing = w.entries := standing_of_free (fun e => (free e).2)
  have accepting : w.system.engine.isAccepting = true := sound.pool.accepting
  cases line : w.poll.rest with
  | nil =>
    have step : w.poll.step System.surroundings w.poller w.system =
        ({ w.poll with rest := [], stage := .ended .complete },
          { w.poller with observations := w.poller.observations.filterKeys (fun key => w.poll.seen.contains key) },
          w.system) := by
      simp only [Poll.step, looking, line, Poll.close]
    rw [goOn_step under step]
    refine sound.browses idle rfl rfl all.symm rfl ?_ (Poll.isFree_ended rfl) (List.nil_subset _) .nil
    show w.poller.observations.filterKeys _ = _
    rw [sound.unseen]
    rfl
  | cons e rest =>
    have inside : e ∈ w.standing := sound.coming (by rw [line]; exact List.mem_cons_self)
    have coming : rest ⊆ w.standing := fun x later => sound.coming (by rw [line]; exact List.mem_cons_of_mem e later)
    obtain ⟨first, ordered⟩ := List.pairwise_cons.mp (line ▸ sound.ordered)
    have unlocked := DueStore.isLocked_of_absent (sound.free e inside (idle e)) w.system.count
    rcases w.system.broker.store.claim_cases e w.poller.config.lockTimeout w.system.count with
      ⟨locked, _⟩ | ⟨_, granted, locks⟩ | ⟨_, broken, locks⟩
    · rw [unlocked] at locked
      cases locked
    · have step : w.poll.step System.surroundings w.poller w.system =
          ({ w.poll with
              report := { w.poll.report with claimed := w.poll.report.claimed + 1 }, rest,
              seen := e.lockKey :: w.poll.seen, stage := .holding e }, w.poller,
            w.system.withStore (w.system.broker.store.claim e w.poller.config.lockTimeout w.system.count).2) := by
        simp only [Poll.step, looking, line, System.surroundings, accepting, if_true, Poll.claim, System.claim, granted,
          Option.map_some]
      rw [goOn_step under step]
      exact sound.claims distinct free line (DueStore.entries_claim ..) locks rfl rfl
    · have step : w.poll.step System.surroundings w.poller w.system =
          ({ w.poll with rest, seen := e.lockKey :: w.poll.seen, stage := .ended .broken }, w.poller,
            w.system.withStore (w.system.broker.store.claim e w.poller.config.lockTimeout w.system.count).2) := by
        simp only [Poll.step, looking, line, System.surroundings, accepting, if_true, Poll.claim, System.claim, broken,
          Option.map_none]
      rw [goOn_step under step]
      refine sound.browses idle rfl rfl ?_ locks sound.unseen (Poll.isFree_ended rfl) coming ordered
      rw [all]
      exact DueStore.entries_claim ..

/-- The entry that is about to be taken out leaves the store. -/
private theorem Sound.clears (sound : w.Sound m) {e : DueEntry} (clearing : w.poll.stage = .clearing e) :
    w.goOn.noted.Sound m ∧ Turn m w w.goOn.noted := by
  have under : w.poll.isOver = false := by rw [Poll.isOver, clearing]
  have step : w.poll.step System.surroundings w.poller w.system =
      ({ w.poll with stage := .looking }, w.poller, w.system.withStore (w.system.broker.store.remove e).2) := by
    simp only [Poll.step, clearing, Poll.clear, System.surroundings, System.remove]
  rw [goOn_step under step]
  refine sound.browses (by simp [clearing]) rfl rfl ?_ rfl sound.unseen (Poll.isFree_looking rfl)
    sound.coming sound.ordered
  rw [standing_of_clearing clearing]
  rfl

/-! ### A message that is brought -/

/-- When the poller is done with the entry at hand, the entry is about to be taken out, and its token has moved. -/
private theorem Sound.moves (sound : w.Sound m) {e : DueEntry} (holding : w.poll.stage = .holding e) {engine : Engine}
    (fit : Fit m engine) (pending : engine.pending = w.system.engine.pending) (new? : Option Token)
    (deliveries : (engine.pool.deliveries.map Token.delivery).Perm
      (new?.toList ++ w.system.engine.pool.deliveries.map Token.delivery))
    (move : ∀ ending draw, Token.Move m.config.policy m.config.route m.registry ending draw (.stored e) new? [])
    {poll : Poll} {poller : Poller} (unseen : poller.observations = .empty) (stage : poll.stage = .clearing e)
    (rest : poll.rest = w.poll.rest) :
    let after := w.polled { w.system with engine } poller poll
    after.Sound m ∧ Turn m w after := by
  intro after
  have all : w.standing = w.entries := standing_of_free (by simp [holding])
  obtain ⟨inside, first⟩ := sound.holding e holding
  have others : after.standing = w.entries.filter (fun x => decide (¬ e.SamePlace x)) :=
    standing_of_clearing (w := after) stage
  have entries : w.standing.Perm (e :: after.standing) := by
    rw [all, others]
    exact DueStore.perm_of_mem w.system.broker.store.ordered inside
  have waiting : w.waiting.Perm (.stored e :: after.waiting) := by
    show List.Perm _ (_ :: (engine.pending.entries.map _ ++ after.standing.map Token.stored))
    rw [pending]
    exact ((entries.map Token.stored).append_left _).trans List.perm_middle
  have before : w.tokens.Perm (.stored e :: (w.system.engine.pool.deliveries.map .delivery ++ after.waiting)) :=
    (waiting.append_left _).trans List.perm_middle
  obtain ⟨letter, t, _, target, _⟩ := sound.order.known (.stored e) (before.mem_iff.mpr List.mem_cons_self)
  have mine : (Token.stored e).handler = some t.handlerId := by
    show e.addressee? = _
    rw [DueEntry.addressee?, ‹e.letter? = _›]
    exact target
  have turn : Turn m w after := by
    refine .moves (.stored e) new? mine before ?_ (fun x stood => .inl (sound.been_polled (List.Subset.refl _) stood))
      (move _ _) (fun other => ?_)
    · rw [← List.append_assoc]
      exact deliveries.append_right _
    · rw [ite_self, List.append_nil]
      rfl
  refine ⟨⟨fit, ⟨List.subset_append_right _ _, unseen, fun x coming => ?_, rest ▸ sound.ordered,
    fun x held => absurd (stage.symm.trans held) (by simp), fun x clearing => ?_, fun key member => ?_, fun x stands _ => ?_⟩,
    sound.publishes, turn.inOrder sound.order⟩, turn⟩
  · have coming : x ∈ w.poll.rest := rest ▸ coming
    rw [others]
    exact List.mem_filter.mpr ⟨all ▸ sound.coming coming, by simpa using (first x coming).not_samePlace⟩
  · obtain rfl : e = x := PollStage.clearing.inj (stage.symm.trans clearing)
    exact List.mem_append_left _ (sound.stood inside)
  · obtain ⟨x, stood, same⟩ := sound.locked key member
    exact ⟨x, List.mem_append_left _ stood, same⟩
  · rw [others] at stands
    obtain ⟨old, apart⟩ := List.mem_filter.mp stands
    refine sound.free x (all ▸ old) (fun held => ?_)
    obtain rfl : e = x := PollStage.holding.inj (holding.symm.trans held)
    simp [DueEntry.SamePlace.refl] at apart

/-- The message of the entry at hand goes to its handler, which knows that it was seen once; if it has never been
delivered it cannot be read. -/
private theorem Sound.hands (sound : w.Sound m) (calm : m.strains w .poll = false) {e : DueEntry}
    (holding : w.poll.stage = .holding e) : w.goOn.noted.Sound m ∧ Turn m w w.goOn.noted := by
  have under : w.poll.isOver = false := by rw [Poll.isOver, holding]
  have all : w.standing = w.entries := standing_of_free (by simp [holding])
  have stands : e ∈ w.standing := all ▸ (sound.holding e holding).1
  have token : Token.stored e ∈ w.tokens := List.mem_append_right _ (List.mem_append_right _ (List.mem_map_of_mem stands))
  obtain ⟨letter, t, found, target, known⟩ := sound.order.known _ token
  have message := DueEntry.message_of_letter found
  have forgets : (w.poller.observations.erase e.lockKey) = .empty := by
    rw [sound.unseen]
    rfl
  by_cases never : letter.deliverCount = 0
  · rw [if_pos never] at message
    have step : w.poll.step System.surroundings w.poller w.system =
        ({ w.poll with report := { w.poll.report with malformed := w.poll.report.malformed + 1 }, stage := .clearing e },
          { w.poller with observations := w.poller.observations.erase e.lockKey }, w.system) := by
      simp only [Poll.step, holding, Poll.hand, message]
    rw [goOn_step under step]
    exact sound.moves holding sound.toFit rfl none (List.Perm.refl _) (fun _ _ => .drops found never) forgets rfl rfl
  · rw [if_neg never] at message
    have once : w.poller.seenInVain e + 1 = 1 := by
      rw [Poller.seenInVain, sound.unseen]
      rfl
    have registered : w.system.engine.registry.find t.handlerId = some t := sound.registry ▸ known
    obtain ⟨told, is⟩ : ∃ told : Message, told = { letter with pollingCount := raise letter.pollingCount 1 } := ⟨_, rfl⟩
    let d : Delivery := ⟨w.system.engine.dispatched, told, t, .new told t.handlerId w.system.now⟩
    have addressed : told.targetHandler = some t.handlerId := by rw [is]; exact target
    rcases Engine.dispatch_addressed sound.pool addressed registered w.system.now with
      ⟨pool, taken, answer⟩ | ⟨full, _⟩
    · have step : w.poll.step System.surroundings w.poller w.system =
          ({ w.poll with
              report := { w.poll.report with dispatched := w.poll.report.dispatched + 1 }, stage := .clearing e },
            { w.poller with observations := w.poller.observations.erase e.lockKey },
            { w.system with
              engine := { w.system.engine with pool, dispatched := w.system.engine.dispatched + 1 } }) := by
        simp only [Poll.step, holding, Poll.hand, message, System.surroundings, System.dispatch, once, ← is, answer]
      have fit : Fit m { w.system.engine with pool, dispatched := w.system.engine.dispatched + 1 } :=
        sound.toFit.of_keepsAs ⟨rfl, rfl, rfl, rfl, rfl, rfl⟩ (sound.pool.submit taken)
      rw [goOn_step under step]
      have entered : (pool.deliveries.map Token.delivery).Perm
          (.delivery d :: w.system.engine.pool.deliveries.map Token.delivery) :=
        (Pool.deliveries_submit taken).map Token.delivery
      exact sound.moves holding fit rfl (some (.delivery d)) entered
        (fun _ _ => .arrives found never target known is rfl) forgets rfl rfl
    · rw [Mailing.strains, holding] at calm
      exact absurd full (of_decide_eq_false calm)

/-- Whatever the poller does, at most one token moves. -/
private theorem polls (sound : w.Sound m) (calm : m.strains w .poll = false) (distinct : w.Distinct) :
    (m.act w .poll).Sound m ∧ Turn m w (m.act w .poll) := by
  show w.goOn.noted.Sound m ∧ Turn m w w.goOn.noted
  cases stage : w.poll.stage with
  | looking => exact sound.looks distinct stage
  | holding e => exact sound.hands calm stage
  | clearing e => exact sound.clears stage
  | ended how => exact starts sound (by rw [Poll.isOver, stage])

/-! ### All acts -/

/-- It is never forgotten what the store has held. -/
theorem been_act (m : Mailing) (w : Post) (a : Mailing.Act) : w.been ⊆ (m.act w a).been := by
  have same : (m.next w a).been = w.been := by
    cases a with
    | start ticket =>
      simp only [Mailing.next]
      split
      · split
        · rfl
        · rfl
      · rfl
    | finish ticket =>
      simp only [Mailing.next]
      split
      · split
        · rfl
        · rfl
      · rfl
    | release ticket =>
      simp only [Mailing.next]
      split
      · rfl
      · rfl
    | _ => rfl
  show w.been ⊆ (m.next w a).been ++ _
  rw [same]
  exact List.subset_append_left _ _

theorem Distinct.of_subset {after : Post} (distinct : after.Distinct) (fewer : w.been ⊆ after.been) : w.Distinct :=
  fun x first y second => distinct x (fewer first) y (fewer second)

/-- Whatever happens, at most one token moves. -/
theorem Sound.act (sound : w.Sound m) {a : Mailing.Act} (calm : m.strains w a = false)
    (distinct : (m.act w a).Distinct) : (m.act w a).Sound m ∧ Turn m w (m.act w a) := by
  by_cases is : a = .poll
  · subst is
    exact polls sound calm (distinct.of_subset (been_act m w .poll))
  · exact sound.act_of_ne_poll is calm distinct

end Post
end Courier
