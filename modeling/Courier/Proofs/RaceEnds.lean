import Mathlib.Data.List.Infix
import Courier.Proofs.Envelopes
import Courier.Proofs.Races

/-!
How a race ends in which the engines take every message. A poll is over once it has tried to claim all that it
fetched. What it did not get, another poll has got; and whoever got an entry has handed its message over and
taken the entry out of the store.
-/
namespace Courier.Race

/-! ### More about steps -/

namespace Strides

variable {k : Nat} {poll next : Poll} {p : Poller} {s after : System} {bid : Option Bid} {handed : Option Handover}

/-- A lap leaves the entries that are left alone, but for the one that it claims. -/
theorem line (goes : Strides k poll p s next after bid handed) (open_ : s.engine.isAccepting = true) :
    next.rest = poll.rest ∨ ∃ b, bid = some b ∧ b.lap = k ∧ poll.rest = b.entry :: next.rest := by
  cases goes with
  | rests how was same => exact .inl (same ▸ rfl)
  | finishes was line rest stage => exact .inl (rest.trans line.symm)
  | stops e was line closed => cases open_.symm.trans closed
  | bids e answer was line claimed stage => exact .inr ⟨_, rfl, rfl, line⟩
  | drops e why was bad rest stage => exact .inl rest
  | hands h m genuine was before rest stage => exact .inl rest
  | clears e was rest stage => exact .inl rest

theorem rest_subset (goes : Strides k poll p s next after bid handed) : next.rest ⊆ poll.rest := by
  cases goes with
  | rests how was same => exact same ▸ List.Subset.refl _
  | finishes was line rest stage => exact rest ▸ List.nil_subset _
  | stops e was line closed => exact line ▸ List.subset_cons_self e _
  | bids e answer was line claimed stage => exact line ▸ List.subset_cons_self e _
  | drops e why was bad rest stage => exact rest ▸ List.Subset.refl _
  | hands h m genuine was before rest stage => exact rest ▸ List.Subset.refl _
  | clears e was rest stage => exact rest ▸ List.Subset.refl _

theorem bid_mem {b : Bid} (goes : Strides k poll p s next after (some b) handed) : b.entry ∈ poll.rest := by
  cases goes with
  | bids e answer was line => exact line ▸ List.mem_cons_self

/-- What a bid makes of its lap. -/
theorem stage_bid {b : Bid} (goes : Strides k poll p s next after (some b) handed) :
    b.lap = k ∧ (b.answer = some true → next.stage = .holding b.entry) ∧
      (b.answer = none → next.stage = .ended .broken) := by
  cases goes with
  | bids e answer was line claimed stage =>
    refine ⟨rfl, ?_, ?_⟩
    · rintro rfl
      exact stage
    · rintro rfl
      exact stage

/-- A lap that is over stays so. -/
theorem ended {how : PollEnd} (goes : Strides k poll p s next after bid handed) (was : poll.stage = .ended how) :
    next.stage = .ended how := by
  cases goes with
  | rests _ _ same => exact same ▸ was
  | finishes looking => cases looking.symm.trans was
  | stops _ looking => cases looking.symm.trans was
  | bids _ _ looking => cases looking.symm.trans was
  | drops _ _ holding => cases holding.symm.trans was
  | hands _ _ _ holding => cases holding.symm.trans was
  | clears _ clearing => cases clearing.symm.trans was

/-- A lap with an entry at hand turns to clearing it away, if the engine takes its message. -/
theorem of_holding {e : DueEntry} (goes : Strides k poll p s next after bid handed) (was : poll.stage = .holding e)
    (taken : ∀ h, handed = some h → ∃ n, h.result = .ok n) :
    next.stage = .clearing e ∧
      ((∃ why, e.message = .error why) ∨ ∃ h, handed = some h ∧ h.entry = e ∧ ∃ m, h.Taken m) := by
  cases goes with
  | rests _ ended => cases ended.symm.trans was
  | finishes looking => cases looking.symm.trans was
  | stops _ looking => cases looking.symm.trans was
  | bids _ _ looking => cases looking.symm.trans was
  | drops x why holding bad rest clearing =>
    cases holding.symm.trans was
    exact ⟨clearing, .inl ⟨why, bad⟩⟩
  | hands h m genuine holding before rest onward =>
    obtain rfl : h.entry = e := PollStage.holding.inj (holding.symm.trans was)
    rcases onward with ⟨n, ok, clearing⟩ | ⟨why, refused, _⟩
    · exact ⟨clearing, .inr ⟨h, rfl, rfl, m, genuine.taken ok⟩⟩
    · obtain ⟨n, ok⟩ := taken h rfl
      cases refused.symm.trans ok
  | clears _ clearing => cases clearing.symm.trans was

theorem of_clearing {e : DueEntry} (goes : Strides k poll p s next after bid handed) (was : poll.stage = .clearing e) :
    e ∉ after.broker.store.entries := by
  cases goes with
  | rests _ ended => cases ended.symm.trans was
  | finishes looking => cases looking.symm.trans was
  | stops _ looking => cases looking.symm.trans was
  | bids _ _ looking => cases looking.symm.trans was
  | drops _ _ holding => cases holding.symm.trans was
  | hands _ _ _ holding => cases holding.symm.trans was
  | clears x clearing =>
    cases clearing.symm.trans was
    exact fun inside => (DueStore.mem_remove.mp inside).2 (.refl _)

/-- A lap that comes to its end has nothing left to look at, if the engine takes every message. -/
theorem whole (goes : Strides k poll p s next after bid handed) (open_ : s.engine.isAccepting = true)
    (taken : ∀ h, handed = some h → ∃ n, h.result = .ok n) (before : poll.stage = .ended .complete → poll.rest = [])
    (stage : next.stage = .ended .complete) : next.rest = [] := by
  cases goes with
  | rests how was same =>
    subst same
    exact before stage
  | finishes was line rest => exact rest
  | stops e was line closed => cases open_.symm.trans closed
  | bids e answer was line claimed here =>
    rcases answer with _ | _ | _
    · cases here.symm.trans stage
    · cases here.symm.trans stage
    · cases here.symm.trans stage
  | drops _ _ _ _ _ clearing => cases clearing.symm.trans stage
  | hands h m genuine was engine rest onward =>
    rcases onward with ⟨n, _, clearing⟩ | ⟨why, refused, _⟩
    · cases clearing.symm.trans stage
    · obtain ⟨n, ok⟩ := taken h rfl
      cases refused.symm.trans ok
  | clears _ _ _ looking => cases looking.symm.trans stage

/-- No step puts an entry into the store. -/
theorem entries_subset (goes : Strides k poll p s next after bid handed) :
    after.broker.store.entries ⊆ s.broker.store.entries := by
  cases goes with
  | bids e =>
    show (s.broker.store.claim e p.config.lockTimeout s.count).2.entries ⊆ _
    rw [DueStore.entries_claim]
    exact List.Subset.refl _
  | clears e => exact List.filter_subset_self _
  | _ => exact List.Subset.refl _

theorem accepting (goes : Strides k poll p s next after bid handed) :
    after.engine.isAccepting = s.engine.isAccepting := by
  cases goes with
  | hands h m genuine was before =>
    have same := h.before.accepting_dispatch h.told h.now
    rw [genuine.2.2, before] at same
    exact same
  | _ => rfl

end Strides

/-! ### What is known of entries -/

/-- Where all entries of a race come from. -/
structure Known (been : List DueEntry) (w : Race) : Prop where
  entries : w.entries ⊆ been
  batch : ∀ lap ∈ w.laps, lap.batch ⊆ been
  rest : ∀ lap ∈ w.laps, lap.poll.rest ⊆ lap.batch
  bids : ∀ b ∈ w.bids, b.entry ∈ been

theorem Known.act {been now : List DueEntry} {w : Race} (known : w.Known been) (a : Act) (more : been ⊆ now)
    (entries : (w.act a).entries ⊆ now) : (w.act a).Known now := by
  have turns := w.turns a
  generalize w.act a = after at turns entries ⊢
  have batch (lap) (member : lap ∈ w.laps) : lap.batch ⊆ now := List.Subset.trans (known.batch lap member) more
  cases turns with
  | rests => exact ⟨entries, batch, known.rest, fun b member => more (known.bids b member)⟩
  | outside place b st is here => exact ⟨entries, batch, known.rest, fun b member => more (known.bids b member)⟩
  | begins lap fetched rest stage =>
    refine ⟨entries, ?_, ?_, fun b member => more (known.bids b member)⟩
    · intro other member
      rcases List.mem_append.mp member with old | new
      · exact batch other old
      · rw [List.mem_singleton.mp new]
        exact List.Subset.trans fetched.subset (List.Subset.trans known.entries more)
    · intro other member
      rcases List.mem_append.mp member with old | new
      · exact known.rest other old
      · rw [List.mem_singleton.mp new, rest]
        exact List.Subset.refl _
  | strides k lap r st p next after bid handed here racer station config goes =>
    have inside := List.mem_of_getElem? here
    refine ⟨entries, ?_, ?_, ?_⟩
    · intro other member
      rcases List.mem_or_eq_of_mem_set member with old | rfl
      · exact batch other old
      · exact batch lap inside
    · intro other member
      rcases List.mem_or_eq_of_mem_set member with old | rfl
      · exact known.rest other old
      · exact List.Subset.trans goes.rest_subset (known.rest lap inside)
    · intro b member
      rcases List.mem_append.mp member with old | new
      · exact more (known.bids b old)
      · obtain rfl := Option.mem_toList.mp new
        exact batch lap inside (known.rest lap inside goes.bid_mem)

/-! ### Engines that take every message -/

/-- Whether all engines take messages and have taken what was handed to them. -/
structure Calm (w : Race) : Prop where
  accepting : ∀ st ∈ w.stations, st.engine.isAccepting = true
  taken : ∀ h ∈ w.handovers, ∃ n, h.result = .ok n

/-- A race that is calm after an act was calm before. -/
theorem Calm.before {w : Race} {a : Act} (calm : (w.act a).Calm) : w.Calm := by
  have turns := w.turns a
  generalize w.act a = after at turns calm
  -- an engine that does not take messages does not begin to
  have still {place : Nat} {st : Station} {s : System} (here : w.stations[place]? = some st)
      (shut : st.engine.isAccepting = false → s.engine.isAccepting = false)
      (all : ∀ other ∈ w.stations.set place ⟨s.engine, s.alarms⟩, other.engine.isAccepting = true) :
      ∀ other ∈ w.stations, other.engine.isAccepting = true := by
    intro other member
    obtain ⟨j, found⟩ := List.mem_iff_getElem?.mp member
    by_cases same : j = place
    · subst same
      cases here.symm.trans found
      obtain ⟨inside, _⟩ := List.getElem?_eq_some_iff.mp here
      by_contra closed
      have open_ := all _ (List.mem_of_getElem? (List.getElem?_set_self inside))
      rw [shut (Bool.eq_false_iff.mpr closed)] at open_
      cases open_
    · exact all other (List.mem_of_getElem? ((List.getElem?_set_ne (Ne.symm same)).trans found))
  cases turns with
  | rests => exact calm
  | begins lap => exact ⟨calm.accepting, calm.taken⟩
  | outside place b st is here =>
    exact ⟨still here (fun closed => System.closed_act (s := w.system st) closed b) calm.accepting, calm.taken⟩
  | strides k lap r st p next after bid handed here racer station config goes =>
    exact ⟨still station (fun closed => goes.accepting.trans closed) calm.accepting,
      fun h member => calm.taken h (List.mem_append_left _ member)⟩

/-- Whether nothing is left to do for an entry but to take it out of the store. -/
def Handled (w : Race) (e : DueEntry) : Prop :=
  (∃ why, e.message = .error why) ∨ ∃ h ∈ w.handovers, h.entry = e ∧ ∃ m, h.Taken m

/-- What becomes of a lock that was won. -/
inductive Course (w : Race) (b : Bid) : Prop
  | held (lap : Lap) (here : w.laps[b.lap]? = some lap) (stage : lap.poll.stage = .holding b.entry)
  | handled (lap : Lap) (here : w.laps[b.lap]? = some lap) (stage : lap.poll.stage = .clearing b.entry)
      (handled : w.Handled b.entry)
  | gone (handled : w.Handled b.entry) (gone : b.entry ∉ w.entries)

/-- What holds all along of a race in which the engines take every message. A lap has tried to claim all that it
fetched and has left, and whoever won a lock goes on to the end with its entry. -/
structure Brought (w : Race) : Prop where
  tried : ∀ (k : Nat) lap e, w.laps[k]? = some lap → e ∈ lap.batch →
    e ∈ lap.poll.rest ∨ ∃ b ∈ w.bids, b.lap = k ∧ b.entry = e
  whole : ∀ lap ∈ w.laps, lap.poll.stage = .ended .complete → lap.poll.rest = []
  broken : ∀ b ∈ w.bids, b.answer = none → ∃ lap, w.laps[b.lap]? = some lap ∧ lap.poll.stage = .ended .broken
  won : ∀ b ∈ w.bids, b.answer = some true → w.Course b

section Steps
variable {w : Race} {k : Nat} {lap : Lap} {r : Racer} {st : Station} {p : Poller} {next : Poll} {after : System}
  {bid : Option Bid} {handed : Option Handover}

theorem Handled.moved {e : DueEntry} (done : w.Handled e) : (w.moved k lap r p next after bid handed).Handled e := by
  rcases done with bad | ⟨h, member, taken⟩
  · exact .inl bad
  · exact .inr ⟨h, List.mem_append_left _ member, taken⟩

/-- A lap that has won a lock goes on with the entry. -/
private theorem Course.moved {b : Bid} (course : w.Course b) (here : w.laps[k]? = some lap)
    (goes : Strides k lap.poll r.poller (w.system st) next after bid handed)
    (taken : ∀ h, handed = some h → ∃ n, h.result = .ok n) : (w.moved k lap r p next after bid handed).Course b := by
  by_cases same : b.lap = k
  · cases course with
    | held other found stage =>
      rw [same, here] at found
      cases found
      obtain ⟨clearing, done⟩ := goes.of_holding stage taken
      refine .handled _ (laps_moved_self same here) clearing ?_
      rcases done with bad | ⟨h, rfl, entry, took⟩
      · exact .inl bad
      · exact .inr ⟨h, List.mem_append_right _ (List.mem_singleton_self h), entry, took⟩
    | handled other found stage done =>
      rw [same, here] at found
      cases found
      exact .gone done.moved (goes.of_clearing stage)
    | gone done gone => exact .gone done.moved (fun inside => gone (goes.entries_subset inside))
  · cases course with
    | held other found stage => exact .held other ((laps_moved_ne same).trans found) stage
    | handled other found stage done => exact .handled other ((laps_moved_ne same).trans found) stage done.moved
    | gone done gone => exact .gone done.moved (fun inside => gone (goes.entries_subset inside))

private theorem Brought.moved (brought : w.Brought) (here : w.laps[k]? = some lap)
    (goes : Strides k lap.poll r.poller (w.system st) next after bid handed) (open_ : st.engine.isAccepting = true)
    (taken : ∀ h, handed = some h → ∃ n, h.result = .ok n) : (w.moved k lap r p next after bid handed).Brought where
  tried := by
    intro j other e found fetched
    rcases laps_moved found with ⟨rfl, rfl⟩ | ⟨apart, old⟩
    · rcases brought.tried j lap e here fetched with left | ⟨b, member, mine⟩
      · rcases goes.line open_ with same | ⟨b, rfl, mine, line⟩
        · exact .inl (same ▸ left)
        · rcases List.mem_cons.mp (line ▸ left) with now | later
          · exact .inr ⟨b, List.mem_append_right _ (List.mem_singleton_self b), mine, now.symm⟩
          · exact .inl later
      · exact .inr ⟨b, List.mem_append_left _ member, mine⟩
    · rcases brought.tried j other e old fetched with left | ⟨b, member, mine⟩
      · exact .inl left
      · exact .inr ⟨b, List.mem_append_left _ member, mine⟩
  whole := by
    intro other member stage
    rcases List.mem_or_eq_of_mem_set member with old | rfl
    · exact brought.whole other old stage
    · exact goes.whole open_ taken (brought.whole lap (List.mem_of_getElem? here)) stage
  broken := by
    intro b member none
    rcases List.mem_append.mp member with old | new
    · obtain ⟨other, found, stage⟩ := brought.broken b old none
      by_cases same : b.lap = k
      · rw [same, here] at found
        cases found
        exact ⟨_, laps_moved_self same here, goes.ended stage⟩
      · exact ⟨other, (laps_moved_ne same).trans found, stage⟩
    · obtain rfl := Option.mem_toList.mp new
      obtain ⟨rfl, _, broken⟩ := goes.stage_bid
      exact ⟨_, laps_moved_self rfl here, broken none⟩
  won := by
    intro b member wins
    rcases List.mem_append.mp member with old | new
    · exact (brought.won b old wins).moved here goes taken
    · obtain rfl := Option.mem_toList.mp new
      obtain ⟨rfl, holding, _⟩ := goes.stage_bid
      exact .held _ (laps_moved_self rfl here) (holding wins)

end Steps

/-- As long as engines take every message and no entry comes into the store that has been known before, every
entry goes on to its end. -/
theorem Brought.act {w : Race} {been : List DueEntry} (brought : w.Brought) (known : w.Known been) {a : Act}
    (calm : (w.act a).Calm) (new : ∀ e ∈ (w.act a).entries, e ∉ w.entries → e ∉ been) : (w.act a).Brought := by
  have before := calm.before
  have turns := w.turns a
  generalize w.act a = after at turns calm new ⊢
  cases turns with
  | rests => exact brought
  | begins lap fetched rest stage =>
    have stays {k : Nat} {other : Lap} (found : w.laps[k]? = some other) : (w.laps ++ [lap])[k]? = some other := by
      obtain ⟨inside, _⟩ := List.getElem?_eq_some_iff.mp found
      rw [List.getElem?_append_left inside, found]
    refine ⟨?_, ?_, ?_, ?_⟩
    · intro k other e found member
      rcases laps_begun found with old | rfl
      · exact brought.tried k other e old member
      · exact .inl (rest ▸ member)
    · intro other member ended
      rcases List.mem_append.mp member with old | new
      · exact brought.whole other old ended
      · obtain rfl := List.mem_singleton.mp new
        rcases stage with looking | ⟨_, empty⟩
        · cases looking.symm.trans ended
        · exact empty
    · intro b member none
      obtain ⟨other, found, broken⟩ := brought.broken b member none
      exact ⟨other, stays found, broken⟩
    · intro b member wins
      cases brought.won b member wins with
      | held other found stage => exact .held other (stays found) stage
      | handled other found stage done => exact .handled other (stays found) stage done
      | gone done gone => exact .gone done gone
  | outside place b st is here =>
    refine ⟨brought.tried, brought.whole, brought.broken, fun x member wins => ?_⟩
    cases brought.won x member wins with
    | held other found stage => exact .held other found stage
    | handled other found stage done => exact .handled other found stage done
    | gone done gone => exact .gone done (fun inside => new _ inside gone (known.bids x member))
  | strides k lap r st p next after bid handed here racer station config goes =>
    refine brought.moved here goes (before.accepting st (List.mem_of_getElem? station)) (fun h told => ?_)
    exact calm.taken h (List.mem_append_right _ (told ▸ List.mem_singleton_self h))

/-! ### Whole races -/

theorem known_run {w : Race} (fresh : w.Fresh) (acts : List Act) :
    (w.run acts).Known (w.entries ++ w.arrivals acts) := by
  induction acts using List.reverseRecOn with
  | nil =>
    refine ⟨List.subset_append_left _ _, ?_, ?_, ?_⟩
    · simp [run, fresh.laps]
    · simp [run, fresh.laps]
    · simp [run, fresh.bids]
  | append_singleton acts a ih =>
    have next : w.run (acts ++ [a]) = (w.run acts).act a := run_append w acts [a]
    rw [next, arrivals_snoc, ← List.append_assoc]
    refine ih.act a (List.subset_append_left _ _) (fun e inside => ?_)
    by_cases old : e ∈ (w.run acts).entries
    · exact List.mem_append_left _ (ih.entries old)
    · exact List.mem_append_right _ (List.mem_filter.mpr ⟨inside, decide_eq_true old⟩)

theorem brought_run {w : Race} {acts : List Act} (fresh : w.Fresh) (calm : (w.run acts).Calm)
    (distinct : ((w.entries ++ w.arrivals acts).map DueEntry.lockKey).Nodup) : (w.run acts).Brought := by
  induction acts using List.reverseRecOn with
  | nil =>
    refine ⟨?_, ?_, ?_, ?_⟩
    · simp [run, fresh.laps]
    · simp [run, fresh.laps]
    · simp [run, fresh.bids]
    · simp [run, fresh.bids]
  | append_singleton acts a ih =>
    have next : w.run (acts ++ [a]) = (w.run acts).act a := run_append w acts [a]
    rw [arrivals_snoc, ← List.append_assoc, List.map_append] at distinct
    obtain ⟨earlier, _, apart⟩ := List.nodup_append.mp distinct
    rw [next] at calm ⊢
    refine (ih calm.before earlier).act (known_run fresh acts) calm (fun e inside old been => ?_)
    have arrived : e ∈ ((w.run acts).act a).entries.filter (· ∉ (w.run acts).entries) :=
      List.mem_filter.mpr ⟨inside, decide_eq_true old⟩
    exact apart _ (List.mem_map_of_mem been) _ (List.mem_map_of_mem arrived) rfl

/-- A lap that is over, in a race in which the engines take every message: each message that it fetched has been
taken by an engine once, from this lap or another, and is gone from the store. -/
private theorem taken_once {w : Race} {been : List DueEntry} (distinct : (been.map DueEntry.lockKey).Nodup)
    (known : w.Known been) (lawful : Bid.Lawful w.bids) (single : w.Single) (brought : w.Brought)
    (complete : ∀ lap ∈ w.laps, lap.poll.stage = .ended .complete) {lap : Lap} (member : lap ∈ w.laps) {e : DueEntry}
    {m : Message} (fetched : e ∈ lap.batch) (readable : e.message = .ok m) :
    (∃ h ∈ w.handovers, h.entry = e ∧ h.Taken m) ∧ w.handovers.countP (·.entry = e) = 1 ∧ e ∉ w.entries := by
  obtain ⟨k, here⟩ := List.mem_iff_getElem?.mp member
  -- somebody has won the lock of the entry
  have winner : ∃ b ∈ w.bids, b.entry = e ∧ b.answer = some true := by
    rcases brought.tried k lap e here fetched with left | ⟨b, inside, rfl, entry⟩
    · rw [brought.whole lap member (complete lap member)] at left
      cases left
    · cases told : b.answer with
      | none =>
        obtain ⟨other, found, broken⟩ := brought.broken b inside told
        cases broken.symm.trans (complete other (List.mem_of_getElem? found))
      | some answer =>
        cases answer with
        | true => exact ⟨b, inside, entry, told⟩
        | false =>
          obtain ⟨before, after, split⟩ := List.append_of_mem inside
          obtain ⟨c, earlier, key, wins⟩ := (lawful before b after split).mp told
          have there : c ∈ w.bids := split ▸ List.mem_append_left _ earlier
          have same := List.inj_on_of_nodup_map distinct (known.bids c there) (known.bids b inside) key
          exact ⟨c, there, same.trans entry, wins⟩
  obtain ⟨b, inside, rfl, wins⟩ := winner
  have handled : w.Handled b.entry ∧ b.entry ∉ w.entries := by
    cases brought.won b inside wins with
    | held other found stage => cases (complete other (List.mem_of_getElem? found)).symm.trans stage
    | handled other found stage => cases (complete other (List.mem_of_getElem? found)).symm.trans stage
    | gone done gone => exact ⟨done, gone⟩
  obtain ⟨⟨why, bad⟩ | ⟨h, handed, entry, m', taken⟩, gone⟩ := handled
  · cases bad.symm.trans readable
  · have same : m' = m := Except.ok.inj (taken.genuine.1.symm.trans (entry ▸ readable))
    refine ⟨⟨h, handed, entry, same ▸ taken⟩, Nat.le_antisymm ?_ ?_, gone⟩
    · refine Nat.le_trans (List.countP_mono_left (fun x _ here => ?_)) (single.countP_le_one b.entry.lockKey)
      rw [decide_eq_true_iff] at here ⊢
      rw [here]
    · exact List.countP_pos_iff.mpr ⟨h, handed, decide_eq_true entry⟩

/-- Racing pollers deliver each entry once. In a race that is over before any lock ends, whatever the order of
steps, each lock is won once at most, whoever comes later meets with a conflict and nobody else does, and at
most one entry of each lock is handed to an engine, once. If all entries have locks of their own, the engines
take every message and every poll has come to its end, each message that some poll has fetched has been taken by
an engine, handed over once and is gone from the store. -/
theorem entries_delivered_once {w : Race} {acts : List Act} {finish : Nat} (fresh : w.Fresh)
    (alone : ∀ place e ttl, .outside place (.claim e ttl) ∉ acts)
    (within : ∀ before, before <+: acts → w.count ≤ (w.run before).count ∧ (w.run before).count < finish)
    (patient : ∀ r ∈ w.racers, finish ≤ w.count + r.poller.config.lockTimeout.nanos) :
    let last := w.run acts
    (∀ key, last.bids.countP (·.Wins key) ≤ 1) ∧
      (∀ before b after, last.bids = before ++ b :: after →
        (b.answer = some false ↔ ∃ c ∈ before, c.Wins b.entry.lockKey)) ∧
      (∀ key, last.handovers.countP (·.entry.lockKey = key) ≤ 1) ∧
      (((w.entries ++ w.arrivals acts).map DueEntry.lockKey).Nodup → last.Calm →
        (∀ lap ∈ last.laps, lap.poll.stage = .ended .complete) →
        ∀ lap ∈ last.laps, ∀ e ∈ lap.batch, ∀ m, e.message = .ok m →
          (∃ h ∈ last.handovers, h.entry = e ∧ h.Taken m) ∧ last.handovers.countP (·.entry = e) = 1 ∧
            e ∉ last.entries) := by
  obtain ⟨fair, single⟩ := fair_run fresh alone within patient
  refine ⟨fair.lawful.countP_le_one, fair.lawful, single.countP_le_one, ?_⟩
  intro distinct calm complete lap member e fetched m readable
  exact taken_once distinct (known_run fresh acts) fair.lawful single (brought_run fresh calm distinct) complete member
    fetched readable

/-- Whether a poll is complete can be told by looking. -/
private instance : (stage : PollStage) → Decidable (stage = .ended .complete)
  | .ended .complete => .isTrue rfl
  | .ended (.failed _) | .ended .broken | .looking | .holding _ | .clearing _ => .isFalse (by simp)

/-- A station whose engine brings orders to one handler. -/
private def shop : Station where
  engine := .new ⟨.standard, .inProcess, .standard, .zero⟩
    ⟨Table.empty.insert ⟨"orders", "expire"⟩ [.new ⟨"orders", "expire"⟩ "closer"],
      Table.empty.insert "closer" (.new ⟨"orders", "expire"⟩ "closer")⟩ 0
  alarms := .none

/-- An order that is due. -/
private def order : Message := ⟨"request", ⟨"orders", "expire"⟩, [], 1, 0, 0, false, .timely, .epoch, none⟩

/-- Two pollers of two stations, and one order. -/
private def pair : Race where
  clock := .startedAt .epoch
  broker := { Broker.empty with store := DueStore.empty.schedule order .epoch }
  stations := [shop, shop]
  racers := [⟨⟨.standard, .empty⟩, 0⟩, ⟨⟨.standard, .empty⟩, 1⟩]
  laps := []
  bids := []
  handovers := []

/-- Both fetch the order before either claims it. -/
private def duel : List Act := [.beginLap 0, .beginLap 1, .go 1, .go 0, .go 1, .go 0, .go 1, .go 1]

theorem entries_delivered_once_duel :
    (pair.run duel).bids.map Bid.answer = [some true, some false] ∧ (pair.run duel).entries = [] ∧
      (pair.run duel).handovers.countP (·.entry = .ofMessage order .epoch) = 1 := by
  have fresh : pair.Fresh := ⟨rfl, rfl, rfl, by simp [pair, locks, DueStore.schedule, DueStore.insert, DueStore.empty]⟩
  -- all that is to be worked out of the run, at once
  obtain ⟨times, distinct, accepting, taken, complete, ⟨lap, member, fetched⟩, answers⟩ :
      (∀ before ∈ duel.inits, pair.count ≤ (pair.run before).count ∧ (pair.run before).count < 1) ∧
        ((pair.entries ++ pair.arrivals duel).map DueEntry.lockKey).Nodup ∧
        (∀ st ∈ (pair.run duel).stations, st.engine.isAccepting = true) ∧
        (∀ h ∈ (pair.run duel).handovers, h.result.isOk = true) ∧
        (∀ lap ∈ (pair.run duel).laps, lap.poll.stage = .ended .complete) ∧
        (∃ lap ∈ (pair.run duel).laps, .ofMessage order .epoch ∈ lap.batch) ∧
        (pair.run duel).bids.map Bid.answer = [some true, some false] ∧ (pair.run duel).entries = [] := by
    decide +kernel
  have calm : (pair.run duel).Calm := by
    refine ⟨accepting, fun h member => ?_⟩
    cases told : h.result with
    | ok n => exact ⟨n, rfl⟩
    | error why => simpa [told, Except.isOk, Except.toBool] using taken h member
  have within : ∀ before, before <+: duel → pair.count ≤ (pair.run before).count ∧ (pair.run before).count < 1 :=
    fun before part => times before ((List.mem_inits before duel).mpr part)
  obtain ⟨_, handed, _⟩ := (entries_delivered_once fresh (by simp [duel]) within (by decide +kernel)).2.2.2 distinct
    calm complete lap member _ fetched order (Message.decode_written (m := order) (by decide) (by decide))
  exact ⟨answers.1, answers.2, handed⟩

end Courier.Race
