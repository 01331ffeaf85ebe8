import Courier.Proofs.StrayRetries

/-!
Polls that go from their start to their end with nothing in between. If the engine takes messages and has room for
those of the whole batch, a poll serves every entry of its batch in turn: it passes over one whose lock is held, and
gets the lock of any other; it takes that entry out of the store, unless its target handler is unknown.
-/
namespace Courier

namespace Engine

theorem recipients_congr {e after : Engine} (same : after.registry = e.registry) (m : Message) :
    after.recipients m = e.recipients m := by
  unfold recipients
  rw [same]

/-- Whether an entry holds a message that is for a handler the engine does not know. -/
def refuses (e : Engine) (x : DueEntry) : Bool :=
  match x.message with
  | .ok m => (e.recipients m).isNone
  | .error _ => false

/-- How many deliveries the message of an entry comes to. -/
def load (e : Engine) (x : DueEntry) : Nat :=
  match x.message with
  | .ok m => ((e.recipients m).map List.length).getD 0
  | .error _ => 0

theorem refuses_congr {e after : Engine} (same : after.registry = e.registry) (x : DueEntry) :
    after.refuses x = e.refuses x := by
  unfold refuses
  cases x.message with
  | error why => rfl
  | ok m => simp only [recipients_congr same]

theorem load_congr {e after : Engine} (same : after.registry = e.registry) (x : DueEntry) : after.load x = e.load x := by
  unfold load
  cases x.message with
  | error why => rfl
  | ok m => simp only [recipients_congr same]

end Engine

/-! ### The steps of a poll -/

namespace Poll

/-- The entry whose lock a poll gets with a step. -/
def gains? (poll next : Poll) : Option DueEntry :=
  match poll.stage, next.stage with
  | .looking, .holding x => some x
  | _, _ => none

end Poll

/-- A poll under way, with what it has handed to the engine and the entries whose locks it has got. -/
structure Tour where
  poll : Poll
  poller : Poller
  system : System
  handed : List Handover
  granted : List DueEntry

namespace Tour

/-- The poll does its next step. -/
def go (t : Tour) : Tour :=
  let (poll, poller, system) := t.poll.step System.surroundings t.poller t.system
  { poll, poller, system
    handed := t.handed ++ (Depot.handover? t.poll t.poller t.system).toList
    granted := t.granted ++ (t.poll.gains? poll).toList }

/-- The record leaves the poll as it is. -/
theorem steps_eq (n : Nat) (t : Tour) :
    t.poll.steps System.surroundings n t.poller t.system = ((go^[n] t).poll, (go^[n] t).poller, (go^[n] t).system) := by
  induction n generalizing t with
  | zero => rfl
  | succ n ih =>
    rw [Function.iterate_succ_apply]
    exact ih t.go

/-- Where a tour is. -/
structure Stands (t : Tour) (config : PollConfig) (stage : PollStage) (rest : List DueEntry) (system : System)
    (handed : List Handover) (granted : List DueEntry) : Prop where
  config : t.poller.config = config
  stage : t.poll.stage = stage
  rest : t.poll.rest = rest
  system : t.system = system
  handed : t.handed = handed
  granted : t.granted = granted

section Steps
variable {t : Tour} {config : PollConfig} {x : DueEntry} {rest : List DueEntry} {s : System} {hs : List Handover}
  {gs : List DueEntry}

theorem Stands.go_ended {how : PollEnd} (stands : t.Stands config (.ended how) rest s hs gs) :
    t.go.Stands config (.ended how) rest s hs gs := by
  obtain ⟨⟨report, _, seen, _⟩, poller, _, _, _⟩ := t
  obtain ⟨rfl, rfl, rfl, rfl, rfl, rfl⟩ := stands
  simp only [go, Poll.step, Depot.handover?, Poll.gains?, Option.toList_none, List.append_nil]
  exact ⟨rfl, rfl, rfl, rfl, rfl, rfl⟩

theorem Stands.go_nil (stands : t.Stands config .looking [] s hs gs) :
    t.go.Stands config (.ended .complete) [] s hs gs := by
  obtain ⟨⟨report, _, seen, _⟩, poller, _, _, _⟩ := t
  obtain ⟨rfl, rfl, rfl, rfl, rfl, rfl⟩ := stands
  simp only [go, Poll.step, Poll.close, Depot.handover?, Poll.gains?, Option.toList_none, List.append_nil]
  exact ⟨rfl, rfl, rfl, rfl, rfl, rfl⟩

theorem Stands.go_locked (stands : t.Stands config .looking (x :: rest) s hs gs)
    (accepting : s.engine.isAccepting = true) (locked : s.broker.store.isLocked x s.count = true) :
    t.go.Stands config .looking rest (s.claim x config.lockTimeout).2 hs gs := by
  obtain ⟨⟨report, _, seen, _⟩, poller, _, _, _⟩ := t
  obtain ⟨rfl, rfl, rfl, rfl, rfl, rfl⟩ := stands
  simp only at accepting locked
  simp only [go, Poll.step, System.surroundings, accepting, if_true, Poll.claim, System.claim, DueStore.claim, locked,
    Option.map_some, Depot.handover?, Poll.gains?, Option.toList_none, List.append_nil]
  exact ⟨rfl, rfl, rfl, rfl, rfl, rfl⟩

theorem Stands.go_free (stands : t.Stands config .looking (x :: rest) s hs gs)
    (accepting : s.engine.isAccepting = true) (free : s.broker.store.isLocked x s.count = false)
    (tellable : Timer.isTellable config.lockTimeout = true) :
    t.go.Stands config (.holding x) rest (s.claim x config.lockTimeout).2 hs (gs ++ [x]) := by
  obtain ⟨⟨report, _, seen, _⟩, poller, _, _, _⟩ := t
  obtain ⟨rfl, rfl, rfl, rfl, rfl, rfl⟩ := stands
  simp only at accepting free tellable
  simp only [go, Poll.step, System.surroundings, accepting, if_true, Poll.claim, System.claim, DueStore.claim, free,
    tellable, Bool.false_eq_true, if_false, Option.map_some, Depot.handover?, Poll.gains?, Option.toList_none,
    List.append_nil]
  exact ⟨rfl, rfl, rfl, rfl, rfl, rfl⟩

theorem Stands.go_unreadable (stands : t.Stands config (.holding x) rest s hs gs) {why : TransportError}
    (bad : x.message = .error why) : t.go.Stands config (.clearing x) rest s hs gs := by
  obtain ⟨⟨report, _, seen, _⟩, poller, _, _, _⟩ := t
  obtain ⟨rfl, rfl, rfl, rfl, rfl, rfl⟩ := stands
  simp only [go, Poll.step, Poll.hand, bad, Depot.handover?, Poll.gains?, Option.toList_none, List.append_nil]
  exact ⟨rfl, rfl, rfl, rfl, rfl, rfl⟩

theorem Stands.go_refused (stands : t.Stands config (.holding x) rest s hs gs) {m : Message}
    (readable : x.message = .ok m) (unknown : s.engine.recipients m = none) :
    ∃ h : Handover, h.entry = x ∧ t.go.Stands config .looking rest s (hs ++ [h]) gs := by
  obtain ⟨⟨report, _, seen, _⟩, poller, s, _, _⟩ := t
  obtain ⟨rfl, rfl, rfl, rfl, rfl, rfl⟩ := stands
  simp only at unknown
  generalize toldIs : { m with pollingCount := raise m.pollingCount (poller.seenInVain x + 1) } = told
  have same : s.engine.recipients told = none := by
    rw [← toldIs]
    exact unknown
  obtain ⟨handler, _, answer⟩ := Engine.dispatch_of_unknown same s.now
  refine ⟨⟨x, told, s.now, s.engine, .error (.unknownHandler handler), s.engine⟩, rfl, ?_⟩
  have final : (DeliveryError.unknownHandler handler).isBackpressure = false := rfl
  simp only [go, Poll.step, Poll.hand, readable, System.surroundings, System.dispatch, toldIs, answer, final,
    Bool.false_eq_true, if_false, Depot.handover?, Poll.gains?, Option.toList_none, Option.toList_some, List.append_nil]
  exact ⟨rfl, rfl, rfl, rfl, rfl, rfl⟩

theorem Stands.go_taken (stands : t.Stands config (.holding x) rest s hs gs) {m : Message}
    (readable : x.message = .ok m) {ts : List Trigger} (known : s.engine.recipients m = some ts)
    (accepting : s.engine.isAccepting = true)
    (room : s.engine.pool.outstanding + ts.length ≤ s.engine.pool.config.capacity) :
    ∃ h : Handover, h.entry = x ∧ h.Taken m ∧ h.after.registry = s.engine.registry ∧
      h.after.isAccepting = true ∧ h.after.pool.config = s.engine.pool.config ∧
      h.after.pool.outstanding = s.engine.pool.outstanding + ts.length ∧
      t.go.Stands config (.clearing x) rest { s with engine := h.after } (hs ++ [h]) gs := by
  obtain ⟨⟨report, _, seen, _⟩, poller, s, _, _⟩ := t
  obtain ⟨rfl, rfl, rfl, rfl, rfl, rfl⟩ := stands
  simp only at known accepting room
  generalize toldIs : { m with pollingCount := raise m.pollingCount (poller.seenInVain x + 1) } = told
  have same : s.engine.recipients told = some ts := by
    rw [← toldIs]
    exact known
  obtain ⟨ok, count⟩ := Engine.dispatch_of_room same accepting room s.now
  have registry := (s.engine.keepsAs_dispatch told s.now).registry
  have open_ := (s.engine.accepting_dispatch told s.now).trans accepting
  have config := s.engine.poolConfig_dispatch told s.now
  generalize answerIs : s.engine.dispatch told s.now = answer at ok count registry open_ config
  obtain ⟨result, after⟩ := answer
  obtain rfl : result = .ok ts.length := ok
  have genuine : Handover.Genuine ⟨x, told, s.now, s.engine, .ok ts.length, after⟩ m :=
    ⟨readable, ⟨_, toldIs.symm⟩, answerIs⟩
  refine ⟨_, rfl, genuine.taken rfl, registry, open_, config, count, ?_⟩
  simp only [go, Poll.step, Poll.hand, readable, System.surroundings, System.dispatch, toldIs, answerIs,
    Depot.handover?, Poll.gains?, Option.toList_none, Option.toList_some, List.append_nil]
  exact ⟨rfl, rfl, rfl, rfl, rfl, rfl⟩

theorem Stands.go_clearing (stands : t.Stands config (.clearing x) rest s hs gs) :
    t.go.Stands config .looking rest (s.remove x).2 hs gs := by
  obtain ⟨⟨report, _, seen, _⟩, poller, _, _, _⟩ := t
  obtain ⟨rfl, rfl, rfl, rfl, rfl, rfl⟩ := stands
  simp only [go, Poll.step, Poll.clear, System.surroundings, Depot.handover?, Poll.gains?, Option.toList_none,
    List.append_nil]
  exact ⟨rfl, rfl, rfl, rfl, rfl, rfl⟩

end Steps
end Tour

/-! ### The service of a batch -/

/-- What serving the entries of a batch one after the other, with locks of some length, makes of a system; what is
handed to the engine, and which locks are got. -/
structure Served (ttl : Span) (s : System) (batch : List DueEntry) (after : System) (hs : List Handover)
    (gs : List DueEntry) : Prop where
  clock : after.clock = s.clock
  fetches : after.broker.store.fetchError = s.broker.store.fetchError
  registry : after.engine.registry = s.engine.registry
  accepting : after.engine.isAccepting = s.engine.isAccepting
  poolConfig : after.engine.pool.config = s.engine.pool.config
  outstanding : after.engine.pool.outstanding ≤ s.engine.pool.outstanding + (batch.map s.engine.load).sum
  granted : ∀ y, y ∈ gs ↔ y ∈ batch ∧ s.broker.store.isLocked y s.count = false ∧
    ∀ z ∈ batch, z.lockKey = y.lockKey → ¬ z.Precedes y
  locks : ∀ y c, after.broker.store.isLocked y c = true ↔
    if ∃ x ∈ gs, x.lockKey = y.lockKey then c < s.count + ttl.nanos else s.broker.store.isLocked y c = true
  entries : ∀ y, y ∈ after.broker.store.entries ↔
    y ∈ s.broker.store.entries ∧ ∀ x ∈ gs, x.SamePlace y → s.engine.refuses x = true
  handed : ∀ h ∈ hs, h.entry ∈ gs
  brought : ∀ x ∈ gs, ∀ m, x.message = .ok m → s.engine.refuses x = false → ∃ h ∈ hs, h.entry = x ∧ h.Taken m

theorem served_nil (ttl : Span) (s : System) : Served ttl s [] s [] [] := by
  refine ⟨rfl, rfl, rfl, rfl, rfl, Nat.le_refl _, ?_, ?_, ?_, ?_, ?_⟩ <;> simp

/-- The only entry of a batch gets its lock unless somebody has it. -/
theorem Served.mem_granted {ttl : Span} {s after : System} {x : DueEntry} {hs : List Handover} {gs : List DueEntry}
    (served : Served ttl s [x] after hs gs) (y : DueEntry) :
    y ∈ gs ↔ y = x ∧ s.broker.store.isLocked x s.count = false := by
  rw [served.granted]
  constructor
  · rintro ⟨member, free, _⟩
    obtain rfl := List.mem_singleton.mp member
    exact ⟨rfl, free⟩
  · rintro ⟨rfl, free⟩
    refine ⟨List.mem_singleton_self y, free, ?_⟩
    intro z member _
    rw [List.mem_singleton.mp member]
    exact DueEntry.Precedes.irrefl y

/-- Once an entry has been served somebody has its lock. -/
theorem Served.isLocked_iff {ttl : Span} (lasts : 0 < ttl.nanos) {s after : System} {x : DueEntry} {hs : List Handover}
    {gs : List DueEntry} (served : Served ttl s [x] after hs gs) (y : DueEntry) :
    after.broker.store.isLocked y s.count = true ↔
      s.broker.store.isLocked y s.count = true ∨ x.lockKey = y.lockKey := by
  rw [served.locks]
  split
  · rename_i got
    obtain ⟨z, member, same⟩ := got
    obtain rfl := ((served.mem_granted z).mp member).1
    exact iff_of_true (by omega) (.inr same)
  · rename_i got
    constructor
    · exact .inl
    · rintro (locked | same)
      · exact locked
      · rw [← s.broker.store.isLocked_congr same]
        refine Bool.of_not_eq_false ?_
        intro free
        exact got ⟨x, (served.mem_granted x).mpr ⟨rfl, free⟩, same⟩

/-- Of a batch that is in the store, those entries leave it whose locks are got, unless the engine refuses them. -/
theorem Served.mem_entries {ttl : Span} {s after : System} {batch gs : List DueEntry} {hs : List Handover}
    (served : Served ttl s batch after hs gs) (part : ∀ x ∈ batch, x ∈ s.broker.store.entries) {y : DueEntry} :
    y ∈ after.broker.store.entries ↔ y ∈ s.broker.store.entries ∧ (y ∈ gs → s.engine.refuses y = true) := by
  rw [served.entries]
  constructor
  · rintro ⟨inside, refused⟩
    exact ⟨inside, fun got => refused y got (.refl y)⟩
  · rintro ⟨inside, refused⟩
    refine ⟨inside, ?_⟩
    intro x got same
    rcases same.eq_or_collides with rfl | collides
    · exact refused got
    · exact absurd collides (DueStore.not_collides (part x ((served.granted x).mp got).1) inside)

section Cons
variable {ttl : Span} {s mid after : System} {x : DueEntry} {rest : List DueEntry} {hs hs' : List Handover}
  {gs gs' : List DueEntry}

/-- The locks that are got are those of the first entry and of the others that do not share it. -/
theorem Served.granted_cons (lasts : 0 < ttl.nanos) (ordered : (x :: rest).Pairwise DueEntry.Precedes)
    (first : Served ttl s [x] mid hs gs) (others : Served ttl mid rest after hs' gs') (y : DueEntry) :
    y ∈ gs ++ gs' ↔ y ∈ x :: rest ∧ s.broker.store.isLocked y s.count = false ∧
      ∀ z ∈ x :: rest, z.lockKey = y.lockKey → ¬ z.Precedes y := by
  obtain ⟨before, _⟩ := List.pairwise_cons.mp ordered
  have count : mid.count = s.count := System.count_congr first.clock
  have free : mid.broker.store.isLocked y mid.count = false ↔
      s.broker.store.isLocked y s.count = false ∧ x.lockKey ≠ y.lockKey := by
    rw [count, ← Bool.not_eq_true, first.isLocked_iff lasts y, not_or, Bool.not_eq_true]
  rw [List.mem_append, first.mem_granted, others.granted, free, List.mem_cons]
  constructor
  · rintro (⟨rfl, unlocked⟩ | ⟨member, ⟨unlocked, differs⟩, earlier⟩)
    · refine ⟨.inl rfl, unlocked, ?_⟩
      intro z member _ precedes
      rcases List.mem_cons.mp member with rfl | later
      · exact DueEntry.Precedes.irrefl z precedes
      · exact DueEntry.Precedes.irrefl z (precedes.trans (before z later))
    · refine ⟨.inr member, unlocked, ?_⟩
      intro z member same
      rcases List.mem_cons.mp member with rfl | later
      · exact absurd same differs
      · exact earlier z later same
  · rintro ⟨rfl | member, unlocked, earlier⟩
    · exact .inl ⟨rfl, unlocked⟩
    · refine .inr ⟨member, ⟨unlocked, ?_⟩, ?_⟩
      · intro same
        exact earlier x List.mem_cons_self same (before y member)
      · intro z later same
        exact earlier z (List.mem_cons_of_mem x later) same

/-- All locks that are got end at the same time. -/
theorem Served.isLocked_cons (first : Served ttl s [x] mid hs gs) (others : Served ttl mid rest after hs' gs')
    (y : DueEntry) (c : Nat) :
    after.broker.store.isLocked y c = true ↔
      if ∃ z ∈ gs ++ gs', z.lockKey = y.lockKey then c < s.count + ttl.nanos
      else s.broker.store.isLocked y c = true := by
  have count : mid.count = s.count := System.count_congr first.clock
  rw [others.locks, first.locks, count]
  by_cases later : ∃ z ∈ gs', z.lockKey = y.lockKey
  · obtain ⟨z, member, same⟩ := later
    rw [if_pos ⟨z, member, same⟩, if_pos ⟨z, List.mem_append_right _ member, same⟩]
  · by_cases sooner : ∃ z ∈ gs, z.lockKey = y.lockKey
    · obtain ⟨z, member, same⟩ := sooner
      rw [if_neg later, if_pos ⟨z, member, same⟩, if_pos ⟨z, List.mem_append_left _ member, same⟩]
    · have neither : ¬ ∃ z ∈ gs ++ gs', z.lockKey = y.lockKey := by
        rintro ⟨z, member, same⟩
        rcases List.mem_append.mp member with one | other
        · exact sooner ⟨z, one, same⟩
        · exact later ⟨z, other, same⟩
      rw [if_neg later, if_neg sooner, if_neg neither]

/-- To serve a batch is to serve its first entry and then the others. -/
theorem Served.cons (lasts : 0 < ttl.nanos) (ordered : (x :: rest).Pairwise DueEntry.Precedes)
    (first : Served ttl s [x] mid hs gs) (others : Served ttl mid rest after hs' gs') :
    Served ttl s (x :: rest) after (hs ++ hs') (gs ++ gs') := by
  have refuses (y : DueEntry) : mid.engine.refuses y = s.engine.refuses y := Engine.refuses_congr first.registry y
  have loads : mid.engine.load = s.engine.load := funext (Engine.load_congr first.registry)
  refine ⟨others.clock.trans first.clock, others.fetches.trans first.fetches, others.registry.trans first.registry,
    others.accepting.trans first.accepting, others.poolConfig.trans first.poolConfig, ?_,
    first.granted_cons lasts ordered others, first.isLocked_cons others, ?_, ?_, ?_⟩
  · have one := first.outstanding
    have more := others.outstanding
    rw [loads] at more
    simp only [List.map_cons, List.map_nil, List.sum_cons, List.sum_nil, Nat.add_zero] at one ⊢
    omega
  · intro y
    rw [others.entries, first.entries, and_assoc]
    simp only [refuses, List.mem_append, or_imp, forall_and]
  · intro h member
    rcases List.mem_append.mp member with sooner | later
    · exact List.mem_append_left _ (first.handed h sooner)
    · exact List.mem_append_right _ (others.handed h later)
  · intro y member m readable known
    rcases List.mem_append.mp member with sooner | later
    · obtain ⟨h, inside, taken⟩ := first.brought y sooner m readable known
      exact ⟨h, List.mem_append_left _ inside, taken⟩
    · obtain ⟨h, inside, taken⟩ := others.brought y later m readable ((refuses y).trans known)
      exact ⟨h, List.mem_append_right _ inside, taken⟩

end Cons

/-! ### The service of one entry -/

section One
variable {ttl : Span} {s after : System} {x : DueEntry} {hs : List Handover}

/-- An entry whose lock is held is passed over. -/
theorem served_locked (ttl : Span) (locked : s.broker.store.isLocked x s.count = true) :
    Served ttl s [x] (s.claim x ttl).2 [] [] := by
  have claimed : (s.claim x ttl).2 =
      s.withStore { s.broker.store with claimAttempts := s.broker.store.claimAttempts + 1 } := by
    simp only [System.claim, DueStore.claim, locked, if_true]
  rw [claimed]
  refine ⟨rfl, rfl, rfl, rfl, rfl, Nat.le_add_right _ _, ?_, ?_, ?_, ?_, ?_⟩
  · intro y
    simp only [List.not_mem_nil, List.mem_singleton, false_iff, not_and]
    rintro rfl free
    rw [locked] at free
    cases free
  · intro y c
    simp only [List.not_mem_nil, false_and, exists_false, if_false]
    rfl
  · intro y
    simp only [List.not_mem_nil, false_implies, implies_true, and_true]
    rfl
  · intro h member
    cases member
  · intro y member
    cases member

/-- An entry whose lock is free is locked, and it leaves the store unless the engine refuses it. -/
theorem served_free (free : s.broker.store.isLocked x s.count = false) (clock : after.clock = s.clock)
    (fetches : after.broker.store.fetchError = s.broker.store.fetchError)
    (registry : after.engine.registry = s.engine.registry)
    (accepting : after.engine.isAccepting = s.engine.isAccepting)
    (poolConfig : after.engine.pool.config = s.engine.pool.config)
    (outstanding : after.engine.pool.outstanding ≤ s.engine.pool.outstanding + s.engine.load x)
    (locks : after.broker.store.locks = s.broker.store.locks.insert x.lockKey (s.count + ttl.nanos))
    (entries : ∀ y, y ∈ after.broker.store.entries ↔
      y ∈ s.broker.store.entries ∧ (x.SamePlace y → s.engine.refuses x = true))
    (handed : ∀ h ∈ hs, h.entry = x)
    (brought : ∀ m, x.message = .ok m → s.engine.refuses x = false → ∃ h ∈ hs, h.entry = x ∧ h.Taken m) :
    Served ttl s [x] after hs [x] := by
  refine ⟨clock, fetches, registry, accepting, poolConfig, ?_, ?_, ?_, ?_, ?_, ?_⟩
  · simpa using outstanding
  · intro y
    constructor
    · intro member
      obtain rfl := List.mem_singleton.mp member
      refine ⟨member, free, ?_⟩
      intro z inside _
      rw [List.mem_singleton.mp inside]
      exact DueEntry.Precedes.irrefl y
    · exact And.left
  · intro y c
    simp only [List.mem_singleton, exists_eq_left]
    rw [DueStore.isLocked, locks, Table.get?_insert]
    by_cases same : x.lockKey = y.lockKey
    · simp [same]
    · simp [same, DueStore.isLocked]
  · intro y
    simpa using entries y
  · intro h member
    exact List.mem_singleton.mpr (handed h member)
  · intro y member m readable known
    obtain rfl := List.mem_singleton.mp member
    exact brought m readable known

end One

/-- A system in which the lock of an entry has just been got. -/
def System.withLock (s : System) (x : DueEntry) (ttl : Span) : System :=
  s.withStore { s.broker.store with
    claimAttempts := s.broker.store.claimAttempts + 1
    locks := s.broker.store.locks.insert x.lockKey (s.count + ttl.nanos) }

theorem System.claim_of_free {s : System} {x : DueEntry} {ttl : Span}
    (free : s.broker.store.isLocked x s.count = false) (tellable : Timer.isTellable ttl = true) :
    (s.claim x ttl).2 = s.withLock x ttl := by
  simp only [System.claim, DueStore.claim, free, tellable, Bool.false_eq_true, if_false, if_true, System.withLock]

namespace Tour

section Serve
variable {t : Tour} {config : PollConfig} {x : DueEntry} {rest : List DueEntry} {s : System} {hs : List Handover}
  {gs : List DueEntry}

theorem Stands.serve_unreadable
    (holding : t.Stands config (.holding x) rest (s.withLock x config.lockTimeout) hs gs)
    (free : s.broker.store.isLocked x s.count = false) {why : TransportError} (bad : x.message = .error why) :
    ∃ after, Served config.lockTimeout s [x] after [] [x] ∧ (go^[2] t).Stands config .looking rest after hs gs := by
  have known : s.engine.refuses x = false := by simp only [Engine.refuses, bad]
  refine ⟨_, ?_, (holding.go_unreadable bad).go_clearing⟩
  refine served_free free rfl rfl rfl rfl rfl (Nat.le_add_right _ _) rfl ?_ ?_ ?_
  · intro y
    simp [System.remove, System.withLock, DueStore.mem_remove, known]
  · intro h member
    exact absurd member List.not_mem_nil
  · intro m readable _
    rw [bad] at readable
    exact absurd readable (by simp)

theorem Stands.serve_refused (holding : t.Stands config (.holding x) rest (s.withLock x config.lockTimeout) hs gs)
    (free : s.broker.store.isLocked x s.count = false) {m : Message} (readable : x.message = .ok m)
    (unknown : s.engine.recipients m = none) :
    ∃ after h, Served config.lockTimeout s [x] after [h] [x] ∧
      t.go.Stands config .looking rest after (hs ++ [h]) gs := by
  have refused : s.engine.refuses x = true := by
    simp only [Engine.refuses, readable, unknown, Option.isNone_none]
  obtain ⟨h, entry, looking⟩ := holding.go_refused readable unknown
  refine ⟨_, h, ?_, looking⟩
  refine served_free free rfl rfl rfl rfl rfl (Nat.le_add_right _ _) rfl ?_ ?_ ?_
  · intro y
    simp [refused, System.withLock]
  · intro h' member
    rw [List.mem_singleton.mp member]
    exact entry
  · intro m' _ known
    rw [refused] at known
    cases known

theorem Stands.serve_taken (holding : t.Stands config (.holding x) rest (s.withLock x config.lockTimeout) hs gs)
    (free : s.broker.store.isLocked x s.count = false) (accepting : s.engine.isAccepting = true)
    (room : s.engine.pool.outstanding + s.engine.load x ≤ s.engine.pool.config.capacity) {m : Message}
    (readable : x.message = .ok m) {ts : List Trigger} (recipients : s.engine.recipients m = some ts) :
    ∃ after h, Served config.lockTimeout s [x] after [h] [x] ∧
      (go^[2] t).Stands config .looking rest after (hs ++ [h]) gs := by
  have known : s.engine.refuses x = false := by
    simp only [Engine.refuses, readable, recipients, Option.isNone_some]
  have load : s.engine.load x = ts.length := by
    simp only [Engine.load, readable, recipients, Option.map_some, Option.getD_some]
  rw [load] at room
  obtain ⟨h, entry, taken, registry, open_, poolConfig, count, clearing⟩ :=
    holding.go_taken readable recipients accepting room
  refine ⟨_, h, ?_, clearing.go_clearing⟩
  refine served_free free rfl rfl registry (open_.trans accepting.symm) poolConfig ?_ rfl ?_ ?_ ?_
  · rw [load]
    exact Nat.le_of_eq count
  · intro y
    simp [System.remove, System.withLock, DueStore.mem_remove, known]
  · intro h' member
    rw [List.mem_singleton.mp member]
    exact entry
  · intro m' found _
    rw [readable] at found
    cases found
    exact ⟨h, List.mem_singleton_self h, entry, taken⟩

/-- The first of the entries that are left is served within three steps. -/
theorem Stands.serve (stands : t.Stands config .looking (x :: rest) s hs gs)
    (accepting : s.engine.isAccepting = true) (tellable : Timer.isTellable config.lockTimeout = true)
    (room : s.engine.pool.outstanding + s.engine.load x ≤ s.engine.pool.config.capacity) :
    ∃ n ≤ 3, ∃ after hs' gs', Served config.lockTimeout s [x] after hs' gs' ∧
      (go^[n] t).Stands config .looking rest after (hs ++ hs') (gs ++ gs') := by
  cases locked : s.broker.store.isLocked x s.count with
  | true =>
    refine ⟨1, by decide, _, [], [], served_locked config.lockTimeout locked, ?_⟩
    simpa using stands.go_locked accepting locked
  | false =>
    have holding := stands.go_free accepting locked tellable
    rw [System.claim_of_free locked tellable] at holding
    cases readable : x.message with
    | error why =>
      obtain ⟨after, served, looking⟩ := holding.serve_unreadable locked readable
      exact ⟨3, by decide, after, [], [x], served, (List.append_nil hs).symm ▸ looking⟩
    | ok m =>
      cases recipients : s.engine.recipients m with
      | none =>
        obtain ⟨after, h, served, looking⟩ := holding.serve_refused locked readable recipients
        exact ⟨2, by decide, after, [h], [x], served, looking⟩
      | some ts =>
        obtain ⟨after, h, served, looking⟩ := holding.serve_taken locked accepting room readable recipients
        exact ⟨3, by decide, after, [h], [x], served, looking⟩

end Serve

/-- All entries that are left are served, within three steps each, and the poll ends. -/
theorem Stands.serve_all {t : Tour} {config : PollConfig} {rest : List DueEntry} {s : System} {hs : List Handover}
    {gs : List DueEntry} (stands : t.Stands config .looking rest s hs gs) (lasts : 0 < config.lockTimeout.nanos)
    (tellable : Timer.isTellable config.lockTimeout = true) (ordered : rest.Pairwise DueEntry.Precedes)
    (accepting : s.engine.isAccepting = true)
    (room : s.engine.pool.outstanding + (rest.map s.engine.load).sum ≤ s.engine.pool.config.capacity) :
    ∃ n ≤ 3 * rest.length + 1, ∃ after hs' gs', Served config.lockTimeout s rest after hs' gs' ∧
      (go^[n] t).Stands config (.ended .complete) [] after (hs ++ hs') (gs ++ gs') := by
  induction rest generalizing t s hs gs with
  | nil =>
    refine ⟨1, by decide, s, [], [], served_nil _ s, ?_⟩
    simpa using stands.go_nil
  | cons x rest ih =>
    rw [List.map_cons, List.sum_cons] at room
    obtain ⟨n, few, mid, hs', gs', first, looking⟩ := stands.serve accepting tellable (by omega)
    have loads : mid.engine.load = s.engine.load := funext (Engine.load_congr first.registry)
    have count := first.outstanding
    rw [List.map_singleton, List.sum_singleton] at count
    have left : mid.engine.pool.outstanding + (rest.map mid.engine.load).sum ≤ mid.engine.pool.config.capacity := by
      rw [loads, first.poolConfig]
      omega
    obtain ⟨k, fewer, after, hs'', gs'', others, ended⟩ :=
      ih looking (List.pairwise_cons.mp ordered).2 (first.accepting.trans accepting) left
    refine ⟨k + n, ?_, after, hs' ++ hs'', gs' ++ gs'', first.cons lasts ordered others, ?_⟩
    · rw [List.length_cons]
      omega
    · rw [Function.iterate_add_apply, ← List.append_assoc, ← List.append_assoc]
      exact ended

/-- A poll that has ended does nothing more. -/
theorem Stands.idle {t : Tour} {config : PollConfig} {how : PollEnd} {rest : List DueEntry} {s : System}
    {hs : List Handover} {gs : List DueEntry} (stands : t.Stands config (.ended how) rest s hs gs) (n : Nat) :
    (go^[n] t).Stands config (.ended how) rest s hs gs := by
  induction n generalizing t with
  | zero => exact stands
  | succ n ih => exact ih stands.go_ended

end Tour

/-! ### Whole polls -/

/-- Whether a poll can serve all the entries that it finds: the engine takes messages and has room for theirs, the
store can be looked at, and the end of a lock can be told. -/
structure System.Ready (s : System) (config : PollConfig) : Prop where
  accepting : s.engine.isAccepting = true
  fetches : s.broker.store.fetchError = none
  tellable : Timer.isTellable config.lockTimeout = true
  room : s.engine.pool.outstanding + ((s.broker.store.due s.now config.batchSize).map s.engine.load).sum ≤
    s.engine.pool.config.capacity

instance (s : System) (config : PollConfig) : Decidable (s.Ready config) :=
  decidable_of_iff (s.engine.isAccepting = true ∧ s.broker.store.fetchError = none ∧
      Timer.isTellable config.lockTimeout = true ∧
      s.engine.pool.outstanding + ((s.broker.store.due s.now config.batchSize).map s.engine.load).sum ≤
        s.engine.pool.config.capacity)
    ⟨fun ⟨accepting, fetches, tellable, room⟩ => ⟨accepting, fetches, tellable, room⟩,
      fun ready => ⟨ready.accepting, ready.fetches, ready.tellable, ready.room⟩⟩

namespace Poller

/-- A poller starts with settings that it can work with; so its locks last for some time. -/
theorem new_ok {config : PollConfig} {p : Poller} (made : new config = .ok p) :
    p = ⟨config, .empty⟩ ∧ 0 < config.lockTimeout.nanos ∧ 0 < config.batchSize := by
  cases valid : config.validate with
  | error why => simp [new, valid, bind, Except.bind] at made
  | ok _ =>
    obtain ⟨outlasts, some⟩ := PollConfig.validate_ok valid
    have is : (⟨config, .empty⟩ : Poller) = p := by
      simpa [new, valid, bind, Except.bind, pure, Except.pure] using made
    exact ⟨is.symm, Nat.lt_of_le_of_lt (Nat.zero_le _) outlasts, some⟩

/-- A poll from its start to its end. -/
def tour (p : Poller) (s : System) : Tour :=
  match p.startPoll System.surroundings s with
  | .error _ => ⟨.ofBatch [], p, s, [], []⟩
  | .ok poll => Tour.go^[3 * poll.rest.length + 1] ⟨poll, p, s, [], []⟩

theorem pollOnce_eq_tour (p : Poller) (s : System) :
    (p.pollOnce System.surroundings s).2.2 = ((p.tour s).poller, (p.tour s).system) := by
  unfold pollOnce tour
  cases p.startPoll System.surroundings s with
  | error why => rfl
  | ok poll =>
    have steps := Tour.steps_eq (3 * poll.rest.length + 1) ⟨poll, p, s, [], []⟩
    simp only [Poll.finish, steps]
    split <;> rfl

/-- A poll that can serve all entries it finds does so. -/
theorem tour_served (p : Poller) {s : System} (ready : s.Ready p.config) (lasts : 0 < p.config.lockTimeout.nanos) :
    (p.tour s).poller.config = p.config ∧
      Served p.config.lockTimeout s (s.broker.store.due s.now p.config.batchSize) (p.tour s).system (p.tour s).handed
        (p.tour s).granted := by
  generalize batchIs : s.broker.store.due s.now p.config.batchSize = batch
  have started : p.startPoll System.surroundings s = .ok (.ofBatch batch) := by
    have accepting : System.surroundings.isAccepting s = true := ready.accepting
    have fetched : System.surroundings.fetch s (System.surroundings.now s) p.config.batchSize = .ok batch := by
      show s.broker.store.fetch s.now p.config.batchSize = _
      rw [DueStore.fetch, ready.fetches, batchIs]
    simp only [startPoll, accepting, fetched, if_true]
    rfl
  have ordered : batch.Pairwise DueEntry.Precedes := by
    refine s.broker.store.ordered.sublist ?_
    rw [← batchIs]
    exact (List.take_sublist _ _).trans (List.takeWhile_sublist _)
  have stands : (⟨.ofBatch batch, p, s, [], []⟩ : Tour).Stands p.config .looking batch s [] [] :=
    ⟨rfl, rfl, rfl, rfl, rfl, rfl⟩
  obtain ⟨n, few, after, hs, gs, served, ended⟩ :=
    stands.serve_all lasts ready.tellable ordered ready.accepting (batchIs ▸ ready.room)
  obtain ⟨more, total⟩ := Nat.exists_eq_add_of_le few
  have last := ended.idle more
  rw [← Function.iterate_add_apply, Nat.add_comm more n, ← total] at last
  have is : p.tour s = Tour.go^[3 * batch.length + 1] ⟨.ofBatch batch, p, s, [], []⟩ := by
    simp only [tour, started]
    rfl
  rw [is, last.system, last.handed, last.granted]
  exact ⟨last.config, served⟩

end Poller
end Courier
