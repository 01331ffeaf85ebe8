import Courier.Proofs.JourneyActs
import Courier.Proofs.Shares
import Courier.Proofs.StrayRetries

/-!
A message on its way to all handlers of its topic at once. An engine, a due store and a poller are at work, together
with other tasks of the pool; workers, alarms, the poller and time move in any order, and alarms past what the clock
can count go off as well. Each handler has one token at most, wherever it is, and no entry of the store holds what
another one has held before (`InOrder`); so nobody but the poller ever has the lock of an entry, and the poller sees
none in vain (`Post.Tidy`).
-/
namespace Courier

/-! ### Registries -/

namespace Registry

/-- Registries that come about by registrations. -/
inductive Built : Registry → Prop
  | empty : Built .empty
  | register {r after : Registry} {t : Trigger} (built : Built r) (taken : r.register t = .ok after) : Built after

/-- A registry in which each handler has one trigger. -/
structure Lawful (r : Registry) : Prop where
  distinct : ∀ topic, ((r.triggersFor topic).map Trigger.handlerId).Nodup
  found : ∀ topic, ∀ t ∈ r.triggersFor topic, r.find t.handlerId = some t

private theorem Lawful.register {r after : Registry} {t : Trigger} (lawful : r.Lawful)
    (taken : r.register t = .ok after) : after.Lawful := by
  by_cases known : r.byHandler.contains t.handlerId = true
  · simp [Registry.register, known] at taken
  have after_ : (⟨r.byTopic.insert t.topic (r.triggersFor t.topic ++ [t]), r.byHandler.insert t.handlerId t⟩ : Registry) =
      after := by simpa [Registry.register, known] using taken
  have fresh (topic : Topic) (other : Trigger) (member : other ∈ r.triggersFor topic) : t.handlerId ≠ other.handlerId := by
    intro same
    exact known (Table.contains_eq_true_iff.mpr ⟨other, same ▸ lawful.found topic other member⟩)
  have triggers (topic : Topic) :
      after.triggersFor topic = if t.topic = topic then r.triggersFor topic ++ [t] else r.triggersFor topic := by
    rw [← after_]
    unfold triggersFor
    rw [Table.get?_insert]
    split
    · rename_i same
      rw [same]
      rfl
    · rfl
  refine ⟨fun topic => ?_, fun topic other member => ?_⟩
  · rw [triggers]
    split
    · rw [List.map_append]
      refine List.Nodup.append (lawful.distinct topic) (List.nodup_singleton _) ?_
      intro id inside last
      obtain ⟨other, member, same⟩ := List.mem_map.mp inside
      rw [List.mem_singleton.mp last] at same
      exact fresh topic other member same.symm
    · exact lawful.distinct topic
  · have lookup : after.find other.handlerId = if t.handlerId = other.handlerId then some t else r.find other.handlerId := by
      rw [← after_]
      exact Table.get?_insert ..
    have old (member : other ∈ r.triggersFor topic) : after.find other.handlerId = some other := by
      rw [lookup, if_neg (fresh topic other member)]
      exact lawful.found topic other member
    rw [triggers] at member
    split at member
    · rcases List.mem_append.mp member with inside | last
      · exact old inside
      · rw [lookup, List.mem_singleton.mp last]
        exact if_pos rfl
    · exact old member

theorem Built.lawful {r : Registry} (built : Built r) : r.Lawful := by
  induction built with
  | empty => exact ⟨fun topic => List.nodup_nil, fun topic t member => nomatch member⟩
  | register built taken ih => exact ih.register taken

end Registry

/-! ### Tokens of several handlers -/

/-- Whether a token is the only one of a handler, or the handler has none. -/
def Lies (tokens : List Token) (handler : String) : Option Token → Prop
  | some token => token ∈ tokens ∧ token.handler = some handler
  | none => ∀ token ∈ tokens, token.handler ≠ some handler

/-- Tokens for known handlers, one for each at most, given which entries the store has held: a message that may be
stored next has failed more often than those that were stored before. -/
structure InOrder (registry : Registry) (been : List DueEntry) (tokens : List Token) : Prop where
  known : ∀ token ∈ tokens, token.Known registry
  single : (tokens.map Token.handler).Nodup
  dated : ∀ token ∈ tokens, ∀ x ∈ been, x.addressee? = token.handler → x.failures < token.level ∨ token = .stored x

namespace InOrder

variable {registry : Registry} {been later : List DueEntry} {tokens after rest : List Token} {old : Token}
  {new? : Option Token}

theorem of_perm (order : InOrder registry been tokens) (now : after.Perm tokens) (less : later ⊆ been) :
    InOrder registry later after where
  known token member := order.known token (now.mem_iff.mp member)
  single := (now.map Token.handler).nodup_iff.mpr order.single
  dated token member x stood := order.dated token (now.mem_iff.mp member) x (less stood)

/-- A handler has one token at most. -/
theorem unique (order : InOrder registry been tokens) {a b : Token} (first : a ∈ tokens) (second : b ∈ tokens)
    (same : a.handler = b.handler) : a = b :=
  List.inj_on_of_nodup_map order.single first second same

theorem handler_ne (order : InOrder registry been tokens) (before : tokens.Perm (old :: rest)) {token : Token}
    (member : token ∈ rest) : token.handler ≠ old.handler := by
  have distinct := (before.map Token.handler).nodup_iff.mp order.single
  intro same
  exact (List.nodup_cons.mp distinct).1 (same ▸ List.mem_map_of_mem member)

variable {policy : RetryPolicy} {route : RetryRoute} {ending : Ending} {draw : Float} {told : List DeliveryCall}

/-- When a token moves, the tokens stay in order. -/
theorem move (order : InOrder registry been tokens) (before : tokens.Perm (old :: rest))
    (now : after.Perm (new?.toList ++ rest)) (move : Token.Move policy route registry ending draw old new? told)
    (more : ∀ x ∈ later, x ∈ been ∨ new? = some (.stored x)) : InOrder registry later after := by
  have inside : old ∈ tokens := before.mem_iff.mpr List.mem_cons_self
  have others {token : Token} (member : token ∈ rest) : token ∈ tokens :=
    before.mem_iff.mpr (List.mem_cons_of_mem _ member)
  have split {token : Token} (member : token ∈ after) : new? = some token ∨ token ∈ rest := by
    simpa [eq_comm] using now.mem_iff.mp member
  refine ⟨fun token member => ?_, ?_, fun token member x stood same => ?_⟩
  · rcases split member with rfl | member
    · exact move.known (order.known old inside)
    · exact order.known token (others member)
  · have distinct := (before.map Token.handler).nodup_iff.mp order.single
    rw [(now.map Token.handler).nodup_iff]
    cases new? with
    | none => exact (List.nodup_cons.mp distinct).2
    | some new =>
      show (new.handler :: rest.map Token.handler).Nodup
      rw [move.handler]
      exact distinct
  · rcases split member with rfl | member
    · rcases more x stood with stood | is
      · -- failures only go up, so that an entry held before stays behind
        obtain ⟨higher, past⟩ := move.level
        rcases order.dated old inside x stood (same.trans move.handler) with less | is
        · exact .inl (Nat.lt_of_lt_of_le less higher)
        · exact .inl (past x is)
      · exact .inr (Option.some.inj is)
    · rcases more x stood with stood | rfl
      · exact order.dated token (others member) x stood same
      · have twice : token.handler = old.handler := same.symm.trans move.handler
        exact absurd twice (order.handler_ne before member)

end InOrder

namespace Lies

variable {registry : Registry} {been : List DueEntry} {tokens after rest : List Token} {old : Token}
  {token? new? : Option Token} {handler : String}

theorem of_perm (lies : Lies tokens handler token?) (now : after.Perm tokens) : Lies after handler token? := by
  cases token? with
  | none => exact fun token member => lies token (now.mem_iff.mp member)
  | some token => exact ⟨now.mem_iff.mpr lies.1, lies.2⟩

/-- The token of another handler stays where it is. -/
theorem of_other (lies : Lies tokens handler token?) (before : tokens.Perm (old :: rest))
    (now : after.Perm (new?.toList ++ rest)) (kept : ∀ new ∈ new?, new.handler = old.handler)
    (other : old.handler ≠ some handler) : Lies after handler token? := by
  cases token? with
  | none =>
    intro token member
    rcases List.mem_append.mp (now.mem_iff.mp member) with new | stays
    · rw [kept token (Option.mem_toList.mp new)]
      exact other
    · exact lies token (before.mem_iff.mpr (List.mem_cons_of_mem _ stays))
  | some token =>
    refine ⟨now.mem_iff.mpr (List.mem_append_right _ ?_), lies.2⟩
    rcases List.mem_cons.mp (before.mem_iff.mp lies.1) with rfl | stays
    · exact absurd lies.2 other
    · exact stays

/-- The token of the handler becomes the new one. -/
theorem of_same (order : InOrder registry been tokens) (lies : Lies tokens handler token?)
    (before : tokens.Perm (old :: rest)) (now : after.Perm (new?.toList ++ rest))
    (kept : ∀ new ∈ new?, new.handler = old.handler) (same : old.handler = some handler) :
    token? = some old ∧ Lies after handler new? := by
  have inside : old ∈ tokens := before.mem_iff.mpr List.mem_cons_self
  constructor
  · cases token? with
    | none => exact absurd same (lies old inside)
    | some token => rw [order.unique lies.1 inside (lies.2.trans same.symm)]
  · cases new? with
    | none =>
      intro token member
      rw [← same]
      exact order.handler_ne before (now.mem_iff.mp member)
    | some new =>
      exact ⟨now.mem_iff.mpr List.mem_cons_self, (kept new rfl).trans same⟩

end Lies

/-! ### Mailings -/

/-- A system and its poller with the last poll, all calls that were made with the handlers that they concern, and
all entries that the store has held. -/
structure Post where
  system : System
  poller : Poller
  poll : Poll
  calls : List (String × DeliveryCall)
  been : List DueEntry

namespace Post

/-- The store's entries. -/
def entries (w : Post) : List DueEntry := w.system.broker.store.entries

/-- The entries that are not about to be taken out. -/
def standing (w : Post) : List DueEntry :=
  w.entries.filter (fun x => match w.poll.stage with | .clearing e => ¬ e.SamePlace x | _ => true)

/-- The tokens that are not in the pool. -/
def waiting (w : Post) : List Token :=
  w.system.engine.pending.entries.map (fun entry => .pending entry.1 entry.2) ++ w.standing.map .stored

def tokens (w : Post) : List Token := w.system.engine.pool.deliveries.map .delivery ++ w.waiting

/-- What a handler has seen: the messages that it was called with, and the end if it was told. -/
def seenBy (w : Post) (handler : String) : List DeliveryCall :=
  seen ((w.calls.filter (fun call => call.1 = handler)).map Prod.snd)

/-- How often a handler was called. -/
def handled (w : Post) (handler : String) : Nat := handlerCalls (w.seenBy handler)

/-- After some more calls that concern a handler. -/
def told (w : Post) (handler : String) (calls : List DeliveryCall) : Post :=
  { w with calls := w.calls ++ calls.map (fun call => (handler, call)) }

/-- When it has been noted what the store holds. -/
def noted (w : Post) : Post := { w with been := w.been ++ w.entries }

/-- The poller does the next step of its poll, or starts a new one. -/
def goOn (w : Post) : Post :=
  let next := (⟨w.system, w.poller, w.poll, []⟩ : Journey).goOn
  { w with system := next.system, poller := next.poller, poll := next.poll }

/-- Whether nothing is left to do. -/
def Settled (w : Post) : Prop :=
  w.system.engine.pool.deliveries = [] ∧ w.system.engine.pending.entries = [] ∧ w.entries = []

/-- Whether digests tell apart the members that the store has held. -/
def Distinct (w : Post) : Prop := ∀ x ∈ w.been, ∀ y ∈ w.been, x.lockKey = y.lockKey → x.member = y.member

instance (w : Post) : Decidable w.Distinct := inferInstanceAs (Decidable (∀ x ∈ w.been, ∀ y ∈ w.been, _))

theorem seenBy_told (w : Post) (handler other : String) (calls : List DeliveryCall) :
    (w.told handler calls).seenBy other = w.seenBy other ++ if handler = other then seen calls else [] := by
  unfold seenBy told
  rw [List.filter_append, List.map_append, seen_append]
  congr 1
  by_cases same : handler = other <;> simp [List.filter_map, Function.comp_def, same, seen]

end Post

/-- A message that is sent to all handlers of its topic, how each call of each handler ends, the first call being
number one, and what chance draws if it fails. -/
structure Mailing where
  start : Instant
  config : EngineConfig
  registry : Registry
  interceptors : Nat
  polling : PollConfig
  message : Message
  endings : String → Nat → Ending
  chance : String → Nat → Float
  built : registry.Built
  untargeted : message.targetHandler = none
  /-- The pool has room for all deliveries of the message. -/
  roomy : (registry.triggersFor message.topic).length ≤ config.pool.capacity

namespace Mailing

/-- Something that may happen on the way. -/
inductive Act
  | occupy (name : String) (limit : Nat)
  | pickUp
  /-- A worker starts the delivery that it holds under a ticket. -/
  | start (ticket : Nat)
  /-- The handler that is at work under a ticket is done. -/
  | finish (ticket : Nat)
  | release (ticket : Nat)
  /-- The alarm at a place in the line goes off, if it is due. -/
  | ring (place : Nat) (draw : Float)
  /-- The alarm at a place in the line goes off, if no clock counts to its deadline. -/
  | outlast (place : Nat) (draw : Float)
  /-- The poller goes on with its poll, or starts a new one. -/
  | poll
  | passTo (count : Nat)

/-- The triggers of the message's topic. -/
def triggers (m : Mailing) : List Trigger := m.registry.triggersFor m.message.topic

/-- The share of a handler. -/
def share (m : Mailing) (t : Trigger) : Share where
  message := m.message
  policy := m.config.policy
  route := m.config.route
  trigger := t
  endings := m.endings t.handlerId
  breaks n := (m.config.policy.delay (bump^[n] m.message.failRetryCount) (m.chance t.handlerId n)).isNone

/-- How the call of the handler of a delivery ends that it is at. -/
def ending (m : Mailing) (w : Post) (d : Delivery) : Ending :=
  m.endings d.trigger.handlerId (w.handled d.trigger.handlerId)

/-- What chance draws if that call fails. -/
def draw (m : Mailing) (w : Post) (d : Delivery) : Float :=
  m.chance d.trigger.handlerId (w.handled d.trigger.handlerId)

/-- When the engine has just been told of the message. -/
def begun (m : Mailing) : Post where
  system := ((System.new m.start (.new m.config m.registry m.interceptors)).dispatch m.message).2
  poller := ⟨m.polling, .empty⟩
  poll := ⟨.empty, [], [], .ended .complete⟩
  calls := []
  been := []

/-- What happens next. An act that is not possible changes nothing. No interceptor takes a handler's place. -/
def next (m : Mailing) (w : Post) : Act → Post
  | .occupy name limit => { w with system := w.system.act (.occupy name limit) }
  | .pickUp => { w with system := w.system.act .pickUp }
  | .start ticket =>
    match w.system.engine.atWork? ticket with
    | some d =>
      if d.attempt.state = .delivering then w
      else
        let (system, calls, _) := w.system.start ticket d (fun _ _ => .proceed)
        { w with system }.told d.trigger.handlerId calls
    | none => w
  | .finish ticket =>
    match w.system.engine.atWork? ticket with
    | some d =>
      if d.attempt.state = .delivering then
        let (system, calls) := w.system.finish ticket d (m.ending w d).result (m.draw w d)
        { w with system }.told d.trigger.handlerId calls
      else w
    | none => w
  | .release ticket =>
    match w.system.engine.atWork? ticket with
    | some _ => w
    | none => { w with system := w.system.act (.release ticket) }
  | .ring place draw => { w with system := w.system.act (.ring place draw) }
  | .outlast place draw => { w with system := w.system.outlast place draw }
  | .poll => w.goOn
  | .passTo count => { w with system := w.system.act (.passTo count) }

/-- After an act. It is noted what the store holds. -/
def act (m : Mailing) (w : Post) (a : Act) : Post := (m.next w a).noted

/-- After some acts. -/
def run (m : Mailing) (acts : List Act) : Post := acts.foldl m.act m.begun

/-- Whether an act meets with a pool that is full, or with a wait that the broker cannot count. A retry that the
engine keeps may meet with a full pool: it waits on. -/
def strains (m : Mailing) (w : Post) : Act → Bool
  | .poll =>
    match w.poll.stage with
    | .holding _ => decide (w.system.engine.pool.config.capacity ≤ w.system.engine.pool.outstanding)
    | _ => false
  | .finish ticket =>
    match w.system.engine.atWork? ticket with
    | some d =>
      match (w.system.engine.finish ticket d (m.ending w d).result (m.draw w d)).2.2 with
      | some (_, wait) => decide (m.config.route = .delayStore ∧ Broker.longestDelay < wait.wholeSeconds)
      | none => false
    | none => false
  | _ => false

/-- Whether no act meets with a full pool or with a wait that the broker cannot count. -/
def calm (m : Mailing) : Post → List Act → Bool
  | _, [] => true
  | w, a :: rest => !m.strains w a && calm m (m.act w a) rest

end Mailing

/-! ### What never changes -/

namespace Post

/-- An engine that works as a mailing says. -/
structure Fit (m : Mailing) (engine : Engine) : Prop where
  config : engine.config = m.config
  registry : engine.registry = m.registry
  pool : engine.pool.Open
  numbered : ∀ id ∈ engine.pending.keys, id < engine.nextRetry

theorem Fit.of_keepsAs {m : Mailing} {engine after : Engine} (fit : Fit m engine) (keeps : engine.KeepsAs after)
    (open_ : after.pool.Open) : Fit m after where
  config := keeps.config.trans fit.config
  registry := keeps.registry.trans fit.registry
  pool := open_
  numbered := by
    rw [keeps.pending, keeps.nextRetry]
    exact fit.numbered

/-- A store and a poller that is the only one to look at it. It has looked at no entry in vain, and no entry is
locked but the one that it has at hand. -/
structure Tidy (w : Post) : Prop where
  stood : w.entries ⊆ w.been
  unseen : w.poller.observations = .empty
  coming : w.poll.rest ⊆ w.standing
  ordered : w.poll.rest.Pairwise DueEntry.Precedes
  holding : ∀ e, w.poll.stage = .holding e → e ∈ w.entries ∧ ∀ x ∈ w.poll.rest, e.Precedes x
  clearing : ∀ e, w.poll.stage = .clearing e → e ∈ w.been
  locked : ∀ key ∈ w.system.broker.store.locks.keys, ∃ x ∈ w.been, x.lockKey = key
  free : ∀ x ∈ w.standing, w.poll.stage ≠ .holding x → x.lockKey ∉ w.system.broker.store.locks.keys

/-- What holds all along. -/
structure Sound (m : Mailing) (w : Post) : Prop extends Fit m w.system.engine, Tidy w where
  publishes : w.system.broker.publishError = none
  order : InOrder m.registry w.been w.tokens

/-- What becomes of the tokens in one act: all stay where they are, or one of them moves. -/
inductive Turn (m : Mailing) (w after : Post) : Prop
  | rests (been : after.been ⊆ w.been) (tokens : after.tokens.Perm w.tokens)
      (seen : ∀ handler, after.seenBy handler = w.seenBy handler)
  | moves (old : Token) (new? : Option Token) {rest : List Token} {told : List DeliveryCall} {handler : String}
      (mine : old.handler = some handler) (before : w.tokens.Perm (old :: rest))
      (now : after.tokens.Perm (new?.toList ++ rest))
      (been : ∀ x ∈ after.been, x ∈ w.been ∨ new? = some (.stored x))
      (move : old.Move m.config.policy m.config.route m.registry (m.endings handler (w.handled handler))
        (m.chance handler (w.handled handler)) new? told)
      (seen : ∀ other, after.seenBy other = w.seenBy other ++ if handler = other then told else [])

theorem Turn.inOrder {m : Mailing} {w after : Post} (turn : Turn m w after)
    (order : InOrder m.registry w.been w.tokens) : InOrder m.registry after.been after.tokens := by
  cases turn with
  | rests been tokens seen => exact order.of_perm tokens been
  | moves old new? mine before now been move seen => exact order.move before now move been

end Post
end Courier
