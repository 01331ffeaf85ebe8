import Courier.Proofs.Envelopes
import Courier.Proofs.Tries
import Courier.Store.Entry

/-!
The share of one handler in a message. A message that goes to several handlers becomes one token for each of them:
a delivery in the pool, a retry that the engine keeps, or an entry of the due store. A token moves on its own
(`Move`), and what its handler is called with can be told from the share alone: the message, the retry policy,
where retries wait, the handler's trigger, how its calls end, and after which of them the policy breaks off. Wherever
the token is, the calls that were made are those of the share so far (`Share.At`).
-/
namespace Courier

/-! ### Tokens -/

/-- The message of an entry, whatever its counters. -/
def DueEntry.letter? (x : DueEntry) : Option Message := (Message.read x.member).toOption

/-- The only handler that is to see the message of an entry. -/
def DueEntry.addressee? (x : DueEntry) : Option String := x.letter?.bind Message.targetHandler

/-- How often the message of an entry has failed. -/
def DueEntry.failures (x : DueEntry) : Nat := (x.letter?.map (fun m => m.failRetryCount.toNat)).getD 0

theorem DueEntry.letter?_ofMessage (m : Message) (due : Instant) : (DueEntry.ofMessage m due).letter? = some m.told := by
  show (Message.read m.encode).toOption = _
  rw [Message.read_encode]
  rfl

/-- An entry can be brought to the engine if its message has been delivered once at least. -/
theorem DueEntry.message_of_letter {x : DueEntry} {m : Message} (letter : x.letter? = some m) :
    x.message = if m.deliverCount = 0 then .error (.serialization "deliver_count must be at least 1") else .ok m := by
  unfold letter? at letter
  unfold message Message.decode
  cases whole : Message.read x.member with
  | error fault =>
    rw [whole] at letter
    cases letter
  | ok found =>
    rw [whole] at letter
    cases letter
    rfl

/-- What keeps a message on its way to one handler. -/
inductive Token
  | delivery (d : Delivery)
  /-- A retry that the engine keeps, and its number. -/
  | pending (id : Nat) (d : Delivery)
  | stored (x : DueEntry)

namespace Token

/-- The handler that the message is for. -/
def handler : Token → Option String
  | .delivery d => some d.trigger.handlerId
  | .pending _ d => some d.trigger.handlerId
  | .stored x => x.addressee?

/-- The fewest failures with which the message can be stored. -/
def level : Token → Nat
  | .delivery d => d.message.failRetryCount.toNat + 1
  | .pending _ d => d.message.failRetryCount.toNat + 1
  | .stored x => x.failures

end Token

/-- Whether the next try of a delivery may start, and its message says if a failure came before. -/
def Delivery.Rests (d : Delivery) : Prop :=
  d.attempt.state = .pending ∨ (d.attempt.state = .retryScheduled ∧ d.message.isRetry = true)

theorem Delivery.Rests.isReady {d : Delivery} (rests : d.Rests) : d.attempt.IsReady := rests.imp_right And.left

/-- A try counts as a delivery of its own if the message says that a failure came before. -/
theorem Delivery.Rests.begun {d : Delivery} (rests : d.Rests) :
    (if d.attempt.isRedelivery d.message then { d.message with deliverCount := bump d.message.deliverCount }
      else d.message) = d.message.begun := by
  have noted : d.attempt.isRedelivery d.message = d.message.isRetry := by
    rcases rests with state | ⟨state, failed⟩
    · simp [Attempt.isRedelivery, state]
    · simp [Attempt.isRedelivery, state, failed]
  rw [noted]
  rfl

/-- Whether a token is for a handler that a registry knows. -/
def Token.Known (registry : Registry) : Token → Prop
  | .delivery d =>
    registry.find d.trigger.handlerId = some d.trigger ∧ (d.Rests ∨ d.attempt.state = .delivering)
  | .pending _ d => registry.find d.trigger.handlerId = some d.trigger ∧ d.Rests
  | .stored x => ∃ m t, x.letter? = some m ∧ m.targetHandler = some t.handlerId ∧
    registry.find t.handlerId = some t

/-! ### Moves -/

/-- A delivery whose handler has failed, and the same delivery as it waits for its next try. -/
structure Delivery.Retries (policy : RetryPolicy) (ending : Ending) (draw : Float) (d next : Delivery) : Prop where
  busy : d.attempt.state = .delivering
  failure : ending.failure? ≠ none
  more : ¬ policy.maxRetries ≤ bump d.message.failRetryCount
  whole : policy.delay (bump d.message.failRetryCount) draw ≠ none
  trigger : next.trigger = d.trigger
  message : next.message = { d.message.failed with isRetry := true }
  state : next.attempt.state = .retryScheduled

theorem Delivery.Retries.failRetryCount {policy : RetryPolicy} {ending : Ending} {draw : Float} {d next : Delivery}
    (retries : d.Retries policy ending draw next) :
    next.message.failRetryCount.toNat = d.message.failRetryCount.toNat + 1 := by
  rw [retries.message]
  exact toNat_bump_of_lt retries.more

theorem Delivery.Retries.failures {policy : RetryPolicy} {ending : Ending} {draw : Float} {d next : Delivery}
    (retries : d.Retries policy ending draw next) (due : Instant) :
    (DueEntry.ofMessage next.addressed due).failures = d.message.failRetryCount.toNat + 1 := by
  rw [DueEntry.failures, DueEntry.letter?_ofMessage]
  exact retries.failRetryCount

/-- What may become of a token, and which calls are seen as it moves. A call that ends does so in the given way, and
chance has its part in the wait that follows. -/
inductive Token.Move (policy : RetryPolicy) (route : RetryRoute) (registry : Registry) (ending : Ending)
    (draw : Float) : Token → Option Token → List DeliveryCall → Prop
  | starts {d next : Delivery} (rests : d.Rests) (trigger : next.trigger = d.trigger)
      (message : next.message = d.message.begun) (state : next.attempt.state = .delivering) :
      Move policy route registry ending draw (.delivery d) (some (.delivery next)) [.handler next.message]
  | acks {d : Delivery} (busy : d.attempt.state = .delivering) (success : ending.failure? = none) :
      Move policy route registry ending draw (.delivery d) none []
  | exhausts {d : Delivery} {why : HandlerError} (busy : d.attempt.state = .delivering)
      (failure : ending.failure? = some why) (last : policy.maxRetries ≤ bump d.message.failRetryCount) :
      Move policy route registry ending draw (.delivery d) none
        (if d.trigger.hasFailCallback then [.failCallback d.message.failed why] else [])
  /-- The policy breaks off, and the retry is lost. -/
  | breaks {d : Delivery} (busy : d.attempt.state = .delivering) (failure : ending.failure? ≠ none)
      (more : ¬ policy.maxRetries ≤ bump d.message.failRetryCount)
      (broken : policy.delay (bump d.message.failRetryCount) draw = none) :
      Move policy route registry ending draw (.delivery d) none []
  | keeps {d next : Delivery} {id : Nat} (here : route = .inProcess) (retries : d.Retries policy ending draw next) :
      Move policy route registry ending draw (.delivery d) (some (.pending id next.waiting)) []
  | stores {d next : Delivery} {due : Instant} (away : route = .delayStore)
      (retries : d.Retries policy ending draw next) :
      Move policy route registry ending draw (.delivery d) (some (.stored (.ofMessage next.addressed due))) []
  | returns {id : Nat} {d : Delivery} : Move policy route registry ending draw (.pending id d) (some (.delivery d)) []
  | arrives {x : DueEntry} {m : Message} {d : Delivery} (letter : x.letter? = some m) (delivered : m.deliverCount ≠ 0)
      (target : m.targetHandler = some d.trigger.handlerId)
      (known : registry.find d.trigger.handlerId = some d.trigger)
      (message : d.message = { m with pollingCount := raise m.pollingCount 1 }) (state : d.attempt.state = .pending) :
      Move policy route registry ending draw (.stored x) (some (.delivery d)) []
  /-- A message that has never been delivered cannot be read. -/
  | drops {x : DueEntry} {m : Message} (letter : x.letter? = some m) (never : m.deliverCount = 0) :
      Move policy route registry ending draw (.stored x) none []

namespace Token.Move

variable {policy : RetryPolicy} {route : RetryRoute} {registry : Registry} {ending : Ending} {draw : Float}
  {old new : Token} {told : List DeliveryCall} (move : Token.Move policy route registry ending draw old (some new) told)
include move

theorem known (known : old.Known registry) : new.Known registry := by
  cases move with
  | starts rests trigger message state => exact ⟨trigger ▸ known.1, .inr state⟩
  | @keeps d next id here retries =>
    refine ⟨?_, .inr ⟨retries.state, ?_⟩⟩
    · show registry.find next.trigger.handlerId = some next.trigger
      rw [retries.trigger]
      exact known.1
    · show next.message.isRetry = true
      rw [retries.message]
  | @stores d next due away retries =>
    refine ⟨next.addressed.told, next.trigger, DueEntry.letter?_ofMessage _ _, rfl, ?_⟩
    rw [retries.trigger]
    exact known.1
  | returns => exact ⟨known.1, .inl known.2⟩
  | arrives letter delivered target found message state => exact ⟨found, .inl (.inl state)⟩

theorem handler : new.handler = old.handler := by
  cases move with
  | starts rests trigger message state => exact congrArg (fun t : Trigger => some t.handlerId) trigger
  | keeps here retries => exact congrArg (fun t : Trigger => some t.handlerId) retries.trigger
  | @stores d next due away retries =>
    show (DueEntry.ofMessage next.addressed due).letter?.bind Message.targetHandler = some d.trigger.handlerId
    rw [DueEntry.letter?_ofMessage, ← retries.trigger]
    rfl
  | returns => rfl
  | arrives letter delivered target found message state =>
    show _ = DueEntry.addressee? _
    rw [DueEntry.addressee?, letter, Option.bind_some, target]
    rfl

/-- The failures of a message go up from one entry to the next. -/
theorem level : old.level ≤ new.level ∧ ∀ x, old = .stored x → x.failures < new.level := by
  cases move with
  | @starts d next rests trigger message state =>
    have same : next.message.failRetryCount = d.message.failRetryCount :=
      (congrArg Message.failRetryCount message).trans d.message.failRetryCount_begun
    exact ⟨Nat.le_of_eq (congrArg (fun n : UInt32 => n.toNat + 1) same.symm), fun _ stored => by cases stored⟩
  | @keeps d next id here retries =>
    refine ⟨?_, fun _ stored => by cases stored⟩
    show _ ≤ next.message.failRetryCount.toNat + 1
    rw [retries.failRetryCount]
    exact Nat.le_succ _
  | @stores d next due away retries =>
    refine ⟨?_, fun _ stored => by cases stored⟩
    show _ ≤ (DueEntry.ofMessage next.addressed due).failures
    rw [retries.failures]
    exact Nat.le_refl _
  | returns => exact ⟨Nat.le_refl _, fun _ stored => by cases stored⟩
  | @arrives x m d letter delivered target found message state =>
    have fewer : x.failures < (Token.delivery d).level := by
      show x.failures < d.message.failRetryCount.toNat + 1
      rw [message, DueEntry.failures, letter]
      exact Nat.lt_succ_self _
    exact ⟨Nat.le_of_lt fewer, fun _ stored => by cases stored; exact fewer⟩

end Token.Move

/-! ### Shares -/

/-- All that has a say in what one handler sees of a message. -/
structure Share where
  message : Message
  policy : RetryPolicy
  route : RetryRoute
  trigger : Trigger
  /-- How each call of the handler ends, the first call being number one. -/
  endings : Nat → Ending
  /-- After which calls the policy breaks off, if they fail and another one is allowed. -/
  breaks : Nat → Bool

namespace Share

variable (s : Share)

/-- The message as it waits elsewhere after a try that failed: for its handler only, as its envelope tells it. -/
def letter (m : Message) : Message :=
  { m.failed with isRetry := true, targetHandler := some s.trigger.handlerId }.told

/-- The message as it comes back after a try that failed. A poller notes on it that it was seen once. -/
def again (m : Message) : Message :=
  match s.route with
  | .inProcess => { m.failed with isRetry := true, targetHandler := none }
  | .delayStore => { s.letter m with pollingCount := raise m.pollingCount 1 }

/-- The message as it is brought to its handler after `k` failures. -/
def brought : Nat → Message
  | 0 => s.message
  | k + 1 => s.again (brought k).begun

/-- The message as its handler sees it after `k` failures. -/
def sees (k : Nat) : Message := (s.brought k).begun

/-- The first `n` calls of the handler. -/
def calls (n : Nat) : List DeliveryCall := (List.range n).map (fun k => .handler (s.sees k))

/-- Whether the call after `k` failures is the last one that is allowed. -/
def Spent (k : Nat) : Prop := s.policy.maxRetries ≤ bump (s.sees k).failRetryCount

instance (k : Nat) : Decidable (s.Spent k) := inferInstanceAs (Decidable (_ ≤ _))

/-- Whether the call after `k` failures fails as well and may be made again. -/
def Retries (k : Nat) : Prop := (s.endings (k + 1)).failure? ≠ none ∧ ¬ s.Spent k ∧ s.breaks (k + 1) = false

/-- Whether there is another call. A message that has never been delivered is lost in the store. -/
def GoesOn (k : Nat) : Prop := s.Retries k ∧ ¬ (s.route = .delayStore ∧ (s.sees k).deliverCount = 0)

/-- Whether there is a call after `k` failures. -/
def Reaches (k : Nat) : Prop := ∀ j, j < k → s.GoesOn j

/-- What those learn who are to learn of the end, if it comes with the call after `k` failures. -/
def closing (k : Nat) : List DeliveryCall :=
  match (s.endings (k + 1)).failure? with
  | none => []
  | some why =>
    if s.Spent k then if s.trigger.hasFailCallback then [.failCallback (s.sees k).failed why] else [] else []

variable {s}

theorem calls_succ (k : Nat) : s.calls (k + 1) = s.calls k ++ [.handler (s.sees k)] := by
  rw [calls, List.range_succ, List.map_append]
  rfl

theorem handlerCalls_calls (n : Nat) : handlerCalls (s.calls n) = n := by
  rw [handlerCalls, calls, List.countP_map]
  exact (List.countP_eq_length.mpr (fun k _ => rfl)).trans List.length_range

theorem closing_of_not_spent {k : Nat} (more : ¬ s.Spent k) : s.closing k = [] := by
  unfold closing
  split
  · rfl
  · exact if_neg more

theorem Reaches.succ {k : Nat} (reaches : s.Reaches k) (goesOn : s.GoesOn k) : s.Reaches (k + 1) := by
  intro j earlier
  rcases Nat.lt_or_eq_of_le (Nat.lt_succ_iff.mp earlier) with less | rfl
  · exact reaches j less
  · exact goesOn

/-- Each failure is counted. -/
theorem failRetryCount_sees (s : Share) (k : Nat) : (s.sees k).failRetryCount = bump^[k] s.message.failRetryCount := by
  induction k with
  | zero => exact s.message.failRetryCount_begun
  | succ k ih =>
    rw [Function.iterate_succ_apply', ← ih, sees, Message.failRetryCount_begun, brought, again]
    split <;> rfl

theorem Reaches.failRetryCount {k : Nat} (reaches : s.Reaches k) :
    (s.sees k).failRetryCount.toNat = s.message.failRetryCount.toNat + k := by
  induction k with
  | zero => exact congrArg UInt32.toNat s.message.failRetryCount_begun
  | succ k ih =>
    have before := ih (fun j earlier => reaches j (Nat.lt_succ_of_lt earlier))
    have more := (reaches k (Nat.lt_succ_self k)).1.2.1
    rw [failRetryCount_sees, Function.iterate_succ_apply', ← failRetryCount_sees, toNat_bump_of_lt more, before,
      Nat.add_assoc]

/-- Where the token of a share is, if it is anywhere, once some calls were seen. -/
inductive At (s : Share) : List DeliveryCall → Option Token → Prop
  | queued (k : Nat) (reaches : s.Reaches k) (d : Delivery) (trigger : d.trigger = s.trigger)
      (message : d.message = s.brought k) (idle : d.attempt.state ≠ .delivering) :
      At s (s.calls k) (some (.delivery d))
  | working (k : Nat) (reaches : s.Reaches k) (d : Delivery) (trigger : d.trigger = s.trigger)
      (message : d.message = s.sees k) (busy : d.attempt.state = .delivering) :
      At s (s.calls (k + 1)) (some (.delivery d))
  | pending (k : Nat) (reaches : s.Reaches k) (id : Nat) (d : Delivery) (trigger : d.trigger = s.trigger)
      (message : d.message = s.brought k) (idle : d.attempt.state ≠ .delivering) :
      At s (s.calls k) (some (.pending id d))
  | stored (k : Nat) (reaches : s.Reaches k) (retries : s.Retries k) (away : s.route = .delayStore) (x : DueEntry)
      (letter : x.letter? = some (s.letter (s.sees k))) : At s (s.calls (k + 1)) (some (.stored x))
  | done (k : Nat) (reaches : s.Reaches k) (stops : ¬ s.GoesOn k) : At s (s.calls (k + 1) ++ s.closing k) none

namespace At

variable {log : List DeliveryCall} {old : Token} {new? : Option Token} {told : List DeliveryCall} {draw : Float}

private theorem retry_of_retries {k : Nat} {d next : Delivery} (message : d.message = s.sees k)
    (luck : s.breaks (k + 1) = (s.policy.delay (bump (s.sees k).failRetryCount) draw).isNone)
    (retries : d.Retries s.policy (s.endings (k + 1)) draw next) : s.Retries k := by
  have more := retries.more
  have whole := retries.whole
  rw [message] at more whole
  exact ⟨retries.failure, more, luck.trans (Option.isNone_eq_false_iff.mpr (Option.isSome_iff_ne_none.mpr whole))⟩

private theorem working_moves {k : Nat} (reaches : s.Reaches k) {d : Delivery} (trigger : d.trigger = s.trigger)
    (message : d.message = s.sees k) (busy : d.attempt.state = .delivering) {registry : Registry}
    (luck : s.breaks (k + 1) = (s.policy.delay (bump (s.sees k).failRetryCount) draw).isNone)
    (move : Token.Move s.policy s.route registry (s.endings (k + 1)) draw (.delivery d) new? told) :
    s.At (s.calls (k + 1) ++ told) new? := by
  cases move with
  | starts rests => exact absurd busy rests.isReady.not_delivering
  | acks busy success =>
    have none : s.closing k = [] := by simp only [closing, success]
    have last := At.done k reaches (fun goesOn => goesOn.1.1 success)
    rw [none] at last
    exact last
  | @exhausts _ why busy failure last =>
    rw [message] at last ⊢
    have spent : s.Spent k := last
    have closing : s.closing k = if d.trigger.hasFailCallback then [.failCallback (s.sees k).failed why] else [] := by
      simp only [Share.closing, failure, spent, if_true, trigger]
    rw [← closing]
    exact .done k reaches (fun goesOn => goesOn.1.2.1 spent)
  | breaks busy failure more broken =>
    rw [message] at more broken
    rw [broken] at luck
    have last := At.done k reaches (fun goesOn => nomatch luck.symm.trans goesOn.1.2.2)
    rw [closing_of_not_spent more] at last
    exact last
  | @keeps _ next id here retries =>
    have retry := retry_of_retries message luck retries
    have goesOn : s.GoesOn k := ⟨retry, fun away => by rw [here] at away; cases away.1⟩
    rw [List.append_nil]
    refine .pending (k + 1) (reaches.succ goesOn) id next.waiting (retries.trigger.trans trigger) ?_ ?_
    · simp only [Delivery.waiting, retries.message, message, brought, again, here]
      rfl
    · show next.attempt.state ≠ _
      rw [retries.state]
      decide
  | @stores _ next due away retries =>
    rw [List.append_nil]
    refine .stored k reaches (retry_of_retries message luck retries) away _ ?_
    rw [DueEntry.letter?_ofMessage, Delivery.addressed, retries.message, retries.trigger, message, trigger]
    rfl

private theorem stored_moves {k : Nat} (reaches : s.Reaches k) (retries : s.Retries k) (away : s.route = .delayStore)
    {x : DueEntry} (letter : x.letter? = some (s.letter (s.sees k))) {registry : Registry}
    (registered : registry.find s.trigger.handlerId = some s.trigger) {ending : Ending}
    (move : Token.Move s.policy s.route registry ending draw (.stored x) new? told) :
    s.At (s.calls (k + 1) ++ told) new? := by
  rw [show s.calls (k + 1) ++ told = s.calls (k + 1) by cases move <;> exact List.append_nil _]
  cases move with
  | @arrives _ m d found delivered target known message state =>
    obtain rfl : s.letter (s.sees k) = m := Option.some.inj (letter.symm.trans found)
    have goesOn : s.GoesOn k := ⟨retries, fun never => delivered never.2⟩
    have same : d.trigger = s.trigger := by
      have handler : s.trigger.handlerId = d.trigger.handlerId := Option.some.inj target
      rw [← handler, registered] at known
      exact (Option.some.inj known).symm
    refine .queued (k + 1) (reaches.succ goesOn) d same ?_ (by rw [state]; decide)
    rw [message, brought, again, away]
    rfl
  | @drops _ m found never =>
    obtain rfl : s.letter (s.sees k) = m := Option.some.inj (letter.symm.trans found)
    have last := At.done k reaches (fun goesOn => goesOn.2 ⟨away, never⟩)
    rw [closing_of_not_spent retries.2.1, List.append_nil] at last
    exact last

/-- However the token of a share moves, the calls that are seen are those of the share. -/
theorem move {registry : Registry} (registered : registry.find s.trigger.handlerId = some s.trigger)
    (here : s.At log (some old))
    (luck : s.breaks (handlerCalls log) =
      (s.policy.delay (bump^[handlerCalls log] s.message.failRetryCount) draw).isNone)
    (move : Token.Move s.policy s.route registry (s.endings (handlerCalls log)) draw old new? told) :
    s.At (log ++ told) new? := by
  cases here with
  | queued k reaches d trigger message idle =>
    cases move with
    | @starts _ next rests same begun busy =>
      rw [begun, message]
      have seen := calls_succ (s := s) k
      rw [sees] at seen
      rw [← seen]
      exact .working k reaches next (same.trans trigger) (by rw [begun, message]; rfl) busy
    | acks busy => exact absurd busy idle
    | exhausts busy => exact absurd busy idle
    | breaks busy => exact absurd busy idle
    | keeps here retries => exact absurd retries.busy idle
    | stores away retries => exact absurd retries.busy idle
  | working k reaches d trigger message busy =>
    rw [handlerCalls_calls] at move luck
    rw [Function.iterate_succ_apply', ← failRetryCount_sees] at luck
    exact working_moves reaches trigger message busy luck move
  | pending k reaches id d trigger message idle =>
    cases move with
    | returns =>
      rw [List.append_nil]
      exact .queued k reaches d trigger message idle
  | stored k reaches retries away x letter => exact stored_moves reaches retries away letter registered move

end At
end Share
end Courier
