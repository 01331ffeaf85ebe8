import Courier.Proofs.TryEvents

/-!
Attempts under calls in any order, such as no engine would make. A call does its work bit by bit on the attempt and
its message, and what has been done before it stops is not taken back. A call that is refused leaves no trace all the
same, because the only move that can be refused comes first. But the policy is asked between the two moves of a
failure: if it breaks off then the first move and the count stand, and no call leads out of the state between them.
What has become of an attempt can be told from its calls that were not refused.
-/
namespace Courier.Attempt

/-- A call that may be made on an attempt and its message. -/
inductive Call
  | begin (now : Instant)
  | acknowledge
  | fail (policy : RetryPolicy) (draw : Float)
  /-- Someone notes on the message whether a failure came before. -/
  | mark (isRetry : Bool)

/-- The state that a call moves to, if it is about the state at all. -/
def Call.target? : Call → Option State
  | .begin _ => some .delivering
  | .acknowledge => some .acked
  | .fail _ _ => some .failed
  | .mark _ => none

/-- Whether the next action is the one that belongs to the state. None belongs to a failure that nobody has decided
about. -/
def IsSettled (a : Attempt) : Prop :=
  match a.state with
  | .pending | .delivering | .failed => a.nextAction = none
  | .acked => a.nextAction = some .ack
  | .retryScheduled => ∃ delay, a.nextAction = some (.retry delay)
  | .exhausted => a.nextAction = some .exhaust

/-- An attempt and the message that it is about. -/
structure Docket where
  attempt : Attempt
  message : Message

namespace Docket

def opened (m : Message) (handlerId : String) (startedAt : Instant) : Docket := ⟨.new m handlerId startedAt, m⟩

/-- Whether a call names a move that the state allows. -/
def Allows (d : Docket) (c : Call) : Prop := ∀ target, c.target? = some target → d.attempt.state.canMoveTo target = true

/-- Whether a call is a failure about which the policy breaks off. -/
def BreaksOff (d : Docket) : Call → Prop
  | .fail policy draw =>
    d.attempt.state = .delivering ∧ policy.decide (bump d.message.failRetryCount) draw = none
  | _ => False

/-- How a call stops before it is done. -/
inductive Stop
  | refused (why : DeliveryError)
  | brokenOff

/-- What comes of a call: it is done, with an action that may be told, or it stops. -/
inductive Answer
  | done (action : Option NextAction) (next : Docket)
  | refused (why : DeliveryError)
  | brokenOff (next : Docket)

def answer (d : Docket) : Call → Answer
  | .begin now =>
    match d.attempt.begin d.message now with
    | .ok (attempt, message) => .done none ⟨attempt, message⟩
    | .error why => .refused why
  | .acknowledge =>
    match d.attempt.acknowledge with
    | .ok attempt => .done attempt.nextAction { d with attempt }
    | .error why => .refused why
  | .fail policy draw =>
    match d.attempt.fail d.message policy draw with
    | .ok (attempt, message, some action) => .done (some action) ⟨attempt, message⟩
    | .ok (attempt, message, none) => .brokenOff ⟨attempt, message⟩
    | .error why => .refused why
  | .mark isRetry => .done none { d with message := { d.message with isRetry } }

/-- The docket after a call. -/
def after (d : Docket) (c : Call) : Docket :=
  match d.answer c with
  | .done _ next | .brokenOff next => next
  | .refused _ => d

/-- The docket after some calls. -/
def run (d : Docket) (calls : List Call) : Docket := calls.foldl after d

/-- The calls of a run that are not refused, each with the docket that it finds. -/
def taken : Docket → List Call → List (Docket × Call)
  | _, [] => []
  | d, c :: rest =>
    match d.answer c with
    | .done _ next | .brokenOff next => (d, c) :: taken next rest
    | .refused _ => taken d rest

/-! ### Bit by bit -/

/-- Work on a docket that may stop. What has been done by then stays. -/
abbrev Work := EStateM Stop Docket

def moveTo (next : State) : Work Unit := do
  let d ← get
  if d.attempt.state.canMoveTo next then set { d with attempt := { d.attempt with state := next } }
  else throw (.refused (.invalidTransition d.attempt.state next))

def setNext (action : Option NextAction) : Work Unit :=
  modify (fun d => { d with attempt := { d.attempt with nextAction := action } })

/-- Whether the message is delivered again is decided before the move, and noted after it. -/
def begin (now : Instant) : Work Unit := do
  let d ← get
  let again := d.attempt.isRedelivery d.message
  moveTo .delivering
  if again then modify (fun d => { d with message := { d.message with deliverCount := bump d.message.deliverCount } })
  modify (fun d => { d with attempt := { d.attempt with startedAt := now } })
  setNext none

def acknowledge : Work NextAction := do
  moveTo .acked
  setNext (some .ack)
  return .ack

/-- Between its two moves the attempt is in a state that nobody else sees, unless the policy breaks off. -/
def fail (policy : RetryPolicy) (draw : Float) : Work NextAction := do
  moveTo .failed
  modify (fun d => { d with message := d.message.failed })
  match policy.decide (← get).message.failRetryCount draw with
  | none => throw .brokenOff
  | some (.retry delay) =>
    moveTo .retryScheduled
    modify (fun d => { d with message := { d.message with isRetry := true } })
    setNext (some (.retry delay))
    return .retry delay
  | some .exhaust =>
    moveTo .exhausted
    setNext (some .exhaust)
    return .exhaust

/-- A call as the work that it does. -/
def work : Call → Work (Option NextAction)
  | .begin now => do begin now; return none
  | .acknowledge => do return some (← acknowledge)
  | .fail policy draw => do return some (← fail policy draw)
  | .mark isRetry => do
    modify (fun d => { d with message := { d.message with isRetry } })
    return none

/-! ### One call -/

/-- What a call that is done makes of a docket. -/
inductive Goes (d : Docket) : Call → Docket → Prop
  | begins (now : Instant) (ready : d.attempt.IsReady) :
      Goes d (.begin now) ⟨{ d.attempt with state := .delivering, startedAt := now, nextAction := none },
        if d.attempt.isRedelivery d.message then { d.message with deliverCount := bump d.message.deliverCount }
        else d.message⟩
  | acknowledges (working : d.attempt.state = .delivering) :
      Goes d .acknowledge ⟨{ d.attempt with state := .acked, nextAction := some .ack }, d.message⟩
  | waits (policy : RetryPolicy) (draw : Float) (delay : Span) (working : d.attempt.state = .delivering) :
      Goes d (.fail policy draw) ⟨{ d.attempt with state := .retryScheduled, nextAction := some (.retry delay) },
        { d.message.failed with isRetry := true }⟩
  | ends (policy : RetryPolicy) (draw : Float) (working : d.attempt.state = .delivering) :
      Goes d (.fail policy draw) ⟨{ d.attempt with state := .exhausted, nextAction := some .exhaust }, d.message.failed⟩
  | marks (isRetry : Bool) : Goes d (.mark isRetry) { d with message := { d.message with isRetry } }

/-- What a failure makes of a docket if the policy breaks off. -/
def halfway (d : Docket) : Docket := ⟨{ d.attempt with state := .failed }, d.message.failed⟩

theorem moveTo_run (d : Docket) (next : State) :
    (moveTo next).run d =
      if d.attempt.state.canMoveTo next then .ok () { d with attempt := { d.attempt with state := next } }
      else .error (.refused (.invalidTransition d.attempt.state next)) d := by
  unfold moveTo
  simp only [EStateM.run_bind, EStateM.run_get]
  split
  · exact EStateM.run_set ..
  · rfl

/-- What comes of a call, in one go and bit by bit alike: it is done, the policy breaks off, or it is refused for the
move that it names. -/
inductive Comes (d : Docket) (c : Call) : Prop
  | goes (action : Option NextAction) (next : Docket) (allowed : d.Allows c) (whole : ¬ d.BreaksOff c)
      (answer : d.answer c = .done action next) (bits : (work c).run d = .ok action next) (goes : Goes d c next)
  | breaks (allowed : d.Allows c) (breaks : d.BreaksOff c) (answer : d.answer c = .brokenOff d.halfway)
      (bits : (work c).run d = .error .brokenOff d.halfway)
  | refused {target : State} (names : c.target? = some target) (illegal : d.attempt.state.canMoveTo target = false)
      (answer : d.answer c = .refused (.invalidTransition d.attempt.state target))
      (bits : (work c).run d = .error (.refused (.invalidTransition d.attempt.state target)) d)

theorem allows_of_target {d : Docket} {c : Call} {target : State} (names : c.target? = some target)
    (allowed : d.attempt.state.canMoveTo target = true) : d.Allows c := by
  intro other also
  obtain rfl := Option.some.inj (names.symm.trans also)
  exact allowed

theorem comes_begin (d : Docket) (now : Instant) : d.Comes (.begin now) := by
  cases allowed : d.attempt.state.canMoveTo .delivering with
  | true =>
    refine .goes none _ (allows_of_target rfl allowed) id ?_ ?_ (.begins now (isReady_iff.mpr allowed))
    · simp [answer, Attempt.begin, Attempt.moveTo, allowed, bind, Except.bind, pure, Except.pure]
    · simp only [work, begin, EStateM.run_bind, EStateM.run_get, moveTo_run, allowed, if_true]
      cases d.attempt.isRedelivery d.message <;> rfl
  | false =>
    refine .refused rfl allowed ?_ ?_
    · simp [answer, Attempt.begin, Attempt.moveTo, allowed, bind, Except.bind]
    · simp only [work, begin, EStateM.run_bind, EStateM.run_get, moveTo_run, allowed, Bool.false_eq_true, if_false]

theorem comes_acknowledge (d : Docket) : d.Comes .acknowledge := by
  cases allowed : d.attempt.state.canMoveTo .acked with
  | true =>
    refine .goes (some .ack) _ (allows_of_target rfl allowed) id ?_ ?_
      (.acknowledges (delivering_of_canMoveTo (.inl rfl) allowed))
    · simp [answer, Attempt.acknowledge, Attempt.moveTo, allowed, bind, Except.bind, pure, Except.pure]
    · simp only [work, acknowledge, EStateM.run_bind, moveTo_run, allowed, if_true]
      rfl
  | false =>
    refine .refused rfl allowed ?_ ?_
    · simp [answer, Attempt.acknowledge, Attempt.moveTo, allowed, bind, Except.bind]
    · simp only [work, acknowledge, EStateM.run_bind, moveTo_run, allowed, Bool.false_eq_true, if_false]

theorem comes_fail (d : Docket) (policy : RetryPolicy) (draw : Float) : d.Comes (.fail policy draw) := by
  cases allowed : d.attempt.state.canMoveTo .failed with
  | true =>
    have working := delivering_of_canMoveTo (.inr rfl) allowed
    have given : d.Allows (.fail policy draw) := allows_of_target rfl allowed
    cases verdict : policy.decide (bump d.message.failRetryCount) draw with
    | none =>
      refine .breaks given ⟨working, verdict⟩ ?_ ?_
      · simp only [answer, Attempt.fail, Attempt.moveTo, allowed, if_true, bind, Except.bind, verdict]
        rfl
      · simp only [work, fail, EStateM.run_bind, moveTo_run, allowed, if_true, EStateM.run_modify, EStateM.run_get,
          Message.failed, verdict]
        rfl
    | some decision =>
      have whole : ¬ d.BreaksOff (.fail policy draw) := by
        rintro ⟨-, none⟩
        cases verdict.symm.trans none
      cases decision with
      | retry delay =>
        refine .goes (some (.retry delay)) _ given whole ?_ ?_ (.waits policy draw delay working)
        · simp only [answer, Attempt.fail, Attempt.moveTo, allowed, if_true, bind, Except.bind, verdict]
          rfl
        · simp only [work, fail, EStateM.run_bind, moveTo_run, allowed, if_true, EStateM.run_modify, EStateM.run_get,
            Message.failed, verdict]
          rfl
      | exhaust =>
        refine .goes (some .exhaust) _ given whole ?_ ?_ (.ends policy draw working)
        · simp only [answer, Attempt.fail, Attempt.moveTo, allowed, if_true, bind, Except.bind, verdict]
          rfl
        · simp only [work, fail, EStateM.run_bind, moveTo_run, allowed, if_true, EStateM.run_modify, EStateM.run_get,
            Message.failed, verdict]
          rfl
  | false =>
    refine .refused rfl allowed ?_ ?_
    · simp [answer, Attempt.fail, Attempt.moveTo, allowed, bind, Except.bind]
    · simp only [work, fail, EStateM.run_bind, moveTo_run, allowed, Bool.false_eq_true, if_false]

theorem comes (d : Docket) (c : Call) : d.Comes c := by
  cases c with
  | begin now => exact d.comes_begin now
  | acknowledge => exact d.comes_acknowledge
  | fail policy draw => exact d.comes_fail policy draw
  | mark isRetry => exact .goes none _ (fun _ names => nomatch names) id rfl rfl (.marks isRetry)

/-- A call is done just if its move is one that the state allows and the policy does not break off. -/
theorem goes_iff (d : Docket) (c : Call) :
    (∃ action next, d.answer c = .done action next ∧ (work c).run d = .ok action next) ↔
      d.Allows c ∧ ¬ d.BreaksOff c := by
  cases d.comes c with
  | goes action next allowed whole answer bits => exact iff_of_true ⟨action, next, answer, bits⟩ ⟨allowed, whole⟩
  | breaks allowed breaks answer bits =>
    refine iff_of_false ?_ (fun given => given.2 breaks)
    rintro ⟨action, next, done, _⟩
    rw [answer] at done
    cases done
  | refused names illegal answer bits =>
    refine iff_of_false ?_ (fun given => ?_)
    · rintro ⟨action, next, done, _⟩
      rw [answer] at done
      cases done
    · rw [given.1 _ names] at illegal
      cases illegal

theorem refused_leaves_no_trace {d after : Docket} {c : Call} {why : DeliveryError}
    (stopped : (work c).run d = .error (.refused why) after) :
    after = d ∧ d.answer c = .refused why ∧ ∃ target, c.target? = some target ∧
      why = .invalidTransition d.attempt.state target := by
  cases d.comes c with
  | goes action next allowed whole answer bits =>
    rw [bits] at stopped
    cases stopped
  | breaks allowed breaks answer bits =>
    rw [bits] at stopped
    cases stopped
  | refused names illegal answer bits =>
    rw [bits] at stopped
    cases stopped
    exact ⟨rfl, answer, _, names, rfl⟩

/-- A call that the policy breaks off leaves the first half of its work. -/
theorem brokenOff_iff (d after : Docket) (c : Call) :
    (d.answer c = .brokenOff after ∧ (work c).run d = .error .brokenOff after) ↔ d.BreaksOff c ∧ after = d.halfway := by
  cases d.comes c with
  | goes action next allowed whole answer bits =>
    refine iff_of_false (fun stopped => ?_) (fun given => whole given.1)
    rw [answer] at stopped
    cases stopped.1
  | breaks allowed breaks answer bits =>
    constructor
    · rintro ⟨stopped, _⟩
      exact ⟨breaks, (Answer.brokenOff.inj (answer.symm.trans stopped)).symm⟩
    · rintro ⟨_, rfl⟩
      exact ⟨answer, bits⟩
  | refused names illegal answer bits =>
    refine iff_of_false (fun stopped => ?_) (fun given => ?_)
    · rw [answer] at stopped
      cases stopped.1
    · cases c with
      | fail policy draw =>
        cases names
        rw [given.1.1] at illegal
        cases illegal
      | begin now => exact given.1
      | acknowledge => exact given.1
      | mark isRetry => exact given.1

theorem answer_of_breaksOff {d : Docket} {c : Call} (breaks : d.BreaksOff c) : d.answer c = .brokenOff d.halfway :=
  ((brokenOff_iff d _ c).mpr ⟨breaks, rfl⟩).1

theorem after_of_breaksOff {d : Docket} {c : Call} (breaks : d.BreaksOff c) : d.after c = d.halfway := by
  rw [after, answer_of_breaksOff breaks]

/-- The docket after a call is what the call makes of it, half of that, or what it was. -/
inductive Passes (d : Docket) (c : Call) : Prop
  | goes {action : Option NextAction} (answer : d.answer c = .done action (d.after c)) (goes : Goes d c (d.after c))
      (whole : ¬ d.BreaksOff c)
  | breaks (answer : d.answer c = .brokenOff (d.after c)) (half : d.after c = d.halfway) (breaks : d.BreaksOff c)
  | stays {why : DeliveryError} (answer : d.answer c = .refused why) (same : d.after c = d) (whole : ¬ d.BreaksOff c)

theorem passes (d : Docket) (c : Call) : d.Passes c := by
  cases d.comes c with
  | goes action next allowed whole answer bits goes =>
    have is : d.after c = next := by rw [after, answer]
    rw [← is] at answer goes
    exact .goes answer goes whole
  | breaks allowed breaks answer bits =>
    have is : d.after c = d.halfway := by rw [after, answer]
    exact .breaks (is ▸ answer) is breaks
  | refused names illegal answer bits =>
    refine .stays answer (by rw [after, answer]) (fun breaks => ?_)
    rw [answer_of_breaksOff breaks] at answer
    cases answer

theorem BreaksOff.working {d : Docket} {c : Call} (breaks : d.BreaksOff c) : d.attempt.state = .delivering := by
  cases c with
  | fail policy draw => exact breaks.1
  | begin now => exact breaks.elim
  | acknowledge => exact breaks.elim
  | mark isRetry => exact breaks.elim

theorem Goes.settled {d next : Docket} {c : Call} (goes : Goes d c next) (settled : d.attempt.IsSettled) :
    next.attempt.IsSettled := by
  cases goes with
  | begins now ready => rfl
  | acknowledges working => rfl
  | waits policy draw delay working => exact ⟨delay, rfl⟩
  | ends policy draw working => rfl
  | marks isRetry => exact settled

theorem settled_after {d : Docket} (settled : d.attempt.IsSettled) (c : Call) : (d.after c).attempt.IsSettled := by
  cases d.passes c with
  | goes answer goes => exact goes.settled settled
  | breaks answer half breaks =>
    rw [half]
    rw [IsSettled, breaks.working] at settled
    exact settled
  | stays answer same =>
    rw [same]
    exact settled

/-- No call leads out of an end state, and none out of a failure about which the policy broke off. -/
theorem state_after_of_stuck {d : Docket} (stuck : d.attempt.state.isTerminal = true ∨ d.attempt.state = .failed)
    (c : Call) : (d.after c).attempt.state = d.attempt.state := by
  have idle {next : State} (other : next.isTerminal = false ∧ next ≠ .failed) : d.attempt.state ≠ next := by
    intro same
    rw [same, other.1] at stuck
    rcases stuck with stuck | stuck
    · cases stuck
    · exact other.2 stuck
  cases d.passes c with
  | goes answer goes =>
    generalize d.after c = next at goes
    cases goes with
    | begins now ready =>
      rcases ready with pending | waiting
      · exact absurd pending (idle ⟨rfl, nofun⟩)
      · exact absurd waiting (idle ⟨rfl, nofun⟩)
    | acknowledges working => exact absurd working (idle ⟨rfl, nofun⟩)
    | waits policy draw delay working => exact absurd working (idle ⟨rfl, nofun⟩)
    | ends policy draw working => exact absurd working (idle ⟨rfl, nofun⟩)
    | marks isRetry => rfl
  | breaks answer half breaks => exact absurd breaks.working (idle ⟨rfl, nofun⟩)
  | stays answer same => rw [same]

/-- A docket is left between the two moves of a failure just by a call about which the policy breaks off. -/
theorem failed_after_iff (d : Docket) (c : Call) :
    (d.after c).attempt.state = .failed ↔ d.attempt.state = .failed ∨ d.BreaksOff c := by
  by_cases failed : d.attempt.state = .failed
  · exact iff_of_true ((state_after_of_stuck (.inr failed) c).trans failed) (.inl failed)
  · cases d.passes c with
    | goes answer goes whole =>
      refine iff_of_false (fun after => ?_) (not_or.mpr ⟨failed, whole⟩)
      generalize d.after c = next at goes after
      cases goes with
      | begins now ready => cases after
      | acknowledges working => cases after
      | waits policy draw delay working => cases after
      | ends policy draw working => cases after
      | marks isRetry => exact failed after
    | breaks answer half breaks => exact iff_of_true (by rw [half]; rfl) (.inr breaks)
    | stays answer same whole =>
      rw [same]
      exact iff_of_false failed (not_or.mpr ⟨failed, whole⟩)

/-! ### Calls in a row -/

/-- Whether a call that a docket met with was a failure. -/
def isFailure : Docket × Call → Bool
  | (_, .fail _ _) => true
  | _ => false

/-- Whether a call that a docket met with began a try that follows a failure: the attempt was waiting for it, or the
message said so before the first one. -/
def isRedelivery : Docket × Call → Bool
  | (d, .begin _) => d.attempt.state = .retryScheduled || (d.attempt.state = .pending && d.message.isRetry)
  | _ => false

/-- When a call that a docket met with began a try. -/
def beginning? : Docket × Call → Option Instant
  | (_, .begin now) => some now
  | _ => none

/-- What some calls that were not refused have made of a docket. -/
structure Tallies (d last : Docket) (taken : List (Docket × Call)) : Prop where
  failures : last.message.failRetryCount.toNat = min (d.message.failRetryCount.toNat + taken.countP isFailure) 0xFFFFFFFF
  deliveries :
    last.message.deliverCount.toNat = min (d.message.deliverCount.toNat + taken.countP isRedelivery) 0xFFFFFFFF
  rest : last.message = { d.message with
    deliverCount := last.message.deliverCount
    failRetryCount := last.message.failRetryCount
    isRetry := last.message.isRetry }
  requestId : last.attempt.requestId = d.attempt.requestId
  handlerId : last.attempt.handlerId = d.attempt.handlerId
  startedAt : last.attempt.startedAt = ((taken.filterMap beginning?).getLast?).getD d.attempt.startedAt

theorem tallies_nil (d : Docket) : Tallies d d [] := by
  have delivered := d.message.deliverCount.toNat_lt
  have failed := d.message.failRetryCount.toNat_lt
  refine ⟨?_, ?_, rfl, rfl, rfl, rfl⟩
  · rw [List.countP_nil]
    omega
  · rw [List.countP_nil]
    omega

theorem Goes.tallies {d next : Docket} {c : Call} (goes : Goes d c next) : Tallies d next [(d, c)] := by
  have delivered := d.message.deliverCount.toNat_lt
  have failed := d.message.failRetryCount.toNat_lt
  have bumped := toNat_bump d.message.failRetryCount
  -- a call that is no failure and no redelivery leaves the counts alone
  have same : d.message.failRetryCount.toNat = min (d.message.failRetryCount.toNat + 0) 0xFFFFFFFF ∧
      d.message.deliverCount.toNat = min (d.message.deliverCount.toNat + 0) 0xFFFFFFFF := by omega
  cases goes with
  | begins now ready =>
    have counted : [(d, Call.begin now)].countP isRedelivery = if d.attempt.isRedelivery d.message then 1 else 0 :=
      List.countP_singleton ..
    cases again : d.attempt.isRedelivery d.message with
    | true =>
      rw [again] at counted
      refine ⟨same.1, ?_, rfl, rfl, rfl, rfl⟩
      rw [counted]
      exact toNat_bump d.message.deliverCount
    | false =>
      rw [again] at counted
      refine ⟨same.1, ?_, rfl, rfl, rfl, rfl⟩
      rw [counted]
      exact same.2
  | acknowledges working => exact ⟨same.1, same.2, rfl, rfl, rfl, rfl⟩
  | waits policy draw delay working => exact ⟨bumped, same.2, rfl, rfl, rfl, rfl⟩
  | ends policy draw working => exact ⟨bumped, same.2, rfl, rfl, rfl, rfl⟩
  | marks isRetry => exact ⟨same.1, same.2, rfl, rfl, rfl, rfl⟩

/-- A failure about which the policy breaks off is counted like any other. -/
theorem BreaksOff.tallies {d : Docket} {c : Call} (breaks : d.BreaksOff c) : Tallies d d.halfway [(d, c)] := by
  have delivered := d.message.deliverCount.toNat_lt
  cases c with
  | fail policy draw =>
    refine ⟨toNat_bump d.message.failRetryCount, ?_, rfl, rfl, rfl, rfl⟩
    show d.message.deliverCount.toNat = min (d.message.deliverCount.toNat + 0) 0xFFFFFFFF
    omega
  | begin now => exact breaks.elim
  | acknowledge => exact breaks.elim
  | mark isRetry => exact breaks.elim

theorem Tallies.append {d mid last : Docket} {taken more : List (Docket × Call)} (first : Tallies d mid taken)
    (second : Tallies mid last more) : Tallies d last (taken ++ more) := by
  refine ⟨?_, ?_, ?_, second.requestId.trans first.requestId, second.handlerId.trans first.handlerId, ?_⟩
  · rw [second.failures, first.failures, List.countP_append]
    omega
  · rw [second.deliveries, first.deliveries, List.countP_append]
    omega
  · rw [second.rest, first.rest]
  · rw [second.startedAt, first.startedAt, List.filterMap_append, List.getLast?_append]
    cases (more.filterMap beginning?).getLast? <;> rfl

theorem tallies_run (d : Docket) (calls : List Call) : Tallies d (d.run calls) (d.taken calls) := by
  induction calls generalizing d with
  | nil => exact tallies_nil d
  | cons c rest ih =>
    have later := ih (d.after c)
    show Tallies d ((d.after c).run rest) (d.taken (c :: rest))
    cases d.passes c with
    | goes answer goes =>
      simp only [taken, answer]
      exact goes.tallies.append later
    | breaks answer half breaks =>
      simp only [taken, answer]
      exact (half ▸ breaks.tallies).append later
    | stays answer same =>
      simp only [taken, answer]
      rw [same] at later ⊢
      exact later

theorem settled_run {d : Docket} (settled : d.attempt.IsSettled) (calls : List Call) :
    (d.run calls).attempt.IsSettled := by
  induction calls generalizing d with
  | nil => exact settled
  | cons c rest ih => exact ih (settled_after settled c)

theorem failed_run_iff (d : Docket) (calls : List Call) :
    (d.run calls).attempt.state = .failed ↔
      d.attempt.state = .failed ∨ ∃ met ∈ d.taken calls, met.1.BreaksOff met.2 := by
  induction calls generalizing d with
  | nil => simp [run, taken]
  | cons c rest ih =>
    show ((d.after c).run rest).attempt.state = .failed ↔ _
    rw [ih (d.after c), failed_after_iff, or_assoc]
    cases d.passes c with
    | goes answer goes whole => simp only [taken, answer, List.exists_mem_cons_iff]
    | breaks answer half breaks => simp only [taken, answer, List.exists_mem_cons_iff]
    | stays answer same whole => simp only [taken, answer, whole, false_or, same]

/-- An attempt after any calls, in whatever order and whatever came of them. The next call is done if its move is one
that the state allows and the policy does not break off, and bit by bit it comes to the same. It is refused if the
state does not allow its move, and then nothing of what it has done is left. If the policy breaks off then the failure
is counted and nothing is decided: the attempt is left between two moves, where it is left in no other way, and no
later call leads out of there, or out of an end state. The next action is the one of the state. Failures that were not
refused are what counts as failures, and tries that began after a failure what counts as deliveries, as far as the
counters go; no call changes more of the message than these counters and whether a failure came before. Message and
handler stay the same, and the start is that of the last try. -/
theorem calls_keep_to_states (m : Message) (handlerId : String) (start : Instant) (calls : List Call) :
    let d := (opened m handlerId start).run calls
    let taken := (opened m handlerId start).taken calls
    (∀ c, (∃ action next, d.answer c = .done action next ∧ (work c).run d = .ok action next) ↔
        d.Allows c ∧ ¬ d.BreaksOff c) ∧
      (∀ c why after, (work c).run d = .error (.refused why) after →
        after = d ∧ d.answer c = .refused why ∧ ∃ target, c.target? = some target ∧
          why = .invalidTransition d.attempt.state target) ∧
      (∀ c after, (d.answer c = .brokenOff after ∧ (work c).run d = .error .brokenOff after) ↔
        d.BreaksOff c ∧ after = ⟨{ d.attempt with state := .failed }, d.message.failed⟩) ∧
      (d.attempt.state.isTerminal = true ∨ d.attempt.state = .failed →
        ∀ c, (d.after c).attempt.state = d.attempt.state) ∧
      (d.attempt.state = .failed ↔ ∃ met ∈ taken, met.1.BreaksOff met.2) ∧ d.attempt.IsSettled ∧
      d.message.failRetryCount.toNat = min (m.failRetryCount.toNat + taken.countP isFailure) 0xFFFFFFFF ∧
      d.message.deliverCount.toNat = min (m.deliverCount.toNat + taken.countP isRedelivery) 0xFFFFFFFF ∧
      d.message = { m with
        deliverCount := d.message.deliverCount
        failRetryCount := d.message.failRetryCount
        isRetry := d.message.isRetry } ∧
      d.attempt.requestId = m.requestId ∧ d.attempt.handlerId = handlerId ∧
      d.attempt.startedAt = ((taken.filterMap beginning?).getLast?).getD start := by
  intro d taken
  have settled : d.attempt.IsSettled := settled_run (d := opened m handlerId start) rfl calls
  have tallies : Tallies (opened m handlerId start) d taken := tallies_run _ calls
  have failed := failed_run_iff (opened m handlerId start) calls
  refine ⟨d.goes_iff, fun c why after => refused_leaves_no_trace, fun c after => d.brokenOff_iff after c,
    state_after_of_stuck, failed.trans ?_, settled, tallies.failures, tallies.deliveries, tallies.rest,
    tallies.requestId, tallies.handlerId, tallies.startedAt⟩
  exact or_iff_right (nofun : State.pending ≠ .failed)

/-- A policy with a jitter too small to tell, and waits that a float rounds up to more seconds than words count. -/
private def roundedUp : RetryPolicy :=
  ⟨3, .ofSeconds 0xFFFFFFFFFFFFFFFF, .ofSeconds 0xFFFFFFFFFFFFFFFF, 1.0e-20, .fixed⟩

/-- A failure whose move the state allows is not done: it is counted, the attempt is left with nothing to do next, and
none of its calls is of any use from then on. -/
theorem failure_without_wait_is_left_undecided :
    let m : Message := ⟨"m", ⟨"orders", "created"⟩, [], 1, 0, 0, false, .timely, .epoch, none⟩
    let d := (opened m "mailer" .epoch).run [.begin .epoch]
    let after := d.after (.fail roundedUp 0.5)
    d.Allows (.fail roundedUp 0.5) ∧ (∀ action next, d.answer (.fail roundedUp 0.5) ≠ .done action next) ∧
      after.attempt.state = .failed ∧ after.attempt.nextAction = none ∧ after.message.failRetryCount = 1 ∧
      after.message.isRetry = false ∧ ∀ c, (after.after c).attempt.state = .failed := by
  intro m d after
  have breaks : d.BreaksOff (.fail roundedUp 0.5) := ⟨rfl, by decide +kernel⟩
  have half : after = d.halfway := after_of_breaksOff breaks
  have failed : after.attempt.state = .failed := by rw [half]; rfl
  refine ⟨allows_of_target rfl rfl, fun action next done => ?_, failed, by rw [half]; rfl, by rw [half]; rfl,
    by rw [half]; rfl, fun c => (state_after_of_stuck (.inr failed) c).trans failed⟩
  rw [answer_of_breaksOff breaks] at done
  cases done

end Docket
end Courier.Attempt
