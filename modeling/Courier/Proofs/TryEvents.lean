import Courier.Proofs.Attempts
import Courier.Proofs.EngineActs

/-!
What is told about one try. A try that the attempt's state allows starts and says so, and its end is told of the same
attempt. All that a worker tells about the try that it holds goes together.
-/
namespace Courier

def DeliveryCall.event? : DeliveryCall → Option Event
  | .event e => some e
  | _ => none

/-- The events among some calls. -/
def events (calls : List DeliveryCall) : List Event := calls.filterMap DeliveryCall.event?

theorem events_append (a b : List DeliveryCall) : events (a ++ b) = events a ++ events b := List.filterMap_append ..

/-- What is told about one try: nothing, that it starts, or that it starts and how it ends. The end is told of the
same attempt, but if there is another try, it counts as a retry already. -/
inductive TryEvents : List Event → Prop
  | none : TryEvents []
  | started (attempt : AttemptContext) : TryEvents [.attemptStarted attempt]
  | acked (attempt : AttemptContext) (shortCircuited : Bool) :
      TryEvents [.attemptStarted attempt, .acked attempt shortCircuited]
  | retryScheduled (attempt : AttemptContext) (errorMessage : String) (retryInMs : UInt64) :
      TryEvents [.attemptStarted attempt, .retryScheduled { attempt with isRetry := true } errorMessage retryInMs]
  | exhausted (attempt : AttemptContext) (errorMessage : String) :
      TryEvents [.attemptStarted attempt, .exhausted attempt errorMessage]

/-- A move that succeeds is one that the state allows. -/
theorem Attempt.moveTo_ok {a moved : Attempt} {next : Attempt.State} (done : a.moveTo next = .ok moved) :
    a.state.canMoveTo next = true ∧ moved = { a with state := next } := by
  unfold moveTo at done
  split at done
  · rename_i allowed
    exact ⟨allowed, (Except.ok.inj done).symm⟩
  · cases done

theorem Attempt.isReady_iff {a : Attempt} : a.IsReady ↔ a.state.canMoveTo .delivering = true := by
  unfold Attempt.IsReady
  cases a.state <;> simp [State.canMoveTo]

theorem Attempt.delivering_of_canMoveTo {s next : Attempt.State} (ends : next = .acked ∨ next = .failed)
    (allowed : s.canMoveTo next = true) : s = .delivering := by
  rcases ends with rfl | rfl
  · cases s <;> simp_all [State.canMoveTo]
  · cases s <;> simp_all [State.canMoveTo]

namespace Delivery
variable {d next : Delivery} {calls : List DeliveryCall}

/-- Whether what has been told about the try of a delivery fits it: nothing before it starts, and then that it
starts. -/
def Announced (d : Delivery) (told : List Event) : Prop :=
  d.attempt.IsReady ∧ told = [] ∨ d.attempt.state = .delivering ∧ told = [.attemptStarted d.context]

theorem events_consult (decide : Decisions) (m : Message) (place n : Nat) : events (consult decide m place n).1 = [] := by
  induction n generalizing place with
  | zero => rfl
  | succ n ih =>
    unfold consult
    split
    · exact ih (place + 1)
    · rfl

/-- A try starts if it is ready, and says so first. -/
theorem events_start {interceptors : Nat} {decide : Decisions} {now : Instant} {verdict : Interception}
    (started : d.start interceptors decide now = .ok (next, calls, verdict)) :
    d.attempt.IsReady ∧ next = d.begun now ∧ events calls = [.attemptStarted next.context] := by
  have ready : d.attempt.IsReady := by
    cases moved : d.attempt.moveTo .delivering with
    | error why => simp [start, Attempt.begin, moved, bind, Except.bind] at started
    | ok a => exact Attempt.isReady_iff.mpr (Attempt.moveTo_ok moved).1
  rw [start_eq ready] at started
  cases started
  exact ⟨ready, rfl, congrArg (List.cons _) (events_consult ..)⟩

/-- An acknowledgement is told of the attempt that was at work. -/
theorem events_acknowledge {interceptors : Nat} {short : Bool}
    (done : d.acknowledge interceptors short = .ok (next, calls)) :
    d.attempt.state = .delivering ∧ events calls = [.acked d.context short] := by
  have delivering : d.attempt.state = .delivering := by
    cases moved : d.attempt.moveTo .acked with
    | error why => simp [acknowledge, Attempt.acknowledge, moved, bind, Except.bind] at done
    | ok a => exact Attempt.delivering_of_canMoveTo (.inl rfl) (Attempt.moveTo_ok moved).1
  obtain ⟨last, acked⟩ := acknowledge_eq delivering interceptors short
  rw [acked] at done
  cases done
  have silent : (List.range interceptors).filterMap (DeliveryCall.event? ∘ fun place => .after place d.message) = [] := by
    simp [Function.comp_def, DeliveryCall.event?]
  refine ⟨delivering, ?_⟩
  rw [events_append, events, List.filterMap_map, silent]
  rfl

/-- A failure is told of the attempt that was at work, which counts as a retry already if there is another try;
unless the policy breaks off, and nothing is told. -/
theorem events_fail {why : HandlerError} {policy : RetryPolicy} {draw : Float} {action : Option NextAction}
    (failed : d.fail why policy draw = .ok (next, calls, action)) :
    d.attempt.state = .delivering ∧
      ((∃ wait, action = some (.retry wait) ∧ next = d.retrying wait ∧
          events calls = [.retryScheduled { d.context with isRetry := true } why.message (millisCapped wait)]) ∨
        action = some .exhaust ∧ events calls = [.exhausted d.context why.message] ∨
        action = none ∧ events calls = []) := by
  have delivering : d.attempt.state = .delivering := by
    cases moved : d.attempt.moveTo .failed with
    | error why => simp [fail, Attempt.fail, moved, bind, Except.bind] at failed
    | ok a => exact Attempt.delivering_of_canMoveTo (.inr rfl) (Attempt.moveTo_ok moved).1
  refine ⟨delivering, ?_⟩
  by_cases last : policy.maxRetries ≤ bump d.message.failRetryCount
  · obtain ⟨ended, exhausts⟩ := fail_exhaust_eq delivering last why draw
    rw [exhausts] at failed
    cases failed
    refine .inr (.inl ⟨rfl, ?_⟩)
    cases d.trigger.hasFailCallback
    · rfl
    · rfl
  · cases waits : policy.delay (bump d.message.failRetryCount) draw with
    | none =>
      obtain ⟨ended, breaks⟩ := fail_broken delivering last why waits
      rw [breaks] at failed
      cases failed
      exact .inr (.inr ⟨rfl, rfl⟩)
    | some wait =>
      rw [fail_retry_eq delivering last why waits] at failed
      cases failed
      exact .inl ⟨wait, rfl, rfl, rfl⟩

end Delivery

namespace Engine

/-- Whether what is told at the end of a try goes with what has been told before. -/
structure Closes (d : Delivery) (now : Instant) (told : List Event) : Prop where
  whole : ∀ before, d.Announced before → TryEvents (before ++ told)
  started : ∀ attempt, .attemptStarted attempt ∈ told → d.attempt.IsReady ∧ attempt = (d.begun now).context

/-- A try that breaks the rules of the states ends silently. -/
theorem closes_nil (d : Delivery) (now : Instant) : Closes d now [] where
  whole := by
    rintro before (⟨_, rfl⟩ | ⟨_, rfl⟩)
    · exact .none
    · exact .started _
  started _ member := absurd member List.not_mem_nil

theorem closes_of_delivering {d : Delivery} (delivering : d.attempt.state = .delivering) (now : Instant) {e : Event}
    (ends : TryEvents [.attemptStarted d.context, e]) : Closes d now [e] where
  whole := by
    rintro before (⟨ready, _⟩ | ⟨_, rfl⟩)
    · exact absurd delivering ready.not_delivering
    · exact ends
  started := by
    intro attempt member
    cases ends
    · cases List.mem_singleton.mp member
    · cases List.mem_singleton.mp member
    · cases List.mem_singleton.mp member

/-- What a worker tells when it starts a try: that it starts, if the handler is at work then, and otherwise all that
there is to tell. -/
theorem start_tells (e : Engine) (ticket : Nat) (d : Delivery) (decide : Decisions) (now : Instant) :
    ((e.start ticket d decide now).1.pool = e.pool.revise ticket (.delivery (d.begun now)) ∧ d.attempt.IsReady ∧
        events (e.start ticket d decide now).2.1 = [.attemptStarted (d.begun now).context]) ∨
      (e.start ticket d decide now).1.pool = e.pool.complete ticket ∧
        Closes d now (events (e.start ticket d decide now).2.1) := by
  cases started : d.start e.interceptors decide now with
  | error why =>
    simp only [start, started]
    exact .inr ⟨rfl, closes_nil d now⟩
  | ok result =>
    obtain ⟨next, calls, verdict⟩ := result
    obtain ⟨ready, rfl, told⟩ := Delivery.events_start started
    -- what comes first is told of a try that was ready, so nothing has been told before
    have opens {more : List Event} (rest : TryEvents (.attemptStarted (d.begun now).context :: more))
        (only : ∀ attempt, .attemptStarted attempt ∉ more) :
        Closes d now (.attemptStarted (d.begun now).context :: more) := by
      constructor
      · rintro before (⟨_, rfl⟩ | ⟨state, _⟩)
        · exact rest
        · exact absurd state ready.not_delivering
      · intro attempt member
        rcases List.mem_cons.mp member with same | later
        · cases same
          exact ⟨ready, rfl⟩
        · exact absurd later (only attempt)
    cases verdict with
    | proceed =>
      simp only [start, started]
      exact .inl ⟨trivial, ready, by rw [events_append, told]; rfl⟩
    | shortCircuit =>
      right
      simp only [start, started]
      refine ⟨pool_acknowledge .., ?_⟩
      rw [events_append, told]
      unfold acknowledge
      cases done : (d.begun now).acknowledge e.interceptors true with
      | error why => exact opens (.started _) (fun _ => List.not_mem_nil)
      | ok result =>
        obtain ⟨last, calls⟩ := result
        simp only [(Delivery.events_acknowledge done).2]
        exact opens (.acked _ _) (by simp)
    | crash =>
      simp only [start, started, told]
      exact .inr ⟨rfl, opens (.started _) (fun _ => List.not_mem_nil)⟩

/-- What a worker tells when its handler is done, and the retry that may follow. -/
theorem finish_tells (e : Engine) (ticket : Nat) (d : Delivery) (outcome : Except HandlerError Unit) (draw : Float)
    (now : Instant) :
    Closes d now (events (e.finish ticket d outcome draw).2.1) ∧
      ∀ retry ∈ (e.finish ticket d outcome draw).2.2, d.attempt.state = .delivering ∧
        retry.1.attempt.startedAt = d.attempt.startedAt ∧ retry.1.attempt.IsReady := by
  unfold finish
  cases outcome with
  | ok done =>
    simp only
    refine ⟨?_, by simp⟩
    unfold acknowledge
    cases done : d.acknowledge e.interceptors false with
    | error why => exact closes_nil d now
    | ok result =>
      obtain ⟨delivering, told⟩ := Delivery.events_acknowledge done
      simp only [told]
      exact closes_of_delivering delivering now (.acked _ _)
  | error why =>
    simp only
    cases failed : d.fail why e.config.policy draw with
    | error why => exact ⟨closes_nil d now, by simp⟩
    | ok result =>
      obtain ⟨next, calls, action⟩ := result
      obtain ⟨delivering, ⟨wait, rfl, rfl, told⟩ | ⟨rfl, told⟩ | ⟨rfl, told⟩⟩ := Delivery.events_fail failed
      · simp only [told]
        refine ⟨closes_of_delivering delivering now (.retryScheduled _ _ _), ?_⟩
        rintro retry ⟨⟩
        exact ⟨delivering, rfl, .inr rfl⟩
      · simp only [told]
        exact ⟨closes_of_delivering delivering now (.exhausted _ _), by simp⟩
      · simp only [told]
        exact ⟨closes_nil d now, by simp⟩

end Engine
end Courier
