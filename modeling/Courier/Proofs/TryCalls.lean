import Courier.Proofs.EngineActs
import Courier.Proofs.Tries

/-!
The calls of a try, in order. A worker says that the try starts and asks the interceptors up to the first that does not
let the message pass. If all do, it calls the handler, and once the handler is done it tells how the try has ended.
What interceptors decide and how a handler ends is written down along with the calls, so that the calls of a delivery
can be told from what it meets with (`Block`, `Blocks`).
-/
namespace Courier

namespace Delivery

/-! ### Interceptors -/

/-- The calls of some interceptors in order, from a place on, before the handler is called. -/
def askedFrom (m : Message) (place n : Nat) : List DeliveryCall := (List.range' place n).map (fun place => .before place m)

theorem consult_of_pass {decide : Decisions} {m : Message} (place n : Nat)
    (pass : ∀ other, place ≤ other → other < place + n → decide other m = .proceed) :
    consult decide m place n = (askedFrom m place n, .proceed) := by
  induction n generalizing place with
  | zero => rfl
  | succ n ih =>
    have here := pass place (Nat.le_refl _) (by omega)
    have later := ih (place + 1) (fun other low high => pass other (by omega) (by omega))
    simp only [consult, here, later]
    rfl

/-- No interceptor is asked after one that does not let the message pass. -/
theorem consult_of_stop {decide : Decisions} {m : Message} (place ahead n : Nat) (within : ahead < n)
    (pass : ∀ other, place ≤ other → other < place + ahead → decide other m = .proceed)
    (stops : decide (place + ahead) m ≠ .proceed) :
    consult decide m place n = (askedFrom m place (ahead + 1), decide (place + ahead) m) := by
  induction ahead generalizing place n with
  | zero =>
    obtain ⟨n, rfl⟩ : ∃ k, n = k + 1 := ⟨n - 1, by omega⟩
    rw [Nat.add_zero] at stops ⊢
    cases here : decide place m with
    | proceed => exact absurd here stops
    | shortCircuit =>
      simp only [consult, here]
      rfl
    | crash =>
      simp only [consult, here]
      rfl
  | succ ahead ih =>
    obtain ⟨n, rfl⟩ : ∃ k, n = k + 1 := ⟨n - 1, by omega⟩
    have here := pass place (Nat.le_refl _) (by omega)
    have next : place + 1 + ahead = place + (ahead + 1) := by omega
    have later := ih (place + 1) n (by omega) (fun other low high => pass other (by omega) (by omega)) (next ▸ stops)
    simp only [consult, here, later, next]
    rfl

/-- Either all interceptors let a message pass, or there is a first one that does not. -/
theorem pass_or_stop (decide : Decisions) (m : Message) (n : Nat) :
    (∀ place < n, decide place m = .proceed) ∨
      ∃ place < n, (∀ other < place, decide other m = .proceed) ∧ decide place m ≠ .proceed := by
  induction n with
  | zero => exact .inl (fun place below => absurd below (Nat.not_lt_zero place))
  | succ n ih =>
    rcases ih with pass | ⟨place, below, pass, stops⟩
    · by_cases last : decide n m = .proceed
      · left
        intro place below
        rcases Nat.lt_or_eq_of_le (Nat.lt_succ_iff.mp below) with earlier | rfl
        · exact pass place earlier
        · exact last
      · exact .inr ⟨n, Nat.lt_succ_self n, pass, last⟩
    · exact .inr ⟨place, Nat.lt_succ_of_lt below, pass, stops⟩

/-! ### Calls -/

variable (d : Delivery)

/-- The calls at the start of a try in which so many interceptors are asked. -/
def opening (asked : Nat) : List DeliveryCall :=
  .event (.attemptStarted d.context) :: (List.range asked).map (fun place => .before place d.message)

/-- The calls once a message counts as handled. -/
def thanks (interceptors : Nat) (shortCircuited : Bool) : List DeliveryCall :=
  (List.range interceptors).map (fun place => .after place d.message) ++ [.event (.acked d.context shortCircuited)]

/-- The calls once no tries are left. -/
def regrets (why : HandlerError) : List DeliveryCall :=
  .event (.exhausted d.context why.message) ::
    if d.trigger.hasFailCallback then [.failCallback d.message.failed why] else []

end Delivery

/-! ### What is written down -/

/-- What is written down about a delivery. -/
inductive LogEntry
  /-- A worker starts a try of the delivery, and this is what the interceptors decide. -/
  | opens (d : Delivery) (decide : Decisions)
  | call (c : DeliveryCall)
  /-- The handler is done. -/
  | answers (outcome : Except HandlerError Unit)

/-- Where a delivery stands. -/
inductive Standing
  /-- It waits for its next try. -/
  | waits (d : Delivery)
  /-- Its handler is at work. -/
  | atWork (d : Delivery)
  | acked
  | exhausted
  /-- An interceptor has broken off. -/
  | brokenOff

/-- The delivery if more is to come of it. -/
def Standing.delivery? : Standing → Option Delivery
  | .waits d | .atWork d => some d
  | _ => none

section Blocks
variable (interceptors : Nat) (policy : RetryPolicy)

/-- How a try goes on once its handler is done: the message is acknowledged, or the delivery waits for as long as the
policy says, or no tries are left. -/
inductive Concludes (d : Delivery) : Standing → List LogEntry → Prop
  | acked : Concludes d .acked (.answers (.ok ()) :: (d.thanks interceptors false).map .call)
  | retries {why : HandlerError} {wait : Span} (more : ¬ policy.maxRetries ≤ bump d.message.failRetryCount)
      (long : wait = policy.backoff (bump d.message.failRetryCount)) :
      Concludes d (.waits (d.retrying wait).waiting)
        [.answers (.error why), .call (.event (.retryScheduled { d.context with isRetry := true } why.message
          (Delivery.millisCapped wait)))]
  | exhausts {why : HandlerError} (last : policy.maxRetries ≤ bump d.message.failRetryCount) :
      Concludes d .exhausted (.answers (.error why) :: (d.regrets why).map .call)

/-- What is written down about one try of a delivery, given how the delivery is as it starts. -/
inductive Block (d : Delivery) : Standing → List LogEntry → Prop
  /-- All interceptors let the message pass, and the handler is called. -/
  | works {decide : Decisions} {now : Instant} (pass : ∀ place < interceptors, decide place (d.begun now).message = .proceed) :
      Block d (.atWork (d.begun now))
        (.opens d decide :: ((d.begun now).opening interceptors ++ [DeliveryCall.handler (d.begun now).message]).map .call)
  /-- And the handler is done. -/
  | concludes {b : Delivery} {standing : Standing} {first second : List LogEntry} (works : Block d (.atWork b) first)
      (ends : Concludes interceptors policy b standing second) : Block d standing (first ++ second)
  /-- An interceptor takes the handler's place. -/
  | skips {decide : Decisions} {now : Instant} {place : Nat} (within : place < interceptors)
      (pass : ∀ other < place, decide other (d.begun now).message = .proceed)
      (short : decide place (d.begun now).message = .shortCircuit) :
      Block d .acked
        (.opens d decide :: ((d.begun now).opening (place + 1) ++ (d.begun now).thanks interceptors true).map .call)
  /-- An interceptor breaks off. -/
  | breaksOff {decide : Decisions} {now : Instant} {place : Nat} (within : place < interceptors)
      (pass : ∀ other < place, decide other (d.begun now).message = .proceed)
      (crash : decide place (d.begun now).message = .crash) :
      Block d .brokenOff (.opens d decide :: ((d.begun now).opening (place + 1)).map .call)

/-- What is written down about the tries of a delivery. Each of them starts with the delivery as the one before has left
it, waiting. -/
inductive Blocks (d : Delivery) : Standing → List (List LogEntry) → Prop
  | none : Blocks d (.waits d) []
  | more {b : Delivery} {standing : Standing} {blocks : List (List LogEntry)} {block : List LogEntry}
      (before : Blocks d (.waits b) blocks) (next : Block interceptors policy b standing block) :
      Blocks d standing (blocks ++ [block])

end Blocks

/-! ### Where deliveries stand -/

section Standing
variable {interceptors : Nat} {policy : RetryPolicy} {d b : Delivery} {standing : Standing}
  {entries : List LogEntry} {blocks : List (List LogEntry)}

/-- Whether a delivery may stand somewhere: it waits as long as it is ready, and works while it is delivered. -/
def Standing.Fits (serial : Nat) : Standing → Prop
  | .waits b => b.serial = serial ∧ b.attempt.IsReady
  | .atWork b => b.serial = serial ∧ b.attempt.state = .delivering
  | _ => True

theorem Standing.Fits.delivery {serial : Nat} (fits : standing.Fits serial) (stands : standing.delivery? = some b) :
    b.serial = serial ∧ (b.attempt.IsReady ∨ b.attempt.state = .delivering) := by
  cases standing with
  | waits c => exact Option.some.inj stands ▸ ⟨fits.1, .inl fits.2⟩
  | atWork c => exact Option.some.inj stands ▸ ⟨fits.1, .inr fits.2⟩
  | acked => cases stands
  | exhausted => cases stands
  | brokenOff => cases stands

theorem Concludes.fits (ends : Concludes interceptors policy d standing entries) : standing.Fits d.serial := by
  cases ends with
  | acked => exact trivial
  | retries more long => exact ⟨rfl, .inr rfl⟩
  | exhausts last => exact trivial

theorem Block.fits (block : Block interceptors policy d standing entries) : standing.Fits d.serial := by
  induction block with
  | works pass => exact ⟨rfl, rfl⟩
  | concludes works ends ih => exact ih.1 ▸ ends.fits
  | skips within pass short => exact trivial
  | breaksOff within pass crash => exact trivial

theorem Blocks.fits (tried : Blocks interceptors policy d standing blocks) (ready : d.attempt.IsReady) :
    standing.Fits d.serial := by
  induction tried with
  | none => exact ⟨rfl, ready⟩
  | more before next ih => exact ih.1 ▸ next.fits

/-- A delivery that waits starts its next try, and the handler of one that is at work concludes the last. -/
theorem Blocks.goes {old : Standing} (tried : Blocks interceptors policy d old blocks) (ready : d.attempt.IsReady)
    (here : old.delivery? = some b)
    (goes : b.attempt.IsReady ∧ Block interceptors policy b standing entries ∨
      b.attempt.state = .delivering ∧ Concludes interceptors policy b standing entries) :
    ∃ after, after.flatten = blocks.flatten ++ entries ∧ Blocks interceptors policy d standing after := by
  have fits := tried.fits ready
  cases old with
  | waits c =>
    obtain rfl := Option.some.inj here
    rcases goes with ⟨_, next⟩ | ⟨delivering, _⟩
    · exact ⟨_, by simp, .more tried next⟩
    · exact absurd delivering fits.2.not_delivering
  | atWork c =>
    obtain rfl := Option.some.inj here
    rcases goes with ⟨waits, _⟩ | ⟨_, ends⟩
    · exact absurd fits.2 waits.not_delivering
    · cases tried with
      | @more c _ blocks block before next => exact ⟨blocks ++ [block ++ entries], by simp, .more before (.concludes next ends)⟩
  | acked => cases here
  | exhausted => cases here
  | brokenOff => cases here

/-- A delivery that is tried again has been told of as a retry at the end of every block. -/
theorem Blocks.retried (tried : Blocks interceptors policy d (.waits b) blocks) :
    ∀ block ∈ blocks, ∃ context why wait, block.getLast? = some (.call (.event (.retryScheduled context why wait))) := by
  generalize is : Standing.waits b = standing at tried
  induction tried generalizing b with
  | none => exact fun _ inside => nomatch inside
  | more before next ih =>
    subst is
    intro block inside
    rcases List.mem_append.mp inside with old | last
    · exact ih rfl block old
    · rw [List.mem_singleton.mp last]
      cases next with
      | concludes works ends =>
        cases ends with
        | retries more long =>
          rw [List.getLast?_append_of_ne_nil _ (List.cons_ne_nil _ _)]
          exact ⟨_, _, _, rfl⟩

theorem Blocks.retried_dropLast (tried : Blocks interceptors policy d standing blocks) :
    ∀ block ∈ blocks.dropLast, ∃ context why wait,
      block.getLast? = some (.call (.event (.retryScheduled context why wait))) := by
  cases tried with
  | none => exact fun _ inside => nomatch inside
  | more before next =>
    rw [List.dropLast_concat]
    exact before.retried

end Standing

/-! ### Workers -/

namespace Engine
variable {e : Engine} {d : Delivery}

/-- What a worker writes down when it starts a try: the first part of its block if the handler is at work then, and
otherwise the whole block. -/
theorem start_block (ready : d.attempt.IsReady) (ticket : Nat) (decide : Decisions) (now : Instant) :
    ∃ standing, Block e.interceptors e.config.policy d standing
        (.opens d decide :: (e.start ticket d decide now).2.1.map .call) ∧
      (standing = .atWork (d.begun now) ∧
          (e.start ticket d decide now).1.pool = e.pool.revise ticket (.delivery (d.begun now)) ∨
        standing.delivery? = none ∧ (e.start ticket d decide now).1.pool = e.pool.complete ticket) := by
  have started := Delivery.start_eq ready e.interceptors decide now
  rcases Delivery.pass_or_stop decide (d.begun now).message e.interceptors with pass | ⟨place, within, pass, stops⟩
  · rw [Delivery.consult_of_pass 0 e.interceptors (fun other _ below => pass other (by omega)), Delivery.askedFrom,
      ← List.range_eq_range'] at started
    refine ⟨_, ?_, .inl ⟨rfl, ?_⟩⟩
    · simp only [start, started]
      exact .works pass
    · simp only [start, started]
  · have first := Delivery.consult_of_stop 0 place e.interceptors within (fun other _ below => pass other (by omega))
      (by rwa [Nat.zero_add])
    rw [first, Nat.zero_add, Delivery.askedFrom, ← List.range_eq_range'] at started
    cases verdict : decide place (d.begun now).message with
    | proceed => exact absurd verdict stops
    | shortCircuit =>
      obtain ⟨last, acked⟩ := Delivery.acknowledge_eq (d := d.begun now) rfl e.interceptors true
      rw [verdict] at started
      refine ⟨.acked, ?_, .inr ⟨rfl, ?_⟩⟩
      · simp only [start, started, acknowledge, acked]
        exact .skips within pass verdict
      · simp only [start, started, acknowledge, acked]
        rfl
    | crash =>
      rw [verdict] at started
      refine ⟨.brokenOff, ?_, .inr ⟨rfl, ?_⟩⟩
      · simp only [start, started]
        exact .breaksOff within pass verdict
      · simp only [start, started]
        rfl

/-- What a worker writes down when its handler is done: the second part of the block. -/
theorem finish_concludes (delivering : d.attempt.state = .delivering) (steady : e.config.policy.jitter ≤ 0.0)
    (ticket : Nat) (outcome : Except HandlerError Unit) (draw : Float) :
    ∃ standing, Concludes e.interceptors e.config.policy d standing
        (.answers outcome :: (e.finish ticket d outcome draw).2.1.map .call) ∧
      ((e.finish ticket d outcome draw).2.2 = none ∧ standing.delivery? = none ∨
        ∃ retry wait, (e.finish ticket d outcome draw).2.2 = some (retry, wait) ∧ standing = .waits retry.waiting) := by
  cases outcome with
  | ok done =>
    obtain ⟨last, acked⟩ := Delivery.acknowledge_eq delivering e.interceptors false
    refine ⟨.acked, ?_, .inl ⟨?_, rfl⟩⟩
    · simp only [finish, acknowledge, acked]
      exact .acked
    · rfl
  | error why =>
    by_cases last : e.config.policy.maxRetries ≤ bump d.message.failRetryCount
    · obtain ⟨next, failed⟩ := Delivery.fail_exhaust_eq delivering last why draw
      refine ⟨.exhausted, ?_, .inl ⟨?_, rfl⟩⟩
      · simp only [finish, failed]
        exact .exhausts last
      · simp only [finish, failed]
    · have failed := Delivery.fail_retry_eq delivering last why (RetryPolicy.delay_of_steady steady _ draw)
      let wait := e.config.policy.backoff (bump d.message.failRetryCount)
      refine ⟨.waits (d.retrying wait).waiting, ?_, .inr ⟨d.retrying wait, wait, ?_, rfl⟩⟩
      · simp only [finish, failed]
        exact .retries last rfl
      · simp only [finish, failed]
        rfl

end Engine
end Courier
