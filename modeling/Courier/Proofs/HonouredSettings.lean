import Courier.Poll.Basic
import Courier.Proofs.Backoffs
import Courier.Proofs.KeptRetries
import Courier.Proofs.PoolAdmissions
import Courier.Settings.Basic

/-!
What settings that were allowed come to in the parts that they make up. Each part puts bounds of its own on what it is
given: a poller turns settings down, a wait ends at the largest one, a pool and a handler's binding raise zero to one,
and a message is tried once even if no tries are allowed. Settings that pass the check stay clear of all those bounds,
so that every part does what was set.
-/
namespace Courier

theorem Growth.factor_pos (g : Growth) (n : Nat) : 0 < g.factor n := by
  cases g with
  | fixed => exact Nat.one_pos
  | linear => exact Nat.lt_of_lt_of_le Nat.one_pos (Nat.le_max_right ..)
  | exponential => exact Nat.pow_pos (by decide)

namespace Settings

/-! ### What the check asks for -/

/-- What is asked of settings. -/
structure Workable (s : Settings) : Prop where
  tries : s.retryMaxCount ≠ 0
  jitter : 0.0 ≤ s.retryJitter ∧ s.retryJitter ≤ 1.0
  waits : s.retryBackoffSeconds ≤ s.retryMaxDelaySeconds
  pollInterval : s.pollIntervalSeconds ≠ 0
  healthCheckInterval : s.healthCheckIntervalSeconds ≠ 0
  consumers : s.consumerCount ≠ 0
  workers : s.workers ≠ 0
  maxPending : s.maxPending ≠ 0
  poll : s.poll.validate = .ok ()

/-- A check that goes on is one that has not refused. -/
private theorem check_ok_iff {bad : Prop} [Decidable bad] {why : String} {rest : Except DeliveryError Unit} :
    (if bad then refuse why else rest) = .ok () ↔ ¬ bad ∧ rest = .ok () := by
  by_cases is : bad <;> simp [is, refuse]

theorem validate_ok_iff (s : Settings) : s.validate = .ok () ↔ s.Workable := by
  simp only [validate, check_ok_iff, not_not, UInt64.not_lt]
  constructor
  · rintro ⟨tries, jitter, waits, pollInterval, healthCheckInterval, consumers, workers, maxPending, poll⟩
    exact ⟨tries, jitter, waits, pollInterval, healthCheckInterval, consumers, workers, maxPending, poll⟩
  · rintro ⟨tries, jitter, waits, pollInterval, healthCheckInterval, consumers, workers, maxPending, poll⟩
    exact ⟨tries, jitter, waits, pollInterval, healthCheckInterval, consumers, workers, maxPending, poll⟩

theorem engine_ok {s : Settings} {hasBroker : Bool} {config : EngineConfig} (made : s.engine hasBroker = .ok config) :
    config = ⟨s.policy, s.retryRoute, s.pool, .ofSeconds s.shutdownTimeoutSeconds⟩ := by
  unfold engine at made
  split at made
  · cases made
  · exact (Except.ok.inj made).symm

theorem nanos_backoff (s : Settings) (n : UInt32) :
    (s.policy.backoff n).nanos =
      min (s.retryMaxDelaySeconds.toNat * 1000000000)
        (s.retryBackoffSeconds.toNat * 1000000000 * s.retryGrowth.factor n.toNat) := by
  rw [RetryPolicy.nanos_backoff]
  simp only [policy, Span.nanos_ofSeconds]

/-! ### The parts -/

namespace Workable

variable {s : Settings} (workable : s.Workable)
include workable

theorem poller : Poller.new s.poll = .ok ⟨s.poll, .empty⟩ := by
  simp only [Poller.new, workable.poll]
  rfl

theorem capacity : s.pool.capacity = s.maxPending :=
  Nat.max_eq_left (Nat.one_le_iff_ne_zero.mpr workable.maxPending)

theorem concurrency (topic : Topic) (handlerId : String) : (s.trigger topic handlerId).concurrency = s.consumerCount :=
  Nat.max_eq_left (Nat.one_le_iff_ne_zero.mpr workable.consumers)

/-- Waits begin at the base and end at the largest wait. -/
theorem backoff_bounds (n : UInt32) :
    .ofSeconds s.retryBackoffSeconds ≤ s.policy.backoff n ∧
      s.policy.backoff n ≤ .ofSeconds s.retryMaxDelaySeconds := by
  have waits := Nat.mul_le_mul_right 1000000000 (UInt64.le_iff_toNat_le.mp workable.waits)
  have multiple := Nat.le_mul_of_pos_right (s.retryBackoffSeconds.toNat * 1000000000) (s.retryGrowth.factor_pos n.toNat)
  constructor
  · show (Span.ofSeconds s.retryBackoffSeconds).nanos ≤ (s.policy.backoff n).nanos
    rw [nanos_backoff, Span.nanos_ofSeconds]
    exact Nat.le_min.mpr ⟨waits, multiple⟩
  · show (s.policy.backoff n).nanos ≤ (Span.ofSeconds s.retryMaxDelaySeconds).nanos
    rw [nanos_backoff, Span.nanos_ofSeconds]
    exact Nat.min_le_left ..

theorem backoff_fixed (fixed : s.retryGrowth = .fixed) (n : UInt32) :
    s.policy.backoff n = .ofSeconds s.retryBackoffSeconds := by
  have waits := Nat.mul_le_mul_right 1000000000 (UInt64.le_iff_toNat_le.mp workable.waits)
  apply Span.ext
  rw [nanos_backoff, Span.nanos_ofSeconds, fixed, Growth.factor, Nat.mul_one]
  exact Nat.min_eq_right waits

/-- The engine tries a message as often as is set. -/
theorem errand_tries {e : Errand} {hasBroker : Bool} (made : s.engine hasBroker = .ok e.config) :
    e.tries = s.retryMaxCount.toNat := by
  have positive : 0 < s.retryMaxCount.toNat :=
    Nat.pos_of_ne_zero (fun none => workable.tries (UInt32.toNat_inj.mp none))
  have limit : e.config.policy.maxRetries = s.retryMaxCount := by rw [engine_ok made]; rfl
  rw [Errand.tries, limit]
  exact Nat.max_eq_right positive

/-- Whatever has happened to a pool, it has the room that is set, and keeps to it. -/
theorem pool_run {α : Type} (steps : List (Pool.Step α)) :
    ((Pool.new s.pool).run steps).config.capacity = s.maxPending ∧
      ((Pool.new s.pool).run steps).outstanding ≤ s.maxPending := by
  obtain ⟨config, -, within⟩ := Pool.counts_run (Pool.new s.pool) steps (Nat.zero_le _)
  exact ⟨(congrArg PoolConfig.capacity config).trans workable.capacity, workable.capacity ▸ within⟩

theorem submit_ok_iff {α : Type} (steps : List (Pool.Step α)) (name : String) (limit : Nat) (work : α) :
    (∃ q, ((Pool.new s.pool).run steps).submit name limit work = .ok q) ↔
      ((Pool.new s.pool).run steps).accepting = true ∧ ((Pool.new s.pool).run steps).outstanding < s.maxPending := by
  rw [← (workable.pool_run steps).1]
  constructor
  · rintro ⟨q, taken⟩
    obtain ⟨accepting, free, -⟩ := Pool.submit_ok_iff.mp taken
    exact ⟨accepting, free⟩
  · rintro ⟨accepting, free⟩
    exact ⟨_, Pool.submit_ok_iff.mpr ⟨accepting, free, rfl⟩⟩

theorem submit_queueFull_iff {α : Type} (steps : List (Pool.Step α)) (name : String) (limit : Nat) (work : α) :
    ((Pool.new s.pool).run steps).submit name limit work = .error (.queueFull name s.maxPending) ↔
      ((Pool.new s.pool).run steps).accepting = true ∧ ((Pool.new s.pool).run steps).outstanding = s.maxPending := by
  obtain ⟨room, bounded⟩ := workable.pool_run steps
  rw [← room, Pool.submit_queueFull_iff, room]
  exact and_congr_right (fun _ => ⟨fun full => Nat.le_antisymm bounded full, fun is => is.ge⟩)

theorem outstanding_offers {α : Type} (offers : List (String × Nat × α)) :
    ((Pool.new s.pool).run (offers.map .ofOffer)).outstanding = min offers.length s.maxPending := by
  have counted := Pool.outstanding_offers (p := Pool.new s.pool) rfl (Nat.zero_le _) offers
  rw [counted, ← workable.capacity]
  show min (0 + offers.length) _ = _
  rw [Nat.zero_add]
  rfl

end Workable

/-! ### All together -/

/-- Settings that pass the check are honoured, however large they are. A poller can be made of them. Without jitter
waits lie between the base and the largest wait, and a wait that does not grow is the base. A handler that always fails
on a fresh message whose retries wait in process is called just as often as is set: never more often, so often once the
message is nowhere any more, and at any time there is a way on which it will be. A pool takes tasks in just as long as
fewer are outstanding than is set, and a handler's binding lets through as many at once as is set. -/
theorem valid_settings_are_honoured (s : Settings) (valid : s.validate = .ok ()) :
    Poller.new s.poll = .ok ⟨s.poll, .empty⟩ ∧
      (s.retryJitter ≤ 0.0 → ∀ n draw, ∃ wait, s.policy.delay n draw = some wait ∧
        .ofSeconds s.retryBackoffSeconds ≤ wait ∧ wait ≤ .ofSeconds s.retryMaxDelaySeconds ∧
        (s.retryGrowth = .fixed → wait = .ofSeconds s.retryBackoffSeconds)) ∧
      (∀ hasBroker (e : Errand), s.engine hasBroker = .ok e.config → s.retryRoute = .inProcess →
        (∀ k, (e.endings k).failure? ≠ none) → ∀ moves,
          (e.travel moves).handled ≤ s.retryMaxCount.toNat ∧
            ((e.travel moves).Settled → (e.travel moves).handled = s.retryMaxCount.toNat) ∧
            ∃ more, (e.travel (moves ++ more)).Settled ∧
              (e.travel (moves ++ more)).handled = s.retryMaxCount.toNat) ∧
      (∀ (α : Type) (steps : List (Pool.Step α)),
        let p := (Pool.new s.pool).run steps
        p.outstanding ≤ s.maxPending ∧ ∀ name limit work,
          ((∃ q, p.submit name limit work = .ok q) ↔ p.accepting = true ∧ p.outstanding < s.maxPending) ∧
            (p.submit name limit work = .error (.queueFull name s.maxPending) ↔
              p.accepting = true ∧ p.outstanding = s.maxPending)) ∧
      (∀ (α : Type) (offers : List (String × Nat × α)),
        ((Pool.new s.pool).run (offers.map .ofOffer)).outstanding = min offers.length s.maxPending) ∧
      ∀ topic handlerId, (s.trigger topic handlerId).concurrency = s.consumerCount := by
  have workable := s.validate_ok_iff.mp valid
  refine ⟨workable.poller, fun steady n draw => ?_, fun hasBroker e made inProcess fails moves => ?_,
    fun α steps => ⟨(workable.pool_run steps).2, fun name limit work => ?_⟩, fun α => workable.outstanding_offers,
    workable.concurrency⟩
  · have steady : s.policy.jitter ≤ 0.0 := steady
    obtain ⟨low, high⟩ := workable.backoff_bounds n
    exact ⟨s.policy.backoff n, RetryPolicy.delay_of_steady steady n draw, low, high,
      fun fixed => workable.backoff_fixed fixed n⟩
  · have route : e.config.route = .inProcess := by rw [engine_ok made, inProcess]
    rw [← workable.errand_tries made]
    exact e.failing_handler_is_called_as_allowed route fails moves
  · exact ⟨workable.submit_ok_iff steps name limit work, workable.submit_queueFull_iff steps name limit work⟩

/-- Settings with waits that no clock can count, and room for one task. -/
private def patient : Settings :=
  { standard with
    retryBackoffSeconds := 0xFFFFFFFFFFFFFFFF, retryMaxDelaySeconds := 0xFFFFFFFFFFFFFFFF, maxPending := 1 }

private theorem steady_patient : patient.retryJitter ≤ 0.0 := (by decide : (0.0 : Float) ≤ 0.0)

/-- A message that is never taken. -/
private def plea : Errand where
  start := .epoch
  config := ⟨patient.policy, .inProcess, patient.pool, .ofSeconds 30⟩
  registry := ⟨Table.empty.insert ⟨"orders", "created"⟩ [patient.trigger ⟨"orders", "created"⟩ "mailer"],
    Table.empty.insert "mailer" (patient.trigger ⟨"orders", "created"⟩ "mailer")⟩
  interceptors := 1
  polling := patient.poll
  message := ⟨"plea", ⟨"orders", "created"⟩, [], 1, 0, 0, false, .timely, .epoch, none⟩
  trigger := patient.trigger ⟨"orders", "created"⟩ "mailer"
  endings _ := .error ⟨"unreachable"⟩
  steady := steady_patient
  pollable := rfl
  fresh := by decide
  registered := rfl

/-- Its way to the end, past two alarms. -/
private def vigil : List Errand.Move :=
  [.act .pickUp, .act (.start 0), .act (.finish 0 0), .outlast 0 0, .act .pickUp, .act (.start 1), .act (.finish 1 0),
    .outlast 0 0, .act .pickUp, .act (.start 2), .act (.finish 2 0)]

theorem valid_settings_are_honoured_patient :
    patient.validate = .ok () ∧ patient.policy.delay 7 0.5 = some (.ofSeconds 0xFFFFFFFFFFFFFFFF) ∧
      patient.engine false = .ok plea.config ∧ (plea.travel vigil).Settled ∧ (plea.travel vigil).handled = 3 ∧
      ((Pool.new patient.pool).run ([("mail", 1, ()), ("post", 2, ())].map .ofOffer)).outstanding = 1 := by
  have valid : patient.validate = .ok () := rfl
  have made : patient.engine false = .ok plea.config := rfl
  have settled : (plea.travel vigil).Settled := ⟨by decide +kernel, by decide +kernel, by decide +kernel⟩
  obtain ⟨-, waits, calls, -, room, -⟩ := valid_settings_are_honoured patient valid
  obtain ⟨-, called, -⟩ := calls false plea made rfl (fun _ => nofun) vigil
  obtain ⟨wait, delay, -, -, fixed⟩ := waits steady_patient 7 0.5
  rw [fixed rfl] at delay
  exact ⟨valid, delay, made, settled, called settled, room Unit _⟩

end Settings
end Courier
