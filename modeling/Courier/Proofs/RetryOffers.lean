import Courier.Proofs.RetryAlarms
import Courier.Proofs.ToldTries

/-!
What becomes of a retry that waits for an alarm. When the alarm goes off the retry is offered to the pool. If the pool
is full it goes on waiting, as it was, for another alarm; if the pool takes it, it is a task like any other and waits
no more; if the pool is closed it is dropped. So it is offered again and again until the pool takes it or is closed.
-/
namespace Courier

/-! ### What one act does to a retry -/

namespace System
variable {s after : System} {shut : Bool} {offer : Option Offer}

theorem Handles.config (handles : s.Handles after shut offer) : after.engine.config = s.engine.config := by
  cases handles with
  | leaves same => exact same.engine.config
  | @keeps between d wait same waits is =>
    rw [is, between.engine_await d wait]
    exact same.engine.config
  | offers found only due answers => cases answers <;> rfl
  | stops is => rw [is]; rfl

theorem Handles.nextRetry_le (handles : s.Handles after shut offer) : s.engine.nextRetry ≤ after.engine.nextRetry := by
  cases handles with
  | leaves same => exact Nat.le_of_eq same.engine.nextRetry.symm
  | @keeps between d wait same waits is =>
    rw [is, between.engine_await d wait, ← same.engine.nextRetry]
    exact Nat.le_succ _
  | offers found only due answers => cases answers <;> exact Nat.le_refl _
  | stops is => rw [is]; exact Nat.le_refl _

/-- The engine counts the retries that are turned away. -/
theorem Handles.deferredRetries (handles : s.Handles after shut offer) :
    after.engine.deferredRetries = s.engine.deferredRetries + offer.toList.countP Offer.isRefused := by
  cases handles with
  | leaves same => exact same.deferred
  | @keeps between d wait same waits is =>
    rw [is, between.engine_await d wait]
    exact same.deferred
  | offers found only due answers =>
    cases answers with
    | taken => rfl
    | refused => rfl
    | dropped => rfl
  | stops is => rw [is]; rfl

/-- What becomes of a retry that is not offered: it goes on waiting for its alarm, unless a shutdown starts. -/
structure Stays (s after : System) (id : Nat) (d : Delivery) (shut : Bool) : Prop where
  stays : shut = false → after.engine.pending.get? id = some d ∧ after.alarms.ofRetry id = s.alarms.ofRetry id
  goes : shut = true → after.engine.pending.get? id = none

/-- A retry that waits goes on waiting, or it is offered to the pool because its alarm is due. -/
theorem Handles.of_waiting (handles : s.Handles after shut offer) (armed : s.Armed) {id : Nat} {d : Delivery}
    (waits : s.engine.pending.get? id = some d) :
    ((∀ o ∈ offer, o.id ≠ id) ∧ s.Stays after id d shut) ∨
      ∃ alarm draw answer, shut = false ∧ offer = some ⟨id, d, s.count, answer⟩ ∧ s.alarms.ofRetry id = [alarm] ∧
        alarm.deadline ≤ s.count ∧ s.Answers alarm id d draw answer after := by
  cases handles with
  | leaves same =>
    refine .inl ⟨by simp, fun _ => ⟨?_, same.retries id⟩, by simp⟩
    rw [same.engine.pending]
    exact waits
  | @keeps between b wait same delayed is =>
    have known : id ≠ between.engine.nextRetry := by
      intro new
      rw [same.engine.nextRetry] at new
      rw [armed.unknown (Nat.le_of_eq new.symm)] at waits
      cases waits
    have pending : after.engine.pending.get? id = some d := by
      rw [is, between.engine_await b wait]
      show (between.engine.pending.insert _ _).get? id = some d
      rw [Table.get?_insert, if_neg (Ne.symm known), same.engine.pending]
      exact waits
    have alarms : after.alarms.ofRetry id = s.alarms.ofRetry id := by
      rw [is, ← same.retries]
      cases timers : between.engine.timersStopped with
      | true => rw [await_of_stopped timers]
      | false =>
        rw [between.await_eq b wait timers, Alarms.ofRetry_set, if_neg (Ne.symm known), List.append_nil]
    exact .inl ⟨by simp, fun _ => ⟨pending, alarms⟩, by simp⟩
  | @offers alarm other b draw answer found only due answers =>
    by_cases same : other = id
    · subst same
      obtain rfl := Option.some.inj (found.symm.trans waits)
      exact .inr ⟨alarm, draw, answer, rfl, rfl, only, due, answers⟩
    · obtain ⟨member, purpose⟩ := Alarms.mem_ofRetry.mp (only ▸ List.mem_singleton_self alarm)
      have rings : (s.alarms.without alarm).ofRetry id = s.alarms.ofRetry id :=
        Alarms.ofRetry_without_other armed.numbered member (by simpa [purpose] using same)
      have left : (s.engine.pending.erase other).get? id = some d := by
        rw [Table.get?_erase, if_neg same]
        exact waits
      refine .inl ⟨?_, ?_, by simp⟩
      · rintro o ⟨⟩
        exact same
      · intro _
        cases answers with
        | taken => exact ⟨left, rings⟩
        | refused => exact ⟨waits, by rw [Alarms.ofRetry_set, if_neg same, List.append_nil, rings]⟩
        | dropped => exact ⟨left, rings⟩
  | stops is => exact .inl ⟨by simp, by simp, fun _ => by rw [is]; rfl⟩

/-- A retry that is gone is gone for good. -/
theorem Handles.of_gone (handles : s.Handles after shut offer) {id : Nat} (gone : s.engine.pending.get? id = none)
    (known : id < s.engine.nextRetry) : (∀ o ∈ offer, o.id ≠ id) ∧ after.engine.pending.get? id = none := by
  cases handles with
  | leaves same => exact ⟨by simp, by rw [same.engine.pending]; exact gone⟩
  | @keeps between b wait same delayed is =>
    refine ⟨by simp, ?_⟩
    rw [is, between.engine_await b wait]
    show (between.engine.pending.insert _ _).get? id = none
    rw [Table.get?_insert, same.engine.nextRetry, if_neg (Nat.ne_of_gt known), same.engine.pending]
    exact gone
  | @offers alarm other b draw answer found only due answers =>
    have apart : other ≠ id := by
      rintro rfl
      cases found.symm.trans gone
    have left : (s.engine.pending.erase other).get? id = none := by
      rw [Table.get?_erase, if_neg apart]
      exact gone
    refine ⟨?_, ?_⟩
    · rintro o ⟨⟩
      exact apart
    · cases answers with
      | taken => exact left
      | refused => exact gone
      | dropped => exact left
  | stops is => exact ⟨by simp, by rw [is]; rfl⟩

end System

/-! ### Offers in the course of a run -/

namespace Chronicle
variable {w : Chronicle} {id : Nat} {d : Delivery}

/-- The offers of retries to the pool in the course of some acts. -/
def offers : Chronicle → List Depot.Act → List System.Offer
  | _, [] => []
  | w, a :: rest => (w.offer? a).toList ++ offers (w.act a) rest

/-- The offers of one retry. -/
def offersOf (w : Chronicle) (id : Nat) (acts : List Depot.Act) : List System.Offer :=
  (w.offers acts).filter (fun o => o.id = id)

theorem offersOf_cons_other {a : Depot.Act} (others : ∀ o ∈ w.offer? a, o.id ≠ id) (rest : List Depot.Act) :
    w.offersOf id (a :: rest) = (w.act a).offersOf id rest := by
  unfold offersOf
  rw [offers, List.filter_append, List.filter_eq_nil_iff.mpr, List.nil_append]
  intro o inside
  simpa using others o (Option.mem_toList.mp inside)

theorem offersOf_cons_self {a : Depot.Act} {o : System.Offer} (offered : w.offer? a = some o) (is : o.id = id)
    (rest : List Depot.Act) : w.offersOf id (a :: rest) = o :: (w.act a).offersOf id rest := by
  unfold offersOf
  rw [offers, offered]
  simp [is]

theorem deferredRetries_run (armed : w.system.Armed) (acts : List Depot.Act) :
    (w.run acts).system.engine.deferredRetries =
      w.system.engine.deferredRetries + (w.offers acts).countP System.Offer.isRefused := by
  induction acts generalizing w with
  | nil => rfl
  | cons a rest ih =>
    have here := (handles_act armed a).deferredRetries
    show ((w.act a).run rest).system.engine.deferredRetries = _
    rw [ih (armed_act armed a), here, offers, List.countP_append, Nat.add_assoc]

theorem offersOf_gone (armed : w.system.Armed) (gone : w.system.engine.pending.get? id = none)
    (known : id < w.system.engine.nextRetry) (acts : List Depot.Act) :
    w.offersOf id acts = [] ∧ (w.run acts).system.engine.pending.get? id = none := by
  induction acts generalizing w with
  | nil => exact ⟨rfl, gone⟩
  | cons a rest ih =>
    have handles := handles_act armed a
    obtain ⟨others, still⟩ := handles.of_gone gone known
    rw [offersOf_cons_other others]
    exact ih (armed_act armed a) still (Nat.lt_of_lt_of_le known handles.nextRetry_le)

/-- The offers of a retry in the course of some acts, and what has become of it in the end. -/
structure Offered (w : Chronicle) (id : Nat) (d : Delivery) (least : Nat) (acts : List Depot.Act) : Prop where
  /-- The retry is always offered as it was. -/
  same : ∀ o ∈ w.offersOf id acts, o.retry = d
  due : ∀ alarm ∈ w.system.alarms.ofRetry id, ∀ o ∈ w.offersOf id acts, alarm.deadline ≤ o.count
  apart : (w.offersOf id acts).Pairwise (fun a b => a.count + least ≤ b.count)
  /-- It is offered again only if the pool had no room. -/
  refused : ∀ o ∈ (w.offersOf id acts).dropLast, o.isRefused = true
  waits : (∀ o ∈ w.offersOf id acts, o.isRefused = true) → (∀ a ∈ acts, a.stops = false) →
    (w.run acts).system.engine.pending.get? id = some d
  ends : (∃ o ∈ w.offersOf id acts, o.isRefused = false) → (w.run acts).system.engine.pending.get? id = none

theorem offered_nil (waits : w.system.engine.pending.get? id = some d) (least : Nat) : w.Offered id d least [] where
  same _ inside := nomatch inside
  due _ _ _ inside := nomatch inside
  apart := .nil
  refused _ inside := nomatch inside
  waits _ _ := waits
  ends := by
    rintro ⟨o, inside, _⟩
    cases inside

section Cons
variable {least : Nat} {a : Depot.Act} {rest : List Depot.Act}

/-- An act in which the retry is not offered and no shutdown starts changes nothing. -/
theorem Offered.cons_other (offered : (w.act a).Offered id d least rest) (others : ∀ o ∈ w.offer? a, o.id ≠ id)
    (alarms : (w.act a).system.alarms.ofRetry id = w.system.alarms.ofRetry id) : w.Offered id d least (a :: rest) where
  same := by
    rw [offersOf_cons_other others]
    exact offered.same
  due := by
    rw [offersOf_cons_other others, ← alarms]
    exact offered.due
  apart := by
    rw [offersOf_cons_other others]
    exact offered.apart
  refused := by
    rw [offersOf_cons_other others]
    exact offered.refused
  waits := by
    rw [offersOf_cons_other others]
    intro refused running
    exact offered.waits refused (fun b inside => running b (List.mem_cons_of_mem a inside))
  ends := by
    rw [offersOf_cons_other others]
    exact offered.ends

/-- A retry that is turned away because the pool is full is offered again after another wait. -/
theorem Offered.cons_refused (offered : (w.act a).Offered id d least rest) {o alarm}
    (here : w.offer? a = some o) (is : o.id = id) (retry : o.retry = d) (full : o.isRefused = true)
    (due : ∀ b ∈ w.system.alarms.ofRetry id, b.deadline ≤ o.count)
    (later : alarm ∈ (w.act a).system.alarms.ofRetry id) (long : o.count + least ≤ alarm.deadline) :
    w.Offered id d least (a :: rest) where
  same := by
    rw [offersOf_cons_self here is]
    exact List.forall_mem_cons.mpr ⟨retry, offered.same⟩
  due b inside := by
    rw [offersOf_cons_self here is]
    refine List.forall_mem_cons.mpr ⟨due b inside, fun x member => ?_⟩
    have first := due b inside
    have next := offered.due alarm later x member
    omega
  apart := by
    rw [offersOf_cons_self here is]
    exact List.pairwise_cons.mpr ⟨fun x member => Nat.le_trans long (offered.due alarm later x member), offered.apart⟩
  refused := by
    rw [offersOf_cons_self here is]
    cases more : (w.act a).offersOf id rest with
    | nil => simp
    | cons next others =>
      rw [List.dropLast_cons_cons, ← more]
      exact List.forall_mem_cons.mpr ⟨full, offered.refused⟩
  waits := by
    rw [offersOf_cons_self here is]
    intro refused running
    exact offered.waits (fun x inside => refused x (List.mem_cons_of_mem o inside))
      (fun b inside => running b (List.mem_cons_of_mem a inside))
  ends := by
    rw [offersOf_cons_self here is]
    rintro ⟨x, member, taken⟩
    rcases List.mem_cons.mp member with rfl | inside
    · cases full.symm.trans taken
    · exact offered.ends ⟨x, inside, taken⟩

/-- A retry that is gone after an act is not offered again. -/
theorem offered_of_gone (armed : w.system.Armed) (known : id < w.system.engine.nextRetry)
    (gone : (w.act a).system.engine.pending.get? id = none)
    (offer : (∀ o ∈ w.offer? a, o.id ≠ id) ∧ a.stops = true ∨
      ∃ o, w.offer? a = some o ∧ o.id = id ∧ o.retry = d ∧ o.isRefused = false ∧
        ∀ b ∈ w.system.alarms.ofRetry id, b.deadline ≤ o.count) : w.Offered id d least (a :: rest) := by
  obtain ⟨none, still⟩ := offersOf_gone (armed_act armed a) gone
    (Nat.lt_of_lt_of_le known (handles_act armed a).nextRetry_le) rest
  rcases offer with ⟨others, stops⟩ | ⟨o, here, is, retry, taken, due⟩
  · have all : w.offersOf id (a :: rest) = [] := (offersOf_cons_other others rest).trans none
    constructor
    · simp [all]
    · simp [all]
    · simp [all]
    · simp [all]
    · intro _ running
      cases (running a List.mem_cons_self).symm.trans stops
    · intro _
      exact still
  · have all : w.offersOf id (a :: rest) = [o] := by rw [offersOf_cons_self here is, none]
    constructor
    · simpa [all] using retry
    · simpa [all] using due
    · simp [all]
    · simp [all]
    · intro refused
      rw [all] at refused
      cases (refused o List.mem_cons_self).symm.trans taken
    · intro _
      exact still

end Cons

/-- A retry is offered until the pool takes it or is closed, each time after another wait. -/
theorem offered_run (armed : w.system.Armed) (waits : w.system.engine.pending.get? id = some d) {least : Nat}
    (long : ∀ draw wait, w.system.engine.config.policy.delay d.message.failRetryCount draw = some wait →
      least ≤ (wait.longer Engine.shortestWait).nanos) (acts : List Depot.Act) : w.Offered id d least acts := by
  induction acts generalizing w with
  | nil => exact offered_nil waits least
  | cons a rest ih =>
    have handles := handles_act armed a
    have long' := long
    rw [← handles.config] at long'
    have known := armed.known_of_waits waits
    rcases handles.of_waiting armed waits with ⟨others, stays, goes⟩ | ⟨alarm, draw, answer, _, here, only, due, answers⟩
    · cases stops : a.stops with
      | true => exact offered_of_gone armed known (goes stops) (.inl ⟨others, stops⟩)
      | false =>
        obtain ⟨still, alarms⟩ := stays stops
        exact (ih (armed_act armed a) still long').cons_other others alarms
    · have early : ∀ b ∈ w.system.alarms.ofRetry id, b.deadline ≤ w.system.count := by simpa [only] using due
      generalize after : (w.act a).system = s at answers
      cases answers with
      | taken =>
        refine offered_of_gone armed known ?_ (.inr ⟨_, here, rfl, rfl, rfl, early⟩)
        rw [after]
        simp [Table.get?_erase]
      | dropped =>
        refine offered_of_gone armed known ?_ (.inr ⟨_, here, rfl, rfl, rfl, early⟩)
        rw [after]
        simp [Table.get?_erase]
      | refused delay =>
        have again : (w.act a).Offered id d least rest := by
          refine ih (armed_act armed a) ?_ long'
          rw [after]
          exact waits
        have alarms : ∃ later ∈ (w.act a).system.alarms.ofRetry id, w.system.count + least ≤ later.deadline := by
          obtain ⟨member, _⟩ := Alarms.mem_ofRetry.mp (only ▸ List.mem_singleton_self alarm)
          rw [after, Alarms.ofRetry_set, Alarms.ofRetry_without_self armed.numbered member only, if_pos rfl]
          exact ⟨_, List.mem_singleton_self _, Nat.add_le_add_left (long draw _ delay) _⟩
        obtain ⟨later, inside, apart⟩ := alarms
        exact again.cons_refused here rfl rfl rfl early inside apart

/-! ### The try of a retry -/

/-- Whether a task is the next try of a delivery: it is waiting for a worker as it came in, or it has started from
that. -/
structure Carries (w : Chronicle) (ticket : Nat) (d : Delivery) : Prop where
  known : ticket < w.system.engine.pool.nextTicket
  work : ∀ job ∈ w.system.engine.pool.tasks, job.ticket = ticket →
    job.work = .delivery d ∨ ∃ now, job.work = .delivery (d.begun now)
  told : ∀ c, .attemptStarted c ∈ w.toldOf ticket → ∃ now, c = (d.begun now).context

section Carries
variable {ticket : Nat}

/-- A try that starts is that of the delivery as it came in. -/
theorem Carries.of_isReady (carries : w.Carries ticket d) {job : Job Task} {b : Delivery}
    (found : w.system.engine.pool.held.find? (fun job => job.ticket == ticket) = some job) (is : job.work = .delivery b)
    (ready : b.attempt.IsReady) : b = d := by
  have hit : job.ticket = ticket := by simpa using List.find?_some found
  rcases carries.work job (Pool.mem_tasks_of_held (List.mem_of_find?_eq_some found)) hit with same | ⟨now, begun⟩
  · rw [is] at same
    exact Task.delivery.inj same
  · rw [is] at begun
    rw [Task.delivery.inj begun] at ready
    exact absurd rfl ready.not_delivering

/-- Tasks that come in later are no tries of the delivery. -/
theorem Carries.silent (carries : w.Carries ticket d) {P : Task → Prop} {depot : Depot}
    (pool : w.system.engine.pool.Admits P depot.system.engine.pool) (source : Option Source) (rest : Option Rest) :
    (w.note depot source [] rest).Carries ticket d where
  known := Nat.lt_of_lt_of_le carries.known pool.tickets
  work job member hit := by
    rcases pool.tasks job member with old | ⟨late, _⟩
    · exact carries.work job old hit
    · exact absurd (hit ▸ late) (Nat.not_le.mpr carries.known)
  told c member := by
    have same : (w.note depot source [] rest).toldOf ticket = w.toldOf ticket := by simp [toldOf, note]
    exact carries.told c (same ▸ member)

/-- A worker goes on with the try that it holds. -/
theorem Carries.tells (carries : w.Carries ticket d) {depot : Depot} {other : Nat} {job : Job Task} {b : Delivery}
    (found : w.system.engine.pool.held.find? (fun job => job.ticket == other) = some job) (is : job.work = .delivery b)
    (next : w.system.engine.pool.nextTicket ≤ depot.system.engine.pool.nextTicket) (told : List Event)
    (started : ∀ c, .attemptStarted c ∈ told → b.attempt.IsReady ∧ ∃ now, c = (b.begun now).context)
    (tasks : ∀ x ∈ depot.system.engine.pool.tasks, x ∈ w.system.engine.pool.tasks ∨
      x.ticket = other ∧ b.attempt.IsReady ∧ ∃ now, x.work = .delivery (b.begun now)) (rest : Option Rest) :
    (w.note depot none (told.map (fun e => (other, e))) rest).Carries ticket d where
  known := Nat.lt_of_lt_of_le carries.known next
  work x member hit := by
    rcases tasks x member with old | ⟨same, ready, begun⟩
    · exact carries.work x old hit
    · rw [← carries.of_isReady (hit ▸ same ▸ found) is ready]
      exact .inr begun
  told c member := by
    rw [toldOf_note] at member
    rcases List.mem_append.mp member with old | new
    · exact carries.told c old
    · by_cases same : other = ticket
      · rw [if_pos same] at new
        obtain ⟨ready, begun⟩ := started c new
        rw [← carries.of_isReady (same ▸ found) is ready]
        exact begun
      · rw [if_neg same] at new
        cases new

theorem Carries.note (carries : w.Carries ticket d) (orderly : w.system.Orderly) {depot : Depot} {source : Option Source}
    {told : List (Nat × Event)} {rest : Option Rest} (change : w.system.Change depot.system source told rest) :
    (w.note depot source told rest).Carries ticket d := by
  have next := change.nextTicket_le
  cases change with
  | idles engine pool counted alarms => exact carries.silent pool none none
  | takes outside engine alarms => exact carries.silent engine.pool _ none
  | resubmits member purpose due engine pool counted alarms => exact carries.silent pool _ none
  | @begins other job b found is ready engine pool counted alarms =>
    refine carries.tells found is next [.attemptStarted (b.begun w.system.now).context] ?_ ?_ none
    · intro c member
      cases List.mem_singleton.mp member
      exact ⟨ready, _, rfl⟩
    · intro x member
      rw [pool] at member
      rcases Pool.mem_tasks_revise orderly.accounted found member with rfl | ⟨old, _⟩
      · exact .inr ⟨by simpa using List.find?_some found, ready, _, rfl⟩
      · exact .inl old
  | @ends other job b told rest found is closes pool counted leaves =>
    refine carries.tells found is next told (fun c member => ?_) (fun x member => ?_) rest
    · obtain ⟨ready, same⟩ := closes.started c member
      exact ⟨ready, _, same⟩
    · rw [pool] at member
      exact .inl (Pool.mem_tasks_complete orderly.accounted found member).1

theorem carries_run (carries : w.Carries ticket d) (faithful : w.Faithful) (acts : List Depot.Act) :
    (w.run acts).Carries ticket d := by
  have both : (w.run acts).Carries ticket d ∧ (w.run acts).Faithful := by
    refine run_keeps (P := fun w => w.Carries ticket d ∧ w.Faithful) ⟨carries, faithful⟩ ?_
    rintro w a _ ⟨carries, faithful⟩
    obtain ⟨source, told, rest, is, change, _⟩ := act_cases faithful.orderly a
    refine ⟨?_, faithful.act a⟩
    rw [is]
    exact carries.note faithful.orderly change
  exact both.1

/-- A delivery that the pool has just taken is there as it came in, and nothing has been told about its try. -/
theorem carries_entered (faithful : w.Faithful) (ready : d.attempt.IsReady) {p : Pool Task} (inv : p.Accounted)
    {name : String} {limit : Nat} (pool : w.system.engine.pool = p.entered name limit (.delivery d)) :
    w.Carries p.nextTicket d := by
  have tasks : w.system.engine.pool.tasks.Perm (⟨p.nextTicket, name, .delivery d⟩ :: p.tasks) := by
    rw [pool]
    exact Pool.tasks_entered p name limit (.delivery d)
  refine ⟨?_, fun job member hit => ?_, fun c member => ?_⟩
  · rw [pool]
    exact Nat.lt_succ_self _
  · rcases List.mem_cons.mp (tasks.mem_iff.mp member) with rfl | old
    · exact .inl rfl
    · exact absurd hit (Nat.ne_of_lt (inv.fresh job old))
  · rcases faithful.tasks _ (tasks.mem_iff.mpr List.mem_cons_self) d rfl with ⟨_, none⟩ | ⟨delivering, _⟩
    · rw [none] at member
      cases member
    · exact absurd delivering ready.not_delivering

end Carries

/-! ### Answers -/

/-- What the pool's answer to the offer of a retry does to the engine, and which task there is then if the pool has
taken it. -/
structure Settles (w : Chronicle) (a : Depot.Act) (o : System.Offer) (last : Chronicle) : Prop where
  answer : o.answer = .ok () ∨ o.isRefused = true ∨ ∃ name, o.answer = .error (.rejected name)
  /-- A full pool leaves all as it is. -/
  refused : o.isRefused = true → (w.act a).system.engine =
    { w.system.engine with deferredRetries := w.system.engine.deferredRetries + 1 }
  dropped : ∀ name, o.answer = .error (.rejected name) → (w.act a).system.engine =
    { w.system.engine with pending := w.system.engine.pending.erase o.id }
  taken : o.answer = .ok () →
    (w.act a).system.engine = { w.system.engine with
      pool := (w.act a).system.engine.pool, pending := w.system.engine.pending.erase o.id } ∧
    (w.act a).system.engine.pool.tasks.Perm
      (⟨w.system.engine.pool.nextTicket, o.retry.trigger.handlerId, .delivery o.retry⟩ :: w.system.engine.pool.tasks) ∧
    last.Carries w.system.engine.pool.nextTicket o.retry

theorem settles_of_offer (armed : w.system.Armed) (faithful : w.Faithful) {a : Depot.Act} {o : System.Offer}
    (offered : w.offer? a = some o) (rest : List Depot.Act) : w.Settles a o ((w.act a).run rest) := by
  have handles := handles_act armed a
  rw [offered] at handles
  generalize a.stops = shut at handles
  cases handles with
  | @offers alarm id d draw answer found only due answers =>
    have ready : d.attempt.IsReady := .inr (armed.scheduled id d found)
    generalize after : (w.act a).system = s at answers
    cases answers with
    | taken =>
      refine ⟨.inl rfl, nofun, nofun, fun _ => ⟨by rw [after], ?_, ?_⟩⟩
      · rw [after]
        exact Pool.tasks_entered ..
      · have carries := carries_entered (faithful.act a) ready faithful.orderly.accounted
          (congrArg (fun s : System => s.engine.pool) after)
        exact carries_run carries (faithful.act a) rest
    | refused => exact ⟨.inr (.inl rfl), fun _ => by rw [after], nofun, nofun⟩
    | dropped => exact ⟨.inr (.inr ⟨_, rfl⟩), nofun, fun _ _ => by rw [after], nofun⟩

theorem config_run (armed : w.system.Armed) (acts : List Depot.Act) :
    (w.run acts).system.engine.config = w.system.engine.config := by
  have both : (w.run acts).system.Armed ∧ (w.run acts).system.engine.config = w.system.engine.config := by
    refine run_keeps (P := fun v => v.system.Armed ∧ v.system.engine.config = w.system.engine.config) ⟨armed, rfl⟩ ?_
    rintro v a _ ⟨armed, config⟩
    exact ⟨armed_act armed a, (handles_act armed a).config.trans config⟩
  exact both.2

theorem run_append (w : Chronicle) (before after : List Depot.Act) : w.run (before ++ after) = (w.run before).run after :=
  List.foldl_append

/-- A retry that waits here is offered to the pool, as it is, until the pool takes it or is closed. Each time the pool
has no room the engine counts it and does nothing else, and the retry waits at least as long as its policy says, and not
less than the shortest wait. Once the pool takes it, it is one task, whose try starts from there and counts as a
delivery of its own. -/
theorem refused_retries_wait_again (clock : Clock) (broker : Broker) {config : EngineConfig} (registry : Registry)
    (interceptors : Nat) (pollers : List Poller) (before acts : List Depot.Act) {id : Nat} {d : Delivery}
    (steady : config.policy.jitter ≤ 0.0)
    (waits : ((opened clock broker config registry interceptors pollers).run before).system.engine.pending.get? id = some d) :
    let w := (opened clock broker config registry interceptors pollers).run before
    let last := w.run acts
    w.Offered id d (max (config.policy.backoff d.message.failRetryCount).nanos Engine.shortestWait.nanos) acts ∧
      last.system.engine.deferredRetries =
        w.system.engine.deferredRetries + (w.offers acts).countP System.Offer.isRefused ∧
      (last.system.engine.timersStopped = false → ∀ b, last.system.engine.pending.get? id = some b →
        ∃ alarm, last.system.alarms.ofRetry id = [alarm]) ∧
      (∀ first a rest o, acts = first ++ a :: rest → (w.run first).offer? a = some o → (w.run first).Settles a o last) ∧
      d.attempt.state = .retryScheduled ∧
      ∀ now, (d.begun now).message = { d.message with deliverCount := bump d.message.deliverCount } ∧
        ∀ decide, ∃ calls verdict, d.start interceptors decide now =
          .ok (d.begun now, .event (.attemptStarted (d.begun now).context) :: calls, verdict) := by
  intro w last
  have opened' := armed_opened clock broker (RetryPolicy.alwaysWaits_of_steady steady) registry interceptors pollers
  have armed : w.system.Armed := armed_run opened' before
  have faithful : w.Faithful := run_keeps (faithful_opened clock broker config registry interceptors pollers)
    (fun _ a _ faithful => faithful.act a)
  have same : w.system.engine.config = config := config_run opened' before
  have scheduled := armed.scheduled id d waits
  refine ⟨offered_run armed waits (fun draw wait delay => ?_) acts, deferredRetries_run armed acts, ?_, ?_, scheduled, ?_⟩
  · rw [same, RetryPolicy.delay_of_steady steady] at delay
    rw [← Option.some.inj delay, Span.nanos_longer]
  · intro running b found
    exact (armed_run armed acts).armed running id b found
  · rintro first a rest o rfl offered
    have is : last = ((w.run first).act a).run rest := run_append w first (a :: rest)
    rw [is]
    refine settles_of_offer (armed_run armed first) ?_ offered rest
    exact run_keeps faithful (fun _ a _ faithful => faithful.act a)
  · intro now
    refine ⟨?_, fun decide => ⟨_, _, Delivery.start_eq (.inr scheduled) ..⟩⟩
    simp [Delivery.begun, Attempt.isRedelivery, scheduled]

/-- A pool with room for one task. -/
private def narrow : EngineConfig := ⟨.standard, .inProcess, ⟨1, 1⟩, .zero⟩

private def florist : Trigger := .new ⟨"flowers", "ordered"⟩ "florist"

private def bouquet : Message := ⟨"bouquet", ⟨"flowers", "ordered"⟩, [], 1, 0, 0, false, .timely, .epoch, none⟩

/-- A handler fails, and another task takes the only place in the pool. -/
private def morning : List Depot.Act :=
  [.outside (.deliver bouquet florist), .outside .pickUp,
    .outside (.start 0 (fun _ _ => .proceed)), .outside (.finish 0 (.error ⟨"out of roses"⟩) 0),
    .outside (.occupy "stocktaking" 1)]

/-- The pool has no room when the first wait of the retry is over, but it has when the second one is. -/
private def afternoon : List Depot.Act :=
  [.outside (.passTo 3000000000), .outside (.ring 0 0), .outside .pickUp, .outside (.release 1),
    .outside (.passTo 6000000000), .outside (.ring 0 0), .outside .pickUp,
    .outside (.start 2 (fun _ _ => .proceed))]

theorem refused_retries_wait_again_florist :
    let w := (opened (.startedAt .epoch) .empty narrow .empty 0 []).run morning
    ∃ d, w.system.engine.pending.get? 0 = some d ∧
      (w.offersOf 0 afternoon).map (fun o => (o.count, o.isRefused)) = [(3000000000, true), (6000000000, false)] ∧
      (w.run afternoon).system.engine.deferredRetries = 1 ∧ w.Offered 0 d 3000000000 afternoon := by
  intro w
  have waits : w.system.engine.pending.get? 0 = some
      ⟨0, { bouquet with failRetryCount := 1, isRetry := true }, florist,
        ⟨"bouquet", "florist", .epoch, .retryScheduled, some (.retry (.ofSeconds 3))⟩⟩ := by
    decide +kernel
  have offers : (w.offersOf 0 afternoon).map (fun o => (o.count, o.isRefused)) =
      [(3000000000, true), (6000000000, false)] := by
    decide +kernel
  have deferred : (w.run afternoon).system.engine.deferredRetries = 1 := by decide +kernel
  have steady : narrow.policy.jitter ≤ 0.0 := by decide +kernel
  have pause : max (narrow.policy.backoff 1).nanos Engine.shortestWait.nanos = 3000000000 := by decide +kernel
  obtain ⟨offered, _⟩ :=
    refused_retries_wait_again (.startedAt .epoch) .empty .empty 0 [] morning afternoon steady waits
  rw [pause] at offered
  exact ⟨_, waits, offers, deferred, offered⟩

end Chronicle
end Courier
