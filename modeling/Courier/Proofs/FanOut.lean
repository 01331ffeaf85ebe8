import Courier.Proofs.Recipients

/-!
How far a message gets. A message is for one handler or for all handlers of its topic, in the order in which they
were registered. It gets as far as the pool has room, and the answer says how far that was.
-/
namespace Courier

namespace Registry

/-- A registry in which these triggers have been registered, in this order. -/
inductive Holds : List Trigger → Registry → Prop
  | empty : Holds [] .empty
  | register {ts : List Trigger} {r after : Registry} {t : Trigger} (held : Holds ts r)
      (taken : r.register t = .ok after) : Holds (ts ++ [t]) after

theorem register_ok {r after : Registry} {t : Trigger} (taken : r.register t = .ok after) :
    r.find t.handlerId = none ∧
      after = ⟨r.byTopic.insert t.topic (r.triggersFor t.topic ++ [t]), r.byHandler.insert t.handlerId t⟩ := by
  by_cases known : r.byHandler.contains t.handlerId
  · simp [register, known] at taken
  · refine ⟨?_, by simpa [register, known] using taken.symm⟩
    cases found : r.byHandler.get? t.handlerId with
    | none => exact found
    | some other => exact absurd (Table.contains_eq_true_iff.mpr ⟨other, found⟩) known

theorem Holds.triggersFor {ts : List Trigger} {r : Registry} (held : r.Holds ts) (topic : Topic) :
    r.triggersFor topic = ts.filter (fun t => t.topic = topic) := by
  induction held with
  | empty => rfl
  | @register ts r after t _ taken ih =>
    rw [(register_ok taken).2, List.filter_append]
    by_cases same : t.topic = topic
    · subst same
      simp [Registry.triggersFor, Table.get?_insert, ← ih]
    · simp [Registry.triggersFor, Table.get?_insert, same, ← ih]

theorem Holds.find {ts : List Trigger} {r : Registry} (held : r.Holds ts) (handler : String) :
    r.find handler = ts.find? (fun t => t.handlerId = handler) := by
  induction held with
  | empty => rfl
  | @register ts r after t _ taken ih =>
    obtain ⟨free, after_⟩ := register_ok taken
    rw [List.find?_append, ← ih, after_]
    by_cases same : t.handlerId = handler
    · subst same
      simp [Registry.find, Table.get?_insert, show r.byHandler.get? t.handlerId = none from free]
    · simp [Registry.find, Table.get?_insert, same]

end Registry

namespace Engine

/-- The recipients of a message, read off from the order in which the triggers were registered. -/
theorem recipients_of_holds {e : Engine} {registered : List Trigger} (held : e.registry.Holds registered) (m : Message) :
    e.recipients m =
      match m.targetHandler with
      | some handler => (registered.find? (fun t => t.handlerId = handler)).map (fun t => [t])
      | none => some (registered.filter (fun t => t.topic = m.topic)) := by
  unfold recipients
  cases m.targetHandler with
  | none => exact congrArg some (held.triggersFor m.topic)
  | some handler => exact congrArg (Option.map _) (held.find handler)

theorem held_handed (e : Engine) (m : Message) (now : Instant) (ts : List Trigger) :
    (e.handed m now ts).pool.held = e.pool.held := by
  induction ts generalizing e with
  | nil => rfl
  | cons t rest ih => exact ih (e.handedTo m now t)

/-- Nobody gets a message while the pool is closed. -/
theorem dispatch_of_refusing {e : Engine} {m : Message} {first : Trigger} {rest : List Trigger}
    (known : e.recipients m = some (first :: rest)) (refusing : e.pool.accepting = false) (now : Instant) :
    e.dispatch m now = (.error (.rejected first.handlerId), e) := by
  rw [dispatch_eq_feed known, feed_of_refusing m now 0 first rest refusing]
  rfl

/-- A message that finds room for all its recipients goes to all. -/
theorem dispatch_of_free {e : Engine} {m : Message} {ts : List Trigger} (known : e.recipients m = some ts)
    (accepting : e.pool.accepting = true) (room : ts.length ≤ e.pool.config.capacity - e.pool.outstanding)
    (now : Instant) : e.dispatch m now = (.ok ts.length, e.handed m now ts) := by
  rw [dispatch_eq_feed known, feed_of_accepting m now 0 ts accepting rfl, List.getElem?_eq_none room,
    List.take_of_length_le room, Nat.zero_add]

/-- A message that does not stops at the first recipient for whom there is no room. -/
theorem dispatch_of_full {e : Engine} {m : Message} {ts : List Trigger} {next : Trigger} {free : Nat}
    (known : e.recipients m = some ts) (accepting : e.pool.accepting = true)
    (room : e.pool.config.capacity - e.pool.outstanding = free) (left : ts[free]? = some next) (now : Instant) :
    e.dispatch m now =
      (.error (stopped free (.queueFull next.handlerId e.pool.config.capacity)), e.handed m now (ts.take free)) := by
  rw [dispatch_eq_feed known, feed_of_accepting m now 0 ts accepting room, left]
  simp only [Nat.zero_add]

theorem length_tasksFor (m : Message) (now : Instant) (ticket serial : Nat) (ts : List Trigger) :
    (tasksFor m now ticket serial ts).length = ts.length := by
  induction ts generalizing ticket serial with
  | nil => rfl
  | cons t rest ih => exact congrArg (· + 1) (ih ..)

/-- Whatever becomes of a message, some triggers have got it and nothing else has happened. -/
theorem dispatch_hands (e : Engine) (m : Message) (now : Instant) :
    ∃ sent, (e.dispatch m now).2 = e.handed m now sent := by
  cases known : e.recipients m with
  | none =>
    obtain ⟨handler, _, unknown⟩ := dispatch_of_unknown known now
    exact ⟨[], by rw [unknown]; rfl⟩
  | some ts =>
    rw [dispatch_eq_feed known]
    cases accepting : e.pool.accepting with
    | true => exact ⟨_, by rw [feed_of_accepting m now 0 ts accepting rfl]⟩
    | false =>
      cases ts with
      | nil => exact ⟨[], rfl⟩
      | cons first rest => exact ⟨[], by rw [feed_of_refusing m now 0 first rest accepting]; rfl⟩

/-- What becomes of a message, in every state of the engine. If it is for a handler that is not known, nothing but an
error. If it is for nobody, nothing at all. If the pool is closed or full, the error of the first recipient and nothing
else. Otherwise the recipients get it in the order of registration, one delivery each, as far as there is room; the
answer counts them, and if there is not enough room it names the first recipient that did not get the message. The
engine counts what it has put into the pool. -/
theorem dispatch_tells_how_far_it_got (e : Engine) (m : Message) (now : Instant) :
    let bound := max 1 e.pool.config.maxPending
    let free := bound - e.pool.outstanding
    (∀ registered, e.registry.Holds registered → e.recipients m =
      match m.targetHandler with
      | some handler => (registered.find? (fun t => t.handlerId = handler)).map (fun t => [t])
      | none => some (registered.filter (fun t => t.topic = m.topic))) ∧
    (∀ sent, let after := e.handed m now sent
      after.pool.tasks.Perm (tasksFor m now e.pool.nextTicket e.dispatched sent ++ e.pool.tasks) ∧
        after.pool.held = e.pool.held ∧ after.dispatched = e.dispatched + sent.length) ∧
    (e.recipients m = none →
      ∃ handler, m.targetHandler = some handler ∧ e.dispatch m now = (.error (.unknownHandler handler), e)) ∧
    (∀ ts, e.recipients m = some ts →
      (ts = [] → e.dispatch m now = (.ok 0, e)) ∧
      (∀ first rest, ts = first :: rest → e.pool.accepting = false →
        e.dispatch m now = (.error (.rejected first.handlerId), e)) ∧
      (∀ first rest, ts = first :: rest → e.pool.accepting = true → free = 0 →
        e.dispatch m now = (.error (.queueFull first.handlerId bound), e)) ∧
      (e.pool.accepting = true → ts.length ≤ free → e.dispatch m now = (.ok ts.length, e.handed m now ts)) ∧
      (e.pool.accepting = true → 0 < free → ∀ few : free < ts.length,
        let why := DeliveryError.partialDispatch free (.queueFull ts[free].handlerId bound)
        e.dispatch m now = (.error why, e.handed m now (ts.take free)) ∧ why.delivered = free)) ∧
    ∃ queued, (e.dispatch m now).2.pool.tasks.Perm (queued ++ e.pool.tasks) ∧
      (e.dispatch m now).2.dispatched = e.dispatched + queued.length := by
  intro bound free
  have capacity : e.pool.config.capacity = bound := Nat.max_comm ..
  have room : e.pool.config.capacity - e.pool.outstanding = free := congrArg (· - e.pool.outstanding) capacity
  refine ⟨fun registered held => recipients_of_holds held m, fun sent => ?_, fun unknown => dispatch_of_unknown unknown now,
    fun ts known => ⟨?_, ?_, ?_, fun accepting all => ?_, fun accepting some_ few => ?_⟩, ?_⟩
  · exact ⟨tasks_handed e m now sent, held_handed e m now sent, (counts_handed e m now sent).1⟩
  · rintro rfl
    exact dispatch_eq_feed known now
  · rintro first rest rfl refusing
    exact dispatch_of_refusing known refusing now
  · rintro first rest rfl accepting none_
    rw [dispatch_of_full known accepting (room.trans none_) rfl now, capacity]
    rfl
  · exact dispatch_of_free known accepting (by rw [room]; exact all) now
  · refine ⟨?_, rfl⟩
    rw [dispatch_of_full known accepting room (List.getElem?_eq_getElem few) now, capacity, stopped,
      if_neg (Nat.ne_of_gt some_)]
  · obtain ⟨sent, after⟩ := dispatch_hands e m now
    refine ⟨_, by rw [after]; exact tasks_handed e m now sent, ?_⟩
    rw [after, (counts_handed e m now sent).1, length_tasksFor]

/-- Two handlers of a topic, and room for one of them. -/
example (policy : RetryPolicy) (now : Instant) :
    let topic : Topic := ⟨"orders", "created"⟩
    let registry : Registry := ⟨Table.empty.insert topic [.new topic "mail", .new topic "post"], .empty⟩
    let e := Engine.new ⟨policy, .inProcess, ⟨1, 1⟩, .zero⟩ registry 0
    (e.dispatch (.new "request" topic [] now) now).1 = .error (.partialDispatch 1 (.queueFull "post" 1)) := rfl

end Engine
end Courier
