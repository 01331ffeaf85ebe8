import Mathlib.Algebra.BigOperators.Finprod
import Courier.Proofs.FanOut

/-!
The two indexes of a registry. A registration looks whether the handler is known, and then writes the trigger into one
index after the other (`Registry.enter`); it looks before it writes, so that one that is refused leaves both as they
were (`Registry.register`). After any registrations both indexes hold the triggers of those that were not refused: one
of them by handler, the other by topic and in order.
-/
namespace Courier.Registry

/-! ### A registration, index by index -/

/-- Work on a registry. What was done before an error stays. -/
abbrev Registration := EStateM DeliveryError Registry

def indexByHandler (t : Trigger) : Registration Unit :=
  modify (fun r => { r with byHandler := r.byHandler.insert t.handlerId t })

def indexByTopic (t : Trigger) : Registration Unit :=
  modify (fun r => { r with byTopic := r.byTopic.insert t.topic (r.triggersFor t.topic ++ [t]) })

def enter (t : Trigger) : Registration Trigger := do
  if (← get).byHandler.contains t.handlerId then
    throw (.configuration ("handler " ++ t.handlerId ++ " registered twice"))
  indexByHandler t
  indexByTopic t
  return t

/-- Done index by index, a registration comes to the same. -/
theorem enter_run (r : Registry) (t : Trigger) :
    (enter t).run r =
      match r.register t with
      | .ok after => .ok t after
      | .error why => .error why r := by
  by_cases known : r.byHandler.contains t.handlerId
  · simp [enter, register, known]
  · simp [enter, register, known]
    rfl

/-! ### One registration after the other -/

/-- What a registry is like when it was offered a trigger, and the trigger if it was not refused. -/
def afterOffer (r : Registry) (t : Trigger) : Registry × Option Trigger :=
  match (enter t).run r with
  | .ok entered after => (after, some entered)
  | .error _ after => (after, none)

/-- An empty registry when it was offered some triggers, and those that were not refused. -/
def afterOffers (offers : List Trigger) : Registry × List Trigger :=
  offers.foldl (fun (r, entered) t => ((r.afterOffer t).1, entered ++ (r.afterOffer t).2.toList)) (.empty, [])

def after (offers : List Trigger) : Registry := (afterOffers offers).1

def entered (offers : List Trigger) : List Trigger := (afterOffers offers).2

theorem after_snoc (offers : List Trigger) (t : Trigger) : after (offers ++ [t]) = ((after offers).afterOffer t).1 := by
  rw [after, afterOffers, List.foldl_append]
  rfl

theorem entered_snoc (offers : List Trigger) (t : Trigger) :
    entered (offers ++ [t]) = entered offers ++ ((after offers).afterOffer t).2.toList := by
  rw [entered, afterOffers, List.foldl_append]
  rfl

/-- A registry holds the triggers that were not refused, in the order of their registrations. -/
theorem holds_after (offers : List Trigger) : (after offers).Holds (entered offers) := by
  induction offers using List.reverseRecOn with
  | nil => exact .empty
  | append_singleton offers t ih =>
    rw [after_snoc, entered_snoc, afterOffer, enter_run]
    cases taken : (after offers).register t with
    | ok next => exact ih.register taken
    | error why =>
      simp only [Option.toList_none, List.append_nil]
      exact ih

/-! ### What a registry holds -/

variable {ts : List Trigger} {r : Registry}

theorem register_of_known {t : Trigger} (known : r.byHandler.contains t.handlerId = true) :
    r.register t = .error (.configuration ("handler " ++ t.handlerId ++ " registered twice")) := by
  simp [register, known]

/-- No handler is registered twice. -/
theorem Holds.distinct (held : r.Holds ts) : (ts.map Trigger.handlerId).Nodup := by
  induction held with
  | empty => exact List.nodup_nil
  | @register ts r after t held taken ih =>
    rw [List.map_append]
    refine List.Nodup.append ih (List.nodup_singleton _) (fun handler inside last => ?_)
    have free := (register_ok taken).1
    rw [held.find, List.find?_eq_none] at free
    obtain ⟨other, member, same⟩ := List.mem_map.mp inside
    have is : handler = t.handlerId := List.mem_singleton.mp last
    exact free other member (by simpa using same.trans is)

theorem Holds.find_eq_some_iff (held : r.Holds ts) {handler : String} {t : Trigger} :
    r.find handler = some t ↔ t ∈ ts ∧ t.handlerId = handler := by
  rw [held.find]
  constructor
  · intro found
    exact ⟨List.mem_of_find?_eq_some found, by simpa using List.find?_some found⟩
  · rintro ⟨member, rfl⟩
    cases found : ts.find? (fun other => other.handlerId = t.handlerId) with
    | none => exact absurd (List.find?_eq_none.mp found t member) (by simp)
    | some other =>
      have same : other.handlerId = t.handlerId := by simpa using List.find?_some found
      exact congrArg some (List.inj_on_of_nodup_map held.distinct (List.mem_of_find?_eq_some found) member same)

theorem Holds.contains_iff (held : r.Holds ts) {handler : String} :
    r.byHandler.contains handler = true ↔ ∃ t ∈ ts, t.handlerId = handler := by
  rw [Table.contains_eq_true_iff]
  exact exists_congr (fun t => held.find_eq_some_iff)

theorem Holds.size (held : r.Holds ts) : r.size = ts.length := by
  induction held with
  | empty => rfl
  | @register ts r after t held taken ih =>
    obtain ⟨free, after_⟩ := register_ok taken
    have grown := (r.byHandler.entries_insert_perm t.handlerId t).length_eq
    rw [List.length_cons, Table.entries_erase_of_get?_none free] at grown
    rw [after_, List.length_append, ← ih]
    exact grown

/-- Of what a registry holds each trigger is listed under one topic. -/
theorem Holds.size_eq_finsum (held : r.Holds ts) : r.size = ∑ᶠ topic, (r.triggersFor topic).length := by
  have counted (topic : Topic) : (r.triggersFor topic).length = (ts.map Trigger.topic).count topic := by
    rw [held.triggersFor, ← List.countP_eq_length_filter, List.count, List.countP_map]
    rfl
  have listed : Function.support (fun topic => (r.triggersFor topic).length) ⊆ ((ts.map Trigger.topic).toFinset : Set Topic) := by
    intro topic some_
    rw [Function.mem_support, counted] at some_
    simpa using List.count_pos_iff.mp (Nat.pos_of_ne_zero some_)
  calc r.size = (ts.map Trigger.topic).length := by rw [held.size, List.length_map]
    _ = ∑ topic ∈ (ts.map Trigger.topic).toFinset, (ts.map Trigger.topic).count topic :=
      (List.sum_toFinset_count_eq_length _).symm
    _ = ∑ topic ∈ (ts.map Trigger.topic).toFinset, (r.triggersFor topic).length := by simp only [counted]
    _ = ∑ᶠ topic, (r.triggersFor topic).length := (finsum_eq_sum_of_support_subset _ listed).symm

/-- After any registrations the two indexes hold the same. A registration is refused just if its handler has a trigger,
of whatever topic, and then leaves everything as it was; any other one adds its trigger at the end. By its handler each
of these triggers is found, and no other; under its topic, and under no other one, it is listed once and in order. The
size counts what is listed under all topics together, and is zero just if all registrations were refused. -/
theorem indexes_hold_what_was_entered (offers : List Trigger) :
    let r := after offers
    let held := entered offers
    (∀ t, if ∃ other ∈ held, other.handlerId = t.handlerId then
        (enter t).run r = .error (.configuration ("handler " ++ t.handlerId ++ " registered twice")) r ∧
          after (offers ++ [t]) = r ∧ entered (offers ++ [t]) = held
      else ∃ next, (enter t).run r = .ok t next ∧ after (offers ++ [t]) = next ∧ entered (offers ++ [t]) = held ++ [t]) ∧
      (held.map Trigger.handlerId).Nodup ∧
      (∀ handler t, r.find handler = some t ↔ t ∈ held ∧ t.handlerId = handler) ∧
      (∀ topic, r.triggersFor topic = held.filter (fun t => t.topic = topic)) ∧
      (∀ handler t topic, r.find handler = some t → ((r.triggersFor topic).count t = if topic = t.topic then 1 else 0)) ∧
      r.size = held.length ∧ r.size = ∑ᶠ topic, (r.triggersFor topic).length ∧
      (r.isEmpty = true ↔ held = []) := by
  intro r held
  have holds : r.Holds held := holds_after offers
  refine ⟨fun t => ?_, holds.distinct, fun handler t => holds.find_eq_some_iff, holds.triggersFor, ?_, holds.size,
    holds.size_eq_finsum, ?_⟩
  · rw [after_snoc, entered_snoc, afterOffer, enter_run]
    split
    · rename_i known
      rw [register_of_known (holds.contains_iff.mpr known)]
      exact ⟨rfl, rfl, List.append_nil _⟩
    · rename_i unknown
      have free : r.byHandler.contains t.handlerId = false :=
        Bool.eq_false_iff.mpr (fun known => unknown (holds.contains_iff.mp known))
      have taken : r.register t =
          .ok ⟨r.byTopic.insert t.topic (r.triggersFor t.topic ++ [t]), r.byHandler.insert t.handlerId t⟩ := by
        simp [register, free]
      rw [taken]
      exact ⟨_, rfl, rfl, rfl⟩
  · intro handler t topic found
    have member := (holds.find_eq_some_iff.mp found).1
    rw [holds.triggersFor]
    split
    · rename_i same
      rw [List.count_filter (by simp [same])]
      exact List.count_eq_one_of_mem holds.distinct.of_map member
    · rename_i other
      refine List.count_eq_zero.mpr (fun inside => other ?_)
      have under : t.topic = topic := by simpa using (List.mem_filter.mp inside).2
      exact under.symm
  · rw [isEmpty, holds.size, decide_eq_true_eq, List.length_eq_zero_iff]

end Courier.Registry
