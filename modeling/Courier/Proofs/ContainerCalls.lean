import Courier.Proofs.ContainerStates
import Courier.Scenario.WatchdogRun

/-!
What containers are asked in the course of a history. Only a check that destroys or registers asks for anything, and it
asks each container that is not in the wanted state once, in the order of the list. Whether one is asked depends on
nothing but the watchdog and its own state, so that a container never notices what the others refuse. As long as nobody
refuses and nobody else interferes, all containers are as the watchdog means them to be, and each of them has been asked
as often as the watchdog has destroyed and registered.
-/
namespace Courier

@[simp] theorem Request.concerns_destroy (x : Container) : Request.destroy.concerns x = x.active := by
  simp [concerns, wanted]

@[simp] theorem Request.concerns_register (x : Container) : Request.register.concerns x = !x.active := by
  simp [concerns, wanted]

namespace Transition

/-- Calls are made in the order of the list, each container being called once at most. -/
theorem places_ordered (t : Transition) (xs : List Container) :
    ((t.calls xs).map ContainerCall.place).Pairwise (· < ·) := by
  unfold calls
  cases t.request? with
  | none => exact .nil
  | some r =>
    have numbers : (xs.zipIdx.map Prod.snd).Pairwise (· < ·) := by
      rw [List.zipIdx_map_snd]
      exact List.pairwise_lt_range'
    simpa [Function.comp_def] using numbers.sublist ((List.filter_sublist (p := fun p => r.concerns p.1)).map Prod.snd)

theorem call?_destroyed (place : Nat) (x : Container) :
    Transition.destroyed.call? place x = if x.active then some ⟨place, .destroy, x.refusesDestroy⟩ else none := by
  cases active : x.active with
  | false => simp [call?, request?, active]
  | true => simp [call?, request?, Request.isRefusedBy, active]

theorem call?_registered (place : Nat) (x : Container) :
    Transition.registered.call? place x = if x.active then none else some ⟨place, .register, x.refusesRegister⟩ := by
  cases active : x.active with
  | false => simp [call?, request?, Request.isRefusedBy, active]
  | true => simp [call?, request?, active]

theorem exists_of_apply {t : Transition} {xs : List Container} {place : Nat} {x : Container}
    (here : (t.apply xs)[place]? = some x) : ∃ y, xs[place]? = some y := by
  cases asks : t.request? with
  | none =>
    rw [apply, asks] at here
    exact ⟨x, here⟩
  | some r =>
    rw [getElem?_apply asks] at here
    obtain ⟨y, there, _⟩ := Option.map_eq_some_iff.mp here
    exact ⟨y, there⟩

/-- What a transition asks for is asked of the containers that it concerns. -/
theorem mem_places {t : Transition} {r : Request} (asks : t.request? = some r) (xs : List Container) (place : Nat) :
    place ∈ (t.calls xs).map ContainerCall.place ↔ ∃ x, xs[place]? = some x ∧ r.concerns x = true := by
  rw [List.mem_map]
  constructor
  · rintro ⟨call, made, rfl⟩
    obtain ⟨same, x, here, concerned, _⟩ := mem_calls.mp made
    rw [asks] at same
    cases same
    exact ⟨x, here, concerned⟩
  · rintro ⟨x, here, concerned⟩
    exact ⟨⟨place, r, r.isRefusedBy x⟩, mem_calls.mpr ⟨asks, x, here, concerned, rfl⟩, rfl⟩

end Transition

/-- Whether two checks differ in nothing that the container at a place can notice. -/
def Check.AgreeAt (place : Nat) (c d : Check) : Prop :=
  c.fails = d.fails ∧ c.now = d.now ∧ c.containers[place]? = d.containers[place]?

namespace Watchdog

/-- What the checks of a history ask of the container at a place, check by check. -/
def callsTo (place : Nat) : Watchdog → List Check → List (List ContainerCall)
  | _, [] => []
  | w, c :: rest => (w.asked c).filter (·.place = place) :: callsTo place (w.checked c).2 rest

theorem callsTo_append (place : Nat) (w : Watchdog) (before rest : List Check) :
    callsTo place w (before ++ rest) = callsTo place w before ++ callsTo place (w.after before) rest := by
  induction before generalizing w with
  | nil => rfl
  | cons c before ih =>
    simp only [List.cons_append, callsTo]
    rw [ih]
    rfl

theorem asked_at (w : Watchdog) (c : Check) (place : Nat) :
    (w.asked c).filter (·.place = place) = (c.containers[place]?.bind ((w.checked c).1.call? place)).toList :=
  (w.checked c).1.calls_at c.containers place

/-- What the watchdog makes of a check does not depend on the containers. -/
theorem checked_congr (w : Watchdog) {c d : Check} (same : c.fails = d.fails) (time : c.now = d.now) :
    w.checked c = w.checked d := by
  cases lost : d.fails with
  | false =>
    rw [lost] at same
    rw [checked_of_found w lost, checked_of_found w same]
  | true =>
    rw [lost] at same
    rw [checked_of_fails w lost, checked_of_fails w same, time]

/-- A container does not notice what becomes of the others. -/
theorem callsTo_congr {place : Nat} {history other : List Check}
    (agree : List.Forall₂ (Check.AgreeAt place) history other) (w : Watchdog) :
    w.transitions other = w.transitions history ∧ callsTo place w other = callsTo place w history := by
  induction agree generalizing w with
  | nil => exact ⟨rfl, rfl⟩
  | @cons c d history other same _ ih =>
    obtain ⟨fails, time, container⟩ := same
    have checked := w.checked_congr fails time
    obtain ⟨transitions, calls⟩ := ih (w.checked c).2
    constructor
    · simp only [Watchdog.transitions, ← checked, transitions]
    · simp only [callsTo, asked_at, ← checked, container, calls]

/-! ### Counts -/

open Scenario (CountedContainer)

/-- What a container counts of a check that destroys it or registers it, if it does not refuse. -/
theorem count_call (k : CountedContainer) (t : Transition) (place : Nat) {x : Container}
    (willing : ∀ call ∈ (t.call? place x).toList, call.refused = false) :
    ((t.call? place x).toList.foldl CountedContainer.count k).destroys =
        k.destroys + (if t = .destroyed ∧ x.active = true then 1 else 0) ∧
      ((t.call? place x).toList.foldl CountedContainer.count k).registers =
        k.registers + (if t = .registered ∧ x.active = false then 1 else 0) := by
  cases t with
  | unchanged => exact ⟨rfl, rfl⟩
  | lossDetected => exact ⟨rfl, rfl⟩
  | destroyed =>
    rw [Transition.call?_destroyed] at willing ⊢
    cases active : x.active with
    | false => simp
    | true =>
      have agrees : x.refusesDestroy = false := by simpa [active] using willing
      simp [CountedContainer.count, agrees]
  | registered =>
    rw [Transition.call?_registered] at willing ⊢
    cases active : x.active with
    | true => simp
    | false =>
      have agrees : x.refusesRegister = false := by simpa [active] using willing
      simp [CountedContainer.count, agrees]

/-- What a container at a place has counted after a history. -/
def counted (w : Watchdog) (history : List Check) (place : Nat) (k : CountedContainer) : CountedContainer :=
  (callsTo place w history).flatten.foldl CountedContainer.count k

/-- Whether no container ever refuses what the checks of a history ask of it. -/
def Willing (w : Watchdog) (history : List Check) : Prop :=
  ∀ place, ∀ calls ∈ callsTo place w history, ∀ call ∈ calls, call.refused = false

theorem willing_of_append {w : Watchdog} {before rest : List Check} (willing : w.Willing (before ++ rest)) :
    w.Willing before := by
  intro place calls member
  apply willing place calls
  rw [callsTo_append]
  exact List.mem_append_left _ member

theorem willing_of_obliging (w : Watchdog) {history : List Check}
    (obliging : ∀ c ∈ history, ∀ x ∈ c.containers, x.refusesRegister = false ∧ x.refusesDestroy = false) :
    w.Willing history := by
  intro place calls member call inside
  induction history generalizing w with
  | nil => cases member
  | cons c rest ih =>
    rcases List.mem_cons.mp member with rfl | later
    · obtain ⟨_, x, here, _, answer⟩ := Transition.mem_calls.mp (List.mem_filter.mp inside).1
      obtain ⟨agreesRegister, agreesDestroy⟩ := obliging c List.mem_cons_self x (List.mem_of_getElem? here)
      rw [← answer]
      cases call.request with
      | register => exact agreesRegister
      | destroy => exact agreesDestroy
    · exact ih _ (fun d later => obliging d (List.mem_cons_of_mem c later)) later

theorem Willing.not_refused {w : Watchdog} {history : List Check} (willing : w.Willing history) (place : Nat)
    (r : Request) : ¬ w.Refused history place r := by
  rintro ⟨early, d, late, rfl, refused, _⟩
  have calls : ((w.after early).asked d).filter (·.place = place) ∈ callsTo place w (early ++ d :: late) := by
    rw [callsTo_append, callsTo]
    exact List.mem_append_right _ List.mem_cons_self
  have agrees := willing place _ calls ⟨place, r, true⟩ (List.mem_filter.mpr ⟨refused, by simp⟩)
  cases agrees

section Undisturbed
variable {w : Watchdog} {found : List Container} {history : List Check} {place : Nat} {x : Container}

/-- Containers that nobody else touches and that never refuse are as the watchdog means them to be. -/
theorem active_of_willing (start : ∀ x ∈ found, x.active = w.active) (undisturbed : w.Undisturbed found history)
    (willing : w.Willing history) (here : (w.containersAfter found history)[place]? = some x) :
    x.active = (w.after history).active := by
  have astray := astray_iff_refused start undisturbed here
  have inPlace : ¬ (x.active != (w.after history).active) = true :=
    fun away => willing.not_refused place _ (astray.mp away)
  simpa using inPlace

/-- They have been destroyed and registered as often as the watchdog has done so. -/
theorem counts_of_willing (start : ∀ x ∈ found, x.active = w.active) (undisturbed : w.Undisturbed found history)
    (willing : w.Willing history) (here : (w.containersAfter found history)[place]? = some x) (k : CountedContainer) :
    (w.counted history place k).destroys = k.destroys + (w.transitions history).count .destroyed ∧
      (w.counted history place k).registers = k.registers + (w.transitions history).count .registered := by
  induction history using List.reverseRecOn generalizing x with
  | nil => exact ⟨rfl, rfl⟩
  | append_singleton history c ih =>
    obtain ⟨earlier, same⟩ := (undisturbed_snoc ..).mp undisturbed
    have before := willing_of_append willing
    rw [containersAfter_snoc, left_eq] at here
    obtain ⟨y, there⟩ := Transition.exists_of_apply here
    obtain ⟨z, found, state⟩ := same.active there
    have active : y.active = (w.after history).active := by
      rw [← state]
      exact active_of_willing start earlier before found
    have calls : callsTo place w (history ++ [c]) =
        callsTo place w history ++ [(((w.after history).checked c).1.call? place y).toList] := by
      rw [callsTo_append, callsTo, asked_at, there]
      rfl
    have agrees : ∀ call ∈ (((w.after history).checked c).1.call? place y).toList, call.refused = false := by
      apply willing place
      rw [calls]
      exact List.mem_append_right _ (List.mem_singleton_self _)
    have next : w.counted (history ++ [c]) place k =
        (((w.after history).checked c).1.call? place y).toList.foldl CountedContainer.count
          (w.counted history place k) := by
      rw [counted, calls, List.flatten_append, List.foldl_append, List.flatten_singleton]
      rfl
    obtain ⟨destroys, registers⟩ := ih earlier before found
    obtain ⟨moreDestroys, moreRegisters⟩ := count_call (w.counted history place k) _ place agrees
    rw [next, moreDestroys, moreRegisters, destroys, registers, active, transitions_snoc, List.count_append,
      List.count_append, List.count_singleton, List.count_singleton]
    -- a watchdog destroys only while it is active, and then so is the container; registering is the other way round
    rcases (w.after history).active_checked c with ⟨leads, was, _⟩ | ⟨leads, was, _⟩ | ⟨notDestroyed, notRegistered, _⟩
    · simp [leads, was, Nat.add_assoc]
    · simp [leads, was, Nat.add_assoc]
    · simp [notDestroyed, notRegistered]

end Undisturbed

/-- What containers are asked in the course of any history, whatever becomes of them between the checks and whatever
they refuse. A check calls each container once at most and in the order of the list; it asks them to be destroyed only
if it destroys, and then exactly those that are active, and to be registered only if it registers, and then exactly
those that are not. What one container is asked in the whole history is the same whatever the others do and refuse. If
all are active at first, none refuses and nobody else touches them, then after each check they are active just if the
watchdog is, and each of them has counted as many destructions and registrations as there were checks that destroyed
and registered. -/
theorem calls_follow_transitions (config : WatchdogConfig) (history : List Check) :
    let w := new config
    (∀ before c rest, history = before ++ c :: rest →
      let t := ((w.after before).checked c).1
      let calls := (w.after before).asked c
      (calls.map ContainerCall.place).Pairwise (· < ·) ∧
        (∀ call ∈ calls, call.request = .destroy ∧ t = .destroyed ∨ call.request = .register ∧ t = .registered) ∧
        (t = .destroyed → ∀ place, place ∈ calls.map ContainerCall.place ↔
          ∃ x, c.containers[place]? = some x ∧ x.active = true) ∧
        (t = .registered → ∀ place, place ∈ calls.map ContainerCall.place ↔
          ∃ x, c.containers[place]? = some x ∧ x.active = false)) ∧
      (∀ place other, List.Forall₂ (Check.AgreeAt place) history other →
        w.transitions other = w.transitions history ∧ callsTo place w other = callsTo place w history) ∧
      ∀ found, (∀ x ∈ found, x.active = true) → w.Undisturbed found history → w.Willing history →
        ∀ before rest, history = before ++ rest → ∀ place x, (w.containersAfter found before)[place]? = some x →
          x.active = (w.after before).active ∧
            ∀ k : CountedContainer,
              (w.counted before place k).destroys = k.destroys + (w.transitions before).count .destroyed ∧
                (w.counted before place k).registers = k.registers + (w.transitions before).count .registered := by
  intro w
  refine ⟨?_, fun place other agree => callsTo_congr agree w, ?_⟩
  · intro before c rest _ t calls
    refine ⟨t.places_ordered c.containers, ?_, ?_, ?_⟩
    · intro call made
      have asks : t.request? = some call.request := (Transition.mem_calls.mp made).1
      cases leads : t with
      | unchanged =>
        rw [leads] at asks
        cases asks
      | lossDetected =>
        rw [leads] at asks
        cases asks
      | destroyed =>
        rw [leads] at asks
        exact .inl ⟨(Option.some.inj asks).symm, rfl⟩
      | registered =>
        rw [leads] at asks
        exact .inr ⟨(Option.some.inj asks).symm, rfl⟩
    · intro leads place
      have asks : t.request? = some .destroy := by rw [leads]; rfl
      have places := Transition.mem_places asks c.containers place
      simp only [Request.concerns_destroy] at places
      exact places
    · intro leads place
      have asks : t.request? = some .register := by rw [leads]; rfl
      have places := Transition.mem_places asks c.containers place
      simp only [Request.concerns_register, Bool.not_eq_true'] at places
      exact places
  · rintro found start undisturbed willing before rest rfl place x here
    have part := undisturbed_of_append undisturbed
    have agrees := willing_of_append willing
    constructor
    · exact active_of_willing start part agrees here
    · intro k
      exact counts_of_willing start part agrees here k

private def crew : List Container := [⟨"orders", true, false, false⟩, ⟨"audit", true, false, false⟩]

private def strike : List Container := [⟨"orders", false, false, false⟩, ⟨"audit", false, false, false⟩]

/-- A loss that lasts, in which both containers are destroyed, and its end, at which they are registered. -/
private def blackout : List Check :=
  [⟨.ok false, 0, crew⟩, ⟨.error (.connection "refused"), 60000000000, crew⟩, ⟨.ok false, 75000000000, strike⟩,
    ⟨.ok true, 90000000000, strike⟩]

/-- The same loss, in which the first container refuses whatever it is asked. -/
private def mutiny : List Check :=
  blackout.map (fun c => { c with containers := c.containers.set 0 ⟨"orders", true, true, true⟩ })

theorem calls_follow_transitions_blackout :
    (new .standard).transitions mutiny = [.lossDetected, .destroyed, .unchanged, .registered] ∧
      callsTo 1 (new .standard) mutiny = [[], [⟨1, .destroy, false⟩], [], [⟨1, .register, false⟩]] ∧
      (∀ x ∈ crew, x.active = true) ∧ (new .standard).Undisturbed crew blackout ∧
      (new .standard).Willing blackout ∧
      ((new .standard).counted blackout 1 ⟨⟨"audit", true, false, false⟩, false, 0, 0⟩).destroys = 1 ∧
      ((new .standard).counted blackout 1 ⟨⟨"audit", true, false, false⟩, false, 0, 0⟩).registers = 1 := by
  have law := calls_follow_transitions .standard blackout
  have agree : List.Forall₂ (Check.AgreeAt 1) blackout mutiny :=
    .cons ⟨rfl, rfl, rfl⟩ (.cons ⟨rfl, rfl, rfl⟩ (.cons ⟨rfl, rfl, rfl⟩ (.cons ⟨rfl, rfl, rfl⟩ .nil)))
  have start : ∀ x ∈ crew, x.active = true := by decide
  have undisturbed : (new .standard).Undisturbed crew blackout := ⟨rfl, rfl, rfl, rfl, trivial⟩
  have willing : (new .standard).Willing blackout := willing_of_obliging _ (by decide)
  obtain ⟨transitions, calls⟩ := law.2.1 1 mutiny agree
  have counts := ((law.2.2 crew start undisturbed willing blackout [] rfl 1 ⟨"audit", true, false, false⟩ rfl).2
    ⟨⟨"audit", true, false, false⟩, false, 0, 0⟩)
  exact ⟨transitions.trans rfl, calls.trans rfl, start, undisturbed, willing, counts.1.trans rfl, counts.2.trans rfl⟩

end Watchdog
end Courier
