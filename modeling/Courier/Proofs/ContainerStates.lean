import Courier.Proofs.LossRuns

/-!
What containers are like after a check. A watchdog asks containers for something only when it destroys and when it
registers, and it does not come back to one that refused: until it asks for the opposite and then again, a container
stays as it was when it refused. So the containers that are not in the state that the watchdog means them to be in are
those that refused when the containers were last asked.
-/
namespace Courier

/-- The request that brings a container into a state. -/
def Request.toward (active : Bool) : Request := if active then .register else .destroy

@[simp] theorem Request.toward_wanted (r : Request) : Request.toward r.wanted = r := by
  cases r <;> rfl

/-- A container that is asked for a state is not in it afterwards just if it was not before and refuses. -/
theorem Request.answered_iff (r : Request) (x : Container) :
    ((if r.concerns x then r.answeredBy x else x).active != r.wanted) = true ↔
      r.concerns x = true ∧ r.isRefusedBy x = true := by
  cases concerned : r.concerns x with
  | false =>
    have there : (x.active != r.wanted) = false := concerned
    simp [there]
  | true =>
    cases refused : r.isRefusedBy x with
    | true =>
      have elsewhere : (x.active != r.wanted) = true := concerned
      simpa [Request.answeredBy, refused] using elsewhere
    | false => simp [Request.answeredBy, refused]

namespace Transition

theorem getElem?_apply {t : Transition} {r : Request} (asks : t.request? = some r) (xs : List Container) (i : Nat) :
    (t.apply xs)[i]? = xs[i]?.map (fun x => if r.concerns x then r.answeredBy x else x) := by
  rw [apply, asks, List.getElem?_map]

/-- What a transition asks of a container at a place, if it concerns it. -/
def call? (t : Transition) (place : Nat) (x : Container) : Option ContainerCall :=
  t.request?.bind (fun r => if r.concerns x then some ⟨place, r, r.isRefusedBy x⟩ else none)

theorem filter_zipIdx {α : Type} (xs : List α) (start place : Nat) :
    (xs.zipIdx start).filter (fun p => p.2 = start + place) = (xs[place]?.map (fun x => (x, start + place))).toList := by
  induction xs generalizing start place with
  | nil => rfl
  | cons x xs ih =>
    cases place with
    | zero =>
      have later : (xs.zipIdx (start + 1)).filter (fun p => p.2 = start) = [] := by
        rw [List.filter_eq_nil_iff]
        intro p member same
        have after := List.le_snd_of_mem_zipIdx member
        have same : p.2 = start := of_decide_eq_true same
        omega
      simp [later]
    | succ place =>
      have next := ih (start + 1) place
      have shift : start + 1 + place = start + (place + 1) := by omega
      rw [shift] at next
      simpa using next

/-- What is asked of the container at a place depends on this container alone. -/
theorem calls_at (t : Transition) (xs : List Container) (place : Nat) :
    (t.calls xs).filter (fun call => call.place = place) = (xs[place]?.bind (t.call? place)).toList := by
  have found := filter_zipIdx xs 0 place
  rw [Nat.zero_add] at found
  unfold calls call?
  cases t.request? with
  | none => simp
  | some r =>
    simp only [List.filter_map, Function.comp_def, Option.bind_some]
    rw [List.filter_comm, found]
    cases xs[place]? with
    | none => rfl
    | some x =>
      by_cases concerned : r.concerns x = true
      · simp [concerned]
      · simp [concerned]

/-- A call is made just if its request is what the transition asks for and concerns the container at its place; whether
it is refused is up to that container. -/
theorem mem_calls {t : Transition} {xs : List Container} {call : ContainerCall} :
    call ∈ t.calls xs ↔ t.request? = some call.request ∧ ∃ x, xs[call.place]? = some x ∧
      call.request.concerns x = true ∧ call.request.isRefusedBy x = call.refused := by
  have here : call ∈ t.calls xs ↔ call ∈ (t.calls xs).filter (fun other => other.place = call.place) := by
    simp [List.mem_filter]
  obtain ⟨place, request, refused⟩ := call
  rw [here, calls_at, Option.mem_toList, Option.bind_eq_some_iff]
  constructor
  · rintro ⟨x, there, asked⟩
    obtain ⟨r, asks, answer⟩ := Option.bind_eq_some_iff.mp asked
    split at answer
    · rename_i concerned
      cases answer
      exact ⟨asks, x, there, concerned, rfl⟩
    · cases answer
  · rintro ⟨asks, x, there, concerned, answer⟩
    refine ⟨x, there, ?_⟩
    simp only [call?, asks, Option.bind_some, concerned, if_true, answer]

/-- A refusal is on record for each container that was asked and refused. -/
theorem refused_mem_calls {t : Transition} {r : Request} (asks : t.request? = some r) (xs : List Container) (i : Nat)
    (other : Request) :
    ⟨i, other, true⟩ ∈ t.calls xs ↔
      other = r ∧ ∃ x, xs[i]? = some x ∧ r.concerns x = true ∧ r.isRefusedBy x = true := by
  rw [mem_calls, asks]
  constructor
  · rintro ⟨same, refusal⟩
    cases same
    exact ⟨rfl, refusal⟩
  · rintro ⟨rfl, refusal⟩
    exact ⟨rfl, refusal⟩

end Transition

namespace Watchdog

open Check (lossRun elapsed)

/-! ### Containers in the course of a history -/

/-- The containers as a check leaves them. -/
def left (w : Watchdog) (c : Check) : List Container := (w.check (!c.fails) c.now c.containers).2.2

/-- The calls to containers that a check makes. -/
def asked (w : Watchdog) (c : Check) : List ContainerCall := (w.checked c).1.calls c.containers

/-- Whether containers differ in nothing but what they refuse. -/
def SameStates (xs ys : List Container) : Prop :=
  xs.map (fun x => (x.name, x.active)) = ys.map (fun y => (y.name, y.active))

/-- Whether nobody but the watchdog changes the state of the containers: the first check of a history finds them in
given states, and each later one as the check before has left them. What they refuse may change at any time. -/
def Undisturbed (w : Watchdog) (found : List Container) : List Check → Prop
  | [] => True
  | c :: rest => SameStates found c.containers ∧ (w.checked c).2.Undisturbed (w.left c) rest

/-- The containers after a history, if they were as given before it. -/
def containersAfter (w : Watchdog) (found : List Container) : List Check → List Container
  | [] => found
  | c :: rest => (w.checked c).2.containersAfter (w.left c) rest

/-- Whether the container at a place refused something when the containers were last asked for anything in the course
of a history. -/
def Refused (w : Watchdog) (history : List Check) (place : Nat) (r : Request) : Prop :=
  ∃ early d late, history = early ++ d :: late ∧ ⟨place, r, true⟩ ∈ (w.after early).asked d ∧
    ∀ t ∈ (w.after (early ++ [d])).transitions late, t.request? = none

theorem left_eq (w : Watchdog) (c : Check) : w.left c = (w.checked c).1.apply c.containers := rfl

theorem containersAfter_snoc (w : Watchdog) (found : List Container) (history : List Check) (c : Check) :
    w.containersAfter found (history ++ [c]) = (w.after history).left c := by
  induction history generalizing w found with
  | nil => rfl
  | cons first rest ih =>
    simp only [List.cons_append, containersAfter]
    rw [ih]
    rfl

theorem undisturbed_snoc (w : Watchdog) (found : List Container) (history : List Check) (c : Check) :
    w.Undisturbed found (history ++ [c]) ↔
      w.Undisturbed found history ∧ SameStates (w.containersAfter found history) c.containers := by
  induction history generalizing w found with
  | nil => simp [Undisturbed, containersAfter]
  | cons first rest ih =>
    simp only [List.cons_append, Undisturbed, containersAfter]
    rw [ih, and_assoc]

theorem undisturbed_of_append {w : Watchdog} {found : List Container} {before rest : List Check}
    (undisturbed : w.Undisturbed found (before ++ rest)) : w.Undisturbed found before := by
  induction before generalizing w found with
  | nil => trivial
  | cons c before ih => exact ⟨undisturbed.1, ih undisturbed.2⟩

theorem SameStates.active {xs ys : List Container} (same : SameStates xs ys) {i : Nat} {y : Container}
    (here : ys[i]? = some y) : ∃ x, xs[i]? = some x ∧ x.active = y.active := by
  have states : (xs.map (fun x => (x.name, x.active)))[i]? = (ys.map (fun y => (y.name, y.active)))[i]? :=
    congrArg (·[i]?) same
  rw [List.getElem?_map, List.getElem?_map, here, Option.map_some, Option.map_eq_some_iff] at states
  obtain ⟨x, there, state⟩ := states
  exact ⟨x, there, congrArg Prod.snd state⟩

/-! ### Refusals -/

theorem not_refused_nil (w : Watchdog) (i : Nat) (r : Request) : ¬ w.Refused [] i r := by
  rintro ⟨early, d, late, split, _⟩
  simp at split

/-- A check that asks the containers for something puts earlier refusals out of date; any other check leaves them. -/
theorem refused_snoc (w : Watchdog) (history : List Check) (c : Check) (i : Nat) (r : Request) :
    w.Refused (history ++ [c]) i r ↔
      if ((w.after history).checked c).1.request? = none then w.Refused history i r
      else ⟨i, r, true⟩ ∈ (w.after history).asked c := by
  constructor
  · rintro ⟨early, d, late, split, refused, quiet⟩
    rcases List.eq_nil_or_concat late with rfl | ⟨between, last, rfl⟩
    · obtain ⟨rfl, same⟩ := List.append_inj' split rfl
      cases same
      split
      · rename_i silent
        simp only [asked, Transition.calls, silent, List.not_mem_nil] at refused
      · exact refused
    · rw [List.concat_eq_append, ← List.cons_append, ← List.append_assoc] at split
      obtain ⟨rfl, same⟩ := List.append_inj' split rfl
      cases same
      rw [List.concat_eq_append, transitions_snoc] at quiet
      have silent : ((w.after (early ++ d :: between)).checked c).1.request? = none := by
        refine quiet _ ?_
        rw [after, after, ← List.foldl_append, List.append_assoc, List.singleton_append]
        exact List.mem_append_right _ (List.mem_singleton_self _)
      rw [if_pos silent]
      exact ⟨early, d, between, rfl, refused, fun t member => quiet t (List.mem_append_left _ member)⟩
  · intro refused
    split at refused
    · rename_i silent
      obtain ⟨early, d, late, rfl, here, quiet⟩ := refused
      refine ⟨early, d, late ++ [c], by simp, here, fun t member => ?_⟩
      rw [transitions_snoc] at member
      rcases List.mem_append.mp member with old | new
      · exact quiet t old
      · rw [List.mem_singleton.mp new, after, after, ← List.foldl_append, List.append_assoc, List.singleton_append]
        exact silent
    · exact ⟨history, c, [], rfl, refused, fun t member => absurd member List.not_mem_nil⟩

/-- A check that asks for something leaves the watchdog meaning the containers to be as it asked; any other check
leaves it as it was. -/
theorem active_of_request (w : Watchdog) (c : Check) :
    match (w.checked c).1.request? with
    | some r => (w.checked c).2.active = r.wanted
    | none => (w.checked c).2.active = w.active := by
  rcases w.active_checked c with ⟨leads, _, now⟩ | ⟨leads, _, now⟩ | ⟨notDestroyed, notRegistered, now⟩
  · rw [leads]
    exact now
  · rw [leads]
    exact now
  · cases leads : (w.checked c).1 with
    | unchanged => exact now
    | lossDetected => exact now
    | registered => exact absurd leads notRegistered
    | destroyed => exact absurd leads notDestroyed

/-- Once a loss has lasted for the threshold the watchdog is inactive. -/
theorem inactive_of_long (config : WatchdogConfig) (history : List Check) {c : Check} (lost : c.fails = true)
    (long : config.lossThreshold.nanos ≤ elapsed (lossRun (history ++ [c]))) :
    (((new config).after history).checked c).2.active = false := by
  rw [Check.lossRun_snoc, if_pos lost, Check.elapsed_snoc] at long
  rw [checked_of_fails _ lost, config_after, lostAt_after]
  split
  · rfl
  · rename_i kept
    cases active : ((new config).after history).active with
    | false => rfl
    | true => exact absurd ⟨long, active⟩ kept

/-- The containers that are not as the watchdog means them to be are those that refused when last asked. -/
theorem astray_iff_refused {w : Watchdog} {found : List Container} (start : ∀ x ∈ found, x.active = w.active)
    {history : List Check} (undisturbed : w.Undisturbed found history) {i : Nat} {x : Container}
    (here : (w.containersAfter found history)[i]? = some x) :
    (x.active != (w.after history).active) = true ↔ w.Refused history i (.toward (w.after history).active) := by
  induction history using List.reverseRecOn generalizing i x with
  | nil =>
    have there : x.active = w.active := start x (List.mem_of_getElem? here)
    exact iff_of_false (by simp [after, there]) (not_refused_nil w i _)
  | append_singleton history c ih =>
    obtain ⟨earlier, same⟩ := (undisturbed_snoc ..).mp undisturbed
    have means := (w.after history).active_of_request c
    rw [containersAfter_snoc, left_eq] at here
    rw [refused_snoc, after_snoc]
    cases asks : ((w.after history).checked c).1.request? with
    | none =>
      rw [asks] at means
      rw [Transition.apply, asks] at here
      obtain ⟨y, there, state⟩ := same.active here
      rw [if_pos rfl, means, ← state]
      exact ih earlier there
    | some r =>
      rw [asks] at means
      rw [Transition.getElem?_apply asks, Option.map_eq_some_iff] at here
      obtain ⟨y, there, rfl⟩ := here
      rw [if_neg (Option.some_ne_none r), asked, Transition.refused_mem_calls asks, there]
      simpa [means] using r.answered_iff y

/-- What containers are like after each check of a history in which nobody else changes their state, if they were all
active before it. After a check that finds the connection a container is active, unless it refused to be registered
when the containers were last asked for anything; after a failed check with a loss that has lasted for the threshold
a container is not active, unless it refused to be destroyed when they were last asked. -/
theorem containers_follow_last_request (config : WatchdogConfig) (found : List Container) (history : List Check)
    (start : ∀ x ∈ found, x.active = true) (undisturbed : (new config).Undisturbed found history) :
    let w := new config
    ∀ before c rest, history = before ++ c :: rest → ∀ i x, ((w.after before).left c)[i]? = some x →
      (c.fails = false → (x.active = false ↔ w.Refused (before ++ [c]) i .register)) ∧
        (c.fails = true → config.lossThreshold.nanos ≤ elapsed (lossRun (before ++ [c])) →
          (x.active = true ↔ w.Refused (before ++ [c]) i .destroy)) := by
  rintro w before c rest rfl i x here
  have part : w.Undisturbed found (before ++ [c]) := by
    rw [← List.singleton_append, ← List.append_assoc] at undisturbed
    exact undisturbed_of_append undisturbed
  rw [← w.containersAfter_snoc found] at here
  have astray := astray_iff_refused start part here
  rw [after_snoc] at astray
  constructor
  · intro connected
    have active : ((w.after before).checked c).2.active = true := by
      rw [checked_of_found _ connected]
    rw [active] at astray
    simpa [Request.toward] using astray
  · intro lost long
    rw [inactive_of_long config before lost long] at astray
    simpa [Request.toward] using astray

private def pair : List Container := [⟨"orders", true, false, false⟩, ⟨"audit", true, false, false⟩]

/-- A loss in which the first container refuses to be destroyed, and its end, at which the second one refuses to be
registered. Either would give in the next time. -/
private def outage : List Check :=
  [⟨.ok false, 0, pair⟩,
    ⟨.ok false, 60000000000, [⟨"orders", true, false, true⟩, ⟨"audit", true, false, false⟩]⟩,
    ⟨.ok false, 75000000000, [⟨"orders", true, false, false⟩, ⟨"audit", false, false, false⟩]⟩,
    ⟨.ok true, 90000000000, [⟨"orders", true, false, false⟩, ⟨"audit", false, true, false⟩]⟩,
    ⟨.ok true, 105000000000, [⟨"orders", true, false, false⟩, ⟨"audit", false, false, false⟩]⟩]

theorem containers_follow_last_request_outage :
    (∀ x ∈ pair, x.active = true) ∧ (new .standard).Undisturbed pair outage ∧
      (new .standard).Refused (outage.take 3) 0 .destroy ∧ ¬ (new .standard).Refused (outage.take 3) 1 .destroy ∧
      (new .standard).Refused outage 1 .register ∧ ¬ (new .standard).Refused outage 0 .register := by
  have start : ∀ x ∈ pair, x.active = true := by decide
  have undisturbed : (new .standard).Undisturbed pair outage := ⟨rfl, rfl, rfl, rfl, rfl, trivial⟩
  have law := containers_follow_last_request .standard pair outage start undisturbed
  have lost := law (outage.take 2) outage[2] (outage.drop 3) rfl
  have found := law (outage.take 4) outage[4] [] rfl
  refine ⟨start, undisturbed, ?_, ?_, ?_, ?_⟩
  · exact ((lost 0 _ rfl).2 rfl (by decide)).mp rfl
  · exact fun refused => Bool.false_ne_true (((lost 1 _ rfl).2 rfl (by decide)).mpr refused)
  · exact ((found 1 _ rfl).1 rfl).mp rfl
  · exact fun refused => Bool.false_ne_true (((found 0 _ rfl).1 rfl).mpr refused).symm

/-- A failed check in a long loss after which a container is active, and one that finds the connection after which a
container is not, although neither check met with a refusal. -/
theorem refusals_are_not_made_good :
    let w := new .standard
    (∀ x ∈ pair, x.active = true) ∧ w.Undisturbed pair outage ∧ outage.Pairwise (fun a b => a.now ≤ b.now) ∧
      (outage[2].fails = true ∧ WatchdogConfig.standard.lossThreshold.nanos ≤ elapsed (lossRun (outage.take 3)) ∧
        ¬ ∀ i x, ((w.after (outage.take 2)).left outage[2])[i]? = some x →
          x.active = false ∨ ⟨i, .destroy, true⟩ ∈ (w.after (outage.take 2)).asked outage[2]) ∧
      (outage[4].fails = false ∧
        ¬ ∀ i x, ((w.after (outage.take 4)).left outage[4])[i]? = some x →
          x.active = true ∨ ⟨i, .register, true⟩ ∈ (w.after (outage.take 4)).asked outage[4]) := by
  refine ⟨by decide, ⟨rfl, rfl, rfl, rfl, rfl, trivial⟩, by decide, ⟨rfl, by decide, fun repaired => ?_⟩,
    rfl, fun repaired => ?_⟩
  · rcases repaired 0 _ rfl with down | refused
    · cases down
    · cases refused
  · rcases repaired 1 _ rfl with up | refused
    · cases up
    · cases refused

end Watchdog
end Courier
