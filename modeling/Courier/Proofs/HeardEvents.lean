import Mathlib.Data.Set.Card
import Courier.Event.Listener

/-!
What recorders hear of events. A way to a recorder is a list of places, in a group, in a group that is a member of it,
and so on (`Listener.at?`). Members of a group are told of an event side by side, so that it may reach the recorders in
any order, but all of them before the next event does (`Listener.Tells`). Each recorder hears each event once for each
way to it, and a listener that joins a group changes nothing for the recorders that it does not pass events on to.
-/
namespace Courier.Listener

/-! ### Ways -/

def members : Listener → List Listener
  | .group members => members
  | _ => []

/-- The listener at the end of a way: the place in the outermost group comes first. -/
def at? (l : Listener) : List Nat → Option Listener
  | [] => some l
  | place :: way => l.members[place]?.bind (fun member => member.at? way)

/-- The ways from a listener to a recorder. -/
def ways (l : Listener) (id : Nat) : Set (List Nat) := {way | l.at? way = some (.recorder id)}

/-- The same way when one more member comes before the one in the outermost group. -/
def pushed : List Nat → List Nat
  | [] => []
  | place :: way => (place + 1) :: way

theorem pushed_injective : Function.Injective pushed := by
  intro a b same
  cases a <;> cases b <;> simp_all [pushed]

theorem ways_recorder (own id : Nat) : (recorder own).ways id = if own = id then {[]} else ∅ := by
  ext way
  cases way with
  | nil => by_cases same : own = id <;> simp [ways, at?, same]
  | cons place way => by_cases same : own = id <;> simp [ways, at?, members, same]

theorem ways_deaf (id : Nat) : deaf.ways id = ∅ := by
  ext way
  cases way <;> simp [ways, at?, members]

theorem ways_group_nil (id : Nat) : (group []).ways id = ∅ := by
  ext way
  cases way <;> simp [ways, at?, members]

/-- A way from a group goes through its first member or through one of the others. -/
theorem ways_group_cons (l : Listener) (rest : List Listener) (id : Nat) :
    (group (l :: rest)).ways id = List.cons 0 '' l.ways id ∪ pushed '' (group rest).ways id := by
  ext way
  cases way with
  | nil =>
    have none : ∀ way ∈ (group rest).ways id, pushed way ≠ [] := by
      rintro (_ | ⟨place, way⟩) leads
      · simp [ways, at?] at leads
      · simp [pushed]
    simp [ways, at?] at none ⊢
    exact none
  | cons place way =>
    cases place with
    | zero =>
      have others : ∀ other, pushed other ≠ 0 :: way := by
        rintro (_ | ⟨place, other⟩) <;> simp [pushed]
      simp [ways, at?, members, others]
    | succ place =>
      have through (other : List Nat) : pushed other = (place + 1) :: way ↔ other = place :: way := by
        cases other <;> simp [pushed]
      simp [ways, at?, members, through]

mutual

/-- What a listener reaches has one entry for each way. -/
theorem encard_ways : ∀ (l : Listener) (id : Nat), (l.ways id).encard = (l.reached.count id : ℕ)
  | .recorder own, id => by
    rw [ways_recorder, reached, List.count_singleton]
    by_cases same : own = id <;> simp [same]
  | .deaf, id => by
    rw [ways_deaf, reached]
    simp
  | .group members, id => by
    rw [reached]
    exact encard_ways_group members id

theorem encard_ways_group : ∀ (members : List Listener) (id : Nat),
    ((group members).ways id).encard = ((reachedIn members).count id : ℕ)
  | [], id => by
    rw [ways_group_nil, reachedIn]
    simp
  | l :: rest, id => by
    have apart : Disjoint (List.cons 0 '' l.ways id) (pushed '' (group rest).ways id) := by
      rw [Set.disjoint_left]
      rintro _ ⟨way, _, rfl⟩ ⟨_ | ⟨place, other⟩, _, same⟩ <;> simp [pushed] at same
    rw [ways_group_cons, Set.encard_union_eq apart, (List.cons_injective (a := 0)).encard_image,
      pushed_injective.encard_image, encard_ways l id, encard_ways_group rest id, reachedIn, List.count_append]
    push_cast
    rfl

end

/-! ### Rounds of telling -/

/-- What recorders can be told when events come one after the other: each event makes a round, and within a round
recorders may be told in any order. -/
inductive Tells (l : Listener) : List Event → List (Nat × Event) → Prop
  | nil : Tells l [] []
  | cons {event : Event} {round : List (Nat × Event)} {rest : List Event} {told : List (Nat × Event)}
      (side : round.Perm (l.reached.map (fun id => (id, event)))) (later : Tells l rest told) :
      Tells l (event :: rest) (round ++ told)

/-- Telling the members of a group in their order is one of the ways to tell them. -/
theorem tells_tell (l : Listener) (events : List Event) : Tells l events (l.tell events) := by
  induction events with
  | nil => exact .nil
  | cons event rest ih => exact .cons (.refl _) ih

theorem heardBy_append (id : Nat) (a b : List (Nat × Event)) : heardBy id (a ++ b) = heardBy id a ++ heardBy id b := by
  rw [heardBy, List.filter_append, List.map_append]
  rfl

theorem heardBy_reached (l : Listener) (id : Nat) (event : Event) :
    heardBy id (l.reached.map (fun id => (id, event))) = List.replicate (l.reached.count id) event := by
  rw [heardBy, List.filter_map, List.map_map, List.count_eq_length_filter]
  exact List.map_const' ..

/-- In whichever order a round goes, a recorder cannot tell its copies of the event from each other. -/
theorem heardBy_round {l : Listener} {event : Event} {round : List (Nat × Event)}
    (side : round.Perm (l.reached.map (fun id => (id, event)))) (id : Nat) :
    heardBy id round = List.replicate (l.reached.count id) event := by
  have copies : (heardBy id round).Perm (heardBy id (l.reached.map (fun id => (id, event)))) :=
    (side.filter _).map _
  rw [heardBy_reached] at copies
  exact List.perm_replicate.mp copies

theorem Tells.heardBy {l : Listener} {events : List Event} {told : List (Nat × Event)} (tells : Tells l events told)
    (id : Nat) : heardBy id told = events.flatMap (List.replicate (l.reached.count id)) := by
  induction tells with
  | nil => rfl
  | cons side _ ih => rw [heardBy_append, heardBy_round side, ih, List.flatMap_cons]

/-! ### New members -/

/-- Whether a listener is another one with `x` as a new member of one of its groups, however deep inside. -/
inductive Joined (x : Listener) : Listener → Listener → Prop
  | here (before after : List Listener) : Joined x (group (before ++ after)) (group (before ++ x :: after))
  | within (before after : List Listener) {l l' : Listener} (inside : Joined x l l') :
      Joined x (group (before ++ l :: after)) (group (before ++ l' :: after))

theorem reachedIn_append (a b : List Listener) : reachedIn (a ++ b) = reachedIn a ++ reachedIn b := by
  induction a with
  | nil => rfl
  | cons l rest ih => rw [List.cons_append, reachedIn, reachedIn, ih, List.append_assoc]

/-- A new member adds what it reaches itself. -/
theorem Joined.count_reached {x l l' : Listener} (joined : Joined x l l') (id : Nat) :
    l'.reached.count id = l.reached.count id + x.reached.count id := by
  induction joined with
  | here before after =>
    simp only [reached, reachedIn_append, reachedIn, List.count_append]
    omega
  | within before after _ ih =>
    simp only [reached, reachedIn_append, reachedIn, List.count_append, ih]
    omega

/-! ### What recorders hear -/

/-- Each recorder hears an event once for each way to it, all copies of it before the next event, in whichever order
the members of groups are told; and a new member, wherever it joins, leaves what the recorders that it does not reach
itself hear as it was. -/
theorem events_are_heard_once_for_each_way (l : Listener) (events : List Event) :
    Tells l events (l.tell events) ∧
      (∀ id, ∃ n : ℕ, (l.ways id).encard = n ∧
        ∀ told, Tells l events told → heardBy id told = events.flatMap (List.replicate n)) ∧
      ∀ x l', Joined x l l' → ∀ told told', Tells l events told → Tells l' events told' →
        ∀ id, x.ways id = ∅ → heardBy id told' = heardBy id told := by
  refine ⟨l.tells_tell events, fun id => ⟨_, l.encard_ways id, fun told tells => tells.heardBy id⟩, ?_⟩
  intro x l' joined told told' tells tells' id apart
  have unreached : x.reached.count id = 0 := by
    have size := x.encard_ways id
    rw [apart, Set.encard_empty] at size
    exact_mod_cast size.symm
  rw [tells'.heardBy id, tells.heardBy id, joined.count_reached id, unreached, Nat.add_zero]

/-- Two ways through a group inside a group make two copies. -/
example (event : Event) :
    heardBy 7 ((group [recorder 7, group [deaf, recorder 7, recorder 8]]).tell [event]) = [event, event] := by
  rfl

end Courier.Listener
