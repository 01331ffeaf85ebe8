import Mathlib.Data.List.Induction
import Mathlib.Data.Set.Card
import Courier.Proofs.DueEntries

/-!
What a due store holds in the course of any history. A place is an instant together with a lock key, and holds one
entry at most: the one that the last act to name the place put there, unless that act took an entry out. A look at the
store stops at the first entry that is not due. It misses none that is, since the entries stand in the order of their
places.
-/
namespace Courier

/-- What entries are kept by. -/
def DueEntry.place (e : DueEntry) : Instant × String := (e.dueAt, e.lockKey)

theorem DueEntry.samePlace_iff {a b : DueEntry} : a.SamePlace b ↔ a.place = b.place := by
  simp [SamePlace, place]

namespace DueStore

/-! ### Acts -/

/-- Something that users do with a store. -/
inductive Act
  | insert (e : DueEntry)
  | schedule (m : Message) (dueAt : Instant)
  | remove (e : DueEntry)
  /-- A look at the entries that are due. -/
  | fetch (now : Instant) (limit : Nat)
  /-- A claim, at a count of the clock. -/
  | claim (e : DueEntry) (ttl : Span) (now : Nat)

namespace Act

/-- The entry that an act puts into a store. -/
def put? : Act → Option DueEntry
  | .insert e => some e
  | .schedule m dueAt => some (.ofMessage m dueAt)
  | .remove _ | .fetch .. | .claim .. => none

/-- The place that an act puts an entry in or takes one out of. -/
def place? : Act → Option (Instant × String)
  | .insert e | .remove e => some e.place
  | .schedule m dueAt => some (DueEntry.ofMessage m dueAt).place
  | .fetch .. | .claim .. => none

theorem place?_of_put? {a : Act} {e : DueEntry} (puts : a.put? = some e) : a.place? = some e.place := by
  cases a with
  | insert x =>
    cases puts
    rfl
  | schedule m dueAt =>
    cases puts
    rfl
  | remove x => cases puts
  | fetch now limit => cases puts
  | claim x ttl now => cases puts

end Act

/-- The store after an act. A look leaves it as it is. -/
def act (s : DueStore) : Act → DueStore
  | .insert e => s.insert e
  | .schedule m dueAt => s.schedule m dueAt
  | .remove e => (s.remove e).2
  | .fetch .. => s
  | .claim e ttl now => (s.claim e ttl now).2

/-- The store after some acts. -/
def after (s : DueStore) (history : List Act) : DueStore := history.foldl act s

theorem after_snoc (s : DueStore) (history : List Act) (a : Act) :
    s.after (history ++ [a]) = (s.after history).act a := by
  simp only [after, List.foldl_append, List.foldl_cons, List.foldl_nil]

/-! ### What one act does to the entries -/

variable {s : DueStore}

theorem eq_of_samePlace {x y : DueEntry} (first : x ∈ s.entries) (second : y ∈ s.entries) (same : x.SamePlace y) :
    x = y :=
  same.eq_or_collides.resolve_right (not_collides first second)

theorem mem_insert {e x : DueEntry} : x ∈ (s.insert e).entries ↔ x = e ∨ x ∈ s.entries ∧ ¬ e.SamePlace x := by
  have there : e ∈ (s.insert e).entries := mem_placed_self e s.entries
  constructor
  · intro member
    by_cases same : e.SamePlace x
    · exact .inl (eq_of_samePlace there member same).symm
    · rcases mem_placed member with here | old
      · exact .inl here
      · exact .inr ⟨old, same⟩
  · rintro (rfl | ⟨old, apart⟩)
    · exact there
    · exact mem_placed_of_mem old apart

/-- After an act the store holds what the act puts in, and what it held in places that the act does not name. -/
theorem mem_act {a : Act} {x : DueEntry} :
    x ∈ (s.act a).entries ↔ a.put? = some x ∨ x ∈ s.entries ∧ a.place? ≠ some x.place := by
  have inserted (e : DueEntry) :
      x ∈ (s.insert e).entries ↔ some e = some x ∨ x ∈ s.entries ∧ some e.place ≠ some x.place := by
    rw [mem_insert, DueEntry.samePlace_iff]
    simp [eq_comm]
  cases a with
  | insert e => exact inserted e
  | schedule m dueAt => exact inserted (.ofMessage m dueAt)
  | remove e => simp [act, mem_remove, Act.put?, Act.place?, DueEntry.samePlace_iff]
  | fetch now limit => simp [act, Act.put?, Act.place?]
  | claim e ttl now => simp [act, Act.put?, Act.place?]

/-! ### Histories -/

/-- The last act of a history that puts an entry in a place or takes one out of it. -/
def lastNaming (history : List Act) (place : Instant × String) : Option Act :=
  (history.filter (·.place? = some place)).getLast?

/-- The entry that the last act to name a place put there, if it did put one. -/
def keptAt (history : List Act) (place : Instant × String) : Option DueEntry :=
  (lastNaming history place).bind Act.put?

theorem keptAt_snoc (history : List Act) (a : Act) (place : Instant × String) :
    keptAt (history ++ [a]) place = if a.place? = some place then a.put? else keptAt history place := by
  unfold keptAt lastNaming
  by_cases names : a.place? = some place
  · simp [names]
  · simp [names]

theorem place_keptAt {history : List Act} {place : Instant × String} {x : DueEntry}
    (kept : keptAt history place = some x) : x.place = place := by
  obtain ⟨a, last, puts⟩ := Option.bind_eq_some_iff.mp kept
  have names : a.place? = some place := by simpa using (List.mem_filter.mp (List.mem_of_getLast? last)).2
  rw [Act.place?_of_put? puts] at names
  exact Option.some.inj names

/-- A store holds in each place what the last act to name it put there. -/
theorem mem_after {history : List Act} {x : DueEntry} :
    x ∈ (empty.after history).entries ↔ keptAt history x.place = some x := by
  induction history using List.reverseRecOn with
  | nil => simp [after, empty, keptAt, lastNaming]
  | append_singleton history a ih =>
    rw [after_snoc, mem_act, ih, keptAt_snoc]
    by_cases names : a.place? = some x.place
    · simp [names]
    · have other : a.put? ≠ some x := fun puts => names (Act.place?_of_put? puts)
      simp [names, other]

theorem contains_after {history : List Act} {e : DueEntry} :
    (empty.after history).contains e = true ↔ (keptAt history e.place).isSome = true := by
  have found : (empty.after history).contains e = true ↔ ∃ x ∈ (empty.after history).entries, e.place = x.place := by
    simp [contains, DueEntry.samePlace_iff]
  rw [found, Option.isSome_iff_exists]
  constructor
  · rintro ⟨x, member, same⟩
    exact ⟨x, same ▸ mem_after.mp member⟩
  · rintro ⟨x, kept⟩
    have same := place_keptAt kept
    exact ⟨x, mem_after.mpr (same ▸ kept), same.symm⟩

@[simp] theorem fetchError_claim (s : DueStore) (e : DueEntry) (ttl : Span) (now : Nat) :
    (s.claim e ttl now).2.fetchError = s.fetchError := by
  unfold claim
  split
  · rfl
  · split <;> rfl

theorem fetchError_act (s : DueStore) (a : Act) : (s.act a).fetchError = s.fetchError := by
  cases a with
  | insert e => rfl
  | schedule m dueAt => rfl
  | remove e => rfl
  | fetch now limit => rfl
  | claim e ttl now => exact s.fetchError_claim e ttl now

theorem fetchError_after (s : DueStore) (history : List Act) : (s.after history).fetchError = s.fetchError := by
  induction history using List.reverseRecOn with
  | nil => rfl
  | append_singleton history a ih => rw [after_snoc, fetchError_act, ih]

/-! ### Contents and looks -/

/-- A store has as many entries as places. -/
theorem encard_places (s : DueStore) : {place | ∃ x ∈ s.entries, x.place = place}.encard = s.size := by
  have distinct : (s.entries.map DueEntry.place).Nodup := by
    refine List.pairwise_map.mpr (s.ordered.imp ?_)
    intro x y before same
    exact before.not_samePlace (DueEntry.samePlace_iff.mpr same)
  have places : {place | ∃ x ∈ s.entries, x.place = place} = ((s.entries.map DueEntry.place).toFinset : Set _) := by
    ext place
    simp
  rw [places, Set.encard_coe_eq_coe_finsetCard, List.toFinset_card_of_nodup distinct, List.length_map, size]

/-- What a store holds and what a look at it finds after any history. The last act to name a place says whether an
entry is there, and which one; taking an entry out tells whether there was one; the size is the number of places that
hold an entry. A look finds the first entries, in order and up to its limit, of those that are due. -/
theorem contents_follow_history (history : List Act) :
    let s := empty.after history
    (∀ x, x ∈ s.entries ↔ keptAt history x.place = some x) ∧
      (∀ e, (s.contains e = true ↔ (keptAt history e.place).isSome = true) ∧
        ((s.remove e).1 = true ↔ (keptAt history e.place).isSome = true)) ∧
      s.size = {place | (keptAt history place).isSome = true}.encard ∧
      ∀ now limit, ∃ all : List DueEntry, all.Pairwise DueEntry.Precedes ∧ all.Nodup ∧
        (∀ x, x ∈ all ↔ keptAt history x.place = some x ∧ x.dueAt ≤ now) ∧
        s.fetch now limit = .ok (all.take limit) := by
  intro s
  refine ⟨fun x => mem_after, fun e => ⟨contains_after, contains_after⟩, ?_, ?_⟩
  · rw [← s.encard_places]
    congr 1
    ext place
    simp only [Set.mem_ofPred_eq, Option.isSome_iff_exists]
    constructor
    · rintro ⟨x, member, rfl⟩
      exact ⟨x, mem_after.mp member⟩
    · rintro ⟨x, kept⟩
      have same := place_keptAt kept
      exact ⟨x, mem_after.mpr (same ▸ kept), same⟩
  · intro now limit
    have ordered : (s.allDue now).Pairwise DueEntry.Precedes := s.ordered.sublist List.filter_sublist
    refine ⟨s.allDue now, ordered, nodup_of_ordered ordered, ?_, ?_⟩
    · intro x
      rw [mem_allDue, mem_after]
    · have working : s.fetchError = none := fetchError_after empty history
      rw [fetch, working, due_eq_take]

end DueStore
end Courier
