import Courier.Store.Basic

/-!
Which entries a store holds. A place in the order belongs to one entry at a time: an entry leaves the
store if it is taken out or if another one takes its place. Two entries of one place differ only if
their bytes have the same digest.
-/
namespace Courier

theorem Instant.le_refl (t : Instant) : t ≤ t := .inr ⟨rfl, Nat.le_refl _⟩

theorem Instant.le_trans {a b c : Instant} (ab : a ≤ b) (bc : b ≤ c) : a ≤ c := by
  have ab : a.second < b.second ∨ a.second = b.second ∧ a.nano ≤ b.nano := ab
  have bc : b.second < c.second ∨ b.second = c.second ∧ b.nano ≤ c.nano := bc
  show a.second < c.second ∨ a.second = c.second ∧ a.nano ≤ c.nano
  omega

theorem Instant.le_of_lt_of_le {a b c : Instant} (ab : a < b) (bc : b ≤ c) : a ≤ c := by
  have ab : a.second < b.second ∨ a.second = b.second ∧ a.nano < b.nano := ab
  have bc : b.second < c.second ∨ b.second = c.second ∧ b.nano ≤ c.nano := bc
  show a.second < c.second ∨ a.second = c.second ∧ a.nano ≤ c.nano
  omega

namespace DueEntry

theorem SamePlace.refl (e : DueEntry) : e.SamePlace e := ⟨rfl, rfl⟩

theorem SamePlace.symm {a b : DueEntry} (same : a.SamePlace b) : b.SamePlace a := ⟨same.1.symm, same.2.symm⟩

theorem Precedes.not_samePlace {a b : DueEntry} (before : a.Precedes b) : ¬ a.SamePlace b := by
  intro same
  exact Precedes.irrefl b (same.symm.precedes before)

/-- Whether two entries take the same place although they hold different bytes: their digests collide. -/
def Collides (a b : DueEntry) : Prop := a.SamePlace b ∧ a.member ≠ b.member

theorem SamePlace.eq_or_collides {a b : DueEntry} (same : a.SamePlace b) : a = b ∨ a.Collides b := by
  by_cases bytes : a.member = b.member
  · left
    obtain ⟨member, dueAt, key, digest⟩ := a
    obtain ⟨member', dueAt', key', digest'⟩ := b
    obtain ⟨time, lock⟩ := same
    simp only at bytes time lock
    subst bytes time lock
    rfl
  · exact .inr ⟨same, bytes⟩

end DueEntry

namespace DueStore

theorem mem_placed_self (e : DueEntry) (entries : List DueEntry) : e ∈ placed e entries := by
  induction entries with
  | nil => simp [placed]
  | cons x rest ih =>
    rw [placed]
    split
    · exact List.mem_cons_self
    · split
      · exact List.mem_cons_of_mem _ ih
      · exact List.mem_cons_self

theorem mem_placed_of_mem {e x : DueEntry} {entries : List DueEntry} (member : x ∈ entries)
    (elsewhere : ¬ e.SamePlace x) : x ∈ placed e entries := by
  induction entries with
  | nil => cases member
  | cons y rest ih =>
    rw [placed]
    split
    · exact List.mem_cons_of_mem _ member
    · rename_i notBefore
      split
      · rcases List.mem_cons.mp member with here | later
        · exact here ▸ List.mem_cons_self
        · exact List.mem_cons_of_mem _ (ih later)
      · rename_i notAfter
        rcases List.mem_cons.mp member with here | later
        · exact absurd (here ▸ DueEntry.samePlace_of_not_precedes notBefore notAfter) elsewhere
        · exact List.mem_cons_of_mem _ later

/-- An entry whose place is free comes to the others. -/
theorem placed_perm {e : DueEntry} {entries : List DueEntry} (free : ∀ x ∈ entries, ¬ e.SamePlace x) :
    (placed e entries).Perm (e :: entries) := by
  induction entries with
  | nil => exact List.Perm.refl _
  | cons y rest ih =>
    rw [placed]
    split
    · exact List.Perm.refl _
    · rename_i notBefore
      split
      · exact ((ih (fun x member => free x (List.mem_cons_of_mem y member))).cons y).trans (List.Perm.swap e y rest)
      · rename_i notAfter
        exact absurd (DueEntry.samePlace_of_not_precedes notBefore notAfter) (free y List.mem_cons_self)

/-- An entry of an ordered list, and those in other places. -/
theorem perm_of_mem {e : DueEntry} {entries : List DueEntry} (ordered : entries.Pairwise DueEntry.Precedes)
    (member : e ∈ entries) : entries.Perm (e :: entries.filter (fun x => ¬ e.SamePlace x)) := by
  induction entries with
  | nil => cases member
  | cons y rest ih =>
    obtain ⟨first, ordered⟩ := List.pairwise_cons.mp ordered
    rcases List.mem_cons.mp member with rfl | later
    · have others : rest.filter (fun x => ¬ e.SamePlace x) = rest :=
        List.filter_eq_self.mpr (fun x inside => by simpa using (first x inside).not_samePlace)
      rw [List.filter_cons_of_neg (by simpa using DueEntry.SamePlace.refl e), others]
    · have apart : ¬ e.SamePlace y := fun same => (first e later).not_samePlace same.symm
      rw [List.filter_cons_of_pos (by simpa using apart)]
      exact ((ih ordered later).cons y).trans (List.Perm.swap e y _)

/-- At one time a store holds no two entries of one digest that are due at one instant. -/
theorem not_collides {s : DueStore} {x y : DueEntry} (first : x ∈ s.entries) (second : y ∈ s.entries) :
    ¬ x.Collides y := by
  have all : ∀ a ∈ s.entries, ∀ b ∈ s.entries, ¬ a.Collides b :=
    List.Pairwise.forall_of_forall_of_flip (fun a _ collides => collides.2 rfl)
      (s.ordered.imp (fun before collides => before.not_samePlace collides.1))
      (s.ordered.imp (fun before collides => before.not_samePlace collides.1.symm))
  exact all x first y second

theorem mem_remove {s : DueStore} {e x : DueEntry} :
    x ∈ (s.remove e).2.entries ↔ x ∈ s.entries ∧ ¬ e.SamePlace x := by
  simp [remove]

theorem isLocked_iff (s : DueStore) (e : DueEntry) (now : Nat) :
    s.isLocked e now = true ↔ ∃ ends, s.locks.get? e.lockKey = some ends ∧ now < ends := by
  simp [isLocked, Option.any_eq_true]

theorem isLocked_congr (s : DueStore) {x y : DueEntry} (same : x.lockKey = y.lockKey) (now : Nat) :
    s.isLocked x now = s.isLocked y now := by
  rw [isLocked, isLocked, same]

/-- Nobody has a lock once all locks have ended. -/
theorem isLocked_of_ended {s : DueStore} {now : Nat} (ended : ∀ key ends, s.locks.get? key = some ends → ends ≤ now)
    (e : DueEntry) {later : Nat} (le : now ≤ later) : s.isLocked e later = false := by
  rw [← Bool.not_eq_true, isLocked_iff]
  rintro ⟨ends, found, early⟩
  have past := ended _ ends found
  omega

@[simp] theorem entries_claim (s : DueStore) (e : DueEntry) (ttl : Span) (now : Nat) :
    (s.claim e ttl now).2.entries = s.entries := by
  unfold claim
  split
  · rfl
  · split <;> rfl

/-- A claim meets with a conflict if someone has the lock; else it gets the lock or breaks off. -/
theorem claim_cases (s : DueStore) (e : DueEntry) (ttl : Span) (now : Nat) :
    s.isLocked e now = true ∧ (s.claim e ttl now).1 = some false ∧ (s.claim e ttl now).2.locks = s.locks ∨
      s.isLocked e now = false ∧ (s.claim e ttl now).1 = some true ∧
        (s.claim e ttl now).2.locks = s.locks.insert e.lockKey (now + ttl.nanos) ∨
      s.isLocked e now = false ∧ (s.claim e ttl now).1 = none ∧ (s.claim e ttl now).2.locks = s.locks := by
  by_cases locked : s.isLocked e now = true
  · simp [claim, locked]
  · by_cases tellable : Timer.isTellable ttl = true
    · simp [claim, locked, tellable]
    · simp [claim, locked, tellable]

/-- A fetched batch is made of entries of the store, in their order. -/
theorem fetch_ok {s : DueStore} {now : Instant} {limit : Nat} {batch : List DueEntry}
    (fetched : s.fetch now limit = .ok batch) : batch.Sublist s.entries := by
  have value : s.due now limit = batch := by
    unfold fetch at fetched
    split at fetched
    · cases fetched
    · exact Except.ok.inj fetched
  rw [← value]
  exact (List.take_sublist _ _).trans (List.takeWhile_sublist _)

/-- A fetched batch has no more entries than were asked for. -/
theorem length_le_of_fetch {s : DueStore} {now : Instant} {limit : Nat} {batch : List DueEntry}
    (fetched : s.fetch now limit = .ok batch) : batch.length ≤ limit := by
  unfold fetch at fetched
  split at fetched
  · cases fetched
  · rw [← Except.ok.inj fetched]
    exact List.length_take_le _ _

/-- What may become of the entries when someone only puts entries in: none is taken out, unless another
one takes its place. -/
def GrewTo (s after : DueStore) : Prop :=
  after.entries = s.entries ∨ ∃ e, after.entries = placed e s.entries

theorem GrewTo.of_eq {s after : DueStore} (same : after.entries = s.entries) : s.GrewTo after := .inl same

theorem GrewTo.mem {s after : DueStore} (grew : s.GrewTo after) {e : DueEntry} (member : e ∈ s.entries) :
    e ∈ after.entries ∨ ∃ x ∈ after.entries, x.Collides e := by
  rcases grew with same | ⟨x, put⟩
  · exact .inl (same ▸ member)
  · rw [put]
    by_cases place : x.SamePlace e
    · rcases place.eq_or_collides with same | collides
      · exact .inl (same ▸ mem_placed_self x _)
      · exact .inr ⟨x, mem_placed_self x _, collides⟩
    · exact .inl (mem_placed_of_mem member place)

/-! ### Due entries -/

/-- All entries that are due at an instant. -/
def allDue (s : DueStore) (now : Instant) : List DueEntry := s.entries.filter (fun x => x.dueAt ≤ now)

theorem mem_allDue {s : DueStore} {now : Instant} {x : DueEntry} :
    x ∈ s.allDue now ↔ x ∈ s.entries ∧ x.dueAt ≤ now := by
  simp [allDue]

/-- An entry that comes before one that is due is due as well. -/
theorem dueAt_le_of_precedes {x y : DueEntry} {now : Instant} (before : x.Precedes y) (due : y.dueAt ≤ now) :
    x.dueAt ≤ now := by
  rcases before with earlier | ⟨same, _⟩
  · exact Instant.le_of_lt_of_le earlier due
  · exact same ▸ due

/-- The entries that are due are the first ones of the store. -/
theorem due_eq_take (s : DueStore) (now : Instant) (limit : Nat) : s.due now limit = (s.allDue now).take limit := by
  have first {entries : List DueEntry} (ordered : entries.Pairwise DueEntry.Precedes) :
      entries.takeWhile (fun x => x.dueAt ≤ now) = entries.filter (fun x => x.dueAt ≤ now) := by
    induction entries with
    | nil => rfl
    | cons x rest ih =>
      obtain ⟨before, ordered⟩ := List.pairwise_cons.mp ordered
      by_cases due : x.dueAt ≤ now
      · rw [List.takeWhile_cons_of_pos (by simpa using due), List.filter_cons_of_pos (by simpa using due), ih ordered]
      · rw [List.takeWhile_cons_of_neg (by simpa using due), List.filter_cons_of_neg (by simpa using due)]
        refine (List.filter_eq_nil_iff.mpr ?_).symm
        intro y later late
        exact due (dueAt_le_of_precedes (before y later) (by simpa using late))
  rw [due, allDue, first s.ordered]

theorem nodup_of_ordered {entries : List DueEntry} (ordered : entries.Pairwise DueEntry.Precedes) : entries.Nodup := by
  refine ordered.imp ?_
  rintro x y before rfl
  exact DueEntry.Precedes.irrefl x before

/-- An entry is among the first ones of its list if few enough come before it. -/
theorem mem_take_iff {entries : List DueEntry} (ordered : entries.Pairwise DueEntry.Precedes) {e : DueEntry}
    (member : e ∈ entries) (n : Nat) :
    e ∈ entries.take n ↔ (entries.filter (fun x => x.Precedes e)).length < n := by
  induction entries generalizing n with
  | nil => cases member
  | cons x rest ih =>
    obtain ⟨before, ordered⟩ := List.pairwise_cons.mp ordered
    rcases List.mem_cons.mp member with rfl | later
    · have first : (e :: rest).filter (fun x => x.Precedes e) = [] := by
        refine List.filter_eq_nil_iff.mpr ?_
        intro y inside precedes
        have precedes : y.Precedes e := of_decide_eq_true precedes
        rcases List.mem_cons.mp inside with rfl | later
        · exact DueEntry.Precedes.irrefl y precedes
        · exact DueEntry.Precedes.irrefl e ((before y later).trans precedes)
      rw [first, List.length_nil]
      cases n with
      | zero => simp
      | succ n => simp
    · have apart : e ≠ x := by
        rintro rfl
        exact DueEntry.Precedes.irrefl e (before e later)
      rw [List.filter_cons_of_pos (by simpa using before e later), List.length_cons]
      cases n with
      | zero => simp
      | succ n =>
        rw [List.take_succ_cons, List.mem_cons, ih ordered later, Nat.succ_lt_succ_iff]
        simp [apart]

end DueStore
end Courier
