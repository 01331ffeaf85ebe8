import Courier.Message.Envelope

/-!
# Due entries

A message that waits for its time is kept as the bytes of its envelope, together with the instant at
which it is due. Entries are ordered by that instant and, at the same instant, by the digest of their
bytes. The digest is also the name of the lock that protects an entry, so that two entries with the
same bytes share one lock. Entries that were put together by hand with the name of another lock are left
out.
-/
namespace Courier

/-- Bytes that are due at an instant, and their digest. One that names another lock is no entry. -/
structure DueEntry where
  member : List UInt8
  dueAt : Instant
  lockKey : String
  /-- All that makes entries gives them this key. -/
  isDigest : lockKey = Message.digest member := by rfl
deriving DecidableEq

namespace DueEntry

def new (member : List UInt8) (dueAt : Instant) : DueEntry := ⟨member, dueAt, Message.digest member, rfl⟩

/-- A message that is due at an instant. -/
def ofMessage (m : Message) (dueAt : Instant) : DueEntry := .new m.encode dueAt

def message (e : DueEntry) : Except TransportError Message := Message.decode e.member

/-- Whether two entries take the same place in a store. -/
def SamePlace (a b : DueEntry) : Prop := a.dueAt = b.dueAt ∧ a.lockKey = b.lockKey

instance (a b : DueEntry) : Decidable (a.SamePlace b) := inferInstanceAs (Decidable (_ ∧ _))

/-- Whether an entry comes before another one in a store. -/
def Precedes (a b : DueEntry) : Prop := a.dueAt < b.dueAt ∨ a.dueAt = b.dueAt ∧ a.lockKey < b.lockKey

instance (a b : DueEntry) : Decidable (a.Precedes b) := inferInstanceAs (Decidable (_ ∨ _))

/-! ## The order of entries -/

theorem Precedes.trans {a b c : DueEntry} (ab : a.Precedes b) (bc : b.Precedes c) : a.Precedes c := by
  rcases ab with ab | ⟨ab, keyAb⟩
  · rcases bc with bc | ⟨bc, _⟩
    · exact .inl (Instant.lt_trans ab bc)
    · exact .inl (bc ▸ ab)
  · rcases bc with bc | ⟨bc, keyBc⟩
    · exact .inl (ab ▸ bc)
    · exact .inr ⟨ab.trans bc, String.lt_trans keyAb keyBc⟩

theorem Precedes.irrefl (a : DueEntry) : ¬ a.Precedes a := by
  rintro (h | ⟨_, h⟩)
  · exact Instant.lt_irrefl _ h
  · exact String.lt_irrefl _ h

theorem samePlace_of_not_precedes {a b : DueEntry} (ab : ¬ a.Precedes b) (ba : ¬ b.Precedes a) :
    a.SamePlace b := by
  have sameTime : a.dueAt = b.dueAt :=
    Instant.eq_of_not_lt (fun h => ab (.inl h)) (fun h => ba (.inl h))
  have noLess : ¬ a.lockKey < b.lockKey := fun h => ab (.inr ⟨sameTime, h⟩)
  have noMore : ¬ b.lockKey < a.lockKey := fun h => ba (.inr ⟨sameTime.symm, h⟩)
  exact ⟨sameTime, String.le_antisymm (String.not_lt.mp noMore) (String.not_lt.mp noLess)⟩

theorem SamePlace.precedes {a b c : DueEntry} (same : a.SamePlace b) (bc : b.Precedes c) :
    a.Precedes c := by
  unfold Precedes
  rw [same.1, same.2]
  exact bc

end DueEntry
end Courier
