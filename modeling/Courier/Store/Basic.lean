import Courier.Store.Entry
import Courier.Table
import Courier.Timer

/-!
# The due store

The store keeps entries in the order in which they become due. Whoever wants to deliver an entry first
claims it: a claim takes the lock of the entry for some time, and fails while someone else has it.
Taking an entry out does not give its lock back. Times of locks are nanoseconds on the clock that all
users of the store share.
-/
namespace Courier

/-- Entries in order, and who may touch them. -/
structure DueStore where
  entries : List DueEntry
  ordered : entries.Pairwise DueEntry.Precedes
  /-- The nanosecond at which each lock ends. -/
  locks : Table String Nat
  /-- What every look at the store fails with, if it does. -/
  fetchError : Option String
  /-- How often a claim was made. -/
  claimAttempts : Nat

namespace DueStore

def empty : DueStore := ⟨[], .nil, .empty, none, 0⟩

instance : Inhabited DueStore := ⟨empty⟩

/-! ## Entries -/

/-- Puts an entry into its place among others. It replaces the one that is there. -/
def placed (e : DueEntry) : List DueEntry → List DueEntry
  | [] => [e]
  | x :: rest =>
    if e.Precedes x then e :: x :: rest
    else if x.Precedes e then x :: placed e rest
    else e :: rest

theorem mem_placed {e x : DueEntry} {entries : List DueEntry} (h : x ∈ placed e entries) :
    x = e ∨ x ∈ entries := by
  induction entries with
  | nil => simpa [placed] using h
  | cons y rest ih =>
    rw [placed] at h
    split at h
    · simpa using h
    · split at h
      · rcases List.mem_cons.mp h with h | h
        · exact .inr (by simp [h])
        · exact (ih h).imp_right (List.mem_cons_of_mem y)
      · rcases List.mem_cons.mp h with h | h
        · exact .inl h
        · exact .inr (List.mem_cons_of_mem y h)

theorem ordered_placed (e : DueEntry) {entries : List DueEntry}
    (ordered : entries.Pairwise DueEntry.Precedes) : (placed e entries).Pairwise DueEntry.Precedes := by
  induction entries with
  | nil => simp [placed]
  | cons x rest ih =>
    have later := (List.pairwise_cons.mp ordered).1
    have restOrdered := (List.pairwise_cons.mp ordered).2
    rw [placed]
    split
    · rename_i before
      refine List.pairwise_cons.mpr ⟨fun y hy => ?_, ordered⟩
      rcases List.mem_cons.mp hy with rfl | hy
      · exact before
      · exact before.trans (later y hy)
    · split
      · rename_i after
        refine List.pairwise_cons.mpr ⟨fun y hy => ?_, ih restOrdered⟩
        rcases mem_placed hy with rfl | hy
        · exact after
        · exact later y hy
      · rename_i notBefore notAfter
        have same := DueEntry.samePlace_of_not_precedes notBefore notAfter
        exact List.pairwise_cons.mpr ⟨fun y hy => same.precedes (later y hy), restOrdered⟩

def insert (s : DueStore) (e : DueEntry) : DueStore :=
  { s with entries := placed e s.entries, ordered := ordered_placed e s.ordered }

def schedule (s : DueStore) (m : Message) (dueAt : Instant) : DueStore := s.insert (.ofMessage m dueAt)

def contains (s : DueStore) (e : DueEntry) : Bool := s.entries.any (fun x => e.SamePlace x)

/-- Takes an entry out, and says whether it was there. -/
def remove (s : DueStore) (e : DueEntry) : Bool × DueStore :=
  (s.contains e,
    { s with
      entries := s.entries.filter (fun x => ¬ e.SamePlace x)
      ordered := s.ordered.sublist List.filter_sublist })

def size (s : DueStore) : Nat := s.entries.length

def isEmpty (s : DueStore) : Bool := s.entries.isEmpty

/-- The first entries that are due at an instant, up to some number of them. -/
def due (s : DueStore) (now : Instant) (limit : Nat) : List DueEntry :=
  (s.entries.takeWhile (fun e => e.dueAt ≤ now)).take limit

def fetch (s : DueStore) (now : Instant) (limit : Nat) : Except TransportError (List DueEntry) :=
  match s.fetchError with
  | some message => .error (.store message)
  | none => .ok (s.due now limit)

/-- Makes every look at the store fail, or work again. -/
def failFetches (s : DueStore) (message : Option String) : DueStore := { s with fetchError := message }

/-! ## Locks -/

/-- Whether someone has the lock of an entry. -/
def isLocked (s : DueStore) (e : DueEntry) (now : Nat) : Bool :=
  (s.locks.get? e.lockKey).any (fun ends => now < ends)

/-- Takes the lock of an entry for some time, unless someone has it. The claim breaks off without a
lock if the end of that time cannot be told. -/
def claim (s : DueStore) (e : DueEntry) (ttl : Span) (now : Nat) : Option Bool × DueStore :=
  let counted := { s with claimAttempts := s.claimAttempts + 1 }
  if s.isLocked e now then (some false, counted)
  else if Timer.isTellable ttl then
    (some true, { counted with locks := s.locks.insert e.lockKey (now + ttl.nanos) })
  else (none, counted)

end DueStore
end Courier
