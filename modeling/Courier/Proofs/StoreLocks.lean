import Courier.Proofs.StoreContents

/-!
Who gets a lock in the course of any history of a due store. Of all the claims of a lock the store remembers one thing:
when the lease ends that it granted last. So the next claim is granted just if that lease is over, whatever became of
the entries meanwhile, and whatever claims were refused. This takes nothing for granted about the clock.
-/
namespace Courier

/-- A lock that was granted: at which count of the clock, and for how long. -/
structure Lease where
  since : Nat
  ttl : Span
deriving DecidableEq

namespace Lease

def ends (l : Lease) : Nat := l.since + l.ttl.nanos

/-- Whether leases follow each other, each beginning when those before it are over. -/
def InTurn (leases : List Lease) : Prop := leases.Pairwise (fun first second => first.ends ≤ second.since)

theorem InTurn.ends_le {leases : List Lease} (inTurn : InTurn leases) {last : Lease}
    (ends : leases.getLast? = some last) {l : Lease} (member : l ∈ leases) : l.ends ≤ last.ends := by
  obtain ⟨early, rfl⟩ := List.getLast?_eq_some_iff.mp ends
  rcases List.mem_append.mp member with earlier | here
  · have before : l.ends ≤ last.since := (List.pairwise_append.mp inTurn).2.2 l earlier last (List.mem_singleton_self _)
    exact Nat.le_trans before (Nat.le_add_right ..)
  · rw [List.mem_singleton.mp here]

/-- A lease comes in turn if the last one is over. -/
theorem InTurn.snoc {leases : List Lease} (inTurn : InTurn leases) {next : Lease}
    (past : ∀ last, leases.getLast? = some last → last.ends ≤ next.since) : InTurn (leases ++ [next]) := by
  refine List.pairwise_append.mpr ⟨inTurn, List.pairwise_singleton .., ?_⟩
  intro l member x here
  rw [List.mem_singleton.mp here]
  cases ends : leases.getLast? with
  | none =>
    rw [List.getLast?_eq_none_iff.mp ends] at member
    cases member
  | some last => exact Nat.le_trans (inTurn.ends_le ends member) (past last ends)

end Lease

namespace DueStore

/-- Whether an act is a claim. -/
def Act.isClaim : Act → Bool
  | .claim .. => true
  | .insert _ | .schedule .. | .remove _ | .fetch .. => false

/-- The lease of a lock that a store answers an act with. -/
def lease? (key : String) (s : DueStore) : Act → Option Lease
  | .claim e ttl now => if e.lockKey = key ∧ (s.claim e ttl now).1 = some true then some ⟨now, ttl⟩ else none
  | .insert _ | .schedule .. | .remove _ | .fetch .. => none

/-- The leases of a lock that a store grants in the course of a history, in order. -/
def leases (key : String) : DueStore → List Act → List Lease
  | _, [] => []
  | s, a :: rest => (s.lease? key a).toList ++ leases key (s.act a) rest

theorem leases_snoc (key : String) (s : DueStore) (history : List Act) (a : Act) :
    leases key s (history ++ [a]) = leases key s history ++ ((s.after history).lease? key a).toList := by
  induction history generalizing s with
  | nil => simp [leases, after]
  | cons b history ih =>
    simp only [List.cons_append, leases]
    rw [ih, List.append_assoc]
    rfl

/-- An act that grants a lock notes when it ends; any other act leaves its end as it was. -/
theorem lock_act (s : DueStore) (a : Act) (key : String) :
    (s.act a).locks.get? key = ((s.lease? key a).map Lease.ends).or (s.locks.get? key) := by
  cases a with
  | insert e => rfl
  | schedule m dueAt => rfl
  | remove e => rfl
  | fetch now limit => rfl
  | claim e ttl now =>
    rcases s.claim_cases e ttl now with ⟨_, answer, locks⟩ | ⟨_, answer, locks⟩ | ⟨_, answer, locks⟩
    · simp [act, lease?, answer, locks]
    · by_cases same : e.lockKey = key
      · simp [act, lease?, answer, locks, Table.get?_insert, same, Lease.ends]
      · simp [act, lease?, answer, locks, Table.get?_insert, same]
    · simp [act, lease?, answer, locks]

/-- The store remembers when the last lease of a lock ends. -/
theorem lock_after (key : String) (history : List Act) :
    (empty.after history).locks.get? key = (leases key empty history).getLast?.map Lease.ends := by
  induction history using List.reverseRecOn with
  | nil => rfl
  | append_singleton history a ih =>
    rw [after_snoc, lock_act, ih, leases_snoc]
    cases (empty.after history).lease? key a with
    | none => simp
    | some l => simp

theorem isLocked_after (history : List Act) (e : DueEntry) (now : Nat) :
    (empty.after history).isLocked e now = false ↔
      ∀ last, (leases e.lockKey empty history).getLast? = some last → last.ends ≤ now := by
  rw [isLocked, lock_after]
  cases (leases e.lockKey empty history).getLast? with
  | none => simp
  | some last => simp

/-- A claim gets a lock that nobody has, if the end of its time can be told. -/
theorem claim_true_iff (s : DueStore) (e : DueEntry) (ttl : Span) (now : Nat) :
    (s.claim e ttl now).1 = some true ↔ s.isLocked e now = false ∧ Timer.isTellable ttl = true := by
  unfold claim
  by_cases locked : s.isLocked e now = true
  · simp [locked]
  · by_cases tellable : Timer.isTellable ttl = true
    · simp [locked, tellable]
    · simp [locked, tellable]

/-- A claim meets with a conflict just if someone has the lock. -/
theorem claim_false_iff (s : DueStore) (e : DueEntry) (ttl : Span) (now : Nat) :
    (s.claim e ttl now).1 = some false ↔ s.isLocked e now = true := by
  rcases s.claim_cases e ttl now with ⟨locked, answer, _⟩ | ⟨free, answer, _⟩ | ⟨free, answer, _⟩
  · simp [locked, answer]
  · simp [free, answer]
  · simp [free, answer]

/-- A claim that gets no lock changes none. -/
theorem locks_claim_of_failed {s : DueStore} {e : DueEntry} {ttl : Span} {now : Nat}
    (failed : (s.claim e ttl now).1 ≠ some true) : (s.claim e ttl now).2.locks = s.locks := by
  rcases s.claim_cases e ttl now with ⟨_, _, locks⟩ | ⟨_, answer, _⟩ | ⟨_, _, locks⟩
  · exact locks
  · exact absurd answer failed
  · exact locks

theorem lease?_eq_some {key : String} {s : DueStore} {a : Act} {l : Lease} (granted : s.lease? key a = some l) :
    ∃ e, e.lockKey = key ∧ a = .claim e l.ttl l.since ∧ s.isLocked e l.since = false := by
  cases a with
  | claim e ttl now =>
    simp only [lease?] at granted
    split at granted
    · rename_i gets
      cases granted
      exact ⟨e, gets.1, rfl, ((s.claim_true_iff e ttl now).mp gets.2).1⟩
    · cases granted
  | insert e => cases granted
  | schedule m dueAt => cases granted
  | remove e => cases granted
  | fetch now limit => cases granted

theorem inTurn_leases (key : String) (history : List Act) : Lease.InTurn (leases key empty history) := by
  induction history using List.reverseRecOn with
  | nil => exact .nil
  | append_singleton history a ih =>
    rw [leases_snoc]
    cases granted : (empty.after history).lease? key a with
    | none => simpa using ih
    | some l =>
      obtain ⟨e, rfl, -, free⟩ := lease?_eq_some granted
      exact ih.snoc ((isLocked_after history e l.since).mp free)

theorem claimAttempts_act (s : DueStore) (a : Act) :
    (s.act a).claimAttempts = s.claimAttempts + if a.isClaim then 1 else 0 := by
  cases a with
  | insert e => rfl
  | schedule m dueAt => rfl
  | remove e => rfl
  | fetch now limit => rfl
  | claim e ttl now =>
    show (s.claim e ttl now).2.claimAttempts = s.claimAttempts + 1
    unfold claim
    split
    · rfl
    · split <;> rfl

theorem claimAttempts_after (history : List Act) :
    (empty.after history).claimAttempts = history.countP Act.isClaim := by
  induction history using List.reverseRecOn with
  | nil => rfl
  | append_singleton history a ih => rw [after_snoc, claimAttempts_act, ih, List.countP_append, List.countP_singleton]

/-- What becomes of claims after any history. A claim whose end can be told gets the lock just if no lease of that lock
was granted before or the last one is over, to the very count at which it ends. Whoever asks whether the lock is taken
is told so just if a claim would meet with a conflict. A claim that fails leaves all locks as they were. Leases of one
lock never overlap, and each claim counts. -/
theorem claims_wait_for_leases_to_end (history : List Act) :
    let s := empty.after history
    (∀ e ttl now,
      (Timer.isTellable ttl = true →
        ((s.claim e ttl now).1 = some true ↔
          ∀ last, (leases e.lockKey empty history).getLast? = some last → last.since + last.ttl.nanos ≤ now)) ∧
      (s.isLocked e now = true ↔ (s.claim e ttl now).1 = some false) ∧
      ((s.claim e ttl now).1 ≠ some true → ∀ x later, (s.claim e ttl now).2.isLocked x later = s.isLocked x later)) ∧
      (∀ key, (leases key empty history).Pairwise (fun first second => first.since + first.ttl.nanos ≤ second.since)) ∧
      s.claimAttempts = history.countP Act.isClaim := by
  intro s
  refine ⟨fun e ttl now => ⟨?_, ?_, ?_⟩, fun key => inTurn_leases key history, claimAttempts_after history⟩
  · intro tellable
    rw [claim_true_iff, isLocked_after]
    constructor
    · intro gets
      exact gets.1
    · intro past
      exact ⟨past, tellable⟩
  · rw [claim_false_iff]
  · intro failed x later
    rw [isLocked, isLocked, locks_claim_of_failed failed]

private def lesson : DueEntry := .new [] .epoch

/-- Two claims of one entry, the second of them too early. In between the entry is taken out, and put in again later. -/
private def rehearsal : List Act :=
  [.insert lesson, .claim lesson (.ofSeconds 10) 5, .remove lesson, .claim lesson (.ofSeconds 60) 10000000004,
    .insert lesson]

theorem claims_wait_for_leases_to_end_rehearsal :
    leases lesson.lockKey empty rehearsal = [⟨5, .ofSeconds 10⟩] ∧ Timer.isTellable (.ofSeconds 1) = true ∧
      ((empty.after rehearsal).claim lesson (.ofSeconds 1) 10000000004).1 ≠ some true ∧
      ((empty.after rehearsal).claim lesson (.ofSeconds 1) 10000000005).1 = some true ∧
      (empty.after rehearsal).claimAttempts = 2 := by
  have granted : leases lesson.lockKey empty rehearsal = [⟨5, .ofSeconds 10⟩] := by decide +kernel
  have tellable : Timer.isTellable (.ofSeconds 1) = true := by decide
  have law := claims_wait_for_leases_to_end rehearsal
  refine ⟨granted, tellable, ?_, ?_, law.2.2⟩
  · intro gets
    have past := ((law.1 lesson (.ofSeconds 1) 10000000004).1 tellable).mp gets ⟨5, .ofSeconds 10⟩ (by rw [granted]; rfl)
    exact absurd past (by decide)
  · refine ((law.1 lesson (.ofSeconds 1) 10000000005).1 tellable).mpr ?_
    intro last ends
    rw [granted] at ends
    cases ends
    decide

end DueStore
end Courier
