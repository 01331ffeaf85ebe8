import Mathlib.Algebra.Order.Ring.Nat
import Mathlib.Data.List.Chain
import Courier.Clock
import Courier.Proofs.LaterInstants

/-!
What clocks show that are copied and moved in the course of any history. Copies of a clock share its count, so that
moving one of them moves them all, and they show the same at any time. The count is the sum of the moves as far as its
word can hold it. Until then nothing that a clock shows goes back, save that the leap second at the end of the calendar
comes after the latest instant; the move that leads past the word takes the count back.
-/
namespace Courier

/-- The nanoseconds that a clock is moved by for a span: as many as a word can hold. -/
def Span.stride (s : Span) : Nat := min s.nanos 0xFFFFFFFFFFFFFFFF

/-- A clock as someone holds it: the place of the count that it shares with its copies, and what it was started at. -/
structure ClockFace where
  count : Nat
  start : Instant
  /-- What the system's own clock showed at the start, in nanoseconds. -/
  steady : Nat
deriving DecidableEq

/-- What a clock shows. -/
structure Reading where
  /-- The time since the start. -/
  elapsed : Span
  /-- The time of the system's own clock, in nanoseconds. -/
  steady : Nat
  universal : Instant
deriving DecidableEq

/-- Clocks and the counts that they share. -/
structure Clocks where
  counts : List UInt64
  faces : List ClockFace

namespace Clocks

/-- One clock that was just started. -/
def opened (start : Instant) (steady : Nat) : Clocks := ⟨[(Clock.startedAt start).elapsed], [⟨0, start, steady⟩]⟩

def clock (w : Clocks) (f : ClockFace) : Clock := ⟨f.start, w.counts.getD f.count 0⟩

def read (w : Clocks) (f : ClockFace) : Reading where
  elapsed := (w.clock f).elapsedSpan
  steady := f.steady + (w.clock f).elapsedSpan.nanos
  universal := (w.clock f).now

/-- Moves the clock at a place, and so whatever shares its count. -/
def move (w : Clocks) (place : Nat) (f : Clock → Clock) : Clocks :=
  match w.faces[place]? with
  | none => w
  | some face => { w with counts := w.counts.set face.count (f (w.clock face)).elapsed }

/-- Something that is done with clocks, each of which is known by its place. -/
inductive Act
  /-- Another clock is started. -/
  | start (start : Instant) (steady : Nat)
  /-- A clock is copied. -/
  | copy (place : Nat)
  | advance (place : Nat) (s : Span)
  | sleep (place : Nat) (s : Span)

def act (w : Clocks) : Act → Clocks
  | .start start steady =>
    ⟨w.counts ++ [(Clock.startedAt start).elapsed], w.faces ++ [⟨w.counts.length, start, steady⟩]⟩
  | .copy place => { w with faces := w.faces ++ w.faces[place]?.toList }
  | .advance place s => w.move place (·.advance s)
  | .sleep place s => w.move place (·.sleep s)

/-- The clocks after some acts. -/
def after (w : Clocks) (history : List Act) : Clocks := history.foldl act w

/-- The span that an act moves a count by. -/
def move? (w : Clocks) (count : Nat) : Act → Option Span
  | .advance place s | .sleep place s => if w.faces[place]?.map ClockFace.count = some count then some s else none
  | .start .. | .copy _ => none

/-- The nanoseconds that an act moves a count by. -/
def distance (w : Clocks) (count : Nat) (a : Act) : Nat := (w.move? count a).elim 0 Span.stride

/-- The nanoseconds that a history moves a count by. -/
def total (count : Nat) : Clocks → List Act → Nat
  | _, [] => 0
  | w, a :: rest => w.distance count a + total count (w.act a) rest

/-- What a clock shows at first and after each act of a history. -/
def readings (f : ClockFace) : Clocks → List Act → List Reading
  | w, [] => [w.read f]
  | w, a :: rest => w.read f :: readings f (w.act a) rest

/-! ### Which clocks share a count -/

/-- Each clock has a count, and clocks that share one are copies of each other. -/
structure Sound (w : Clocks) : Prop where
  counted : ∀ f ∈ w.faces, f.count < w.counts.length
  copies : ∀ f ∈ w.faces, ∀ g ∈ w.faces, f.count = g.count → f = g

theorem sound_opened (start : Instant) (steady : Nat) : (opened start steady).Sound where
  counted f member := by
    rw [List.mem_singleton.mp member]
    exact Nat.zero_lt_one
  copies f first g second _ := (List.mem_singleton.mp first).trans (List.mem_singleton.mp second).symm

variable {w : Clocks}

theorem faces_move (place : Nat) (f : Clock → Clock) : (w.move place f).faces = w.faces := by
  unfold move
  split <;> rfl

theorem length_counts_move (place : Nat) (f : Clock → Clock) : (w.move place f).counts.length = w.counts.length := by
  unfold move
  split
  · rfl
  · exact List.length_set

theorem Sound.move (sound : w.Sound) (place : Nat) (f : Clock → Clock) : (w.move place f).Sound where
  counted g member := by
    rw [faces_move] at member
    rw [length_counts_move]
    exact sound.counted g member
  copies := by
    rw [faces_move]
    exact sound.copies

theorem Sound.act (sound : w.Sound) (a : Act) : (w.act a).Sound := by
  cases a with
  | start start steady =>
    have cases_ {f : ClockFace} (member : f ∈ w.faces ++ [⟨w.counts.length, start, steady⟩]) :
        f ∈ w.faces ∧ f.count < w.counts.length ∨ f = ⟨w.counts.length, start, steady⟩ := by
      rcases List.mem_append.mp member with old | new
      · exact .inl ⟨old, sound.counted f old⟩
      · exact .inr (List.mem_singleton.mp new)
    constructor
    · intro f member
      show f.count < (w.counts ++ [_]).length
      rw [List.length_append, List.length_singleton]
      rcases cases_ member with ⟨_, counted⟩ | rfl
      · exact Nat.lt_succ_of_lt counted
      · exact Nat.lt_succ_self _
    · intro f first g second same
      rcases cases_ first with ⟨old, counted⟩ | rfl <;> rcases cases_ second with ⟨old', counted'⟩ | rfl
      · exact sound.copies f old g old' same
      · exact absurd same (Nat.ne_of_lt counted)
      · exact absurd same.symm (Nat.ne_of_lt counted')
      · rfl
  | copy place =>
    have known {f : ClockFace} (member : f ∈ w.faces ++ w.faces[place]?.toList) : f ∈ w.faces := by
      rcases List.mem_append.mp member with old | copied
      · exact old
      · exact List.mem_of_getElem? (Option.mem_toList.mp copied)
    exact ⟨fun f member => sound.counted f (known member),
      fun f first g second => sound.copies f (known first) g (known second)⟩
  | advance place s => exact sound.move place (·.advance s)
  | sleep place s => exact sound.move place (·.sleep s)

theorem Sound.after (sound : w.Sound) (history : List Act) : (w.after history).Sound := by
  induction history generalizing w with
  | nil => exact sound
  | cons a rest ih => exact ih (sound.act a)

/-- Nobody loses a clock. -/
theorem faces_act_subset (a : Act) : w.faces ⊆ (w.act a).faces := by
  cases a with
  | start start steady => exact List.subset_append_left ..
  | copy place => exact List.subset_append_left ..
  | advance place s => exact (faces_move place _).symm ▸ List.Subset.refl _
  | sleep place s => exact (faces_move place _).symm ▸ List.Subset.refl _

theorem faces_after_subset (w : Clocks) (history : List Act) : w.faces ⊆ (w.after history).faces := by
  induction history generalizing w with
  | nil => exact List.Subset.refl _
  | cons a rest ih => exact List.Subset.trans (faces_act_subset a) (ih (w.act a))

/-! ### What an act does to a clock -/

section Held
variable {f : ClockFace} (sound : w.Sound) (held : f ∈ w.faces)
include sound held

/-- Moving a clock moves its copies alike, and no other clock. -/
theorem clock_move (place : Nat) (s : Span) :
    (w.move place (·.advance s)).clock f =
      if w.faces[place]?.map ClockFace.count = some f.count then (w.clock f).advance s else w.clock f := by
  have counted := sound.counted f held
  unfold move
  cases there : w.faces[place]? with
  | none => simp
  | some g =>
    simp only [Option.map_some, Option.some_inj]
    by_cases same : g.count = f.count
    · obtain rfl := sound.copies g (List.mem_of_getElem? there) f held same
      simp [clock, Clock.advance, counted]
    · simp [clock, same]

/-- An act that moves a clock's count moves the clock, whichever of its copies it is done with. Any other act leaves the
clock as it was. -/
theorem clock_act (a : Act) : (w.act a).clock f = (w.move? f.count a).elim (w.clock f) (w.clock f).advance := by
  have counted := sound.counted f held
  cases a with
  | start start steady => simp [act, move?, clock, counted, List.getElem?_append_left]
  | copy place => rfl
  | advance place s =>
    rw [act, clock_move sound held, move?]
    split <;> rfl
  | sleep place s =>
    show (w.move place (·.advance s)).clock f = _
    rw [clock_move sound held, move?]
    split <;> rfl

theorem elapsed_act (a : Act) :
    ((w.act a).clock f).elapsed.toNat = ((w.clock f).elapsed.toNat + w.distance f.count a) % 2 ^ 64 := by
  rw [clock_act sound held, distance]
  cases w.move? f.count a with
  | none => exact (Nat.mod_eq_of_lt (w.clock f).elapsed.toNat_lt).symm
  | some s => exact (w.clock f).toNat_elapsed_advance s

end Held

theorem total_cons (count : Nat) (w : Clocks) (a : Act) (rest : List Act) :
    w.total count (a :: rest) = w.distance count a + (w.act a).total count rest := rfl

/-- One act moves a clock by less than its count can tell. -/
theorem distance_lt (w : Clocks) (count : Nat) (a : Act) : w.distance count a < 2 ^ 64 := by
  unfold distance
  cases w.move? count a with
  | none => decide
  | some s => exact Nat.lt_of_le_of_lt (Nat.min_le_right ..) (by decide : 0xFFFFFFFFFFFFFFFF < 2 ^ 64)

/-- The count of a clock is the sum of all moves, as far as a word holds it. -/
theorem elapsed_after (sound : w.Sound) {f : ClockFace} (held : f ∈ w.faces) (history : List Act) :
    ((w.after history).clock f).elapsed.toNat = ((w.clock f).elapsed.toNat + w.total f.count history) % 2 ^ 64 := by
  induction history generalizing w with
  | nil => exact (Nat.mod_eq_of_lt (w.clock f).elapsed.toNat_lt).symm
  | cons a rest ih =>
    show (((w.act a).after rest).clock f).elapsed.toNat = _
    rw [ih (sound.act a) (faces_act_subset a held), elapsed_act sound held, total_cons, Nat.mod_add_mod, Nat.add_assoc]

/-! ### Readings -/

theorem nanos_elapsed_read (w : Clocks) (f : ClockFace) : (w.read f).elapsed.nanos = (w.clock f).elapsed.toNat :=
  (w.clock f).nanos_elapsedSpan

theorem steady_read (w : Clocks) (f : ClockFace) : (w.read f).steady = f.steady + (w.read f).elapsed.nanos := rfl

theorem head?_readings (f : ClockFace) (w : Clocks) (history : List Act) :
    (readings f w history).head? = some (w.read f) := by
  cases history <;> rfl

/-- Readings are ordered if each act keeps the order, and the readings after it are. -/
theorem isChain_readings_cons {R : Reading → Reading → Prop} {f : ClockFace} {a : Act} {rest : List Act} :
    (readings f w (a :: rest)).IsChain R ↔
      R (w.read f) ((w.act a).read f) ∧ (readings f (w.act a) rest).IsChain R := by
  rw [readings, List.isChain_cons, head?_readings]
  simp

/-- What has the order of the time since the start never goes back just if the moves stay within the word. -/
theorem isChain_iff_total_lt {R : Reading → Reading → Prop} {f : ClockFace}
    (tells : ∀ v w : Clocks, R (v.read f) (w.read f) ↔ (v.read f).elapsed ≤ (w.read f).elapsed)
    (sound : w.Sound) (held : f ∈ w.faces) (history : List Act) :
    (readings f w history).IsChain R ↔ (w.clock f).elapsed.toNat + w.total f.count history < 2 ^ 64 := by
  induction history generalizing w with
  | nil =>
    have small := (w.clock f).elapsed.toNat_lt
    simp [readings, total, small]
  | cons a rest ih =>
    have small := (w.clock f).elapsed.toNat_lt
    have short := w.distance_lt f.count a
    have moved := elapsed_act sound held a
    have step : R (w.read f) ((w.act a).read f) ↔ (w.clock f).elapsed.toNat ≤ ((w.act a).clock f).elapsed.toNat := by
      rw [tells, ← nanos_elapsed_read, ← nanos_elapsed_read]
      rfl
    rw [isChain_readings_cons, step, ih (sound.act a) (faces_act_subset a held), total_cons]
    omega

/-- As long as the moves stay within the word, universal time goes back only at the end of the calendar, if a clock is
started in the leap second there and moved out of it. -/
theorem isChain_universal_iff {f : ClockFace} (sound : w.Sound) (held : f ∈ w.faces) (history : List Act)
    (counts : (w.clock f).elapsed.toNat + w.total f.count history < 2 ^ 64) :
    (readings f w history).IsChain (fun a b => a.universal ≤ b.universal) ↔
      f.start ≤ .latest ∨ 2000000000 ≤ f.start.nano + (w.clock f).elapsed.toNat ∨
        f.start.nano + ((w.clock f).elapsed.toNat + w.total f.count history) < 2000000000 := by
  induction history generalizing w with
  | nil =>
    have nowhere : w.total f.count [] = 0 := rfl
    have alone : (readings f w []).IsChain (fun a b => a.universal ≤ b.universal) := List.isChain_singleton _
    rw [nowhere, iff_true_left alone]
    omega
  | cons a rest ih =>
    have moved := elapsed_act sound held a
    rw [total_cons] at counts ⊢
    have gone : (w.clock f).elapsed.toNat ≤ ((w.act a).clock f).elapsed.toNat := by omega
    have step : (w.read f).universal ≤ ((w.act a).read f).universal ↔ f.start ≤ .latest ∨
        2000000000 ≤ f.start.nano + (w.clock f).elapsed.toNat ∨
        f.start.nano + ((w.act a).clock f).elapsed.toNat < 2000000000 := by
      rw [← nanos_elapsed_read, ← nanos_elapsed_read] at gone ⊢
      exact f.start.later_le_later_iff gone
    rw [isChain_readings_cons, step, ih (sound.act a) (faces_act_subset a held) (by omega)]
    by_cases within : f.start ≤ .latest
    · simp [within]
    · simp only [within, false_or]
      omega

/-- What a clock and its copies show in the course of any history. At any time they all show the same: the sum of all
moves made with any of them, less multiples of 2^64 nanoseconds; the time of the system's own clock at the start and as
much again; and the start and as much again in universal time, or the latest instant if the calendar ends before that.
The first two readings never go back just if the moves stay below 2^64 nanoseconds. As long as they do, neither does
universal time, unless the clock was started after the latest instant, in the leap second that ends the calendar, and is
moved out of it. -/
theorem readings_rise_until_count_runs_over (start : Instant) (steady : Nat) (history : List Act) :
    let face : ClockFace := ⟨0, start, steady⟩
    let w := (opened start steady).after history
    let total := (opened start steady).total 0 history
    let shown := w.read face
    let all := readings face (opened start steady) history
    face ∈ w.faces ∧ (∀ copy ∈ w.faces, copy.count = 0 → w.read copy = shown) ∧
      (shown.elapsed.nanos = total % 2 ^ 64 ∧ shown.steady = steady + shown.elapsed.nanos ∧
        if 1000000000 ≤ start.nano ∧ start.nano + shown.elapsed.nanos < 2000000000 then
          shown.universal.second = start.second ∧ shown.universal.nano = start.nano + shown.elapsed.nanos
        else if start.second * 1000000000 + (start.nano % 1000000000 : Nat) + shown.elapsed.nanos ≤
            Instant.latest.sinceEpoch then
          shown.universal.sinceEpoch =
              start.second * 1000000000 + (start.nano % 1000000000 : Nat) + shown.elapsed.nanos ∧
            shown.universal.nano < 1000000000
        else shown.universal = .latest) ∧
      (all.IsChain (fun a b => a.elapsed ≤ b.elapsed) ↔ total < 2 ^ 64) ∧
      (all.IsChain (fun a b => a.steady ≤ b.steady) ↔ total < 2 ^ 64) ∧
      (total < 2 ^ 64 →
        (all.IsChain (fun a b => a.universal ≤ b.universal) ↔
          start ≤ .latest ∨ start.nano + total < 2000000000)) := by
  intro face w total shown all
  have sound := sound_opened start steady
  have held : face ∈ (opened start steady).faces := List.mem_singleton_self _
  have first : ((opened start steady).clock face).elapsed.toNat = 0 := rfl
  have kept : face ∈ w.faces := faces_after_subset _ history held
  refine ⟨kept, ?_, ⟨?_, w.steady_read face, start.later_sum shown.elapsed⟩, ?_, ?_, ?_⟩
  · intro copy member shares
    rw [(sound.after history).copies copy member face kept shares]
  · rw [nanos_elapsed_read, elapsed_after sound held, first, Nat.zero_add]
  · have rises := isChain_iff_total_lt (R := fun a b => a.elapsed ≤ b.elapsed) (fun _ _ => Iff.rfl) sound held history
    rwa [first, Nat.zero_add] at rises
  · have rises := isChain_iff_total_lt (R := fun a b => a.steady ≤ b.steady) (f := face)
      (fun v w => Nat.add_le_add_iff_left) sound held history
    rwa [first, Nat.zero_add] at rises
  · intro counts
    have rises := isChain_universal_iff sound held history (by rwa [first, Nat.zero_add])
    have nano : start.nano < 2000000000 := start.nano_lt
    rw [first, Nat.zero_add, Nat.add_zero, or_iff_right (Nat.not_le.mpr nano)] at rises
    exact rises

/-- A clock is copied and another one is started. Then the copy is moved, the other clock, and the clock itself. -/
private def relay : List Act :=
  [.copy 0, .start .latest 7, .advance 1 (.ofSeconds 60), .sleep 2 (.ofSeconds 5), .sleep 0 (.ofSeconds 1)]

theorem readings_rise_until_count_runs_over_relay :
    let w := (opened .epoch 3).after relay
    w.faces = [⟨0, .epoch, 3⟩, ⟨0, .epoch, 3⟩, ⟨1, .latest, 7⟩] ∧ (opened .epoch 3).total 0 relay = 61000000000 ∧
      (w.read ⟨0, .epoch, 3⟩).elapsed.nanos = 61000000000 ∧
      (readings ⟨0, .epoch, 3⟩ (opened .epoch 3) relay).IsChain (fun a b => a.universal ≤ b.universal) := by
  have total : (opened .epoch 3).total 0 relay = 61000000000 := by decide +kernel
  obtain ⟨_, _, ⟨elapsed, _⟩, _, _, rises⟩ := readings_rise_until_count_runs_over .epoch 3 relay
  rw [total] at elapsed rises
  exact ⟨by decide +kernel, total, elapsed, (rises (by decide)).mpr (.inl (by decide))⟩

/-- The most that a clock can be moved at once, and then a nanosecond more. -/
private def overrun : List Act := [.advance 0 (.ofNanos 0xFFFFFFFFFFFFFFFF), .advance 0 (.ofNanos 1)]

private def lastLeapSecond : Instant := (Instant.of? 8210266876799 1000000000).getD .latest

/-- A nanosecond takes all readings of a clock back to its start, and a second takes a clock from the leap second that
ends the calendar back to the latest instant. -/
theorem readings_go_back :
    let wrapped := readings ⟨0, .epoch, 0⟩ (opened .epoch 0) overrun
    let late := readings ⟨0, lastLeapSecond, 0⟩ (opened lastLeapSecond 0) [.sleep 0 (.ofSeconds 1)]
    (wrapped.map (·.elapsed.nanos) = [0, 0xFFFFFFFFFFFFFFFF, 0] ∧
        ¬ wrapped.IsChain (fun a b => a.elapsed ≤ b.elapsed) ∧ ¬ wrapped.IsChain (fun a b => a.steady ≤ b.steady) ∧
        ¬ wrapped.IsChain (fun a b => a.universal ≤ b.universal)) ∧
      late.map (·.universal) = [lastLeapSecond, .latest] ∧ ¬ late.IsChain (fun a b => a.universal ≤ b.universal) := by
  decide +kernel

end Clocks
end Courier
