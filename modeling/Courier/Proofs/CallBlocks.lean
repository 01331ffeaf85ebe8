import Courier.Proofs.Logbooks

/-!
The order of the calls that are made for a delivery. What is written down about it falls into blocks, one for each try,
and there is another block only if the one before ends in a retry.
-/
namespace Courier.Logbook
variable {config : EngineConfig} {interceptors : Nat} {l : Logbook}

theorem entriesOf_note (l : Logbook) (after : Chronicle) (entries : List (Nat × LogEntry)) (serial : Nat) :
    (l.note after entries).entriesOf serial =
      l.entriesOf serial ++ (entries.filter (fun x => x.1 = serial)).map Prod.snd := by
  simp [entriesOf, note]

theorem entriesOf_same (serial : Nat) (entries : List LogEntry) :
    ((entries.map (fun x => (serial, x))).filter (fun x => x.1 = serial)).map Prod.snd = entries := by
  simp [List.filter_map, Function.comp_def]

theorem entriesOf_other {serial other : Nat} (apart : serial ≠ other) (entries : List LogEntry) :
    ((entries.map (fun x => (serial, x))).filter (fun x => x.1 = other)).map Prod.snd = [] := by
  simp [List.filter_map, Function.comp_def, apart]

/-- Whether what is written down about each delivery falls into blocks, with the delivery where the last of them leaves
it. -/
structure Sound (config : EngineConfig) (interceptors : Nat) (l : Logbook) : Prop where
  running : l.engine.Running config interceptors
  distinct : (l.engine.underway.map Delivery.serial).Nodup
  known : ∀ b ∈ l.engine.underway, ∃ d ∈ l.taken, d.serial = b.serial
  fresh : ∀ d ∈ l.taken, d.attempt.state = .pending
  serials : (l.taken.map Delivery.serial).Perm (List.range l.engine.dispatched)
  written : ∀ x ∈ l.written, ∃ d ∈ l.taken, d.serial = x.1
  whole : ∀ d ∈ l.taken, ∃ standing blocks, l.entriesOf d.serial = blocks.flatten ∧
    Blocks interceptors config.policy d standing blocks ∧
    ∀ b, standing.delivery? = some b ↔ b ∈ l.engine.underway ∧ b.serial = d.serial

theorem Sound.taken_lt (sound : l.Sound config interceptors) {d : Delivery} (inside : d ∈ l.taken) :
    d.serial < l.engine.dispatched :=
  List.mem_range.mp (sound.serials.mem_iff.mp (List.mem_map_of_mem inside))

theorem Sound.serial_lt (sound : l.Sound config interceptors) {b : Delivery} (member : b ∈ l.engine.underway) :
    b.serial < l.engine.dispatched := by
  obtain ⟨d, inside, same⟩ := sound.known b member
  exact same ▸ sound.taken_lt inside

/-- Nothing is written down about a delivery that has not come in. -/
theorem Sound.entriesOf_of_late (sound : l.Sound config interceptors) {serial : Nat} (late : l.engine.dispatched ≤ serial) :
    l.entriesOf serial = [] := by
  refine List.map_eq_nil_iff.mpr (List.filter_eq_nil_iff.mpr (fun x inside => ?_))
  obtain ⟨d, taken, same⟩ := sound.written x inside
  have earlier := Nat.lt_of_lt_of_le (sound.taken_lt taken) late
  simpa [← same] using Nat.ne_of_lt earlier

/-- A delivery under way waits for its next try, or its handler is at work. -/
theorem Sound.tried (sound : l.Sound config interceptors) {b : Delivery} (member : b ∈ l.engine.underway) :
    b.attempt.IsReady ∨ b.attempt.state = .delivering := by
  obtain ⟨d, inside, same⟩ := sound.known b member
  obtain ⟨standing, blocks, _, tried, here⟩ := sound.whole d inside
  exact ((tried.fits (.inl (sound.fresh d inside))).delivery ((here b).mpr ⟨member, same.symm⟩)).2

theorem newcomers_of_old {after : Engine} (old : ∀ d ∈ after.pool.deliveries, d.serial < l.engine.dispatched) :
    l.newcomers after = [] := by
  refine List.filter_eq_nil_iff.mpr (fun d member => ?_)
  simpa using old d member

theorem note_of_old {after : Chronicle} (old : ∀ d ∈ after.system.engine.pool.deliveries, d.serial < l.engine.dispatched)
    (entries : List (Nat × LogEntry)) : l.note after entries = ⟨after, l.taken, l.written ++ entries⟩ := by
  rw [note, newcomers_of_old old, List.append_nil]

theorem Sound.newcomers_of_gains (sound : l.Sound config interceptors) {after : Engine} {new : List Delivery}
    (gains : l.engine.Gains after new) : (l.newcomers after).Perm new := by
  have all : new.filter (fun d => l.engine.dispatched ≤ d.serial) = new :=
    List.filter_eq_self.mpr (fun d member => by simpa using gains.late member)
  have none : l.engine.pool.deliveries.filter (fun d => l.engine.dispatched ≤ d.serial) = [] :=
    List.filter_eq_nil_iff.mpr (fun d member => by simpa using sound.serial_lt (List.mem_append_left _ member))
  have split := gains.pool.filter (fun d => l.engine.dispatched ≤ d.serial)
  rw [List.filter_append, all, none, List.append_nil] at split
  exact split

/-! ### A delivery that moves on -/

section Moves
variable {earlier later rest : List Delivery} {b c : Delivery} {standing : Standing}
  (before : earlier.Perm (b :: rest)) (now : later.Perm (standing.delivery?.toList ++ rest))
  (fits : standing.Fits b.serial)
include before now fits

/-- The other deliveries are where they were. -/
theorem mem_iff_of_other (other : c.serial ≠ b.serial) : c ∈ later ↔ c ∈ earlier := by
  have gone : standing.delivery? ≠ some c := fun stands => other (fits.delivery stands).1
  have apart : c ≠ b := fun is => other (is ▸ rfl)
  rw [now.mem_iff, before.mem_iff]
  simp [gone, apart]

theorem exists_serial_of_mem (member : c ∈ later) : ∃ other ∈ earlier, other.serial = c.serial := by
  by_cases same : c.serial = b.serial
  · exact ⟨b, before.mem_iff.mpr List.mem_cons_self, same.symm⟩
  · exact ⟨c, (mem_iff_of_other before now fits same).mp member, rfl⟩

variable (distinct : (earlier.map Delivery.serial).Nodup)
include distinct

theorem nodup_moved : (later.map Delivery.serial).Nodup := by
  have distinct := (before.map Delivery.serial).nodup_iff.mp distinct
  refine (now.map Delivery.serial).nodup_iff.mpr ?_
  cases stands : standing.delivery? with
  | none => exact (List.nodup_cons.mp distinct).2
  | some c =>
    show (c.serial :: rest.map Delivery.serial).Nodup
    rw [(fits.delivery stands).1]
    exact distinct

/-- The delivery itself is where it stands now. -/
theorem stands_iff : standing.delivery? = some c ↔ c ∈ later ∧ c.serial = b.serial := by
  have distinct := (before.map Delivery.serial).nodup_iff.mp distinct
  rw [now.mem_iff]
  constructor
  · intro stands
    exact ⟨by simp [stands], (fits.delivery stands).1⟩
  · rintro ⟨inside, same⟩
    have gone : c ∉ rest := fun inside => (List.nodup_cons.mp distinct).1 (same ▸ List.mem_map_of_mem inside)
    simpa [gone] using inside

end Moves

/-! ### What acts keep -/

section Passes
variable {chronicle : Chronicle}

/-- Nothing happens to the deliveries under way. -/
theorem Sound.rests (sound : l.Sound config interceptors) (running : chronicle.system.engine.Running config interceptors)
    (deliveries : chronicle.system.engine.underway.Perm l.engine.underway)
    (counted : chronicle.system.engine.dispatched = l.engine.dispatched) :
    (l.note chronicle []).Sound config interceptors := by
  rw [note_of_old (fun d member => sound.serial_lt (deliveries.mem_iff.mp (List.mem_append_left _ member))),
    List.append_nil]
  constructor
  · exact running
  · exact (deliveries.map Delivery.serial).nodup_iff.mpr sound.distinct
  · exact fun b member => sound.known b (deliveries.mem_iff.mp member)
  · exact sound.fresh
  · show List.Perm _ (List.range chronicle.system.engine.dispatched)
    rw [counted]
    exact sound.serials
  · exact sound.written
  · intro d inside
    obtain ⟨standing, blocks, entries, tried, here⟩ := sound.whole d inside
    exact ⟨standing, blocks, entries, tried, fun b => (here b).trans (and_congr_left' deliveries.mem_iff.symm)⟩

/-- Deliveries that have just come in have not been tried. -/
theorem Sound.gains (sound : l.Sound config interceptors) (running : chronicle.system.engine.Running config interceptors)
    {new : List Delivery} (gains : l.engine.Gains chronicle.system.engine new) :
    (l.note chronicle []).Sound config interceptors := by
  have newcomers := sound.newcomers_of_gains gains
  have underway := gains.underway
  have apart {earlier d : Delivery} (below : earlier.serial < l.engine.dispatched) (member : d ∈ new) :
      earlier.serial ≠ d.serial := Nat.ne_of_lt (Nat.lt_of_lt_of_le below (gains.late member))
  constructor
  · exact running
  · refine (underway.map Delivery.serial).nodup_iff.mpr ?_
    rw [List.map_append]
    refine gains.nodup.append sound.distinct ?_
    rintro serial first second
    obtain ⟨d, member, rfl⟩ := List.mem_map.mp first
    obtain ⟨b, inside, same⟩ := List.mem_map.mp second
    exact apart (sound.serial_lt inside) member same
  · intro b member
    rcases List.mem_append.mp (underway.mem_iff.mp member) with arrives | old
    · exact ⟨b, List.mem_append_right _ (newcomers.mem_iff.mpr arrives), rfl⟩
    · obtain ⟨d, inside, same⟩ := sound.known b old
      exact ⟨d, List.mem_append_left _ inside, same⟩
  · intro d member
    rcases List.mem_append.mp member with old | arrives
    · exact sound.fresh d old
    · exact gains.fresh d (newcomers.mem_iff.mp arrives)
  · show List.Perm _ (List.range chronicle.system.engine.dispatched)
    rw [note, List.map_append, gains.numbers]
    exact sound.serials.append (newcomers.map Delivery.serial)
  · intro x inside
    rw [note, List.append_nil] at inside
    obtain ⟨d, member, same⟩ := sound.written x inside
    exact ⟨d, List.mem_append_left _ member, same⟩
  · intro d member
    rcases List.mem_append.mp member with old | arrives
    · obtain ⟨standing, blocks, entries, tried, here⟩ := sound.whole d old
      refine ⟨standing, blocks, ?_, tried, fun b => ?_⟩
      · rw [entriesOf_note, entries]
        exact List.append_nil _
      · rw [here b]
        refine and_congr_left (fun same => ?_)
        refine ⟨fun inside => underway.mem_iff.mpr (List.mem_append_right _ inside), fun inside => ?_⟩
        refine (List.mem_append.mp (underway.mem_iff.mp inside)).resolve_left (fun arrives => ?_)
        exact apart (sound.taken_lt old) arrives same.symm
    · have arrives := newcomers.mem_iff.mp arrives
      refine ⟨.waits d, [], ?_, .none, fun b => ⟨fun stands => ?_, fun ⟨inside, same⟩ => ?_⟩⟩
      · rw [entriesOf_note, sound.entriesOf_of_late (gains.late arrives)]
        rfl
      · obtain rfl := Option.some.inj stands
        exact ⟨underway.mem_iff.mpr (List.mem_append_left _ arrives), rfl⟩
      · rcases List.mem_append.mp (underway.mem_iff.mp inside) with alike | old
        · exact congrArg some (List.inj_on_of_nodup_map gains.nodup arrives alike same.symm)
        · exact absurd same (apart (sound.serial_lt old) arrives)

/-- A delivery moves on, and a block with it. -/
theorem Sound.moves (sound : l.Sound config interceptors) (running : chronicle.system.engine.Running config interceptors)
    {b : Delivery} {standing : Standing} {entries : List LogEntry} {rest : List Delivery}
    (before : l.engine.underway.Perm (b :: rest))
    (now : chronicle.system.engine.underway.Perm (standing.delivery?.toList ++ rest))
    (goes : b.attempt.IsReady ∧ Block l.engine.interceptors l.engine.config.policy b standing entries ∨
      b.attempt.state = .delivering ∧ Concludes l.engine.interceptors l.engine.config.policy b standing entries)
    (counted : chronicle.system.engine.dispatched = l.engine.dispatched) :
    (l.note chronicle (entries.map (fun x => (b.serial, x)))).Sound config interceptors := by
  rw [sound.running.interceptors, sound.running.config] at goes
  have member : b ∈ l.engine.underway := before.mem_iff.mpr List.mem_cons_self
  have fits : standing.Fits b.serial := goes.elim (fun starts => starts.2.fits) (fun ends => ends.2.fits)
  have is := note_of_old (fun c inside => by
    obtain ⟨other, inside, same⟩ := exists_serial_of_mem before now fits (List.mem_append_left _ inside)
    exact same ▸ sound.serial_lt inside) (entries.map (fun x => (b.serial, x)))
  have noted := l.entriesOf_note chronicle (entries.map (fun x => (b.serial, x)))
  rw [is] at noted ⊢
  constructor
  · exact running
  · exact nodup_moved before now fits sound.distinct
  · intro c inside
    obtain ⟨other, inside, same⟩ := exists_serial_of_mem before now fits inside
    obtain ⟨d, inside, is⟩ := sound.known other inside
    exact ⟨d, inside, is.trans same⟩
  · exact sound.fresh
  · show List.Perm _ (List.range chronicle.system.engine.dispatched)
    rw [counted]
    exact sound.serials
  · intro x inside
    rcases List.mem_append.mp inside with old | new
    · exact sound.written x old
    · obtain ⟨entry, _, rfl⟩ := List.mem_map.mp new
      exact sound.known b member
  · intro d inside
    obtain ⟨earlier, blocks, entries, tried, here⟩ := sound.whole d inside
    rw [noted, entries]
    by_cases same : b.serial = d.serial
    · obtain ⟨after, flat, tried⟩ := tried.goes (.inl (sound.fresh d inside)) ((here b).mpr ⟨member, same⟩) goes
      refine ⟨standing, after, ?_, tried, fun c => ?_⟩
      · rw [← same, entriesOf_same, flat]
      · rw [← same]
        exact stands_iff before now fits sound.distinct
    · refine ⟨earlier, blocks, ?_, tried, fun c => (here c).trans (and_congr_left (fun alike => ?_))⟩
      · rw [entriesOf_other same, List.append_nil]
      · exact (mem_iff_of_other before now fits (fun is => same (is.symm.trans alike))).symm

end Passes

/-! ### Runs -/

theorem sound_opened (clock : Clock) (broker : Broker) (config : EngineConfig) (registry : Registry) (interceptors : Nat)
    (pollers : List Poller) :
    (opened clock broker config registry interceptors pollers).Sound config interceptors where
  running := ⟨rfl, rfl, Pool.open_new .., fun _ member => nomatch member⟩
  distinct := .nil
  known _ member := nomatch member
  fresh _ inside := nomatch inside
  serials := .refl _
  written _ inside := nomatch inside
  whole _ inside := nomatch inside

theorem Sound.act (sound : l.Sound config interceptors) (steady : config.policy.jitter ≤ 0.0)
    (here : config.route = .inProcess) {a : Depot.Act} (open_ : shuts a = false) :
    (l.act a).Sound config interceptors := by
  by_cases allowed : l.allows a = true
  · obtain ⟨running, passes⟩ :=
      passes_act sound.running steady here (fun _ member => sound.tried member) allowed open_
    simp only [Logbook.act, allowed, if_true]
    generalize l.entries a = entries at passes
    cases passes with
    | rests deliveries counted => exact sound.rests running deliveries counted
    | gains gains => exact sound.gains running gains
    | moves before now goes counted => exact sound.moves running before now goes counted
  · simp only [Logbook.act, allowed]
    exact sound

theorem Sound.run (sound : l.Sound config interceptors) (steady : config.policy.jitter ≤ 0.0)
    (here : config.route = .inProcess) {acts : List Depot.Act} (open_ : ∀ a ∈ acts, shuts a = false) :
    (l.run acts).Sound config interceptors := by
  induction acts generalizing l with
  | nil => exact sound
  | cons a acts ih =>
    exact ih (sound.act steady here (open_ a List.mem_cons_self)) (fun b later => open_ b (List.mem_cons_of_mem _ later))

/-- As long as nobody shuts the engine down, what is written down about each delivery that has come in falls into blocks,
one for each try and in the order of the calls. All blocks but the last end in a retry, and a delivery is under way just
as long as its last block leaves it waiting or at work. -/
theorem calls_form_blocks (clock : Clock) (broker : Broker) {config : EngineConfig} (registry : Registry)
    (interceptors : Nat) (pollers : List Poller) {acts : List Depot.Act} (steady : config.policy.jitter ≤ 0.0)
    (here : config.route = .inProcess) (open_ : ∀ a ∈ acts, shuts a = false) :
    let last := (opened clock broker config registry interceptors pollers).run acts
    (last.taken.map Delivery.serial).Perm (List.range last.engine.dispatched) ∧
      (∀ x ∈ last.written, ∃ d ∈ last.taken, d.serial = x.1) ∧
      ∀ d ∈ last.taken, d.attempt.state = .pending ∧ ∃ standing blocks,
        last.entriesOf d.serial = blocks.flatten ∧
        Blocks interceptors config.policy d standing blocks ∧
        (∀ block ∈ blocks.dropLast, ∃ context why wait,
          block.getLast? = some (.call (.event (.retryScheduled context why wait)))) ∧
        ∀ b, standing.delivery? = some b ↔ b ∈ last.engine.underway ∧ b.serial = d.serial := by
  intro last
  have sound : last.Sound config interceptors := (sound_opened ..).run steady here open_
  refine ⟨sound.serials, sound.written, fun d inside => ⟨sound.fresh d inside, ?_⟩⟩
  obtain ⟨standing, blocks, entries, tried, stands⟩ := sound.whole d inside
  exact ⟨standing, blocks, entries, tried, tried.retried_dropLast, stands⟩

private def workshop : EngineConfig := ⟨.standard, .inProcess, ⟨1, 1⟩, .zero⟩

private def tailor : Trigger := .new ⟨"coats", "torn"⟩ "tailor"

private def coat : Message := ⟨"coat", ⟨"coats", "torn"⟩, [], 1, 0, 0, false, .timely, .epoch, none⟩

/-- The handler fails at the first try. At the second one the last of two interceptors takes its place. -/
private def mending : List Depot.Act :=
  [.outside (.deliver coat tailor), .outside .pickUp,
    .outside (.start 0 (fun _ _ => .proceed)), .outside (.finish 0 (.error ⟨"out of thread"⟩) 0),
    .outside (.passTo 3000000000), .outside (.ring 0 0), .outside .pickUp,
    .outside (.start 1 (fun place _ => if place = 1 then .shortCircuit else .proceed))]

private def callOf : LogEntry → Option DeliveryCall
  | .call c => some c
  | _ => none

theorem calls_form_blocks_tailor :
    let last := (opened (.startedAt .epoch) .empty workshop .empty 2 []).run mending
    let d : Delivery := ⟨0, coat, tailor, .new coat "tailor" .epoch⟩
    let wait := workshop.policy.backoff 1
    let first := d.begun .epoch
    let second := (first.retrying wait).waiting.begun (Instant.epoch.later wait)
    last.taken = [d] ∧ last.engine.underway = [] ∧
      (last.entriesOf 0).filterMap callOf =
        first.opening 2 ++ [.handler first.message,
          .event (.retryScheduled { first.context with isRetry := true } "out of thread" 3000)] ++
        (second.opening 2 ++ second.thanks 2 true) ∧
      ∃ standing blocks, last.entriesOf 0 = blocks.flatten ∧ Blocks 2 workshop.policy d standing blocks := by
  intro last d wait first second
  have taken : last.taken = [d] := by decide +kernel
  have steady : workshop.policy.jitter ≤ 0.0 := by decide +kernel
  have open_ : ∀ a ∈ mending, shuts a = false := by simp [mending, shuts, System.Act.shuts]
  obtain ⟨_, _, whole⟩ := calls_form_blocks (.startedAt .epoch) .empty .empty 2 [] steady rfl open_
  obtain ⟨_, standing, blocks, entries, tried, _⟩ := whole d (by rw [taken]; exact List.mem_singleton_self d)
  exact ⟨taken, by decide +kernel, by decide +kernel, standing, blocks, entries, tried⟩

end Courier.Logbook
