import Courier.Proofs.MailingPolls

/-!
Handlers do not get in each other's way. When a message goes to several handlers, what one of them sees of it is
told by its own share: how its own calls end, the retry policy, after which of its calls that breaks off, and where
retries wait. It makes no difference which other handlers there are, how their calls end, and in which order all acts
come.
-/
namespace Courier

/-! ### The beginning -/

namespace Engine

end Engine

namespace Post

variable {m : Mailing} {w after : Post}

/-- Whether the token of each handler of the topic, if it has one, is where its share has it. Other handlers have none
and see nothing. -/
structure Shared (m : Mailing) (w : Post) : Prop where
  mine : ∀ t ∈ m.triggers, ∃ token?, Lies w.tokens t.handlerId token? ∧ (m.share t).At (w.seenBy t.handlerId) token?
  strange : ∀ id, (∀ t ∈ m.triggers, t.handlerId ≠ id) → Lies w.tokens id none ∧ w.seenBy id = []

/-- When at most one token moves, and it moves as tokens do, each token stays where its share has it. -/
theorem Shared.turn (shared : w.Shared m) (sound : w.Sound m) (turn : Turn m w after) : after.Shared m := by
  cases turn with
  | rests been tokens seen =>
    refine ⟨fun t member => ?_, fun id strange => ?_⟩
    · obtain ⟨token?, lies, here⟩ := shared.mine t member
      rw [seen]
      exact ⟨token?, lies.of_perm tokens, here⟩
    · obtain ⟨lies, silent⟩ := shared.strange id strange
      exact ⟨lies.of_perm tokens, (seen id).trans silent⟩
  | @moves old new? rest told handler mine before now been move seen =>
    have kept : ∀ new ∈ new?, new.handler = old.handler := fun new is => by
      obtain rfl := Option.mem_def.mp is
      exact move.handler
    -- the tokens of all other handlers stay, and these see nothing
    have stays (id : String) (other : handler ≠ id) : old.handler ≠ some id ∧ after.seenBy id = w.seenBy id := by
      rw [seen, if_neg other, List.append_nil, mine]
      exact ⟨fun same => other (Option.some.inj same), rfl⟩
    refine ⟨fun t member => ?_, fun id strange => ?_⟩
    · obtain ⟨token?, lies, here⟩ := shared.mine t member
      by_cases same : handler = t.handlerId
      · subst same
        obtain ⟨rfl, moved⟩ := Lies.of_same sound.order lies before now kept mine
        rw [seen, if_pos rfl]
        exact ⟨new?, moved, here.move (m.built.lawful.found _ t member) rfl move⟩
      · obtain ⟨other, silent⟩ := stays t.handlerId same
        rw [silent]
        exact ⟨token?, lies.of_other before now kept other, here⟩
    · obtain ⟨lies, none⟩ := shared.strange id strange
      have same : handler ≠ id := by
        rintro rfl
        exact lies old (before.mem_iff.mpr List.mem_cons_self) mine
      obtain ⟨other, silent⟩ := stays id same
      exact ⟨lies.of_other before now kept other, silent.trans none⟩

theorem been_foldl (m : Mailing) (w : Post) (acts : List Mailing.Act) : w.been ⊆ (acts.foldl m.act w).been := by
  induction acts generalizing w with
  | nil => exact List.Subset.refl _
  | cons a rest ih => exact List.Subset.trans (been_act m w a) (ih (m.act w a))

/-- In a run that meets with nothing in its way, each token stays where its share has it. -/
theorem Shared.run (shared : w.Shared m) (sound : w.Sound m) {acts : List Mailing.Act} (calm : m.calm w acts = true)
    (distinct : (acts.foldl m.act w).Distinct) : (acts.foldl m.act w).Shared m := by
  induction acts generalizing w with
  | nil => exact shared
  | cons a rest ih =>
    rw [Mailing.calm, Bool.and_eq_true, Bool.not_eq_true'] at calm
    -- digests that tell apart all entries of the whole run do so at each moment of it
    obtain ⟨sound', turn⟩ := sound.act calm.1 (distinct.of_subset (been_foldl m (m.act w a) rest))
    exact ih (shared.turn sound turn) sound' calm.2 distinct

end Post

namespace Mailing

variable {m : Mailing} {acts : List Act}

private def created : Topic := ⟨"orders", "created"⟩

private def mailer : Trigger := .new created "mailer"

/-- The mailer and another handler of its topic. -/
private def both (other : String) : Registry :=
  ⟨Table.empty.insert created [mailer, .new created other],
    (Table.empty.insert "mailer" mailer).insert other (.new created other)⟩

private theorem built_both {other : String} (apart : "mailer" ≠ other) : (both other).Built := by
  have second : (⟨Table.empty.insert created [mailer], Table.empty.insert "mailer" mailer⟩ : Registry).register
      (.new created other) = .ok (both other) := by
    have free : (Table.empty.insert "mailer" mailer).contains other = false := by
      rw [Table.contains, Table.get?_insert, if_neg apart]
      rfl
    simp only [Registry.register, Trigger.new, free]
    rfl
  exact .register (.register (t := mailer) .empty rfl) second

/-- A message for the mailer, which fails at first and succeeds on its second call, and for another handler. Retries
wait in the store. -/
private def letter (other : String) (apart : "mailer" ≠ other) (endings : Nat → Ending) (draw : Float) : Mailing where
  start := .epoch
  config := ⟨.standard, .delayStore, .standard, .zero⟩
  registry := both other
  interceptors := 0
  polling := .standard
  message := ⟨"request", created, [], 1, 0, 0, false, .timely, .epoch, none⟩
  endings id := if id = "mailer" then (fun k => if k = 1 then .error ⟨"unreachable"⟩ else .success) else endings
  chance _ _ := draw
  built := built_both apart
  untargeted := rfl
  roomy := show 2 ≤ PoolConfig.standard.capacity by decide

end Mailing
end Courier
