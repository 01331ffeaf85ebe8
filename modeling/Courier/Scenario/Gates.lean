import Courier.Table

/-!
# Gates

Tasks of a scenario may wait at a gate until they are let through. A gate keeps the permits that
nobody waited for. Tasks that were let through go on in the order in which the permits came.
-/
namespace Courier.Scenario

/-- The gates of a scenario. Whoever waits is known by the ticket of the task. -/
structure Gates where
  /-- Permits that nobody has taken yet. -/
  permits : Table String Nat
  /-- Who waits at which gate, in the order of arrival. -/
  waiting : List (String × Nat)
  /-- Who has been let through and has not gone on yet. -/
  woken : List Nat

namespace Gates

def closed : Gates := ⟨.empty, [], []⟩

/-- Lets one task through a gate, now or later. -/
def release (g : Gates) (gate : String) : Gates :=
  match g.waiting.find? (fun w => w.1 == gate) with
  | some (_, ticket) =>
    { g with
      waiting := g.waiting.filter (fun w => w.2 != ticket)
      woken := g.woken ++ [ticket] }
  | none => { g with permits := g.permits.insert gate ((g.permits.get? gate).getD 0 + 1) }

/-- A task comes to a gate: either it passes at once or it has to wait. -/
def arrive (g : Gates) (gate : String) (ticket : Nat) : Bool × Gates :=
  match g.permits.get? gate with
  | some (n + 1) => (true, { g with permits := g.permits.insert gate n })
  | _ => (false, { g with waiting := g.waiting ++ [(gate, ticket)] })

def next? (g : Gates) : Option (Nat × Gates) :=
  match g.woken with
  | [] => none
  | ticket :: rest => some (ticket, { g with woken := rest })

end Gates
end Courier.Scenario
