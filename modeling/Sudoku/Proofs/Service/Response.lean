import Sudoku.Proofs.Service.Solving

/-!
# What a service responds

A response is its request with the blanks filled in. Nothing else of the request
changes, and the filled grids respect the rules.
-/

namespace Sudoku
namespace Service

/-- Whatever its settings and its token, a service that succeeds responds with the
request whose blanks are filled in, and every grid of the response is full, has its
values in its domain, and has no two rivals with equal values. A document of any codec is
answered by this operation between reading it and writing the answer. -/
theorem solve_fills (service : Service) (token : CancelToken) (watches : Nat → Watch) :
    (∀ request response, service.solve token watches request = .ok response →
      response.Fills request ∧
      ∃ solved : Game alphabet, response.decode = .ok solved ∧
        ∀ grid ∈ solved.grids, grid.isFull = true ∧ grid.Valid) ∧
    ∀ codec document, service.solveDocument codec token watches document =
      ((GameMessage.ofDocument codec document).bind (service.solve token watches)).bind
        fun response => response.toDocument codec := by
  refine ⟨?_, fun codec => solveDocument_eq service codec token watches⟩
  intro request response answered
  obtain ⟨game, solutions, decoded, _, traversed, encoded⟩ :=
    (solve_eq_ok_iff response).1 answered
  obtain ⟨filled, filledEncoded, fills, filledDecoded, sound⟩ :=
    exists_response decoded traversed
  rw [encoded, Except.ok.injEq] at filledEncoded
  rw [filledEncoded]
  exact ⟨fills, ⟨solutions⟩, filledDecoded, sound⟩

/-- The message of two grids of one cell each. The second names its domain and
overrides the width of its box. -/
def pointMessages (first second : Option Int64) : GameMessage where
  grids := some [
    { rows := some [{ cells := some [{ value := first }] }]
      boxWidth := some 1
      boxHeight := some 1 },
    { rows := some [{ cells := some [{ value := second, width := some 1 }] }]
      boxWidth := some 1
      boxHeight := some 1
      domain := some [7] }]

/-- A message with one value and one blank is filled in. -/
theorem solve_pointMessages :
    ({} : Service).solve {} (fun _ => .still false 0) (pointMessages none (some 7)) =
        .ok (pointMessages (some 1) (some 7)) ∧
      (pointMessages (some 1) (some 7)).Fills (pointMessages none (some 7)) := by
  have answered : ({} : Service).solve {} (fun _ => .still false 0)
      (pointMessages none (some 7)) = .ok (pointMessages (some 1) (some 7)) := by
    decide +kernel
  exact ⟨answered, ((solve_fills {} {} fun _ => .still false 0).1 _ _ answered).1⟩

end Service
end Sudoku
