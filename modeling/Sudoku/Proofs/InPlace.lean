import Sudoku.Error

/-!
# Work in place

Work in place reads and writes a state step by step. When a step fails, nothing after it is
done, but what was written before it stays: the state that is left behind is the one that
the work got to.
-/

namespace Sudoku

/-- Work on a state in place, which leaves behind the state that it got to, also when it
fails. -/
abbrev InPlace (state outcome : Type) : Type :=
  EStateM Error state outcome

namespace InPlace

variable {state first outcome : Type} {before after : state}

/-- The state that work leaves behind, whether it succeeds or fails. -/
def left (work : InPlace state outcome) (before : state) : state :=
  match work before with
  | .ok _ after => after
  | .error _ after => after

/-- Go on with what succeeded, or fail with the state as it is. -/
def attempt (result : Except Error outcome) : InPlace state outcome :=
  match result with
  | .ok value => pure value
  | .error error => throw error

/-- Reading the state does not change it. -/
@[simp] theorem get_bind (rest : state → InPlace state outcome) :
    ((get : InPlace state state) >>= rest) before = rest before before := rfl

/-- What follows a write finds the written state. -/
@[simp] theorem set_bind (rest : PUnit → InPlace state outcome) :
    ((set after : InPlace state PUnit) >>= rest) before = rest ⟨⟩ after := rfl

/-- What follows a change finds the changed state. -/
@[simp] theorem modify_bind (change : state → state)
    (rest : PUnit → InPlace state outcome) :
    ((modify change : InPlace state PUnit) >>= rest) before = rest ⟨⟩ (change before) := rfl

/-- What succeeded is gone on with, on the same state. -/
@[simp] theorem attempt_ok_bind (value : first) (rest : first → InPlace state outcome) :
    (attempt (.ok value) >>= rest) before = rest value before := rfl

/-- What follows work that succeeds finds the state that it leaves. -/
theorem bind_of_ok {work : InPlace state first} {value : first}
    (done : work before = .ok value after) (rest : first → InPlace state outcome) :
    (work >>= rest) before = rest value after := by
  simp only [bind, EStateM.bind, done]

/-- What follows work that fails is not done. -/
theorem bind_of_error {work : InPlace state first} {error : Error}
    (failed : work before = .error error after) (rest : first → InPlace state outcome) :
    (work >>= rest) before = .error error after := by
  simp only [bind, EStateM.bind, failed]

theorem left_of_ok {work : InPlace state outcome} {value : outcome}
    (done : work before = .ok value after) : work.left before = after := by
  rw [left, done]

theorem left_of_error {work : InPlace state outcome} {error : Error}
    (failed : work before = .error error after) : work.left before = after := by
  rw [left, failed]

end InPlace
end Sudoku
