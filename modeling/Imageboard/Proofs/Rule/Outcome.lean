import Imageboard.Rule.Run

/-! What a handler comes to on a state.

A handler, and a run over a page, is a computation that may fail and that changes a state either
way. `outcome` reads such a computation as a function of the state; the lemmas below say what it
does on each of the ways computations are put together, so that nothing later opens the monads. -/
namespace Imageboard

/-- The result of a computation on a state, and the state it leaves in either case. -/
def outcome (m : ExceptT ε (StateM σ) α) (s : σ) : Except ε α × σ := m.run.run s

@[simp] theorem outcome_pure (a : α) (s : σ) :
    outcome (pure a : ExceptT ε (StateM σ) α) s = (.ok a, s) := rfl

theorem outcome_bind (m : ExceptT ε (StateM σ) α) (f : α → ExceptT ε (StateM σ) β) (s : σ) :
    outcome (m >>= f) s =
      match outcome m s with
      | (.ok a, s') => outcome (f a) s'
      | (.error e, s') => (.error e, s') := by
  show outcome (ExceptT.bind m f) s = _
  simp only [outcome, ExceptT.run, ExceptT.bind, StateT.run, ExceptT.mk, bind, StateT.bind]
  cases h : m s with
  | mk r s' => cases r <;> rfl

/-- A failure is told with the tag the handler was called for. -/
theorem outcome_callFor (tag : String) (attributes : Attributes) (m : Handler σ α) (s : σ) :
    outcome (Rule.callFor tag attributes m) s =
      ((outcome m s).1.mapError (HandlerFailure.mk tag attributes), (outcome m s).2) := by
  rfl

end Imageboard
