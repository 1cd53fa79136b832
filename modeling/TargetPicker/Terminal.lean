/-!
# A session on the terminal

Raw mode has to be left again however the session ends.  `Terminal.bracket` runs a body between
entering and leaving the mode, in any monad, each of the three steps with an outcome of its own.

* If the mode cannot be entered, nothing else happens.
* Otherwise the body runs and the mode is left, in that order and whatever the body's outcome.
* A failure to leave the mode hides the outcome of the body.
-/

namespace TargetPicker.Terminal

variable {m : Type → Type} [Monad m] {ε α : Type}

/-- **Runs a body between `enter` and `leave`.** -/
def bracket (enter leave : m (Except ε Unit)) (body : m (Except ε α)) : m (Except ε α) := do
  match ← enter with
  | .error e => return .error e
  | .ok () =>
    let outcome ← body
    match ← leave with
    | .error e => return .error e
    | .ok () => return outcome

end TargetPicker.Terminal
