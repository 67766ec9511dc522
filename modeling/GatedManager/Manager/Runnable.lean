import GatedManager.Text.Quoted

/-!
# Runnables

The named tasks that a manager runs while it leads.
-/

namespace GatedManager.Manager

/-- What a diagnosis shows of a runnable: its name and nothing of what it does. -/
def describeRunnable (name : String) : String :=
  "Runnable \x7b name: " ++ Text.quoted name ++ ", .. \x7d"

end GatedManager.Manager
