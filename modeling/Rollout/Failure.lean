import Rollout.Job.Error

/-!
# Failures with their causes

A failure is told in one line, and so is each cause behind it. `Failure.text` is the outermost line, `Failure.fullText`
all of them.
-/

namespace Rollout

structure Failure where
  text : String
  /-- The causes, each the cause of the one before it. -/
  causes : List String
deriving DecidableEq

namespace Failure

def of (text : String) : Failure := ⟨text, []⟩

/-- The failure seen in the light of what was tried. -/
def within (f : Failure) (context : String) : Failure := ⟨context, f.text :: f.causes⟩

def fullText (f : Failure) : String := ": ".intercalate (f.text :: f.causes)

def ofStop (s : Stop) : Failure := of (JobError.ofStop s).message

end Failure

end Rollout
