import Rollout.Rehearsal.Script
import Rollout.Runner

/-!
# Scripted runners

A runner whose actions are written down, one line for each.
-/

namespace Rollout

open Rehearsal (argument? millis)

/-- The action that a line stands for: a word alone, or a word with an argument behind a colon. -/
def RunnerAction.ofText? (text : String) : Option RunnerAction :=
  if text = "check" then some .check
  else if text = "cancel" then some .cancel
  else if text = "hang" then some .hang
  else
    (argument? "log" text).map .log <|>
    (argument? "file" text).map .file <|>
    (argument? "fail" text).map (fun reason => .fail (.of reason)) <|>
    (argument? "fail_chain" text).map (fun chain => .fail (failureOf (chain.splitOn "|"))) <|>
    (argument? "elapse" text).map fun ms => .elapse (millis ms)
where
  failureOf : List String → Failure
    | [] => .of ""
    | text :: causes => ⟨text, causes⟩

/-- A runner that does the same for every deployment. -/
def Runner.ofScript (lines : List String) : Runner := fun _ => lines.filterMap RunnerAction.ofText?

end Rollout
