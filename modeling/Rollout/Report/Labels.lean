import Rollout.EntityId
import Rollout.Files
import Rollout.Json
import Rollout.Text.Decimal

/-!
# Labels

Identifiers that are made up on the way are reported by labels. Jobs are labelled `j1`, `j2` and so on, in the order in
which they are first reported; apps are labelled by those who create them, and wherever the identifier of such an app
would be part of a text, its label stands there in angle brackets.
-/

namespace Rollout.Report

/-- The jobs that have been reported, the first one first. -/
abbrev SeenJobs := List Nat

namespace SeenJobs

def label (n : Nat) : String := "j" ++ toString n

/-- The label of a job, which is a new one if the job has not been reported before. -/
def report (id : Nat) (seen : SeenJobs) : Json × SeenJobs :=
  match List.idxOf? id seen with
  | some i => (.string (label (i + 1)), seen)
  | none => (.string (label (seen.length + 1)), seen ++ [id])

/-- The number in a label. -/
def number? (text : String) : Option Nat :=
  match text.toList with
  | 'j' :: ds => Text.Decimal.digits? ds
  | _ => none

/-- The job that a label stands for. -/
def job? (seen : SeenJobs) (text : String) : Option Nat :=
  match number? text with
  | some (n + 1) => seen[n]?
  | _ => none

end SeenJobs

mutual

def mapStrings (f : String → String) : Json → Json
  | .string s => .string (f s)
  | .array items => .array (mapItems f items)
  | .object members => .object (mapMembers f members)
  | j => j

def mapItems (f : String → String) : List Json → List Json
  | [] => []
  | j :: js => mapStrings f j :: mapItems f js

def mapMembers (f : String → String) : List (String × Json) → List (String × Json)
  | [] => []
  | (k, j) :: ms => (k, mapStrings f j) :: mapMembers f ms

end

/-- A label in angle brackets. -/
def bracketed (label : String) : String := "<" ++ label ++ ">"

/-- A text with labels in the place of the identifiers of apps. -/
def labelled (labels : List (String × AppId)) (s : String) : String :=
  labels.foldl (fun s (label, id) => s.replace (toString id) (bracketed label)) s

def withLabels (labels : List (String × AppId)) : Json → Json := mapStrings (labelled labels)

/-- The paths of all files, in the order in which they stand once they have labels. -/
def ofFiles (labels : List (String × AppId)) (f : Files) : Json :=
  .array (((f.listing.map (labelled labels)).mergeSort fun a b => a ≤ b).map .string)

/-- The path part that `part` stands for, which may be a label in angle brackets. -/
def unlabelled (labels : List (String × AppId)) (part : String) : String :=
  match labels.find? (bracketed ·.1 = part) with
  | some (_, id) => toString id
  | none => part

end Rollout.Report
