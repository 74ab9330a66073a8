import Rollout.Codec
import Rollout.Deployment.Event
import Rollout.App.VersionControl
import Rollout.Time.Reader

/-!
# JSON forms of the domain's values
-/

namespace Rollout

open Codec

instance {e : Entity} : Codec (EntityId e) := ⟨fun j => j.string? >>= EntityId.parse?, fun i => .string (toString i)⟩

instance : Codec AppName := ⟨fun j => j.string? >>= AppName.ofText?, fun n => .string n.text⟩

instance : Codec Environment := ⟨fun j => word? j >>= Environment.ofText?, fun e => .string e.toText⟩

instance : Codec Timestamp := ⟨fun j => j.string? >>= Timestamp.read?, fun t => .string t.write⟩

instance : Codec Url := ⟨fun j => j.string? >>= fun s => (Url.parse s).toOption, fun u => .string u.toText⟩

instance : Codec DeploymentNumber := ⟨fun j => j.nat? >>= DeploymentNumber.ofNat?, fun n => .ofNat n.toNat⟩

instance : Codec DeploymentStatus := ⟨fun j => word? j >>= DeploymentStatus.ofText?, fun s => .string s.toText⟩

instance : Codec EnvConfig where
  ofJson? j := do
    let [target, version, vars] ← fields? ["target", "version", "vars"] j | none
    return ⟨← ofJson? target, ← ofJson? version, ← ofJson? vars⟩
  toJson c := .object [("target", toJson c.target), ("version", toJson c.version), ("vars", toJson c.vars)]

instance : Codec VersionControl where
  ofJson? j := do
    let [url, token] ← fields? ["url", "token"] j | none
    return ⟨← ofJson? url, ← ofJson? token⟩
  toJson v := .object [("url", toJson v.url), ("token", toJson v.token)]

instance : Codec DeploymentId where
  ofJson? j := do
    let [app, number] ← fields? ["app_id", "number"] j | none
    return ⟨← ofJson? app, ← ofJson? number⟩
  toJson i := .object [("app_id", toJson i.app), ("number", toJson i.number)]

instance : Codec DeploymentState where
  ofJson? j := do
    let [status, error, started, finished] ← fields? ["status", "error_code", "started_at", "finished_at"] j | none
    return ⟨← ofJson? status, ← ofJson? error, ← ofJson? started, ← ofJson? finished⟩
  toJson s := .object [("status", toJson s.status), ("error_code", toJson s.error), ("started_at", toJson s.startedAt),
    ("finished_at", toJson s.finishedAt)]

instance : Codec ConfigSnapshot where
  ofJson? j := do
    let [name, environment, target, vars] ← fields? ["app_name", "environment", "target", "vars"] j | none
    return ⟨← ofJson? name, ← ofJson? environment, ← ofJson? target, ← ofJson? vars⟩
  toJson c := .object [("app_name", toJson c.appName), ("environment", toJson c.environment),
    ("target", toJson c.target), ("vars", toJson c.vars)]

instance : Codec Signature where
  ofJson? j := do
    let [time, user] ← fields? ["at", "by"] j | none
    return ⟨← ofJson? time, ← ofJson? user⟩
  toJson s := .object [("at", toJson s.time), ("by", toJson s.user)]

end Rollout
