import Rollout.Work

/-!
# Keys of jobs

The key of a deploy job stands for one environment of one app: jobs have the same key just if their apps and their
projects are the same (`Work.deployKey_inj`), and projects just if the names of their apps and their environments are
(`projectName_inj`). The key of a cleanup job stands for its app (`Work.cleanupKey_inj`), and for nothing that is
deployed. So the keys that are prepared for events tell apart what the events ask for (`Work.keys_apart`).
-/

namespace Rollout

/-- The name of a project ends like its environment. -/
theorem getLast?_projectName (n : AppName) (e : Environment) :
    (projectName n e).toList.getLast? = e.toText.toList.getLast? := by
  cases e <;> simp [projectName, Environment.toText]

/-- The names of the environments end in different letters. -/
theorem Environment.eq_of_getLast? {d e : Environment} (h : d.toText.toList.getLast? = e.toText.toList.getLast?) :
    d = e := by
  cases d <;> cases e
  case production.production => rfl
  case production.staging => exact absurd h (by decide)
  case staging.production => exact absurd h (by decide)
  case staging.staging => rfl

theorem projectName_inj {m n : AppName} {d e : Environment} : projectName m d = projectName n e ↔ m = n ∧ d = e := by
  refine ⟨fun h => ?_, fun ⟨hm, hd⟩ => hm ▸ hd ▸ rfl⟩
  -- the environment has to be known before the rest can be compared, since names may hold hyphens
  have hlast := congrArg (·.toList.getLast?) h
  simp only [getLast?_projectName] at hlast
  obtain rfl := Environment.eq_of_getLast? hlast
  have htext : m.text = n.text := by simpa [projectName] using h
  cases m
  cases n
  cases htext
  exact ⟨rfl, rfl⟩

/-- A name that ends like that of an environment is not taken for a shorter one. -/
example : projectName ⟨"shop-production", by decide⟩ .staging ≠ projectName ⟨"shop", by decide⟩ .production := by decide

/-- Identifiers are of one length, so that the project begins at one place in all keys. -/
theorem Work.deployKey_inj {a b : AppId} {p q : String} : deployKey a p = deployKey b q ↔ a = b ∧ p = q := by
  refine ⟨fun h => ?_, fun ⟨ha, hp⟩ => ha ▸ hp ▸ rfl⟩
  have hlists : (toString a).toList ++ ("." ++ p).toList = (toString b).toList ++ ("." ++ q).toList := by
    simpa [deployKey, String.append_assoc, ← String.toList_inj] using h
  have hlength : (toString a).toList.length = (toString b).toList.length :=
    (Uuid.length_toString a.uuid).trans (Uuid.length_toString b.uuid).symm
  obtain ⟨ha, hp⟩ := List.append_inj hlists hlength
  exact ⟨EntityId.toString_inj.mp (String.toList_inj.mp ha), by simpa [← String.toList_inj] using hp⟩

theorem Work.cleanupKey_inj {a b : AppId} : cleanupKey a = cleanupKey b ↔ a = b := by
  refine ⟨fun h => ?_, fun h => h ▸ rfl⟩
  have hlists : (toString a).toList = (toString b).toList := by
    simpa [cleanupKey, ← String.toList_inj] using h
  exact EntityId.toString_inj.mp (String.toList_inj.mp hlists)

/-- The kinds of the jobs differ right after the part that they share. -/
theorem Work.deployKey_ne_cleanupKey (a b : AppId) (project : String) : deployKey a project ≠ cleanupKey b := by
  intro h
  have hlists := congrArg (·.toList.take 12) h
  simp [deployKey, cleanupKey, deployKind, cleanupKind] at hlists

namespace Work

/-- The key of the job that is prepared for an event, if there is one. -/
def key? (p : Payload) : Option String :=
  match registry.prepare p with
  | .ok prepared => prepared.bind (·.key)
  | .error _ => none

theorem key?_created (id : DeploymentId) (config : ConfigSnapshot) (state : DeploymentState) (requested : Signature) :
    key? (.deployment (.created id config state requested)) =
      some (deployKey id.app (projectName config.appName config.environment)) := rfl

theorem key?_cleanupRequested (app : AppId) (requested : Signature) :
    key? (.app (.cleanupRequested app requested)) = some (cleanupKey app) := rfl

/--
**Keys stand for what is asked for.** The deploy jobs of two deployments, of whatever numbers, have one key just if app,
name and environment are the same, two cleanup jobs just if their app is the same, and a deploy job never has the key of
a cleanup job. The name of a project by itself tells the name of the app and the environment.
-/
theorem keys_apart :
    (∀ (id id' : DeploymentId) (config config' : ConfigSnapshot) (state state' : DeploymentState)
        (requested requested' : Signature),
      key? (.deployment (.created id config state requested)) =
          key? (.deployment (.created id' config' state' requested')) ↔
        id.app = id'.app ∧ config.appName = config'.appName ∧ config.environment = config'.environment) ∧
    (∀ (app app' : AppId) (requested requested' : Signature),
      key? (.app (.cleanupRequested app requested)) = key? (.app (.cleanupRequested app' requested')) ↔ app = app') ∧
    (∀ (id : DeploymentId) (config : ConfigSnapshot) (state : DeploymentState) (app : AppId)
        (requested requested' : Signature),
      key? (.deployment (.created id config state requested)) ≠ key? (.app (.cleanupRequested app requested'))) ∧
    ∀ (name name' : AppName) (e e' : Environment),
      projectName name e = projectName name' e' ↔ name = name' ∧ e = e' := by
  refine ⟨?_, ?_, ?_, fun name name' e e' => projectName_inj⟩
  · intro id id' config config' state state' requested requested'
    rw [key?_created, key?_created, Option.some_inj, deployKey_inj, projectName_inj]
  · intro app app' requested requested'
    rw [key?_cleanupRequested, key?_cleanupRequested, Option.some_inj, cleanupKey_inj]
  · intro id config state app requested requested' h
    rw [key?_created, key?_cleanupRequested, Option.some_inj] at h
    exact deployKey_ne_cleanupKey _ _ _ h

end Work

end Rollout
