import Rollout.Uuid

/-!
# Typed identifiers

Identifiers of apps, targets and users are told apart by their types, so that none can stand for another.
-/

namespace Rollout

/-- The things that have identifiers. -/
inductive Entity where
  | app
  | target
  | user
deriving DecidableEq, Repr

structure EntityId (e : Entity) where
  uuid : Uuid
deriving DecidableEq, Inhabited

abbrev AppId := EntityId .app

abbrev TargetId := EntityId .target

abbrev UserId := EntityId .user

def Entity.word : Entity → String
  | .app => "App"
  | .target => "Target"
  | .user => "User"

def Entity.typeName (e : Entity) : String := e.word ++ "Id"

namespace EntityId

variable {e : Entity}

instance : ToString (EntityId e) := ⟨fun i => toString i.uuid⟩

instance : Ord (EntityId e) := ⟨fun a b => compare a.uuid b.uuid⟩

def parse? (s : String) : Option (EntityId e) := (Uuid.parse? s).map EntityId.mk

/-- The identifier with the name of its type around it. -/
def describe (i : EntityId e) : String := e.typeName ++ "(" ++ toString i ++ ")"

theorem parse?_toString (i : EntityId e) : parse? (toString i) = some i := by
  have htext : toString i = toString i.uuid := rfl
  rw [parse?, htext, Uuid.parse?_toString]
  rfl

theorem toString_inj {i j : EntityId e} : toString i = toString j ↔ i = j := by
  refine ⟨fun h => ?_, fun h => h ▸ rfl⟩
  have hparsed : (parse? (toString i) : Option (EntityId e)) = parse? (toString j) := congrArg parse? h
  rw [parse?_toString, parse?_toString] at hparsed
  exact Option.some.inj hparsed

end EntityId

end Rollout
