import Rollout.EntityId

/-!
# Numbers of deployments

The deployments of an app are numbered from 1 in 32 bits.
-/

namespace Rollout

structure DeploymentNumber where
  val : UInt32
deriving DecidableEq

namespace DeploymentNumber

def first : DeploymentNumber := ⟨1⟩

def toNat (n : DeploymentNumber) : Nat := n.val.toNat

/-- One more than the largest number of 32 bits. -/
def limit : Nat := 4294967296

def ofNat? (n : Nat) : Option DeploymentNumber := if n < limit then some ⟨n.toUInt32⟩ else none

def ofInt? : Int → Option DeploymentNumber
  | .ofNat n => ofNat? n
  | .negSucc _ => none

/-- Why an integer is no number of a deployment. -/
def rangeMessage (n : Int) : String :=
  if n < 0 then "number too small to fit in target type" else "number too large to fit in target type"

/-- The number after `n`, unless `n` is the last one. -/
def next? (n : DeploymentNumber) : Option DeploymentNumber := ofNat? (n.toNat + 1)

instance : ToString DeploymentNumber := ⟨fun n => toString n.toNat⟩

end DeploymentNumber

structure DeploymentId where
  app : AppId
  number : DeploymentNumber
deriving DecidableEq

end Rollout
