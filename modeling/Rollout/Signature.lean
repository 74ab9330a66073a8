import Rollout.EntityId
import Rollout.Time.Timestamp

/-!
# Signatures

Who asked for something, and when.
-/

namespace Rollout

structure Signature where
  time : Timestamp
  user : UserId
deriving DecidableEq

end Rollout
