import Rollout.Url

/-!
# Version control

The repository that an app is deployed from, and the token that opens it.
-/

namespace Rollout

structure VersionControl where
  url : Url
  token : Option String
deriving DecidableEq

end Rollout
