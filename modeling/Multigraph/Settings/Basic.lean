import Multigraph.Log.Level
import Multigraph.Operation.Event

/-!
Settings. They have three sections: how to log, and the policies that unions and complements
follow where the caller does not say otherwise. Every field has a default.
-/
namespace Multigraph

structure LoggingSettings where
  level : Log.Level := .info
  jsonOutput : Bool := false
  deriving DecidableEq

structure Settings where
  logging : LoggingSettings := {}
  union : UnionPolicy := {}
  complement : ComplementPolicy := {}
  deriving DecidableEq

/-- The policy with the flags that a caller gives in place of its own. -/
def UnionPolicy.override (policy : UnionPolicy) (parallelFree directed : Option Bool) :
    UnionPolicy where
  parallelFree := parallelFree.getD policy.parallelFree
  directed := directed.getD policy.directed

/-- The policy with the flags that a caller gives in place of its own. -/
def ComplementPolicy.override (policy : ComplementPolicy)
    (directional allowSelfLoops : Option Bool) : ComplementPolicy where
  directional := directional.getD policy.directional
  allowSelfLoops := allowSelfLoops.getD policy.allowSelfLoops

/-- Flags that are not given leave a policy as it is. -/
theorem UnionPolicy.override_none (policy : UnionPolicy) :
    policy.override none none = policy := rfl

/-- Flags that are not given leave a policy as it is. -/
theorem ComplementPolicy.override_none (policy : ComplementPolicy) :
    policy.override none none = policy := rfl

end Multigraph
