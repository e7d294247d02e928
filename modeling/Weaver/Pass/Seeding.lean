import Weaver.Jimple.Scene
import Weaver.Manifest.Basic

/-!
# Entry Points from Manifests

The methods that the main activities of an application are created by become entry points.

## Main definitions

* `Scene.creationMethods`: those methods, as far as the scene declares them.
* `Scene.seedEntryPoints`: the scene with them as entry points.
-/

namespace Weaver.Scene

/-- The method of a signature that a class of the scene declares. -/
def declared? (s : Scene) (sig : Signature) (name : ClassName) : Option MethodRef := do
  let c ← s.class? name
  if c.declares sig then some (c.refTo sig) else none

/-- The methods of a signature that the main activities of an application declare. -/
def creationMethods (s : Scene) (m : Manifest) (sig : Signature) : List MethodRef :=
  m.mainActivities.filterMap (s.declared? sig)

/-- Makes the creation methods of the main activities entry points, and tells how many
there are. -/
def seedEntryPoints (s : Scene) (m : Manifest) (sig : Signature) : Nat × Scene :=
  let found := s.creationMethods m sig
  (found.length, found.foldl addEntryPoint s)

end Weaver.Scene
