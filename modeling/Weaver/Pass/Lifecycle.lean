import Weaver.Error
import Weaver.Jimple.Scene
import Weaver.Pass.Listeners

/-!
# Creation Methods and What to Call from Them

The method that an activity is created by, the listeners that its class holds in fields
and the click handlers that its layouts name.

## Main definitions

* `Scene.creationMethod`: the method of a signature that the program begins with.
* `Lifecycle`, `Scene.lifecycle`: the method together with what it has to call.
-/

namespace Weaver

/-- The signature of the creation callback of activities. -/
def creationSignature : Signature :=
  { ret := .void, name := "onCreate".toList, params := [.class_ "android.os.Bundle".toList] }

/-- What a creation method has to call. -/
structure Lifecycle where
  creation : MethodRef
  /-- The fields of its class whose type is a registered listener, as declared. -/
  listenerFields : List Field
  /-- The click handlers that its class declares, in order. -/
  handlers : List Signature

namespace Lifecycle

/-- The class of the creation method. -/
def cls (l : Lifecycle) : ClassName :=
  l.creation.cls

/-- Whether there is nothing to call. -/
def isEmpty (l : Lifecycle) : Bool :=
  l.listenerFields.isEmpty && l.handlers.isEmpty

end Lifecycle

/-- The click handlers that layouts name, or why they cannot be told. -/
abbrev HandlerSource := Except LayoutFault SignatureSet

/-! ### Discovery -/

/-- The fields of a class whose type is a registered listener interface. -/
def Class.listenerFields (c : Class) (registry : ListenerRegistry) : List Field :=
  c.fields.filter fun f =>
    match f.ty.className? with
    | some interface => registry.contains interface
    | none => false

/-- The handlers that a class declares. -/
def Class.declaredHandlers (c : Class) (handlers : SignatureSet) : List Signature :=
  handlers.toList.filter c.declares

namespace Scene

/-- The methods that the first entry point calls; none if there is no such body. -/
def firstCallees (s : Scene) : List MethodRef :=
  match s.entryPoints with
  | [] => []
  | first :: _ =>
    match s.calleesOf first with
    | .ok callees => callees
    | .error _ => []

/-- The method of a signature that the program begins with: the first such entry point,
or else the first such method that the first entry point calls. -/
def creationMethod (s : Scene) (sig : Signature) : Except Error MethodRef :=
  match s.entryPoints.find? fun m => m.sig == sig with
  | some m => .ok m
  | none =>
    match s.firstCallees.find? fun m => m.sig == sig with
    | some m => .ok m
    | none => .error (.noCreationMethod sig)

/-- Finds the creation method and what it has to call. -/
def lifecycle (s : Scene) (registry : ListenerRegistry) (source : HandlerSource)
    (sig : Signature) : Except Error Lifecycle :=
  match s.creationMethod sig with
  | .error e => .error e
  | .ok creation =>
    match s.class? creation.cls with
    | none => .error (.code (.unknownClass creation.cls.chars))
    | some c =>
      match source with
      | .error fault => .error (.layout fault)
      | .ok handlers =>
        .ok { creation, listenerFields := c.listenerFields registry
              handlers := c.declaredHandlers handlers }

end Scene

end Weaver
