import Weaver.Pass.Lifecycle

/-!
# Injecting Lifecycle Calls

The creation method of an activity is made to call every listener and click handler right
before its last return. Arguments are placeholders: zeros, the empty string, the context,
a newly built object or `null`.

## Main definitions

* `CallSite`: what the calls of one injection share.
* `Block`: the statements built so far, together with the body whose locals they use.
* `Scene.inject`: inject what a `Lifecycle` lists.
* `Scene.insertLifecycleCalls`: find out what to inject, and inject it.
-/

namespace Weaver

/-- The class of contexts. -/
def contextClass : Text :=
  "android.content.Context".toList

/-! ### Placeholders -/

/-- What the calls of one injection share. -/
structure CallSite where
  scene : Scene
  /-- The local that stands for the receiver. -/
  this : Text
  /-- The local that holds the context. -/
  context : Text

/-- The statements that have been built so far and the body that declares their locals. -/
structure Block where
  body : Body
  stmts : List Stmt

namespace Block

/-- Adds a statement. -/
def push (b : Block) (s : Stmt) : Block :=
  { b with stmts := b.stmts ++ [s] }

/-- Declares a new local. -/
def generateLocal (b : Block) (ty : Ty) : Text × Block :=
  let (l, body) := b.body.generateLocal ty
  (l.name, { b with body })

end Block

namespace CallSite

/-- The constructor that takes a context. -/
def contextConstructor : Signature :=
  { ret := .void, name := constructorName, params := [.class_ contextClass] }

/-- The constructor without parameters. -/
def plainConstructor : Signature :=
  { ret := .void, name := constructorName, params := [] }

/-- The class of that name, if it can be instantiated, with the constructor to use and its
arguments. The one that takes a context goes first. -/
def constructor? (site : CallSite) (cls : ClassName) : Option (Class × Signature × List Value) :=
  match site.scene.class? cls with
  | none => none
  | some c =>
    if c.isAbstract then none
    else if c.declares contextConstructor then
      some (c, contextConstructor, [.var site.context])
    else if c.declares plainConstructor then some (c, plainConstructor, [])
    else none

/-- Builds an object of a class in a new local, or leaves `null` in its place. -/
def construct (site : CallSite) (cls : ClassName) (b : Block) : Value × Block :=
  match site.constructor? cls with
  | none => (.const .null, b)
  | some (c, sig, args) =>
    let (name, b) := b.generateLocal (.ref c.name)
    let call : Invocation := { kind := .special, base := some name, method := c.refTo sig, args }
    (.var name, (b.push (.assignVar name (.alloc c.name))).push (.invoke call))

/-- A value to pass for a parameter. -/
def placeholder (site : CallSite) (ty : Ty) (b : Block) : Value × Block :=
  if ty.isPrimitive then (.const (.default ty), b)
  else if ty.isClass stringClass then (.const (.string []), b)
  else if ty.isClass contextClass then (.var site.context, b)
  else
    match ty.className? with
    | some cls => site.construct cls b
    | none => (.const .null, b)

/-- Values to pass for parameters, from the first to the last. -/
def placeholders (site : CallSite) : List Ty → Block → List Value × Block
  | [], b => ([], b)
  | ty :: rest, b =>
    let (v, b) := site.placeholder ty b
    let (vs, b) := placeholders site rest b
    (v :: vs, b)

/-! ### Calls -/

/-- Calls one callback of a listener that a local holds. -/
def callback (site : CallSite) (interface : ClassName) (name : Text) (b : Block)
    (sig : Signature) : Block :=
  let (args, b) := site.placeholders sig.params b
  b.push (.invoke { kind := .interface, base := some name, method := ⟨interface, sig⟩, args })

/-- The value of a field of the class of the injection. -/
def fieldValue (site : CallSite) (cls : ClassName) (f : Field) : Value :=
  if f.isStatic then .staticField (f.refIn cls) else .instanceField site.this (f.refIn cls)

/-- Loads a listener from its field and calls it back in all registered ways. -/
def callListener (site : CallSite) (cls : ClassName) (registry : ListenerRegistry) (b : Block)
    (f : Field) : Block :=
  match f.ty.className? with
  | none => b
  | some interface =>
    let (name, b) := b.generateLocal f.ty
    let b := b.push (.assignVar name (site.fieldValue cls f))
    (registry.callbacks interface).foldl (site.callback interface name) b

/-- Calls a click handler on the receiver. -/
def callHandler (site : CallSite) (cls : ClassName) (b : Block) (sig : Signature) : Block :=
  let (args, b) := site.placeholders sig.params b
  b.push (.invoke { kind := .virtual, base := some site.this, method := ⟨cls, sig⟩, args })

end CallSite

/-! ### Reports -/

/-- What an injection did. -/
structure InjectionReport where
  method : MethodRef
  /-- The names of the fields whose listeners are called. -/
  fields : List Text
  handlers : List Signature
  /-- The local that holds the context. -/
  contextLocal : Text
  /-- Whether the context had to be asked for. -/
  generatedContext : Bool
  /-- The number of new statements. -/
  inserted : Nat

/-- How an injection ended. -/
inductive InjectionOutcome where
  | injected (report : InjectionReport)
  | nothingToInject
  /-- The click handlers could not be told. -/
  | skipped (reason : LayoutFault)

/-! ### Injection -/

namespace Body

/-- The last declared local that holds a context. -/
def contextLocal? (b : Body) : Option Text :=
  (b.locals.reverse.find? fun l => l.ty.isClass contextClass).map Local.name

/-- The call that asks for the context. -/
def contextCall (this : Text) : Value :=
  .call { kind := .virtual, base := some this, args := []
          method := { cls := ⟨contextClass⟩
                      sig := { ret := .class_ contextClass, name := "getApplicationContext".toList
                               params := [] } } }

/-- The local that holds the context and the block that provides it: empty if there is
such a local already. -/
def provideContext (b : Body) (this : Text) : Text × Block :=
  match b.contextLocal? with
  | some name => (name, { body := b, stmts := [] })
  | none =>
    let (l, body) := b.generateLocal (.class_ contextClass)
    (l.name, { body, stmts := [.assignVar l.name (contextCall this)] })

/-- The block of all calls that a lifecycle lists, on the receiver `this`, with the local
that holds the context. -/
def buildCalls (b : Body) (scene : Scene) (lifecycle : Lifecycle) (registry : ListenerRegistry)
    (this : Text) : Text × Block :=
  let (context, block) := b.provideContext this
  let site : CallSite := { scene, this, context }
  let block := lifecycle.listenerFields.foldl (site.callListener lifecycle.cls registry) block
  (context, lifecycle.handlers.foldl (site.callHandler lifecycle.cls) block)

/-- Calls everything that a lifecycle lists right before the last return. A fault leaves
the locals that have been declared so far. -/
def injectCalls (b : Body) (scene : Scene) (lifecycle : Lifecycle) (registry : ListenerRegistry) :
    Except Error InjectionReport × Body :=
  match b.terminalReturn? with
  | none => (.error (.noTerminalReturn b.method), b)
  | some anchor =>
    match b.thisLocal? with
    | none => (.error (.noThisLocal b.method), b)
    | some this =>
      let (context, block) := b.buildCalls scene lifecycle registry this.name
      match block.body.insertBefore anchor block.stmts with
      | .error fault => (.error (.code fault), block.body)
      | .ok (ids, body) =>
        (.ok { method := b.method
               fields := lifecycle.listenerFields.map Field.name
               handlers := lifecycle.handlers
               contextLocal := context
               generatedContext := b.contextLocal?.isNone
               inserted := ids.length }, body)

end Body

namespace Scene

/-- Injects what a lifecycle lists into its creation method. -/
def inject (s : Scene) (lifecycle : Lifecycle) (registry : ListenerRegistry) :
    Except Error InjectionOutcome × Scene :=
  if lifecycle.isEmpty then (.ok .nothingToInject, s)
  else
    let (outcome, s) := s.rewriteBody lifecycle.creation Error.code fun body scene =>
      body.injectCalls scene lifecycle registry
    (outcome.map .injected, s)

/-- Finds the creation method and injects the calls. If the click handlers cannot be told,
nothing is injected. -/
def insertLifecycleCalls (s : Scene) (registry : ListenerRegistry) (source : HandlerSource)
    (sig : Signature) : Except Error InjectionOutcome × Scene :=
  match s.lifecycle registry source sig with
  | .error (.layout fault) => (.ok (.skipped fault), s)
  | .error e => (.error e, s)
  | .ok lifecycle => s.inject lifecycle registry

end Scene

end Weaver
