import Weaver.Jimple.Class

/-!
# Scenes

All classes of a program and its entry points. Classes are kept in the order of their
names and have distinct names.

## Main definitions

* `Scene.add`, `Scene.class?`, `Scene.method?`, `Scene.body`: contents.
* `Scene.resolve?`: the declaration that a call finds along the superclasses.
* `Scene.calleesOf`, `Scene.isSubclass`: the hierarchy and the calls of a method.
* `Scene.rewriteBody`: change one body, or nothing at all.
-/

namespace Weaver

/-- The classes of a program and its entry points. -/
structure Scene where
  classes : List Class
  entryPoints : List MethodRef
  /-- Classes are ordered by name, and no two have the same name. -/
  ordered : Increasing ClassName.compare (classes.map Class.name)

namespace Scene

/-- The scene without classes. -/
def empty : Scene :=
  { classes := [], entryPoints := [], ordered := List.Pairwise.nil }

/-! ### Contents -/

/-- The class of that name. -/
def class? (s : Scene) (name : ClassName) : Option Class :=
  s.classes.find? fun c => c.name == name

/-- Whether the scene has a class of that name. -/
def hasClass (s : Scene) (name : ClassName) : Bool :=
  (s.class? name).isSome

/-- Compares classes by name. -/
def compareClasses (a b : Class) : Ordering :=
  a.name.compare b.name

/-- Adds a class, in the place of one of the same name if there is one. -/
def add (s : Scene) (c : Class) : Scene :=
  { s with
    classes := insertSorted compareClasses c s.classes
    ordered := by
      have h := increasing_insertSorted c.name s.ordered
      rwa [← map_insertSorted Class.name ClassName.compare] at h }

/-- The method that a reference names in the class itself. -/
def method? (s : Scene) (m : MethodRef) : Option Method :=
  (s.class? m.cls).bind fun c => c.method? m.sig

/-- The body of a method. -/
def body (s : Scene) (m : MethodRef) : Except Fault Body :=
  match s.method? m with
  | none => .error (.unknownMethod m)
  | some method =>
    match method.body with
    | some body => .ok body
    | none => .error (.noBody m)

/-- The class with a body under a method, if it is the class of that method. -/
def updateBody (m : MethodRef) (body : Body) (c : Class) : Class :=
  if c.name = m.cls then { c with methods := Class.setBody m.sig body c.methods } else c

/-- Another body in one of its methods leaves the name of a class. -/
theorem name_updateBody (m : MethodRef) (body : Body) (c : Class) :
    (updateBody m body c).name = c.name := by
  unfold updateBody
  split <;> rfl

/-- Puts a body under a method of the scene. -/
def setBody (s : Scene) (m : MethodRef) (body : Body) : Scene :=
  { s with
    classes := s.classes.map (updateBody m body)
    ordered := by
      have h : (s.classes.map (updateBody m body)).map Class.name = s.classes.map Class.name := by
        simp [name_updateBody]
      rw [h]
      exact s.ordered }

/-- Changes a copy of the body of a method. The scene gets the copy only if the change
succeeds. -/
def rewriteBody {α ε : Type} (s : Scene) (m : MethodRef) (liftFault : Fault → ε)
    (change : Body → Scene → Except ε α × Body) : Except ε α × Scene :=
  match s.body m with
  | .error fault => (.error (liftFault fault), s)
  | .ok body =>
    match change body s with
    | (.error e, _) => (.error e, s)
    | (.ok result, body) => (.ok result, s.setBody m body)

/-! ### Entry points -/

/-- Adds an entry point at the end unless it is one already. -/
def addEntryPoint (s : Scene) (m : MethodRef) : Scene :=
  if m ∈ s.entryPoints then s else { s with entryPoints := s.entryPoints ++ [m] }

/-- Replaces all entry points. -/
def setEntryPoints (s : Scene) (ms : List MethodRef) : Scene :=
  { s with entryPoints := ms }

/-! ### The hierarchy -/

/-- The classes of the scene from `name` upwards along superclasses, each once; `fuel`
bounds their number. -/
def ancestryFrom (s : Scene) : Nat → List ClassName → ClassName → List Class
  | 0, _, _ => []
  | fuel + 1, seen, name =>
    if name ∈ seen then []
    else
      match s.class? name with
      | none => []
      | some c =>
        match c.superclass with
        | none => [c]
        | some up => c :: ancestryFrom s fuel (name :: seen) up

/-- The class `name`, its superclass and so on, as far as they are in the scene. The walk
ends at the first class it meets again. -/
def ancestry (s : Scene) (name : ClassName) : List Class :=
  s.ancestryFrom s.classes.length [] name

/-- The nearest class along the superclasses that declares a signature, with the method. -/
def resolve? (s : Scene) (name : ClassName) (sig : Signature) : Option (Class × Method) :=
  (s.ancestry name).findSome? fun c => (c.method? sig).map fun m => (c, m)

/-- The direct ancestors of a class. -/
def parents (c : Class) : List ClassName :=
  c.superclass.toList ++ c.interfaces

/-- Whether `goal` is met from the names that are still `pending`, the last one first;
`fuel` bounds the number of names that are looked at. -/
def reaches (s : Scene) (goal : ClassName) : Nat → List ClassName → List ClassName → Bool
  | 0, _, _ => false
  | _ + 1, _, [] => false
  | fuel + 1, seen, name :: pending =>
    if name = goal then true
    else if name ∈ seen then reaches s goal fuel seen pending
    else
      match s.class? name with
      | none => reaches s goal fuel (name :: seen) pending
      | some c => reaches s goal fuel (name :: seen) ((parents c).reverse ++ pending)

/-- The number of names that the search for an ancestor may have to look at: the start
and every ancestor that some class names. -/
def searchBound (s : Scene) : Nat :=
  (s.classes.flatMap parents).length + 2

/-- Whether `child` is `parent` or has it as a superclass or interface, directly or over
other classes of the scene. -/
def isSubclass (s : Scene) (child parent : ClassName) : Bool :=
  s.reaches parent s.searchBound [] [child]

/-! ### Calls -/

/-- Adds an element at the end unless it is there already. -/
def addNew {α : Type} [DecidableEq α] (xs : List α) (x : α) : List α :=
  if x ∈ xs then xs else xs ++ [x]

/-- The method of the scene that an invocation finds. -/
def target? (s : Scene) (e : Invocation) : Option MethodRef :=
  (s.resolve? e.method.cls e.method.sig).map fun (c, m) => c.refTo m.sig

/-- The methods of the scene that a method calls, each once, in the order of the first
call. -/
def calleesOf (s : Scene) (m : MethodRef) : Except Fault (List MethodRef) :=
  (s.body m).map fun body =>
    ((body.statements.filterMap Stmt.invocation?).filterMap s.target?).foldl addNew []

end Scene

end Weaver
