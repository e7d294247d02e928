import Weaver.Jimple.ClassName

/-!
# Manifests

The part of the manifest of an application that says which activities it is started
through.

## Main definitions

* `IntentFilter`, `Activity`, `ActivityAlias`, `Manifest`.
* `Manifest.qualify`: the class that a name in a manifest means.
* `Manifest.mainActivities`: the classes of the activities that start the application.
-/

namespace Weaver

/-- The action of the entry point of an application. -/
def mainAction : Text :=
  "android.intent.action.MAIN".toList

/-- The category of activities that launchers show. -/
def launcherCategory : Text :=
  "android.intent.category.LAUNCHER".toList

/-- What an activity can be asked to do. -/
structure IntentFilter where
  actions : List Text
  categories : List Text
deriving DecidableEq, Repr

namespace IntentFilter

/-- Whether a filter lists an action. -/
def hasAction (f : IntentFilter) (action : Text) : Bool :=
  f.actions.any (· == action)

/-- Whether a filter lists a category. -/
def hasCategory (f : IntentFilter) (category : Text) : Bool :=
  f.categories.any (· == category)

end IntentFilter

/-- An activity as the manifest names it. -/
structure Activity where
  name : Text
  filters : List IntentFilter
deriving DecidableEq, Repr

/-- A second name for an activity, with filters of its own. -/
structure ActivityAlias where
  name : Text
  target : Text
  filters : List IntentFilter
deriving DecidableEq, Repr

/-- What is known of an application from its manifest. -/
structure Manifest where
  package : Text
  activities : List Activity
  aliases : List ActivityAlias
deriving DecidableEq, Repr

/-- Whether one of the filters takes the main action. -/
def startsApplication (filters : List IntentFilter) : Bool :=
  filters.any fun f => f.hasAction mainAction

namespace Manifest

/-- The class that a name means: names without a package, and those that begin with a dot,
are relative to the package of the application. -/
def qualify (m : Manifest) (name : Text) : ClassName :=
  let cls := ClassName.ofManifest m.package name
  if cls.hasPackage then cls else ⟨m.package ++ '.' :: name⟩

/-- The names of the activities that start the application: those of activities first, then
the targets of aliases. -/
def mainNames (m : Manifest) : List Text :=
  (m.activities.filter fun a => startsApplication a.filters).map Activity.name ++
    (m.aliases.filter fun a => startsApplication a.filters).map ActivityAlias.target

/-- Adds an element that is not in the list yet. -/
def addMissing {α : Type} [DecidableEq α] (xs : List α) (x : α) : List α :=
  if x ∈ xs then xs else xs ++ [x]

/-- The classes of the activities that start the application, each once. -/
def mainActivities (m : Manifest) : List ClassName :=
  (m.mainNames.map m.qualify).foldl addMissing []

/-- Whether a class is one of the activities that start the application. -/
def isMainActivity (m : Manifest) (cls : ClassName) : Bool :=
  m.mainActivities.any (· == cls)

end Manifest

end Weaver
