import Weaver.Text.Order

/-!
# Class Names

Fully qualified class names such as `android.view.View$OnClickListener`: packages are
separated by dots, nested classes by dollar signs.

## Main definitions

* `ClassName.simple`, `ClassName.package`, `ClassName.outer?`: the parts of a name.
* `ClassName.ofManifest`: the class that a manifest entry names.
-/

namespace Weaver

/-- A fully qualified class name. -/
structure ClassName where
  chars : Text
deriving DecidableEq, Repr, Inhabited

namespace ClassName

/-- Class names are ordered by their texts. -/
def compare (a b : ClassName) : Ordering :=
  Text.compare a.chars b.chars

instance : Std.TransCmp compare :=
  transCmp_on chars Text.compare

/-- The name without its package. -/
def simple (c : ClassName) : Text :=
  match Text.cutAtLast? '.' c.chars with
  | some (_, name) => name
  | none => c.chars

/-- The package of a class, empty for the default package. -/
def package (c : ClassName) : Text :=
  match Text.cutAtLast? '.' c.chars with
  | some (package, _) => package
  | none => []

/-- Whether a dot stands in the name after its leading dots. -/
def hasPackage (c : ClassName) : Bool :=
  (c.chars.dropWhile (· == '.')).contains '.'

/-- The class around a nested class. -/
def outer? (c : ClassName) : Option ClassName :=
  (Text.cutAtLast? '$' c.chars).map fun (outer, _) => ⟨outer⟩

/-- The class that the manifest of package `pkg` calls `name`: a name that starts with a
dot is relative to the package. -/
def ofManifest (pkg name : Text) : ClassName :=
  match name with
  | '.' :: _ => ⟨pkg ++ name⟩
  | _ => ⟨name⟩

end ClassName

end Weaver
