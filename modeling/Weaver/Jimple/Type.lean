import Weaver.Jimple.ClassName
import Weaver.Text.Alphanumeric
import Weaver.Text.Blank

/-!
# Types

The types of locals, fields, parameters and expressions, their written form and the order
that sorts signatures.

## Main definitions

* `Ty`: primitive types, classes and arrays.
* `Ty.text`, `Ty.read?`: writing and reading.
* `Ty.compare`: primitive types before classes before arrays.
-/

namespace Weaver

/-- The type of a value. -/
inductive Ty where
  | void
  | boolean
  | byte
  | char
  | short
  | int
  | long
  | float
  | double
  /-- The type of the `null` constant. -/
  | null
  | ref (cls : ClassName)
  | array (elem : Ty)
deriving DecidableEq, Repr, Inhabited

namespace Ty

/-- The class type named by a text. -/
def class_ (name : Text) : Ty :=
  .ref ⟨name⟩

/-! ### Writing and reading -/

/-- The written form of a type. -/
def text : Ty → Text
  | void => "void".toList
  | boolean => "boolean".toList
  | byte => "byte".toList
  | char => "char".toList
  | short => "short".toList
  | int => "int".toList
  | long => "long".toList
  | float => "float".toList
  | double => "double".toList
  | null => "null_type".toList
  | ref cls => cls.chars
  | array elem => elem.text ++ "[]".toList

/-- The types whose written form is a reserved word. -/
def named : List Ty :=
  [void, boolean, byte, char, short, int, long, float, double, null]

/-- Whether a character may stand in a class name, with the letters and digits of
Unicode 15.0. -/
def isNameChar (c : Char) : Bool :=
  isAlphanumeric c || c == '.' || c == '$' || c == '_'

/-- Reads a type name without white space or brackets: a reserved word or a class. -/
def readName? (s : Text) : Option Ty :=
  match named.find? (fun t => t.text == s) with
  | some t => some t
  | none => if s.all isNameChar then some (class_ s) else none

/-- Reads a type; white space may stand around the name and before each pair of
brackets. -/
def read? (s : Text) : Option Ty :=
  if Text.trim s = [] then none
  else
    match _h : Text.stripSuffix? "[]".toList (Text.trim s) with
    | some elem => (read? elem).map array
    | none => readName? (Text.trim s)
termination_by s.length
decreasing_by
  have h₁ := Text.length_trim_le s
  have h₂ := Text.length_of_stripSuffix? _h
  have h₃ : "[]".toList.length = 2 := rfl
  omega

/-! ### Classes of types -/

/-- Whether values of the type are numbers, characters or truth values. -/
def isPrimitive : Ty → Bool
  | void | null | ref _ | array _ => false
  | _ => true

/-- Whether values of the type are references. -/
def isRefLike : Ty → Bool
  | null | ref _ | array _ => true
  | _ => false

/-- The class of a class type. -/
def className? : Ty → Option ClassName
  | ref cls => some cls
  | _ => none

/-- Whether the type is the class of that name. -/
def isClass (t : Ty) (name : Text) : Bool :=
  match t with
  | ref cls => cls.chars == name
  | _ => false

/-- The types that are a class are those made from its name. -/
theorem isClass_iff {t : Ty} {name : Text} : t.isClass name = true ↔ t = class_ name := by
  cases t with
  | ref cls =>
    obtain ⟨chars⟩ := cls
    simp [isClass, class_]
  | _ => simp [isClass, class_]

/-- The letter that the names of generated locals of this type begin with. -/
def localLetter : Ty → Char
  | boolean => 'z'
  | byte => 'b'
  | char => 'c'
  | short => 's'
  | int => 'i'
  | long => 'l'
  | float => 'f'
  | double => 'd'
  | void => 'v'
  | null | ref _ | array _ => 'r'

/-! ### Order -/

/-- The place of a type's form in the order of types. -/
def rank : Ty → Nat
  | void => 0
  | boolean => 1
  | byte => 2
  | char => 3
  | short => 4
  | int => 5
  | long => 6
  | float => 7
  | double => 8
  | null => 9
  | ref _ => 10
  | array _ => 11

/-- Compares types by form, classes by name and arrays by their elements. -/
def compare : Ty → Ty → Ordering
  | ref a, ref b => a.compare b
  | array a, array b => compare a b
  | a, b => Ord.compare a.rank b.rank

/-- Comparing the other way round gives the opposite. -/
theorem compare_swap (a b : Ty) : compare a b = (compare b a).swap := by
  induction a generalizing b with
  | ref c =>
    cases b with
    | ref d => exact @Std.OrientedCmp.eq_swap ClassName ClassName.compare _ c d
    | _ => rfl
  | array a ih =>
    cases b with
    | array b => exact ih b
    | _ => rfl
  | _ => cases b <;> rfl

/-- The form of a type decides first. -/
theorem rank_le_of_isLE {a b : Ty} (h : (compare a b).isLE) : a.rank ≤ b.rank := by
  unfold compare at h
  split at h
  · exact Nat.le_refl _
  · exact Nat.le_refl _
  · exact Nat.isLE_compare.1 h

/-- The order of types is transitive. -/
theorem compare_isLE_trans {a b c : Ty} (hab : (compare a b).isLE) (hbc : (compare b c).isLE) :
    (compare a c).isLE := by
  induction a generalizing b c with
  | ref x =>
    -- A type between two others of one form has this form, too.
    have h₁ := rank_le_of_isLE hab
    have h₂ := rank_le_of_isLE hbc
    cases b <;> cases c <;> simp only [rank, Nat.reduceLeDiff] at h₁ h₂
    · exact @Std.TransCmp.isLE_trans ClassName ClassName.compare _ _ _ _ hab hbc
    all_goals rfl
  | array x ih =>
    have h₁ := rank_le_of_isLE hab
    have h₂ := rank_le_of_isLE hbc
    cases b <;> cases c <;> simp only [rank, Nat.reduceLeDiff] at h₁ h₂
    exact ih hab hbc
  | _ =>
    have h := Nat.le_trans (rank_le_of_isLE hab) (rank_le_of_isLE hbc)
    cases c <;> first | rfl | exact absurd h (by decide)

instance : Std.TransCmp compare where
  eq_swap := compare_swap _ _
  isLE_trans := compare_isLE_trans

end Ty

end Weaver
