import Weaver.Text.Alphanumeric
import Weaver.Text.Blank
import Weaver.Text.Category
import Weaver.Text.Script

/-!
# Properties of Characters

The sets of characters that have a property by name.

## Main definitions

* `alphabeticSet`, `wordSet`, `decimalSet`, `blankSet`: common properties.
* `propertySet?`: the set that a property name such as `Lu` or `Greek` stands for.
-/

namespace Weaver

/-! ### Common properties -/

/-- The letters and digits as a set. -/
def alphanumericSet : CharSet :=
  .ofRanges ((0x30, 0x39) :: (0x41, 0x5A) :: (0x61, 0x7A) :: alphanumericRanges)

/-- The decimal digits of all scripts. -/
def decimalSet : CharSet :=
  categorySet ["Nd".toList]

/-- The characters with the property `Alphabetic`: digits and other numbers without a
letter form are not alphabetic. -/
def alphabeticSet : CharSet :=
  alphanumericSet.diff (categorySet ["Nd".toList, "No".toList])

/-- The characters of words: letters, marks, decimal digits, connectors such as the low
line, and the two joiners. -/
def wordSet : CharSet :=
  (alphabeticSet.union
    (categorySet ["Mn".toList, "Mc".toList, "Me".toList, "Nd".toList, "Pc".toList])).union
    [(0x200C, 0x200D)]

/-- The white space as a set. -/
def blankSet : CharSet :=
  [(0x9, 0xD), (0x20, 0x20), (0x85, 0x85), (0xA0, 0xA0), (0x1680, 0x1680), (0x2000, 0x200A),
    (0x2028, 0x2029), (0x202F, 0x202F), (0x205F, 0x205F), (0x3000, 0x3000)]

/-- The characters with the property `Lowercase`. -/
def lowercaseSet : CharSet :=
  (categorySet ["Ll".toList]).union
    [(0xAA, 0xAA), (0xBA, 0xBA), (0x2B0, 0x2B8), (0x2C0, 0x2C1), (0x2E0, 0x2E4), (0x345, 0x345),
      (0x37A, 0x37A), (0x10FC, 0x10FC), (0x1D2C, 0x1D6A), (0x1D78, 0x1D78), (0x1D9B, 0x1DBF),
      (0x2071, 0x2071), (0x207F, 0x207F), (0x2090, 0x209C), (0x2170, 0x217F), (0x24D0, 0x24E9),
      (0x2C7C, 0x2C7D), (0xA69C, 0xA69D), (0xA770, 0xA770), (0xA7F2, 0xA7F4), (0xA7F8, 0xA7F9),
      (0xAB5C, 0xAB5F), (0xAB69, 0xAB69), (0x10780, 0x10780), (0x10783, 0x10785),
      (0x10787, 0x107B0), (0x107B2, 0x107BA), (0x1E030, 0x1E06D)]

/-- The characters with the property `Uppercase`. -/
def uppercaseSet : CharSet :=
  (categorySet ["Lu".toList]).union
    [(0x2160, 0x216F), (0x24B6, 0x24CF), (0x1F130, 0x1F149), (0x1F150, 0x1F169),
      (0x1F170, 0x1F189)]

/-! ### Names -/

/-- Whether a character separates the words of a name and does not count. -/
def isNameSeparator (c : Char) : Bool :=
  c == ' ' || c == '_' || c == '-'

/-- A name in lower case, without separators, characters outside ASCII and the word `is`
in front. -/
def plainName (name : Text) : Text :=
  let chars := ((name.filter fun c => c.toNat < 0x80 && !isNameSeparator c).map Char.toLower)
  match chars with
  | 'i' :: 's' :: rest => if rest = ['c'] then chars else rest
  | _ => chars

/-- The sets of properties that are true or false. -/
def binaryProperties : List (List String × CharSet) :=
  [(["alphabetic", "alpha"], alphabeticSet),
    (["lowercase", "lower"], lowercaseSet),
    (["uppercase", "upper"], uppercaseSet),
    (["whitespace", "wspace", "space"], blankSet),
    (["asciihexdigit", "ahex"], [(0x30, 0x39), (0x41, 0x46), (0x61, 0x66)]),
    (["hexdigit", "hex"], [(0x30, 0x39), (0x41, 0x46), (0x61, 0x66), (0xFF10, 0xFF19),
      (0xFF21, 0xFF26), (0xFF41, 0xFF46)])]

/-- The set of a property that is true or false. -/
def binarySet? (name : Text) : Option CharSet :=
  (binaryProperties.find? fun (names, _) => names.any fun n => n.toList == name).map Prod.snd

/-- The set of a general category or one of the three names that stand beside them. -/
def generalSet? (name : Text) : Option CharSet :=
  if name = "any".toList then some .full
  else if name = "ascii".toList then some [(0, 0x7F)]
  else if name = "assigned".toList then some (categorySet ["Cn".toList]).compl
  else (categoryCodes? name).map categorySet

/-- The set of the first of two sources that knows the name. -/
def firstSet? (a b : Option CharSet) : Option CharSet :=
  match a with
  | some set => some set
  | none => b

/-- The set that a plain property name stands for. Three short names are categories though
they could be properties as well. -/
def plainSet? (name : Text) : Option CharSet :=
  let isCategory := ["cf".toList, "sc".toList, "lc".toList].contains name
  firstSet? (if isCategory then none else binarySet? name)
    (firstSet? (generalSet? name) (scriptSet? name))

/-- The set of a property name, or of a value of the property of that name. -/
def propertySet? (name : Text) (value : Option Text) : Option CharSet :=
  match value with
  | none => plainSet? (plainName name)
  | some value =>
    let name := plainName name
    if name = "gc".toList ∨ name = "generalcategory".toList then generalSet? (plainName value)
    else if name = "sc".toList ∨ name = "script".toList ∨ name = "scx".toList ∨
        name = "scriptextensions".toList then scriptSet? (plainName value)
    else none

end Weaver
