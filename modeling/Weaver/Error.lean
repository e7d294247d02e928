import Weaver.Jimple.Fault
import Weaver.Text.Quoted

/-!
# Errors

Everything that can make an operation of the library fail, and the wording.

## Main definitions

* `IoFault`, `LayoutFault`, `ConfigFault`: faults of files, layouts and configurations.
* `Error`, `Error.message`.
-/

namespace Weaver

/-! ### Files -/

/-- Why the file system refuses an operation. -/
inductive IoFault where
  | notFound
  | permissionDenied
  | alreadyExists
  | notDirectory
  | isDirectory
  | nameTooLong
  /-- A file that is read as text is not UTF-8. -/
  | notText
deriving DecidableEq, Repr

/-- The wording of a fault of the file system. -/
def IoFault.message : IoFault → Text
  | notFound => "No such file or directory (os error 2)".toList
  | permissionDenied => "Permission denied (os error 13)".toList
  | alreadyExists => "File exists (os error 17)".toList
  | notDirectory => "Not a directory (os error 20)".toList
  | isDirectory => "Is a directory (os error 21)".toList
  | nameTooLong => "File name too long (os error 36)".toList
  | notText => "stream did not contain valid UTF-8".toList

/-! ### Layouts -/

/-- Why the click handlers of the layouts cannot be told. -/
inductive LayoutFault where
  | noResources (dir : Text)
  | io (path why : Text)
  | markup (path why : Text)
deriving DecidableEq, Repr

/-- The wording of a fault of the layouts. -/
def LayoutFault.message : LayoutFault → Text
  | noResources dir => "resource directory ".toList ++ quotedPath dir ++ " doesn't exist".toList
  | io path why => "failed to read ".toList ++ quotedPath path ++ ": ".toList ++ why
  | markup path why => "error parsing XML file ".toList ++ quotedPath path ++ ": ".toList ++ why

/-! ### Configurations -/

/-- Why a configuration is rejected. -/
inductive ConfigFault where
  | malformed
  | badValue (key expected : Text)
deriving DecidableEq, Repr

/-- The wording of a fault of a configuration. -/
def ConfigFault.message : ConfigFault → Text
  | malformed => "TOML parse error".toList
  | badValue key expected =>
    "invalid value for key: ".toList ++ key ++ " (expected type: ".toList ++ expected ++
      ")".toList

/-! ### All errors -/

/-- Why an operation fails. -/
inductive Error where
  | missingBin (name : Text)
  | missingEnv (key : Text)
  | noBaseDirs
  | io (fault : IoFault)
  /-- A command ended with that code; `-1` stands for a signal. -/
  | command (status : Int) (stderr : Text)
  | badPath (path : Text)
  | generic (text : Text)
  /-- A directory cannot be walked through. -/
  | walk (path : Text) (fault : IoFault)
  | invalidConfig (path : Text) (why : ConfigFault)
  | missingFile (path : Text)
  | noCreationMethod (sig : Signature)
  | noTerminalReturn (m : MethodRef)
  | noThisLocal (m : MethodRef)
  | code (fault : Fault)
  | layout (fault : LayoutFault)
  | archive
  | pattern
  | manifest
deriving DecidableEq, Repr

/-- The wording of an error. -/
def Error.message : Error → Text
  | missingBin name =>
    "required binary ".toList ++ cited name ++ " not available to context".toList
  | missingEnv key => "missing required env var: ".toList ++ key
  | noBaseDirs => "failed to get base dirs".toList
  | io fault => fault.message
  | command status stderr =>
    "command failed with status ".toList ++ intText status ++ ": ".toList ++ stderr
  | badPath path => "bad path ".toList ++ quotedPath path
  | generic text => "generic error: ".toList ++ text
  | walk path fault =>
    "generic error: IO error for operation on ".toList ++ path ++ ": ".toList ++ fault.message
  | invalidConfig path why => "invalid config ".toList ++ path ++ ": ".toList ++ why.message
  | missingFile path => "file ".toList ++ path ++ " doesn't exist".toList
  | noCreationMethod sig =>
    "no ".toList ++ sig.text ++
      " method found among entry points or their callees, is the call graph built?".toList
  | noTerminalReturn m =>
    "method ".toList ++ m.text ++ " has no void return statement to anchor on".toList
  | noThisLocal m => "method ".toList ++ m.text ++ " has no ".toList ++ cited "this".toList ++
      " local".toList
  | code fault => fault.message
  | layout fault => fault.message
  | archive => "zip error: invalid Zip archive".toList
  | pattern => "invalid pattern: regex parse error".toList
  | manifest => "failed to parse manifest: malformed document".toList

end Weaver
