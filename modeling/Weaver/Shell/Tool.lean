import Weaver.Package.Zip

/-!
# Tools

The commands that scripts consist of: printing, tests, and moving files about.

## Main definitions

* `ToolResult`: what a tool leaves.
* `tools`, `tool?`: the tools by name.
-/

namespace Weaver

/-- What a tool leaves: the disk, its output and its exit code. -/
structure ToolResult where
  disk : Disk
  out : Utf8.Bytes
  err : Utf8.Bytes
  code : Nat

namespace Tool

/-- A tool that has succeeded without a word. -/
def done (d : Disk) : ToolResult where
  disk := d
  out := []
  err := []
  code := 0

/-- A tool that has failed with a line of complaint. -/
def failed (d : Disk) (complaint : Text) : ToolResult where
  disk := d
  out := []
  err := Utf8.encode (complaint ++ ['\n'])
  code := 1

/-- A tool whose only result is whether something holds. -/
def verdict (d : Disk) (holds : Bool) : ToolResult :=
  { done d with code := if holds then 0 else 1 }

/-- A tool that has succeeded and printed something. -/
def printed (d : Disk) (out : Utf8.Bytes) : ToolResult :=
  { done d with out }

/-! ### Printing -/

/-- The characters that stand for a byte behind a backslash. -/
def escapes : List (Char × UInt8) :=
  [('\\', 0x5C), ('a', 0x7), ('b', 0x8), ('f', 0xC), ('n', 0xA), ('r', 0xD), ('t', 0x9), ('v', 0xB)]

/-- The number that at most so many octal digits in front write, and what follows; there
has to be a digit. -/
def takeOctal? (count : Nat) (s : Text) : Option (Nat × Text) :=
  let digits := (s.take count).takeWhile fun c => '0' ≤ c && c ≤ '7'
  if digits.isEmpty then none
  else
    some (digits.foldl (fun n c => n * 8 + (c.toNat - '0'.toNat)) 0, s.drop digits.length)

/-- The bytes that a backslash and the text behind it stand for, and what follows. A number
has at most `count` octal digits. -/
def cutEscape (count : Nat) (s : Text) : Utf8.Bytes × Text :=
  match takeOctal? count s, s with
  | some (n, rest), _ => ([.ofNat n], rest)
  | none, [] => ([0x5C], [])
  | none, c :: rest =>
    match escapes.lookup c with
    | some b => ([b], rest)
    | none => (0x5C :: Utf8.encodeChar c, rest)

/-- The bytes of a text with its escapes; in texts, a zero in front of an octal number does
not count as a digit. `fuel` bounds the length. -/
def unescapeFrom : Nat → Text → Utf8.Bytes
  | 0, _ => []
  | _, [] => []
  | fuel + 1, '\\' :: s =>
    let (bytes, rest) := cutEscape (if s.head? = some '0' then 4 else 3) s
    bytes ++ unescapeFrom fuel rest
  | fuel + 1, c :: s => Utf8.encodeChar c ++ unescapeFrom fuel s

/-- The bytes of a text with its escapes. -/
def unescape (s : Text) : Utf8.Bytes :=
  unescapeFrom s.length s

/-- What `echo` prints. -/
def echoed : List Text → Utf8.Bytes
  | first :: args =>
    if first = "-n".toList then unescape (Text.join [' '] args)
    else unescape (Text.join [' '] (first :: args)) ++ [0xA]
  | [] => [0xA]

/-- A piece of a format. -/
inductive FormatPiece where
  | bytes (bytes : Utf8.Bytes)
  /-- The place of an argument; its escapes may be resolved. -/
  | argument (escaped : Bool)

/-- The pieces of a format; `fuel` bounds its length. -/
def formatFrom : Nat → Text → List FormatPiece
  | 0, _ => []
  | _, [] => []
  | fuel + 1, '%' :: '%' :: s => .bytes [0x25] :: formatFrom fuel s
  | fuel + 1, '%' :: c :: s => .argument (c == 'b') :: formatFrom fuel s
  | fuel + 1, '\\' :: s =>
    let (bytes, rest) := cutEscape 3 s
    .bytes bytes :: formatFrom fuel rest
  | fuel + 1, c :: s => .bytes (Utf8.encodeChar c) :: formatFrom fuel s

/-- A format with its places filled from the arguments, and the arguments left. -/
def fill : List FormatPiece → List Text → Utf8.Bytes × List Text
  | .bytes bytes :: format, args =>
    let (s, rest) := fill format args
    (bytes ++ s, rest)
  | .argument escaped :: format, args =>
    let (s, rest) := fill format (args.drop 1)
    let arg := args.headD []
    ((if escaped then unescape arg else Utf8.encode arg) ++ s, rest)
  | [], args => ([], args)

/-- What `printf` prints: the format is used again while there are arguments; `fuel`
bounds how often. -/
def formatted (format : List FormatPiece) : Nat → List Text → Utf8.Bytes
  | 0, _ => []
  | fuel + 1, args =>
    let (s, rest) := fill format args
    if rest.isEmpty || rest.length = args.length then s else s ++ formatted format fuel rest

/-- Prints arguments in a format. -/
def printf (d : Disk) : List Text → ToolResult
  | [] => { failed d "printf: usage: printf format [arg ...]".toList with code := 2 }
  | format :: args => printed d (formatted (formatFrom format.length format) (args.length + 1) args)

/-! ### Tests -/

/-- The value of a test, unless it is malformed. -/
def test? (d : Disk) : List Text → Option Bool
  | [] => some false
  | [s] => some (!s.isEmpty)
  | ['!'] :: rest => (testShort? rest).map (!·)
  | args => testShort? args
where
  testShort? : List Text → Option Bool
    | [s] => some (!s.isEmpty)
    | [op, s] =>
      if op = "-n".toList then some (!s.isEmpty)
      else if op = "-z".toList then some s.isEmpty
      else if op = "-e".toList then some (d.holds s)
      else if op = "-f".toList then some (d.isFile s)
      else if op = "-d".toList then some (d.isDir s)
      else none
    | [a, op, b] =>
      if op = "=".toList then some (a == b)
      else if op = "!=".toList then some (a != b)
      else if op = "-eq".toList then some (natOfDigits a == natOfDigits b)
      else if op = "-ne".toList then some (natOfDigits a != natOfDigits b)
      else if op = "-lt".toList then some (natOfDigits a < natOfDigits b)
      else if op = "-le".toList then some (natOfDigits a ≤ natOfDigits b)
      else if op = "-gt".toList then some (natOfDigits b < natOfDigits a)
      else if op = "-ge".toList then some (natOfDigits b ≤ natOfDigits a)
      else none
    | _ => none

/-- Runs a test. -/
def test (d : Disk) (args : List Text) : ToolResult :=
  match test? d args with
  | some holds => verdict d holds
  | none => { failed d "sh: 1: test: unexpected operator".toList with code := 2 }

/-! ### Files -/

/-- A file name as complaints show it. -/
def named (p : Text) : Text :=
  "'".toList ++ p ++ "'".toList

/-- What complaints say of a fault. -/
def reason : IoFault → Text
  | .notDirectory => "Not a directory".toList
  | .isDirectory => "Is a directory".toList
  | .alreadyExists => "File exists".toList
  | .permissionDenied => "Permission denied".toList
  | .nameTooLong => "File name too long".toList
  | .notFound | .notText => "No such file or directory".toList

/-- Whether an argument is an option. -/
def isOption (arg : Text) : Bool :=
  1 < arg.length && Text.startsWith arg ['-']

/-- The arguments that are no options. -/
def operands (args : List Text) : List Text :=
  args.filter fun arg => !isOption arg

/-- Whether an option with a letter is among the arguments. -/
def hasOption (letter : Char) (args : List Text) : Bool :=
  args.any fun arg => isOption arg && letter ∈ arg

/-- Runs a change for one operand after the other; the first that fails ends it. -/
def forEach (d : Disk) (complaint : Text → Text) (change : Disk → Text → Except IoFault Disk) :
    List Text → ToolResult
  | [] => done d
  | p :: ps =>
    match change d p with
    | .ok d => forEach d complaint change ps
    | .error fault => failed d (complaint p ++ ": ".toList ++ reason fault)

/-- Makes directories. -/
def mkdir (d : Disk) (args : List Text) : ToolResult :=
  let complaint (p : Text) := "mkdir: cannot create directory ".toList ++ named p
  let make (d : Disk) (p : Text) : Except IoFault Disk :=
    if hasOption 'p' args then Disk.makeDirs (p.length + 1) d p else d.makeDir p
  forEach d complaint make (operands args)

/-- Removes files, and directories if that is asked for. -/
def rm (d : Disk) (args : List Text) : ToolResult :=
  let complaint (p : Text) := "rm: cannot remove ".toList ++ named p
  let remove (d : Disk) (p : Text) : Except IoFault Disk :=
    match d.stat p with
    | .error fault => if hasOption 'f' args then .ok d else .error fault
    | .ok .dir => if hasOption 'r' args then d.removeTree p else .error .isDirectory
    | .ok (.file ..) => d.remove p
  forEach d complaint remove (operands args)

/-- Makes files that are missing. -/
def touch (d : Disk) (args : List Text) : ToolResult :=
  let make (d : Disk) (p : Text) : Except IoFault Disk :=
    if d.holds p then .ok d else d.writeText p []
  forEach d (fun p => "touch: cannot touch ".toList ++ named p) make (operands args)

/-- Copies a file to a path, or into the directory that it leads to. -/
def copyTo (d : Disk) (source target : Text) : ToolResult :=
  match d.stat source with
  | .error fault =>
    failed d ("cp: cannot stat ".toList ++ named source ++ ": ".toList ++ reason fault)
  | .ok .dir => failed d ("cp: -r not specified; omitting directory ".toList ++ named source)
  | .ok (.file contents executable) =>
    let path := if d.isDir target then Path.join target ((Path.fileName? source).getD []) else target
    let isNew := !d.holds path
    match d.write path contents with
    | .error fault =>
      failed d ("cp: cannot create regular file ".toList ++ named path ++ ": ".toList ++
        reason fault)
    | .ok d =>
      match d.locate path with
      | .ok place => done (if isNew then d.put place (.file contents executable) else d)
      | .error _ => done d

/-- Copies a file. -/
def cp (d : Disk) (args : List Text) : ToolResult :=
  match operands args with
  | [source, target] => copyTo d source target
  | _ => failed d "cp: missing file operand".toList

/-- Moves a file. -/
def mv (d : Disk) (args : List Text) : ToolResult :=
  match operands args with
  | [source, target] =>
    let copied := copyTo d source target
    if copied.code ≠ 0 then copied
    else
      match copied.disk.remove source with
      | .ok d => done d
      | .error _ => copied
  | _ => failed d "mv: missing file operand".toList

/-- Prints files. -/
def cat (d : Disk) : List Text → ToolResult
  | [] => done d
  | p :: ps =>
    match d.read p with
    | .ok contents =>
      let rest := cat d ps
      { rest with out := contents.bytes ++ rest.out }
    | .error fault => failed d ("cat: ".toList ++ p ++ ": ".toList ++ reason fault)

end Tool

/-- The tools, by name. -/
def tools : List (Text × (Disk → List Text → ToolResult)) :=
  [("true".toList, fun d _ => Tool.done d), (":".toList, fun d _ => Tool.done d),
    ("false".toList, fun d _ => Tool.verdict d false), ("sleep".toList, fun d _ => Tool.done d),
    ("echo".toList, fun d args => Tool.printed d (Tool.echoed args)), ("printf".toList, Tool.printf),
    ("test".toList, Tool.test), ("[".toList, fun d args => Tool.test d args.dropLast),
    ("pwd".toList, fun d _ => Tool.printed d (Utf8.encode ('/' :: Text.join ['/'] d.workingDir ++ ['\n']))),
    ("mkdir".toList, Tool.mkdir), ("rm".toList, Tool.rm), ("touch".toList, Tool.touch),
    ("cp".toList, Tool.cp), ("mv".toList, Tool.mv), ("cat".toList, Tool.cat)]

/-- The tool of a name. -/
def tool? (name : Text) : Option (Disk → List Text → ToolResult) :=
  (tools.find? fun (n, _) => n == name).map Prod.snd

end Weaver
