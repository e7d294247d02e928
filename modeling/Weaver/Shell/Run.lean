import Weaver.Package.Machine
import Weaver.Shell.Syntax
import Weaver.Shell.Tool

/-!
# Running Commands

Commands are run on a disk. A command is one of the tools, the shell with a script, or a
script on the disk that can be run.

## Main definitions

* `ShellState`, `ShellState.run`: runs a command of a script.
* `Disk.runCommand`: runs a program with arguments.
-/

namespace Weaver

/-- The state of a script that runs. -/
structure ShellState where
  disk : Disk
  /-- The name of the script and its arguments. -/
  args : List Text
  /-- The variables that have been set, the last one first. -/
  values : List (Text × Text)
  out : Utf8.Bytes
  err : Utf8.Bytes
  /-- How the last command has ended. -/
  status : ExitStatus
  /-- Whether the script has ended. -/
  ended : Bool

namespace ShellState

/-! ### Words -/

/-- The number of the process that runs the script. -/
def processNumber : Text :=
  "4711".toList

/-- The value of a parameter. -/
def value (s : ShellState) (name : Text) : Text :=
  if name = ['#'] then natText (s.args.length - 1)
  else if name = ['$'] then processNumber
  else if name = ['?'] then natText (s.status.code?.getD 1)
  else if name = ['@'] ∨ name = ['*'] then Text.join [' '] s.args.tail
  else if name.all Char.isDigit then s.args.getD (natOfDigits name) []
  else (s.values.lookup name).getD []

/-- Words that are being put together: those that are complete, and the one that has been
begun. -/
structure Fields where
  complete : List Text
  begun : Option Text

namespace Fields

/-- Adds text to the word that has been begun. -/
def add (f : Fields) (s : Text) : Fields :=
  { f with begun := some (f.begun.getD [] ++ s) }

/-- Ends the word that has been begun. -/
def finish (f : Fields) : Fields where
  complete := f.complete ++ f.begun.toList
  begun := none

/-- Adds text that is split at white space. -/
def addSplit (f : Fields) (s : Text) : Fields :=
  s.foldl (fun f c => if c == ' ' || c == '\t' || c == '\n' then f.finish else f.add [c]) f

/-- Adds texts of which each ends a word, except for the last. -/
def addEach (f : Fields) : List Text → Fields
  | [] => f
  | [s] => f.add s
  | s :: rest => (f.add s).finish.addEach rest

end Fields

/-- Adds a part of a word. -/
def addPart (s : ShellState) (f : Fields) : ShellPart → Fields
  | .plain text => f.add text
  | .parameter name quoted =>
    if !quoted then f.addSplit (s.value name)
    else if name = ['@'] then f.addEach s.args.tail
    else f.add (s.value name)

/-- The words that a word becomes. -/
def expand (s : ShellState) (w : ShellWord) : List Text :=
  (w.foldl s.addPart { complete := [], begun := none }).finish.complete

/-! ### Output -/

/-- Where output ends up. -/
inductive Sink where
  | out
  | err
  | file (path : Text) (append : Bool)

/-- Where the two streams of a command go. -/
structure Sinks where
  first : Sink
  second : Sink

/-- Follows a redirection. -/
def redirect (s : ShellState) (sinks : Sinks) (r : ShellRedirect) : Sinks :=
  let sink :=
    match r.target with
    | .stream 1 => sinks.first
    | .stream _ => sinks.second
    | .file w append => .file (Text.join [' '] (s.expand w)) append
  if r.stream = 1 then { sinks with first := sink } else { sinks with second := sink }

/-- The bytes in a file, if there is one. -/
def fileBytes (d : Disk) (path : Text) : Utf8.Bytes :=
  match d.read path with
  | .ok contents => contents.bytes
  | .error _ => []

/-- Writes to a file. -/
def writeFile (s : ShellState) (path : Text) (append : Bool) (bytes : Utf8.Bytes) : ShellState :=
  if path = "/dev/null".toList then s
  else
    let before := if append then fileBytes s.disk path else []
    match s.disk.write path (.ofBytes ⟨(before ++ bytes).toArray⟩) with
    | .ok disk => { s with disk }
    | .error fault =>
      let complaint := "sh: 1: cannot create ".toList ++ path ++ ": ".toList ++ Tool.reason fault
      { s with err := s.err ++ Utf8.encode (complaint ++ ['\n']), status := .ofCode 2 }

/-- Gives output to a sink. -/
def give (s : ShellState) (bytes : Utf8.Bytes) : Sink → ShellState
  | .out => { s with out := s.out ++ bytes }
  | .err => { s with err := s.err ++ bytes }
  | .file path append => s.writeFile path append bytes

/-! ### Commands -/

/-- The signals by name. -/
def signals : List (Text × Nat) :=
  [("HUP".toList, 1), ("INT".toList, 2), ("QUIT".toList, 3), ("ABRT".toList, 6),
    ("KILL".toList, 9), ("SEGV".toList, 11), ("PIPE".toList, 13), ("ALRM".toList, 14),
    ("TERM".toList, 15)]

/-- The number of a signal, which may be written with a dash. -/
def signalNumber (s : Text) : Nat :=
  let s := (Text.stripPrefix? ['-'] s).getD s
  if !s.isEmpty && s.all Char.isDigit then natOfDigits s
  else ((signals.find? fun (name, _) => name == s).map Prod.snd).getD 15

/-- Ends the script. -/
def finish (s : ShellState) (status : ExitStatus) : ShellState :=
  { s with status, ended := true }

/-- Sends a signal; only the process of the script itself can be reached. -/
def kill (s : ShellState) (args : List Text) : ShellState :=
  let signal :=
    match args with
    | flag :: name :: _ :: _ => if flag = "-s".toList then signalNumber name else signalNumber flag
    | flag :: _ :: _ => signalNumber flag
    | _ => 15
  if args.getLast? ≠ some processNumber then { s with status := .ofCode 1 }
  else if signal = 0 then { s with status := .ofCode 0 }
  else s.finish ⟨signal⟩

/-- Goes on in another directory. -/
def changeDir (s : ShellState) (path : Text) : ShellState :=
  match s.disk.locate path, s.disk.isDir path with
  | .ok workingDir, true => { s with disk := { s.disk with workingDir }, status := .ofCode 0 }
  | _, _ =>
    let complaint := "sh: 1: cd: can't cd to ".toList ++ path ++ ['\n']
    { s with err := s.err ++ Utf8.encode complaint, status := .ofCode 2 }

/-- Runs a simple command. -/
def runSimple (s : ShellState) (words : List Text) (sinks : Sinks) : ShellState :=
  match words with
  | [] => { s with status := .ofCode 0 }
  | name :: args =>
    if name = "exit".toList then
      s.finish (match args with
        | code :: _ => .ofCode (natOfDigits code % 0x100)
        | [] => s.status)
    else if name = "kill".toList then s.kill args
    else if name = "cd".toList then s.changeDir (args.headD ['/'])
    else
      match tool? name with
      | none =>
        let complaint := "sh: 1: ".toList ++ name ++ ": not found\n".toList
        { s.give (Utf8.encode complaint) sinks.second with status := .ofCode 127 }
      | some run =>
        let r := run s.disk args
        let s := { s with disk := r.disk, status := .ofCode r.code }
        (s.give r.out sinks.first).give r.err sinks.second

/-- Runs a command. -/
def run (s : ShellState) : ShellCommand → ShellState
  | .skip => s
  | .assign name word =>
    if s.ended then s
    else
      { s with values := (name, Text.join [' '] (s.expand word)) :: s.values
               status := .ofCode 0 }
  | .simple words redirects =>
    if s.ended then s
    else
      s.runSimple (words.flatMap s.expand)
        (redirects.foldl s.redirect { first := .out, second := .err })
  | .seq a b => (s.run a).run b
  | .both a b =>
    let s := s.run a
    if s.status.isSuccess then s.run b else s
  | .either a b =>
    let s := s.run a
    if s.status.isSuccess then s else s.run b
  | .cond test yes no =>
    let s := s.run test
    if s.status.isSuccess then s.run yes
    else ({ s with status := if s.ended then s.status else .ofCode 0 }).run no

end ShellState

/-! ### Programs -/

namespace Disk

/-- The output of a command that ends with a code. -/
def outputOf (code : Nat) (out err : Utf8.Bytes) : CommandOutput where
  status := .ofCode code
  stdout := out
  stderr := err

/-- The output of a shell that complains about how it is used. -/
def misused (complaint : Text) : CommandOutput :=
  outputOf 2 [] (Utf8.encode complaint)

/-- Runs a script. -/
def runScript (d : Disk) (script : Text) (args : List Text) : CommandOutput × Disk :=
  match ShellCommand.read? script with
  | none => (misused "sh: 1: Syntax error\n".toList, d)
  | some command =>
    let start : ShellState :=
      { disk := d, args, values := [], out := [], err := [], status := .ofCode 0, ended := false }
    let s := start.run command
    ({ status := s.status, stdout := s.out, stderr := s.err },
      { s.disk with workingDir := d.workingDir })

/-- Runs the shell. -/
def runShell (d : Disk) (name : Text) : List Text → CommandOutput × Disk
  | [] => (outputOf 0 [] [], d)
  | first :: args =>
    if first = "-c".toList then
      match args with
      | [] => (misused (name ++ ": 0: -c requires an argument\n".toList), d)
      | script :: args => d.runScript script (if args.isEmpty then [name] else args)
    else
      match d.readText first with
      | .ok script => d.runScript script (first :: args)
      | .error _ =>
        let complaint := ": 0: cannot open ".toList ++ first ++ ": No such file\n".toList
        (misused (name ++ complaint), d)

/-- The names of the shell. -/
def shellNames : List Text :=
  ["sh".toList, "bash".toList, "dash".toList]

/-- The directories that the tools and the shell are in. -/
def toolDirs : List Text :=
  ["/bin".toList, "/usr/bin".toList]

/-- Runs a tool or the shell by its bare name. -/
def runNamed? (d : Disk) (program name : Text) (args : List Text) :
    Option (CommandOutput × Disk) :=
  if List.elem name shellNames then some (d.runShell program args)
  else (tool? name).map fun run =>
    let r := run d args
    (outputOf r.code r.out r.err, r.disk)

/-- The bare name of a program that is in the directories of the tools. -/
def toolName? (program : Text) : Option Text :=
  if '/' ∈ program then
    match Path.cut? program with
    | some (dir, name) => if List.elem dir toolDirs then some name else none
    | none => none
  else some program

/-- Runs a file on the disk. -/
def runFile (d : Disk) (program : Text) (args : List Text) : Except IoFault CommandOutput × Disk :=
  match d.stat program with
  | .error fault => (.error fault, d)
  | .ok (.file (.data (.text script)) true) =>
    let (output, d) := d.runScript script (program :: args)
    (.ok output, d)
  | .ok _ => (.error .permissionDenied, d)

/-- Runs a program with arguments. -/
def runCommand (program : Text) (args : List Text) (d : Disk) :
    Except IoFault CommandOutput × Disk :=
  match (toolName? program).bind fun name => d.runNamed? program name args with
  | some (output, d) => (.ok output, d)
  | none => if '/' ∈ program then d.runFile program args else (.error .notFound, d)

/-- The machine that a disk is. -/
def machine : Machine Disk :=
  .ofDisk id (fun d _ => d) runCommand

end Disk

end Weaver
