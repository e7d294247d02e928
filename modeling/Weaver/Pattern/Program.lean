import Weaver.Pattern.Regex

/-!
# Pattern Programs

A regular expression is carried out as a program for many threads: characters and
assertions let a thread pass or stop it, a fork continues in two places with the first one
preferred.

## Main definitions

* `Instruction`, `Regex.code`: the instructions of an expression.
* `Regex.weight`: a bound on the size of the program, found before it is built.
-/

namespace Weaver

/-- An instruction; places are positions in the program. -/
inductive Instruction where
  | chars (set : CharSet)
  | look (l : Look)
  | fork (first second : Nat)
  | jump (target : Nat)
  /-- Notes the place in the text in the slot of that number. -/
  | note (slot : Nat)
  | accept

/-- A fork that prefers to go on if it is greedy and to leave otherwise. -/
def Instruction.loop (greedy : Bool) (inside outside : Nat) : Instruction :=
  if greedy then fork inside outside else fork outside inside

namespace Regex

/-- Whether an expression matches no empty text, as far as its form tells. -/
def takesCharacter : Regex → Bool
  | empty | look _ => false
  | chars set => !set.isEmpty
  | seq a b => a.takesCharacter || b.takesCharacter
  | alt a b => a.takesCharacter && b.takesCharacter
  | repetition least _ _ inner => 0 < least && inner.takesCharacter
  | capture _ inner => inner.takesCharacter

/-- The same code so many times, each copy for its own place. -/
def copies (code : Nat → List Instruction) : Nat → Nat → List Instruction
  | 0, _ => []
  | n + 1, start =>
    let first := code start
    first ++ copies code n (start + first.length)

/-- At most so many further times, each one optional behind the one before. -/
def options (code : Nat → List Instruction) (greedy : Bool) : Nat → Nat → List Instruction
  | 0, _ => []
  | n + 1, start =>
    let first := code (start + 1)
    let rest := options code greedy n (start + 1 + first.length)
    .loop greedy (start + 1) (start + 1 + first.length + rest.length) :: (first ++ rest)

/-- Once or more often. -/
def onceOrMore (code : Nat → List Instruction) (greedy : Bool) (start : Nat) :
    List Instruction :=
  let body := code start
  body ++ [.loop greedy start (start + body.length + 1)]

/-- Any number of times: not at all, or once or more often. Code that always takes a
character can come back to the fork in front of it; other code needs a fork of its own at
its end, or else a thread that has taken nothing would be lost there. -/
def anyNumber (code : Nat → List Instruction) (takes greedy : Bool) (start : Nat) :
    List Instruction :=
  let body :=
    if takes then code (start + 1) ++ [.jump start] else onceOrMore code greedy (start + 1)
  .loop greedy (start + 1) (start + 1 + body.length) :: body

/-- The code of a repetition; `takes` tells that what is repeated always takes a
character. -/
def repeated (code : Nat → List Instruction) (takes : Bool) (least : Nat) (most : Option Nat)
    (greedy : Bool) (start : Nat) : List Instruction :=
  match most, least with
  | some most, least =>
    let front := copies code least start
    front ++ options code greedy (most - least) (start + front.length)
  | none, 0 => anyNumber code takes greedy start
  | none, n + 1 =>
    let front := copies code n start
    front ++ onceOrMore code greedy (start + front.length)

/-- The instructions of an expression that begin at the place `start`; behind them the
thread goes on. -/
def code : Regex → Nat → List Instruction
  | empty, _ => []
  | chars set, _ => [.chars set]
  | look l, _ => [.look l]
  | seq a b, start =>
    let first := a.code start
    first ++ b.code (start + first.length)
  | alt a b, start =>
    let first := a.code (start + 1)
    let second := b.code (start + first.length + 2)
    .fork (start + 1) (start + first.length + 2) ::
      (first ++ .jump (start + first.length + 2 + second.length) :: second)
  | repetition least most greedy inner, start =>
    repeated (fun s => inner.code s) inner.takesCharacter least most greedy start
  | capture index inner, start =>
    .note (2 * index) :: (inner.code (start + 1) ++ [.note (2 * index + 1)])

/-- The program of an expression: the whole match is capture zero. -/
def program (r : Regex) : Array Instruction :=
  ((capture 0 r).code 0 ++ [Instruction.accept]).toArray

/-! ### Size -/

/-- The weight of a plain instruction. -/
def plainWeight : Nat :=
  32

/-- The weight of a set: ranges beyond ASCII take several steps over encoded characters. -/
def setWeight (set : CharSet) : Nat :=
  match set with
  | [(low, high)] =>
    if low = high then
      plainWeight * (if low < 0x80 then 1 else if low < 0x800 then 2 else if low < 0x10000 then 3
        else 4)
    else if high < 0x80 then plainWeight else 400
  | _ => if set.isAscii then plainWeight + 8 * set.length else 400 + 26 * set.length

/-- The weight of an expression. -/
def weight : Regex → Nat
  | empty => plainWeight
  | chars set => setWeight set
  | look _ => plainWeight
  | seq a b => a.weight + b.weight
  | alt a b => a.weight + b.weight + plainWeight
  | repetition least most _ inner =>
    match most with
    | some most => most * (inner.weight + plainWeight)
    | none => (least + 1) * (inner.weight + plainWeight)
  | capture _ inner => inner.weight + 2 * plainWeight

/-- The greatest weight of an expression that is carried out. -/
def maxWeight : Nat :=
  10 * 1024 * 1024

end Regex

end Weaver
