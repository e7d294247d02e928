import Weaver.Proofs.Jimple.Rereading
import Weaver.Proofs.Pass.Reversal

/-!
# What a Renaming Leaves Alone

In verbatim code a local is recognised by its name alone, and labels, parts of class names and
words such as `goto` are spelled like locals. So a renaming is hygienic up to whole words: a
label that a branch goes to, or a class that a cast or a `catch` names, stays what it was
unless it is the name of the local, or is written with it.

The names of locals that were read begin with no digit, so that no bracket of verbatim code
stands before them and every other word is found where it was.

## Main definitions

* `Text.CutsInto`: a text cut between its tokens.
* `Stmt.targets`, `Body.labels`: the labels that a statement goes to, and those of a body.
* `Body.Hygienic`: what a renaming leaves alone.

## Main results

* `Body.hygienic_retypeLocal`: **renaming is hygienic up to whole words**.
-/

namespace Weaver

/-! ### Stretches of code -/

/-- A text is written as `before`, `mid` and `after`, **cut between tokens**: no word, literal or
reference goes across a cut. -/
def Text.CutsInto (code before mid after : Text) : Prop :=
  tokens .outside code = tokens .outside before ++ tokens .outside mid ++ tokens .outside after

instance (code before mid after : Text) : Decidable (Text.CutsInto code before mid after) :=
  inferInstanceAs (Decidable (_ = _))

/-- Tokens without the word `old` stay. -/
theorem Token.map_rename_eq_self {old : Text} {ts : List Token}
    (h : old ∉ ts.filterMap word?) (new : Text) : ts.map (rename old new) = ts := by
  refine (List.map_congr_left fun t ht => ?_).trans (List.map_id _)
  cases t with
  | char c => rfl
  | word w =>
    have hw : w ≠ old := by
      rintro rfl
      exact h (List.mem_filterMap.2 ⟨_, ht, rfl⟩)
    exact congrArg word (if_neg hw)

/-- **A stretch without the word** stays where it is. -/
theorem Text.CutsInto.renameWord {old code before mid after : Text} (hold : old ≠ [])
    (h : CutsInto code before mid after) (hmid : old ∉ mid.identifiers) (new : Text) :
    Text.renameWord old new code =
      Text.renameWord old new before ++ mid ++ Text.renameWord old new after := by
  rw [renameWord_eq hold, renameWord_eq hold, renameWord_eq hold, h, List.map_append,
    List.map_append, Token.map_rename_eq_self hmid, Token.texts_append, Token.texts_append,
    texts_tokens]

/-! ### Labels -/

/-- The words that stand before a label. -/
def labelWords : List Text :=
  ["goto".toList, "from".toList, "to".toList, "with".toList]

/-- The words that follow one of the words before a label, with only white space between; `named`
tells whether one has been read. -/
def Token.labelsFrom : Bool → List Token → List Text
  | _, [] => []
  | named, .word w :: ts => (if named then [w] else []) ++ labelsFrom (List.elem w labelWords) ts
  | named, .char c :: ts => labelsFrom (named && isBlank c) ts

/-- The labels that a branch, a switch or a `catch` names. -/
def Stmt.targets : Stmt → List Text
  | verbatim code => Token.labelsFrom false (Text.tokens .outside code)
  | _ => []

/-- The label that a statement declares. -/
def Stmt.label? : Stmt → Option Text
  | label name => some name
  | _ => none

/-- The labels that are declared in a body. -/
def Body.labels (b : Body) : List Text :=
  b.statements.filterMap Stmt.label?

/-- Renaming words that stand before no label renames the labels. -/
theorem Token.labelsFrom_map_rename {old new : Text} (hold : old ∉ labelWords)
    (hnew : new ∉ labelWords) (named : Bool) (ts : List Token) :
    labelsFrom named (ts.map (rename old new)) =
      (labelsFrom named ts).map (renameName old new) := by
  induction ts generalizing named with
  | nil => rfl
  | cons t ts ih =>
    cases t with
    | char c => exact ih _
    | word w =>
      have hsame : List.elem (renameName old new w) labelWords = List.elem w labelWords := by
        by_cases hw : w = old
        · simp [renameName, hw, hold, hnew]
        · rw [renameName, if_neg hw]
      rw [List.map_cons, rename, labelsFrom, hsame, ih, labelsFrom, List.map_append]
      cases named <;> rfl

/-- The label that a statement declares stays. -/
theorem Stmt.label?_rename (old new : Text) (s : Stmt) : (s.rename old new).label? = s.label? := by
  cases s <;> rfl

/-- A local that begins with no digit is renamed among the labels as everywhere else. -/
theorem Stmt.targets_rename {old new : Text} (hold : IsWord old)
    (hdigit : ∀ c ∈ old.head?, c.isDigit = false) (hnew : IsWord new) (hold' : old ∉ labelWords)
    (hnew' : new ∉ labelWords) (s : Stmt) :
    (s.rename old new).targets = s.targets.map (renameName old new) := by
  cases s with
  | verbatim code =>
    rw [rename, targets, targets, Text.tokens_renameWord hold.1 hnew
      (Text.keepsBrackets_of_head hold hdigit new code), Token.labelsFrom_map_rename hold' hnew']
  | _ => rfl

/-! ### Renaming in bodies that were read -/

namespace Body

variable {b b' : Body} {x y : Text} {ty : Ty}

/-- Locals that were read are words that begin with no digit. -/
theorem isWord_of_read {method s : Text} (h : Body.read method s = .ok b) (hx : x ∈ b.names) :
    IsWord x ∧ ∀ c ∈ x.head?, c.isDigit = false := by
  obtain ⟨m, -, htaken⟩ := takenFrom_of_read h
  obtain ⟨r, hgives, rfl⟩ := htaken.exists_gives fun _ => counts_of_mem_significantLines
  obtain ⟨l, hl, rfl⟩ := List.mem_map.1 hx
  obtain ⟨hall, c, rest, hform, -, hdigit⟩ := isLocalName_spec (hgives.locals l hl)
  exact ⟨⟨hform ▸ List.cons_ne_nil _ _, hall⟩, by simp [hform, hdigit]⟩

/-- Labels are declared where they were. -/
theorem labels_of_retypeLocal {l : Local} (h : b.retypeLocal x y ty = .ok (l, b')) :
    b'.labels = b.labels := by
  rw [labels, statements_of_retypeLocal h, List.filterMap_map, labels]
  exact congrArg (List.filterMap · _) (funext (Stmt.label?_rename x y))

/-- Renaming a local renames it in every statement, in its place. -/
theorem getElem?_of_retypeLocal {l : Local} (h : b.retypeLocal x y ty = .ok (l, b')) {i : Nat}
    {s : Stmt} (hs : b.statements[i]? = some s) : b'.statements[i]? = some (s.rename x y) := by
  rw [statements_of_retypeLocal h, List.getElem?_map, hs, Option.map_some]

/-- **What a renaming leaves alone** in a body. -/
structure Hygienic (b : Body) (x y : Text) (ty : Ty) (b' : Body) : Prop where
  /-- Every statement keeps its place and its parts, up to operands and whole words. -/
  renamed : b.RenamedTo x y ty b'
  labels_eq : b'.labels = b.labels
  /-- A stretch of verbatim code that is not written with the word `x`, such as the label behind
  a `goto` or the class of a cast, stays between what is renamed around it. -/
  stays : ∀ {i k : Nat} {s : Stmt} {code before mid after : Text}, b.statements[i]? = some s →
    s.parts[k]? = some (.code code) → Text.CutsInto code before mid after → x ∉ mid.identifiers →
      ∃ t, b'.statements[i]? = some t ∧ t.parts[k]? =
        some (.code (Text.renameWord x y before ++ mid ++ Text.renameWord x y after))
  /-- Unless one of the names is a word before a label, statements name the same labels, up to
  the name that is replaced. -/
  targets_eq : IsWord y → x ∉ labelWords → y ∉ labelWords → ∀ {i : Nat} {s t : Stmt},
    b.statements[i]? = some s → b'.statements[i]? = some t →
      t.targets = s.targets.map (renameName x y)
  /-- So a label that is declared and has another name than the local is named as before, and it
  is declared as before. -/
  declared : IsWord y → x ∉ labelWords → y ∉ labelWords → ∀ {i : Nat} {s t : Stmt},
    b.statements[i]? = some s → b'.statements[i]? = some t →
      ∀ l ∈ s.targets, l ∈ b.labels → l ≠ x → l ∈ t.targets ∧ l ∈ b'.labels

/-- **Renaming is hygienic up to whole words**, for every body that was read and every new name
that is not declared in it. -/
theorem hygienic_retypeLocal {method s : Text} (hread : Body.read method s = .ok b)
    (hx : x ∈ b.names) (hy : y ∉ b.names) (ty : Ty) :
    ∃ b', b.retypeLocal x y ty = .ok (⟨y, ty⟩, b') ∧ b.Hygienic x y ty b' := by
  obtain ⟨hword, hdigit⟩ := isWord_of_read hread hx
  have hrun := retypeLocal_of_free hx hy ty
  generalize ({ b with locals := _, stmts := _ } : Body) = b' at hrun
  have htargets : IsWord y → x ∉ labelWords → y ∉ labelWords → ∀ {i : Nat} {s t : Stmt},
      b.statements[i]? = some s → b'.statements[i]? = some t →
        t.targets = s.targets.map (renameName x y) := by
    intro hy hx hy' i s t hs ht
    rw [getElem?_of_retypeLocal hrun hs] at ht
    obtain rfl := Option.some.inj ht
    exact s.targets_rename hword hdigit hy hx hy'
  refine ⟨b', hrun, renamedTo_of_retypeLocal hword.1 hrun, labels_of_retypeLocal hrun, ?_,
    htargets, ?_⟩
  · intro i k s code before mid after hs hk hcut hmid
    refine ⟨s.rename x y, getElem?_of_retypeLocal hrun hs, ?_⟩
    rw [Stmt.parts_rename, List.getElem?_map, hk, Option.map_some, Part.rename,
      hcut.renameWord hword.1 hmid]
  · intro hy hx hy' i s t hs ht l hl hdeclared hne
    refine ⟨?_, labels_of_retypeLocal hrun ▸ hdeclared⟩
    rw [htargets hy hx hy' hs ht]
    exact List.mem_map.2 ⟨l, hl, if_neg hne⟩

end Body

/-- Casts, tests, arrays and handlers name their class, and branches their label, in a stretch. -/
example :
    Text.CutsInto "(a.b.C) v".toList "(".toList "a.b.C".toList ") v".toList ∧
      Text.CutsInto "v instanceof a.b.C".toList "v instanceof ".toList "a.b.C".toList [] ∧
      Text.CutsInto "newarray (a.b.C)[v]".toList "newarray (".toList "a.b.C".toList
        ")[v]".toList ∧
      Text.CutsInto "catch a.b.C from l to m with n".toList "catch ".toList "a.b.C".toList
        " from l to m with n".toList ∧
      Text.CutsInto "if v == 0 goto l".toList "if v == 0 goto ".toList "l".toList [] := by
  decide +kernel

namespace SampleListing

theorem read_body : Body.read body.method.text body.text = .ok body.normalized :=
  wellFormed_body.read_text (MethodRef.read_text ⟨wellFormed_owner, wellFormed_greet⟩)

/-- Renaming a local of the example leaves all targets alone. -/
theorem hygienic_retypeLocal_body :
    Body.read body.method.text body.text = .ok body.normalized ∧
      "i0".toList ∈ body.normalized.names ∧ "n".toList ∉ body.normalized.names ∧
      ∃ b', body.normalized.retypeLocal "i0".toList "n".toList .long =
          .ok (⟨"n".toList, .long⟩, b') ∧
        body.normalized.Hygienic "i0".toList "n".toList .long b' ∧
        b'.statements.map Stmt.targets = body.statements.map Stmt.targets := by
  have hx : "i0".toList ∈ body.normalized.names := by decide +kernel
  have hy : "n".toList ∉ body.normalized.names := by decide +kernel
  obtain ⟨b', hrun, hhygienic⟩ := Body.hygienic_retypeLocal read_body hx hy .long
  refine ⟨read_body, hx, hy, b', hrun, hhygienic, ?_⟩
  rw [Body.statements_of_retypeLocal hrun]
  decide +kernel

/-- The body with one more local, which is called like its label. -/
def labelled : Body :=
  { body with locals := body.locals ++ [⟨"label1".toList, .int⟩] }

/-- The body whose local is called like a label is read back. -/
theorem read_labelled : Body.read labelled.method.text labelled.text = .ok labelled.normalized := by
  have hwell : labelled.WellFormed := {
    wellFormed_body with
    locals := List.forall_mem_append.2
      ⟨wellFormed_body.locals, List.forall_mem_singleton.2 ⟨rfl, trivial⟩⟩
    distinct := by decide }
  exact hwell.read_text (MethodRef.read_text ⟨wellFormed_owner, wellFormed_greet⟩)

/-- **A branch follows the local** that is called like its label, and the label stays behind. -/
theorem retypeLocal_moves_target :
    Body.read labelled.method.text labelled.text = .ok labelled.normalized ∧
      "label1".toList ∈ labelled.normalized.names ∧ IsWord "n".toList ∧
      "n".toList ∉ labelled.normalized.names ∧
      (∀ s ∈ labelled.normalized.statements, "n".toList ∉ s.identifiers) ∧
      (∀ s ∈ labelled.normalized.statements, ∀ l ∈ s.targets, l ∈ labelled.normalized.labels) ∧
      ∃ b', labelled.normalized.retypeLocal "label1".toList "n".toList .int =
          .ok (⟨"n".toList, .int⟩, b') ∧
        ∃ s ∈ b'.statements, ∃ l ∈ s.targets, l ∉ b'.labels := by
  have hx : "label1".toList ∈ labelled.normalized.names := by decide +kernel
  have hy : "n".toList ∉ labelled.normalized.names := by decide +kernel
  refine ⟨read_labelled, hx, ⟨by decide, by decide⟩, hy, by decide +kernel, by decide +kernel,
    _, Body.retypeLocal_of_free hx hy .int, ?_⟩
  decide +kernel

end SampleListing

end Weaver
