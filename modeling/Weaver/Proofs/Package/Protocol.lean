import Weaver.Package.Rehearsal
import Weaver.Proofs.Files.Directory
import Weaver.Proofs.Package.Rebuilding

/-!
# The Law of Rebuilding

An archive is rebuilt with a changed manifest: the decoder unpacks it, the manifest is read and
rewritten, the builder packs it, and the unpacked files are removed. Each of these steps may
fail, on a machine of which nothing is assumed. What holds of every run, whichever step it ends
with, is read off its journal (`Packager.Course`): in which order commands run, what stands in
front of the builder, what success and failure mean, and that cleaning up is done once, at the
end, or not at all.

Operations and outcomes are those of the journal. That the builder finds the changed manifest in its
place is said of machines that store texts; all that have their files on a disk do. Of the engine
for patterns nothing is assumed either: a pattern that it cannot compile ends the work, and what
replacing makes of the manifest is up to it.

## Main definitions

* `ManifestChange`: another manifest, or patterns and their replacements.
* `Packager.RebuildLaw`: **the law**.

## Main results

* `Packager.Course.commands_prefix`, `Packager.Course.builder`: the order of the work.
* `Packager.Course.success`, `Packager.Course.failure`: what its result means.
* `Packager.rebuildLaw_run`: **every run obeys the law**.
* `Machine.storesTexts_ofDisk`: disks store texts.
-/

namespace Weaver

/-! ### Changes of manifests -/

/-- A change of the manifest of an archive. -/
inductive ManifestChange where
  /-- Another manifest takes its place. -/
  | replacement (manifest : Text)
  /-- Patterns and their replacements are applied to it, in order. -/
  | adaptation (replacements : List (Text × Text))

namespace ManifestChange

/-- The run that rebuilds an archive with the change. -/
def run {σ : Type} (c : ManifestChange) (p : Packager) (m : Machine σ) (engine : PatternEngine)
    (archive : Text) : OnMachine σ Text :=
  match c with
  | replacement manifest => p.replaceManifest m archive manifest
  | adaptation replacements => p.adaptManifestWith engine m archive replacements

/-- The changed manifest. -/
def rewrite (engine : PatternEngine) : ManifestChange → Text → Except Error Text
  | replacement manifest, _ => .ok manifest
  | adaptation replacements, text => Packager.adapt engine replacements text

/-- Every pattern of the change can be compiled. -/
def Compiles (engine : PatternEngine) : ManifestChange → Prop
  | replacement _ => True
  | adaptation replacements => ∀ r ∈ replacements, (engine.compile? r.1).isSome

/-- Both kinds of runs are one rebuilding, with the change as what rewrites the manifest. -/
theorem run_eq_rebuild {σ : Type} (c : ManifestChange) (p : Packager) (m : Machine σ)
    (engine : PatternEngine) (archive : Text) :
    c.run p m engine archive = p.rebuild m archive (c.rewrite engine) := by
  cases c with
  | replacement manifest => rfl
  | adaptation replacements => rfl

/-- Replacing succeeds if and only if all patterns can be compiled, whatever the text is. -/
theorem replaceEach_isSome (engine : PatternEngine) (replacements : List (Text × Text))
    (text : Text) : (engine.replaceEach replacements text).isSome ↔
      ∀ r ∈ replacements, (engine.compile? r.1).isSome := by
  induction replacements generalizing text with
  | nil => simp [PatternEngine.replaceEach]
  | cons r rest ih =>
    obtain ⟨pattern, template⟩ := r
    rw [PatternEngine.replaceEach, List.forall_mem_cons]
    cases engine.compile? pattern with
    | none => simp
    | some replaceFirst => simp [ih]

/-- **Only a pattern that cannot be compiled** stands in the way of a change. -/
theorem rewrite_cases (c : ManifestChange) (engine : PatternEngine) (text : Text) :
    (c.Compiles engine ∧ ∃ new, c.rewrite engine text = .ok new) ∨
      (¬c.Compiles engine ∧ c.rewrite engine text = .error .pattern) := by
  cases c with
  | replacement manifest => exact .inl ⟨trivial, manifest, rfl⟩
  | adaptation replacements =>
    have hcompiles := replaceEach_isSome engine replacements text
    rw [rewrite, Packager.adapt, Compiles, ← hcompiles]
    cases engine.replaceEach replacements text with
    | none => exact .inr ⟨by simp, rfl⟩
    | some new => exact .inl ⟨rfl, new, rfl⟩

section

variable {engine : PatternEngine}

/-- A manifest is changed only if all patterns can be compiled. -/
theorem compiles_of_rewrite {c : ManifestChange} {text new : Text}
    (h : c.rewrite engine text = .ok new) : c.Compiles engine := by
  obtain ⟨hcompiles, -⟩ | ⟨-, hfails⟩ := c.rewrite_cases engine text
  · exact hcompiles
  · rw [h] at hfails
    cases hfails

/-- A change fails for nothing but a pattern. -/
theorem rewrite_eq_error {c : ManifestChange} {text : Text} {why : Error}
    (h : c.rewrite engine text = .error why) : ¬c.Compiles engine ∧ why = .pattern := by
  obtain ⟨-, new, hok⟩ | ⟨hcompiles, hpattern⟩ := c.rewrite_cases engine text
  · rw [hok] at h
    cases h
  · rw [hpattern] at h
    exact ⟨hcompiles, (Except.error.inj h).symm⟩

end

end ManifestChange

namespace Packager

variable {σ : Type}

/-! ### Commands -/

/-- The commands that are still to come at a stage: the decoder, and the builder if the packed
archive has a name. -/
def commandsFrom (p : Packager) (archive w : Text) : Stage → List (Text × List Text)
  | .entering | .decoding => (p.program, p.decodeArgs archive w) :: packing
  | .reading | .writing _ => packing
  | .building out => [(p.program, p.buildArgs w out)]
  | .done _ => []
where
  /-- The builder, if the packed archive has a name. -/
  packing : List (Text × List Text) :=
    (Path.modifiedArchive archive).toOption.toList.map fun out => (p.program, p.buildArgs w out)

/-- At first, both commands are still to come. -/
theorem commandsFrom_firstStage (p : Packager) (archive w : Text) :
    p.commandsFrom archive w (firstStage w) = (p.program, p.decodeArgs archive w) ::
      (Path.modifiedArchive archive).toOption.toList.map fun out =>
        (p.program, p.buildArgs w out) := by
  rw [firstStage]
  split <;> rfl

section

variable {p : Packager} {archive : Text} {rewrite : Text → Except Error Text} {w : Text}
  {stage : Stage} {entries : List (Entry σ)} {r : Except Error Text}

/-- **The commands of the work** are the ones to come, up to some point. -/
theorem Course.commands_prefix (h : p.Course archive rewrite w stage entries r) :
    entries.filterMap (fun e => e.operation.command?) <+: p.commandsFrom archive w stage := by
  induction h with
  | done => exact List.nil_prefix
  | @stop stage e why h =>
    generalize hop : e.operation = op at h
    rw [List.filterMap_cons, hop]
    cases h with
    | notEntered | notRead | notRewritten | notWritten | notNamed => exact List.nil_prefix
    | notDecoded | notBuilt => exact List.prefix_append [_] _
  | @step stage next e rest r h hrest ih =>
    generalize hop : e.operation = op at h
    rw [List.filterMap_cons, hop]
    cases h with
    | entered | read => exact ih
    | decoded | built => exact (List.prefix_cons_inj _).2 ih
    | written hout =>
      rw [commandsFrom, commandsFrom.packing, hout]
      exact ih

/-- The work removes nothing. -/
theorem Course.removal?_eq_none (h : p.Course archive rewrite w stage entries r) {e : Entry σ}
    (he : e ∈ entries) : e.operation.removal? = none := by
  induction h with
  | done => cases he
  | stop h =>
    obtain rfl := List.mem_singleton.1 he
    generalize e.operation = op at h
    cases h <;> rfl
  | step h hrest ih =>
    obtain rfl | he := List.mem_cons.1 he
    · generalize e.operation = op at h
      cases h <;> rfl
    · exact ih he

/-- The end of a command that did not succeed is the end of the work. -/
theorem Course.exit (h : p.Course archive rewrite w stage entries r) {e : Entry σ}
    (he : e ∈ entries) {program : Text} {args : List Text} {output : CommandOutput}
    (hrun : e.operation = .run program args (.ok output))
    (hstatus : output.status.isSuccess = false) :
    r = .error (.command output.reportedCode (Text.trim (Utf8.decodeLossy output.stderr))) := by
  have hexit : ∀ {why : Error}, Packager.exit (.ok output) = .error why →
      why = .command output.reportedCode (Text.trim (Utf8.decodeLossy output.stderr)) := by
    intro why h
    obtain ⟨fault, hfault, -⟩ | ⟨output', houtput, -, rfl⟩ := exit_eq_error h
    · cases hfault
    · obtain rfl := Except.ok.inj houtput
      rfl
  induction h with
  | done => cases he
  | @stop stage e' why h =>
    obtain rfl := List.mem_singleton.1 he
    rw [hrun] at h
    cases h with
    | notDecoded h | notBuilt h => rw [hexit h]
  | @step stage next e' rest r h hrest ih =>
    obtain rfl | he := List.mem_cons.1 he
    · rw [hrun] at h
      cases h with
      | decoded h | built h =>
        rw [hstatus] at h
        cases h
    · exact ih he

/-- The name of the packed archive, as far as a stage knows it. -/
def Names (archive out : Text) : Stage → Prop
  | .building out' | .done out' => out' = out
  | _ => Path.modifiedArchive archive = .ok out

/-- **Work that is done** has run all commands, and no operation has failed. -/
theorem Course.success (h : p.Course archive rewrite w stage entries r) {out : Text}
    (hr : r = .ok out) : Names archive out stage ∧
      entries.filterMap (fun e => e.operation.command?) = p.commandsFrom archive w stage ∧
        ∀ e ∈ entries, e.operation.failed = false := by
  induction h with
  | done => exact ⟨Except.ok.inj hr, rfl, by simp⟩
  | stop h => cases hr
  | @step stage next e rest r h hrest ih =>
    obtain ⟨hnames, hcommands, hpassed⟩ := ih hr
    rw [List.filterMap_cons, List.forall_mem_cons]
    generalize e.operation = op at h
    cases h with
    | entered | read => exact ⟨hnames, hcommands, rfl, hpassed⟩
    | decoded h | built h =>
      refine ⟨hnames, congrArg _ hcommands, ?_, hpassed⟩
      rw [Operation.failed, h]
      rfl
    | written hout =>
      obtain rfl : _ = out := hnames
      refine ⟨hout, ?_, rfl, hpassed⟩
      rw [commandsFrom, commandsFrom.packing, hout]
      exact hcommands

/-- **Why work fails.** -/
theorem Course.failure (h : p.Course archive rewrite w stage entries r) {why : Error}
    (hr : r = .error why) : (∃ e ∈ entries, e.operation.failed = true) ∨
      (∃ text, rewrite text = .error why) ∨ Path.modifiedArchive archive = .error why := by
  induction h with
  | done => cases hr
  | @stop stage e why' h =>
    obtain rfl := Except.error.inj hr
    generalize hop : e.operation = op at h
    cases h with
    | notEntered | notRead | notWritten => exact .inl ⟨e, List.mem_singleton_self e, hop ▸ rfl⟩
    | notDecoded h | notBuilt h =>
      refine .inl ⟨e, List.mem_singleton_self e, ?_⟩
      obtain ⟨fault, rfl, -⟩ | ⟨output, rfl, hstatus, -⟩ := exit_eq_error h
      · rw [hop]
        rfl
      · rw [hop, Operation.failed, hstatus]
        rfl
    | notRewritten h => exact .inr (.inl ⟨_, h⟩)
    | notNamed h => exact .inr (.inr h)
  | step h hrest ih =>
    refine (ih hr).imp_left ?_
    rintro ⟨e, he, hfailed⟩
    exact ⟨e, List.mem_cons_of_mem _ he, hfailed⟩

/-! ### In front of the builder -/

/-- The decoder and the builder are asked for in different ways. -/
theorem decodeArgs_ne_buildArgs (p : Packager) (archive w out : Text) :
    p.decodeArgs archive w ≠ p.buildArgs w out := by
  intro h
  have hlength := congrArg List.length h
  simp [decodeArgs, buildArgs] at hlength

/-- Whether an operation runs the builder. -/
def IsBuilder (p : Packager) (w out : Text) (op : Operation) : Prop :=
  op.command? = some (p.program, p.buildArgs w out)

/-- At the last stage the builder is all that is run. -/
theorem Course.builder_of_building {out out' : Text} {e : Entry σ}
    (h : p.Course archive rewrite w (.building out') entries r) (he : e ∈ entries)
    (hbuilder : p.IsBuilder w out e.operation) : entries = [e] ∧ out' = out := by
  have hargs : ∀ {outcome}, e.operation = .run p.program (p.buildArgs w out') outcome →
      out' = out := by
    intro outcome hop
    rw [IsBuilder, hop, Operation.command?] at hbuilder
    simpa [buildArgs] using hbuilder
  cases h with
  | @stop _ e' why h =>
    obtain rfl := List.mem_singleton.1 he
    refine ⟨rfl, ?_⟩
    generalize hop : e.operation = op at h
    cases h
    exact hargs hop
  | @step _ next e' rest r h hrest =>
    generalize hop : e'.operation = op at h
    cases h with
    | built h =>
      cases hrest with
      | done =>
        obtain rfl := List.mem_singleton.1 he
        exact ⟨rfl, hargs hop⟩
      | stop h => cases h
      | step h => cases h

/-- Right before the builder the changed manifest is written. -/
theorem Course.builder_of_writing {out new : Text} {e : Entry σ}
    (h : p.Course archive rewrite w (.writing new) entries r) (he : e ∈ entries)
    (hbuilder : p.IsBuilder w out e.operation) : Path.modifiedArchive archive = .ok out ∧
      ∃ written, entries = [written, e] ∧
        written.operation = .writeText (Path.join w manifestName) new (.ok ()) := by
  cases h with
  | @stop _ e' why h =>
    obtain rfl := List.mem_singleton.1 he
    generalize e.operation = op at h hbuilder
    cases h <;> cases hbuilder
  | @step _ next e' rest r h hrest =>
    generalize hop : e'.operation = op at h
    cases h with
    | written hout =>
      obtain rfl | he := List.mem_cons.1 he
      · rw [IsBuilder, hop] at hbuilder
        cases hbuilder
      · obtain ⟨rfl, rfl⟩ := hrest.builder_of_building he hbuilder
        exact ⟨hout, e', rfl, hop⟩

/-- Before that, the manifest is read and rewritten. -/
theorem Course.builder_of_reading {out : Text} {e : Entry σ}
    (h : p.Course archive rewrite w .reading entries r) (he : e ∈ entries)
    (hbuilder : p.IsBuilder w out e.operation) : Path.modifiedArchive archive = .ok out ∧
      ∃ read written text new, entries = [read, written, e] ∧
        read.operation = .readText (Path.join w manifestName) (.ok text) ∧ rewrite text = .ok new ∧
          written.operation = .writeText (Path.join w manifestName) new (.ok ()) := by
  cases h with
  | @stop _ e' why h =>
    obtain rfl := List.mem_singleton.1 he
    generalize e.operation = op at h hbuilder
    cases h <;> cases hbuilder
  | @step _ next e' rest r h hrest =>
    generalize hop : e'.operation = op at h
    cases h with
    | read hnew =>
      obtain rfl | he := List.mem_cons.1 he
      · rw [IsBuilder, hop] at hbuilder
        cases hbuilder
      · obtain ⟨hout, written, rfl, hwritten⟩ := hrest.builder_of_writing he hbuilder
        exact ⟨hout, e', written, _, _, rfl, hop, hnew, hwritten⟩

/-- Before that, the decoder succeeds. -/
theorem Course.builder_of_decoding {out : Text} {e : Entry σ}
    (h : p.Course archive rewrite w .decoding entries r) (he : e ∈ entries)
    (hbuilder : p.IsBuilder w out e.operation) : Path.modifiedArchive archive = .ok out ∧
      ∃ decoded read written output text new, entries = [decoded, read, written, e] ∧
        decoded.operation = .run p.program (p.decodeArgs archive w) (.ok output) ∧
        output.status.isSuccess = true ∧
        read.operation = .readText (Path.join w manifestName) (.ok text) ∧ rewrite text = .ok new ∧
          written.operation = .writeText (Path.join w manifestName) new (.ok ()) := by
  have hdecoder : ∀ {e' : Entry σ} {outcome},
      e'.operation = .run p.program (p.decodeArgs archive w) outcome →
        ¬p.IsBuilder w out e'.operation := by
    intro e' outcome hop hbuilder
    rw [IsBuilder, hop, Operation.command?, Option.some.injEq, Prod.mk.injEq] at hbuilder
    exact p.decodeArgs_ne_buildArgs archive w out hbuilder.2
  cases h with
  | @stop _ e' why h =>
    obtain rfl := List.mem_singleton.1 he
    generalize hop : e.operation = op at h
    cases h
    exact absurd hbuilder (hdecoder hop)
  | @step _ next e' rest r h hrest =>
    generalize hop : e'.operation = op at h
    cases h with
    | decoded hstatus =>
      obtain rfl | he := List.mem_cons.1 he
      · exact absurd hbuilder (hdecoder hop)
      · obtain ⟨hout, read, written, text, new, rfl, hread, hnew, hwritten⟩ :=
          hrest.builder_of_reading he hbuilder
        exact ⟨hout, e', read, written, _, text, new, rfl, hop, hstatus, hread, hnew, hwritten⟩

/-- In front of the builder there are the decoder, which has succeeded, the manifest, which has
been read, and the changed manifest, which has been written. -/
theorem Course.builder (h : p.Course archive rewrite w (firstStage w) entries r) {out : Text}
    {e : Entry σ} (he : e ∈ entries) (hbuilder : p.IsBuilder w out e.operation) :
    Path.modifiedArchive archive = .ok out ∧
      ∃ decoded read written output text new, [decoded, read, written, e] <:+: entries ∧
        decoded.operation = .run p.program (p.decodeArgs archive w) (.ok output) ∧
        output.status.isSuccess = true ∧
        read.operation = .readText (Path.join w manifestName) (.ok text) ∧ rewrite text = .ok new ∧
          written.operation = .writeText (Path.join w manifestName) new (.ok ()) := by
  rw [firstStage] at h
  split at h
  · cases h with
    | @stop _ e' why h =>
      obtain rfl := List.mem_singleton.1 he
      generalize e.operation = op at h hbuilder
      cases h
      cases hbuilder
    | @step _ next e' rest r h hrest =>
      generalize hop : e'.operation = op at h
      cases h with
      | entered =>
        obtain rfl | he := List.mem_cons.1 he
        · rw [IsBuilder, hop] at hbuilder
          cases hbuilder
        · obtain ⟨hout, decoded, read, written, output, text, new, rfl, hfacts⟩ :=
            hrest.builder_of_decoding he hbuilder
          exact ⟨hout, decoded, read, written, output, text, new,
            (List.suffix_cons e' _).isInfix, hfacts⟩
  · obtain ⟨hout, decoded, read, written, output, text, new, rfl, hfacts⟩ :=
      h.builder_of_decoding he hbuilder
    exact ⟨hout, decoded, read, written, output, text, new, List.infix_rfl, hfacts⟩

end

/-! ### The law -/

/-- The directory that has been set up according to a journal. -/
def workdir? (p : Packager) (entries : List (Entry σ)) : Option Workdir :=
  match p.workdir with
  | some dir => some { path := dir, removed := dir }
  | none => entries.findSome? fun e =>
    match e.operation with
    | .newTempDir (.ok dir) => some { path := Path.join dir "decoded".toList, removed := dir }
    | _ => none

/-- **The law of rebuilding**: the result `r` and the journal `j` of a run that rebuilds an archive
with a change of its manifest, from the state `s` on. -/
structure RebuildLaw (p : Packager) (m : Machine σ) (engine : PatternEngine) (archive : Text)
    (c : ManifestChange) (s : σ) (r : Except Error Text) (j : Journaled σ) : Prop where
  /-- The journal is that of the run on the machine itself. -/
  run_eq : c.run p m engine archive s = (r, j.state)
  trace : m.Trace s j.entries j.state
  /-- No command without a directory to unpack into; in one, the decoder at most once and first,
  and behind it the builder at most once, if the packed archive has a name. -/
  commands : j.entries.filterMap (fun e => e.operation.command?) <+:
    (p.workdir? j.entries).elim [] fun w =>
      (p.program, p.decodeArgs archive w.path) ::
        (Path.modifiedArchive archive).toOption.toList.map fun out =>
          (p.program, p.buildArgs w.path out)
  /-- Right before the builder the decoder has succeeded, the manifest has been read, all patterns
  have been compiled and the changed manifest has been written; so the builder finds it in its
  place if the machine stores texts at all. -/
  builder : ∀ w ∈ p.workdir? j.entries, ∀ out, ∀ e ∈ j.entries,
    p.IsBuilder w.path out e.operation →
      Path.modifiedArchive archive = .ok out ∧ c.Compiles engine ∧
      ∃ decoded read written output text new, [decoded, read, written, e] <:+: j.entries ∧
        decoded.operation = .run p.program (p.decodeArgs archive w.path) (.ok output) ∧
        output.status.isSuccess = true ∧
        read.operation = .readText (Path.join w.path manifestName) (.ok text) ∧
        c.rewrite engine text = .ok new ∧
        written.operation = .writeText (Path.join w.path manifestName) new (.ok ()) ∧
        (m.StoresTexts → (m.readText (Path.join w.path manifestName) e.before).1 = .ok new)
  /-- Success means that both commands have succeeded, and gives the name of the packed archive. -/
  success : ∀ out, r = .ok out → Path.modifiedArchive archive = .ok out ∧
    ∃ w ∈ p.workdir? j.entries, j.entries.filterMap (fun e => e.operation.command?) =
        [(p.program, p.decodeArgs archive w.path), (p.program, p.buildArgs w.path out)] ∧
      ∀ e ∈ j.entries, ∀ program args outcome, e.operation = .run program args outcome →
        ∃ output, outcome = .ok output ∧ output.status.wait = 0
  /-- A command that does not succeed is reported. -/
  exit : ∀ e ∈ j.entries, ∀ program args output, e.operation = .run program args (.ok output) →
    output.status.isSuccess = false →
      r = .error (.command output.reportedCode (Text.trim (Utf8.decodeLossy output.stderr)))
  /-- Nothing but a failed operation, a pattern or the name of the archive makes the run fail. -/
  failure : ∀ why, r = .error why →
    (∃ e ∈ j.entries, e.operation.failed = true ∧ e.operation.removal? = none) ∨
    (¬c.Compiles engine ∧ why = .pattern) ∨ Path.modifiedArchive archive = .error why
  /-- Once the directory is set up, it is removed at the very end if that is wanted; nothing else
  is ever removed. -/
  removal : ∃ work last, j.entries = work ++ last ∧ (∀ e ∈ work, e.operation.removal? = none) ∧
    last.map (fun e => e.operation.removal?) =
      if p.cleanup then (p.workdir? j.entries).toList.map fun w => some w.removed else []

/-- The directory is known as soon as it has been set up. -/
theorem SetsUp.workdir? {p : Packager} {before : List (Entry σ)} {w : Workdir}
    (h : p.SetsUp before w) (rest : List (Entry σ)) : p.workdir? (before ++ rest) = some w := by
  cases h with
  | configured hdir => rw [Packager.workdir?, hdir]
  | temporary hdir hop => simp [Packager.workdir?, hdir, hop]

section

variable {p : Packager} {before work after : List (Entry σ)} {w : Workdir} {e : Entry σ}

/-- Neither a command nor a removal sets a directory up. -/
theorem SetsUp.eq_none (h : p.SetsUp before w) (he : e ∈ before) :
    e.operation.command? = none ∧ e.operation.removal? = none := by
  cases h with
  | configured => cases he
  | temporary hdir hop =>
    rw [List.mem_singleton.1 he, hop]
    exact ⟨rfl, rfl⟩

/-- No command is run while the unpacked files are removed. -/
theorem CleansUp.command?_eq_none (h : p.CleansUp w after) (he : e ∈ after) :
    e.operation.command? = none := by
  rw [CleansUp] at h
  split at h
  · obtain ⟨e', outcome, rfl, hop⟩ := h
    rw [List.mem_singleton.1 he, hop]
    rfl
  · subst h
    cases he

/-- The directory is removed once, or not at all. -/
theorem CleansUp.removals (h : p.CleansUp w after) :
    after.map (fun e => e.operation.removal?) = if p.cleanup then [some w.removed] else [] := by
  rw [CleansUp] at h
  by_cases hcleanup : p.cleanup
  · rw [if_pos hcleanup] at h ⊢
    obtain ⟨e, outcome, rfl, hop⟩ := h
    rw [List.map_singleton, hop, Operation.removal?]
  · rw [if_neg hcleanup] at h ⊢
    rw [h, List.map_nil]

/-- **A command belongs to the work**, not to what is around it. -/
theorem mem_work_of_command (hset : p.SetsUp before w) (hclean : p.CleansUp w after)
    (he : e ∈ before ++ (work ++ after)) (hcommand : e.operation.command?.isSome) : e ∈ work := by
  rw [List.mem_append, List.mem_append] at he
  obtain he | he | he := he
  · rw [(hset.eq_none he).1] at hcommand
    cases hcommand
  · exact he
  · rw [hclean.command?_eq_none he] at hcommand
    cases hcommand

/-- The commands of a run are those of the work. -/
theorem commands_eq_of_ended (hset : p.SetsUp before w) (hclean : p.CleansUp w after) :
    (before ++ (work ++ after)).filterMap (fun e => e.operation.command?) =
      work.filterMap fun e => e.operation.command? := by
  have hbefore := List.filterMap_eq_nil_iff.2 fun _ he => (hset.eq_none he).1
  have hafter := List.filterMap_eq_nil_iff.2 fun _ he => hclean.command?_eq_none he
  rw [List.filterMap_append, List.filterMap_append, hbefore, hafter, List.append_nil,
    List.nil_append]

end

section

variable {p : Packager} {m : Machine σ} {engine : PatternEngine} {archive : Text}
  {c : ManifestChange} {s : σ} {r : Except Error Text} {j : Journaled σ}

/-- Without a directory nothing is done. -/
theorem RebuildLaw.of_notSetUp (hrun : c.run p m engine archive s = (r, j.state))
    (htrace : m.Trace s j.entries j.state) (hdir : p.workdir = none) {e : Entry σ} {fault : IoFault}
    (hentries : j.entries = [e]) (hop : e.operation = .newTempDir (.error fault))
    (hr : r = .error (.io fault)) : p.RebuildLaw m engine archive c s r j := by
  have hworkdir : p.workdir? j.entries = none := by
    rw [hentries, workdir?, hdir]
    simp [hop]
  refine ⟨hrun, htrace, ?_, ?_, ?_, ?_, ?_, ?_⟩
  · rw [hworkdir, hentries, List.filterMap_cons, hop]
    exact List.nil_prefix
  · intro w hw
    rw [hworkdir] at hw
    cases hw
  · intro out hout
    rw [hr] at hout
    cases hout
  · intro e' he' program args output hrun
    rw [hentries, List.mem_singleton] at he'
    rw [he', hop] at hrun
    cases hrun
  · intro why hwhy
    refine .inl ⟨e, ?_, ?_, ?_⟩
    · rw [hentries]
      exact List.mem_singleton_self e
    · rw [hop]
      rfl
    · rw [hop]
      rfl
  · refine ⟨[e], [], by rw [hentries, List.append_nil], ?_, ?_⟩
    · intro e' he'
      rw [List.mem_singleton.1 he', hop]
      rfl
    · rw [hworkdir]
      simp

/-- In a directory the work takes its course. -/
theorem RebuildLaw.of_ended (hrun : c.run p m engine archive s = (r, j.state))
    (htrace : m.Trace s j.entries j.state) {before work after : List (Entry σ)} {w : Workdir}
    (hentries : j.entries = before ++ (work ++ after)) (hset : p.SetsUp before w)
    (hwork : p.Course archive (c.rewrite engine) w.path (firstStage w.path) work r)
    (hclean : p.CleansUp w after) : p.RebuildLaw m engine archive c s r j := by
  have hworkdir : p.workdir? j.entries = some w := hentries ▸ hset.workdir? _
  have hcommands : j.entries.filterMap (fun e => e.operation.command?) =
      work.filterMap fun e => e.operation.command? := by
    rw [hentries]
    exact commands_eq_of_ended hset hclean
  have hmem : ∀ e ∈ j.entries, e.operation.command?.isSome → e ∈ work :=
    fun e he => mem_work_of_command hset hclean (hentries ▸ he)
  have hinfix : work <:+: j.entries := ⟨before, after, by rw [hentries, List.append_assoc]⟩
  refine ⟨hrun, htrace, ?_, ?_, ?_, ?_, ?_, ?_⟩
  · -- the commands
    rw [hworkdir, hcommands, Option.elim_some, ← commandsFrom_firstStage]
    exact hwork.commands_prefix
  · -- what the builder finds
    intro w' hw' out e he hbuilder
    rw [hworkdir, Option.mem_some_iff] at hw'
    subst hw'
    obtain ⟨hout, decoded, read, written, output, text, new, hin, hdecoded, hstatus, hread, hnew,
      hwritten⟩ := hwork.builder (hmem e he (Option.isSome_of_eq_some hbuilder)) hbuilder
    have hin := hin.trans hinfix
    refine ⟨hout, ManifestChange.compiles_of_rewrite hnew, decoded, read, written, output, text,
      new, hin, hdecoded, hstatus, hread, hnew, hwritten, fun hstores => ?_⟩
    obtain ⟨hdoes, hbefore⟩ := htrace.before_eq_of_infix
      ((List.suffix_append [decoded, read] [written, e]).isInfix.trans hin)
    rw [Machine.Does, hwritten] at hdoes
    rw [hbefore]
    exact hstores _ _ _ _ hdoes
  · -- success
    intro out hr
    obtain ⟨hnames, hall, hpassed⟩ := hwork.success hr
    have hout : Path.modifiedArchive archive = .ok out := by
      rw [firstStage] at hnames
      split at hnames <;> exact hnames
    refine ⟨hout, w, hworkdir, ?_, ?_⟩
    · rw [hcommands, hall, commandsFrom_firstStage, hout]
      rfl
    · intro e he program args outcome hop
      have hfailed := hpassed e (hmem e he (by rw [hop]; rfl))
      rw [hop] at hfailed
      cases outcome with
      | error fault => cases hfailed
      | ok output =>
        exact ⟨output, rfl, by simpa [Operation.failed, ExitStatus.isSuccess] using hfailed⟩
  · -- an exit code
    intro e he program args output hop hstatus
    exact hwork.exit (hmem e he (by rw [hop]; rfl)) hop hstatus
  · -- failure
    intro why hr
    obtain ⟨e, he, hfailed⟩ | ⟨text, hnew⟩ | hout := hwork.failure hr
    · exact .inl ⟨e, hinfix.subset he, hfailed, hwork.removal?_eq_none he⟩
    · exact .inr (.inl (ManifestChange.rewrite_eq_error hnew))
    · exact .inr (.inr hout)
  · -- cleaning up
    refine ⟨before ++ work, after, by rw [hentries, List.append_assoc], ?_, ?_⟩
    · intro e he
      obtain he | he := List.mem_append.1 he
      · exact (hset.eq_none he).2
      · exact hwork.removal?_eq_none he
    · rw [hclean.removals, hworkdir]
      rfl

end

/-- **Every run obeys the law**: on every machine, however its operations end, and with every
engine for patterns. -/
theorem rebuildLaw_run (p : Packager) (m : Machine σ) (engine : PatternEngine) (archive : Text)
    (c : ManifestChange) (s : σ) :
    p.RebuildLaw m engine archive c s (c.run p m.journaled engine archive ⟨s, []⟩).1
      (c.run p m.journaled engine archive ⟨s, []⟩).2 := by
  obtain ⟨entries, hrun, htrace, hrebuilds⟩ := keeps_rebuild p m archive (c.rewrite engine) s []
  rw [c.run_eq_rebuild, hrun]
  generalize hr : (p.rebuild m archive (c.rewrite engine) s).1 = r at hrebuilds
  have hsame : c.run p m engine archive s = (r, (p.rebuild m archive (c.rewrite engine) s).2) := by
    rw [c.run_eq_rebuild, ← hr]
  cases hrebuilds with
  | notSetUp hdir hop => exact .of_notSetUp hsame htrace hdir rfl hop rfl
  | ended hset hwork hclean => exact .of_ended hsame htrace (List.nil_append _) hset hwork hclean

end Packager

/-! ### Machines with a disk -/

/-- **Disks store texts**, whatever the commands do to them. -/
theorem Machine.storesTexts_ofDisk {σ : Type} {disk : σ → Disk} {setDisk : Disk → σ → σ}
    (hdisk : ∀ d s, disk (setDisk d s) = d)
    (run : Text → List Text → σ → Except IoFault CommandOutput × σ) :
    (Machine.ofDisk disk setDisk run).StoresTexts := by
  intro path text s s' h
  have h : onPart disk setDisk (change fun d => d.writeText path text) s = (.ok (), s') := h
  rw [onPart, change] at h
  cases hwrite : (disk s).writeText path text with
  | error fault =>
    rw [hwrite] at h
    cases h
  | ok d =>
    rw [hwrite] at h
    obtain rfl : setDisk d s = s' := congrArg Prod.snd h
    change (disk (setDisk d s)).readText path = .ok text
    rw [hdisk]
    exact Disk.readText_of_writeText hwrite

/-- Rehearsals store texts. -/
theorem Rehearsal.storesTexts_machine : Rehearsal.machine.StoresTexts :=
  Machine.storesTexts_ofDisk (fun _ _ => rfl) Rehearsal.run

namespace SampleRebuild

/-- A packager that removes what it unpacks. -/
def packager : Packager :=
  { program := "/bin/apktool".toList, args := [], workdir := none, cleanup := true }

/-- A decoder that leaves a manifest, and a builder that succeeds. -/
def start : Rehearsal :=
  { disk := .blank "/srv".toList, runs := []
    script := [{ code := 0, stderr := [], manifest := some "<a>".toList },
      { code := 0, stderr := [], manifest := none }] }

/-- A pattern and its replacement. -/
def change : ManifestChange :=
  .adaptation [("a".toList, "b".toList)]

/-- With the engine that reads patterns, the manifest `<a>` is packed as `<b>`. -/
theorem rebuildLaw_run_adaptation :
    let run := change.run packager Rehearsal.machine.journaled Pattern.engine "app.apk".toList
      ⟨start, []⟩
    packager.RebuildLaw Rehearsal.machine Pattern.engine "app.apk".toList change start run.1 run.2 ∧
      run.1.toOption = some "app_modified.apk".toList ∧
      run.2.state.runs.map RecordedRun.packed = [none, some (some "<b>".toList)] :=
  ⟨Packager.rebuildLaw_run _ _ _ _ _ _, by decide +kernel⟩

end SampleRebuild

end Weaver
