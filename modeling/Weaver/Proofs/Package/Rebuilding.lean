import Weaver.Package.Packager
import Weaver.Proofs.Package.Journal

/-!
# The Course of Rebuilding

Rebuilding an archive in a directory goes through stages. At each of them one operation is asked
for; its outcome leads on to the next stage, or it ends the work with an error. Around the work
the directory is set up and cleaned up.

Here the program is shown to take this course on every machine, by the journal that it leaves:
one lemma for each stage, from the last one to the first.

## Main definitions

* `Packager.Stage`, `Packager.LeadsOn`, `Packager.Stops`: **the stages**, and what their
  operations come to.
* `Packager.Course`: the work from a stage on.
* `Packager.Rebuilds`: the work with its directory.

## Main results

* `Packager.keeps_stage`: one stage.
* `Packager.keeps_rebuildIn`, `Packager.keeps_rebuild`: **rebuilding takes its course**.
-/

namespace Weaver

namespace Packager

/-- What the run of a command means for a packager: it has to be started, and to succeed. -/
def exit : Except IoFault CommandOutput → Except Error Unit
  | .error fault => .error (.io fault)
  | .ok output => output.check.map fun _ => ()

/-- What reading a file that has to exist gives. -/
def found (path : Text) : Except IoFault Text → Except Error Text
  | .ok text => .ok text
  | .error .notFound => .error (.missingFile path)
  | .error fault => .error (.io fault)

/-- A command has been started and has succeeded. -/
theorem exit_eq_ok {outcome : Except IoFault CommandOutput} (h : exit outcome = .ok ()) :
    ∃ output, outcome = .ok output ∧ output.status.isSuccess = true := by
  cases outcome with
  | error fault => cases h
  | ok output =>
    refine ⟨output, rfl, ?_⟩
    rw [exit, CommandOutput.check] at h
    by_cases hsuccess : output.status.isSuccess
    · exact hsuccess
    · rw [if_neg hsuccess] at h
      cases h

/-- A command that is not started or does not succeed. -/
theorem exit_eq_error {outcome : Except IoFault CommandOutput} {why : Error}
    (h : exit outcome = .error why) :
    (∃ fault, outcome = .error fault ∧ why = .io fault) ∨
      ∃ output, outcome = .ok output ∧ output.status.isSuccess = false ∧
        why = .command output.reportedCode (Text.trim (Utf8.decodeLossy output.stderr)) := by
  cases outcome with
  | error fault => exact .inl ⟨fault, rfl, (Except.error.inj h).symm⟩
  | ok output =>
    rw [exit, CommandOutput.check] at h
    by_cases hsuccess : output.status.isSuccess
    · rw [if_pos hsuccess] at h
      cases h
    · rw [if_neg hsuccess] at h
      exact .inr ⟨output, rfl, by simpa using hsuccess, (Except.error.inj h).symm⟩

/-- A text that is found has been read. -/
theorem found_eq_ok {path text : Text} {outcome : Except IoFault Text}
    (h : found path outcome = .ok text) : outcome = .ok text := by
  cases outcome with
  | error fault => cases fault <;> cases h
  | ok text' => exact congrArg _ (Except.ok.inj h)

/-- A text that is not found could not be read. -/
theorem found_eq_error {path : Text} {outcome : Except IoFault Text} {why : Error}
    (h : found path outcome = .error why) : ∃ fault, outcome = .error fault := by
  cases outcome with
  | error fault => exact ⟨fault, rfl⟩
  | ok text => cases h

/-- An operation that leads on has succeeded. -/
theorem mapError_eq_ok {α : Type} {outcome : Except IoFault α} {a : α}
    (h : outcome.mapError Error.io = .ok a) : outcome = .ok a := by
  cases outcome with
  | error fault => cases h
  | ok a' => exact congrArg _ (Except.ok.inj h)

/-- An operation that does not lead on has failed, with the same fault. -/
theorem mapError_eq_error {α : Type} {outcome : Except IoFault α} {why : Error}
    (h : outcome.mapError Error.io = .error why) :
    ∃ fault, outcome = .error fault ∧ why = .io fault := by
  cases outcome with
  | error fault => exact ⟨fault, rfl, (Except.error.inj h).symm⟩
  | ok a => cases h

/-! ### Stages -/

/-- How far the work in a directory has come. -/
inductive Stage where
  | entering
  | decoding
  | reading
  | writing (new : Text)
  | building (out : Text)
  | done (out : Text)

section

variable (p : Packager) (archive : Text) (rewrite : Text → Except Error Text) (w : Text)

/-- What **leads on** at each stage, and where to. -/
inductive LeadsOn : Stage → Operation → Stage → Prop where
  | entered {parent : Text} (h : Path.parent? w = some parent) :
      LeadsOn .entering (.ensureDir parent (.ok ())) .decoding
  | decoded {output : CommandOutput} (h : output.status.isSuccess = true) :
      LeadsOn .decoding (.run p.program (p.decodeArgs archive w) (.ok output)) .reading
  | read {text new : Text} (h : rewrite text = .ok new) :
      LeadsOn .reading (.readText (Path.join w manifestName) (.ok text)) (.writing new)
  | written {new out : Text} (h : Path.modifiedArchive archive = .ok out) :
      LeadsOn (.writing new) (.writeText (Path.join w manifestName) new (.ok ())) (.building out)
  | built {out : Text} {output : CommandOutput} (h : output.status.isSuccess = true) :
      LeadsOn (.building out) (.run p.program (p.buildArgs w out) (.ok output)) (.done out)

/-- What **ends the work** at each stage, and with which error. -/
inductive Stops : Stage → Operation → Error → Prop where
  | notEntered {parent : Text} {fault : IoFault} (h : Path.parent? w = some parent) :
      Stops .entering (.ensureDir parent (.error fault)) (.io fault)
  | notDecoded {outcome : Except IoFault CommandOutput} {why : Error}
      (h : exit outcome = .error why) :
      Stops .decoding (.run p.program (p.decodeArgs archive w) outcome) why
  | notRead {fault : IoFault} {why : Error}
      (h : found (Path.join w manifestName) (.error fault) = .error why) :
      Stops .reading (.readText (Path.join w manifestName) (.error fault)) why
  | notRewritten {text : Text} {why : Error} (h : rewrite text = .error why) :
      Stops .reading (.readText (Path.join w manifestName) (.ok text)) why
  | notWritten {new : Text} {fault : IoFault} :
      Stops (.writing new) (.writeText (Path.join w manifestName) new (.error fault)) (.io fault)
  | notNamed {new : Text} {why : Error} (h : Path.modifiedArchive archive = .error why) :
      Stops (.writing new) (.writeText (Path.join w manifestName) new (.ok ())) why
  | notBuilt {out : Text} {outcome : Except IoFault CommandOutput} {why : Error}
      (h : exit outcome = .error why) :
      Stops (.building out) (.run p.program (p.buildArgs w out) outcome) why

/-- **The course of the work** from a stage on: it ends when it is done, or with the first
operation that does not lead on. -/
inductive Course {σ : Type} : Stage → List (Entry σ) → Except Error Text → Prop where
  | done {out : Text} : Course (.done out) [] (.ok out)
  | stop {stage : Stage} {e : Entry σ} {why : Error}
      (h : p.Stops archive rewrite w stage e.operation why) : Course stage [e] (.error why)
  | step {stage next : Stage} {e : Entry σ} {rest : List (Entry σ)} {r : Except Error Text}
      (h : p.LeadsOn archive rewrite w stage e.operation next) (hrest : Course next rest r) :
      Course stage (e :: rest) r

/-- Where the work begins. -/
def firstStage : Stage :=
  match Path.parent? w with
  | some _ => .entering
  | none => .decoding

end

/-! ### Rebuilding follows the protocol -/

section

variable {σ : Type} (p : Packager) (m : Machine σ) (archive : Text)
  (rewrite : Text → Except Error Text) (w : Text)

open OnMachine

/-- A command is run, and its outcome is judged. -/
theorem run_eq (args : List Text) (s : σ) :
    p.run m args s = (exit (m.run p.program args s).1, (m.run p.program args s).2) := by
  simp only [Packager.run, bind, andThen, ofStep, result, pure]
  rcases m.run p.program args s with ⟨fault | output, s'⟩
  · rfl
  · simp only [exit]
    cases output.check <;> rfl

/-- A text is read, and its outcome is judged. -/
theorem requireText_eq (path : Text) (s : σ) :
    m.requireText path s = (found path (m.readText path s).1, (m.readText path s).2) := by
  rw [Machine.requireText]
  rcases m.readText path s with ⟨fault | text, s'⟩
  · cases fault <;> rfl
  · rfl

/-- Running the decompiler asks for one command. -/
theorem asks_run (args : List Text) :
    Asks m (p.run m.journaled args) (p.run m args) (.run p.program args) exit :=
  asks (m.journals_run p.program args) (p.run_eq m.journaled args) (p.run_eq m args)

/-- Reading a file that has to exist asks for its text once. -/
theorem asks_requireText (path : Text) :
    Asks m (m.journaled.requireText path) (m.requireText path) (.readText path) (found path) :=
  asks (m.journals_readText path) (requireText_eq m.journaled path) (requireText_eq m path)

/-- The work from the writing of the manifest on. -/
def fromWriting (new : Text) : OnMachine σ Text := do
  ofStep (m.writeText (Path.join w manifestName) new)
  let out ← result (Path.modifiedArchive archive)
  p.build m w out
  return out

/-- The work from the reading of the manifest on. -/
def fromReading : OnMachine σ Text := do
  let text ← m.requireText (Path.join w manifestName)
  let new ← result (rewrite text)
  p.fromWriting m archive w new

/-- The work from the decoder on. -/
def fromDecoding : OnMachine σ Text := do
  p.run m (p.decodeArgs archive w)
  p.fromReading m archive rewrite w

/-- The work in a directory, cut at its stages. -/
theorem rebuildIn_eq : p.rebuildIn m archive rewrite w =
    match Path.parent? w with
    | some parent => ofStep (m.ensureDir parent) >>= fun _ => p.fromDecoding m archive rewrite w
    | none => p.fromDecoding m archive rewrite w := by
  rw [rebuildIn, decode]
  cases Path.parent? w with
  | none =>
    simp only [bind_assoc]
    rfl
  | some parent =>
    simp only [bind_assoc]
    rfl

variable {p m archive rewrite w}

/-- **One stage**: a run that asks once and goes on if the outcome leads on. -/
theorem keeps_stage {α β : Type} {run' : OnMachine (Journaled σ) β} {run : OnMachine σ β}
    {write : Except IoFault α → Operation} {verdict : Except IoFault α → Except Error β}
    {stage : Stage} {next' : β → OnMachine (Journaled σ) Text} {next : β → OnMachine σ Text}
    (hasks : Asks m run' run write verdict)
    (hstop : ∀ outcome why, verdict outcome = .error why →
      p.Stops archive rewrite w stage (write outcome) why)
    (hnext : ∀ b, Keeps m (next' b) (next b) fun rest r => ∀ (e : Entry σ) outcome,
      e.operation = write outcome → verdict outcome = .ok b →
        p.Course archive rewrite w stage (e :: rest) r) :
    Keeps m (run' >>= next') (run >>= next) (p.Course archive rewrite w stage) := by
  refine (hasks.after hnext).mono ?_
  rintro entries r (⟨why, ⟨e, outcome, rfl, hop, hverdict⟩, rfl⟩ |
    ⟨b, _, rest, rfl, ⟨e, outcome, rfl, hop, hverdict⟩, hrest⟩)
  · exact .stop (hop ▸ hstop outcome why hverdict.symm)
  · exact hrest e outcome hop hverdict.symm

variable (archive rewrite)

/-- **The last stage**: the builder is run. -/
theorem keeps_building (out : Text) :
    Keeps m (p.build m.journaled w out >>= fun _ => pure out)
      (p.build m w out >>= fun _ => pure out) (p.Course archive rewrite w (.building out)) := by
  refine keeps_stage (p.asks_run m (p.buildArgs w out)) (fun _ _ => .notBuilt)
    fun _ => .result (.ok out) fun e outcome hop hverdict => ?_
  obtain ⟨output, rfl, hsuccess⟩ := exit_eq_ok hverdict
  exact .step (hop ▸ .built hsuccess) .done

/-- **The changed manifest is written**, and the builder follows if the packed archive has a
name. -/
theorem keeps_writing (new : Text) :
    Keeps m (p.fromWriting m.journaled archive w new) (p.fromWriting m archive w new)
      (p.Course archive rewrite w (.writing new)) := by
  refine keeps_stage (asks_ofStep (m.journals_writeText _ new)) ?_ fun _ => ?_
  · intro outcome why h
    obtain ⟨fault, rfl, rfl⟩ := mapError_eq_error h
    exact .notWritten
  · cases hout : Path.modifiedArchive archive with
    | error why =>
      refine .result (.error why) fun e outcome hop hverdict => ?_
      obtain rfl := mapError_eq_ok hverdict
      exact .stop (hop ▸ .notNamed hout)
    | ok out =>
      refine (keeps_building archive rewrite out).mono fun rest r hrest e outcome hop hverdict => ?_
      obtain rfl := mapError_eq_ok hverdict
      exact .step (hop ▸ .written hout) hrest

/-- **The manifest is read** and rewritten. -/
theorem keeps_reading :
    Keeps m (p.fromReading m.journaled archive rewrite w) (p.fromReading m archive rewrite w)
      (p.Course archive rewrite w .reading) := by
  refine keeps_stage (asks_requireText m (Path.join w manifestName)) ?_ fun text => ?_
  · intro outcome why h
    obtain ⟨fault, rfl⟩ := found_eq_error h
    exact .notRead h
  · cases hnew : rewrite text with
    | error why =>
      refine .result (.error why) fun e outcome hop hverdict => ?_
      obtain rfl := found_eq_ok hverdict
      exact .stop (hop ▸ .notRewritten hnew)
    | ok new =>
      refine (keeps_writing archive rewrite new).mono fun rest r hrest e outcome hop hverdict => ?_
      obtain rfl := found_eq_ok hverdict
      exact .step (hop ▸ .read hnew) hrest

/-- **The decoder is run.** -/
theorem keeps_decoding :
    Keeps m (p.fromDecoding m.journaled archive rewrite w) (p.fromDecoding m archive rewrite w)
      (p.Course archive rewrite w .decoding) := by
  refine keeps_stage (p.asks_run m (p.decodeArgs archive w)) (fun _ _ => .notDecoded)
    fun _ => (keeps_reading archive rewrite).mono fun rest r hrest e outcome hop hverdict => ?_
  obtain ⟨output, rfl, hsuccess⟩ := exit_eq_ok hverdict
  exact .step (hop ▸ .decoded hsuccess) hrest

/-- **The work in a directory** follows the protocol. -/
theorem keeps_rebuildIn :
    Keeps m (p.rebuildIn m.journaled archive rewrite w) (p.rebuildIn m archive rewrite w)
      (p.Course archive rewrite w (firstStage w)) := by
  rw [rebuildIn_eq, rebuildIn_eq, firstStage]
  cases hparent : Path.parent? w with
  | none => exact keeps_decoding archive rewrite
  | some parent =>
    refine keeps_stage (asks_ofStep (m.journals_ensureDir parent)) ?_
      fun _ => (keeps_decoding archive rewrite).mono fun rest r hrest e outcome hop hverdict => ?_
    · intro outcome why h
      obtain ⟨fault, rfl, rfl⟩ := mapError_eq_error h
      exact .notEntered hparent
    · obtain rfl := mapError_eq_ok hverdict
      exact .step (hop ▸ .entered hparent) hrest

end

/-! ### The whole run -/

/-- What is written down while the directory to unpack into is set up. -/
inductive SetsUp {σ : Type} (p : Packager) : List (Entry σ) → Workdir → Prop where
  | configured {dir : Text} (h : p.workdir = some dir) :
      SetsUp p [] { path := dir, removed := dir }
  | temporary {e : Entry σ} {dir : Text} (h : p.workdir = none)
      (hop : e.operation = .newTempDir (.ok dir)) :
      SetsUp p [e] { path := Path.join dir "decoded".toList, removed := dir }

/-- What is written down while the unpacked files are removed, if they are. -/
def CleansUp {σ : Type} (p : Packager) (w : Workdir) (entries : List (Entry σ)) : Prop :=
  if p.cleanup then ∃ e outcome, entries = [e] ∧ e.operation = .removeTree w.removed outcome
  else entries = []

/-- **A whole run**: there is no directory to unpack into, or the work is done in it and the
unpacked files are removed, however the work ended. -/
inductive Rebuilds {σ : Type} (p : Packager) (archive : Text)
    (rewrite : Text → Except Error Text) : List (Entry σ) → Except Error Text → Prop where
  | notSetUp {e : Entry σ} {fault : IoFault} (h : p.workdir = none)
      (hop : e.operation = .newTempDir (.error fault)) :
      Rebuilds p archive rewrite [e] (.error (.io fault))
  | ended {before work after : List (Entry σ)} {w : Workdir} {r : Except Error Text}
      (hset : p.SetsUp before w)
      (hwork : p.Course archive rewrite w.path (firstStage w.path) work r)
      (hclean : p.CleansUp w after) : Rebuilds p archive rewrite (before ++ (work ++ after)) r

section

variable {σ : Type} {p : Packager} {m : Machine σ} {archive : Text}
  {rewrite : Text → Except Error Text}

open OnMachine

/-- **Setting up** a directory fails, or gives the one to unpack into. -/
theorem keeps_setUp :
    Keeps m (p.setUp m.journaled) (p.setUp m) fun entries r =>
      (∃ e fault, p.workdir = none ∧ entries = [e] ∧ e.operation = .newTempDir (.error fault) ∧
          r = .error (.io fault)) ∨
        ∃ w, p.SetsUp entries w ∧ r = .ok w := by
  rw [setUp, setUp]
  cases hdir : p.workdir with
  | some dir => exact .result (.ok _) (.inr ⟨_, .configured hdir, rfl⟩)
  | none =>
    refine ((asks_ofStep m.journals_newTempDir).after
      (P := fun dir entries r => entries = [] ∧
        r = .ok { path := Path.join dir "decoded".toList, removed := dir })
      fun _ => .result (.ok _) ⟨rfl, rfl⟩).mono ?_
    rintro entries r (⟨why, ⟨e, outcome, rfl, hop, hr⟩, rfl⟩ |
      ⟨dir, _, _, rfl, ⟨e, outcome, rfl, hop, hr⟩, rfl, rfl⟩)
    · cases outcome with
      | ok dir => cases hr
      | error fault =>
        obtain rfl := Except.error.inj hr
        exact .inl ⟨e, fault, rfl, rfl, hop, rfl⟩
    · cases outcome with
      | error fault => cases hr
      | ok dir =>
        obtain rfl := Except.ok.inj hr
        exact .inr ⟨_, .temporary hdir hop, rfl⟩

/-- **Cleaning up** removes the directory if that is wanted, and nothing else. -/
theorem cleanUp_journaled (p : Packager) (m : Machine σ) (w : Workdir) (s : σ)
    (log : List (Entry σ)) :
    ∃ entries, p.cleanUp m.journaled w ⟨s, log⟩ = ⟨p.cleanUp m w s, log ++ entries⟩ ∧
      m.Trace s entries (p.cleanUp m w s) ∧ p.CleansUp w entries := by
  rw [cleanUp, cleanUp]
  by_cases hcleanup : p.cleanup
  · rw [if_pos hcleanup, if_pos hcleanup]
    refine ⟨[⟨.removeTree w.removed (m.removeTree w.removed s).1, s, (m.removeTree w.removed s).2⟩],
      rfl, .cons ((m.journals_removeTree w.removed).does s) .nil, ?_⟩
    rw [CleansUp, if_pos hcleanup]
    exact ⟨_, _, rfl, rfl⟩
  · rw [if_neg hcleanup, if_neg hcleanup]
    refine ⟨[], by rw [List.append_nil], .nil, ?_⟩
    rw [CleansUp, if_neg hcleanup]

/-- **Rebuilding** follows the protocol. -/
theorem keeps_rebuild (p : Packager) (m : Machine σ) (archive : Text)
    (rewrite : Text → Except Error Text) :
    Keeps m (p.rebuild m.journaled archive rewrite) (p.rebuild m archive rewrite)
      (p.Rebuilds archive rewrite) := by
  refine (keeps_setUp.after
    (P := fun w entries r => ∃ work after, entries = work ++ after ∧
      p.Course archive rewrite w.path (firstStage w.path) work r ∧ p.CleansUp w after)
    fun w => (keeps_rebuildIn archive rewrite).followedBy (p.cleanUp_journaled m w)).mono ?_
  rintro entries r (⟨why, ⟨e, fault, hdir, rfl, hop, hr⟩ | ⟨w, hset, hr⟩, rfl⟩ |
    ⟨w, first, _, rfl, ⟨e, fault, hdir, rfl, hop, hr⟩ | ⟨w', hset, hr⟩, work, after, rfl, hwork,
      hclean⟩)
  · obtain rfl := Except.error.inj hr
    exact .notSetUp hdir hop
  · cases hr
  · cases hr
  · obtain rfl := Except.ok.inj hr
    exact .ended hset hwork hclean

end

end Packager

end Weaver
