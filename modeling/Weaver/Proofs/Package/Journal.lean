import Weaver.Package.Machine

/-!
# Journals

A machine can keep a journal: of every operation it writes down what was asked for, how that
ended, and the states before and after. Whatever a run asks of the machine with a journal, it
asks of the machine itself, with the same outcome; so the journal tells what the run does and
in which order, on any machine.

## Main definitions

* `Operation`, `Entry`, `Journaled`: what is written down.
* `Machine.journaled`: the machine that keeps a journal.
* `Machine.Trace`: a journal of what a machine did between two states.
* `OnMachine.Keeps`: **a run and its journal**, with what the journal tells.

## Main results

* `OnMachine.Keeps.step`, `OnMachine.Keeps.after`: the journal of one operation, and of one run
  after another.
-/

namespace Weaver

/-- An operation of a machine and its outcome. -/
inductive Operation where
  | run (program : Text) (args : List Text) (outcome : Except IoFault CommandOutput)
  | ensureDir (path : Text) (outcome : Except IoFault Unit)
  | newTempDir (outcome : Except IoFault Text)
  | readText (path : Text) (outcome : Except IoFault Text)
  | writeText (path text : Text) (outcome : Except IoFault Unit)
  | removeTree (path : Text) (outcome : Except IoFault Unit)

namespace Operation

/-- The command that an operation runs. -/
def command? : Operation → Option (Text × List Text)
  | run program args _ => some (program, args)
  | _ => none

/-- The path that an operation removes. -/
def removal? : Operation → Option Text
  | removeTree path _ => some path
  | _ => none

/-- Whether an operation has failed. A command fails also by the status it ends with. -/
def failed : Operation → Bool
  | run _ _ (.ok output) => !output.status.isSuccess
  | run _ _ (.error _) => true
  | ensureDir _ outcome => !outcome.isOk
  | newTempDir outcome => !outcome.isOk
  | readText _ outcome => !outcome.isOk
  | writeText _ _ outcome => !outcome.isOk
  | removeTree _ outcome => !outcome.isOk

end Operation

/-- An operation, and the states around it. -/
structure Entry (σ : Type) where
  operation : Operation
  before : σ
  after : σ

/-- A state and what has been written down so far. -/
structure Journaled (σ : Type) where
  state : σ
  entries : List (Entry σ)

namespace Machine

variable {σ α : Type}

/-- An operation that is written down. -/
def keep (write : Except IoFault α → Operation) (op : σ → Except IoFault α × σ)
    (j : Journaled σ) : Except IoFault α × Journaled σ :=
  let (outcome, after) := op j.state
  (outcome, { state := after, entries := j.entries ++ [⟨write outcome, j.state, after⟩] })

/-- The machine that keeps a journal. -/
def journaled (m : Machine σ) : Machine (Journaled σ) where
  run program args := keep (.run program args) (m.run program args)
  ensureDir path := keep (.ensureDir path) (m.ensureDir path)
  newTempDir := keep .newTempDir m.newTempDir
  readText path := keep (.readText path) (m.readText path)
  writeText path text := keep (.writeText path text) (m.writeText path text)
  removeTree path := keep (.removeTree path) (m.removeTree path)

/-- The machine **does** what is written down. -/
def Does (m : Machine σ) (e : Entry σ) : Prop :=
  match e.operation with
  | .run program args outcome => m.run program args e.before = (outcome, e.after)
  | .ensureDir path outcome => m.ensureDir path e.before = (outcome, e.after)
  | .newTempDir outcome => m.newTempDir e.before = (outcome, e.after)
  | .readText path outcome => m.readText path e.before = (outcome, e.after)
  | .writeText path text outcome => m.writeText path text e.before = (outcome, e.after)
  | .removeTree path outcome => m.removeTree path e.before = (outcome, e.after)

/-- A machine that **stores texts**: a text that has been written can be read. -/
def StoresTexts (m : Machine σ) : Prop :=
  ∀ path text s s', m.writeText path text s = (.ok (), s') → (m.readText path s').1 = .ok text

/-- A **trace** of a machine: every operation begins where the one before it has ended. -/
inductive Trace (m : Machine σ) : σ → List (Entry σ) → σ → Prop where
  | nil {s : σ} : Trace m s [] s
  | cons {e : Entry σ} {rest : List (Entry σ)} {s : σ} (h : m.Does e)
      (next : Trace m e.after rest s) : Trace m e.before (e :: rest) s

namespace Trace

variable {m : Machine σ} {s s' s'' : σ} {first second : List (Entry σ)}

/-- Two traces of which one begins where the other ends are one. -/
theorem append (h : m.Trace s first s') (h' : m.Trace s' second s'') :
    m.Trace s (first ++ second) s'' := by
  induction h with
  | nil => exact h'
  | cons hdoes _ ih => exact .cons hdoes (ih h')

/-- **The first entry** of a trace: it begins in the state at hand, and the rest follows. -/
theorem cons_inv {e : Entry σ} {rest : List (Entry σ)} (h : m.Trace s (e :: rest) s') :
    s = e.before ∧ m.Does e ∧ m.Trace e.after rest s' := by
  cases h with
  | cons hdoes next => exact ⟨rfl, hdoes, next⟩

/-- What comes last in a trace begins somewhere on the way. -/
theorem of_append (h : m.Trace s (first ++ second) s') : ∃ s₁, m.Trace s₁ second s' := by
  induction first generalizing s with
  | nil => exact ⟨s, h⟩
  | cons e rest ih => exact ih h.cons_inv.2.2

/-- **Neighbours**: an operation begins where the one right before it has ended. -/
theorem before_eq_of_infix {e e' : Entry σ} {entries : List (Entry σ)}
    (h : m.Trace s entries s') (hin : [e, e'] <:+: entries) :
    m.Does e ∧ e'.before = e.after := by
  obtain ⟨pre, post, rfl⟩ := hin
  rw [List.append_assoc] at h
  obtain ⟨s₁, htail⟩ := h.of_append
  obtain ⟨-, hdoes, hnext⟩ := htail.cons_inv
  exact ⟨hdoes, hnext.cons_inv.1.symm⟩

end Trace

/-- How an operation of the journaled machine comes about: `write` says what is written down of
the operation `op`. -/
structure Journals (m : Machine σ) (write : Except IoFault α → Operation)
    (op' : Journaled σ → Except IoFault α × Journaled σ) (op : σ → Except IoFault α × σ) :
    Prop where
  eq_keep : op' = keep write op
  does : ∀ s, m.Does ⟨write (op s).1, s, (op s).2⟩

section

variable (m : Machine σ)

/-- Commands are journaled. -/
theorem journals_run (program : Text) (args : List Text) :
    m.Journals (.run program args) (m.journaled.run program args) (m.run program args) :=
  ⟨rfl, fun _ => rfl⟩

/-- The making of directories is journaled. -/
theorem journals_ensureDir (path : Text) :
    m.Journals (.ensureDir path) (m.journaled.ensureDir path) (m.ensureDir path) :=
  ⟨rfl, fun _ => rfl⟩

/-- The making of temporary directories is journaled. -/
theorem journals_newTempDir : m.Journals .newTempDir m.journaled.newTempDir m.newTempDir :=
  ⟨rfl, fun _ => rfl⟩

/-- The reading of texts is journaled. -/
theorem journals_readText (path : Text) :
    m.Journals (.readText path) (m.journaled.readText path) (m.readText path) :=
  ⟨rfl, fun _ => rfl⟩

/-- The writing of texts is journaled. -/
theorem journals_writeText (path text : Text) :
    m.Journals (.writeText path text) (m.journaled.writeText path text) (m.writeText path text) :=
  ⟨rfl, fun _ => rfl⟩

/-- The removal of directories is journaled. -/
theorem journals_removeTree (path : Text) :
    m.Journals (.removeTree path) (m.journaled.removeTree path) (m.removeTree path) :=
  ⟨rfl, fun _ => rfl⟩

end

end Machine

/-! ### Runs and their journals -/

namespace OnMachine

variable {σ α β γ : Type}

/-- Runs may be put together from either end. -/
theorem bind_assoc (first : OnMachine σ α) (second : α → OnMachine σ β)
    (third : β → OnMachine σ γ) :
    first >>= second >>= third = first >>= fun a => second a >>= third := by
  funext s
  simp only [bind, andThen]
  rcases first s with ⟨_ | a, s'⟩ <;> rfl

/-- **A run and its journal.** On the journaled machine the run ends as on the machine itself,
whatever is in the journal already. What it writes down is a trace of the machine, and together
with the result it is as `Q` says. -/
def Keeps (m : Machine σ) (run' : OnMachine (Journaled σ) α) (run : OnMachine σ α)
    (Q : List (Entry σ) → Except Error α → Prop) : Prop :=
  ∀ s log, ∃ entries, run' ⟨s, log⟩ = ((run s).1, ⟨(run s).2, log ++ entries⟩) ∧
    m.Trace s entries (run s).2 ∧ Q entries (run s).1

namespace Keeps

variable {m : Machine σ} {run' : OnMachine (Journaled σ) α} {run : OnMachine σ α}
  {Q Q' : List (Entry σ) → Except Error α → Prop}

/-- What a journal says may be weakened. -/
theorem mono (h : Keeps m run' run Q) (himp : ∀ entries r, Q entries r → Q' entries r) :
    Keeps m run' run Q' := by
  intro s log
  obtain ⟨entries, hrun, htrace, hQ⟩ := h s log
  exact ⟨entries, hrun, htrace, himp _ _ hQ⟩

/-- A run that changes nothing writes nothing down. -/
theorem result (r : Except Error α) (h : Q [] r) :
    Keeps m (OnMachine.result r) (OnMachine.result r) Q := by
  intro s log
  refine ⟨[], ?_, .nil, h⟩
  rw [List.append_nil]
  rfl

/-- **One run after the other**: the journal ends with the first failure. -/
theorem after {next' : α → OnMachine (Journaled σ) β} {next : α → OnMachine σ β}
    {P : α → List (Entry σ) → Except Error β → Prop}
    (h : Keeps m run' run Q) (hnext : ∀ a, Keeps m (next' a) (next a) (P a)) :
    Keeps m (run'.andThen next') (run.andThen next) fun entries r =>
      (∃ e, Q entries (.error e) ∧ r = .error e) ∨
        ∃ a first second, entries = first ++ second ∧ Q first (.ok a) ∧ P a second r := by
  intro s log
  obtain ⟨first, hrun, htrace, hQ⟩ := h s log
  rw [andThen, andThen, hrun]
  rcases hout : run s with ⟨_ | a, s₁⟩
  · rw [hout] at htrace hQ
    exact ⟨first, rfl, htrace, .inl ⟨_, hQ, rfl⟩⟩
  · rw [hout] at htrace hQ
    obtain ⟨second, hsecond, htrace', hP⟩ := hnext a s₁ (log ++ first)
    refine ⟨first ++ second, ?_, htrace.append htrace', .inr ⟨a, first, second, rfl, hQ, hP⟩⟩
    rw [← List.append_assoc]
    exact hsecond

/-- **What follows however the run ends** is at the end of the journal. -/
theorem followedBy {last' : Journaled σ → Journaled σ} {last : σ → σ} {L : List (Entry σ) → Prop}
    (h : Keeps m run' run Q)
    (hlast : ∀ s log, ∃ entries, last' ⟨s, log⟩ = ⟨last s, log ++ entries⟩ ∧
      m.Trace s entries (last s) ∧ L entries) :
    Keeps m (fun j => ((run' j).1, last' (run' j).2)) (fun s => ((run s).1, last (run s).2))
      fun entries r => ∃ work after, entries = work ++ after ∧ Q work r ∧ L after := by
  intro s log
  obtain ⟨work, hrun, htrace, hQ⟩ := h s log
  obtain ⟨after, hafter, htrace', hL⟩ := hlast (run s).2 (log ++ work)
  refine ⟨work ++ after, ?_, htrace.append htrace', work, after, rfl, hQ, hL⟩
  change ((run' ⟨s, log⟩).1, last' (run' ⟨s, log⟩).2) = _
  rw [hrun, hafter, List.append_assoc]

end Keeps

/-- A run that **asks once**: one operation is written down, and its outcome decides about the
result. -/
def Asks (m : Machine σ) (run' : OnMachine (Journaled σ) β) (run : OnMachine σ β)
    (write : Except IoFault α → Operation) (verdict : Except IoFault α → Except Error β) : Prop :=
  Keeps m run' run fun entries r =>
    ∃ e outcome, entries = [e] ∧ e.operation = write outcome ∧ r = verdict outcome

/-- A run that hands an operation on to the machine asks once. -/
theorem asks {m : Machine σ} {write : Except IoFault α → Operation}
    {op' : Journaled σ → Except IoFault α × Journaled σ} {op : σ → Except IoFault α × σ}
    {run' : OnMachine (Journaled σ) β} {run : OnMachine σ β}
    {verdict : Except IoFault α → Except Error β} (h : m.Journals write op' op)
    (hrun' : ∀ j, run' j = (verdict (op' j).1, (op' j).2))
    (hrun : ∀ s, run s = (verdict (op s).1, (op s).2)) : Asks m run' run write verdict := by
  intro s log
  refine ⟨[⟨write (op s).1, s, (op s).2⟩], ?_, ?_, ⟨_, _, rfl, rfl, ?_⟩⟩
  · rw [hrun', hrun, h.eq_keep]
    rfl
  · rw [hrun]
    exact .cons (h.does s) .nil
  · rw [hrun]

/-- **A single operation** asks once, and its outcome is the result. -/
theorem asks_ofStep {m : Machine σ} {write : Except IoFault α → Operation}
    {op' : Journaled σ → Except IoFault α × Journaled σ} {op : σ → Except IoFault α × σ}
    (h : m.Journals write op' op) :
    Asks m (ofStep op') (ofStep op) write (Except.mapError .io) := by
  refine asks h (fun j => ?_) fun s => ?_
  · rw [ofStep]
    rcases op' j with ⟨_ | a, j'⟩ <;> rfl
  · rw [ofStep]
    rcases op s with ⟨_ | a, s'⟩ <;> rfl

end OnMachine

end Weaver
