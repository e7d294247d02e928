import Weaver.Proofs.Pass.BodyHistory

/-!
# Wrapped Calls

The calls to be wrapped are noted down with the types of their first arguments in one scan. Then
they are changed one after the other, each in a body that has more statements and more locals than
the one that was scanned. What the scan found stays right: a call is found under its handle wherever
the insertions have moved it, and what has a type keeps it when locals are added.

What comes out is related to the chain as it was by `Body.Wraps`, which goes through the chain once:
every statement is kept, or it is a selected call and becomes the call of the helper and the same
call with another first argument. Statements that the pass inserts do not come up in the scan, and
they would not be selected if they did, since what they do with their call is to assign its result.

## Main definitions

* `Body.isWrapTarget`: the selection, as a test of one statement.
* `Body.Wraps`: the chain before and after.
* `Body.Wrapped`: the body before and after.

## Main results

* `Body.wrapCall_of_split`: one call.
* `Body.wrapCalls_wraps`: a queue of calls.
* `Body.wrapFirstArgument_wrapped`: **the pass is exact and local**.
-/

namespace Weaver

/-- The call of the helper with a value, whose result goes to a local. -/
def helperCall (helper : MethodRef) (name : Text) (v : Value) : Stmt :=
  .assignVar name (.call { kind := .static, base := none, method := helper, args := [v] })

namespace Body

variable {b : Body}

/-! ### The scan -/

/-- Whether a statement is a call whose first argument has a type that `selects` holds of. -/
def isWrapTarget (b : Body) (selects : Ty → Bool) (s : Stmt) : Bool :=
  (b.firstArgumentType? s).any selects

/-- What the scan notes down about a statement. -/
def wrapTarget? (b : Body) (selects : Ty → Bool) (e : StmtId × Stmt) : Option (StmtId × Ty) :=
  ((b.firstArgumentType? e.2).filter selects).map fun ty => (e.1, ty)

/-- The targets are noted down in one scan of the chain. -/
theorem wrapTargets_eq (b : Body) (selects : Ty → Bool) :
    b.wrapTargets selects = b.stmts.filterMap (b.wrapTarget? selects) := by
  rw [wrapTargets]
  congr 1
  funext ⟨id, s⟩
  rw [wrapTarget?]
  dsimp only
  cases b.firstArgumentType? s with
  | none => rfl
  | some ty =>
    rw [Option.filter_some]
    dsimp only
    split <;> rfl

/-- Only the first argument of a call without a result counts, if it has a type. -/
theorem firstArgumentType?_eq_some_iff {s : Stmt} {ty : Ty} :
    b.firstArgumentType? s = some ty ↔
      ∃ kind base method first others,
        s = .invoke ⟨kind, base, method, first :: others⟩ ∧ first.ty? b = some ty := by
  constructor
  · intro h
    unfold firstArgumentType? at h
    split at h
    next e =>
      obtain ⟨kind, base, method, args⟩ := e
      cases args with
      | nil => cases h
      | cons first others => exact ⟨kind, base, method, first, others, rfl, h⟩
    · cases h
  · rintro ⟨kind, base, method, first, others, rfl, hty⟩
    exact hty

/-- **All that the scan can make of a statement.** -/
theorem wrapTarget?_cases (b : Body) (selects : Ty → Bool) (e : StmtId × Stmt) :
    (b.isWrapTarget selects e.2 = false ∧ b.wrapTarget? selects e = none) ∨
      ∃ id kind base method first others ty,
        e = (id, .invoke ⟨kind, base, method, first :: others⟩) ∧ first.ty? b = some ty ∧
          selects ty = true ∧ b.isWrapTarget selects e.2 = true ∧
          b.wrapTarget? selects e = some (id, ty) := by
  rw [isWrapTarget, wrapTarget?]
  cases h : b.firstArgumentType? e.2 with
  | none => exact .inl ⟨rfl, rfl⟩
  | some ty =>
    obtain ⟨kind, base, method, first, others, he, hty⟩ := firstArgumentType?_eq_some_iff.1 h
    cases hsel : selects ty with
    | false => exact .inl ⟨hsel, by rw [Option.filter_some, hsel]; rfl⟩
    | true =>
      exact .inr ⟨e.1, kind, base, method, first, others, ty, Prod.ext rfl he, hty, hsel, hsel,
        by rw [Option.filter_some, hsel]; rfl⟩

/-- There are as many targets as selected calls. -/
theorem length_wrapTargets (b : Body) (selects : Ty → Bool) :
    (b.wrapTargets selects).length = b.statements.countP (b.isWrapTarget selects) := by
  rw [wrapTargets_eq, List.length_filterMap_eq_countP, statements, List.countP_map]
  refine congrArg (List.countP · b.stmts) (funext fun e => ?_)
  rw [Function.comp_apply]
  obtain ⟨hskip, hnone⟩ | ⟨_, _, _, _, _, _, _, _, _, _, htarget, hsome⟩ :=
    b.wrapTarget?_cases selects e
  · rw [hskip, hnone, Option.isSome_none]
  · rw [htarget, hsome, Option.isSome_some]

/-- A call of the helper **is never selected**, in whatever body. -/
theorem isWrapTarget_helperCall (b : Body) (selects : Ty → Bool) (helper : MethodRef) (name : Text)
    (v : Value) : b.isWrapTarget selects (helperCall helper name v) = false :=
  rfl

/-! ### The chain before and after -/

/-- The chain `chain'` is `chain` with the selected calls **wrapped**: the first argument of each is
a new local now, and the call of the helper with the old argument stands in front of it. The new
locals are `ls`, in order; they have the types that the old arguments have in `b`. The calls of the
helper take the handles from `next` on. Nothing else is different. -/
inductive Wraps (b : Body) (helper : MethodRef) (selects : Ty → Bool) :
    Nat → List (StmtId × Stmt) → List Local → List (StmtId × Stmt) → Prop
  | nil {next : Nat} : Wraps b helper selects next [] [] []
  | keep {next : Nat} {e : StmtId × Stmt} {chain chain' : List (StmtId × Stmt)} {ls : List Local} :
      b.isWrapTarget selects e.2 = false →
      Wraps b helper selects next chain ls chain' →
      Wraps b helper selects next (e :: chain) ls (e :: chain')
  | wrap {next : Nat} {id : StmtId} {kind : CallKind} {base : Option Text} {method : MethodRef}
      {first : Value} {others : List Value} {l : Local} {chain chain' : List (StmtId × Stmt)}
      {ls : List Local} :
      first.ty? b = some l.ty → selects l.ty = true →
      Wraps b helper selects (next + 1) chain ls chain' →
      Wraps b helper selects next
        ((id, .invoke ⟨kind, base, method, first :: others⟩) :: chain) (l :: ls)
        ((⟨next⟩, helperCall helper l.name first) ::
          (id, .invoke ⟨kind, base, method, .var l.name :: others⟩) :: chain')

section

variable {helper : MethodRef} {selects : Ty → Bool} {next : Nat} {ls : List Local}
  {chain chain' : List (StmtId × Stmt)}

/-- One local is made for every selected call. -/
theorem Wraps.length_eq (h : b.Wraps helper selects next chain ls chain') :
    ls.length = (chain.map Prod.snd).countP (b.isWrapTarget selects) := by
  induction h with
  | nil => rfl
  | keep hkeep _ ih => rw [List.map_cons, List.countP_cons, ih, hkeep]; rfl
  | @wrap next id kind base method first others l chain chain' ls hty hsel _ ih =>
    have htarget :
        b.isWrapTarget selects (.invoke ⟨kind, base, method, first :: others⟩) = true := by
      rw [isWrapTarget, firstArgumentType?_eq_some_iff.2 ⟨_, _, _, _, _, rfl, hty⟩]
      exact hsel
    rw [List.length_cons, List.map_cons, List.countP_cons, ih, htarget]
    rfl

/-- **What is not an old statement** is the call of the helper for one of the new locals. -/
theorem Wraps.mem_cases (h : b.Wraps helper selects next chain ls chain') {e : StmtId × Stmt}
    (he : e ∈ chain') :
    e.1 ∈ chain.map Prod.fst ∨ ∃ l ∈ ls, ∃ v, e.2 = helperCall helper l.name v := by
  induction h with
  | nil => cases he
  | keep _ _ ih =>
    rw [List.mem_cons] at he
    obtain rfl | he := he
    · exact .inl List.mem_cons_self
    · exact (ih he).imp_left (List.mem_cons_of_mem _)
  | @wrap next id kind base method first others l chain chain' ls hty hsel _ ih =>
    rw [List.mem_cons, List.mem_cons] at he
    obtain rfl | rfl | he := he
    · exact .inr ⟨l, List.mem_cons_self, first, rfl⟩
    · exact .inl List.mem_cons_self
    · refine (ih he).imp (List.mem_cons_of_mem _) ?_
      rintro ⟨l', hl', hv⟩
      exact ⟨l', List.mem_cons_of_mem _ hl', hv⟩

end

/-! ### The edits -/

/-- **One call is wrapped**, wherever it stands. -/
theorem wrapCall_of_split {pre post : List (StmtId × Stmt)} {id : StmtId} {kind : CallKind}
    {base : Option Text} {method : MethodRef} {first : Value} {others : List Value}
    (hb : b.stmts = pre ++ (id, .invoke ⟨kind, base, method, first :: others⟩) :: post)
    (hpre : id ∉ pre.map Prod.fst) (helper : MethodRef) (ty : Ty) :
    ∃ l : Local, l.ty = ty ∧ b.IsFresh l ∧ wrapCall helper b id ty = (.ok (),
      { b.withLocals [l] with
        stmts := pre ++ (⟨b.nextId⟩, helperCall helper l.name first) ::
          (id, .invoke ⟨kind, base, method, .var l.name :: others⟩) :: post
        nextId := b.nextId + 1 }) := by
  obtain ⟨l, hty, hfresh, hgen⟩ := b.isFresh_generateLocal ty
  refine ⟨l, hty, hfresh, ?_⟩
  have hb' : (b.withLocals [l]).stmts =
      pre ++ (id, .invoke ⟨kind, base, method, first :: others⟩) :: post := hb
  rw [wrapCall, hgen]
  dsimp only
  rw [get?_of_split hb' hpre]
  dsimp only
  rw [set_of_split hb' hpre, insertBefore_of_split rfl hpre]
  simp only [numbered, List.length_cons, List.length_nil, List.append_assoc, List.singleton_append]
  rfl

/-- **The queue that the scan has given is carried out**, from a statement on behind which the chain
is as it was in `b₀`, the body that was scanned. -/
theorem wrapCalls_wraps (b₀ : Body) (helper : MethodRef) (selects : Ty → Bool)
    {done rest : List (StmtId × Stmt)} (h : b.Halfway done rest) :
    ∃ ls chain', b₀.Wraps helper selects b.nextId rest ls chain' ∧ b.FreshInTurn ls ∧
      wrapCalls helper (rest.filterMap (b₀.wrapTarget? selects)) b = (.ok (),
        { b.withLocals ls with stmts := done ++ chain', nextId := b.nextId + ls.length }) := by
  -- The types in the queue are those of `b₀` throughout, while `b` gets a local with each call.
  induction rest generalizing b done with
  | nil =>
    refine ⟨[], [], .nil, trivial, ?_⟩
    rw [← h.stmts_eq, withLocals_nil]
    rfl
  | cons e rest ih =>
    obtain ⟨hskip, hnone⟩ | ⟨id, kind, base, method, first, others, ty, rfl, hty, hsel, -, hsome⟩ :=
      b₀.wrapTarget?_cases selects e
    · obtain ⟨ls, chain', hwraps, hfresh, hrun⟩ := ih h.keep
      refine ⟨ls, e :: chain', .keep hskip hwraps, hfresh, ?_⟩
      rw [List.filterMap_cons_none hnone, hrun, List.append_assoc]
      rfl
    · obtain ⟨l, rfl, hl, hcall⟩ :=
        wrapCall_of_split h.stmts_eq (h.apart id List.mem_cons_self) helper ty
      let block : List (StmtId × Stmt) := [(⟨b.nextId⟩, helperCall helper l.name first),
        (id, .invoke ⟨kind, base, method, .var l.name :: others⟩)]
      have hblock : ∀ id' ∈ block.map Prod.fst, id' = id ∨ b.nextId ≤ id'.index := by
        simp [block]
      let b' : Body :=
        { b.withLocals [l] with stmts := done ++ (block ++ rest), nextId := b.nextId + 1 }
      have hnext : b'.Halfway (done ++ block) rest :=
        h.advance hblock (List.append_assoc ..).symm (Nat.le_succ _)
      obtain ⟨ls, chain', hwraps, hfresh, hrun⟩ := ih hnext
      refine ⟨l :: ls, block ++ chain', .wrap hty hsel hwraps, ⟨hl, hfresh.congr rfl⟩, ?_⟩
      have hlocals : b.withLocals (l :: ls) = (b.withLocals [l]).withLocals ls :=
        b.withLocals_append [l] ls
      rw [List.append_assoc] at hrun
      rw [List.filterMap_cons_some hsome, wrapCalls, hcall, List.length_cons,
        Nat.add_comm ls.length 1, ← Nat.add_assoc, hlocals]
      exact hrun

/-! ### The pass -/

/-- What has a type keeps it when locals are added. -/
theorem ty?_of_locals {b' : Body} {v : Value} {ty : Ty} (h : v.ty? b = some ty)
    (hlocals : b.locals <+: b'.locals) : v.ty? b' = some ty := by
  cases v with
  | var name =>
    obtain ⟨l, hl, rfl⟩ := Option.map_eq_some_iff.1 h
    obtain ⟨ls, hls⟩ := hlocals
    rw [local?] at hl
    rw [Value.ty?, local?, ← hls, List.find?_append, hl]
    rfl
  | _ => exact h

/-- The body `b'` is `b` with the selected calls **wrapped** by means of the locals `ls`. -/
structure Wrapped (b : Body) (helper : MethodRef) (selects : Ty → Bool) (ls : List Local)
    (b' : Body) : Prop where
  method_eq : b'.method = b.method
  wraps : b.Wraps helper selects b.nextId b.stmts ls b'.stmts
  /-- One local is made for every selected call of the body as it was. -/
  length_eq : ls.length = b.statements.countP (b.isWrapTarget selects)
  locals_eq : b'.locals = b.locals ++ ls
  fresh : b.FreshInTurn ls
  undeclared : ∀ l ∈ ls, l.name ∉ b.names
  distinct : (ls.map Local.name).Nodup
  /-- The locals are found under their names. -/
  declared : ∀ l ∈ ls, b'.local? l.name = some l
  /-- The types that the scan has found are right in the end as well. -/
  types_kept : ∀ (v : Value) (ty : Ty), v.ty? b = some ty → v.ty? b' = some ty
  /-- What the pass inserts is not selected, neither with the locals of the one body nor with those
  of the other. -/
  inserted : ∀ e ∈ b'.stmts, e.1 ∉ b.ids → (∃ l ∈ ls, ∃ v, e.2 = helperCall helper l.name v) ∧
    b.isWrapTarget selects e.2 = false ∧ b'.isWrapTarget selects e.2 = false
  sound : b'.Sound

/-- **The pass is exact and local.** It succeeds on every sound body, and it counts the calls that
it wraps. -/
theorem wrapFirstArgument_wrapped (hb : b.Sound) (helper : MethodRef) (selects : Ty → Bool) :
    ∃ ls b', b.wrapFirstArgument helper selects = (.ok ls.length, b') ∧
      b.Wrapped helper selects ls b' := by
  obtain ⟨ls, chain', hwraps, hfresh, hrun⟩ :=
    wrapCalls_wraps b helper selects (Halfway.start hb.nodup_ids hb.ids_lt)
  let b' : Body := { b.withLocals ls with stmts := chain', nextId := b.nextId + ls.length }
  have hcalls : wrapCalls helper (b.wrapTargets selects) b = (.ok (), b') := by
    rw [wrapTargets_eq]
    exact hrun
  -- Soundness comes from the history of the pass, and the chain from the scan.
  have hsound : b'.Sound := by
    have hevolves := b.wrapCalls_evolves helper (b.wrapTargets selects)
    rw [hcalls] at hevolves
    exact hevolves.sound hb
  have hlength : ls.length = b.statements.countP (b.isWrapTarget selects) := hwraps.length_eq
  have hnd := hfresh.nodup_names hb.nodup_names
  rw [names_withLocals, List.nodup_append] at hnd
  refine ⟨ls, b', ?_, ?_⟩
  · rw [wrapFirstArgument, hcalls, length_wrapTargets, hlength]
    rfl
  · exact
      { method_eq := rfl
        wraps := hwraps
        length_eq := hlength
        locals_eq := rfl
        fresh := hfresh
        undeclared := fun l hl hmem => hnd.2.2 l.name hmem l.name (List.mem_map_of_mem hl) rfl
        distinct := hnd.2.1
        declared := fun l hl =>
          local?_eq_some_of_mem hsound.nodup_names (List.mem_append_right _ hl)
        types_kept := fun v ty hty => ty?_of_locals hty (List.prefix_append _ _)
        inserted := fun e he hnew => by
          obtain hold | ⟨l, hl, v, hcall⟩ := hwraps.mem_cases he
          · exact absurd hold hnew
          · rw [hcall]
            exact ⟨⟨l, hl, v, rfl⟩, isWrapTarget_helperCall .., isWrapTarget_helperCall ..⟩
        sound := hsound }

end Body

namespace SampleWrapping

/-- The class of the method and of the helper. -/
def main : ClassName :=
  ⟨"a.Main".toList⟩

def chars : Ty :=
  .array .char

/-- Arrays of characters are copied before others see them. -/
def helper : MethodRef :=
  { cls := main, sig := ⟨chars, "copy".toList, [chars]⟩ }

/-- A call of a method that takes an array. -/
def use (args : List Value) : Invocation :=
  { kind := .static, base := none, method := ⟨main, ⟨chars, "use".toList, [chars]⟩⟩, args }

/-- One of the calls has its result assigned, and one has a first argument that is no array. -/
def body : Body :=
  { method := ⟨main, ⟨.void, "run".toList, []⟩⟩
    locals := [⟨"$r0".toList, chars⟩]
    stmts := [
      (⟨0⟩, .assignVar "$r0".toList (.call (use []))),
      (⟨1⟩, .invoke (use [.var "$r0".toList])),
      (⟨2⟩, .assignVar "$r0".toList (.call (use [.var "$r0".toList]))),
      (⟨3⟩, .invoke (use [.const (.int 4)])),
      (⟨4⟩, .invoke (use [.var "$r0".toList, .const (.int 4)])),
      (⟨5⟩, .ret none)]
    nextId := 6 }

/-- Two calls are wrapped, and the others stay. -/
theorem wrapFirstArgument_wrapped_body :
    body.Sound ∧ ∃ ls b',
      body.wrapFirstArgument helper (· == chars) = (.ok ls.length, b') ∧
        body.Wrapped helper (· == chars) ls b' ∧
        ls = [⟨"$r1".toList, chars⟩, ⟨"$r2".toList, chars⟩] ∧
        b'.ids.map StmtId.index = [0, 6, 1, 2, 3, 7, 4, 5] := by
  have hsound : body.Sound := ⟨by decide, by decide, by decide⟩
  obtain ⟨ls, b', hrun, hwrapped⟩ :=
    Body.wrapFirstArgument_wrapped hsound helper (· == chars)
  have hlocals : (body.wrapFirstArgument helper (· == chars)).2.locals =
      body.locals ++ [⟨"$r1".toList, chars⟩, ⟨"$r2".toList, chars⟩] := by decide +kernel
  have hids : (body.wrapFirstArgument helper (· == chars)).2.ids.map StmtId.index =
      [0, 6, 1, 2, 3, 7, 4, 5] := by decide +kernel
  rw [hrun] at hlocals hids
  exact ⟨hsound, ls, b', hrun, hwrapped,
    List.append_cancel_left (hwrapped.locals_eq.symm.trans hlocals), hids⟩

end SampleWrapping

end Weaver
