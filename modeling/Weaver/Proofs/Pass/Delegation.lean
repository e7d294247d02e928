import Weaver.Proofs.Pass.Splicing

/-!
# Insertions into Constructors

A constructor has to call another constructor on its receiver before it may do anything else
with it. Statements that are inserted at the beginning go behind this call if it stands directly
behind the identity statements. The prologue is not searched any further: if the arguments of the
call are computed first, the new statements go in front of that computation, and so in front of
the call.

## Main definitions

* `Body.Delegates`: the calls in question.

## Main results

* `Body.lt_prologueLength_iff`: when a call belongs to the prologue.
* `Body.insertAtBeginning_behind_iff`: **when new statements stand behind the call**.
* `SampleConstructor.insertAtBeginning_inFront`: arguments that are computed first.
-/

namespace Weaver

namespace Body

variable {b : Body}

/-- A statement **delegates** the construction: it is a special call of a constructor on the local
that an identity statement binds to the receiver. -/
def Delegates (b : Body) (s : Stmt) : Prop :=
  ∃ (e : Invocation) (this : Text) (ty : Ty), s = .invoke e ∧ e.kind = .special ∧
    e.method.sig.name = constructorName ∧ e.base = some this ∧
    .identity this (.this ty) ∈ b.statements

/-- A call of a method with the name of the body's own belongs to **the prologue** exactly if only
identity statements stand in front of it. -/
theorem lt_prologueLength_iff {pre post : List Stmt} {e : Invocation}
    (hb : b.statements = pre ++ .invoke e :: post)
    (hname : e.method.sig.name = b.method.sig.name) :
    pre.length < b.prologueLength ↔ ∀ s ∈ pre, s.isIdentity = true := by
  have hcall : delegatesTo b.method.sig.name (some (.invoke e)) = true :=
    delegatesTo_iff.2 ⟨e, rfl, hname⟩
  constructor
  · intro hlt
    obtain ⟨bindings, rest, hcut, hbindings, -, hlength⟩ := b.exists_bindings
    have hle : pre.length ≤ bindings.length := by
      rw [hlength] at hlt
      split at hlt <;> omega
    have hpre : pre <+: bindings :=
      List.prefix_of_prefix_length_le (hb ▸ List.prefix_append _ _)
        (hcut ▸ List.prefix_append _ _) hle
    exact fun s hs => hbindings s (hpre.subset hs)
  · intro hall
    have hbindings : b.statements.takeWhile Stmt.isIdentity = pre := by
      rw [hb, List.takeWhile_append_of_pos hall, List.takeWhile_cons_of_neg Bool.false_ne_true,
        List.append_nil]
    have hnext : b.statements[pre.length]? = some (.invoke e) := by
      rw [hb, List.getElem?_append_right (Nat.le_refl _), Nat.sub_self, List.getElem?_cons_zero]
    rw [prologueLength, hbindings, hnext, if_pos (delegatesTo_iff.2 ⟨e, rfl, hname⟩)]
    exact Nat.lt_succ_self _

/-- The identity statements belong to the prologue. -/
theorem length_bindings_le (b : Body) :
    (b.statements.takeWhile Stmt.isIdentity).length ≤ b.prologueLength := by
  rw [prologueLength]
  split
  · exact Nat.le_succ _
  · exact Nat.le_refl _

/-- **New statements in a constructor.** They are put in behind the identity statements, and
behind a call that delegates exactly if nothing but identity statements stands in front of it.
Otherwise they are put in front of the call. -/
theorem insertAtBeginning_behind_iff (hnd : b.ids.Nodup)
    (hlt : ∀ id ∈ b.ids, id.index < b.nextId) (hname : b.method.sig.name = constructorName)
    {pre post : List (StmtId × Stmt)} {call : StmtId × Stmt} (hb : b.stmts = pre ++ call :: post)
    (hcall : b.Delegates call.2) (new : List Stmt) :
    ∃ before after ids b', b.insertAtBeginning new = .ok (ids, b') ∧
      b.Spliced before after new ids b' ∧
      (b.stmts.takeWhile fun e => e.2.isIdentity) <+: before ∧
      (pre ++ [call] <+: before ↔ ∀ e ∈ pre, e.2.isIdentity = true) ∧
      (¬ (∀ e ∈ pre, e.2.isIdentity = true) → before <+: pre) := by
  obtain ⟨e, this, ty, he, -, hcallee, -⟩ := hcall
  have hstatements : b.statements = pre.map Prod.snd ++ .invoke e :: post.map Prod.snd := by
    rw [statements, hb, List.map_append, List.map_cons, he]
  have hiff := lt_prologueLength_iff hstatements (hcallee.trans hname.symm)
  rw [List.length_map, List.forall_mem_map] at hiff
  refine ⟨_, _, _, _, insertAtBeginning_eq hnd new, insertAt_spliced hnd hlt _ new, ?_, ?_, ?_⟩
  · rw [List.prefix_take_iff]
    refine ⟨List.takeWhile_prefix _, ?_⟩
    have hlength := b.length_bindings_le
    rwa [statements, List.takeWhile_map, List.length_map] at hlength
  · have hprefix : pre ++ [call] <+: b.stmts := ⟨post, by rw [hb, List.append_assoc]; rfl⟩
    rw [List.prefix_take_iff, and_iff_right hprefix, List.length_append, ← hiff]
    exact Iff.rfl
  · intro hbetween
    have hle : b.prologueLength ≤ pre.length := Nat.le_of_not_lt fun h => hbetween (hiff.1 h)
    rw [hb, List.take_append_of_le_length hle]
    exact List.take_prefix _ _

end Body

namespace SampleConstructor

/-- The superclass is constructed with a number. -/
def numberedCall : Stmt :=
  .invoke ⟨.special, some "r0".toList,
    { cls := ⟨"a.Base".toList⟩
      sig := { ret := .void, name := constructorName, params := [.int] } }, [.var "i0".toList]⟩

/-- The number is loaded before the superclass is constructed with it. -/
def computed : Body :=
  { body with
    locals := body.locals ++ [⟨"i0".toList, .int⟩]
    stmts := [
      (⟨0⟩, .identity "r0".toList (.this (.class_ "a.Main".toList))),
      (⟨1⟩, .assignVar "i0".toList (.const (.int 4))),
      (⟨2⟩, numberedCall),
      (⟨3⟩, .ret none)]
    nextId := 4 }

theorem delegates_superCall : body.Delegates superCall :=
  ⟨_, "r0".toList, .class_ "a.Main".toList, rfl, rfl, rfl, rfl, List.mem_cons_self⟩

theorem delegates_numberedCall : computed.Delegates numberedCall :=
  ⟨_, "r0".toList, .class_ "a.Main".toList, rfl, rfl, rfl, rfl, List.mem_cons_self⟩

/-- The call stands directly behind the identity statement, and the new statement behind it. -/
theorem insertAtBeginning_behind_body :
    body.ids.Nodup ∧ (∀ id ∈ body.ids, id.index < body.nextId) ∧
      body.method.sig.name = constructorName ∧ body.Delegates superCall ∧
      ∃ before after ids b', body.insertAtBeginning [nop] = .ok (ids, b') ∧
        body.Spliced before after [nop] ids b' ∧ body.stmts.take 2 <+: before := by
  have hnd : body.ids.Nodup := by decide
  have hlt : ∀ id ∈ body.ids, id.index < body.nextId := by decide
  obtain ⟨before, after, ids, b', hrun, hspliced, -, hbehind, -⟩ :=
    Body.insertAtBeginning_behind_iff hnd hlt rfl (show body.stmts =
      body.stmts.take 1 ++ (⟨1⟩, superCall) :: body.stmts.drop 2 from rfl)
      delegates_superCall [nop]
  exact ⟨hnd, hlt, rfl, delegates_superCall, before, after, ids, b', hrun, hspliced,
    hbehind.2 (by decide)⟩

/-- **The argument is computed first**, and the new statement goes in front of both, although the
call is the first one that delegates. -/
theorem insertAtBeginning_inFront :
    computed.Sound ∧ computed.method.sig.name = constructorName ∧
      computed.Delegates numberedCall ∧
      ∃ ids b', computed.insertAtBeginning [nop] = .ok (ids, b') ∧
        b'.statements.map Stmt.text = [
          "r0 := @this: a.Main".toList,
          "nop".toList,
          "i0 = 4".toList,
          "specialinvoke r0.<a.Base: void <init>(int)>(i0)".toList,
          "return".toList] := by
  refine ⟨⟨by decide, by decide, by decide⟩, rfl, delegates_numberedCall, _, _, rfl, ?_⟩
  decide +kernel

end SampleConstructor

end Weaver
