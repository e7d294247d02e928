import Mathlib.Data.List.Nodup
import Weaver.Jimple.Stmt

/-!
# The Locals of Statements

Which locals a statement reads and which one it assigns, and the order in which a list of
statements does so.

## Main definitions

* `Value.mentioned`, `Stmt.used`, `Stmt.assigned?`: the locals of values and statements.
* `DefinedBeforeUse`: locals are read only behind their assignment.
-/

namespace Weaver

/-! ### Values -/

mutual

/-- The locals that a value mentions. Verbatim code mentions all its words. -/
def Value.mentioned : Value → List Text
  | .var name => [name]
  | .instanceField base _ => [base]
  | .call ⟨_, base, _, args⟩ => base.toList ++ Value.mentionedIn args
  | .verbatim code => code.splitOnP fun c => !isWordChar c
  | .const _ | .alloc _ | .staticField _ => []

/-- The locals that the values of a list mention. -/
def Value.mentionedIn : List Value → List Text
  | [] => []
  | v :: vs => Value.mentioned v ++ Value.mentionedIn vs

end

/-- The locals that some values mention are those of each of them. -/
theorem Value.mentionedIn_eq_flatMap (vs : List Value) :
    Value.mentionedIn vs = vs.flatMap Value.mentioned := by
  induction vs with
  | nil => rfl
  | cons v vs ih => rw [Value.mentionedIn, ih, List.flatMap_cons]

/-- The locals that an invocation mentions. -/
def Call.mentioned (e : Invocation) : List Text :=
  e.base.toList ++ e.args.flatMap Value.mentioned

/-- A call mentions the locals of the invocation that it is. -/
theorem Value.mentioned_call (e : Invocation) : (Value.call e).mentioned = e.mentioned := by
  obtain ⟨kind, base, method, args⟩ := e
  rw [Value.mentioned, Call.mentioned, Value.mentionedIn_eq_flatMap]

/-! ### Statements -/

namespace Stmt

/-- The local that a statement gives a value to. -/
def assigned? : Stmt → Option Text
  | identity name _ => some name
  | assign (.var name) _ => some name
  | _ => none

/-- The locals whose values a statement reads. -/
def used : Stmt → List Text
  | identity _ _ => []
  | assign (.var _) rhs => rhs.mentioned
  | assign lhs rhs => lhs.mentioned ++ rhs.mentioned
  | invoke e => e.mentioned
  | ret value => value.toList.flatMap Value.mentioned
  | label _ => []
  | verbatim code => code.splitOnP fun c => !isWordChar c

/-- The locals that a statement mentions at all. -/
def mentioned (s : Stmt) : List Text :=
  s.assigned?.toList ++ s.used

@[simp] theorem assigned?_assignVar (name : Text) (rhs : Value) :
    (assignVar name rhs).assigned? = some name :=
  rfl

@[simp] theorem used_assignVar (name : Text) (rhs : Value) :
    (assignVar name rhs).used = rhs.mentioned :=
  rfl

@[simp] theorem assigned?_invoke (e : Invocation) : (invoke e).assigned? = none :=
  rfl

@[simp] theorem used_invoke (e : Invocation) : (invoke e).used = e.mentioned :=
  rfl

end Stmt

/-! ### Assignments before uses -/

/-- Every local that a statement reads is `known` from the start or **assigned further up**. -/
def DefinedBeforeUse : List Text → List Stmt → Prop
  | _, [] => True
  | known, s :: ss =>
    (∀ x ∈ s.used, x ∈ known) ∧ DefinedBeforeUse (known ++ s.assigned?.toList) ss

namespace DefinedBeforeUse

/-- More known locals do no harm. -/
theorem mono {known known' : List Text} {ss : List Stmt} (h : DefinedBeforeUse known ss)
    (hsub : known ⊆ known') : DefinedBeforeUse known' ss := by
  induction ss generalizing known known' with
  | nil => trivial
  | cons s ss ih =>
    refine ⟨fun x hx => hsub (h.1 x hx), ih h.2 ?_⟩
    exact List.append_subset_of_subset_of_subset
      (fun x hx => List.subset_append_left _ _ (hsub hx)) (List.subset_append_right _ _)

/-- Code may follow that uses what has been assigned before. -/
theorem append {known : List Text} {ss ts : List Stmt} (hs : DefinedBeforeUse known ss)
    (ht : DefinedBeforeUse (known ++ ss.filterMap Stmt.assigned?) ts) :
    DefinedBeforeUse known (ss ++ ts) := by
  induction ss generalizing known with
  | nil => simpa using ht
  | cons s ss ih =>
    refine ⟨hs.1, ih hs.2 ?_⟩
    cases hx : s.assigned? with
    | none => simpa [hx] using ht
    | some x => simpa [hx] using ht

/-- All that statements read is known or assigned by one of them. -/
theorem mem_of_mem_used {known : List Text} {ss : List Stmt} (h : DefinedBeforeUse known ss)
    {s : Stmt} (hs : s ∈ ss) {x : Text} (hx : x ∈ s.used) :
    x ∈ known ++ ss.filterMap Stmt.assigned? := by
  induction ss generalizing known with
  | nil => cases hs
  | cons s' ss ih =>
    obtain rfl | hs := List.mem_cons.1 hs
    · exact List.mem_append_left _ (h.1 x hx)
    · have := ih h.2 hs
      cases hx' : s'.assigned? with
      | none => simpa [hx'] using this
      | some y => simpa [hx'] using this

/-- **The assignment comes first.** If a local that is not known from the start is assigned
once, then nothing mentions it up to its assignment, and nothing assigns it afterwards. -/
theorem exists_split_of_nodup {known : List Text} {ss : List Stmt}
    (h : DefinedBeforeUse known ss) (hnd : (known ++ ss.filterMap Stmt.assigned?).Nodup)
    {x : Text} (hx : x ∈ ss.filterMap Stmt.assigned?) :
    ∃ before s after, ss = before ++ s :: after ∧ s.assigned? = some x ∧ x ∉ s.used ∧
      (∀ t ∈ before, x ∉ t.mentioned) ∧ ∀ t ∈ after, t.assigned? ≠ some x := by
  induction ss generalizing known with
  | nil => simp at hx
  | cons s ss ih =>
    have hfresh : x ∉ known := by
      intro hk
      exact (List.nodup_append.1 hnd).2.2 x hk x hx rfl
    have hunused : x ∉ s.used := fun hu => hfresh (h.1 x hu)
    by_cases hs : s.assigned? = some x
    · refine ⟨[], s, ss, rfl, hs, hunused, by simp, fun t ht htx => ?_⟩
      have htail : x ∈ ss.filterMap Stmt.assigned? := List.mem_filterMap.2 ⟨t, ht, htx⟩
      rw [List.filterMap_cons_some hs] at hnd
      exact (List.nodup_cons.1 (List.nodup_append.1 hnd).2.1).1 htail
    · have hrest : (known ++ s.assigned?.toList ++ ss.filterMap Stmt.assigned?).Nodup ∧
          x ∈ ss.filterMap Stmt.assigned? := by
        cases hy : s.assigned? with
        | none =>
          rw [List.filterMap_cons_none hy] at hnd hx
          exact ⟨by simpa using hnd, hx⟩
        | some y =>
          rw [List.filterMap_cons_some hy] at hnd hx
          have hne : x ≠ y := fun heq => hs (by rw [hy, heq])
          exact ⟨by simpa using hnd, (List.mem_cons.1 hx).resolve_left hne⟩
      obtain ⟨before, t, after, rfl, ht, hut, hbefore, hafter⟩ := ih h.2 hrest.1 hrest.2
      refine ⟨s :: before, t, after, rfl, ht, hut, ?_, hafter⟩
      intro u hu
      obtain rfl | hu := List.mem_cons.1 hu
      · simpa [Stmt.mentioned, hunused] using hs
      · exact hbefore u hu

end DefinedBeforeUse

end Weaver
