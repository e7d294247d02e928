import Weaver.Proofs.Jimple.Renaming.Verbatim

/-!
# Renaming Keeps Statements Well Formed

The written form of a value or a statement in which a local gets the mark is the written form
with the mark in it. What stands in places for locals stays a local, and verbatim code stays
verbatim, so that the statement is as well formed as before.

## Main results

* `Value.marked_text_rename`: renaming marks the written form.
* `Value.IsSource.rename`, `Value.IsTarget.rename`: values.
* `Stmt.WellFormed.rename`: **statements**.
-/

namespace Weaver

open Substitution (replacedName)

/-! ### Names -/

/-- The name of a replaced local can be that of a local. -/
theorem isLocalName_replacedName {w : Text} (hw : isLocalName w = true) :
    isLocalName (replacedName w) = true := by
  have hstart : ∀ {c : Char}, isNameStart c = true →
      (c.isAlphanum || c == '_' || c == '$') = true := by
    intro c hc
    rw [isNameStart, Bool.or_eq_true] at hc
    rw [Bool.or_assoc, Bool.or_eq_true, Bool.or_eq_true, isAlphanum_iff]
    obtain hc | hc := hc
    · exact .inl (.inl hc)
    · exact .inr (.inl hc)
  have hall : (w.all fun c => c.isAlphanum || c == '_' || c == '$') = true := by
    unfold isLocalName at hw
    split at hw
    · rw [Bool.and_eq_true] at hw
      rw [List.all_cons, List.all_cons, hstart hw.1, hw.2]
      rfl
    · rw [Bool.and_eq_true] at hw
      rw [List.all_cons, hstart hw.1, hw.2]
      rfl
    · cases hw
  have hform : isLocalName (replacedName w) =
      (("eplaced_".toList ++ w).all fun c => c.isAlphanum || c == '_' || c == '$') := rfl
  rw [hform, List.all_append, hall]
  rfl

/-- **The new name stands for nothing else**, whatever the old one was. -/
theorem isLocal_replacedName {w : Text} (hw : isLocalName w = true) : IsLocal (replacedName w) := by
  have hmem : '_' ∈ replacedName w := List.mem_append_left _ (by decide)
  refine ⟨isLocalName_replacedName hw, fun hnull => ?_, not_mem_stmtKeywords hmem rfl, rfl⟩
  rw [hnull] at hmem
  exact absurd hmem (by decide)

/-- Names of locals remain some. -/
theorem IsLocal.renameName {w name : Text} (hw : isLocalName w = true) (h : IsLocal name) :
    IsLocal (renameName w (replacedName w) name) := by
  unfold Weaver.renameName
  split
  · exact isLocal_replacedName hw
  · exact h

/-- Renaming a name marks it. -/
theorem Marked.renameName (w name : Text) :
    Marked w false name (renameName w (replacedName w) name) := by
  unfold Weaver.renameName
  split
  next hname =>
    subst hname
    simpa using Marked.word (w := name) (s := []) (by simp) .nil
  · exact .refl w _ name

section

variable {w : Text} (hw : isLocalName w = true)
include hw

/-! ### Written forms -/

omit hw in
/-- Texts with commas between them. -/
theorem Marked.join {ts ts' : List Text} (h : List.Forall₂ (Marked w false) ts ts') :
    Marked w false (Text.join ", ".toList ts) (Text.join ", ".toList ts') := by
  have hcomma : ∀ s t : Text, s ++ ", ".toList ++ t = s ++ ',' :: ' ' :: t := by simp
  induction h with
  | nil => exact .nil
  | @cons t t' ts ts' ht hts ih =>
    cases hts with
    | nil => exact ht
    | cons hu hus =>
      rw [Text.join_cons_cons, Text.join_cons_cons, hcomma, hcomma]
      exact ht.append rfl (ih.cons rfl)

omit hw in
/-- Renaming in an operand marks its written form. -/
theorem Value.IsOperand.marked_text_rename {v : Value} (h : v.IsOperand) :
    Marked w false v.text (v.rename w (replacedName w)).text := by
  cases v with
  | var name => exact .renameName w name
  | instanceField base field => exact (Marked.renameName w base).append rfl (.refl w _ _)
  | const c => exact .refl w _ _
  | alloc cls => exact .refl w _ _
  | staticField field => exact .refl w _ _
  | call e => cases h
  | verbatim code => cases h

omit hw in
/-- Renaming in an invocation marks its written form. -/
theorem Call.WellFormed.marked_text_rename {e : Invocation} (h : Call.WellFormed e) :
    Marked w false e.text (e.rename w (replacedName w)).text := by
  have hargs : Marked w false e.argsText (e.rename w (replacedName w)).argsText := by
    rw [argsText, argsText]
    refine Marked.join ?_
    rw [Call.rename, List.map_map, List.forall₂_map_left_iff, List.forall₂_map_right_iff,
      List.forall₂_same]
    exact fun v hv => (h.args v hv).marked_text_rename
  have hrest : ∀ run, Marked w run ('(' :: (e.argsText ++ ")".toList))
      ('(' :: ((e.rename w (replacedName w)).argsText ++ ")".toList)) :=
    fun run => (hargs.append rfl .nil).cons rfl
  have htarget : Marked w false (e.target ++ '(' :: (e.argsText ++ ")".toList))
      ((e.rename w (replacedName w)).target ++
        '(' :: ((e.rename w (replacedName w)).argsText ++ ")".toList)) := by
    obtain ⟨kind, base, method, args⟩ := e
    cases base with
    | none => exact .copy method.text hrest
    | some base =>
      have hbase := (Marked.renameName w base).append (c := '.') rfl (.copy method.text hrest)
      simpa [target, Call.rename] using hbase
  rw [e.text_eq, (e.rename w (replacedName w)).text_eq]
  exact .copy _ fun _ => htarget.cons rfl

/-- Renaming in what is assigned marks its written form. -/
theorem Value.IsSource.marked_text_rename {v : Value} (h : v.IsSource) :
    Marked w false v.text (v.rename w (replacedName w)).text := by
  obtain h | ⟨e, rfl, h⟩ | ⟨code, rfl, -⟩ := h
  · exact h.marked_text_rename
  · rw [Value.rename_call, Value.text_call, Value.text_call]
    exact h.marked_text_rename
  · exact .renameWord (isWord_of_isLocalName hw).1 code

/-! ### Values -/

/-- Operands remain operands. -/
theorem Value.IsOperand.rename {v : Value} (h : v.IsOperand) :
    (v.rename w (replacedName w)).IsOperand := by
  cases v with
  | var name => exact IsLocal.renameName hw h
  | instanceField base field => exact ⟨IsLocal.renameName hw h.1, h.2⟩
  | const c => exact h
  | alloc cls => exact h
  | staticField field => exact h
  | call e => cases h
  | verbatim code => cases h

/-- Invocations stay well formed. -/
theorem Call.WellFormed.rename {e : Invocation} (h : Call.WellFormed e) :
    Call.WellFormed (e.rename w (replacedName w)) where
  static := by
    rw [Call.rename, Option.map_eq_none_iff]
    exact h.static
  base := by
    intro name hname
    obtain ⟨old, hold, rfl⟩ := Option.map_eq_some_iff.1 hname
    exact (h.base old hold).renameName hw
  method := h.method
  args := by
    rw [Call.rename, List.forall_mem_map]
    exact fun v hv => (h.args v hv).rename hw

end

section

variable {w : Text} (hw : IsPlainName w)
include hw

/-- **The right-hand sides of assignments.** -/
theorem Value.IsSource.rename {v : Value} (h : v.IsSource) :
    (v.rename w (replacedName w)).IsSource := by
  obtain h | ⟨e, rfl, h⟩ | ⟨code, rfl, h⟩ := h
  · exact .inl (h.rename hw.form)
  · rw [Value.rename_call]
    exact .inr (.inl ⟨_, rfl, h.rename hw.form⟩)
  · have hmarked := Marked.renameWord (isWord_of_isLocalName hw.form).1 code
    exact .inr (.inr ⟨_, rfl, hmarked.isExpression hw h⟩)

/-- **The left-hand sides of assignments.** -/
theorem Value.IsTarget.rename {lhs rhs : Value} (h : lhs.IsTarget rhs) (hrhs : rhs.IsSource) :
    (lhs.rename w (replacedName w)).IsTarget (rhs.rename w (replacedName w)) := by
  cases lhs with
  | var name => exact IsLocal.renameName hw.form h
  | instanceField base field => exact ⟨IsLocal.renameName hw.form h.1, h.2⟩
  | staticField field => exact h
  | verbatim code =>
    obtain ⟨hcode, hcut, hline⟩ := h
    have hmarked := Marked.renameWord (isWord_of_isLocalName hw.form).1 code
    have hassign : ∀ {t t' : Text}, Marked w false t t' →
        Marked w false (code ++ " = ".toList ++ t)
          (Text.renameWord w (replacedName w) code ++ " = ".toList ++ t') := by
      intro t t' ht
      have hsign : ∀ a b : Text, a ++ " = ".toList ++ b = a ++ ' ' :: '=' :: ' ' :: b := by simp
      have hblank : Marked w false (' ' :: t) (' ' :: t') := ht.cons rfl
      have hequals : Marked w false ('=' :: ' ' :: t) ('=' :: ' ' :: t') := hblank.cons rfl
      rw [hsign, hsign]
      exact hmarked.append rfl hequals
    refine ⟨hmarked.isExpression hw hcode, ?_,
      (hassign (hrhs.marked_text_rename hw.form)).isPlainLine hw.toIsLocal hline⟩
    have hend := hassign (.nil : Marked w false [] [])
    rw [List.append_nil, List.append_nil] at hend
    have hrel : Option.Rel (MarkedPieces w false)
        (Text.cutOutside? " = ".toList .outside (code ++ " = ".toList))
        (Text.cutOutside? " = ".toList .outside
          (Text.renameWord w (replacedName w) code ++ " = ".toList)) :=
      hend.cutOutside? hw.form (by decide) .outside
    rw [hcut] at hrel
    obtain ⟨⟨a', b'⟩, hcut', -, hrest⟩ := exists_of_some_rel hrel
    obtain rfl := (hrest.eq_nil_iff hw.form).1 rfl
    have hsplit := Text.cutOutside?_eq_some hcut'
    rw [List.append_nil, List.append_cancel_right_eq] at hsplit
    rw [hcut', hsplit]
  | const c => cases h
  | alloc cls => cases h
  | call e => cases h

/-! ### Statements -/

/-- **Statements** stay well formed when a local gets the mark. -/
theorem Stmt.WellFormed.rename {s : Stmt} (h : s.WellFormed) :
    (s.rename w (replacedName w)).WellFormed := by
  cases s with
  | identity name rhs => exact ⟨h.1.renameName hw.form, h.2⟩
  | assign lhs rhs => exact ⟨h.1.rename hw h.2, h.2.rename hw⟩
  | invoke e => exact Call.WellFormed.rename hw.form h
  | ret value =>
    intro v hv
    obtain ⟨old, hold, rfl⟩ := Option.map_eq_some_iff.1 hv
    exact (h old hold).rename hw.form
  | label name => exact h
  | verbatim code =>
    have hmarked := Marked.renameWord (isWord_of_isLocalName hw.form).1 code
    obtain h | h := h
    · exact .inl (hmarked.isPlainCode hw.toIsLocal h)
    · exact .inr (hmarked.isSwitchBlock hw.toIsLocal h).1

end

end Weaver
