import Weaver.Proofs.Text.Cutting

/-!
# Replacing in a Text

Replacing passes over a text from left to right. Where the pattern begins it is passed over as a
whole, and any other character is kept. So a statement about all texts needs three cases only:
the empty text, a text behind an occurrence of the pattern, and a text behind a character where
the pattern does not begin.

A character that is not in the pattern separates: no occurrence stretches across it, and both sides
are replaced on their own.

## Main results

* `Text.replaceAll_induction`: the three cases.
* `Text.replaceAll_append_cons`, `Text.replaceAll_join`: **replacing between separators**.
* `Text.replaceAll_eq_self_iff`: a text is unchanged if and only if the pattern does not occur.
-/

namespace Weaver.Text

variable {p new s : Text}

/-! ### Occurrences -/

/-- A text starts with another one if there is a rest behind it. -/
theorem startsWith_iff : startsWith s p = true ↔ ∃ rest, s = p ++ rest := by
  rw [startsWith, Option.isSome_iff_exists]
  exact exists_congr fun rest => stripPrefix?_eq_some_iff

/-- Where the pattern does not begin, it occurs in the rest or not at all. -/
theorem contains_cons {c : Char} (h : startsWith (c :: s) p = false) :
    contains (c :: s) p = contains s p := by
  rw [startsWith, Option.isSome_eq_false_iff, Option.isNone_iff_eq_none] at h
  rw [contains, cutAt?, h, Option.isSome_map, contains]

/-- A text is contained in what it begins. -/
theorem contains_append_self (p s : Text) : contains (p ++ s) p = true :=
  contains_of_infix (List.prefix_append p s).isInfix

theorem contains_nil (hp : p ≠ []) : contains [] p = false := by
  rw [contains, cutAt?, if_neg hp]
  rfl

/-! ### One step -/

/-- The characters that are passed over do not matter. -/
theorem replaceFrom_eq_drop (p new : Text) (skip : Nat) (s : Text) :
    replaceFrom p new skip s = replaceFrom p new 0 (s.drop skip) := by
  induction skip generalizing s with
  | zero => rfl
  | succ skip ih =>
    cases s with
    | nil => rw [List.drop_nil, replaceFrom, replaceFrom]
    | cons c s => rw [replaceFrom, ih, List.drop_succ_cons]

theorem replaceAll_nil (hp : p ≠ []) (new : Text) : replaceAll p new [] = [] := by
  rw [replaceAll, if_neg hp, replaceFrom]

/-- An occurrence of the pattern is replaced. -/
theorem replaceAll_append_self (hp : p ≠ []) (new s : Text) :
    replaceAll p new (p ++ s) = new ++ replaceAll p new s := by
  obtain ⟨c, p, rfl⟩ := List.exists_cons_of_ne_nil hp
  have hstarts : startsWith (c :: (p ++ s)) (c :: p) = true := startsWith_iff.2 ⟨s, rfl⟩
  rw [replaceAll, if_neg hp, replaceAll, if_neg hp, List.cons_append, replaceFrom, if_pos hstarts,
    replaceFrom_eq_drop, List.length_cons, Nat.add_sub_cancel, List.drop_left]

/-- A character that begins no occurrence is kept. -/
theorem replaceAll_cons (hp : p ≠ []) {c : Char} (h : startsWith (c :: s) p = false) (new : Text) :
    replaceAll p new (c :: s) = c :: replaceAll p new s := by
  rw [replaceAll, if_neg hp, replaceFrom, h, if_neg Bool.false_ne_true, replaceAll, if_neg hp]

/-- **The cases of a text in which a pattern is replaced.** -/
theorem replaceAll_induction (hp : p ≠ []) {motive : Text → Prop} (nil : motive [])
    (occurrence : ∀ s, motive s → motive (p ++ s))
    (other : ∀ c s, startsWith (c :: s) p = false → motive s → motive (c :: s)) (s : Text) :
    motive s := by
  induction hn : s.length using Nat.strongRecOn generalizing s with
  | _ n ih =>
    cases s with
    | nil => exact nil
    | cons c s =>
      cases hstarts : startsWith (c :: s) p with
      | false => exact other c s hstarts (ih s.length (hn ▸ Nat.lt_succ_self _) s rfl)
      | true =>
        obtain ⟨rest, hrest⟩ := startsWith_iff.1 hstarts
        have hlength : rest.length < n := by
          have hpos := List.length_pos_of_ne_nil hp
          rw [← hn, hrest, List.length_append]
          omega
        rw [hrest]
        exact occurrence rest (ih rest.length hlength rest rfl)

/-! ### A whole text -/

/-- A text that is to be replaced is replaced as a whole. -/
theorem replaceAll_self (hp : p ≠ []) (new : Text) : replaceAll p new p = new := by
  have h := replaceAll_append_self hp new []
  rwa [List.append_nil, replaceAll_nil hp, List.append_nil] at h

/-- No occurrence stretches across a character that the pattern lacks. -/
theorem replaceAll_append_cons (hp : p ≠ []) {c : Char} (hc : c ∉ p) (new a b : Text) :
    replaceAll p new (a ++ c :: b) = replaceAll p new a ++ c :: replaceAll p new b := by
  have hstarts : ∀ a, startsWith (a ++ c :: b) p = startsWith a p :=
    fun a => startsWith_append_cons hc a b
  induction a using replaceAll_induction hp with
  | nil =>
    have hhead : startsWith (c :: b) p = false := by
      rw [← List.nil_append (c :: b), hstarts, startsWith, Option.isSome_eq_false_iff,
        Option.isNone_iff_eq_none, stripPrefix?_eq_none_iff]
      exact fun rest h => hp (List.append_eq_nil_iff.1 h.symm).1
    rw [List.nil_append, replaceAll_cons hp hhead, replaceAll_nil hp, List.nil_append]
  | occurrence a ih =>
    rw [List.append_assoc, replaceAll_append_self hp, ih, replaceAll_append_self hp,
      List.append_assoc]
  | other d a hd ih =>
    rw [List.cons_append, replaceAll_cons hp (by rw [← List.cons_append, hstarts, hd]), ih,
      replaceAll_cons hp hd, List.cons_append]

/-- A character that is not in the text to replace stays in front. -/
theorem replaceAll_cons_of_not_mem (hp : p ≠ []) {c : Char} (hc : c ∉ p) (new s : Text) :
    replaceAll p new (c :: s) = c :: replaceAll p new s := by
  have h := replaceAll_append_cons hp hc new [] s
  rwa [List.nil_append, replaceAll_nil hp] at h

/-- **Replacing between separators** that the pattern lacks. -/
theorem replaceAll_join (hp : p ≠ []) {c : Char} (hc : c ∉ p) (new : Text) (ts : List Text) :
    replaceAll p new (join [c] ts) = join [c] (ts.map (replaceAll p new)) := by
  induction ts with
  | nil => exact replaceAll_nil hp new
  | cons t ts ih =>
    cases ts with
    | nil => rfl
    | cons u ts =>
      rw [List.map_cons, List.map_cons, join_cons_cons, join_cons_cons, List.append_assoc,
        List.singleton_append, replaceAll_append_cons hp hc, ih, List.map_cons, List.append_assoc,
        List.singleton_append]

/-- Nothing but the characters of the text and of the replacement. -/
theorem mem_replaceAll (hp : p ≠ []) {c : Char} (h : c ∈ replaceAll p new s) : c ∈ new ∨ c ∈ s := by
  induction s using replaceAll_induction hp with
  | nil => exact .inr (replaceAll_nil hp new ▸ h)
  | occurrence s ih =>
    rw [replaceAll_append_self hp, List.mem_append] at h
    obtain h | h := h
    · exact .inl h
    · exact (ih h).imp_right (List.mem_append_right p)
  | other d s hd ih =>
    rw [replaceAll_cons hp hd, List.mem_cons] at h
    obtain rfl | h := h
    · exact .inr List.mem_cons_self
    · exact (ih h).imp_right (List.mem_cons_of_mem d)

/-- Replacing by something leaves something. -/
theorem replaceAll_ne_nil (hp : p ≠ []) (hnew : new ≠ []) (hs : s ≠ []) :
    replaceAll p new s ≠ [] := by
  induction s using replaceAll_induction hp with
  | nil => exact absurd rfl hs
  | occurrence s _ =>
    rw [replaceAll_append_self hp]
    exact List.append_ne_nil_of_left_ne_nil hnew _
  | other c s hc _ =>
    rw [replaceAll_cons hp hc]
    exact List.cons_ne_nil _ _

/-- Each occurrence changes the length by the same amount. -/
theorem exists_length_replaceAll (hp : p ≠ []) (new s : Text) :
    ∃ n, (replaceAll p new s).length + n * p.length = s.length + n * new.length := by
  induction s using replaceAll_induction hp with
  | nil => exact ⟨0, by rw [replaceAll_nil hp, Nat.zero_mul, Nat.zero_mul]⟩
  | occurrence s ih =>
    obtain ⟨n, hn⟩ := ih
    refine ⟨n + 1, ?_⟩
    rw [replaceAll_append_self hp, List.length_append, List.length_append, Nat.succ_mul,
      Nat.succ_mul]
    omega
  | other c s hc ih =>
    obtain ⟨n, hn⟩ := ih
    refine ⟨n, ?_⟩
    rw [replaceAll_cons hp hc, List.length_cons, List.length_cons]
    omega

/-- What is replaced changes: by its length or, if this is the same, at the occurrence itself. -/
theorem append_replaceAll_ne (hp : p ≠ []) (hne : p ≠ new) (s : Text) :
    new ++ replaceAll p new s ≠ p ++ s := by
  intro h
  obtain ⟨n, hn⟩ := exists_length_replaceAll hp new s
  have hlength : (n + 1) * new.length = (n + 1) * p.length := by
    have h := congrArg List.length h
    rw [List.length_append, List.length_append] at h
    rw [Nat.succ_mul, Nat.succ_mul]
    omega
  exact hne (List.append_inj_left h (Nat.eq_of_mul_eq_mul_left n.succ_pos hlength)).symm

/-- **A text is unchanged** if and only if the pattern does not occur. -/
theorem replaceAll_eq_self_iff (hp : p ≠ []) (hne : p ≠ new) :
    replaceAll p new s = s ↔ contains s p = false := by
  induction s using replaceAll_induction hp with
  | nil => exact iff_of_true (replaceAll_nil hp new) (contains_nil hp)
  | occurrence s _ =>
    rw [replaceAll_append_self hp, contains_append_self]
    exact iff_of_false (append_replaceAll_ne hp hne s) Bool.noConfusion
  | other c s hc ih =>
    rw [replaceAll_cons hp hc, List.cons.injEq, and_iff_right rfl, ih, contains_cons hc]

end Weaver.Text
