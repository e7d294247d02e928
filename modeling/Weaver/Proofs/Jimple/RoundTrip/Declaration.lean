import Mathlib.Data.List.Perm.Basic
import Weaver.Jimple.Reader.Body
import Weaver.Proofs.Jimple.FreshLocals
import Weaver.Proofs.Jimple.RoundTrip.Line
import Weaver.Proofs.Jimple.RoundTrip.Stmt

/-!
# Reading Back Declarations

The printer declares the locals of one type together, so that reading gives back the locals
of a body in another order, group by group. Grouping them once more changes nothing.

## Main results

* `Body.perm_declared_groups`: **grouping only reorders** the locals.
* `Body.groups_declared_groups`: grouping grouped locals gives the same groups.
* `readDeclaration?_declaration`: a declaration is read back.
* `readDeclaration?_eq_none_of_char`: what has an assignment behind its first word declares
  nothing.
-/

namespace Weaver

namespace Body

/-! ### Groups -/

/-- The locals that groups declare. -/
def declared (gs : List (Ty × List Text)) : List Local :=
  gs.flatMap fun g => g.2.map fun name => { name, ty := g.1 }

theorem declared_cons (g : Ty × List Text) (gs : List (Ty × List Text)) :
    declared (g :: gs) = (g.2.map fun name => { name, ty := g.1 }) ++ declared gs :=
  rfl

/-- Two lists of groups declare what each of them declares. -/
theorem declared_append (gs gs' : List (Ty × List Text)) :
    declared (gs ++ gs') = declared gs ++ declared gs' :=
  List.flatMap_append

/-- Adding a local to the groups declares it and what was declared before. -/
theorem perm_declared_addToGroups (l : Local) (gs : List (Ty × List Text)) :
    (declared (addToGroups l gs)).Perm (l :: declared gs) := by
  induction gs with
  | nil => exact List.Perm.refl _
  | cons g gs ih =>
    obtain ⟨ty, names⟩ := g
    rw [addToGroups]
    split
    next hty =>
      subst hty
      rw [declared_cons, declared_cons, List.map_append, List.append_assoc]
      exact List.perm_middle
    next hty =>
      rw [declared_cons, declared_cons]
      exact (List.Perm.append_left _ ih).trans List.perm_middle

/-- Adding many locals declares them and what was declared before. -/
theorem perm_declared_foldl (ls : List Local) (gs : List (Ty × List Text)) :
    (declared (ls.foldl (fun gs l => addToGroups l gs) gs)).Perm (declared gs ++ ls) := by
  induction ls generalizing gs with
  | nil => rw [List.append_nil]; exact List.Perm.refl _
  | cons l ls ih =>
    refine (ih _).trans (((perm_declared_addToGroups l gs).append_right ls).trans ?_)
    exact List.perm_middle.symm

/-- **Grouping only reorders** the locals. -/
theorem perm_declared_groups (ls : List Local) : (declared (groups ls)).Perm ls :=
  perm_declared_foldl ls []

/-! ### Every group is one -/

/-- Groups of pairwise different types, none of which is empty. -/
structure Grouped (gs : List (Ty × List Text)) : Prop where
  types : (gs.map Prod.fst).Nodup
  inhabited : ∀ g ∈ gs, g.2 ≠ []

/-- A local opens a group exactly if its type has none. -/
theorem map_fst_addToGroups (l : Local) (gs : List (Ty × List Text)) :
    (addToGroups l gs).map Prod.fst =
      if l.ty ∈ gs.map Prod.fst then gs.map Prod.fst else gs.map Prod.fst ++ [l.ty] := by
  induction gs with
  | nil => rfl
  | cons g gs ih =>
    obtain ⟨ty, names⟩ := g
    rw [addToGroups]
    split
    next hty => rw [hty, List.map_cons, List.map_cons, if_pos List.mem_cons_self]
    next hty =>
      have hmem : l.ty ∈ ty :: gs.map Prod.fst ↔ l.ty ∈ gs.map Prod.fst := by
        rw [List.mem_cons, or_iff_right (fun h => hty h.symm)]
      rw [List.map_cons, List.map_cons, ih]
      simp only [hmem]
      split <;> rfl

/-- Adding a local keeps one non-empty group for each type. -/
theorem Grouped.addToGroups {gs : List (Ty × List Text)} (h : Grouped gs) (l : Local) :
    Grouped (addToGroups l gs) where
  types := by
    rw [map_fst_addToGroups]
    split
    · exact h.types
    next hmem => exact List.nodup_append_comm.1 (List.nodup_cons.2 ⟨hmem, h.types⟩)
  inhabited := by
    have hall := h.inhabited
    clear h
    induction gs with
    | nil =>
      intro g hg
      rw [List.mem_singleton.1 hg]
      exact List.cons_ne_nil _ _
    | cons g gs ih =>
      obtain ⟨ty, names⟩ := g
      rw [List.forall_mem_cons] at hall
      rw [Body.addToGroups]
      split
      · rw [List.forall_mem_cons]
        exact ⟨List.append_ne_nil_of_right_ne_nil _ (List.cons_ne_nil _ _), hall.2⟩
      · rw [List.forall_mem_cons]
        exact ⟨hall.1, ih hall.2⟩

/-- Grouping yields one non-empty group for each type. -/
theorem grouped_groups (ls : List Local) : Grouped (groups ls) := by
  have hfold : ∀ gs, Grouped gs → Grouped (ls.foldl (fun gs l => addToGroups l gs) gs) := by
    induction ls with
    | nil => exact fun gs h => h
    | cons l ls ih => exact fun gs h => ih _ (h.addToGroups l)
  exact hfold [] ⟨List.nodup_nil, by simp⟩

/-- A local of a new type goes to the groups behind. -/
theorem addToGroups_append {l : Local} {gs : List (Ty × List Text)} (h : l.ty ∉ gs.map Prod.fst)
    (gs' : List (Ty × List Text)) : addToGroups l (gs ++ gs') = gs ++ addToGroups l gs' := by
  induction gs with
  | nil => rfl
  | cons g gs ih =>
    obtain ⟨ty, names⟩ := g
    obtain ⟨hty, h⟩ : l.ty ≠ ty ∧ l.ty ∉ gs.map Prod.fst := by simpa using h
    rw [List.cons_append, addToGroups, if_neg hty.symm, ih h, List.cons_append]

/-- Locals of a new type are added to a group of their own. -/
theorem foldl_addToGroups {ty : Ty} {gs : List (Ty × List Text)} (h : ty ∉ gs.map Prod.fst)
    (done names : List Text) (hdone : done ≠ []) :
    (names.map fun name => ({ name, ty } : Local)).foldl (fun gs l => addToGroups l gs)
      (gs ++ [(ty, done)]) = gs ++ [(ty, done ++ names)] := by
  induction names generalizing done with
  | nil => rw [List.append_nil]; rfl
  | cons name names ih =>
    have hadd : addToGroups { name, ty } (gs ++ [(ty, done)]) = gs ++ [(ty, done ++ [name])] := by
      rw [addToGroups_append h, addToGroups, if_pos rfl]
    rw [List.map_cons, List.foldl_cons, hadd,
      ih _ (List.append_ne_nil_of_left_ne_nil hdone _), List.append_assoc, List.singleton_append]

/-- **Grouping what groups declare gives the groups back.** -/
theorem foldl_declared {gs gs' : List (Ty × List Text)} (h : Grouped (gs ++ gs')) :
    (declared gs').foldl (fun gs l => addToGroups l gs) gs = gs ++ gs' := by
  induction gs' generalizing gs with
  | nil => rw [List.append_nil]; rfl
  | cons g gs' ih =>
    obtain ⟨ty, names⟩ := g
    have hty : ty ∉ gs.map Prod.fst := by
      have hnodup := h.types
      rw [List.map_append, List.nodup_append] at hnodup
      exact fun hmem => hnodup.2.2 ty hmem ty (by simp) rfl
    have hform : gs ++ (ty, names) :: gs' = (gs ++ [(ty, names)]) ++ gs' := by simp
    rw [hform] at h ⊢
    have hne : names ≠ [] := h.inhabited (ty, names) (by simp)
    obtain ⟨name, rest, rfl⟩ := List.exists_cons_of_ne_nil hne
    have hadd : addToGroups { name, ty } gs = gs ++ [(ty, [name])] := by
      have := addToGroups_append (l := { name, ty }) hty []
      rwa [List.append_nil] at this
    rw [declared_cons, List.foldl_append, List.map_cons, List.foldl_cons, hadd,
      foldl_addToGroups hty [name] rest (List.cons_ne_nil _ _), List.singleton_append, ih h]

/-- **Grouping grouped locals gives the same groups.** -/
theorem groups_declared_groups (ls : List Local) : groups (declared (groups ls)) = groups ls := by
  have hgrouped : Grouped ([] ++ groups ls) := grouped_groups ls
  exact foldl_declared hgrouped

end Body

/-! ### Declarations -/

/-- No type is written like a reserved word that stands for none. -/
theorem Ty.WellFormed.text_ne {ty : Ty} (h : ty.WellFormed) {w : Text} (hw : w ∈ reservedWords)
    (hfree : w ∉ Ty.named.map Ty.text) (hopen : '[' ∉ w) : ty.text ≠ w := by
  rintro rfl
  cases ty with
  | ref cls => exact ClassName.WellFormed.free h hw
  | array elem =>
    refine hopen ?_
    rw [text_array]
    exact List.mem_append_right _ (by decide)
  | _ => exact hfree (by decide)

/-- No type is written as a keyword of statements. -/
theorem Ty.WellFormed.not_mem_stmtKeywords {ty : Ty} (h : ty.WellFormed) :
    ty.text ∉ stmtKeywords := by
  have hspec : ∀ w ∈ stmtKeywords, w ∉ Ty.named.map Ty.text ∧ '[' ∉ w := by decide
  intro hmem
  obtain ⟨hfree, hopen⟩ := hspec _ hmem
  exact h.text_ne (List.mem_append_right _ hmem) hfree hopen rfl

/-- The declaration of a group without the white space around it. -/
def declaration (g : Ty × List Text) : Text :=
  g.1.text ++ ' ' :: Text.join ", ".toList g.2 ++ ";".toList

/-- **What a declaration is**: a type without spaces that is no keyword, a space and names between
commas. -/
theorem readDeclaration?_eq_some_iff {line : Text} {ls : List Local} :
    readDeclaration? line = some ls ↔ ∃ ty names t, line = ty ++ ' ' :: names ++ ";".toList ∧
      ' ' ∉ ty ∧ ty ∉ stmtKeywords ∧ Ty.read? ty = some t ∧
      (∀ name ∈ Text.splitOn ',' names, isLocalName (Text.trim name) = true) ∧
      ls = (Text.splitOn ',' names).map fun name => { name := Text.trim name, ty := t } := by
  simp only [readDeclaration?, Option.bind_eq_bind, Option.bind_eq_some_iff,
    Text.stripSuffix?_eq_some_iff, Prod.exists]
  constructor
  · rintro ⟨decl, rfl, ty, names, hcut, h⟩
    obtain ⟨rfl, hty⟩ := Text.cutAtChar?_eq_some hcut
    split at h
    · cases h
    next hfree =>
      obtain ⟨t, ht, h⟩ := Option.bind_eq_some_iff.1 h
      split at h
      next hnames =>
        obtain rfl := Option.some.inj h
        refine ⟨ty, names, t, rfl, hty, by simpa using hfree, ht, ?_, ?_⟩
        · rwa [List.all_map, List.all_eq_true] at hnames
        · rw [List.map_map]
          rfl
      · cases h
  · rintro ⟨ty, names, t, rfl, hty, hfree, ht, hnames, rfl⟩
    refine ⟨_, rfl, ty, names, Text.cutAtChar?_append hty names, ?_⟩
    have hall : ((Text.splitOn ',' names).map Text.trim).all isLocalName = true := by
      rwa [List.all_map, List.all_eq_true]
    rw [if_neg (by simpa using hfree), ht, Option.bind_some, if_pos hall, List.map_map]
    rfl

/-- **Declarations are read back.** -/
theorem readDeclaration?_declaration {ty : Ty} (hty : ty.WellFormed) {names : List Text}
    (hne : names ≠ []) (hnames : ∀ name ∈ names, isLocalName name = true) :
    readDeclaration? (declaration (ty, names)) =
      some (names.map fun name => { name, ty }) := by
  have hword : ∀ name ∈ names, ∀ c ∈ name, Ty.isNameChar c = true := fun name hname c hc =>
    isNameChar_of_isWordChar ((isLocalName_spec (hnames name hname)).1 c hc)
  have htrim : ∀ name ∈ names, Text.trim name = name := fun name hname =>
    Text.trim_of_forall fun c hc => isBlank_eq_false_of_isNameChar (hword name hname c hc)
  have hsplit : (Text.splitOn ',' (Text.join ", ".toList names)).map Text.trim = names := by
    obtain ⟨first, rest, rfl⟩ := List.exists_cons_of_ne_nil hne
    have hcomma : ∀ name ∈ first :: rest, ',' ∉ name :=
      fun name hname hmem => ne_of_isNameChar (hword name hname _ hmem) rfl rfl
    have hjoin : Text.splitOn ',' (Text.join ", ".toList (first :: rest)) =
        first :: rest.map (" ".toList ++ ·) := Text.splitOn_join (by decide) hcomma
    have hpad : ∀ name ∈ rest, Text.trim (" ".toList ++ name) = name := by
      intro name hname
      rw [Text.trim_append (by decide), htrim name (List.mem_cons_of_mem _ hname)]
    rw [hjoin, List.map_cons, List.map_map, htrim first List.mem_cons_self]
    congr 1
    exact (List.map_congr_left hpad).trans (List.map_id rest)
  have hstrip : Text.stripSuffix? ";".toList (declaration (ty, names)) =
      some (ty.text ++ ' ' :: Text.join ", ".toList names) := Text.stripSuffix?_append _ _
  have hfree : stmtKeywords.contains ty.text = false := by
    rw [Bool.eq_false_iff, Ne, List.contains_iff_mem]
    exact hty.not_mem_stmtKeywords
  rw [readDeclaration?, hstrip]
  simp only [Option.bind_eq_bind, Option.bind_some]
  rw [Text.cutAtChar?_append (hty.not_mem rfl)]
  simp only [Option.bind_some, hfree, Bool.false_eq_true, if_false, Ty.read?_text hty, hsplit,
    List.all_eq_true.2 hnames, if_true]
  rfl

/-! ### Statements that declare nothing -/

/-- What begins with the keyword of a statement declares nothing. -/
theorem readDeclaration?_eq_none_of_word {w : Text} (hw : w ∈ stmtKeywords) (rest : Text) :
    readDeclaration? (w ++ ' ' :: rest ++ ";".toList) = none := by
  have hspace : ' ' ∉ w := fun hmem => by cases isAlpha_of_mem_stmtKeywords hw ' ' hmem
  have hcontains : stmtKeywords.contains w = true := List.contains_iff_mem.2 hw
  rw [readDeclaration?, Text.stripSuffix?_append]
  simp only [Option.bind_eq_bind, Option.bind_some]
  rw [Text.cutAtChar?_append hspace]
  simp only [Option.bind_some, hcontains, if_true]
  rfl

/-- One word declares nothing. -/
theorem readDeclaration?_eq_none_of_not_mem {s : Text} (h : ' ' ∉ s) :
    readDeclaration? (s ++ ";".toList) = none := by
  rw [readDeclaration?, Text.stripSuffix?_append]
  simp only [Option.bind_eq_bind, Option.bind_some]
  rw [Text.cutAtChar?_eq_none h]
  rfl

/-- What has a character other than those of names behind its first word declares nothing. -/
theorem readDeclaration?_eq_none_of_char {c : Char} (hword : isWordChar c = false)
    (hblank : isBlank c = false) (hcomma : c ≠ ',') (a t : Text) :
    readDeclaration? (a ++ ' ' :: c :: t ++ ";".toList) = none := by
  rw [readDeclaration?, Text.stripSuffix?_append]
  simp only [Option.bind_eq_bind, Option.bind_some]
  cases hcut : Text.cutAtChar? ' ' (a ++ ' ' :: c :: t) with
  | none => rfl
  | some parts =>
    obtain ⟨w, names⟩ := parts
    obtain ⟨heq, hw⟩ := Text.cutAtChar?_eq_some hcut
    -- the first blank stands in `a` or right behind it
    have hmem : c ∈ names := by
      by_cases ha : ' ' ∈ a
      · obtain ⟨a₁, a₂, rfl, ha₁⟩ := List.eq_append_cons_of_mem ha
        rw [List.append_assoc, List.cons_append, Text.cutAtChar?_append ha₁, Option.some.injEq,
          Prod.mk.injEq] at hcut
        rw [← hcut.2]
        simp
      · rw [Text.cutAtChar?_append ha, Option.some.injEq, Prod.mk.injEq] at hcut
        rw [← hcut.2]
        exact List.mem_cons_self
    have hall : ((Text.splitOn ',' names).map Text.trim).all isLocalName = false := by
      have hsep : (c == ',') = false := beq_eq_false_iff_ne.2 hcomma
      obtain ⟨p, hp, hc⟩ : ∃ p ∈ Text.splitOn ',' names, c ∈ p := Text.exists_mem_splitBy hmem hsep
      rw [List.all_eq_false]
      refine ⟨Text.trim p, List.mem_map_of_mem hp, fun hlocal => ?_⟩
      rw [(isLocalName_spec hlocal).1 c (Text.mem_trim_of_mem hc hblank)] at hword
      cases hword
    simp only [Option.bind_some, hall, Bool.false_eq_true, if_false]
    split
    · rfl
    · cases Ty.read? w <;> rfl

end Weaver
