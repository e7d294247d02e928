import Weaver.Jimple.StringLiteral
import Weaver.Jimple.Zone
import Weaver.Proofs.Text.Cutting

/-!
# Walks through Zones

Searching and splitting outside literals and references walks a text from zone to zone. A
walk that meets nothing of interest outside, and comes back outside at the end, can be cut
off the front of a longer text; literals and references are such texts whatever they
contain.

## Main results

* `Zone.walk_append`: walks compose.
* `Zone.walk_literal`, `Zone.walk_reference`: **literals and references are opaque**.
* `Text.splitOutside_join`, `Text.cutOutside?_append`: splitting and cutting at a seam.
* `Text.cutOutside?_extend`: what follows does not matter to what was found.
-/

namespace Weaver

namespace Zone

/-- The zone behind a text that `next` follows, provided that all characters of it that
stand outside are `ok`. -/
def walk (ok : Char → Bool) : Zone → Text → Option Char → Option Zone
  | z, [], _ => some z
  | z, c :: s, next =>
    if z.leavesOutside c (s.head?.or next) && !ok c then none
    else walk ok (z.after c (s.head?.or next)) s next

variable {ok : Char → Bool} {next : Option Char}

/-- **Walks compose.** -/
theorem walk_append (z : Zone) (s t : Text) :
    walk ok z (s ++ t) next = (walk ok z s (t.head?.or next)).bind fun z => walk ok z t next := by
  induction s generalizing z with
  | nil => rfl
  | cons c s ih =>
    have hnext : (s ++ t).head?.or next = s.head?.or (t.head?.or next) := by
      cases s <;> simp
    rw [List.cons_append, walk, walk, hnext]
    split
    · rfl
    · exact ih _

/-! ### Plain texts -/

/-- A character that is neither a quote nor a bracket stays outside. -/
theorem after_outside {c : Char} (hquote : c ≠ '"') (hopen : c ≠ '<') :
    after outside c next = outside := by
  simp [after, hquote, hopen]

/-- Without quotes and brackets, a text stays outside. -/
theorem walk_plain {s : Text} (h : ∀ c ∈ s, ok c = true ∧ c ≠ '"' ∧ c ≠ '<') :
    walk ok outside s next = some outside := by
  induction s with
  | nil => rfl
  | cons c s ih =>
    rw [List.forall_mem_cons] at h
    obtain ⟨⟨hok, hquote, hopen⟩, hrest⟩ := h
    rw [walk, hok, after_outside hquote hopen, Bool.not_true, Bool.and_false,
      if_neg Bool.false_ne_true]
    exact ih hrest

/-! ### Literals -/

/-- Nothing in a literal stands outside. -/
theorem leavesOutside_quoted (escaped : Bool) (c : Char) :
    leavesOutside (quoted escaped) c next = false :=
  rfl

/-- In a literal no character is checked. -/
theorem walk_quoted_cons {escaped : Bool} {c : Char} {s : Text} :
    walk ok (quoted escaped) (c :: s) next =
      walk ok (after (quoted escaped) c (s.head?.or next)) s next := by
  rw [walk, leavesOutside_quoted, Bool.false_and, if_neg Bool.false_ne_true]

/-- Without quotes and backslashes, a text stays in its literal. -/
theorem walk_quoted_plain {s : Text} (h : ∀ c ∈ s, c ≠ '"' ∧ c ≠ '\\') :
    walk ok (quoted false) s next = some (quoted false) := by
  induction s with
  | nil => rfl
  | cons c s ih =>
    rw [List.forall_mem_cons] at h
    obtain ⟨⟨hquote, hslash⟩, hrest⟩ := h
    rw [walk_quoted_cons, after, if_neg hslash, if_neg hquote]
    exact ih hrest

/-- A backslash takes the character behind it along. -/
theorem walk_backslash (c : Char) (s : Text) :
    walk ok (quoted false) ('\\' :: c :: s) next = walk ok (quoted false) s next := by
  rw [walk_quoted_cons]
  exact walk_quoted_cons

/-- **Escaped texts stay in their literal**, whatever they stand for. -/
theorem walk_escape (s : Text) :
    walk ok (quoted false) (StringLiteral.escape s) next = some (quoted false) := by
  fun_induction StringLiteral.escape s with
  | case1 => rfl
  | case7 c s hquote hslash _ _ _ ih =>
    rw [walk_quoted_cons, after, if_neg (fun h => hslash h), if_neg (fun h => hquote h), ih]
  | case2 s ih | case3 s ih | case4 s ih | case5 s ih | case6 s ih =>
    rw [walk_backslash, ih]

/-- **A literal is opaque**: nothing of it stands outside. -/
theorem walk_literal {s : Text} (h : ∀ next, walk ok (quoted false) s next = some (quoted false)) :
    walk ok outside ('"' :: s ++ ['"']) next = some outside := by
  have hopen : leavesOutside outside '"' ((s ++ ['"']).head?.or next) = false := rfl
  rw [List.cons_append, walk, hopen, Bool.false_and, if_neg Bool.false_ne_true]
  change walk ok (quoted false) (s ++ ['"']) next = _
  rw [walk_append, h, Option.bind_some]
  rfl

/-! ### References -/

/-- Without brackets a reference stays open. -/
theorem walk_reference_plain {s : Text} (h : ∀ c ∈ s, c ≠ '<' ∧ c ≠ '>') :
    walk ok (reference 0) s next = some (reference 0) := by
  induction s with
  | nil => rfl
  | cons c s ih =>
    rw [List.forall_mem_cons] at h
    obtain ⟨⟨hopen, hclose⟩, hrest⟩ := h
    have hin : leavesOutside (reference 0) c (s.head?.or next) = false := rfl
    rw [walk, hin, Bool.false_and, if_neg Bool.false_ne_true, after, if_neg hopen, if_neg hclose]
    exact ih hrest

/-- **A reference is opaque** if it begins like one and has no brackets inside. -/
theorem walk_reference {s : Text} (hhead : opensReference s.head? = true)
    (h : ∀ c ∈ s, c ≠ '<' ∧ c ≠ '>') : walk ok outside ('<' :: s ++ ['>']) next = some outside := by
  have hnext : opensReference ((s ++ ['>']).head?.or next) = true := by
    cases s with
    | nil => cases hhead
    | cons c s => exact hhead
  have hafter : after outside '<' ((s ++ ['>']).head?.or next) = reference 0 := by
    rw [after, hnext]
    rfl
  rw [List.cons_append, walk, leavesOutside, hafter]
  change walk ok (reference 0) (s ++ ['>']) next = _
  rw [walk_append, walk_reference_plain h, Option.bind_some]
  rfl

end Zone

/-! ### Searching and splitting -/

namespace Text

open Zone

/-- Where no character may stand outside, none does. -/
theorem hasOutside_eq_false {z z' : Zone} {s : Text}
    (h : walk (fun _ => false) z s none = some z') : hasOutside z s = false := by
  induction s generalizing z with
  | nil => rfl
  | cons c s ih =>
    rw [walk, Option.or_none] at h
    split at h
    · cases h
    next hc =>
      rw [hasOutside, ih h, Bool.or_false]
      simpa using hc

/-- There is always a first piece. -/
theorem splitOutside_ne_nil (sep : Char) (z : Zone) (s : Text) : splitOutside sep z s ≠ [] := by
  induction s generalizing z with
  | nil => simp [splitOutside]
  | cons c s ih =>
    simp only [splitOutside]
    split
    · simp
    · split <;> simp

/-- What a walk passes over belongs to the first piece. -/
theorem splitOutside_append {sep : Char} {z z' : Zone} {s rest : Text}
    (h : walk (fun c => c != sep) z s rest.head? = some z') :
    splitOutside sep z (s ++ rest) =
      (splitOutside sep z' rest).modifyHead (s ++ ·) := by
  induction s generalizing z with
  | nil =>
    obtain rfl := Option.some.inj h
    rw [List.nil_append]
    cases splitOutside sep z rest <;> rfl
  | cons c s ih =>
    have hnext : (s ++ rest).head? = s.head?.or rest.head? := by
      cases s <;> simp
    rw [walk] at h
    split at h
    · cases h
    next hc =>
      have hkeep : (z.leavesOutside c (s.head?.or rest.head?) && c == sep) = false := by
        rw [Bool.eq_false_iff]
        intro hsep
        rw [Bool.and_eq_true] at hsep
        rw [hsep.1, bne, hsep.2] at hc
        exact hc rfl
      simp only [List.cons_append, splitOutside, hnext, hkeep, ih h, Bool.false_eq_true, if_false]
      cases hp : splitOutside sep z' rest with
      | nil => exact absurd hp (splitOutside_ne_nil sep z' rest)
      | cons p ps => rfl

/-- A text that can be walked through from outside to outside whatever follows it. -/
def Opaque (ok : Char → Bool) (s : Text) : Prop :=
  ∀ next, walk ok outside s next = some outside

/-- **Splitting at commas undoes joining**, if no piece has a comma outside. -/
theorem splitOutside_join {s : Text} {rest : List Text}
    (h : ∀ t ∈ s :: rest, Opaque (fun c => c != ',') t) :
    splitOutside ',' .outside (join ", ".toList (s :: rest)) = s :: rest.map (' ' :: ·) := by
  induction rest generalizing s with
  | nil =>
    have hwalk : walk (fun c => c != ',') outside s ([] : Text).head? = some outside :=
      h s List.mem_cons_self none
    have hone := splitOutside_append hwalk
    rw [List.append_nil] at hone
    simpa [join, splitOutside] using hone
  | cons t rest ih =>
    have hjoin : join ", ".toList (s :: t :: rest) =
        s ++ ',' :: (' ' :: join ", ".toList (t :: rest)) := by
      simp [join]
    have hblank : ∀ u, splitOutside ',' .outside (' ' :: u) =
        (splitOutside ',' .outside u).modifyHead (' ' :: ·) := by
      intro u
      exact splitOutside_append (s := [' ']) (walk_plain (by simp))
    have hcomma : ∀ u, splitOutside ',' .outside (',' :: u) =
        [] :: splitOutside ',' .outside u := by
      intro u
      simp [splitOutside, leavesOutside, after]
    rw [hjoin, splitOutside_append (h s List.mem_cons_self _), hcomma, hblank,
      ih fun u hu => h u (List.mem_cons_of_mem _ hu)]
    simp

/-- **Cutting at a seam**: what a walk passes over without the first character of the
pattern stands before the first occurrence. -/
theorem cutOutside?_append {c : Char} {p a : Text} (hquote : c ≠ '"') (hopen : c ≠ '<')
    {z : Zone} (ha : walk (fun d => d != c) z a (some c) = some outside) (b : Text) :
    cutOutside? (c :: p) z (a ++ (c :: p) ++ b) = some (a, b) := by
  induction a generalizing z with
  | nil =>
    obtain rfl := Option.some.inj ha
    have hout : leavesOutside outside c (p ++ b).head? = true := by
      rw [leavesOutside, after_outside hquote hopen]
      rfl
    rw [List.nil_append, List.cons_append, cutOutside?, hout, if_pos rfl, ← List.cons_append,
      stripPrefix?_append]
  | cons d a ih =>
    have hnext : (a ++ (c :: p) ++ b).head? = a.head?.or (some c) := by
      cases a <;> simp
    rw [walk] at ha
    split at ha
    · cases ha
    next hd =>
      have hno : (if z.leavesOutside d (a.head?.or (some c)) then
          stripPrefix? (c :: p) (d :: (a ++ (c :: p) ++ b)) else none) = none := by
        split
        next hout =>
          have hne : d ≠ c := by
            rintro rfl
            rw [hout, bne_self_eq_false] at hd
            exact hd rfl
          exact stripPrefix?_eq_none_of_head hne
        · rfl
      rw [List.cons_append, List.cons_append, cutOutside?, hnext, hno, ih ha]
      rfl

/-- The parts of a text that is cut outside stand around what is cut out. -/
theorem cutOutside?_eq_some {p : Text} {z : Zone} {s a b : Text}
    (h : cutOutside? p z s = some (a, b)) : s = a ++ p ++ b := by
  induction s generalizing z a with
  | nil => cases h
  | cons c s ih =>
    rw [cutOutside?] at h
    split at h
    next rest hrest =>
      obtain ⟨rfl, rfl⟩ := Prod.mk.inj (Option.some.inj h)
      split at hrest
      · exact stripPrefix?_eq_some_iff.1 hrest
      · cases hrest
    next hmiss =>
      obtain ⟨⟨a', b'⟩, hcut, heq⟩ := Option.map_eq_some_iff.1 h
      obtain ⟨rfl, rfl⟩ := Prod.mk.inj heq
      rw [ih hcut]
      rfl

/-- **What was found at the end** of a text is found when more follows. The pattern has two
characters, so that the first one is followed by the same one in both. -/
theorem cutOutside?_extend {c d : Char} {p : Text} {z : Zone} {a : Text}
    (h : cutOutside? (c :: d :: p) z (a ++ c :: d :: p) = some (a, [])) (rest : Text) :
    cutOutside? (c :: d :: p) z (a ++ c :: d :: p ++ rest) = some (a, rest) := by
  induction a generalizing z with
  | nil =>
    have hhead : (d :: p ++ rest).head? = (d :: p).head? := rfl
    rw [List.nil_append, cutOutside?] at h
    rw [List.nil_append, List.cons_append, cutOutside?, hhead]
    split at h
    next hfound =>
      have hout : z.leavesOutside c (d :: p).head? = true := by
        by_contra hno
        rw [if_neg hno] at hfound
        cases hfound
      rw [if_pos hout, ← List.cons_append, stripPrefix?_append]
    next hmiss =>
      obtain ⟨⟨b, t⟩, -, heq⟩ := Option.map_eq_some_iff.1 h
      cases heq
  | cons x a ih =>
    have hhead : (a ++ c :: d :: p ++ rest).head? = (a ++ c :: d :: p).head? := by
      cases a <;> rfl
    rw [List.cons_append, cutOutside?] at h
    rw [List.cons_append, List.cons_append, cutOutside?, hhead]
    split at h
    next hfound => cases h
    next hmiss =>
      obtain ⟨⟨b, t⟩, hcut, heq⟩ := Option.map_eq_some_iff.1 h
      obtain ⟨hb, rfl⟩ : x :: b = x :: a ∧ t = [] := by simpa using heq
      obtain rfl := (List.cons.inj hb).2
      -- A pattern that is not found at this place fits into the text without `rest`, so `rest` adds
      -- none.
      have hlength : (c :: d :: p).length ≤ (x :: (b ++ c :: d :: p)).length := by
        simp only [List.length_cons, List.length_append]
        omega
      have hno : (if z.leavesOutside x (b ++ c :: d :: p).head? then
          stripPrefix? (c :: d :: p) (x :: (b ++ c :: d :: p ++ rest)) else none) = none := by
        split
        next hout =>
          rw [if_pos hout] at hmiss
          rw [← List.cons_append, stripPrefix?_append_of_length hlength, hmiss, Option.map_none]
        · rfl
      rw [hno, ih hcut]
      rfl

end Text

end Weaver
