import Mathlib.Data.List.Induction
import Mathlib.Data.List.TakeWhile
import Weaver.Proofs.Files.Directory

/-!
# File Names

The search for the last part of a path goes backwards and drops what does not count on the way;
here it is compared with the parts of the path. A path that is put together again from the
directory and another name is cut into just these, whatever parts without meaning the first path
had at its end. On a disk, the place that a path leads to is called like its last part.

## Main results

* `Path.cut?_name`: the search finds **the last part that counts**.
* `Path.cut?_join`: **cutting undoes joining**, in the directory of any path.
* `Path.cutName_append`: the last dot of a name, and a dot in front.
* `Disk.getLast?_of_locate`: the name of a place.
-/

namespace Weaver

namespace Path

/-! ### Parts -/

/-- Empty parts and dots do not count. -/
theorem counts_iff {part : Text} : counts part = true ↔ part ≠ [] ∧ part ≠ ['.'] := by
  simp [counts]

/-- A part counts backwards as it does forwards. -/
theorem counts_reverse (part : Text) : counts part.reverse = counts part := by
  rw [Bool.eq_iff_iff, counts_iff, counts_iff, ne_eq, ne_eq, List.reverse_eq_nil_iff,
    List.reverse_eq_iff, List.reverse_singleton]

/-- The parts in front of a slash and behind it. -/
theorem parts_append_cons (a b : Text) : parts (a ++ '/' :: b) = parts a ++ parts b := by
  rw [parts, Text.splitOn_append_cons, List.filter_append, parts, parts]

/-- A slash in front adds no part. -/
theorem parts_cons (b : Text) : parts ('/' :: b) = parts b :=
  parts_append_cons [] b

/-- A text without slashes has one part, if that counts. -/
theorem parts_reverse {part : Text} (h : '/' ∉ part) :
    parts part.reverse = if counts part then [part.reverse] else [] := by
  rw [parts, Text.splitOn_of_not_mem (by simpa using h), ← counts_reverse]
  cases hcounts : counts part.reverse <;> simp [hcounts]

/-- Read backwards, a text is one part, or one part with a slash behind it. -/
theorem part_cases (reversed : Text) :
    '/' ∉ reversed ∨ ∃ part rest, reversed = part ++ '/' :: rest ∧ '/' ∉ part := by
  by_cases h : '/' ∈ reversed
  · exact .inr (List.eq_append_cons_of_mem h)
  · exact .inl h

section

variable {part : Text} (hpart : '/' ∉ part)
include hpart

/-- No character of a part stops it. -/
theorem part_passes : ∀ c ∈ part, (c != '/') = true := by
  intro c hc
  rw [bne_iff_ne]
  rintro rfl
  exact hpart hc

/-- A part reaches to the end. -/
theorem takeWhile_part : part.takeWhile (· != '/') = part :=
  List.takeWhile_eq_self_iff.2 (part_passes hpart)

/-- Nothing stands behind a part. -/
theorem dropWhile_part : part.dropWhile (· != '/') = [] :=
  List.dropWhile_eq_nil_iff.2 (part_passes hpart)

/-- A part reaches to the slash behind it. -/
theorem takeWhile_part_append (rest : Text) :
    (part ++ '/' :: rest).takeWhile (· != '/') = part := by
  rw [List.takeWhile_append_of_pos (part_passes hpart)]
  simp

/-- Behind a part stands the slash. -/
theorem dropWhile_part_append (rest : Text) :
    (part ++ '/' :: rest).dropWhile (· != '/') = '/' :: rest := by
  rw [List.dropWhile_append_of_pos (part_passes hpart)]
  simp

/-! ### The search for the last part -/

/-- Backwards, a part with nothing in front of it is the last one if it counts. -/
theorem lastPart?_part (fuel : Nat) :
    lastPart? (fuel + 1) part = if counts part then some (part, []) else none := by
  rw [lastPart?, takeWhile_part hpart, dropWhile_part hpart]
  rfl

/-- Backwards, a part is the last one if it counts; otherwise the search goes on in front of the
slash. -/
theorem lastPart?_part_append (fuel : Nat) (rest : Text) :
    lastPart? (fuel + 1) (part ++ '/' :: rest) =
      if counts part then some (part, rest) else lastPart? fuel rest := by
  rw [lastPart?, takeWhile_part_append hpart, dropWhile_part_append hpart]
  rfl

end

/-- The search finds **the last part that counts**. -/
theorem lastPart?_name {fuel : Nat} {reversed : Text} (h : reversed.length < fuel) :
    (lastPart? fuel reversed).map (fun found => found.1.reverse) =
      (parts reversed.reverse).getLast? := by
  induction fuel generalizing reversed with
  | zero => omega
  | succ fuel ih =>
    obtain hpart | ⟨part, rest, rfl, hpart⟩ := part_cases reversed
    · rw [lastPart?_part hpart, parts_reverse hpart]
      split <;> rfl
    · have hreverse : (part ++ '/' :: rest).reverse = rest.reverse ++ '/' :: part.reverse := by simp
      rw [lastPart?_part_append hpart, hreverse, parts_append_cons, parts_reverse hpart]
      rw [List.length_append, List.length_cons] at h
      split
      · rw [List.getLast?_concat]
        rfl
      · rw [List.append_nil]
        exact ih (by omega)

/-- Nothing, or a text that ends in a part that counts; read backwards. -/
def Settled (reversed : Text) : Prop :=
  reversed = [] ∨ counts (reversed.takeWhile (· != '/')) = true

/-- Nothing is dropped from a text that ends in what counts. -/
theorem Settled.dropUncounted_eq {reversed : Text} (h : Settled reversed) (fuel : Nat) :
    dropUncounted fuel reversed = reversed := by
  obtain rfl | hcounts := h
  · induction fuel with
    | zero => rfl
    | succ fuel ih => exact ih
  · cases fuel with
    | zero => rfl
    | succ fuel => rw [dropUncounted, if_pos hcounts]

/-- When nothing more is dropped, a text ends in what counts. -/
theorem settled_dropUncounted {fuel : Nat} {reversed : Text} (h : reversed.length < fuel) :
    Settled (dropUncounted fuel reversed) := by
  induction fuel generalizing reversed with
  | zero => omega
  | succ fuel ih =>
    rw [dropUncounted]
    split
    next hcounts => exact .inr hcounts
    · obtain hpart | ⟨part, rest, rfl, hpart⟩ := part_cases reversed
      · rw [dropWhile_part hpart, List.drop_nil, Settled.dropUncounted_eq (.inl rfl)]
        exact .inl rfl
      · rw [dropWhile_part_append hpart]
        rw [List.length_append, List.length_cons] at h
        exact ih (by simpa using (by omega : rest.length < fuel))

/-- Dropping what does not count leaves a beginning of the path. -/
theorem dropUncounted_suffix (fuel : Nat) (reversed : Text) :
    dropUncounted fuel reversed <:+ reversed := by
  induction fuel generalizing reversed with
  | zero => exact List.suffix_refl _
  | succ fuel ih =>
    rw [dropUncounted]
    split
    · exact List.suffix_refl _
    · exact (ih _).trans ((List.drop_suffix _ _).trans (List.dropWhile_suffix _))

/-- What is found is one part, and it counts. -/
theorem lastPart?_spec {fuel : Nat} {reversed part before : Text}
    (h : lastPart? fuel reversed = some (part, before)) : '/' ∉ part ∧ counts part = true := by
  induction fuel generalizing reversed with
  | zero => cases h
  | succ fuel ih =>
    rw [lastPart?] at h
    split at h
    next hcounts =>
      cases h
      refine ⟨fun hslash => ?_, hcounts⟩
      simpa using List.mem_takeWhile_imp hslash
    · split at h
      · cases h
      · exact ih h

/-- What stands in front of the last part is a beginning of the path. -/
theorem lastPart?_suffix {fuel : Nat} {reversed part before : Text}
    (h : lastPart? fuel reversed = some (part, before)) : before <:+ reversed := by
  induction fuel generalizing reversed with
  | zero => cases h
  | succ fuel ih =>
    have hdrop : (reversed.dropWhile (· != '/')).drop 1 <:+ reversed :=
      (List.drop_suffix _ _).trans (List.dropWhile_suffix _)
    rw [lastPart?] at h
    split at h
    · cases h
      exact hdrop
    · split at h
      · cases h
      · exact (ih h).trans hdrop

/-! ### What a path begins with -/

/-- A path without a slash or a dot in front has nothing in front of its parts. -/
theorem headLength_of_ne {c : Char} (hslash : c ≠ '/') (hdot : c ≠ '.') (p : Text) :
    headLength (c :: p) = 0 := by
  rw [headLength.eq_def]
  split
  · next heq => exact absurd (List.cons.inj heq).1 hslash
  · next heq => exact absurd (List.cons.inj heq).1 hdot
  · next heq => exact absurd (List.cons.inj heq).1 hdot
  · rfl

/-- A dot that is not alone in its part belongs to it. -/
theorem headLength_dot_of_ne {d : Char} (hd : d ≠ '/') (p : Text) :
    headLength ('.' :: d :: p) = 0 := by
  rw [headLength.eq_def]
  split
  · next heq => exact absurd (List.cons.inj heq).1 (by decide)
  · next heq => cases (List.cons.inj heq).2
  · next heq => exact absurd (List.cons.inj (List.cons.inj heq).2).1 hd
  · rfl

/-- A slash or a dot in front is no part: the dot if nothing or a slash follows it. -/
theorem headLength_cons (c : Char) (p : Text) :
    headLength (c :: p) = if c = '/' ∨ c = '.' ∧ p.headD '/' = '/' then 1 else 0 := by
  by_cases hslash : c = '/'
  · rw [hslash, if_pos (.inl rfl)]
    rfl
  · by_cases hdot : c = '.'
    · subst hdot
      cases p with
      | nil =>
        rw [if_pos (.inr ⟨rfl, rfl⟩)]
        rfl
      | cons d p =>
        by_cases hd : d = '/'
        · subst hd
          rw [if_pos (.inr ⟨rfl, rfl⟩)]
          rfl
        · rw [headLength_dot_of_ne hd, if_neg]
          rintro (h | ⟨-, h⟩)
          · exact hslash h
          · exact hd h
    · rw [headLength_of_ne hslash hdot, if_neg]
      rintro (h | ⟨h, -⟩)
      · exact hslash h
      · exact hdot h

/-- What stands in front does not count. -/
theorem parts_drop_headLength (p : Text) : parts (p.drop (headLength p)) = parts p := by
  cases p with
  | nil => rfl
  | cons c p =>
    rw [headLength_cons]
    split
    next hhead =>
      obtain rfl | ⟨rfl, hnext⟩ := hhead
      · exact (parts_cons p).symm
      · cases p with
        | nil => rfl
        | cons d p =>
          obtain rfl : d = '/' := hnext
          exact (parts_cons p).trans (parts_append_cons ['.'] p).symm
    · rfl

/-! ### Cutting and joining -/

/-- **The last part** that counts. -/
theorem cut?_name (p : Text) : (cut? p).map Prod.snd = (parts p).getLast? := by
  have hlength : ((p.drop (headLength p)).reverse).length < p.length + 1 := by
    rw [List.length_reverse, List.length_drop]
    omega
  have hlast := lastPart?_name hlength
  rw [List.reverse_reverse, parts_drop_headLength] at hlast
  rw [cut?, Option.map_map, ← hlast]
  rfl

/-- The beginning of a path up to its last part: what stands in front, and a settled rest. -/
theorem cut?_eq_some {p before name : Text} (h : cut? p = some (before, name)) :
    ∃ rest, before = p.take (headLength p) ++ rest ∧ rest <+: p.drop (headLength p) ∧
      Settled rest.reverse := by
  rw [cut?, Option.map_eq_some_iff] at h
  obtain ⟨⟨part, reversed⟩, hlast, heq⟩ := h
  obtain ⟨rfl, -⟩ := Prod.mk.inj heq
  have hsuffix := lastPart?_suffix hlast
  have hlength : reversed.length < p.length + 1 := by
    have hle := hsuffix.length_le
    rw [List.length_reverse, List.length_drop] at hle
    omega
  refine ⟨_, rfl, ?_, ?_⟩
  · rw [← List.reverse_suffix, List.reverse_reverse]
    exact (dropUncounted_suffix _ _).trans hsuffix
  · rw [List.reverse_reverse]
    exact settled_dropUncounted hlength

/-- The last part of a path has no slash, and counts. -/
theorem cut?_spec {p before name : Text} (h : cut? p = some (before, name)) :
    '/' ∉ name ∧ counts name = true := by
  rw [cut?, Option.map_eq_some_iff] at h
  obtain ⟨⟨part, reversed⟩, hlast, heq⟩ := h
  obtain ⟨-, rfl⟩ := Prod.mk.inj heq
  obtain ⟨hslash, hcounts⟩ := lastPart?_spec hlast
  exact ⟨by simpa using hslash, by rwa [counts_reverse]⟩

/-- A settled text does not end in a slash. -/
theorem Settled.getLast?_ne {rest : Text} (h : Settled rest.reverse) :
    rest.getLast? ≠ some '/' := by
  rw [List.getLast?_eq_head?_reverse]
  intro hhead
  obtain ⟨reversed, heq⟩ := List.head?_eq_some_iff.1 hhead
  rw [heq] at h
  obtain hnil | hcounts := h
  · cases hnil
  · simp [counts] at hcounts

/-- A name is joined behind a slash; one is there already if the directory ends in it. -/
theorem join_eq {name : Text} (hslash : '/' ∉ name) (before : Text) :
    join before name =
      if before = [] ∨ before.getLast? = some '/' then before ++ name
        else before ++ '/' :: name := by
  have habsolute : isAbsolute name = false := by
    cases name with
    | nil => rfl
    | cons c name => exact Text.startsWith_of_head fun hc => hslash (hc ▸ List.mem_cons_self)
  have hend : Text.endsWith before "/".toList = true ↔ before.getLast? = some '/' := by
    rw [Text.endsWith, Option.isSome_iff_exists, List.getLast?_eq_some_iff]
    exact exists_congr fun base => Text.stripSuffix?_eq_some_iff
  simp only [join, habsolute, Bool.false_eq_true, if_false, Bool.or_eq_true, List.isEmpty_iff, hend]

section

variable {name : Text} (hslash : '/' ∉ name) (hcounts : counts name = true)
include hslash hcounts

/-- A part that counts is found behind the last slash. -/
theorem lastPart?_of_slash (rest : Text) (fuel : Nat) :
    lastPart? (fuel + 1) (rest ++ '/' :: name).reverse = some (name.reverse, rest.reverse) := by
  have hform : (rest ++ '/' :: name).reverse = name.reverse ++ '/' :: rest.reverse := by simp
  rw [hform, lastPart?_part_append (by simpa using hslash), counts_reverse, if_pos hcounts]

/-- A name behind a slash is the last part. -/
theorem cut?_of_slash (head : Text) {rest : Text} (hrest : Settled rest.reverse)
    (hhead : headLength (head ++ (rest ++ '/' :: name)) = head.length) :
    cut? (head ++ (rest ++ '/' :: name)) = some (head ++ rest, name) := by
  rw [cut?, hhead, List.drop_left, List.take_left, lastPart?_of_slash hslash hcounts]
  simp only [Option.map_some, hrest.dropUncounted_eq, List.reverse_reverse]

/-- A name with nothing but a head in front of it is the last part. -/
theorem cut?_of_head (head : Text) (hhead : headLength (head ++ name) = head.length) :
    cut? (head ++ name) = some (head, name) := by
  have hlast (fuel : Nat) : lastPart? (fuel + 1) name.reverse = some (name.reverse, []) := by
    rw [lastPart?_part (by simpa using hslash), counts_reverse, if_pos hcounts]
  have hnil : Settled [] := .inl rfl
  rw [cut?, hhead, List.drop_left, List.take_left, hlast]
  simp only [Option.map_some, hnil.dropUncounted_eq, List.reverse_nil, List.append_nil,
    List.reverse_reverse]

omit hcounts in
/-- Nothing stands in front of a name. -/
theorem headLength_name (hdot : name ≠ ['.']) : headLength name = 0 := by
  cases name with
  | nil => rfl
  | cons c name =>
    rw [headLength_cons, if_neg]
    rintro (rfl | ⟨rfl, hnext⟩)
    · exact hslash List.mem_cons_self
    · cases name with
      | nil => exact hdot rfl
      | cons d name =>
        obtain rfl : d = '/' := hnext
        exact hslash (List.mem_cons_of_mem _ List.mem_cons_self)

/-- **Cutting undoes joining** in the directory of any path. -/
theorem cut?_join {p before last : Text} (h : cut? p = some (before, last)) :
    cut? (join before name) = some (before, name) := by
  obtain ⟨rest, hbefore, hprefix, hsettled⟩ := cut?_eq_some h
  have hlast := hsettled.getLast?_ne
  rw [join_eq hslash]
  cases p with
  | nil => cases h
  | cons c p =>
    rw [headLength_cons] at hbefore hprefix
    by_cases hhead : c = '/' ∨ c = '.' ∧ p.headD '/' = '/'
    · -- A slash or a dot stands in front, and stays there.
      rw [if_pos hhead] at hbefore hprefix
      obtain rfl : before = [c] ++ rest := hbefore
      by_cases hroot : rest = [] ∧ c = '/'
      · obtain ⟨rfl, rfl⟩ := hroot
        exact cut?_of_head hslash hcounts ['/'] rfl
      · have hslashless : ¬([c] ++ rest = [] ∨ ([c] ++ rest).getLast? = some '/') := by
          cases rest with
          | nil => simpa using hroot
          | cons d rest =>
            rw [List.getLast?_append_of_ne_nil _ (List.cons_ne_nil d rest)]
            simpa using hlast
        rw [if_neg hslashless, List.append_assoc]
        refine cut?_of_slash hslash hcounts [c] hsettled ?_
        rw [List.singleton_append, headLength_cons, if_pos]
        · rfl
        · refine hhead.imp_right fun ⟨hdot, hnext⟩ => ⟨hdot, ?_⟩
          cases rest with
          | nil => rfl
          | cons e rest =>
            obtain ⟨tail, rfl⟩ : e :: rest <+: p := hprefix
            exact hnext
    · -- Nothing stands in front, before and after.
      rw [if_neg hhead] at hbefore hprefix
      obtain rfl : before = rest := hbefore
      cases before with
      | nil =>
        exact cut?_of_head hslash hcounts [] (headLength_name hslash (counts_iff.1 hcounts).2)
      | cons d rest =>
        rw [if_neg (by simpa using hlast)]
        have hcut := cut?_of_slash hslash hcounts [] hsettled
        refine hcut ?_
        obtain ⟨tail, heq⟩ : d :: rest <+: c :: p := hprefix
        obtain ⟨rfl, rfl⟩ := List.cons.inj heq
        rw [List.nil_append, List.cons_append, headLength_cons, if_neg, List.length_nil]
        rintro (rfl | ⟨rfl, hnext⟩)
        · exact hhead (.inl rfl)
        · cases rest with
          | nil => simp [Settled, counts] at hsettled
          | cons e rest => exact hhead (.inr ⟨rfl, hnext⟩)

end

/-! ### File names -/

/-- The file name of a path is its last part, if this does not lead upwards. -/
theorem fileName?_eq_some {p name : Text} :
    fileName? p = some name ↔ (∃ before, cut? p = some (before, name)) ∧ name ≠ "..".toList := by
  rw [fileName?]
  constructor
  · intro h
    split at h
    next before name' hcut =>
      split at h
      · cases h
      next hdots =>
        obtain rfl := Option.some.inj h
        exact ⟨⟨before, hcut⟩, hdots⟩
    · cases h
  · rintro ⟨⟨before, hcut⟩, hdots⟩
    rw [hcut]
    exact if_neg hdots

/-- A name with a dot behind its beginning is cut at the last dot. -/
theorem cutName_append {stem ext : Text} (hstem : stem ≠ []) (hext : '.' ∉ ext) :
    cutName (stem ++ '.' :: ext) = (stem, some ext) := by
  have hempty : stem.isEmpty = false := by simpa using hstem
  rw [cutName, Text.cutAtLast?_append stem hext]
  simp only [hempty, Bool.false_eq_true, if_false]

/-- A dot in front is no end of a stem. -/
theorem cutName_of_tail {name : Text} (h : '.' ∉ name.tail) : cutName name = (name, none) := by
  rw [cutName]
  split
  next stem ext hcut =>
    obtain ⟨rfl, -⟩ := Text.cutAtLast?_eq_some hcut
    cases stem with
    | nil => rfl
    | cons c stem => simp at h
  · rfl

/-- **The two forms of file names**: with an extension, or without a dot behind the beginning. -/
theorem cutName_cases (name : Text) :
    (∃ stem ext, name = stem ++ '.' :: ext ∧ stem ≠ [] ∧ '.' ∉ ext) ∨ '.' ∉ name.tail := by
  by_cases hdot : '.' ∈ name.tail
  · left
    cases name with
    | nil => cases hdot
    | cons c name =>
      obtain ⟨ext, stem, heq, hext⟩ := List.eq_append_cons_of_mem (List.mem_reverse.2 hdot)
      have hname : name = stem.reverse ++ '.' :: ext.reverse := by
        simpa using congrArg List.reverse heq
      exact ⟨c :: stem.reverse, ext.reverse, by rw [hname, List.cons_append],
        List.cons_ne_nil c _, by simpa using hext⟩
  · exact .inr hdot

end Path

/-! ### The place of a name -/

namespace Disk

/-- The steps of a path are its parts and dots. -/
theorem steps_filter_counts (p : Text) : (steps p).filter Path.counts = Path.parts p := by
  have hne : ((Text.splitOn '/' p).filter (· ≠ [])).filter Path.counts = Path.parts p := by
    rw [List.filter_filter, Path.parts]
    refine congrArg (List.filter · _) (funext fun part => ?_)
    simp only [Path.counts]
    cases hpart : (decide (part ≠ [])) <;> simp
  rw [steps]
  split
  · rw [List.filter_append, hne]
    exact List.append_nil _
  · exact hne

/-- No step is empty. -/
theorem ne_nil_of_mem_steps {p step : Text} (h : step ∈ steps p) : step ≠ [] := by
  rw [steps] at h
  split at h
  · obtain h | h := List.mem_append.1 h
    · simpa using (List.mem_filter.1 h).2
    · rw [List.mem_singleton.1 h]
      exact List.cons_ne_nil _ _
  · simpa using (List.mem_filter.1 h).2

variable {d : Disk} {name : Text}

/-- Following names and dots leads to the last of the names. -/
theorem getLast?_of_follow {place place' : Place} {xs : List Text}
    (h : d.follow place xs = .ok place') (hne : ∀ x ∈ xs, x ≠ [])
    (hlast : (xs.filter Path.counts).getLast? = some name) (hdots : name ≠ "..".toList) :
    place'.getLast? = some name := by
  -- From the last name on: a dot stays where it is, and any other name that counts ends the place.
  induction xs using List.reverseRecOn generalizing place' with
  | nil => cases hlast
  | append_singleton xs x ih =>
    rw [follow_append] at h
    cases hbefore : d.follow place xs with
    | error fault =>
      rw [hbefore] at h
      cases h
    | ok place'' =>
      rw [hbefore] at h
      have h : d.follow place'' [x] = .ok place' := h
      rw [List.filter_append] at hlast
      by_cases hdot : x = ['.']
      · subst hdot
        rw [follow_dot h]
        refine ih hbefore (fun y hy => hne y (List.mem_append_left _ hy)) ?_
        simpa [Path.counts] using hlast
      · have hcounts : Path.counts x = true :=
          Path.counts_iff.2 ⟨hne x (List.mem_append_right _ (List.mem_singleton_self x)), hdot⟩
        obtain rfl : x = name := by simpa [hcounts] using hlast
        rw [follow] at h
        cases hdir : d.requireDir place'' with
        | error fault =>
          rw [hdir] at h
          cases h
        | ok u =>
          rw [hdir] at h
          simp only [bind, Except.bind, if_neg hdot, if_neg hdots] at h
          split at h
          · cases h
          · obtain rfl := Except.ok.inj h
            exact List.getLast?_concat

/-- **The name of a place** is the file name of every path that leads to it. -/
theorem getLast?_of_locate {p : Text} {place : Place} (h : d.locate p = .ok place)
    (hname : Path.fileName? p = some name) : place.getLast? = some name := by
  obtain ⟨⟨before, hcut⟩, hdots⟩ := Path.fileName?_eq_some.1 hname
  have hlast := Path.cut?_name p
  rw [hcut] at hlast
  rw [locate] at h
  split at h
  · cases h
  · refine getLast?_of_follow h (fun x hx => ne_nil_of_mem_steps hx) ?_ hdots
    rw [steps_filter_counts]
    exact hlast.symm

end Disk

end Weaver
