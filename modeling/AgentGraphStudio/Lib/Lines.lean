import Mathlib.Data.List.Infix
import Mathlib.Data.List.TakeWhile

/-!
# Lines under two notions of a line break

A reader that knows more line breaks than the writer cuts the writer's lines into pieces.
`find_line` compares the first line of each that begins with a word: the reader's is the first
piece of the writer's, unless the word stands right behind a break that only the reader knows.
-/

namespace Lines

/-- The lines of a text whose current line starts with these characters, in reverse. A carriage
return and the line feed behind it are one break. -/
def linesFrom (isBreak : Char → Bool) (current : List Char) : List Char → List (List Char)
  | [] => if current = [] then [] else [current.reverse]
  | '\r' :: '\n' :: rest => current.reverse :: linesFrom isBreak [] rest
  | char :: rest =>
    if isBreak char then current.reverse :: linesFrom isBreak [] rest
    else linesFrom isBreak (char :: current) rest

/-- The first line that begins with a word. -/
def findLine (word : List Char) (lines : List (List Char)) : Option (List Char) :=
  lines.find? (word.isPrefixOf ·)

section

variable (fine coarse : Char → Bool) (word : List Char)

/-- The word stands behind a break that only the reader knows. -/
def Stray (text : List Char) : Prop :=
  ∃ char, fine char = true ∧ coarse char = false ∧ (char :: word) <:+: text

/-- The reader finds the first piece of the writer's line, or a stray word. -/
def Matches (whole : List Char) (found written : Option (List Char)) : Prop :=
  found = written.map (List.takeWhile fun char => !fine char) ∨
    Stray fine coarse word whole ∧ found.isSome

/-- The current lines of the reader and the writer, in reverse, before the rest of a text. Where
the reader has cut its line off, the writer's does not begin with the word. -/
inductive Aligned (whole rest : List Char) : List Char → List Char → Prop where
  | same {current : List Char} (hcurrent : ∀ char ∈ current, fine char = false) :
      Aligned whole rest current current
  | behind {piece current : List Char} {char : Char} (hfine : fine char = true)
      (hcoarse : coarse char = false) (hwhole : char :: (piece.reverse ++ rest) <:+ whole)
      (hword : ∀ more, ¬ word <+: current.reverse ++ more) : Aligned whole rest piece current

end

variable {fine coarse isBreak : Char → Bool} {word whole rest piece current : List Char}

theorem lines_from_cons {char : Char} (h : ∀ tail, char = '\r' → rest = '\n' :: tail → False) :
    linesFrom isBreak current (char :: rest) =
      if isBreak char then current.reverse :: linesFrom isBreak [] rest
      else linesFrom isBreak (char :: current) rest := by
  rw [linesFrom]
  exact h

/-- The current line goes on to be the first one. -/
theorem lines_from_head (hcurrent : current ≠ []) (text : List Char) :
    ∃ more lines, linesFrom isBreak current text = (current.reverse ++ more) :: lines := by
  fun_induction linesFrom isBreak current text with
  | case1 => exact absurd rfl hcurrent
  | case2 current => exact ⟨[], [], by rw [List.append_nil]⟩
  | case3 current rest => exact ⟨[], _, by rw [List.append_nil]⟩
  | case4 current char rest => exact ⟨[], _, by rw [List.append_nil]⟩
  | case5 current char rest _ _ ih =>
      obtain ⟨more, lines, hlines⟩ := ih (List.cons_ne_nil _ _)
      exact ⟨char :: more, lines, by rw [hlines, List.reverse_cons, List.append_assoc]; rfl⟩

/-- A line begins where the text begins, or behind a break. -/
theorem line_start {text line : List Char} (h : line ∈ linesFrom isBreak current text) :
    (∃ more, more <+: text ∧ line = current.reverse ++ more) ∨
      ∃ char tail, (char = '\n' ∨ isBreak char = true) ∧ char :: (line ++ tail) <:+ text := by
  have hend : ∀ (current : List Char) {text : List Char}, ∃ more, more <+: text ∧
      current.reverse = current.reverse ++ more :=
    fun current _ => ⟨[], List.nil_prefix, (List.append_nil _).symm⟩
  fun_induction linesFrom isBreak current text with
  | case1 => cases h
  | case2 current =>
      rw [List.mem_singleton.mp h]
      exact .inl (hend current)
  | case3 current rest ih =>
      rcases List.mem_cons.mp h with rfl | h
      · exact .inl (hend current)
      · rcases ih h with ⟨_, ⟨tail, rfl⟩, rfl⟩ | ⟨char, tail, hchar, hsuffix⟩
        · exact .inr ⟨'\n', tail, .inl rfl, List.suffix_cons _ _⟩
        · exact .inr ⟨char, tail, hchar, hsuffix.trans ⟨['\r', '\n'], rfl⟩⟩
  | case4 current char rest _ hbreak ih =>
      rcases List.mem_cons.mp h with rfl | h
      · exact .inl (hend current)
      · rcases ih h with ⟨_, ⟨tail, rfl⟩, rfl⟩ | ⟨other, tail, hother, hsuffix⟩
        · exact .inr ⟨char, tail, .inr hbreak, List.suffix_rfl⟩
        · exact .inr ⟨other, tail, hother, hsuffix.trans (List.suffix_cons _ _)⟩
  | case5 current char rest _ _ ih =>
      rcases ih h with ⟨more, hmore, rfl⟩ | ⟨other, tail, hother, hsuffix⟩
      · refine .inl ⟨char :: more, List.prefix_cons_inj char |>.mpr hmore, ?_⟩
        rw [List.reverse_cons, List.append_assoc, List.singleton_append]
      · exact .inr ⟨other, tail, hother, hsuffix.trans (List.suffix_cons _ _)⟩

theorem find_line_cons (line : List Char) (lines : List (List Char)) :
    findLine word (line :: lines) = if word <+: line then some line else findLine word lines := by
  rw [findLine, List.find?_cons]
  by_cases h : word <+: line
  · rw [if_pos h, List.isPrefixOf_iff_prefix.mpr h]
  · rw [if_neg h, Bool.eq_false_iff.mpr fun hprefix => h (List.isPrefixOf_iff_prefix.mp hprefix)]
    rfl

/-- The current lines end here. -/
theorem Aligned.finish {lines written : List (List Char)}
    (h : Aligned fine coarse word whole rest piece current)
    (hlines : Matches fine coarse word whole (findLine word lines) (findLine word written)) :
    Matches fine coarse word whole (findLine word (piece.reverse :: lines))
      (findLine word (current.reverse :: written)) := by
  rw [find_line_cons, find_line_cons]
  cases h with
  | same hcurrent =>
      by_cases hword : word <+: piece.reverse
      · have hall : piece.reverse.takeWhile (fun char => !fine char) = piece.reverse :=
          List.takeWhile_eq_self_iff.mpr fun char hchar => by
            rw [hcurrent char (List.mem_reverse.mp hchar)]; rfl
        rw [if_pos hword, if_pos hword]
        exact .inl (by rw [Option.map_some, hall])
      · rwa [if_neg hword, if_neg hword]
  | @behind _ char hfine hcoarse hwhole hcut =>
      have hnot : ¬ word <+: current.reverse := fun h => hcut [] (by rwa [List.append_nil])
      rw [if_neg hnot]
      -- Only the reader may find something here, behind its own break.
      by_cases hword : word <+: piece.reverse
      · obtain ⟨tail, htail⟩ := hword
        rw [if_pos ⟨tail, htail⟩]
        refine .inr ⟨⟨char, hfine, hcoarse, List.IsInfix.trans ⟨[], tail ++ rest, ?_⟩
          hwhole.isInfix⟩, rfl⟩
        rw [← htail]
        simp
      · rwa [if_neg hword]

/-- A line that goes on behind a break of the reader's begins with the word, or never does. -/
theorem not_prefix_behind (hword : ∀ char ∈ word, fine char = false) {line : List Char}
    {char : Char} (hfine : fine char = true) (h : ¬ word <+: line) (more : List Char) :
    ¬ word <+: line ++ char :: more := by
  have hchar : char ∉ word := fun hmem => by
    rw [hword char hmem] at hfine
    cases hfine
  intro hprefix
  have hline : line ++ [char] <+: line ++ char :: more :=
    ⟨more, by rw [List.append_assoc, List.singleton_append]⟩
  rcases List.prefix_or_prefix_of_prefix hprefix hline with hshort | hlong
  · rcases List.prefix_concat_iff.mp hshort with rfl | hshort
    · exact hchar (by simp)
    · exact h hshort
  · exact hchar (hlong.subset (by simp))

/-- The reader's line ends here, and the writer's goes on. -/
theorem Aligned.cut (hword : ∀ char ∈ word, fine char = false) {char : Char}
    (hfine : fine char = true) (hcoarse : coarse char = false) (hsuffix : char :: rest <:+ whole)
    (h : Aligned fine coarse word whole (char :: rest) piece current)
    (hrest : Aligned fine coarse word whole rest [] (char :: current) →
      Matches fine coarse word whole (findLine word (linesFrom fine [] rest))
        (findLine word (linesFrom coarse (char :: current) rest))) :
    Matches fine coarse word whole (findLine word (piece.reverse :: linesFrom fine [] rest))
      (findLine word (linesFrom coarse (char :: current) rest)) := by
  have hgoes : (char :: current).reverse = current.reverse ++ [char] := List.reverse_cons
  cases h with
  | same hcurrent =>
      -- The writer's line begins like the reader's, so it has the word if this one has it.
      by_cases hstarts : word <+: piece.reverse
      · have hhead : ∃ more lines, linesFrom coarse (char :: piece) rest =
            ((char :: piece).reverse ++ more) :: lines :=
          lines_from_head (List.cons_ne_nil _ _) rest
        obtain ⟨more, lines, hlines⟩ := hhead
        have hall : ∀ other ∈ piece.reverse, (!fine other) = true := fun other hother => by
          rw [hcurrent other (List.mem_reverse.mp hother)]; rfl
        rw [hlines, hgoes, List.append_assoc, find_line_cons, find_line_cons, if_pos hstarts,
          if_pos (hstarts.trans (List.prefix_append _ _))]
        refine .inl ?_
        rw [Option.map_some, List.takeWhile_append_of_pos hall, List.singleton_append,
          List.takeWhile_cons_of_neg (by simp [hfine]), List.append_nil]
      · rw [find_line_cons, if_neg hstarts]
        refine hrest (.behind hfine hcoarse hsuffix fun more => ?_)
        rw [hgoes, List.append_assoc]
        exact not_prefix_behind hword hfine hstarts more
  | @behind _ before hbehind hbefore hwhole hcut =>
      have hnext : Aligned fine coarse word whole rest [] (char :: current) :=
        .behind hfine hcoarse hsuffix fun more => by
          rw [hgoes, List.append_assoc]
          exact hcut _
      have hfinish := (Aligned.behind hbehind hbefore hwhole hcut).finish (hrest hnext)
      rwa [find_line_cons current.reverse, if_neg fun hstarts => hcut [] (by
        rwa [List.append_nil])] at hfinish

/-- The last line counts as one, although it may be empty. -/
theorem find_line_last (hne : word ≠ []) :
    findLine word (if current = [] then [] else [current.reverse]) =
      findLine word [current.reverse] := by
  by_cases hcurrent : current = []
  · rw [if_pos hcurrent, hcurrent, List.reverse_nil, find_line_cons,
      if_neg fun h => hne (List.prefix_nil.mp h)]
  · rw [if_neg hcurrent]

/-- The reader and the writer find the same line, up to the breaks that only the reader knows. -/
theorem Aligned.find (hne : word ≠ []) (hword : ∀ char ∈ word, fine char = false)
    (hcoarse : ∀ char, coarse char = true → fine char = true) {text : List Char}
    (hsuffix : text <:+ whole) (h : Aligned fine coarse word whole text piece current) :
    Matches fine coarse word whole (findLine word (linesFrom fine piece text))
      (findLine word (linesFrom coarse current text)) := by
  have hstart : ∀ rest : List Char, Aligned fine coarse word whole rest [] [] :=
    fun rest => .same fun char hchar => by cases hchar
  have htail : ∀ {char : Char} {rest : List Char}, char :: rest <:+ whole → rest <:+ whole :=
    fun hwhole => (List.suffix_cons _ _).trans hwhole
  have hend : Matches fine coarse word whole (findLine word []) (findLine word []) := .inl rfl
  -- By the reader's recursion: `Aligned` is what the two current lines keep.
  fun_induction linesFrom fine piece text generalizing current with
  | case1 =>
      have hfinish := h.finish hend
      rw [← find_line_last hne, if_pos rfl] at hfinish
      rwa [linesFrom, find_line_last hne]
  | case2 piece hpiece =>
      rw [linesFrom, find_line_last hne]
      exact h.finish hend
  | case3 piece rest ih =>
      rw [linesFrom]
      exact h.finish (ih (htail (htail hsuffix)) (hstart rest))
  | case4 piece char rest hcrlf hfine ih =>
      rw [lines_from_cons hcrlf]
      by_cases hbreak : coarse char = true
      · rw [if_pos hbreak]
        exact h.finish (ih (htail hsuffix) (hstart rest))
      · rw [if_neg hbreak]
        exact h.cut hword hfine (Bool.eq_false_iff.mpr hbreak) hsuffix (ih (htail hsuffix))
  | case5 piece char rest hcrlf hfine ih =>
      rw [lines_from_cons hcrlf, if_neg fun hbreak => hfine (hcoarse char hbreak)]
      refine ih (htail hsuffix) ?_
      cases h with
      | same hcurrent =>
          refine .same fun other hother => ?_
          rcases List.mem_cons.mp hother with rfl | hother
          · exact Bool.eq_false_iff.mpr hfine
          · exact hcurrent other hother
      | behind hbehind hnot hwhole hcut =>
          refine .behind hbehind hnot (by simpa using hwhole) fun more => ?_
          rw [List.reverse_cons, List.append_assoc]
          exact hcut _

theorem find_line (hne : word ≠ []) (hword : ∀ char ∈ word, fine char = false)
    (hcoarse : ∀ char, coarse char = true → fine char = true) (text : List Char) :
    Matches fine coarse word text (findLine word (linesFrom fine [] text))
      (findLine word (linesFrom coarse [] text)) :=
  Aligned.find hne hword hcoarse List.suffix_rfl (.same fun char hchar => by cases hchar)

end Lines
