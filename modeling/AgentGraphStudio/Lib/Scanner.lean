import Mathlib.Data.List.Forall2
import Mathlib.Data.List.TakeWhile

/-!
# Scanning texts with one character of lookahead

A scanner reads a value off the front of a text and returns what follows. `Scanner.items` reads
a list with separators and blanks between its items, up to a closing character, and `ItemsText`
says of which texts it does so: what it reads has that form (`items_sound`), and it reads every
text of that form, whatever follows it (`items_complete`). What `Scanner.written` puts together
from the texts of the items has it, too.
-/

namespace Scanner

variable {α : Type}

/-- A value and what follows it, if the text starts with one. -/
abbrev Scan (α : Type) := List Char → Option (α × List Char)

variable (blank : Char → Bool)

/-- A text after its blanks. -/
def skip (chars : List Char) : List Char := chars.dropWhile blank

/-- A text after its first character, if it is this one. -/
def expect (char : Char) : List Char → Option (List Char)
  | [] => none
  | head :: rest => if head = char then some rest else none

/-- Items up to a closing character, as many as this at most. -/
def separated (item : Scan α) (separator close : Char) : Nat → Scan (List α)
  | 0, _ => none
  | count + 1, chars => do
    let (value, rest) ← item chars
    match expect close (skip blank rest) with
    | some rest => some ([value], rest)
    | none => do
      let rest ← expect separator (skip blank rest)
      let (values, rest) ← separated item separator close count (skip blank rest)
      some (value :: values, rest)

/-- Items up to a closing character, if there are any. -/
def items (item : Scan α) (separator close : Char) : Scan (List α) := fun chars =>
  match expect close (skip blank chars) with
  | some rest => some ([], rest)
  | none => separated blank item separator close (skip blank chars).length (skip blank chars)

/-- One or more items as they are written, with the closing character. -/
inductive SeparatedText (Item : List Char → α → Prop) (separator close : Char) :
    List Char → List α → Prop where
  | last {text blanks : List Char} {value : α} (hitem : Item text value)
      (hblanks : ∀ char ∈ blanks, blank char = true) :
      SeparatedText Item separator close (text ++ (blanks ++ [close])) [value]
  | next {text blanks blanks' more : List Char} {value : α} {values : List α}
      (hitem : Item text value) (hblanks : ∀ char ∈ blanks, blank char = true)
      (hblanks' : ∀ char ∈ blanks', blank char = true)
      (hmore : SeparatedText Item separator close more values) :
      SeparatedText Item separator close (text ++ (blanks ++ separator :: (blanks' ++ more)))
        (value :: values)

/-- Items as they are written, with the closing character. -/
inductive ItemsText (Item : List Char → α → Prop) (separator close : Char) :
    List Char → List α → Prop where
  | none {blanks : List Char} (hblanks : ∀ char ∈ blanks, blank char = true) :
      ItemsText Item separator close (blanks ++ [close]) []
  | some {text blanks : List Char} {values : List α} (hblanks : ∀ char ∈ blanks, blank char = true)
      (hhead : text.head? ≠ some close)
      (htext : SeparatedText blank Item separator close text values) :
      ItemsText Item separator close (blanks ++ text) values

variable {blank} {chars rest blanks : List Char} {char : Char}

theorem expect_eq_some_iff : expect char chars = some rest ↔ chars = char :: rest := by
  cases chars with
  | nil => exact ⟨fun h => (by cases h), fun h => (by cases h)⟩
  | cons head tail =>
      rw [expect]
      by_cases hhead : head = char
      · rw [if_pos hhead, hhead, Option.some.injEq, List.cons.injEq]
        exact ⟨fun h => ⟨rfl, h⟩, And.right⟩
      · rw [if_neg hhead, List.cons.injEq]
        exact ⟨fun h => (by cases h), fun h => absurd h.1 hhead⟩

@[simp] theorem expect_self : expect char (char :: rest) = some rest := expect_eq_some_iff.mpr rfl

theorem expect_of_ne {head : Char} (h : head ≠ char) : expect char (head :: rest) = none := by
  rw [expect, if_neg h]

/-- A text is its blanks and what follows them. -/
theorem exists_blanks (blank : Char → Bool) (chars : List Char) :
    ∃ blanks, (∀ char ∈ blanks, blank char = true) ∧ chars = blanks ++ skip blank chars :=
  ⟨chars.takeWhile blank, fun _ h => List.mem_takeWhile_imp h, List.takeWhile_append_dropWhile.symm⟩

/-- Blanks end at a character that is none. -/
theorem skip_append (hblanks : ∀ char ∈ blanks, blank char = true) (hchar : blank char = false) :
    skip blank (blanks ++ char :: rest) = char :: rest := by
  rw [skip, List.dropWhile_append_of_pos hblanks, List.dropWhile_cons_of_neg (by simp [hchar])]

/-- What follows the blanks does not begin with one. -/
theorem skip_head (h : skip blank chars = char :: rest) : blank char = false := by
  have hhead := List.head?_dropWhile_not blank chars
  rw [skip] at h
  rwa [h] at hhead

section

variable {separator close : Char} {Item : List Char → α → Prop} {item : Scan α} {values : List α}

/-- What is read has the form of a list of items, if the items are read as such. -/
theorem separated_sound
    (hitem : ∀ chars value rest, item chars = some (value, rest) →
      ∃ text, chars = text ++ rest ∧ Item text value) (count : Nat)
    (h : separated blank item separator close count chars = some (values, rest)) :
    ∃ text, chars = text ++ rest ∧ SeparatedText blank Item separator close text values := by
  -- On the bound: each item is read with one less.
  induction count generalizing chars values with
  | zero => cases h
  | succ count ih =>
      rw [separated, Option.bind_eq_bind, Option.bind_eq_some_iff] at h
      obtain ⟨⟨value, after⟩, hvalue, h⟩ := h
      obtain ⟨text, rfl, htext⟩ := hitem _ _ _ hvalue
      obtain ⟨blanks, hblanks, hafter⟩ := exists_blanks blank after
      dsimp only at h
      cases hclose : expect close (skip blank after) with
      | some closed =>
          rw [hclose] at h
          cases h
          rw [expect_eq_some_iff.mp hclose] at hafter
          exact ⟨_, by rw [hafter]; simp, .last htext hblanks⟩
      | none =>
          rw [hclose] at h
          dsimp only at h
          rw [Option.bind_eq_bind, Option.bind_eq_some_iff] at h
          obtain ⟨following, hseparator, h⟩ := h
          rw [Option.bind_eq_bind, Option.bind_eq_some_iff] at h
          obtain ⟨⟨others, last⟩, hothers, h⟩ := h
          cases h
          obtain ⟨blanks', hblanks', hfollowing⟩ := exists_blanks blank following
          obtain ⟨more, hmore, hform⟩ := ih hothers
          rw [expect_eq_some_iff.mp hseparator, hfollowing, hmore] at hafter
          exact ⟨_, by rw [hafter]; simp, .next htext hblanks hblanks' hform⟩

/-- A list of items begins like its first item. -/
theorem SeparatedText.starts {text : List Char} {First : Char → Prop}
    (hfirst : ∀ text value, Item text value → ∃ char tail, text = char :: tail ∧ First char)
    (h : SeparatedText blank Item separator close text values) :
    ∃ char tail, text = char :: tail ∧ First char := by
  cases h with
  | last hitem _ =>
      obtain ⟨char, tail, rfl, hchar⟩ := hfirst _ _ hitem
      exact ⟨char, _, rfl, hchar⟩
  | next hitem _ _ _ =>
      obtain ⟨char, tail, rfl, hchar⟩ := hfirst _ _ hitem
      exact ⟨char, _, rfl, hchar⟩

/-- A list of items ends with its closing character. -/
theorem SeparatedText.ends {text : List Char}
    (h : SeparatedText blank Item separator close text values) :
    ∃ body, text = body ++ [close] := by
  induction h with
  | last _ _ => exact ⟨_, (List.append_assoc _ _ _).symm⟩
  | next _ _ _ _ ih =>
      obtain ⟨body, rfl⟩ := ih
      exact ⟨_, by rw [← List.append_assoc, ← List.cons_append, ← List.append_assoc,
        ← List.append_assoc]⟩

/-- A list of items has what its parts have, if it is passed on to texts in a row. -/
theorem SeparatedText.closed {text : List Char} {P : List Char → Prop}
    (happend : ∀ text other, P text → P other → P (text ++ other))
    (hitem : ∀ text value, Item text value → P text)
    (hblank : ∀ blanks, (∀ char ∈ blanks, blank char = true) → P blanks)
    (hseparator : P [separator]) (hclose : P [close])
    (h : SeparatedText blank Item separator close text values) : P text := by
  induction h with
  | last hvalue hblanks =>
      exact happend _ _ (hitem _ _ hvalue) (happend _ _ (hblank _ hblanks) hclose)
  | next hvalue hblanks hblanks' _ ih =>
      exact happend _ _ (hitem _ _ hvalue) (happend _ _ (hblank _ hblanks)
        (happend [separator] _ hseparator (happend _ _ (hblank _ hblanks') ih)))

/-- A list of items is read, whatever follows it, if each item is read before a blank, a separator
or the closing character. -/
theorem separated_complete {text : List Char}
    (hseparator : blank separator = false) (hclose : blank close = false)
    (hne : separator ≠ close)
    (hhead : ∀ text value, Item text value → ∃ char tail, text = char :: tail ∧
      blank char = false)
    (htext : SeparatedText blank Item separator close text values) (count : Nat)
    (hcount : text.length ≤ count)
    (hitem : ∀ other value, Item other value → other.length ≤ text.length →
      ∀ char rest, (blank char = true ∨ char = separator ∨ char = close) →
        item (other ++ char :: rest) = some (value, char :: rest)) (rest : List Char) :
    separated blank item separator close count (text ++ rest) = some (values, rest) := by
  -- What follows an item begins with a blank or with the character after the blanks.
  have hfollow : ∀ (blanks : List Char) (char : Char) (tail : List Char),
      (∀ char ∈ blanks, blank char = true) → (char = separator ∨ char = close) →
      ∃ head following, blanks ++ char :: tail = head :: following ∧
        (blank head = true ∨ head = separator ∨ head = close) := by
    intro blanks char tail hblanks hchar
    cases blanks with
    | nil => exact ⟨char, tail, rfl, .inr hchar⟩
    | cons head blanks => exact ⟨head, _, rfl, .inl (hblanks head List.mem_cons_self)⟩
  have exists_count : ∀ {text : List Char} {values : List α} {count : Nat},
      SeparatedText blank Item separator close text values → text.length ≤ count →
      ∃ left, count = left + 1 := by
    intro text values count hform hle
    obtain ⟨body, rfl⟩ := hform.ends
    rw [List.length_append] at hle
    exact Nat.exists_eq_add_one.mpr (Nat.lt_of_lt_of_le (Nat.succ_pos _) hle)
  induction htext generalizing count with
  | @last text blanks value htext hblanks =>
      obtain ⟨head, following, hhead', hfollows⟩ := hfollow blanks close rest hblanks (.inr rfl)
      have hread := hitem text value htext (by simp) head following hfollows
      obtain ⟨count, rfl⟩ := exists_count (.last htext hblanks) hcount
      rw [List.append_assoc, List.append_assoc, List.singleton_append, hhead', separated, hread,
        ← hhead']
      simp only [Option.bind_eq_bind, Option.bind_some, skip_append hblanks hclose, expect_self]
  | @next text blanks blanks' more value values htext hblanks hblanks' hmore ih =>
      obtain ⟨head, following, hhead', hfollows⟩ :=
        hfollow blanks separator (blanks' ++ (more ++ rest)) hblanks (.inl rfl)
      have hread := hitem text value htext (by simp) head following hfollows
      obtain ⟨count, rfl⟩ := exists_count (.next htext hblanks hblanks' hmore) hcount
      have hlength : more.length ≤ count := by
        simp only [List.length_append, List.length_cons] at hcount
        omega
      have hrest := ih count hlength fun other value hother hle =>
        hitem other value hother (Nat.le_trans hle (by simp; omega))
      obtain ⟨first, tail, hfirst, hblank⟩ := hmore.starts hhead
      have hskip : skip blank (blanks' ++ (more ++ rest)) = more ++ rest := by
        rw [hfirst, List.cons_append, skip_append hblanks' hblank]
      rw [List.append_assoc, List.append_assoc, List.cons_append, List.append_assoc, hhead',
        separated, hread, ← hhead']
      simp only [Option.bind_eq_bind, Option.bind_some, skip_append hblanks hseparator,
        expect_of_ne hne, expect_self, hskip, hrest]

/-! ### Possibly no items -/

/-- What is read has the form of a list, if the items are read as such. -/
theorem items_sound
    (hitem : ∀ chars value rest, item chars = some (value, rest) →
      ∃ text, chars = text ++ rest ∧ Item text value)
    (h : items blank item separator close chars = some (values, rest)) :
    ∃ text, chars = text ++ rest ∧ ItemsText blank Item separator close text values := by
  obtain ⟨blanks, hblanks, hchars⟩ := exists_blanks blank chars
  rw [items] at h
  cases hclose : expect close (skip blank chars) with
  | some closed =>
      rw [hclose] at h
      cases h
      rw [expect_eq_some_iff.mp hclose] at hchars
      exact ⟨blanks ++ [close], by rw [hchars]; simp, .none hblanks⟩
  | none =>
      rw [hclose] at h
      obtain ⟨text, htext, hform⟩ := separated_sound hitem _ h
      refine ⟨blanks ++ text, by rw [hchars, htext, List.append_assoc], .some hblanks ?_ hform⟩
      intro hhead
      obtain ⟨tail, rfl⟩ := List.head?_eq_some_iff.mp hhead
      rw [htext, List.cons_append, expect_self] at hclose
      cases hclose

theorem ItemsText.ends {text : List Char}
    (h : ItemsText blank Item separator close text values) : ∃ body, text = body ++ [close] := by
  cases h with
  | none _ => exact ⟨_, rfl⟩
  | some _ _ htext =>
      obtain ⟨body, rfl⟩ := htext.ends
      exact ⟨_, (List.append_assoc _ _ _).symm⟩

theorem ItemsText.closed {text : List Char} {P : List Char → Prop}
    (happend : ∀ text other, P text → P other → P (text ++ other))
    (hitem : ∀ text value, Item text value → P text)
    (hblank : ∀ blanks, (∀ char ∈ blanks, blank char = true) → P blanks)
    (hseparator : P [separator]) (hclose : P [close])
    (h : ItemsText blank Item separator close text values) : P text := by
  cases h with
  | none hblanks => exact happend _ _ (hblank _ hblanks) hclose
  | some hblanks _ htext =>
      exact happend _ _ (hblank _ hblanks) (htext.closed happend hitem hblank hseparator hclose)

/-- The values of a list have what its items give them. -/
theorem SeparatedText.forall_values {text : List Char} {P : α → Prop}
    (hitem : ∀ text value, Item text value → P value)
    (h : SeparatedText blank Item separator close text values) : ∀ value ∈ values, P value := by
  induction h with
  | last hvalue _ => simpa using hitem _ _ hvalue
  | next hvalue _ _ _ ih =>
      rw [List.forall_mem_cons]
      exact ⟨hitem _ _ hvalue, ih⟩

theorem ItemsText.forall_values {text : List Char} {P : α → Prop}
    (hitem : ∀ text value, Item text value → P value)
    (h : ItemsText blank Item separator close text values) : ∀ value ∈ values, P value := by
  cases h with
  | none _ => simp
  | some _ _ htext => exact htext.forall_values hitem

/-- A list is read, whatever follows it, if each item is read before a blank, a separator or the
closing character. -/
theorem items_complete {text : List Char}
    (hseparator : blank separator = false) (hclose : blank close = false)
    (hne : separator ≠ close)
    (hhead : ∀ text value, Item text value → ∃ char tail, text = char :: tail ∧
      blank char = false)
    (htext : ItemsText blank Item separator close text values)
    (hitem : ∀ other value, Item other value → other.length ≤ text.length →
      ∀ char rest, (blank char = true ∨ char = separator ∨ char = close) →
        item (other ++ char :: rest) = some (value, char :: rest)) (rest : List Char) :
    items blank item separator close (text ++ rest) = some (values, rest) := by
  cases htext with
  | none hblanks =>
      rw [items, List.append_assoc, List.singleton_append, skip_append hblanks hclose, expect_self]
  | @some text blanks _ hblanks hopen hform =>
      obtain ⟨first, tail, hfirst, hblank⟩ := hform.starts hhead
      have hskip : skip blank (blanks ++ (text ++ rest)) = text ++ rest := by
        rw [hfirst, List.cons_append, skip_append hblanks hblank]
      have hnot : first ≠ close := by
        rintro rfl
        exact hopen (by rw [hfirst]; rfl)
      have hread := separated_complete hseparator hclose hne hhead hform (text ++ rest).length
        (by rw [List.length_append]; omega) (fun other value hother hle =>
          hitem other value hother (Nat.le_trans hle (by rw [List.length_append]; omega))) rest
      rw [items, List.append_assoc, hskip, hread, hfirst, List.cons_append, expect_of_ne hnot]

/-! ### Writing a list -/

/-- Items as a writer puts them, with the closing character: blanks after the opening one, after
each separator and before the closing one. -/
def written (separator close : Char) (start between stop : List Char) :
    List (List Char) → List Char
  | [] => [close]
  | text :: texts =>
    start ++ (text ++ (texts.flatMap (fun other => separator :: (between ++ other)) ++
      (stop ++ [close])))

/-- What is written has the form of a list of items. -/
theorem itemsText_written {start between stop : List Char} {texts : List (List Char)}
    (hstart : ∀ char ∈ start, blank char = true) (hbetween : ∀ char ∈ between, blank char = true)
    (hstop : ∀ char ∈ stop, blank char = true)
    (hhead : ∀ text value, Item text value → text ≠ [] ∧ text.head? ≠ some close)
    (htexts : List.Forall₂ Item texts values) :
    ItemsText blank Item separator close (written separator close start between stop texts)
      values := by
  cases htexts with
  | nil =>
      have hnone : ∀ char ∈ ([] : List Char), blank char = true := by simp
      exact .none hnone
  | @cons text value texts values hitem hitems =>
      refine .some hstart ?_ ?_
      · obtain ⟨hne, hopen⟩ := hhead _ _ hitem
        rwa [List.head?_append_of_ne_nil _ hne]
      -- The items after the first, each behind its separator.
      clear hhead
      induction hitems generalizing text value with
      | nil => exact .last hitem hstop
      | @cons other next texts values hother _ ih =>
          have hrest := ih hother
          have hnone : ∀ char ∈ ([] : List Char), blank char = true := by simp
          have hnext := SeparatedText.next hitem hnone hbetween hrest
          simpa using hnext

end

end Scanner
