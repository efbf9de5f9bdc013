import Mathlib.Data.List.Basic

/-!
# Lines of a text

A line feed ends a line, and so does the end of a text that does not end in one. In a text that ends
in a line feed the last line is what stands in front of it, behind the line feed before that,
`getLast?_lines_concat_iff`. A text put together from pieces, each with a line feed behind it, has
the lines of its pieces, `lines_flatMap`.
-/

namespace LayeredSchema.Text

/-- The lines of a text, without their line feeds. -/
def lines : List Char → List (List Char)
  | [] => []
  | c :: cs =>
    if c = '\n' then [] :: lines cs
    else match lines cs with
      | [] => [[c]]
      | line :: more => (c :: line) :: more

/-- The last line of a text, if it has any. -/
def lastLine? (s : String) : Option String :=
  (lines s.toList).getLast?.map String.ofList

/-- A text without its final line feed ends in a line: it is that line, or the line stands behind a
line feed. -/
def EndsInLine (cs line : List Char) : Prop :=
  cs = line ∨ ∃ before, cs = before ++ '\n' :: line

theorem lines_of_not_mem {line : List Char} (h : '\n' ∉ line) :
    lines (line ++ ['\n']) = [line] := by
  induction line with
  | nil => rfl
  | cons c line ih =>
    rw [List.mem_cons, not_or] at h
    rw [List.cons_append, lines, if_neg (Ne.symm h.1), ih h.2]

theorem lines_cons_ne_nil (c : Char) (cs : List Char) : lines (c :: cs) ≠ [] := by
  rw [lines]
  split
  · exact List.cons_ne_nil _ _
  · split <;> exact List.cons_ne_nil _ _

theorem lines_concat_ne_nil (cs : List Char) : lines (cs ++ ['\n']) ≠ [] := by
  cases cs <;> exact lines_cons_ne_nil _ _

/-- What follows a line feed starts a line of its own. -/
theorem lines_append_break (before after : List Char) :
    lines (before ++ '\n' :: after) = lines (before ++ ['\n']) ++ lines after := by
  induction before with
  | nil => rfl
  | cons c before ih =>
    rw [List.cons_append, List.cons_append, lines, lines]
    by_cases hc : c = '\n'
    · rw [if_pos hc, if_pos hc, ih, List.cons_append]
    · obtain ⟨line, more, hlines⟩ := List.exists_cons_of_ne_nil (lines_concat_ne_nil before)
      rw [if_neg hc, if_neg hc, ih, hlines]
      rfl

/-- Pieces that are written with a line feed behind each of them keep their lines. -/
theorem lines_flatMap (pieces : List (List Char)) :
    lines (pieces.flatMap fun piece => piece ++ ['\n'])
      = pieces.flatMap fun piece => lines (piece ++ ['\n']) := by
  induction pieces with
  | nil => rfl
  | cons piece pieces ih =>
    rw [List.flatMap_cons, List.append_assoc, List.singleton_append, lines_append_break, ih,
      List.flatMap_cons]

/-! ## The last line -/

/-- In a text that ends in a line feed, the last line is all of it or stands behind the line feed
before. -/
theorem getLast?_lines_concat_iff {cs line : List Char} :
    (lines (cs ++ ['\n'])).getLast? = some line ↔ '\n' ∉ line ∧ EndsInLine cs line := by
  have hwhole {line : List Char} (h : '\n' ∉ line) :
      (lines (line ++ ['\n'])).getLast? = some line := by
    rw [lines_of_not_mem h]
    rfl
  have hbehind (before : List Char) {line : List Char} (h : '\n' ∉ line) :
      (lines (before ++ '\n' :: line ++ ['\n'])).getLast? = some line := by
    rw [List.append_assoc, List.cons_append, lines_append_break, lines_of_not_mem h]
    exact List.getLast?_concat
  constructor
  · intro hlast
    by_cases hbreak : '\n' ∈ cs
    · -- cut at the last line feed
      obtain ⟨after, before, hreverse, hafter⟩ :=
        List.eq_append_cons_of_mem (List.mem_reverse.mpr hbreak)
      have hcs : cs = before.reverse ++ '\n' :: after.reverse := by
        rw [← List.reverse_reverse cs, hreverse]
        simp
      have hline : '\n' ∉ after.reverse := fun h => hafter (List.mem_reverse.mp h)
      rw [hcs, hbehind _ hline] at hlast
      obtain rfl := Option.some.inj hlast
      exact ⟨hline, Or.inr ⟨before.reverse, hcs⟩⟩
    · rw [hwhole hbreak] at hlast
      obtain rfl := Option.some.inj hlast
      exact ⟨hbreak, Or.inl rfl⟩
  · rintro ⟨hline, rfl | ⟨before, rfl⟩⟩
    · exact hwhole hline
    · exact hbehind before hline

/-- A text of pieces with a line feed behind each ends in the last line of the last piece. -/
theorem getLast?_lines_flatMap_iff {pieces : List (List Char)} {last line : List Char} :
    (lines ((pieces ++ [last]).flatMap fun piece => piece ++ ['\n'])).getLast? = some line ↔
      '\n' ∉ line ∧ EndsInLine last line := by
  rw [lines_flatMap, List.flatMap_append, List.flatMap_singleton,
    List.getLast?_append_of_ne_nil _ (lines_concat_ne_nil last), getLast?_lines_concat_iff]

theorem EndsInLine.getLast?_eq {cs line : List Char} {c : Char} (h : EndsInLine cs line)
    (hline : line.getLast? = some c) : cs.getLast? = some c := by
  obtain ⟨init, rfl⟩ := List.getLast?_eq_some_iff.mp hline
  rcases h with rfl | ⟨before, rfl⟩
  · exact hline
  · rw [← List.cons_append, ← List.append_assoc, List.getLast?_concat]

/-- Behind a blank, a line without blanks stands only behind a line feed. -/
theorem endsInLine_append_blank_iff {before cs line : List Char} (h : ' ' ∉ line) :
    EndsInLine (before ++ ' ' :: cs) line ↔ '\n' :: line <:+ cs := by
  constructor
  · rintro (rfl | ⟨above, heq⟩)
    · exact absurd (List.mem_append_right _ List.mem_cons_self) h
    · rcases List.append_eq_append_iff.mp heq with ⟨between, -, hcs⟩ | ⟨between, -, hline⟩
      · -- the line feed is behind the blank
        cases between with
        | nil => cases hcs
        | cons c between => exact ⟨between, (List.cons.inj hcs).2.symm⟩
      · -- or the blank is behind the line feed
        cases between with
        | nil => cases hline
        | cons c between =>
          refine absurd ?_ h
          rw [(List.cons.inj hline).2]
          exact List.mem_append_right _ List.mem_cons_self
  · rintro ⟨between, rfl⟩
    exact Or.inr ⟨before ++ ' ' :: between, by simp⟩

end LayeredSchema.Text
