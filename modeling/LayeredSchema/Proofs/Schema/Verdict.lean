import LayeredSchema.Proofs.Schema.Checking
import LayeredSchema.Proofs.Text.Lines

/-!
# The verdict of a report

The report for people ends in the line `OK` if it is clean. Otherwise its last line is that of a
missing kind, of an overlap or of the keys that are not recognized, and the first two end in a word
of the program, `not_endsInLine_missingLine` and `not_endsInLine_overlapLine`. Keys stand there as
they are, so the last one can bring a line of its own with it: the report ends like a clean one
exactly if it is clean or that line is the verdict, `lastLine?_renderText_iff`.
-/

namespace LayeredSchema.CheckReport

open Text

/-- The lines that are printed, from the fragments down to the verdict. -/
def printedLines (report : CheckReport) : List String :=
  report.fragmentLines ++ report.overlapLines ++ report.unknownLines ++ report.verdictLines

/-- The line of a kind without a file. -/
def missingLine (kind : Kind) : String :=
  "  " ++ padded kind.name ++ " missing"

/-- The line of a key that several fragments define. -/
def overlapLine (overlap : Overlap) : String :=
  "  " ++ overlap.key ++ ": " ++ String.intercalate " -> " overlap.layers

/-- The line of the keys that are not recognized. -/
def unknownLine (keys : List String) : String :=
  "Unrecognized keys: " ++ String.intercalate ", " keys

/-- The report ends in the last line of what is printed last. -/
theorem lastLine?_renderText_of_concat {report : CheckReport} {above : List String} {last : String}
    (h : report.printedLines = above ++ [last]) (line : String) :
    lastLine? report.renderText = some line ↔
      '\n' ∉ line.toList ∧ EndsInLine last.toList line.toList := by
  have htext : report.renderText.toList
      = (above.map String.toList ++ [last.toList]).flatMap fun piece => piece ++ ['\n'] := by
    rw [renderText, ← printedLines, h, String.toList_join,
      ← List.map_singleton (f := String.toList), ← List.map_append, List.flatMap_map,
      List.flatMap_map]
    refine List.flatMap_congr fun piece _ => ?_
    rw [String.toList_append]
    rfl
  rw [← getLast?_lines_flatMap_iff, ← htext, lastLine?, Option.map_eq_some_iff]
  constructor
  · rintro ⟨cs, hcs, rfl⟩
    rw [hcs, String.toList_ofList]
  · intro hline
    exact ⟨line.toList, hline, String.ofList_toList⟩

/-! ## What is printed last -/

/-- The text of the last item of a list ends the list between separators. -/
theorem exists_intercalate_concat (separator : String) (items : List String) (last : String) :
    ∃ before, (String.intercalate separator (items ++ [last])).toList = before ++ last.toList ∧
      (items = [] ∧ before = [] ∨ separator.toList <:+ before) := by
  rw [String.toList_intercalate, List.map_append, List.map_singleton]
  induction items with
  | nil => exact ⟨[], by simp, Or.inl ⟨rfl, rfl⟩⟩
  | cons item items ih =>
    obtain ⟨before, htext, hbefore⟩ := ih
    refine ⟨item.toList ++ separator.toList ++ before, ?_, Or.inr ?_⟩
    · rw [List.map_cons, List.cons_append, List.intercalate_cons_of_ne_nil (by simp), htext]
      simp
    · rcases hbefore with ⟨-, rfl⟩ | hsuffix
      · rw [List.append_nil]
        exact List.suffix_append _ _
      · exact hsuffix.trans (List.suffix_append _ _)

theorem not_endsInLine_missingLine (kind : Kind) :
    ¬ EndsInLine (missingLine kind).toList "OK".toList := by
  intro h
  have hword : " missing".toList ≠ [] := by decide
  have hlast := h.getLast?_eq (c := 'K') rfl
  rw [missingLine, String.toList_append, List.getLast?_append_of_ne_nil _ hword] at hlast
  exact absurd hlast (by decide)

/-- An overlap of fragments ends in the name of a kind. -/
theorem not_endsInLine_overlapLine {overlap : Overlap} {kind : Kind}
    (h : overlap.layers.getLast? = some kind.name) :
    ¬ EndsInLine (overlapLine overlap).toList "OK".toList := by
  intro hline
  obtain ⟨layers, hlayers⟩ := List.getLast?_eq_some_iff.mp h
  obtain ⟨before, hnames, -⟩ := exists_intercalate_concat " -> " layers kind.name
  have hne : kind.name.toList ≠ [] := by cases kind <;> decide
  have hlast := hline.getLast?_eq (c := 'K') rfl
  rw [overlapLine, hlayers, String.toList_append, hnames, ← List.append_assoc,
    List.getLast?_append_of_ne_nil _ hne] at hlast
  cases kind <;> exact absurd hlast (by decide)

/-- The keys that are not recognized end in a line that the last one of them brings with it. -/
theorem endsInLine_unknownLine_iff (keys : List String) (key : String) :
    EndsInLine (unknownLine (keys ++ [key])).toList "OK".toList ↔ "\nOK".toList <:+ key.toList := by
  obtain ⟨before, hkeys, hbefore⟩ := exists_intercalate_concat ", " keys key
  -- a blank stands in front of the last key, behind the label or behind a comma
  obtain ⟨label, hlabel⟩ : ∃ label, "Unrecognized keys: ".toList = label ++ [' '] :=
    ⟨"Unrecognized keys:".toList, by decide⟩
  have hcomma : ", ".toList = [','] ++ [' '] := by decide
  obtain ⟨above, habove⟩ :
      ∃ above, (unknownLine (keys ++ [key])).toList = above ++ ' ' :: key.toList := by
    unfold unknownLine
    rw [String.toList_append, hkeys, hlabel]
    rcases hbefore with ⟨-, rfl⟩ | hbefore
    · exact ⟨label, by simp⟩
    · rw [hcomma] at hbefore
      obtain ⟨others, rfl⟩ := hbefore
      exact ⟨label ++ [' '] ++ others ++ [','], by simp⟩
  have hverdict : "\nOK".toList = '\n' :: "OK".toList := by decide
  have hblank : ' ' ∉ "OK".toList := by decide
  rw [habove, endsInLine_append_blank_iff hblank, hverdict]

/-! ## Reports on what was loaded -/

variable {loader : Loader} {disk : Disk} {report : CheckReport}

theorem exists_load_of_build (h : build loader disk = .ok report) :
    ∃ fragments, loader.load disk = .ok fragments ∧ report = ofFragments loader disk fragments := by
  rw [build_eq, map_eq_ok_iff] at h
  obtain ⟨fragments, hload, hreport⟩ := h
  exact ⟨fragments, hload, hreport.symm⟩

theorem exists_build_of_load {fragments : FragmentSet} (h : loader.load disk = .ok fragments) :
    ∃ report, build loader disk = .ok report ∧ report = ofFragments loader disk fragments :=
  ⟨_, by rw [build_eq, h]; rfl, rfl⟩

/-- The layers of a reported overlap end in the name of a kind. -/
theorem exists_getLast?_layers (h : build loader disk = .ok report) {overlap : Overlap}
    (hoverlap : overlap ∈ report.overlaps) :
    ∃ kind, overlap.layers.getLast? = some (Kind.name kind) := by
  obtain ⟨fragments, hload, rfl⟩ := exists_load_of_build h
  obtain ⟨htwo, hlayers⟩ := (mem_overlaps_ofFragments hload).mp hoverlap
  rcases List.eq_nil_or_concat' (fragments.kindsHolding overlap.key) with
    hnone | ⟨kinds, kind, hkinds⟩
  · rw [hnone] at htwo
    exact absurd htwo (by decide)
  · rw [hkinds, List.map_append, List.map_singleton, ← List.append_assoc] at hlayers
    exact ⟨kind, by rw [hlayers, List.getLast?_concat]⟩

/-! ## The line that is printed last

It names the keys that are not recognized, else the last overlap, else the last missing kind, and is
the verdict if there is none of them. -/

theorem printedLines_of_clean (hclean : report.isClean = true) : report.printedLines
    = report.fragmentLines ++ report.overlapLines ++ report.unknownLines ++ ["OK"] := by
  rw [printedLines, verdictLines, if_pos hclean]

theorem printedLines_of_not_clean (hclean : report.isClean ≠ true) : report.printedLines
    = report.fragmentLines ++ report.overlapLines ++ report.unknownLines := by
  rw [printedLines, verdictLines, if_neg hclean, List.append_nil]

theorem printedLines_of_unknownKeys {keys : List String} {key : String}
    (hkeys : report.unknownKeys = keys ++ [key]) : report.printedLines
      = report.fragmentLines ++ report.overlapLines ++ [unknownLine (keys ++ [key])] := by
  have hclean : report.isClean ≠ true := by
    rw [Ne, isClean_iff, hkeys]
    simp
  rw [printedLines_of_not_clean hclean, unknownLines, hkeys, if_neg (by simp)]
  rfl

theorem printedLines_of_overlaps (hkeys : report.unknownKeys = []) {overlaps : List Overlap}
    {overlap : Overlap} (hoverlaps : report.overlaps = overlaps ++ [overlap]) :
    ∃ above, report.printedLines = above ++ [overlapLine overlap] := by
  have hclean : report.isClean ≠ true := by
    rw [Ne, isClean_iff, hoverlaps]
    simp
  refine ⟨report.fragmentLines
    ++ ("Overlapping keys (last writer wins)" :: overlaps.map overlapLine), ?_⟩
  rw [printedLines_of_not_clean hclean, overlapLines, unknownLines, hoverlaps, hkeys]
  simp [overlapLine]

theorem printedLines_of_missing (hkeys : report.unknownKeys = []) (hoverlaps : report.overlaps = [])
    {kinds : List Kind} {kind : Kind} (hkinds : report.missing = kinds ++ [kind]) :
    ∃ above, report.printedLines = above ++ [missingLine kind] := by
  have hclean : report.isClean ≠ true := by
    rw [Ne, isClean_iff, hkinds]
    simp
  have hoverlap : report.overlapLines = [] := by
    rw [overlapLines, hoverlaps]
    rfl
  have hunknown : report.unknownLines = [] := by
    rw [unknownLines, hkeys]
    rfl
  rw [printedLines_of_not_clean hclean, hoverlap, hunknown, List.append_nil, List.append_nil,
    fragmentLines, hkinds, List.map_append, ← List.append_assoc]
  exact ⟨_, rfl⟩

/-! ## The verdict -/

/-- Without unknown keys no line but the verdict reads like it. -/
theorem lastLine?_ne_of_not_clean (h : build loader disk = .ok report)
    (hclean : report.isClean ≠ true) (hkeys : report.unknownKeys = []) :
    lastLine? report.renderText ≠ some "OK" := by
  rcases List.eq_nil_or_concat' report.overlaps with hdisjoint | ⟨overlaps, overlap, hoverlaps⟩
  · have hmissing : report.missing ≠ [] := fun hall =>
      hclean (isClean_iff.mpr ⟨hall, hdisjoint, hkeys⟩)
    obtain ⟨kinds, kind, hkinds⟩ := (List.eq_nil_or_concat' _).resolve_left hmissing
    obtain ⟨above, hlines⟩ := printedLines_of_missing hkeys hdisjoint hkinds
    rw [Ne, lastLine?_renderText_of_concat hlines]
    exact fun hlast => not_endsInLine_missingLine kind hlast.2
  · obtain ⟨above, hlines⟩ := printedLines_of_overlaps hkeys hoverlaps
    have hmem : overlap ∈ report.overlaps := by
      rw [hoverlaps]
      exact List.mem_append_right _ List.mem_cons_self
    obtain ⟨kind, hkind⟩ := exists_getLast?_layers h hmem
    rw [Ne, lastLine?_renderText_of_concat hlines]
    exact fun hlast => not_endsInLine_overlapLine hkind hlast.2

/-- The report ends in the verdict exactly if it is clean, or if the last key that is not recognized
ends in the verdict on a line of its own. -/
theorem lastLine?_renderText_iff (h : build loader disk = .ok report) :
    lastLine? report.renderText = some "OK" ↔
      report.isClean = true ∨
        ∃ key, report.unknownKeys.getLast? = some key ∧ "\nOK".toList <:+ key.toList := by
  by_cases hclean : report.isClean = true
  · rw [lastLine?_renderText_of_concat (printedLines_of_clean hclean)]
    exact ⟨fun _ => Or.inl hclean, fun _ => ⟨by decide, Or.inl rfl⟩⟩
  rw [or_iff_right hclean]
  rcases List.eq_nil_or_concat' report.unknownKeys with hnone | ⟨keys, key, hkeys⟩
  · refine iff_of_false (lastLine?_ne_of_not_clean h hclean hnone) ?_
    rintro ⟨key, hkey, -⟩
    rw [hnone] at hkey
    cases hkey
  · rw [lastLine?_renderText_of_concat (printedLines_of_unknownKeys hkeys),
      endsInLine_unknownLine_iff, hkeys, List.getLast?_concat]
    constructor
    · rintro ⟨-, hkey⟩
      exact ⟨key, rfl, hkey⟩
    · rintro ⟨last, hlast, hkey⟩
      obtain rfl := Option.some.inj hlast
      exact ⟨by decide, hkey⟩

/-- The last line of a report is the verdict exactly if it is clean, or if the last key that is not
recognized ends in the verdict on a line of its own. So the verdict can be trusted unless that key
does. -/
theorem verdict_on_last_line (h : build loader disk = .ok report) :
    (lastLine? report.renderText = some "OK" ↔
      report.isClean = true ∨
        ∃ key, report.unknownKeys.getLast? = some key ∧ "\nOK".toList <:+ key.toList) ∧
    ((∀ key, report.unknownKeys.getLast? = some key → ¬ "\nOK".toList <:+ key.toList) →
      (lastLine? report.renderText = some "OK" ↔ report.isClean = true)) := by
  have hlast := lastLine?_renderText_iff h
  refine ⟨hlast, fun hkeys => ?_⟩
  rw [hlast, or_iff_left]
  rintro ⟨key, hkey, hsuffix⟩
  exact hkeys key hkey hsuffix

/-- A report that is not clean ends in its problems, and a clean one in the verdict. -/
theorem verdict_on_last_line_parts :
    (∃ report, build ⟨partsPaths, false⟩ uncleanDisk = .ok report ∧
      report.unknownKeys = ["extra"] ∧ report.isClean ≠ true ∧
      lastLine? report.renderText ≠ some "OK") ∧
    ∃ report, build ⟨partsPaths, false⟩ wrongTypeDisk = .ok report ∧
      report.unknownKeys = [] ∧ report.isClean = true ∧
      lastLine? report.renderText = some "OK" := by
  constructor
  · have hload : Loader.load ⟨partsPaths, false⟩ uncleanDisk = .ok _ := rfl
    obtain ⟨report, hbuild, hreport⟩ := exists_build_of_load hload
    have hkeys : report.unknownKeys = ["extra"] := by
      rw [hreport]
      decide
    have hclean : report.isClean ≠ true := by
      rw [Ne, isClean_iff, hkeys]
      rintro ⟨-, -, hnone⟩
      cases hnone
    obtain ⟨-, hverdict⟩ := verdict_on_last_line hbuild
    refine ⟨report, hbuild, hkeys, hclean, fun hlast => hclean ((hverdict ?_).mp hlast)⟩
    rw [hkeys]
    decide
  · have hload : Loader.load ⟨partsPaths, false⟩ wrongTypeDisk = .ok _ := rfl
    obtain ⟨report, hbuild, hreport⟩ := exists_build_of_load hload
    have hkeys : report.unknownKeys = [] := by
      rw [hreport]
      decide
    have hclean : report.isClean = true := by
      rw [hreport, isClean_ofFragments_iff hload]
      simp only [exists_name_eq_iff]
      exact ⟨fun kind => by cases kind <;> decide, by decide, by decide⟩
    obtain ⟨hverdict, -⟩ := verdict_on_last_line hbuild
    exact ⟨report, hbuild, hkeys, hclean, hverdict.mpr (Or.inl hclean)⟩

/-- A key that is not recognized, with a line feed and the verdict at its end. -/
def forgedDisk : Disk :=
  partsDisk "\x7b\"x\\nOK\":1\x7d" "\x7b\x7d" "\x7b\x7d"

/-- The report on it is not clean and ends in the verdict. -/
theorem verdict_forged_by_key :
    ∃ report, build ⟨partsPaths, false⟩ forgedDisk = .ok report ∧
      report.unknownKeys = ["x\nOK"] ∧ report.isClean ≠ true ∧
      lastLine? report.renderText = some "OK" := by
  have hload : Loader.load ⟨partsPaths, false⟩ forgedDisk = .ok _ := rfl
  obtain ⟨report, hbuild, hreport⟩ := exists_build_of_load hload
  have hkeys : report.unknownKeys = ["x\nOK"] := by
    rw [hreport]
    decide
  refine ⟨report, hbuild, hkeys, ?_, (lastLine?_renderText_iff hbuild).mpr (Or.inr ?_)⟩
  · rw [Ne, isClean_iff, hkeys]
    rintro ⟨-, -, hnone⟩
    cases hnone
  · exact ⟨"x\nOK", by rw [hkeys]; rfl, by decide⟩

end LayeredSchema.CheckReport
