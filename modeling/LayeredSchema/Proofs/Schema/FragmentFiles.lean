import LayeredSchema.Proofs.Disk.FileName
import LayeredSchema.Proofs.Schema.WatchedDirectories

/-!
# Names of fragment files

A file is looked for under the name of its kind and one of four extensions. The watcher tells the
kind of a file from the stem of its name, and the reader takes the format from the extension; each
goes by the path alone.

* `classifyPath_eq_some_iff` and `parseFragment_eq_unsupported_iff` say which paths they accept;
* `SchemaPaths.IsCandidate.endsIn` is why both accept every path that is looked for.
-/

namespace LayeredSchema

/-! ## Stems and extensions -/

theorem Kind.find?_stem_eq_some_iff {stem : String} {kind : Kind} :
    (all.find? fun other => other.stem = stem) = some kind ↔ kind.stem = stem := by
  constructor
  · intro h
    simpa using List.find?_some h
  · intro h
    rw [← h]
    cases kind <;> rfl

namespace SourceFormat

/-- Each extension is that of one format. -/
theorem ofExtension?_eq_some_iff {extension : String} {format : SourceFormat} :
    ofExtension? extension = some format ↔
      (extension, format) ∈ [("json5", json5), ("json", json), ("yaml", yaml), ("yml", yaml)] := by
  unfold ofExtension?
  split <;> simp_all [eq_comm]

theorem ofExtension?_eq_none_iff {extension : String} :
    ofExtension? extension = none ↔ extension ∉ extensions := by
  unfold ofExtension?
  split <;> simp_all [extensions]

end SourceFormat

/-! ## What the watcher and the reader accept -/

/-- The kind of a path is the one whose stem, with one of the four extensions, it ends in. -/
theorem classifyPath_eq_some_iff {path : Path} {kind : Kind} :
    classifyPath path = some kind ↔
      ∃ extension ∈ SourceFormat.extensions,
        path.EndsIn (kind.stem.toList ++ '.' :: extension.toList) := by
  have hdots : ∀ extension ∈ SourceFormat.extensions, '.' ∉ extension.toList := by decide
  have hstem : kind.stem.toList ≠ [] := by cases kind <;> decide
  constructor
  · intro h
    rw [classifyPath] at h
    cases hext : path.extension? with
    | none =>
      rw [hext] at h
      cases h
    | some extension =>
      rw [hext] at h
      dsimp only at h
      split_ifs at h with hlisted
      rw [Path.extension?_eq_some_iff] at hext
      -- the stem of the name is that of the kind
      obtain ⟨stem, hne, hdot, hends⟩ := hext
      rw [Kind.ofPath?, hends.stem? hne hdot, Option.bind_some, Kind.find?_stem_eq_some_iff] at h
      rw [h, String.toList_ofList]
      exact ⟨extension, List.contains_iff_mem.mp hlisted, hends⟩
  · intro h
    obtain ⟨extension, hlisted, hends⟩ := h
    have hdot := hdots extension hlisted
    have hext : path.extension? = some extension :=
      Path.extension?_eq_some_iff.mpr ⟨kind.stem.toList, hstem, hdot, hends⟩
    have hkind : Kind.ofPath? path = some kind := by
      rw [Kind.ofPath?, hends.stem? hstem hdot, Option.bind_some, Kind.find?_stem_eq_some_iff,
        String.ofList_toList]
    rw [classifyPath, hext]
    dsimp only
    rw [if_pos (List.contains_iff_mem.mpr hlisted), hkind]

example : classifyPath ⟨"schemas/OneTable.yml/./"⟩ = some .tableMapping := by decide

/-- A path is refused for its extension if that is none of the four; the error names the path and
the extension. -/
theorem parseFragment_eq_unsupported_iff {path place : Path} {content reported : String} :
    parseFragment path content = .error (.unsupportedExtension place reported) ↔
      (∀ extension ∈ SourceFormat.extensions, path.extension? ≠ some extension) ∧
        place = path ∧ reported = path.extension?.getD "" := by
  have hlisted : SourceFormat.ofExtension? (path.extension?.getD "") = none ↔
      ∀ extension ∈ SourceFormat.extensions, path.extension? ≠ some extension := by
    rw [SourceFormat.ofExtension?_eq_none_iff]
    cases path.extension? with
    | none => simp [SourceFormat.extensions]
    | some extension =>
      rw [Option.getD_some]
      constructor
      · intro hnot other hother heq
        rw [← Option.some.inj heq] at hother
        exact hnot hother
      · intro hall hmem
        exact hall extension hmem rfl
  rw [← hlisted, parseFragment]
  cases SourceFormat.ofExtension? (path.extension?.getD "") with
  | none => simp [eq_comm]
  | some format =>
    dsimp only
    cases format.read content <;> simp

/-! ## Files that are looked for -/

namespace SchemaPaths

/-- A file that is looked for has the name of its kind, whatever its directory looks like. -/
theorem IsCandidate.endsIn {paths : SchemaPaths} {kind : Kind} {entry : Candidate}
    (h : paths.IsCandidate kind entry) :
    entry.path.EndsIn (kind.stem.toList ++ '.' :: entry.extension.toList) := by
  obtain ⟨hextension, dir, -, hpath⟩ := h
  rw [← Path.fileName?_eq_some_iff, hpath, ← ofList_fileName]
  exact Path.fileName?_join (isName_fileName kind hextension) dir

theorem IsCandidate.classifyPath_eq {paths : SchemaPaths} {kind : Kind} {entry : Candidate}
    (h : paths.IsCandidate kind entry) : classifyPath entry.path = some kind := by
  rw [classifyPath_eq_some_iff]
  exact ⟨entry.extension, h.1, h.endsIn⟩

/-- In any directory, a path made of a stem and an extension is one that is looked for. -/
theorem isCandidate_candidate (dir : Path) (kind : Kind) {extension : String}
    {format : SourceFormat} (h : SourceFormat.ofExtension? extension = some format) :
    IsCandidate ⟨some dir, none⟩ kind ⟨.project, extension, candidate dir kind extension⟩ := by
  refine ⟨?_, dir, rfl, rfl⟩
  by_contra hother
  have hnone : SourceFormat.ofExtension? extension = none :=
    SourceFormat.ofExtension?_eq_none_iff.mpr hother
  rw [h] at hnone
  cases hnone

end SchemaPaths

namespace Loader

/-- Those who look at names agree. The watcher takes a path for a file of a kind exactly if its text
ends in the stem of the kind, a dot and one of the four extensions, with at most a trail of slashes
and dots behind; the reader refuses a path exactly if what follows the last dot of its name is none
of them. A path that is looked for, in any directory, is taken for a file of the kind that it is
looked for, and read in the format of its extension; so is every file that is found. -/
theorem fragment_files_recognized :
    (∀ path kind, classifyPath path = some kind ↔
      ∃ extension ∈ ["json5", "json", "yaml", "yml"],
        path.EndsIn (kind.stem.toList ++ '.' :: extension.toList)) ∧
    (∀ path content place reported,
      parseFragment path content = .error (.unsupportedExtension place reported) ↔
        (∀ extension ∈ ["json5", "json", "yaml", "yml"], ¬ path.HasExtension extension.toList) ∧
        place = path ∧ reported = path.extension?.getD "") ∧
    (∀ dir kind extension format content,
      (extension, format) ∈ [("json5", SourceFormat.json5), ("json", .json), ("yaml", .yaml),
        ("yml", .yaml)] →
      classifyPath (SchemaPaths.candidate dir kind extension) = some kind ∧
      parseFragment (SchemaPaths.candidate dir kind extension) content
        = match format.read content with
          | some value => .ok value
          | none => .error (.malformed (SchemaPaths.candidate dir kind extension))) ∧
    (∀ loader disk kind file, find loader disk kind = some file →
      classifyPath file.path = some kind ∧
      ∀ content place reported,
        parseFragment file.path content ≠ .error (.unsupportedExtension place reported)) := by
  have hrefused (path : Path) :
      (∀ extension ∈ SourceFormat.extensions, path.extension? ≠ some extension) ↔
        ∀ extension ∈ ["json5", "json", "yaml", "yml"], ¬ path.HasExtension extension.toList :=
    forall₂_congr fun extension _ => not_congr Path.extension?_eq_some_iff
  refine ⟨?_, ?_, ?_, ?_⟩
  · intro path kind
    exact classifyPath_eq_some_iff
  · intro path content place reported
    rw [parseFragment_eq_unsupported_iff, hrefused]
  · intro dir kind extension format content h
    have hformat := SourceFormat.ofExtension?_eq_some_iff.mpr h
    have hcandidate := SchemaPaths.isCandidate_candidate dir kind hformat
    exact ⟨hcandidate.classifyPath_eq, parseFragment_of_isCandidate hcandidate hformat content⟩
  · intro loader disk kind file h
    obtain ⟨-, extension, huses⟩ := find_eq_some_iff.mp h
    refine ⟨huses.isCandidate.classifyPath_eq, ?_⟩
    intro content place reported hrefuse
    -- the extension is one of the four, so it cannot be what the path is refused for
    have hnone := (parseFragment_eq_unsupported_iff.mp hrefuse).1
    exact hnone extension huses.isCandidate.1 huses.isCandidate.extension?

/-- A directory with dots of its own, and a file that is found in the working directory. -/
theorem fragment_files_recognized_dottedDirectory :
    ("yml", SourceFormat.yaml) ∈
      [("json5", SourceFormat.json5), ("json", .json), ("yaml", .yaml), ("yml", .yaml)] ∧
    SchemaPaths.candidate ⟨".parts.json/../"⟩ .metric "yml"
      = ⟨".parts.json/../MetricSchema.yml"⟩ ∧
    classifyPath ⟨".parts.json/../MetricSchema.yml"⟩ = some .metric ∧
    parseFragment ⟨".parts.json/../MetricSchema.yml"⟩ "version: 2"
      = (match SourceFormat.yaml.read "version: 2" with
          | some value => .ok value
          | none => .error (.malformed ⟨".parts.json/../MetricSchema.yml"⟩)) ∧
    (projectLoader ⟨"./"⟩).find workingDisk .cloud
      = some ⟨.cloud, ⟨"./CloudSchema.json"⟩, .project⟩ ∧
    classifyPath ⟨"./CloudSchema.json"⟩ = some .cloud ∧
    parseFragment ⟨"./CloudSchema.json"⟩ ""
      ≠ .error (.unsupportedExtension ⟨"./CloudSchema.json"⟩ "json") := by
  obtain ⟨-, -, hlooked, hfound⟩ := fragment_files_recognized
  have hlisted : ("yml", SourceFormat.yaml) ∈
      [("json5", SourceFormat.json5), ("json", .json), ("yaml", .yaml), ("yml", .yaml)] := by
    decide
  have hpath : SchemaPaths.candidate ⟨".parts.json/../"⟩ .metric "yml"
      = ⟨".parts.json/../MetricSchema.yml"⟩ := by decide
  have hmetric := hlooked ⟨".parts.json/../"⟩ .metric "yml" .yaml "version: 2" hlisted
  rw [hpath] at hmetric
  have hfind : (projectLoader ⟨"./"⟩).find workingDisk .cloud
      = some ⟨.cloud, ⟨"./CloudSchema.json"⟩, .project⟩ := rfl
  have hcloud := hfound _ _ _ _ hfind
  exact ⟨hlisted, hpath, hmetric.1, hmetric.2, hfind, hcloud.1, hcloud.2 _ _ _⟩

end Loader

end LayeredSchema
