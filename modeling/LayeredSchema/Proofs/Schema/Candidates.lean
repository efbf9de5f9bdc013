import LayeredSchema.Proofs.Disk.Path
import LayeredSchema.Proofs.Lists
import LayeredSchema.Schema.Loader

/-!
# The file of a kind

A fragment of a kind is looked for under one name for each tier and extension. `Candidate.Precedes`
orders these places: every place of the user tier comes before every place of the project tier, and
within a tier the extensions decide. The file that is used is the first place with a regular file,
`find_eq_some_iff`; what else the directories hold, and what the file holds, plays no part.
-/

namespace LayeredSchema

/-! ## Regular files -/

namespace Disk

/-- A path names a regular file, that is, something else than a directory. -/
def NamesFile (disk : Disk) (path : Path) : Prop :=
  ∃ node, disk.find path = .ok node ∧ node ≠ .directory

variable {disk : Disk} {path : Path}

theorem isFile_iff : disk.isFile path = true ↔ disk.NamesFile path := by
  rw [isFile, NamesFile]
  cases disk.find path with
  | error fault => simp
  | ok node => cases node <;> simp

theorem isFile_eq_false_iff : disk.isFile path = false ↔ ¬ disk.NamesFile path := by
  rw [← isFile_iff, Bool.not_eq_true]

end Disk

/-! ## Places to look at -/

/-- A place where a fragment is looked for: its tier, its extension, and the path made of them. -/
structure Candidate where
  tier : Tier
  extension : String
  path : Path

/-- The user tier comes before the project tier, and within a tier the extensions decide. -/
def Candidate.Precedes (a b : Candidate) : Prop :=
  (a.tier = .user ∧ b.tier = .project) ∨
    (a.tier = b.tier ∧
      ["json5", "json", "yaml", "yml"].idxOf a.extension
        < ["json5", "json", "yaml", "yml"].idxOf b.extension)

theorem Candidate.Precedes.asymm {a b : Candidate} (h : a.Precedes b) : ¬ b.Precedes a := by
  rintro (⟨hb, ha⟩ | ⟨htier, hext⟩)
  · rcases h with ⟨ha', -⟩ | ⟨htier', -⟩
    · rw [ha] at ha'
      cases ha'
    · rw [ha, hb] at htier'
      cases htier'
  · rcases h with ⟨ha, hb⟩ | ⟨-, hext'⟩
    · rw [ha, hb] at htier
      cases htier
    · omega

namespace SchemaPaths

/-- The directory of a tier. -/
def dir? (paths : SchemaPaths) : Tier → Option Path
  | .user => paths.userDir
  | .project => paths.projectDir

/-- The path of a candidate is made of the directory of its tier, the stem of the kind, and its
extension. -/
def IsCandidate (paths : SchemaPaths) (kind : Kind) (candidate : Candidate) : Prop :=
  candidate.extension ∈ ["json5", "json", "yaml", "yml"] ∧
    ∃ dir, paths.dir? candidate.tier = some dir ∧
      candidate.path = dir.join ⟨kind.stem ++ "." ++ candidate.extension⟩

/-- A candidate is used for a kind if it is a regular file and none of those before it is one. -/
structure Uses (paths : SchemaPaths) (disk : Disk) (kind : Kind) (candidate : Candidate) :
    Prop where
  isCandidate : paths.IsCandidate kind candidate
  namesFile : disk.NamesFile candidate.path
  first : ∀ other, paths.IsCandidate kind other → other.Precedes candidate →
    ¬ disk.NamesFile other.path

/-- The candidates of a kind in the directory of a tier. -/
def candidatesIn (kind : Kind) (tier : Tier) (dir : Path) : List Candidate :=
  SourceFormat.extensions.map fun extension => ⟨tier, extension, candidate dir kind extension⟩

/-- The candidates of a kind, in the order in which they are tried. -/
def candidateList (paths : SchemaPaths) (kind : Kind) : List Candidate :=
  (paths.userDir.toList.flatMap (candidatesIn kind .user))
    ++ (paths.projectDir.toList.flatMap (candidatesIn kind .project))

theorem candidates_eq_map (paths : SchemaPaths) (kind : Kind) :
    paths.candidates kind
      = (paths.candidateList kind).map fun entry => ⟨kind, entry.path, entry.tier⟩ := by
  obtain ⟨projectDir, userDir⟩ := paths
  cases userDir <;> cases projectDir <;> rfl

theorem mem_candidateList {paths : SchemaPaths} {kind : Kind} {entry : Candidate} :
    entry ∈ paths.candidateList kind ↔ paths.IsCandidate kind entry := by
  obtain ⟨tier, extension, path⟩ := entry
  have hin (other : Tier) (dir : Path) : ⟨tier, extension, path⟩ ∈ candidatesIn kind other dir ↔
      extension ∈ SourceFormat.extensions ∧ other = tier ∧
        candidate dir kind extension = path := by
    rw [candidatesIn, List.mem_map]
    constructor
    · rintro ⟨e, he, heq⟩
      cases heq
      exact ⟨he, rfl, rfl⟩
    · rintro ⟨he, rfl, rfl⟩
      exact ⟨extension, he, rfl⟩
  rw [candidateList, List.mem_append, List.mem_flatMap, List.mem_flatMap]
  simp only [hin, Option.mem_toList]
  constructor
  · rintro (⟨dir, hdir, he, rfl, rfl⟩ | ⟨dir, hdir, he, rfl, rfl⟩)
    · exact ⟨he, dir, hdir, rfl⟩
    · exact ⟨he, dir, hdir, rfl⟩
  · rintro ⟨he, dir, hdir, hpath⟩
    cases tier with
    | user => exact Or.inl ⟨dir, hdir, he, rfl, hpath.symm⟩
    | project => exact Or.inr ⟨dir, hdir, he, rfl, hpath.symm⟩

theorem pairwise_candidatesIn (kind : Kind) (tier : Tier) (dir : Path) :
    (candidatesIn kind tier dir).Pairwise Candidate.Precedes := by
  rw [candidatesIn, List.pairwise_map]
  have hext : SourceFormat.extensions.Pairwise fun a b =>
      ["json5", "json", "yaml", "yml"].idxOf a < ["json5", "json", "yaml", "yml"].idxOf b := by
    decide
  exact hext.imp fun h => Or.inr ⟨rfl, h⟩

/-- Candidates are tried in order of precedence. -/
theorem pairwise_candidateList (paths : SchemaPaths) (kind : Kind) :
    (paths.candidateList kind).Pairwise Candidate.Precedes := by
  have htier (tier : Tier) (dir? : Option Path) :
      (dir?.toList.flatMap (candidatesIn kind tier)).Pairwise Candidate.Precedes := by
    cases dir? with
    | none => exact List.Pairwise.nil
    | some dir =>
      rw [Option.toList_some, List.flatMap_singleton]
      exact pairwise_candidatesIn kind tier dir
  have hmem (tier : Tier) (dir? : Option Path) (entry : Candidate)
      (h : entry ∈ dir?.toList.flatMap (candidatesIn kind tier)) : entry.tier = tier := by
    obtain ⟨dir, -, hentry⟩ := List.mem_flatMap.mp h
    obtain ⟨extension, -, rfl⟩ := List.mem_map.mp hentry
    rfl
  refine List.pairwise_append.mpr ⟨htier _ _, htier _ _, fun a ha b hb => ?_⟩
  exact Or.inl ⟨hmem _ _ a ha, hmem _ _ b hb⟩

/-- The name of the file of a kind with an extension. -/
def fileName (kind : Kind) (extension : String) : List Char :=
  kind.stem.toList ++ '.' :: extension.toList

theorem ofList_fileName (kind : Kind) (extension : String) :
    String.ofList (fileName kind extension) = kind.stem ++ "." ++ extension := by
  rw [← String.toList_inj]
  simp [fileName]

theorem isName_fileName (kind : Kind) {extension : String}
    (h : extension ∈ ["json5", "json", "yaml", "yml"]) :
    Path.IsName (fileName kind extension) := by
  have hall : ∀ kind ∈ Kind.all, ∀ extension ∈ ["json5", "json", "yaml", "yml"],
      Path.IsName (fileName kind extension) := by decide
  exact hall kind (by cases kind <;> decide) extension h

/-- The extension of a candidate is the one that its path has. -/
theorem IsCandidate.extension? {paths : SchemaPaths} {kind : Kind} {entry : Candidate}
    (h : paths.IsCandidate kind entry) : entry.path.extension? = some entry.extension := by
  obtain ⟨hext, dir, -, hpath⟩ := h
  rw [hpath, ← ofList_fileName, fileName, Path.extension?_join, String.ofList_toList]
  · exact isName_fileName kind hext
  · cases kind <;> decide
  · have hall : ∀ extension ∈ ["json5", "json", "yaml", "yml"], '.' ∉ extension.toList := by decide
    exact hall _ hext

end SchemaPaths

namespace Loader

variable {loader : Loader} {disk : Disk} {kind : Kind}

/-- The file of a kind is the first candidate that is a regular file. -/
theorem find_eq_some_iff {file : FoundFile} :
    loader.find disk kind = some file ↔
      file.kind = kind ∧
        ∃ extension, loader.paths.Uses disk kind ⟨file.tier, extension, file.path⟩ := by
  have huses (entry : Candidate) :
      (loader.paths.candidateList kind).find? (fun entry => disk.isFile entry.path) = some entry
        ↔ loader.paths.Uses disk kind entry := by
    rw [find?_eq_some_iff_of_pairwise (fun _ _ => Candidate.Precedes.asymm)
      (loader.paths.pairwise_candidateList kind)]
    simp only [SchemaPaths.mem_candidateList, Disk.isFile_iff, Disk.isFile_eq_false_iff]
    exact ⟨fun ⟨hmem, hfile, hfirst⟩ => ⟨hmem, hfile, hfirst⟩,
      fun h => ⟨h.isCandidate, h.namesFile, h.first⟩⟩
  rw [find, SchemaPaths.candidates_eq_map, List.find?_map, Option.map_eq_some_iff]
  constructor
  · rintro ⟨entry, hentry, rfl⟩
    exact ⟨rfl, entry.extension, (huses entry).mp hentry⟩
  · rintro ⟨rfl, extension, h⟩
    exact ⟨_, (huses _).mpr h, rfl⟩

/-- A kind has no file if none of its candidates is a regular file. -/
theorem find_eq_none_iff :
    loader.find disk kind = none ↔
      ∀ entry, loader.paths.IsCandidate kind entry → ¬ disk.NamesFile entry.path := by
  rw [find, SchemaPaths.candidates_eq_map, List.find?_map, Option.map_eq_none_iff,
    List.find?_eq_none]
  simp only [SchemaPaths.mem_candidateList, Function.comp_apply, Disk.isFile_iff]

end Loader

end LayeredSchema
