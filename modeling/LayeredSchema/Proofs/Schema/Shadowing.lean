import LayeredSchema.Proofs.Schema.Checking

/-!
# Shadowed files

Of the files that a fragment of a kind could come from, only the first one counts. Two disks that
agree on a kind up to its first file, `SchemaPaths.AgreeOn`, have the same file for it and bring it
to the same outcome, `find_congr` and `outcome_congr`. With that for every kind, loading, composing
and checking come to the same on both, whatever else the disks hold.
-/

namespace LayeredSchema

theorem Disk.readText_congr {a b : Disk} {path : Path} (h : a.find path = b.find path) :
    a.readText path = b.readText path := by
  unfold readText
  rw [h]

namespace SchemaPaths

/-- Two disks agree on a kind if the same candidates are regular files on both, up to and including
the first one that is, and if this one has the same bytes on both or may be opened on neither. -/
structure AgreeOn (paths : SchemaPaths) (kind : Kind) (a b : Disk) : Prop where
  regular : ∀ entry, paths.IsCandidate kind entry →
    (∀ earlier, paths.IsCandidate kind earlier → earlier.Precedes entry →
      ¬ a.NamesFile earlier.path) →
    (a.NamesFile entry.path ↔ b.NamesFile entry.path)
  content : ∀ entry node, paths.Uses a kind entry →
    a.find entry.path = .ok node → b.find entry.path = .ok node

end SchemaPaths

namespace Loader

variable {loader : Loader} {a b : Disk} {kind : Kind}

/-! ## One kind -/

theorem find_congr (h : loader.paths.AgreeOn kind a b) :
    loader.find a kind = loader.find b kind := by
  unfold find
  rw [SchemaPaths.candidates_eq_map, List.find?_map, List.find?_map]
  congr 1
  apply find?_congr_of_pairwise (fun _ _ => Candidate.Precedes.asymm)
    (loader.paths.pairwise_candidateList kind)
  intro entry hentry hearlier
  have hregular := h.regular entry (SchemaPaths.mem_candidateList.mp hentry) fun earlier hmem hlt =>
    Disk.isFile_eq_false_iff.mp (hearlier earlier (SchemaPaths.mem_candidateList.mpr hmem) hlt)
  rw [← Disk.isFile_iff, ← Disk.isFile_iff] at hregular
  exact Bool.eq_iff_iff.mpr hregular

/-- The file of the kind holds the same bytes, so the same is read from it. -/
theorem readFragment_congr (h : loader.paths.AgreeOn kind a b) {file : FoundFile}
    (hfile : loader.find a kind = some file) :
    readFragment a kind file.path = readFragment b kind file.path := by
  obtain ⟨-, extension, huses⟩ := find_eq_some_iff.mp hfile
  obtain ⟨node, hnode, -⟩ := huses.namesFile
  have hsame : b.find file.path = .ok node := h.content _ node huses hnode
  unfold readFragment
  rw [Disk.readText_congr (hnode.trans hsame.symm)]

theorem outcome_congr (h : loader.paths.AgreeOn kind a b) :
    loader.outcome a kind = loader.outcome b kind := by
  unfold outcome
  rw [← find_congr h]
  cases hfile : loader.find a kind with
  | none => rfl
  | some file =>
    dsimp only
    rw [readFragment_congr h hfile]

/-! ## All kinds -/

theorem load_congr (h : ∀ kind, loader.outcome a kind = loader.outcome b kind) :
    loader.load a = loader.load b := by
  have hinto : loader.loadInto a = loader.loadInto b := by
    funext fragments kind
    rw [loadInto_eq, loadInto_eq, h kind]
  unfold load
  rw [hinto]

/-- Shadowed and foreign files have no influence. Two disks may differ in everything but the first
files of the kinds and the absence of regular files before them: loading and composing come to the
same fragments, the same provenance and the same errors on both, and a check reports the same. -/
theorem shadowed_files_without_influence (paths : SchemaPaths) (required : Bool) (a b : Disk)
    (agree : ∀ kind, paths.AgreeOn kind a b) :
    load ⟨paths, required⟩ a = load ⟨paths, required⟩ b ∧
    compose ⟨paths, required⟩ a = compose ⟨paths, required⟩ b ∧
    CheckReport.build ⟨paths, required⟩ a = CheckReport.build ⟨paths, required⟩ b := by
  have hfind : find ⟨paths, required⟩ a = find ⟨paths, required⟩ b := by
    funext kind
    exact find_congr (agree kind)
  have hload : load ⟨paths, required⟩ a = load ⟨paths, required⟩ b :=
    load_congr fun kind => outcome_congr (agree kind)
  refine ⟨hload, ?_, ?_⟩
  · unfold compose
    rw [hload]
  · rw [CheckReport.build_eq, CheckReport.build_eq, hload]
    unfold CheckReport.ofFragments
    rw [hfind]

/-- A user directory with the file of one kind, before an empty project directory. -/
def lonelyDisk : Disk where
  workingDirectory := []
  nodes :=
    [(["user".toList], .directory),
     (["user".toList, "CloudSchema.json".toList], .file "\x7b\"version\":\"1\"\x7d".toUTF8),
     (["parts".toList], .directory)]

/-- The same file among others: a directory with the name of an earlier candidate, a malformed and
an unreadable file behind it, and one that is no candidate. -/
def crowdedDisk : Disk where
  workingDirectory := []
  nodes := lonelyDisk.nodes
    ++ [(["user".toList, "CloudSchema.json5".toList], .directory),
        (["user".toList, "CloudSchema.yaml".toList], .file "[".toUTF8),
        (["parts".toList, "CloudSchema.json5".toList], .file ⟨#[0xff]⟩),
        (["parts".toList, "README.md".toList], .file "\x7b".toUTF8)]

/-- The paths that lead to both directories. -/
def twoTiers : SchemaPaths := { projectDir := some ⟨"parts"⟩, userDir := some ⟨"user"⟩ }

instance (entry other : Candidate) : Decidable (entry.Precedes other) :=
  inferInstanceAs (Decidable (_ ∨ _))

/-- What stands beside and behind the file of a kind does not show. -/
theorem shadowed_files_without_influence_crowded :
    (∀ kind, twoTiers.AgreeOn kind lonelyDisk crowdedDisk) ∧
    load ⟨twoTiers, false⟩ lonelyDisk = load ⟨twoTiers, false⟩ crowdedDisk ∧
    ∃ composition, compose ⟨twoTiers, false⟩ crowdedDisk = .ok composition ∧
      composition.sourceOf? "version" = some "cloud" := by
  have hregular : ∀ kind ∈ Kind.all, ∀ entry ∈ twoTiers.candidateList kind,
      (∀ earlier ∈ twoTiers.candidateList kind, earlier.Precedes entry →
        lonelyDisk.isFile earlier.path = false) →
      lonelyDisk.isFile entry.path = crowdedDisk.isFile entry.path := by
    decide +kernel
  have hagree : ∀ kind, twoTiers.AgreeOn kind lonelyDisk crowdedDisk := by
    intro kind
    constructor
    · intro entry hentry hearlier
      rw [← Disk.isFile_iff, ← Disk.isFile_iff]
      have hsame := hregular kind (Kind.mem_all kind) entry
        (SchemaPaths.mem_candidateList.mpr hentry) fun earlier hmem hlt =>
          Disk.isFile_eq_false_iff.mpr
            (hearlier earlier (SchemaPaths.mem_candidateList.mp hmem) hlt)
      rw [hsame]
    · intro entry bytes huses hbytes
      have hfind : find ⟨twoTiers, false⟩ lonelyDisk kind = some ⟨kind, entry.path, entry.tier⟩ :=
        find_eq_some_iff.mpr ⟨rfl, entry.extension, huses⟩
      -- only one kind has a file, and its path leads to the same bytes
      cases kind with
      | cloud =>
        have hcloud : find ⟨twoTiers, false⟩ lonelyDisk .cloud
            = some ⟨.cloud, ⟨"user/CloudSchema.json"⟩, .user⟩ := rfl
        rw [hcloud] at hfind
        have hpath : entry.path = ⟨"user/CloudSchema.json"⟩ := by
          cases entry
          cases hfind
          rfl
        rw [hpath] at hbytes ⊢
        exact hbytes
      | metric => cases hfind
      | tableMapping => cases hfind
  obtain ⟨hload, hcompose, -⟩ :=
    shadowed_files_without_influence twoTiers false lonelyDisk crowdedDisk hagree
  refine ⟨hagree, hload, ?_⟩
  rw [← hcompose]
  exact ⟨_, rfl, rfl⟩

end Loader

end LayeredSchema
