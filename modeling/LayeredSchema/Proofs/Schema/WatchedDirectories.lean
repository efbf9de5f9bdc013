import LayeredSchema.Proofs.Disk.Lookup
import LayeredSchema.Proofs.Schema.LoadedFragments
import LayeredSchema.Schema.Watch

/-!
# Watched directories

Watching begins with the configured directories that exist. A file that is used for a kind is found
below one of them, and the path of that directory leads to a directory unless it is empty: a name
joined to the empty path is looked up in the working directory, while the empty path itself names
nothing. So the directory of every file in use is watched, except that one.
-/

namespace LayeredSchema

namespace SchemaPaths

variable {paths : SchemaPaths} {disk : Disk} {dir : Path}

theorem mem_map_fst_tiers :
    dir ∈ paths.tiers.map Prod.fst ↔ ∃ tier, paths.dir? tier = some dir := by
  have hdirs : paths.tiers.map Prod.fst = paths.userDir.toList ++ paths.projectDir.toList := by
    obtain ⟨projectDir, userDir⟩ := paths
    cases userDir <;> cases projectDir <;> rfl
  rw [hdirs, List.mem_append, Option.mem_toList, Option.mem_toList]
  constructor
  · rintro (huser | hproject)
    · exact ⟨.user, huser⟩
    · exact ⟨.project, hproject⟩
  · rintro ⟨tier, htier⟩
    cases tier with
    | user => exact Or.inl htier
    | project => exact Or.inr htier

theorem mem_existingDirs :
    dir ∈ paths.existingDirs disk ↔
      (∃ tier, paths.dir? tier = some dir) ∧ disk.isDirectory dir = true := by
  rw [existingDirs, List.mem_filter, mem_map_fst_tiers]

/-- Every directory that exists is handed to the notifier. -/
theorem watchedDirs_existingDirs (paths : SchemaPaths) (disk : Disk) :
    watchedDirs disk (paths.existingDirs disk) = paths.existingDirs disk := by
  rw [watchedDirs, List.filter_eq_self]
  intro dir hdir
  rw [Disk.holds, Disk.isDirectory_iff.mp (mem_existingDirs.mp hdir).2]

end SchemaPaths

namespace Loader

variable {loader : Loader} {disk : Disk} {kind : Kind}

/-- The directory of a file in use is watched unless its path is empty. -/
theorem mem_existingDirs_of_find {file : FoundFile} (h : loader.find disk kind = some file) :
    ∃ dir, loader.paths.dir? file.tier = some dir ∧
      (dir ∈ loader.paths.existingDirs disk ↔ dir.text ≠ "") := by
  obtain ⟨-, extension, uses⟩ := find_eq_some_iff.mp h
  obtain ⟨hextension, dir, hdir, hpath⟩ := uses.isCandidate
  obtain ⟨node, hfile, -⟩ := uses.namesFile
  refine ⟨dir, hdir, ?_⟩
  rw [SchemaPaths.mem_existingDirs]
  constructor
  · rintro ⟨-, hdirectory⟩ hempty
    have hpathEmpty : dir = ⟨""⟩ := congrArg Path.mk hempty
    rw [hpathEmpty, Disk.isDirectory_empty] at hdirectory
    cases hdirectory
  · intro hne
    have hname := (SchemaPaths.isName_fileName kind hextension).1
    rw [hpath, ← SchemaPaths.ofList_fileName] at hfile
    exact ⟨⟨file.tier, hdir⟩, Disk.isDirectory_of_find_join hname hne hfile⟩

/-- The directory of a file in use is watched unless its path is empty. What is watched are the
directories that exist; the file of a kind comes from the directory of its tier, and so does every
fragment that is loaded. That directory is among those watched exactly if its path is not empty. -/
theorem directories_in_use_watched (loader : Loader) (disk : Disk) :
    watchedDirs disk (loader.paths.existingDirs disk) = loader.paths.existingDirs disk ∧
    (∀ kind file, loader.find disk kind = some file →
      ∃ dir, loader.paths.dir? file.tier = some dir ∧
        (dir ∈ loader.paths.existingDirs disk ↔ dir.text ≠ "")) ∧
    (∀ fragments kind fragment, loader.load disk = .ok fragments →
      fragments.get? kind = some fragment →
      ∃ file dir, fragment.source = some file.path ∧ loader.find disk kind = some file ∧
        loader.paths.dir? file.tier = some dir ∧
        (dir ∈ loader.paths.existingDirs disk ↔ dir.text ≠ "")) := by
  refine ⟨SchemaPaths.watchedDirs_existingDirs loader.paths disk,
    fun kind file h => mem_existingDirs_of_find h, fun fragments kind fragment hload hget => ?_⟩
  obtain ⟨file, hfile, -, hsource⟩ := exists_find_of_load hload hget
  obtain ⟨dir, hdir, hwatched⟩ := mem_existingDirs_of_find hfile
  exact ⟨file, dir, hsource, hfile, hdir, hwatched⟩

/-- A disk with a fragment of the cloud side in the working directory. -/
def workingDisk : Disk where
  workingDirectory := ["work".toList]
  nodes :=
    [(["work".toList], .directory),
     (["work".toList, "CloudSchema.json".toList], .file "\x7b\"version\":\"1\"\x7d".toUTF8)]

/-- A loader that looks into one project directory. -/
def projectLoader (dir : Path) : Loader :=
  { paths := { projectDir := some dir, userDir := none } }

/-- The working directory is watched under the path of a dot and a slash. -/
theorem directories_in_use_watched_dot :
    (projectLoader ⟨"./"⟩).find workingDisk .cloud
      = some ⟨.cloud, ⟨"./CloudSchema.json"⟩, .project⟩ ∧
    ⟨"./"⟩ ∈ watchedDirs workingDisk ((projectLoader ⟨"./"⟩).paths.existingDirs workingDisk) := by
  have hfind : (projectLoader ⟨"./"⟩).find workingDisk .cloud
      = some ⟨.cloud, ⟨"./CloudSchema.json"⟩, .project⟩ := rfl
  obtain ⟨hwatched, hfound, -⟩ := directories_in_use_watched (projectLoader ⟨"./"⟩) workingDisk
  obtain ⟨dir, hdir, hmem⟩ := hfound .cloud _ hfind
  cases hdir
  refine ⟨hfind, ?_⟩
  rw [hwatched]
  exact hmem.mpr (by decide)

/-- Under the empty path the fragment is found and no directory is watched. -/
theorem emptyDirectory_not_watched :
    (projectLoader ⟨""⟩).find workingDisk .cloud
      = some ⟨.cloud, ⟨"CloudSchema.json"⟩, .project⟩ ∧
    (projectLoader ⟨""⟩).paths.dir? .project = some ⟨""⟩ ∧
    (projectLoader ⟨""⟩).paths.existingDirs workingDisk = [] :=
  ⟨rfl, rfl, rfl⟩

end Loader

end LayeredSchema
