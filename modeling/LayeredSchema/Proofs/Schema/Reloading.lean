import LayeredSchema.Proofs.Schema.Loading
import LayeredSchema.Proofs.Schema.Provenance
import LayeredSchema.Schema.Store

/-!
# Reloading

A store is opened on a disk. From then on the disk may change in any way, and the store reloads from
it now and then; it is the latest attempt without an error that decides what the store holds.

* `Session` is a store with the disk below it, `Session.run` what it goes through;
* `Follows` ties it to the disks on which composing was tried: `Follows.step` is one step and
  `Follows.run` all of them.
-/

namespace LayeredSchema

/-! ## One reload -/

namespace Store

/-- What a reload answers is what composing gives on the disk of that moment. -/
theorem fst_reload (store : Store) (disk : Disk) :
    (store.reload disk).1 = store.loader.compose disk := by
  rw [reload]
  cases store.loader.compose disk <;> rfl

/-- A store can be opened exactly if composing succeeds, and starts with what comes of it. -/
theorem ofLoader_eq_ok_iff {loader : Loader} {disk : Disk} {store : Store} :
    ofLoader loader disk = .ok store ↔
      store.loader = loader ∧ loader.compose disk = .ok store.current := by
  rw [ofLoader, map_eq_ok_iff]
  constructor
  · rintro ⟨composition, hcompose, rfl⟩
    exact ⟨rfl, hcompose⟩
  · rintro ⟨rfl, hcompose⟩
    exact ⟨store.current, hcompose, rfl⟩

/-- A reload that succeeds makes its schema the current one. -/
theorem reload_of_ok {store : Store} {disk : Disk} {composition : Composition}
    (h : store.loader.compose disk = .ok composition) :
    store.reload disk = (.ok composition, { store with current := composition }) := by
  rw [reload, h]

/-- A reload that fails leaves the store as it is. -/
theorem reload_of_error {store : Store} {disk : Disk} {error : SchemaError}
    (h : store.loader.compose disk = .error error) :
    store.reload disk = (.error error, store) := by
  rw [reload, h]

end Store

/-! ## Sessions -/

/-- A store and the disk that it reloads from. -/
structure Session where
  disk : Disk
  store : Store

namespace Session

/-- What happens in a session. -/
inductive Step where
  /-- The disk changes, as `Disk.write`, `Disk.remove` and `Disk.makeDirectories` change it. A
  change that fails leaves it as it is. -/
  | change (edit : Disk → Except Fault Disk)
  /-- The store composes again. -/
  | reload
  /-- The current schema is read. -/
  | read

/-- What a step answers. -/
inductive Answer where
  | changed (fault : Option Fault)
  | reloaded (outcome : Except SchemaError Composition)
  | current (schema : Composition)

/-- One step: its answer and the session after it. -/
def step (session : Session) : Step → Answer × Session
  | .change edit =>
    match edit session.disk with
    | .ok disk => (.changed none, { session with disk })
    | .error fault => (.changed (some fault), session)
  | .reload =>
    (.reloaded (session.store.reload session.disk).1,
      { session with store := (session.store.reload session.disk).2 })
  | .read => (.current session.store.current, session)

/-- The answers of some steps and the session after them. -/
def run (session : Session) : List Step → List Answer × Session
  | [] => ([], session)
  | first :: rest =>
    ((session.step first).1 :: ((session.step first).2.run rest).1,
      ((session.step first).2.run rest).2)

/-- A session in which a store was opened, after some steps. -/
def Reached (loader : Loader) (opening : Disk) (steps : List Step) (session : Session) : Prop :=
  ∃ store, Store.ofLoader loader opening = .ok store ∧ session = (run ⟨opening, store⟩ steps).2

/-! ## The disk below a session -/

/-- What a step makes of the disk. -/
def Step.onDisk : Step → Disk → Disk
  | .change edit, disk =>
    match edit disk with
    | .ok next => next
    | .error _ => disk
  | .reload, disk => disk
  | .read, disk => disk

/-- The disk on which a step tries to compose. -/
def Step.attempt : Step → Disk → List Disk
  | .change _, _ => []
  | .reload, disk => [disk]
  | .read, _ => []

/-- The disk after some steps. -/
def diskAfter (disk : Disk) (steps : List Step) : Disk :=
  steps.foldl (fun disk step => step.onDisk disk) disk

/-- The disks on which steps try to compose, each as it is at that moment. -/
def attempts (disk : Disk) : List Step → List Disk
  | [] => []
  | first :: rest => first.attempt disk ++ attempts (first.onDisk disk) rest

/-- The schema is composed on one of the disks, and on every later one composing fails. -/
def IsLatest (loader : Loader) (disks : List Disk) (schema : Composition) : Prop :=
  ∃ disk, loader.compose disk = .ok schema ∧
    ∃ before after, disks = before ++ disk :: after ∧
      ∀ later ∈ after, ∃ error, loader.compose later = .error error

section

variable {loader : Loader} {disks : List Disk} {disk : Disk} {schema : Composition}

theorem isLatest_concat_of_ok (h : loader.compose disk = .ok schema) :
    IsLatest loader (disks ++ [disk]) schema :=
  ⟨disk, h, disks, [], rfl, by simp⟩

theorem IsLatest.concat_of_error {error : SchemaError} (h : IsLatest loader disks schema)
    (herror : loader.compose disk = .error error) : IsLatest loader (disks ++ [disk]) schema := by
  obtain ⟨origin, horigin, hdisks⟩ := h
  exact ⟨origin, horigin, exists_split_concat_iff.mpr (Or.inr ⟨⟨error, herror⟩, hdisks⟩)⟩

/-- A schema that a loader composes is laid over the defaults. -/
theorem IsLatest.exists_fragments (h : IsLatest loader disks schema) :
    ∃ fragments, schema = Composition.compose Defaults.base fragments := by
  obtain ⟨disk, hcompose, -⟩ := h
  obtain ⟨fragments, -, hschema⟩ := Loader.compose_eq_ok_iff.mp hcompose
  exact ⟨_, hschema⟩

end

/-! ## Sessions along their steps -/

/-- A session over a disk whose schema is the latest one that could be composed on the disks
tried. -/
structure Follows (loader : Loader) (tried : List Disk) (disk : Disk) (session : Session) :
    Prop where
  disk_eq : session.disk = disk
  loader_eq : session.store.loader = loader
  latest : IsLatest loader tried session.store.current

/-- A store that has just been opened follows the one attempt of opening it. -/
theorem follows_open {loader : Loader} {disk : Disk} {store : Store}
    (h : Store.ofLoader loader disk = .ok store) : Follows loader [disk] disk ⟨disk, store⟩ := by
  obtain ⟨hloader, hcurrent⟩ := Store.ofLoader_eq_ok_iff.mp h
  exact ⟨rfl, hloader, disk, hcurrent, [], [], rfl, by simp⟩

/-- A change leaves the schema alone, a reload tries the disk of the moment, and reading does
nothing. -/
theorem Follows.step {loader : Loader} {tried : List Disk} {disk : Disk} {session : Session}
    (h : Follows loader tried disk session) (step : Step) :
    Follows loader (tried ++ step.attempt disk) (step.onDisk disk) (session.step step).2 := by
  obtain ⟨rfl, rfl, hlatest⟩ := h
  cases step with
  | change edit =>
    rw [Step.attempt, List.append_nil, Step.onDisk, Session.step]
    cases edit session.disk with
    | ok next => exact ⟨rfl, rfl, hlatest⟩
    | error fault => exact ⟨rfl, rfl, hlatest⟩
  | reload =>
    rw [Step.attempt, Step.onDisk, Session.step]
    cases hcompose : session.store.loader.compose session.disk with
    | ok composition =>
      rw [Store.reload_of_ok hcompose]
      exact ⟨rfl, rfl, isLatest_concat_of_ok hcompose⟩
    | error error =>
      rw [Store.reload_of_error hcompose]
      exact ⟨rfl, rfl, hlatest.concat_of_error hcompose⟩
  | read =>
    rw [Step.attempt, List.append_nil]
    exact ⟨rfl, rfl, hlatest⟩

/-- Along a run the attempts add up, and the store follows the latest one that succeeded. -/
theorem Follows.run {loader : Loader} {tried : List Disk} {disk : Disk} {session : Session}
    (h : Follows loader tried disk session) (steps : List Step) :
    Follows loader (tried ++ attempts disk steps) (diskAfter disk steps) (session.run steps).2 := by
  induction steps generalizing tried disk session with
  | nil =>
    rw [attempts, List.append_nil]
    exact h
  | cons first rest ih =>
    rw [attempts, ← List.append_assoc]
    exact ih (h.step first)

theorem follows_of_reached {loader : Loader} {opening : Disk} {steps : List Step}
    {session : Session} (h : Reached loader opening steps session) :
    Follows loader (opening :: attempts opening steps) (diskAfter opening steps) session := by
  obtain ⟨store, hopen, rfl⟩ := h
  exact (follows_open hopen).run steps

/-- Only a reload that succeeds replaces the schema. -/
theorem current_step {session : Session} {step : Step}
    (h : ∀ schema, (session.step step).1 ≠ .reloaded (.ok schema)) :
    (session.step step).2.store.current = session.store.current := by
  cases step with
  | change edit =>
    rw [Session.step]
    cases edit session.disk <;> rfl
  | reload =>
    rw [Session.step] at h ⊢
    cases hcompose : session.store.loader.compose session.disk with
    | ok composition =>
      rw [Store.reload_of_ok hcompose] at h
      exact absurd rfl (h composition)
    | error error => rw [Store.reload_of_error hcompose]
  | read => rfl

theorem current_of_reloaded {session : Session} {schema : Composition}
    (h : (session.step .reload).1 = .reloaded (.ok schema)) :
    (session.step .reload).2.store.current = schema := by
  have hcompose : session.store.loader.compose session.disk = .ok schema := by
    rw [← Store.fst_reload]
    exact Answer.reloaded.inj h
  rw [step, Store.reload_of_ok hcompose]

theorem current_run {session : Session} {steps : List Step}
    (h : ∀ answer ∈ (session.run steps).1, ∀ schema, answer ≠ .reloaded (.ok schema)) :
    (session.run steps).2.store.current = session.store.current := by
  induction steps generalizing session with
  | nil => rfl
  | cons first rest ih =>
    rw [run] at h ⊢
    have hrest := ih fun answer hanswer => h answer (List.mem_cons_of_mem _ hanswer)
    rw [hrest, current_step (h _ List.mem_cons_self)]

/-- Along any run of changes, reloads and reads the current schema, which is what a read answers, is
the one that composing gave on the disk of the latest attempt that succeeded, opening included. A
reload fails exactly if composing fails on the disk of that moment, with its error, and then keeps
the schema; what a successful one returns is the current schema until another one succeeds. The keys
of the defaults always come first, and every key has a source. -/
theorem current_of_reached {loader : Loader} {opening : Disk} {steps : List Step}
    {session : Session} (h : Reached loader opening steps session) :
    IsLatest loader (opening :: attempts opening steps) session.store.current ∧
    session.step .read = (.current session.store.current, session) ∧
    (∀ error, (session.step .reload).1 = .reloaded (.error error) ↔
      loader.compose (diskAfter opening steps) = .error error) ∧
    (∀ error, (session.step .reload).1 = .reloaded (.error error) →
      (session.step .reload).2.store.current = session.store.current) ∧
    (∀ schema, (session.step .reload).1 = .reloaded (.ok schema) →
      ∀ later, (∀ answer ∈ ((session.step .reload).2.run later).1,
          ∀ other, answer ≠ .reloaded (.ok other)) →
        ((session.step .reload).2.run later).2.store.current = schema) ∧
    session.store.current.schema.keys.take 4 = ["version", "description", "process", "models"] ∧
    ∀ key ∈ session.store.current.schema.keys,
      ∃ name, session.store.current.sourceOf? key = some name := by
  have hfollows := follows_of_reached h
  obtain ⟨fragments, hschema⟩ := hfollows.latest.exists_fragments
  -- a reload tries the disk as the steps have left it
  have hreload : (session.step .reload).1
      = .reloaded (loader.compose (diskAfter opening steps)) := by
    rw [step, Store.fst_reload, hfollows.loader_eq, hfollows.disk_eq]
  refine ⟨hfollows.latest, rfl, fun error => ?_, fun error herror => ?_,
    fun schema hok later hlater => ?_, ?_, fun key hkey => ?_⟩
  · rw [hreload, Answer.reloaded.injEq]
  · refine current_step fun schema hok => ?_
    rw [herror] at hok
    cases hok
  · rw [current_run hlater]
    exact current_of_reloaded hok
  · rw [hschema]
    exact Composition.take_keys_schema_compose Defaults.base fragments
  · rw [hschema] at hkey ⊢
    exact Composition.exists_sourceOf?_compose hkey

/-- A disk with a fragment of the cloud side. -/
def cloudDisk : Disk where
  workingDirectory := []
  nodes :=
    [(["parts".toList], .directory),
     (["parts".toList, "CloudSchema.json".toList], .file "\x7b\"version\":\"1\"\x7d".toUTF8)]

/-- A loader that looks into the directory of that fragment. -/
def cloudLoader : Loader :=
  { paths := { projectDir := some ⟨"parts"⟩, userDir := none } }

/-- The file of a fragment breaks after the store was opened, and reloading fails twice: the schema
from before stays. -/
theorem current_of_reached_broken_file :
    ∃ session,
      Reached cloudLoader cloudDisk
        [.change (·.write ⟨"parts/CloudSchema.json"⟩ "\x7b".toUTF8), .reload] session ∧
      (session.step .reload).1 = .reloaded (.error (.malformed ⟨"parts/CloudSchema.json"⟩)) ∧
      (session.step .reload).2.store.current.get? "version" = some (.string "1") ∧
      session.store.current.schema.keys.take 4 = ["version", "description", "process", "models"] ∧
      ∃ name, session.store.current.sourceOf? "version" = some name := by
  have hreached : Reached cloudLoader cloudDisk
      [.change (·.write ⟨"parts/CloudSchema.json"⟩ "\x7b".toUTF8), .reload] _ :=
    ⟨⟨cloudLoader, Composition.compose Defaults.base
      [⟨"cloud", .ofList [("version", .string "1")], some ⟨"parts/CloudSchema.json"⟩⟩]⟩, rfl, rfl⟩
  obtain ⟨-, -, herror, hkept, -, hkeys, hsource⟩ := current_of_reached hreached
  have hreload := (herror (.malformed ⟨"parts/CloudSchema.json"⟩)).mpr rfl
  refine ⟨_, hreached, hreload, ?_, hkeys, hsource "version" (by decide)⟩
  rw [hkept _ hreload]
  rfl

end Session

end LayeredSchema
