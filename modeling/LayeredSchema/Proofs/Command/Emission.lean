import LayeredSchema.Command.Run

/-!
# What a run emits

A run emits texts: it prints them, or writes them to a file. Lines of the log are effects too, but
nothing is emitted by them.
-/

namespace LayeredSchema

namespace Effect

/-- The text that an effect emits, if it is not a line of the log. -/
def text? : Effect → Option String
  | .print text | .write _ text => some text
  | .log _ => none

/-- The texts that effects emit, in order. -/
def texts (effects : List Effect) : List String :=
  effects.filterMap text?

@[simp] theorem texts_nil : texts [] = [] := rfl

@[simp] theorem texts_append (first second : List Effect) :
    texts (first ++ second) = texts first ++ texts second :=
  List.filterMap_append

/-- The log emits nothing. -/
@[simp] theorem texts_map_log (lines : List LogLine) : texts (lines.map .log) = [] := by
  simp [texts, text?]

end Effect

namespace Outcome

variable (outcome : Outcome)

@[simp] theorem failure_after (effects : List Effect) :
    (outcome.after effects).failure = outcome.failure := rfl

@[simp] theorem failure_afterLog (lines : List LogLine) :
    (outcome.afterLog lines).failure = outcome.failure := rfl

@[simp] theorem texts_effects_after (effects : List Effect) :
    Effect.texts (outcome.after effects).effects
      = Effect.texts effects ++ Effect.texts outcome.effects :=
  Effect.texts_append ..

@[simp] theorem texts_effects_afterLog (lines : List LogLine) :
    Effect.texts (outcome.afterLog lines).effects = Effect.texts outcome.effects := by
  rw [afterLog, texts_effects_after, Effect.texts_map_log, List.nil_append]

end Outcome

namespace Run

/-- A text that can be emitted is emitted once. -/
theorem texts_emit {disk : Disk} {text : String} {output : Option Path}
    (h : (emit disk text output).failure = none) :
    Effect.texts (emit disk text output).effects = [text] := by
  cases output with
  | none => rfl
  | some path =>
    unfold emit at h ⊢
    dsimp only at h ⊢
    cases hwrite : disk.write path text.toUTF8 with
    | error fault =>
      rw [hwrite] at h
      cases h
    | ok changed => rfl

/-- A text that cannot be emitted is one that cannot be written. Then the disk stays as it is. -/
theorem emit_of_failure {disk : Disk} {text : String} {output : Option Path} {failure : Failure}
    (h : (emit disk text output).failure = some failure) :
    ∃ fault, failure = .unwritable fault ∧ emit disk text output = fail disk failure := by
  cases output with
  | none => cases h
  | some path =>
    unfold emit at h ⊢
    dsimp only at h ⊢
    cases hwrite : disk.write path text.toUTF8 with
    | error fault =>
      rw [hwrite] at h
      cases h
      exact ⟨fault, rfl, rfl⟩
    | ok changed =>
      rw [hwrite] at h
      cases h

/-- Watching that starts without failing opens a store and emits its schema. -/
theorem texts_watchStart {settings : Settings} {environment : Environment}
    {options : WatchOptions} {disk : Disk}
    (h : (watchStart settings environment options disk).failure = none) :
    ∃ store,
      Store.ofLoader { paths := settings.schemaPaths environment } disk = .ok store ∧
      (watchStart settings environment options disk).disk
        = (emitSchema settings options disk store.current).disk ∧
      Effect.texts (watchStart settings environment options disk).effects
        = [schemaText settings options store.current] := by
  unfold watchStart at h ⊢
  dsimp only at h ⊢
  rw [Outcome.failure_afterLog] at h
  rw [Outcome.texts_effects_afterLog]
  -- three ways to fail: no directory, no schema, or a file that cannot be written
  cases hnone : ((settings.schemaPaths environment).existingDirs disk).isEmpty with
  | true =>
    rw [hnone, if_pos rfl] at h
    cases h
  | false =>
    rw [hnone, if_neg Bool.false_ne_true, Outcome.failure_afterLog] at h
    rw [if_neg Bool.false_ne_true, Outcome.texts_effects_afterLog]
    cases hopen : Store.ofLoader { paths := settings.schemaPaths environment } disk with
    | error error =>
      rw [hopen] at h
      cases h
    | ok store =>
      rw [hopen] at h
      exact ⟨store, rfl, rfl, texts_emit h⟩

end Run

end LayeredSchema
