import TexLog.Command
import TexLog.Proofs.Exports

/-!
# What a command does

When the directory of the report file is there (`Command.Prepared`), a command comes to what the
export that it asks for comes to (`Command.Prepared.run_eq`): the failure of an export either ends
the command in an orderly way or breaks it off, and a report that has been written is announced.
-/

namespace TexLog

namespace Command

variable {arguments : Arguments} {order : Export} {line : List Text} {files made : Tree}

/-- How a command ends, and what it leaves, after its export. -/
def conclude (output : Path) : Except Failure Report × World → Outcome × World
  | (.ok report, world) =>
    (.written, { world with printed := world.printed ++ closing output report })
  | (.error failure, world) =>
    (if failure.isExpected then .refused failure else .broken failure, world)

/-- What a command line asks for when it can be understood and the directory of the report file is
there, or can be made. -/
structure Prepared (line : List Text) (files : Tree) (arguments : Arguments) (order : Export)
    (made : Tree) : Prop where
  /-- The command line can be understood. -/
  read : Arguments.read line = .ok arguments
  /-- The directory is there when the missing ones have been made, and the export is to go to it. -/
  ordered : ∃ directory format, arguments.directory = .ok directory ∧
    arguments.reportFormat = .ok format ∧ files.ensureDirectories directory = (made, none) ∧
    order = arguments.toExport directory format

/-- The directories that are made change no file. -/
theorem Prepared.grows (h : Prepared line files arguments order made) : files.Grows made := by
  obtain ⟨directory, format, -, -, hmade, -⟩ := h.ordered
  have hgrows := files.grows_ensureDirectories directory
  rwa [hmade] at hgrows

section
variable [Runtime]

/-- What comes of the export that a command asks for. -/
theorem run_exportReport (arguments : Arguments) (order : Export) (world : World) :
    (exportReport arguments order).run world =
      match arguments.settings world.files with
      | .error failure => (.error failure, world)
      | .ok settings =>
        if arguments.concurrency = .blank then (.error .concurrencyBlank, world)
        else (order.run { settings, flush := !arguments.noFlush }).run world := by
  unfold exportReport
  rw [Action.run_bind, Action.run_get]
  simp only [Action.run_bind, Action.run_ofExcept]
  cases arguments.settings world.files with
  | error failure => rfl
  | ok settings =>
    by_cases hblank : arguments.concurrency = .blank
    · simp only [hblank, if_true]
      rfl
    · simp only [hblank, if_false]

/-- An expected failure of the export is handed over, and any other one is not. -/
theorem run_tryExport (arguments : Arguments) (order : Export) (world : World) :
    (tryExport arguments order).run world =
      match (exportReport arguments order).run world with
      | (.ok report, after) => (.ok (.ok report), after)
      | (.error failure, after) =>
        (if failure.isExpected then .ok (.error failure) else .error failure, after) := by
  unfold tryExport
  rw [Action.run_tryCatch, map_eq_pure_bind, Action.run_bind]
  rcases (exportReport arguments order).run world with ⟨failure | report, after⟩
  · cases hexpected : failure.isExpected <;> simp [hexpected]
  · rfl

/-- **A command comes to what its export comes to.** -/
theorem Prepared.run_eq (h : Prepared line files arguments order made) :
    run line files =
      conclude order.output ((exportReport arguments order).run { files := made }) := by
  obtain ⟨directory, format, hdirectory, hformat, hmade, rfl⟩ := h.ordered
  unfold run perform
  simp only [h.read, StateT.run, Action.run_bind, Action.run_ofExcept, Action.run_makeDirectories,
    hdirectory, hformat, hmade, run_tryExport]
  -- what is left is to tell expected failures from others
  rcases (exportReport arguments (arguments.toExport directory format)).run { files := made } with
    ⟨failure | report, world⟩
  · cases hexpected : failure.isExpected <;> simp [conclude, hexpected]
  · rfl

end

end Command

end TexLog
