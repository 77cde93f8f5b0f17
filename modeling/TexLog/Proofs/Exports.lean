import TexLog.Proofs.Filtering
import TexLog.Proofs.Workers
import TexLog.Proofs.WrittenFiles

/-!
# What an export does

An export reads, filters, combines, writes and shows, in this order, and the first of these that
fails leaves the world as it is (`Export.run_eq`). `Export.run_exports` says what comes of it: the
report that is returned, written and shown has what is wanted of the reports on the logs that can be
read, in their order, and the statistics count just that. An export fails where a path of a log is
none, and where the search for the pattern breaks off.
-/

namespace TexLog

/-! ## Actions -/

namespace Action

variable {α β : Type}

/-- What has been done to the world is there for what follows. -/
theorem bind_apply (first : StateM World α) (next : α → StateM World β) (world : World) :
    (first >>= next) world = next (first world).1 (first world).2 := rfl

/-- An action that others follow. -/
theorem run_bind (action : Action α) (next : α → Action β) (world : World) :
    (action >>= next).run world =
      match action.run world with
      | (.ok value, after) => (next value).run after
      | (.error failure, after) => (.error failure, after) := by
  rw [ExceptT.run_bind, bind_apply]
  rcases action.run world with ⟨_ | _, _⟩ <;> rfl

/-- An action whose failure is dealt with. -/
theorem run_tryCatch (action : Action α) (handle : Failure → Action α) (world : World) :
    (tryCatch action handle).run world =
      match action.run world with
      | (.ok value, after) => (.ok value, after)
      | (.error failure, after) => (handle failure).run after := by
  rw [ExceptT.run_tryCatch, bind_apply]
  rcases action.run world with ⟨_ | _, _⟩ <;> rfl

@[simp] theorem run_pure (value : α) (world : World) :
    (pure value : Action α).run world = (.ok value, world) := rfl

@[simp] theorem run_throw (failure : Failure) (world : World) :
    (throw failure : Action α).run world = (.error failure, world) := rfl

@[simp] theorem run_get (world : World) : (get : Action World).run world = (.ok world, world) := rfl

@[simp] theorem run_ofExcept (outcome : Except Failure α) (world : World) :
    (ofExcept outcome).run world = (outcome, world) := rfl

/-- The directories that could be made are there, also if not all could be made. -/
theorem run_makeDirectories (path : Path) (world : World) :
    (makeDirectories path).run world =
      match world.files.ensureDirectories path with
      | (files, none) => (.ok (), { world with files })
      | (files, some error) => (.error (.files error), { world with files }) := by
  unfold makeDirectories
  rw [run_bind, run_get]
  simp only [run_bind]
  rcases world.files.ensureDirectories path with ⟨files, _ | error⟩ <;> rfl

@[simp] theorem run_print (text : Text) (world : World) :
    (print text).run world = (.ok (), { world with printed := world.printed ++ text }) := rfl

end Action

/-! ## The reports that are selected -/

/-- The kinds and the pattern that a selection asks for: its names are those of the kinds, and there
is no pattern if none is written. -/
structure Selection.Denotes [Runtime] (selection : Selection) (kinds : List Kind)
    (pattern : Option Pattern) : Prop where
  /-- Each name is that of the kind at its place. -/
  names : selection.kinds.map Kind.ofName? = kinds.map some
  /-- What is written is the pattern. -/
  written : (selection.pattern = [] ∧ pattern = none) ∨
    selection.pattern ≠ [] ∧ ∃ searched, pattern = some searched ∧
      Pattern.read selection.pattern = .ok searched

namespace Selection

variable {selection : Selection} {kinds : List Kind} {pattern : Option Pattern}

/-- Names that are those of kinds give a filter. -/
theorem toFilter_of_names (h : selection.kinds.map Kind.ofName? = kinds.map some) :
    selection.toFilter = .ok ⟨kinds, selection.pattern⟩ := by
  have hnames : ∀ names : List Text, names.map Kind.ofName? = kinds.map some →
      names.mapM kindOfName = .ok kinds := by
    clear h
    induction kinds with
    | nil =>
      rintro (_ | _) h
      · rfl
      · cases h
    | cons kind kinds ih =>
      rintro (_ | ⟨name, names⟩) h
      · cases h
      · obtain ⟨hname, hnames⟩ := List.cons.inj h
        have hkind : kindOfName name = .ok kind := by rw [kindOfName, hname]
        rw [List.mapM_cons, hkind, ih names hnames]
        rfl
  rw [toFilter, hnames _ h]
  rfl

section
variable [Runtime]

/-- A selection that denotes kinds and a pattern gives the filter with these kinds. -/
theorem Denotes.toFilter_eq (h : selection.Denotes kinds pattern) :
    selection.toFilter = .ok ⟨kinds, selection.pattern⟩ := toFilter_of_names h.names

/-- The pattern of a selection is read as the one that it denotes. -/
theorem Denotes.read_eq (h : selection.Denotes kinds pattern) :
    (⟨kinds, selection.pattern⟩ : Filter).read = .ok pattern := by
  rcases h.written with ⟨hempty, rfl⟩ | ⟨hne, searched, rfl, hread⟩
  · simp [Filter.read, hempty]
  · simp [Filter.read, hne, hread]

end

end Selection

namespace LogReader

/-- The reports on the logs that can be read, in their order. -/
def reportsOn (reader : LogReader) (tree : Tree) (logs : List Path) : List FileReport :=
  logs.filterMap fun log => (reader.ofFile tree log).toOption

/-- What is selected of the reports on logs. -/
theorem selectFromFiles_eq [Runtime] {selection : Selection} {filter : Filter}
    (h : selection.toFilter = .ok filter) (reader : LogReader) (tree : Tree) (logs : List Path) :
    reader.selectFromFiles tree logs selection =
      match reader.ofFiles tree logs with
      | .error error => .error (.log error)
      | .ok reports => (reports.mapM filter.apply).mapError .filter := by
  -- a failure is given its place among the others report by report, which may as well wait
  have herrors (reports : List FileReport) :
      (reports.mapM fun report => (filter.apply report).mapError Failure.filter) =
        (reports.mapM filter.apply).mapError .filter := by
    induction reports with
    | nil => rfl
    | cons report reports ih =>
      rw [List.mapM_cons, List.mapM_cons, ih]
      cases filter.apply report <;> cases reports.mapM filter.apply <;> rfl
  rw [selectFromFiles, h]
  cases reader.ofFiles tree logs with
  | error error => rfl
  | ok reports => exact herrors reports

/-- Where every log is read or passed over, it is up to the filter what is selected. -/
theorem selectFromFiles_of_passesOver [Runtime] {selection : Selection} {filter : Filter}
    (h : selection.toFilter = .ok filter) {reader : LogReader} {tree : Tree} {logs : List Path}
    (hlogs : reader.PassesOver tree logs) :
    reader.selectFromFiles tree logs selection =
      ((reader.reportsOn tree logs).mapM filter.apply).mapError .filter := by
  rw [selectFromFiles_eq h, (reader.answers_ofFiles tree logs).eq_reports hlogs]
  rfl

end LogReader

/-! ## Exports -/

namespace Export

section
variable [Runtime]

/-- What an export prints about the reports. -/
def shown {Source : Type} (order : Export) (reports : List (ReportOn Source)) : Text :=
  (if order.statistics then (Statistics.ofReports reports).display else []) ++
    if order.display then (Report.combine reports combinedSource).display order.coloured else []

/-- **What an export does.** If one of its steps fails, nothing has been written. -/
theorem run_eq (order : Export) (reader : LogReader) (world : World) :
    (order.run reader).run world =
      match reader.selectFromFiles world.files order.logs order.selection, order.format with
      | .error failure, _ => (.error failure, world)
      | .ok _, .error unsupported => (.error (.format unsupported), world)
      | .ok reports, .ok format =>
        let combined := Report.combine reports combinedSource
        match world.files.write order.output (Utf8.encode (combined.write format)) with
        | .error error => (.error (.files error), world)
        | .ok files => (.ok combined, ⟨files, world.printed ++ order.shown reports⟩) := by
  unfold run
  rw [Action.run_bind, Action.run_get]
  simp only [Action.run_bind, Action.run_ofExcept]
  cases reader.selectFromFiles world.files order.logs order.selection with
  | error failure => rfl
  | ok reports =>
    cases hformat : order.format with
    | error unsupported => rfl
    | ok format =>
      simp only [run_writeReport]
      cases world.files.write order.output
          (Utf8.encode ((Report.combine reports combinedSource).write format)) with
      | error error => rfl
      | ok files =>
        -- what is shown depends on what is asked for, and nothing can fail any more
        cases hstatistics : order.statistics <;> cases hdisplay : order.display <;>
          simp only [shown, hstatistics, hdisplay, Action.run_bind, Action.run_print,
            Action.run_pure, if_true, Bool.false_eq_true, if_false, List.append_nil,
            List.nil_append, List.append_assoc]

variable {order : Export} {reader : LogReader} {world : World} {filter : Filter} {format : Format}

/-- Where the failure of a log breaks through, an export fails. -/
theorem run_of_breaksThrough (hfilter : order.selection.toFilter = .ok filter)
    (hlogs : ∃ log ∈ order.logs, ∃ error, reader.BreaksThrough world.files log error) :
    ∃ log ∈ order.logs, ∃ error, reader.BreaksThrough world.files log error ∧
      (order.run reader).run world = (.error (.log error), world) := by
  obtain ⟨log, hlog, error, hbreaks, hfiles⟩ :=
    (reader.answers_ofFiles world.files order.logs).exists_breaksThrough hlogs
  refine ⟨log, hlog, error, hbreaks, ?_⟩
  rw [run_eq, LogReader.selectFromFiles_eq hfilter, hfiles]

/-- An export fails before anything is written if the filter does. -/
theorem run_of_mapM_error {refusal : Filter.Refusal}
    (hfilter : order.selection.toFilter = .ok filter)
    (hlogs : reader.PassesOver world.files order.logs)
    (hrefused : (reader.reportsOn world.files order.logs).mapM filter.apply = .error refusal) :
    (order.run reader).run world = (.error (.filter refusal), world) := by
  rw [run_eq, LogReader.selectFromFiles_of_passesOver hfilter hlogs, hrefused]
  rfl

/-- What the filter keeps is written, shown and returned. -/
theorem run_of_mapM_ok {kept : List FileReport} (hfilter : order.selection.toFilter = .ok filter)
    (hlogs : reader.PassesOver world.files order.logs)
    (hkept : (reader.reportsOn world.files order.logs).mapM filter.apply = .ok kept)
    (hformat : order.format = .ok format) (houtput : world.files.Writable order.output) :
    let exported := Report.combine kept combinedSource
    ∃ files, (order.run reader).run world =
        (.ok exported, ⟨files, world.printed ++ order.shown kept⟩) ∧
      world.files.write order.output (Utf8.encode (exported.write format)) = .ok files ∧
      files.text? order.output = some (exported.write format) := by
  intro exported
  have hselected := LogReader.selectFromFiles_of_passesOver hfilter hlogs
  rw [hkept] at hselected
  obtain ⟨files, hwrite⟩ :=
    houtput.exists_write (Utf8.encode ((Report.combine kept combinedSource).write format))
  refine ⟨files, ?_, hwrite, Tree.text?_write hwrite⟩
  rw [run_eq, hselected, hformat]
  simp only [Except.mapError, hwrite]
  rfl

/-- **An export neither loses, adds nor reorders diagnostics, and its statistics count what it
exports.** Of the reports on the logs that can be read, in their order, those diagnostics are kept
that are of one of the kinds, if there are any, and in whose messages the pattern is found, if there
is one. That is what the filter makes of all the reports together, it is returned, and the report
file holds what is written for it. No export is made if the failure of a log breaks through, or if
the search for the pattern breaks off. -/
theorem run_exports (reader : LogReader) (order : Export) (world : World) {kinds : List Kind}
    {pattern : Option Pattern} {format : Format}
    (hselection : order.selection.Denotes kinds pattern) (hformat : order.format = .ok format)
    (houtput : world.files.Writable order.output) :
    let reports := reader.reportsOn world.files order.logs
    let kept := reports.map (Filter.keepIn kinds pattern)
    let exported : Report := ⟨combinedSource, reports.flatMap fun report =>
      report.diagnostics.filter (Filter.Wanted kinds pattern ·)⟩
    let statistics := Statistics.ofReports kept
    ((∃ log ∈ order.logs, ∃ error, reader.BreaksThrough world.files log error) →
      ∃ log ∈ order.logs, ∃ error, reader.BreaksThrough world.files log error ∧
        (order.run reader).run world = (.error (.log error), world)) ∧
    (reader.PassesOver world.files order.logs →
      (∃ report ∈ reports, Filter.BreaksOff pattern report) →
      (order.run reader).run world =
        (.error (.filter ⟨order.selection.pattern, .crossedGroup⟩), world)) ∧
    (reader.PassesOver world.files order.logs →
      (∀ report ∈ reports, ¬ Filter.BreaksOff pattern report) →
      (∃ files,
        (order.run reader).run world =
          (.ok exported, ⟨files, world.printed ++ order.shown kept⟩) ∧
        world.files.write order.output (Utf8.encode (exported.write format)) = .ok files ∧
        files.text? order.output = some (exported.write format)) ∧
      reader.selectFromFiles world.files order.logs order.selection = .ok kept ∧
      (⟨kinds, order.selection.pattern⟩ : Filter).apply (Report.combine reports combinedSource) =
        .ok exported ∧
      statistics.files = reports.length ∧
      statistics.found.total = exported.diagnostics.length ∧
      (∀ kind, statistics.found.get kind = (exported.ofKind kind).length) ∧
      statistics.filesWithErrors = reports.countP fun report =>
        report.diagnostics.any fun diagnostic =>
          diagnostic.kind = .error ∧ Filter.Wanted kinds pattern diagnostic) := by
  intro reports kept exported statistics
  have hcombined : Report.combine kept combinedSource = exported := by
    simp only [kept, exported, Report.combine, List.flatMap_map, Filter.keepIn]
  have hfilter := hselection.toFilter_eq
  have hread := hselection.read_eq
  refine ⟨run_of_breaksThrough hfilter, fun hlogs hbreaks => ?_, fun hlogs hsearch => ?_⟩
  · exact run_of_mapM_error hfilter hlogs (Filter.mapM_apply_of_breaksOff hread hbreaks)
  · have hkept := Filter.mapM_apply_of_read hread hsearch
    have hselected : reader.selectFromFiles world.files order.logs order.selection = .ok kept := by
      rw [LogReader.selectFromFiles_of_passesOver hfilter hlogs, hkept]
      rfl
    have hrun := run_of_mapM_ok hfilter hlogs hkept hformat houtput
    rw [hcombined] at hrun
    have hall : (⟨kinds, order.selection.pattern⟩ : Filter).apply
        (Report.combine reports combinedSource) = .ok exported := by
      rw [Filter.apply_combine_of_read hread hsearch, hcombined]
    have hdiagnostics : kept.flatMap (·.diagnostics) = exported.diagnostics :=
      congrArg ReportOn.diagnostics hcombined
    refine ⟨hrun, hselected, hall, List.length_map .., ?_, fun kind => ?_,
      Statistics.filesWithErrors_map_keepIn ..⟩
    · rw [Statistics.total_found_ofReports, hdiagnostics]
    · rw [Statistics.get_found_ofReports, hdiagnostics, List.countP_eq_length_filter]
      rfl

end

/-- Two logs, one of them twice, and one that is missing: of the errors those with a word are
exported. -/
theorem run_exports_errors_with_word :
    letI := Runtime.standard
    let tree : Tree := { entries := [
      ([Utf8.encode "a.log".toList],
        .file (Utf8.encode "x:1: one\nLaTeX Warning: one\nx:2: no one\n".toList)),
      ([Utf8.encode "b.log".toList], .file (Utf8.encode "LaTeX Warning: one\ny:3: two\n".toList))] }
    let a : Path := ⟨[], ["a.log".toList]⟩
    let b : Path := ⟨[], ["b.log".toList]⟩
    let missing : Path := ⟨[], ["missing.log".toList]⟩
    let order : Export :=
      { logs := [a, missing, b, a], selection := ⟨[" Error".toList], "one".toList⟩
        format := .ok .csv, output := ⟨[], ["out.csv".toList]⟩, statistics := true }
    let one : Pattern := ⟨.sequence [.one (.literal 0x6F), .one (.literal 0x6E),
      .one (.literal 0x65)], [], []⟩
    let exported : Report := ⟨combinedSource, [⟨.error, "one".toList⟩, ⟨.error, "no one".toList⟩,
      ⟨.error, "one".toList⟩, ⟨.error, "no one".toList⟩]⟩
    order.selection.Denotes [.error] (some one) ∧ tree.Writable order.output ∧
      ((order.run {}).run ⟨tree, []⟩).1 = .ok exported ∧
      ((order.run {}).run ⟨tree, []⟩).2.files.text? order.output =
        some ("source,kind,message\r\n".toList ++
          "<combined>,error,one\r\n<combined>,error,no one\r\n".toList ++
          "<combined>,error,one\r\n<combined>,error,no one\r\n".toList) := by
  let _ := Runtime.standard
  intro tree a b missing order one exported
  have hselection : order.selection.Denotes [.error] (some one) :=
    ⟨by decide +kernel, .inr ⟨by decide, one, rfl, Pattern.read_eq_of_toOption (by decide +kernel)⟩⟩
  have houtput : tree.Writable order.output :=
    ⟨by decide +kernel, [Utf8.encode "out.csv".toList], by decide +kernel, by decide +kernel⟩
  have hreports : ∀ report ∈ ({} : LogReader).reportsOn tree order.logs,
      ¬ Filter.BreaksOff (some one) report := by decide +kernel
  obtain ⟨-, -, hdone⟩ := run_exports {} order ⟨tree, []⟩ hselection rfl houtput
  obtain ⟨⟨files, hrun, -, htext⟩, -⟩ := hdone (by decide +kernel) hreports
  have hexported : exported = ⟨combinedSource, (({} : LogReader).reportsOn tree order.logs).flatMap
      fun report => report.diagnostics.filter (Filter.Wanted [.error] (some one) ·)⟩ := by
    decide +kernel
  refine ⟨hselection, houtput, ?_, ?_⟩
  · rw [hrun, hexported]
  · rw [hrun, htext, ← hexported]
    decide +kernel

/-- Exports that fail although there is a log that can be read and the pattern can be used: one with
a path that has a null character, one with a path that has half of a surrogate pair, and one with a
pattern whose search breaks off. -/
theorem run_exports_nothing :
    letI := Runtime.standard
    let log : Path := ⟨[], ["a.log".toList]⟩
    let null : Path := ⟨[], ["b\x00".toList]⟩
    let broken : Path := ⟨[], [.half 0 :: Str.of ".log"]⟩
    let output : Path := ⟨[], ["out.json".toList]⟩
    let tree : Tree := { entries :=
      [([Utf8.encode "a.log".toList], .file (Utf8.encode "a:1: xyz\n".toList))] }
    let crossing : Str := "((x)|y|z)*+".toList
    let first : Export := { logs := [log, null], format := .ok .json, output }
    let second : Export := { logs := [log, broken], format := .ok .json, output }
    let third : Export :=
      { logs := [log], selection := { pattern := crossing }, format := .ok .json, output }
    ({} : LogReader).reportsOn tree [log, null, broken] =
        [⟨Str.of "a.log", [⟨.error, "xyz".toList⟩]⟩] ∧
      ((first.run {}).run ⟨tree, []⟩).1 = .error (.log .nullInPath) ∧
      ((first.run {}).run ⟨tree, []⟩).2.files = tree ∧
      ((second.run {}).run ⟨tree, []⟩).1 = .error (.log (.unencodablePath broken)) ∧
      ((second.run {}).run ⟨tree, []⟩).2.files = tree ∧
      (Pattern.read crossing).isOk = true ∧
      ((third.run {}).run ⟨tree, []⟩).1 = .error (.filter ⟨crossing, .crossedGroup⟩) ∧
      ((third.run {}).run ⟨tree, []⟩).2.files = tree := by
  decide +kernel

end Export

end TexLog
