import TexLog.Report.Filter

/-!
# What filters keep and statistics count

A filter keeps the diagnostics that are `Wanted`: those of its kinds in whose messages its pattern
occurs, where no kinds and no pattern ask for nothing (`Filter.apply_eq`). The filter that leaves a
report as it is without looking at it is no exception. Whether reports are filtered before they are
combined or after makes no difference (`Filter.apply_combine_of_read`). Statistics count what is in
the reports, kind by kind and all together (`Statistics.get_found_ofReports`,
`Statistics.total_found_ofReports`).
-/

namespace TexLog

variable {Source : Type}

/-! ## Filters -/

namespace Filter

/-- Whether a diagnostic is kept: it is of one of the kinds, if there are any, and the pattern
occurs in its message, if there is one. -/
def Wanted (kinds : List Kind) (pattern : Option Pattern) (diagnostic : Diagnostic) : Prop :=
  (kinds = [] ∨ diagnostic.kind ∈ kinds) ∧
    ∀ searched ∈ pattern, (searched.leftmost diagnostic.message).isSome

instance {kinds : List Kind} {pattern : Option Pattern} : DecidablePred (Wanted kinds pattern) :=
  fun _ => inferInstanceAs (Decidable (_ ∧ _))

/-- What is kept of a report. -/
def keepIn (kinds : List Kind) (pattern : Option Pattern) (report : ReportOn Source) :
    ReportOn Source :=
  { report with diagnostics := report.diagnostics.filter (Wanted kinds pattern ·) }

/-- Whether the search for a pattern breaks off in a message of a report. -/
def BreaksOff (pattern : Option Pattern) (report : ReportOn Source) : Prop :=
  ∃ searched ∈ pattern, ∃ diagnostic ∈ report.diagnostics,
    searched.failure? diagnostic.message ≠ none

variable {filter : Filter} {kinds : List Kind} {pattern : Option Pattern} {report : ReportOn Source}

/-- A filter keeps what is wanted of its kinds and its pattern. -/
theorem keeps_eq (filter : Filter) (pattern : Option Pattern) :
    filter.keeps pattern = fun diagnostic => decide (Wanted filter.kinds pattern diagnostic) := by
  funext diagnostic
  rw [Bool.eq_iff_iff, decide_eq_true_eq]
  cases pattern <;> simp [keeps, Wanted, Pattern.occursIn]

/-- A search breaks off for one reason only. -/
theorem failure?_cases (pattern : Option Pattern) (report : ReportOn Source) :
    (failure? pattern report = none ∧ ¬ BreaksOff pattern report) ∨
      failure? pattern report = some .crossedGroup ∧ BreaksOff pattern report := by
  cases pattern with
  | none => exact .inl ⟨rfl, fun ⟨_, h, _⟩ => nomatch h⟩
  | some searched =>
    cases hfound : failure? (some searched) report with
    | none =>
      refine .inl ⟨rfl, ?_⟩
      rintro ⟨_, ⟨⟩, diagnostic, hmem, hbreaks⟩
      exact hbreaks (List.findSome?_eq_none_iff.1 hfound diagnostic hmem)
    | some error =>
      obtain ⟨diagnostic, hmem, hfailure⟩ := List.exists_of_findSome?_eq_some hfound
      have herror : error = .crossedGroup := by
        unfold Pattern.failure? at hfailure
        split at hfailure
        · exact (Option.some.inj hfailure).symm
        · cases hfailure
      exact .inr ⟨congrArg some herror, searched, rfl, diagnostic, hmem, by simp [hfailure]⟩

instance : Decidable (BreaksOff pattern report) :=
  decidable_of_iff (failure? pattern report ≠ none) <| by
    rcases failure?_cases pattern report with ⟨hnone, hsearch⟩ | ⟨hsome, hbreaks⟩
    · simp [hnone, hsearch]
    · simp [hsome, hbreaks]

variable [Runtime]

/-- **What a filter makes of a report.** -/
theorem apply_eq (filter : Filter) (report : ReportOn Source) :
    filter.apply report =
      match filter.read with
      | .error refusal => .error refusal
      | .ok pattern =>
        match failure? pattern report with
        | some error => .error ⟨filter.pattern, error⟩
        | none => .ok (keepIn filter.kinds pattern report) := by
  unfold apply
  cases hvacuous : filter.isVacuous with
  | true =>
    -- a filter that asks for nothing would keep everything if it looked
    obtain ⟨hkinds, hpattern⟩ : filter.kinds = [] ∧ filter.pattern = [] := by
      simpa [isVacuous] using hvacuous
    have hread : filter.read = .ok none := by simp [read, hpattern]
    have hall : keepIn filter.kinds none report = report := by
      have hkept : report.diagnostics.filter (Wanted filter.kinds none ·) = report.diagnostics :=
        List.filter_eq_self.2 fun diagnostic _ => by simp [Wanted, hkinds]
      rw [keepIn, hkept]
    rw [hread]
    exact congrArg Except.ok hall.symm
  | false =>
    cases filter.read with
    | error refusal => rfl
    | ok pattern =>
      have hkeep : keepIn filter.kinds pattern report =
          { report with diagnostics := report.diagnostics.filter (filter.keeps pattern) } := by
        rw [keeps_eq, keepIn]
      cases hfailure : failure? pattern report with
      | some error => simp only [hfailure, bind, Except.bind]; rfl
      | none => simp only [hfailure, hkeep, bind, Except.bind]; rfl

/-- A filter whose pattern can be used keeps what is wanted, unless the search breaks off. -/
theorem apply_of_read (hread : filter.read = .ok pattern) (hsearch : ¬ BreaksOff pattern report) :
    filter.apply report = .ok (keepIn filter.kinds pattern report) := by
  rw [apply_eq, hread]
  rcases failure?_cases pattern report with ⟨hnone, -⟩ | ⟨-, hbreaks⟩
  · simp only [hnone]
  · exact absurd hbreaks hsearch

/-- If the search breaks off nothing comes of the report. -/
theorem apply_of_breaksOff (hread : filter.read = .ok pattern)
    (hbreaks : BreaksOff pattern report) :
    filter.apply report = .error ⟨filter.pattern, .crossedGroup⟩ := by
  rw [apply_eq, hread]
  rcases failure?_cases pattern report with ⟨-, hsearch⟩ | ⟨hsome, -⟩
  · exact absurd hbreaks hsearch
  · simp only [hsome]

end Filter

/-! ## Several reports -/

section
variable {ε α β : Type} {act : α → Except ε β} {items : List α}

/-- Where nothing fails, each item has its result. -/
theorem mapM_eq_ok {result : α → β} (h : ∀ item ∈ items, act item = .ok (result item)) :
    items.mapM act = .ok (items.map result) := by
  induction items with
  | nil => rfl
  | cons item items ih =>
    obtain ⟨hitem, hitems⟩ := List.forall_mem_cons.1 h
    rw [List.mapM_cons, hitem, ih hitems]
    rfl

/-- Where there is but one error, it does not matter which item fails. -/
theorem mapM_eq_error {error : ε} (hone : ∀ item ∈ items, ∀ other, act item = .error other →
    other = error) (hsome : ∃ item ∈ items, act item = .error error) :
    items.mapM act = .error error := by
  induction items with
  | nil => obtain ⟨item, hitem, -⟩ := hsome; cases hitem
  | cons item items ih =>
    obtain ⟨hitem, hitems⟩ := List.forall_mem_cons.1 hone
    rw [List.mapM_cons]
    cases hact : act item with
    | error other => rw [hitem other hact]; rfl
    | ok result =>
      have hlater : ∃ item ∈ items, act item = .error error := by
        obtain ⟨failing, hmem, hfails⟩ := hsome
        rcases List.mem_cons.1 hmem with rfl | hmem
        · rw [hact] at hfails
          cases hfails
        · exact ⟨failing, hmem, hfails⟩
      rw [ih hitems hlater]
      rfl

end

namespace Filter

variable {filter : Filter} {pattern : Option Pattern} {reports : List (ReportOn Source)}

/-- What is kept of several reports together is what is kept of each. -/
theorem keepIn_combine (kinds : List Kind) (pattern : Option Pattern)
    (reports : List (ReportOn Source)) (source : Text) :
    keepIn kinds pattern (Report.combine reports source) =
      Report.combine (reports.map (keepIn kinds pattern)) source := by
  simp only [keepIn, Report.combine, List.filter_flatMap, List.flatMap_map]

variable [Runtime]

/-- What a filter keeps of several reports, if it refuses none. -/
theorem mapM_apply_of_read (hread : filter.read = .ok pattern)
    (hsearch : ∀ report ∈ reports, ¬ BreaksOff pattern report) :
    reports.mapM filter.apply = .ok (reports.map (keepIn filter.kinds pattern)) :=
  mapM_eq_ok fun report hmem => apply_of_read hread (hsearch report hmem)

/-- A search that breaks off in one of several reports breaks off for all. -/
theorem mapM_apply_of_breaksOff (hread : filter.read = .ok pattern)
    (hbreaks : ∃ report ∈ reports, BreaksOff pattern report) :
    reports.mapM filter.apply = .error ⟨filter.pattern, .crossedGroup⟩ := by
  obtain ⟨report, hmem, hbreaks⟩ := hbreaks
  refine mapM_eq_error (fun item _ other hother => ?_)
    ⟨report, hmem, apply_of_breaksOff hread hbreaks⟩
  by_cases hitem : BreaksOff pattern item
  · rw [apply_of_breaksOff hread hitem] at hother
    exact (Except.error.inj hother).symm
  · rw [apply_of_read hread hitem] at hother
    cases hother

/-- **Filtering reports and combining them comes to the same as combining them first.** -/
theorem apply_combine_of_read (hread : filter.read = .ok pattern)
    (hsearch : ∀ report ∈ reports, ¬ BreaksOff pattern report) (source : Text) :
    filter.apply (Report.combine reports source) =
      .ok (Report.combine (reports.map (keepIn filter.kinds pattern)) source) := by
  have htogether : ¬ BreaksOff pattern (Report.combine reports source) := by
    rintro ⟨searched, hsearched, diagnostic, hmem, hbreaks⟩
    obtain ⟨report, hreport, hdiagnostic⟩ := List.mem_flatMap.1 hmem
    exact hsearch report hreport ⟨searched, hsearched, diagnostic, hdiagnostic, hbreaks⟩
  rw [apply_of_read hread htogether, keepIn_combine]

end Filter

/-! ## Statistics -/

namespace Statistics

/-- The tally of a report counts its diagnostics by kind. -/
theorem get_tally (report : ReportOn Source) (kind : Kind) :
    (tally report).get kind = report.diagnostics.countP (·.kind = kind) := by
  rw [List.countP_eq_length_filter]
  cases kind <;> rfl

/-- The tallies of several reports count what is in all of them. -/
theorem get_foldl_add_tally (reports : List (ReportOn Source)) (start : Tally) (kind : Kind) :
    ((reports.map tally).foldl Tally.add start).get kind =
      start.get kind + (reports.flatMap (·.diagnostics)).countP (·.kind = kind) := by
  induction reports generalizing start with
  | nil => rfl
  | cons report reports ih =>
    have hadd : (start.add (tally report)).get kind =
        start.get kind + (tally report).get kind := by
      cases kind <;> rfl
    rw [List.map_cons, List.foldl_cons, ih, hadd, get_tally, List.flatMap_cons,
      List.countP_append, Nat.add_assoc]

/-- The diagnostics of a kind are counted. -/
theorem get_found_ofReports (reports : List (ReportOn Source)) (kind : Kind) :
    (ofReports reports).found.get kind =
      (reports.flatMap (·.diagnostics)).countP (·.kind = kind) := by
  have hzero : ({} : Tally).get kind = 0 := by cases kind <;> rfl
  rw [ofReports, get_foldl_add_tally, hzero, Nat.zero_add]

/-- Every diagnostic is counted once. -/
theorem total_found_ofReports (reports : List (ReportOn Source)) :
    (ofReports reports).found.total = (reports.flatMap (·.diagnostics)).length := by
  have hkinds (diagnostic : Diagnostic) :
      ¬ diagnostic.kind = .error ↔ diagnostic.kind = .warning := by
    cases diagnostic.kind <;> simp
  calc (ofReports reports).found.total
      = (ofReports reports).found.get .error + (ofReports reports).found.get .warning := rfl
    _ = (reports.flatMap (·.diagnostics)).length := by
        rw [get_found_ofReports, get_found_ofReports,
          List.length_eq_countP_add_countP (p := fun diagnostic => diagnostic.kind = .error)]
        simp only [decide_eq_true_eq, hkinds]

/-- The reports that still have an error when a filter has been applied are counted. -/
theorem filesWithErrors_map_keepIn (kinds : List Kind) (pattern : Option Pattern)
    (reports : List (ReportOn Source)) :
    (ofReports (reports.map (Filter.keepIn kinds pattern))).filesWithErrors =
      reports.countP fun report => report.diagnostics.any fun diagnostic =>
        diagnostic.kind = .error ∧ Filter.Wanted kinds pattern diagnostic := by
  have herrors (report : ReportOn Source) : (!(Filter.keepIn kinds pattern report).errors.isEmpty) =
      report.diagnostics.any fun diagnostic =>
        diagnostic.kind = .error ∧ Filter.Wanted kinds pattern diagnostic := by
    rw [Bool.eq_iff_iff]
    simp [ReportOn.errors, ReportOn.ofKind, Filter.keepIn]
  rw [ofReports, List.countP_map]
  exact congrArg (List.countP · reports) (funext herrors)

end Statistics

end TexLog
