import Mathlib.Data.List.TakeDrop
import Mathlib.Data.List.TakeWhile
import TexLog.Command.Arguments
import TexLog.Proofs.Numerals

/-!
# The order of parameters

A command line gives the paths of log files and, after them, entries for parameters in any order.
A value stands in the word of its parameter, after an equals sign, so it can be any text; only the
kinds that are kept are words of their own. Each entry is read by itself
(`Arguments.takeLead_lead`) and sets a field of its own (`Arguments.set_comm`), so all orders give
the same arguments: the values that were given, and defaults elsewhere (`Arguments.read_of_perm`).

Only a separator is not taken for a value: it leaves the parameter without one.
-/

namespace TexLog

/-- What is given as a value, if it is not the separator. -/
def Argument.ofText (text : Text) : Argument Text :=
  if text = Arguments.separatorText then .blank else .value text

namespace Arguments

/-! ## Entries -/

/-- What a command line gives for a parameter. -/
inductive Entry
  | outputFormat (format : Format)
  | outputFile (name : Text)
  | outputDir (directory : Text)
  | filter (kinds : List Kind)
  | messagePattern (pattern : Text)
  | config (file : Text)
  | wrapWidth (width : Int)
  | noFlush
  | stats
  | verbose
  | concurrency (files : Int)
  | noColor
  deriving DecidableEq, Repr

namespace Entry

/-- The parameter of an entry. -/
def parameter : Entry → Parameter
  | outputFormat _ => .outputFormat
  | outputFile _ => .outputFile
  | outputDir _ => .outputDir
  | filter _ => .filter
  | messagePattern _ => .messagePattern
  | config _ => .config
  | wrapWidth _ => .wrapWidth
  | noFlush => .noFlush
  | stats => .stats
  | verbose => .verbose
  | concurrency _ => .concurrency
  | noColor => .noColor

/-- The value in the word of the parameter. -/
def value? : Entry → Option Text
  | outputFormat format => some format.extension
  | outputFile value | outputDir value | messagePattern value | config value => some value
  | wrapWidth n | concurrency n => some (.ofInt n)
  | filter _ | noFlush | stats | verbose | noColor => none

/-- The values after the word of the parameter. -/
def following : Entry → List Text
  | filter kinds => kinds.map Kind.name
  | _ => []

/-- The words of an entry: the spelling of its parameter, with the value after an equals sign, and
the values that follow. -/
def words (entry : Entry) : List Text :=
  (entry.parameter.title ++ entry.value?.elim [] ('=' :: ·)) :: entry.following

/-- An integer that an entry gives has no more digits than are read. -/
def IsReadable : Entry → Prop
  | wrapWidth n | concurrency n => (Text.ofNat n.natAbs).length ≤ Text.maxDigits
  | _ => True

example : (wrapWidth (-5)).words = ["--wrap-width=-5".toList] := by decide

example : (filter [.error]).words = ["--filter".toList, "error".toList] := by decide

end Entry

/-- The arguments with what an entry gives. -/
def set (arguments : Arguments) : Entry → Arguments
  | .outputFormat format => { arguments with outputFormat := .value format }
  | .outputFile name => { arguments with outputFile := .ofText name }
  | .outputDir directory => { arguments with outputDir := .ofText directory }
  | .filter kinds => { arguments with filter := some kinds }
  | .messagePattern pattern => { arguments with messagePattern := .ofText pattern }
  | .config file => { arguments with config := .ofText file }
  | .wrapWidth width => { arguments with wrapWidth := .value width }
  | .noFlush => { arguments with noFlush := true }
  | .stats => { arguments with stats := true }
  | .verbose => { arguments with verbose := true }
  | .concurrency files => { arguments with concurrency := .value files }
  | .noColor => { arguments with noColor := true }

/-- Entries of different parameters can change places. -/
theorem set_comm {first second : Entry} (hne : first.parameter ≠ second.parameter)
    (arguments : Arguments) :
    (arguments.set first).set second = (arguments.set second).set first := by
  cases first <;> cases second <;> first | rfl | exact absurd rfl hne

/-- Entries leave the paths. -/
@[simp] theorem paths_set (arguments : Arguments) (entry : Entry) :
    (arguments.set entry).paths = arguments.paths := by
  cases entry <;> rfl

/-! ## Words -/

/-- A word that does not begin with a hyphen is a value. -/
theorem classify_value {text : Text} (htext : text.head? ≠ some '-') :
    classify text = .ok (.inl (.value text)) := by
  unfold classify
  split
  · simp at htext
  · simp at htext
  · simp at htext
  · rfl

/-- A text is split at the first equals sign, whatever comes after it. -/
theorem splitAtEquals_append {stem : Text} (hstem : '=' ∉ stem) (value : Option Text) :
    splitAtEquals (stem ++ value.elim [] ('=' :: ·)) = (stem, value) := by
  have hall : ∀ c ∈ stem, decide (c ≠ '=') = true := fun c hc =>
    decide_eq_true fun h => hstem (h ▸ hc)
  rw [splitAtEquals, List.span_eq_takeWhile_dropWhile, List.takeWhile_append_of_pos hall,
    List.dropWhile_append_of_pos hall]
  cases value <;> simp

/-- The spelling of a parameter begins with hyphens and has no equals sign in it, and no other
spelling begins like it. -/
theorem candidates_title : ∀ parameter : Parameter, parameter ≠ .help →
    parameter.title.take 2 = separatorText ∧ '=' ∉ parameter.title ∧
      candidates parameter.title = [(parameter.title, parameter)] := by
  intro parameter
  cases parameter <;> decide

/-- The spelling of a parameter, with a value or without one, is the parameter with this value. -/
theorem classify_title {parameter : Parameter} (hhelp : parameter ≠ .help) (value : Option Text) :
    classify (parameter.title ++ value.elim [] ('=' :: ·)) =
      .ok (.inr (.parameter parameter value)) := by
  obtain ⟨hhyphens, hequals, hcandidates⟩ := candidates_title parameter hhelp
  have hsplit := splitAtEquals_append hequals value
  generalize parameter.title = stem at hhyphens hsplit hcandidates ⊢
  obtain ⟨name, rfl⟩ : ∃ name, stem = '-' :: '-' :: name :=
    ⟨stem.drop 2, (List.take_append_drop 2 stem).symm.trans (congrArg (· ++ _) hhyphens)⟩
  rw [List.cons_append, List.cons_append] at hsplit ⊢
  simp only [classify, hsplit, hcandidates]

/-- A word that means something comes before the words of the rest. -/
theorem classifyAll_cons {text : Text} {word : Item ⊕ Lead} {rest : List Text}
    {words : List (Item ⊕ Lead)} (hword : classify text = .ok word)
    (hrest : classifyAll rest = .ok words) : classifyAll (text :: rest) = .ok (word :: words) := by
  -- Every spelling begins like the separator, so as a word it would be ambiguous.
  have hseparator : text ≠ separatorText := by
    rintro rfl
    have hambiguous : (classify separatorText).toOption = none := by decide
    simp [hword, Except.toOption] at hambiguous
  rw [classifyAll, if_neg hseparator, hword, hrest]
  rfl

/-- Values come before the words of the rest. -/
theorem classifyAll_append {values rest : List Text} {words : List (Item ⊕ Lead)}
    (hvalues : ∀ value ∈ values, value.head? ≠ some '-') (hrest : classifyAll rest = .ok words) :
    classifyAll (values ++ rest) = .ok (values.map (.inl <| .value ·) ++ words) := by
  induction values with
  | nil => exact hrest
  | cons value values ih =>
    obtain ⟨hvalue, hlater⟩ := List.forall_mem_cons.1 hvalues
    exact classifyAll_cons (classify_value hvalue) (ih hlater)

/-- Values before other words are the beginning of their first run. -/
theorem runs_append (values : List Text) (words : List (Item ⊕ Lead)) :
    runs (values.map (.inl <| .value ·) ++ words) =
      (values.map .value ++ (runs words).1, (runs words).2) := by
  induction values with
  | nil => rfl
  | cons value values ih =>
    rw [List.map_cons, List.cons_append, runs, List.foldr_cons, ← runs, ih]
    rfl

namespace Entry

/-- The parameter of an entry with the run of words after it. -/
def lead (entry : Entry) : Lead × List Item :=
  (.parameter entry.parameter entry.value?, entry.following.map .value)

/-- No entry asks for help. -/
theorem parameter_ne_help (entry : Entry) : entry.parameter ≠ .help := by
  cases entry <;> simp [parameter]

/-- What follows a parameter does not begin like one. -/
theorem head?_of_mem_following {entry : Entry} {value : Text}
    (hvalue : value ∈ entry.following) : value.head? ≠ some '-' := by
  cases entry with
  | filter kinds =>
    obtain ⟨kind, -, rfl⟩ := List.mem_map.1 hvalue
    cases kind <;> decide
  | _ => cases hvalue

/-- The words of entries are their parameters, each with the values that follow it. -/
theorem exists_classifyAll (entries : List Entry) : ∃ classified,
    classifyAll (entries.flatMap words) = .ok classified ∧
      runs classified = ([], entries.map lead) := by
  induction entries with
  | nil => exact ⟨[], rfl, rfl⟩
  | cons entry entries ih =>
    obtain ⟨classified, hclassified, hruns⟩ := ih
    have hword := classify_title entry.parameter_ne_help entry.value?
    have hfollowing :=
      classifyAll_append (fun _ => entry.head?_of_mem_following) hclassified
    refine ⟨_, classifyAll_cons hword hfollowing, ?_⟩
    rw [runs, List.foldr_cons, ← runs, runs_append, hruns]
    simp [lead]

end Entry

/-! ## Reading entries -/

/-- The kinds that names name. -/
theorem kinds_map_name (given : List Kind) : kinds (given.map Kind.name) = .ok given := by
  induction given with
  | nil => rfl
  | cons kind given ih =>
    have hname : Kind.all.find? (fun other => other.name = kind.name) = some kind := by
      cases kind <;> decide
    rw [kinds, List.map_cons, List.mapM_cons, ← kinds, ih, hname]
    rfl

/-- A format is read from its extension. -/
theorem format_extension (given : Format) : format given.extension = .ok given := by
  cases given <;> rfl

/-- A written integer is read as it was. -/
theorem integer_ofInt {n : Int} (hn : (Text.ofNat n.natAbs).length ≤ Text.maxDigits)
    (parameter : Parameter) : integer parameter (Text.ofInt n) = .ok n := by
  rw [integer, Text.readInt?_ofInt hn]

/-- No written integer is the separator. -/
theorem ofInt_ne_separatorText {n : Int}
    (hn : (Text.ofNat n.natAbs).length ≤ Text.maxDigits) : Text.ofInt n ≠ separatorText := by
  intro h
  have hread := Text.readInt?_ofInt hn
  rw [h] at hread
  exact absurd hread (by simp [show Text.readInt? separatorText = none by decide])

/-- Values are written as they are. -/
theorem map_text_map_value (values : List Text) :
    (values.map Item.value).map Item.text = values := by
  rw [List.map_map]
  exact List.map_id _

/-- Without further words nothing changes. -/
theorem takeRun_nil (progress : Progress) : takeRun progress [] = progress := by
  simp [takeRun]

section
variable {arguments after : Arguments} {parameter : Parameter}

/-- A switch is turned on. -/
theorem takeParameter_switch (harity : parameter.arity = .none)
    (hafter : arguments.turnOn parameter = .ok after) :
    takeParameter { arguments } parameter none [] = .ok { arguments := after } := by
  simp [takeParameter, harity, hafter, takeRun_nil, bind, Except.bind, pure, Except.pure]

/-- A value is set. -/
theorem takeParameter_value {value : Text} (harity : parameter.arity = .one)
    (hvalue : value ≠ separatorText) (hafter : arguments.setOne value parameter = .ok after) :
    takeParameter { arguments } parameter (some value) [] = .ok { arguments := after } := by
  simp [takeParameter, harity, hvalue, hafter, Except.mapError, takeRun_nil, bind, Except.bind,
    pure, Except.pure]

/-- The separator leaves the parameter without a value. -/
theorem takeParameter_separator (harity : parameter.arity = .one) :
    takeParameter { arguments } parameter (some separatorText) [] =
      .ok { arguments := arguments.setBlank parameter } := by
  simp [takeParameter, harity, takeRun_nil, bind, Except.bind, pure, Except.pure]

/-- Any text is set as it is, but for the separator. -/
theorem takeParameter_text (put : Argument Text → Arguments) (harity : parameter.arity = .one)
    (hput : ∀ value, arguments.setOne value parameter = .ok (put (.value value)))
    (hblank : arguments.setBlank parameter = put .blank) (text : Text) :
    takeParameter { arguments } parameter (some text) [] =
      .ok { arguments := put (.ofText text) } := by
  by_cases hseparator : text = separatorText
  · rw [hseparator, takeParameter_separator harity, hblank]
    rfl
  · rw [takeParameter_value harity hseparator (hput text), Argument.ofText, if_neg hseparator]

/-- Values that follow a parameter are its own. -/
theorem takeParameter_values {values : List Text} (harity : parameter.arity = .any)
    (hafter : arguments.setAny values = .ok after) :
    takeParameter { arguments } parameter none (values.map .value) =
      .ok { arguments := after } := by
  have hall : (values.map Item.value).takeWhile Item.isValue = values.map .value := by
    rw [List.takeWhile_eq_self_iff]
    intro item hitem
    obtain ⟨value, -, rfl⟩ := List.mem_map.1 hitem
    rfl
  have hrest : (values.map Item.value).drop (values.map Item.value).length = [] :=
    List.drop_length
  simp only [takeParameter, harity, hall, map_text_map_value, hafter, hrest, Except.mapError,
    takeRun_nil, bind, Except.bind, pure, Except.pure]

end

/-- An entry gives what it says, and nothing is left over. -/
theorem takeLead_lead (arguments : Arguments) {entry : Entry} (hentry : entry.IsReadable) :
    takeLead { arguments } entry.lead = .ok { arguments := arguments.set entry } := by
  change takeParameter { arguments } entry.parameter entry.value?
    (entry.following.map .value) = _
  cases entry with
  | outputFormat given =>
    have hseparator : given.extension ≠ separatorText := by cases given <;> decide
    refine takeParameter_value rfl hseparator ?_
    rw [Entry.parameter, setOne, format_extension]
    rfl
  | outputFile name =>
    exact takeParameter_text ({ arguments with outputFile := · }) rfl (fun _ => rfl) rfl name
  | outputDir directory =>
    exact takeParameter_text ({ arguments with outputDir := · }) rfl (fun _ => rfl) rfl directory
  | messagePattern pattern =>
    exact takeParameter_text ({ arguments with messagePattern := · }) rfl (fun _ => rfl) rfl pattern
  | config file =>
    exact takeParameter_text ({ arguments with config := · }) rfl (fun _ => rfl) rfl file
  | filter given =>
    refine takeParameter_values rfl ?_
    rw [Entry.following, setAny, kinds_map_name]
    rfl
  | wrapWidth width =>
    refine takeParameter_value rfl (ofInt_ne_separatorText hentry) ?_
    rw [Entry.parameter, setOne, integer_ofInt hentry]
    rfl
  | concurrency files =>
    refine takeParameter_value rfl (ofInt_ne_separatorText hentry) ?_
    rw [Entry.parameter, setOne, integer_ofInt hentry]
    rfl
  | noFlush => exact takeParameter_switch rfl rfl
  | stats => exact takeParameter_switch rfl rfl
  | verbose => exact takeParameter_switch rfl rfl
  | noColor => exact takeParameter_switch rfl rfl

/-- Entries give what they say, in their order. -/
theorem foldlM_takeLead (arguments : Arguments) {entries : List Entry}
    (hentries : ∀ entry ∈ entries, entry.IsReadable) :
    (entries.map Entry.lead).foldlM takeLead { arguments } =
      .ok { arguments := entries.foldl set arguments } := by
  induction entries generalizing arguments with
  | nil => rfl
  | cons entry entries ih =>
    obtain ⟨hentry, hlater⟩ := List.forall_mem_cons.1 hentries
    rw [List.map_cons, List.foldlM_cons, takeLead_lead arguments hentry]
    exact ih (arguments.set entry) hlater

/-- The first run is that of the paths. -/
theorem takeRun_paths {paths : List Text} (hpaths : paths ≠ []) :
    takeRun {} (paths.map .value) = { arguments := { paths } } := by
  have hvalue : (paths.map Item.value).any Item.isValue = true := by
    obtain ⟨path, rest, rfl⟩ := List.exists_cons_of_ne_nil hpaths
    rfl
  have hseparator : Item.separator ∉ paths.map Item.value := by simp
  simp only [takeRun, hvalue, List.isEmpty_nil, Bool.and_self, if_true,
    List.erase_of_not_mem hseparator, map_text_map_value]

/-- Setting parameters keeps the paths. -/
theorem paths_foldl_set (arguments : Arguments) (entries : List Entry) :
    (entries.foldl set arguments).paths = arguments.paths := by
  induction entries generalizing arguments with
  | nil => rfl
  | cons entry entries ih => exact (ih _).trans (paths_set ..)

/-- A command line with paths and entries after them gives the paths and what the entries say. -/
theorem read_entries {paths : List Text} (hpaths : paths ≠ [])
    (hplain : ∀ path ∈ paths, path.head? ≠ some '-') {entries : List Entry}
    (hentries : ∀ entry ∈ entries, entry.IsReadable) :
    read (paths ++ entries.flatMap Entry.words) = .ok (entries.foldl set { paths }) := by
  obtain ⟨classified, hclassified, hruns⟩ := Entry.exists_classifyAll entries
  have hall := classifyAll_append hplain hclassified
  have hread := foldlM_takeLead { paths } hentries
  have hempty : (entries.foldl set { paths }).paths.isEmpty = false := by
    rw [paths_foldl_set]
    simpa using hpaths
  simp only [read, hall, Except.mapError, bind, Except.bind, runs_append, hruns, List.append_nil,
    takeRun_paths hpaths, hread, hempty]
  rfl

/-! ## Any order -/

/-- What is given for each parameter, if anything. -/
structure Given where
  outputFormat : Option Format := none
  outputFile : Option Text := none
  outputDir : Option Text := none
  filter : Option (List Kind) := none
  messagePattern : Option Text := none
  config : Option Text := none
  wrapWidth : Option Int := none
  noFlush : Bool := false
  stats : Bool := false
  verbose : Bool := false
  concurrency : Option Int := none
  noColor : Bool := false

namespace Given

/-- The entry of a parameter. -/
def get? (given : Given) : Parameter → Option Entry
  | .help => none
  | .outputFormat => given.outputFormat.map .outputFormat
  | .outputFile => given.outputFile.map .outputFile
  | .outputDir => given.outputDir.map .outputDir
  | .filter => given.filter.map .filter
  | .messagePattern => given.messagePattern.map .messagePattern
  | .config => given.config.map .config
  | .wrapWidth => given.wrapWidth.map .wrapWidth
  | .noFlush => if given.noFlush then some .noFlush else none
  | .stats => if given.stats then some .stats else none
  | .verbose => if given.verbose then some .verbose else none
  | .concurrency => given.concurrency.map .concurrency
  | .noColor => if given.noColor then some .noColor else none

/-- The entries for what is given, in the order in which parameters are listed. -/
def entries (given : Given) : List Entry :=
  (Parameter.spellings.map Prod.snd).filterMap given.get?

/-- The arguments with the given paths, with what is given, and with the defaults elsewhere. -/
def arguments (given : Given) (paths : List Text) : Arguments where
  paths := paths
  outputFormat := given.outputFormat.elim (.value .json) .value
  outputFile := given.outputFile.elim (.value "latex_diagnostics".toList) .ofText
  outputDir := given.outputDir.elim (.value ['.']) .ofText
  filter := given.filter
  messagePattern := given.messagePattern.elim .missing .ofText
  config := given.config.elim .missing .ofText
  wrapWidth := given.wrapWidth.elim .missing .value
  noFlush := given.noFlush
  stats := given.stats
  verbose := given.verbose
  concurrency := given.concurrency.elim (.value 4) .value
  noColor := given.noColor

/-- The integers that are given have no more digits than are read. -/
def IsReadable (given : Given) : Prop :=
  ∀ n, given.wrapWidth = some n ∨ given.concurrency = some n →
    (Text.ofNat n.natAbs).length ≤ Text.maxDigits

variable {given : Given} {parameter : Parameter} {entry : Entry}

/-- The entry of a parameter is one of this parameter. -/
theorem parameter_of_get? (hentry : given.get? parameter = some entry) :
    entry.parameter = parameter := by
  cases parameter with
  | help => cases hentry
  | noFlush | stats | verbose | noColor =>
    obtain ⟨-, ⟨⟩⟩ := Option.ite_none_right_eq_some.1 hentry
    rfl
  | _ =>
    obtain ⟨_, -, rfl⟩ := Option.map_eq_some_iff.1 hentry
    rfl

/-- An entry that was given is found by its parameter. -/
theorem get?_of_mem (hentry : entry ∈ given.entries) :
    given.get? entry.parameter = some entry := by
  obtain ⟨parameter, -, hparameter⟩ := List.mem_filterMap.1 hentry
  rw [parameter_of_get? hparameter]
  exact hparameter

/-- Every entry of what can be read can be read. -/
theorem isReadable_of_mem (hreadable : given.IsReadable) (hentry : entry ∈ given.entries) :
    entry.IsReadable := by
  have hgiven := get?_of_mem hentry
  cases entry with
  | wrapWidth width =>
    have hwidth : given.wrapWidth = some width := by simpa [get?, Entry.parameter] using hgiven
    exact hreadable width (.inl hwidth)
  | concurrency files =>
    have hfiles : given.concurrency = some files := by simpa [get?, Entry.parameter] using hgiven
    exact hreadable files (.inr hfiles)
  | _ => trivial

/-- Entries of one parameter are the same entry. -/
theorem eq_of_parameter_eq {first second : Entry} (hfirst : first ∈ given.entries)
    (hsecond : second ∈ given.entries) (hsame : first.parameter = second.parameter) :
    first = second := by
  have hgiven := get?_of_mem hfirst
  rw [hsame, get?_of_mem hsecond] at hgiven
  exact (Option.some.inj hgiven).symm

/-- The arguments with what is given for a parameter. -/
def put (given : Given) (arguments : Arguments) : Parameter → Arguments
  | .help => arguments
  | .outputFormat =>
    { arguments with outputFormat := given.outputFormat.elim arguments.outputFormat .value }
  | .outputFile =>
    { arguments with outputFile := given.outputFile.elim arguments.outputFile .ofText }
  | .outputDir => { arguments with outputDir := given.outputDir.elim arguments.outputDir .ofText }
  | .filter => { arguments with filter := given.filter.or arguments.filter }
  | .messagePattern =>
    { arguments with messagePattern := given.messagePattern.elim arguments.messagePattern .ofText }
  | .config => { arguments with config := given.config.elim arguments.config .ofText }
  | .wrapWidth => { arguments with wrapWidth := given.wrapWidth.elim arguments.wrapWidth .value }
  | .noFlush => { arguments with noFlush := given.noFlush || arguments.noFlush }
  | .stats => { arguments with stats := given.stats || arguments.stats }
  | .verbose => { arguments with verbose := given.verbose || arguments.verbose }
  | .concurrency =>
    { arguments with concurrency := given.concurrency.elim arguments.concurrency .value }
  | .noColor => { arguments with noColor := given.noColor || arguments.noColor }

/-- What is given for a parameter is what its entry says. -/
theorem set_get? (given : Given) (arguments : Arguments) (parameter : Parameter) :
    (given.get? parameter).elim arguments arguments.set = given.put arguments parameter := by
  obtain ⟨format, file, directory, filter, pattern, config, width, noFlush, stats, verbose, files,
    noColor⟩ := given
  cases parameter with
  | help => rfl
  | outputFormat => cases format <;> rfl
  | outputFile => cases file <;> rfl
  | outputDir => cases directory <;> rfl
  | filter => cases filter <;> rfl
  | messagePattern => cases pattern <;> rfl
  | config => cases config <;> rfl
  | wrapWidth => cases width <;> rfl
  | noFlush => cases noFlush <;> rfl
  | stats => cases stats <;> rfl
  | verbose => cases verbose <;> rfl
  | concurrency => cases files <;> rfl
  | noColor => cases noColor <;> rfl

/-- The entries of parameters, one after another, give what is given for each. -/
theorem foldl_set_filterMap (given : Given) (arguments : Arguments) (parameters : List Parameter) :
    (parameters.filterMap given.get?).foldl Arguments.set arguments =
      parameters.foldl given.put arguments := by
  induction parameters generalizing arguments with
  | nil => rfl
  | cons parameter parameters ih =>
    rw [List.foldl_cons, ← set_get?]
    cases hentry : given.get? parameter with
    | none =>
      rw [List.filterMap_cons_none hentry]
      exact ih arguments
    | some entry =>
      rw [List.filterMap_cons_some hentry, List.foldl_cons]
      exact ih (arguments.set entry)

/-- All entries give what is given, and the defaults stay elsewhere. -/
theorem foldl_set_entries (given : Given) (paths : List Text) :
    given.entries.foldl Arguments.set { paths } = given.arguments paths := by
  rw [entries, foldl_set_filterMap]
  simp only [Parameter.spellings, List.map_cons, List.map_nil, List.foldl_cons, List.foldl_nil, put,
    arguments, Bool.or_false, Option.or_none]

end Given

/-- **In whatever order the entries for what is given come after the paths, the arguments are what
is given**, with the defaults elsewhere. -/
theorem read_of_perm (given : Given) {paths : List Text} {entries : List Entry}
    (hpaths : paths ≠ []) (hplain : ∀ path ∈ paths, path.head? ≠ some '-')
    (hreadable : given.IsReadable) (horder : entries.Perm given.entries) :
    read (paths ++ entries.flatMap Entry.words) = .ok (given.arguments paths) := by
  have hentries : ∀ entry ∈ entries, entry.IsReadable := fun entry hentry =>
    Given.isReadable_of_mem hreadable (horder.mem_iff.1 hentry)
  -- Entries of one parameter cannot change places, but each parameter has only one.
  have hcomm : ∀ first ∈ entries, ∀ second ∈ entries, ∀ arguments : Arguments,
      (arguments.set first).set second = (arguments.set second).set first := by
    intro first hfirst second hsecond arguments
    by_cases hsame : first.parameter = second.parameter
    · rw [Given.eq_of_parameter_eq (horder.mem_iff.1 hfirst) (horder.mem_iff.1 hsecond) hsame]
    · exact set_comm hsame arguments
  calc read (paths ++ entries.flatMap Entry.words)
      = .ok (entries.foldl set { paths }) := read_entries hpaths hplain hentries
    _ = .ok (given.entries.foldl set { paths }) :=
      congrArg Except.ok (horder.foldl_eq' hcomm { paths })
    _ = .ok (given.arguments paths) := congrArg Except.ok (given.foldl_set_entries paths)

/-- Values that look like parameters, that have equals signs and spaces in them, and that are empty
are read in an order that is not that of the list. -/
theorem read_of_perm_hyphens :
    read ["a b.log".toList, [], "--filter".toList, "warning".toList, "error".toList,
      "--wrap-width=-5".toList, "--stats".toList, "--message-pattern=--x = -h".toList,
      "--config=".toList] =
      .ok { paths := ["a b.log".toList, []], filter := some [.warning, .error],
            messagePattern := .value "--x = -h".toList, config := .value [],
            wrapWidth := .value (-5), stats := true } := by
  let given : Given :=
    { filter := some [.warning, .error], messagePattern := some "--x = -h".toList,
      config := some [], wrapWidth := some (-5), stats := true }
  let entries : List Entry :=
    [.filter [.warning, .error], .wrapWidth (-5), .stats, .messagePattern "--x = -h".toList,
      .config []]
  have hpaths : ["a b.log".toList, []] ≠ [] := List.cons_ne_nil _ _
  have hplain : ∀ path ∈ ["a b.log".toList, []], path.head? ≠ some '-' := by decide
  have hreadable : given.IsReadable := by
    rintro n (⟨⟨⟩⟩ | ⟨⟨⟩⟩)
    decide
  have horder : entries.Perm given.entries := by decide
  exact read_of_perm given hpaths hplain hreadable horder

/-- A separator in the place of a value is not the value. -/
theorem read_separator_value :
    read ["a.log".toList, "--output-file=--".toList] =
      .ok { paths := ["a.log".toList], outputFile := .blank } ∧
    read ["a.log".toList, "--output-file=--".toList] ≠
      .ok { paths := ["a.log".toList], outputFile := .value "--".toList } := by
  decide

end Arguments

end TexLog
