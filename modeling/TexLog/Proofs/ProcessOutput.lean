import TexLog.Log.Reading
import TexLog.Proofs.Deliveries
import TexLog.Proofs.LineStyles

/-!
# What a process did not write

Remarks of whoever runs the process come on a channel of their own, anywhere between the lines of
its output. They leave a scanner as it is in every state: requests with and without them come to the
same state and return the same (`Scanner.serveAll_filter_isRemark`). So a report on the output of a
process depends only on what the process wrote, on either of its channels: it is the report on these
lines (`LogReader.ofOutput_of_processTexts`).
-/

namespace TexLog

/-! ## Remarks -/

/-- Whether a request is to take a remark. -/
def Request.isRemark : Request → Bool
  | output .system _ => true
  | output .stdout _ | output .stderr _ => false
  | line _ | lines _ | log .. | ending | reset => false

namespace Scanner

/-- A remark leaves a scanner as it is. -/
theorem feedFrom_system (scanner : Scanner) (text : Text) :
    scanner.feedFrom .system text = (scanner, none) := rfl

/-- A remark changes nothing and gives nothing. -/
theorem serve_of_isRemark {request : Request} (hremark : request.isRemark = true)
    (scanner : Scanner) : scanner.serve request = (scanner, []) := by
  cases request with
  | output channel text =>
    cases channel with
    | system => rfl
    | stdout => cases hremark
    | stderr => cases hremark
  | _ => cases hremark

/-- **Remarks make no difference to a run**, wherever they come. -/
theorem serveAll_filter_isRemark (scanner : Scanner) (requests : List Request) :
    let served := scanner.serveAll requests
    let others := scanner.serveAll (requests.filter (!·.isRemark))
    served.1 = others.1 ∧ served.2.flatten = others.2.flatten := by
  induction requests using List.reverseRecOn with
  | nil => exact ⟨rfl, rfl⟩
  | append_singleton requests last ih =>
    obtain ⟨hstate, hanswers⟩ := ih
    cases hremark : last.isRemark with
    | true => simp [serveAll_concat, hstate, hanswers, hremark, serve_of_isRemark hremark]
    | false => simp [serveAll_concat, hstate, hanswers, hremark]

end Scanner

/-! ## Reports -/

namespace LogReader

/-- What the process wrote itself, on one channel or the other. -/
def processTexts : List (Channel × Text) → List Text
  | [] => []
  | (.stdout, text) :: rest | (.stderr, text) :: rest => text :: processTexts rest
  | (.system, _) :: rest => processTexts rest

section
variable {m : Type → Type} [Monad m] [LawfulMonad m] (look : Scanner → Text → m (Option Diagnostic))

/-- The output of a process is scanned like the lines that it wrote. -/
theorem foldlM_feedFromWith (scanner : Scanner) (output : List (Channel × Text))
    (completed : List Diagnostic) :
    output.foldlM (fun scanner (channel, text) =>
        do return (← scanner.feedFromWith look channel text).1) scanner =
      Prod.fst <$> (processTexts output).foldlM (fun (scanner, completed) line => do
        let (scanner, diagnostic) ← scanner.feedWith look line
        return (scanner, completed ++ diagnostic.toList)) (scanner, completed) := by
  induction output generalizing scanner completed with
  | nil => simp [processTexts]
  | cons item output ih =>
    obtain ⟨channel, text⟩ := item
    cases channel with
    | stdout | stderr =>
      simp only [processTexts, List.foldlM_cons, Scanner.feedFromWith, Channel.isProcessOutput,
        if_true, bind_assoc, pure_bind, map_bind]
      exact congrArg _ (funext fun result => ih result.1 (completed ++ result.2.toList))
    | system =>
      simp only [processTexts, List.foldlM_cons, Scanner.feedFromWith, Channel.isProcessOutput,
        Bool.false_eq_true, if_false, pure_bind]
      exact ih scanner completed

/-- The report on the output of a process is that on the lines that it wrote. -/
theorem ofOutputWith_eq {Source : Type} (reader : LogReader) (source : Source)
    (output : List (Channel × Text)) :
    reader.ofOutputWith look source output =
      reader.ofLinesWith look source (processTexts output) := by
  rw [ofOutputWith, foldlM_feedFromWith look _ output [], ofLinesWith, Scanner.feedLinesWith,
    bind_map_left]

end

/-- **What a process did not write cannot influence the report on its output.** If a process writes
the same lines, the report is the same, whatever remarks come between them and on which channel each
line comes: it has the diagnostics of the report on the lines alone. The same searches break off, if
any do. In every state to which requests can bring a scanner, a remark leaves the whole scanner as
it is and completes nothing, so the state is the one to which the other requests alone bring it, and
they return what all of them return. -/
theorem ofOutput_of_processTexts (reader : LogReader) {first second : List (Channel × Text)}
    (hsame : processTexts first = processTexts second) :
    (∀ source : Text, reader.ofOutput source first = reader.ofOutput source second ∧
        reader.tryOutput source first = reader.tryOutput source second) ∧
      (∀ source other : Text,
        reader.ofOutput source first =
          ⟨source, (reader.ofLines other (processTexts first)).diagnostics⟩ ∧
        reader.tryOutput source first =
          (reader.tryLines other (processTexts first)).map fun report =>
            ⟨source, report.diagnostics⟩) ∧
      ∀ requests : List Request,
        let served := (Scanner.ofSettings reader.settings).serveAll requests
        let others := (Scanner.ofSettings reader.settings).serveAll (requests.filter (!·.isRemark))
        (∀ text, served.1.feedFrom .system text = (served.1, none)) ∧
          served.1 = others.1 ∧ served.2.flatten = others.2.flatten := by
  have hanswered (source : Text) (output : List (Channel × Text)) :
      reader.ofOutput source output = reader.ofLines source (processTexts output) :=
    reader.ofOutputWith_eq Scanner.answer source output
  have htried (source : Text) (output : List (Channel × Text)) :
      reader.tryOutput source output = reader.tryLines source (processTexts output) := by
    rw [tryOutput, ofOutputWith_eq, tryLines]
  refine ⟨fun source => ⟨?_, ?_⟩, fun source other => ⟨?_, ?_⟩, fun requests => ?_⟩
  · rw [hanswered, hanswered, hsame]
  · rw [htried, htried, hsame]
  · exact (hanswered source first).trans (reader.ofLines_of_map_stripLineEnd rfl source other)
  · exact (htried source first).trans (reader.tryLines_of_map_stripLineEnd rfl source other)
  · exact ⟨Scanner.feedFrom_system _, Scanner.serveAll_filter_isRemark _ requests⟩

/-- Remarks inside a wrapped message and after an empty line, two of which look like errors. -/
theorem ofOutput_of_processTexts_interleaved :
    let reader : LogReader := { settings := .ofWidth 8 (by decide) }
    let lines : List Text := ["a:1: xyz".toList, "w".toList, [], "b:2: c".toList, []]
    let plain : List (Channel × Text) := lines.map (.stdout, ·)
    let mixed : List (Channel × Text) := [
      (.system, "run".toList), (.stderr, "a:1: xyz".toList), (.system, "s:1: t".toList),
      (.stdout, "w".toList), (.stdout, []), (.system, "s:2: u".toList),
      (.stderr, "b:2: c".toList), (.system, []), (.stdout, [])]
    processTexts mixed = processTexts plain ∧
      reader.ofOutput ([] : Text) mixed =
        ⟨[], [⟨.error, "xyzw".toList⟩, ⟨.error, "c".toList⟩]⟩ := by
  intro reader lines plain mixed
  have hsame : processTexts mixed = processTexts plain := by decide
  have hreport := ((reader.ofOutput_of_processTexts hsame).1 []).1
  exact ⟨hsame, hreport.trans (by decide +kernel)⟩

end LogReader

end TexLog
