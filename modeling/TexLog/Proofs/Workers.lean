import Mathlib.Data.List.Sort
import Mathlib.Logic.Relation
import TexLog.Log.Reading
import TexLog.Proofs.Directories

/-!
# Files dealt with at the same time

Several workers take files in the order in which they were submitted, and their outcomes are
collected in whatever order they come (`Pool.Step`). What has been collected is gathered by index,
so its order does not matter as long as every failure is passed over: `gather_answers` gives the
reports on the files that can be read, in the order of the files. A failure that is not passed over
(`BreaksThrough`) leaves no reports at all. A step keeps the outcomes that are there or still to
come (`Pool.Step.perm`), so whatever the workers do, the answer is one that dealing with the files
one by one could give as well (`answer_of_reaches`); as long as there is no answer there is
something to do, and every step brings the answer nearer.
-/

namespace TexLog.LogReader

/-! ## Gathering -/

/-- Indices in order, each at most once. -/
def InOrder (placed : List (Nat × FileReport)) : Prop := placed.Pairwise fun a b => a.1 < b.1

section
variable {index : Nat} {report : FileReport} {placed : List (Nat × FileReport)}

/-- What is placed at a new index is added. -/
theorem mem_place (hnew : ∀ entry ∈ placed, entry.1 ≠ index) (entry : Nat × FileReport) :
    entry ∈ place index report placed ↔ entry = (index, report) ∨ entry ∈ placed := by
  induction placed with
  | nil => simp [place]
  | cons head rest ih =>
    obtain ⟨hhead, hrest⟩ := List.forall_mem_cons.1 hnew
    rw [place]
    split
    · simp
    · rw [if_neg hhead.symm, List.mem_cons, ih hrest, List.mem_cons]
      exact or_left_comm

/-- Placing keeps the order. -/
theorem InOrder.place (horder : InOrder placed) (hnew : ∀ entry ∈ placed, entry.1 ≠ index) :
    InOrder (place index report placed) := by
  induction placed with
  | nil => exact List.pairwise_singleton _ _
  | cons head rest ih =>
    obtain ⟨hhead, hrest⟩ := List.pairwise_cons.1 horder
    obtain ⟨hne, hnews⟩ := List.forall_mem_cons.1 hnew
    rw [LogReader.place]
    split
    · next hlt =>
      refine List.pairwise_cons.2 ⟨fun entry hentry => ?_, horder⟩
      rcases List.mem_cons.1 hentry with rfl | hentry
      · exact hlt
      · exact Nat.lt_trans hlt (hhead entry hentry)
    · next hge =>
      rw [if_neg hne.symm]
      refine List.pairwise_cons.2 ⟨fun entry hentry => ?_, ih hrest hnews⟩
      rcases (mem_place hnews entry).1 hentry with rfl | hentry
      · exact Nat.lt_of_le_of_ne (Nat.not_lt.1 hge) hne
      · exact hhead entry hentry

/-- Entries in order are determined by which they are. -/
theorem InOrder.eq_of_mem_iff {placed' : List (Nat × FileReport)} (h : InOrder placed)
    (h' : InOrder placed') (hmem : ∀ entry, entry ∈ placed ↔ entry ∈ placed') :
    placed = placed' := by
  have : Std.Antisymm fun a b : Nat × FileReport => a.1 < b.1 :=
    ⟨fun _ _ hab hba => absurd hab (Nat.lt_asymm hba)⟩
  have : Std.Irrefl fun a b : Nat × FileReport => a.1 < b.1 := ⟨fun _ => Nat.lt_irrefl _⟩
  exact List.Pairwise.eq_of_mem_iff h h' hmem

end

/-- Collecting stops at a failure that is not passed over. -/
theorem exists_of_foldlM_collect {order : List Outcome} {placed : List (Nat × FileReport)}
    {error : LogError} (h : order.foldlM collect placed = .error error) :
    error.isPassedOver = false ∧ ∃ index, (index, .error error) ∈ order := by
  induction order generalizing placed with
  | nil => cases h
  | cons outcome order ih =>
    have hlater {placed} (h : order.foldlM collect placed = .error error) :
        error.isPassedOver = false ∧ ∃ index, (index, .error error) ∈ outcome :: order := by
      obtain ⟨hnot, index, hmem⟩ := ih h
      exact ⟨hnot, index, List.mem_cons_of_mem _ hmem⟩
    obtain ⟨index, result⟩ := outcome
    rw [List.foldlM_cons] at h
    cases result with
    | ok report => exact hlater h
    | error other =>
      cases hpassed : other.isPassedOver with
      | true =>
        rw [collect, if_pos hpassed] at h
        exact hlater h
      | false =>
        rw [collect, if_neg (by simp [hpassed])] at h
        obtain rfl : other = error := Except.error.inj h
        exact ⟨hpassed, index, List.mem_cons_self⟩

/-- If collecting does not stop, every failure is passed over. -/
theorem isPassedOver_of_foldlM_collect {order : List Outcome}
    {placed placed' : List (Nat × FileReport)} (h : order.foldlM collect placed = .ok placed')
    {index : Nat} {error : LogError} (hmem : (index, .error error) ∈ order) :
    error.isPassedOver = true := by
  induction order generalizing placed with
  | nil => cases hmem
  | cons outcome order ih =>
    rw [List.foldlM_cons] at h
    obtain ⟨next, hnext, hrest⟩ : ∃ next, collect placed outcome = .ok next ∧
        order.foldlM collect next = .ok placed' := by
      cases hnext : collect placed outcome with
      | ok next =>
        rw [hnext] at h
        exact ⟨next, rfl, h⟩
      | error error =>
        rw [hnext] at h
        cases h
    rcases List.mem_cons.1 hmem with rfl | hlater
    · rw [collect] at hnext
      split at hnext
      · assumption
      · cases hnext
    · exact ih hrest hlater

/-- Collecting puts the reports in order, whatever the order in which they come. -/
theorem foldlM_collect_of_passedOver {order : List Outcome}
    (hpassed : ∀ index error, (index, .error error) ∈ order → error.isPassedOver = true)
    (hnodup : (order.map Prod.fst).Nodup) {placed : List (Nat × FileReport)}
    (horder : InOrder placed) (hnew : ∀ entry ∈ placed, entry.1 ∉ order.map Prod.fst) :
    ∃ placed', order.foldlM collect placed = .ok placed' ∧ InOrder placed' ∧
      ∀ index report, (index, report) ∈ placed' ↔
        (index, report) ∈ placed ∨ (index, .ok report) ∈ order := by
  induction order generalizing placed with
  | nil => exact ⟨placed, rfl, horder, by simp⟩
  | cons outcome order ih =>
    obtain ⟨other, result⟩ := outcome
    obtain ⟨hother, hnodup'⟩ := List.nodup_cons.1 hnodup
    have hpassed' := fun index error hmem => hpassed index error (List.mem_cons_of_mem _ hmem)
    have hlater : ∀ entry ∈ placed, entry.1 ∉ order.map Prod.fst :=
      fun entry hentry hmem => hnew entry hentry (List.mem_cons_of_mem _ hmem)
    cases result with
    | ok report =>
      have hfree : ∀ entry ∈ placed, entry.1 ≠ other :=
        fun entry hentry hsame => hnew entry hentry (hsame ▸ List.mem_cons_self)
      have hlater' : ∀ entry ∈ place other report placed, entry.1 ∉ order.map Prod.fst := by
        intro entry hentry
        rcases (mem_place hfree entry).1 hentry with rfl | hentry
        · exact hother
        · exact hlater entry hentry
      obtain ⟨placed', hplaced, horder', hmem⟩ := ih hpassed' hnodup' (horder.place hfree) hlater'
      refine ⟨placed', hplaced, horder', fun index report' => ?_⟩
      rw [hmem, mem_place hfree, List.mem_cons]
      simp only [Prod.mk.injEq, Except.ok.injEq]
      rw [or_assoc, or_left_comm]
    | error error =>
      have hsame : collect placed (other, .error error) = .ok placed :=
        if_pos (hpassed other error List.mem_cons_self)
      obtain ⟨placed', hplaced, horder', hmem⟩ := ih hpassed' hnodup' horder hlater
      refine ⟨placed', ?_, horder', fun index report => ?_⟩
      · rw [List.foldlM_cons, hsame]
        exact hplaced
      · rw [hmem, List.mem_cons]
        simp

/-! ## The files that can be read -/

section
variable (reader : LogReader) (tree : Tree)

/-- Whether a file fails, and its failure is not passed over. -/
def BreaksThrough (path : Path) (error : LogError) : Prop :=
  reader.ofFile tree path = .error error ∧ error.isPassedOver = false

/-- Whether every file is read or passed over. -/
def PassesOver (paths : List Path) : Prop :=
  ∀ path ∈ paths, ∀ error, ¬ reader.BreaksThrough tree path error

instance (paths : List Path) : Decidable (reader.PassesOver tree paths) :=
  decidable_of_iff (∀ path ∈ paths, (reader.ofFile tree path).isOk = true ∨
      (match reader.ofFile tree path with
        | .error error => error.isPassedOver
        | .ok _ => true) = true) <| by
    refine forall₂_congr fun path _ => ?_
    unfold BreaksThrough
    cases reader.ofFile tree path <;> simp [Except.isOk, Except.toBool]

/-- The failures that are not passed over: the path cannot be one of a file, or a search for the
pattern of errors breaks off. -/
theorem breaksThrough_iff (path : Path) (error : LogError) :
    reader.BreaksThrough tree path error ↔
      (path.isUsable = false ∧
        error = .ofFailure path (.ofUnusable .nullInFile path)) ∨
      ∃ bytes failure, tree.read path = .ok bytes ∧
        reader.tryBytes path.toStr bytes = .error failure ∧ error = .searchFailed failure := by
  unfold BreaksThrough
  cases hread : tree.read path with
  | ok bytes =>
    have husable : path.isUsable = true := (Tree.read_eq_ok_iff.1 hread).1
    rw [reader.ofFile_of_read hread]
    cases htried : reader.tryBytes path.toStr bytes with
    | ok report => simp [husable, htried, Except.mapError]
    | error failure =>
      simp only [Except.mapError, husable, Except.error.injEq]
      constructor
      · rintro ⟨rfl, -⟩
        exact .inr ⟨bytes, failure, rfl, htried, rfl⟩
      · rintro (⟨hunusable, -⟩ | ⟨_, other, ⟨⟩, hother, rfl⟩)
        · cases hunusable
        · rw [htried] at hother
          exact ⟨congrArg _ (Except.error.inj hother), rfl⟩
  | error failure =>
    rw [reader.ofFile_of_read_error hread]
    rcases Tree.read_eq_error_cases hread with ⟨hunusable, rfl⟩ | ⟨husable, cause, rfl⟩
    · simp only [hunusable, Except.error.injEq]
      constructor
      · rintro ⟨rfl, -⟩
        exact .inl ⟨trivial, rfl⟩
      · rintro (⟨-, rfl⟩ | ⟨_, _, hread', -⟩)
        · exact ⟨rfl, LogError.isPassedOver_ofFailure_unusable path⟩
        · cases hread'
    · simp only [husable, Except.error.injEq]
      constructor
      · rintro ⟨rfl, hnot⟩
        rw [LogError.isPassedOver_ofFailure_refused] at hnot
        cases hnot
      · rintro (⟨hunusable, -⟩ | ⟨_, _, hread', -⟩)
        · cases hunusable
        · cases hread'

/-- The reports on the files that can be read, with the indices of the files. -/
def readable (paths : List Path) : List (Nat × FileReport) :=
  paths.zipIdx.filterMap fun (path, index) => (reader.ofFile tree path).toOption.map (index, ·)

/-- The reports on the files that can be read, without their indices. -/
theorem map_snd_readable (paths : List Path) :
    (reader.readable tree paths).map Prod.snd =
      paths.filterMap fun path => (reader.ofFile tree path).toOption := by
  conv_rhs => rw [← List.zipIdx_map_fst 0 paths, List.filterMap_map]
  rw [readable, List.map_filterMap]
  congr 1
  funext entry
  simp [Option.map_map, Function.comp_def]

/-- The files that can be read are in order. -/
theorem inOrder_readable (paths : List Path) : InOrder (reader.readable tree paths) := by
  have hindices : paths.zipIdx.Pairwise fun a b => a.2 < b.2 := by
    rw [← List.pairwise_map (f := Prod.snd), List.zipIdx_map_snd]
    exact List.pairwise_lt_range' 1
  refine hindices.filterMap _ ?_
  rintro ⟨path, index⟩ ⟨path', index'⟩ hlt entry hentry entry' hentry'
  obtain ⟨report, -, rfl⟩ := Option.map_eq_some_iff.1 hentry
  obtain ⟨report', -, rfl⟩ := Option.map_eq_some_iff.1 hentry'
  exact hlt

/-- A report on a file that can be read is what came of the file. -/
theorem mem_readable_iff (paths : List Path) (index : Nat) (report : FileReport) :
    (index, report) ∈ reader.readable tree paths ↔
      (index, .ok report) ∈ reader.outcomes tree paths := by
  have hreport (result : Except LogError FileReport) :
      result.toOption = some report ↔ result = .ok report := by
    cases result <;> simp [Except.toOption]
  simp [readable, outcomes, hreport, and_comm]

/-- Every file has its index. -/
theorem map_fst_outcomes (paths : List Path) :
    (reader.outcomes tree paths).map Prod.fst = List.range' 0 paths.length := by
  rw [outcomes, List.map_map, ← List.zipIdx_map_snd 0 paths]
  rfl

/-- What comes of files is what comes of each of them. -/
theorem map_snd_outcomes (paths : List Path) :
    (reader.outcomes tree paths).map Prod.snd = paths.map (reader.ofFile tree) := by
  conv_rhs => rw [← List.zipIdx_map_fst 0 paths, List.map_map]
  rw [outcomes, List.map_map]
  rfl

/-- What comes of files comes of one of them. -/
theorem mem_outcomes_iff (paths : List Path) (result : Except LogError FileReport) :
    (∃ index, (index, result) ∈ reader.outcomes tree paths) ↔
      ∃ path ∈ paths, reader.ofFile tree path = result := by
  have hresults : (∃ index, (index, result) ∈ reader.outcomes tree paths) ↔
      result ∈ (reader.outcomes tree paths).map Prod.snd := by
    simp
  rw [hresults, map_snd_outcomes, List.mem_map]

/-- What may be answered to a request for the reports on files. -/
inductive Answers (paths : List Path) : Except LogError (List FileReport) → Prop
  /-- If no failure breaks through: the reports on the files that can be read, in the order of the
  files. -/
  | reports (h : reader.PassesOver tree paths) :
    Answers paths (.ok (paths.filterMap fun path => (reader.ofFile tree path).toOption))
  /-- A failure that breaks through. -/
  | failure {path : Path} {error : LogError} (hpath : path ∈ paths)
    (h : reader.BreaksThrough tree path error) : Answers paths (.error error)

variable {reader tree} in
/-- If no failure breaks through there is one answer only. -/
theorem Answers.eq_reports {paths : List Path} {answer : Except LogError (List FileReport)}
    (h : reader.Answers tree paths answer) (hpaths : reader.PassesOver tree paths) :
    answer = .ok (paths.filterMap fun path => (reader.ofFile tree path).toOption) := by
  cases h with
  | reports => rfl
  | failure hpath hbreaks => exact absurd hbreaks (hpaths _ hpath _)

variable {reader tree} in
/-- If some failure breaks through, so does every answer. -/
theorem Answers.exists_breaksThrough {paths : List Path}
    {answer : Except LogError (List FileReport)} (h : reader.Answers tree paths answer)
    (hpaths : ∃ path ∈ paths, ∃ error, reader.BreaksThrough tree path error) :
    ∃ path ∈ paths, ∃ error, reader.BreaksThrough tree path error ∧ answer = .error error := by
  cases h with
  | reports hnone =>
    obtain ⟨path, hpath, error, hbreaks⟩ := hpaths
    exact absurd hbreaks (hnone path hpath error)
  | failure hpath hbreaks => exact ⟨_, hpath, _, hbreaks, rfl⟩

variable {order : List Outcome} {paths : List Path}

/-- Whatever has been collected, a failure at which collecting stops is one that breaks through. -/
theorem answers_of_error (horder : order ⊆ reader.outcomes tree paths) {error : LogError}
    (h : gather order = .error error) : reader.Answers tree paths (.error error) := by
  rw [gather] at h
  cases hcollected : order.foldlM collect [] with
  | ok placed => simp [hcollected, Except.map] at h
  | error other =>
    obtain rfl : other = error := by simpa [hcollected, Except.map] using h
    obtain ⟨hnot, index, hmem⟩ := exists_of_foldlM_collect hcollected
    obtain ⟨path, hpath, hfile⟩ := (reader.mem_outcomes_iff tree paths _).1 ⟨index, horder hmem⟩
    exact .failure hpath ⟨hfile, hnot⟩

/-- **The order in which outcomes come does not matter**, except for which of several failures
breaks through. -/
theorem gather_answers (hperm : order.Perm (reader.outcomes tree paths)) :
    reader.Answers tree paths (gather order) := by
  cases hgathered : gather order with
  | error error => exact reader.answers_of_error tree hperm.subset hgathered
  | ok reports =>
    rw [gather] at hgathered
    cases hcollected : order.foldlM collect [] with
    | error error => simp [hcollected, Except.map] at hgathered
    | ok placed =>
      have hpassed : ∀ index error, (index, .error error) ∈ order → error.isPassedOver = true :=
        fun _ _ hmem => isPassedOver_of_foldlM_collect hcollected hmem
      have hnodup : (order.map Prod.fst).Nodup := by
        rw [(hperm.map Prod.fst).nodup_iff, map_fst_outcomes]
        exact List.nodup_range'
      obtain ⟨placed', hplaced, horder, hmem⟩ :=
        @foldlM_collect_of_passedOver order hpassed hnodup [] .nil (by simp)
      obtain rfl : placed = placed' := Except.ok.inj (hcollected.symm.trans hplaced)
      have hsame : placed = reader.readable tree paths := by
        refine horder.eq_of_mem_iff (reader.inOrder_readable tree paths) fun ⟨index, report⟩ => ?_
        rw [hmem, mem_readable_iff, hperm.mem_iff]
        simp
      obtain rfl : reports = placed.map Prod.snd := by
        simpa [hcollected, Except.map] using hgathered.symm
      rw [hsame, map_snd_readable]
      refine .reports fun path hpath error ⟨hfile, hnot⟩ => ?_
      obtain ⟨index, hmem⟩ := (reader.mem_outcomes_iff tree paths _).2 ⟨path, hpath, hfile⟩
      rw [hpassed index error (hperm.mem_iff.2 hmem)] at hnot
      cases hnot

/-- What comes of files one by one is an answer. -/
theorem answers_ofFiles (paths : List Path) :
    reader.Answers tree paths (reader.ofFiles tree paths) :=
  reader.gather_answers tree (.refl _)

end

/-! ## Workers -/

/-- A file that is to be dealt with, by its path and its index. -/
abbrev Task := Path × Nat

/-- What comes of a file. -/
def outcome (reader : LogReader) (tree : Tree) : Task → Outcome
  | (path, index) => (index, reader.ofFile tree path)

/-- Files on their way from being submitted to having been collected. -/
structure Pool where
  /-- The files that no worker has taken, in the order in which they were submitted. -/
  waiting : List Task
  /-- The files that workers deal with. -/
  running : List Task := []
  /-- What has come of files and has not been collected. -/
  finished : List Outcome := []
  /-- What has been collected, in the order in which it was. -/
  collected : List Outcome := []

namespace Pool

/-- How many workers there are: as many as asked for, but at least one. -/
def workers (concurrency : Int) : Nat := (max 1 concurrency).toNat

/-- All files have been submitted, and none has been taken. -/
def submit (paths : List Path) : Pool := { waiting := paths.zipIdx }

/-- What can happen next. -/
inductive Step (reader : LogReader) (tree : Tree) (workers : Nat) : Pool → Pool → Prop
  /-- A worker that is free takes the first file that waits. -/
  | start {task : Task} {waiting running : List Task} {finished collected : List Outcome}
      (hfree : running.length < workers) :
      Step reader tree workers ⟨task :: waiting, running, finished, collected⟩
        ⟨waiting, task :: running, finished, collected⟩
  /-- A worker is done with its file. -/
  | finish {task : Task} {waiting before after : List Task} {finished collected : List Outcome} :
      Step reader tree workers ⟨waiting, before ++ task :: after, finished, collected⟩
        ⟨waiting, before ++ after, reader.outcome tree task :: finished, collected⟩
  /-- Some outcome is collected. -/
  | collect {outcome : Outcome} {waiting running : List Task}
      {before after collected : List Outcome} :
      Step reader tree workers ⟨waiting, running, before ++ outcome :: after, collected⟩
        ⟨waiting, running, before ++ after, collected ++ [outcome]⟩

/-- Whether every outcome has been collected. -/
def isDone (pool : Pool) : Bool :=
  pool.waiting.isEmpty && pool.running.isEmpty && pool.finished.isEmpty

/-- The answer that what has been collected leads to: an error as soon as there is one, and the
reports when everything has been collected. -/
def answer? (pool : Pool) : Option (Except LogError (List FileReport)) :=
  match gather pool.collected with
  | .error error => some (.error error)
  | .ok reports => if pool.isDone then some (.ok reports) else none

/-- How much is left to be done. -/
def work (pool : Pool) : Nat :=
  3 * pool.waiting.length + 2 * pool.running.length + pool.finished.length

/-- What has come or will come of all files. -/
def outcomes (reader : LogReader) (tree : Tree) (pool : Pool) : List Outcome :=
  (pool.waiting ++ pool.running).map (reader.outcome tree) ++ (pool.finished ++ pool.collected)

variable {reader : LogReader} {tree : Tree} {workers : Nat} {pool next : Pool} {paths : List Path}

/-- A step keeps what has come or will come of the files. -/
theorem Step.perm (h : Step reader tree workers pool next) :
    (next.outcomes reader tree).Perm (pool.outcomes reader tree) := by
  cases h with
  | start => exact .append_right _ (.map _ List.perm_middle)
  | @finish task waiting before after finished collected =>
    have hrunning : (waiting ++ (before ++ task :: after)).Perm
        (task :: (waiting ++ (before ++ after))) := by
      rw [← List.append_assoc, ← List.append_assoc]
      exact List.perm_middle
    exact List.perm_middle.trans (.append_right _ (hrunning.map (reader.outcome tree)).symm)
  | @collect outcome waiting running before after collected =>
    have hfinished : (before ++ outcome :: after ++ collected).Perm
        (before ++ after ++ (collected ++ [outcome])) := by
      rw [List.append_assoc, ← List.append_assoc (before ++ after), List.cons_append]
      refine List.perm_middle.trans ?_
      rw [← List.append_assoc]
      exact (List.perm_append_singleton outcome _).symm
    exact .append_left _ hfinished.symm

/-- A step leaves less to be done. -/
theorem Step.work_lt (h : Step reader tree workers pool next) : next.work < pool.work := by
  cases h <;> simp [work] <;> omega

section
variable {waiting running : List Task} {finished collected : List Outcome}

/-- A worker can be done with the file that was taken last. -/
theorem Step.finish_first {task : Task} :
    Step reader tree workers ⟨waiting, task :: running, finished, collected⟩
      ⟨waiting, running, reader.outcome tree task :: finished, collected⟩ :=
  @Step.finish reader tree workers task waiting [] running finished collected

/-- The outcome that came last can be collected. -/
theorem Step.collect_first {outcome : Outcome} :
    Step reader tree workers ⟨waiting, running, outcome :: finished, collected⟩
      ⟨waiting, running, finished, collected ++ [outcome]⟩ :=
  @Step.collect reader tree workers outcome waiting running [] finished collected

end

/-- While something is left to be done, something can happen. -/
theorem exists_step (hworkers : 0 < workers) (hdone : pool.isDone = false) :
    ∃ next, Step reader tree workers pool next := by
  obtain ⟨waiting, running, finished, collected⟩ := pool
  match waiting, running, finished with
  | task :: waiting, [], finished => exact ⟨_, .start hworkers⟩
  | waiting, task :: running, finished => exact ⟨_, .finish_first⟩
  | [], [], outcome :: finished => exact ⟨_, .collect_first⟩
  | [], [], [] => cases hdone

/-- Whatever the workers have done, the outcomes are those of the files. -/
theorem perm_of_reaches (h : Relation.ReflTransGen (Step reader tree workers) (submit paths) pool) :
    (pool.outcomes reader tree).Perm (reader.outcomes tree paths) := by
  induction h with
  | refl =>
    have hsubmit : (submit paths).outcomes reader tree = reader.outcomes tree paths := by
      simp [outcomes, submit, LogReader.outcomes, outcome]
    rw [hsubmit]
  | tail _ hstep ih => exact hstep.perm.trans ih

/-- What the workers have done leads to no other answers than dealing with the files one by one. -/
theorem answers_of_perm (h : (pool.outcomes reader tree).Perm (reader.outcomes tree paths)) :
    (∃ answer, pool.answer? = some answer ∧ reader.Answers tree paths answer) ∨
      pool.answer? = none ∧ pool.isDone = false := by
  have hcollected : pool.collected ⊆ pool.outcomes reader tree := fun _ hmem =>
    List.mem_append_right _ (List.mem_append_right _ hmem)
  rw [answer?]
  cases hgathered : gather pool.collected with
  | error error =>
    exact .inl ⟨_, rfl, reader.answers_of_error tree (fun _ hmem => h.subset (hcollected hmem))
      hgathered⟩
  | ok reports =>
    cases hdone : pool.isDone with
    | false => exact .inr ⟨rfl, rfl⟩
    | true =>
      have hall : pool.outcomes reader tree = pool.collected := by
        simp [isDone] at hdone
        simp [outcomes, hdone]
      have hanswers := reader.gather_answers tree (hall ▸ h)
      rw [hgathered] at hanswers
      exact .inl ⟨_, rfl, hanswers⟩

end Pool

/-- **It does not matter how the workers share the files.** Whatever the files, the paths and the
number of workers are, and in whatever order the workers are done with the files and their outcomes
are collected, the answer is one that dealing with the files one by one can give: the reports on the
files that can be read, in the order of the paths, one for each time that the path occurs, unless a
failure breaks through, and then such a failure. Failures break through if the path cannot be that
of a file, because its bytes are not defined or have a null character, or if a search for the
pattern of errors breaks off. As long as there is no answer something can happen, and there is
always less left to be done, so the answer comes. -/
theorem answer_of_reaches (reader : LogReader) (tree : Tree) (paths : List Path)
    (concurrency : Int) {pool : Pool}
    (hreach : Relation.ReflTransGen (Pool.Step reader tree (Pool.workers concurrency))
      (.submit paths) pool) :
    (reader.PassesOver tree paths →
      let reports := paths.filterMap fun path => (reader.ofFile tree path).toOption
      reader.ofFiles tree paths = .ok reports ∧
        ∀ answer, pool.answer? = some answer → answer = .ok reports) ∧
    ((∃ path ∈ paths, ∃ error, reader.BreaksThrough tree path error) →
      ∀ answer, answer = reader.ofFiles tree paths ∨ pool.answer? = some answer →
        ∃ path ∈ paths, ∃ error, reader.BreaksThrough tree path error ∧ answer = .error error) ∧
    (∀ path error, reader.BreaksThrough tree path error ↔
      (path.isUsable = false ∧ error = .ofFailure path (.ofUnusable .nullInFile path)) ∨
        ∃ bytes failure, tree.read path = .ok bytes ∧
          reader.tryBytes path.toStr bytes = .error failure ∧ error = .searchFailed failure) ∧
    (pool.answer? = none →
      ∃ next, Pool.Step reader tree (Pool.workers concurrency) pool next) ∧
    ∀ next, Pool.Step reader tree (Pool.workers concurrency) pool next → next.work < pool.work := by
  have hfiles := reader.answers_ofFiles tree paths
  have hpool := Pool.answers_of_perm (Pool.perm_of_reaches hreach)
  have hanswer : ∀ answer, pool.answer? = some answer → reader.Answers tree paths answer := by
    intro answer hanswer
    rcases hpool with ⟨other, hother, hanswers⟩ | ⟨hnone, -⟩
    · obtain rfl : other = answer := Option.some.inj (hother.symm.trans hanswer)
      exact hanswers
    · rw [hnone] at hanswer
      cases hanswer
  refine ⟨fun hpaths => ?_, fun hbroken answer hof => ?_, reader.breaksThrough_iff tree,
    fun hnone => ?_, fun next hstep => hstep.work_lt⟩
  · exact ⟨hfiles.eq_reports hpaths, fun answer h => (hanswer answer h).eq_reports hpaths⟩
  · rcases hof with rfl | h
    · exact hfiles.exists_breaksThrough hbroken
    · exact (hanswer answer h).exists_breaksThrough hbroken
  · have hworkers : 0 < Pool.workers concurrency := by
      unfold Pool.workers
      omega
    rcases hpool with ⟨answer, hsome, -⟩ | ⟨-, hdone⟩
    · rw [hnone] at hsome
      cases hsome
    · exact Pool.exists_step hworkers hdone

/-- Two workers, a file that occurs twice and one that is missing: the last outcome is collected
first, and the answer has the reports in the order of the paths. -/
theorem answer_of_reaches_out_of_order :
    let tree : Tree := { entries := [
      ([Utf8.encode "a.log".toList], .file (Utf8.encode "x:1: a".toList)),
      ([Utf8.encode "b.log".toList], .file (Utf8.encode "x:2: b".toList))] }
    let a : Path := ⟨[], ["a.log".toList]⟩
    let b : Path := ⟨[], ["b.log".toList]⟩
    let missing : Path := ⟨[], ["missing.log".toList]⟩
    let done : Pool := { waiting := [], collected :=
      [(3, ({} : LogReader).ofFile tree b), (0, ({} : LogReader).ofFile tree a),
        (2, ({} : LogReader).ofFile tree a), (1, ({} : LogReader).ofFile tree missing)] }
    Relation.ReflTransGen (Pool.Step {} tree (Pool.workers 2)) (.submit [a, missing, a, b]) done ∧
      done.answer? = some (.ok [⟨Str.of "a.log", [⟨.error, "a".toList⟩]⟩,
        ⟨Str.of "a.log", [⟨.error, "a".toList⟩]⟩, ⟨Str.of "b.log", [⟨.error, "b".toList⟩]⟩]) := by
  intro tree a b missing done
  have hreach : Relation.ReflTransGen (Pool.Step {} tree (Pool.workers 2))
      (.submit [a, missing, a, b]) done :=
    .head (.start (by decide)) <| .head (.start (by decide)) <|
    .head .finish_first <| .head (.start (by decide)) <|
    .head .finish_first <| .head (.start (by decide)) <|
    .head .finish_first <| .head .collect_first <|
    .head .finish_first <| .head .collect_first <|
    .head .collect_first <| .head .collect_first .refl
  obtain ⟨hreports, -, -, hprogress, hless⟩ :=
    answer_of_reaches {} tree [a, missing, a, b] 2 hreach
  obtain ⟨-, hanswer⟩ := hreports (by decide +kernel)
  refine ⟨hreach, ?_⟩
  cases hdone : done.answer? with
  | none =>
    obtain ⟨next, hstep⟩ := hprogress hdone
    exact absurd (hless next hstep) (Nat.not_lt_zero _)
  | some answer =>
    rw [hanswer answer hdone]
    decide +kernel

/-- Failures that are not passed over, though another file can be read: a path with a null
character, one with half of a surrogate pair, and a search for the pattern of errors that breaks
off. -/
theorem ofFiles_null_character :
    let tree : Tree := { entries :=
      [([Utf8.encode "a.log".toList], .file (Utf8.encode "x:1: m".toList))] }
    let readable : Path := ⟨[], ["a.log".toList]⟩
    let null : Path := ⟨[], ["b\x00".toList]⟩
    let broken : Path := ⟨[], [.half 0 :: Str.of ".log"]⟩
    ({} : LogReader).ofFiles tree [readable, null] = .error .nullInPath ∧
      ({} : LogReader).ofFiles tree [broken, readable] = .error (.unencodablePath broken) ∧
      ([readable, null, broken].filterMap fun path =>
        (({} : LogReader).ofFile tree path).toOption) =
          [⟨Str.of "a.log", [⟨.error, "m".toList⟩]⟩] := by
  decide +kernel

end TexLog.LogReader
