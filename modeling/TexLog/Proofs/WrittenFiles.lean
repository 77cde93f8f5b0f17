import TexLog.Export
import TexLog.Proofs.Decoding
import TexLog.Proofs.Directories

/-!
# Files that have been written

What is written to a file stands there (`Tree.content?_write`): a path that leads to a file leads
there also after the file was written, since only the file has changed and a way goes through
directories. Any contents can be written where no directory stands and nothing is denied
(`Tree.Writable`). A report that was written to a file stands there, in UTF-8, as it is written in
the format (`Export.text?_writeReport`).
-/

namespace TexLog

namespace Tree

/-- Putting something where no directory stands keeps the directories. -/
theorem get?_insert_eq_directory {tree : Tree} {entry : Entry} {target : Place}
    (htarget : tree.get? target ≠ some .directory) (place : Place)
    (h : tree.get? place = some .directory) :
    (tree.insert target entry).get? place = some .directory := by
  have hne : place ≠ target := by
    rintro rfl
    exact htarget h
  rw [get?_insert_of_ne hne, h]

/-- Nothing is written in the place of a directory. -/
theorem get?_ne_of_writeRefusal? {tree : Tree} {place : Place}
    (h : tree.writeRefusal? place = none) : tree.get? place ≠ some .directory := by
  intro hentry
  simp [writeRefusal?, hentry] at h

/-- A write that succeeds puts the contents at the place to which the path leads, where it is
allowed. -/
theorem write_eq_ok_iff {tree written : Tree} {path : Path} {content : Bytes} :
    tree.write path content = .ok written ↔ path.isUsable = true ∧ ∃ place,
      tree.resolve path = .ok place ∧ tree.writeRefusal? place = none ∧
        tree.insert place (.file content) = written := by
  unfold write
  split
  · next husable =>
    cases tree.resolve path with
    | error cause => simp
    | ok place => cases hrefusal : tree.writeRefusal? place <;> simp [husable, hrefusal]
  · next hunusable => simp [hunusable]

/-- Whether a path leads to a place where a file can be written: the directories on the way are
there, there is none at its end, and nothing is denied. -/
def Writable (tree : Tree) (path : Path) : Prop :=
  path.isUsable = true ∧ ∃ place, tree.resolve path = .ok place ∧ tree.writeRefusal? place = none

/-- Where a file can be written, any contents can be written. -/
theorem Writable.exists_write {tree : Tree} {path : Path} (h : tree.Writable path)
    (content : Bytes) : ∃ written, tree.write path content = .ok written := by
  obtain ⟨husable, place, hresolve, hallowed⟩ := h
  exact ⟨_, write_eq_ok_iff.2 ⟨husable, place, hresolve, hallowed, rfl⟩⟩

/-- A place that is no directory is not fixed. -/
theorem isFixed_of_get?_ne {tree : Tree} {place : Place} (h : tree.get? place ≠ some .directory) :
    place.isFixed = false := by
  cases hfixed : place.isFixed with
  | false => rfl
  | true => exact absurd (by simp [get?, hfixed]) h

/-- What can be read exists. -/
theorem pathExists_of_read {tree : Tree} {path : Path} {content : Bytes}
    (h : tree.read path = .ok content) : tree.pathExists path = .ok true := by
  obtain ⟨husable, place, hresolve, hentry, -⟩ := read_eq_ok_iff.1 h
  simp [pathExists, husable, hresolve, hentry]

/-- The contents of the file to which a path leads, if there is one, whoever may read it. -/
def content? (tree : Tree) (path : Path) : Option Bytes :=
  match tree.resolve path with
  | .ok place =>
    match tree.get? place with
    | some (.file content) => some content
    | _ => none
  | .error _ => none

/-- **What is written stands there.** -/
theorem content?_write {tree written : Tree} {path : Path} {content : Bytes}
    (h : tree.write path content = .ok written) : written.content? path = some content := by
  obtain ⟨-, place, hresolve, hallowed, rfl⟩ := write_eq_ok_iff.1 h
  have hplace := get?_ne_of_writeRefusal? hallowed
  have hdenials : (tree.insert place (.file content)).denials = tree.denials := rfl
  have hthere : (tree.insert place (.file content)).resolve path = .ok place :=
    resolve_of_directories hdenials (get?_insert_eq_directory hplace) hresolve
  simp [content?, hthere, get?_insert_self (isFixed_of_get?_ne hplace)]

/-- What is written can be read, unless that is not allowed. -/
theorem read_of_write {tree written : Tree} {path : Path} {content : Bytes}
    (h : tree.write path content = .ok written)
    (hallowed : written.read path ≠ .error (.refused .permissionDenied path)) :
    written.read path = .ok content := by
  obtain ⟨husable, -⟩ := write_eq_ok_iff.1 h
  have hcontent := content?_write h
  unfold content? at hcontent
  unfold read at hallowed ⊢
  rw [if_pos husable] at hallowed ⊢
  split at hcontent
  · next place hresolve =>
    split at hcontent
    · next hentry =>
      rw [hresolve] at hallowed ⊢
      simp only [hentry] at hallowed ⊢
      cases hdenied : written.denies .read place <;> simp_all
    · cases hcontent
  · cases hcontent

/-- The text of the file to which a path leads, if there is one and it is well-formed UTF-8. -/
def text? (tree : Tree) (path : Path) : Option Text := do
  (Utf8.decode? (← tree.content? path)).toOption

/-- A text that is written to a file stands there. -/
theorem text?_write {tree written : Tree} {path : Path} {text : Text}
    (h : tree.write path (Utf8.encode text) = .ok written) : written.text? path = some text := by
  simp [text?, content?_write h, Except.toOption, Utf8.decode?_encode]

end Tree

namespace Export

/-- Writing a report changes the files if the report file can be written, and nothing else. -/
theorem run_writeReport (report : Report) (format : Format) (output : Path) (world : World) :
    (writeReport report (.ok format) output).run world =
      match world.files.write output (Utf8.encode (report.write format)) with
      | .ok files => (.ok (), { world with files })
      | .error error => (.error (.files error), world) := by
  let keep (files : Tree) : Action Unit := modify fun world => { world with files }
  have hrun : (writeReport report (.ok format) output).run world = ExceptT.bindCont keep
      ((world.files.write output (Utf8.encode (report.write format))).mapError .files) world := rfl
  rw [hrun]
  cases world.files.write output (Utf8.encode (report.write format)) <;> rfl

/-- What is left when a report was written are the files with the report file written. -/
theorem write_of_writeReport {report : Report} {format : Format} {output : Path}
    {before after : World}
    (h : (writeReport report (.ok format) output).run before = (.ok (), after)) :
    before.files.write output (Utf8.encode (report.write format)) = .ok after.files := by
  rw [run_writeReport] at h
  cases hwrite : before.files.write output (Utf8.encode (report.write format)) with
  | ok files =>
    rw [hwrite] at h
    cases h
    rfl
  | error error =>
    rw [hwrite] at h
    cases h

/-- A report that was written to a file stands there as it is written in the format. -/
theorem text?_writeReport {report : Report} {format : Format} {output : Path}
    {before after : World}
    (h : (writeReport report (.ok format) output).run before = (.ok (), after)) :
    after.files.text? output = some (report.write format) :=
  Tree.text?_write (write_of_writeReport h)

/-- A report that was written to a file can be read there, unless that is not allowed. -/
theorem read_writeReport {report : Report} {format : Format} {output : Path} {before after : World}
    (h : (writeReport report (.ok format) output).run before = (.ok (), after))
    (hallowed : after.files.read output ≠ .error (.refused .permissionDenied output)) :
    after.files.read output = .ok (Utf8.encode (report.write format)) :=
  Tree.read_of_write (write_of_writeReport h) hallowed

end Export

end TexLog
