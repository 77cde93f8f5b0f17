import TexLog.Files.Tree

/-!
# Making directories

Making directories changes no file: `Tree.Grows` says that nothing but directories has been added,
and this is what `Tree.ensureDirectories` does, whether it succeeds or fails
(`Tree.grows_ensureDirectories`). A way that leads through directories still leads there, so what
could be read before can be read as it was (`Tree.Grows.read_eq`).
-/

namespace TexLog.Tree

/-! ## Ways through directories -/

section
variable {tree other : Tree} (hdenials : other.denials = tree.denials)
  (h : ∀ place, tree.get? place = some .directory → other.get? place = some .directory)
include hdenials

/-- What is allowed is the same where the same is denied. -/
theorem denies_eq (right : Right) (place : Place) :
    other.denies right place = tree.denies right place := by
  rw [denies, hdenials, denies]

include h

/-- A way leads to the same place where there are the same directories. -/
theorem follow_of_directories {place target : Place} {names : List Name}
    (hway : tree.follow place names = .ok target) : other.follow place names = .ok target := by
  induction names generalizing place with
  | nil => exact hway
  | cons name names ih =>
    rw [follow] at hway ⊢
    cases hentry : tree.get? place with
    | none => simp [hentry] at hway
    | some entry =>
      cases entry with
      | file content => simp [hentry] at hway
      | directory =>
        rw [h place hentry, denies_eq hdenials]
        simp only [hentry] at hway ⊢
        split at hway
        · cases hway
        · next hsearch =>
          split at hway
          · cases hway
          · next hlong => rw [if_neg hsearch, if_neg hlong]; exact ih hway

/-- A path leads to the same place where there are the same directories. -/
theorem resolve_of_directories {path : Path} {place : Place}
    (hresolve : tree.resolve path = .ok place) : other.resolve path = .ok place := by
  unfold resolve at hresolve ⊢
  split at hresolve
  · cases hresolve
  · next hlong => rw [if_neg hlong]; exact follow_of_directories hdenials h hresolve

end

/-- A file is read just if its path leads to it and nothing is denied. -/
theorem read_eq_ok_iff {tree : Tree} {path : Path} {content : Bytes} :
    tree.read path = .ok content ↔ path.isUsable = true ∧ ∃ place,
      tree.resolve path = .ok place ∧ tree.get? place = some (.file content) ∧
        tree.denies .read place = false := by
  unfold read
  split
  · next husable =>
    cases tree.resolve path with
    | error cause => simp
    | ok place =>
      cases hentry : tree.get? place with
      | none => simp [hentry]
      | some entry =>
        cases entry <;> cases hdenied : tree.denies .read place <;>
          simp [husable, hentry, hdenied]
  · next hunusable => simp [hunusable]

/-- A file is not read because its path cannot be that of a file, or because the system refuses. -/
theorem read_eq_error_cases {tree : Tree} {path : Path} {error : Error}
    (h : tree.read path = .error error) :
    (path.isUsable = false ∧ error = .ofUnusable .nullInFile path) ∨
      path.isUsable = true ∧ ∃ cause, error = .refused cause path := by
  unfold read at h
  split at h
  · next husable =>
    refine .inr ⟨husable, ?_⟩
    split at h
    · exact ⟨_, (Except.error.inj h).symm⟩
    · split at h
      · exact ⟨_, (Except.error.inj h).symm⟩
      · exact ⟨_, (Except.error.inj h).symm⟩
      · exact ⟨_, (Except.error.inj h).symm⟩
      · cases h
  · next hunusable => exact .inl ⟨by simpa using hunusable, (Except.error.inj h).symm⟩

/-- Whether nothing but directories has been added to a tree. -/
structure Grows (before after : Tree) : Prop where
  /-- What is denied stays so. -/
  denials : after.denials = before.denials
  /-- Each place has what it had, or it had nothing and has a directory. -/
  entry : ∀ place, after.get? place = before.get? place ∨
    before.get? place = none ∧ after.get? place = some .directory

namespace Grows

variable {before middle after : Tree}

/-- A tree grows into itself. -/
theorem refl (tree : Tree) : tree.Grows tree := ⟨rfl, fun _ => .inl rfl⟩

/-- What has grown twice has grown. -/
theorem trans (h : before.Grows middle) (h' : middle.Grows after) : before.Grows after := by
  refine ⟨h'.denials.trans h.denials, fun place => ?_⟩
  rcases h.entry place with hsame | ⟨hnone, hmade⟩
  · rw [← hsame]
    exact h'.entry place
  · rcases h'.entry place with hsame' | ⟨hnone', -⟩
    · exact .inr ⟨hnone, hsame'.trans hmade⟩
    · rw [hmade] at hnone'
      cases hnone'

/-- What stood somewhere still stands there. -/
theorem get?_eq_some (h : before.Grows after) {place : Place} {entry : Entry}
    (hentry : before.get? place = some entry) : after.get? place = some entry := by
  rcases h.entry place with hsame | ⟨hnone, -⟩
  · exact hsame.trans hentry
  · rw [hentry] at hnone
    cases hnone

/-- The files are the same. -/
theorem get?_eq_file_iff (h : before.Grows after) (place : Place) (content : Bytes) :
    after.get? place = some (.file content) ↔ before.get? place = some (.file content) := by
  refine ⟨fun hafter => ?_, h.get?_eq_some⟩
  rcases h.entry place with hsame | ⟨-, hmade⟩
  · exact hsame ▸ hafter
  · rw [hmade] at hafter
    cases hafter

/-- What could be read can be read as it was. -/
theorem read_eq (h : before.Grows after) {path : Path} {content : Bytes}
    (hread : before.read path = .ok content) : after.read path = .ok content := by
  obtain ⟨husable, place, hresolve, hentry, hallowed⟩ := read_eq_ok_iff.1 hread
  exact read_eq_ok_iff.2 ⟨husable, place,
    resolve_of_directories h.denials (fun _ => h.get?_eq_some) hresolve, h.get?_eq_some hentry,
    (denies_eq h.denials _ _).trans hallowed⟩

end Grows

variable {tree made : Tree} {path : Path}

/-- A directory is put where nothing stood. -/
theorem grows_makeDirectory (h : tree.makeDirectory path = .ok made) : tree.Grows made := by
  unfold makeDirectory at h
  split at h
  · cases hresolve : tree.resolve path with
    | error cause => simp [hresolve] at h
    | ok place =>
      simp only [hresolve] at h
      split at h
      · cases h
      · next hplace =>
        split at h
        · cases h
        · obtain rfl := Except.ok.inj h
          have hnone : tree.get? place = none := by simpa using hplace
          have hfree : place.isFixed = false := by
            cases hfixed : place.isFixed with
            | false => rfl
            | true => simp [get?, hfixed] at hnone
          refine ⟨rfl, fun other => ?_⟩
          by_cases hother : other = place
          · subst hother
            exact .inr ⟨hnone, get?_insert_self hfree _⟩
          · exact .inl (get?_insert_of_ne hother _)
  · cases h

/-- Making one directory only adds this. -/
theorem grows_ensureDirectory (h : tree.ensureDirectory path = .ok made) : tree.Grows made := by
  unfold ensureDirectory at h
  split at h
  · next hmade =>
    obtain rfl := Except.ok.inj h
    exact grows_makeDirectory hmade
  · split at h
    · obtain rfl := Except.ok.inj h
      exact .refl _
    · cases h

/-- Making a directory and some before it only adds directories. -/
theorem grows_ensureWithin (tree : Tree) (depth : Nat) (path : Path) :
    tree.Grows (tree.ensureWithin depth path).1 := by
  have hone (tree : Tree) (path : Path) : tree.Grows (tree.ensureWithin 0 path).1 := by
    unfold ensureWithin
    cases hmade : tree.ensureDirectory path with
    | ok made => exact grows_ensureDirectory hmade
    | error error => exact .refl _
  induction depth generalizing path with
  | zero => exact hone tree path
  | succ depth ih =>
    unfold ensureWithin
    split
    · next hmade => exact grows_ensureDirectory hmade
    · -- the directories on the way have been made, as far as that was possible
      have hway := ih path.parent
      split
      · next hmade =>
        rw [hmade] at hway
        exact hway.trans (hone _ path)
      · exact hway
    · exact .refl _

/-- **Making directories changes no file**, whether all of them can be made or not. -/
theorem grows_ensureDirectories (tree : Tree) (path : Path) :
    tree.Grows (tree.ensureDirectories path).1 :=
  grows_ensureWithin tree path.parts.length path

end TexLog.Tree
