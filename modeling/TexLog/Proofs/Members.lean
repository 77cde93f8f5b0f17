import TexLog.Json.Basic

/-!
# Setting members of objects

What setting members does to the members of an object: what is looked up afterwards, which names
there are, and that setting members and then more is setting them all at once
(`Json.setMembers_setMembers`).
-/

namespace TexLog

namespace Json

variable {members updates : List (Str × Json)} {name : Str}

/-- The members that are no nulls. -/
def nonNull (members : List (Str × Json)) : List (Str × Json) :=
  members.filter fun member => !member.2.isNull

@[simp] theorem setMembers_nil (members : List (Str × Json)) : setMembers members [] = members :=
  rfl

@[simp] theorem setMembers_cons (members updates : List (Str × Json)) (name : Str)
    (value : Json) :
    setMembers members ((name, value) :: updates) =
      setMembers (setMember name value members) updates := rfl

/-- The first member is looked at first. -/
theorem lookup_cons (first other : Str) (old : Json) (members : List (Str × Json)) :
    List.lookup other ((first, old) :: members) =
      if other = first then some old else members.lookup other := by
  by_cases h : other = first
  · simp [h]
  · simp [List.lookup_cons, h, beq_false_of_ne h]

/-- A member that was set has its value, and the others have theirs. -/
theorem lookup_setMember (name other : Str) (value : Json) (members : List (Str × Json)) :
    (setMember name value members).lookup other =
      if other = name then some value else members.lookup other := by
  induction members with
  | nil => exact lookup_cons ..
  | cons member members ih =>
    obtain ⟨first, old⟩ := member
    by_cases h : first = name
    · subst h
      simp only [setMember, if_true, lookup_cons]
      split <;> rfl
    · simp only [setMember, h, if_false, lookup_cons, ih]
      by_cases hother : other = first
      · simp [hother, h]
      · simp [hother]

/-- Only the names that have a property are set, if only these are looked at. -/
theorem filter_setMember (p : Str → Bool) (name : Str) (value : Json)
    (members : List (Str × Json)) :
    (setMember name value members).filter (p ·.1) =
      if p name then setMember name value (members.filter (p ·.1))
      else members.filter (p ·.1) := by
  induction members with
  | nil => simp [setMember, List.filter_cons]
  | cons member members ih =>
    obtain ⟨first, old⟩ := member
    by_cases hname : first = name
    · subst hname
      by_cases hp : p first <;> simp [setMember, hp]
    · by_cases hfirst : p first <;> by_cases hp : p name <;>
        simp [setMember, hname, hfirst, hp, ih]

/-- A new name comes last. -/
theorem names_setMember (name : Str) (value : Json) (members : List (Str × Json)) :
    (setMember name value members).map Prod.fst =
      if name ∈ members.map Prod.fst then members.map Prod.fst
      else members.map Prod.fst ++ [name] := by
  induction members with
  | nil => simp [setMember]
  | cons member members ih =>
    by_cases h : member.1 = name
    · simp [setMember, h]
    · simp only [setMember, h, if_false, List.map_cons, ih, List.mem_cons, Ne.symm h, false_or]
      split <;> rfl

/-- The names after a member was set are the names before and its own. -/
theorem mem_names_setMember {other : Str} {value : Json} :
    name ∈ (setMember other value members).map Prod.fst ↔
      name = other ∨ name ∈ members.map Prod.fst := by
  rw [names_setMember]
  split
  · next h => exact ⟨.inr, fun hname => hname.elim (· ▸ h) id⟩
  · rw [List.mem_append, List.mem_singleton, or_comm]

/-- What is among the members after one was set is this one, or was there before. -/
theorem mem_of_mem_setMember {name : Str} {value : Json} {member : Str × Json}
    (h : member ∈ setMember name value members) : member = (name, value) ∨ member ∈ members := by
  induction members with
  | nil => exact .inl (List.mem_singleton.1 h)
  | cons first members ih =>
    rw [setMember] at h
    split at h
    · next heq =>
      subst heq
      exact (List.mem_cons.1 h).imp_right (List.mem_cons_of_mem _)
    · rcases List.mem_cons.1 h with rfl | hrest
      · exact .inr List.mem_cons_self
      · exact (ih hrest).imp_right (List.mem_cons_of_mem _)

/-- What is among the members after several were set is one of these, or was there before. -/
theorem mem_of_mem_setMembers {member : Str × Json} (h : member ∈ setMembers members updates) :
    member ∈ members ∨ member ∈ updates := by
  induction updates generalizing members with
  | nil => exact .inl h
  | cons update updates ih =>
    rcases ih h with hset | hupdates
    · rcases mem_of_mem_setMember hset with rfl | hmember
      · exact .inr List.mem_cons_self
      · exact .inl hmember
    · exact .inr (List.mem_cons_of_mem _ hupdates)

/-! ## Members set twice -/

@[simp] theorem setMember_setMember (name : Str) (old value : Json)
    (members : List (Str × Json)) :
    setMember name value (setMember name old members) = setMember name value members := by
  induction members with
  | nil => simp [setMember]
  | cons member members ih =>
    by_cases h : member.1 = name
    · simp [setMember, h]
    · simp [setMember, h, ih]

/-- A member keeps its place, so it can be set before or after another. -/
theorem setMember_comm {other : Str} (hne : other ≠ name) (value value' : Json)
    (hname : name ∈ members.map Prod.fst) :
    setMember name value (setMember other value' members) =
      setMember other value' (setMember name value members) := by
  induction members with
  | nil => cases hname
  | cons member members ih =>
    obtain ⟨first, old⟩ := member
    by_cases h : first = name
    · subst h
      simp [setMember, Ne.symm hne]
    · have hrest : name ∈ members.map Prod.fst := by
        simpa [Ne.symm h] using hname
      by_cases hother : first = other
      · subst hother
        simp [setMember, hne]
      · simp [setMember, h, hother, ih hrest]

/-- A member that is there is set first or last, if the others leave it alone. -/
theorem setMember_setMembers (value : Json) (hname : name ∈ members.map Prod.fst)
    (hupdates : name ∉ updates.map Prod.fst) :
    setMember name value (setMembers members updates) =
      setMembers (setMember name value members) updates := by
  induction updates generalizing members with
  | nil => rfl
  | cons update updates ih =>
    obtain ⟨other, value'⟩ := update
    obtain ⟨hne, hupdates⟩ : name ≠ other ∧ name ∉ updates.map Prod.fst := by
      simpa using hupdates
    rw [setMembers_cons, setMembers_cons, ih (mem_names_setMember.2 (.inr hname)) hupdates,
      setMember_comm (Ne.symm hne) _ _ hname]

/-- A member that is set among updates is set after them. -/
theorem setMembers_setMember (members : List (Str × Json)) (name : Str) (value : Json)
    (hnames : (updates.map Prod.fst).Nodup) :
    setMembers members (setMember name value updates) =
      setMember name value (setMembers members updates) := by
  induction updates generalizing members with
  | nil => rfl
  | cons update updates ih =>
    obtain ⟨other, old⟩ := update
    obtain ⟨hother, hnames⟩ := List.nodup_cons.1 hnames
    by_cases h : other = name
    · subst h
      rw [setMember, if_pos rfl, setMembers_cons, setMembers_cons,
        setMember_setMembers _ (mem_names_setMember.2 (.inl rfl)) hother, setMember_setMember]
    · rw [setMember, if_neg h, setMembers_cons, setMembers_cons, ih _ hnames]

/-- Setting a member keeps the names different. -/
theorem nodup_names_setMember (name : Str) (value : Json)
    (hnames : (members.map Prod.fst).Nodup) :
    ((setMember name value members).map Prod.fst).Nodup := by
  rw [names_setMember]
  split
  · exact hnames
  · next hfresh =>
    refine List.nodup_append.2 ⟨hnames, by simp, fun first hfirst last hlast => ?_⟩
    rintro rfl
    exact hfresh (List.mem_singleton.1 hlast ▸ hfirst)

/-- **Members set twice.** Setting members and then more is setting at once what the former become
by the latter. -/
theorem setMembers_setMembers (members : List (Str × Json)) {updates : List (Str × Json)}
    (hnames : (updates.map Prod.fst).Nodup) (more : List (Str × Json)) :
    setMembers members (setMembers updates more) =
      setMembers (setMembers members updates) more := by
  induction more generalizing updates with
  | nil => rfl
  | cons member more ih =>
    rw [setMembers_cons, ih (nodup_names_setMember _ _ hnames), setMembers_setMember _ _ _ hnames,
      ← setMembers_cons]

end Json

end TexLog
