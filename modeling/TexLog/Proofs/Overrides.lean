import Mathlib
import TexLog.Proofs.Members
import TexLog.Settings.Validation

/-!
# Replacing members of settings

Settings are what the members of an object say (`Settings.Denotes`), and reading them back from
their own members gives them again. Two objects are `Settings.Alike` if what is read of them is the
same. Setting a member keeps objects alike, so settings can stand for the object that they were read
from in whatever is replaced later, and replacing members twice is replacing them once
(`Settings.override_override`).
-/

namespace TexLog

/-! ## What members say -/

/-- Every runtime reads the standard pattern. -/
theorem ErrorRule.isRead_standard [Runtime] : standard.IsRead := by
  have hdeep : Runtime.isTooDeep standard.written = false :=
    Runtime.isTooDeep_of_few _ (by decide)
  rw [ErrorRule.IsRead, Pattern.read, hdeep]
  cbv

/-- The wrap width that a value stands for is the integer it stands for. -/
theorem WrapWidth.ofJson_eq_ok_iff {value : Json} {width : { width : Nat // 0 < width }} :
    WrapWidth.ofJson value = .ok width ↔ WrapWidth.integer value = .ok (width.val : Int) := by
  obtain ⟨width, hwidth⟩ := width
  unfold WrapWidth.ofJson
  cases WrapWidth.integer value with
  | error fault => simp [bind, Except.bind]
  | ok n =>
    rcases n with (_ | n) | n
    · simp [bind, Except.bind, throw, throwThe, MonadExceptOf.throw]
      omega
    · simp [bind, Except.bind, pure, Except.pure]
      omega
    · simp [bind, Except.bind, throw, throwThe, MonadExceptOf.throw]

namespace Settings

variable {members updates : List (Str × Json)}

/-- Items that are all strings. -/
theorem map_str?_eq_iff {items : List Json} {strs : List Str} :
    items.map str? = strs.map some ↔
      items.filterMap str? = strs ∧ items.length ≤ (items.filterMap str?).length := by
  constructor
  · intro h
    have hstrs : items.filterMap str? = strs := by
      calc items.filterMap str? = (items.map str?).filterMap id := by simp [List.filterMap_map]
        _ = strs := by rw [h, List.filterMap_map]; exact List.filterMap_some
    have hlength := congrArg List.length h
    simp only [List.length_map] at hlength
    exact ⟨hstrs, Nat.le_of_eq (hlength.trans (congrArg List.length hstrs).symm)⟩
  · rintro ⟨rfl, hlength⟩
    have hall := List.filterMap_length_eq_length.1
      (Nat.le_antisymm (List.length_filterMap_le str? items) hlength)
    clear hlength
    induction items with
    | nil => rfl
    | cons item items ih =>
      obtain ⟨hitem, hitems⟩ := List.forall_mem_cons.1 hall
      obtain ⟨str, hstr⟩ := Option.isSome_iff_exists.1 hitem
      simp [hstr, ih hitems]

/-- The beginnings of warnings that a value stands for are its items. -/
theorem prefixesOfJson_eq_ok_iff {value : Json}
    {starts : { starts : List Str // ∀ start ∈ starts, start ≠ [] }} :
    prefixesOfJson value = .ok starts ↔
      ∃ items, value = .array items ∧ items.map str? = starts.val.map some := by
  obtain ⟨starts, hstarts⟩ := starts
  cases value with
  | array items =>
    simp only [prefixesOfJson, Json.array.injEq, exists_eq_left', map_str?_eq_iff]
    split
    · next hshort => simp [Nat.not_le.2 hshort]
    · next hall =>
      split
      · simp [Nat.not_lt.1 hall]
      · next hempty =>
        simp only [reduceCtorEq, false_iff]
        rintro ⟨rfl, -⟩
        exact hempty hstarts
  | _ => simp [prefixesOfJson]

/-- What is to be said of the value of a member, or else of there being none. -/
def MemberSays (members : List (Str × Json)) (name : Str) (missing : Prop)
    (holds : Json → Prop) : Prop :=
  match members.lookup name with
  | some value => holds value
  | none => missing

/-- What a member stands for is its own, or standard if it is missing. -/
theorem memberOr_eq_ok_iff {ε α : Type} {members : List (Str × Json)} {name : Str}
    {standard result : α} {ofJson : Json → Except ε α} :
    memberOr members name standard ofJson = .ok result ↔
      MemberSays members name (standard = result) (ofJson · = .ok result) := by
  unfold memberOr MemberSays
  cases members.lookup name <;> simp

/-- A member that was set stands for what it was set to. -/
theorem memberOr_setMember {ε α : Type} (name other : Str) (value : Json)
    (members : List (Str × Json)) (standard : α) (ofJson : Json → Except ε α) :
    memberOr (Json.setMember name value members) other standard ofJson =
      if other = name then ofJson value else memberOr members other standard ofJson := by
  rw [memberOr, Json.lookup_setMember]
  by_cases h : other = name
  · rw [if_pos h, if_pos h]
  · rw [if_neg h, if_neg h, memberOr]

/-- A member that is not set reads as before. -/
theorem memberOr_setMembers {ε α : Type} {name : Str} (hname : name ∉ updates.map Prod.fst)
    (members : List (Str × Json)) (standard : α) (ofJson : Json → Except ε α) :
    memberOr (Json.setMembers members updates) name standard ofJson =
      memberOr members name standard ofJson := by
  induction updates generalizing members with
  | nil => rfl
  | cons update updates ih =>
    obtain ⟨hne, hname⟩ : name ≠ update.1 ∧ name ∉ updates.map Prod.fst := by simpa using hname
    rw [Json.setMembers_cons, ih hname, memberOr_setMember, if_neg hne]

/-- A good member can read badly only if it is set. -/
theorem mem_names_of_memberOr_error {ε α : Type} {name : Str} {standard result : α}
    {ofJson : Json → Except ε α} {error : ε}
    (hgood : memberOr members name standard ofJson = .ok result)
    (hbad : memberOr (Json.setMembers members updates) name standard ofJson = .error error) :
    name ∈ updates.map Prod.fst ∧ ∃ value, ofJson value = .error error := by
  refine ⟨Decidable.byContradiction fun hname => ?_, ?_⟩
  · rw [memberOr_setMembers hname, hgood] at hbad
    cases hbad
  · unfold memberOr at hbad
    split at hbad
    · next value _ => exact ⟨value, hbad⟩
    · cases hbad

/-! ### Names that are not known -/

/-- Whether a name is not known. -/
def isUnknown (name : Str) : Bool := !memberNames.contains name

/-- The names that are not known, member by member. -/
theorem unknownMembers_eq (members : List (Str × Json)) :
    unknownMembers members = (members.filter (isUnknown ·.1)).map Prod.fst := by
  rw [unknownMembers, List.filter_map]
  rfl

/-- No member is unknown just if all names are known. -/
theorem filter_isUnknown_eq_nil_iff :
    members.filter (isUnknown ·.1) = [] ↔ ∀ member ∈ members, member.1 ∈ memberNames := by
  simp [List.filter_eq_nil_iff, isUnknown]

/-- No name is unknown just if no member is. -/
theorem unknownMembers_eq_nil_iff :
    unknownMembers members = [] ↔ members.filter (isUnknown ·.1) = [] := by
  rw [unknownMembers_eq, List.map_eq_nil_iff]

/-- The unknown names are the names of members that are not known. -/
theorem mem_unknownMembers {name : Str} :
    name ∈ unknownMembers members ↔ name ∈ members.map Prod.fst ∧ name ∉ memberNames := by
  simp [unknownMembers]

/-- A name that is no text is not known. -/
theorem not_mem_memberNames {name : Str} (h : name.isText = false) : name ∉ memberNames := by
  have htexts : ∀ name ∈ memberNames, name.isText = true := by decide
  intro hmem
  rw [htexts name hmem] at h
  cases h

/-- Names that are no texts are among those that are not known. -/
theorem hasBrokenName_eq (members : List (Str × Json)) :
    hasBrokenName members = (members.filter (isUnknown ·.1)).any (!·.1.isText) := by
  rw [hasBrokenName, List.any_filter, Bool.eq_iff_iff]
  simp only [List.any_eq_true, Bool.and_eq_true, Bool.not_eq_true']
  exact exists_congr fun member => and_congr_right fun _ =>
    ⟨fun h => ⟨by simpa [isUnknown] using not_mem_memberNames h, h⟩, And.right⟩

/-! ### The issues with single members -/

/-- An issue with a member comes of reading it. -/
theorem mem_issuesOf {ε α : Type} {toIssues : ε → List Issue} {read : Except ε α} {issue : Issue} :
    issue ∈ issuesOf toIssues read ↔ ∃ error, read = .error error ∧ issue ∈ toIssues error := by
  cases read <;> simp [issuesOf]

/-- What is wrong with the beginnings of warnings lies there. -/
theorem location_of_prefixesOfJson {value : Json} {issues : List Issue} {issue : Issue}
    (h : prefixesOfJson value = .error issues) (hissue : issue ∈ issues) :
    issue.location.head? = some (.member warningPrefixesName) := by
  cases value with
  | array items =>
    simp only [prefixesOfJson] at h
    split at h
    · obtain rfl := Except.error.inj h
      obtain ⟨⟨item, index⟩, -, hitem⟩ := List.mem_filterMap.1 hissue
      by_cases hstr : (str? item).isSome <;> simp [hstr] at hitem
      subst hitem
      rfl
    · split at h
      · cases h
      · obtain rfl := Except.error.inj h
        obtain rfl := List.mem_singleton.1 hissue
        rfl
  | _ =>
    obtain rfl := Except.error.inj h
    obtain rfl := List.mem_singleton.1 hissue
    rfl

/-- Setting what is not null leaves nothing that is null. -/
theorem nonNull_setMembers (first second : List (Str × Json)) :
    Json.nonNull (Json.setMembers (Json.nonNull first) (Json.nonNull second)) =
      Json.setMembers (Json.nonNull first) (Json.nonNull second) := by
  refine List.filter_eq_self.2 fun member hmember => ?_
  rcases Json.mem_of_mem_setMembers hmember with h | h <;> exact (List.mem_filter.1 h).2

/-! ### All members -/

/-- What is read of the member for the wrap width. -/
def widthOf (members : List (Str × Json)) : Except WrapWidth.Fault { width : Nat // 0 < width } :=
  memberOr members wrapWidthName ⟨standard.wrapWidth, standard.wrapWidth_pos⟩ WrapWidth.ofJson

/-- What is read of the member for the beginnings of warnings. -/
def prefixesOf (members : List (Str × Json)) :
    Except (List Issue) { starts : List Str // ∀ start ∈ starts, start ≠ [] } :=
  memberOr members warningPrefixesName ⟨standard.warningPrefixes, standard.warningPrefixes_ne⟩
    prefixesOfJson

section
variable [Runtime] {settings : Settings}

/-- The rule that a written pattern gives is the one that it writes. -/
theorem ruleOfStr_eq_ok_iff {written : Str} {rule : ErrorRule} :
    ruleOfStr written = .ok rule ↔ written = rule.written ∧ rule.IsRead := by
  constructor
  · intro h
    unfold ruleOfStr at h
    split at h
    · cases h
    · next pattern hread =>
      split at h
      · obtain rfl := Except.ok.inj h
        exact ⟨rfl, hread⟩
      · cases h
  · rintro ⟨rfl, hread⟩
    rw [ErrorRule.IsRead] at hread
    unfold ruleOfStr
    simp only [hread, rule.hasMessage, dif_pos]

/-- The rule for errors that a value stands for is the one it writes. -/
theorem ruleOfJson_eq_ok_iff {value : Json} {rule : ErrorRule} :
    ruleOfJson value = .ok rule ↔ str? value = some rule.written ∧ rule.IsRead := by
  unfold ruleOfJson
  cases str? value <;> simp [ruleOfStr_eq_ok_iff]

/-- Settings are what the members of an object say. All their names are known, each member stands
for its field, and the field of a missing one is standard. -/
structure Denotes (members : List (Str × Json)) (settings : Settings) : Prop where
  known : ∀ member ∈ members, member.1 ∈ memberNames
  /-- Any value that stands for the integer will do. -/
  wrapWidth : MemberSays members wrapWidthName (standard.wrapWidth = settings.wrapWidth)
    (WrapWidth.integer · = .ok (settings.wrapWidth : Int))
  warningPrefixes : MemberSays members warningPrefixesName
    (standard.warningPrefixes = settings.warningPrefixes)
    fun value => ∃ items, value = .array items ∧
      items.map str? = settings.warningPrefixes.map some
  errorRule : MemberSays members errorPatternName (standard.errorRule = settings.errorRule)
    (str? · = some settings.errorRule.written)
  /-- The pattern is what the written pattern denotes. -/
  isRead : settings.errorRule.IsRead

/-- What is read of the member for the pattern of errors. -/
def ruleOf (members : List (Str × Json)) : Except Issue ErrorRule :=
  memberOr members errorPatternName standard.errorRule ruleOfJson

/-- The rule that is read is the one that the members give. -/
theorem ruleOf_eq_ok_iff {rule : ErrorRule} :
    ruleOf members = .ok rule ↔
      MemberSays members errorPatternName (standard.errorRule = rule)
        (str? · = some rule.written) ∧ rule.IsRead := by
  rw [ruleOf, memberOr_eq_ok_iff]
  unfold MemberSays
  cases members.lookup errorPatternName with
  | some value => exact ruleOfJson_eq_ok_iff
  | none =>
    refine ⟨fun h => ⟨h, ?_⟩, And.left⟩
    subst h
    exact ErrorRule.isRead_standard

/-- Settings are made of what is read of the members, if none of them is unknown. -/
theorem ofMembers_eq_ok_iff :
    ofMembers members = .ok settings ↔
      widthOf members = .ok ⟨settings.wrapWidth, settings.wrapWidth_pos⟩ ∧
      prefixesOf members = .ok ⟨settings.warningPrefixes, settings.warningPrefixes_ne⟩ ∧
      ruleOf members = .ok settings.errorRule ∧ members.filter (isUnknown ·.1) = [] := by
  rw [← unknownMembers_eq_nil_iff]
  constructor
  · intro h
    simp only [ofMembers] at h
    split at h
    · cases h
    · cases h
    · next width starts rule hnone hbroken hwidth hstarts hrule hunknown =>
      obtain rfl := Except.ok.inj h
      exact ⟨hwidth, hstarts, hrule, hunknown⟩
    · cases h
  · rintro ⟨hwidth, hstarts, hrule, hunknown⟩
    rw [widthOf] at hwidth
    rw [prefixesOf] at hstarts
    rw [ruleOf] at hrule
    have hbroken : hasBrokenName members = false := by
      rw [hasBrokenName_eq, unknownMembers_eq_nil_iff.1 hunknown]
      rfl
    simp only [ofMembers, hbroken, hwidth, hstarts, hrule, hunknown]
    rfl

/-- **What is read.** Reading the members of an object gives just the settings that they denote. -/
theorem ofMembers_eq_ok_iff_denotes :
    ofMembers members = .ok settings ↔ Denotes members settings := by
  rw [ofMembers_eq_ok_iff, filter_isUnknown_eq_nil_iff]
  simp only [widthOf, prefixesOf, ruleOf_eq_ok_iff, memberOr_eq_ok_iff, WrapWidth.ofJson_eq_ok_iff,
    prefixesOfJson_eq_ok_iff, Subtype.mk.injEq]
  exact ⟨fun ⟨hwidth, hstarts, ⟨hrule, hread⟩, hknown⟩ => ⟨hknown, hwidth, hstarts, hrule, hread⟩,
    fun ⟨hknown, hwidth, hstarts, hrule, hread⟩ => ⟨hwidth, hstarts, ⟨hrule, hread⟩, hknown⟩⟩

/-- A value stands for settings just if it is an object whose members do. -/
theorem ofJson_eq_ok_iff {value : Json} :
    ofJson value = .ok settings ↔
      ∃ members, value = .object members ∧ Denotes members settings := by
  cases value with
  | object members => simp [ofJson, ofMembers_eq_ok_iff_denotes]
  | _ => simp [ofJson]

/-- Settings are what their own members say. -/
theorem denotes_members (hread : settings.errorRule.IsRead) :
    Denotes settings.members settings where
  known := by simp [members, memberNames]
  wrapWidth := rfl
  warningPrefixes := ⟨_, rfl, by simp [str?, Function.comp_def]⟩
  errorRule := rfl
  isRead := hread

/-- Settings are read back from their own members. -/
theorem ofMembers_members (hread : settings.errorRule.IsRead) :
    ofMembers settings.members = .ok settings :=
  ofMembers_eq_ok_iff_denotes.2 (denotes_members hread)

/-- The pattern of settings that were read is what the written one denotes. -/
theorem isRead_of_ofMembers (h : ofMembers members = .ok settings) : settings.errorRule.IsRead :=
  (ofMembers_eq_ok_iff_denotes.1 h).isRead

/-! ## Objects of which the same is read -/

/-- What is read of two objects is the same, and so are the members whose names are not known. -/
structure Alike (a b : List (Str × Json)) : Prop where
  wrapWidth : widthOf a = widthOf b
  warningPrefixes : prefixesOf a = prefixesOf b
  errorRule : ruleOf a = ruleOf b
  unknown : a.filter (isUnknown ·.1) = b.filter (isUnknown ·.1)

namespace Alike
variable {a b : List (Str × Json)}

/-- Objects that are alike stand for the same settings, or are refused for the same reason. -/
theorem ofMembers_eq (h : Alike a b) : ofMembers a = ofMembers b := by
  have hunknown : unknownMembers a = unknownMembers b := by
    rw [unknownMembers_eq, unknownMembers_eq, h.unknown]
  have hwidth := h.wrapWidth
  have hstarts := h.warningPrefixes
  have hrule := h.errorRule
  rw [widthOf, widthOf] at hwidth
  rw [prefixesOf, prefixesOf] at hstarts
  rw [ruleOf, ruleOf] at hrule
  have hbroken : hasBrokenName a = hasBrokenName b := by
    rw [hasBrokenName_eq, hasBrokenName_eq, h.unknown]
  simp only [ofMembers, hbroken, hwidth, hstarts, hrule, hunknown]

/-- Objects that are alike stay so with one member set in both. -/
theorem setMember (h : Alike a b) (name : Str) (value : Json) :
    Alike (Json.setMember name value a) (Json.setMember name value b) := by
  have hmember {ε α : Type} {other : Text} {standard : α} {ofJson : Json → Except ε α}
      (hother : memberOr a other standard ofJson = memberOr b other standard ofJson) :
      memberOr (Json.setMember name value a) other standard ofJson =
        memberOr (Json.setMember name value b) other standard ofJson := by
    rw [memberOr_setMember, memberOr_setMember, hother]
  refine ⟨hmember h.wrapWidth, hmember h.warningPrefixes, hmember h.errorRule, ?_⟩
  rw [Json.filter_setMember, Json.filter_setMember, h.unknown]

/-- Objects that are alike stay so with the same members set in both. -/
theorem setMembers (h : Alike a b) (updates : List (Str × Json)) :
    Alike (Json.setMembers a updates) (Json.setMembers b updates) := by
  induction updates generalizing a b with
  | nil => exact h
  | cons update updates ih => exact ih (h.setMember update.1 update.2)

end Alike

/-- Settings have the same read of their members as of those that they come from. -/
theorem alike_members (h : ofMembers members = .ok settings) : Alike members settings.members := by
  obtain ⟨hwidth, hstarts, hrule, hunknown⟩ := ofMembers_eq_ok_iff.1 h
  obtain ⟨hwidth', hstarts', hrule', hunknown'⟩ :=
    ofMembers_eq_ok_iff.1 (ofMembers_members (isRead_of_ofMembers h))
  exact ⟨hwidth.trans hwidth'.symm, hstarts.trans hstarts'.symm, hrule.trans hrule'.symm,
    hunknown.trans hunknown'.symm⟩

/-- Settings can stand for the members that they come from, whatever is replaced. -/
theorem ofMembers_setMembers (h : ofMembers members = .ok settings)
    (updates : List (Str × Json)) :
    ofMembers (Json.setMembers members updates) =
      ofMembers (Json.setMembers settings.members updates) :=
  ((alike_members h).setMembers updates).ofMembers_eq

/-! ## Issues -/

/-- What is wrong with the members of an object, each thing with the reading that finds it. -/
inductive IssueOf (members : List (Str × Json)) : Issue → Prop
  | wrapWidth {fault : WrapWidth.Fault} (h : widthOf members = .error fault) :
    IssueOf members (.wrapWidth fault)
  | warningPrefixes {issues : List Issue} {issue : Issue} (h : prefixesOf members = .error issues)
    (hissue : issue ∈ issues) : IssueOf members issue
  | errorRule {issue : Issue} (h : ruleOf members = .error issue) : IssueOf members issue
  | unknown {name : Str} (h : name ∈ members.map Prod.fst) (hname : name ∉ memberNames) :
    IssueOf members (.unknownMember name)
  | brokenName {name : Str} (h : name ∈ members.map Prod.fst) (hname : name.isText = false) :
    IssueOf members .brokenName

/-- Nothing else is told to be wrong. -/
theorem issueOf_of_mem {issues : List Issue} {issue : Issue}
    (h : ofMembers members = .error (.issues issues)) (hissue : issue ∈ issues) :
    IssueOf members issue := by
  simp only [ofMembers] at h
  split at h
  · cases h
  · next hbroken =>
    obtain rfl := Refusal.issues.inj (Except.error.inj h)
    obtain rfl := List.mem_singleton.1 hissue
    obtain ⟨member, hmem, hname⟩ := List.any_eq_true.1 hbroken
    exact .brokenName (List.mem_map_of_mem hmem) (by simpa using hname)
  · cases h
  · obtain rfl := Refusal.issues.inj (Except.error.inj h)
    simp only [List.mem_append, mem_issuesOf, List.mem_map, List.mem_singleton] at hissue
    rcases hissue with
      ((⟨fault, hwidth, rfl⟩ | ⟨found, hstarts, hfound⟩) | ⟨found, hrule, rfl⟩) | ⟨name, hname, rfl⟩
    · exact .wrapWidth hwidth
    · exact .warningPrefixes hstarts hfound
    · exact .errorRule hrule
    · obtain ⟨hmem, hunknown⟩ := mem_unknownMembers.1 hname
      exact .unknown hmem hunknown

/-- What is wrong with the pattern of errors lies there. -/
theorem location_of_ruleOfJson {value : Json} {issue : Issue}
    (h : ruleOfJson value = .error issue) :
    issue.location.head? = some (.member errorPatternName) := by
  unfold ruleOfJson at h
  split at h
  · unfold ruleOfStr at h
    split at h
    · obtain rfl := Except.error.inj h
      rfl
    · split at h
      · cases h
      · obtain rfl := Except.error.inj h
        rfl
  · obtain rfl := Except.error.inj h
    rfl

/-- Whether an issue is one with the member of a name: it lies there, or it is the name itself. -/
def Issue.IsWith (issue : Issue) (name : Str) : Prop :=
  issue.location.head? = some (.member name) ∨ issue = .brokenName ∧ name.isText = false

/-- All that is wrong with members that were set in good ones lies in these. -/
theorem IssueOf.mem_names {issue : Issue} (hread : ofMembers members = .ok settings)
    (h : IssueOf (Json.setMembers members updates) issue) :
    ∃ name ∈ updates.map Prod.fst, issue.IsWith name := by
  obtain ⟨hwidth, hstarts, hrule, hunknown⟩ := ofMembers_eq_ok_iff.1 hread
  -- names that are not known, and names that are no texts, are those of members that were set
  have hset {name : Str} (hmem : name ∈ (Json.setMembers members updates).map Prod.fst)
      (hname : name ∉ memberNames) : name ∈ updates.map Prod.fst := by
    obtain ⟨member, hmember, rfl⟩ := List.mem_map.1 hmem
    rcases Json.mem_of_mem_setMembers hmember with hold | hset
    · exact absurd (filter_isUnknown_eq_nil_iff.1 hunknown member hold) hname
    · exact List.mem_map_of_mem hset
  cases h with
  | wrapWidth hbad =>
    obtain ⟨hname, -⟩ := mem_names_of_memberOr_error hwidth hbad
    exact ⟨wrapWidthName, hname, .inl rfl⟩
  | warningPrefixes hbad hissue =>
    obtain ⟨hname, value, hvalue⟩ := mem_names_of_memberOr_error hstarts hbad
    exact ⟨warningPrefixesName, hname, .inl (location_of_prefixesOfJson hvalue hissue)⟩
  | errorRule hbad =>
    obtain ⟨hname, value, hvalue⟩ := mem_names_of_memberOr_error hrule hbad
    exact ⟨errorPatternName, hname, .inl (location_of_ruleOfJson hvalue)⟩
  | unknown hmem hname => exact ⟨_, hset hmem hname, .inl rfl⟩
  | brokenName hmem hname =>
    exact ⟨_, hset hmem (not_mem_memberNames hname), .inr ⟨rfl, hname⟩⟩

/-! ## Overrides -/

/-- What is replaced is what is no null. -/
theorem override_eq (settings : Settings) {updates : List (Str × Json)}
    (hupdates : ∀ update ∈ updates, update.1 ≠ reservedName) :
    settings.override updates =
      (ofMembers (Json.setMembers settings.members (Json.nonNull updates))).mapError .refused := by
  rw [override, if_neg (by simpa using fun _ h => hupdates _ h rfl)]
  rfl

/-- An override is refused for its names, or for what it makes of the members. -/
theorem override_cases (settings : Settings) (updates : List (Str × Json)) :
    settings.override updates = .error .reservedName ∨
      (∀ update ∈ updates, update.1 ≠ reservedName) ∧ settings.override updates =
        (ofMembers (Json.setMembers settings.members (Json.nonNull updates))).mapError
          .refused := by
  by_cases hreserved : updates.any (·.1 = reservedName)
  · exact .inl (by rw [override, if_pos hreserved])
  · have hupdates : ∀ update ∈ updates, update.1 ≠ reservedName := fun update hupdate heq =>
      hreserved (List.any_eq_true.2 ⟨update, hupdate, by simpa using heq⟩)
    exact .inr ⟨hupdates, override_eq settings hupdates⟩

/-- Settings with members replaced are what the members say that are set. -/
theorem override_eq_ok_iff {next : Settings} :
    settings.override updates = .ok next ↔ (∀ update ∈ updates, update.1 ≠ reservedName) ∧
      ofMembers (Json.setMembers settings.members (Json.nonNull updates)) = .ok next := by
  constructor
  · intro h
    rcases settings.override_cases updates with hrefused | ⟨hupdates, heq⟩
    · rw [hrefused] at h
      cases h
    · rw [heq] at h
      cases hread : ofMembers (Json.setMembers settings.members (Json.nonNull updates)) with
      | ok other => exact ⟨hupdates, by simpa [hread, Except.mapError] using h⟩
      | error refusal => simp [hread, Except.mapError] at h
  · rintro ⟨hupdates, hread⟩
    rw [override_eq settings hupdates, hread]
    rfl

/-- Replacing is refused for what is wrong with the members that are set. -/
theorem override_eq_error_refused {refusal : Refusal}
    (h : settings.override updates = .error (.refused refusal)) :
    ofMembers (Json.setMembers settings.members (Json.nonNull updates)) = .error refusal := by
  rcases settings.override_cases updates with hrefused | ⟨-, heq⟩
  · rw [hrefused] at h
    cases h
  · rw [heq] at h
    cases hread : ofMembers (Json.setMembers settings.members (Json.nonNull updates)) with
    | ok next => simp [hread, Except.mapError] at h
    | error other => simpa [hread, Except.mapError] using h

/-- Replacing members of settings is replacing them in the object that the settings come from. -/
theorem override_of_ofMembers (h : ofMembers members = .ok settings)
    (hupdates : ∀ update ∈ updates, update.1 ≠ reservedName) :
    settings.override updates =
      (ofMembers (Json.setMembers members (Json.nonNull updates))).mapError .refused := by
  rw [override_eq settings hupdates, ofMembers_setMembers h]

/-- Replacing twice is replacing once. -/
theorem override_of_override {first second : List (Str × Json)} {next : Settings}
    (hnames : (first.map Prod.fst).Nodup) (hsecond : ∀ update ∈ second, update.1 ≠ reservedName)
    (hnext : settings.override first = .ok next) :
    next.override second =
      settings.override (Json.setMembers (Json.nonNull first) (Json.nonNull second)) := by
  obtain ⟨hfirst, hread⟩ := override_eq_ok_iff.1 hnext
  have hboth : ∀ update ∈ Json.setMembers (Json.nonNull first) (Json.nonNull second),
      update.1 ≠ reservedName := by
    intro update hupdate
    rcases Json.mem_of_mem_setMembers hupdate with h | h
    · exact hfirst update (List.mem_filter.1 h).1
    · exact hsecond update (List.mem_filter.1 h).1
  have hnonNull : ((Json.nonNull first).map Prod.fst).Nodup :=
    hnames.sublist (List.filter_sublist.map Prod.fst)
  rw [override_of_ofMembers hread hsecond, override_eq settings hboth, nonNull_setMembers,
    Json.setMembers_setMembers _ hnonNull]

/-- An override is refused only for what it replaces. -/
theorem exists_name_of_issue (hread : settings.errorRule.IsRead) {issues : List Issue}
    {issue : Issue} (h : settings.override updates = .error (.refused (.issues issues)))
    (hissue : issue ∈ issues) :
    ∃ name ∈ (Json.nonNull updates).map Prod.fst, issue.IsWith name :=
  (issueOf_of_mem (override_eq_error_refused h) hissue).mem_names (ofMembers_members hread)

/-- **Settings are sound and replacing their members composes.** The settings read from a value are
just what its members say, and nothing that the fields of settings have to keep to is broken. They
are read back from their own members, and stay as they are if only nulls are put in. If some members
can be replaced, then replacing more of them comes to what replacing all at once does, the later
before the earlier: the same settings, the same list of issues, or the same other refusal of the
pattern. And whatever is wrong then lies in what is replaced last. -/
theorem override_override {value : Json} (hvalue : ofJson value = .ok settings) :
    (∃ members, value = .object members ∧ Denotes members settings) ∧
    (0 < settings.wrapWidth ∧ (∀ start ∈ settings.warningPrefixes, start ≠ []) ∧
      ∃ pattern, Pattern.read settings.errorRule.written = .ok pattern ∧
        pattern.hasGroup messageGroup = true) ∧
    ofJson (.object settings.members) = .ok settings ∧
    (∀ updates, (∀ update ∈ updates, update.1 ≠ reservedName ∧ update.2.isNull = true) →
      settings.override updates = .ok settings) ∧
    ∀ first second next, (first.map Prod.fst).Nodup →
      (∀ update ∈ second, update.1 ≠ reservedName) → settings.override first = .ok next →
      next.override second =
        settings.override (Json.setMembers (Json.nonNull first) (Json.nonNull second)) ∧
      ∀ issues, next.override second = .error (.refused (.issues issues)) → ∀ issue ∈ issues,
        ∃ name ∈ (Json.nonNull second).map Prod.fst, issue.IsWith name := by
  obtain ⟨members, rfl, hdenotes⟩ := ofJson_eq_ok_iff.1 hvalue
  have hread : ofMembers settings.members = .ok settings := ofMembers_members hdenotes.isRead
  refine ⟨⟨members, rfl, hdenotes⟩, ⟨settings.wrapWidth_pos, settings.warningPrefixes_ne,
    settings.errorRule.pattern, hdenotes.isRead, settings.errorRule.hasMessage⟩, hread,
    fun updates hupdates => ?_, fun first second next hnames hsecond hnext => ?_⟩
  · have hnone : Json.nonNull updates = [] := by
      refine List.filter_eq_nil_iff.2 fun update hupdate => ?_
      simp [(hupdates update hupdate).2]
    rw [override_eq settings fun update hupdate => (hupdates update hupdate).1, hnone,
      Json.setMembers_nil, hread]
    rfl
  · have hnextRead : next.errorRule.IsRead :=
      isRead_of_ofMembers (override_eq_ok_iff.1 hnext).2
    exact ⟨override_of_override hnames hsecond hnext,
      fun issues hissues issue hissue => exists_name_of_issue hnextRead hissues hissue⟩

end

/-- A width written with blanks and an underscore, one that is a truth value with a null beside it,
and then a width that is none with names that are not known, which are told in their order. -/
theorem override_override_refused :
    letI := Runtime.standard
    let first := [(wrapWidthName, Json.bool true), (errorPatternName, Json.null)]
    let second := [(Str.of "zeta", Json.integer 2), (wrapWidthName, Json.integer 0),
      (Str.of "alpha", Json.integer 2)]
    let refused : Except OverrideError Settings := .error (.refused (.issues
      [.wrapWidth .belowOne, .unknownMember (Str.of "zeta"), .unknownMember (Str.of "alpha")]))
    ∃ settings next,
      ofJson (.object [(wrapWidthName, .string (Str.of " 1_0 "))]) = .ok settings ∧
      settings.wrapWidth = 10 ∧ settings.override first = .ok next ∧ next.wrapWidth = 1 ∧
      next.override second = refused ∧
      settings.override (Json.setMembers (Json.nonNull first) (Json.nonNull second)) =
        refused := by
  let _ := Runtime.standard
  intro first second refused
  let settings : Settings := { standard with wrapWidth := 10, wrapWidth_pos := by decide }
  let next : Settings := { standard with wrapWidth := 1, wrapWidth_pos := by decide }
  have hvalue : ofJson (.object [(wrapWidthName, .string (Str.of " 1_0 "))]) = .ok settings := by
    decide +kernel
  have hnext : settings.override first = .ok next := by decide +kernel
  have hrefused : next.override second = refused := by decide +kernel
  obtain ⟨-, -, -, -, hcompose⟩ := override_override hvalue
  obtain ⟨htwice, -⟩ := hcompose first second next (by decide) (by decide) hnext
  exact ⟨settings, next, hvalue, rfl, hnext, rfl, hrefused, htwice.symm.trans hrefused⟩

end Settings

end TexLog
