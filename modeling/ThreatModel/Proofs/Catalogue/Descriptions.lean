import ThreatModel.Proofs.Catalogue.Format
import ThreatModel.Proofs.Text.Words

namespace ThreatModel.Catalogue

open Text

def IsPlain (c : Char) : Prop :=
  ('a' ≤ c ∧ c ≤ 'z') ∨ ('A' ≤ c ∧ c ≤ 'Z') ∨ ('0' ≤ c ∧ c ≤ '9') ∨
    c ∈ ['_', ' ', '-', ';', ':', '.', ',']

instance (c : Char) : Decidable (IsPlain c) := inferInstanceAs (Decidable (_ ∨ _ ∨ _ ∨ _))

/-- Plain characters with single spaces between them, and no space at an end. -/
structure IsClean (cs : List Char) : Prop where
  plain : ∀ c ∈ cs, IsPlain c
  single : ¬ [' ', ' '] <:+: cs
  first : cs.head? ≠ some ' '
  last : cs.getLast? ≠ some ' '

def HasPlainWord (text : String) : Prop := ∃ c ∈ text.toList, IsPlain c ∧ c ≠ ' '

def IsPlainWord (w : List Char) : Prop := w ≠ [] ∧ ∀ c ∈ w, IsPlain c ∧ c ≠ ' '

def plainWords (cs : List Char) : List (List Char) :=
  (splitWhen (fun c => c = ' ' || !isTextChar c) cs).filter (!·.isEmpty)

theorem isTextChar_iff {c : Char} : isTextChar c = true ↔ IsPlain c := by
  simp [isTextChar, isAsciiAlphanumeric, IsPlain, or_assoc]

theorem isGap_eq_false {c : Char} :
    (decide (c = ' ') || !isTextChar c) = false ↔ IsPlain c ∧ c ≠ ' ' := by
  rw [← isTextChar_iff]
  simp [and_comm]

theorem isPlainWord_of_mem_plainWords {cs w : List Char} (found : w ∈ plainWords cs) :
    IsPlainWord w := by
  obtain ⟨piece, nonempty⟩ := List.mem_filter.1 found
  refine ⟨by simpa using nonempty, fun c inside => ?_⟩
  exact isGap_eq_false.1 (clean_of_mem_splitWhen piece c inside)

theorem plainWords_eq_nil {text : String} :
    plainWords text.toList = [] ↔ ¬ HasPlainWord text := by
  have letters : (plainWords text.toList).flatten =
      text.toList.filter fun c => !(decide (c = ' ') || !isTextChar c) := by
    rw [plainWords, List.flatten_filter_not_isEmpty, flatten_splitWhen]
  constructor
  · intro none word
    obtain ⟨c, inside, plain⟩ := word
    rw [none, List.flatten_nil] at letters
    have kept := List.filter_eq_nil_iff.1 letters.symm c inside
    rw [isGap_eq_false.2 plain] at kept
    exact kept rfl
  · intro bare
    refine List.eq_nil_iff_forall_not_mem.2 fun w found => ?_
    obtain ⟨some', plain⟩ := isPlainWord_of_mem_plainWords found
    obtain ⟨c, w, rfl⟩ := List.exists_cons_of_ne_nil some'
    have kept : c ∈ (plainWords text.toList).flatten :=
      List.mem_flatten.2 ⟨_, found, List.mem_cons_self⟩
    rw [letters] at kept
    exact bare ⟨c, (List.mem_filter.1 kept).1, plain c List.mem_cons_self⟩

theorem isClean_of_pieces {cs : List Char} (plain : ∀ c ∈ cs, IsPlain c)
    (full : [] ∉ splitWhen (· = ' ') cs) : IsClean cs := by
  obtain ⟨first, last, single⟩ := apart_of_pieces full
  exact ⟨plain, single ' ' ' ' (by decide) (by decide),
    fun space => absurd (first ' ' space) (by decide), fun space => absurd (last ' ' space) (by decide)⟩

theorem isClean_unwords {ws : List (List Char)} (proper : ∀ w ∈ ws, IsPlainWord w) :
    IsClean (unwords ws) := by
  by_cases none : ws = []
  · subst none
    exact ⟨fun _ inside => absurd inside List.not_mem_nil, by decide, by decide, by decide⟩
  · refine isClean_of_pieces ?_ ?_
    · intro c inside
      rcases mem_intercalate inside with rfl | ⟨w, found, deeper⟩
      · decide
      · exact ((proper w found).2 c deeper).1
    · have pieces : splitWhen (· = ' ') (unwords ws) = ws := by
        refine splitWhen_intercalate (by decide) none fun w found c inside => ?_
        exact decide_eq_false ((proper w found).2 c inside).2
      rw [pieces]
      exact fun found => (proper [] found).1 rfl

def summaryText (description : Xml) : String :=
  allText ((description.child? "Description_Summary").getD description)

def extensionText (x description : Xml) : String :=
  (((description.child? "Extended_Description").orElse fun _ =>
    x.child? "Extended_Description").map extendedText).getD ""

def joinedText (summary extension : String) : List Char :=
  unwords (plainWords summary.toList) ++
    if plainWords extension.toList = [] then []
    else ' ' :: unwords (plainWords extension.toList)

theorem isEmpty_clean (text : String) :
    (clean text).isEmpty = true ↔ plainWords text.toList = [] := by
  have cleaned : (clean text).toList = unwords (plainWords text.toList) := String.toList_ofList
  rw [String.isEmpty_iff, ← String.toList_eq_nil_iff, cleaned]
  constructor
  · intro nothing
    cases shape : plainWords text.toList with
    | nil => rfl
    | cons w ws =>
      have found : w ∈ plainWords text.toList := shape ▸ List.mem_cons_self
      rw [shape, unwords_cons] at nothing
      exact absurd (List.append_eq_nil_iff.1 nothing).1 (isPlainWord_of_mem_plainWords found).1
  · intro none
    rw [none]
    rfl

theorem description_item (x : Xml) :
    (item x).description = (x.child? "Description").map fun d =>
      .ofList (joinedText (summaryText d) (extensionText x d)) := by
  show description? x = _
  unfold description?
  cases x.child? "Description" with
  | none => rfl
  | some d =>
    refine congrArg some (String.toList_injective ?_)
    rw [String.toList_ofList, joinedText]
    split
    · next nothing =>
      have none : plainWords (extensionText x d).toList = [] := (isEmpty_clean _).1 nothing
      rw [if_pos none, List.append_nil]
      exact String.toList_ofList
    · next more =>
      have some' : plainWords (extensionText x d).toList ≠ [] :=
        fun none => more ((isEmpty_clean _).2 none)
      rw [if_neg some', String.toList_append, String.toList_append, List.append_assoc]
      simp only [clean, String.toList_ofList]
      rfl

theorem joinedText_of_bare {summary extension : String} (bare : ¬ HasPlainWord summary)
    (more : HasPlainWord extension) :
    ∃ rest, joinedText summary extension = ' ' :: rest ∧ IsClean rest := by
  refine ⟨unwords (plainWords extension.toList), ?_, isClean_unwords fun w =>
    isPlainWord_of_mem_plainWords⟩
  rw [joinedText, plainWords_eq_nil.2 bare, if_neg fun none => plainWords_eq_nil.1 none more]
  rfl

/-- Only a summary without words in front of a longer description with words leaves a space at the
start. -/
theorem isClean_joinedText {summary extension : String} :
    IsClean (joinedText summary extension) ↔ HasPlainWord summary ∨ ¬ HasPlainWord extension := by
  by_cases more : HasPlainWord extension
  · have second : plainWords extension.toList ≠ [] := fun none => plainWords_eq_nil.1 none more
    by_cases word : HasPlainWord summary
    · have first : plainWords summary.toList ≠ [] := fun none => plainWords_eq_nil.1 none word
      have joined : joinedText summary extension =
          unwords (plainWords summary.toList ++ plainWords extension.toList) := by
        rw [joinedText, if_neg second, unwords_append_of_ne_nil first second]
      have clean : IsClean (joinedText summary extension) := by
        rw [joined]
        refine isClean_unwords fun w found => ?_
        exact (List.mem_append.1 found).elim isPlainWord_of_mem_plainWords
          isPlainWord_of_mem_plainWords
      simp [clean, word]
    · obtain ⟨rest, spaced, _⟩ := joinedText_of_bare word more
      have unclean : ¬ IsClean (joinedText summary extension) := by
        rw [spaced]
        exact fun clean => clean.first rfl
      simp [unclean, word, more]
  · have joined : joinedText summary extension = unwords (plainWords summary.toList) := by
      rw [joinedText, if_pos (plainWords_eq_nil.2 more), List.append_nil]
    have clean : IsClean (joinedText summary extension) := by
      rw [joined]
      exact isClean_unwords fun w => isPlainWord_of_mem_plainWords
    simp [clean, more]

/-- A description is clean exactly if its summary has a plain word or the longer description has
none; otherwise a space stands before a clean text. -/
theorem isClean_description {text : String} {c : Catalogue} (read : ofText text = .ok c) :
    ∃ root, Xml.ofText? text = some root ∧ c.items = (itemElements root).map item ∧
      ∀ x ∈ itemElements root, ∀ description, (item x).description = some description →
        ∃ d, x.child? "Description" = some d ∧
          (IsClean description.toList ↔
            HasPlainWord (summaryText d) ∨ ¬ HasPlainWord (extensionText x d)) ∧
          (¬ IsClean description.toList →
            ∃ rest, description.toList = ' ' :: rest ∧ IsClean rest) := by
  obtain ⟨root, tree, made⟩ := exists_root_of_ofText read
  refine ⟨root, tree, made, ?_⟩
  intro x _ description held
  rw [description_item] at held
  obtain ⟨d, child, rfl⟩ := Option.map_eq_some_iff.1 held
  refine ⟨d, child, ?_⟩
  rw [String.toList_ofList]
  refine ⟨isClean_joinedText, fun unclean => ?_⟩
  obtain ⟨bare, more⟩ := not_or.1 fun clean => unclean (isClean_joinedText.2 clean)
  exact joinedText_of_bare bare (Classical.not_not.1 more)

def layoutsText : String :=
  "<Weakness_Catalog><Weaknesses><Weakness ID='7' Name='A'><Description><Description_Summary>A
  (very) weak check.</Description_Summary><Extended_Description><Text>One</Text><Text> two!</Text>
</Extended_Description></Description></Weakness><Weakness ID='8' Name='B'><Description>(-)
</Description><Extended_Description>Three</Extended_Description></Weakness></Weaknesses>
</Weakness_Catalog>"

def layouts : Catalogue where
  weaknesses :=
    [{ id := "7", name := "A", description := some "A very weak check. One. two" },
      { id := "8", name := "B", description := some "- Three" }]

set_option maxRecDepth 10000 in
theorem ofText_layoutsText : ofText layoutsText = .ok layouts := by
  refine ofText_eq_ok rfl (List.cons_ne_nil _ _) ?_
  decide +kernel

theorem isClean_layouts :
    ofText layoutsText = .ok layouts ∧
      ∃ root, Xml.ofText? layoutsText = some root ∧ layouts.items = (itemElements root).map item ∧
        ∀ x ∈ itemElements root, ∀ description, (item x).description = some description →
          ∃ d, x.child? "Description" = some d ∧
            (IsClean description.toList ↔
              HasPlainWord (summaryText d) ∨ ¬ HasPlainWord (extensionText x d)) ∧
            (¬ IsClean description.toList →
              ∃ rest, description.toList = ' ' :: rest ∧ IsClean rest) :=
  ⟨ofText_layoutsText, isClean_description ofText_layoutsText⟩

def extensionOnlyText : String :=
  "<Weakness_Catalog><Weaknesses><Weakness ID='1' Name='N'><Description/>
<Extended_Description>ext only</Extended_Description></Weakness></Weaknesses></Weakness_Catalog>"

def extensionOnly : Catalogue where
  weaknesses := [{ id := "1", name := "N", description := some " ext only" }]

set_option maxRecDepth 10000 in
theorem ofText_extensionOnlyText : ofText extensionOnlyText = .ok extensionOnly := by
  refine ofText_eq_ok rfl (List.cons_ne_nil _ _) ?_
  decide +kernel

/-- Where the summary is empty, the description starts with a space. -/
theorem not_isClean_extensionOnly :
    ofText extensionOnlyText = .ok extensionOnly ∧
      ∃ i ∈ extensionOnly.items, ∃ description, i.description = some description ∧
        description.toList.head? = some ' ' ∧ ¬ IsClean description.toList :=
  ⟨ofText_extensionOnlyText, _, List.mem_cons_self, " ext only", rfl, rfl,
    fun clean => clean.first rfl⟩

end ThreatModel.Catalogue
