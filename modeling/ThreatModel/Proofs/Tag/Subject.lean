import ThreatModel.Proofs.Tag.Grammar

namespace ThreatModel

theorem EntryClass.eq_of_length {c d : EntryClass}
    (same : c.word.toList.length = d.word.toList.length) : c = d := by
  revert same
  cases c <;> cases d <;> decide

namespace Statement

open Text Pattern

/-- The word is a boundary or a threat, or a boundary and a component with a colon between them; each
is written after an `@`, which is left out of `id` and `part`. -/
def Targets (w : List Char) (id : List Char) (part : Option (List Char)) : Prop :=
  (id ≠ [] ∧ ∀ c ∈ id, isWordChar c = true) ∧
    (∀ cs ∈ part, cs ≠ [] ∧ ∀ c ∈ cs, isPathChar c = true) ∧
    w = '@' :: (id ++ part.elim [] (':' :: '@' :: ·))

instance (w id : List Char) (part : Option (List Char)) : Decidable (Targets w id part) :=
  decidable_of_iff ((id ≠ [] ∧ id.all isWordChar = true) ∧
      part.all (fun cs => !cs.isEmpty && cs.all isPathChar) = true ∧
      w = '@' :: (id ++ part.elim [] (':' :: '@' :: ·))) (by cases part <;> simp [Targets])

def Addresses (kind : TagKind) (joint : String) (ws : List (List Char)) (cls : EntryClass)
    (id : List Char) (part : Option (List Char)) (text : String) : Prop :=
  (∃ w ∈ ws[0]?, IsKeyword kind.display w) ∧ (∃ w ∈ ws[1]?, IsKeyword cls.word w) ∧
    (∃ w ∈ ws[2]?, Targets w id part) ∧ (∃ w ∈ ws[3]?, IsKeyword joint w) ∧
    4 < ws.length ∧ text = .ofList (unwords (ws.drop 4))

instance (kind : TagKind) (joint : String) (ws : List (List Char)) (cls : EntryClass)
    (id : List Char) (part : Option (List Char)) (text : String) :
    Decidable (Addresses kind joint ws cls id part text) :=
  inferInstanceAs (Decidable (_ ∧ _))

def target : Pattern (List Char × Option (List Char)) := do
  Pattern.char '@'
  let id ← Pattern.run isWordChar
  let part ← Pattern.maybe do
    Pattern.char ':'
    Pattern.char '@'
    Pattern.run isPathChar
  pure (id, part)

theorem subjectAnd_eq (kind : TagKind) (joint : String) :
    subjectAnd kind joint = (do
      Pattern.keyword kind.display
      Pattern.gap
      let cls ← entryClass
      Pattern.gap
      let t ← target
      Pattern.gap
      Pattern.keyword joint
      Pattern.gap
      let text ← Pattern.remainder
      pure (subject? cls t.1 t.2, spaced text)) := by
  simp only [subjectAnd, target, bind_assoc, pure_bind]

theorem matches_entryClass : Matches entryClass fun u cls => IsKeyword cls.word u := by
  refine (matches_oneOf fun c _ => (matches_keyword c.word).map fun _ => c).congr fun u cls => ?_
  constructor
  · intro h
    obtain ⟨_, _, _, keyword, rfl⟩ := h
    exact keyword
  · intro keyword
    exact ⟨cls, by cases cls <;> decide, (), keyword, rfl⟩

theorem readsWord_entryClass : ReadsWord entryClass fun w cls => IsKeyword cls.word w where
  reads := matches_entryClass
  isWord := fun {_ cls} => isWord_of_isKeyword (by cases cls <;> decide)
  unique := fun left right =>
    EntryClass.eq_of_length (left.length_eq.trans right.length_eq.symm)

theorem isWord_of_targets {w id : List Char} {part : Option (List Char)}
    (targets : Targets w id part) : IsWord w := by
  obtain ⟨⟨_, word⟩, path, rfl⟩ := targets
  refine ⟨List.cons_ne_nil _ _, fun c inside => ?_⟩
  rcases List.mem_cons.1 inside with rfl | inside
  · decide
  rcases List.mem_append.1 inside with front | back
  · exact isBlank_of_isWordChar (word c front)
  · cases part with
    | none => cases back
    | some cs =>
      rcases List.mem_cons.1 back with rfl | back
      · decide
      rcases List.mem_cons.1 back with rfl | deep
      · decide
      · exact isBlank_of_isPathChar ((path cs rfl).2 c deep)

theorem targets_unique {w id id' : List Char} {part part' : Option (List Char)}
    (here : Targets w id part) (there : Targets w id' part') : (id, part) = (id', part') := by
  obtain ⟨⟨_, word⟩, _, rfl⟩ := here
  obtain ⟨⟨_, word'⟩, _, same⟩ := there
  have apart : ∀ c, isWordChar c = true → (c == ':') = false := by
    intro c word
    rw [beq_eq_false_iff_ne]
    rintro rfl
    exact absurd word (by decide)
  have stop (part : Option (List Char)) :
      ∀ c ∈ (part.elim [] (':' :: '@' :: ·)).head?, (c == ':') = true := by
    cases part with
    | none => intro c none; cases none
    | some cs => intro c first; cases first; decide
  obtain ⟨rfl, rest⟩ := cut_unique (fun c inside => apart c (word c inside))
    (fun c inside => apart c (word' c inside)) (stop part) (stop part') (List.cons.inj same).2
  cases part <;> cases part' <;> simp_all

theorem matches_target : Matches target fun w t => Targets w t.1 t.2 := by
  have parts := (matches_char '@').bind fun _ => (matches_run isWordChar).bind fun id =>
    (matches_maybe ((matches_char ':').bind fun _ => (matches_char '@').bind fun _ =>
      matches_run isPathChar)).bind fun part => matches_pure (id, part)
  refine parts.congr fun u t => ?_
  constructor
  · intro h
    obtain ⟨_, _, _, rfl, rfl, _, _, id, rfl, ⟨rfl, word⟩, _, _, part, rfl, colon, rfl, rfl⟩ := h
    rw [List.append_nil]
    rcases colon with ⟨cs, ⟨_, _, _, rfl, rfl, _, _, _, rfl, rfl, rfl, path⟩, rfl⟩ | ⟨rfl, rfl⟩
    · exact ⟨word, by simpa using path, rfl⟩
    · exact ⟨word, by simp, rfl⟩
  · intro h
    obtain ⟨id, part⟩ := t
    obtain ⟨word, path, rfl⟩ := h
    refine ⟨['@'], _, (), rfl, rfl, id, _, id, rfl, ⟨rfl, word⟩, _, [], part,
      (List.append_nil _).symm, ?_, rfl, rfl⟩
    cases part with
    | none => exact .inr ⟨rfl, rfl⟩
    | some cs =>
      have colon : ':' :: '@' :: cs = [':'] ++ ('@' :: cs) := rfl
      exact .inl ⟨cs, ⟨_, _, (), colon, rfl, ['@'], cs, (), rfl, rfl, rfl, path cs rfl⟩, rfl⟩

theorem readsWord_target : ReadsWord target fun w t => Targets w t.1 t.2 where
  isWord := isWord_of_targets
  unique := targets_unique
  reads := matches_target

theorem readAll?_subjectAnd {kind : TagKind} {joint : String} (tagWord : IsWord kind.display.toList)
    (jointWord : IsWord joint.toList) {ws : List (List Char)} (proper : ∀ w ∈ ws, IsWord w)
    {subject : Option Subject} {text : String} :
    (subjectAnd kind joint).readAll? (unwords ws) = some (subject, text) ↔
      ∃ cls id part, Addresses kind joint ws cls id part text ∧ subject = subject? cls id part := by
  have rest (k : Nat) : ∀ w ∈ ws.drop k, IsWord w := isWord_of_mem_drop proper k
  rw [subjectAnd_eq, (readsWord_keyword tagWord).readAll?_gap proper fun _ => bind_nil rfl _,
    exists_const, readsWord_entryClass.readAll?_gap (rest 1) fun _ => bind_nil rfl _]
  simp only [readsWord_target.readAll?_gap (rest _) fun _ => bind_nil (keyword_nil jointWord) _,
    (readsWord_keyword jointWord).readAll?_gap (rest _) fun _ => bind_nil (p := remainder) rfl _,
    exists_const, List.drop_drop, Nat.reduceAdd, readAll?_bind_pure, Option.map_eq_some_iff,
    readAll?_remainder (rest _), List.getElem?_drop, drop_ne_nil_iff, Prod.exists]
  constructor
  · intro h
    obtain ⟨tag, cls, named, id, part, target, link, _, ⟨enough, rfl⟩, same⟩ := h
    obtain ⟨rfl, rfl⟩ := Prod.mk.inj same
    refine ⟨cls, id, part, ⟨tag, named, target, link, enough, ?_⟩, rfl⟩
    rw [spaced_unwords (rest 4)]
  · intro h
    obtain ⟨cls, id, part, ⟨tag, named, target, link, enough, rfl⟩, rfl⟩ := h
    refine ⟨tag, cls, named, id, part, target, link, _, ⟨enough, rfl⟩, ?_⟩
    rw [spaced_unwords (rest 4)]

section Read

variable {text : String} (normal : respace text.toList = text.toList) {cls : EntryClass}
  {id : List Char} {part : Option (List Char)} {subject : Subject} {said : String}

include normal

theorem ofText?_aliases
    (words : Addresses .aliases "to" (words text.toList) cls id part said)
    (points : subject? cls id part = some subject) :
    ofText? .aliases text = some (.naming subject said) := by
  have read : (subjectAnd .aliases "to").readAll? text.toList =
      some (subject? cls id part, said) := by
    rw [← unwords_words normal]
    exact (readAll?_subjectAnd (by decide) (by decide) fun _ => isWord_of_mem_words).2
      ⟨cls, id, part, words, rfl⟩
  simp [ofText?, naming?, read, points]

theorem ofText?_describes
    (words : Addresses .describes "as" (words text.toList) cls id part said)
    (points : subject? cls id part = some subject) :
    ofText? .describes text = some (.describing subject said) := by
  have read : (subjectAnd .describes "as").readAll? text.toList =
      some (subject? cls id part, said) := by
    rw [← unwords_words normal]
    exact (readAll?_subjectAnd (by decide) (by decide) fun _ => isWord_of_mem_words).2
      ⟨cls, id, part, words, rfl⟩
  simp [ofText?, describing?, read, points]

end Read

end Statement

end ThreatModel
