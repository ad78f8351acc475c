import ThreatModel.Proofs.Tag.Statement
import ThreatModel.Proofs.Text.WordPattern

namespace ThreatModel

def TagKind.records : TagKind → Bool
  | aliases | describes | connects => false
  | reviews | mitigates | exposes | transfers | accepts => true

namespace Statement

open Text Pattern

def IsSpelling (p : Char → Bool) (w : List Char) : Prop :=
  ∃ body, body ≠ [] ∧ (∀ c ∈ body, p c = true) ∧ (w = body ∨ w = '@' :: body)

def Spells (w : List Char) (place : Place) : Prop :=
  ∃ boundary component, w = boundary ++ ':' :: component ∧ IsSpelling isWordChar boundary ∧
    IsSpelling isPathChar component ∧ place = ⟨.ofList boundary, .ofList component⟩

def Reviews (ws : List (List Char)) (place : Place) (text : String) : Prop :=
  (∃ w ∈ ws[0]?, IsKeyword TagKind.reviews.display w) ∧ (∃ w ∈ ws[1]?, Spells w place) ∧
    3 ≤ ws.length ∧ text = .ofList (unwords (ws.drop 2))

/-- Where the text can be told from the threat when the place comes first. -/
def WithAt (ws : List (List Char)) : Set Nat :=
  {j | 4 ≤ j ∧ j + 1 < ws.length ∧ ∃ w ∈ ws[j]?, IsKeyword "with" w}

def PlaceFirst (kind : TagKind) (joint : String) (ws : List (List Char)) (place : Place)
    (threat text : String) : Prop :=
  (∃ w ∈ ws[0]?, IsKeyword kind.display w) ∧ (∃ w ∈ ws[1]?, Spells w place) ∧
    (∃ w ∈ ws[2]?, IsKeyword joint w) ∧ ∃ j, IsLeast (WithAt ws) j ∧
      threat = .ofList (unwords ((ws.take j).drop 3)) ∧ text = .ofList (unwords (ws.drop (j + 1)))

/-- Where the place can be told from the threat when the threat comes first. -/
def ToAt (ws : List (List Char)) : Set Nat :=
  {j | 2 ≤ j ∧ j + 3 < ws.length ∧ (∃ w ∈ ws[j]?, IsKeyword "to" w) ∧
    (∃ place, ∃ w ∈ ws[j + 1]?, Spells w place) ∧ ∃ w ∈ ws[j + 2]?, IsKeyword "with" w}

def ThreatFirst (kind : TagKind) (ws : List (List Char)) (place : Place) (threat text : String) :
    Prop :=
  (∃ w ∈ ws[0]?, IsKeyword kind.display w) ∧ ∃ j, IsLeast (ToAt ws) j ∧
    (∃ w ∈ ws[j + 1]?, Spells w place) ∧
    threat = .ofList (unwords ((ws.take j).drop 1)) ∧ text = .ofList (unwords (ws.drop (j + 3)))

def Worded (kind : TagKind) (ws : List (List Char)) (s : Statement) : Prop :=
  match kind with
  | .reviews => ∃ place text, s = .reviewing place text ∧ Reviews ws place text
  | .mitigates => ∃ place threat text, s = .standing .mitigation place threat text ∧
      PlaceFirst .mitigates "against" ws place threat text
  | .exposes => ∃ place threat text, s = .standing .exposure place threat text ∧
      PlaceFirst .exposes "to" ws place threat text
  | .transfers => ∃ place threat text, s = .standing .transfer place threat text ∧
      ThreatFirst .transfers ws place threat text
  | .accepts => ∃ place threat text, s = .standing .acceptance place threat text ∧
      ThreatFirst .accepts ws place threat text
  | .aliases | .describes | .connects => False

theorem spaced_of_isWord {w : List Char} (word : IsWord w) : spaced w = .ofList w :=
  congrArg String.ofList (respace_eq_self word)

theorem spaced_unwords {ws : List (List Char)} (proper : ∀ w ∈ ws, IsWord w) :
    spaced (unwords ws) = .ofList (unwords ws) :=
  congrArg String.ofList (respace_unwords proper)

section Spelling

variable {p : Char → Bool}

theorem clean_of_isSpelling {q : Char → Bool} (apart : ∀ c, p c = true → q c = false)
    (sign : q '@' = false) {w : List Char} (spelling : IsSpelling p w) : ∀ c ∈ w, q c = false := by
  obtain ⟨body, _, holds, rfl | rfl⟩ := spelling
  · exact fun c inside => apart c (holds c inside)
  · intro c inside
    rcases List.mem_cons.1 inside with here | later
    · rw [here, sign]
    · exact apart c (holds c later)

theorem isWord_of_isSpelling (dark : ∀ c, p c = true → isBlank c = false) {w : List Char}
    (spelling : IsSpelling p w) : IsWord w := by
  refine ⟨?_, clean_of_isSpelling dark (by decide) spelling⟩
  obtain ⟨body, nonempty, _, rfl | rfl⟩ := spelling
  · exact nonempty
  · exact List.cons_ne_nil _ _

theorem matches_spelling (dark : ∀ c, p c = true → isBlank c = false) :
    Matches (spelling p) fun u s => IsSpelling p u ∧ s = .ofList u := by
  have parts := (matches_maybe (matches_char '@')).bind fun at? =>
    (matches_run p).bind fun cs =>
      matches_pure (spaced (if at?.isSome then '@' :: cs else cs))
  refine parts.congr fun u s => ?_
  constructor
  · intro h
    obtain ⟨v, w, at?, rfl, sign, body, _, cs, rfl, ⟨rfl, nonempty, holds⟩, rfl, rfl⟩ := h
    rw [List.append_nil]
    rcases sign with ⟨_, rfl, rfl⟩ | ⟨rfl, rfl⟩
    · have spelling : IsSpelling p ('@' :: body) := ⟨body, nonempty, holds, .inr rfl⟩
      exact ⟨spelling, spaced_of_isWord (isWord_of_isSpelling dark spelling)⟩
    · have spelling : IsSpelling p body := ⟨body, nonempty, holds, .inl rfl⟩
      exact ⟨spelling, spaced_of_isWord (isWord_of_isSpelling dark spelling)⟩
  · intro h
    obtain ⟨spelling, rfl⟩ := h
    rw [← spaced_of_isWord (isWord_of_isSpelling dark spelling)]
    obtain ⟨body, nonempty, holds, rfl | rfl⟩ := spelling
    · exact ⟨[], u, none, rfl, .inr ⟨rfl, rfl⟩, u, [], u, by rw [List.append_nil],
        ⟨rfl, nonempty, holds⟩, rfl, rfl⟩
    · exact ⟨['@'], body, some (), rfl, .inl ⟨(), rfl, rfl⟩, body, [], body,
        by rw [List.append_nil], ⟨rfl, nonempty, holds⟩, rfl, rfl⟩

end Spelling

theorem isBlank_of_isPathChar {c : Char} (h : isPathChar c = true) : isBlank c = false := by
  simp only [isPathChar, Bool.or_eq_true, decide_eq_true_eq] at h
  rcases h with ((word | rfl) | rfl) | rfl
  · exact isBlank_of_isWordChar word
  · decide
  · decide
  · decide

theorem isWord_of_spells {w : List Char} {spot : Place} (spells : Spells w spot) : IsWord w := by
  obtain ⟨boundary, component, rfl, first, second, _⟩ := spells
  have left := (isWord_of_isSpelling (fun _ => isBlank_of_isWordChar) first).2
  have right := (isWord_of_isSpelling (fun _ => isBlank_of_isPathChar) second).2
  refine ⟨List.append_ne_nil_of_right_ne_nil _ (List.cons_ne_nil _ _), ?_⟩
  intro c inside
  rcases List.mem_append.1 inside with here | later
  · exact left c here
  · rcases List.mem_cons.1 later with colon | deeper
    · rw [colon]
      decide
    · exact right c deeper

theorem spells_unique {w : List Char} {spot other : Place} (here : Spells w spot)
    (there : Spells w other) : spot = other := by
  obtain ⟨b, c, rfl, left, _, rfl⟩ := here
  obtain ⟨b', c', same, right, _, rfl⟩ := there
  have apart : ∀ c, isWordChar c = true → (c == ':') = false := by
    intro c word
    rw [beq_eq_false_iff_ne]
    intro same
    subst same
    exact absurd word (by decide)
  obtain ⟨rfl, rest⟩ := cut_unique (clean_of_isSpelling apart (by decide) left)
    (clean_of_isSpelling apart (by decide) right) (by simp) (by simp) same
  rw [(List.cons.inj rest).2]

theorem readsWord_place : ReadsWord place Spells where
  isWord := isWord_of_spells
  unique := spells_unique
  reads := by
    have parts := (matches_spelling fun _ => isBlank_of_isWordChar).bind fun boundary =>
      (matches_char ':').bind fun _ =>
        (matches_spelling fun _ => isBlank_of_isPathChar).bind fun component =>
          matches_pure (⟨boundary, component⟩ : Place)
    refine parts.congr fun u spot => ?_
    constructor
    · intro h
      obtain ⟨b, _, _, rfl, ⟨first, rfl⟩, _, _, _, rfl, rfl, c, _, _, rfl, ⟨second, rfl⟩, rfl, rfl⟩ := h
      exact ⟨b, c, by rw [List.append_nil]; rfl, first, second, rfl⟩
    · intro h
      obtain ⟨b, c, rfl, first, second, rfl⟩ := h
      exact ⟨b, ':' :: c, .ofList b, rfl, ⟨first, rfl⟩, [':'], c, (), rfl, rfl, c, [], .ofList c,
        by rw [List.append_nil], ⟨second, rfl⟩, rfl, rfl⟩

theorem drop_ne_nil_iff {α : Type} {xs : List α} {k : Nat} : xs.drop k ≠ [] ↔ k < xs.length := by
  rw [Ne, List.drop_eq_nil_iff, Nat.not_le]

def placeAndText : Pattern (Place × List Char) := do
  Pattern.gap
  Pattern.keyword "to"
  Pattern.gap
  let spot ← place
  let text ← withText
  pure (spot, text)

theorem needsGap_withText : NeedsGap withText := needsGap_gap.bind _

theorem needsGap_placeAndText : NeedsGap placeAndText := needsGap_gap.bind _

section Words

variable {ws : List (List Char)} (proper : ∀ w ∈ ws, IsWord w)

include proper

theorem isWord_of_mem_drop (k : Nat) : ∀ w ∈ ws.drop k, IsWord w :=
  fun w found => proper w (List.mem_of_mem_drop found)

theorem readAll?_withText {text : List Char} :
    withText.readAll? (tailWords ws) = some text ↔
      (∃ w ∈ ws[0]?, IsKeyword "with" w) ∧ 1 < ws.length ∧ text = unwords (ws.drop 1) := by
  show (gap >>= fun _ => keyword "with" >>= fun _ => gap >>= fun _ => remainder).readAll? _ = _ ↔ _
  rw [readAll?_gap proper rfl, (readsWord_keyword (by decide)).readAll?_gap proper fun _ => rfl]
  simp only [readAll?_remainder (isWord_of_mem_drop proper 1), drop_ne_nil_iff, exists_const]

theorem readAll?_placeAndText {spot : Place} {text : List Char} :
    placeAndText.readAll? (tailWords ws) = some (spot, text) ↔
      (∃ w ∈ ws[0]?, IsKeyword "to" w) ∧ (∃ w ∈ ws[1]?, Spells w spot) ∧
        (∃ w ∈ ws[2]?, IsKeyword "with" w) ∧ 3 < ws.length ∧ text = unwords (ws.drop 3) := by
  show (gap >>= fun _ => keyword "to" >>= fun _ => gap >>= fun _ => place >>= fun spot =>
    withText >>= fun text => pure (spot, text)).readAll? _ = _ ↔ _
  rw [readAll?_gap proper rfl, (readsWord_keyword (by decide)).readAll?_gap proper fun _ => rfl]
  rw [exists_const]
  refine and_congr_right fun _ => ?_
  rw [readsWord_place.readAll?_bind (isWord_of_mem_drop proper 1) 
    fun _ => needsGap_withText.bind _]
  simp only [readAll?_bind_pure, List.drop_drop, Nat.reduceAdd, Option.map_eq_some_iff,
    readAll?_withText (isWord_of_mem_drop proper 2), List.getElem?_drop, List.length_drop]
  have long : 1 < ws.length - 2 ↔ 3 < ws.length := by omega
  rw [long]
  constructor
  · intro h
    obtain ⟨_, pair, _, ⟨joint, enough, rfl⟩, same⟩ := h
    obtain ⟨rfl, rfl⟩ := Prod.mk.inj same
    exact ⟨pair, joint, enough, rfl⟩
  · intro h
    obtain ⟨pair, joint, enough, rfl⟩ := h
    exact ⟨spot, pair, _, ⟨joint, enough, rfl⟩, rfl⟩

theorem readAll?_reviewTag {s : Statement} :
    reviewTag.readAll? (unwords ws) = some s ↔
      ∃ place text, s = .reviewing place text ∧ Reviews ws place text := by
  unfold reviewTag
  rw [(readsWord_keyword (by decide)).readAll?_gap proper fun _ => rfl, exists_const,
    readsWord_place.readAll?_gap (isWord_of_mem_drop proper 1) fun _ => rfl]
  simp only [readAll?_bind_pure, List.drop_drop, Nat.reduceAdd, Option.map_eq_some_iff,
    readAll?_remainder (isWord_of_mem_drop proper 2), List.getElem?_drop, drop_ne_nil_iff]
  constructor
  · intro h
    obtain ⟨tag, spot, pair, _, ⟨enough, rfl⟩, rfl⟩ := h
    exact ⟨spot, _, rfl, tag, pair, enough, spaced_unwords (isWord_of_mem_drop proper 2)⟩
  · intro h
    obtain ⟨spot, _, rfl, tag, pair, enough, rfl⟩ := h
    refine ⟨tag, spot, pair, _, ⟨enough, rfl⟩, ?_⟩
    rw [spaced_unwords (isWord_of_mem_drop proper 2)]

theorem isWord_of_mem_take_drop (j k : Nat) : ∀ w ∈ (ws.take j).drop k, IsWord w :=
  fun w found => proper w (List.mem_of_mem_take (List.mem_of_mem_drop found))

theorem mem_ends_withText {n : Nat} : n ∈ Ends withText (ws.drop 3) ↔ n + 3 ∈ WithAt ws := by
  simp only [Ends, WithAt, Set.mem_ofPred_eq, List.drop_drop, List.length_drop,
    readAll?_withText (isWord_of_mem_drop proper _), List.getElem?_drop, Nat.add_zero]
  rw [Nat.add_comm 3 n]
  constructor
  · intro h
    obtain ⟨positive, _, _, joint, enough, _⟩ := h
    exact ⟨by omega, by omega, joint⟩
  · intro h
    obtain ⟨positive, enough, joint⟩ := h
    exact ⟨by omega, by omega, _, joint, by omega, rfl⟩

theorem readAll?_upTo_withText {threat text : List Char} :
    (upTo withText).readAll? (unwords (ws.drop 3)) = some (threat, text) ↔
      ∃ j, IsLeast (WithAt ws) j ∧ threat = unwords ((ws.take j).drop 3) ∧
        text = unwords (ws.drop (j + 1)) := by
  rw [readAll?_upTo_drop needsGap_withText proper (fun j inside => Nat.le_of_succ_le inside.1)
    fun n => mem_ends_withText proper]
  simp only [readAll?_withText (isWord_of_mem_drop proper _), List.drop_drop]
  constructor
  · intro h
    obtain ⟨j, least, threat, _, _, text⟩ := h
    exact ⟨j, least, threat, text⟩
  · intro h
    obtain ⟨j, least, threat, text⟩ := h
    obtain ⟨_, enough, joint⟩ := least.1
    refine ⟨j, least, threat, by rwa [List.getElem?_drop], ?_, text⟩
    rw [List.length_drop]
    omega

theorem readAll?_placeFirst {kind : TagKind} {stance : StanceKind} {joint : String}
    (tagWord : IsWord kind.display.toList) (jointWord : IsWord joint.toList) {s : Statement} :
    (placeFirst kind stance joint).readAll? (unwords ws) = some s ↔
      ∃ place threat text, s = .standing stance place threat text ∧
        PlaceFirst kind joint ws place threat text := by
  unfold placeFirst
  rw [(readsWord_keyword tagWord).readAll?_gap proper fun _ => bind_nil rfl _, exists_const,
    readsWord_place.readAll?_gap (isWord_of_mem_drop proper 1)
      fun _ => bind_nil (keyword_nil jointWord) _]
  simp only [(readsWord_keyword jointWord).readAll?_gap (isWord_of_mem_drop proper _)
    fun _ => bind_nil (p := upTo withText) rfl _, exists_const, List.drop_drop, Nat.reduceAdd,
    readAll?_bind_pure, Option.map_eq_some_iff, Prod.exists, readAll?_upTo_withText proper,
    List.getElem?_drop]
  constructor
  · intro h
    obtain ⟨tag, spot, pair, link, _, _, ⟨j, least, rfl, rfl⟩, rfl⟩ := h
    refine ⟨spot, _, _, rfl, tag, pair, link, j, least, ?_, ?_⟩
    · exact spaced_unwords (isWord_of_mem_take_drop proper j 3)
    · exact spaced_unwords (isWord_of_mem_drop proper (j + 1))
  · intro h
    obtain ⟨spot, _, _, rfl, tag, pair, link, j, least, rfl, rfl⟩ := h
    refine ⟨tag, spot, pair, link, _, _, ⟨j, least, rfl, rfl⟩, ?_⟩
    rw [spaced_unwords (isWord_of_mem_take_drop proper j 3),
      spaced_unwords (isWord_of_mem_drop proper (j + 1))]

theorem mem_ends_placeAndText {n : Nat} :
    n ∈ Ends placeAndText (ws.drop 1) ↔ n + 1 ∈ ToAt ws := by
  simp only [Ends, ToAt, Set.mem_ofPred_eq, Prod.exists, List.drop_drop, List.length_drop,
    readAll?_placeAndText (isWord_of_mem_drop proper _), List.getElem?_drop, Nat.add_zero]
  rw [Nat.add_comm 1 n]
  constructor
  · intro h
    obtain ⟨positive, _, place, _, link, pair, joint, enough, _⟩ := h
    exact ⟨by omega, by omega, link, ⟨place, pair⟩, joint⟩
  · intro h
    obtain ⟨positive, enough, link, ⟨place, pair⟩, joint⟩ := h
    exact ⟨by omega, by omega, place, _, link, pair, joint, by omega, rfl⟩

theorem readAll?_upTo_placeAndText {spot : Place} {threat text : List Char} :
    (upTo placeAndText).readAll? (unwords (ws.drop 1)) = some (threat, spot, text) ↔
      ∃ j, IsLeast (ToAt ws) j ∧ (∃ w ∈ ws[j + 1]?, Spells w spot) ∧
        threat = unwords ((ws.take j).drop 1) ∧ text = unwords (ws.drop (j + 3)) := by
  rw [readAll?_upTo_drop needsGap_placeAndText proper
    (fun j inside => Nat.le_of_succ_le inside.1) fun n => mem_ends_placeAndText proper]
  simp only [readAll?_placeAndText (isWord_of_mem_drop proper _), List.drop_drop,
    List.getElem?_drop, List.length_drop, Nat.add_zero]
  constructor
  · intro h
    obtain ⟨j, least, threat, _, pair, _, _, text⟩ := h
    exact ⟨j, least, pair, threat, text⟩
  · intro h
    obtain ⟨j, least, pair, threat, text⟩ := h
    obtain ⟨_, enough, link, _, joint⟩ := least.1
    exact ⟨j, least, threat, link, pair, joint, by omega, text⟩

theorem readAll?_threatFirst {kind : TagKind} {stance : StanceKind}
    (tagWord : IsWord kind.display.toList) {s : Statement} :
    (threatFirst kind stance).readAll? (unwords ws) = some s ↔
      ∃ place threat text, s = .standing stance place threat text ∧
        ThreatFirst kind ws place threat text := by
  have shape : threatFirst kind stance = (keyword kind.display >>= fun _ => gap >>= fun _ =>
      upTo placeAndText >>= fun x =>
        pure (standing stance x.2.1 (spaced x.1) (spaced x.2.2))) := rfl
  rw [shape, (readsWord_keyword tagWord).readAll?_gap proper fun _ => bind_nil rfl _, exists_const]
  simp only [readAll?_bind_pure, Option.map_eq_some_iff, Prod.exists,
    readAll?_upTo_placeAndText proper]
  constructor
  · intro h
    obtain ⟨tag, _, spot, _, ⟨j, least, pair, rfl, rfl⟩, rfl⟩ := h
    refine ⟨spot, _, _, rfl, tag, j, least, pair, ?_, ?_⟩
    · exact spaced_unwords (isWord_of_mem_take_drop proper j 1)
    · exact spaced_unwords (isWord_of_mem_drop proper (j + 3))
  · intro h
    obtain ⟨spot, _, _, rfl, tag, j, least, pair, rfl, rfl⟩ := h
    refine ⟨tag, _, spot, _, ⟨j, least, pair, rfl, rfl⟩, ?_⟩
    rw [spaced_unwords (isWord_of_mem_take_drop proper j 1),
      spaced_unwords (isWord_of_mem_drop proper (j + 3))]

end Words

theorem ofText?_unwords {kind : TagKind} (records : kind.records = true)
    {ws : List (List Char)} (proper : ∀ w ∈ ws, IsWord w) (s : Statement) :
    ofText? kind (.ofList (unwords ws)) = some s ↔ Worded kind ws s := by
  unfold ofText?
  rw [String.toList_ofList]
  cases kind with
  | reviews => exact readAll?_reviewTag proper
  | mitigates => exact readAll?_placeFirst proper (by decide) (by decide)
  | exposes => exact readAll?_placeFirst proper (by decide) (by decide)
  | transfers => exact readAll?_threatFirst proper (by decide)
  | accepts => exact readAll?_threatFirst proper (by decide)
  | aliases => cases records
  | describes => cases records
  | connects => cases records

theorem ofText?_iff_worded {kind : TagKind} (records : kind.records = true) {text : String}
    (normal : respace text.toList = text.toList) (s : Statement) :
    ofText? kind text = some s ↔ Worded kind (words text.toList) s := by
  have proper : ∀ w ∈ words text.toList, IsWord w := fun w => isWord_of_mem_words
  have whole := ofText?_unwords records proper s
  rwa [unwords_words normal, String.ofList_toList] at whole

end Statement

end ThreatModel
