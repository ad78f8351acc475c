import ThreatModel.Proofs.Registry.Recording

namespace ThreatModel

open Text

namespace Text.Pattern

variable {α β : Type} {text : List Char}

/-- From any end of the text the pattern gets to an end of it, with results that satisfy `P`. -/
def Within (text : List Char) (p : Pattern α) (P : α → Prop) : Prop :=
  ∀ cs, cs <:+ text → ∀ x ∈ p cs, x.2 <:+ text ∧ P x.1

variable {p : Pattern α} {P : α → Prop} {Q : β → Prop}

theorem within_pure {a : α} (h : P a) : Within text (pure a) P := by
  intro cs inside x found
  rw [pure_apply, List.mem_singleton] at found
  subst found
  exact ⟨inside, h⟩

theorem Within.bind {f : α → Pattern β} (first : Within text p P)
    (later : ∀ a, P a → Within text (f a) Q) : Within text (p >>= f) Q := by
  intro cs inside x found
  rw [bind_apply] at found
  obtain ⟨y, here, next⟩ := List.mem_flatMap.1 found
  obtain ⟨left, holds⟩ := first cs inside y here
  exact later y.1 holds y.2 left x next

theorem Matches.within {Spelt : List Char → α → Prop} (h : Matches p Spelt)
    (each : ∀ u a, u <:+: text → Spelt u a → P a) : Within text p P := by
  intro cs inside x found
  obtain ⟨u, rfl, spelt⟩ := (h cs x.1 x.2).1 found
  have front : u <:+: text := (List.prefix_append u x.2).isInfix.trans inside.isInfix
  exact ⟨(List.suffix_append u x.2).trans inside, each u x.1 front spelt⟩

theorem within_keyword (word : String) : Within text (keyword word) fun _ => True :=
  (matches_keyword word).within fun _ _ _ _ => trivial

theorem within_gap : Within text gap fun _ => True :=
  ((matches_run isBlank).within fun _ _ _ _ => trivial).bind fun _ _ => within_pure trivial

theorem within_remainder : Within text remainder fun _ => True := by
  intro cs inside x found
  cases cs with
  | nil => cases found
  | cons c cs =>
    obtain rfl := List.mem_singleton.1 (show x ∈ [(c :: cs, [])] from found)
    exact ⟨List.nil_suffix, trivial⟩

theorem within_upTo {q : Pattern β} (h : Within text q Q) :
    Within text (upTo q) fun x => x.1 <:+: text ∧ Q x.2 := by
  have prefixes (cs : List Char) (inside : cs <:+ text) :
      ∀ x ∈ upTo q cs, x.2 <:+ text ∧ x.1.1 <+: cs ∧ Q x.1.2 := by
    induction cs with
    | nil => intro x found; cases found
    | cons c cs ih =>
      have left : cs <:+ text := (List.suffix_cons c cs).trans inside
      intro x found
      rw [upTo, List.mem_append, List.mem_map, List.mem_map] at found
      rcases found with ⟨y, here, rfl⟩ | ⟨y, later, rfl⟩
      · obtain ⟨ends, holds⟩ := h cs left y here
        exact ⟨ends, List.cons_prefix_cons.2 ⟨rfl, List.nil_prefix⟩, holds⟩
      · obtain ⟨ends, front, holds⟩ := ih left y later
        exact ⟨ends, List.cons_prefix_cons.2 ⟨rfl, front⟩, holds⟩
  intro cs inside x found
  obtain ⟨ends, front, holds⟩ := prefixes cs inside x found
  exact ⟨ends, front.isInfix.trans inside.isInfix, holds⟩

theorem Within.readAll? (h : Within text p P) {a : α} (read : p.readAll? text = some a) : P a := by
  obtain ⟨⟨b, rest⟩, found, whole⟩ := List.exists_of_findSome?_eq_some read
  dsimp only at whole
  split at whole
  · exact Option.some.inj whole ▸ (h text (List.suffix_refl _) _ found).2
  · cases whole

end Text.Pattern

namespace Statement

open Text.Pattern

def Quotes (text : List Char) (name : String) : Prop := ∃ part, part <:+: text ∧ name = spaced part

def NamesQuote (text : List Char) (s : Statement) : Prop := ∀ n ∈ s.names, Quotes text n.2

variable {text : List Char}

theorem quotes_of_isSpelling {p : Char → Bool} (dark : ∀ c, p c = true → isBlank c = false)
    {w : List Char} (spelling : IsSpelling p w) (inside : w <:+: text) :
    Quotes text (.ofList w) :=
  ⟨w, inside, (spaced_of_isWord (isWord_of_isSpelling dark spelling)).symm⟩

theorem within_place :
    Within text place fun p => Quotes text p.boundary ∧ Quotes text p.component := by
  refine readsWord_place.reads.within fun u spot inside spells => ?_
  obtain ⟨boundary, component, rfl, first, second, rfl⟩ := spells
  have front : boundary <:+: text := (List.prefix_append _ _).isInfix.trans inside
  have back : component <:+: text :=
    ((List.suffix_cons ':' component).trans (List.suffix_append _ _)).isInfix.trans inside
  exact ⟨quotes_of_isSpelling (fun _ => isBlank_of_isWordChar) first front,
    quotes_of_isSpelling (fun _ => isBlank_of_isPathChar) second back⟩

theorem within_withText : Within text withText fun _ => True :=
  within_gap.bind fun _ _ => (within_keyword "with").bind fun _ _ =>
    within_gap.bind fun _ _ => within_remainder

theorem within_reviewTag : Within text reviewTag (NamesQuote text) := by
  refine (within_keyword _).bind fun _ _ => within_gap.bind fun _ _ =>
    within_place.bind fun spot quoted => ?_
  refine within_gap.bind fun _ _ => within_remainder.bind fun _ _ => within_pure ?_
  simp [NamesQuote, names, quoted]

theorem within_placeFirst (kind : TagKind) (stance : StanceKind) (joint : String) :
    Within text (placeFirst kind stance joint) (NamesQuote text) := by
  refine (within_keyword _).bind fun _ _ => within_gap.bind fun _ _ =>
    within_place.bind fun spot quoted => ?_
  refine within_gap.bind fun _ _ => (within_keyword joint).bind fun _ _ =>
    within_gap.bind fun _ _ => ?_
  refine (within_upTo within_withText).bind fun x part => within_pure ?_
  have threat : Quotes text (spaced x.1) := ⟨x.1, part.1, rfl⟩
  cases first : Registry.placeComesFirst stance <;> simp [NamesQuote, names, first, quoted, threat]

theorem within_placeAndText :
    Within text placeAndText fun x => Quotes text x.1.boundary ∧ Quotes text x.1.component := by
  refine within_gap.bind fun _ _ => (within_keyword "to").bind fun _ _ =>
    within_gap.bind fun _ _ => within_place.bind fun spot quoted => ?_
  exact within_withText.bind fun _ _ => within_pure quoted

theorem within_threatFirst (kind : TagKind) (stance : StanceKind) :
    Within text (threatFirst kind stance) (NamesQuote text) := by
  refine (within_keyword _).bind fun _ _ => within_gap.bind fun _ _ => ?_
  refine (within_upTo within_placeAndText).bind fun x part => within_pure ?_
  have threat : Quotes text (spaced x.1) := ⟨x.1, part.1, rfl⟩
  cases first : Registry.placeComesFirst stance <;> simp [NamesQuote, names, first, part.2, threat]

theorem quotes_of_mem_names {kind : TagKind} {text : String} {s : Statement}
    (read : ofText? kind text = some s) : NamesQuote text.toList s := by
  cases kind with
  | aliases | describes | connects =>
    intro n member
    cases s with
    | naming | describing | connecting => cases member
    | reviewing => cases kind_of_ofText? read
    | standing stance => cases stance <;> cases kind_of_ofText? read
  | reviews => exact within_reviewTag.readAll? read
  | mitigates => exact (within_placeFirst .mitigates .mitigation "against").readAll? read
  | exposes => exact (within_placeFirst .exposes .exposure "to").readAll? read
  | transfers => exact (within_threatFirst .transfers .transfer).readAll? read
  | accepts => exact (within_threatFirst .accepts .acceptance).readAll? read

end Statement

end ThreatModel
