import ThreatModel.Proofs.Registry.Naming
import ThreatModel.Proofs.Identifier
import ThreatModel.Proofs.Schema.Regex
import ThreatModel.Proofs.Tag.Found
import ThreatModel.Proofs.Tag.Grammar

namespace ThreatModel

open Text

namespace Identifier

def Blank (id : String) : Prop := id = "" ∨ id = bare

theorem Proper.not_blank {id : String} (proper : Proper id) : ¬ Blank id := by
  obtain ⟨cs, spelt, some', _⟩ := proper
  rintro (rfl | rfl)
  · cases spelt
  · exact some' (List.cons.inj spelt).2.symm

/-- The text is a name, or an identifier that is proper. -/
def Spelled (text : String) : Prop := text ≠ "" ∧ (isIdentifier text = true → Proper text)

theorem spaces_apart :
    ∀ c ∈ CharSet.spaces, Statement.isPathChar c = false ∧ isAlphanumeric c = false := by
  have apart : (CharSet.spaces.all fun c =>
      !Statement.isPathChar c && !isAlphanumeric c) = true := by decide +kernel
  intro c space
  simpa using List.all_eq_true.1 apart c space

theorem proper_of_derived {name : String} (derived : isIdentifier name = false)
    (some' : name ≠ "") (id : ofText name ≠ bare) : Proper (ofText name) := by
  rw [ofText_of_name some' derived] at id ⊢
  refine ⟨_, String.toList_ofList, ?_, ?_⟩
  · intro none
    rw [none] at id
    exact id rfl
  · intro c inside space
    rcases (mem_of_isDerived ⟨name.toList, rfl⟩ c inside).2 with rfl | alphanumeric
    · exact absurd space (by decide)
    · rw [(spaces_apart c space).2] at alphanumeric
      cases alphanumeric

theorem Spelled.proper {text : String} (spelled : Spelled text) (named : ¬ Naming.Nameless text) :
    Proper (ofText text) := by
  cases already : isIdentifier text with
  | false => exact proper_of_derived already spelled.1 fun bare => named ⟨already, bare⟩
  | true =>
    have same : ofText text = text := by simp [ofText, already]
    rw [same]
    exact spelled.2 already

end Identifier

def Place.Spelled (p : Place) : Prop :=
  Identifier.Spelled p.boundary ∧ Identifier.Spelled p.component

namespace Statement

open Text.Pattern

theorem isPathChar_of_isWordChar {c : Char} (h : isWordChar c = true) : isPathChar c = true := by
  simp [isPathChar, h]

theorem spelled_of_isSpelling {p : Char → Bool} (path : ∀ c, p c = true → isPathChar c = true)
    {w : List Char} (spelling : IsSpelling p w) : Identifier.Spelled (.ofList w) := by
  have sign : isPathChar '@' = false := by decide
  obtain ⟨body, some', holds, shape⟩ := spelling
  have clean : ∀ c ∈ body, c ∉ CharSet.spaces := by
    intro c inside space
    have paths := path c (holds c inside)
    rw [(Identifier.spaces_apart c space).1] at paths
    cases paths
  constructor
  · rcases shape with rfl | rfl
    · simpa using some'
    · simp
  · intro signed
    rcases shape with rfl | rfl
    · -- no spelling without an `@` starts with one
      obtain ⟨c, cs, rfl⟩ := List.exists_cons_of_ne_nil some'
      simp only [Identifier.isIdentifier, String.toList_ofList, List.head?_cons, Option.some.injEq,
        decide_eq_true_eq] at signed
      have paths := path c (holds c List.mem_cons_self)
      rw [signed, sign] at paths
      cases paths
    · exact ⟨body, String.toList_ofList, some', clean⟩

theorem spelled_of_spells {w : List Char} {place : Place} (spells : Spells w place) :
    place.Spelled := by
  obtain ⟨_, _, _, first, second, rfl⟩ := spells
  exact ⟨spelled_of_isSpelling (fun _ => isPathChar_of_isWordChar) first,
    spelled_of_isSpelling (fun _ path => path) second⟩

def places : Statement → List Place
  | connecting origin target _ _ => [origin, target]
  | reviewing place _ | standing _ place _ _ => [place]
  | naming _ _ | describing _ _ => []

def Spelled (s : Statement) : Prop := ∀ p ∈ s.places, p.Spelled

theorem yields_place : Yields place Place.Spelled :=
  readsWord_place.reads.yields fun _ _ => spelled_of_spells

theorem yields_spelled_connectsTag : Yields connectsTag Spelled := by
  refine yields_bind fun _ => yields_bind fun _ => yields_place.bind fun origin first => ?_
  refine yields_bind fun _ => yields_bind fun _ => yields_bind fun _ => ?_
  refine yields_place.bind fun target second => yields_bind fun _ => yields_pure ?_
  simp [Spelled, places, first, second]

theorem yields_spelled_reviewTag : Yields reviewTag Spelled := by
  refine yields_bind fun _ => yields_bind fun _ => yields_place.bind fun spot spelled => ?_
  refine yields_bind fun _ => yields_bind fun _ => yields_pure ?_
  simp [Spelled, places, spelled]

theorem yields_spelled_placeFirst (kind : TagKind) (stance : StanceKind) (joint : String) :
    Yields (placeFirst kind stance joint) Spelled := by
  refine yields_bind fun _ => yields_bind fun _ => yields_place.bind fun spot spelled => ?_
  refine yields_bind fun _ => yields_bind fun _ => yields_bind fun _ => ?_
  refine yields_bind fun _ => yields_pure ?_
  simp [Spelled, places, spelled]

theorem yields_spelled_threatFirst (kind : TagKind) (stance : StanceKind) :
    Yields (threatFirst kind stance) Spelled := by
  have rest : Yields placeAndText fun x => x.1.Spelled := by
    refine yields_bind fun _ => yields_bind fun _ => yields_bind fun _ => ?_
    exact yields_place.bind fun spot spelled => yields_bind fun _ => yields_pure spelled
  refine yields_bind fun _ => yields_bind fun _ => ?_
  refine (yields_upTo rest).bind fun x spelled => yields_pure ?_
  simpa [Spelled, places] using spelled

theorem places_eq_nil {s : Statement} (h : s.kind = .aliases ∨ s.kind = .describes) :
    s.places = [] := by
  cases s with
  | naming | describing => rfl
  | connecting | reviewing => simp [kind] at h
  | standing kind => cases kind <;> simp [Statement.kind, StanceKind.tagKind] at h

theorem spelled_of_read {kind : TagKind} {text : String} {s : Statement}
    (read : ofText? kind text = some s) : s.Spelled := by
  cases kind with
  | aliases | describes =>
    intro p member
    rw [places_eq_nil (by simp [kind_of_ofText? read])] at member
    cases member
  | connects => exact yields_spelled_connectsTag.readAll? read
  | reviews => exact yields_spelled_reviewTag.readAll? read
  | mitigates => exact (yields_spelled_placeFirst .mitigates .mitigation "against").readAll? read
  | exposes => exact (yields_spelled_placeFirst .exposes .exposure "to").readAll? read
  | transfers => exact (yields_spelled_threatFirst .transfers .transfer).readAll? read
  | accepts => exact (yields_spelled_threatFirst .accepts .acceptance).readAll? read

theorem ofList_unwords_ne_empty {ws : List (List Char)} (proper : ∀ w ∈ ws, IsWord w)
    (some' : ws ≠ []) : String.ofList (unwords ws) ≠ "" := by
  obtain ⟨w, ws, rfl⟩ := List.exists_cons_of_ne_nil some'
  have first := (proper w List.mem_cons_self).1
  rw [unwords_cons]
  simp [first]

theorem threat_of_worded {kind : TagKind} {ws : List (List Char)} (proper : ∀ w ∈ ws, IsWord w)
    {stance : StanceKind} {place : Place} {threat text : String}
    (worded : Worded kind ws (.standing stance place threat text)) : threat ≠ "" := by
  have early (j k : Nat) : ∀ w ∈ (ws.take j).drop k, IsWord w := isWord_of_mem_take_drop proper j k
  cases kind with
  | mitigates | exposes =>
    obtain ⟨_, _, _, same, _, _, _, j, ⟨⟨far, enough, _⟩, _⟩, rfl, _⟩ := worded
    cases same
    refine ofList_unwords_ne_empty (early j 3) (drop_ne_nil_iff.2 ?_)
    rw [List.length_take]
    omega
  | transfers | accepts =>
    obtain ⟨_, _, _, same, _, j, ⟨⟨far, enough, _⟩, _⟩, _, rfl, _⟩ := worded
    cases same
    refine ofList_unwords_ne_empty (early j 1) (drop_ne_nil_iff.2 ?_)
    rw [List.length_take]
    omega
  | reviews =>
    obtain ⟨_, _, same, _⟩ := worded
    cases same
  | aliases | describes | connects => cases worded

theorem threat_of_found {style : CommentStyle} {tag : Tag} (found : tag.Found style)
    {stance : StanceKind} {place : Place} {threat text : String}
    (read : ofText? tag.kind tag.text = some (.standing stance place threat text)) :
    threat ≠ "" := by
  have records : tag.kind.records = true := by
    rw [← kind_of_ofText? read]
    cases stance <;> rfl
  have worded := (ofText?_iff_worded records (Tag.normal_of_found found) _).1 read
  exact threat_of_worded (fun _ => isWord_of_mem_words) worded

end Statement

end ThreatModel
