import ThreatModel.Proofs.Tag.Comment
import ThreatModel.Proofs.Text.Letter
import ThreatModel.Proofs.Text.Pattern

namespace ThreatModel

open Text

namespace Text

theorem code_of_isLower {c : Char} (small : c.isLower = true) : 97 ≤ c.toNat ∧ c.toNat ≤ 122 := by
  have bounds : (decide (97 ≤ c.val) && decide (c.val ≤ 122)) = true := small
  rw [Bool.and_eq_true, decide_eq_true_iff, decide_eq_true_iff] at bounds
  exact ⟨UInt32.le_iff_toNat_le.1 bounds.1, UInt32.le_iff_toNat_le.1 bounds.2⟩

theorem isWordChar_of_isCaseOf {letter c : Char} (small : letter.isLower = true)
    (h : isCaseOf letter c = true) : isWordChar c = true := by
  obtain ⟨later, ranges⟩ : ∃ later, alphabeticRanges = (0x41, 0x5a) :: (0x61, 0x7a) :: later :=
    ⟨_, rfl⟩
  have letters (n : Nat) (inside : 65 ≤ n ∧ n ≤ 90 ∨ 97 ≤ n ∧ n ≤ 122) :
      inRanges alphabeticRanges n = true := by
    rw [ranges]
    simp only [inRanges]
    grind
  have bounds := code_of_isLower small
  simp only [isCaseOf, Bool.or_eq_true, Bool.and_eq_true, decide_eq_true_eq] at h
  unfold isWordChar isAlphabetic
  rcases h with ((rfl | lower) | ⟨_, rfl⟩) | ⟨_, rfl⟩
  · rw [letters _ (.inr bounds), Bool.true_or]
  · rw [letters _ ?_, Bool.true_or]
    rw [← lower] at bounds
    unfold Char.toLower at bounds
    split at bounds
    · next upper => exact .inl upper
    · exact .inr bounds
  · decide +kernel
  · decide +kernel

theorem dropKeyword?_append {letters tail : List Char}
    (apart : ∀ c ∈ tail.head?, ∀ letter ∈ letters, isCaseOf letter c = false) (cs : List Char) :
    dropKeyword? letters (cs ++ tail) = (dropKeyword? letters cs).map (· ++ tail) := by
  induction letters generalizing cs with
  | nil => rfl
  | cons letter letters ih =>
    cases cs with
    | nil =>
      cases tail with
      | nil => rfl
      | cons c tail =>
        have stop := apart c rfl letter List.mem_cons_self
        simp [dropKeyword?, stop]
    | cons c cs =>
      rw [List.cons_append, dropKeyword?, dropKeyword?]
      split
      · exact ih (fun d first later inside => apart d first later (List.mem_cons_of_mem _ inside)) cs
      · rfl

theorem toLower_of_isLower {c : Char} (small : c.isLower = true) : c.toLower = c := by
  have bounds := code_of_isLower small
  refine dif_neg fun upper => ?_
  have high : c.toNat ≤ 90 := upper.2
  omega

theorem lowerChar_of_code : ∀ n < 123, 65 ≤ n →
    Char.ofNat n ≠ '\u03a3' ∧ lowerChar (Char.ofNat n) = [(Char.ofNat n).toLower] := by
  decide +kernel

theorem lowerChar_of_isLower {c : Char} (small : c.toLower.isLower = true) :
    c ≠ '\u03a3' ∧ lowerChar c = [c.toLower] := by
  have bounds := code_of_isLower small
  have code : 65 ≤ c.toNat ∧ c.toNat < 123 := by
    unfold Char.toLower at bounds
    split at bounds
    · next upper =>
      have low : 65 ≤ c.toNat := upper.1
      have high : c.toNat ≤ 90 := upper.2
      omega
    · omega
  have mapped := lowerChar_of_code c.toNat code.2 code.1
  rwa [Char.ofNat_toNat] at mapped

theorem lowercaseAfter_of_spelt {letters u : List Char}
    (small : ∀ letter ∈ letters, letter.isLower = true ∧ letter ≠ 'k')
    (spelt : List.Forall₂ (fun letter c => isCaseOf letter c = true) letters u)
    (plain : '\u017f' ∉ u) (before : List Char) : lowercaseAfter before u = letters := by
  induction spelt generalizing before with
  | nil => rfl
  | @cons letter c letters u here spelt ih =>
    obtain ⟨letterSmall, notK⟩ := small letter List.mem_cons_self
    have notLong : c ≠ '\u017f' := fun long => plain (long ▸ List.mem_cons_self)
    have lower : c.toLower = letter := by
      simp only [isCaseOf, Bool.or_eq_true, Bool.and_eq_true, decide_eq_true_eq, notLong, notK,
        and_false, false_and, or_false] at here
      rcases here with rfl | lower
      · exact toLower_of_isLower letterSmall
      · exact lower
    obtain ⟨notSigma, mapped⟩ := lowerChar_of_isLower (lower ▸ letterSmall)
    have rest := ih (fun l inside => small l (List.mem_cons_of_mem _ inside))
      (fun inside => plain (List.mem_cons_of_mem _ inside)) (c :: before)
    rw [lowercaseAfter, if_neg notSigma, mapped, lower, rest, List.singleton_append]

end Text

namespace TagKind

theorem isLower_of_mem_word (kind : TagKind) :
    ∀ letter ∈ kind.word.toList, letter.isLower = true ∧ letter ≠ 'k' := by
  have each : kind.word.toList.all (fun letter => letter.isLower && letter != 'k') = true := by
    cases kind <;> decide
  simpa using each

theorem ofWord?_of_spelt (kind : TagKind) {u : List Char}
    (spelt : List.Forall₂ (fun letter c => isCaseOf letter c = true) kind.word.toList u)
    (plain : '\u017f' ∉ u) : ofWord? (.ofList u) = some kind := by
  have lower : lowercase u = kind.word.toList :=
    lowercaseAfter_of_spelt kind.isLower_of_mem_word spelt plain []
  rw [ofWord?, String.toList_ofList, lower]
  cases kind <;> decide

end TagKind

namespace Tag

variable {style : CommentStyle} {cs tail : List Char}

theorem head_of_opening? (opened : (opening? cs).isSome = true) : ∃ rest, cs = '@' :: rest := by
  unfold opening? at opened
  split at opened
  · next rest => exact ⟨rest, rfl⟩
  · cases opened

theorem opening?_append (some' : cs ≠ []) (apart : ∀ c ∈ tail.head?, isWordChar c = false) :
    opening? (cs ++ tail) = opening? cs := by
  obtain ⟨c, cs, rfl⟩ := List.exists_cons_of_ne_nil some'
  by_cases signed : c = '@'
  · subst signed
    simp only [List.cons_append, opening?]
    refine congrArg (fun read => List.findSome? read TagKind.all) (funext fun kind => ?_)
    have small := kind.isLower_of_mem_word
    rw [dropKeyword?_append (fun d first letter inside => ?_)]
    · cases dropped : dropKeyword? kind.word.toList cs with
      | none => rfl
      | some rest =>
        obtain ⟨u, rfl, spelt⟩ := Pattern.dropKeyword?_eq_some.1 dropped
        have long : kind.word.length = u.length := by
          rw [← String.length_toList]
          exact spelt.length_eq
        rw [List.append_assoc, long, List.take_left, List.take_left]
        cases rest with
        | nil =>
          have stop : tail.head?.any isWordChar = false := by
            rw [Option.any_eq_false]
            exact fun d first => by simp [apart d first]
          simp [stop]
        | cons d rest => rfl
    · cases spelt : isCaseOf letter d with
      | false => rfl
      | true =>
        rw [← isWordChar_of_isCaseOf (small letter inside).1 spelt, apart d first]
  · simp only [List.cons_append, opening?]
    split
    · next same => exact absurd (List.cons.inj same).1 signed
    · split
      · next same => exact absurd (List.cons.inj same).1 signed
      · rfl

theorem opening?_append_of_closing (closing : ∀ c ∈ tail, isWordChar c = false ∧ c ≠ '@') :
    opening? (cs ++ tail) = opening? cs := by
  by_cases some' : cs = []
  · subst some'
    cases opened : opening? tail with
    | none => rw [List.nil_append, opened]; rfl
    | some o =>
      obtain ⟨rest, rfl⟩ := head_of_opening? (Option.isSome_of_eq_some opened)
      exact absurd rfl (closing '@' List.mem_cons_self).2
  · exact opening?_append some' fun c first => (closing c (List.mem_of_mem_head? first)).1

theorem closing_of_isBlank {c : Char} (blank : isBlank c = true) :
    isWordChar c = false ∧ c ≠ '@' := by
  refine ⟨isWordChar_of_isBlank blank, ?_⟩
  rintro rfl
  exact absurd blank (by decide)

theorem closing_backslash : ∀ c ∈ ['\\'], isWordChar c = false ∧ c ≠ '@' := by
  intro c inside
  rw [List.mem_singleton.1 inside]
  decide

theorem opening?_trimRight (cs : List Char) : opening? (trimRight cs) = opening? cs := by
  obtain ⟨blanks, whole, blank⟩ := exists_trimRight_append cs
  conv_rhs => rw [whole]
  exact (opening?_append_of_closing fun c inside => closing_of_isBlank (blank c inside)).symm

theorem opening?_dropClose (cs : List Char) : opening? (dropClose cs) = opening? cs := by
  obtain ⟨tail, whole, close⟩ := exists_dropClose_append cs
  conv_rhs => rw [whole]
  refine (opening?_append_of_closing fun c inside => ?_).symm
  rcases close c inside with blank | rfl | rfl
  · exact closing_of_isBlank blank
  · decide
  · decide

def kindRead? (cs : List Char) : Option TagKind :=
  (opening? cs).bind fun o => TagKind.ofWord? (.ofList o.2)

theorem kindRead?_congr {ds : List Char} (same : opening? cs = opening? ds) :
    kindRead? cs = kindRead? ds := by
  rw [kindRead?, kindRead?, same]

theorem opens_of_kindRead? {kind : TagKind} (read : kindRead? cs = some kind) : opens cs = true := by
  obtain ⟨o, opened, _⟩ := Option.bind_eq_some_iff.1 read
  exact Option.isSome_of_eq_some opened

theorem exists_of_opening? {kind : TagKind} {word : List Char}
    (opened : opening? cs = some (kind, word)) :
    word ⊆ cs ∧ List.Forall₂ (fun letter c => isCaseOf letter c = true) kind.word.toList word := by
  obtain ⟨rest, rfl⟩ := head_of_opening? (Option.isSome_of_eq_some opened)
  simp only [opening?] at opened
  obtain ⟨other, _, read⟩ := List.exists_of_findSome?_eq_some opened
  obtain ⟨more, dropped, ends⟩ := Option.bind_eq_some_iff.1 read
  obtain ⟨u, rfl, spelt⟩ := Pattern.dropKeyword?_eq_some.1 dropped
  have long : other.word.length = u.length := by
    rw [← String.length_toList]
    exact spelt.length_eq
  rw [long, List.take_left] at ends
  split at ends
  · cases ends
  · obtain ⟨rfl, rfl⟩ := Prod.mk.inj (Option.some.inj ends)
    exact ⟨fun c inside => List.mem_cons_of_mem _ (List.mem_append_left _ inside), spelt⟩

/-- Only a long s keeps the kind of a tag from being read. -/
theorem longS_mem_of_kindRead?_eq_none (opened : opens cs = true) (unread : kindRead? cs = none) :
    '\u017f' ∈ cs := by
  by_contra plain
  obtain ⟨⟨kind, word⟩, found⟩ := Option.isSome_iff_exists.1 opened
  obtain ⟨inside, spelt⟩ := exists_of_opening? found
  have read := kind.ofWord?_of_spelt spelt fun long => plain (inside long)
  rw [kindRead?, found, Option.bind_some, read] at unread
  cases unread

theorem ofText?_eq (style : CommentStyle) (text : List Char) (source : Source) :
    ofText? style text source = (kindRead? (style.content text)).map fun kind =>
      ⟨kind, .ofList (respace (dropClose (style.content text))), source⟩ := by
  simp only [ofText?, kindRead?, Option.bind_eq_bind]
  cases opening? (style.content text) with
  | none => rfl
  | some o => exact (Option.map_eq_bind ..).symm

theorem ofText?_of_source {text : List Char} {source : Source} {tag : Tag}
    (found : ofText? style text source = some tag) (other : Source) :
    ofText? style text other = some { tag with source := other } := by
  rw [ofText?_eq] at found ⊢
  obtain ⟨kind, read, rfl⟩ := Option.map_eq_some_iff.1 found
  rw [read]
  rfl

theorem opening?_piece (line : List Char) :
    opening? (piece style line) = opening? (style.content line) := opening?_dropClose _

/-- A line as it takes part in a tag holds the tag that the line holds, but for one more close that
is dropped. -/
theorem ofText?_piece (proper : style.Proper) (line : List Char) (source : Source) :
    ofText? style (piece style line) source = (ofText? style line source).map fun tag =>
      { tag with text := .ofList (respace (dropClose (piece style line))) } := by
  rw [ofText?_eq, ofText?_eq, content_piece proper, kindRead?_congr (opening?_piece line),
    Option.map_map]
  rfl

end Tag

end ThreatModel
