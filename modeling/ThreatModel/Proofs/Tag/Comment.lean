import Mathlib.Data.List.Sort
import ThreatModel.Proofs.Text.Trim
import ThreatModel.Tag

namespace ThreatModel

open Text

namespace CommentStyle

variable {style : CommentStyle} {cs ds line : List Char}

structure Bare (style : CommentStyle) (cs : List Char) : Prop where
  dark : BeginsDark cs
  unmarked : ∀ m ∈ style.markers, ¬ m <+: cs

theorem Bare.of_isPrefix (bare : style.Bare ds) (h : cs <+: ds) : style.Bare cs where
  dark := bare.dark.of_isPrefix h
  unmarked m member begins := bare.unmarked m member (begins.trans h)

def Proper (style : CommentStyle) : Prop := ∀ m ∈ style.markers, m ≠ []

theorem eraseReps_cons_cons {α : Type} [BEq α] (a b : α) (as : List α) :
    (a :: b :: as).eraseReps =
      if a == b then (a :: as).eraseReps else a :: (b :: as).eraseReps := by
  have loop_acc (acc : List α) : List.eraseRepsBy.loop (· == ·) b as acc =
      acc.reverse ++ (b :: as).eraseReps := by
    rw [List.eraseReps, List.eraseRepsBy]
    induction as generalizing b acc with
    | nil => simp [List.eraseRepsBy.loop]
    | cons c as ih =>
      simp only [List.eraseRepsBy.loop]
      split
      · exact ih b acc
      · rw [ih c (b :: acc), ih c [b]]
        simp
  cases same : a == b with
  | true => simp [List.eraseReps, List.eraseRepsBy, List.eraseRepsBy.loop, same]
  | false =>
    rw [List.eraseReps, List.eraseRepsBy, List.eraseRepsBy.loop, same]
    exact loop_acc [a]

theorem eraseReps_sublist {α : Type} [BEq α] (as : List α) : as.eraseReps.Sublist as := by
  cases as with
  | nil => exact .slnil
  | cons a as =>
    induction as generalizing a with
    | nil => exact List.Sublist.refl _
    | cons b as ih =>
      rw [eraseReps_cons_cons]
      split
      · exact (ih a).trans ((List.sublist_cons_self b as).cons_cons a)
      · exact (ih b).cons_cons a

theorem mem_eraseReps {α : Type} [BEq α] [LawfulBEq α] {x : α} {as : List α} :
    x ∈ as.eraseReps ↔ x ∈ as := by
  refine ⟨fun found => (eraseReps_sublist as).subset found, fun member => ?_⟩
  cases as with
  | nil => cases member
  | cons a as =>
    induction as generalizing a with
    | nil => exact member
    | cons b as ih =>
      rw [eraseReps_cons_cons]
      split
      · next same =>
        obtain rfl := eq_of_beq same
        exact ih a (by simpa using member)
      · rcases List.mem_cons.1 member with rfl | later
        · exact List.mem_cons_self
        · exact List.mem_cons_of_mem _ (ih b later)

section Sorting

variable {α : Type} {r : α → α → Prop} [DecidableRel r]

theorem orderedInsert_append {a : α} {before after : List α} (above : ∀ b ∈ before, ¬ r a b)
    (below : ∀ b ∈ after, r a b) :
    (before ++ after).orderedInsert r a = before ++ a :: after := by
  induction before with
  | nil =>
    cases after with
    | nil => rfl
    | cons b after => exact if_pos (below b List.mem_cons_self)
  | cons b before ih =>
    rw [List.cons_append, List.orderedInsert_cons, if_neg (above b List.mem_cons_self),
      ih fun c later => above c (List.mem_cons_of_mem b later), List.cons_append]

/-- Both keep the order of items of which neither comes first, so `r` need not tell them apart. -/
theorem mergeSort_eq_insertionSort (trans : ∀ a b c, r a b → r b c → r a c)
    (total : ∀ a b, r a b ∨ r b a) (as : List α) :
    as.mergeSort (fun a b => r a b) = as.insertionSort r := by
  have trans' : ∀ a b c : α, decide (r a b) = true → decide (r b c) = true →
      decide (r a c) = true := by simpa using trans
  have total' : ∀ a b : α, (decide (r a b) || decide (r b a)) = true := by simpa using total
  induction as with
  | nil => simp
  | cons a as ih =>
    obtain ⟨before, after, whole, rest, first⟩ := List.mergeSort_cons trans' total' a as
    have sorted := List.pairwise_mergeSort trans' total' (a :: as)
    rw [whole] at sorted
    have below := (List.pairwise_cons.1 (List.pairwise_append.1 sorted).2.1).1
    rw [whole, List.insertionSort_cons, ← ih, rest]
    exact (orderedInsert_append (by simpa using first) (by simpa using below)).symm

end Sorting

theorem ofMarkers_eq (ms : List String) :
    ofMarkers ms = ⟨(((ms.map (trim ·.toList)).filter (!·.isEmpty)).insertionSort
      fun m n => byteLength n ≤ byteLength m).eraseReps⟩ := by
  have sorted := mergeSort_eq_insertionSort (r := fun m n => byteLength n ≤ byteLength m)
    (fun _ _ _ first second => second.trans first) fun _ _ => Nat.le_total _ _
  rw [ofMarkers, sorted]

def markerSet (ms : List String) : Set (List Char) := {m | m ≠ [] ∧ ∃ s ∈ ms, trim s.toList = m}

theorem mem_markerSet {ms : List String} {m : List Char} :
    m ∈ markerSet ms ↔ m ≠ [] ∧ ∃ s ∈ ms, trim s.toList = m := Iff.rfl

theorem mem_markers_iff {ms : List String} {m : List Char} :
    m ∈ (ofMarkers ms).markers ↔ m ∈ markerSet ms := by
  simp only [ofMarkers, mem_eraseReps, List.mem_mergeSort, List.mem_filter, List.mem_map,
    Bool.not_eq_true', List.isEmpty_eq_false_iff, mem_markerSet]
  exact and_comm

theorem proper_ofMarkers (ms : List String) : (ofMarkers ms).Proper :=
  fun _ member => (mem_markers_iff.1 member).1

theorem dropMarker?_eq_none :
    style.dropMarker? cs = none ↔ ∀ m ∈ style.markers, ¬ m <+: cs := by
  simp only [dropMarker?, Option.map_eq_none_iff, List.findSome?_eq_none_iff, dropHead?_eq_none]

theorem exists_of_dropMarker? {rest : List Char} (found : style.dropMarker? cs = some rest) :
    ∃ m ∈ style.markers, ∃ more, cs = m ++ more ∧ rest = trimLeft more := by
  obtain ⟨more, first, rfl⟩ := Option.map_eq_some_iff.1 found
  obtain ⟨m, member, begins⟩ := List.exists_of_findSome?_eq_some first
  exact ⟨m, member, more, dropHead?_eq_some.1 begins, rfl⟩

theorem length_lt_of_dropMarker? (proper : style.Proper) {rest : List Char}
    (found : style.dropMarker? cs = some rest) : rest.length < cs.length := by
  obtain ⟨m, member, more, rfl, rfl⟩ := exists_of_dropMarker? found
  have marked := List.length_pos_of_ne_nil (proper m member)
  have shorter := (trimLeft_suffix more).length_le
  rw [List.length_append]
  omega

theorem dropMarkers_of_unmarked (unmarked : ∀ m ∈ style.markers, ¬ m <+: cs) :
    style.dropMarkers cs = cs := by
  rw [dropMarkers, dropMarker?_eq_none.2 unmarked]

theorem bare_dropMarkers (proper : style.Proper) (dark : BeginsDark cs) :
    style.Bare (style.dropMarkers cs) := by
  induction cs using dropMarkers.induct style with
  | case1 cs none =>
    have unmarked := dropMarker?_eq_none.1 none
    rw [dropMarkers_of_unmarked unmarked]
    exact ⟨dark, unmarked⟩
  | case2 cs rest found shorter ih =>
    rw [dropMarkers, found]
    simp only [shorter, if_true]
    obtain ⟨_, _, more, _, rfl⟩ := exists_of_dropMarker? found
    exact ih (beginsDark_trimLeft more)
  | case3 cs rest found long => exact absurd (length_lt_of_dropMarker? proper found) long

theorem dropMarkers_suffix (style : CommentStyle) (cs : List Char) :
    style.dropMarkers cs <:+ cs := by
  induction cs using dropMarkers.induct style with
  | case1 cs none =>
    have same := dropMarkers_of_unmarked (dropMarker?_eq_none.1 none)
    exact ⟨[], same⟩
  | case2 cs rest found shorter ih =>
    rw [dropMarkers, found]
    simp only [shorter, if_true]
    obtain ⟨m, _, more, rfl, rfl⟩ := exists_of_dropMarker? found
    exact ih.trans ((trimLeft_suffix more).trans (List.suffix_append m more))
  | case3 cs rest found long =>
    rw [dropMarkers, found]
    simp only [long, if_false]
    exact List.suffix_refl cs

theorem bare_content (proper : style.Proper) (line : List Char) :
    style.Bare (style.content line) :=
  bare_dropMarkers proper ((beginsDark_trimLeft line).of_isPrefix (trimRight_isPrefix _))

theorem content_of_bare (bare : style.Bare cs) : style.content cs = trimRight cs := by
  rw [content, trim, trimLeft_of_beginsDark bare.dark]
  exact dropMarkers_of_unmarked (bare.of_isPrefix (trimRight_isPrefix cs)).unmarked

theorem content_subset (line : List Char) : style.content line ⊆ line := by
  intro c inside
  have trimmed := (dropMarkers_suffix style (trim line)).subset inside
  exact (trimLeft_suffix line).subset ((trimRight_isPrefix _).subset trimmed)

theorem usual_eq :
    usual = ⟨["\"\"\"", "'''", "//", "/*", "--", "*", "#"].map String.toList⟩ := by
  rw [usual, ofMarkers_eq]
  exact congrArg CommentStyle.mk (by decide +kernel)

theorem head_of_mem_usual : ∀ m ∈ usual.markers, ∀ c ∈ m.head?, isBlank c = false ∧ c ≠ '@' := by
  have each : usual.markers.all (fun m => m.head?.all fun c => !isBlank c && c != '@') = true := by
    rw [usual_eq]
    decide
  intro m member c first
  have here := List.all_eq_true.1 each m member
  rw [Option.mem_def.1 first] at here
  simpa using here

theorem bare_usual (cs : List Char) : usual.Bare ('@' :: cs) where
  dark := beginsDark_cons (by decide)
  unmarked m member begins := by
    obtain ⟨c, m, rfl⟩ := List.exists_cons_of_ne_nil (proper_ofMarkers _ m member)
    exact (head_of_mem_usual _ member c rfl).2 (List.cons_prefix_cons.1 begins).1

end CommentStyle

namespace Tag

variable {style : CommentStyle} {cs : List Char}

theorem endsDark_dropClose (cs : List Char) : EndsDark (dropClose cs) := by
  unfold dropClose
  split
  · exact endsDark_trimRight _
  · exact endsDark_trimRight cs

theorem dropClose_trimRight (cs : List Char) : dropClose (trimRight cs) = dropClose cs := by
  rw [dropClose, dropClose, trimRight_of_endsDark (endsDark_trimRight cs)]

theorem dropClose_of_open (ends : EndsDark cs) (unclosed : ¬ ['*', '/'] <:+ cs) :
    dropClose cs = cs := by
  rw [dropClose, trimRight_of_endsDark ends, dropTail?_eq_none.2 unclosed]

theorem exists_dropClose_append (cs : List Char) :
    ∃ tail, cs = dropClose cs ++ tail ∧ ∀ c ∈ tail, isBlank c = true ∨ c = '*' ∨ c = '/' := by
  obtain ⟨blanks, whole, blank⟩ := exists_trimRight_append cs
  unfold dropClose
  split
  · next rest closed =>
    obtain ⟨more, front, between⟩ := exists_trimRight_append rest
    refine ⟨more ++ ['*', '/'] ++ blanks, ?_, ?_⟩
    · rw [List.append_assoc, ← List.append_assoc, ← front]
      conv_lhs => rw [whole, dropTail?_eq_some.1 closed]
      simp
    · intro c inside
      simp only [List.mem_append, List.mem_cons, List.not_mem_nil, or_false] at inside
      rcases inside with (early | close) | late
      · exact .inl (between c early)
      · exact .inr close
      · exact .inl (blank c late)
  · exact ⟨blanks, whole, fun c inside => .inl (blank c inside)⟩

theorem dropClose_isPrefix (cs : List Char) : dropClose cs <+: cs := by
  obtain ⟨tail, whole, _⟩ := exists_dropClose_append cs
  exact ⟨tail, whole.symm⟩

theorem bare_piece (proper : style.Proper) (line : List Char) : style.Bare (piece style line) :=
  (style.bare_content proper line).of_isPrefix (dropClose_isPrefix _)

theorem content_piece (proper : style.Proper) (line : List Char) :
    style.content (piece style line) = piece style line := by
  rw [CommentStyle.content_of_bare (bare_piece proper line)]
  exact trimRight_of_endsDark (endsDark_dropClose _)

theorem piece_subset (line : List Char) : piece style line ⊆ line := fun _ inside =>
  CommentStyle.content_subset line ((dropClose_isPrefix _).subset inside)

end Tag

end ThreatModel
