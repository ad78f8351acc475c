import ThreatModel.Proofs.Tag.Comment

namespace ThreatModel

open Text

namespace CommentStyle

variable {ms ns : List String} {marks : Set (List Char)} {m n cs rest : List Char}

theorem byteLength_append (cs ds : List Char) :
    byteLength (cs ++ ds) = byteLength cs + byteLength ds := by
  have from' (n : Nat) : ds.foldl (fun n c => n + c.utf8Size) n = n + byteLength ds := by
    induction ds generalizing n with
    | nil => rfl
    | cons d ds ih =>
      rw [byteLength, List.foldl_cons, List.foldl_cons, ih, ih (0 + d.utf8Size)]
      omega
  rw [byteLength, List.foldl_append, from']
  rfl

theorem length_le_byteLength (cs : List Char) : cs.length ≤ byteLength cs := by
  induction cs with
  | nil => exact Nat.le_refl _
  | cons c cs ih =>
    have here : byteLength [c] = c.utf8Size := Nat.zero_add _
    have positive := c.utf8Size_pos
    rw [← List.singleton_append, byteLength_append, here, List.length_append, List.length_singleton]
    omega

theorem pairwise_markers (ms : List String) :
    (ofMarkers ms).markers.Pairwise fun m n => byteLength n ≤ byteLength m := by
  refine List.Pairwise.sublist (eraseReps_sublist _) ?_
  refine List.Pairwise.imp of_decide_eq_true (List.pairwise_mergeSort (fun a b c => ?_) ?_ _)
  · simpa using fun ab bc => Nat.le_trans bc ab
  · intro a b
    simpa using Nat.le_total (byteLength b) (byteLength a)

theorem length_le_of_byteLength_le (left : m <+: cs) (right : n <+: cs)
    (bytes : byteLength n ≤ byteLength m) : n.length ≤ m.length := by
  rcases List.prefix_or_prefix_of_prefix left right with ⟨more, rfl⟩ | shorter
  · have none' := length_le_byteLength more
    rw [byteLength_append] at bytes
    rw [List.length_append]
    omega
  · exact shorter.length_le

structure Leads (marks : Set (List Char)) (m cs : List Char) : Prop where
  mark : m ∈ marks
  starts : m <+: cs
  longest : ∀ n ∈ marks, n <+: cs → n.length ≤ m.length

theorem Leads.unique (left : Leads marks m cs) (right : Leads marks n cs) : m = n := by
  have shorter := right.longest m left.mark left.starts
  have longer := left.longest n right.mark right.starts
  have start := List.prefix_of_prefix_length_le left.starts right.starts shorter
  exact start.eq_of_length_le longer

theorem leads_of_dropMarker? (found : (ofMarkers ms).dropMarker? cs = some rest) :
    ∃ m, Leads (markerSet ms) m cs ∧ rest = trimLeft (cs.drop m.length) := by
  obtain ⟨more, first, rfl⟩ := Option.map_eq_some_iff.1 found
  obtain ⟨front, m, back, markers, here, passed⟩ := List.findSome?_eq_some_iff.1 first
  obtain rfl := dropHead?_eq_some.1 here
  have ordered := markers ▸ pairwise_markers ms
  have starts : m <+: m ++ more := List.prefix_append m more
  refine ⟨m, ⟨?_, starts, ?_⟩, by rw [List.drop_left]⟩
  · exact mem_markers_iff.1 (markers ▸ List.mem_append_right _ List.mem_cons_self)
  · intro n mark begins
    have member : n ∈ front ++ m :: back := markers ▸ mem_markers_iff.2 mark
    rcases List.mem_append.1 member with before | after
    · exact absurd begins (dropHead?_eq_none.1 (passed n before))
    · rcases List.mem_cons.1 after with rfl | after
      · exact Nat.le_refl _
      · have behind := (List.pairwise_cons.1 (List.pairwise_append.1 ordered).2.1).1 n after
        exact length_le_of_byteLength_le starts begins behind

/-- What is left when the longest marker at the start of a text is dropped, and the blanks after it,
for as long as there is a marker. -/
inductive Stripped (marks : Set (List Char)) : List Char → List Char → Prop
  | bare {cs : List Char} : (∀ m ∈ marks, ¬ m <+: cs) → Stripped marks cs cs
  | drop {m cs rest : List Char} : Leads marks m cs →
      Stripped marks (trimLeft (cs.drop m.length)) rest → Stripped marks cs rest

theorem Stripped.unique {a b : List Char} (left : Stripped marks cs a) (right : Stripped marks cs b) :
    a = b := by
  induction left with
  | bare unmarked =>
    cases right with
    | bare => rfl
    | drop leads _ => exact absurd leads.starts (unmarked _ leads.mark)
  | drop leads _ ih =>
    cases right with
    | bare unmarked => exact absurd leads.starts (unmarked _ leads.mark)
    | drop other later =>
      obtain rfl := leads.unique other
      exact ih later

/-- Every drop makes the text shorter, so the stripping ends because no marker is left. -/
theorem stripped_dropMarkers (ms : List String) (cs : List Char) :
    Stripped (markerSet ms) cs ((ofMarkers ms).dropMarkers cs) := by
  induction cs using dropMarkers.induct (ofMarkers ms) with
  | case1 cs none =>
    have unmarked := dropMarker?_eq_none.1 none
    rw [dropMarkers_of_unmarked unmarked]
    exact .bare fun m mark => unmarked m (mem_markers_iff.2 mark)
  | case2 cs rest found shorter ih =>
    rw [dropMarkers, found]
    simp only [shorter, if_true]
    obtain ⟨m, leads, rfl⟩ := leads_of_dropMarker? found
    exact .drop leads ih
  | case3 cs rest found long =>
    exact absurd (length_lt_of_dropMarker? (proper_ofMarkers ms) found) long

theorem stripped_iff {line rest : List Char} :
    Stripped (markerSet ms) (trim line) rest ↔ (ofMarkers ms).content line = rest := by
  have ends := stripped_dropMarkers ms (trim line)
  exact ⟨ends.unique, fun same => same ▸ ends⟩

theorem content_of_markerSet_eq (same : markerSet ms = markerSet ns) :
    (ofMarkers ms).content = (ofMarkers ns).content :=
  funext fun _ => stripped_iff.1 (same ▸ stripped_iff.2 rfl)

end CommentStyle

namespace Tag

section Congruence

variable {style other : CommentStyle} (same : style.content = other.content)

include same

theorem continued_congr (text : List Char) (ls : List (List Char × Nat)) :
    continued style text ls = continued other text ls := by
  induction ls generalizing text with
  | nil => rfl
  | cons next more ih =>
    simp only [continued, piece, same]
    cases dropTail? ['\\'] text with
    | none => rfl
    | some head => exact ih _

theorem ofText?_congr (text : List Char) (source : Source) :
    ofText? style text source = ofText? other text source := by
  rw [ofText?, ofText?, same]

theorem ofLines_congr (path : String) (ls : List (List Char × Nat)) :
    ofLines style path ls = ofLines other path ls := by
  have pieces (line : List Char) : piece style line = piece other line := by rw [piece, piece, same]
  induction ls using ofLines.induct style with
  | case1 => rw [ofLines, ofLines]
  | case2 line number rest opened joined ih =>
    have joins : continued other (piece style line) rest = joined :=
      (continued_congr same (piece style line) rest).symm
    have read : ofLine? style path number joined.1 = ofLine? other path number joined.1 :=
      ofText?_congr same _ _
    rw [ofLines, ofLines, ← pieces line, if_pos opened, if_pos opened, joins]
    dsimp only
    rw [← ih, ← read]
  | case3 line number rest closed ih =>
    rw [ofLines, ofLines, ← pieces line, if_neg closed, if_neg closed, ih]

end Congruence

end Tag

namespace CommentStyle

/-- Texts, lines and files are read by the set of the trimmed markers alone. Whatever the markers are,
stripping a line of them comes to an end, and to one end only. What is left is an end of the trimmed
line that starts neither with a blank nor with a marker. -/
theorem read_of_markerSet_eq (ms ns : List String) :
    (markerSet ms = markerSet ns →
      (∀ text source,
        Tag.ofText? (ofMarkers ms) text source = Tag.ofText? (ofMarkers ns) text source) ∧
      (∀ path number line,
        Tag.ofLine? (ofMarkers ms) path number line = Tag.ofLine? (ofMarkers ns) path number line) ∧
      ∀ path text, Tag.ofFile (ofMarkers ms) path text = Tag.ofFile (ofMarkers ns) path text) ∧
    ∀ line,
      (∀ rest, Stripped (markerSet ms) (trim line) rest ↔ (ofMarkers ms).content line = rest) ∧
      (ofMarkers ms).content line <:+ trim line ∧
      BeginsDark ((ofMarkers ms).content line) ∧
      ∀ m ∈ markerSet ms, ¬ m <+: (ofMarkers ms).content line := by
  constructor
  · intro same
    have contents := content_of_markerSet_eq same
    refine ⟨Tag.ofText?_congr contents, fun _ _ line => Tag.ofText?_congr contents line _, ?_⟩
    exact fun path text => Tag.ofLines_congr contents path _
  · intro line
    have bare := bare_content (proper_ofMarkers ms) line
    refine ⟨fun _ => stripped_iff, dropMarkers_suffix _ (trim line), bare.dark, ?_⟩
    exact fun m mark => bare.unmarked m (mem_markers_iff.2 mark)

def dashes : List String := ["--", "---", " ;; "]

def shuffledDashes : List String := ["---", ";;", "--", " ", "---", "--"]

def dashedFile : String := "----- @review @web:@app open \\\n  --;; question\n"

theorem read_shuffledDashes :
    (ofMarkers dashes).markers ≠ (ofMarkers shuffledDashes).markers ∧
    markerSet dashes = markerSet shuffledDashes ∧
    Tag.ofFile (ofMarkers dashes) "a.lua" dashedFile =
      Tag.ofFile (ofMarkers shuffledDashes) "a.lua" dashedFile ∧
    (Tag.ofFile (ofMarkers dashes) "a.lua" dashedFile).map Tag.text =
      ["@review @web:@app open question"] := by
  have first : (ofMarkers dashes).markers = ["---", "--", ";;"].map String.toList := by
    rw [ofMarkers_eq]
    decide +kernel
  have second : (ofMarkers shuffledDashes).markers = ["---", ";;", "--"].map String.toList := by
    rw [ofMarkers_eq]
    decide +kernel
  have same : markerSet dashes = markerSet shuffledDashes := by
    ext m
    rw [← mem_markers_iff, ← mem_markers_iff, first, second]
    simp only [List.map_cons, List.map_nil, List.mem_cons, List.not_mem_nil, or_false]
    exact or_congr_right or_comm
  refine ⟨?_, same, ((read_of_markerSet_eq dashes shuffledDashes).1 same).2.2 _ _, ?_⟩
  · rw [first, second]
    decide
  · rw [ofMarkers_eq]
    decide +kernel

end CommentStyle

end ThreatModel
