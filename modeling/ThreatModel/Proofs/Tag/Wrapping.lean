import ThreatModel.Proofs.Tag.Found
import ThreatModel.Proofs.Tag.Lines
import ThreatModel.Proofs.Text.Spacing

namespace ThreatModel

open Text

namespace CommentStyle

variable {cs m : List Char}

theorem Bare.append_space {style : CommentStyle} (spaceless : ∀ m ∈ style.markers, ' ' ∉ m)
    (bare : style.Bare cs) (some' : cs ≠ []) (rest : List Char) :
    style.Bare (cs ++ ' ' :: rest) where
  dark := by
    obtain ⟨c, cs, rfl⟩ := List.exists_cons_of_ne_nil some'
    exact beginsDark_cons (bare.dark c rfl)
  unmarked m member begins := by
    obtain ⟨after, whole⟩ := begins
    rcases List.append_eq_append_iff.1 whole with ⟨more, within, _⟩ | ⟨more, within, later⟩
    · exact bare.unmarked m member ⟨more, within.symm⟩
    · cases more with
      | nil => exact bare.unmarked m member (by simp [within])
      | cons c more =>
        have space := (List.cons.inj later).1
        exact spaceless m member (by rw [within, ← space]; simp)

theorem usual_spaceless : ∀ m ∈ usual.markers, ' ' ∉ m := by
  rw [usual_eq]
  decide

theorem usual_prefix_free : ∀ m ∈ usual.markers, ∀ n ∈ usual.markers, n <+: m → n = m := by
  rw [usual_eq]
  decide

theorem dropMarker?_usual (member : m ∈ usual.markers) (cs : List Char) :
    usual.dropMarker? (m ++ cs) = some (trimLeft cs) := by
  cases found : usual.dropMarker? (m ++ cs) with
  | none => exact absurd (List.prefix_append m cs) (dropMarker?_eq_none.1 found m member)
  | some rest =>
    obtain ⟨n, other, more, whole, rfl⟩ := exists_of_dropMarker? found
    have same : n = m := by
      rcases List.prefix_or_prefix_of_prefix (List.prefix_append n more)
        (whole ▸ List.prefix_append m cs) with shorter | longer
      · exact usual_prefix_free m member n other shorter
      · exact (usual_prefix_free n other m member longer).symm
    subst same
    rw [List.append_cancel_left whole]

/-- Spaces, tabs and usual markers, in any order. -/
inductive Margin : List Char → Prop
  | nil : Margin []
  | blank {c : Char} {ms : List Char} : c = ' ' ∨ c = '\t' → Margin ms → Margin (c :: ms)
  | marker {m ms : List Char} : m ∈ usual.markers → Margin ms → Margin (m ++ ms)

theorem dropMarkers_margin {ms : List Char} (margin : Margin ms) (bare : usual.Bare cs) :
    usual.dropMarkers (trimLeft (ms ++ cs)) = cs := by
  induction margin with
  | nil =>
    rw [List.nil_append, trimLeft_of_beginsDark bare.dark]
    exact dropMarkers_of_unmarked bare.unmarked
  | @blank c ms blank _ ih =>
    have here : isBlank c = true := by
      rcases blank with rfl | rfl <;> decide
    rwa [List.cons_append, trimLeft_blank here]
  | @marker m ms member _ ih =>
    have marked := proper_ofMarkers _ m member
    have dark : BeginsDark (m ++ (ms ++ cs)) := by
      obtain ⟨c, m, rfl⟩ := List.exists_cons_of_ne_nil marked
      exact beginsDark_cons (head_of_mem_usual _ member c rfl).1
    have shorter : (trimLeft (ms ++ cs)).length < (m ++ (ms ++ cs)).length :=
      length_lt_of_dropMarker? (proper_ofMarkers _) (dropMarker?_usual member _)
    rw [List.append_assoc, trimLeft_of_beginsDark dark, dropMarkers, dropMarker?_usual member]
    simp only [shorter, if_true]
    exact ih

theorem content_margin {ms : List Char} (margin : Margin ms) (bare : usual.Bare cs)
    (ends : EndsDark cs) (some' : cs ≠ []) : usual.content (ms ++ cs) = cs := by
  have stripped := dropMarkers_margin margin bare
  obtain ⟨front, whole⟩ := stripped ▸ dropMarkers_suffix usual (trimLeft (ms ++ cs))
  have dark : EndsDark (trimLeft (ms ++ cs)) := whole ▸ ends.append_left some' front
  rw [content, trim, trimRight_of_endsDark dark, stripped]

end CommentStyle

namespace Tag

structure Part where
  margin : List Char
  words : List (List Char)

def lineEnd : List Part → List Char
  | [] => []
  | _ :: _ => [' ', '\\']

def wrapped : List Part → List (List Char)
  | [] => []
  | part :: rest => (part.margin ++ (unwords part.words ++ lineEnd rest)) :: wrapped rest

/-- The words of a text, some on each line. The words of no line end in a backslash, those after the
first line do not start with a marker, and the last ones do not end a comment. -/
structure IsWrapping (text : List Char) (parts : List Part) : Prop where
  whole : parts.flatMap Part.words = words text
  margin : ∀ part ∈ parts, CommentStyle.Margin part.margin
  some' : ∀ part ∈ parts, part.words ≠ []
  unbroken : ∀ part ∈ parts, ¬ ['\\'] <:+ unwords part.words
  unmarked : ∀ part ∈ parts.tail, ∀ m ∈ CommentStyle.usual.markers, ¬ m <+: unwords part.words
  unclosed : ∀ part ∈ parts.getLast?, ¬ ['*', '/'] <:+ unwords part.words

structure Part.Fits (part : Part) : Prop where
  margin : CommentStyle.Margin part.margin
  some' : part.words ≠ []
  proper : ∀ w ∈ part.words, IsWord w
  unbroken : ¬ ['\\'] <:+ unwords part.words
  bare : CommentStyle.usual.Bare (unwords part.words)

variable {part : Part}

theorem piece_wrapped (rest : List Part) (fits : part.Fits)
    (unclosed : rest = [] → ¬ ['*', '/'] <:+ unwords part.words) :
    piece .usual (part.margin ++ (unwords part.words ++ lineEnd rest)) =
      unwords part.words ++ lineEnd rest := by
  have text := unwords_ne_nil fits.proper fits.some'
  cases rest with
  | nil =>
    have ends := endsDark_unwords fits.proper
    rw [lineEnd, List.append_nil, piece, CommentStyle.content_margin fits.margin fits.bare ends text]
    exact dropClose_of_open ends (unclosed rfl)
  | cons next rest =>
    have bare : CommentStyle.usual.Bare (unwords part.words ++ [' ', '\\']) :=
      fits.bare.append_space CommentStyle.usual_spaceless text ['\\']
    have ends : EndsDark (unwords part.words ++ [' ', '\\']) := by
      have slash := endsDark_concat (c := '\\') (by decide) (unwords part.words ++ [' '])
      rwa [List.append_assoc] at slash
    have opened : ¬ ['*', '/'] <:+ unwords part.words ++ [' ', '\\'] := by
      rintro ⟨front, same⟩
      have last := congrArg List.getLast? same
      simp at last
    rw [lineEnd, piece, CommentStyle.content_margin fits.margin bare ends (by simp)]
    exact dropClose_of_open ends opened

theorem continued_wrapped {ws : List (List Char)} {rest : List Part}
    (proper : ∀ w ∈ ws, IsWord w) (some' : ws ≠ []) (unbroken : ¬ ['\\'] <:+ unwords ws)
    (fit : ∀ part ∈ rest, part.Fits)
    (unclosed : ∀ part ∈ rest.getLast?, ¬ ['*', '/'] <:+ unwords part.words) (number : Nat) :
    continued .usual (unwords ws ++ lineEnd rest) ((wrapped rest).zipIdx number) =
      (unwords (ws ++ rest.flatMap Part.words), []) := by
  -- Induction on the lines to come; the words that are joined so far grow with each of them.
  induction rest generalizing ws number with
  | nil =>
    rw [lineEnd, List.append_nil, continued_of_ended unbroken, List.flatMap_nil, List.append_nil]
    rfl
  | cons part rest ih =>
    have fits := fit part List.mem_cons_self
    have broken : unwords ws ++ lineEnd (part :: rest) = (unwords ws ++ [' ']) ++ ['\\'] := by
      rw [List.append_assoc]
      rfl
    have here := piece_wrapped rest fits fun last => unclosed part (by rw [last]; rfl)
    have joined : unwords (ws ++ part.words) = unwords ws ++ ' ' :: unwords part.words :=
      unwords_append_of_ne_nil some' fits.some'
    have later : continued .usual (unwords (ws ++ part.words) ++ lineEnd rest)
        ((wrapped rest).zipIdx (number + 1)) =
          (unwords (ws ++ part.words ++ rest.flatMap Part.words), []) := by
      apply ih
      · exact fun w inside => (List.mem_append.1 inside).elim (proper w) (fits.proper w)
      · exact List.append_ne_nil_of_left_ne_nil some' _
      · rw [joined, backslash_suffix_append_space]
        exact fits.unbroken
      · exact fun next inside => fit next (List.mem_cons_of_mem _ inside)
      · exact fun next last => unclosed next (by rw [List.getLast?_cons, Option.mem_def.1 last]; rfl)
    rw [wrapped, List.zipIdx_cons, continued, broken, dropTail?_eq_some.2 rfl]
    dsimp only
    rw [trimRight_append_space (endsDark_unwords proper), here, List.flatMap_cons,
      ← List.append_assoc, ← later, joined, List.append_assoc, List.cons_append]

theorem atGap_lineEnd (rest : List Part) : AtGap (lineEnd rest) := by
  cases rest with
  | nil => intro c none; cases none
  | cons => intro c space; exact Option.some.inj space ▸ isBlank_space

theorem opening?_append_of_atGap {cs tail : List Char} (some' : cs ≠ []) (gap : AtGap tail) :
    opening? (cs ++ tail) = opening? cs :=
  opening?_append some' fun c first => isWordChar_of_isBlank (gap c first)

section OneTag

variable {t : String} {kind : TagKind} {source : Source}
  (found : ofText? .usual t.toList source = some ⟨kind, t, source⟩)

include found

theorem head_of_ofText? : ∃ rest, t.toList = '@' :: rest := by
  rw [ofText?_eq] at found
  obtain ⟨_, read, same⟩ := Option.map_eq_some_iff.1 found
  have text : String.ofList (respace (dropClose (CommentStyle.usual.content t.toList))) = t :=
    congrArg Tag.text same
  have opened : (opening? (dropClose (CommentStyle.usual.content t.toList))).isSome = true := by
    rw [opening?_dropClose]
    exact opens_of_kindRead? read
  obtain ⟨rest, start⟩ := head_of_opening? opened
  rw [← text, String.toList_ofList, start]
  exact exists_respace_cons (by decide) (by decide) rest

theorem unwords_words_of_ofText? : unwords (words t.toList) = t.toList := by
  have held : Found .usual ⟨kind, t, source⟩ := ⟨_, _, found⟩
  have normal := normal_of_found held
  exact unwords_words normal

theorem content_of_ofText? : CommentStyle.usual.content t.toList = t.toList := by
  have ends : EndsDark t.toList := by
    rw [← unwords_words_of_ofText? found]
    exact endsDark_unwords fun _ => isWord_of_mem_words
  obtain ⟨rest, start⟩ := head_of_ofText? found
  have bare : CommentStyle.usual.Bare t.toList := start ▸ CommentStyle.bare_usual rest
  rw [CommentStyle.content_of_bare bare, trimRight_of_endsDark ends]

theorem opens_of_ofText? : opens t.toList = true := by
  have same := content_of_ofText? found
  rw [ofText?_eq, same] at found
  obtain ⟨_, read, _⟩ := Option.map_eq_some_iff.1 found
  exact opens_of_kindRead? read

theorem fits_of_isWrapping {parts : List Part} (wrapping : IsWrapping t.toList parts) :
    ∀ part ∈ parts, part.Fits := by
  have proper : ∀ part ∈ parts, ∀ w ∈ part.words, IsWord w := fun part member w inside =>
    isWord_of_mem_words (wrapping.whole ▸ List.mem_flatMap.2 ⟨part, member, inside⟩)
  intro part member
  refine ⟨wrapping.margin part member, wrapping.some' part member, proper part member,
    wrapping.unbroken part member, ?_⟩
  obtain ⟨first, rest, rfl⟩ := List.exists_cons_of_ne_nil (List.ne_nil_of_mem member)
  have some' := wrapping.some' part member
  rcases List.mem_cons.1 member with rfl | later
  · obtain ⟨more, start⟩ := head_of_ofText? found
    have text := unwords_ne_nil (proper part member) some'
    rw [← unwords_words_of_ofText? found, ← wrapping.whole, List.flatMap_cons,
      unwords_append some'] at start
    obtain ⟨c, cs, front⟩ := List.exists_cons_of_ne_nil text
    rw [front] at start ⊢
    rw [(List.cons.inj start).1]
    exact CommentStyle.bare_usual cs
  · refine ⟨?_, wrapping.unmarked part later⟩
    obtain ⟨w, ws, split⟩ := List.exists_cons_of_ne_nil some'
    rw [split, unwords_cons]
    exact beginsDark_of_isWord (proper part member w (split ▸ List.mem_cons_self)) _

end OneTag

/-- A tag that is wrapped at any of its gaps is read as a whole, and no other tag with it. -/
theorem ofFile_wrapped {path text t : String} {kind : TagKind} {source : Source} {parts : List Part}
    (found : ofText? .usual t.toList source = some ⟨kind, t, source⟩)
    (wrapping : IsWrapping t.toList parts) (laidOut : lines text.toList = wrapped parts) :
    ofFile .usual path text = [⟨kind, t, ⟨path, 1, lineFunction⟩⟩] := by
  have fit := fits_of_isWrapping found wrapping
  have spelled := unwords_words_of_ofText? found
  obtain ⟨whole, margin, some', unbroken, unmarked, unclosed⟩ := wrapping
  cases parts with
  | nil =>
    obtain ⟨rest, start⟩ := head_of_ofText? found
    rw [← spelled, ← whole] at start
    cases start
  | cons part rest =>
    have fits := fit part List.mem_cons_self
    have text := unwords_ne_nil fits.proper fits.some'
    rw [← whole, List.flatMap_cons] at spelled
    have line := piece_wrapped rest fits fun last => unclosed part (by rw [last]; rfl)
    have joined := continued_wrapped fits.proper fits.some' fits.unbroken
      (fun next later => fit next (List.mem_cons_of_mem _ later))
      (fun next last => unclosed next (by rw [List.getLast?_cons, Option.mem_def.1 last]; rfl)) 2
    have opened : opens (unwords part.words ++ lineEnd rest) = true := by
      have start := opens_of_ofText? found
      rw [← spelled, unwords_append fits.some', opens,
        opening?_append_of_atGap text (atGap_tailWords _)] at start
      rwa [opens, opening?_append_of_atGap text (atGap_lineEnd rest)]
    have read : ofLine? .usual path 1 t.toList = some ⟨kind, t, ⟨path, 1, lineFunction⟩⟩ :=
      ofText?_of_source found _
    rw [ofFile, laidOut, wrapped, List.zipIdx_cons, ofLines, line, if_pos opened, joined]
    dsimp only
    rw [spelled, read, ofLines]
    rfl

def exposure : String := "@exposes @web:@app to theft with lost tokens"

def exposureParts : List Part :=
  [⟨['/', '*', ' '], ["@exposes".toList, "@web:@app".toList]⟩,
    ⟨[' ', '*', ' '], ["to".toList, "theft".toList]⟩,
    ⟨['\t', '/', '/', '#'], ["with".toList, "lost".toList, "tokens".toList]⟩]

def exposureFile : String := "/* @exposes @web:@app \\\n * to theft \\\n\t//#with lost tokens\n"

theorem isWrapping_exposureParts : IsWrapping exposure.toList exposureParts where
  whole := by decide +kernel
  margin := by
    have mark (m : List Char) (member : m ∈ CommentStyle.usual.markers) {ms : List Char} :=
      @CommentStyle.Margin.marker m ms member
    have space {ms : List Char} := @CommentStyle.Margin.blank ' ' ms (.inl rfl)
    have tab {ms : List Char} := @CommentStyle.Margin.blank '\t' ms (.inr rfl)
    rw [CommentStyle.usual_eq] at mark
    intro part member
    simp only [exposureParts, List.mem_cons, List.not_mem_nil, or_false] at member
    rcases member with rfl | rfl | rfl
    · exact mark ['/', '*'] (by decide) (space .nil)
    · exact space (mark ['*'] (by decide) (space .nil))
    · exact tab (mark ['/', '/'] (by decide) (mark ['#'] (by decide) .nil))
  some' := by decide
  unbroken := by decide
  unmarked := by
    rw [CommentStyle.usual_eq]
    decide
  unclosed := by decide

theorem ofFile_exposureFile :
    ofText? .usual exposure.toList ⟨"", 0, ""⟩ = some ⟨.exposes, exposure, ⟨"", 0, ""⟩⟩ ∧
    IsWrapping exposure.toList exposureParts ∧
    lines exposureFile.toList = wrapped exposureParts ∧
    ofFile .usual "a.c" exposureFile = [⟨.exposes, exposure, ⟨"a.c", 1, lineFunction⟩⟩] := by
  have found : ofText? .usual exposure.toList ⟨"", 0, ""⟩ =
      some ⟨.exposes, exposure, ⟨"", 0, ""⟩⟩ := by
    rw [CommentStyle.usual_eq]
    decide +kernel
  have laidOut : lines exposureFile.toList = wrapped exposureParts := by decide +kernel
  exact ⟨found, isWrapping_exposureParts, laidOut,
    ofFile_wrapped found isWrapping_exposureParts laidOut⟩

end Tag

end ThreatModel
