import Mathlib.Data.List.Pairwise
import ThreatModel.Proofs.Tag.Lines

namespace ThreatModel.Tag

open Text

variable {style : CommentStyle}

/-- Lines that are read as one: a line that opens a tag, and those in which it goes on. -/
structure Block where
  first : List Char × Nat
  more : List (List Char × Nat)

namespace Block

def lines (b : Block) : List (List Char × Nat) := b.first :: b.more

def joined (style : CommentStyle) (b : Block) : List Char :=
  (continued style (piece style b.first.1) b.more).1

def tag? (style : CommentStyle) (path : String) (b : Block) : Option Tag :=
  (kindRead? (piece style b.first.1)).map fun kind =>
    ⟨kind, .ofList (respace (dropClose (b.joined style))), ⟨path, b.first.2, lineFunction⟩⟩

/-- The lines stand together in the file. Each of them goes on in the next one, and the last one
does not, unless the file is at its end. -/
structure Within (style : CommentStyle) (file : List (List Char × Nat)) (b : Block) : Prop where
  together : b.lines <:+: file
  opened : opens (piece style b.first.1) = true
  goesOn : ∀ line ∈ b.lines.dropLast, ['\\'] <:+ piece style line.1
  ended : (∀ line ∈ b.lines.getLast?, ¬ ['\\'] <:+ piece style line.1) ∨ b.lines <:+ file

end Block

def followed (style : CommentStyle) (line : List Char) :
    List (List Char × Nat) → List (List Char × Nat) × List (List Char × Nat)
  | [] => ([], [])
  | next :: rest =>
    if ['\\'] <:+ piece style line then
      (next :: (followed style next.1 rest).1, (followed style next.1 rest).2)
    else ([], next :: rest)

theorem followed_append (style : CommentStyle) (line : List Char) (ls : List (List Char × Nat)) :
    (followed style line ls).1 ++ (followed style line ls).2 = ls := by
  induction ls generalizing line with
  | nil => rfl
  | cons next rest ih =>
    rw [followed]
    split
    · rw [List.cons_append, ih]
    · rfl

theorem followed_suffix (line : List Char) (ls : List (List Char × Nat)) :
    (followed style line ls).2 <:+ ls :=
  ⟨(followed style line ls).1, followed_append style line ls⟩

def blocks (style : CommentStyle) : List (List Char × Nat) → List Block
  | [] => []
  | line :: rest =>
    if opens (piece style line.1) then
      ⟨line, (followed style line.1 rest).1⟩ :: blocks style (followed style line.1 rest).2
    else blocks style rest
termination_by ls => ls.length
decreasing_by
  · exact Nat.lt_succ_of_le (followed_suffix line.1 rest).length_le
  · exact Nat.lt_succ_self _

section Layout

theorem followed_goesOn (line : List Char × Nat) (ls : List (List Char × Nat)) :
    ∀ l ∈ (line :: (followed style line.1 ls).1).dropLast, ['\\'] <:+ piece style l.1 := by
  induction ls generalizing line with
  | nil => intro l none; cases none
  | cons next rest ih =>
    rw [followed]
    split
    · next here =>
      intro l member
      rcases List.mem_cons.1 member with rfl | later
      · exact here
      · exact ih next l later
    · intro l none; cases none

theorem followed_ended (line : List Char × Nat) (ls : List (List Char × Nat)) :
    (∀ l ∈ (line :: (followed style line.1 ls).1).getLast?, ¬ ['\\'] <:+ piece style l.1) ∨
      (followed style line.1 ls).2 = [] := by
  induction ls generalizing line with
  | nil => exact .inr rfl
  | cons next rest ih =>
    rw [followed]
    split
    · dsimp only
      rw [List.getLast?_cons_cons]
      exact ih next
    · next stops =>
      refine .inl fun l last => ?_
      rwa [← Option.some.inj last]

theorem Block.Within.of_suffix {b : Block} {file rest : List (List Char × Nat)}
    (inside : b.Within style rest) (h : rest <:+ file) : b.Within style file where
  together := inside.together.trans h.isInfix
  opened := inside.opened
  goesOn := inside.goesOn
  ended := inside.ended.imp_right fun last => last.trans h

theorem within_of_mem_blocks {file : List (List Char × Nat)} :
    ∀ b ∈ blocks style file, b.Within style file := by
  induction file using blocks.induct style with
  | case1 =>
    intro b member
    rw [blocks] at member
    cases member
  | case2 line rest opened ih =>
    intro b member
    rw [blocks, if_pos opened] at member
    have whole := followed_append style line.1 rest
    rcases List.mem_cons.1 member with rfl | later
    · have front : line :: (followed style line.1 rest).1 <+: line :: rest :=
        ⟨(followed style line.1 rest).2, by rw [List.cons_append, whole]⟩
      refine ⟨front.isInfix, opened, followed_goesOn line rest, ?_⟩
      refine (followed_ended line rest).imp_right fun none => ?_
      rw [none, List.append_nil] at whole
      exact ⟨[], congrArg (line :: ·) whole⟩
    · exact (ih b later).of_suffix ((followed_suffix line.1 rest).trans (List.suffix_cons line rest))
  | case3 line rest closed ih =>
    intro b member
    rw [blocks, if_neg closed] at member
    exact (ih b member).of_suffix (List.suffix_cons line rest)

theorem flatMap_lines_blocks_sublist (file : List (List Char × Nat)) :
    ((blocks style file).flatMap Block.lines).Sublist file := by
  induction file using blocks.induct style with
  | case1 =>
    rw [blocks]
    exact List.Sublist.refl _
  | case2 line rest opened ih =>
    rw [blocks, if_pos opened, List.flatMap_cons, Block.lines, List.cons_append]
    conv_rhs => rw [← followed_append style line.1 rest]
    exact (List.Sublist.append_left ih _).cons_cons line
  | case3 line rest closed ih =>
    rw [blocks, if_neg closed]
    exact ih.cons line

theorem exists_block_of_opens {file : List (List Char × Nat)} {line : List Char × Nat}
    (member : line ∈ file) (opened : opens (piece style line.1) = true) :
    ∃ b ∈ blocks style file, line ∈ b.lines := by
  induction file using blocks.induct style with
  | case1 => cases member
  | case2 first rest starts ih =>
    rw [blocks, if_pos starts]
    rw [← followed_append style first.1 rest, ← List.cons_append] at member
    rcases List.mem_append.1 member with here | later
    · exact ⟨_, List.mem_cons_self, here⟩
    · obtain ⟨b, found, inside⟩ := ih later
      exact ⟨b, List.mem_cons_of_mem _ found, inside⟩
  | case3 first rest closed ih =>
    rw [blocks, if_neg closed]
    rcases List.mem_cons.1 member with rfl | later
    · exact absurd opened closed
    · exact ih later

theorem pairwise_numberedLines (text : String) :
    (numberedLines text).Pairwise fun x y => x.2 < y.2 := by
  have sorted := List.pairwise_lt_range' (s := 1) (n := (lines text.toList).length)
  rwa [← List.zipIdx_map_snd, List.pairwise_map] at sorted

theorem pairwise_blocks (style : CommentStyle) (text : String) :
    (blocks style (numberedLines text)).Pairwise
      fun b c => ∀ x ∈ b.lines, ∀ y ∈ c.lines, x.2 < y.2 :=
  (List.pairwise_flatMap.1
    ((pairwise_numberedLines text).sublist (flatMap_lines_blocks_sublist _))).2

theorem block_unique {text : String} {b c : Block} {line : List Char × Nat}
    (found : b ∈ blocks style (numberedLines text)) (other : c ∈ blocks style (numberedLines text))
    (inside : line ∈ b.lines) (insideOther : line ∈ c.lines) : b = c := by
  by_contra differ
  have apart := (pairwise_blocks style text).imp
    (S := fun b c => ∀ x ∈ b.lines, ∀ y ∈ c.lines, x.2 ≠ y.2)
    fun before x first y second => Nat.ne_of_lt (before x first y second)
  have symmetric : Std.Symm fun b c : Block => ∀ x ∈ b.lines, ∀ y ∈ c.lines, x.2 ≠ y.2 :=
    ⟨fun _ _ h x first y second => (h y second x first).symm⟩
  exact apart.forall found other differ line inside line insideOther rfl

end Layout

section Reading

theorem continued_eq_followed {text line : List Char}
    (same : ['\\'] <:+ text ↔ ['\\'] <:+ piece style line) (ls : List (List Char × Nat)) :
    continued style text ls =
      ((continued style text (followed style line ls).1).1, (followed style line ls).2) := by
  induction ls generalizing text line with
  | nil => rfl
  | cons next rest ih =>
    rw [followed]
    by_cases more : ['\\'] <:+ text
    · obtain ⟨head, rfl⟩ := more
      rw [if_pos (same.1 (List.suffix_append head _)), continued, continued,
        dropTail?_eq_some.2 rfl]
      exact ih (backslash_suffix_append_space _ _)
    · rw [if_neg fun h => more (same.2 h), continued_of_ended more, continued_of_ended more]

theorem opening?_continued {text : List Char} (opened : opens text = true)
    (ls : List (List Char × Nat)) : opening? (continued style text ls).1 = opening? text := by
  induction ls generalizing text with
  | nil =>
    rw [continued]
    cases broken : dropTail? ['\\'] text with
    | none => rfl
    | some head =>
      rw [dropTail?_eq_some.1 broken, opening?_append_of_closing closing_backslash]
      exact opening?_trimRight head
  | cons next rest ih =>
    rw [continued]
    cases broken : dropTail? ['\\'] text with
    | none => rfl
    | some head =>
      have start : opening? (trimRight head) = opening? text := by
        rw [dropTail?_eq_some.1 broken, opening?_append_of_closing closing_backslash]
        exact opening?_trimRight head
      have some' : trimRight head ≠ [] := by
        intro none
        rw [opens, ← start, none] at opened
        cases opened
      have longer : opening? (trimRight head ++ ' ' :: piece style next.1) = opening? text := by
        rw [opening?_append some', start]
        intro c space
        rw [← Option.some.inj space]
        exact isWordChar_of_isBlank isBlank_space
      exact (ih (by rwa [opens, longer])).trans longer

theorem ofLine?_joined {b : Block} (opened : opens (piece .usual b.first.1) = true)
    (path : String) : ofLine? .usual path b.first.2 (b.joined .usual) = b.tag? .usual path := by
  have start : opening? (b.joined .usual) = opening? (piece .usual b.first.1) :=
    opening?_continued opened b.more
  have some' : (opening? (b.joined .usual)).isSome = true := by
    rw [start]
    exact opened
  obtain ⟨rest, whole⟩ := head_of_opening? some'
  have content : CommentStyle.usual.content (b.joined .usual) = trimRight (b.joined .usual) := by
    rw [whole]
    exact CommentStyle.content_of_bare (CommentStyle.bare_usual rest)
  rw [ofLine?, ofText?_eq, content, kindRead?_congr ((opening?_trimRight _).trans start),
    dropClose_trimRight]
  rfl

theorem ofLines_eq_filterMap_blocks (path : String) (ls : List (List Char × Nat)) :
    ofLines .usual path ls = (blocks .usual ls).filterMap (Block.tag? .usual path) := by
  induction ls using blocks.induct .usual with
  | case1 =>
    rw [ofLines, blocks]
    rfl
  | case2 line rest opened ih =>
    rw [ofLines, if_pos opened, blocks, if_pos opened, continued_eq_followed Iff.rfl]
    dsimp only
    have read := ofLine?_joined (b := ⟨line, (followed .usual line.1 rest).1⟩) opened path
    rw [ih, List.filterMap_cons, ← read, Block.joined]
    cases ofLine? .usual path line.2 (continued .usual _ _).1 <;> rfl
  | case3 line rest closed ih => rw [ofLines, if_neg closed, blocks, if_neg closed, ih]

end Reading

theorem longS_mem_of_tag?_eq_none {b : Block} {path : String}
    (opened : opens (piece style b.first.1) = true) (unread : b.tag? style path = none) :
    '\u017f' ∈ b.first.1 := by
  have noKind : kindRead? (piece style b.first.1) = none := Option.map_eq_none_iff.1 unread
  exact piece_subset _ (longS_mem_of_kindRead?_eq_none opened noKind)

theorem opens_piece_of_ofLine? {path : String} {number : Nat} {line : List Char} {tag : Tag}
    (found : ofLine? style path number line = some tag) : opens (piece style line) = true := by
  rw [ofLine?, ofText?_eq] at found
  obtain ⟨kind, read, _⟩ := Option.map_eq_some_iff.1 found
  exact opens_of_kindRead? ((kindRead?_congr (opening?_piece line)).trans read)

theorem line_of_tag? {b : Block} {path : String} {tag : Tag}
    (read : b.tag? style path = some tag) : tag.source = ⟨path, b.first.2, lineFunction⟩ := by
  obtain ⟨kind, _, rfl⟩ := Option.map_eq_some_iff.1 read
  rfl

/-- The tags of a file are read from blocks of its lines, one from each, at the line that opens it.
The blocks are apart and in the order of the file, and so the tags are in the order of their lines.
A line that holds a tag on its own is in one block only. From there a tag is read, unless the line
that opens the block is written with a long s. -/
theorem ofFile_blocks (path text : String) :
    ofFile .usual path text =
      (blocks .usual (numberedLines text)).filterMap (Block.tag? .usual path) ∧
    (∀ b ∈ blocks .usual (numberedLines text), ∀ tag, b.tag? .usual path = some tag →
      tag.source = ⟨path, b.first.2, lineFunction⟩) ∧
    ((ofFile .usual path text).map (·.source.line)).Pairwise (· < ·) ∧
    (∀ tag ∈ ofFile .usual path text,
      1 ≤ tag.source.line ∧ tag.source.line ≤ (lines text.toList).length) ∧
    (∀ b ∈ blocks .usual (numberedLines text), b.Within .usual (numberedLines text)) ∧
    (blocks .usual (numberedLines text)).Pairwise
      (fun b c => ∀ x ∈ b.lines, ∀ y ∈ c.lines, x.2 < y.2) ∧
    (∀ line number tag, (line, number) ∈ numberedLines text →
      ofLine? .usual path number line = some tag →
        ∃! b, b ∈ blocks .usual (numberedLines text) ∧ (line, number) ∈ b.lines) ∧
    (∀ b ∈ blocks .usual (numberedLines text), b.tag? .usual path = none →
      '\u017f' ∈ b.first.1) := by
  have read : ofFile .usual path text =
      (blocks .usual (numberedLines text)).filterMap (Block.tag? .usual path) :=
    ofLines_eq_filterMap_blocks path _
  have within : ∀ b ∈ blocks .usual (numberedLines text), b.Within .usual (numberedLines text) :=
    within_of_mem_blocks
  refine ⟨read, fun _ _ _ => line_of_tag?, ?_, ?_, within, pairwise_blocks .usual text, ?_, ?_⟩
  · rw [read, List.pairwise_map, List.pairwise_filterMap]
    refine (pairwise_blocks .usual text).imp fun before tag found other foundOther => ?_
    rw [line_of_tag? found, line_of_tag? foundOther]
    exact before _ List.mem_cons_self _ List.mem_cons_self
  · intro tag member
    rw [read] at member
    obtain ⟨b, inside, found⟩ := List.mem_filterMap.1 member
    rw [line_of_tag? found]
    have place : (b.first.1, b.first.2) ∈ numberedLines text :=
      (within b inside).together.subset List.mem_cons_self
    have low := List.le_snd_of_mem_zipIdx place
    have high := List.snd_lt_add_of_mem_zipIdx place
    exact ⟨low, Nat.le_of_lt_succ (by rwa [Nat.add_comm] at high)⟩
  · intro line number tag member found
    obtain ⟨b, inside, here⟩ := exists_block_of_opens member (opens_piece_of_ofLine? found)
    exact ⟨b, ⟨inside, here⟩, fun c other => block_unique other.1 inside other.2 here⟩
  · intro b inside unread
    exact longS_mem_of_tag?_eq_none (within b inside).opened unread

/-- The first line opens a tag, but its kind is not read; the alias is lost with it. -/
def longSFile : String :=
  "// @expo\u017fes @web:@app to theft with \\\n// @alias boundary @web to Web shop\n"

theorem alias_lost_longSFile :
    ofFile .usual "a.c" longSFile = [] ∧
    ("// @alias boundary @web to Web shop".toList, 2) ∈ numberedLines longSFile ∧
    ofLine? .usual "a.c" 2 "// @alias boundary @web to Web shop".toList =
      some ⟨.aliases, "@alias boundary @web to Web shop", ⟨"a.c", 2, "universal"⟩⟩ := by
  rw [CommentStyle.usual_eq]
  refine ⟨by decide +kernel, ?_, by decide +kernel⟩
  have numbered : numberedLines longSFile =
      [("// @expo\u017fes @web:@app to theft with \\".toList, 1),
        ("// @alias boundary @web to Web shop".toList, 2)] := by decide +kernel
  rw [numbered]
  exact List.mem_cons_of_mem _ List.mem_cons_self

end ThreatModel.Tag
