import ThreatModel.Proofs.Tag.Opening
import ThreatModel.Proofs.Text.Words

namespace ThreatModel.Tag

open Text

def numberedLines (text : String) : List (List Char × Nat) := (lines text.toList).zipIdx 1

def ofEachLine (style : CommentStyle) (path text : String) : List Tag :=
  (numberedLines text).filterMap fun line => ofLine? style path line.2 line.1

theorem newline_not_mem_of_mem_numberedLines {text : String} {line : List Char} {number : Nat}
    (member : (line, number) ∈ numberedLines text) : '\n' ∉ line :=
  newline_not_mem_of_mem_lines (List.fst_mem_of_mem_zipIdx member)

theorem filterMap_eq_filterMap_iff {α β : Type} {f g : α → Option β} {xs : List α}
    (same : ∀ x ∈ xs, (f x).isSome = (g x).isSome) :
    xs.filterMap f = xs.filterMap g ↔ ∀ x ∈ xs, f x = g x := by
  induction xs with
  | nil => simp
  | cons x xs ih =>
    have later := ih fun y member => same y (List.mem_cons_of_mem _ member)
    have here := same x List.mem_cons_self
    rw [List.forall_mem_cons, ← later]
    cases first : f x with
    | none =>
      have none' : g x = none := Option.not_isSome_iff_eq_none.1 (by simp [← here, first])
      simp [first, none']
    | some b =>
      obtain ⟨c, other⟩ := Option.isSome_iff_exists.1 (here.symm.trans (by rw [first]; rfl))
      simp [first, other]

theorem continued_of_ended {style : CommentStyle} {text : List Char} (ended : ¬ ['\\'] <:+ text)
    (ls : List (List Char × Nat)) : continued style text ls = (text, ls) := by
  have none' := dropTail?_eq_none.2 ended
  cases ls <;> simp [continued, none']

theorem respace_dropClose_eq_iff {cs : List Char} (oneLine : '\n' ∉ cs) (ends : EndsDark cs) :
    respace (dropClose cs) = respace cs ↔ ¬ ['*', '/'] <:+ cs := by
  constructor
  · intro same close
    obtain ⟨front, rfl⟩ := close
    -- apart from blanks, two characters fewer are left without the close
    have kept := congrArg (List.filter fun c => !isBlank c) same
    have frontLine : '\n' ∉ dropClose (front ++ ['*', '/']) :=
      fun broken => oneLine ((dropClose_isPrefix _).subset broken)
    rw [filter_respace frontLine, filter_respace oneLine] at kept
    have shorter : dropClose (front ++ ['*', '/']) <+: front := by
      rw [dropClose, trimRight_of_endsDark ends, dropTail?_eq_some.2 rfl]
      exact trimRight_isPrefix front
    have long := (shorter.filter fun c => !isBlank c).length_le
    have close : ['*', '/'].filter (fun c => !isBlank c) = ['*', '/'] := by decide
    rw [kept, List.filter_append, close, List.length_append, List.length_cons] at long
    omega
  · intro unclosed
    rw [dropClose_of_open ends unclosed]

section OneLine

variable {style : CommentStyle} (proper : style.Proper) {path : String}

include proper

theorem ofLine?_piece_of_not_opens {line : List Char} (closed : ¬ opens (piece style line) = true)
    (number : Nat) : ofLine? style path number (piece style line) = none := by
  rw [ofLine?, ofText?_eq, content_piece proper, kindRead?]
  cases opened : opening? (piece style line) with
  | none => rfl
  | some o => exact absurd (Option.isSome_of_eq_some opened) closed

theorem ofLines_of_ended {ls : List (List Char × Nat)}
    (ended : ∀ line ∈ ls, ¬ ['\\'] <:+ piece style line.1) :
    ofLines style path ls = ls.filterMap fun line =>
      ofLine? style path line.2 (piece style line.1) := by
  induction ls with
  | nil => rw [ofLines]; rfl
  | cons line ls ih =>
    obtain ⟨line, number⟩ := line
    have here := ended (line, number) List.mem_cons_self
    have later := ih fun other member => ended other (List.mem_cons_of_mem _ member)
    rw [List.filterMap_cons]
    dsimp only
    by_cases opened : opens (piece style line) = true
    · rw [ofLines, if_pos opened, continued_of_ended here]
      dsimp only
      rw [later]
      cases ofLine? style path number (piece style line) <;> rfl
    · rw [ofLines, if_neg opened, later, ofLine?_piece_of_not_opens proper opened]

theorem ofLine?_piece_eq_iff {line : List Char} (oneLine : '\n' ∉ line) (number : Nat) :
    ofLine? style path number (piece style line) = ofLine? style path number line ↔
      ∀ tag, ofLine? style path number line = some tag → ¬ ['*', '/'] <:+ piece style line := by
  have pieceLine : '\n' ∉ piece style line := fun broken => oneLine (piece_subset line broken)
  rw [← respace_dropClose_eq_iff pieceLine (endsDark_dropClose _), ofLine?, ofText?_piece proper,
    ofLine?, ofText?_eq]
  cases kindRead? (style.content line) with
  | none => simp
  | some kind =>
    have texts : ∀ as bs : List Char, String.ofList as = String.ofList bs ↔ as = bs :=
      fun _ _ => ⟨fun same => String.ofList_injective same, congrArg _⟩
    simp [piece, texts]

theorem isSome_ofLine?_piece (line : List Char) (number : Nat) :
    (ofLine? style path number (piece style line)).isSome =
      (ofLine? style path number line).isSome := by
  rw [ofLine?, ofText?_piece proper, Option.isSome_map]
  rfl

end OneLine

/-- Where no line goes on in the next, a file holds as many tags as its lines hold on their own, of
the same kinds and in the same places. They are the same tags exactly if no close is left at the end
of a line with a tag when one has been dropped. -/
theorem ofFile_eq_ofEachLine_iff (ms : List String) (path text : String)
    (ended : ∀ line ∈ lines text.toList, ¬ ['\\'] <:+ piece (.ofMarkers ms) line) :
    (ofFile (.ofMarkers ms) path text).map (fun tag => (tag.kind, tag.source)) =
      (ofEachLine (.ofMarkers ms) path text).map (fun tag => (tag.kind, tag.source)) ∧
    (ofFile (.ofMarkers ms) path text = ofEachLine (.ofMarkers ms) path text ↔
      ∀ line number, (line, number) ∈ numberedLines text →
        ∀ tag, ofLine? (.ofMarkers ms) path number line = some tag →
          ¬ ['*', '/'] <:+ piece (.ofMarkers ms) line) := by
  have proper := CommentStyle.proper_ofMarkers ms
  generalize CommentStyle.ofMarkers ms = style at ended proper ⊢
  have read : ofFile style path text = (numberedLines text).filterMap fun line =>
      ofLine? style path line.2 (piece style line.1) :=
    ofLines_of_ended proper fun line member => ended line.1 (List.fst_mem_of_mem_zipIdx member)
  constructor
  · rw [read, ofEachLine, List.map_filterMap, List.map_filterMap]
    simp only [ofLine?, ofText?_piece proper, Option.map_map]
    rfl
  · rw [read, ofEachLine, filterMap_eq_filterMap_iff fun line _ => isSome_ofLine?_piece proper ..]
    rw [Prod.forall]
    refine forall_congr' fun line => forall_congr' fun number => forall_congr' fun member => ?_
    exact ofLine?_piece_eq_iff proper (newline_not_mem_of_mem_numberedLines member) number

def handlerFile : String :=
  "/* @review @web:@app open question */\nint handle(void);\n# @alias boundary @web to Web shop\n"

theorem ofFile_handlerFile :
    (∀ line ∈ lines handlerFile.toList, ¬ ['\\'] <:+ piece (.ofMarkers ["#", "/*"]) line) ∧
    ofFile (.ofMarkers ["#", "/*"]) "a.c" handlerFile =
      ofEachLine (.ofMarkers ["#", "/*"]) "a.c" handlerFile := by
  have pieces : (lines handlerFile.toList).map (piece (.ofMarkers ["#", "/*"])) =
      ["@review @web:@app open question".toList, "int handle(void);".toList,
        "@alias boundary @web to Web shop".toList] := by
    rw [CommentStyle.ofMarkers_eq]
    decide +kernel
  have plain : ∀ cs ∈ (lines handlerFile.toList).map (piece (.ofMarkers ["#", "/*"])),
      ¬ ['\\'] <:+ cs ∧ ¬ ['*', '/'] <:+ cs := by
    rw [pieces]
    decide
  have ended := fun line member => (plain _ (List.mem_map_of_mem (a := line) member)).1
  refine ⟨ended, (ofFile_eq_ofEachLine_iff ["#", "/*"] "a.c" handlerFile ended).2.2 ?_⟩
  intro line number member _ _
  exact (plain _ (List.mem_map_of_mem (List.fst_mem_of_mem_zipIdx member))).2

/-- A comment in a comment: on its own the line keeps the close of the inner one. -/
def nestedComment : String := "/* /* @review @web:@app check this */ */"

theorem ofFile_ne_ofEachLine_nestedComment :
    (∀ line ∈ lines nestedComment.toList, ¬ ['\\'] <:+ piece .usual line) ∧
    (ofFile .usual "a.c" nestedComment).map Tag.text = ["@review @web:@app check this"] ∧
    (ofEachLine .usual "a.c" nestedComment).map Tag.text = ["@review @web:@app check this */"] := by
  have pieces : (lines nestedComment.toList).map (piece .usual) =
      ["@review @web:@app check this */".toList] := by
    rw [CommentStyle.usual_eq]
    decide +kernel
  have ended : ∀ cs ∈ (lines nestedComment.toList).map (piece .usual), ¬ ['\\'] <:+ cs := by
    rw [pieces]
    decide
  refine ⟨fun line member => ended _ (List.mem_map_of_mem member), ?_⟩
  rw [CommentStyle.usual_eq]
  decide +kernel

end ThreatModel.Tag
