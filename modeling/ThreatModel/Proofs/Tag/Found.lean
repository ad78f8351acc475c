import ThreatModel.Proofs.Text.Words
import ThreatModel.Scan

namespace ThreatModel.Tag

open Text

/-- Some text holds the tag. -/
def Found (style : CommentStyle) (tag : Tag) : Prop :=
  ∃ text source, ofText? style text source = some tag

variable {style : CommentStyle}

theorem normal_of_found {tag : Tag} (found : Found style tag) :
    respace tag.text.toList = tag.text.toList := by
  obtain ⟨text, source, held⟩ := found
  simp only [ofText?, Option.bind_eq_bind, Option.bind_eq_some_iff, Option.some.injEq] at held
  obtain ⟨_, _, _, _, rfl⟩ := held
  rw [String.toList_ofList, respace_respace]

theorem source_of_ofText? {text : List Char} {source : Source} {tag : Tag}
    (held : ofText? style text source = some tag) : tag.source = source := by
  simp only [ofText?, Option.bind_eq_bind, Option.bind_eq_some_iff, Option.some.injEq] at held
  obtain ⟨_, _, _, _, rfl⟩ := held
  rfl

theorem found_of_mem_ofLines {path : String} {ls : List (List Char × Nat)} :
    ∀ tag ∈ ofLines style path ls, Found style tag := by
  induction ls using ofLines.induct style with
  | case1 =>
    intro tag member
    rw [ofLines] at member
    cases member
  | case2 line number rest opened joined ih =>
    intro tag member
    rw [ofLines, if_pos opened, List.mem_append, Option.mem_toList] at member
    rcases member with here | later
    · exact ⟨joined.1, _, here⟩
    · exact ih tag later
  | case3 line number rest closed ih =>
    intro tag member
    rw [ofLines, if_neg closed] at member
    exact ih tag member

theorem found_of_mem_ofFile {path text : String} : ∀ tag ∈ ofFile style path text, Found style tag :=
  found_of_mem_ofLines

end ThreatModel.Tag

namespace ThreatModel.Scan

variable {s : Scan}

theorem found_of_mem_folderTags {k : Walk} : ∀ tag ∈ s.folderTags k, tag.Found s.style := by
  intro tag member
  obtain ⟨⟨names, content⟩, _, held⟩ := List.mem_flatMap.1 member
  dsimp only at held
  split at held
  · cases held
  · split at held
    · cases held
    · exact Tag.found_of_mem_ofFile tag held

/-- Whatever is scanned, each tag is held by some text. -/
theorem found_of_mem_tags {w : Workspace} {path : String} {tags : List Tag}
    (scanned : s.tags w path = .ok tags) : ∀ tag ∈ tags, tag.Found s.style := by
  intro tag member
  unfold Scan.tags at scanned
  split at scanned
  · cases scanned
  · split at scanned
    · cases scanned
    · split at scanned
      · cases scanned
      · cases scanned
        exact Tag.found_of_mem_ofFile tag member
    · cases scanned
      split at member
      · cases member
      · exact found_of_mem_folderTags tag member

end ThreatModel.Scan
