import ThreatModel.Proofs.Identifier.Spacing
import ThreatModel.Proofs.Text.Trim

namespace ThreatModel.Identifier

open Text

def pieces (cs : List Char) : List (List Char) :=
  (splitWhen isSeparator cs).map (·.filter isAlphanumeric)

theorem exists_pieces_eq_cons (cs : List Char) : ∃ p ps, pieces cs = p :: ps := by
  obtain ⟨piece, rest, split⟩ := List.exists_cons_of_ne_nil (splitWhen_ne_nil (p := isSeparator) cs)
  exact ⟨_, _, by rw [pieces, split, List.map_cons]⟩

theorem pieces_cons_of_isSeparator {c : Char} (separates : isSeparator c = true) (cs : List Char) :
    pieces (c :: cs) = [] :: pieces cs := by
  simp [pieces, splitWhen, separates]

theorem pieces_cons {c : Char} (inside : isSeparator c = false) {cs p : List Char}
    {ps : List (List Char)} (split : pieces cs = p :: ps) :
    pieces (c :: cs) = (if isAlphanumeric c then c :: p else p) :: ps := by
  obtain ⟨piece, rest, parts⟩ := List.exists_cons_of_ne_nil (splitWhen_ne_nil (p := isSeparator) cs)
  rw [pieces, parts, List.map_cons] at split
  obtain ⟨rfl, rfl⟩ := List.cons.inj split
  rw [pieces, splitWhen_cons_of_false inside parts, List.map_cons, List.filter_cons]

def continued (ws : List (List Char)) : List Char :=
  (ws.filter (!·.isEmpty)).flatMap ('_' :: ·)

theorem continued_cons {w : List Char} (some' : w ≠ []) (ws : List (List Char)) :
    continued (w :: ws) = '_' :: w ++ continued ws := by
  rw [continued, List.filter_cons_of_pos (by simpa using some'), List.flatMap_cons, continued]

theorem intercalate_eq_continued (w : List Char) (ws : List (List Char)) :
    ['_'].intercalate (w :: ws) = w ++ ws.flatMap ('_' :: ·) := by
  induction ws generalizing w with
  | nil => simp
  | cons v ws ih => rw [List.intercalate_cons_cons, ih, List.flatMap_cons]; simp

-- Within a word the first piece goes on with it; after a separator it is a word of its own.
theorem scan_of_ne_nil {id : List Char} (some' : id ≠ []) {cs p : List Char}
    {ps : List (List Char)} (split : pieces cs = p :: ps) :
    scan id false cs = id ++ p ++ continued ps ∧ scan id true cs = id ++ continued (p :: ps) := by
  induction cs generalizing id p ps with
  | nil =>
    obtain ⟨rfl, rfl⟩ := List.cons.inj (split.symm.trans (rfl : pieces [] = [[]]))
    simp [scan, continued]
  | cons c cs ih =>
    obtain ⟨q, qs, rest⟩ := exists_pieces_eq_cons cs
    cases separates : isSeparator c with
    | true =>
      rw [pieces_cons_of_isSeparator separates] at split
      obtain ⟨rfl, rfl⟩ := List.cons.inj split
      simp only [scan, separates, if_true, (ih some' rest).2, rest]
      simp [continued]
    | false =>
      rw [pieces_cons separates rest] at split
      obtain ⟨rfl, rfl⟩ := List.cons.inj split
      cases counts : isAlphanumeric c with
      | true =>
        have full : id.isEmpty = false := by simpa using some'
        have inner := (ih (List.append_ne_nil_of_right_ne_nil id (List.cons_ne_nil c [])) rest).1
        have outer := (ih (List.append_ne_nil_of_right_ne_nil (id ++ ['_'])
          (List.cons_ne_nil c [])) rest).1
        rw [scan, scan]
        simp only [separates, counts, full, Bool.false_eq_true, if_false, if_true, Bool.false_and,
          Bool.not_false, Bool.true_and, inner, outer, continued_cons (List.cons_ne_nil c q)]
        simp
      | false =>
        simp only [scan, separates, counts, Bool.false_eq_true, if_false]
        exact ih some' rest

theorem scan_nil (pending : Bool) (cs : List Char) :
    scan [] pending cs = ['_'].intercalate (nameWords cs) := by
  induction cs generalizing pending with
  | nil => rfl
  | cons c cs ih =>
    obtain ⟨q, qs, rest⟩ := exists_pieces_eq_cons cs
    have words : nameWords (c :: cs) = (pieces (c :: cs)).filter (!·.isEmpty) := rfl
    have later : nameWords cs = (q :: qs).filter (!·.isEmpty) := rest ▸ rfl
    cases separates : isSeparator c with
    | true =>
      rw [scan, if_pos separates, ih, words, pieces_cons_of_isSeparator separates]
      rfl
    | false =>
      rw [pieces_cons separates rest] at words
      cases counts : isAlphanumeric c with
      | true =>
        have one := (scan_of_ne_nil (List.cons_ne_nil c []) rest).1
        rw [counts, if_pos rfl, List.filter_cons_of_pos rfl] at words
        rw [words, intercalate_eq_continued]
        simp only [scan, separates, counts, Bool.false_eq_true, if_false, if_true,
          List.isEmpty_nil, Bool.not_true, Bool.and_false, List.nil_append, one, continued]
        rfl
      | false =>
        rw [counts, if_neg Bool.false_ne_true] at words
        simp only [scan, separates, counts, Bool.false_eq_true, if_false, ih, words, later]

theorem identifierWords_blanks_append {blanks : List Char}
    (blank : ∀ c ∈ blanks, isBlank c = true) (cs : List Char) :
    identifierWords (blanks ++ cs) = identifierWords cs := by
  induction blanks with
  | nil => rfl
  | cons c blanks ih =>
    obtain ⟨first, later⟩ := List.forall_mem_cons.1 blank
    exact (identifierWords_append_blank first [] (blanks ++ cs)).trans (ih later)

theorem identifierWords_append_blanks {blanks : List Char}
    (blank : ∀ c ∈ blanks, isBlank c = true) (cs : List Char) :
    identifierWords (cs ++ blanks) = identifierWords cs := by
  cases blanks with
  | nil => rw [List.append_nil]
  | cons c blanks =>
    obtain ⟨first, later⟩ := List.forall_mem_cons.1 blank
    have none : identifierWords blanks = [] := by
      rw [← List.append_nil blanks, identifierWords_blanks_append later]
      rfl
    rw [identifierWords_append_blank first, none, List.append_nil]

theorem identifierWords_trim (cs : List Char) : identifierWords (trim cs) = identifierWords cs := by
  obtain ⟨after, whole, blank⟩ := exists_trimRight_append (trimLeft cs)
  have before : cs = cs.takeWhile isBlank ++ trimLeft cs := List.takeWhile_append_dropWhile.symm
  calc identifierWords (trim cs) = identifierWords (trimRight (trimLeft cs) ++ after) :=
        (identifierWords_append_blanks blank _).symm
    _ = identifierWords (trimLeft cs) := by rw [← whole]
    _ = identifierWords (cs.takeWhile isBlank ++ trimLeft cs) :=
        (identifierWords_blanks_append (fun _ inside => List.mem_takeWhile_imp inside) _).symm
    _ = identifierWords cs := by rw [← before]

/-- An identifier is derived in one pass over the lowercase letters of the name without the blanks
around it. -/
theorem ofText_eq_scan (text : String) :
    ofText text = if text.isEmpty || isIdentifier text then text
      else .ofList ('@' :: scan [] false (lowercase (trim text.toList))) := by
  have name : ofName text.toList = '@' :: scan [] false (lowercase (trim text.toList)) := by
    rw [scan_nil]
    exact congrArg (fun ws => '@' :: ['_'].intercalate ws) (identifierWords_trim text.toList).symm
  rw [ofText, name]

end ThreatModel.Identifier
