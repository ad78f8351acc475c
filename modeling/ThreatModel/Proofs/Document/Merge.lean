import ThreatModel.CommandLine.Run
import ThreatModel.Proofs.Dataflow
import ThreatModel.Proofs.Document.Format

namespace ThreatModel

namespace Timestamps

theorem earliest_assoc (a b c : Int) :
    earliest (earliest a b) c = earliest a (earliest b c) := by
  unfold earliest
  by_cases ha : a = 0
  · simp [ha]
  · by_cases hb : b = 0
    · simp [ha, hb]
    · have left : min a b ≠ 0 := by omega
      by_cases hc : c = 0
      · simp [ha, hb, hc, left]
      · have right : min b c ≠ 0 := by omega
        simp only [ha, hb, hc, left, right, if_false]
        omega

theorem merge_assoc (s t u : Timestamps) : (s.merge t).merge u = s.merge (t.merge u) := by
  simp only [merge, earliest_assoc, Timestamps.mk.injEq, true_and]
  omega

end Timestamps

theorem Elements.merge_assoc (es fs gs : Elements) :
    (es.merge fs).merge gs = es.merge (fs.merge gs) := by
  simp only [merge, SortedMap.mergeWith_assoc]

instance : Std.Associative Elements.merge := ⟨Elements.merge_assoc⟩

namespace Document

theorem merge_assoc (d e f : Document) : (d.merge e).merge f = d.merge (e.merge f) := by
  simp only [merge, Timestamps.merge_assoc, SortedMap.union_assoc, SortedMap.mergeWith_assoc,
    Dataflow.merge_assoc]

instance : Std.Associative Document.merge := ⟨merge_assoc⟩

theorem mergeAll_append {ds es : List Document} (first : ds ≠ []) (second : es ≠ []) :
    mergeAll (ds ++ es) = (mergeAll ds).merge (mergeAll es) := by
  obtain ⟨d, ds, rfl⟩ := List.exists_cons_of_ne_nil first
  obtain ⟨e, es, rfl⟩ := List.exists_cons_of_ne_nil second
  simp only [mergeAll, List.cons_append, List.foldl_append, List.foldl_cons]
  exact List.foldl_assoc

end Document

namespace CommandLine

theorem mapM_loadDocument {w : Workspace} {paths : List String}
    (loadable : ∀ path ∈ paths, ∃ d, loadDocument w path = .ok d) :
    ∃ ds, paths.mapM (loadDocument w) = .ok ds ∧ ds.length = paths.length := by
  induction paths with
  | nil => exact ⟨[], rfl, rfl⟩
  | cons path paths ih =>
    obtain ⟨d, loaded⟩ := loadable path List.mem_cons_self
    obtain ⟨ds, rest, length⟩ := ih fun p member => loadable p (List.mem_cons_of_mem _ member)
    refine ⟨d :: ds, ?_, congrArg Nat.succ length⟩
    rw [List.mapM_cons, loaded, rest]
    rfl

theorem loadDocuments_of_mapM {w : Workspace} {paths : List String} {ds : List Document}
    (loaded : paths.mapM (loadDocument w) = .ok ds) :
    loadDocuments w paths = .ok (.mergeAll ds) := by
  unfold loadDocuments
  rw [loaded]
  rfl

theorem text?_toUTF8 (text : String) : (FileTree.file text.toUTF8).text? = some text :=
  dif_pos text.isValidUTF8

theorem loadDocument_saved {w : Workspace} {path : String} {d : Document} (fits : d.Fits)
    (held : w.get? path = some (.file d.save.toUTF8)) : loadDocument w path = .ok d := by
  have text : w.text? path = some d.save := by
    rw [Workspace.text?, held, Option.bind_some, text?_toUTF8]
  obtain ⟨v, written, read⟩ := Document.written_save fits
  have loaded : Document.load? d.save = some d := by
    rw [Document.load?, written]
    exact read
  rw [loadDocument, text]
  generalize d.save = saved at loaded
  show orElse _ (Document.load? saved) = _
  rw [loaded]
  rfl

/-- Documents may be merged in groups: the parts one after the other, and the files of two lists
together or list by list. -/
theorem merge_groups :
    (∀ d e f : Document, (d.merge e).merge f = d.merge (e.merge f)) ∧
    ∀ (w : Workspace) (paths others : List String), paths ≠ [] → others ≠ [] →
      (∀ path ∈ paths ++ others, ∃ d, loadDocument w path = .ok d) →
      ∃ d e, loadDocuments w paths = .ok d ∧ loadDocuments w others = .ok e ∧
        loadDocuments w (paths ++ others) = .ok (d.merge e) := by
  refine ⟨Document.merge_assoc, ?_⟩
  intro w paths others first second loadable
  obtain ⟨ds, loaded, length⟩ := mapM_loadDocument fun path member =>
    loadable path (List.mem_append_left _ member)
  obtain ⟨es, loaded', length'⟩ := mapM_loadDocument fun path member =>
    loadable path (List.mem_append_right _ member)
  have some_ds : ds ≠ [] := by
    rwa [← List.length_pos_iff, length, List.length_pos_iff]
  have some_es : es ≠ [] := by
    rwa [← List.length_pos_iff, length', List.length_pos_iff]
  refine ⟨.mergeAll ds, .mergeAll es, loadDocuments_of_mapM loaded, loadDocuments_of_mapM loaded',
    ?_⟩
  rw [← Document.mergeAll_append some_ds some_es]
  apply loadDocuments_of_mapM
  rw [List.mapM_append, loaded, loaded']
  rfl

def sampleFiles : Workspace where
  tree := .folder
    [("back.json", .file (Document.save {
      times := ⟨-3, 2⟩, components := (∅ : SortedMap _ _).insert "@web" ∅ }).toUTF8),
     ("front.json", .file (Document.save {
      times := ⟨0, 7⟩, threats := (∅ : SortedMap _ _).insert "@xss" { name := "XSS" } }).toUTF8)]
  current := []
  home := ""

theorem merge_groups_sampleFiles :
    (∀ path ∈ ["front.json"] ++ ["back.json", "front.json"],
      ∃ d, loadDocument sampleFiles path = .ok d) ∧
    (∃ d e, loadDocuments sampleFiles ["front.json"] = .ok d ∧
      loadDocuments sampleFiles ["back.json", "front.json"] = .ok e ∧
      loadDocuments sampleFiles (["front.json"] ++ ["back.json", "front.json"]) =
        .ok (d.merge e)) ∧
    loadDocuments sampleFiles (["front.json"] ++ ["back.json", "front.json"]) = .ok
      { times := ⟨-3, 7⟩
        components := (∅ : SortedMap _ _).insert "@web" ∅
        threats := (∅ : SortedMap _ _).insert "@xss" { name := "XSS" } } := by
  have front : loadDocument sampleFiles "front.json" = .ok
      { times := ⟨0, 7⟩, threats := (∅ : SortedMap _ _).insert "@xss" { name := "XSS" } } :=
    loadDocument_saved ⟨by decide, by decide, by decide, by decide⟩ rfl
  have back : loadDocument sampleFiles "back.json" = .ok
      { times := ⟨-3, 2⟩, components := (∅ : SortedMap _ _).insert "@web" ∅ } :=
    loadDocument_saved ⟨by decide, by decide, by decide, by decide⟩ rfl
  have loadable : ∀ path ∈ ["front.json"] ++ ["back.json", "front.json"],
      ∃ d, loadDocument sampleFiles path = .ok d := by
    simp [front, back]
  refine ⟨loadable, merge_groups.2 sampleFiles _ _ (by decide) (by decide) loadable, ?_⟩
  simp only [loadDocuments, List.singleton_append, List.mapM_cons, List.mapM_nil, front, back]
  decide +kernel

end CommandLine

end ThreatModel
