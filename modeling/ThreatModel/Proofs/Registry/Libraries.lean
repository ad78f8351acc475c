import ThreatModel.Proofs.Document.Merge
import ThreatModel.Registry.Exchange

namespace ThreatModel.Registry

open SortedMap

theorem importEntries_empty (r : Registry) : r.importEntries {} = r := by
  simp only [importEntries, union_empty, mergeWith_empty]

theorem importEntries_merge (r : Registry) (d e : Document) :
    r.importEntries (d.merge e) = (r.importEntries d).importEntries e := by
  simp only [importEntries, Document.merge, union_assoc, mergeWith_assoc]

theorem foldl_importEntries (r : Registry) (d : Document) (ds : List Document) :
    ds.foldl importEntries (r.importEntries d) = r.importEntries (ds.foldl Document.merge d) := by
  induction ds generalizing d with
  | nil => rfl
  | cons e ds ih => rw [List.foldl_cons, List.foldl_cons, ← importEntries_merge, ih]

theorem importEntries_self (r : Registry) (d : Document) :
    (r.importEntries d).importEntries d = r.importEntries d := by
  have entries (m : SortedMap String Entry) : m.union m = m := Std.IdempotentOp.idempotent m
  have components : d.components.mergeWith union d.components = d.components := mergeWith_self _ _
  simp only [importEntries, union_assoc, mergeWith_assoc, entries, components]

theorem importEntries_again (r : Registry) (d e : Document) :
    ((r.importEntries d).importEntries e).importEntries d =
      (r.importEntries d).importEntries e := by
  have entries (m n : SortedMap String Entry) : m.union (n.union m) = m.union n := by
    rw [← union_assoc, union_again]
  have components : d.components.mergeWith union (e.components.mergeWith union d.components) =
      d.components.mergeWith union e.components := by
    rw [← mergeWith_assoc, mergeWith_again union_again]
  simp only [importEntries, union_assoc, mergeWith_assoc, entries, components]

theorem known_foldl_importEntries {r : Registry} {d : Document} (known : r.importEntries d = r)
    (later : List Document) :
    (later.foldl importEntries r).importEntries d = later.foldl importEntries r := by
  induction later generalizing r with
  | nil => exact known
  | cons e later ih =>
    apply ih
    rw [← known]
    exact importEntries_again r d e

/-- Libraries that are imported one after the other leave the same registry as their merge, and each
of them is known then. -/
theorem importEntries_libraries (r : Registry) (ds : List Document) :
    ds.foldl importEntries r = r.importEntries (.mergeAll ds) ∧
      ∀ d ∈ ds, (ds.foldl importEntries r).importEntries d = ds.foldl importEntries r := by
  constructor
  · cases ds with
    | nil => exact (importEntries_empty r).symm
    | cons d ds => exact foldl_importEntries r d ds
  · intro d member
    obtain ⟨before, after, rfl⟩ := List.append_of_mem member
    rw [List.foldl_append, List.foldl_cons]
    apply known_foldl_importEntries
    exact importEntries_self _ d

def sampleLibraries : List Document :=
  [{ threats := .insert ∅ "@xss" { name := "Cross-site scripting" }
     components := .insert (.insert ∅ "@db" ∅) "@web" (.insert ∅ "@app" { name := "App" }) },
   { threats := .insert (.insert ∅ "@leak" { name := "Leak" }) "@xss" { name := "XSS" }
     components := .insert (.insert ∅ "@db" (.insert ∅ "@log" { name := "Log" })) "@web" ∅ }]

theorem importEntries_sampleLibraries :
    sampleLibraries[1] ∈ sampleLibraries ∧
      (sampleLibraries.foldl importEntries {}).threats.get? "@xss" =
        some { name := "Cross-site scripting" } ∧
      ((sampleLibraries.foldl importEntries {}).components.get? "@db").bind (·.get? "@log") =
        some { name := "Log" } ∧
      (sampleLibraries.foldl importEntries {}).importEntries sampleLibraries[1] =
        ({} : Registry).importEntries (.mergeAll sampleLibraries) := by
  have member : sampleLibraries[1] ∈ sampleLibraries := List.getElem_mem (by decide)
  obtain ⟨merged, known⟩ := importEntries_libraries {} sampleLibraries
  refine ⟨member, by decide +kernel, by decide +kernel, ?_⟩
  rw [known _ member, merged]

end ThreatModel.Registry
