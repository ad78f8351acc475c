import ThreatModel.Proofs.Catalogue.Identifiers
import ThreatModel.Text.Decimal

namespace ThreatModel.Catalogue

open SortedMap Text

theorem isSlugLetter_of_isDigit {c : Char} (digit : isDigit c = true) : IsSlugLetter c := by
  simp only [isDigit, Bool.and_eq_true, decide_eq_true_eq] at digit
  exact .inr (.inl digit)

theorem ne_underscore_of_isDigit {c : Char} (digit : isDigit c = true) : c ≠ '_' := by
  intro same
  subst same
  exact absurd digit (by decide)

theorem id_of_weaknessId {id id' name name' : String} (apart : ∀ c ∈ id.toList, c ≠ '_')
    (apart' : ∀ c ∈ id'.toList, c ≠ '_') (same : weaknessId id name = weaknessId id' name') :
    id = id' := by
  have chars := congrArg String.toList same
  rw [toList_weaknessId, toList_weaknessId, List.append_assoc, List.append_assoc] at chars
  have numbers : id.toList = id'.toList := by
    refine (cut_unique (p := (· = '_')) ?_ ?_ ?_ ?_ (List.append_cancel_left chars)).1
    · simpa using apart
    · simpa using apart'
    · simp
    · simp
  exact String.toList_injective numbers

theorem isSlugLetter_weaknessId {id : String} (digits : ∀ c ∈ id.toList, isDigit c = true)
    (name : String) :
    ∃ rest, (weaknessId id name).toList = '@' :: rest ∧ ∀ c ∈ rest, IsSlugLetter c := by
  refine ⟨"cwe_".toList ++ id.toList ++ '_' :: slug name.toList, toList_weaknessId id name, ?_⟩
  intro c inside
  rcases List.mem_append.1 inside with front | back
  · rcases List.mem_append.1 front with sign | number
    · have letters : ∀ d ∈ "cwe_".toList, IsSlugLetter d := by
        simp [IsSlugLetter]
      exact letters c sign
    · exact isSlugLetter_of_isDigit (digits c number)
  · rcases List.mem_cons.1 back with rfl | letter
    · exact .inr (.inr rfl)
    · exact isSlugLetter_of_mem_slug c letter

theorem nodup_weaknessIds {ws : List Item} (distinct : (ws.map (·.id)).Nodup)
    (numbered : ∀ w ∈ ws, ∀ c ∈ w.id.toList, isDigit c = true) :
    (ws.map fun w => weaknessId w.id w.name).Nodup := by
  have apart (w : Item) (listed : w ∈ ws) : ∀ c ∈ w.id.toList, c ≠ '_' :=
    fun c inside => ne_underscore_of_isDigit (numbered w listed c inside)
  refine distinct.of_map.map_on fun v first w second same => ?_
  have ids := id_of_weaknessId (apart v first) (apart w second) same
  exact List.inj_on_of_nodup_map distinct first second ids

/-- If the numbers of the weaknesses are digits and differ, the library has an entry for each
weakness, with its name and its references, and the identifiers are lowercase letters, digits and
underscores. -/
theorem threats_keeps (c : Catalogue) (distinct : (c.weaknesses.map (·.id)).Nodup)
    (numbered : ∀ w ∈ c.weaknesses, ∀ ch ∈ w.id.toList, isDigit ch = true) :
    c.threats.size = c.weaknesses.length ∧
      (∀ w ∈ c.weaknesses, c.threats.get? (weaknessId w.id w.name) = some
        { name := w.name
          description := w.description.getD "No description available."
          references :=
            ["CWE " ++ w.id, "https://cwe.mitre.org/data/definitions/" ++ w.id ++ ".html"]
          parent := none }) ∧
      ∀ key ∈ c.threats.keys,
        ∃ rest, key.toList = '@' :: rest ∧ ∀ ch ∈ rest, IsSlugLetter ch := by
  have keys : (c.weaknesses.map fun w => (weaknessId w.id w.name, w.toThreat w.name none)).map
      (·.1) = c.weaknesses.map fun w => weaknessId w.id w.name := List.map_map
  have kept : c.threats.entries.Perm
      (c.weaknesses.map fun w => (weaknessId w.id w.name, w.toThreat w.name none)) :=
    perm_ofList (keys ▸ nodup_weaknessIds distinct numbered)
  refine ⟨?_, ?_, ?_⟩
  · rw [size, kept.length_eq, List.length_map]
  · intro w listed
    exact get?_eq_some.2 (kept.mem_iff.2 (List.mem_map_of_mem listed))
  · intro key held
    obtain ⟨e, entry, rfl⟩ := List.mem_map.1 held
    obtain ⟨w, listed, rfl⟩ := List.mem_map.1 (kept.mem_iff.1 entry)
    exact isSlugLetter_weaknessId (numbered w listed) w.name

def tangled : Catalogue where
  weaknesses :=
    [{ id := "1", name := "2-Use (Ünsafe)" }, { id := "12", name := "Use_nsafe" },
      { id := "2", name := "1 2-use" }]

theorem threats_tangled :
    (tangled.weaknesses.map (·.id)).Nodup ∧
      (∀ w ∈ tangled.weaknesses, ∀ ch ∈ w.id.toList, isDigit ch = true) ∧
      tangled.threats.size = 3 ∧
      tangled.threats.get? "@cwe_1_2_use_nsafe" = some
        { name := "2-Use (Ünsafe)"
          description := "No description available."
          references := ["CWE 1", "https://cwe.mitre.org/data/definitions/1.html"] } ∧
      (tangled.threats.get? "@cwe_12_use_nsafe").isSome = true ∧
      ∀ key ∈ tangled.threats.keys,
        ∃ rest, key.toList = '@' :: rest ∧ ∀ ch ∈ rest, IsSlugLetter ch := by
  have distinct : (tangled.weaknesses.map (·.id)).Nodup := by decide
  have numbered : ∀ w ∈ tangled.weaknesses, ∀ ch ∈ w.id.toList, isDigit ch = true := by
    simp [tangled, isDigit]
  obtain ⟨size, found, letters⟩ := threats_keeps tangled distinct numbered
  have first := found { id := "1", name := "2-Use (Ünsafe)" } (by decide)
  have second := found { id := "12", name := "Use_nsafe" } (by decide)
  have spelled : weaknessId "1" "2-Use (Ünsafe)" = "@cwe_1_2_use_nsafe" := by decide +kernel
  have spelled' : weaknessId "12" "Use_nsafe" = "@cwe_12_use_nsafe" := by decide +kernel
  rw [spelled] at first
  rw [spelled'] at second
  exact ⟨distinct, numbered, size, first, by rw [second]; rfl, letters⟩

end ThreatModel.Catalogue
