import ThreatModel.OpenApi
import ThreatModel.Proofs.Pointer
import ThreatModel.Proofs.Tag.Comment
import ThreatModel.Proofs.Tag.Found
import ThreatModel.Proofs.Text.Trim
import ThreatModel.Proofs.Yaml.Part

namespace ThreatModel.OpenApi

open Text

section Order

variable {α β ι : Type}

/-- The list holds what stands at the places, each once and in the order of the places. -/
def InOrder (xs : List α) (stands : List Nat → α → Prop) : Prop :=
  ∃ os : List (List Nat × α), os.map (·.2) = xs ∧ (os.Pairwise fun a b => a.1 < b.1) ∧
    ∀ place x, (place, x) ∈ os ↔ stands place x

theorem InOrder.congr {xs : List α} {stands stands' : List Nat → α → Prop}
    (ordered : InOrder xs stands) (same : ∀ place x, stands place x ↔ stands' place x) :
    InOrder xs stands' := by
  obtain ⟨os, values, ascending, covers⟩ := ordered
  exact ⟨os, values, ascending, fun place x => (covers place x).trans (same place x)⟩

theorem InOrder.exists_place {xs : List α} {stands : List Nat → α → Prop}
    (ordered : InOrder xs stands) {x : α} (member : x ∈ xs) : ∃ place, stands place x := by
  obtain ⟨os, rfl, -, covers⟩ := ordered
  obtain ⟨⟨place, x⟩, listed, rfl⟩ := List.mem_map.1 member
  exact ⟨place, (covers place x).1 listed⟩

theorem inOrder_nil {stands : List Nat → α → Prop} (none : ∀ place x, ¬ stands place x) :
    InOrder [] stands :=
  ⟨[], rfl, .nil, fun place x => iff_of_false List.not_mem_nil (none place x)⟩

theorem inOrder_option (x? : Option α) :
    InOrder x?.toList fun place x => place = [] ∧ x? = some x := by
  cases x? with
  | none => exact inOrder_nil fun _ _ h => by cases h.2
  | some y => exact ⟨[([], y)], rfl, List.pairwise_singleton _ _, by simp [eq_comm]⟩

theorem InOrder.map {xs : List α} {stands : List Nat → α → Prop} (ordered : InOrder xs stands)
    (f : α → β) : InOrder (xs.map f) fun place y => ∃ x, stands place x ∧ y = f x := by
  obtain ⟨os, rfl, ascending, covers⟩ := ordered
  refine ⟨os.map fun o => (o.1, f o.2), by simp, List.pairwise_map.2 ascending, ?_⟩
  intro place y
  simp only [List.mem_map, Prod.mk.injEq, ← covers]
  constructor
  · intro h
    obtain ⟨⟨place, x⟩, member, rfl, rfl⟩ := h
    exact ⟨x, member, rfl⟩
  · intro h
    obtain ⟨x, member, rfl⟩ := h
    exact ⟨(place, x), member, rfl, rfl⟩

theorem inOrder_flatMap {ps : List ι} {f : ι × Nat → List α}
    {stands : ι → Nat → List Nat → α → Prop}
    (each : ∀ p i, ps[i]? = some p → InOrder (f (p, i)) (stands p i)) :
    InOrder (ps.zipIdx.flatMap f) fun place x =>
      ∃ p i rest, ps[i]? = some p ∧ place = i :: rest ∧ stands p i rest x := by
  have inOrder : ∀ q ∈ ps.zipIdx, InOrder (f q) (stands q.1 q.2) :=
    fun q member => each q.1 q.2 (List.mk_mem_zipIdx_iff_getElem?.1 member)
  choose! parts values ascending covers using inOrder
  refine ⟨ps.zipIdx.flatMap fun q => (parts q).map fun o => (q.2 :: o.1, o.2), ?_, ?_, ?_⟩
  · rw [List.map_flatMap]
    refine List.flatMap_congr fun q member => ?_
    rw [List.map_map, ← values q member]
    rfl
  · have positions : ps.zipIdx.Pairwise fun q r => q.2 < r.2 := by
      rw [← List.pairwise_map, List.zipIdx_map_snd]
      exact List.pairwise_lt_range'
    -- Within a part the position is the same, and between parts it decides.
    refine List.pairwise_flatMap.2 ⟨fun q member => ?_, positions.imp fun before => ?_⟩
    · exact List.pairwise_map.2 ((ascending q member).imp List.cons_lt_cons_self.2)
    · intro x inFirst y inLater
      obtain ⟨o, -, rfl⟩ := List.mem_map.1 inFirst
      obtain ⟨o', -, rfl⟩ := List.mem_map.1 inLater
      exact List.cons_lt_cons_iff.2 (.inl before)
  · intro place x
    constructor
    · intro h
      obtain ⟨⟨p, i⟩, member, h⟩ := List.mem_flatMap.1 h
      obtain ⟨⟨rest, x⟩, inner, h⟩ := List.mem_map.1 h
      cases h
      exact ⟨p, i, rest, List.mk_mem_zipIdx_iff_getElem?.1 member, rfl,
        (covers _ member rest x).1 inner⟩
    · intro h
      obtain ⟨p, i, rest, here, rfl, inner⟩ := h
      have member := List.mk_mem_zipIdx_iff_getElem?.2 here
      exact List.mem_flatMap.2
        ⟨_, member, List.mem_map.2 ⟨_, (covers _ member rest x).2 inner, rfl⟩⟩

end Order

/-- The value is a scalar with this text, or has one at the place in sequences without tags. -/
inductive HoldsText : Yaml → List Nat → String → Prop
  | scalar {v : Yaml} {text : String} (spelled : v.scalarText? = some text) : HoldsText v [] text
  | item {items : List Yaml} {i : Nat} {v : Yaml} {place : List Nat} {text : String}
      (here : items[i]? = some v) (inner : HoldsText v place text) :
      HoldsText (.sequence items) (i :: place) text

/-- The text of an extension stands at the place. The way to the mapping with the extension field
leads through sequences, tagged values and entries with other keys. -/
inductive Stands : Yaml → List Nat → Extension → Prop
  | field {entries : List (Yaml × Yaml)} {i : Nat} {k v : Yaml} {key : String}
      {suffix : List Char} {place : List Nat} {text : String} (here : entries[i]? = some (k, v))
      (named : k.keyText? = some key) (extends' : key.toList = extensionHead.toList ++ suffix)
      (holds : HoldsText v place text) :
      Stands (.mapping entries) (i :: place) { word := suffix.dropWhile (· = '-'), text }
  | entry {entries : List (Yaml × Yaml)} {i : Nat} {k v : Yaml} {key : String} {place : List Nat}
      {e : Extension} (here : entries[i]? = some (k, v)) (named : k.keyText? = some key)
      (other : ¬ extensionHead.toList <+: key.toList) (inner : Stands v place e) :
      Stands (.mapping entries) (i :: place) (e.under key)
  | item {items : List Yaml} {i : Nat} {v : Yaml} {place : List Nat} {e : Extension}
      (here : items[i]? = some v) (inner : Stands v place e) :
      Stands (.sequence items) (i :: place) (e.under (.ofList (decimal i)))
  | tagged {tag : String} {v : Yaml} {place : List Nat} {e : Extension} (inner : Stands v place e) :
      Stands (.tagged tag v) place e

section Texts

theorem itemsTexts_eq_flatMap (items : List Yaml) (i : Nat) :
    itemsTexts items = (items.zipIdx i).flatMap fun q => fieldTexts q.1 := by
  induction items generalizing i with
  | nil => rfl
  | cons v vs ih => rw [itemsTexts, List.zipIdx_cons, List.flatMap_cons, ih (i + 1)]

theorem holdsText_sequence {items : List Yaml} {place : List Nat} {text : String} :
    HoldsText (.sequence items) place text ↔
      ∃ v i rest, items[i]? = some v ∧ place = i :: rest ∧ HoldsText v rest text := by
  constructor
  · intro h
    cases h with
    | scalar spelled => cases spelled
    | item here inner => exact ⟨_, _, _, here, rfl, inner⟩
  · rintro ⟨v, i, rest, here, rfl, inner⟩
    exact .item here inner

theorem inOrder_fieldTexts_scalar {v : Yaml} (single : ∀ items, v ≠ .sequence items) :
    InOrder (fieldTexts v) (HoldsText v) := by
  have texts : fieldTexts v = v.scalarText?.toList := by rw [fieldTexts]; exact single
  rw [texts]
  refine (inOrder_option _).congr fun place text => ⟨fun h => ?_, fun h => ?_⟩
  · obtain ⟨rfl, spelled⟩ := h
    exact .scalar spelled
  · cases h with
    | scalar spelled => exact ⟨rfl, spelled⟩
    | item => exact absurd rfl (single _)

theorem inOrder_fieldTexts (v : Yaml) : InOrder (fieldTexts v) (HoldsText v) := by
  match v with
  | .sequence items =>
    rw [fieldTexts, itemsTexts_eq_flatMap items 0]
    exact (inOrder_flatMap fun w i here => inOrder_fieldTexts w).congr
      fun place text => holdsText_sequence.symm
  | .null | .bool _ | .int _ | .float _ | .string _ | .mapping _ | .tagged _ _ =>
    exact inOrder_fieldTexts_scalar fun items same => by cases same
termination_by v
decreasing_by exact Yaml.sizeOf_lt_of_item here

end Texts

section Extensions

theorem tagWord?_eq_some {key : String} {word : List Char} :
    tagWord? key = some word ↔
      ∃ suffix, key.toList = extensionHead.toList ++ suffix ∧
        suffix.dropWhile (· = '-') = word := by
  simp only [tagWord?, Option.map_eq_some_iff, dropHead?_eq_some]

theorem tagWord?_eq_none {key : String} :
    tagWord? key = none ↔ ¬ extensionHead.toList <+: key.toList := by
  rw [tagWord?, Option.map_eq_none_iff, dropHead?_eq_none]

def entryExtensions (k v : Yaml) : List Extension :=
  match k.keyText? with
  | none => []
  | some key =>
    match tagWord? key with
    | some word => (fieldTexts v).map fun text => { word, text }
    | none => (extensions v).map (.under key)

def StandsInEntry (k v : Yaml) (place : List Nat) (e : Extension) : Prop :=
  ∃ key, k.keyText? = some key ∧
    ((∃ suffix text, key.toList = extensionHead.toList ++ suffix ∧ HoldsText v place text ∧
        e = { word := suffix.dropWhile (· = '-'), text }) ∨
      (¬ extensionHead.toList <+: key.toList ∧
        ∃ inner, Stands v place inner ∧ e = inner.under key))

theorem entriesExtensions_eq_flatMap (entries : List (Yaml × Yaml)) (i : Nat) :
    entriesExtensions entries =
      (entries.zipIdx i).flatMap fun q => entryExtensions q.1.1 q.1.2 := by
  induction entries generalizing i with
  | nil => rfl
  | cons e es ih =>
    obtain ⟨k, v⟩ := e
    rw [entriesExtensions, List.zipIdx_cons, List.flatMap_cons, ih (i + 1)]
    rfl

theorem itemsExtensions_eq_flatMap (items : List Yaml) (i : Nat) :
    itemsExtensions i items = (items.zipIdx i).flatMap fun q =>
      (extensions q.1).map (.under (.ofList (decimal q.2))) := by
  induction items generalizing i with
  | nil => rfl
  | cons v vs ih => rw [itemsExtensions, List.zipIdx_cons, List.flatMap_cons, ih]

theorem stands_mapping {entries : List (Yaml × Yaml)} {place : List Nat} {e : Extension} :
    Stands (.mapping entries) place e ↔
      ∃ q i rest, entries[i]? = some q ∧ place = i :: rest ∧ StandsInEntry q.1 q.2 rest e := by
  constructor
  · intro h
    cases h with
    | field here named extends' holds =>
      exact ⟨_, _, _, here, rfl, _, named, .inl ⟨_, _, extends', holds, rfl⟩⟩
    | entry here named other inner =>
      exact ⟨_, _, _, here, rfl, _, named, .inr ⟨other, _, inner, rfl⟩⟩
  · rintro ⟨⟨k, v⟩, i, rest, here, rfl, key, named, ⟨suffix, text, extends', holds, rfl⟩ |
      ⟨other, inner, stands, rfl⟩⟩
    · exact .field here named extends' holds
    · exact .entry here named other stands

theorem stands_sequence {items : List Yaml} {place : List Nat} {e : Extension} :
    Stands (.sequence items) place e ↔
      ∃ v i rest, items[i]? = some v ∧ place = i :: rest ∧
        ∃ inner, Stands v rest inner ∧ e = inner.under (.ofList (decimal i)) := by
  constructor
  · intro h
    cases h with
    | item here inner => exact ⟨_, _, _, here, rfl, _, inner, rfl⟩
  · rintro ⟨v, i, rest, here, rfl, inner, stands, rfl⟩
    exact .item here stands

theorem stands_tagged {tag : String} {v : Yaml} {place : List Nat} {e : Extension} :
    Stands (.tagged tag v) place e ↔ Stands v place e :=
  ⟨fun h => (by cases h; assumption), .tagged⟩

theorem standsInEntry_extension {k v : Yaml} {key : String} (named : k.keyText? = some key)
    {suffix : List Char} (extends' : key.toList = extensionHead.toList ++ suffix)
    {place : List Nat} {e : Extension} :
    StandsInEntry k v place e ↔
      ∃ text, HoldsText v place text ∧ e = { word := suffix.dropWhile (· = '-'), text } := by
  constructor
  · rintro ⟨key', named', ⟨suffix', text, extends'', holds, rfl⟩ | ⟨other, -⟩⟩
    · cases named.symm.trans named'
      cases List.append_cancel_left (extends'.symm.trans extends'')
      exact ⟨text, holds, rfl⟩
    · cases named.symm.trans named'
      exact absurd ⟨suffix, extends'.symm⟩ other
  · rintro ⟨text, holds, rfl⟩
    exact ⟨key, named, .inl ⟨suffix, text, extends', holds, rfl⟩⟩

theorem standsInEntry_other {k v : Yaml} {key : String} (named : k.keyText? = some key)
    (other : ¬ extensionHead.toList <+: key.toList) {place : List Nat} {e : Extension} :
    StandsInEntry k v place e ↔ ∃ inner, Stands v place inner ∧ e = inner.under key := by
  constructor
  · rintro ⟨key', named', ⟨suffix, text, extends', -⟩ | ⟨-, stands⟩⟩
    · cases named.symm.trans named'
      exact absurd ⟨suffix, extends'.symm⟩ other
    · cases named.symm.trans named'
      exact stands
  · exact fun stands => ⟨key, named, .inr ⟨other, stands⟩⟩

theorem inOrder_entryExtensions (k : Yaml) {v : Yaml}
    (ordered : InOrder (extensions v) (Stands v)) :
    InOrder (entryExtensions k v) (StandsInEntry k v) := by
  rw [entryExtensions]
  cases named : k.keyText? with
  | none => exact inOrder_nil fun _ _ ⟨_, named', _⟩ => by cases named.symm.trans named'
  | some key =>
    cases tagged : tagWord? key with
    | some word =>
      obtain ⟨suffix, extends', rfl⟩ := tagWord?_eq_some.1 tagged
      simp only [tagged]
      exact ((inOrder_fieldTexts v).map _).congr
        fun place e => (standsInEntry_extension named extends').symm
    | none =>
      simp only [tagged]
      exact (ordered.map _).congr
        fun place e => (standsInEntry_other named (tagWord?_eq_none.1 tagged)).symm

theorem inOrder_extensions (v : Yaml) : InOrder (extensions v) (Stands v) := by
  match v with
  | .mapping entries =>
    rw [extensions, entriesExtensions_eq_flatMap entries 0]
    exact (inOrder_flatMap fun e i here =>
      inOrder_entryExtensions e.1 (inOrder_extensions e.2)).congr fun _ _ => stands_mapping.symm
  | .sequence items =>
    rw [extensions, itemsExtensions_eq_flatMap]
    exact (inOrder_flatMap fun w i here => (inOrder_extensions w).map _).congr
      fun place e => stands_sequence.symm
  | .tagged tag w =>
    rw [extensions]
    exact (inOrder_extensions w).congr fun place e => stands_tagged.symm
  | .null | .bool _ | .int _ | .float _ | .string _ => exact inOrder_nil fun place e h => by cases h
termination_by v
decreasing_by
  · exact Yaml.sizeOf_lt_of_entry here
  · exact Yaml.sizeOf_lt_of_item here
  · decreasing_tactic

end Extensions

section Pointers

def HasExtension (entries : List (Yaml × Yaml)) (word : List Char) (text : String) : Prop :=
  ∃ k v key suffix place, (k, v) ∈ entries ∧ k.keyText? = some key ∧
    key.toList = extensionHead.toList ++ suffix ∧ suffix.dropWhile (· = '-') = word ∧
    HoldsText v place text

def IsWrittenIn (v : Yaml) (tag : Tag) : Prop :=
  ∃ path entries word text, Pointer.path? tag.source.function.toList = some path ∧
    v.part? path = some (.mapping entries) ∧ HasExtension entries word text ∧
    Tag.ofText? .usual ('@' :: word ++ ' ' :: text.toList) tag.source = some tag

theorem Stands.exists_object {v : Yaml} {place : List Nat} {e : Extension}
    (stands : Stands v place e) (distinct : v.hasDistinctKeys = true) :
    ∃ entries, v.part? e.path = some (.mapping entries) ∧ HasExtension entries e.word e.text := by
  induction stands with
  | @field entries i k v key suffix place text here named extends' holds =>
    exact ⟨entries, rfl, k, v, key, suffix, place, List.mem_of_getElem? here, named, extends', rfl,
      holds⟩
  | entry here named other inner ih =>
    have member := List.mem_of_getElem? here
    obtain ⟨object, leads, extension⟩ := ih (Yaml.hasDistinctKeys_of_mem_entries distinct member)
    refine ⟨object, ?_, extension⟩
    rw [Extension.under, Yaml.part?_mapping, Yaml.value?_of_mem distinct member named]
    exact leads
  | item here inner ih =>
    have member := List.mem_of_getElem? here
    obtain ⟨object, leads, extension⟩ := ih (Yaml.hasDistinctKeys_of_mem_items distinct member)
    refine ⟨object, ?_, extension⟩
    rw [Extension.under, Yaml.part?_sequence, Yaml.item?_decimal, here]
    exact leads
  | @tagged tag v place e inner ih =>
    rw [Yaml.part?_tagged]
    exact ih (by rwa [Yaml.hasDistinctKeys] at distinct)

theorem Stands.isWrittenIn {v : Yaml} {place : List Nat} {e : Extension}
    (stands : Stands v place e) (distinct : v.hasDistinctKeys = true) {file : String} {tag : Tag}
    (read : e.tag? file = some tag) : IsWrittenIn v tag := by
  obtain ⟨entries, leads, extension⟩ := stands.exists_object distinct
  have source := Tag.source_of_ofText? read
  refine ⟨e.path, entries, e.word, e.text, ?_, leads, extension, ?_⟩
  · rw [source, Pointer.path?_ofPath]
  · rw [source]
    exact read

end Pointers

/-- Where the keys of each mapping differ as strings, the source of each tag points at the object
that it is written in. The tags are those of the texts in extension fields, wherever a text stands,
each once and in the order of the document. -/
theorem tags_exact (file : String) (v : Yaml) :
    (v.hasDistinctKeys = true →
      ∀ tag ∈ tags file v, tag.source.file = file ∧ IsWrittenIn v tag) ∧
    ∃ es, InOrder es (Stands v) ∧ tags file v = es.filterMap (·.tag? file) := by
  have ordered := inOrder_extensions v
  refine ⟨fun distinct tag member => ?_, _, ordered, rfl⟩
  obtain ⟨e, extension, read⟩ := List.mem_filterMap.1 member
  obtain ⟨place, stands⟩ := ordered.exists_place extension
  exact ⟨by rw [Tag.source_of_ofText? read], stands.isWrittenIn distinct read⟩

def usersApi : Yaml :=
  .tagged "!api" (.mapping [
    (.int 3, .mapping [(.string "x-threatspec-test", .string "no way leads here")]),
    (.string "/users/~id", .tagged "!path" (.sequence [.null, .mapping [
      (.tagged "!field" (.string "x-threatspec--review"),
        .sequence [.string "@api input", .sequence [.int 404, .tagged "!s" (.string "skipped")]]),
      (.string "x-threatspec-exposes", .string "@api to @dos")]])),
    (.string "x-threatspec-bogus", .string "something"),
    (.string "", .mapping [(.string "x-threatspecReview", .bool true)])])

theorem tags_usersApi :
    (tags "api.yaml" usersApi).map (fun tag => (tag.kind, tag.text, tag.source.function)) =
      [(.reviews, "@review @api input", "/~1users~1~0id/1"),
        (.reviews, "@review 404", "/~1users~1~0id/1"),
        (.exposes, "@exposes @api to @dos", "/~1users~1~0id/1"), (.reviews, "@Review true", "/")] ∧
    ∀ tag ∈ tags "api.yaml" usersApi, tag.source.file = "api.yaml" ∧ IsWrittenIn usersApi tag := by
  refine ⟨?_, (tags_exact "api.yaml" usersApi).1 (by decide +kernel)⟩
  simp only [tags, Extension.tag?, CommentStyle.usual_eq]
  decide +kernel

end ThreatModel.OpenApi
