import ThreatModel.Json.Record
import ThreatModel.Proofs.SortedMap.Lists

namespace ThreatModel.Json

variable {α : Type}

/-- Some object of the text has two fields of one name. -/
inductive Written.Repeats : Written → Prop where
  | here {w : Written} {given : List (Key × Written)} (object : layer w = .object given)
      (twice : ¬ (given.map (·.1.text?)).Nodup) : Repeats w
  | field {w : Written} {given : List (Key × Written)} {g : Key × Written}
      (object : layer w = .object given) (member : g ∈ given) (inside : g.2.Repeats) : Repeats w
  | item {w x : Written} {items : List Written} (array : layer w = .array items)
      (member : x ∈ items) (inside : x.Repeats) : Repeats w

/-- The texts of which a reader makes nothing although it reads the value: an object as a value has
one field of each name, the last that is written, and what comes before it can be refused. -/
structure Clash where
  clashes : Written → Bool
  repeats : ∀ w, clashes w = true → w.Repeats

instance : CoeFun Clash fun _ => Written → Bool := ⟨Clash.clashes⟩

namespace Clash

def never : Clash := ⟨fun _ => false, fun _ no => nomatch no⟩

def anyItem (clash : Written → Bool) (w : Written) : Bool :=
  match layer w with
  | .array items => items.any clash
  | _ => false

def list (item : Clash) : Clash where
  clashes := anyItem item
  repeats w found := by
    unfold anyItem at found
    split at found
    · next items array =>
      obtain ⟨x, member, inside⟩ := List.any_eq_true.1 found
      exact .item array member (item.repeats x inside)
    · cases found

/-- A field is overwritten by a later one of its name, but it has to be readable all the same. -/
def anyOfEntries (read : Written → Option α) (clash : Written → Bool) :
    List (Key × Written) → Bool
  | [] => false
  | (k, w) :: later =>
    (if later.any (·.1.text? = k.text?) then (read w).isNone else clash w) ||
      anyOfEntries read clash later

theorem anyOfEntries_repeats {read : Written → Option α} {item : Clash} {given : List (Key × Written)}
    (found : anyOfEntries read item given = true) :
    ¬ (given.map (·.1.text?)).Nodup ∨ ∃ g ∈ given, g.2.Repeats := by
  induction given with
  | nil => cases found
  | cons g later ih =>
    obtain ⟨k, w⟩ := g
    rw [List.map_cons, List.nodup_cons]
    rcases Bool.or_eq_true_iff.1 found with first | rest
    · split at first
      · next again =>
        obtain ⟨h, member, same⟩ := List.any_eq_true.1 again
        left
        intro distinct
        exact distinct.1 (List.mem_map.2 ⟨h, member, of_decide_eq_true same⟩)
      · exact .inr ⟨(k, w), List.mem_cons_self, item.repeats w first⟩
    · rcases ih rest with twice | ⟨g, member, inside⟩
      · exact .inl fun distinct => twice distinct.2
      · exact .inr ⟨g, List.mem_cons_of_mem _ member, inside⟩

def anyEntry (read : Written → Option α) (clash : Written → Bool) (w : Written) : Bool :=
  match layer w with
  | .object given => anyOfEntries read clash given
  | _ => false

def map (read : Written → Option α) (item : Clash) : Clash where
  clashes := anyEntry read item
  repeats w found := by
    unfold anyEntry at found
    split at found
    · next given object =>
      rcases anyOfEntries_repeats found with twice | ⟨g, member, inside⟩
      · exact .here object twice
      · exact .field object member inside
    · cases found

def anyNameTwice (w : Written) : Bool :=
  match layer w with
  | .object given => !decide (given.map (·.1.text?)).Nodup
  | _ => false

def names : Clash where
  clashes := anyNameTwice
  repeats w found := by
    unfold anyNameTwice at found
    split at found
    · next given object =>
      rw [Bool.not_eq_true', decide_eq_false_iff_not] at found
      exact .here object found
    · cases found

def repeatsField (names : List String) (w : Written) : Bool :=
  match layer w with
  | .object given => !decide ((given.map (·.1.text?)).filter (names.map some).contains).Nodup
  | _ => false

theorem repeats_of_repeatsField {names : List String} {w : Written}
    (found : repeatsField names w = true) : w.Repeats := by
  unfold repeatsField at found
  split at found
  · next given object =>
    rw [Bool.not_eq_true', decide_eq_false_iff_not] at found
    exact .here object fun distinct => found (distinct.filter _)
  · cases found

theorem mem_of_mapM_text? {given : List (Key × Written)} {read : List (String × Written)}
    (reads : (given.mapM fun (k, v) => do pure (← Key.text? k, v)) = some read)
    {f : String × Written} (member : f ∈ read) : ∃ g ∈ given, g.2 = f.2 := by
  induction given generalizing read with
  | nil =>
    obtain rfl := Option.some.inj reads
    cases member
  | cons g given ih =>
    simp only [List.mapM_cons, Option.bind_eq_bind, Option.bind_eq_some_iff, Option.pure_def,
      Option.some_inj] at reads
    obtain ⟨_, ⟨name, _, rfl⟩, later, rest, rfl⟩ := reads
    rcases List.mem_cons.1 member with rfl | inner
    · exact ⟨g, List.mem_cons_self, rfl⟩
    · obtain ⟨h, place, same⟩ := ih rest inner
      exact ⟨h, List.mem_cons_of_mem _ place, same⟩

theorem repeats_of_asRecord? {names : List String} {w x : Written} {fs : Fields Written}
    (read : asRecord? names w = some fs) {name : String} (field : fs.get? name = some x)
    (inside : x.Repeats) : w.Repeats := by
  unfold asRecord? at read
  split at read
  · next given object =>
    simp only [Option.bind_eq_bind, Option.bind_eq_some_iff, Option.ite_none_right_eq_some] at read
    obtain ⟨entries, reads, _, shape⟩ := read
    obtain rfl := Option.some.inj shape
    obtain ⟨g, member, same⟩ := mem_of_mapM_text? reads (SortedMap.mem_of_lookup field)
    exact .field object member (same ▸ inside)
  · next items array =>
    obtain ⟨_, shape⟩ := Option.ite_none_right_eq_some.1 read
    obtain rfl := Option.some.inj shape
    exact .item array (List.of_mem_zip (SortedMap.mem_of_lookup field)).2 inside
  · cases read

/-- A record has no field of its own twice, and the fields are readable. -/
def record (parts : List (String × Clash)) : Clash where
  clashes w := repeatsField (parts.map (·.1)) w ||
    (asRecord? (parts.map (·.1)) w).any fun fs => parts.any fun part => (fs.get? part.1).any part.2
  repeats w found := by
    rcases Bool.or_eq_true_iff.1 found with own | inner
    · exact repeats_of_repeatsField own
    · obtain ⟨fs, read, field⟩ := (Option.any_eq_true _ _).1 inner
      obtain ⟨part, _, there⟩ := List.any_eq_true.1 field
      obtain ⟨x, here, inside⟩ := (Option.any_eq_true _ _).1 there
      exact repeats_of_asRecord? read here (part.2.repeats x inside)

end Clash

end ThreatModel.Json
