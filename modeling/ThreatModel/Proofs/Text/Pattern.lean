import Mathlib.Data.List.Forall2
import ThreatModel.Text.Pattern

namespace ThreatModel.Text.Pattern

variable {α β : Type}

theorem pure_apply (a : α) (cs : List Char) : (pure a : Pattern α) cs = [(a, cs)] := rfl

theorem bind_apply (p : Pattern α) (f : α → Pattern β) (cs : List Char) :
    (p >>= f) cs = (p cs).flatMap fun x => f x.1 x.2 := rfl

theorem pure_bind (a : α) (f : α → Pattern β) : (pure a >>= f) = f a := by
  funext cs
  simp only [bind_apply, pure_apply, List.flatMap_cons, List.flatMap_nil, List.append_nil]

theorem bind_assoc {γ : Type} (p : Pattern α) (f : α → Pattern β) (g : β → Pattern γ) :
    (p >>= f >>= g) = p >>= fun a => f a >>= g := by
  funext cs
  simp only [bind_apply, List.flatMap_assoc]

def Yields (p : Pattern α) (P : α → Prop) : Prop := ∀ cs, ∀ x ∈ p cs, P x.1

theorem yields_pure {P : α → Prop} {a : α} (h : P a) : Yields (pure a) P := by
  intro cs x found
  rw [pure_apply, List.mem_singleton] at found
  exact found ▸ h

theorem yields_bind {P : β → Prop} {p : Pattern α} {f : α → Pattern β}
    (h : ∀ a, Yields (f a) P) : Yields (p >>= f) P := by
  intro cs x found
  rw [bind_apply] at found
  obtain ⟨y, _, later⟩ := List.mem_flatMap.1 found
  exact h y.1 y.2 x later

theorem Yields.bind {P : α → Prop} {Q : β → Prop} {p : Pattern α} {f : α → Pattern β}
    (first : Yields p P) (later : ∀ a, P a → Yields (f a) Q) : Yields (p >>= f) Q := by
  intro cs x found
  rw [bind_apply] at found
  obtain ⟨y, here, next⟩ := List.mem_flatMap.1 found
  exact later y.1 (first cs y here) y.2 x next

theorem yields_upTo {P : β → Prop} {p : Pattern β} (h : Yields p P) :
    Yields (upTo p) fun x => P x.2 := by
  intro cs
  induction cs with
  | nil =>
    intro x found
    cases found
  | cons c cs ih =>
    intro x found
    rw [upTo, List.mem_append, List.mem_map, List.mem_map] at found
    rcases found with ⟨y, here, rfl⟩ | ⟨y, later, rfl⟩
    · exact h cs y here
    · exact ih y later

theorem Yields.readAll? {p : Pattern α} {P : α → Prop} (h : Yields p P) {cs : List Char} {a : α}
    (read : p.readAll? cs = some a) : P a := by
  obtain ⟨⟨b, rest⟩, found, whole⟩ := List.exists_of_findSome?_eq_some read
  dsimp only at whole
  split at whole
  · exact Option.some.inj whole ▸ h cs _ found
  · cases whole

theorem readAll?_bind (p : Pattern α) (f : α → Pattern β) (cs : List Char) :
    (p >>= f).readAll? cs = (p cs).findSome? fun x => (f x.1).readAll? x.2 := by
  rw [readAll?, bind_apply]
  induction p cs with
  | nil => rfl
  | cons x xs ih =>
    rw [List.flatMap_cons, List.findSome?_append, ih, List.findSome?_cons]
    cases first : (f x.1).readAll? x.2 with
    | none => rw [readAll?] at first; rw [first]; rfl
    | some b => rw [readAll?] at first; rw [first]; rfl

theorem readAll?_bind_pure (p : Pattern α) (f : α → β) (cs : List Char) :
    (p >>= fun a => pure (f a)).readAll? cs = (p.readAll? cs).map f := by
  rw [readAll?_bind, readAll?, List.map_findSome?]
  refine congrArg (fun read => List.findSome? read (p cs)) (funext fun x => ?_)
  obtain ⟨a, rest⟩ := x
  cases rest <;> rfl

theorem readAll?_orElse (p q : Pattern α) (cs : List Char) :
    (orElse p q).readAll? cs = (p.readAll? cs).or (q.readAll? cs) := List.findSome?_append

theorem readAll?_map (p : Pattern α) (f : α → β) (cs : List Char) :
    (f <$> p).readAll? cs = (p.readAll? cs).map f := readAll?_bind_pure p f cs

theorem readAll?_fewest_nil (p : Pattern β) :
    (fewest p).readAll? [] = (p.readAll? []).map ([], ·) := by
  rw [fewest, readAll?_orElse, readAll?_map]
  exact Option.or_none

theorem readAll?_fewest_isSome {p : Pattern β} {cs : List Char}
    (read : (p.readAll? cs).isSome = true) : ((fewest p).readAll? cs).isSome = true := by
  rw [fewest, readAll?_orElse, readAll?_map, Option.isSome_or, Option.isSome_map, read,
    Bool.true_or]

theorem readAll?_upTo_cons (q : Pattern β) (c : Char) (rest : List Char) :
    (upTo q).readAll? (c :: rest) =
      ((q.readAll? rest).map ([c], ·)).or
        (((upTo q).readAll? rest).map fun x => (c :: x.1, x.2)) := by
  simp only [readAll?, upTo, List.findSome?_append, List.findSome?_map, List.map_findSome?]
  congr 1
  · congr 1
    funext x
    obtain ⟨b, left⟩ := x
    cases left <;> rfl
  · congr 1
    funext x
    obtain ⟨⟨w, b⟩, left⟩ := x
    cases left <;> rfl

theorem readAll?_fewest_cons (p : Pattern β) (c : Char) (cs : List Char) :
    (fewest p).readAll? (c :: cs) = ((p.readAll? (c :: cs)).map ([], ·)).or
      (((fewest p).readAll? cs).map fun x => (c :: x.1, x.2)) := by
  simp only [fewest, readAll?_orElse, readAll?_map, readAll?_upTo_cons, Option.map_or,
    Option.map_map]
  rfl

/-- The pattern reads what `Spelt` relates to a result, and gives that result. -/
def Matches (p : Pattern α) (Spelt : List Char → α → Prop) : Prop :=
  ∀ cs a rest, (a, rest) ∈ p cs ↔ ∃ u, cs = u ++ rest ∧ Spelt u a

theorem Matches.yields {p : Pattern α} {Spelt : List Char → α → Prop} (h : Matches p Spelt)
    {P : α → Prop} (each : ∀ u a, Spelt u a → P a) : Yields p P := by
  intro cs x found
  obtain ⟨u, _, spelt⟩ := (h cs x.1 x.2).1 found
  exact each u x.1 spelt

theorem matches_pure (a : α) : Matches (pure a) fun u b => u = [] ∧ b = a := by
  intro cs b rest
  rw [pure_apply, List.mem_singleton, Prod.mk.injEq]
  constructor
  · intro h
    obtain ⟨rfl, rfl⟩ := h
    exact ⟨[], rfl, rfl, rfl⟩
  · intro h
    obtain ⟨_, rfl, rfl, rfl⟩ := h
    exact ⟨rfl, rfl⟩

theorem Matches.bind {p : Pattern α} {f : α → Pattern β} {First : List Char → α → Prop}
    {Then : α → List Char → β → Prop} (first : Matches p First)
    (later : ∀ a, Matches (f a) (Then a)) :
    Matches (p >>= f) fun u b => ∃ v w a, u = v ++ w ∧ First v a ∧ Then a w b := by
  intro cs b rest
  rw [bind_apply, List.mem_flatMap]
  constructor
  · intro h
    obtain ⟨⟨a, middle⟩, read, found⟩ := h
    obtain ⟨v, rfl, spelt⟩ := (first cs a middle).1 read
    obtain ⟨w, rfl, next⟩ := (later a middle b rest).1 found
    exact ⟨v ++ w, by rw [List.append_assoc], v, w, a, rfl, spelt, next⟩
  · intro h
    obtain ⟨_, rfl, v, w, a, rfl, spelt, next⟩ := h
    refine ⟨(a, w ++ rest), (first _ a _).2 ⟨v, by rw [List.append_assoc], spelt⟩, ?_⟩
    exact (later a _ b rest).2 ⟨w, rfl, next⟩

theorem Matches.congr {p : Pattern α} {Spelt Other : List Char → α → Prop} (h : Matches p Spelt)
    (same : ∀ u a, Spelt u a ↔ Other u a) : Matches p Other := by
  intro cs a rest
  rw [h cs a rest]
  simp only [same]

theorem matches_char (c : Char) : Matches (char c) fun u _ => u = [c] := by
  intro cs a rest
  cases cs with
  | nil => simp [char]
  | cons d cs =>
    by_cases here : d = c
    · simp [char, here, eq_comm]
    · simp [char, here]

theorem Matches.map {p : Pattern α} {Spelt : List Char → α → Prop} (h : Matches p Spelt) (f : α → β) :
    Matches (f <$> p) fun u b => ∃ a, Spelt u a ∧ b = f a := by
  have parts := h.bind fun a => matches_pure (f a)
  intro cs b rest
  show (b, rest) ∈ (p >>= fun a => pure (f a)) cs ↔ _
  rw [parts]
  constructor
  · intro h
    obtain ⟨_, rfl, u, _, a, rfl, spelt, rfl, rfl⟩ := h
    exact ⟨u, by rw [List.append_nil], a, spelt, rfl⟩
  · intro h
    obtain ⟨u, rfl, a, spelt, rfl⟩ := h
    exact ⟨u, rfl, u, [], a, by rw [List.append_nil], spelt, rfl, rfl⟩

theorem Matches.orElse {p q : Pattern α} {First Other : List Char → α → Prop}
    (first : Matches p First) (other : Matches q Other) :
    Matches (orElse p q) fun u a => First u a ∨ Other u a := by
  intro cs a rest
  rw [Pattern.orElse, List.mem_append, first, other, ← exists_or]
  simp only [and_or_left]

theorem matches_maybe {p : Pattern α} {Spelt : List Char → α → Prop} (h : Matches p Spelt) :
    Matches (maybe p) fun u a? => (∃ a, Spelt u a ∧ a? = some a) ∨ (u = [] ∧ a? = none) :=
  (h.map some).orElse (matches_pure none)

theorem matches_oneOf {ι : Type} {xs : List ι} {p : ι → Pattern α}
    {Spelt : ι → List Char → α → Prop} (each : ∀ x ∈ xs, Matches (p x) (Spelt x)) :
    Matches (oneOf (xs.map p)) fun u a => ∃ x ∈ xs, Spelt x u a := by
  intro cs a rest
  simp only [oneOf, List.mem_flatMap, List.mem_map]
  constructor
  · intro h
    obtain ⟨_, ⟨x, member, rfl⟩, found⟩ := h
    obtain ⟨u, whole, spelt⟩ := (each x member cs a rest).1 found
    exact ⟨u, whole, x, member, spelt⟩
  · intro h
    obtain ⟨u, whole, x, member, spelt⟩ := h
    exact ⟨p x, ⟨x, member, rfl⟩, (each x member cs a rest).2 ⟨u, whole, spelt⟩⟩

theorem matches_run (p : Char → Bool) :
    Matches (run p) fun u a => u = a ∧ a ≠ [] ∧ ∀ c ∈ a, p c = true := by
  intro cs
  induction cs with
  | nil =>
    intro a rest
    constructor
    · intro found
      cases found
    · intro h
      obtain ⟨u, whole, rfl, nonempty, _⟩ := h
      exact absurd (List.append_eq_nil_iff.1 whole.symm).1 nonempty
  | cons c cs ih =>
    intro a rest
    cases here : p c with
    | false =>
      rw [run, here, if_neg Bool.false_ne_true]
      constructor
      · intro found
        cases found
      · intro h
        obtain ⟨u, whole, rfl, nonempty, holds⟩ := h
        cases u with
        | nil => exact absurd rfl nonempty
        | cons d u =>
          obtain ⟨rfl, _⟩ := List.cons.inj whole
          rw [holds c List.mem_cons_self] at here
          cases here
    | true =>
      rw [run, here, if_pos rfl, List.mem_append, List.mem_map, List.mem_singleton]
      constructor
      · intro h
        -- the run goes on, or it stops after this character
        rcases h with ⟨⟨u, left⟩, found, same⟩ | single
        · obtain ⟨rfl, rfl⟩ := Prod.mk.inj same
          obtain ⟨_, rfl, rfl, nonempty, holds⟩ := (ih u left).1 found
          exact ⟨c :: _, rfl, rfl, List.cons_ne_nil _ _, by simpa [here] using holds⟩
        · obtain ⟨rfl, rfl⟩ := Prod.mk.inj single
          exact ⟨[c], rfl, rfl, List.cons_ne_nil _ _, by simpa using here⟩
      · intro h
        obtain ⟨u, whole, rfl, nonempty, holds⟩ := h
        cases u with
        | nil => exact absurd rfl nonempty
        | cons d u =>
          obtain ⟨rfl, more⟩ := List.cons.inj whole
          cases u with
          | nil => exact .inr (Prod.ext rfl more.symm)
          | cons e u =>
            refine .inl ⟨(e :: u, rest), (ih _ _).2 ⟨_, more, rfl, List.cons_ne_nil _ _, ?_⟩, rfl⟩
            exact fun f inside => holds f (List.mem_cons_of_mem _ inside)

theorem matches_many (p : Char → Bool) :
    Matches (many p) fun u a => u = a ∧ ∀ c ∈ a, p c = true := by
  refine ((matches_run p).orElse (matches_pure [])).congr fun u a => ?_
  constructor
  · intro h
    rcases h with ⟨rfl, _, holds⟩ | ⟨rfl, rfl⟩
    · exact ⟨rfl, holds⟩
    · exact ⟨rfl, by simp⟩
  · intro h
    obtain ⟨rfl, holds⟩ := h
    by_cases none : u = []
    · exact .inr ⟨none, none⟩
    · exact .inl ⟨rfl, none, holds⟩

theorem Matches.readAll?_eq_some {p : Pattern α} {Spelt : List Char → α → Prop}
    (h : Matches p Spelt) {cs : List Char} {a : α} (read : p.readAll? cs = some a) :
    Spelt cs a := by
  obtain ⟨⟨b, rest⟩, found, whole⟩ := List.exists_of_findSome?_eq_some read
  obtain ⟨done, same⟩ := Option.ite_none_right_eq_some.1 whole
  obtain rfl := Option.some.inj same
  obtain rfl := List.isEmpty_iff.1 done
  obtain ⟨u, rfl, spelt⟩ := (h cs _ _).1 found
  rwa [List.append_nil]

theorem Matches.readAll?_isSome {p : Pattern α} {Spelt : List Char → α → Prop}
    (h : Matches p Spelt) {cs : List Char} {a : α} (spelt : Spelt cs a) :
    (p.readAll? cs).isSome = true := by
  rw [readAll?, List.findSome?_isSome_iff]
  exact ⟨(a, []), (h cs a []).2 ⟨cs, (List.append_nil cs).symm, spelt⟩, rfl⟩

def IsKeyword (keyword : String) (w : List Char) : Prop :=
  List.Forall₂ (fun letter c => isCaseOf letter c = true) keyword.toList w

instance (keyword : String) (w : List Char) : Decidable (IsKeyword keyword w) :=
  inferInstanceAs (Decidable (List.Forall₂ _ _ _))

theorem dropKeyword?_eq_some {letters cs rest : List Char} :
    dropKeyword? letters cs = some rest ↔
      ∃ u, cs = u ++ rest ∧ List.Forall₂ (fun letter c => isCaseOf letter c = true) letters u := by
  induction letters generalizing cs with
  | nil =>
    rw [dropKeyword?, Option.some.injEq]
    constructor
    · intro same
      subst same
      exact ⟨[], rfl, .nil⟩
    · intro h
      obtain ⟨_, rfl, ⟨⟩⟩ := h
      rfl
  | cons letter letters ih =>
    cases cs with
    | nil =>
      constructor
      · intro found
        cases found
      · intro h
        obtain ⟨_, whole, spelt⟩ := h
        cases spelt
        cases whole
    | cons c cs =>
      rw [dropKeyword?]
      constructor
      · intro found
        split at found
        · next here =>
          obtain ⟨u, rfl, spelt⟩ := ih.1 found
          exact ⟨c :: u, rfl, .cons here spelt⟩
        · cases found
      · intro h
        obtain ⟨_, whole, spelt⟩ := h
        cases spelt with
        | cons here later =>
          obtain ⟨rfl, rfl⟩ := List.cons.inj whole
          rw [if_pos here]
          exact ih.2 ⟨_, rfl, later⟩

theorem matches_keyword (word : String) : Matches (keyword word) fun u _ => IsKeyword word u := by
  intro cs a rest
  rw [keyword, Option.mem_toList, Option.map_eq_some_iff]
  constructor
  · intro h
    obtain ⟨left, found, same⟩ := h
    obtain ⟨-, rfl⟩ := Prod.mk.inj same
    exact dropKeyword?_eq_some.1 found
  · intro spelt
    exact ⟨rest, dropKeyword?_eq_some.2 spelt, rfl⟩

end ThreatModel.Text.Pattern
