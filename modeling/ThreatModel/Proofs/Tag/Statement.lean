import ThreatModel.Proofs.Element
import ThreatModel.Proofs.Text.Pattern
import ThreatModel.Tag.Statement

namespace ThreatModel

namespace Statement

open Text Pattern

def kind : Statement → TagKind
  | naming _ _ => .aliases
  | describing _ _ => .describes
  | connecting _ _ _ _ => .connects
  | reviewing _ _ => .reviews
  | standing kind _ _ _ => kind.tagKind

theorem eq_describing {s : Statement} (h : s.kind = .describes) :
    ∃ subject text, s = .describing subject text := by
  cases s with
  | describing subject text => exact ⟨subject, text, rfl⟩
  | naming => cases h
  | connecting => cases h
  | reviewing => cases h
  | standing kind => cases kind <;> cases h

theorem yields_connectsTag : Yields connectsTag (·.kind = .connects) := by
  repeat' refine yields_bind fun _ => ?_
  exact yields_pure rfl

theorem yields_reviewTag : Yields reviewTag (·.kind = .reviews) := by
  repeat' refine yields_bind fun _ => ?_
  exact yields_pure rfl

theorem yields_placeFirst (kind : TagKind) (stance : StanceKind) (joint : String) :
    Yields (placeFirst kind stance joint) (·.kind = stance.tagKind) := by
  repeat' refine yields_bind fun _ => ?_
  exact yields_pure rfl

theorem yields_threatFirst (kind : TagKind) (stance : StanceKind) :
    Yields (threatFirst kind stance) (·.kind = stance.tagKind) := by
  repeat' refine yields_bind fun _ => ?_
  exact yields_pure rfl

theorem kind_of_naming? {cs : List Char} {s : Statement} (h : naming? cs = some s) :
    s.kind = .aliases := by
  simp only [naming?, Option.bind_eq_bind, Option.pure_def, Option.bind_eq_some_iff,
    Option.some.injEq] at h
  obtain ⟨_, _, _, _, rfl⟩ := h
  rfl

theorem kind_of_describing? {cs : List Char} {s : Statement} (h : describing? cs = some s) :
    s.kind = .describes := by
  simp only [describing?, Option.bind_eq_bind, Option.pure_def, Option.bind_eq_some_iff,
    Option.some.injEq] at h
  obtain ⟨_, _, _, _, rfl⟩ := h
  rfl

theorem kind_of_ofText? {kind : TagKind} {text : String} {s : Statement}
    (h : ofText? kind text = some s) : s.kind = kind := by
  cases kind with
  | aliases => exact kind_of_naming? h
  | describes => exact kind_of_describing? h
  | connects => exact yields_connectsTag.readAll? h
  | reviews => exact yields_reviewTag.readAll? h
  | mitigates => exact (yields_placeFirst .mitigates .mitigation "against").readAll? h
  | exposes => exact (yields_placeFirst .exposes .exposure "to").readAll? h
  | transfers => exact (yields_threatFirst .transfers .transfer).readAll? h
  | accepts => exact (yields_threatFirst .accepts .acceptance).readAll? h

end Statement

end ThreatModel
