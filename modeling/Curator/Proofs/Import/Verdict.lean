import Curator.Import.Specification
import Mathlib.Data.List.Basic

/-! Verdicts of rules. Rules are looked at for their reasons before any is asked, and only then
asked one after the other; so rules that were all registered have a verdict on every candidate. -/
namespace Curator

namespace Specification

/-- Whether the reason of a rule has nothing but white space. -/
def IsBlank (specification : Specification) : Prop :=
  Text.trim specification.reason.toList = []

instance (specification : Specification) : Decidable specification.IsBlank :=
  inferInstanceAs (Decidable (_ = _))

theorem hasReason_iff {specification : Specification} :
    specification.hasReason = true ↔ ¬ specification.IsBlank := by
  simp [hasReason, IsBlank]

theorem rejection?_eq_none_iff {specification : Specification} {candidate : Candidate} :
    specification.rejection? candidate = none ↔ specification.holds candidate = .ok true := by
  unfold rejection? Rejection.ofAnswer?
  cases specification.holds candidate with
  | error error => simp
  | ok holds => cases holds <;> simp

theorem collect_pure (answer : Specification → Except SpecificationError Bool)
    (specifications : List Specification) :
    Id.run (collect (fun specification => pure (answer specification)) specifications) =
      specifications.filterMap fun specification =>
        Rejection.ofAnswer? specification.name specification.reason (answer specification) := by
  induction specifications with
  | nil => rfl
  | cons specification others ih =>
    rw [List.filterMap_cons]
    simp only [collect, Id.run_bind, Id.run_pure, ih]
    cases Rejection.ofAnswer? specification.name specification.reason (answer specification) <;>
      rfl

theorem evaluate_eq (candidate : Candidate) (specifications : List Specification) :
    evaluate candidate specifications =
      match firstWithoutReason? specifications with
      | some specification => .error (.missingReason specification.name)
      | none =>
        .ok { candidate, rejections := specifications.filterMap (rejection? candidate) } := by
  unfold evaluate judge
  cases firstWithoutReason? specifications with
  | some specification => rfl
  | none =>
    have collected := collect_pure (·.holds candidate) specifications
    simp only [Id.run_bind, Id.run_pure] at collected ⊢
    rw [collected]
    rfl

theorem exists_error_iff {candidate : Candidate} {specifications : List Specification} :
    (∃ fault, evaluate candidate specifications = .error fault) ↔
      ∃ specification ∈ specifications, specification.IsBlank := by
  rw [evaluate_eq]
  cases found : firstWithoutReason? specifications with
  | none =>
    have given : ∀ specification ∈ specifications, specification.hasReason = true := by
      simpa [firstWithoutReason?] using found
    constructor
    · rintro ⟨fault, failed⟩
      cases failed
    · rintro ⟨specification, member, isBlank⟩
      exact absurd isBlank (hasReason_iff.mp (given specification member))
  | some first =>
    have isBlank : first.IsBlank := by
      simpa [hasReason, IsBlank] using List.find?_some found
    constructor
    · exact fun _ => ⟨first, List.mem_of_find?_eq_some found, isBlank⟩
    · exact fun _ => ⟨_, rfl⟩

theorem firstWithoutReason?_eq_some {specifications before after : List Specification}
    {blank : Specification} (split : specifications = before ++ blank :: after)
    (earlier : ∀ specification ∈ before, ¬ specification.IsBlank) (isBlank : blank.IsBlank) :
    firstWithoutReason? specifications = some blank := by
  rw [firstWithoutReason?, List.find?_eq_some_iff_append]
  refine ⟨?_, before, after, split, ?_⟩
  · simpa [← hasReason_iff] using not_not.mpr isBlank
  · intro specification member
    simpa using hasReason_iff.mpr (earlier specification member)

end Specification

namespace SpecificationRegistry

/-- Rules that all give a reason have a verdict on every candidate. -/
theorem evaluate_eq (registry : SpecificationRegistry) (candidate : Candidate) :
    registry.evaluate candidate =
      .ok
        { candidate
          rejections := registry.specifications.filterMap
            (Specification.rejection? candidate) } := by
  have given : Specification.firstWithoutReason? registry.specifications = none := by
    rw [Specification.firstWithoutReason?, List.find?_eq_none]
    intro specification member
    simp [registry.hasReason specification member]
  rw [evaluate, Specification.evaluate_eq, given]

/-- Add rules in a row, whether or not an earlier one is refused. -/
def addEach : List Specification → StateM SpecificationRegistry (List (Except Fault Unit))
  | [] => return []
  | specification :: others => do
    let answer ← (add specification).run
    let answers ← addEach others
    return answer :: answers

def answerTo (specification : Specification) : Except Fault Unit :=
  if specification.IsBlank then .error (.missingReason specification.name) else .ok ()

theorem run_add_of_blank {specification : Specification} (isBlank : specification.IsBlank)
    (registry : SpecificationRegistry) :
    (add specification).run.run registry =
      (.error (.missingReason specification.name), registry) := by
  rw [add, dif_neg]
  · rfl
  · rw [Specification.hasReason_iff]
    exact not_not.mpr isBlank

theorem run_add_of_reason {specification : Specification}
    (given : specification.hasReason = true) (registry : SpecificationRegistry) :
    (add specification).run.run registry = (.ok (), registry.push specification given) := by
  rw [add, dif_pos given]
  rfl

theorem run_addEach (calls : List Specification) (registry : SpecificationRegistry) :
    ∃ left, (addEach calls).run registry = (calls.map answerTo, left) ∧
      left.specifications = registry.specifications ++ calls.filter (¬ ·.IsBlank) := by
  induction calls generalizing registry with
  | nil => exact ⟨registry, rfl, (List.append_nil _).symm⟩
  | cons specification others ih =>
    simp only [addEach, StateT.run_bind]
    by_cases isBlank : specification.IsBlank
    · obtain ⟨left, ran, added⟩ := ih registry
      refine ⟨left, ?_, ?_⟩
      · rw [run_add_of_blank isBlank, List.map_cons, answerTo, if_pos isBlank]
        exact congrArg (Prod.map (_ :: ·) id) ran
      · rw [added, List.filter_cons_of_neg (by simpa using isBlank)]
    · have given := Specification.hasReason_iff.mpr isBlank
      obtain ⟨left, ran, added⟩ := ih (registry.push specification given)
      refine ⟨left, ?_, ?_⟩
      · rw [run_add_of_reason given, List.map_cons, answerTo, if_neg isBlank]
        exact congrArg (Prod.map (_ :: ·) id) ran
      · rw [added, push, List.append_assoc, List.filter_cons_of_pos (by simpa using isBlank)]
        rfl

/-- The verdicts of rules that were added one by one, and of any rules. A registry takes the rules
that give a reason and stays as it was when one is refused. Its verdict on a candidate never fails,
and has for each rule that does not hold one rejection, in the order of the rules. The verdict of a
list of rules fails exactly when one of them gives no reason; it then names the first such rule and
does nothing else, however rules are asked. -/
theorem verdict_of_rules (registry : SpecificationRegistry) (calls : List Specification)
    (candidate : Candidate) :
    (∃ left, (addEach calls).run registry = (calls.map answerTo, left) ∧
      left.specifications = registry.specifications ++ calls.filter (¬ ·.IsBlank) ∧
      (∀ refused : Specification, refused.IsBlank →
        (add refused).run.run left = (.error (.missingReason refused.name), left)) ∧
      ∃ decision, left.evaluate candidate = .ok decision ∧ decision.candidate = candidate ∧
        (decision.rejections = left.specifications.filterMap fun specification =>
          match specification.holds candidate with
          | .ok true => none
          | .ok false => some { reason := specification.reason, kind := .rejected }
          | .error error =>
            some
              { reason := specification.name ++ ": " ++ error.message
                kind := .evaluationError }) ∧
        (decision.isApproved = true ↔ ∀ specification ∈ left.specifications,
          specification.holds candidate = .ok true)) ∧
    ∀ specifications : List Specification,
      ((∃ fault, Specification.evaluate candidate specifications = .error fault) ↔
        ∃ specification ∈ specifications, specification.IsBlank) ∧
      ∀ before blank after, specifications = before ++ blank :: after →
        (∀ specification ∈ before, ¬ specification.IsBlank) → blank.IsBlank →
        Specification.evaluate candidate specifications = .error (.missingReason blank.name) ∧
        ∀ (m : Type → Type) [Monad m]
          (ask : Specification → m (Except SpecificationError Bool)),
          Specification.judge ask candidate specifications =
            pure (.error (.missingReason blank.name)) := by
  constructor
  · obtain ⟨left, ran, added⟩ := run_addEach calls registry
    refine ⟨left, ran, added, fun refused isBlank => run_add_of_blank isBlank left,
      _, left.evaluate_eq candidate, rfl, ?_, ?_⟩
    · apply List.filterMap_congr
      intro specification _
      unfold Specification.rejection? Rejection.ofAnswer?
      cases specification.holds candidate with
      | error error => rfl
      | ok holds => cases holds <;> rfl
    · rw [ImportDecision.isApproved, List.isEmpty_iff, List.filterMap_eq_nil_iff]
      exact forall₂_congr fun _ _ => Specification.rejection?_eq_none_iff
  · intro specifications
    refine ⟨Specification.exists_error_iff, ?_⟩
    intro before blank after split earlier isBlank
    have found := Specification.firstWithoutReason?_eq_some split earlier isBlank
    constructor
    · rw [Specification.evaluate_eq, found]
    · intro m _ ask
      rw [Specification.judge, found]

/-- A rule that rejects, one without a reason, one that cannot be evaluated, and one that holds. -/
def mixedRules : List Specification :=
  [{ name := "Never", reason := "Nope", holds := fun _ => .ok false },
    { name := "Blank", reason := "  ", holds := fun _ => .ok true },
    { name := "Flaky", reason := "Flaky said no", holds := fun _ => .error (.other "no disk") },
    { name := "Fine", reason := "Not fine", holds := fun _ => .ok true }]

/-- Ask a rule about a candidate, and note its name. -/
def noting (candidate : Candidate) (specification : Specification) :
    StateM (List String) (Except SpecificationError Bool) := do
  modify (specification.name :: ·)
  return specification.holds candidate

theorem verdict_of_mixedRules :
    let candidate : Candidate := .unresolved { primary := .ofString "show.mkv" }
    (∃ left, (addEach mixedRules).run {} =
        ([.ok (), .error (.missingReason "Blank"), .ok (), .ok ()], left) ∧
      ∃ decision, left.evaluate candidate = .ok decision ∧
        decision.rejections =
          [{ reason := "Nope" }, { reason := "Flaky: no disk", kind := .evaluationError }]) ∧
      Specification.evaluate candidate mixedRules = .error (.missingReason "Blank") ∧
      Specification.judge (noting candidate) candidate mixedRules =
        pure (.error (.missingReason "Blank")) := by
  intro candidate
  obtain ⟨⟨left, ran, added, _, decision, evaluated, _, rejections, _⟩, direct⟩ :=
    verdict_of_rules {} mixedRules candidate
  obtain ⟨failed, unasked⟩ := (direct mixedRules).2 [mixedRules[0]] mixedRules[1]
    [mixedRules[2], mixedRules[3]] rfl (by decide +kernel) (by decide +kernel)
  refine ⟨⟨left, ran, decision, evaluated, ?_⟩, failed, unasked _ (noting candidate)⟩
  rw [rejections, added]
  decide +kernel

end SpecificationRegistry

end Curator
