import Curator.Import.Rule
import Curator.Proofs.Disk.Grouping
import Curator.Proofs.Import.Verdict
import Curator.Proofs.Time.Order

/-! The verdict of the rules that every import uses. A file outside the library must be whole,
unpacked and free. Whatever is wrong with it in one of these ways is one rejection, also where the
disk does not answer, and the rejections stand in the order of the rules. -/
namespace Curator

/-- Whether the folder of a file has a name that begins with a marker other than the empty one. -/
def Path.LiesInWorkingFolder (path : Path) (markers : List (List Char)) : Prop :=
  ∃ folder name marker, path.parent? = some folder ∧ folder.fileName? = some name ∧
    marker ∈ markers ∧ marker ≠ [] ∧ marker <+: name

namespace Candidate

/-- Whether a file of a content item is no sample: a special, a stream, or long enough for the item
as far as its playing time is known. -/
def IsWhole (candidate : Candidate) : Prop :=
  ∃ content, candidate.content = some content ∧
    (candidate.isSpecial = true ∨
      (∃ extension, candidate.path.extension? = some extension ∧
        (Text.equalsIgnoringCase extension "flv".toList = true ∨
          Text.equalsIgnoringCase extension "strm".toList = true)) ∨
      candidate.runtime = none ∨
      ∃ nanos, candidate.runtime = some nanos ∧
        content.minimumSeconds * nanosPerSecond ≤ nanos)

/-- Whether a file lies in no working folder, or goes by the time of its last change, which is known
and five minutes past. -/
def IsUnpacked (candidate : Candidate) (disk : Disk) (now : Timestamp)
    (settings : ImportSettings) : Prop :=
  ¬ candidate.path.LiesInWorkingFolder settings.workingFolders ∨
    settings.unpackingCheck.resolve = .modifiedTime ∧
      ∃ changed, disk.lastWrite candidate.path = .ok changed ∧ changed ≤ now.add (-300000000000)

end Candidate

/-- What a rule objects to in a candidate: nothing where its condition is met, else one thing, which
is the failure of the rule where it fails and its reason elsewhere. -/
structure Rejection.Objects (objection : Option Rejection) (name reason : String) (isMet : Prop)
    (fails : SpecificationError → Prop) : Prop where
  eq_none_iff : objection = none ↔ isMet
  rejected : ¬ isMet → (∀ error, ¬ fails error) → objection = some { reason, kind := .rejected }
  failed : ∀ error, fails error →
    objection = some { reason := name ++ ": " ++ error.message, kind := .evaluationError }

theorem Specification.objects {specification : Specification} {candidate : Candidate}
    {isMet : Prop} {fails : SpecificationError → Prop}
    (met : specification.holds candidate = .ok true ↔ isMet)
    (failed : ∀ error, specification.holds candidate = .error error ↔ fails error) :
    Rejection.Objects (specification.rejection? candidate) specification.name
      specification.reason isMet fails where
  eq_none_iff := Specification.rejection?_eq_none_iff.trans met
  rejected := by
    intro unmet answers
    unfold rejection?
    cases answer : specification.holds candidate with
    | error error => exact absurd ((failed error).mp answer) (answers error)
    | ok holds =>
      cases holds with
      | true => exact absurd (met.mp answer) unmet
      | false => rfl
  failed := by
    intro error fails
    rw [rejection?, (failed error).mpr fails]
    rfl

namespace Rule

theorem hasExtension_streams_iff {path : Path} :
    path.hasExtension streamExtensions = true ↔
      ∃ extension, path.extension? = some extension ∧
        (Text.equalsIgnoringCase extension "flv".toList = true ∨
          Text.equalsIgnoringCase extension "strm".toList = true) := by
  unfold Path.hasExtension
  cases path.extension? with
  | none => simp
  | some extension =>
    have flv : Text.asciiLowercase "flv".toList = "flv".toList := by decide
    have strm : Text.asciiLowercase "strm".toList = "strm".toList := by decide
    simp only [streamExtensions, List.any_cons, List.any_nil, Bool.or_false, Bool.or_eq_true,
      beq_iff_eq, Text.equalsIgnoringCase, flv, strm, Option.some.injEq, exists_eq_left']
    exact or_congr eq_comm eq_comm

theorem status_ne_sample_iff {content : Content} {path : Path} {isSpecial : Bool}
    {runtime : Option Nat} :
    SampleStatus.of content path isSpecial runtime ≠ .sample ↔
      isSpecial = true ∨ path.hasExtension streamExtensions = true ∨ runtime = none ∨
        ∃ nanos, runtime = some nanos ∧ content.minimumSeconds * nanosPerSecond ≤ nanos := by
  unfold SampleStatus.of
  by_cases exempt : (isSpecial || path.hasExtension streamExtensions) = true
  · rw [if_pos exempt]
    rw [Bool.or_eq_true] at exempt
    simp only [ne_eq, reduceCtorEq, not_false_eq_true, true_iff]
    exact exempt.imp_right .inl
  · rw [if_neg exempt]
    rw [Bool.or_eq_true, not_or] at exempt
    cases runtime with
    | none => simp
    | some nanos =>
      simp only [exempt.1, exempt.2, Bool.false_eq_true, reduceCtorEq, false_or, Option.some.injEq,
        exists_eq_left']
      by_cases short : nanos < content.minimumSeconds * nanosPerSecond
      · simp [short]
      · simp [short, not_lt.mp short]

theorem notSample_met_iff {candidate : Candidate} (outside : candidate.isExisting = false) :
    notSample.holds candidate = .ok true ↔ candidate.IsWhole := by
  unfold Candidate.IsWhole
  simp only [notSample, outside, Bool.false_eq_true, if_false]
  cases candidate.content with
  | none => simp
  | some content =>
    simp only [Except.ok.injEq, bne_iff_ne, status_ne_sample_iff, hasExtension_streams_iff,
      Option.some.injEq, exists_eq_left']

theorem notSample_fails_iff {candidate : Candidate} (outside : candidate.isExisting = false)
    (error : SpecificationError) :
    notSample.holds candidate = .error error ↔
      candidate.content = none ∧ error = .unavailable "content item" := by
  simp only [notSample, outside, Bool.false_eq_true, if_false]
  cases candidate.content <;> simp [eq_comm]

theorem inWorkingFolder_iff {markers : List (List Char)} {path : Path} :
    inWorkingFolder markers path = true ↔ path.LiesInWorkingFolder markers := by
  unfold inWorkingFolder Path.LiesInWorkingFolder
  simp only [List.any_eq_true, Bool.and_eq_true, Bool.not_eq_true', List.isEmpty_eq_false_iff,
    Text.startsWith_iff]
  constructor
  · rintro ⟨marker, member, nonempty, leads⟩
    cases named : path.parent?.bind Path.fileName? with
    | none =>
      rw [named] at leads
      exact absurd (List.prefix_nil.mp leads) nonempty
    | some name =>
      rw [named] at leads
      obtain ⟨folder, parent, own⟩ := Option.bind_eq_some_iff.mp named
      exact ⟨folder, name, marker, parent, own, member, nonempty, leads⟩
  · rintro ⟨folder, name, marker, parent, own, member, nonempty, leads⟩
    refine ⟨marker, member, nonempty, ?_⟩
    rwa [parent, Option.bind_some, own]

variable {disk : Disk} {now : Timestamp} {settings : ImportSettings} {candidate : Candidate}

theorem notUnpacking_met_iff (outside : candidate.isExisting = false) :
    (notUnpacking disk now settings.workingFolders settings.unpackingCheck).holds candidate =
        .ok true ↔
      candidate.IsUnpacked disk now settings := by
  unfold Candidate.IsUnpacked
  rw [← inWorkingFolder_iff]
  simp only [notUnpacking, outside, Bool.false_or]
  cases inWorkingFolder settings.workingFolders candidate.path with
  | false => simp
  | true =>
    cases settings.unpackingCheck with
    | auto | always => simp [UnpackingCheck.resolve]
    | modifiedTime =>
      have earlier : (now.add (-freshness)) = now.add (-300000000000) := rfl
      cases disk.lastWrite candidate.path with
      | error error => simp [UnpackingCheck.resolve]
      | ok changed =>
        simp only [UnpackingCheck.resolve, Bool.not_true, Bool.false_eq_true, reduceCtorEq, if_false,
          Except.ok.injEq, Bool.not_eq_true', not_true_eq_false, false_or, true_and,
          exists_eq_left', ← Bool.not_eq_true, Timestamp.before_iff_lt, not_lt, earlier]

theorem notUnpacking_fails_iff (outside : candidate.isExisting = false)
    (error : SpecificationError) :
    (notUnpacking disk now settings.workingFolders settings.unpackingCheck).holds candidate =
        .error error ↔
      candidate.path.LiesInWorkingFolder settings.workingFolders ∧
        settings.unpackingCheck.resolve = .modifiedTime ∧
        ∃ unread, disk.lastWrite candidate.path = .error unread ∧ error = .disk unread := by
  rw [← inWorkingFolder_iff]
  simp only [notUnpacking, outside, Bool.false_or]
  cases inWorkingFolder settings.workingFolders candidate.path with
  | false => simp
  | true =>
    cases settings.unpackingCheck with
    | auto | always => simp [UnpackingCheck.resolve]
    | modifiedTime =>
      cases disk.lastWrite candidate.path <;> simp [UnpackingCheck.resolve, eq_comm]

theorem notInUse_met_iff (outside : candidate.isExisting = false) :
    (notInUse disk).holds candidate = .ok true ↔ disk.isLocked candidate.path = .ok false := by
  simp only [notInUse, outside, Bool.false_eq_true, if_false]
  cases disk.isLocked candidate.path <;> simp

theorem notInUse_fails_iff (outside : candidate.isExisting = false) (error : SpecificationError) :
    (notInUse disk).holds candidate = .error error ↔
      ∃ unread, disk.isLocked candidate.path = .error unread ∧ error = .disk unread := by
  simp only [notInUse, outside, Bool.false_eq_true, if_false]
  cases disk.isLocked candidate.path <;> simp [eq_comm]

/-- A file that already lies in the library satisfies every rule. -/
theorem holds_of_isExisting (inside : candidate.isExisting = true) :
    ∀ rule ∈ (SpecificationRegistry.default disk now settings).specifications,
      rule.holds candidate = .ok true := by
  intro rule member
  simp only [SpecificationRegistry.default, List.mem_cons, List.not_mem_nil, or_false] at member
  rcases member with rfl | rfl | rfl
  · simp [notSample, inside]
  · simp [notUnpacking, inside]
  · simp [notInUse, inside]

end Rule

namespace SpecificationRegistry

theorem registerAll_default (disk : Disk) (now : Timestamp) (settings : ImportSettings) :
    registerAll {}
        [Rule.notSample,
          Rule.notUnpacking disk now settings.workingFolders settings.unpackingCheck,
          Rule.notInUse disk] =
      .ok (default disk now settings) := by
  have given := (default disk now settings).hasReason
  have sample := given Rule.notSample (.head _)
  have unpacking := given _ (.tail _ (.head _))
  have inUse := given _ (.tail _ (.tail _ (.head _)))
  simp only [registerAll, List.foldlM_cons, List.foldlM_nil, register, run_add_of_reason sample,
    run_add_of_reason unpacking, run_add_of_reason inUse]
  rfl

/-- The rules that every import uses can all be registered, and have a verdict on every candidate. A
file in the library is taken. Any other file is taken exactly when it is whole, is unpacked, and is
known not to be in use; what is wrong with it is one rejection for each of the three, in this order,
and where its content or an answer of the disk is missing, an evaluation error that says so. -/
theorem verdict_of_default (disk : Disk) (now : Timestamp) (settings : ImportSettings)
    (candidate : Candidate) :
    registerAll {}
        [Rule.notSample,
          Rule.notUnpacking disk now settings.workingFolders settings.unpackingCheck,
          Rule.notInUse disk] =
      .ok (default disk now settings) ∧
    ∃ decision, (default disk now settings).evaluate candidate = .ok decision ∧
      decision.candidate = candidate ∧
      (decision.isApproved = true ↔ candidate.isExisting = true ∨
        candidate.IsWhole ∧ candidate.IsUnpacked disk now settings ∧
          disk.isLocked candidate.path = .ok false) ∧
      (candidate.isExisting = false → ∃ sample unpacking inUse,
        decision.rejections = sample.toList ++ unpacking.toList ++ inUse.toList ∧
        Rejection.Objects sample "NotSample" "Sample" candidate.IsWhole
          (fun error => candidate.content = none ∧ error = .unavailable "content item") ∧
        Rejection.Objects unpacking "NotUnpacking" "File is still being unpacked"
          (candidate.IsUnpacked disk now settings)
          (fun error => candidate.path.LiesInWorkingFolder settings.workingFolders ∧
            settings.unpackingCheck.resolve = .modifiedTime ∧
            ∃ unread, disk.lastWrite candidate.path = .error unread ∧ error = .disk unread) ∧
        Rejection.Objects inUse "NotInUse" "File is in use"
          (disk.isLocked candidate.path = .ok false)
          (fun error => ∃ unread, disk.isLocked candidate.path = .error unread ∧
            error = .disk unread)) := by
  refine ⟨registerAll_default disk now settings, _, evaluate_eq .., rfl, ?_, ?_⟩
  · rw [ImportDecision.isApproved, List.isEmpty_iff, List.filterMap_eq_nil_iff]
    simp only [Specification.rejection?_eq_none_iff]
    cases place : candidate.isExisting with
    | true => exact iff_of_true (Rule.holds_of_isExisting place) (.inl rfl)
    | false =>
      simp only [default, List.forall_mem_cons, List.not_mem_nil, false_implies, implies_true,
        and_true, Bool.false_eq_true, false_or, Rule.notSample_met_iff place,
        Rule.notUnpacking_met_iff place, Rule.notInUse_met_iff place]
  · intro outside
    refine ⟨Rule.notSample.rejection? candidate,
      (Rule.notUnpacking disk now settings.workingFolders
        settings.unpackingCheck).rejection? candidate,
      (Rule.notInUse disk).rejection? candidate, ?_,
      Specification.objects (Rule.notSample_met_iff outside) (Rule.notSample_fails_iff outside),
      Specification.objects (Rule.notUnpacking_met_iff outside)
        (Rule.notUnpacking_fails_iff outside),
      Specification.objects (Rule.notInUse_met_iff outside) (Rule.notInUse_fails_iff outside)⟩
    simp only [default, List.filterMap_cons, List.filterMap_nil]
    cases Rule.notSample.rejection? candidate <;>
      cases (Rule.notUnpacking disk now settings.workingFolders
        settings.unpackingCheck).rejection? candidate <;>
      cases (Rule.notInUse disk).rejection? candidate <;> rfl

/-- A disk that knows of no file when it was changed, and has every file in use. -/
def busyDisk : Disk where
  list _ _ _ := .ok []
  size _ := .ok 0
  lastWrite _ := .error { kind := .notFound, reason := "file vanished" }
  isLocked _ := .ok true

/-- A file in a working folder of which nothing is known, on a disk where it is in use. -/
theorem verdict_of_default_on_busyDisk :
    let candidate : Candidate := .unresolved { primary := .ofString "tv/_UNPACK_show/01.mkv" }
    let settings : ImportSettings := { unpackingCheck := .modifiedTime }
    candidate.isExisting = false ∧
    ∃ decision, (default busyDisk .epoch settings).evaluate candidate = .ok decision ∧
      decision.isApproved = false ∧
      decision.rejections =
        [{ reason := "NotSample: content item is unavailable", kind := .evaluationError },
          { reason := "NotUnpacking: IO error: file vanished", kind := .evaluationError },
          { reason := "File is in use", kind := .rejected }] := by
  intro candidate settings
  obtain ⟨_, decision, evaluated, _, approved_iff, objections⟩ :=
    verdict_of_default busyDisk .epoch settings candidate
  obtain ⟨sample, unpacking, inUse, rejections, sampleObjects, unpackingObjects, inUseObjects⟩ :=
    objections rfl
  have unresolved := sampleObjects.failed _ ⟨rfl, rfl⟩
  have unread := unpackingObjects.failed _
    ⟨Rule.inWorkingFolder_iff.mp (by decide +kernel), rfl, _, rfl, rfl⟩
  have locked := inUseObjects.rejected nofun fun _ ⟨_, answered, _⟩ => nomatch answered
  refine ⟨rfl, decision, evaluated, ?_, ?_⟩
  · rw [← Bool.not_eq_true, approved_iff]
    rintro (⟨⟨⟩⟩ | ⟨_, _, ⟨⟩⟩)
  · rw [rejections, unresolved, unread, locked]
    rfl

end SpecificationRegistry

end Curator
