import Curator.Import.Candidate

/-! Rules that a candidate must satisfy, and the verdict of a list of rules. A rule that cannot be
evaluated rejects the candidate too. No rule is used that gives no reason for rejecting. -/
namespace Curator

/-- Why a rule could not be evaluated. -/
inductive SpecificationError where
  | disk (error : DiskError)
  | unavailable (what : String)
  | other (reason : String)
deriving DecidableEq, Repr

def SpecificationError.message : SpecificationError → String
  | disk error => error.message
  | unavailable what => s!"{what} is unavailable"
  | other reason => reason

/-- A rule with its name and the reason it gives when it rejects. -/
structure Specification where
  name : String
  reason : String
  holds : Candidate → Except SpecificationError Bool

def Specification.hasReason (specification : Specification) : Bool :=
  !(Text.trim specification.reason.toList).isEmpty

/-- How a rejection came about. -/
inductive RejectionKind where
  | rejected
  | evaluationError
deriving DecidableEq, Repr

/-- Why a candidate is not taken. -/
structure Rejection where
  reason : String
  kind : RejectionKind := .rejected
deriving DecidableEq, Repr

/-- What the answer of a rule with a name and a reason speaks against a candidate. -/
def Rejection.ofAnswer? (name reason : String) :
    Except SpecificationError Bool → Option Rejection
  | .ok true => none
  | .ok false => some { reason }
  | .error error => some { reason := s!"{name}: {error.message}", kind := .evaluationError }

/-- A candidate with everything that speaks against it. -/
structure ImportDecision where
  candidate : Candidate
  rejections : List Rejection
deriving DecidableEq, Repr

namespace ImportDecision

def isApproved (decision : ImportDecision) : Bool :=
  decision.rejections.isEmpty

def reasons (decision : ImportDecision) : List String :=
  decision.rejections.map Rejection.reason

end ImportDecision

namespace Specification

/-- What a rule has against a candidate. -/
def rejection? (candidate : Candidate) (specification : Specification) : Option Rejection :=
  Rejection.ofAnswer? specification.name specification.reason (specification.holds candidate)

def firstWithoutReason? (specifications : List Specification) : Option Specification :=
  specifications.find? (!·.hasReason)

variable {m : Type → Type} [Monad m]

/-- Ask every rule in turn, and collect what their answers speak against a candidate. -/
def collect (ask : Specification → m (Except SpecificationError Bool)) :
    List Specification → m (List Rejection)
  | [] => return []
  | specification :: others => do
    let answer ← ask specification
    let rejections ← collect ask others
    return (Rejection.ofAnswer? specification.name specification.reason answer).toList ++ rejections

/-- The verdict of rules that are asked in some way. It fails when a rule gives no reason, whatever
the rules say, and then none is asked. -/
def judge (ask : Specification → m (Except SpecificationError Bool)) (candidate : Candidate)
    (specifications : List Specification) : m (Except Fault ImportDecision) :=
  match firstWithoutReason? specifications with
  | some specification => return .error (.missingReason specification.name)
  | none => return .ok { candidate, rejections := ← collect ask specifications }

def evaluate (candidate : Candidate) (specifications : List Specification) :
    Except Fault ImportDecision :=
  Id.run (judge (fun specification => pure (specification.holds candidate)) candidate
    specifications)

end Specification

/-- Rules that all give a reason. -/
structure SpecificationRegistry where
  specifications : List Specification := []
  hasReason : ∀ specification ∈ specifications, specification.hasReason = true := by simp

namespace SpecificationRegistry

def push (registry : SpecificationRegistry) (specification : Specification)
    (given : specification.hasReason = true) : SpecificationRegistry where
  specifications := registry.specifications ++ [specification]
  hasReason := by
    intro each member
    rcases List.mem_append.mp member with earlier | last
    · exact registry.hasReason each earlier
    · exact List.mem_singleton.mp last ▸ given

/-- Add a rule to the registry at hand; one without a reason is refused. -/
def add (specification : Specification) : ExceptT Fault (StateM SpecificationRegistry) Unit :=
  if given : specification.hasReason = true then modify (·.push specification given)
  else throw (.missingReason specification.name)

def register (registry : SpecificationRegistry) (specification : Specification) :
    Except Fault SpecificationRegistry :=
  let (answer, left) := (add specification).run.run registry
  answer.map fun _ => left

/-- Add rules in order, up to the first one that is refused. -/
def registerAll (registry : SpecificationRegistry) (specifications : List Specification) :
    Except Fault SpecificationRegistry :=
  specifications.foldlM register registry

def evaluate (registry : SpecificationRegistry) (candidate : Candidate) :
    Except Fault ImportDecision :=
  Specification.evaluate candidate registry.specifications

end SpecificationRegistry

end Curator
