/-! What can go wrong, by cause, with the wording shown to people. -/
namespace Curator

inductive Fault where
  | config (reason : String)
  | storage (reason : String)
  | feed (reason : String)
  /-- A rule was registered that gives no reason when it rejects. -/
  | missingReason (rule : String)
  | cancelled
  | io (reason : String)
deriving DecidableEq, Repr

def Fault.message : Fault → String
  | config reason => s!"config error: {reason}"
  | storage reason => s!"storage error: {reason}"
  | feed reason => s!"feed error: {reason}"
  | missingReason rule => s!"specification '{rule}' has no rejection reason"
  | cancelled => "operation cancelled"
  | io reason => s!"IO error: {reason}"

/-- Why work has no result. It reports a reason, which its caller can deal with; or it breaks down,
as it does when a number leaves the range of its type, and takes its caller with it. -/
inductive Failure (ε : Type) where
  | reported (reason : ε)
  | crashed
deriving DecidableEq, Repr

end Curator
