import Curator.Settings
import Curator.Sync.Poll

/-! A pass over all sources that are switched on. -/
namespace Curator

/-- What became of one source in a pass. -/
structure SourceSync where
  sourceId : Int
  sourceName : List Char
  outcome : SyncOutcome
deriving DecidableEq, Repr

namespace SourceSync

variable {σ : Type}

/-- The result of the poll of a source that has come to an outcome. -/
def ofOutcome (source : Source) (outcome : SyncOutcome) : SourceSync where
  sourceId := source.id
  sourceName := source.name
  outcome := outcome

/-- Poll one source. There is no result if the poll breaks down. -/
def ofSource (store : StatusStore σ) (now : Timestamp) (answer : Source → FetchAnswer)
    (source : Source) : OptionT (StateM σ) SourceSync := .mk fun contents =>
  let (outcome, contents) := (Poll.ofSource store now source).run (answer source) contents
  (outcome.map (ofOutcome source), contents)

/-- Poll the sources that are switched on, with the results in the order of the settings. A poll
that breaks down ends the pass without any results. -/
def pass (store : StatusStore σ) (now : Timestamp) (answer : Source → FetchAnswer)
    (settings : Settings) : OptionT (StateM σ) (List SourceSync) :=
  settings.enabledSources.mapM (ofSource store now answer)

end SourceSync

end Curator
