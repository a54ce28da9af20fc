import Curator.Proofs.Health.Unreliable
import Curator.Proofs.Sync.Run

/-! Passes over a store whose calls may fail. A poll notes that nothing was missed if it saw the
last release again, or had none to see; but a marker that cannot be read counts as none. So a pass
may note it wrongly where exactly that call fails, and nowhere else. -/
namespace Curator

theorem stamp?_eq (stored : Option SourceStatus) (id : Int) :
    stamp? stored = (stored.getD { sourceId := id }).lastContinuousSync := by
  cases stored <;> rfl

/-- Nothing is stored for a source as the instant of the last sync without a gap but what was stored
before a note, or what the note says. -/
def StatusNote.Stamps (note : StatusNote) (now : Timestamp) (id : Int)
    (before after : Option SourceStatus) : Prop :=
  ∀ instant, stamp? after = some instant → stamp? before = some instant ∨
    ∃ changed, note.change now (before.getD { sourceId := id }) = some changed ∧
      changed.lastContinuousSync = some instant

/-- A success or a failure of a source says nothing about gaps. -/
theorem StatusNote.Stamps.stays {note : StatusNote} {now : Timestamp} {id : Int}
    {before after : Option SourceStatus} (stamps : note.Stamps now id before after)
    (isPoll : ∀ marker fullyCaught, note ≠ .checkpoint marker fullyCaught) (instant : Timestamp)
    (stamped : stamp? after = some instant) : stamp? before = some instant := by
  rcases stamps instant stamped with earlier | ⟨changed, noted, same⟩
  · exact earlier
  · rw [stamp?_eq before id, ← same]
    cases note with
    | failure minimum =>
      obtain ⟨_, rfl⟩ := SourceStatus.escalate?_eq_some_iff.mp noted
      rfl
    | success =>
      simp only [change, SourceStatus.recover?] at noted
      split at noted
      · cases noted
      · cases noted
        rfl
    | checkpoint marker fullyCaught => exact absurd rfl (isPoll marker fullyCaught)

namespace Poll

variable {σ : Type}

/-- The contents that the next step of a poll comes upon, if it calls the store. -/
def seenNext : Poll σ → σ → List σ
  | finished _, _ => []
  | fetch _, _ => []
  | visit _ _ _, contents => [contents]

/-- The contents that all steps of a poll in a row come upon, as far as they call the store. -/
def seen (answer : FetchAnswer) : Poll σ → σ → List σ
  | finished _, _ => []
  | fetch next, contents => (next answer).seen answer contents
  | visit _ change next, contents => contents :: (next contents).seen answer (change contents)

/-- The contents that the steps come upon which a poll makes when it is broken off. -/
def seenOff : Poll σ → σ → List σ
  | visit true change next, contents => contents :: (next contents).seenOff (change contents)
  | _, _ => []

/-- The contents that the steps come upon which a poll still makes when its turn comes. -/
def seenLeft (answer : FetchAnswer) (isOver : Bool) (poll : Poll σ) (contents : σ) : List σ :=
  if isOver then poll.seenOff contents else poll.seen answer contents

/-- A poll that has come upon the contents `seen` so far, and ends as `goal` says of what it came
upon, its outcome and what is stored for its source, as long as nobody else changes the latter. It
may be broken off without an outcome. -/
def Ensures (stored : σ → Int → Option SourceStatus) (id : Int) (answer : FetchAnswer)
    (goal : List σ → Option SyncOutcome → Option SourceStatus → Prop) :
    Poll σ → List σ → Option SourceStatus → Prop
  | finished outcome, seen, record => goal seen outcome record
  | fetch next, seen, record =>
    goal seen none record ∧ Ensures stored id answer goal (next answer) seen record
  | visit goesOn change next, seen, record =>
    (goesOn = false → goal seen none record) ∧ ∀ contents, stored contents id = record →
      Ensures stored id answer goal (next contents) (seen ++ [contents])
        (stored (change contents) id)

/-- A poll that leaves what is stored for a source alone, whatever it comes upon. -/
def KeepsStored (stored : σ → Int → Option SourceStatus) (id : Int) : Poll σ → Prop
  | finished _ => True
  | fetch next => ∀ answer, (next answer).KeepsStored stored id
  | visit _ change next => ∀ contents,
    stored (change contents) id = stored contents id ∧ (next contents).KeepsStored stored id

variable {store : StatusStore σ} {stored : σ → Int → Option SourceStatus} {id : Int}
  {answer : FetchAnswer} {goal : List σ → Option SyncOutcome → Option SourceStatus → Prop}
  {poll : Poll σ} {come : List σ} {record : Option SourceStatus} {contents : σ} {goesOn : Bool}

theorem Ensures.advance (ensures : poll.Ensures stored id answer goal come (stored contents id)) :
    (poll.advance answer contents).1.Ensures stored id answer goal
      (come ++ poll.seenNext contents) (stored (poll.advance answer contents).2 id) := by
  cases poll with
  | finished outcome =>
    rw [seenNext, List.append_nil]
    exact ensures
  | fetch next =>
    rw [seenNext, List.append_nil]
    exact ensures.2
  | visit goesOn change next => exact ensures.2 contents rfl

theorem Ensures.run (ensures : poll.Ensures stored id answer goal come (stored contents id)) :
    goal (come ++ poll.seen answer contents) (poll.run answer contents).1
      (stored (poll.run answer contents).2 id) := by
  induction poll generalizing come contents with
  | finished outcome =>
    rw [seen, List.append_nil]
    exact ensures
  | fetch next ih => exact ih answer ensures.2
  | visit goesOn change next ih =>
    have later := ih contents (ensures.2 contents rfl)
    rwa [List.append_assoc] at later

theorem Ensures.breakOff
    (ensures : poll.Ensures stored id answer goal come (stored contents id)) :
    goal (come ++ poll.seenOff contents) (poll.breakOff contents).1.outcome?
      (stored (poll.breakOff contents).2 id) := by
  induction poll generalizing come contents with
  | finished outcome =>
    rw [seenOff.eq_def, List.append_nil]
    exact ensures
  | fetch next ih =>
    rw [seenOff.eq_def, List.append_nil]
    exact ensures.1
  | visit goesOn change next ih =>
    cases goesOn with
    | false =>
      rw [seenOff.eq_def, List.append_nil]
      exact ensures.1 rfl
    | true =>
      have later := ih contents (ensures.2 contents rfl)
      rwa [List.append_assoc] at later

theorem Ensures.close (ensures : poll.Ensures stored id answer goal come (stored contents id))
    (isOver : Bool) :
    goal (come ++ poll.seenLeft answer isOver contents)
      (poll.close answer isOver contents).1.outcome?
      (stored (poll.close answer isOver contents).2 id) := by
  cases isOver with
  | true => exact ensures.breakOff
  | false => exact ensures.run

theorem KeepsStored.advance (keeps : poll.KeepsStored stored id) (answer : FetchAnswer)
    (contents : σ) :
    stored (poll.advance answer contents).2 id = stored contents id ∧
      (poll.advance answer contents).1.KeepsStored stored id := by
  cases poll with
  | finished outcome => exact ⟨rfl, keeps⟩
  | fetch next => exact ⟨rfl, keeps answer⟩
  | visit goesOn change next => exact keeps contents

theorem KeepsStored.run (keeps : poll.KeepsStored stored id) (answer : FetchAnswer)
    (contents : σ) : stored (poll.run answer contents).2 id = stored contents id := by
  induction poll generalizing contents with
  | finished outcome => rfl
  | fetch next ih => exact ih answer (keeps answer) contents
  | visit goesOn change next ih =>
    obtain ⟨same, later⟩ := keeps contents
    exact (ih contents later (change contents)).trans same

theorem KeepsStored.breakOff (keeps : poll.KeepsStored stored id) (contents : σ) :
    stored (poll.breakOff contents).2 id = stored contents id := by
  induction poll generalizing contents with
  | finished outcome => rfl
  | fetch next ih => rfl
  | visit goesOn change next ih =>
    cases goesOn with
    | false => rfl
    | true =>
      obtain ⟨same, later⟩ := keeps contents
      exact (ih contents later (change contents)).trans same

theorem KeepsStored.close (keeps : poll.KeepsStored stored id) (answer : FetchAnswer)
    (isOver : Bool) (contents : σ) :
    stored (poll.close answer isOver contents).2 id = stored contents id := by
  cases isOver with
  | true => exact keeps.breakOff contents
  | false => exact keeps.run answer contents

theorem Ensures.look {α : Type} {action : StoreAction σ α} {next : Except StoreFailure α → Poll σ}
    (stops : goesOn = false → goal come none record)
    (keeps : ∀ contents, stored (action.run.run contents).2 = stored contents)
    (later : ∀ contents, stored contents id = record →
      (next (action.run.run contents).1).Ensures stored id answer goal (come ++ [contents])
        record) :
    (attempt goesOn action next).Ensures stored id answer goal come record := by
  refine ⟨stops, fun contents found => ?_⟩
  rw [keeps, found]
  exact later contents found

theorem Ensures.note (unreliable : store.Unreliable stored) (now : Timestamp) (note : StatusNote)
    {next : Except StoreFailure Unit → Poll σ}
    (stops : goesOn = false → goal come none record)
    (later : ∀ result more after, note.Stamps now id record after →
      (next result).Ensures stored id answer goal (come ++ more) after) :
    (update store id goesOn (note.change now) note.otherwise next).Ensures stored id answer goal
      come record := by
  refine Ensures.look stops (fun contents => unreliable.status_keeps contents id) ?_
  intro contents found
  cases read : ((store.status id).run.run contents).1 with
  | error failure => exact later (.error failure) [contents] record fun _ => .inl
  | ok status =>
    obtain rfl : status = record.getD { sourceId := id } := by
      rw [unreliable.status_tells read, found]
    dsimp only
    cases noted : note.change now (record.getD { sourceId := id }) with
    | none => exact later note.otherwise [contents] record fun _ => .inl
    | some changed =>
      have own : changed.sourceId = id := by
        rw [StatusNote.change_sourceId noted]
        cases record with
        | none => rfl
        | some status => exact unreliable.own contents id status found
      refine ⟨nofun, fun between unchanged => ?_⟩
      rw [List.append_assoc]
      refine later _ _ _ ?_
      intro instant stamped
      subst own
      rcases unreliable.upsert_own between changed with lost | put
      · rw [lost, unchanged] at stamped
        exact .inl stamped
      · exact .inr ⟨changed, noted, put instant stamped⟩

theorem KeepsStored.look {α : Type} {action : StoreAction σ α}
    {next : Except StoreFailure α → Poll σ}
    (keeps : ∀ contents, stored (action.run.run contents).2 = stored contents)
    (later : ∀ contents, (next (action.run.run contents).1).KeepsStored stored id) :
    (attempt goesOn action next).KeepsStored stored id :=
  fun contents => ⟨congrFun (keeps contents) id, later contents⟩

theorem KeepsStored.note (unreliable : store.Unreliable stored) (now : Timestamp)
    (note : StatusNote) {other : Int} {next : Except StoreFailure Unit → Poll σ}
    (different : other ≠ id) (later : ∀ result, (next result).KeepsStored stored id) :
    (update store other goesOn (note.change now) note.otherwise next).KeepsStored stored id := by
  refine KeepsStored.look (fun contents => unreliable.status_keeps contents other) ?_
  intro contents
  cases read : ((store.status other).run.run contents).1 with
  | error failure => exact later _
  | ok status =>
    dsimp only
    cases noted : note.change now status with
    | none => exact later _
    | some changed =>
      have elsewhere : id ≠ changed.sourceId := by
        rw [StatusNote.change_sourceId noted, unreliable.status_tells read]
        cases found : stored contents other with
        | none => exact Ne.symm different
        | some status =>
          rw [Option.getD_some, unreliable.own contents other status found]
          exact Ne.symm different
      exact fun between => ⟨unreliable.upsert_other between changed id elsewhere, later _⟩

/-- What a poll may come to over a store whose calls may fail, by the contents that it came upon. -/
structure Certifies (store : StatusStore σ) (now : Timestamp) (id : Int)
    (before : Option SourceStatus) (come : List σ) (outcome : Option SyncOutcome)
    (after : Option SourceStatus) : Prop where
  /-- The instant of the last sync without a gap stays, or this poll is said to be one. -/
  stamps : ∀ instant, stamp? after = some instant → stamp? before = some instant ∨
    instant = now ∧ ∃ releases, outcome = some (.synced releases true)
  /-- The marker that was stored is seen again, unless the call that reads it, which is the second
  one, fails. -/
  caught : ∀ releases, outcome = some (.synced releases true) →
    (∃ contents reason left, come[1]? = some contents ∧
      (store.status id).run.run contents = (.error reason, left)) ∨
    ∀ marker, before.bind SourceStatus.lastSyncMarker = some marker →
      ∃ release ∈ releases, marker.isOf release = true

variable {now : Timestamp}

theorem certifies_none (come : List σ) : Certifies store now id record come none record :=
  ⟨fun _ => .inl, nofun⟩

theorem ensures_fail (unreliable : store.Unreliable stored) (minimum : Option Nat)
    (message : String) :
    (fail store now id minimum message).Ensures stored id answer
      (Certifies store now id record) come record := by
  refine Ensures.note unreliable now (.failure minimum) (fun _ => certifies_none come)
    fun _ _ after noted => ?_
  exact ⟨fun instant stamped => .inl (noted.stays nofun instant stamped), nofun⟩

theorem ensures_succeed (unreliable : store.Unreliable stored) (releases : List Release)
    (fullyCaught : Bool) {first second : σ}
    (caught : fullyCaught = true →
      (∃ reason left, (store.status id).run.run second = (.error reason, left)) ∨
        ∀ marker, record.bind SourceStatus.lastSyncMarker = some marker →
          ∃ release ∈ releases, marker.isOf release = true) :
    (succeed store now id releases fullyCaught).Ensures stored id answer
      (Certifies store now id record) [first, second] record := by
  have certifies (more : List σ) (after : Option SourceStatus)
      (stamps : ∀ instant, stamp? after = some instant → stamp? record = some instant ∨
        instant = now ∧ fullyCaught = true) :
      Certifies store now id record ([first, second] ++ more)
        (some (.synced releases fullyCaught)) after := by
    constructor
    · intro instant stamped
      rcases stamps instant stamped with earlier | ⟨same, rfl⟩
      · exact .inl earlier
      · exact .inr ⟨same, releases, rfl⟩
    · rintro _ ⟨⟩
      rcases caught rfl with ⟨reason, left, failed⟩ | seenAgain
      · exact .inl ⟨second, reason, left, rfl, failed⟩
      · exact .inr seenAgain
  -- Whatever becomes of the two calls, only the checkpoint can write a stamp.
  refine Ensures.note unreliable now .success (fun _ => certifies_none _)
    fun result more after recovered => ?_
  have stays := recovered.stays nofun
  have early := certifies more after fun instant stamped => .inl (stays instant stamped)
  cases result with
  | error failure => exact early
  | ok _ =>
    dsimp only
    cases newest? releases with
    | none => exact early
    | some release =>
      refine Ensures.note unreliable now (.checkpoint (.ofRelease release) fullyCaught) nofun
        fun _ others final noted => ?_
      rw [List.append_assoc]
      refine certifies (more ++ others) final ?_
      intro instant stamped
      rcases noted instant stamped with earlier | ⟨_, ⟨⟩, same⟩
      · exact .inl (stays instant earlier)
      · cases fullyCaught with
        | false =>
          left
          apply stays
          rw [stamp?_eq after id, ← same]
          rfl
        | true => exact .inr ⟨(Option.some.inj same).symm, rfl⟩

theorem ensures_compare (unreliable : store.Unreliable stored) (releases : List Release)
    {first : σ} :
    (compare store now id releases).Ensures stored id answer (Certifies store now id record)
      [first] record := by
  refine Ensures.look (fun _ => certifies_none _)
    (fun contents => unreliable.status_keeps contents id) ?_
  intro contents found
  rcases read : (store.status id).run.run contents with ⟨reason | status, left⟩
  · exact ensures_succeed unreliable releases _ fun _ => .inl ⟨reason, left, read⟩
  · have told : status = record.getD { sourceId := id } := by
      rw [unreliable.status_tells (congrArg Prod.fst read), found]
    refine ensures_succeed unreliable releases _ fun caught => .inr ?_
    intro marker known
    obtain ⟨before, rfl, remembered⟩ := Option.bind_eq_some_iff.mp known
    rw [told, Option.getD_some, remembered] at caught
    exact List.any_eq_true.mp caught

theorem ensures_ofSource (unreliable : store.Unreliable stored) (now : Timestamp)
    (source : Source) (answer : FetchAnswer) (record : Option SourceStatus) :
    (ofSource store now source).Ensures stored source.id answer
      (Certifies store now source.id record) [] record := by
  refine Ensures.look (fun _ => certifies_none _)
    (fun contents => unreliable.isBlocked_keeps contents now source.id) ?_
  intro contents _
  have asks : (fetch (receive store now source)).Ensures stored source.id answer
      (Certifies store now source.id record) [contents] record := by
    refine ⟨certifies_none _, ?_⟩
    cases answer with
    | error failure => exact ensures_fail unreliable _ _
    | ok document =>
      rw [receive]
      cases FeedDocument.releases source document with
      | error failure =>
        cases failure with
        | reported fault => exact ensures_fail unreliable _ _
        | crashed => exact certifies_none _
      | ok releases => exact ensures_compare unreliable releases
  split
  · exact ⟨fun _ => .inl, nofun⟩
  · exact asks

theorem keepsStored_fail (unreliable : store.Unreliable stored) {other : Int}
    (different : other ≠ id) (minimum : Option Nat) (message : String) :
    (fail store now other minimum message).KeepsStored stored id :=
  KeepsStored.note unreliable now (.failure minimum) different fun _ => trivial

theorem keepsStored_succeed (unreliable : store.Unreliable stored) {other : Int}
    (different : other ≠ id) (releases : List Release) (fullyCaught : Bool) :
    (succeed store now other releases fullyCaught).KeepsStored stored id := by
  refine KeepsStored.note unreliable now .success different fun result => ?_
  cases result with
  | error failure => trivial
  | ok _ =>
    dsimp only
    cases newest? releases with
    | none => trivial
    | some release =>
      exact KeepsStored.note unreliable now (.checkpoint (.ofRelease release) fullyCaught)
        different fun _ => trivial

theorem keepsStored_ofSource (unreliable : store.Unreliable stored) (now : Timestamp)
    {source : Source} (different : source.id ≠ id) :
    (ofSource store now source).KeepsStored stored id := by
  refine KeepsStored.look (fun contents => unreliable.isBlocked_keeps contents now source.id) ?_
  intro contents
  split
  · trivial
  · intro answer
    cases answer with
    | error failure => exact keepsStored_fail unreliable different _ _
    | ok document =>
      rw [receive]
      cases FeedDocument.releases source document with
      | error failure =>
        cases failure with
        | reported fault => exact keepsStored_fail unreliable different _ _
        | crashed => trivial
      | ok releases =>
        refine KeepsStored.look (fun contents => unreliable.status_keeps contents source.id) ?_
        intro contents
        split
        · exact keepsStored_succeed unreliable different releases _
        · exact keepsStored_succeed unreliable different releases _

end Poll

namespace SourceSync

variable {σ : Type}

/-- The contents that a step of the poll at a place comes upon, if it calls the store about a
source. -/
def seenAt (id : Int) (place : Nat) (polls : List (Source × Poll σ)) (contents : σ) : List σ :=
  match polls[place]? with
  | some (source, poll) => if source.id = id then poll.seenNext contents else []
  | none => []

/-- The contents that the steps come upon which polls still make, when they call the store about a
source. -/
def seenInTurn (answer : Source → FetchAnswer) (id : Int) :
    Bool → List (Source × Poll σ) → σ → List σ
  | _, [], _ => []
  | isOver, (source, poll) :: polls, contents =>
    let (rest, left) := poll.close (answer source) isOver contents
    (if source.id = id then poll.seenLeft (answer source) isOver contents else []) ++
      seenInTurn answer id (isOver || rest.isBroken) polls left

/-- The contents that steps of the polls at some places, and then those that the polls still make,
come upon when they call the store about a source. -/
def seenWhile (answer : Source → FetchAnswer) (id : Int) :
    List Nat → List (Source × Poll σ) → σ → List σ
  | [], polls, contents => seenInTurn answer id (isOver polls) polls contents
  | place :: places, polls, contents =>
    if isOver polls then seenInTurn answer id true polls contents
    else
      let (rest, left) := stepAt answer place polls contents
      seenAt id place polls contents ++ seenWhile answer id places rest left

def OthersOnly (stored : σ → Int → Option SourceStatus) (id : Int)
    (entry : Source × Poll σ) : Prop :=
  entry.1.id ≠ id ∧ entry.2.KeepsStored stored id

/-- The poll of a source at a place has come upon `come` so far and ends as `goal` says, and the
other polls leave what is stored for the source alone. -/
structure Guards (stored : σ → Int → Option SourceStatus) (answer : Source → FetchAnswer)
    (source : Source) (goal : List σ → Option SyncOutcome → Option SourceStatus → Prop)
    (place : Nat) (polls : List (Source × Poll σ)) (come : List σ) (contents : σ) : Prop where
  own : ∃ poll, polls[place]? = some (source, poll) ∧
    poll.Ensures stored source.id (answer source) goal come (stored contents source.id)
  others : ∀ other entry, other ≠ place → polls[other]? = some entry →
    OthersOnly stored source.id entry

variable {store : StatusStore σ} {stored : σ → Int → Option SourceStatus} {id : Int}
  {answer : Source → FetchAnswer} {goal : List σ → Option SyncOutcome → Option SourceStatus → Prop}
  {source : Source} {place : Nat} {polls : List (Source × Poll σ)} {come : List σ} {contents : σ}

theorem seenInTurn_cons (answer : Source → FetchAnswer) (id : Int) (isOver : Bool)
    (source : Source) (poll : Poll σ) (polls : List (Source × Poll σ)) (contents : σ) :
    seenInTurn answer id isOver ((source, poll) :: polls) contents =
      let first := poll.close (answer source) isOver contents
      (if source.id = id then poll.seenLeft (answer source) isOver contents else []) ++
        seenInTurn answer id (isOver || first.1.isBroken) polls first.2 :=
  rfl

theorem stepAt_of_some {poll : Poll σ} (here : polls[place]? = some (source, poll)) :
    stepAt answer place polls contents =
      (polls.set place (source, (poll.advance (answer source) contents).1),
        (poll.advance (answer source) contents).2) := by
  rw [stepAt, here]

theorem seenAt_of_some {poll : Poll σ} (here : polls[place]? = some (source, poll)) :
    seenAt id place polls contents =
      if source.id = id then poll.seenNext contents else [] := by
  rw [seenAt, here]

theorem close_othersOnly (answer : Source → FetchAnswer)
    (others : ∀ entry ∈ polls, OthersOnly stored id entry) (isOver : Bool) (contents : σ) :
    stored (close answer isOver polls contents).2 id = stored contents id ∧
      seenInTurn answer id isOver polls contents = [] := by
  induction polls generalizing contents isOver with
  | nil => exact ⟨rfl, rfl⟩
  | cons entry polls ih =>
    obtain ⟨source, poll⟩ := entry
    obtain ⟨⟨different, keeps⟩, rest⟩ := List.forall_mem_cons.mp others
    obtain ⟨same, unseen⟩ := ih rest _ (poll.close (answer source) isOver contents).2
    refine ⟨same.trans (keeps.close (answer source) isOver contents), ?_⟩
    rw [seenInTurn_cons, if_neg different]
    exact unseen

theorem stepAt_othersOnly (answer : Source → FetchAnswer)
    (others : ∀ entry ∈ polls, OthersOnly stored id entry) (place : Nat) (contents : σ) :
    stored (stepAt answer place polls contents).2 id = stored contents id ∧
      ∀ entry ∈ (stepAt answer place polls contents).1, OthersOnly stored id entry := by
  unfold stepAt
  split
  · rename_i source poll here
    obtain ⟨different, keeps⟩ := others _ (List.mem_of_getElem? here)
    obtain ⟨same, later⟩ := keeps.advance (answer source) contents
    refine ⟨same, ?_⟩
    intro entry member
    rcases List.mem_or_eq_of_mem_set member with old | rfl
    · exact others entry old
    · exact ⟨different, later⟩
  · exact ⟨rfl, others⟩

theorem interleave_othersOnly (answer : Source → FetchAnswer)
    (others : ∀ entry ∈ polls, OthersOnly stored id entry) (places : List Nat) (contents : σ) :
    stored (interleave answer places polls contents).2 id = stored contents id := by
  let LeaveAlone (reached : List (Source × Poll σ)) (between : σ) : Prop :=
    stored between id = stored contents id ∧ ∀ entry ∈ reached, OthersOnly stored id entry
  have step : ∀ reached between place, LeaveAlone reached between →
      LeaveAlone (stepAt answer place reached between).1
        (stepAt answer place reached between).2 := by
    rintro reached between place ⟨same, others⟩
    obtain ⟨stays, later⟩ := stepAt_othersOnly answer others place between
    exact ⟨stays.trans same, later⟩
  obtain ⟨reached, between, ⟨same, others⟩, ends⟩ :=
    interleave_eq_close LeaveAlone step places polls contents ⟨rfl, others⟩
  rw [ends]
  exact (close_othersOnly answer others (isOver reached) between).1.trans same

theorem Guards.stepAt (guards : Guards stored answer source goal place polls come contents)
    (next : Nat) :
    Guards stored answer source goal place (stepAt answer next polls contents).1
      (come ++ seenAt source.id next polls contents)
      (SourceSync.stepAt answer next polls contents).2 := by
  obtain ⟨poll, here, ensures⟩ := guards.own
  by_cases same : next = place
  · subst same
    rw [stepAt_of_some here, seenAt_of_some here, if_pos rfl]
    refine ⟨⟨_, List.getElem?_set_self (List.getElem?_eq_some_iff.mp here).1,
      ensures.advance⟩, ?_⟩
    intro other entry different found
    rw [List.getElem?_set_ne (Ne.symm different)] at found
    exact guards.others other entry different found
  · cases there : polls[next]? with
    | none =>
      rw [SourceSync.stepAt, seenAt, there, List.append_nil]
      exact guards
    | some entry =>
      obtain ⟨source', poll'⟩ := entry
      obtain ⟨different, keeps⟩ := guards.others next _ same there
      obtain ⟨unchanged, keepsThen⟩ := keeps.advance (answer source') contents
      rw [stepAt_of_some there, seenAt_of_some there, if_neg different, List.append_nil]
      refine ⟨⟨poll, ?_, ?_⟩, ?_⟩
      · rw [List.getElem?_set_ne same, here]
      · rw [unchanged]
        exact ensures
      · intro other entry elsewhere found
        by_cases moved : other = next
        · subst moved
          rw [List.getElem?_set_self (List.getElem?_eq_some_iff.mp there).1] at found
          cases found
          exact ⟨different, keepsThen⟩
        · rw [List.getElem?_set_ne (Ne.symm moved)] at found
          exact guards.others other entry elsewhere found

theorem Guards.close (guards : Guards stored answer source goal place polls come contents)
    (isOver : Bool) :
    ∃ poll, (close answer isOver polls contents).1[place]? = some (source, poll) ∧
      goal (come ++ seenInTurn answer source.id isOver polls contents) poll.outcome?
        (stored (SourceSync.close answer isOver polls contents).2 source.id) := by
  obtain ⟨poll, here, ensures⟩ := guards.own
  induction polls generalizing place contents isOver with
  | nil => simp at here
  | cons entry polls ih =>
    obtain ⟨source', poll'⟩ := entry
    rw [close_cons, seenInTurn_cons]
    dsimp only
    cases place with
    | zero =>
      cases here
      -- All polls behind this one leave what is stored for its source alone.
      have rest : ∀ entry ∈ polls, OthersOnly stored source.id entry := by
        intro entry member
        obtain ⟨other, there⟩ := List.mem_iff_getElem?.mp member
        exact guards.others (other + 1) entry (Nat.succ_ne_zero other) there
      obtain ⟨same, unseen⟩ := close_othersOnly answer rest
        (isOver || (poll.close (answer source) isOver contents).1.isBroken)
        (poll.close (answer source) isOver contents).2
      refine ⟨(poll.close (answer source) isOver contents).1, rfl, ?_⟩
      rw [if_pos rfl, unseen, List.append_nil, same]
      exact ensures.close isOver
    | succ place =>
      obtain ⟨different, keeps⟩ := guards.others 0 _ (Nat.succ_ne_zero place).symm rfl
      have same := keeps.close (answer source') isOver contents
      rw [if_neg different, List.nil_append]
      have still : Poll.Ensures stored source.id (answer source) goal poll come
          (stored (poll'.close (answer source') isOver contents).2 source.id) :=
        same ▸ ensures
      refine ih ⟨⟨poll, here, still⟩, ?_⟩ _ here still
      intro other entry elsewhere there
      exact guards.others (other + 1) entry (fun moved => elsewhere (Nat.succ.inj moved)) there

theorem Guards.interleave (guards : Guards stored answer source goal place polls come contents)
    (places : List Nat) :
    ∃ poll, (interleave answer places polls contents).1[place]? = some (source, poll) ∧
      goal (come ++ seenWhile answer source.id places polls contents) poll.outcome?
        (stored (SourceSync.interleave answer places polls contents).2 source.id) := by
  induction places generalizing polls come contents with
  | nil => exact guards.close _
  | cons next places ih =>
    unfold SourceSync.interleave seenWhile
    split
    · exact guards.close true
    · obtain ⟨poll, there, reached⟩ := ih (guards.stepAt next)
      rw [List.append_assoc] at reached
      exact ⟨poll, there, reached⟩

/-- What a pass makes of what is stored for a source that shares its id with no other one. -/
theorem sideBySide_certifies (unreliable : store.Unreliable stored) (now : Timestamp)
    (answer : Source → FetchAnswer) {settings : Settings}
    (alone : (settings.enabledSources.filter (·.id == source.id)).Sublist [source])
    (places : List Nat) (contents : σ) :
    let ends := sideBySide store now answer settings places contents
    outcome? source.id ends.1 = none ∧ stored ends.2 source.id = stored contents source.id ∨
      Poll.Certifies store now source.id (stored contents source.id)
        (seenWhile answer source.id places (SourceSync.polls store now settings.enabledSources)
          contents)
        (outcome? source.id ends.1) (stored ends.2 source.id) := by
  intro ends
  rcases turn_or_unused alone with unused | ⟨front, back, turn, elsewhere⟩
  · left
    refine ⟨outcome?_of_unused store now answer places contents unused,
      interleave_othersOnly answer ?_ places contents⟩
    intro entry member
    obtain ⟨other, enabled, rfl⟩ := List.mem_map.mp member
    exact ⟨unused other enabled, Poll.keepsStored_ofSource unreliable now (unused other enabled)⟩
  · right
    have guards : Guards stored answer source
        (Poll.Certifies store now source.id (stored contents source.id)) front.length
        (SourceSync.polls store now settings.enabledSources) [] contents := by
      refine ⟨⟨Poll.ofSource store now source, by simp [SourceSync.polls, turn],
        Poll.ensures_ofSource unreliable now source (answer source) _⟩, ?_⟩
      intro place entry different found
      rw [SourceSync.polls, List.getElem?_map, Option.map_eq_some_iff] at found
      obtain ⟨other, there, rfl⟩ := found
      have otherId := id_ne_elsewhere turn elsewhere place other different there
      exact ⟨otherId, Poll.keepsStored_ofSource unreliable now otherId⟩
    obtain ⟨poll, there, certifies⟩ := guards.interleave places
    rw [outcome?_of_turn turn elsewhere there]
    exact certifies

/-- The contents that the poll of a source comes upon in a pass when it calls the store. -/
def Trace.seen (store : StatusStore σ) (id : Int) (trace : Trace σ) : List σ :=
  seenWhile trace.round.answer id trace.round.places
    (SourceSync.polls store trace.round.now trace.round.settings.enabledSources) trace.begins

/-- A gap is hidden only where a marker cannot be read. Whichever calls of the store fail in a run,
a pass stores its own instant as that of the last sync without a gap only if it says that it missed
nothing; and it says so only if it saw the marker again that was stored before, or none was, unless
the call that reads the marker failed. -/
theorem traces_certify (unreliable : store.Unreliable stored) (source : Source)
    (rounds : List Round) (contents : σ)
    (alone : ∀ round ∈ rounds,
      (round.settings.enabledSources.filter (·.id == source.id)).Sublist [source]) :
    ∀ trace ∈ traces store rounds contents,
      (∀ instant, stamp? (stored trace.ends source.id) = some instant →
        stamp? (stored trace.begins source.id) = some instant ∨
          instant = trace.round.now ∧
            ∃ releases, outcome? source.id trace.polls = some (.synced releases true)) ∧
      ∀ releases, outcome? source.id trace.polls = some (.synced releases true) →
        (∃ contents reason left, (trace.seen store source.id)[1]? = some contents ∧
          (store.status source.id).run.run contents = (.error reason, left)) ∨
        ∀ marker, (stored trace.begins source.id).bind SourceStatus.lastSyncMarker =
          some marker → ∃ release ∈ releases, marker.isOf release = true := by
  intro trace member
  obtain ⟨among, passes⟩ := mem_traces member
  have certified := sideBySide_certifies unreliable trace.round.now trace.round.answer
    (alone trace.round among) trace.round.places trace.begins
  rw [passes] at certified
  rcases certified with ⟨unpolled, same⟩ | certifies
  · rw [unpolled, same]
    exact ⟨fun _ => .inl, nofun⟩
  · exact ⟨certifies.stamps, certifies.caught⟩

def storeFailingOnce : StatusStore (List SourceStatus × Nat) :=
  StatusStore.memory.failingAt fun call =>
    if call = 6 then some (.reported (.feed "no disk")) else none

def showsSource : Source := { id := 5, name := "Shows".toList, url := [] }

/-- Two passes over one source; between the shows that it offers two others were published. -/
def roundsWithGap : List Round :=
  let round (minute : Int) (day : Nat) : Round :=
    { now := .ofSeconds (1514900000 + 60 * minute)
      settings := { sources := [showsSource] }
      answer := fun _ => .ok (showsOn [day])
      places := [] }
  [round 0 1, round 1 4]

/-- The second pass says that it missed nothing, as the call that reads the marker fails. -/
theorem traces_certify_roundsWithGap :
    ∃ second ∈ traces storeFailingOnce roundsWithGap ([], 0),
      outcome? 5 second.polls = some (.synced [showOn showsSource 4] true) ∧
      ∃ contents reason left, (second.seen storeFailingOnce 5)[1]? = some contents ∧
        (storeFailingOnce.status 5).run.run contents = (.error reason, left) := by
  have unreliable : storeFailingOnce.Unreliable fun contents => recordOf? contents.1 :=
    StatusStore.unreliable_memory.failingAt _
  have alone : ∀ round ∈ roundsWithGap,
      (round.settings.enabledSources.filter (·.id == showsSource.id)).Sublist [showsSource] := by
    decide
  obtain ⟨second, isPass, polled, remembered⟩ :
      ∃ second ∈ traces storeFailingOnce roundsWithGap ([], 0),
        outcome? 5 second.polls = some (.synced [showOn showsSource 4] true) ∧
        (recordOf? second.begins.1 5).bind SourceStatus.lastSyncMarker =
          some (.ofRelease (showOn showsSource 1)) :=
    ⟨_, List.mem_cons_of_mem _ List.mem_cons_self, by decide +kernel⟩
  refine ⟨second, isPass, polled, ?_⟩
  obtain ⟨_, caught⟩ :=
    traces_certify unreliable showsSource roundsWithGap ([], 0) alone second isPass
  rcases caught [showOn showsSource 4] polled with failed | seenAgain
  · exact failed
  · obtain ⟨release, member, same⟩ := seenAgain _ remembered
    rw [List.mem_singleton.mp member] at same
    exact absurd same (by decide +kernel)

/-- The second pass notes that nothing was missed, though it has not seen again the show that the
first one remembered. -/
theorem traces_hide_gap :
    ∃ second ∈ traces storeFailingOnce roundsWithGap ([], 0), ∃ marker releases,
      (recordOf? second.begins.1 5).bind SourceStatus.lastSyncMarker = some marker ∧
      stamp? (recordOf? second.begins.1 5) = some (.ofSeconds 1514900000) ∧
      stamp? (recordOf? second.ends.1 5) = some (.ofSeconds 1514900060) ∧
      outcome? 5 second.polls = some (.synced releases true) ∧
      ∀ release ∈ releases, marker.isOf release = false := by
  refine ⟨_, List.mem_cons_of_mem _ List.mem_cons_self, .ofRelease (showOn showsSource 1),
    [showOn showsSource 4], ?_⟩
  decide +kernel

end SourceSync

end Curator
