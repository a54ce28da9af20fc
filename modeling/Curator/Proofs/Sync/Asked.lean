import Curator.Proofs.Sync.Interleaving

/-! The sources that are asked in a pass. While the record of a source says that it is to be left
alone, no poll asks it, whatever the order of the steps. -/
namespace Curator

namespace Poll

variable {σ : Type}

/-- A poll that ends without asking its source or writing anything, as long as the record of the
source stays as it is. -/
inductive Rests (store : StatusStore σ) (id : Int) (stored : Option SourceStatus) :
    Poll σ → Prop where
  | finished (outcome : Option SyncOutcome) : Rests store id stored (.finished outcome)
  | visit {goesOn : Bool} {change : σ → σ} {next : σ → Poll σ} {rest : Poll σ}
      (does : ∀ contents records, store.Shows contents records → recordOf? records id = stored →
        next contents = rest ∧ store.Shows (change contents) records)
      (later : Rests store id stored rest) : Rests store id stored (.visit goesOn change next)

variable {store : StatusStore σ} {id : Int} {stored : Option SourceStatus} {contents : σ}
  {records : List SourceStatus} {poll : Poll σ}

theorem Rests.advance (rests : Rests store id stored poll) (answer : FetchAnswer)
    (shows : store.Shows contents records) (found : recordOf? records id = stored) :
    store.Shows (poll.advance answer contents).2 records ∧
      Rests store id stored (poll.advance answer contents).1 := by
  cases rests with
  | finished outcome => exact ⟨shows, .finished outcome⟩
  | visit does later =>
    obtain ⟨goesOn, showsThen⟩ := does contents records shows found
    exact ⟨showsThen, by rwa [Poll.advance, goesOn]⟩

theorem Rests.run (rests : Rests store id stored poll) (answer : FetchAnswer)
    (shows : store.Shows contents records) (found : recordOf? records id = stored) :
    store.Shows (poll.run answer contents).2 records := by
  induction rests generalizing contents with
  | finished outcome => exact shows
  | visit does later ih =>
    obtain ⟨goesOn, showsThen⟩ := does contents records shows found
    rw [Poll.run, goesOn]
    exact ih showsThen

theorem Rests.breakOff (rests : Rests store id stored poll)
    (shows : store.Shows contents records) (found : recordOf? records id = stored) :
    store.Shows (poll.breakOff contents).2 records := by
  induction rests generalizing contents with
  | finished outcome => exact shows
  | @visit goesOn _ _ _ does later ih =>
    cases goesOn with
    | false => exact shows
    | true =>
      obtain ⟨leads, showsThen⟩ := does contents records shows found
      rw [Poll.breakOff, leads]
      exact ih showsThen

theorem Rests.close (rests : Rests store id stored poll) (answer : FetchAnswer)
    (shows : store.Shows contents records) (found : recordOf? records id = stored)
    (isOver : Bool) : store.Shows (poll.close answer isOver contents).2 records := by
  cases isOver with
  | true => exact rests.breakOff shows found
  | false => exact rests.run answer shows found

theorem Rests.isAsked_eq (rests : Rests store id stored poll)
    (shows : store.Shows contents records) (found : recordOf? records id = stored) :
    poll.isAsked contents = false := by
  induction rests generalizing contents with
  | finished outcome => rfl
  | visit does later ih =>
    obtain ⟨goesOn, showsThen⟩ := does contents records shows found
    rw [isAsked, goesOn]
    exact ih showsThen

theorem rests_ofSource {now : Timestamp} {source : Source}
    (disabled : (stored.getD { sourceId := source.id }).isDisabledAt now = true) :
    Rests store source.id stored (ofSource store now source) := by
  refine .visit ?_ (.finished (some .skipped))
  rintro contents records shows rfl
  rw [shows.isBlocked now source.id]
  rw [← recordOf_eq_getD] at disabled
  rw [disabled]
  exact ⟨rfl, shows⟩

end Poll

namespace SourceSync

variable {σ : Type}

def askedAt (place : Nat) (polls : List (Source × Poll σ)) : Option Source :=
  match polls[place]? with
  | some (source, .fetch _) => some source
  | _ => none

/-- The sources that are asked in what polls still do. A poll that is broken off asks nothing. -/
def askedInTurn (answer : Source → FetchAnswer) : Bool → List (Source × Poll σ) → σ → List Source
  | _, [], _ => []
  | isOver, (source, poll) :: polls, contents =>
    let (rest, left) := poll.close (answer source) isOver contents
    let later := askedInTurn answer (isOver || rest.isBroken) polls left
    if !isOver && poll.isAsked contents then source :: later else later

/-- The sources that are asked in steps of the polls at some places and in what the polls still do
then. -/
def askedWhile (answer : Source → FetchAnswer) :
    List Nat → List (Source × Poll σ) → σ → List Source
  | [], polls, contents => askedInTurn answer (isOver polls) polls contents
  | place :: places, polls, contents =>
    if isOver polls then askedInTurn answer true polls contents
    else
      let (rest, left) := stepAt answer place polls contents
      (askedAt place polls).toList ++ askedWhile answer places rest left

/-- The sources that are asked in a pass whose polls are side by side. -/
def asked (store : StatusStore σ) (now : Timestamp) (answer : Source → FetchAnswer)
    (settings : Settings) (places : List Nat) (contents : σ) : List Source :=
  askedWhile answer places (polls store now settings.enabledSources) contents

variable {store : StatusStore σ} {readBack : SourceStatus → SourceStatus} {id : Int}
  {stored : Option SourceStatus} {answer : Source → FetchAnswer} {contents : σ}
  {records : List SourceStatus} {polls : List (Source × Poll σ)}

/-- A poll that neither asks a source nor touches its record, as long as nobody else does. -/
def LeavesOut (store : StatusStore σ) (id : Int) (stored : Option SourceStatus)
    (entry : Source × Poll σ) : Prop :=
  Poll.Rests store id stored entry.2 ∨ entry.1.id ≠ id ∧ Poll.Spares store id entry.2

theorem LeavesOut.advance {source : Source} {poll : Poll σ}
    (leavesOut : LeavesOut store id stored (source, poll)) (answer : FetchAnswer)
    (shows : store.Shows contents records) (ordered : Ordered records)
    (found : recordOf? records id = stored) :
    ∃ after, store.Shows (poll.advance answer contents).2 after ∧ Ordered after ∧
      recordOf? after id = stored ∧
      LeavesOut store id stored (source, (poll.advance answer contents).1) := by
  rcases leavesOut with rests | ⟨other, spares⟩
  · obtain ⟨showsThen, restsThen⟩ := rests.advance answer shows found
    exact ⟨records, showsThen, ordered, found, .inl restsThen⟩
  · obtain ⟨after, showsThen, orderedThen, same, sparesThen⟩ :=
      spares.advance answer shows ordered
    exact ⟨after, showsThen, orderedThen, same.trans found, .inr ⟨other, sparesThen⟩⟩

theorem LeavesOut.close {source : Source} {poll : Poll σ}
    (leavesOut : LeavesOut store id stored (source, poll)) (answer : FetchAnswer)
    (shows : store.Shows contents records) (ordered : Ordered records)
    (found : recordOf? records id = stored) (isOver : Bool) :
    ∃ after, store.Shows (poll.close answer isOver contents).2 after ∧ Ordered after ∧
      recordOf? after id = stored := by
  rcases leavesOut with rests | ⟨_, spares⟩
  · exact ⟨records, rests.close answer shows found isOver, ordered, found⟩
  · obtain ⟨after, showsThen, orderedThen, same⟩ := spares.close answer shows ordered isOver
    exact ⟨after, showsThen, orderedThen, same.trans found⟩

theorem askedAt_ne (leftOut : ∀ entry ∈ polls, LeavesOut store id stored entry) (place : Nat) :
    ∀ source ∈ askedAt place polls, source.id ≠ id := by
  intro source found
  unfold askedAt at found
  split at found
  · rename_i asked next here
    cases found
    rcases leftOut _ (List.mem_of_getElem? here) with rests | ⟨other, _⟩
    · cases rests
    · exact other
  · cases found

theorem askedInTurn_ne (leftOut : ∀ entry ∈ polls, LeavesOut store id stored entry)
    (shows : store.Shows contents records) (ordered : Ordered records)
    (found : recordOf? records id = stored) (isOver : Bool) :
    ∀ source ∈ askedInTurn answer isOver polls contents, source.id ≠ id := by
  induction polls generalizing contents records isOver with
  | nil => exact fun _ absent => nomatch absent
  | cons entry polls ih =>
    obtain ⟨source, poll⟩ := entry
    obtain ⟨here, others⟩ := List.forall_mem_cons.mp leftOut
    obtain ⟨after, showsThen, orderedThen, same⟩ :=
      here.close (answer source) shows ordered found isOver
    have later := ih others showsThen orderedThen same
    unfold askedInTurn
    dsimp only
    split
    · rename_i isAsked
      refine List.forall_mem_cons.mpr ⟨?_, later _⟩
      rcases here with rests | ⟨different, _⟩
      · exact absurd isAsked (by simp [rests.isAsked_eq shows found])
      · exact different
    · exact later _

theorem stepAt_leavesOut (answer : Source → FetchAnswer)
    (leftOut : ∀ entry ∈ polls, LeavesOut store id stored entry)
    (shows : store.Shows contents records) (ordered : Ordered records)
    (found : recordOf? records id = stored) (place : Nat) :
    ∃ after, store.Shows (stepAt answer place polls contents).2 after ∧ Ordered after ∧
      recordOf? after id = stored ∧
      ∀ entry ∈ (stepAt answer place polls contents).1, LeavesOut store id stored entry := by
  unfold stepAt
  split
  · rename_i source poll here
    obtain ⟨after, showsThen, orderedThen, same, leftOutThen⟩ :=
      (leftOut _ (List.mem_of_getElem? here)).advance (answer source) shows ordered found
    refine ⟨after, showsThen, orderedThen, same, ?_⟩
    intro entry member
    rcases List.mem_or_eq_of_mem_set member with old | rfl
    · exact leftOut entry old
    · exact leftOutThen
  · exact ⟨records, shows, ordered, found, leftOut⟩

theorem askedWhile_ne (leftOut : ∀ entry ∈ polls, LeavesOut store id stored entry)
    (shows : store.Shows contents records) (ordered : Ordered records)
    (found : recordOf? records id = stored) (places : List Nat) :
    ∀ source ∈ askedWhile answer places polls contents, source.id ≠ id := by
  induction places generalizing polls contents records with
  | nil => exact askedInTurn_ne leftOut shows ordered found _
  | cons place places ih =>
    unfold askedWhile
    split
    · exact askedInTurn_ne leftOut shows ordered found true
    · obtain ⟨after, showsThen, orderedThen, same, leftOutThen⟩ :=
        stepAt_leavesOut answer leftOut shows ordered found place
      intro source member
      rcases List.mem_append.mp member with first | later
      · exact askedAt_ne leftOut place source (Option.mem_toList.mp first)
      · exact ih leftOutThen showsThen orderedThen same source later

/-- No source is asked whose record says that it is to be left alone. -/
theorem asked_ne_of_disabled (now : Timestamp) (answer : Source → FetchAnswer)
    (settings : Settings) (works : store.Works readBack) (shows : store.Shows contents records)
    (ordered : Ordered records) (disabled : (recordOf records id).isDisabledAt now = true)
    (places : List Nat) :
    ∀ source ∈ asked store now answer settings places contents, source.id ≠ id := by
  have leftOut : ∀ entry ∈ polls store now settings.enabledSources,
      LeavesOut store id (recordOf? records id) entry := by
    intro entry member
    obtain ⟨source, _, rfl⟩ := List.mem_map.mp member
    by_cases own : source.id = id
    · subst own
      exact .inl (Poll.rests_ofSource disabled)
    · exact .inr ⟨own, Poll.spares_ofSource works now own⟩
  exact askedWhile_ne leftOut shows ordered rfl places

end SourceSync

end Curator
