import Curator.Proofs.Feed.Items
import Curator.Proofs.Sync.Poll
import Curator.Sync.Pass
import Mathlib.Data.Fintype.EquivFin

/-! Polls side by side. The polls of a pass share a store, and their steps may come in any order.
Since each of them minds the record of its own source alone, a pass of sources with different ids
ends as if they had been polled one after the other. Only a poll that breaks down ends the others.
-/
namespace Curator

namespace Poll

variable {σ : Type}

/-- What a poll still does when its turn comes: all steps that it has left, or those that it makes
even though the pass is over. -/
def close (answer : FetchAnswer) (isOver : Bool) (poll : Poll σ) (contents : σ) : Poll σ × σ :=
  if isOver then poll.breakOff contents
  else (.finished (poll.run answer contents).1, (poll.run answer contents).2)

variable {store : StatusStore σ} {id : Int} {answer : FetchAnswer}
  {original stored final : Option SourceStatus} {outcome : Option SyncOutcome} {contents : σ}
  {records : List SourceStatus} {poll : Poll σ}

theorem Settles.close (settles : Settles store id answer original poll stored outcome final)
    (shows : store.Shows contents records) (ordered : Ordered records)
    (found : recordOf? records id = stored) (isOver : Bool) :
    ∃ after, store.Shows (poll.close answer isOver contents).2 after ∧ Ordered after ∧
      IsLeft original outcome final (poll.close answer isOver contents).1 (recordOf? after id) := by
  cases isOver with
  | true => exact settles.breakOff shows ordered found
  | false =>
    obtain ⟨ends, after, showsAfter, orderedAfter, rfl⟩ := settles.run shows ordered found
    exact ⟨after, showsAfter, orderedAfter, by rw [← ends]; exact .finished⟩

theorem Spares.close (spares : Spares store id poll) (answer : FetchAnswer)
    (shows : store.Shows contents records) (ordered : Ordered records) (isOver : Bool) :
    ∃ after, store.Shows (poll.close answer isOver contents).2 after ∧ Ordered after ∧
      recordOf? after id = recordOf? records id := by
  cases isOver with
  | true => exact spares.breakOff shows ordered
  | false => exact spares.run answer shows ordered

end Poll

namespace SourceSync

variable {σ : Type}

def stepAt (answer : Source → FetchAnswer) (place : Nat) (polls : List (Source × Poll σ))
    (contents : σ) : List (Source × Poll σ) × σ :=
  match polls[place]? with
  | some (source, poll) =>
    let (poll, contents) := poll.advance (answer source) contents
    (polls.set place (source, poll), contents)
  | none => (polls, contents)

/-- What polls still do, one after the other. Once one of them breaks down, the pass is over. -/
def close (answer : Source → FetchAnswer) :
    Bool → List (Source × Poll σ) → σ → List (Source × Poll σ) × σ
  | _, [], contents => ([], contents)
  | isOver, (source, poll) :: polls, contents =>
    let (poll, contents) := poll.close (answer source) isOver contents
    let (polls, contents) := close answer (isOver || poll.isBroken) polls contents
    ((source, poll) :: polls, contents)

theorem close_cons (answer : Source → FetchAnswer) (isOver : Bool) (source : Source)
    (poll : Poll σ) (polls : List (Source × Poll σ)) (contents : σ) :
    close answer isOver ((source, poll) :: polls) contents =
      let first := poll.close (answer source) isOver contents
      let others := close answer (isOver || first.1.isBroken) polls first.2
      ((source, first.1) :: others.1, others.2) :=
  rfl

/-- Whether a pass is over since one of its polls broke down. -/
def isOver (polls : List (Source × Poll σ)) : Bool :=
  polls.any (·.2.isBroken)

/-- Steps of the polls at some places, as long as none of them breaks down, and then what the polls
still do. -/
def interleave (answer : Source → FetchAnswer) :
    List Nat → List (Source × Poll σ) → σ → List (Source × Poll σ) × σ
  | [], polls, contents => close answer (isOver polls) polls contents
  | place :: places, polls, contents =>
    if isOver polls then close answer true polls contents
    else
      let (polls, contents) := stepAt answer place polls contents
      interleave answer places polls contents

/-- What holds of the polls and the store at first, and after a step of any poll whenever it held
before, holds when the polls are closed. -/
theorem interleave_eq_close {answer : Source → FetchAnswer}
    (holds : List (Source × Poll σ) → σ → Prop)
    (step : ∀ polls contents place, holds polls contents →
      holds (stepAt answer place polls contents).1 (stepAt answer place polls contents).2)
    (places : List Nat) (polls : List (Source × Poll σ)) (contents : σ)
    (begins : holds polls contents) :
    ∃ reached between, holds reached between ∧
      interleave answer places polls contents = close answer (isOver reached) reached between := by
  induction places generalizing polls contents with
  | nil => exact ⟨polls, contents, begins, rfl⟩
  | cons place places ih =>
    unfold interleave
    split
    · rename_i stopped
      exact ⟨polls, contents, begins, by rw [stopped]⟩
    · exact ih _ _ (step polls contents place begins)

def polls (store : StatusStore σ) (now : Timestamp) (sources : List Source) :
    List (Source × Poll σ) :=
  sources.map fun source => (source, Poll.ofSource store now source)

/-- A pass whose polls are side by side: it begins with steps of the polls at some places. Every
order of the steps of all polls is that of some places. The polls as they are left at its end. -/
def sideBySide (store : StatusStore σ) (now : Timestamp) (answer : Source → FetchAnswer)
    (settings : Settings) (places : List Nat) (contents : σ) : List (Source × Poll σ) × σ :=
  interleave answer places (polls store now settings.enabledSources) contents

/-- The results of a pass, if all of its polls have come to an outcome. -/
def results? (ended : List (Source × Poll σ)) : Option (List SourceSync) :=
  ended.mapM fun entry => entry.2.outcome?.map (ofOutcome entry.1)

theorem results?_cons (entry : Source × Poll σ) (ended : List (Source × Poll σ)) :
    results? (entry :: ended) =
      (entry.2.outcome?.map (ofOutcome entry.1)).bind fun first =>
        (results? ended).map (first :: ·) := by
  rw [results?, List.mapM_cons]
  cases entry.2.outcome?.map (ofOutcome entry.1) with
  | none => rfl
  | some first =>
    change (results? ended).bind (fun others => some (first :: others)) = _
    cases results? ended <;> rfl

theorem results?_eq_some_iff {ended : List (Source × Poll σ)} {results : List SourceSync} :
    results? ended = some results ↔
      ended.map (fun entry => entry.2.outcome?.map (ofOutcome entry.1)) = results.map some := by
  induction ended generalizing results with
  | nil => cases results <;> simp [results?]
  | cons entry ended ih =>
    rw [results?_cons, List.map_cons]
    cases entry.2.outcome?.map (ofOutcome entry.1) with
    | none => cases results <;> simp
    | some first =>
      cases results with
      | nil => simp
      | cons result results =>
        rw [List.map_cons, List.cons.injEq, ← ih]
        simp [and_comm]

theorem eq_of_isBroken {poll : Poll σ} (broken : poll.isBroken = true) :
    poll = .finished none := by
  unfold Poll.isBroken at broken
  split at broken
  · rfl
  · cases broken

theorem exists_map_some {α β : Type} {f : α → Option β} {items : List α}
    (each : ∀ item ∈ items, ∃ value, f item = some value) :
    ∃ values : List β, items.map f = values.map some := by
  induction items with
  | nil => exact ⟨[], rfl⟩
  | cons item items ih =>
    obtain ⟨⟨value, found⟩, others⟩ := List.forall_mem_cons.mp each
    obtain ⟨values, same⟩ := ih others
    exact ⟨value :: values, by rw [List.map_cons, List.map_cons, found, same]⟩

theorem results?_of_isOver {ended : List (Source × Poll σ)} (stopped : isOver ended = true) :
    results? ended = none := by
  obtain ⟨entry, member, broken⟩ := List.any_eq_true.mp stopped
  rw [Option.eq_none_iff_forall_ne_some]
  intro results reported
  have shown := List.mem_map_of_mem member
    (f := fun entry => entry.2.outcome?.map (ofOutcome entry.1))
  rw [results?_eq_some_iff.mp reported, eq_of_isBroken broken] at shown
  simp [Poll.outcome?] at shown

/-- A pass that is over before its polls begin leaves everything as it is. -/
theorem close_true_polls (store : StatusStore σ) (now : Timestamp)
    (answer : Source → FetchAnswer) (sources : List Source) (contents : σ) :
    close answer true (polls store now sources) contents = (polls store now sources, contents) := by
  induction sources with
  | nil => rfl
  | cons source sources ih =>
    change ((source, Poll.ofSource store now source) ::
        (close answer true (polls store now sources) contents).1,
      (close answer true (polls store now sources) contents).2) = _
    rw [ih]
    rfl

theorem run_bind {α β : Type} (action : OptionT (StateM σ) α) (next : α → OptionT (StateM σ) β)
    (contents : σ) :
    (action >>= next).run.run contents =
      match action.run.run contents with
      | (some value, left) => (next value).run.run left
      | (none, left) => (none, left) := by
  rw [OptionT.run_bind, Option.elimM, StateT.run_bind]
  rcases action.run.run contents with ⟨_ | value, left⟩ <;> rfl

theorem run_mapM_ofSource (store : StatusStore σ) (now : Timestamp)
    (answer : Source → FetchAnswer) (sources : List Source) (contents : σ) :
    (sources.mapM (ofSource store now answer)).run.run contents =
      (results? (close answer false (polls store now sources) contents).1,
        (close answer false (polls store now sources) contents).2) := by
  induction sources generalizing contents with
  | nil => rfl
  | cons source sources ih =>
    rcases ran : (Poll.ofSource store now source).run (answer source) contents with ⟨outcome, left⟩
    have own : (ofSource store now answer source).run.run contents =
        (outcome.map (ofOutcome source), left) := by
      change ((((Poll.ofSource store now source).run (answer source) contents).1.map
        (ofOutcome source)), ((Poll.ofSource store now source).run (answer source) contents).2) = _
      rw [ran]
    have closes : close answer false (polls store now (source :: sources)) contents =
        ((source, .finished outcome) ::
          (close answer (Poll.isBroken (.finished outcome : Poll σ))
            (polls store now sources) left).1,
          (close answer (Poll.isBroken (.finished outcome : Poll σ))
            (polls store now sources) left).2) := by
      simp only [polls, List.map_cons, close, Poll.close, ran, Bool.false_or]
      rfl
    rw [List.mapM_cons, run_bind, own, closes, results?_cons]
    cases outcome with
    | none =>
      -- The polls behind one that broke down have not begun, so nothing is left to break off.
      rw [Poll.isBroken, close_true_polls]
      rfl
    | some outcome =>
      have goesOn : (Poll.finished (some outcome) : Poll σ).isBroken = false := rfl
      dsimp only [Option.map_some]
      rw [run_bind, ih left, goesOn, Poll.outcome?, Option.map_some, Option.bind_some]
      cases results? (close answer false (polls store now sources) left).1 <;> rfl

theorem run_pass (store : StatusStore σ) (now : Timestamp) (answer : Source → FetchAnswer)
    (settings : Settings) (contents : σ) :
    (pass store now answer settings).run.run contents =
      (results? (sideBySide store now answer settings [] contents).1,
        (sideBySide store now answer settings [] contents).2) := by
  have running : isOver (polls store now settings.enabledSources) = false := by
    rw [isOver, List.any_eq_false]
    rintro entry member
    obtain ⟨source, _, rfl⟩ := List.mem_map.mp member
    exact Bool.false_ne_true
  rw [sideBySide, interleave, running]
  exact run_mapM_ofSource store now answer settings.enabledSources contents

variable {store : StatusStore σ} {readBack : SourceStatus → SourceStatus} {now : Timestamp}
  {answer : Source → FetchAnswer} {settings : Settings} {source : Source} {id : Int} {place : Nat}
  {original stored final : Option SourceStatus} {outcome : Option SyncOutcome} {contents : σ}
  {records : List SourceStatus} {polls : List (Source × Poll σ)}

theorem stepAt_spares (spared : ∀ entry ∈ polls, Poll.Spares store id entry.2)
    (shows : store.Shows contents records) (ordered : Ordered records) (place : Nat) :
    ∃ after, store.Shows (stepAt answer place polls contents).2 after ∧ Ordered after ∧
      recordOf? after id = recordOf? records id ∧
      ∀ entry ∈ (stepAt answer place polls contents).1, Poll.Spares store id entry.2 := by
  unfold stepAt
  split
  · rename_i source poll here
    obtain ⟨after, showsThen, orderedThen, same, spares⟩ :=
      (spared _ (List.mem_of_getElem? here)).advance (answer source) shows ordered
    refine ⟨after, showsThen, orderedThen, same, ?_⟩
    intro entry member
    rcases List.mem_or_eq_of_mem_set member with old | rfl
    · exact spared entry old
    · exact spares
  · exact ⟨records, shows, ordered, rfl, spared⟩

theorem close_spares (spared : ∀ entry ∈ polls, Poll.Spares store id entry.2)
    (shows : store.Shows contents records) (ordered : Ordered records) (isOver : Bool) :
    ∃ after, store.Shows (close answer isOver polls contents).2 after ∧ Ordered after ∧
      recordOf? after id = recordOf? records id := by
  induction polls generalizing contents records isOver with
  | nil => exact ⟨records, shows, ordered, rfl⟩
  | cons entry polls ih =>
    obtain ⟨source, poll⟩ := entry
    obtain ⟨first, others⟩ := List.forall_mem_cons.mp spared
    obtain ⟨between, showsThen, orderedThen, same⟩ :=
      first.close (answer source) shows ordered isOver
    obtain ⟨after, showsAfter, orderedAfter, sameAfter⟩ := ih others showsThen orderedThen _
    exact ⟨after, showsAfter, orderedAfter, sameAfter.trans same⟩

/-- Polls that are all about other sources leave the record of a source alone. -/
theorem interleave_spares (spared : ∀ entry ∈ polls, Poll.Spares store id entry.2)
    (shows : store.Shows contents records) (ordered : Ordered records) (places : List Nat) :
    ∃ after, store.Shows (interleave answer places polls contents).2 after ∧ Ordered after ∧
      recordOf? after id = recordOf? records id := by
  let AreSpared (polls : List (Source × Poll σ)) (contents : σ) : Prop :=
    ∃ found, store.Shows contents found ∧ Ordered found ∧
      recordOf? found id = recordOf? records id ∧ ∀ entry ∈ polls, Poll.Spares store id entry.2
  have step : ∀ polls contents place, AreSpared polls contents →
      AreSpared (stepAt answer place polls contents).1 (stepAt answer place polls contents).2 := by
    rintro polls contents place ⟨found, showsFound, orderedFound, same, still⟩
    obtain ⟨next, showsNext, orderedNext, sameNext, stillNext⟩ :=
      stepAt_spares still showsFound orderedFound place
    exact ⟨next, showsNext, orderedNext, sameNext.trans same, stillNext⟩
  obtain ⟨reached, between, ⟨found, showsFound, orderedFound, same, still⟩, ends⟩ :=
    interleave_eq_close AreSpared step places polls contents ⟨records, shows, ordered, rfl, spared⟩
  obtain ⟨after, showsAfter, orderedAfter, sameAfter⟩ :=
    close_spares still showsFound orderedFound (isOver reached)
  rw [ends]
  exact ⟨after, showsAfter, orderedAfter, sameAfter.trans same⟩

/-- The poll of a source at a place leads to an outcome, and no other poll is about the source. -/
structure Awaits (store : StatusStore σ) (answer : Source → FetchAnswer) (source : Source)
    (original : Option SourceStatus) (outcome : Option SyncOutcome)
    (final : Option SourceStatus) (place : Nat) (polls : List (Source × Poll σ))
    (stored : Option SourceStatus) : Prop where
  own : ∃ poll, polls[place]? = some (source, poll) ∧
    Poll.Settles store source.id (answer source) original poll stored outcome final
  others : ∀ other entry, other ≠ place → polls[other]? = some entry →
    Poll.Spares store source.id entry.2

theorem Awaits.stepAt (awaits : Awaits store answer source original outcome final place polls
      (recordOf? records source.id))
    (shows : store.Shows contents records) (ordered : Ordered records) (next : Nat) :
    ∃ after, store.Shows (stepAt answer next polls contents).2 after ∧ Ordered after ∧
      Awaits store answer source original outcome final place
        (SourceSync.stepAt answer next polls contents).1 (recordOf? after source.id) := by
  obtain ⟨poll, here, settles⟩ := awaits.own
  unfold SourceSync.stepAt
  by_cases same : next = place
  · subst same
    obtain ⟨after, showsThen, orderedThen, settlesThen⟩ := settles.advance shows ordered rfl
    rw [here]
    refine ⟨after, showsThen, orderedThen, ⟨_, ?_, settlesThen⟩, ?_⟩
    · exact List.getElem?_set_self (List.getElem?_eq_some_iff.mp here).1
    · intro other entry different found
      rw [List.getElem?_set_ne (Ne.symm different)] at found
      exact awaits.others other entry different found
  · split
    · rename_i source' poll' there
      obtain ⟨after, showsThen, orderedThen, unchanged, spares⟩ :=
        (awaits.others next _ same there).advance (answer source') shows ordered
      refine ⟨after, showsThen, orderedThen, ⟨poll, ?_, unchanged ▸ settles⟩, ?_⟩
      · rw [List.getElem?_set_ne same, here]
      · intro other entry different found
        by_cases moved : other = next
        · subst moved
          rw [List.getElem?_set_self (List.getElem?_eq_some_iff.mp there).1] at found
          cases found
          exact spares
        · rw [List.getElem?_set_ne (Ne.symm moved)] at found
          exact awaits.others other entry different found
    · exact ⟨records, shows, ordered, awaits⟩

theorem Awaits.close (awaits : Awaits store answer source original outcome final place polls
      (recordOf? records source.id))
    (shows : store.Shows contents records) (ordered : Ordered records) (isOver : Bool) :
    ∃ poll after, (close answer isOver polls contents).1[place]? = some (source, poll) ∧
      store.Shows (SourceSync.close answer isOver polls contents).2 after ∧ Ordered after ∧
      Poll.IsLeft original outcome final poll (recordOf? after source.id) := by
  obtain ⟨poll, here, settles⟩ := awaits.own
  induction polls generalizing place contents records isOver with
  | nil => simp at here
  | cons entry polls ih =>
    cases place with
    | zero =>
      cases here
      obtain ⟨between, showsThen, orderedThen, left⟩ := settles.close shows ordered rfl isOver
      have spared : ∀ entry ∈ polls, Poll.Spares store source.id entry.2 := by
        intro entry member
        obtain ⟨other, there⟩ := List.mem_iff_getElem?.mp member
        exact awaits.others (other + 1) entry (Nat.succ_ne_zero other) there
      obtain ⟨after, showsAfter, orderedAfter, same⟩ :=
        close_spares spared showsThen orderedThen _
      exact ⟨_, after, rfl, showsAfter, orderedAfter, same ▸ left⟩
    | succ place =>
      obtain ⟨source', poll'⟩ := entry
      obtain ⟨between, showsThen, orderedThen, same⟩ :=
        (awaits.others 0 _ (Nat.succ_ne_zero place).symm rfl).close (answer source') shows ordered
          isOver
      have rest : Awaits store answer source original outcome final place polls
          (recordOf? between source.id) :=
        ⟨⟨poll, here, same ▸ settles⟩, fun other entry different there =>
          awaits.others (other + 1) entry (fun moved => different (Nat.succ.inj moved)) there⟩
      exact ih rest showsThen orderedThen _ here (same ▸ settles)

theorem Awaits.interleave (awaits : Awaits store answer source original outcome final place polls
      (recordOf? records source.id))
    (shows : store.Shows contents records) (ordered : Ordered records) (places : List Nat) :
    ∃ poll after, (interleave answer places polls contents).1[place]? = some (source, poll) ∧
      store.Shows (SourceSync.interleave answer places polls contents).2 after ∧ Ordered after ∧
      Poll.IsLeft original outcome final poll (recordOf? after source.id) := by
  obtain ⟨reached, between, ⟨found, showsFound, orderedFound, still⟩, ends⟩ :=
    interleave_eq_close
      (fun polls contents => ∃ found, store.Shows contents found ∧ Ordered found ∧
        Awaits store answer source original outcome final place polls
          (recordOf? found source.id))
      (fun _ _ next ⟨_, showsFound, orderedFound, still⟩ =>
        still.stepAt showsFound orderedFound next)
      places polls contents ⟨records, shows, ordered, awaits⟩
  rw [ends]
  exact still.close showsFound orderedFound (isOver reached)

/-- The poll of a source that shares its id with no other one is left as the record and the answer
of the source say, whatever the order of the steps. -/
theorem sideBySide_own (now : Timestamp) (answer : Source → FetchAnswer)
    (works : store.Works readBack) (shows : store.Shows contents records)
    (ordered : Ordered records) (here : settings.enabledSources[place]? = some source)
    (alone : ∀ other entry, other ≠ place → settings.enabledSources[other]? = some entry →
      entry.id ≠ source.id)
    (places : List Nat) :
    ∃ poll after,
      (sideBySide store now answer settings places contents).1[place]? = some (source, poll) ∧
      store.Shows (sideBySide store now answer settings places contents).2 after ∧
      Ordered after ∧
      Poll.IsLeft (recordOf? records source.id)
        (Poll.outcomeOf now source (answer source) (recordOf? records source.id))
        (Poll.leaves readBack now source (answer source) (recordOf? records source.id)) poll
        (recordOf? after source.id) := by
  refine Awaits.interleave ⟨⟨Poll.ofSource store now source, ?_, ?_⟩, ?_⟩ shows ordered places
  · simp [SourceSync.polls, here]
  · exact Poll.settles_ofSource works now source (answer source)
      fun _ found => sourceId_of_recordOf? found
  · intro other entry different found
    rw [SourceSync.polls, List.getElem?_map, Option.map_eq_some_iff] at found
    obtain ⟨source', there, rfl⟩ := found
    exact Poll.spares_ofSource works now (alone other source' different there)

theorem sideBySide_other (works : store.Works readBack) (shows : store.Shows contents records)
    (ordered : Ordered records) (unused : ∀ source ∈ settings.enabledSources, source.id ≠ id)
    (places : List Nat) :
    ∃ after, store.Shows (sideBySide store now answer settings places contents).2 after ∧
      Ordered after ∧ recordOf? after id = recordOf? records id := by
  refine interleave_spares ?_ shows ordered places
  intro entry member
  obtain ⟨source, enabled, rfl⟩ := List.mem_map.mp member
  exact Poll.spares_ofSource works now (unused source enabled)

theorem sources_stepAt (answer : Source → FetchAnswer) (place : Nat)
    (polls : List (Source × Poll σ)) (contents : σ) :
    (stepAt answer place polls contents).1.map Prod.fst = polls.map Prod.fst := by
  unfold stepAt
  split
  · rename_i source poll here
    obtain ⟨bound, there⟩ := List.getElem?_eq_some_iff.mp here
    have inRange : place < (polls.map Prod.fst).length := by
      rwa [List.length_map]
    have own : source = (polls.map Prod.fst)[place] := by
      rw [List.getElem_map, there]
    rw [List.map_set, own]
    exact List.set_getElem_self _
  · rfl

theorem sources_close (answer : Source → FetchAnswer) (isOver : Bool)
    (polls : List (Source × Poll σ)) (contents : σ) :
    (close answer isOver polls contents).1.map Prod.fst = polls.map Prod.fst := by
  induction polls generalizing contents isOver with
  | nil => rfl
  | cons entry polls ih => exact congrArg (entry.1 :: ·) (ih _ _)

theorem sources_interleave (answer : Source → FetchAnswer) (places : List Nat)
    (polls : List (Source × Poll σ)) (contents : σ) :
    (interleave answer places polls contents).1.map Prod.fst = polls.map Prod.fst := by
  obtain ⟨reached, between, same, ends⟩ :=
    interleave_eq_close (fun reached _ => reached.map Prod.fst = polls.map Prod.fst)
      (fun reached between place same => (sources_stepAt answer place reached between).trans same)
      places polls contents rfl
  rw [ends, sources_close, same]

/-- There is one poll for each source, in the order of the settings. -/
theorem sources_sideBySide (store : StatusStore σ) (now : Timestamp)
    (answer : Source → FetchAnswer) (settings : Settings) (places : List Nat) (contents : σ) :
    (sideBySide store now answer settings places contents).1.map Prod.fst =
      settings.enabledSources := by
  rw [sideBySide, sources_interleave, SourceSync.polls, List.map_map]
  exact List.map_id _

theorem isOver_close_true (stopped : isOver polls = true) (contents : σ) :
    isOver (close answer true polls contents).1 = true := by
  induction polls generalizing contents with
  | nil => cases stopped
  | cons entry polls ih =>
    obtain ⟨source, poll⟩ := entry
    rw [isOver, List.any_cons, Bool.or_eq_true] at stopped
    rw [close, isOver, List.any_cons, Bool.or_eq_true]
    refine stopped.imp (fun broken => ?_) fun later => ih later _
    obtain rfl := eq_of_isBroken broken
    rfl

/-- Unless one of them breaks down, polls that are closed come to an outcome. -/
theorem exists_outcome_of_close (running : isOver (close answer false polls contents).1 = false) :
    ∀ entry ∈ (close answer false polls contents).1,
      ∃ outcome, entry.2 = .finished (some outcome) := by
  induction polls generalizing contents with
  | nil => exact fun _ absent => nomatch absent
  | cons entry polls ih =>
    obtain ⟨source, poll⟩ := entry
    rcases ran : poll.run (answer source) contents with ⟨_ | outcome, left⟩
    · simp [close, Poll.close, ran, isOver, Poll.isBroken] at running
    · simp only [close, Poll.close, ran, isOver, Poll.isBroken, List.any_cons, Bool.false_or,
        if_false, Bool.false_eq_true] at running ⊢
      exact List.forall_mem_cons.mpr ⟨⟨outcome, rfl⟩, ih running⟩

/-- Unless one of them breaks down, all polls of a pass come to an outcome. -/
theorem exists_outcome_of_interleave {places : List Nat}
    (running : isOver (interleave answer places polls contents).1 = false) :
    ∀ entry ∈ (interleave answer places polls contents).1,
      ∃ outcome, entry.2 = .finished (some outcome) := by
  obtain ⟨reached, between, _, ends⟩ :=
    interleave_eq_close (fun _ _ => True) (fun _ _ _ _ => trivial) places polls contents trivial
  rw [ends] at running ⊢
  cases stopped : isOver reached with
  | true =>
    rw [stopped, isOver_close_true stopped] at running
    cases running
  | false =>
    rw [stopped] at running
    exact exists_outcome_of_close running

private theorem id_ne_of_nodup {sources : List Source} (distinct : (sources.map (·.id)).Nodup)
    (here : sources[place]? = some source) (other : Nat) (entry : Source)
    (different : other ≠ place) (there : sources[other]? = some entry) : entry.id ≠ source.id := by
  intro same
  have bound : other < (sources.map (·.id)).length := by
    rw [List.length_map]
    exact (List.getElem?_eq_some_iff.mp there).1
  apply different
  apply (List.getElem?_inj bound distinct).mp
  rw [List.getElem?_map, List.getElem?_map, here, there]
  exact congrArg some same

/-- The source whose turn it is shares its id with no source at another place. -/
theorem id_ne_elsewhere {front back : List Source}
    (turn : settings.enabledSources = front ++ source :: back)
    (alone : ∀ other ∈ front ++ back, other.id ≠ source.id) (place : Nat) (other : Source)
    (elsewhere : place ≠ front.length) (found : settings.enabledSources[place]? = some other) :
    other.id ≠ source.id := by
  apply alone
  rw [turn] at found
  rcases Nat.lt_or_gt_of_ne elsewhere with earlier | later
  · rw [List.getElem?_append_left earlier] at found
    exact List.mem_append_left _ (List.mem_of_getElem? found)
  · obtain ⟨beyond, rfl⟩ := Nat.exists_eq_add_of_lt later
    rw [List.getElem?_append_right (by omega), Nat.add_assoc, Nat.add_sub_cancel_left,
      List.getElem?_cons_succ] at found
    exact List.mem_append_right _ (List.mem_of_getElem? found)

/-- How polls are left and what is stored for their sources then, by what was stored before. -/
def AreLeft (readBack : SourceStatus → SourceStatus) (now : Timestamp)
    (answer : Source → FetchAnswer) (records after : List SourceStatus)
    (ended : List (Source × Poll σ)) : Prop :=
  ∀ entry ∈ ended, Poll.IsLeft (recordOf? records entry.1.id)
    (Poll.outcomeOf now entry.1 (answer entry.1) (recordOf? records entry.1.id))
    (Poll.leaves readBack now entry.1 (answer entry.1) (recordOf? records entry.1.id)) entry.2
    (recordOf? after entry.1.id)

/-- What becomes of the polls of sources with different ids and of their records. -/
private theorem sideBySide_isolated (now : Timestamp) (answer : Source → FetchAnswer)
    (works : store.Works readBack) (shows : store.Shows contents records)
    (ordered : Ordered records) (distinct : (settings.enabledSources.map (·.id)).Nodup)
    (places : List Nat) :
    ∃ after, store.Shows (sideBySide store now answer settings places contents).2 after ∧
      Ordered after ∧
      AreLeft readBack now answer records after
        (sideBySide store now answer settings places contents).1 ∧
      ∀ id ∉ settings.enabledSources.map (·.id), recordOf? after id = recordOf? records id := by
  obtain ⟨unused, isUnused⟩ :=
    Infinite.exists_notMem_finset (settings.enabledSources.map (·.id)).toFinset
  rw [List.mem_toFinset] at isUnused
  -- There is always an id that no poll is about, even if there are no polls.
  have others : ∀ {id}, id ∉ settings.enabledSources.map (·.id) →
      ∃ after, store.Shows (sideBySide store now answer settings places contents).2 after ∧
        Ordered after ∧ recordOf? after id = recordOf? records id := by
    intro id unused
    exact sideBySide_other works shows ordered
      (fun source enabled same => unused (List.mem_map.mpr ⟨source, enabled, same⟩)) places
  obtain ⟨after, showsThen, orderedThen, _⟩ := others isUnused
  refine ⟨after, showsThen, orderedThen, ?_, ?_⟩
  · rintro ⟨source, poll⟩ member
    obtain ⟨place, found⟩ := List.mem_iff_getElem?.mp member
    have here : settings.enabledSources[place]? = some source := by
      rw [← sources_sideBySide store now answer settings places contents, List.getElem?_map, found]
      rfl
    obtain ⟨poll', after', found', showsToo, _, left⟩ :=
      sideBySide_own now answer works shows ordered here (id_ne_of_nodup distinct here) places
    rw [showsThen.unique showsToo]
    obtain ⟨⟩ := Option.some.inj (found.symm.trans found')
    exact left
  · intro id unused
    obtain ⟨after', showsToo, _, same⟩ := others unused
    rwa [showsThen.unique showsToo]

variable {after : List SourceStatus} {ended : List (Source × Poll σ)}

private theorem isOver_eq_false
    (left : AreLeft readBack now answer records after ended)
    (sound : ∀ source ∈ ended.map Prod.fst,
      ¬Poll.BreaksDown now source (answer source) (recordOf? records source.id)) :
    isOver ended = false := by
  rw [isOver, List.any_eq_false]
  intro entry member broken
  obtain ⟨same, _⟩ := (left entry member).of_finished (eq_of_isBroken broken)
  exact sound entry.1 (List.mem_map_of_mem member) (Poll.outcomeOf_eq_none_iff.mp same)

private theorem exists_results
    (complete : ∀ entry ∈ ended, ∃ outcome, entry.2 = .finished (some outcome))
    (left : AreLeft readBack now answer records after ended) :
    (∀ source ∈ ended.map Prod.fst, recordOf? after source.id =
      Poll.leaves readBack now source (answer source) (recordOf? records source.id)) ∧
      ∃ results, results? ended = some results ∧
        results.map some = (ended.map Prod.fst).map fun source =>
          (Poll.outcomeOf now source (answer source) (recordOf? records source.id)).map
            (ofOutcome source) := by
  have each : ∀ entry ∈ ended, recordOf? after entry.1.id =
      Poll.leaves readBack now entry.1 (answer entry.1) (recordOf? records entry.1.id) ∧
      ∃ outcome, entry.2.outcome? = some outcome ∧
        Poll.outcomeOf now entry.1 (answer entry.1) (recordOf? records entry.1.id) =
          some outcome := by
    intro entry member
    obtain ⟨outcome, ends⟩ := complete entry member
    obtain ⟨same, stays⟩ := (left entry member).of_finished ends
    exact ⟨stays, outcome, by rw [ends]; rfl, same⟩
  refine ⟨List.forall_mem_map.mpr fun entry member => (each entry member).1, ?_⟩
  obtain ⟨results, same⟩ : ∃ results : List SourceSync,
      ended.map (fun entry => entry.2.outcome?.map (ofOutcome entry.1)) = results.map some := by
    refine exists_map_some fun entry member => ?_
    obtain ⟨_, outcome, ends, _⟩ := each entry member
    exact ⟨_, congrArg (Option.map _) ends⟩
  refine ⟨results, results?_eq_some_iff.mpr same, same.symm.trans ?_⟩
  rw [List.map_map]
  refine List.map_congr_left fun entry member => ?_
  obtain ⟨_, outcome, ends, concluded⟩ := each entry member
  rw [ends, Function.comp, concluded]


private theorem results?_of_breaksDown
    (complete : isOver ended = false → ∀ entry ∈ ended,
      ∃ outcome, entry.2 = .finished (some outcome))
    (left : AreLeft readBack now answer records after ended)
    (polled : source ∈ ended.map Prod.fst)
    (breaks : Poll.BreaksDown now source (answer source) (recordOf? records source.id)) :
    results? ended = none := by
  apply results?_of_isOver
  rw [← Bool.not_eq_false]
  intro running
  obtain ⟨entry, member, rfl⟩ := List.mem_map.mp polled
  obtain ⟨outcome, ends⟩ := complete running entry member
  have concluded := ((left entry member).of_finished ends).1
  rw [Poll.outcomeOf_eq_none_iff.mpr breaks] at concluded
  cases concluded

/-- Sources with different ids do not touch each other: whatever the order of the steps of their
polls, a pass ends with the results and the records of a pass that polls one source after the other.
There is one result for each source, in the order of the settings, and what becomes of a source and
of its record is known from the source, its record and its answer alone. A source that breaks down
ends the pass without results; the others then keep their records, or come to the end of their polls
all the same. -/
theorem sideBySide_as_pass (now : Timestamp) (answer : Source → FetchAnswer)
    (works : store.Works readBack) (shows : store.Shows contents records)
    (ordered : Ordered records) (distinct : (settings.enabledSources.map (·.id)).Nodup)
    (places : List Nat) :
    let sides := sideBySide store now answer settings places contents
    let turns := (pass store now answer settings).run.run contents
    ∃ after, store.Shows sides.2 after ∧
      (∀ id ∉ settings.enabledSources.map (·.id), recordOf? after id = recordOf? records id) ∧
      (∀ source ∈ settings.enabledSources,
        recordOf? after source.id = recordOf? records source.id ∨
          recordOf? after source.id =
            Poll.leaves readBack now source (answer source) (recordOf? records source.id)) ∧
      ((∀ source ∈ settings.enabledSources,
          ¬Poll.BreaksDown now source (answer source) (recordOf? records source.id)) →
        store.Shows turns.2 after ∧
        (∀ source ∈ settings.enabledSources, recordOf? after source.id =
          Poll.leaves readBack now source (answer source) (recordOf? records source.id)) ∧
        ∃ results, results? sides.1 = some results ∧ turns.1 = some results ∧
          results.map some = settings.enabledSources.map fun source =>
            (Poll.outcomeOf now source (answer source) (recordOf? records source.id)).map
              (ofOutcome source)) ∧
      ∀ source ∈ settings.enabledSources,
        Poll.BreaksDown now source (answer source) (recordOf? records source.id) →
          results? sides.1 = none ∧ turns.1 = none := by
  intro sides turns
  have polled := sources_sideBySide store now answer settings
  have complete : ∀ places,
      isOver (sideBySide store now answer settings places contents).1 = false →
      ∀ entry ∈ (sideBySide store now answer settings places contents).1,
        ∃ outcome, entry.2 = .finished (some outcome) :=
    fun _ => exists_outcome_of_interleave
  obtain ⟨after, showsAfter, orderedAfter, isLeft, others⟩ :=
    sideBySide_isolated now answer works shows ordered distinct places
  -- Polling in turn is the order in which no poll makes a step before its turn.
  obtain ⟨last, showsLast, orderedLast, isLeftLast, othersLast⟩ :=
    sideBySide_isolated now answer works shows ordered distinct []
  unfold turns
  rw [run_pass]
  refine ⟨after, showsAfter, others, ?_, ?_, ?_⟩
  · intro source enabled
    rw [← polled places contents] at enabled
    obtain ⟨entry, member, rfl⟩ := List.mem_map.mp enabled
    exact (isLeft entry member).outcome?_and_record.imp And.right And.right
  · intro sound
    have soundAt : ∀ places, ∀ source ∈
        (sideBySide store now answer settings places contents).1.map Prod.fst,
        ¬Poll.BreaksDown now source (answer source) (recordOf? records source.id) := by
      intro places
      rwa [polled]
    obtain ⟨leaves, results, reported, each⟩ :=
      exists_results (complete _ (isOver_eq_false isLeft (soundAt places))) isLeft
    obtain ⟨leavesLast, resultsLast, reportedLast, eachLast⟩ :=
      exists_results (complete _ (isOver_eq_false isLeftLast (soundAt []))) isLeftLast
    rw [polled] at leaves leavesLast each eachLast
    -- Both ways leave every source as its own poll does.
    have same : after = last := by
      apply orderedAfter.ext orderedLast
      intro id
      by_cases used : id ∈ settings.enabledSources.map (·.id)
      · obtain ⟨source, enabled, rfl⟩ := List.mem_map.mp used
        exact (leaves source enabled).trans (leavesLast source enabled).symm
      · exact (others id used).trans (othersLast id used).symm
    obtain rfl : results = resultsLast :=
      List.map_injective_iff.mpr (Option.some_injective _) (each.trans eachLast.symm)
    exact ⟨same ▸ showsLast, leaves, results, reported, reportedLast, each⟩
  · intro source enabled breaks
    rw [← polled places contents] at enabled
    refine ⟨results?_of_breaksDown (complete _) isLeft enabled breaks, ?_⟩
    rw [polled, ← polled [] contents] at enabled
    exact results?_of_breaksDown (complete _) isLeftLast enabled breaks

/-- A feed with a show for each of some days of January 2018. -/
def showsOn (days : List Nat) : List UInt8 :=
  let item (day : Nat) := s!"<item><title>Show {day}</title><link>/get</link>" ++
    s!"<guid>g{day}</guid><pubDate>{day} Jan 2018 00:00 Z</pubDate></item>"
  ("<rss><channel>" ++ String.join (days.map item) ++ "</channel></rss>").toUTF8.toList

/-- What is read from a feed of shows of a source with a short name. -/
def showOn (source : Source) (day : Nat) : Release where
  guid := some s!"g{day}".toList
  title := s!"Show {day}".toList
  publishDate := .ofSeconds (1514678400 + 86400 * day)
  sourceId := source.id
  source := source.name
  downloadUrl := "/get".toList

/-- Two sources whose records are kept in a file: one offers a show, and the other one, which is at
its first level already, gives no answer. -/
theorem sideBySide_in_file :
    let shows : Source := { id := 5, name := "Shows".toList, url := [] }
    let films : Source := { id := 7, name := "Films".toList, url := [], enabled := false }
    let silent : Source := { id := 2, name := "Silent".toList, url := [] }
    let settings : Settings := { sources := [shows, films, silent] }
    let now : Timestamp := .ofSeconds 1514900000
    let answer (source : Source) : FetchAnswer :=
      if source.id = 5 then .ok (showsOn [1]) else .error { message := "down" }
    let failed : SourceStatus := { sourceId := 2, level := 1 }
    let file : RecordFile := { version := 1, rows := some [StatusRow.ofStatus failed] }
    (settings.enabledSources.map (·.id)).Nodup ∧
      ∀ places, results? (sideBySide .file now answer settings places file).1 =
        some [⟨5, "Shows".toList, .synced [showOn shows 1] true⟩,
          ⟨2, "Silent".toList, .failed "down"⟩] := by
  intro shows films silent settings now answer failed file
  have distinct : (settings.enabledSources.map (·.id)).Nodup := by
    decide
  have held : StatusStore.file.Shows file [failed] :=
    RecordFile.shows_iff_holds.mpr ⟨_, rfl, rfl⟩
  have concluded : settings.enabledSources.map (fun source =>
      (Poll.outcomeOf now source (answer source) (recordOf? [failed] source.id)).map
        (ofOutcome source)) =
      [some ⟨5, "Shows".toList, .synced [showOn shows 1] true⟩,
        some ⟨2, "Silent".toList, .failed "down"⟩] := by
    decide +kernel
  have sound : ∀ source ∈ settings.enabledSources,
      ¬Poll.BreaksDown now source (answer source) (recordOf? [failed] source.id) := by
    intro source enabled breaks
    have missing := List.mem_map_of_mem enabled (f := fun source =>
      (Poll.outcomeOf now source (answer source) (recordOf? [failed] source.id)).map
        (ofOutcome source))
    rw [concluded, Poll.outcomeOf_eq_none_iff.mpr breaks] at missing
    simp at missing
  refine ⟨distinct, fun places => ?_⟩
  obtain ⟨_, _, _, _, complete, _⟩ := sideBySide_as_pass now answer StatusStore.works_file held
    (List.pairwise_singleton _ _) distinct places
  obtain ⟨_, _, results, reported, _, each⟩ := complete sound
  rw [reported]
  exact congrArg some
    (List.map_injective_iff.mpr (Option.some_injective _) (each.trans concluded))

/-- A rated source with an item that breaks the reading leaves the pass without a result for the
other source, too. -/
theorem sideBySide_breaks_on_spoiltFeed :
    let rated : Source := { id := 5, name := "Rated".toList, url := "https://oznzb.com".toList }
    let shows : Source := { id := 2, name := "Shows".toList, url := [] }
    let settings : Settings := { sources := [shows, rated] }
    let now : Timestamp := .ofSeconds 1514900000
    let answer (source : Source) : FetchAnswer :=
      .ok (if source.id = 5 then FeedDocument.spoiltFeed else showsOn [1])
    settings.enabledSources = [shows, rated] ∧ (settings.enabledSources.map (·.id)).Nodup ∧
      results? (sideBySide .memory now answer settings [1, 0, 1] []).1 = none ∧
      ((pass .memory now answer settings).run.run []).1 = none ∧
      ((pass .memory now answer { sources := [shows] }).run.run []).1 =
        some [⟨2, "Shows".toList, .synced [showOn shows 1] true⟩] := by
  decide +kernel

end SourceSync

end Curator
