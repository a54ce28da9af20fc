import Curator.Proofs.Sync.Interleaving

/-! Runs of passes. A source that shares its id with no other one has at most one result in each
pass, and its record changes from pass to pass as its own polls say. -/
namespace Curator.SourceSync

variable {σ : Type} {store : StatusStore σ} {readBack : SourceStatus → SourceStatus}
  {contents : σ} {records : List SourceStatus} {settings : Settings} {source : Source}

/-- What the poll of a source came to in a pass, by the polls as they are left at its end. -/
def outcome? (id : Int) (ended : List (Source × Poll σ)) : Option SyncOutcome :=
  (ended.find? (·.1.id == id)).bind (·.2.outcome?)

/-- What a pass tells of a source. -/
def told? (id : Int) (results : List SourceSync) : Option SyncOutcome :=
  (results.find? (·.sourceId == id)).map (·.outcome)

/-- What a pass tells of a source is what the poll of the source came to. -/
theorem told?_of_results {ended : List (Source × Poll σ)} {results : List SourceSync}
    (reported : results? ended = some results) (id : Int) :
    told? id results = outcome? id ended := by
  rw [results?_eq_some_iff] at reported
  induction ended generalizing results with
  | nil =>
    cases results with
    | nil => rfl
    | cons _ _ => cases reported
  | cons entry ended ih =>
    cases results with
    | nil => cases reported
    | cons result results =>
      obtain ⟨own, others⟩ := List.cons.inj reported
      obtain ⟨outcome, ends, rfl⟩ := Option.map_eq_some_iff.mp own
      have later := ih others
      by_cases same : entry.1.id = id
      · simp [told?, outcome?, ofOutcome, same, ends]
      · simpa [told?, outcome?, ofOutcome, same] using later

/-- A pass that has results tells of every source that is switched on. -/
theorem exists_told {now : Timestamp} {answer : Source → FetchAnswer} {places : List Nat}
    {results : List SourceSync}
    (reported : results? (sideBySide store now answer settings places contents).1 = some results)
    (enabled : source ∈ settings.enabledSources) :
    ∃ outcome, told? source.id results = some outcome := by
  rw [← sources_sideBySide store now answer settings places contents] at enabled
  obtain ⟨entry, member, rfl⟩ := List.mem_map.mp enabled
  have shown := List.mem_map_of_mem member
    (f := fun entry => entry.2.outcome?.map (ofOutcome entry.1))
  rw [results?_eq_some_iff.mp reported] at shown
  obtain ⟨sync, among, same⟩ := List.mem_map.mp shown
  obtain ⟨outcome, _, rfl⟩ := Option.map_eq_some_iff.mp same.symm
  cases found : results.find? (·.sourceId == entry.1.id) with
  | some sync => exact ⟨sync.outcome, by rw [told?, found]; rfl⟩
  | none => exact absurd (beq_iff_eq.mpr rfl) (List.find?_eq_none.mp found _ among)

/-- A source that shares its id with no other one is polled at one place, or there is no poll about
its id at all. -/
theorem turn_or_unused {sources : List Source}
    (alone : (sources.filter (·.id == source.id)).Sublist [source]) :
    (∀ other ∈ sources, other.id ≠ source.id) ∨
      ∃ front back, sources = front ++ source :: back ∧
        ∀ other ∈ front ++ back, other.id ≠ source.id := by
  rcases List.sublist_singleton.mp alone with unused | used
  · left
    intro other member same
    exact List.filter_eq_nil_iff.mp unused other member (beq_iff_eq.mpr same)
  · obtain ⟨front, back, rfl, before, _, after⟩ := List.filter_eq_cons_iff.mp used
    refine .inr ⟨front, back, rfl, ?_⟩
    intro other member same
    rcases List.mem_append.mp member with earlier | later
    · exact before other earlier (beq_iff_eq.mpr same)
    · exact List.filter_eq_nil_iff.mp after other later (beq_iff_eq.mpr same)

/-- Of sources with different ids, each shares its id with no other one. -/
theorem filter_sublist_of_nodup {source : Source} {sources : List Source}
    (distinct : (sources.map (·.id)).Nodup) (member : source ∈ sources) :
    (sources.filter (·.id == source.id)).Sublist [source] := by
  obtain ⟨front, back, rfl⟩ := List.append_of_mem member
  rw [List.map_append, List.map_cons, List.nodup_middle, ← List.map_append] at distinct
  have others : (front ++ back).filter (·.id == source.id) = [] := by
    rw [List.filter_eq_nil_iff]
    intro other elsewhere same
    exact (List.nodup_cons.mp distinct).1
      (List.mem_map.mpr ⟨other, elsewhere, beq_iff_eq.mp same⟩)
  rw [List.filter_append, List.append_eq_nil_iff] at others
  have own : (source.id == source.id) = true := beq_iff_eq.mpr rfl
  rw [List.filter_append, others.1, List.filter_cons, if_pos own, others.2, List.nil_append]

theorem source_of_getElem? {now : Timestamp} {answer : Source → FetchAnswer} {places : List Nat}
    {place : Nat} {entry : Source × Poll σ}
    (found : (sideBySide store now answer settings places contents).1[place]? = some entry) :
    settings.enabledSources[place]? = some entry.1 := by
  rw [← sources_sideBySide store now answer settings places contents, List.getElem?_map, found]
  rfl

theorem outcome?_of_unused (store : StatusStore σ) (now : Timestamp)
    (answer : Source → FetchAnswer) (places : List Nat) (contents : σ) {id : Int}
    (unused : ∀ other ∈ settings.enabledSources, other.id ≠ id) :
    outcome? id (sideBySide store now answer settings places contents).1 = none := by
  rw [outcome?, Option.bind_eq_none_iff]
  intro entry found
  obtain ⟨place, there⟩ := List.mem_iff_getElem?.mp (List.mem_of_find?_eq_some found)
  have own : entry.1.id = id := by simpa using List.find?_some found
  exact absurd own (unused _ (List.mem_of_getElem? (source_of_getElem? there)))

theorem outcome?_of_turn {now : Timestamp} {answer : Source → FetchAnswer} {places : List Nat}
    {front back : List Source} {poll : Poll σ}
    (turn : settings.enabledSources = front ++ source :: back)
    (alone : ∀ other ∈ front ++ back, other.id ≠ source.id)
    (there : (sideBySide store now answer settings places contents).1[front.length]? =
      some (source, poll)) :
    outcome? source.id (sideBySide store now answer settings places contents).1 =
      poll.outcome? := by
  have found : (sideBySide store now answer settings places contents).1.find?
      (·.1.id == source.id) = some (source, poll) := by
    obtain ⟨bound, here⟩ := List.getElem?_eq_some_iff.mp there
    refine List.find?_eq_some_iff_getElem.mpr ⟨beq_iff_eq.mpr rfl, front.length, bound, here, ?_⟩
    intro place earlier
    rw [Bool.not_eq_true', beq_eq_false_iff_ne]
    have other := source_of_getElem? (List.getElem?_eq_getElem (earlier.trans bound))
    exact id_ne_elsewhere turn alone place _ earlier.ne other
  rw [outcome?, found, Option.bind_some]

/-- What a pass makes of a source that shares its id with no other one. Where its poll comes to no
outcome, if there is one, the record stays as it is. -/
theorem outcome?_sideBySide (now : Timestamp) (answer : Source → FetchAnswer)
    (works : store.Works readBack) (shows : store.Shows contents records)
    (ordered : Ordered records)
    (alone : (settings.enabledSources.filter (·.id == source.id)).Sublist [source])
    (places : List Nat) :
    ∃ after, store.Shows (sideBySide store now answer settings places contents).2 after ∧
      Ordered after ∧
      (outcome? source.id (sideBySide store now answer settings places contents).1 = none ∧
          recordOf? after source.id = recordOf? records source.id ∨
        outcome? source.id (sideBySide store now answer settings places contents).1 =
            Poll.outcomeOf now source (answer source) (recordOf? records source.id) ∧
          recordOf? after source.id =
            Poll.leaves readBack now source (answer source) (recordOf? records source.id)) := by
  rcases turn_or_unused alone with unused | ⟨front, back, turn, others⟩
  · obtain ⟨after, showsAfter, orderedAfter, same⟩ :=
      sideBySide_other works shows ordered unused places
    exact ⟨after, showsAfter, orderedAfter,
      .inl ⟨outcome?_of_unused store now answer places contents unused, same⟩⟩
  · have here : settings.enabledSources[front.length]? = some source := by
      simp [turn]
    obtain ⟨poll, after, there, showsAfter, orderedAfter, left⟩ :=
      sideBySide_own now answer works shows ordered here (id_ne_elsewhere turn others) places
    refine ⟨after, showsAfter, orderedAfter, ?_⟩
    rw [outcome?_of_turn turn others there]
    exact left.outcome?_and_record

/-- What a pass of a run finds, and the places at which its polls make their first steps. -/
structure Round where
  now : Timestamp
  settings : Settings
  answer : Source → FetchAnswer
  places : List Nat

/-- A pass of a run, with the polls as they are left at its end. -/
structure Trace (σ : Type) where
  round : Round
  begins : σ
  polls : List (Source × Poll σ)
  ends : σ

/-- The passes of a run. One that is over before its time does not keep the next one from being
made. -/
def traces (store : StatusStore σ) : List Round → σ → List (Trace σ)
  | [], _ => []
  | round :: rounds, contents =>
    let (polls, left) :=
      sideBySide store round.now round.answer round.settings round.places contents
    { round, begins := contents, polls, ends := left } :: traces store rounds left

theorem map_round_traces (store : StatusStore σ) (rounds : List Round) (contents : σ) :
    (traces store rounds contents).map Trace.round = rounds := by
  induction rounds generalizing contents with
  | nil => rfl
  | cons round rounds ih => exact congrArg (round :: ·) (ih _)

theorem mem_traces {rounds : List Round} {trace : Trace σ}
    (member : trace ∈ traces store rounds contents) :
    trace.round ∈ rounds ∧
      sideBySide store trace.round.now trace.round.answer trace.round.settings trace.round.places
        trace.begins = (trace.polls, trace.ends) := by
  induction rounds generalizing contents with
  | nil => cases member
  | cons round rounds ih =>
    rcases List.mem_cons.mp member with rfl | later
    · exact ⟨List.mem_cons_self, rfl⟩
    · obtain ⟨among, passes⟩ := ih later
      exact ⟨List.mem_cons_of_mem _ among, passes⟩

end Curator.SourceSync
