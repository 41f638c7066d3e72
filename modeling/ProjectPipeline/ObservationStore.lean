import ProjectPipeline.Runs
import ProjectPipeline.Table

/-!
# Evidence Observations

`EvidenceObservationStore` (`assurance/observation_store.py`) keeps observations in a table, with a
journal of the observations that were put. `put` is one transaction. Everything else runs in
autocommit mode: `retain` deletes a row and then its entries of the journal, with a statement for
each, and a store that is opened inserts the observations of the journal that have no row.

A process may stop between any two statements. A `put` that is stopped has done nothing; `retain`
and the replay get the number of statements, or entries, that they come to. A number beyond the end
is a call that is not stopped.

A stored payload is the observation that it was dumped from. The columns beside the payload repeat
its fields, apart from `superseded_by`. Times are compared as texts, as the store does.

## Main results

* `ObservationRun.Sound.step`: what every orderly call keeps.
* `superseded_never_current`: in a run of orderly calls no superseded observation is current.
* `superseded_current_again`: a stop inside of `retain` brings a superseded observation back.
-/

namespace ProjectPipeline

open Option List

/-- What the store reads of an observation; `content` stands for its other fields. -/
structure EvidenceObservation where
  observationId : String
  evidenceId : String
  integratedSha : String
  integratedTree : String
  recordedAtUtc : String
  supersedes : Option String
  content : String
  not_itself : truthy supersedes = true → supersedes ≠ some observationId
  deriving DecidableEq

/-- A row of `evidence_observations`. -/
structure ObservationRow where
  payload : EvidenceObservation
  supersededBy : Option String := none

abbrev ObservationRow.observationId (row : ObservationRow) : String := row.payload.observationId

/-- The two tables; the journal has the payloads of its entries, oldest first. -/
structure ObservationStore where
  observations : Table String ObservationRow ObservationRow.observationId := .empty
  journal : List EvidenceObservation := []

namespace ObservationStore

/-- The exception for an observation that is stored with another payload. -/
def conflictingReplay (observationId : String) : PyError :=
  .raised "ObservationStoreError" ("conflicting replay for observation " ++ observationId)

/-- The `UPDATE` of `superseded_by`, if the observation names another one. -/
def supersede (observations : Table String ObservationRow ObservationRow.observationId)
    (observation : EvidenceObservation) :
    Table String ObservationRow ObservationRow.observationId :=
  observations.updateWhere
    (fun row => truthy observation.supersedes &&
      some row.observationId == observation.supersedes && row.supersededBy.isNone)
    (fun row => { row with supersededBy := some observation.observationId }) (fun _ => rfl)

variable (s : ObservationStore)

/-- `put`: the tables after a transaction that is committed. -/
def put (observation : EvidenceObservation) :
    Except PyError ObservationStore :=
  match s.observations.find? observation.observationId with
  | some existing =>
    if existing.payload ≠ observation then .error (conflictingReplay observation.observationId)
    else .ok s
  | none =>
    match (supersede s.observations observation).insert { payload := observation } with
    | none => .error (.integrityError "UNIQUE constraint failed")
    | some observations => .ok { observations, journal := s.journal ++ [observation] }

/-- The order of `current`: by time, then by identifier, the last one first. -/
def newer (a b : ObservationRow) : Bool :=
  if a.payload.recordedAtUtc = b.payload.recordedAtUtc then
    textLe b.observationId a.observationId
  else textLe b.payload.recordedAtUtc a.payload.recordedAtUtc

def current (lower : String → String) (evidenceId : String)
    (subjectSha subjectTree : Option String) : Option EvidenceObservation :=
  let found := s.observations.rows.filter fun row =>
    row.payload.evidenceId == evidenceId && row.supersededBy.isNone &&
      (!truthy subjectSha || some row.payload.integratedSha == subjectSha.map lower) &&
      (!truthy subjectTree || some row.payload.integratedTree == subjectTree.map lower)
  ((found.insertionSort fun a b => newer a b = true).head?).map ObservationRow.payload

/-- The loop of `replay_journal`, with the number of rows that are restored. An exception leaves
the rows that were inserted before it. -/
def replayEntries (s : ObservationStore) (restored : ℕ) :
    List EvidenceObservation → Except PyError ℕ × ObservationStore
  | [] => (.ok restored, s)
  | entry :: entries =>
    match s.observations.find? entry.observationId with
    | none =>
      match s.observations.insert { payload := entry } with
      | none => (.error (.integrityError "UNIQUE constraint failed"), s)
      | some observations => { s with observations }.replayEntries (restored + 1) entries
    | some existing =>
      if existing.payload ≠ entry then (.error (conflictingReplay entry.observationId), s)
      else s.replayEntries restored entries

/-- `replay_journal`, up to a number of entries. -/
def replayJournal (entries : ℕ) : Except PyError ℕ × ObservationStore :=
  s.replayEntries 0 (s.journal.take entries)

section

variable (observationId : String) (s : ObservationStore)

/-- `DELETE FROM evidence_observations WHERE observation_id = ?`. -/
def deleteObservation : ObservationStore :=
  { s with observations := s.observations.deleteWhere fun row => row.observationId = observationId }

/-- `DELETE FROM evidence_observation_journal WHERE observation_id = ?`. -/
def deleteEntries : ObservationStore :=
  { s with journal := s.journal.filter fun entry => entry.observationId != observationId }

end

variable (keepCurrent : Bool) (cutoff : Option String)

/-- The rows that `retain` removes; the cutoff is the text of the time. -/
def expired :
    List ObservationRow :=
  s.observations.rows.filter fun row =>
    !(keepCurrent && row.supersededBy.isNone) &&
      cutoff.all fun cutoff => textLe row.payload.recordedAtUtc cutoff

/-- The statements that remove rows. -/
def removal (rows : List ObservationRow) : List (ObservationStore → ObservationStore) :=
  rows.flatMap fun row => [deleteObservation row.observationId, deleteEntries row.observationId]

/-- `retain`, up to a number of statements. -/
def retain (statements : ℕ) : ObservationStore :=
  runCalls (fun s statement => statement s) s
    ((removal (s.expired keepCurrent cutoff)).take statements)

end ObservationStore

/-! ### Runs -/

/-- A call, with the point at which the process is stopped. -/
inductive ObservationCall where
  | put (observation : EvidenceObservation)
  | retain (keepCurrent : Bool) (cutoff : Option String) (statements : ℕ)
  | reopen (entries : ℕ)

/-- A store, and the observations that were named as superseded by a `put` that has committed. -/
structure ObservationRun where
  store : ObservationStore := {}
  superseded : List String := []

namespace ObservationCall

def step (run : ObservationRun) : ObservationCall → ObservationRun
  | put observation =>
    match run.store.put observation with
    | .error _ => run
    | .ok store => ⟨store, run.superseded ++ (observation.supersedes.filter (· ≠ "")).toList⟩
  | retain keepCurrent cutoff statements =>
    { run with store := run.store.retain keepCurrent cutoff statements }
  | reopen entries => { run with store := (run.store.replayJournal entries).2 }

/-- A new observation is not one that was superseded before, and `retain` is not stopped between
the two statements of a row. -/
def Orderly (run : ObservationRun) : ObservationCall → Prop
  | put observation => run.store.observations.find? observation.observationId = none →
      observation.observationId ∉ run.superseded
  | retain _ _ statements => statements % 2 = 0
  | reopen _ => True

instance (run : ObservationRun) : ∀ call : ObservationCall, Decidable (call.Orderly run)
  | put observation =>
    inferInstanceAs (Decidable (run.store.observations.find? observation.observationId = none →
      observation.observationId ∉ run.superseded))
  | retain _ _ statements => inferInstanceAs (Decidable (statements % 2 = 0))
  | reopen _ => inferInstanceAs (Decidable True)

end ObservationCall

/-! ### The invariant -/

open ObservationStore

/-- Every entry of the journal has its row, the rows name observations that are superseded, and
those have no row or one that is marked. -/
structure ObservationRun.Sound (run : ObservationRun) : Prop where
  journaled : ∀ entry ∈ run.store.journal, run.store.observations.find? entry.observationId ≠ none
  named : ∀ k row, run.store.observations.find? k = some row →
    ∀ id ∈ (row.payload.supersedes.filter (· ≠ "")).toList, id ∈ run.superseded
  marked : ∀ id ∈ run.superseded, ∀ row, run.store.observations.find? id = some row →
    row.supersededBy ≠ none

namespace ObservationRun.Sound

variable {run : ObservationRun} {observation : EvidenceObservation}

/-- A new observation is stored, and the row of the one that it names is marked. -/
theorem insert (h : run.Sound) (hfr : observation.observationId ∉ run.superseded)
    {observations : Table String ObservationRow ObservationRow.observationId}
    (hins : (supersede run.store.observations observation).insert { payload := observation } =
      some observations) :
    Sound ⟨⟨observations, run.store.journal ++ [observation]⟩,
      run.superseded ++ (observation.supersedes.filter (· ≠ "")).toList⟩ := by
  have hfind : ∀ k, observations.find? k = if observation.observationId = k then
      some { payload := observation } else (supersede run.store.observations observation).find? k :=
    Table.find?_insert hins
  refine ⟨fun entry hent => ?_, fun k row hrow id hid => ?_, fun id hid row hrow => ?_⟩
  · rw [hfind, supersede, Table.find?_updateWhere]
    split
    · exact some_ne_none _
    · rename_i hne
      rcases mem_append.mp hent with hold | hnew
      · simpa using h.journaled entry hold
      · exact absurd (by rw [mem_singleton.mp hnew]) hne
  · rw [hfind, supersede, Table.find?_updateWhere] at hrow
    split at hrow
    · cases hrow
      exact mem_append_right _ hid
    · obtain ⟨old, hold, rfl⟩ := map_eq_some_iff.mp hrow
      refine mem_append_left _ (h.named k old hold id ?_)
      split at hid <;> exact hid
  · rw [hfind, supersede, Table.find?_updateWhere] at hrow
    split at hrow
    · rename_i hk
      rcases mem_append.mp hid with hold | hnew
      · exact absurd (hk ▸ hold) hfr
      · obtain ⟨hnamed, hne⟩ := filter_eq_some_iff.mp (mem_toList.mp hnew)
        have htruthy : truthy observation.supersedes = true := by simpa [hnamed, truthy] using hne
        exact absurd (hnamed.trans (congrArg some hk.symm)) (observation.not_itself htruthy)
    · obtain ⟨old, hold, rfl⟩ := map_eq_some_iff.mp hrow
      split
      · exact some_ne_none _
      · rename_i hoth
        rcases mem_append.mp hid with hid | hnew
        · exact h.marked id hid old hold
        · -- The row of the observation that is named would have been marked.
          obtain ⟨hnamed, hne⟩ := filter_eq_some_iff.mp (mem_toList.mp hnew)
          have hkey : old.observationId = id := (Table.find?_eq_some_iff.mp hold).2
          intro hnone
          exact hoth (by simpa [hnamed, hkey, hnone, truthy] using hne)

theorem put (h : run.Sound) (horderly : (ObservationCall.put observation).Orderly run) :
    ((ObservationCall.put observation).step run).Sound := by
  rw [ObservationCall.step, ObservationStore.put]
  cases hfind : run.store.observations.find? observation.observationId with
  | some existing =>
    by_cases hsame : existing.payload = observation
    · simp only [hsame, ne_eq, not_true_eq_false, if_false]
      -- What the observation names was noted when it was put for the first time.
      have hnamed := h.named _ existing hfind
      rw [hsame] at hnamed
      refine ⟨h.journaled, fun k row hrow id hid => ?_, fun id hid => ?_⟩
      · exact mem_append_left _ (h.named k row hrow id hid)
      · exact h.marked id ((mem_append.mp hid).elim (fun hold => hold) (hnamed id))
    · simp only [hsame, ne_eq, not_false_eq_true, if_true]
      exact h
  | none =>
    cases hins : (supersede run.store.observations observation).insert
        { payload := observation } with
    | none => exact h
    | some observations => exact h.insert (horderly hfind) hins

/-- A row is removed with its entries. -/
theorem remove (h : run.Sound) (observationId : String) :
    Sound { run with
      store := deleteEntries observationId (deleteObservation observationId run.store) } := by
  have hfind := run.store.observations.find?_deleteWhere (fun id => decide (id = observationId))
  have hold : ∀ {k row},
      (deleteObservation observationId run.store).observations.find? k = some row →
      run.store.observations.find? k = some row := by
    intro k row hrow
    rw [deleteObservation, hfind] at hrow
    split at hrow
    · cases hrow
    · exact hrow
  refine ⟨fun entry hent => ?_, fun k row hrow => h.named k row (hold hrow),
    fun id hid row hrow => h.marked id hid row (hold hrow)⟩
  obtain ⟨hent, hne⟩ := mem_filter.mp hent
  refine (hfind entry.observationId).trans_ne ?_
  rw [if_neg (by simpa using hne)]
  exact h.journaled entry hent

theorem retain (h : run.Sound) (rows : List ObservationRow) (n : ℕ) :
    Sound ⟨runCalls (fun s statement => statement s) run.store ((removal rows).take (2 * n)),
      run.superseded⟩ := by
  induction rows generalizing run n with
  | nil => simpa [removal] using h
  | cons row _ ih =>
    cases n with
    | zero => exact h
    | succ n => exact ih (h.remove row.observationId) n

/-- The journal has nothing to restore. -/
theorem replayEntries (h : run.Sound) {entries : List EvidenceObservation}
    (hentries : entries ⊆ run.store.journal) (restored : ℕ) :
    (run.store.replayEntries restored entries).2 = run.store := by
  induction entries with
  | nil => rfl
  | cons entry _ ih =>
    obtain ⟨hent, hrest⟩ := cons_subset.mp hentries
    obtain ⟨existing, hfind⟩ := ne_none_iff_exists'.mp (h.journaled entry hent)
    simp only [ObservationStore.replayEntries, hfind]
    split
    · rfl
    · exact ih hrest

/-- Every orderly call keeps the invariant. -/
theorem step {call : ObservationCall} (h : run.Sound) (horderly : call.Orderly run) :
    (call.step run).Sound := by
  cases call with
  | put => exact h.put horderly
  | retain =>
    obtain ⟨n, rfl⟩ := Nat.dvd_of_mod_eq_zero horderly
    exact h.retain _ n
  | reopen =>
    rw [ObservationCall.step, replayJournal, h.replayEntries (take_subset _ _)]
    exact h

end ObservationRun.Sound

/-- In a run of orderly calls, no observation is current that a committed `put` has named as
superseded. -/
theorem superseded_never_current (calls : List ObservationCall)
    (horderly : Along ObservationCall.Orderly ObservationCall.step {} calls) :
    let run := runCalls ObservationCall.step {} calls
    ∀ id ∈ run.superseded, ∀ lower evidenceId subjectSha subjectTree observation,
      run.store.current lower evidenceId subjectSha subjectTree = some observation →
      observation.observationId ≠ id := by
  rintro run id hid lower evidenceId subjectSha subjectTree observation hcur rfl
  have hsound : run.Sound :=
    horderly.invariant ObservationRun.Sound.step ⟨nofun, nofun, nofun⟩
  obtain ⟨row, hhead, rfl⟩ := map_eq_some_iff.mp hcur
  obtain ⟨hmem, hfilter⟩ :=
    mem_filter.mp ((mem_insertionSort _).mp (mem_of_mem_head? hhead))
  refine hsound.marked _ hid row (Table.find?_of_mem _ hmem) ?_
  simp only [Bool.and_eq_true, isNone_iff_eq_none] at hfilter
  exact hfilter.1.1.2

/-- An observation of a commit. -/
def observed (observationId integratedSha : String) (supersedes : Option String)
    (h : truthy supersedes = true → supersedes ≠ some observationId) : EvidenceObservation where
  observationId := observationId
  evidenceId := "evidence"
  integratedSha := integratedSha
  integratedTree := "tree"
  recordedAtUtc := "2026-01-01"
  supersedes := supersedes
  content := ""
  not_itself := h

/-- The observation of a commit. -/
def firstObserved : EvidenceObservation := observed "first" "one" none nofun

/-- The observation of another commit, which supersedes the first one. -/
def secondObserved : EvidenceObservation := observed "second" "two" (some "first") (by decide)

/-- The superseded observation is removed, and the store is opened again. -/
theorem superseded_never_current_removed :
    let run := runCalls ObservationCall.step {}
      [.put firstObserved, .put secondObserved, .retain true none 2, .reopen 9]
    run.store.current id "evidence" none none = some secondObserved ∧
      secondObserved.observationId ≠ "first" := by
  have hcur : (runCalls ObservationCall.step {} [.put firstObserved, .put secondObserved,
      .retain true none 2, .reopen 9]).store.current id "evidence" none none =
        some secondObserved := by
    decide +kernel
  exact ⟨hcur, superseded_never_current _ (by decide +kernel) "first" (by decide +kernel) id
    "evidence" none none secondObserved hcur⟩

/-- `retain` is stopped when it has deleted the row of the superseded observation, and the store
that is opened again restores it from the journal. -/
theorem superseded_current_again :
    let run := runCalls ObservationCall.step {}
      [.put firstObserved, .put secondObserved, .retain true none 1, .reopen 9]
    "first" ∈ run.superseded ∧
      run.store.current id "evidence" (some "one") none = some firstObserved := by
  decide +kernel

end ProjectPipeline
