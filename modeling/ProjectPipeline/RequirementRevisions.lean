import ProjectPipeline.RequirementSteps

/-!
# Revisions of Requirements

A client reads a requirement with its revision and sends the revision with its mutation. The
mutation is applied to what the client has read if a revision never names two contents. Updates
count the revision up, and along them it does not; but a requirement that an import deletes and a
later import brings back starts again at revision 1, with any content.

`RevisionRun` keeps beside the store everything that readers can have seen. What has been seen of a
stored requirement is at most as new as its row (`RequirementDb.Latest`), and this is what makes a
revision that is written for the first time a new one.

## Main results

* `revision_names_one_content`: in a run in which no import brings a deleted requirement back, a
  revision names one content.
* `requirement_brought_back`: a revision with two contents.
-/

namespace ProjectPipeline

open RequirementDb RequirementRow List

/-- What a reader sees of a requirement: its identifier, its revision and its `record_json`. -/
structure Reading where
  requirementId : String
  revision : ℤ
  recordJson : String
  deriving DecidableEq

/-- What a reader sees of a row. -/
def RequirementRow.reading (row : RequirementRow) : Reading :=
  ⟨row.requirementId, row.revision, row.recordJson⟩

/-- The store, and everything that has been there to read. -/
structure RevisionRun where
  db : RequirementDb := {}
  seen : List Reading := []

namespace RevisionRun

/-- A call, after which readers see what is stored. -/
def step (sha : Sha256) (run : RevisionRun) (call : RequirementCall) : RevisionRun :=
  let db := call.step sha run.db
  ⟨db, run.seen ++ db.requirements.rows.map RequirementRow.reading⟩

/-- An import brings no requirement back: what it imports is stored, or has never been. -/
def KeepsDeleted (run : RevisionRun) : RequirementCall → Prop
  | .importRequirements records _ _ _ => ∀ item ∈ records,
      (run.db.requirements.find? item.1.requirementId).isSome = true ∨
        item.1.requirementId ∉ run.seen.map Reading.requirementId
  | .applyTraceabilityMutation _ _ => True

instance (run : RevisionRun) : (call : RequirementCall) → Decidable (run.KeepsDeleted call)
  | .importRequirements records _ _ _ => inferInstanceAs (Decidable (∀ item ∈ records, _ ∨ _))
  | .applyTraceabilityMutation _ _ => .isTrue trivial

end RevisionRun

/-! ### What has been seen and what is stored -/

/-- What has been seen of a stored requirement is older than its row, or is what the row holds. -/
def RequirementDb.Latest (db : RequirementDb) (seen : List Reading) : Prop :=
  ∀ reading ∈ seen, ∀ row, db.requirements.find? reading.requirementId = some row →
    reading.revision < row.revision ∨ reading = row.reading

variable {sha : Sha256} {db db' : RequirementDb} {seen : List Reading}

open RevisionRun

/-- An imported requirement that was stored. -/
theorem RequirementDb.latest_importedRow {old : RequirementRow} {reading : Reading}
    {item : RequirementRecord} (hold : reading.revision < old.revision ∨ reading = old.reading)
    (hitem : item.1.requirementId = old.requirementId) (now : Instant) :
    reading.revision < (importedRow now item (some old)).revision ∨
      reading = (importedRow now item (some old)).reading := by
  have hrev : (importedRow now item (some old)).revision =
      if old.recordJson ≠ item.1.registryJson then old.revision + 1 else old.revision := by
    rw [importedRow]
  by_cases hjson : old.recordJson = item.1.registryJson
  · rw [if_neg (not_not.mpr hjson)] at hrev
    have hreading : (importedRow now item (some old)).reading = old.reading := by
      rw [RequirementRow.reading, RequirementRow.requirementId, RequirementRow.recordJson,
        importedRow_record, hrev, hitem, ← hjson]
      rfl
    rw [hreading, hrev]
    exact hold
  · -- Another content has the next revision.
    rw [if_pos hjson] at hrev
    rw [hrev]
    rcases hold with hlt | rfl
    · exact .inl (hlt.trans (Int.lt_succ _))
    · exact .inl (Int.lt_succ _)

variable {call : RequirementCall}

/-- A call that brings nothing back keeps what is stored the latest. -/
theorem RequirementDb.Latest.step (hlatest : db.Latest seen)
    (hkp : RevisionRun.KeepsDeleted ⟨db, seen⟩ call) (hstep : db.Step sha call db') :
    db'.Latest seen := by
  intro reading hreading row hrow
  cases hstep with
  | kept hreqs =>
    rw [hreqs] at hrow
    exact hlatest reading hreading row hrow
  | @imported records _ _ now links _ hnd hmade hreqs =>
    rw [hreqs, Option.map_eq_some_iff] at hrow
    obtain ⟨item, hitem, rfl⟩ := hrow
    obtain ⟨hmem, hid⟩ := catalogued_eq_some hitem
    rcases hold : db.requirements.find? reading.requirementId with _ | old
    · -- The requirement is not stored, so it has not been seen.
      rcases hkp item hmem with hsome | hnew
      · rw [hid, hold] at hsome
        cases hsome
      · exact absurd (mem_map.mpr ⟨reading, hreading, hid.symm⟩) hnew
    · have hkey := (Table.find?_eq_some_iff.mp hold).2
      exact latest_importedRow (hlatest reading hreading old hold) (hid.trans hkey.symm) now
  | @rewritten mutation now old updated links _ hfd hrev hsame hmade hreqs =>
    rw [hreqs, find?_rewritten hfd hsame] at hrow
    split at hrow
    · rename_i hid
      cases hrow
      rcases hlatest reading hreading old (hid ▸ hfd) with hlt | rfl
      · exact .inl (hlt.trans (Int.lt_succ _))
      · exact .inl (Int.lt_succ _)
    · exact hlatest reading hreading row hrow

/-- What readers see after a call is what is stored. -/
theorem RequirementDb.Latest.append (hlatest : db.Latest seen) :
    db.Latest (seen ++ db.requirements.rows.map reading) := by
  intro reading hreading row hrow
  rcases mem_append.mp hreading with hreading | hreading
  · exact hlatest reading hreading row hrow
  · obtain ⟨row', hrow', rfl⟩ := mem_map.mp hreading
    rw [show row'.reading.requirementId = row'.requirementId from rfl,
      db.requirements.find?_of_mem hrow'] at hrow
    exact .inr (congrArg reading (Option.some.inj hrow))

/-! ### Runs of calls -/

/-- A revision names one content among what has been seen, and nothing seen is newer than what is
stored. -/
structure RevisionRun.Inv (run : RevisionRun) : Prop where
  latest : run.db.Latest run.seen
  one : ∀ reading ∈ run.seen, ∀ reading' ∈ run.seen,
    reading.requirementId = reading'.requirementId → reading.revision = reading'.revision →
      reading.recordJson = reading'.recordJson

theorem RevisionRun.Inv.step {run : RevisionRun} (hinv : run.Inv) (hkp : run.KeepsDeleted call)
    (sha : Sha256) : (run.step sha call).Inv := by
  have hlatest : (run.step sha call).db.Latest (run.step sha call).seen :=
    (hinv.latest.step hkp (call.step_spec sha run.db)).append
  -- A row and something seen with its revision have one content.
  have hrow : ∀ row ∈ (run.step sha call).db.requirements.rows,
      ∀ reading ∈ (run.step sha call).seen, reading.requirementId = row.requirementId →
        reading.revision = row.revision → reading.recordJson = row.recordJson := by
    intro row hrow reading hreading hid hrev
    have hfind := (run.step sha call).db.requirements.find?_of_mem hrow
    rcases hlatest reading hreading row (hid ▸ hfind) with hlt | rfl
    · exact absurd hrev hlt.ne
    · rfl
  refine ⟨hlatest, fun reading hreading reading' hreading' hid hrev => ?_⟩
  rcases mem_append.mp hreading with hold | hnew
  · rcases mem_append.mp hreading' with hold' | hnew'
    · exact hinv.one reading hold reading' hold' hid hrev
    · obtain ⟨row, hmem, rfl⟩ := mem_map.mp hnew'
      exact hrow row hmem reading hreading hid hrev
  · obtain ⟨row, hmem, rfl⟩ := mem_map.mp hnew
    exact (hrow row hmem reading' hreading' hid.symm hrev.symm).symm

/-- **A revision names one content.** In a run in which no import brings a deleted requirement
back, all that is ever seen of a requirement at one revision is the same, and a mutation that is
accepted with a revision finds the content that has been seen at it. -/
theorem revision_names_one_content (sha : Sha256) (calls : List RequirementCall)
    (hkp : Along RevisionRun.KeepsDeleted (RevisionRun.step sha) {} calls) :
    let run := runCalls (step sha) {} calls
    (∀ reading ∈ run.seen, ∀ reading' ∈ run.seen,
      reading.requirementId = reading'.requirementId → reading.revision = reading'.revision →
        reading.recordJson = reading'.recordJson) ∧
    ∀ mutation now result, (applyTraceabilityMutation sha mutation now run.db).1 = .ok result →
      ∀ reading ∈ run.seen, reading.requirementId = mutation.requirementId →
        reading.revision = mutation.expectedRevision →
          ∃ row, run.db.requirements.find? mutation.requirementId = some row ∧
            row.reading = reading := by
  intro run
  have hinv : run.Inv := Along.invariant (fun h hkp => h.step hkp sha) hkp
    ⟨fun _ h => absurd h not_mem_nil, fun _ h => absurd h not_mem_nil⟩
  refine ⟨hinv.one, fun mutation now result hok reading hreading hid hrev => ?_⟩
  rcases applyTraceabilityMutation_cases sha mutation now run.db with
    ⟨error, hrefused⟩ | ⟨result', db', hblk, hcommitted⟩
  · rw [hrefused] at hok
    cases hok
  obtain ⟨row, hfind, hexpected, -⟩ := mutationBlock_eq_ok hblk
  refine ⟨row, hfind, ?_⟩
  rcases hinv.latest reading hreading row (hid ▸ hfind) with hlt | hsame
  · exact absurd (hrev.trans hexpected.symm) hlt.ne
  · exact hsame.symm

/-- What is stored after a call has been seen for the rest of the run. -/
theorem RevisionRun.reading_mem_seen {run : RevisionRun} {row : RequirementRow}
    (hrow : row ∈ (run.step sha call).db.requirements.rows) (calls : List RequirementCall) :
    row.reading ∈ (runCalls (step sha) (run.step sha call) calls).seen := by
  have hseen : row.reading ∈ (run.step sha call).seen :=
    mem_append_right _ (mem_map_of_mem hrow)
  generalize run.step sha call = run at hseen
  induction calls generalizing run with
  | nil => exact hseen
  | cons _ _ ih => exact ih _ (mem_append_left _ hseen)

/-- A requirement that is imported twice, changed in between, has two revisions. -/
theorem revision_names_one_content_changed :
    let calls := [importOf [readBack], importOf [listed]]
    let run := runCalls (step .bytePolynomial) {} calls
    Along RevisionRun.KeepsDeleted (step .bytePolynomial) {} calls ∧
    run.seen.map Reading.revision = [1, 2] ∧
    ∀ reading ∈ run.seen, ∀ reading' ∈ run.seen,
      reading.requirementId = reading'.requirementId → reading.revision = reading'.revision →
        reading.recordJson = reading'.recordJson := by
  intro calls run
  have hrun : Along RevisionRun.KeepsDeleted (step .bytePolynomial) {} calls ∧
      run.seen.map Reading.revision = [1, 2] := by decide +kernel
  exact ⟨hrun.1, hrun.2, (revision_names_one_content .bytePolynomial calls hrun.1).1⟩

/-- **A requirement brought back.** It is imported, deleted by the import of an empty catalogue,
and imported with another content, which has revision 1 as the first had. -/
theorem requirement_brought_back :
    let run := runCalls (step .bytePolynomial) {}
      [importOf [readBack], importOf [], importOf [listed]]
    ∃ reading ∈ run.seen, ∃ reading' ∈ run.seen,
      reading.requirementId = reading'.requirementId ∧ reading.revision = reading'.revision ∧
        reading.recordJson ≠ reading'.recordJson := by
  let rows := (step .bytePolynomial {} (importOf [readBack])).db.requirements.rows
  let rows' := (step .bytePolynomial (runCalls (step .bytePolynomial) {}
    [importOf [readBack], importOf []]) (importOf [listed])).db.requirements.rows
  have hrows : rows.map (fun row => (row.record, row.revision)) = [(readBack, 1)] ∧
      rows'.map (fun row => (row.record, row.revision)) = [(listed, 1)] := by
    decide +kernel
  have hjson : readBack.1.registryJson ≠ listed.1.registryJson := by decide +kernel
  -- The calls as any calls: nothing of the run is evaluated here.
  have hseen : ∀ sha a b c,
      (∀ row ∈ (step sha {} a).db.requirements.rows,
        row.reading ∈ (runCalls (step sha) {} [a, b, c]).seen) ∧
      ∀ row ∈ (step sha (runCalls (step sha) {} [a, b]) c).db.requirements.rows,
        row.reading ∈ (runCalls (step sha) {} [a, b, c]).seen :=
    fun _ _ b c => ⟨fun _ hrow => reading_mem_seen hrow [b, c],
      fun _ hrow => reading_mem_seen hrow []⟩
  obtain ⟨first, hfst, hreadBack⟩ := mem_map.mp (hrows.1 ▸ mem_singleton_self _)
  obtain ⟨last, hlast, hlisted⟩ := mem_map.mp (hrows.2 ▸ mem_singleton_self _)
  obtain ⟨hfst', hone⟩ := Prod.mk.inj hreadBack
  obtain ⟨hlast', hone'⟩ := Prod.mk.inj hlisted
  refine ⟨first.reading, (hseen _ _ _ _).1 first hfst, last.reading,
    (hseen _ _ _ _).2 last hlast, ?_, hone.trans hone'.symm, ?_⟩
  · rw [reading, reading, requirementId, requirementId, hfst', hlast']
    rfl
  · rw [reading, reading, recordJson, recordJson, hfst', hlast']
    exact hjson

end ProjectPipeline
