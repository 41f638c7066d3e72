import ProjectPipeline.RequirementSteps

/-!
# Links Mirror Requirements

The table of links repeats what the records of the requirements say. It is written by imports and
by mutations, with different authorities, and rows are deleted together with their requirement. At
every moment the links of a requirement are exactly those that `links_from_requirement` makes of its
record, all of them with one authority, and every link has its requirement.

## Main results

* `linksFromRequirement_authority`: which links there are does not depend on the authority.
* `RequirementDb.Mirrors.step`: a call keeps the links.
* `links_mirror_requirements`: the links after a run of calls, returning or raising.
-/

namespace ProjectPipeline

open RequirementDb List

/-! ### The links of a requirement -/

variable {sha : Sha256} {record : RequirementRecord}

variable {authority : TraceabilityAuthority} {links : List TraceabilityLink}

/-- What `links_from_requirement` returns. -/
theorem linksFromRequirement_eq_ok (h : linksFromRequirement sha authority record = .ok links) :
    links.map TraceabilityLink.triple = record.1.triples ∧
      ∀ link ∈ links, link.requirementId = record.1.requirementId ∧ link.authority = authority := by
  have hrounds := mapM_eq_ok h
  clear h
  generalize record.1.triples = triples at hrounds
  induction hrounds with
  | nil => exact ⟨rfl, nofun⟩
  | cons hcr _ ih =>
    obtain ⟨hid, htriple, hauthority⟩ := TraceabilityLink.create_eq_ok hcr
    refine ⟨?_, ?_⟩
    · rw [map_cons, ih.1, htriple]
    · rw [forall_mem_cons]
      exact ⟨⟨hid, hauthority⟩, ih.2⟩

theorem TraceabilityLink.errors_eq_nil {link : TraceabilityLink} :
    link.errors = [] ↔ link.fieldErrors = [] ∧ raisedErrors "" link.validateTarget = [] := by
  rw [errors]
  split <;> simp_all

/-- A link that can be made with one authority can be made with another. -/
theorem TraceabilityLink.create_authority {requirementId target : String}
    {linkType : TraceabilityLinkType} {ordinal : ℕ} {authority : TraceabilityAuthority}
    {metadata : JsonObject} {link : TraceabilityLink}
    (h : create sha requirementId linkType target ordinal authority metadata = .ok link)
    (other : TraceabilityAuthority) :
    ∃ link', create sha requirementId linkType target ordinal other metadata = .ok link' := by
  obtain ⟨identifier, hident, h⟩ := bind_eq_ok.mp h
  obtain ⟨_, herrs, -⟩ := bind_eq_ok.mp h
  -- The parts of the identifier but the authority are the same, and no authority is blank.
  obtain ⟨identifier', hident'⟩ : ∃ value, deterministicIdentifier sha .traceLink
      [requirementId, linkType.value, target, other.value] = .ok value := by
    obtain ⟨-, hparts⟩ := (deterministicIdentifier_isOk_iff rfl).mp ⟨identifier, hident⟩
    refine (deterministicIdentifier_isOk_iff rfl).mpr ⟨cons_ne_nil _ _, ?_⟩
    have hoth : pyStrip other.value ≠ "" := by cases other <;> decide
    simp only [forall_mem_cons, not_mem_nil, IsEmpty.forall_iff, implies_true, and_true] at hparts ⊢
    exact ⟨hparts.1, hparts.2.1, hparts.2.2.1, hoth⟩
  have hfld : identifierErrors "link_id" .traceLink identifier' = [] :=
    identifierErrors_of_valid (validateIdentifier_of_deterministic hident')
  refine ⟨_, bind_eq_ok.mpr ⟨identifier', hident', bind_eq_ok.mpr ⟨(), ?_, rfl⟩⟩⟩
  have herrs := not_not.mp (raiseIf_eq_ok.mp herrs)
  refine raiseIf_eq_ok.mpr (not_not.mpr ?_)
  rw [errors_eq_nil, fieldErrors, append_eq_nil_iff, append_eq_nil_iff] at herrs ⊢
  exact ⟨⟨⟨hfld, herrs.1.1.2⟩, herrs.1.2⟩, herrs.2⟩

/-- **Which links there are does not depend on the authority.** -/
theorem linksFromRequirement_authority (h : linksFromRequirement sha authority record = .ok links)
    (other : TraceabilityAuthority) :
    ∃ links', linksFromRequirement sha other record = .ok links' ∧
      links'.map TraceabilityLink.triple = links.map TraceabilityLink.triple := by
  have hrounds : ∀ triple ∈ record.1.triples, ∃ link, TraceabilityLink.create sha
      record.1.requirementId triple.1 triple.2.1 triple.2.2 authority [] = .ok link :=
    mapM_isOk_iff.mp ⟨links, h⟩
  obtain ⟨links', hlks'⟩ : ∃ links', linksFromRequirement sha other record = .ok links' := by
    refine mapM_isOk_iff.mpr fun triple htriple => ?_
    obtain ⟨link, hlink⟩ := hrounds triple htriple
    exact TraceabilityLink.create_authority hlink other
  refine ⟨links', hlks', ?_⟩
  rw [(linksFromRequirement_eq_ok hlks').1, (linksFromRequirement_eq_ok h).1]

/-! ### The invariant -/

/-- The links of every requirement are those of its record, with one authority, and every link has
its requirement. -/
structure RequirementDb.Mirrors (sha : Sha256) (db : RequirementDb) : Prop where
  links : ∀ id row, db.requirements.find? id = some row → ∃ authority links,
    linksFromRequirement sha authority row.record = .ok links ∧
      ∀ link, link ∈ db.links.rows ∧ link.requirementId = id ↔ link ∈ links
  owned : ∀ link ∈ db.links.rows, ∃ row, db.requirements.find? link.requirementId = some row

theorem RequirementDb.mirrors_empty : Mirrors sha {} := by
  refine ⟨fun id row hfind => ?_, fun link hlink => ?_⟩
  · exact absurd (Table.find?_eq_some_iff.mp hfind).1 not_mem_nil
  · exact absurd hlink not_mem_nil

/-- The links of a catalogue. -/
theorem mem_catalogueLinks {records : List RequirementRecord} {links : List (List TraceabilityLink)}
    (h : records.mapM (linksFromRequirement sha .authoritativeCatalog) = .ok links) :
    (∀ link ∈ links.flatten, (catalogued records link.requirementId).isSome = true) ∧
    ∀ id item, catalogued records id = some item →
      (records.map fun item => item.1.requirementId).Nodup →
      ∃ own, linksFromRequirement sha .authoritativeCatalog item = .ok own ∧
        ∀ link, link ∈ links.flatten ∧ link.requirementId = id ↔ link ∈ own := by
  have hrounds := mapM_eq_ok h
  clear h
  induction hrounds with
  | nil =>
    refine ⟨fun link hlink => absurd hlink not_mem_nil, fun id item hitem => ?_⟩
    simp [catalogued] at hitem
  | @cons item own records links hown _ ih =>
    obtain ⟨-, hids⟩ := linksFromRequirement_eq_ok hown
    refine ⟨fun link hlink => ?_, fun id other hoth hnd => ?_⟩
    · rw [catalogued_cons]
      split
      · rfl
      · rename_i hne
        rw [flatten_cons, mem_append] at hlink
        rcases hlink with hlink | hlink
        · exact absurd (hids link hlink).1.symm hne
        · exact ih.1 link hlink
    · rw [map_cons, nodup_cons] at hnd
      rw [catalogued_cons] at hoth
      split at hoth
      · rename_i hid
        cases hoth
        refine ⟨own, hown, fun link => ?_⟩
        rw [flatten_cons, mem_append]
        constructor
        · rintro ⟨hlink | hlink, hlinkId⟩
          · exact hlink
          · -- A link of another requirement has another identifier.
            have hsome := ih.1 link hlink
            rw [hlinkId, catalogued_eq_none_iff.mpr (hid ▸ hnd.1)] at hsome
            cases hsome
        · intro hlink
          exact ⟨.inl hlink, (hids link hlink).1.trans hid⟩
      · rename_i hid
        obtain ⟨own', hown', hmembers⟩ := ih.2 id other hoth hnd.2
        refine ⟨own', hown', fun link => ?_⟩
        rw [← hmembers, flatten_cons, mem_append]
        refine and_congr_left fun hlinkId => or_iff_right fun hlink => ?_
        exact hid ((hids link hlink).1.symm.trans hlinkId)

/-- **A call keeps the links.** -/
theorem RequirementDb.Mirrors.step {db db' : RequirementDb} {call : RequirementCall}
    (hinv : db.Mirrors sha) (hstep : db.Step sha call db') : db'.Mirrors sha := by
  cases hstep with
  | kept hreqs hlks =>
    refine ⟨?_, ?_⟩
    · rw [hreqs, hlks]
      exact hinv.links
    · rw [hreqs, hlks]
      exact hinv.owned
  | @imported records _ _ now links _ hnd hmade hreqs hlks =>
    obtain ⟨hsome, hown⟩ := mem_catalogueLinks hmade
    -- No link is left over: those that stay have no requirement.
    have hmembers : ∀ link, link ∈ db'.links.rows ↔ link ∈ links.flatten := by
      intro link
      refine (hlks link).trans (or_iff_left ?_)
      rintro ⟨hlink, -, hnone⟩
      obtain ⟨row, hrow⟩ := hinv.owned link hlink
      rw [hnone] at hrow
      cases hrow
    refine ⟨fun id row hfind => ?_, fun link hlink => ?_⟩
    · rw [hreqs, Option.map_eq_some_iff] at hfind
      obtain ⟨item, hitem, rfl⟩ := hfind
      obtain ⟨own, hown, hlks⟩ := hown id item hitem hnd
      rw [importedRow_record]
      refine ⟨_, own, hown, fun link => ?_⟩
      rw [hmembers]
      exact hlks link
    · obtain ⟨item, hitem⟩ := Option.isSome_iff_exists.mp (hsome link ((hmembers link).mp hlink))
      rw [hreqs, hitem]
      exact ⟨_, rfl⟩
  | @rewritten mutation now row updated links _ hfd hrev hsame hmade hreqs hlks =>
    obtain ⟨-, hids⟩ := linksFromRequirement_eq_ok hmade
    have hfind := find?_rewritten hfd hsame (row.revision + 1) now
    rw [← hreqs] at hfind
    refine ⟨fun id row' hrow' => ?_, fun link hlink => ?_⟩
    · rw [hfind] at hrow'
      split at hrow'
      · rename_i hid
        cases hrow'
        refine ⟨_, links, hmade, fun link => ?_⟩
        rw [hlks]
        constructor
        · rintro ⟨hlink | ⟨-, hne⟩, hlinkId⟩
          · exact hlink
          · exact absurd (hlinkId.trans hid.symm) hne
        · intro hlink
          exact ⟨.inl hlink, (hids link hlink).1.trans (hsame.trans hid)⟩
      · rename_i hid
        obtain ⟨authority, own, hown, hmembers⟩ := hinv.links id row' hrow'
        refine ⟨authority, own, hown, fun link => ?_⟩
        rw [← hmembers, hlks]
        refine and_congr_left fun hlinkId => ?_
        constructor
        · rintro (hlink | ⟨hlink, -⟩)
          · exact absurd (hsame.symm.trans ((hids link hlink).1.symm.trans hlinkId)) hid
          · exact hlink
        · intro hlink
          exact .inr ⟨hlink, fun h => hid (h.symm.trans hlinkId)⟩
    · rw [hfind]
      split
      · exact ⟨_, rfl⟩
      rename_i hne
      rcases (hlks link).mp hlink with hlink | ⟨hlink, -⟩
      · exact absurd (hsame.symm.trans (hids link hlink).1.symm) hne
      · exact hinv.owned link hlink

theorem RequirementDb.mirrors_runCalls (sha : Sha256) (calls : List RequirementCall) :
    (runCalls (RequirementCall.step sha) {} calls).Mirrors sha :=
  Along.invariant (fun h _ => h.step (RequirementCall.step_spec sha _ _))
    (Along.of_mem (fun _ _ => trivial) _) mirrors_empty

/-! ### Runs of calls -/

/-- **The links mirror the requirements.** After any calls, returning or raising, the links of a
stored requirement are those `links_from_requirement` makes of its record, with whichever authority
it is asked for them, the stored ones have one authority, and no link is without its requirement. -/
theorem links_mirror_requirements (sha : Sha256) (calls : List RequirementCall) :
    let db := runCalls (RequirementCall.step sha) {} calls
    (∀ id row, db.requirements.find? id = some row →
      (∀ authority, ∃ links, linksFromRequirement sha authority row.record = .ok links ∧
        ∀ triple, (∃ link ∈ db.links.rows, link.requirementId = id ∧ link.triple = triple) ↔
          ∃ link ∈ links, link.triple = triple) ∧
      ∃ authority, ∀ link ∈ db.links.rows, link.requirementId = id → link.authority = authority) ∧
    ∀ link ∈ db.links.rows, ∃ row, db.requirements.find? link.requirementId = some row := by
  intro db
  have hinv : db.Mirrors sha := mirrors_runCalls sha calls
  refine ⟨fun id row hfind => ?_, hinv.owned⟩
  obtain ⟨authority, own, hown, hmembers⟩ := hinv.links id row hfind
  refine ⟨fun other => ?_, authority, fun link hlink hid => ?_⟩
  · obtain ⟨links, hlks, htriples⟩ := linksFromRequirement_authority hown other
    refine ⟨links, hlks, fun triple => ?_⟩
    rw [← mem_map, htriples, mem_map]
    constructor
    · rintro ⟨link, hlink, hid, htriple⟩
      exact ⟨link, (hmembers link).mp ⟨hlink, hid⟩, htriple⟩
    · rintro ⟨link, hlink, htriple⟩
      obtain ⟨hlink, hid⟩ := (hmembers link).mpr hlink
      exact ⟨link, hlink, hid, htriple⟩
  · exact ((linksFromRequirement_eq_ok hown).2 link ((hmembers link).mp ⟨hlink, hid⟩)).2

end ProjectPipeline
