import ProjectPipeline.JiraDomain

/-!
# Jira Identities

`derive_remote_local_id` (`jira_steward/identity.py`): the local identifier that a remote issue
names, in a field, in its labels or in its description. Different identifiers from one of these
sources, or from two of them, are a conflict.
-/

namespace ProjectPipeline

/-! ### Identifiers in a text -/

/-- `CANONICAL_LOCAL_ID` at the beginning of a text. -/
def matchIssueId (cs : List Char) : Option String :=
  ["EPIC", "STORY", "TASK", "SUBTASK", "BUG", "SPIKE"].findSome? fun kind =>
    let start := ("PP-" ++ kind ++ "-").toList
    let digits := (cs.drop start.length).take 6
    if start.isPrefixOf cs && digits.length == 6 && digits.all digitAlphabet.contains then
      some (String.ofList (start ++ digits))
    else none

variable (env : JiraEnv)

/-- `text.replace("_", "-").upper()`. -/
def normalizeIdText (text : String) : String :=
  env.upper (replaceChar '_' '-' text)

/-- `extract_canonical_local_ids` of one text. Two identifiers in a text do not overlap, so every
position is looked at. -/
def extractCanonicalLocalIds (text : String) : List String :=
  sortedSet ((normalizeIdText env text).toList.tails.filterMap matchIssueId)

/-- A text behind a word, if it begins with that word. -/
def dropWord (word : String) (cs : List Char) : Option (List Char) :=
  if word.toList.isPrefixOf cs then some (cs.drop word.toList.length) else none

/-- `\s*LOCAL\s+ID\s*:\s*(PP-…)` at the beginning of a text. -/
def matchExplicitLine (cs : List Char) : Option String := do
  let afterLocal ← dropWord "LOCAL" (cs.dropWhile isSpace)
  if (afterLocal.head?.any isSpace) = false then none
  let afterId ← dropWord "ID" (afterLocal.dropWhile isSpace)
  let afterColon ← dropWord ":" (afterId.dropWhile isSpace)
  matchIssueId (afterColon.dropWhile isSpace)

/-- The rest of a text from each of its lines on. -/
def lineStarts : List Char → List (List Char)
  | [] => [[]]
  | cs => cs :: behindNewlines cs
where
  behindNewlines : List Char → List (List Char)
    | [] => []
    | c :: cs => if c = '\n' then cs :: behindNewlines cs else behindNewlines cs

/-- The identifiers that `EXPLICIT_LOCAL_ID_LINE` finds. -/
def explicitLocalIds (description : String) : List String :=
  sortedSet ((lineStarts (normalizeIdText env description).toList).filterMap matchExplicitLine)

/-! ### Derivation -/

inductive IdentityStatus where
  | unique | missing | conflict
  deriving DecidableEq, Repr

structure IdentityDerivation where
  status : IdentityStatus
  localId : Option String
  candidates : List String
  sources : List String
  deriving DecidableEq

def IdentityDerivation.failClosed (derivation : IdentityDerivation) : Bool :=
  derivation.status == .conflict

/-- `LOCAL_ID_LABEL_PREFIX`. -/
def localIdLabelMark : String := "pp-local-id:"

/-- The identifiers of the labels with the mark, and of the labels that are an identifier. -/
def labelIds (labels : List String) : List String × List String :=
  let visible := (labels.map pyStrip).filter (· != "")
  let marked := visible.filter fun text => startsWith (env.casefold text) localIdLabelMark
  let bare := visible.filter fun text => !startsWith (env.casefold text) localIdLabelMark
  (sortedSet (marked.flatMap fun text =>
      extractCanonicalLocalIds env (String.ofList (text.toList.drop localIdLabelMark.length))),
    sortedSet ((bare.map (normalizeIdText env)).filter fun text =>
      fullmatch (IdentifierKind.issue.pattern) text))

def deriveRemoteLocalId (labels : List String) (description : String) (fields : JsonDict)
    (localIdField : Option String) : IdentityDerivation :=
  let fieldIds :=
    match localIdField with
    | none => []
    | some name =>
      if truthy localIdField && (fields.get name).truthy then
        extractCanonicalLocalIds env ((fields.get name).toText env.text)
      else []
  let (prefixIds, exactLabelIds) := labelIds env labels
  let descriptionIds := explicitLocalIds env description
  let candidates : List (String × String) :=
    fieldIds.map (·, "field:" ++ localIdField.getD "") ++
      prefixIds.map (·, "label:pp-local-id") ++ exactLabelIds.map (·, "label") ++
      descriptionIds.map (·, "description:local-id")
  let groups := [fieldIds, prefixIds, descriptionIds, exactLabelIds]
  let uniqueStructured :=
    sortedSet (groups.flatMap fun group => if group.length = 1 then group else [])
  let conflicted := groups.flatMap fun group => if 1 < group.length then group else []
  let unique := sortedSet (candidates.map Prod.fst)
  let sourcesOf (localId : String) : List String :=
    sortedSet ((candidates.filter fun candidate => candidate.1 == localId).map Prod.snd)
  if conflicted ≠ [] ∨ 1 < uniqueStructured.length then
    ⟨.conflict, none, sortedSet (unique ++ conflicted ++ uniqueStructured),
      sortedSet (candidates.map Prod.snd)⟩
  else
    match unique, uniqueStructured with
    | [localId], _ => ⟨.unique, some localId, [localId], sourcesOf localId⟩
    | _, [localId] => ⟨.unique, some localId, [localId], sourcesOf localId⟩
    | _, _ => ⟨.missing, none, [], []⟩

end ProjectPipeline
