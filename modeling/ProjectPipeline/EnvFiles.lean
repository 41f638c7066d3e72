import ProjectPipeline.MigrationCatalog

/-!
# Environment Files

`parse_env_file` and `parse_selected_env_file` (`configuration/loader.py`) read the entries of an
environment file, all of them or those of some keys. The first splits the text with
`str.splitlines`, the second reads the lines of the stream, which only line feeds end. They agree
on files without other line breaks (`parseSelectedEnvFile_eq`), and a form feed tells them apart
(`form_feed_splits`).
-/

namespace ProjectPipeline

/-- What reading in text mode makes of the ends of lines. -/
def universalNewlines : List Char → List Char
  | [] => []
  | '\r' :: '\n' :: rest => '\n' :: universalNewlines rest
  | c :: rest => (if c = '\r' then '\n' else c) :: universalNewlines rest

/-- The lines of a stream, behind the reversed beginning of the first. -/
def streamLines : List Char → List Char → List String
  | [], [] => []
  | line, [] => [String.ofList line.reverse]
  | line, c :: rest =>
    if c = '\n' then String.ofList line.reverse :: streamLines [] rest
    else streamLines (c :: line) rest

/-- A value without the quotes around it. -/
def unquoted (value : String) : String :=
  match value.toList with
  | first :: second :: rest =>
    if (second :: rest).getLast? = some first ∧ first ∈ "\"'".toList then
      String.ofList (second :: rest).dropLast
    else value
  | _ => value

def configurationError (message : String) : PyError := .raised "ConfigurationError" message

section

variable (keeps : String → Bool) (path : String)

/-- The key of a line and what follows the sign, if the line has an entry. -/
def envEntry (number : ℕ) (raw : String) : Except PyError (Option (String × String)) :=
  let line := pyStrip raw
  let place := path ++ ":" ++ toString number
  if line = "" ∨ startsWith line "#" then .ok none
  else
    match line.toList.span (· ≠ '=') with
    | (_, []) => .error (configurationError ("invalid environment file entry at " ++ place))
    | (key, _ :: remainder) =>
      if pyStrip (String.ofList key) = "" then
        .error (configurationError ("empty environment key at " ++ place))
      else .ok (some (pyStrip (String.ofList key), String.ofList remainder))

/-- The values after the lines from a number on, of the keys that are kept. -/
def envValues : ℕ → List String → (String → Option String) →
    Except PyError (String → Option String)
  | _, [], values => .ok values
  | number, raw :: rest, values => do
    match ← envEntry path number raw with
    | none => envValues (number + 1) rest values
    | some (key, remainder) =>
      if keeps key then
        envValues (number + 1) rest
          (Function.update values key (some (unquoted (pyStrip remainder))))
      else envValues (number + 1) rest values

end

section

variable (path : String) (file : Option String)

/-- `parse_env_file`, of the content of the file if it exists. -/
def parseEnvFile :
    Except PyError (String → Option String) :=
  match file with
  | none => .ok fun _ => none
  | some content =>
    let text := String.ofList (universalNewlines content.toList)
    envValues (fun _ => true) path 1 (pySplitlines text) fun _ => none

/-- `parse_selected_env_file`. -/
def parseSelectedEnvFile (keys : List String) :
    Except PyError (String → Option String) :=
  let selected := keys.map pyStrip
  if selected = [] ∨ "" ∈ selected then
    .error (configurationError "selected environment keys must be non-empty")
  else
    match file with
    | none => .ok fun _ => none
    | some content =>
      envValues (· ∈ selected) path 1 (streamLines [] (universalNewlines content.toList))
        fun _ => none

theorem linesFrom_eq_streamLines {text : List Char} (h : ∀ c ∈ text, isLineBreak c → c = '\n')
    (line : List Char) : linesFrom line text = streamLines line text := by
  induction text generalizing line with
  | nil => cases line <;> rfl
  | cons c rest ih =>
    have hrest := ih fun d hd => h d (List.mem_cons_of_mem _ hd)
    have hcr : c ≠ '\r' := by
      rintro rfl
      exact absurd (h _ List.mem_cons_self rfl) (by decide)
    by_cases hc : c = '\n'
    · subst hc
      simp [linesFrom, streamLines, hrest, isLineBreak]
    · have hbreak : ¬ isLineBreak c := fun hbreak => hc (h c List.mem_cons_self hbreak)
      simp [linesFrom, streamLines, hbreak, hc, hcr, hrest]

theorem mem_universalNewlines {text : List Char} {c : Char} (h : c ∈ universalNewlines text) :
    c = '\n' ∨ c ∈ text ∧ c ≠ '\r' := by
  fun_induction universalNewlines text with
  | case1 => cases h
  | case2 rest ih => grind
  | case3 first rest hcrlf ih => grind

/-- Keeping some keys is keeping all and restricting the result. -/
theorem envValues_eq_map (keeps : String → Bool) (path : String) (number : ℕ) (lines : List String)
    (values : String → Option String) :
    envValues keeps path number lines (fun key => if keeps key then values key else none) =
      (envValues (fun _ => true) path number lines values).map
        fun values key => if keeps key then values key else none := by
  induction lines generalizing number values with
  | nil => rfl
  | cons raw rest ih =>
    rw [envValues, envValues]
    cases envEntry path number raw with
    | error => rfl
    | ok entry =>
      cases entry with
      | none => exact ih _ _
      | some entry =>
        change (if keeps entry.1 then _ else _) = Except.map _ (envValues _ path _ rest _)
        rw [← ih]
        split
        all_goals
          congr 1
          funext key
          by_cases hkey : key = entry.1 <;> simp_all [Function.update]

/-- **The selective parser agrees with the full one** if only line feeds and carriage returns break
the lines of the file. -/
theorem parseSelectedEnvFile_eq {keys : List String} (hkeys : keys ≠ [])
    (hblank : ∀ key ∈ keys, pyStrip key ≠ "")
    (hbreaks : ∀ content ∈ file, ∀ c ∈ content.toList, isLineBreak c → c = '\n' ∨ c = '\r') :
    parseSelectedEnvFile path file keys = (parseEnvFile path file).map
      fun values key => if key ∈ keys.map pyStrip then values key else none := by
  have hselected : ¬ (keys.map pyStrip = [] ∨ "" ∈ keys.map pyStrip) := by
    simpa [hkeys] using hblank
  simp only [parseSelectedEnvFile, if_neg hselected]
  cases file with
  | none => simp [parseEnvFile, Except.map]
  | some content =>
    have hlines : pySplitlines (String.ofList (universalNewlines content.toList)) =
        streamLines [] (universalNewlines content.toList) := by
      rw [pySplitlines, String.toList_ofList]
      refine linesFrom_eq_streamLines (fun c hc hbreak => ?_) []
      obtain hc | ⟨hc, hcr⟩ := mem_universalNewlines hc
      · exact hc
      · exact (hbreaks content rfl c hc hbreak).resolve_right hcr
    have hmap := envValues_eq_map (· ∈ keys.map pyStrip) path 1
      (streamLines [] (universalNewlines content.toList)) fun _ => none
    simpa [parseEnvFile, hlines] using hmap

end

theorem parseSelectedEnvFile_eq_one :
    parseSelectedEnvFile ".env" (some "A=1\r\nB=2") [" A "] =
      (parseEnvFile ".env" (some "A=1\r\nB=2")).map
        fun values key => if key ∈ [" A "].map pyStrip then values key else none :=
  parseSelectedEnvFile_eq ".env" _ (by decide) (by decide +kernel) (by simp [isLineBreak])

/-- The full parser ends the line at a form feed, the selective one does not. -/
theorem form_feed_splits :
    (parseEnvFile ".env" (some "A=1\x0cB=2")).map (· "A") = .ok (some "1") ∧
      (parseSelectedEnvFile ".env" (some "A=1\x0cB=2") ["A"]).map (· "A") =
        .ok (some "1\x0cB=2") := by
  decide +kernel

end ProjectPipeline
