import ProjectPipeline.Python

/-!
# JSON Values

Values as `json.loads` returns them, with the operations of Python that the program applies to
fields it has not validated: the truth of a value, `str`, `int`, `==` and `json.dumps`.

A `float` is the rational number that it is. How the library writes floats and containers, and
which texts `int` accepts, are parameters (`PyText`). Keys of an object are distinct.
-/

namespace ProjectPipeline

inductive JsonValue where
  | null
  | bool (value : Bool)
  | int (value : ℤ)
  | float (value : ℚ)
  | str (value : String)
  | arr (items : List JsonValue)
  | obj (fields : List (String × JsonValue))

/-- A `dict` with texts as keys. -/
abbrev JsonDict := List (String × JsonValue)

/-- The texts that the library makes of floats and containers, and the texts that it reads as
integers. -/
structure PyText where
  reprFloat : ℚ → String
  reprContainer : JsonValue → String
  parseInt : String → Option ℤ

/-- Texts for concrete runs, in which floats and containers are not written out. -/
def PyText.plain : PyText where
  reprFloat _ := "0.0"
  reprContainer _ := "[]"
  parseInt text := (readDigits text).map Int.ofNat

namespace JsonValue

/-- `bool(value)`. -/
def truthy : JsonValue → Bool
  | null => false
  | bool value => value
  | int value => value != 0
  | float value => value != 0
  | str value => value != ""
  | arr items => !items.isEmpty
  | obj fields => !fields.isEmpty

/-- `str(value)`. -/
def toText (text : PyText) : JsonValue → String
  | null => "None"
  | bool true => "True"
  | bool false => "False"
  | int value => toString value
  | float value => text.reprFloat value
  | str value => value
  | value => text.reprContainer value

/-- `int(value)`. -/
def toInt (text : PyText) : JsonValue → Except PyError ℤ
  | bool value => .ok (if value then 1 else 0)
  | int value => .ok value
  | float value => .ok (value.num.tdiv value.den)
  | str value =>
    match text.parseInt value with
    | some number => .ok number
    | none => .error (.valueError "invalid literal for int() with base 10")
  | _ => .error (.raised "TypeError" "int() argument must be a string or a real number")

/-- The number that a value is compared as. -/
def number : JsonValue → Option ℚ
  | bool value => some (if value then 1 else 0)
  | int value => some value
  | float value => some value
  | _ => none

mutual

/-- `a == b`. -/
def pyEq : JsonValue → JsonValue → Bool
  | null, null => true
  | str a, str b => a == b
  | arr a, arr b => itemsEq a b
  | obj a, obj b => a.length == b.length && fieldsEq a b
  | a, b =>
    match a.number, b.number with
    | some x, some y => x == y
    | _, _ => false

/-- `a == b` on lists. -/
def itemsEq : List JsonValue → List JsonValue → Bool
  | [], [] => true
  | a :: as, b :: bs => pyEq a b && itemsEq as bs
  | _, _ => false

/-- Every field has an equal field in the other `dict`. -/
def fieldsEq : List (String × JsonValue) → List (String × JsonValue) → Bool
  | [], _ => true
  | (key, value) :: rest, other =>
    (match other.lookup key with
      | some value' => pyEq value value'
      | none => false) && fieldsEq rest other

end

/-! ### Dumps -/

/-- `\uXXXX`. -/
def asciiEscape (n : ℕ) : String :=
  "\\u" ++ String.ofList [hexDigit (n / 4096), hexDigit (n / 256), hexDigit (n / 16), hexDigit n]

/-- One code point of a JSON string, as `json.dumps` writes it by default. -/
def asciiChar (c : Char) : String :=
  if c.toNat < 127 then jsonChar c
  else if c.toNat < 65536 then asciiEscape c.toNat
  else
    asciiEscape (55296 + (c.toNat - 65536) / 1024) ++ asciiEscape (56320 + (c.toNat - 65536) % 1024)

/-- The JSON string of a text in ASCII. -/
def asciiString (s : String) : String :=
  "\"" ++ String.join (s.toList.map asciiChar) ++ "\""

mutual

/-- `json.dumps(value, sort_keys=True, separators=(comma, colon))`. -/
def dumpsWith (text : PyText) (comma colon : String) : JsonValue → String
  | null => "null"
  | bool true => "true"
  | bool false => "false"
  | int value => toString value
  | float value => text.reprFloat value
  | str value => asciiString value
  | arr items => "[" ++ pyJoin comma (dumpItems text comma colon items) ++ "]"
  | obj fields =>
    "\x7b" ++ pyJoin comma
      (((dumpFields text comma colon fields).insertionSort fun a b => textLe a.1 b.1).map
        fun field => asciiString field.1 ++ colon ++ field.2) ++ "\x7d"

/-- The dumps of the items of a list. -/
def dumpItems (text : PyText) (comma colon : String) : List JsonValue → List String
  | [] => []
  | item :: items => dumpsWith text comma colon item :: dumpItems text comma colon items

/-- The keys of an object with the dumps of their values. -/
def dumpFields (text : PyText) (comma colon : String) :
    List (String × JsonValue) → List (String × String)
  | [] => []
  | (key, value) :: fields =>
    (key, dumpsWith text comma colon value) :: dumpFields text comma colon fields

end

/-- `json.dumps(value, sort_keys=True)`. -/
def dumps (text : PyText) (value : JsonValue) : String := value.dumpsWith text ", " ": "

mutual

/-- `json.dumps(value, sort_keys=True, separators=(comma, colon), ensure_ascii=False)`. -/
def dumpsText (text : PyText) (comma colon : String) : JsonValue → String
  | null => "null"
  | bool true => "true"
  | bool false => "false"
  | int value => toString value
  | float value => text.reprFloat value
  | str value => jsonString value
  | arr items => "[" ++ pyJoin comma (dumpTextItems text comma colon items) ++ "]"
  | obj fields =>
    "\x7b" ++ pyJoin comma
      (((dumpTextFields text comma colon fields).insertionSort fun a b => textLe a.1 b.1).map
        fun field => jsonString field.1 ++ colon ++ field.2) ++ "\x7d"

/-- The texts of the items of a list. -/
def dumpTextItems (text : PyText) (comma colon : String) : List JsonValue → List String
  | [] => []
  | item :: items => dumpsText text comma colon item :: dumpTextItems text comma colon items

/-- The keys of an object with the texts of their values. -/
def dumpTextFields (text : PyText) (comma colon : String) :
    List (String × JsonValue) → List (String × String)
  | [] => []
  | (key, value) :: fields =>
    (key, dumpsText text comma colon value) :: dumpTextFields text comma colon fields

end

def texts (values : List String) : JsonValue := .arr (values.map .str)

def optText : Option String → JsonValue
  | none => .null
  | some value => .str value

end JsonValue

namespace JsonDict

section

variable (fields : JsonDict) (key : String)

/-- `fields[key]`. -/
def getItem : Except PyError JsonValue :=
  match fields.lookup key with
  | some value => .ok value
  | none => .error (.keyError key)

/-- `fields.get(key)`. -/
def get : JsonValue := (fields.lookup key).getD .null

section

variable (text : PyText) (fields : JsonDict) (key : String)

/-- `str(fields.get(key) or "")`. -/
def getText : String :=
  if (get fields key).truthy then (get fields key).toText text else ""

/-- `str(fields[key])`. -/
def getItemText : Except PyError String :=
  (getItem fields key).map (JsonValue.toText text)

end

/-- `fields.pop(key, None)`. -/
def pop : JsonDict :=
  fields.filter fun field => field.1 != key

/-- `fields[key] = value`. -/
def set (value : JsonValue) : JsonDict :=
  if (fields.lookup key).isSome then
    fields.map fun field => if field.1 = key then (key, value) else field
  else fields ++ [(key, value)]

end

/-- `a == b`. -/
def pyEq (a b : JsonDict) : Bool := (JsonValue.obj a).pyEq (.obj b)

/-- `json.dumps(fields, sort_keys=True)`. -/
def dumps (text : PyText) (fields : JsonDict) : String := (JsonValue.obj fields).dumps text

end JsonDict

namespace JsonValue

/-- `type(value).__name__`. -/
def typeName : JsonValue → String
  | null => "NoneType"
  | bool _ => "bool"
  | int _ => "int"
  | float _ => "float"
  | str _ => "str"
  | arr _ => "list"
  | obj _ => "dict"

/-- The items of `for item in value`. -/
def iterate : JsonValue → Except PyError (List JsonValue)
  | arr items => .ok items
  | obj fields => .ok (fields.map fun field => .str field.1)
  | str value => .ok (value.toList.map fun c => .str (String.singleton c))
  | value => .error (.raised "TypeError" ("'" ++ value.typeName ++ "' object is not iterable"))

/-- `value[key]` for a text `key`. -/
def getField (key : String) : JsonValue → Except PyError JsonValue
  | obj fields => JsonDict.getItem fields key
  | str _ => .error (.raised "TypeError" "string indices must be integers, not 'str'")
  | arr _ => .error (.raised "TypeError" "list indices must be integers or slices, not str")
  | value => .error (.raised "TypeError" ("'" ++ value.typeName ++ "' object is not subscriptable"))

end JsonValue

namespace JsonDict

/-- A field has a text exactly if it is there. -/
theorem getItemText_isOk_iff (text : PyText) {fields : JsonDict} {key : String} :
    (∃ value, getItemText text fields key = .ok value) ↔ (fields.lookup key).isSome = true := by
  rw [getItemText, getItem]
  cases fields.lookup key with
  | none => exact ⟨nofun, nofun⟩
  | some => exact ⟨fun _ => rfl, fun _ => ⟨_, rfl⟩⟩

variable (fields : JsonDict) (key key' : String) (value : JsonValue)

theorem lookup_cons :
    List.lookup key' ((key, value) :: fields) =
      if key' = key then some value else fields.lookup key' := by
  rw [List.lookup_cons]
  by_cases hkey : key' = key
  · rw [if_pos hkey, beq_iff_eq.mpr hkey]
  · rw [if_neg hkey, beq_eq_false_iff_ne.mpr hkey]

/-- The fields after an assignment to a key that is there. -/
theorem lookup_map_set :
    List.lookup key' (fields.map fun field => if field.1 = key then (key, value) else field) =
      if key' = key then (fields.lookup key).map fun _ => value else fields.lookup key' := by
  induction fields with
  | nil => simp
  | cons field _ ih =>
    obtain ⟨name, old⟩ := field
    rw [List.map_cons]
    by_cases hname : name = key
    · subst hname
      rw [if_pos rfl, lookup_cons, lookup_cons, lookup_cons, ih, if_pos rfl]
      by_cases hkey : key' = name
      · rw [if_pos hkey, if_pos hkey, Option.map_some]
      · rw [if_neg hkey, if_neg hkey, if_neg hkey, if_neg hkey]
    · rw [if_neg hname, lookup_cons, lookup_cons, lookup_cons, ih, if_neg (Ne.symm hname)]
      by_cases hkey : key' = key
      · subst hkey
        rw [if_neg (Ne.symm hname), if_pos rfl, if_pos rfl]
      · rw [if_neg hkey, if_neg hkey]

/-- The fields after an assignment. -/
theorem lookup_set :
    (set fields key value).lookup key' = if key' = key then some value else fields.lookup key' := by
  rw [set]
  cases hold : fields.lookup key with
  | some => rw [Option.isSome_some, if_pos rfl, lookup_map_set, hold, Option.map_some]
  | none =>
    rw [Option.isSome_none, if_neg Bool.false_ne_true, List.lookup_append, lookup_cons]
    by_cases hkey : key' = key
    · rw [if_pos hkey, if_pos hkey, hkey, hold, Option.none_or]
    · rw [if_neg hkey, if_neg hkey, List.lookup_nil, Option.or_none]

end JsonDict

end ProjectPipeline
