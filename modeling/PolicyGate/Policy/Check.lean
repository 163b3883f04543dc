import PolicyGate.Json.Printer
import PolicyGate.Policy.FieldPath
import PolicyGate.Policy.SkuFamily
import PolicyGate.Regex.Pattern

/-!
# Checks

A check tests the value at one path of an action's arguments and says what is wrong with it, if
anything. A path that leads nowhere, or to null, may give way to fallback paths. Every kind of test has
its own idea of a value that is not there; all but `withKeys` without keys find fault with it.
-/

namespace PolicyGate

/-- The kinds of test. -/
inductive CheckKind where
  | matching
  | withoutBlanks
  | among
  | withKeys
  | isTrue
  | present
  | equalTo
  | notEqualTo
deriving DecidableEq, Repr

namespace CheckKind

/-- The name of a kind in documents. -/
def name : CheckKind → String
  | .matching => "regex"
  | .withoutBlanks => "noSpaces"
  | .among => "allowedValues"
  | .withKeys => "requiredTags"
  | .isTrue => "requiredTrue"
  | .present => "requiredPresent"
  | .equalTo => "equals"
  | .notEqualTo => "notEquals"

/-- All kinds. -/
def all : List CheckKind :=
  [.matching, .withoutBlanks, .among, .withKeys, .isTrue, .present, .equalTo, .notEqualTo]

/-- The kind with a given name. -/
def ofName? (s : String) : Option CheckKind := all.find? (·.name == s)

theorem ofName?_name (kind : CheckKind) : ofName? kind.name = some kind := by
  cases kind <;> decide

end CheckKind

/-- What is tested. -/
inductive Test where
  /-- A text in which the pattern is found. -/
  | matching (pattern : Option String) (ignoreCase : Bool)
  /-- Anything but a text with a blank in it. -/
  | withoutBlanks
  /-- A value that reads like one of the given ones, perhaps after normalization. -/
  | among (allowed : List Value) (ignoreCase : Bool) (normalizer : Option String)
  /-- A mapping with all of the given keys. -/
  | withKeys (keys : List String)
  /-- The flag `true`. -/
  | isTrue
  /-- Anything but null and a text of blanks. -/
  | present
  | equalTo (expected : Value)
  | notEqualTo (expected : Value)

/-- The test of a kind, made of those details that the kind uses. -/
def CheckKind.test (kind : CheckKind) (pattern : Option String) (ignoreCase : Bool)
    (allowed : List Value) (keys : List String) (expected : Value) (normalizer : Option String) :
    Test :=
  match kind with
  | .matching => .matching pattern ignoreCase
  | .withoutBlanks => .withoutBlanks
  | .among => .among allowed ignoreCase normalizer
  | .withKeys => .withKeys keys
  | .isTrue => .isTrue
  | .present => .present
  | .equalTo => .equalTo expected
  | .notEqualTo => .notEqualTo expected

/-- A test of the value at a path, with the words for a violation if it has words of its own. -/
structure Check where
  path : String
  test : Test
  message : Option String := none
  fallbacks : List String := []

/-- Why a check gives no answer. -/
inductive CheckError where
  | index (cause : IndexError)
  | pattern (text : String) (fault : Regex.Fault)
  | unknownNormalizer (name : String)
  /-- The expected value has a key that no JSON text has. -/
  | expectedKey
  /-- A whole number is too long to be written. -/
  | tooManyDigits
deriving DecidableEq, Repr

/-- A text, unless it is empty. -/
def given (text : Option String) : Option String := text.filter fun s => !s.isEmpty

/-- The normalization with a given name. -/
def normalizer? : String → Option (String → String)
  | "planSkuFamily" => some planSkuFamily
  | _ => none

namespace Test

/-- The kind of a test. -/
def kind : Test → CheckKind
  | .matching _ _ => .matching
  | .withoutBlanks => .withoutBlanks
  | .among _ _ _ => .among
  | .withKeys _ => .withKeys
  | .isTrue => .isTrue
  | .present => .present
  | .equalTo _ => .equalTo
  | .notEqualTo _ => .notEqualTo

/-- The text of a value for comparison: null and flags as in JSON. -/
def comparisonText (v : Value) : Except CheckError String :=
  match v with
  | .null => .ok "null"
  | .bool b => .ok (if b then "true" else "false")
  | v =>
    match v.text? with
    | some s => .ok s
    | none => .error .tooManyDigits

/-- A text as it enters a comparison. -/
def comparable (ignoreCase : Bool) (normalizer : Option String) (text : String) :
    Except CheckError String := do
  let text ← match given normalizer with
    | none => pure text
    | some name =>
      match normalizer? name with
      | some normalize => pure (normalize text)
      | none => throw (.unknownNormalizer name)
  return if ignoreCase then Text.caseFold text else text

/-- Does the value read like one of the allowed texts? -/
def readsLike (ignoreCase : Bool) (normalizer : Option String) (allowed : List String) (v : Value) :
    Except CheckError Bool := do
  let text ← comparable ignoreCase normalizer (← comparisonText v)
  let texts ← allowed.mapM (comparable ignoreCase normalizer)
  return texts.contains text

/-- Equality of values, except that a flag never equals a number. -/
def agrees (a b : Value) : Bool := a.isFlag == b.isFlag && a.same b

/-- The JSON text of the expected value. -/
def expectedText (v : Value) : Except CheckError String :=
  match Json.write .line v with
  | .ok s => .ok s
  | .error .tooManyDigits => .error .tooManyDigits
  | .error _ => .error .expectedKey

/-- The pattern as a text; without one, the empty text. -/
def patternText (pattern : Option String) : String := pattern.getD ""

/-- Is the pattern found in the value? It is only looked at when the value is a text. -/
def isFound (pattern : Option String) (ignoreCase : Bool) : Option Value → Except CheckError Bool
  | some (.str s) =>
    match Regex.Pattern.compile (patternText pattern) ignoreCase with
    | .ok p => .ok (p.search s)
    | .error fault => .error (.pattern (patternText pattern) fault)
  | _ => .ok false

/-- Does the value that was found, if any, pass the test? -/
def passes (test : Test) (found : Option Value) : Except CheckError Bool :=
  match test with
  | .matching pattern ignoreCase => isFound pattern ignoreCase found
  | .withoutBlanks => .ok <|
    match found with
    | none => false
    | some (.str s) => !s.toList.any Text.isBlank
    | some _ => true
  | .among allowed ignoreCase normalizer => do
    let texts ← allowed.mapM comparisonText
    match found with
    | none => return false
    | some v => readsLike ignoreCase normalizer texts v
  | .withKeys keys =>
    let entries := (found.bind Value.entries?).getD []
    .ok (keys.all fun key => Value.hasKey entries (.str key))
  | .isTrue => .ok <|
    match found with
    | some (.bool true) => true
    | _ => false
  | .present => .ok <|
    match found with
    | none | some .null => false
    | some (.str s) => !s.toList.all Text.isBlank
    | some _ => true
  | .equalTo expected => .ok (found.any (agrees · expected))
  | .notEqualTo expected => .ok (found.any fun v => !agrees v expected)

/-- What a violation is said to be when the check has no words of its own. -/
def complaint (test : Test) (path : String) (found : Option Value) : Except CheckError String :=
  let field := "Field '" ++ path ++ "' "
  match test with
  | .matching pattern _ => .ok (field ++ "must match " ++ pattern.getD "None")
  | .withoutBlanks =>
    .ok (field ++ (if found.isNone then "is required" else "must not contain spaces"))
  | .among allowed _ _ => do
    let texts ← allowed.mapM comparisonText
    return field ++ "must be one of: " ++ String.intercalate ", " texts
  | .withKeys keys =>
    let entries := (found.bind Value.entries?).getD []
    let missing := keys.filter fun key => !Value.hasKey entries (.str key)
    .ok ("Missing required tags: " ++ String.intercalate ", " missing)
  | .isTrue => .ok (field ++ "must be true")
  | .present => .ok (field ++ "is required")
  | .equalTo expected => (expectedText expected).map (field ++ "must equal " ++ ·)
  | .notEqualTo expected => (expectedText expected).map (field ++ "must not equal " ++ ·)

/-- The fields of a test in its written form. -/
def fields : Test → List (String × Value)
  | .matching pattern ignoreCase =>
    ("pattern", (pattern.map Value.str).getD .null) ::
      (if ignoreCase then [("ignore_case", .bool true)] else [])
  | .among allowed ignoreCase normalizer =>
    ("values", .list allowed) ::
      ((if ignoreCase then [("ignore_case", .bool true)] else []) ++
        (match given normalizer with
          | some name => [("normalize", .str name)]
          | none => []))
  | .withKeys keys => [("keys", .list (keys.map .str))]
  | .equalTo expected | .notEqualTo expected => [("value", expected)]
  | .withoutBlanks | .isTrue | .present => []

end Test

namespace Check

/-- The value a check looks at: null and nothing give way to the next path that leads somewhere. -/
def resolve (args : Value) (check : Check) : Except CheckError (Option Value) := do
  let first ← find check.path
  check.fallbacks.foldlM (fun found path => do
    match found with
    | none | some .null =>
      match ← find path with
      | none => return found
      | some v => return some v
    | some v => return some v) first
where
  /-- The value at a path. -/
  find (path : String) : Except CheckError (Option Value) :=
    (FieldPath.resolve args path).mapError CheckError.index

/-- What is wrong with the value that was found; nothing if it passes. -/
def violationOf (check : Check) (found : Option Value) : Except CheckError (Option String) := do
  if ← check.test.passes found then return none
  match given check.message with
  | some message => return some message
  | none => return some (← check.test.complaint check.path found)

/-- What the check finds wrong with the arguments of an action; nothing if they pass. -/
def violation (args : Value) (check : Check) : Except CheckError (Option String) := do
  check.violationOf (← check.resolve args)

/-- The written form of a check. -/
def toValue (check : Check) : Value :=
  .record <| [("type", .str check.test.kind.name), ("path", .str check.path)] ++ check.test.fields
    ++ (if check.fallbacks.isEmpty then [] else [("fallback_paths", .list (check.fallbacks.map .str))])
    ++ (match given check.message with
      | some message => [("message", .str message)]
      | none => [])

end Check
end PolicyGate
