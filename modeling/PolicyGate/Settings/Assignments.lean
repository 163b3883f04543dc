import PolicyGate.Text.Blank

/-!
# Files of assignments

A file of assignments gives values to names, one assignment a line: a name, an equals sign and a value.
A line may start with the word `export`, and a hash starts a comment. A quoted value may run over
several lines, and a few characters may be escaped in it. A line that cannot be read is skipped. In any
value, `$` and a name in braces stand for the value of the name, which is an earlier assignment or a
variable of the environment.
-/

namespace PolicyGate.Assignments

/-- The name and the value of an assignment. A name without an equals sign has no value. -/
abbrev Assignment := String × Option String

/-- Does the character separate words of one line? -/
def isInlineBlank (c : Char) : Bool := Text.isBlank c && c != '\n'

/-- The characters behind the word `export`, if it stands alone. -/
def skipExport (cs : List Char) : List Char :=
  match cs with
  | 'e' :: 'x' :: 'p' :: 'o' :: 'r' :: 't' :: c :: rest =>
    if isInlineBlank c then rest.dropWhile isInlineBlank else cs
  | _ => cs

/-- The name at the start of a line and what follows it. A comment has no name; where no name can be
read, nothing is. -/
def name? (cs : List Char) : Option (Option String × List Char) :=
  match cs with
  | '#' :: _ => some (none, cs)
  | '\'' :: rest =>
    let name := rest.takeWhile (· ≠ '\'')
    match rest.dropWhile (· ≠ '\'') with
    | _ :: after => if name.isEmpty then none else some (some (String.ofList name), after)
    | [] => none
  | _ =>
    let isPart (c : Char) : Bool := c != '=' && c != '#' && !Text.isBlank c
    let name := cs.takeWhile isPart
    if name.isEmpty then none else some (some (String.ofList name), cs.dropWhile isPart)

/-- The characters up to the closing quote, and what follows it. A quote behind a backslash closes only
if no other one does. -/
def quoted? (quote : Char) : List Char → Option (List Char × List Char)
  | [] => none
  | [c] => if c = quote then some ([], []) else none
  | c :: d :: more =>
    if c = quote then some ([], d :: more)
    else if c = '\\' ∧ d = quote then
      match quoted? quote more with
      | some (body, after) => some (c :: d :: body, after)
      | none => some ([c], more)
    else (quoted? quote (d :: more)).map fun (body, after) => (c :: body, after)

/-- The characters that escapes stand for between single quotes. -/
def singleEscapes : List (Char × Char) := [('\\', '\\'), ('\'', '\'')]

/-- The characters that escapes stand for between double quotes. -/
def doubleEscapes : List (Char × Char) :=
  singleEscapes ++ [('"', '"'), ('a', '\x07'), ('b', '\x08'), ('f', '\x0c'), ('n', '\n'), ('r', '\r'),
    ('t', '\t'), ('v', '\x0b')]

/-- The characters with escapes replaced; a backslash before any other character stays. -/
def unescape (escapes : List (Char × Char)) : List Char → List Char
  | [] => []
  | '\\' :: c :: rest =>
    match escapes.lookup c with
    | some d => d :: unescape escapes rest
    | none => '\\' :: unescape escapes (c :: rest)
  | c :: rest => c :: unescape escapes rest
termination_by cs => cs.length

/-- The characters before the first blanks that a hash follows. -/
def cutComment : List Char → List Char
  | [] => []
  | c :: rest =>
    if Text.isBlank c && (rest.dropWhile Text.isBlank).head? = some '#' then []
    else c :: cutComment rest

/-- The characters without the blanks at the end. -/
def trimEnd (cs : List Char) : List Char := (cs.reverse.dropWhile Text.isBlank).reverse

/-- The value at the start of the characters and what follows it. -/
def value? (cs : List Char) : Option (List Char × List Char) :=
  match cs with
  | '\'' :: rest => (quoted? '\'' rest).map fun (body, after) => (unescape singleEscapes body, after)
  | '"' :: rest => (quoted? '"' rest).map fun (body, after) => (unescape doubleEscapes body, after)
  | _ => some (trimEnd (cutComment (cs.takeWhile (· ≠ '\n'))), cs.dropWhile (· ≠ '\n'))

/-- The characters behind the end of the line. -/
def skipLine (cs : List Char) : List Char := (cs.dropWhile (· ≠ '\n')).tail

/-- The characters behind blanks, a comment and the end of the line; nothing if the line goes on. -/
def lineEnd? (cs : List Char) : Option (List Char) :=
  match cs.dropWhile isInlineBlank with
  | [] => some []
  | '#' :: rest => some (skipLine rest)
  | '\n' :: rest => some rest
  | _ => none

/-- The assignment of a line, if there is one, and the lines behind it. -/
def line (cs : List Char) : Option Assignment × List Char :=
  let start := skipExport cs
  match name? start with
  | none => (none, skipLine start)
  | some (name, afterName) =>
    match afterName.dropWhile isInlineBlank with
    | '=' :: rest =>
      let rest := rest.dropWhile isInlineBlank
      match value? rest with
      | none => (none, skipLine rest)
      | some (value, afterValue) =>
        match lineEnd? afterValue with
        | some lines => (name.map fun n => (n, some (String.ofList value)), lines)
        | none => (none, skipLine afterValue)
    | rest =>
      match lineEnd? rest with
      | some lines => (name.map fun n => (n, none), lines)
      | none => (none, skipLine rest)

/-- The assignments of at most so many lines. -/
def lines : Nat → List Char → List Assignment
  | 0, _ => []
  | fuel + 1, cs =>
    match cs.dropWhile Text.isBlank with
    | [] => []
    | start =>
      let (found, rest) := line start
      found.toList ++ lines fuel rest

/-- The variables with the value of one of them changed; a new one comes last. -/
def assign (vars : List Assignment) (name : String) (value : Option String) : List Assignment :=
  match vars with
  | [] => [(name, value)]
  | (n, v) :: rest => if n = name then (n, value) :: rest else (n, v) :: assign rest name value

/-- A reference at the start of the characters: the name, the value if it has none, and what follows. -/
def reference? (cs : List Char) : Option (List Char × List Char × List Char) :=
  match cs with
  | '$' :: '\x7b' :: rest =>
    let isPart (c : Char) : Bool := c != '\x7d' && c != ':'
    let name := rest.takeWhile isPart
    match rest.dropWhile isPart with
    | '\x7d' :: after => some (name, [], after)
    | ':' :: '-' :: more =>
      match more.dropWhile (· ≠ '\x7d') with
      | _ :: after => some (name, more.takeWhile (· ≠ '\x7d'), after)
      | [] => none
    | _ => none
  | _ => none

/-- The characters with every reference replaced. -/
def expand (lookup : String → Option (Option String)) : Nat → List Char → List Char
  | 0, cs => cs
  | _ + 1, [] => []
  | fuel + 1, c :: rest =>
    match reference? (c :: rest) with
    | some (name, otherwise, after) =>
      let value := match lookup (String.ofList name) with
        | some value => (value.getD "").toList
        | none => otherwise
      value ++ expand lookup fuel after
    | none => c :: expand lookup fuel rest

/-- The variables that a file assigns, each once, under an environment. -/
def read (environment : List (String × String)) (cs : List Char) : List Assignment :=
  (lines (cs.length + 1) cs).foldl (fun vars (name, value) =>
    let lookup (n : String) : Option (Option String) :=
      (vars.lookup n).orElse fun _ => (environment.lookup n).map some
    assign vars name (value.map fun v =>
      String.ofList (expand lookup (v.length + 1) v.toList))) []

end PolicyGate.Assignments
