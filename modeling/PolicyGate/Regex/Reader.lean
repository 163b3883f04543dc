import PolicyGate.Regex.Fault
import PolicyGate.Regex.Width
import PolicyGate.Text.CharacterName
import PolicyGate.Text.Identifier
import PolicyGate.Text.WholeNumber

/-!
# Reading regular expressions

An expression is a choice of sequences of pieces. The reader looks one token ahead, where a token is a
character or a backslash with the character behind it; a backslash that ends the text is a fault as
soon as the reader looks at it. Braces that form no bounds stand for themselves.

The switches of the whole expression may only be set at its very start. What is read later obeys them,
and so does what was read before, once the expression is complete.
-/

namespace PolicyGate.Regex

/-- The unit of reading. -/
inductive Token where
  | plain (c : Char)
  | escaped (c : Char)
deriving DecidableEq, Repr

/-- The text of a token. -/
def Token.chars : Token → List Char
  | .plain c => [c]
  | .escaped c => ['\\', c]

/-- Where the reader is and what it has learnt. -/
structure Progress where
  /-- The position of the next token. -/
  position : Nat
  /-- The text from there on. -/
  rest : List Char
  /-- The switches of the whole expression. -/
  flags : Flags
  /-- The named groups. -/
  names : List (String × Nat)
  /-- The widths of the groups from the first on; a group that is still open has none. -/
  groups : List (Option Width)
  /-- In a look-behind, how many groups were open or complete when it began. -/
  behindFrom : Option Nat
  /-- The group numbers that conditions use, with the position of the first use. -/
  conditions : List (Nat × Nat)

/-- A step of reading: it moves on or reports a fault. -/
abbrev Reader := StateT Progress (Except Fault)

namespace Reader

/-- The next token of a text. -/
def token? : List Char → Option Token
  | [] => none
  | '\\' :: c :: _ => some (.escaped c)
  | c :: _ => some (.plain c)

/-- The next token, which stays. -/
def peek : Reader (Option Token) := return token? (← get).rest

/-- The position of the next token. -/
def position : Reader Nat := return (← get).position

/-- The fault of a malformed expression. -/
def fail {α : Type} (problem : Problem) (position : Nat) : Reader α :=
  throw (.malformed problem position)

/-- The fault, found `back` characters before the next token. -/
def failBack {α : Type} (problem : Problem) (back : Nat) : Reader α := do
  fail problem ((← position) - back)

/-- Goes past the next token. -/
def advance : Reader Unit := do
  let p ← get
  let length := match token? p.rest with
    | none => 0
    | some token => token.chars.length
  let q := { p with position := p.position + length, rest := p.rest.drop length }
  if q.rest = ['\\'] then throw (.malformed .danglingEscape q.position) else set q

/-- Takes the next token. -/
def take : Reader (Option Token) := do
  let token ← peek
  advance
  return token

/-- Takes the next token if it is the given character. -/
def accept (c : Char) : Reader Bool := do
  if (← peek) = some (.plain c) then
    advance
    return true
  else return false

/-- Takes up to `n` characters of a class. -/
def takeUpTo (inClass : Char → Bool) : Nat → Reader (List Char)
  | 0 => return []
  | n + 1 => do
    match ← peek with
    | some (.plain c) =>
      if inClass c then
        advance
        return c :: (← takeUpTo inClass n)
      else return []
    | _ => return []

/-- Takes the characters of a class. -/
def takeAll (inClass : Char → Bool) : Reader (List Char) := do
  takeUpTo inClass (← get).rest.length

/-- Takes tokens up to a terminator, with at most `fuel` steps, behind the given characters. -/
def nameUpTo (terminator : Char) (what : String) (sofar : List Char) : Nat → Reader (List Char)
  | 0 => throw (.unusable .unfinished)
  | fuel + 1 => do
    match ← take with
    | none =>
      if sofar.isEmpty then failBack (.missingName what) 0
      else failBack (.unterminatedName terminator) sofar.length
    | some token =>
      if token = .plain terminator then
        if sofar.isEmpty then failBack (.missingName what) 1 else return sofar
      else nameUpTo terminator what (sofar ++ token.chars) fuel

/-- Takes a name and its terminator. -/
def name (terminator : Char) (what : String) : Reader (List Char) := do
  nameUpTo terminator what [] ((← get).rest.length + 1)

/-- Goes past a comment between parentheses that began at a position. -/
def skipComment (start : Nat) : Nat → Reader Unit
  | 0 => throw (.unusable .unfinished)
  | fuel + 1 => do
    match ← peek with
    | none => fail .unterminatedComment start
    | some token =>
      advance
      if token = .plain ')' then return () else skipComment start fuel

/-- Goes past a comment that ends with its line. -/
def skipLine : Nat → Reader Unit
  | 0 => throw (.unusable .unfinished)
  | fuel + 1 => do
    match ← take with
    | none | some (.plain '\n') => return ()
    | some _ => skipLine fuel

/-- The number written by digits of a base up to sixteen. -/
def number (base : Nat) (digits : List Char) : Nat :=
  digits.foldl (fun n c =>
    base * n + (if c.isDigit then c.toNat - 48 else c.toLower.toNat - 87)) 0

/-- Is the character a digit of base eight? -/
def isOctal (c : Char) : Bool := '0' ≤ c && c ≤ '7'

/-- Is the character a digit of base sixteen? -/
def isHex (c : Char) : Bool := c.isDigit || ('a' ≤ c && c ≤ 'f') || ('A' ≤ c && c ≤ 'F')

/-- The fault of an escape that has just been read. -/
def badEscape {α : Type} (cause : String → Problem) (escape : List Char) : Reader α :=
  failBack (cause (String.ofList escape)) escape.length

/-- The point written by exactly `count` hexadecimal digits behind the letter of an escape. -/
def hexEscape (letter : Char) (count : Nat) : Reader Nat := do
  let digits ← takeUpTo isHex count
  if digits.length ≠ count then badEscape .incompleteEscape ('\\' :: letter :: digits)
  else
    let point := number 16 digits
    if 0x10FFFF < point then badEscape .badEscape ('\\' :: letter :: digits) else return point

/-- The point of a character given by its name. -/
def namedEscape : Reader Nat := do
  if ← accept '\x7b' then
    let chars ← name '\x7d' "character name"
    match Text.characterNamed? chars with
    | some point => return point
    | none => failBack (.unknownCharacterName (String.ofList chars)) (chars.length + 4)
  else failBack .missingBrace 0

/-- The points of the escapes that write a control character or the backslash. -/
def controlEscape? : Char → Option Nat
  | 'a' => some 7
  | 'b' => some 8
  | 'f' => some 12
  | 'n' => some 10
  | 'r' => some 13
  | 't' => some 9
  | 'v' => some 11
  | '\\' => some 92
  | _ => none

/-- The named sets of characters, with the capital letter for what is outside. -/
def categoryEscape? : Char → Option Member
  | 'd' => some (.category .digit false)
  | 'D' => some (.category .digit true)
  | 's' => some (.category .space false)
  | 'S' => some (.category .space true)
  | 'w' => some (.category .word false)
  | 'W' => some (.category .word true)
  | _ => none

/-- The escapes that stand for a place. -/
def anchorEscape? : Char → Option Anchor
  | 'A' => some .textStart
  | 'b' => some .boundary
  | 'B' => some .noBoundary
  | 'Z' => some .textEnd
  | _ => none

/-- The point of an escape by number or name; nothing if the letter starts none. -/
def pointEscape? (c : Char) : Reader (Option Nat) := do
  match c with
  | 'x' => return some (← hexEscape c 2)
  | 'u' => return some (← hexEscape c 4)
  | 'U' => return some (← hexEscape c 8)
  | 'N' => return some (← namedEscape)
  | _ => return none

/-- What an escape of a character that has no meaning of its own stands for. -/
def otherEscape (c : Char) : Reader Nat :=
  if c.isAlphanum then badEscape .badEscape ['\\', c] else return c.toNat

/-- The point of an escape by up to three octal digits. -/
def octalPoint (digits : List Char) : Reader Nat :=
  let point := number 8 digits
  if 0xFF < point then badEscape .octalTooLarge ('\\' :: digits) else return point

/-- What an escape within a character set stands for. -/
def setEscape (c : Char) : Reader Member := do
  if let some point := controlEscape? c then return .single point
  if let some member := categoryEscape? c then return member
  if let some point ← pointEscape? c then return .single point
  if isOctal c then
    return .single (← octalPoint (c :: (← takeUpTo isOctal 2)))
  return .single (← otherEscape c)

/-- How many groups there are, the whole expression included. -/
def groupCount : Reader Nat := return (← get).groups.length + 1

/-- Is the group complete? -/
def isComplete (group : Nat) : Reader Bool :=
  return 0 < group && ((← get).groups[group - 1]?).join.isSome

/-- In a look-behind, refuses a group that is open or that began in the same look-behind. -/
def checkBehind (group : Nat) : Reader Unit := do
  if let some count := (← get).behindFrom then
    if !(← isComplete group) then failBack .openGroup 0
    if count ≤ group then failBack .sameLookbehind 0

/-- A reference by number, whose digits have been read. -/
def numberedReference (digits : List Char) : Reader Node := do
  let group := number 10 digits
  if group < (← groupCount) then
    if !(← isComplete group) then badEscape (fun _ => .openGroup) ('\\' :: digits)
    checkBehind group
    return .reference group
  else failBack (.invalidReference group) digits.length

/-- An escape by digits that does not start with zero: three octal digits give a point, all else a
group. -/
def digitEscape (c : Char) : Reader Node := do
  match ← takeUpTo Char.isDigit 1 with
  | [d] =>
    if isOctal c && isOctal d then
      match ← takeUpTo isOctal 1 with
      | [e] => return .literal (← octalPoint [c, d, e])
      | _ => numberedReference [c, d]
    else numberedReference [c, d]
  | _ => numberedReference [c]

/-- What an escape outside character sets stands for. -/
def escape (c : Char) : Reader Node := do
  if let some place := anchorEscape? c then return .anchor place
  if let some member := categoryEscape? c then return .oneOf false [member]
  if let some point := controlEscape? c then return .literal point
  if let some point ← pointEscape? c then return .literal point
  if c = '0' then return .literal (number 8 (c :: (← takeUpTo isOctal 2)))
  if c.isDigit then return ← digitEscape c
  return .literal (← otherEscape c)

/-- What a token within a character set stands for. -/
def setMember : Token → Reader Member
  | .escaped c => setEscape c
  | .plain c => return .single c.toNat

/-- The members of a character set up to its end, behind the given ones. -/
def setMembers (start : Nat) (members : List Member) : Nat → Reader (List Member)
  | 0 => throw (.unusable .unfinished)
  | fuel + 1 => do
    match ← take with
    | none => fail .unterminatedSet start
    | some token =>
      if token = .plain ']' && !members.isEmpty then return members
      else
        let low ← setMember token
        if ← accept '-' then
          match ← take with
          | none => fail .unterminatedSet start
          | some (.plain ']') => return members ++ [low, .single 45]
          | some upper =>
            let high ← setMember upper
            let cause := Problem.badRange (String.ofList token.chars) (String.ofList upper.chars)
            let width := token.chars.length + 1 + upper.chars.length
            match low, high with
            | .single a, .single b =>
              if b < a then failBack cause width
              else setMembers start (members ++ [.range a b]) fuel
            | _, _ => failBack cause width
        else setMembers start (members ++ [low]) fuel

/-- A character set whose opening bracket, at a position, has been read. -/
def characterSet (start : Nat) : Reader Node := do
  let negated ← accept '^'
  match (← setMembers start [] ((← get).rest.length + 1)).eraseDups with
  | [.single point] => return if negated then .otherThan point else .literal point
  | members => return .oneOf negated members

/-- The bounds of a repetition in braces; nothing if the braces form none. -/
def bounds? (start : Nat) : Reader (Option (Nat × Option Nat)) := do
  let low ← takeAll Char.isDigit
  let high ← if ← accept ',' then takeAll Char.isDigit else pure low
  if !(← accept '\x7d') then return none
  let least ← count low
  let most ← count high
  if let some n := most then
    if n < least.getD 0 then fail .boundsReversed start
  return some (least.getD 0, most)
where
  /-- The number that the digits of a bound write, if there are any. -/
  count (digits : List Char) : Reader (Option Nat) :=
    if digits.isEmpty then return none
    else if digitLimit < digits.length then throw (.countTooLong digits.length)
    else if 4294967295 ≤ number 10 digits then throw .countTooLarge
    else return some (number 10 digits)

/-- How a repetition chooses, as the character behind its sign says. -/
def greed : Reader Greed := do
  if ← accept '?' then return .reluctant
  else if ← accept '+' then return .possessive
  else return .greedy

/-- The repetition of the last node. The sign of the repetition, `length` characters long, ends at a
position. -/
def repetition (sign : Nat) (least : Nat) (most : Option Nat) (done : List Node) :
    Reader (List Node) := do
  match done with
  | [] | .anchor _ :: _ => fail .nothingToRepeat sign
  | .times .. :: _ => fail .repeatedRepetition sign
  | last :: earlier =>
    return .times (← greed) least most last :: earlier

/-- The switch that a letter stands for. -/
def flag? : Char → Option Flags
  | 'i' => some { ignoreCase := true }
  | 'm' => some { multiline := true }
  | 's' => some { dotAll := true }
  | 'x' => some { verbose := true }
  | 'a' => some { ascii := true }
  | 't' => some { template := true }
  | 'u' => some { unicode := true }
  | _ => none

/-- Is the character a letter that stands for a switch? -/
def isFlagLetter (c : Char) : Bool := c == 'L' || (flag? c).isSome

/-- The fault of a token that should have been the letter of a switch. -/
def notFlag {α : Type} (token : Token) (otherwise : Problem) : Reader α :=
  let cause := match token with
    | .plain c => if Text.isLetter c then .unknownFlag else otherwise
    | .escaped _ => otherwise
  failBack cause token.chars.length

/-- The switches to turn on, from the letter `c` on, and the character behind them. -/
def flagsOn (sofar : Flags) (c : Char) : Nat → Reader (Flags × Char)
  | 0 => throw (.unusable .unfinished)
  | fuel + 1 => do
    match flag? c with
    | none => failBack .localeFlag 0
    | some flag =>
      let flags := sofar.union flag
      if flag.meets Flags.characterSets && flags.ascii && flags.unicode then
        failBack .incompatibleFlags 0
      match ← take with
      | none => failBack .missingFlagEnd 0
      | some (.plain d) =>
        if d = ')' || d = '-' || d = ':' then return (flags, d)
        else if isFlagLetter d then flagsOn flags d fuel
        else notFlag (.plain d) .missingFlagEnd
      | some token => notFlag token .missingFlagEnd

/-- The switches to turn off, from the letter `c` on, up to the colon. -/
def flagsOff (sofar : Flags) (c : Char) : Nat → Reader Flags
  | 0 => throw (.unusable .unfinished)
  | fuel + 1 => do
    match flag? c with
    | none => failBack .characterSetOff 0
    | some flag =>
      if flag.meets Flags.characterSets then failBack .characterSetOff 0
      let flags := sofar.union flag
      match ← take with
      | none => failBack .missingColon 0
      | some (.plain ':') => return flags
      | some (.plain d) =>
        if isFlagLetter d then flagsOff flags d fuel else notFlag (.plain d) .missingColon
      | some token => notFlag token .missingColon

/-- What a group says about switches, from its first letter or the dash on: those for the whole
expression, or those to turn on and off in the group. -/
def flagGroup (c : Char) : Reader (Flags ⊕ (Flags × Flags)) := do
  let fuel := (← get).rest.length + 1
  let (on, close) ← if c = '-' then pure (({} : Flags), c) else flagsOn {} c fuel
  if close = ')' then return .inl on
  if on.template then failBack .globalFlagOn 1
  let off ←
    if close = '-' then
      match ← take with
      | none => failBack .missingFlag 0
      | some (.plain d) =>
        if isFlagLetter d then flagsOff {} d fuel else notFlag (.plain d) .missingFlag
      | some token => notFlag token .missingFlag
    else pure {}
  if off.template then failBack .globalFlagOff 1
  if on.meets off then failBack .flagOnAndOff 1
  return .inr (on, off)

/-- Opens a group and gives its number. -/
def openGroup (name : Option (List Char)) : Reader Nat := do
  let group ← groupCount
  if let some chars := name then
    let key := String.ofList chars
    if let some (_, earlier) := (← get).names.find? (·.1 == key) then
      failBack (.redefinedGroup key group earlier) (chars.length + 1)
    modify fun p => { p with names := (key, group) :: p.names }
  modify fun p => { p with groups := p.groups ++ [none] }
  return group

/-- Closes a group whose body has been read. -/
def closeGroup (group : Nat) (body : Node) : Reader Unit :=
  modify fun p => { p with groups := p.groups.set (group - 1) (some (body.width p.groups)) }

/-- The name of a group, which must be an identifier. -/
def groupName (terminator : Char) : Reader (List Char) := do
  let chars ← name terminator "group name"
  if Text.isIdentifier chars then return chars
  else failBack (.badGroupName (String.ofList chars)) (chars.length + 1)

/-- A reference by name. -/
def namedReference : Reader Node := do
  let chars ← groupName ')'
  match (← get).names.find? (·.1 == String.ofList chars) with
  | none => failBack (.unknownGroupName (String.ofList chars)) (chars.length + 1)
  | some (_, group) =>
    if !(← isComplete group) then failBack .openGroup (chars.length + 1)
    checkBehind group
    return .reference group

/-- The group of a condition, by name or number. -/
def conditionGroup : Reader Nat := do
  let chars ← name ')' "group name"
  let key := String.ofList chars
  let back := chars.length + 1
  if Text.isIdentifier chars then
    match (← get).names.find? (·.1 == key) with
    | none => failBack (.unknownGroupName key) back
    | some (_, group) => return group
  else
    let tooLong := (Text.signedDigits? chars).any fun (_, digits) => digitLimit < digits.length
    match if tooLong then none else Text.wholeNumber? chars with
    | some (.ofNat 0) => failBack .badGroupNumber back
    | some (.ofNat group) =>
      if 1073741823 ≤ group then failBack (.invalidReference group) back
      let start := (← position) - back
      modify fun p =>
        if p.conditions.any (·.1 == group) then p
        else { p with conditions := p.conditions ++ [(group, start)] }
      return group
    | _ => failBack (.badGroupName key) back

/-- Takes the closing parenthesis of a group that began at a position. -/
def closing (start : Nat) : Reader Unit := do
  if !(← accept ')') then fail .unterminatedGroup start

/-- Is the character skipped between pieces of a verbose expression? -/
def isSkipped (c : Char) : Bool := c == ' ' || (9 ≤ c.toNat && c.toNat ≤ 13)

mutual

/-- A choice, from here to the end of its group. The outermost one is the whole expression. -/
def alternatives (outermost verbose : Bool) : Nat → Reader Node
  | 0 => throw (.unusable .unfinished)
  | fuel + 1 => do
    let first ← pieces outermost verbose [] fuel
    furtherAlternatives outermost verbose first fuel
termination_by structural fuel => fuel

/-- The alternatives behind one that has been read. -/
def furtherAlternatives (outermost verbose : Bool) (first : Node) : Nat → Reader Node
  | 0 => throw (.unusable .unfinished)
  | fuel + 1 => do
    if ← accept '|' then
      let p ← get
      let verbose := if outermost then p.flags.verbose else verbose
      let second ← pieces false verbose [] fuel
      return .choice first (← furtherAlternatives outermost verbose second fuel)
    else return first
termination_by structural fuel => fuel

/-- The pieces up to a bar, a closing parenthesis or the end, behind those given last first. Only at
the start of the expression may switches be set for all of it. -/
def pieces (atStart verbose : Bool) (done : List Node) : Nat → Reader Node
  | 0 => throw (.unusable .unfinished)
  | fuel + 1 => do
    match ← peek with
    | none | some (.plain '|') | some (.plain ')') => return Node.chain done
    | some token =>
      let start ← position
      advance
      match token with
      | .escaped c => pieces atStart verbose ((← escape c) :: done) fuel
      | .plain c =>
        if verbose && isSkipped c then pieces atStart verbose done fuel
        else if verbose && c = '#' then
          skipLine ((← get).rest.length + 1)
          pieces atStart verbose done fuel
        else
          match c with
          | '[' => pieces atStart verbose ((← characterSet start) :: done) fuel
          | '.' => pieces atStart verbose (.any :: done) fuel
          | '^' => pieces atStart verbose (.anchor .lineStart :: done) fuel
          | '$' => pieces atStart verbose (.anchor .lineEnd :: done) fuel
          | '?' => pieces atStart verbose (← repetition start 0 (some 1) done) fuel
          | '*' => pieces atStart verbose (← repetition start 0 none done) fuel
          | '+' => pieces atStart verbose (← repetition start 1 none done) fuel
          | '\x7b' =>
            let here ← get
            if (← peek) = some (.plain '\x7d') then
              pieces atStart verbose (.literal c.toNat :: done) fuel
            else
              match ← bounds? here.position with
              | none =>
                set here
                pieces atStart verbose (.literal c.toNat :: done) fuel
              | some (least, most) =>
                pieces atStart verbose (← repetition start least most done) fuel
          | '(' =>
            let (done, verbose) ← parenthesis start atStart verbose done fuel
            pieces atStart verbose done fuel
          | _ => pieces atStart verbose (.literal c.toNat :: done) fuel
termination_by structural fuel => fuel

/-- What follows an opening parenthesis at a position. Gives the pieces with the new one, and whether
the pieces to come are verbose. -/
def parenthesis (start : Nat) (atStart verbose : Bool) (done : List Node) :
    Nat → Reader (List Node × Bool)
  | 0 => throw (.unusable .unfinished)
  | fuel + 1 => do
    if !(← accept '?') then
      return ((← capture start none verbose fuel) :: done, verbose)
    match ← take with
    | none => failBack .unexpectedEnd 0
    | some (.plain 'P') =>
      if ← accept '<' then
        let chars ← groupName '>'
        return ((← capture start (some chars) verbose fuel) :: done, verbose)
      else if ← accept '=' then
        return ((← namedReference) :: done, verbose)
      else
        match ← take with
        | none => failBack .unexpectedEnd 0
        | some token =>
          let extension := String.ofList ('?' :: 'P' :: token.chars)
          failBack (.unknownExtension extension) (token.chars.length + 2)
    | some (.plain ':') =>
      let body ← alternatives false verbose fuel
      closing start
      return (.scope {} {} body :: done, verbose)
    | some (.plain '#') =>
      skipComment start ((← get).rest.length + 1)
      return (done, verbose)
    | some (.plain '=') =>
      return ((← lookahead start false verbose fuel) :: done, verbose)
    | some (.plain '!') =>
      return ((← lookahead start true verbose fuel) :: done, verbose)
    | some (.plain '<') =>
      match ← take with
      | none => failBack .unexpectedEnd 0
      | some (.plain '=') => return ((← lookbehind start false verbose fuel) :: done, verbose)
      | some (.plain '!') => return ((← lookbehind start true verbose fuel) :: done, verbose)
      | some token =>
        let extension := String.ofList ('?' :: '<' :: token.chars)
        failBack (.unknownExtension extension) (token.chars.length + 2)
    | some (.plain '(') =>
      let group ← conditionGroup
      checkBehind group
      let yes ← pieces false verbose [] fuel
      let no ←
        if ← accept '|' then
          let no ← pieces false verbose [] fuel
          if (← peek) = some (.plain '|') then failBack .tooManyBranches 0
          pure no
        else pure .empty
      closing start
      return (.condition group yes no :: done, verbose)
    | some (.plain '>') =>
      let body ← alternatives false verbose fuel
      closing start
      return (.atomic body :: done, verbose)
    | some token =>
      match token with
      | .plain c =>
        if c = '-' || isFlagLetter c then
          match ← flagGroup c with
          | .inl flags =>
            modify fun p => { p with flags := p.flags.union flags }
            if !atStart || !done.isEmpty then fail .flagsNotAtStart start
            return (done, (← get).flags.verbose)
          | .inr (on, off) =>
            let body ← alternatives false ((verbose || on.verbose) && !off.verbose) fuel
            closing start
            return (.scope on off body :: done, verbose)
        else failBack (.unknownExtension (String.ofList ['?', c])) 2
      | .escaped c => failBack (.unknownExtension (String.ofList ['?', '\\', c])) 3
termination_by structural fuel => fuel

/-- The body of a capturing group that began at a position. -/
def capture (start : Nat) (name : Option (List Char)) (verbose : Bool) : Nat → Reader Node
  | 0 => throw (.unusable .unfinished)
  | fuel + 1 => do
    let group ← openGroup name
    let body ← alternatives false verbose fuel
    closing start
    closeGroup group body
    return .capture group body
termination_by structural fuel => fuel

/-- The body of a look-ahead that began at a position. -/
def lookahead (start : Nat) (negated verbose : Bool) : Nat → Reader Node
  | 0 => throw (.unusable .unfinished)
  | fuel + 1 => do
    let body ← alternatives false verbose fuel
    closing start
    return .ahead negated body
termination_by structural fuel => fuel

/-- The body of a look-behind that began at a position. -/
def lookbehind (start : Nat) (negated verbose : Bool) : Nat → Reader Node
  | 0 => throw (.unusable .unfinished)
  | fuel + 1 => do
    let outer := (← get).behindFrom
    let count ← groupCount
    modify fun p => { p with behindFrom := some (outer.getD count) }
    let body ← alternatives false verbose fuel
    modify fun p => { p with behindFrom := outer }
    closing start
    return .behind negated (body.width (← get).groups) body
termination_by structural fuel => fuel

end

/-- The whole text as an expression, with the switches that are on from the start. -/
def expression (flags : Flags) (text : List Char) : Except Fault (Node × Flags) := do
  let begin : Progress := ⟨0, text, flags, [], [], none, []⟩
  if text = ['\\'] then throw (.malformed .danglingEscape 0)
  let (node, p) ← (alternatives true flags.verbose (4 * text.length + 8)).run begin
  if p.flags.ascii && p.flags.unicode then throw .twoCharacterSets
  if !p.rest.isEmpty then throw (.malformed .unbalanced p.position)
  match p.conditions.find? fun (group, _) => p.groups.length + 1 ≤ group with
  | some (group, place) => throw (.malformed (.invalidReference group) place)
  | none => return (node, p.flags)

end Reader
end PolicyGate.Regex
