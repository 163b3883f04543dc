import PolicyGate.Regex.Node
import PolicyGate.Text.Blank
import PolicyGate.Text.Case
import PolicyGate.Text.Digit
import PolicyGate.Text.WordCharacter

/-!
# What a single character matches

A literal matches its own character, and irrespective of case every character with the same lower-case
form. Unicode has a few groups of lower-case letters with one upper-case form (the small sigmas, the
micro sign and mu, …); these match each other too.

A set that has no letter with case in it tests the character as it stands. Any other set tests the
lower-case form of the character, also against the members without case.
-/

namespace PolicyGate.Regex

/-- Code points from here on take no part in the grouping of letters by upper-case form. -/
def supplementary : Nat := 65536

/-- The lower-case form of an ASCII letter; any other code point stays. -/
def asciiLower (n : Nat) : Nat := if 65 ≤ n && n ≤ 90 then n + 32 else n

/-- Is the code point an ASCII letter? -/
def isAsciiLetter (n : Nat) : Bool := (65 ≤ n && n ≤ 90) || (97 ≤ n && n ≤ 122)

namespace Flags

/-- The lower-case form of a code point in the character set in force. -/
def lower (flags : Flags) (n : Nat) : Nat := if flags.ascii then asciiLower n else Text.lowerPoint n

/-- Does the code point have a different form in some case? -/
def isCased (flags : Flags) (n : Nat) : Bool :=
  if flags.ascii then isAsciiLetter n else Text.isCased n

/-- The lower-case code points that match the lower-case form of the given one. -/
def lowerClass (flags : Flags) (n : Nat) : List Nat :=
  flags.lower n :: (if flags.ascii then [] else Text.upperTwins (flags.lower n))

end Flags

/-- Does the literal match the character? -/
def literalMatches (flags : Flags) (point : Nat) (c : Char) : Bool :=
  if flags.ignoreCase && flags.isCased point then
    (flags.lowerClass point).contains (flags.lower c.toNat)
  else c.toNat == point

/-- Is the character in the named set? -/
def Category.holds (flags : Flags) (c : Char) : Category → Bool
  | .digit => if flags.ascii then c.isDigit else Text.isDecimalDigit c
  | .space =>
    if flags.ascii then c == ' ' || (9 ≤ c.toNat && c.toNat ≤ 13) else Text.isBlank c
  | .word => if flags.ascii then c.isAlphanum || c == '_' else Text.isWordCharacter c

namespace Member

/-- Does the member make the set test the lower-case form? -/
def isCased (flags : Flags) : Member → Bool
  | .single n => supplementary ≤ n || flags.isCased n
  | .range low high =>
    supplementary ≤ high ||
      (if flags.ascii then (low ≤ 90 && 65 ≤ high) || (low ≤ 122 && 97 ≤ high)
       else Text.anyCased low high)
  | .category _ _ => false

/-- Does the member hold the character as it stands? -/
def holds (flags : Flags) (c : Char) : Member → Bool
  | .single n => c.toNat == n
  | .range low high => low ≤ c.toNat && c.toNat ≤ high
  | .category kind negated => kind.holds flags c != negated

/-- Is the given code point the lower-case form of one between two bounds? -/
def reaches (flags : Flags) (low high n : Nat) : Bool :=
  if flags.ascii then
    (low ≤ n && n ≤ high && asciiLower n == n) ||
      (97 ≤ n && n ≤ 122 && low ≤ n - 32 && n - 32 ≤ high)
  else Text.lowerReaches low high n

/-- Does the member hold a character irrespective of case? The character is in lower case. -/
def holdsLower (flags : Flags) (c : Char) : Member → Bool
  | .single n =>
    if supplementary ≤ n then c.toNat == n else (flags.lowerClass n).contains c.toNat
  | .range low high =>
    let twins := if flags.ascii then [] else Text.upperTwins c.toNat
    let upper := Text.upperPoint c.toNat
    (low < supplementary &&
      (c.toNat :: twins).any (reaches flags low (min high (supplementary - 1)))) ||
    (supplementary ≤ high &&
      ((low ≤ c.toNat && c.toNat ≤ high) || (low ≤ upper && upper ≤ high)))
  | .category kind negated => kind.holds flags c != negated

end Member

/-- Does the set match the character? -/
def setMatches (flags : Flags) (negated : Bool) (members : List Member) (c : Char) : Bool :=
  let found :=
    if flags.ignoreCase && members.any (·.isCased flags) then
      members.any (·.holdsLower flags (Char.ofNat (flags.lower c.toNat)))
    else members.any (·.holds flags c)
  found != negated

end PolicyGate.Regex
