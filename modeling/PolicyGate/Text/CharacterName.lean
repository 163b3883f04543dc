import PolicyGate.Text.CharacterNameTable
import PolicyGate.Text.Ranges

/-!
# Characters by name

Most characters have a listed name, in which letter case does not matter. The name of an ideograph says
its code point, and the name of a Korean syllable is put together from the names of its sounds; both are
written in capital letters.
-/

namespace PolicyGate.Text

/-- The code point of the character with a listed name. -/
def listedCharacter? (name : String) : Option Nat :=
  (namedRuns.findSome? (·.codePoint? name)).orElse fun _ =>
    (namedCharacters.lookup name).orElse fun _ => characterAliases.lookup name

/-- The code points of the unified ideographs. -/
def ideographRanges : List (Nat × Nat) :=
  [(13312, 19903), (19968, 40959), (131072, 173791), (173824, 177976), (177984, 178205),
   (178208, 183969), (183984, 191456), (196608, 201546)]

/-- The value of a hexadecimal digit with capital letters. -/
def capitalHexDigit? (c : Char) : Option Nat :=
  if c.isDigit then some (c.toNat - 48)
  else if 'A' ≤ c && c ≤ 'F' then some (c.toNat - 55) else none

/-- The ideograph whose name ends in the given four or five digits. -/
def ideograph? (digits : List Char) : Option Nat :=
  if digits.length = 4 || digits.length = 5 then
    (digits.foldlM (fun n c => (capitalHexDigit? c).map (16 * n + ·)) 0).filter
      (inRanges ideographRanges)
  else none

/-- The sounds that may open a Korean syllable. -/
def openingSounds : List String :=
  ["G", "GG", "N", "D", "DD", "R", "M", "B", "BB", "S", "SS", "", "J", "JJ", "C", "K", "T", "P", "H"]

/-- The vowels of a Korean syllable. -/
def vowelSounds : List String :=
  ["A", "AE", "YA", "YAE", "EO", "E", "YEO", "YE", "O", "WA", "WAE", "OE", "YO", "U", "WEO", "WE", "WI",
   "YU", "EU", "YI", "I"]

/-- The sounds that may close a Korean syllable. -/
def closingSounds : List String :=
  ["", "G", "GG", "GS", "N", "NJ", "NH", "D", "L", "LG", "LM", "LB", "LS", "LT", "LP", "LH", "M", "B",
   "BS", "S", "SS", "NG", "J", "C", "K", "T", "P", "H"]

/-- The Korean syllable of the given sounds. A consonant is never the name of a vowel, so that the sounds
can be read off in one way only. -/
def koreanSyllable? (sounds : List Char) : Option Nat :=
  let consonant (c : Char) : Bool := !"AEIOUWY".toList.contains c
  let tail := sounds.dropWhile consonant
  let vowel := tail.takeWhile (!consonant ·)
  match openingSounds.idxOf? (String.ofList (sounds.takeWhile consonant)),
      vowelSounds.idxOf? (String.ofList vowel),
      closingSounds.idxOf? (String.ofList (tail.drop vowel.length)) with
  | some a, some b, some c => some (44032 + (a * 21 + b) * 28 + c)
  | _, _, _ => none

/-- The characters after a given beginning. -/
def afterBeginning? (beginning : String) (cs : List Char) : Option (List Char) :=
  if beginning.toList.isPrefixOf cs then some (cs.drop beginning.length) else none

/-- The code point of the character with the given name. -/
def characterNamed? (name : List Char) : Option Nat :=
  match afterBeginning? "HANGUL SYLLABLE " name, afterBeginning? "CJK UNIFIED IDEOGRAPH-" name with
  | some sounds, _ => koreanSyllable? sounds
  | _, some digits => ideograph? digits
  | _, _ => listedCharacter? (String.ofList (name.map Char.toUpper))

end PolicyGate.Text
