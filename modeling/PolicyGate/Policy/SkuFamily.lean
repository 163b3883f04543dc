import PolicyGate.Text.Blank
import PolicyGate.Text.Case

/-!
# SKU families

The family of an App Service Plan SKU is its leading letters and the digits behind them, in upper case:
`P1v3` belongs to `P1`. A text of another form is its own family.
-/

namespace PolicyGate

/-- The leading ASCII letters and the ASCII digits that follow them; nothing if either is missing. -/
def skuStem? (cs : List Char) : Option (List Char) :=
  let letters := cs.takeWhile Char.isAlpha
  let digits := (cs.dropWhile Char.isAlpha).takeWhile Char.isDigit
  if letters.isEmpty || digits.isEmpty then none else some (letters ++ digits)

/-- The family of an App Service Plan SKU. -/
def planSkuFamily (text : String) : String :=
  let cs := Text.trimChars text.toList
  Text.upper (String.ofList ((skuStem? cs).getD cs))

end PolicyGate
