import PolicyGate.Number.Binary64

/-!
# Reading decimal numbers

The decimal notation of binary numbers: a sign, digits with a point among or beside them, and an
exponent; or one of the words for infinity and for a NaN, in any ASCII case. The number read is the
representable one nearest to what is written.
-/

namespace PolicyGate

/-- The number that ASCII digits write. -/
def asciiNumber (cs : List Char) : Nat := cs.foldl (fun n c => 10 * n + (c.toNat - 48)) 0

/-- The number behind an optional sign. -/
def withSign {α : Type} (read : Bool → List Char → Option α) : List Char → Option α
  | '-' :: rest => read true rest
  | '+' :: rest => read false rest
  | rest => read false rest

/-- The exponent behind a mantissa: none, or a letter and a whole number. -/
def exponent? : List Char → Option Int
  | [] => some 0
  | c :: rest =>
    if c = 'e' ∨ c = 'E' then
      withSign (fun negative digits =>
        if digits.isEmpty || !digits.all Char.isDigit then none
        else some (if negative then -(asciiNumber digits : Int) else asciiNumber digits)) rest
    else none

/-- The words for numbers that are not finite. -/
def namedNumber? (negative : Bool) (cs : List Char) : Option Binary64 :=
  match String.ofList (cs.map Char.toLower) with
  | "inf" | "infinity" => some (.inf negative)
  | "nan" => some .nan
  | _ => none

/-- The number that a text without blanks writes in decimal notation. -/
def Binary64.ofText? : List Char → Option Binary64 :=
  withSign fun negative cs =>
    (namedNumber? negative cs).orElse fun _ =>
      let whole := cs.takeWhile Char.isDigit
      let rest := cs.dropWhile Char.isDigit
      let (fraction, rest) := match rest with
        | '.' :: more => (more.takeWhile Char.isDigit, more.dropWhile Char.isDigit)
        | _ => ([], rest)
      if whole.isEmpty && fraction.isEmpty then none
      else (exponent? rest).map fun e =>
        .ofDecimal negative (asciiNumber (whole ++ fraction)) (e - fraction.length)

end PolicyGate
