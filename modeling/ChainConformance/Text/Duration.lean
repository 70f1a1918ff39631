/-!
# Durations

The written form of a duration: a number of seconds, with the fraction that is left, or of
milliseconds if it is shorter than a second.
-/

namespace ChainConformance.Text

def fractionDigits (thousandths : Nat) : List Char :=
  let digits := (toString (1000 + thousandths)).toList.drop 1
  (digits.reverse.dropWhile (· == '0')).reverse

def durationText (milliseconds : Nat) : String :=
  if milliseconds = 0 then "0ns"
  else if milliseconds < 1000 then toString milliseconds ++ "ms"
  else
    let fraction := fractionDigits (milliseconds % 1000)
    let seconds := toString (milliseconds / 1000)
    if fraction.isEmpty then seconds ++ "s"
    else seconds ++ "." ++ String.ofList fraction ++ "s"

end ChainConformance.Text
