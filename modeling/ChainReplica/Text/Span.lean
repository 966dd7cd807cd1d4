import ChainReplica.Text.Numeral

/-!
# Spans of time

A span is a number of milliseconds. It is shown in the greatest unit of which
it has at least one, with the part below as a decimal fraction.
-/

namespace ChainReplica

namespace Span

def seconds (n : Nat) : Nat := n * 1000

def dropZeros (cs : List Char) : List Char := (cs.reverse.dropWhile (· == '0')).reverse

/-- A span as text: `1.5s`, `100ms`, `0ns`. -/
def text (millis : Nat) : String :=
  if 1000 ≤ millis then
    let fraction := dropZeros (((Numeral.text 10 (1000 + millis % 1000))).drop 1)
    let point := if fraction.isEmpty then [] else '.' :: fraction
    String.ofList (Numeral.text 10 (millis / 1000) ++ point ++ ['s'])
  else if 0 < millis then String.ofList (Numeral.text 10 millis ++ ['m', 's'])
  else "0ns"

end Span

end ChainReplica
