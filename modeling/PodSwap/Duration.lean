/-!
# Durations

Spans of time in whole milliseconds and how they are written: in seconds from one second on, with a
fraction that has no zeros at its end, below that in milliseconds, and nothing as `0ns`.
-/

namespace PodSwap.Duration

/-- The digits of a fraction of a second, three places without the zeros at their end. -/
def fraction (ms : Nat) : List Char :=
  let digits := [ms / 100 % 10, ms / 10 % 10, ms % 10].map Nat.digitChar
  (digits.reverse.dropWhile (· = '0')).reverse

/-- A span of milliseconds as text. -/
def text (ms : Nat) : String :=
  if ms = 0 then "0ns"
  else if ms < 1000 then toString ms ++ "ms"
  else
    let rest := fraction (ms % 1000)
    let point := if rest.isEmpty then "" else "."
    toString (ms / 1000) ++ point ++ String.ofList rest ++ "s"

end PodSwap.Duration
