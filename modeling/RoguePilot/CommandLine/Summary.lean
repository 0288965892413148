import RoguePilot.Play.Episode
import RoguePilot.Text.Alignment

/-!
# The summary of an episode

One line tells how an episode ended: its number and outcome, its steps and score, the last snapshot, and
the slowest redraw.
-/

namespace RoguePilot.CommandLine

open Text (alignLeft alignRight)

/-- How an episode ended, in one word. A game that could not be reached counts first. -/
def outcome (episode : Episode) : String :=
  if episode.phase = .failed then "error"
  else if episode.snapshot.won then "won"
  else if episode.snapshot.escapedWithoutOrb then "escaped"
  else if episode.snapshot.died then "died"
  else "abandoned"

/-- A time in seconds with three places, given in nanoseconds. -/
def seconds (nanoseconds : Nat) : List Char :=
  let milliseconds := (nanoseconds + 500000) / 1000000
  Numeral.decimal (milliseconds / 1000) ++ '.' :: Numeral.lastDigits 10 3 milliseconds

/-- The summary of an episode. -/
def summary (episode : Episode) : List Char :=
  "Episode ".toList ++ alignRight 3 (Numeral.decimal episode.tally.episode) ++
    ": ".toList ++ alignLeft 9 (outcome episode).toList ++
    " steps ".toList ++ alignRight 6 (Numeral.decimal episode.tally.steps) ++
    "  score ".toList ++ alignRight 8 (toString episode.tally.score).toList ++
    "  XL ".toList ++ alignRight 2 (toString episode.snapshot.experienceLevel).toList ++
    "  ".toList ++ alignLeft 12 episode.snapshot.place.toList ++
    " time ".toList ++ alignRight 8 (episode.snapshot.gameTime.fixed 1) ++
    "  max redraw ".toList ++ seconds episode.tally.slowestRedraw ++ ['s']

end RoguePilot.CommandLine
