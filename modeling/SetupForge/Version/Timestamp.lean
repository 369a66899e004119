import SetupForge.Host
import SetupForge.Text.Digit

/-! # Versions from the clock

A version has three numbers: the year of the century, the month and the day, and the hour
and the minute. The month is raised by 20 and the hour by 30, so that the numbers of one
place always have the same count of digits.
-/

namespace SetupForge.Moment

open Text (padded)

def version (moment : Moment) : String :=
  padded 2 (moment.year % 100) ++ "." ++
    s!"{moment.month + 20}" ++ padded 2 moment.day ++ "." ++
    padded 2 (moment.hour + 30) ++ padded 2 moment.minute

example : version ⟨2026, 10, 19, 14, 5⟩ = "26.3019.4405" := by decide +kernel

end SetupForge.Moment
