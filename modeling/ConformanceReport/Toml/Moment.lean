import ConformanceReport.Toml.Number

/-!
# Dates and times of TOML documents

A date, a time, or both with an optional offset. Dates have to exist in the calendar; a minute may
have a sixty-first second.
-/

namespace ConformanceReport

namespace Toml

open Scanner

/-- A number of so many decimal digits, within bounds. -/
def fixedDigits (count least greatest : Nat) : Scanner Nat := do
  let found ← (List.replicate count ()).mapM fun _ => digit 10
  let number := ofDigits 10 found
  guard (least ≤ number && number ≤ greatest)
  return number

/-- The number of days of a month. -/
def daysIn (year month : Nat) : Nat :=
  if month = 2 then
    if year % 4 = 0 && (year % 100 ≠ 0 || year % 400 = 0) then 29 else 28
  else if [4, 6, 9, 11].contains month then 30
  else 31

/-- A date. -/
def date : Scanner Unit := do
  let year ← fixedDigits 4 0 9999
  character '-'
  let month ← fixedDigits 2 1 12
  character '-'
  let _ ← fixedDigits 2 1 (daysIn year month)

/-- A time of the day. -/
def time : Scanner Unit := do
  let _ ← fixedDigits 2 0 23
  character ':'
  let _ ← fixedDigits 2 0 59
  character ':'
  let _ ← fixedDigits 2 0 60
  if (← peek?) = some '.' then
    character '.'
    let _ ← spanningSome fun c => (digitValue? 10 c).isSome

/-- The offset of a time from universal time. -/
def zone : Scanner Unit := do
  match ← satisfying fun _ => true with
  | 'Z' | 'z' => return
  | '+' | '-' =>
    let _ ← fixedDigits 2 0 23
    character ':'
    let _ ← fixedDigits 2 0 59
  | _ => failure

/-- The time of a date, after its separator. -/
def timeOfDate : Scanner Unit := do
  let _ ← satisfying fun c => c = 'T' || c = 't' || c = ' '
  time
  zone <|> pure ()

/-- A date, a time, or both. -/
def moment : Scanner Unit :=
  (do date; timeOfDate <|> pure ()) <|> time

end Toml

end ConformanceReport
