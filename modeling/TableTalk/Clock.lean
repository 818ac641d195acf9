import TableTalk.Number

/-!
# TableTalk.Clock

A clock is what it will show: its readings in seconds, in order. The last reading is shown for ever,
and a clock without readings shows zero.
-/

namespace TableTalk

/-- The readings that a clock will show. -/
structure Clock where
  readings : List Number := []

namespace Clock

def read (c : Clock) : Number × Clock :=
  match c.readings with
  | [] => (.int 0, c)
  | [last] => (last, c)
  | reading :: rest => (reading, ⟨rest⟩)

/-- The whole milliseconds between two readings. -/
def millisecondsBetween (start stop : Number) : Except Error Int := do
  let seconds ← stop.sub start
  (← seconds.mul (.int 1000)).truncate

/-- The whole milliseconds that a task takes, between a reading before it and one behind it. -/
def time (c : Clock) : Except Error Int × Clock :=
  let (start, c') := c.read
  let (stop, c'') := c'.read
  (millisecondsBetween start stop, c'')

end Clock

end TableTalk
