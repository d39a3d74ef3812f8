import Tollgate.Number.Binary64
import Tollgate.Fault

namespace Tollgate

inductive Seconds where
  | whole (n : Int)
  | binary (x : Binary64)
deriving DecidableEq, Repr

namespace Seconds

def truncate : Seconds → Int
  | whole n => n
  | binary x => x.truncate?.getD 0

/-- Whether `timestamp` is before the time `tolerance` seconds ago. From 64-bit seconds the
tolerance is rounded to such a number, and so is the difference; none if the tolerance is out of
range. -/
def isBefore? (now : Seconds) (tolerance timestamp : Int) : Option Bool :=
  match now with
  | whole n => some (timestamp < n - tolerance)
  | binary x =>
    match Binary64.ofInt tolerance with
    | .infinite _ => none
    | y => some ((x.sub y).isAbove timestamp)

end Seconds

namespace Clock

def ticks : Nat := 1000000

def isDate (second : Int) : Bool := -62135596800 ≤ second && second < 253402300800

def isTimestamp (second : Int) : Bool :=
  -9223372036854775808 ≤ second && second < 9223372036854775808

end Clock

structure Date where
  microseconds : Int
  inYears : Clock.isDate (microseconds.fdiv Clock.ticks) = true

namespace Date

def second (date : Date) : Int := date.microseconds.fdiv Clock.ticks

def ofMicroseconds (microseconds : Int) : Except Crash Date :=
  let second := microseconds.fdiv Clock.ticks
  if !Clock.isTimestamp second then .error .outOfRange
  else if inYears : Clock.isDate second then .ok ⟨microseconds, inYears⟩
  else .error .wrongValue

end Date

/-- What the clock of a machine shows: the seconds, and the date, whose microseconds are those that
the clock has reached. A running clock shows a date at any time; one that is set by hand need
not. -/
structure Clock where
  time : Seconds
  date : Except Crash Date

namespace Clock

def second (now : Clock) : Except Crash Int := now.date.map (·.second)

def truncate (now : Clock) : Int := now.time.truncate

/-- The seconds of a number of nanoseconds. Only a number that holds no whole seconds is rounded
before it is divided. -/
def secondsOf (nanoseconds : Int) : Binary64 :=
  if nanoseconds % 1000000000 = 0 then .ofInt (nanoseconds / 1000000000)
  else
    match Binary64.ofInt nanoseconds with
    | .finite negative mantissa exponent =>
      .ofRatio negative (mantissa * Binary64.twoTo exponent)
        (Binary64.twoTo (-exponent) * 1000000000)
    | x => x

def ofNanoseconds (n : Int) : Clock where
  time := .binary (secondsOf n)
  date := Date.ofMicroseconds (n.fdiv 1000)

/-- The microseconds next to a number of seconds. The fraction is multiplied as a 64-bit number and
then rounded, a tie to the even one. -/
def nearestMicroseconds (mantissa : Nat) (exponent : Int) : Nat :=
  let num := mantissa * Binary64.twoTo exponent
  let den := Binary64.twoTo (-exponent)
  num / den * ticks + (Binary64.ofRatio false (num % den * ticks) den).nearest

def dateAt : Seconds → Except Crash Date
  | .whole n => Date.ofMicroseconds (n * ticks)
  | .binary (.finite negative mantissa exponent) =>
    let n := nearestMicroseconds mantissa exponent
    Date.ofMicroseconds (if negative then -n else n)
  | .binary (.infinite _) => .error .outOfRange
  | .binary .nan => .error .wrongValue

def setTo (time : Seconds) : Clock := { time, date := dateAt time }

def whole (n : Int) : Clock := setTo (.whole n)

def binary (x : Binary64) : Clock := setTo (.binary x)

end Clock

end Tollgate
