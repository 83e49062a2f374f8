import EventTally.Record.Event
import EventTally.Time.Span

/-! The age filter. Above a threshold of zero it discards an event that was last seen longer ago
than the threshold, and one that was never seen. A zero threshold keeps all. -/

namespace EventTally

structure AgeFilter where
  threshold : Span

namespace AgeFilter

def isEnabled (f : AgeFilter) : Bool := !f.threshold.isZero

def discards (f : AgeFilter) (e : Event) (now : Timestamp) : Bool :=
  f.isEnabled &&
    match e.lastObserved with
    | none => true
    | some seen => (f.threshold.totalNanos : Int) < now.since seen

end AgeFilter
end EventTally
