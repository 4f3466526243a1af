import FieldQuery.Calendar.Format

/-!
Patterns by which dates can be written. Whether a pattern writes a moment does not depend on the
moment: it has to be a pattern, and no item of it may ask for the time zone. The check of a pattern
looks at the first condition only.
-/

namespace FieldQuery
namespace Calendar

/-- The text is a pattern, and one of its items asks for the time zone. -/
def namesZone (pattern : String) : Bool :=
  (Pattern.read? pattern.toList).any fun items => items.contains .zone

def isWritable (pattern : String) : Bool :=
  (Pattern.read? pattern.toList).any fun items => !items.contains .zone

theorem itemChars?_eq_none_iff (m : Moment) (item : PatternItem) :
    m.itemChars? item = none ↔ item = .zone := by
  cases item with
  | halfDay upper => cases upper <;> simp [Moment.itemChars?]
  | fraction dotted digits => cases dotted <;> simp [Moment.itemChars?]
  | literal _ | number _ _ | monthName | shortMonthName | weekdayName | shortWeekdayName
  | shortestFraction | zone => simp [Moment.itemChars?]

theorem patternChars?_eq_none_iff (m : Moment) (items : Pattern) :
    m.patternChars? items = none ↔ .zone ∈ items := by
  induction items with
  | nil => simp [Moment.patternChars?]
  | cons item items ih =>
      cases first : m.itemChars? item with
      | none =>
          have zone := (itemChars?_eq_none_iff m item).mp first
          simp [Moment.patternChars?, zone, Moment.itemChars?]
      | some chars =>
          have other : PatternItem.zone ≠ item := by
            intro zone
            rw [(itemChars?_eq_none_iff m item).mpr zone.symm] at first
            cases first
          rw [List.mem_cons, or_iff_right other, ← ih]
          cases h : m.patternChars? items <;> simp [Moment.patternChars?, first, h]

/-- One moment is written by a pattern exactly when every moment is. -/
theorem format?_isSome (m : Moment) (pattern : String) :
    (m.format? pattern).isSome = isWritable pattern := by
  unfold Moment.format? isWritable
  cases Pattern.read? pattern.toList with
  | none => rfl
  | some items =>
      by_cases zone : PatternItem.zone ∈ items
      · simp [(patternChars?_eq_none_iff m items).mpr zone, zone]
      · have written : m.patternChars? items ≠ none := fun h =>
          zone ((patternChars?_eq_none_iff m items).mp h)
        obtain ⟨chars, h⟩ := Option.ne_none_iff_exists'.mp written
        simp [h, zone]

theorem isWritable_eq_not_namesZone {pattern : String}
    (read : (Pattern.read? pattern.toList).isSome) : isWritable pattern = !namesZone pattern := by
  obtain ⟨items, h⟩ := Option.isSome_iff_exists.mp read
  simp [isWritable, namesZone, h]

end Calendar
end FieldQuery
