import ProxyControl.Log.Record

/-!
# Records that an engine holds

An engine holds its records in the order in which they came. They are read by index, and dropped
from the front, through an index at which there is a record.

## Main definitions

* `HeldLog`: the records, the oldest first
* `HeldLog.read`: the record at an index
* `HeldLog.dropThrough`: the records after an index
-/

set_option autoImplicit false

namespace ProxyControl

/-- The records that an engine holds, the oldest first. -/
abbrev HeldLog := List LogEntry

namespace HeldLog

/-- The record at an index, blank where there is none. -/
def read (log : HeldLog) (index : Nat) : LogEntry := log[index]?.getD .blank

/-- The records after an index; all of them where there is none at the index. -/
def dropThrough (log : HeldLog) (index : Nat) : HeldLog :=
  if index < log.length then log.drop (index + 1) else log

theorem dropThrough_of_lt {log : HeldLog} {index : Nat} (h : index < log.length) :
    dropThrough log index = log.drop (index + 1) := if_pos h

theorem dropThrough_of_le {log : HeldLog} {index : Nat} (h : log.length ≤ index) :
    dropThrough log index = log := if_neg (Nat.not_lt.2 h)

end HeldLog

end ProxyControl
