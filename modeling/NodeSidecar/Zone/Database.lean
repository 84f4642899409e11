/-
**The known zones.**

Zones are found by their name, in which case matters.  The names of zones with one offset for all
time are listed here; the others are read from the tables of records.

Main definitions:

* `Zone.fixedZones` — the names with one constant offset;
* `Zone.find?` — the zone of a name.
-/

import NodeSidecar.Zone.Record
import NodeSidecar.Zone.Table.Africa
import NodeSidecar.Zone.Table.America
import NodeSidecar.Zone.Table.Asia
import NodeSidecar.Zone.Table.Europe
import NodeSidecar.Zone.Table.Other
import NodeSidecar.Zone.Table.Pacific

set_option autoImplicit false

namespace NodeSidecar.Zone

/-- The names of zones whose offset never changes, with that offset in hours.  The sign in the
names of the series `Etc/GMT` counts hours west. -/
def fixedZones : List (String × Int) :=
  [("UTC", 0), ("Etc/UTC", 0), ("UCT", 0), ("Etc/UCT", 0), ("Universal", 0), ("Etc/Universal", 0),
   ("Zulu", 0), ("Etc/Zulu", 0), ("GMT", 0), ("GMT0", 0), ("GMT+0", 0), ("GMT-0", 0),
   ("Greenwich", 0), ("Etc/GMT", 0), ("Etc/GMT0", 0), ("Etc/GMT+0", 0), ("Etc/GMT-0", 0),
   ("Etc/Greenwich", 0),
   ("Etc/GMT+1", -1), ("Etc/GMT+2", -2), ("Etc/GMT+3", -3), ("Etc/GMT+4", -4), ("Etc/GMT+5", -5),
   ("Etc/GMT+6", -6), ("Etc/GMT+7", -7), ("Etc/GMT+8", -8), ("Etc/GMT+9", -9),
   ("Etc/GMT+10", -10), ("Etc/GMT+11", -11), ("Etc/GMT+12", -12),
   ("Etc/GMT-1", 1), ("Etc/GMT-2", 2), ("Etc/GMT-3", 3), ("Etc/GMT-4", 4), ("Etc/GMT-5", 5),
   ("Etc/GMT-6", 6), ("Etc/GMT-7", 7), ("Etc/GMT-8", 8), ("Etc/GMT-9", 9), ("Etc/GMT-10", 10),
   ("Etc/GMT-11", 11), ("Etc/GMT-12", 12), ("Etc/GMT-13", 13), ("Etc/GMT-14", 14)]

/-- The lines of all tables. -/
def tableLines : List (List Char) :=
  [Table.africa, Table.america, Table.asia, Table.europe, Table.other, Table.pacific].flatMap
    fun table => Text.linesFrom [] table.toList

/-- The words of the first record under a name, the name left out. -/
def recordWords? (name : List Char) : List (List Char) → Option (List (List Char))
  | [] => none
  | line :: rest =>
    if line.takeWhile (· != ' ') == name then
      let more := rest.takeWhile fun l => l.head? == some ' '
      some ((line :: more).flatMap (Text.wordsFrom []) |>.drop 1)
    else recordWords? name rest

/-- What is on record for a name. -/
def record? (name : String) : Option Record :=
  if name.isEmpty then none else (recordWords? name.toList tableLines).bind Record.ofWords?

/-- The zone on record for a name, which may be a second name of another zone. -/
def recorded? (name : String) : Option Zone :=
  match record? name with
  | some (.alias target) => (record? target).bind (Record.zone? name)
  | some record => record.zone? name
  | none => none

/-- The zone of a name. -/
def find? (name : String) : Option Zone :=
  match fixedZones.lookup name with
  | some hours => some (fixed name (hours * 3600))
  | none => recorded? name

@[simp] theorem find?_utc : find? "UTC" = some utc := rfl

end NodeSidecar.Zone
