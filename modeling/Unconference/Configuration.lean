import Unconference.Configuration.Reading
import Unconference.Search.Options
import Unconference.Timetable

/-!
# Configurations

A configuration tells how to search, what the calendar and the locations are, and where to store
the timetable.  Everything can be left out: the default is two days with three slots each, three
rooms and a hallway.
-/

namespace Unconference

structure PlannedSlot where
  time : String := ""
  isBreak : Bool := false
deriving DecidableEq

structure PlannedDay where
  name : String := ""
  slots : List PlannedSlot := []
deriving DecidableEq

structure Calendar where
  days : List PlannedDay := []
deriving DecidableEq

structure Configuration where
  search : SearchOptions := {}
  calendar : Calendar
  locations : List Location
  persistPath : Option String := none
deriving DecidableEq

def PlannedDay.standard (name : String) : PlannedDay where
  name := name
  slots := [⟨"09:00", false⟩, ⟨"10:30", false⟩, ⟨"12:00", true⟩, ⟨"13:30", false⟩]

def Calendar.standard : Calendar := ⟨[.standard "Monday", .standard "Tuesday"]⟩

def Location.standard : List Location :=
  [⟨"Main hall", 200, true⟩, ⟨"Room 1", 60, true⟩, ⟨"Room 2", 40, true⟩, ⟨"Hallway", 0, false⟩]

def Configuration.standard : Configuration :=
  { calendar := .standard, locations := Location.standard }

/-- The empty timetable that a configuration plans. -/
def Configuration.timetable (configuration : Configuration) : Timetable where
  days := configuration.calendar.days.map fun day =>
    { name := day.name
      slots := day.slots.map fun slot => { time := slot.time, isBreak := slot.isBreak } }
  locations := configuration.locations

namespace Configuration

open Reader

def algorithms : Choice Algorithm where
  typeName := "AlgorithmConfig"
  variants :=
    [("combined", .combined), ("heuristic", .heuristic), ("random", .random), ("climb", .climb)]

def validations : Choice Validation where
  typeName := "ValidationConfig"
  variants := [("production", .production), ("strict", .strict)]

def searchRecord (dialect : Dialect) : Record SearchOptions where
  typeName := "SearchConfig"
  initial := {}
  fields := [
    { name := "algorithm"
      read setting options :=
        (algorithms.read dialect setting).map ({ options with algorithm := · }) },
    { name := "validation"
      read setting options :=
        (validations.read dialect setting).map ({ options with validation := · }) },
    { name := "duration_ms"
      read setting options := (word64 setting).map ({ options with duration := · }) },
    { name := "seed"
      read setting options := (optional word64 setting).map ({ options with seed := · }) },
    { name := "mutation_max"
      read setting options := (machineWord setting).map ({ options with mutationMax := · }) }]

def slotRecord : Record PlannedSlot where
  typeName := "SlotConfig"
  initial := {}
  fields := [
    { name := "time"
      isRequired := true
      read setting slot := (string setting).map ({ slot with time := · }) },
    { name := "is_break"
      read setting slot := (flag setting).map ({ slot with isBreak := · }) }]

def dayRecord (dialect : Dialect) : Record PlannedDay where
  typeName := "DayConfig"
  initial := {}
  fields := [
    { name := "name"
      isRequired := true
      read setting day := (string setting).map ({ day with name := · }) },
    { name := "slots"
      isRequired := true
      read setting day :=
        (sequence (slotRecord.read dialect) setting).map ({ day with slots := · }) }]

def calendarRecord (dialect : Dialect) : Record Calendar where
  typeName := "TimetableConfig"
  initial := {}
  fields := [
    { name := "days"
      isRequired := true
      read setting _ := (sequence ((dayRecord dialect).read dialect) setting).map Calendar.mk }]

def locationRecord : Record Location where
  typeName := "LocationConfig"
  initial := { name := "" }
  fields := [
    { name := "name"
      isRequired := true
      read setting location := (string setting).map ({ location with name := · }) },
    { name := "capacity"
      read setting location := (word32 setting).map ({ location with capacity := · }) },
    { name := "is_place"
      read setting location := (flag setting).map ({ location with isPlace := · }) }]

def record (dialect : Dialect) : Record Configuration where
  typeName := "Config"
  initial := .standard
  fields := [
    { name := "search"
      read setting configuration :=
        ((searchRecord dialect).read dialect setting).map ({ configuration with search := · }) },
    { name := "timetable"
      read setting configuration :=
        ((calendarRecord dialect).read dialect setting).map
          ({ configuration with calendar := · }) },
    { name := "locations"
      read setting configuration :=
        (sequence (locationRecord.read dialect) setting).map
          ({ configuration with locations := · }) },
    { name := "persist_path"
      read setting configuration :=
        (optional string setting).map ({ configuration with persistPath := · }) }]

/-- Reads a configuration from settings of a dialect. -/
def ofSetting (dialect : Dialect) : Setting → Except ReadError Configuration :=
  (record dialect).read dialect

end Configuration

end Unconference
