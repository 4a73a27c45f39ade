import TestWatch.Text.Basic

/-!
# The journal

What the program says about its work: entries with a level, the topic that they belong to, and
their text, in the order in which they were made.
-/

namespace TestWatch

/-- How much an entry matters. -/
inductive Level where
  /-- Something went wrong. -/
  | error
  /-- Something is odd. -/
  | warn
  /-- Something happened. -/
  | info
  /-- A detail. -/
  | debug
  /-- A minute detail. -/
  | trace
  deriving DecidableEq, Repr

/-- The name of a level. -/
def Level.name : Level → Text
  | .error => "ERROR".toList
  | .warn => "WARN".toList
  | .info => "INFO".toList
  | .debug => "DEBUG".toList
  | .trace => "TRACE".toList

/-- The detail of a level, from one for errors to five. -/
def Level.detail : Level → Nat
  | .error => 1
  | .warn => 2
  | .info => 3
  | .debug => 4
  | .trace => 5

/-- What an entry is about. -/
inductive Topic where
  /-- Watching a run. -/
  | monitoring
  /-- Loading a binary. -/
  | loading
  /-- Reading the settings. -/
  | settings
  /-- Carrying a command out. -/
  | command
  /-- Reporting a failure. -/
  | failure
  /-- The causes of a failure, which are printed without their level. -/
  | cause
  /-- Setting the journal up. -/
  | journal
  deriving DecidableEq, Repr

/-- The path by which directives name a topic. -/
def Topic.path : Topic → Text
  | .monitoring => "unity_monitor::monitor".toList
  | .loading => "unity_monitor::loader".toList
  | .settings => "unity_monitor::config".toList
  | .command => "esp_ram_test::dispatch".toList
  | .failure => "esp_ram_test::errors".toList
  | .cause => "esp_ram_test::no_heading".toList
  | .journal => "esp_ram_test::output".toList

/-- An entry. -/
structure Entry where
  /-- How much it matters. -/
  level : Level
  /-- What it is about. -/
  topic : Topic
  /-- What it says. -/
  text : Text
  deriving DecidableEq, Repr

/-- Entries in the order in which they were made. -/
abbrev Journal := List Entry

/-- The entries that are at most as detailed as a level. -/
def Journal.upTo (level : Level) (journal : Journal) : Journal :=
  journal.filter fun entry => entry.level.detail ≤ level.detail

end TestWatch
