/-
**Configured timers.**

A timer section gives either a period in milliseconds or a calendar expression, the latter with or
without a zone of its own.  A section that could be read both ways gives a period.

Main definitions:

* `TimerSection` — the two forms;
* `TimerSection.toJson`, `TimerSection.decode` — their place in documents;
* `TimerSection.build` — the timer, with a zone for expressions without one.
-/

import NodeSidecar.Decode.Format
import NodeSidecar.Timer

set_option autoImplicit false

namespace NodeSidecar

open Decode

/-- A timer as it is configured. -/
inductive TimerSection where
  | interval (ms : UInt64)
  | cron (expression : String) (zone? : Option String)
  deriving DecidableEq

namespace TimerSection

/-- The JSON form of a section. -/
def toJson : TimerSection → Json
  | .interval ms => .object [("interval_ms", .ofNat ms.toNat)]
  | .cron expression zone? =>
    .object [("cron", .str expression), ("timezone", .ofOption .str zone?)]

/-- A map of fields in the form that gives a period. -/
def readInterval (d : Data) : Decoded TimerSection :=
  let f := Format.data
  let ms : Field Data UInt64 :=
    ⟨"interval_ms", fun d => (f.unsigned 18446744073709551615 "u64" d).map UInt64.ofNat, none⟩
  record f "TimerConfig::Interval" [ms.slot] d fun found => do return .interval (← ms.get found)

/-- A map of fields in the form that gives an expression. -/
def readCron (d : Data) : Decoded TimerSection :=
  let f := Format.data
  let cron : Field Data String := ⟨"cron", f.text, none⟩
  let zone? : Field Data (Option String) := ⟨"timezone", option f f.text, some none⟩
  record f "TimerConfig::Cron" [cron.slot, zone?.slot] d fun found => do
    return .cron (← cron.get found) (← zone?.get found)

/-- The section that a document value gives: the first of the two forms that it fits. -/
def ofData? : Data → Option TimerSection
  | .map entries =>
    match readInterval (.map entries) with
    | .ok section_ => some section_
    | .error _ => (readCron (.map entries)).toOption
  | _ => none

/-- Decodes a section. -/
def decode {δ : Type} (f : Format δ) (d : δ) : Decoded TimerSection := do
  match ofData? (← f.content d) with
  | some section_ => .ok section_
  | none => fail (.noForm "TimerConfig")

/-- The timer of a section; `zone` is used for an expression without a zone of its own. -/
def build (zone : String) : TimerSection → Except TimerError Timer
  | .interval ms => Timer.everyMillis ms.toNat
  | .cron expression zone? => Timer.cronIn expression (zone?.getD zone)

end TimerSection

end NodeSidecar
