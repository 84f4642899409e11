/-
**Loading configurations.**

A configuration is read from a YAML document and checked.  A document that is no configuration is
reported with the fault only if it can be read as a value of any type.

Main definitions:

* `SidecarConfig.parse` — the configuration of a text;
* `SidecarConfig.load` — the configuration of a file.
-/

import NodeSidecar.Config.Validation
import NodeSidecar.Decode.Yaml

set_option autoImplicit false

namespace NodeSidecar.SidecarConfig

/-- The configuration of a document, not checked yet. -/
def ofDocument (d : Yaml.Document) : Except ConfigError SidecarConfig :=
  match decode Decode.Format.yaml (.ofDocument d) with
  | .ok c => .ok c
  | .error failure => .error (if d.value?.isSome then .undecodable failure else .malformed)

/-- The configuration of a text. -/
def parse (s : String) : Except ConfigError SidecarConfig :=
  match Yaml.Document.ofText? s with
  | none => .error .malformed
  | some d => do
    let c ← ofDocument d
    c.check
    return c

/-- The configuration of a file, given by its path and its bytes or why they cannot be read. -/
def load (path : String) (content : Except FileError (List UInt8)) :
    Except ConfigError SidecarConfig :=
  match content with
  | .error e => .error (.read path (.file e))
  | .ok bytes =>
    match Text.ofUtf8 bytes with
    | .error _ => .error (.read path .notText)
    | .ok s => parse s

end NodeSidecar.SidecarConfig
