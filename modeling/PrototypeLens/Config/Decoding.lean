import PrototypeLens.Config.Basic
import PrototypeLens.Toml.Document

/-!
# Decoding

How a configuration is read from a document. A record is decoded entry by entry in the order of the
document, and the first fault decides; settings that are not given keep their defaults.
-/

namespace PrototypeLens

open Toml (Node)

/-! ## Values -/

/-- Reads a value of one type from a node. -/
abbrev Decoder (α : Type) := Node → Except ConfigError α

/-- Reads a text. -/
def decodeText : Decoder String
  | .text s => .ok s
  | _ => .error .unexpectedType

/-- Reads a truth value. -/
def decodeBool : Decoder Bool
  | .boolean b => .ok b
  | _ => .error .unexpectedType

/-- Reads a list of texts. -/
def decodeTexts : Decoder (List String)
  | .array items => items.mapM decodeText
  | _ => .error .unexpectedType

/-! ## Records -/

/-- A field of a record: its name, and how a node changes the record. -/
structure RecordField (σ : Type) where
  /-- The name of the field. -/
  name : String
  /-- The record with the field read from a node. -/
  put : σ → Node → Except ConfigError σ

/-- A field with its decoder. -/
def RecordField.of {σ α : Type} (name : String) (decode : Decoder α) (set : σ → α → σ) :
    RecordField σ :=
  ⟨name, fun record node => (decode node).map (set record)⟩

/-- Reads an entry of a table into a record. -/
def putEntry {σ : Type} (fields : List (RecordField σ)) (record : σ) (entry : String × Node) :
    Except ConfigError σ :=
  match fields.find? (·.name == entry.1) with
  | some field => field.put record entry.2
  | none => .error (.unknownField entry.1 (fields.map (·.name)))

/-- Reads the entries of a table, in order. -/
def decodeEntries {σ : Type} (fields : List (RecordField σ)) (defaults : σ)
    (entries : Toml.Entries) : Except ConfigError σ :=
  entries.foldlM (putEntry fields) defaults

/-- Reads nodes as the fields of a record, in the order of the fields; surplus nodes are passed
over. -/
def decodePositions {σ : Type} (fields : List (RecordField σ)) (defaults : σ)
    (items : List Node) : Except ConfigError σ :=
  (fields.zip items).foldlM (fun record (pair : RecordField σ × Node) => pair.1.put record pair.2)
    defaults

/-- The one field of a date or a time that stands where a record is expected. -/
def momentField : String := "$__toml_private_datetime"

/-- Reads a record from a table, or from an array by position. -/
def decodeRecord {σ : Type} (fields : List (RecordField σ)) (defaults : σ) : Decoder σ
  | .table _ entries => decodeEntries fields defaults entries
  | .array items => decodePositions fields defaults items
  | .tables rows => decodePositions fields defaults (rows.map (.table .header))
  | .moment => .error (.unknownField momentField (fields.map (·.name)))
  | _ => .error .unexpectedType

/-! ## The records of a configuration -/

def LoggingSettings.fields : List (RecordField LoggingSettings) :=
  [.of "level" decodeText fun s level => { s with level },
   .of "json" decodeBool fun s json => { s with json },
   .of "stderr" decodeBool fun s stderr => { s with stderr },
   .of "file" decodeText fun s file => { s with file := some file }]

def Features.fields : List (RecordField Features) :=
  [.of "annotation_inheritance" decodeBool fun f b => { f with annotationInheritance := b },
   .of "bracketless_methods" decodeBool fun f b => { f with bracketlessMethods := b },
   .of "fluent_highlighting" decodeBool fun f b => { f with fluentHighlighting := b },
   .of "prototype_usage_inspection" decodeBool fun f b => { f with prototypeUsageInspection := b }]

def DiscoverySettings.fields : List (RecordField DiscoverySettings) :=
  [.of "manifest_path" decodeText fun s manifestPath => { s with manifestPath },
   .of "generated_markers" decodeTexts fun s generatedMarkers => { s with generatedMarkers }]

def Configuration.fields : List (RecordField Configuration) :=
  [.of "logging" (decodeRecord LoggingSettings.fields {}) fun c logging => { c with logging },
   .of "features" (decodeRecord Features.fields {}) fun c features => { c with features },
   .of "discovery" (decodeRecord DiscoverySettings.fields {}) fun c discovery =>
     { c with discovery }]

/-- The configuration with a given text. -/
def Configuration.parse (text : String) : Except ConfigError Configuration :=
  match Toml.parse? text with
  | some entries => decodeEntries Configuration.fields {} entries
  | none => .error .malformed

end PrototypeLens
