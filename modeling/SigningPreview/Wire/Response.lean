import SigningPreview.Record
import SigningPreview.Response
import SigningPreview.Wire.Evm
import SigningPreview.Wire.Solana

/-! # How records and responses are written

The envelope is stricter than the payloads in it: an action, a severity, a warning's parts, a
record's data and the results themselves must be there, and lists cannot be `null`. -/
namespace SigningPreview

open Json (Codec Document Fault Layout)
open Json.Field (nullable optional required withDefault)

def Chain.dataCodec : (c : Chain) → Codec c.Data
  | .evm => Evm.Data.layout.codec
  | .svm => Solana.Data.layout.codec

/-! ## Records -/

/-- The tag and data of a record stand in an object of their own. -/
def Record.infoLayout (c : Chain) : Layout (Tag × c.Data) where
  name := "RawInfo"
  fields := .cons (nullable "kind" Tag.codec .blank) <| .cons (required "data" c.dataCodec) .nil
  ofValues | (tag, data, ()) => (tag, data)
  toValues | (tag, data) => (tag, data, ())

def Record.layout (c : Chain) : Layout (Record c) where
  name := "RawStateChange"
  fields := .cons (Wire.textField "humanReadableDiff") <|
    .cons (required "rawInfo" (Record.infoLayout c).codec) .nil
  ofValues | (headline, (tag, data), ()) => ⟨headline, tag, data⟩
  toValues r := (r.headline, (r.tag, r.data), ())

def Record.codec (c : Chain) : Codec (Record c) := (Record.layout c).codec

/-- An effect is written as its record, and read as the record it is decided from. -/
def Effect.codec (c : Chain) : Codec (Effect c) :=
  (Record.codec c).map Record.decode Effect.toRecord

/-! ## Responses -/

def Action.codec : Codec Action :=
  .variant [("NONE", .none), ("WARN", .warn), ("BLOCK", .block)] Action.word

def Severity.codec : Codec Severity :=
  .variant [("WARNING", .warning), ("CRITICAL", .critical)] Severity.word

def Warning.layout : Layout Warning where
  name := "Warning"
  fields := .cons (required "kind" .text) <| .cons (required "severity" Severity.codec) <|
    .cons (required "message" .text) .nil
  ofValues | (kind, severity, message, ()) => ⟨kind, severity, message⟩
  toValues w := (w.kind, w.severity, w.message, ())

def Failure.layout : Layout Failure where
  name := "SimulationError"
  fields := .cons (withDefault "kind" .text "") <|
    .cons (withDefault "humanReadableError" .text "") .nil
  ofValues | (kind, explanation, ()) => ⟨kind, explanation⟩
  toValues f := (f.kind, f.explanation, ())

/-- The failure and the effects of a response stand in an object of their own. -/
def Response.resultLayout {α : Type} (effect : Codec α) : Layout (Option Failure × List α) where
  name := "SimulationResult"
  fields := .cons (optional "error" Failure.layout.codec) <|
    .cons (withDefault "expectedStateChanges" (.list effect) []) .nil
  ofValues | (failure, effects, ()) => (failure, effects)
  toValues | (failure, effects) => (failure, effects, ())

def Response.layout {α : Type} (effect : Codec α) : Layout (Response α) where
  name := "SimulationResponse"
  fields := .cons (required "action" Action.codec) <|
    .cons (withDefault "warnings" (.list Warning.layout.codec) []) <|
    .cons (required "simulationResults" (Response.resultLayout effect).codec) .nil
  ofValues
    | (action, warnings, (failure, effects), ()) => ⟨action, warnings, failure, effects⟩
  toValues r := (r.action, r.warnings, (r.failure, r.effects), ())

def Response.codec {α : Type} (effect : Codec α) : Codec (Response α) :=
  (Response.layout effect).codec

/-- The response that a text is, with the records as they were received. -/
def Response.ofText (c : Chain) (text : String) : Except Fault (Response (Record c)) :=
  (Document.ofText text).read (Response.codec (Record.codec c))

end SigningPreview
