import FixBatch.Plan.Json
import FixBatch.Report
import FixBatch.Timestamp.Reader

/-!
# FixBatch.Report.Json

The JSON form of reports.  Timestamps that are not set are left out; when a report is read, a
missing flag is false and a missing list is empty.
-/

namespace FixBatch

open Json

/-- The words for modes. -/
def Mode.known : List (String × Mode) :=
  [Mode.all, .including, .excluding, .legacy].map fun m => (m.word, m)

def Mode.decoder : Decoder Mode := words known

/-- The words for scopes. -/
def Scope.known : List (String × Scope) := [Scope.file, .directory, .path].map fun s => (s.word, s)

def Scope.decoder : Decoder Scope := words known

/-- Reads an instant. -/
def Timestamp.decoder : Decoder Timestamp := fun d => do
  let s ← string "an RFC 3339 formatted date and time string" d
  (Timestamp.read s.toList).mapError fun e => .data e.message

/-- Reads an instant; null is none. -/
def Timestamp.nullableDecoder : Decoder (Option Timestamp) := nullable decoder

/-! ## Failures -/

namespace Failure

def toJson (f : Failure) : Value :=
  .object [("path", f.path.toJson), ("scope", .text f.scope.word), ("message", .text f.message)]

/-- The form of failures. -/
def record : Record where
  name := "PathFailure"
  fields := [.of "path" Path.decoder, .of "scope" Scope.decoder, .of "message" (string "a string")]

def decoder : Decoder Failure := fun d => do
  let found ← record.read d
  let path ← found.get "path" Path.decoder
  let scope ← found.get "scope" Scope.decoder
  let message ← found.get "message" (string "a string")
  return ⟨path, scope, message⟩

end Failure

/-! ## Reports -/

namespace Report

def toJson (r : Report) : Value :=
  .object <|
    [("schema", .text r.schema), ("mode", .text r.mode.word)] ++
      (r.started.map fun t => ("started_at", .text t.text)).toList ++
      (r.ended.map fun t => ("ended_at", .text t.text)).toList ++
      [("attempted", .number r.attempted), ("succeeded", .number r.succeeded),
        ("failed", .number r.failed), ("aborted", .bool r.aborted),
        ("failures", .array (r.failures.map Failure.toJson)),
        ("cleanup_failures", .array (r.cleanupFailures.map Failure.toJson))]

/-- The form of reports. -/
def record : Record where
  name := "DispatchReport"
  fields := [.of "schema" (string "a string"), .of "mode" Mode.decoder,
    (.of "started_at" Timestamp.nullableDecoder : Field).optional,
    (.of "ended_at" Timestamp.nullableDecoder : Field).optional,
    .of "attempted" natural, .of "succeeded" natural, .of "failed" natural,
    (.of "aborted" truth : Field).optional,
    (.of "failures" (array Failure.decoder) : Field).optional,
    (.of "cleanup_failures" (array Failure.decoder) : Field).optional]

def decoder : Decoder Report := fun d => do
  let found ← record.read d
  let schema ← found.get "schema" (string "a string")
  let mode ← found.get "mode" Mode.decoder
  let started ← found.getD "started_at" Timestamp.nullableDecoder none
  let ended ← found.getD "ended_at" Timestamp.nullableDecoder none
  let attempted ← found.get "attempted" natural
  let succeeded ← found.get "succeeded" natural
  let failed ← found.get "failed" natural
  let aborted ← found.getD "aborted" truth false
  let failures ← found.getD "failures" (array Failure.decoder) []
  let cleanupFailures ← found.getD "cleanup_failures" (array Failure.decoder) []
  return ⟨schema, mode, started, ended, attempted, succeeded, failed, aborted, failures,
    cleanupFailures⟩

end Report

end FixBatch
