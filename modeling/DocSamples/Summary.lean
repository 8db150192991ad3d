import DocSamples.Document
import DocSamples.JsonValue

namespace DocSamples

def Verdict.toJson (v : Verdict) : JsonValue :=
  .object [
    ("status", .text v.status),
    ("message", .text v.message),
    ("line", .ofOption .int v.line),
    ("kind", .ofOption (fun k => .text k.name) v.kind?),
    ("strategy", .text v.strategyName),
    ("shape", .text v.shape.name),
    ("attempts", .int v.attempts)]

def Outcome.toJson (s : Strategy) (o : Outcome) : JsonValue :=
  .object [
    ("strategy", .text s.name),
    ("kind", .text o.kind.name),
    ("message", .text o.message),
    ("line", .ofOption .int o.line)]

def Failure.toJson (f : Failure) : JsonValue :=
  .object [
    ("line", .int f.line),
    ("column", .int Failure.column),
    ("message", .text f.message)]

def Report.toJson (r : Report) : JsonValue :=
  let counts : List (Text × JsonValue) := [
    ("path", .ofOption (fun p => .text p.text) r.path),
    ("checked", .int r.checked),
    ("skipped", .int r.skipped),
    ("ok", .bool r.isOk)]
  let error : List (Text × JsonValue) :=
    match r.failure with
    | some f => [("error", f.toJson)]
    | none => []
  .object (counts ++ error)

namespace Report

def failures (rs : List Report) : List Report := rs.filter (!·.isOk)

def allToJson (rs : List Report) : JsonValue :=
  .object [("documents", .array (rs.map toJson)), ("failed", .int (failures rs).length)]

def total (count : Report → Nat) : List Report → Nat
  | [] => 0
  | r :: rs => count r + total count rs

def summary (rs : List Report) : Text :=
  let count (n : Nat) : Text := .ofNat n
  let failed := (failures rs).length
  if failed = 0 then
    "Validated " ++ count (total checked rs) ++ " scaf snippet(s) in " ++ count rs.length
      ++ " document(s) (" ++ count (total skipped rs) ++ " skipped)."
  else
    "scaf snippet validation failed in " ++ count failed ++ "/" ++ count rs.length
      ++ " document(s)."

end Report

end DocSamples
