import SchemaAtlas.Log.Record

/-!
# Records in JSON

On one line, JSON is written in the same way at every depth, so the line of a record lists its entries
one after another (`jsonLine_eq`).
-/

namespace SchemaAtlas

open Text

namespace Json

mutual

/-- Nothing on one line is set off by its depth. -/
theorem write_oneLine (depth : Nat) : ∀ value, write oneLine depth value = value.toJson
  | .scalar _ => by rw [Data.toJson, write, write]
  | .list [] => by rw [Data.toJson, write, write]
  | .list (item :: rest) => by
    rw [Data.toJson, write, write, writeItems_oneLine (depth + 1), writeItems_oneLine (0 + 1)]
    rfl
  | .mapping [] => by rw [Data.toJson, write, write]
  | .mapping (entry :: rest) => by
    rw [Data.toJson, write, write, writeMembers_oneLine (depth + 1), writeMembers_oneLine (0 + 1)]
    rfl

theorem writeItems_oneLine (depth : Nat) :
    ∀ items, writeItems oneLine depth items = items.map Data.toJson
  | [] => by rw [writeItems, List.map_nil]
  | item :: rest => by
    rw [writeItems, write_oneLine depth item, writeItems_oneLine depth rest, List.map_cons]

theorem writeMembers_oneLine (depth : Nat) : ∀ entries, writeMembers oneLine depth entries =
    entries.map fun e => name e.1 ++ ": " ++ e.2.toJson
  | [] => by rw [writeMembers, List.map_nil]
  | (key, value) :: rest => by
    rw [writeMembers, write_oneLine depth value, writeMembers_oneLine depth rest, List.map_cons]
    rfl

end

end Json

/-- A mapping whose keys are texts, on one line. -/
theorem Data.toJson_record (entries : Keyed Data) : (record entries).toJson =
    "\x7b" ++ joined ", " (entries.map fun e => Json.string e.1 ++ ": " ++ e.2.toJson) ++ "\x7d" := by
  have hmembers : Json.writeMembers Json.oneLine 1 (textKeyed entries) =
      entries.map fun e => Json.string e.1 ++ ": " ++ e.2.toJson := by
    rw [Json.writeMembers_oneLine, textKeyed, List.map_map]
    rfl
  cases entries with
  | nil => rfl
  | cons entry rest =>
    rw [← hmembers, toJson, record, textKeyed, List.map_cons, Json.write]
    simp only [Json.oneLine, String.append_empty]

/-- The line of a record in JSON has all that the record says, each under its name. -/
theorem LogRecord.jsonLine_eq (stamp : LogStamp) (record : LogRecord) :
    record.jsonLine stamp = "\x7b" ++ joined ", " ((record.entries stamp).map fun e =>
      Json.string e.1 ++ ": " ++ e.2.toJson) ++ "\x7d" :=
  Data.toJson_record _

end SchemaAtlas
