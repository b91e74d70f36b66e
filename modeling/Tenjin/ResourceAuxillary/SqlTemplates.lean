import Tenjin.Foundation.Template
import Tenjin.Python.Runtime

/-!
# The statements of association insertion and deduplication

The templates of `sql.py` that an association upsert and the deduplication of a batch are
composed of.  Composing fills
named holes, as `SQL.format` does, and a hole without an argument is a `KeyError`.
-/

namespace Tenjin
namespace ResourceAuxillary

open Python Foundation

/-- The `action` of an association consumer. -/
inductive AssociationAction
  | save
  | vote
  | subscribe
  deriving DecidableEq

/-- `Identifier(name)` in a composed statement: quoted, with quotes doubled. -/
def identifier (name : String) : String :=
  "\"" ++ String.ofList (name.toList.flatMap fun c => if c.toNat = 34 then [c, c] else [c]) ++ "\""

/-- `SQL(", ").join(map(Identifier, names))`. -/
def identifiers (names : List String) : String :=
  pyJoin ", " (names.map identifier)

/-- `SQL(...).format(...)`. -/
def sqlFormat (template : List Segment) (args : List (String × String)) :
    Except Exn String :=
  match format args template with
  | .error name => .error (.keyError name)
  | .ok statement => .ok statement

theorem sqlFormat_isOk (template : List Segment) (args : List (String × String)) :
    (sqlFormat template args).isOk = fillable (args.map Prod.fst) template := by
  rw [← format_isOk, sqlFormat]
  cases format args template <;> rfl

/-- `TEMP_TABLE_SQL`. -/
def tempTableSql : List Segment :=
  [.text "CREATE TEMP TABLE ", .hole "table", .text " (LIKE ", .hole "reference",
    .text " INCLUDING DEFAULTS) ON COMMIT DROP;"]

/-- `prepare_temp_table_sql`. -/
def prepareTempTableSql (tablename referenceTable : String) : Except Exn String :=
  sqlFormat tempTableSql
    [("table", identifier tablename), ("reference", identifier referenceTable)]

/-- `WEAK_INSERTION_COPY_SQL`. -/
def weakInsertionCopySql : List Segment :=
  [.text "COPY ", .hole "table", .text " (", .hole "columns", .text ") FROM STDIN;"]

/-- `prepare_weak_insertion_copy_sql`. -/
def prepareWeakInsertionCopySql (table : String) (columns : List String) :
    Except Exn String :=
  sqlFormat weakInsertionCopySql
    [("table", identifier table), ("columns", identifiers columns)]

/-- `WEAK_INSERTION_SQL`. -/
def weakInsertionSql : List Segment :=
  [.text "INSERT INTO ", .hole "table", .text " AS insertion_table (", .hole "columns",
    .text ") SELECT ", .hole "columns", .text " FROM ", .hole "temp_table",
    .text " ON CONFLICT (", .hole "conflict_columns", .text ") DO UPDATE SET ",
    .hole "state_column", .text " = EXCLUDED.", .hole "state_column", .text ", ",
    .hole "event_seq_column", .text " = EXCLUDED.", .hole "event_seq_column",
    .text " WHERE ", .hole "event_seq_column", .text " < EXCLUDED.",
    .hole "event_seq_column", .text " RETURNING insertion_table.",
    .hole "event_id_column", .text ";"]

/-- The column that an action writes. -/
def stateColumn : AssociationAction → String
  | .save => "is_saved"
  | .vote => "vote_type"
  | .subscribe => "is_subscribed"

/-- `prepare_weak_insertion_sql`.  No argument is given for `event_id_column`. -/
def prepareWeakInsertionSql (table tempTable : String)
    (columns conflictingColumns : List String) (action : AssociationAction) :
    Except Exn String :=
  sqlFormat weakInsertionSql
    [("table", identifier table), ("columns", identifiers columns),
      ("temp_table", identifier tempTable),
      ("state_column", identifier (stateColumn action)),
      ("event_seq_column", identifier "last_event_id"),
      ("conflict_columns", identifiers conflictingColumns)]

/-- `SINGLE_DEDUP_STATEMENT`. -/
def singleDedupStatement : List Segment :=
  [.text "INSERT INTO ", .hole "event_dedup_table", .text " (", .hole "event_id_col",
    .text ", ", .hole "ack_time_col", .text ") VALUES (", .hole "event_id", .text ", ",
    .hole "acknowledgement_time", .text ")"]

/-- `BATCH_DEDUP_STATEMENT`, which nothing in the repository formats. -/
def batchDedupStatement : List Segment :=
  [.text "WITH attempted AS (INSERT INTO ", .hole "event_dedup_table", .text " (",
    .hole "event_id_col", .text ", ", .hole "ack_time_col", .text ") SELECT ",
    .hole "event_id_col", .text ", ", .hole "ack_time_col", .text " FROM ",
    .hole "temp_table", .text " ON CONFLICT (", .hole "event_id_col",
    .text ") DO NOTHING RETURNING ", .hole "event_id_col", .text ") SELECT ",
    .hole "event_id_col", .text " FROM attempted;"]

/-- The arguments that `prepare_batch_dedup_sql` gives. -/
def batchDedupArguments (tempTable : String) : List (String × String) :=
  [("event_dedup_table", identifier "stream_events"),
    ("event_id_col", identifier "event_id"),
    ("ack_time_col", identifier "acknowledgement_time"),
    ("temp_table", identifier tempTable)]

/-- `prepare_batch_dedup_sql`.  It formats the statement for single events. -/
def prepareBatchDedupSql (tempTable : String) : Except Exn String :=
  sqlFormat singleDedupStatement (batchDedupArguments tempTable)

/-- The statement for single events cannot be composed for a batch: the hole for the one
event id stays empty. -/
theorem prepareBatchDedupSql_error (tempTable : String) :
    prepareBatchDedupSql tempTable = .error (.keyError "event_id") := by
  rfl

/-- The statement for batches can be composed of the same arguments. -/
theorem sqlFormat_batchDedupStatement (tempTable : String) :
    ∃ statement, sqlFormat batchDedupStatement (batchDedupArguments tempTable) =
      .ok statement :=
  ⟨_, rfl⟩

/-- The upsert cannot be composed: its last hole stays empty. -/
theorem prepareWeakInsertionSql_error (table tempTable : String)
    (columns conflictingColumns : List String) (action : AssociationAction) :
    prepareWeakInsertionSql table tempTable columns conflictingColumns action =
      .error (.keyError "event_id_column") := by
  unfold prepareWeakInsertionSql sqlFormat
  split
  · rename_i name hformat
    obtain ⟨hhole, hmissing⟩ := format_error hformat
    -- every other hole of the statement has an argument
    have hname : name = "event_id_column" := by
      simp only [weakInsertionSql, List.mem_cons, List.not_mem_nil, or_false, reduceCtorEq,
        false_or, Segment.hole.injEq] at hhole
      rcases hhole with rfl | rfl | rfl | rfl | rfl | rfl | rfl | rfl | rfl | rfl | rfl | rfl
      all_goals first | rfl | simp [List.lookup_cons] at hmissing
    rw [hname]
  · rename_i statement hformat
    have hfilled := (format_eq_ok_iff _ _).mp ⟨statement, hformat⟩ "event_id_column"
      (by simp [weakInsertionSql])
    simp [List.lookup_cons] at hfilled

end ResourceAuxillary
end Tenjin
