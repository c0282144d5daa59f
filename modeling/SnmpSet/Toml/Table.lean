import SnmpSet.Toml.Basic

/-!
# Building tables

The lines of a document add to its tables one by one. A table can be named by a
header of its own, be made on the way to a longer header, or be made on the way
by a dotted key; what may still be added to it depends on which. No key is set
twice.
-/

namespace SnmpSet.Toml

/-- A dotted key: the keys of the tables to go through, then the key to set there. -/
structure KeyPath where
  through : List String
  last : String

/-- A key with the value to set it to. -/
structure Pair where
  key : KeyPath
  value : Toml

/-- What introduces a table of a document. -/
inductive Header where
  /-- The key in single brackets, which names one table. -/
  | single (key : KeyPath)
  /-- The key in double brackets, which names one more table each time. -/
  | repeated (key : KeyPath)

/-- A header with the pairs below it. -/
structure TableSection where
  header : Header
  pairs : List Pair

/-- How a table came to be. -/
inductive Origin where
  /-- A header names the table, or it is the document itself. -/
  | header
  /-- A header names a table below it. -/
  | longerHeader
  /-- A dotted key goes through it. -/
  | dottedKey
  deriving DecidableEq

/-- What a key stands for while a document is being read. -/
inductive Node where
  /-- A value that nothing can be added to. -/
  | value (v : Toml)
  /-- A table that lines may add to. -/
  | table (origin : Origin) (fields : List (String × Node))
  /-- The tables of one repeated header, oldest first. -/
  | tables (items : List (List (String × Node)))

/-- The fields of a table that is being built. -/
abbrev Fields := List (String × Node)

namespace Fields

/-- What a key stands for. -/
def get? (fields : Fields) (key : String) : Option Node :=
  (fields.find? fun field => field.1 = key).map Prod.snd

/-- The fields with a key set. -/
def set : Fields → String → Node → Fields
  | [], key, node => [(key, node)]
  | (name, old) :: fields, key, node =>
    if name = key then (key, node) :: fields else (name, old) :: set fields key node

/-- Changes the table that a path leads to. Tables that are missing on the way are
made, and of a repeated header the latest table is taken. A dotted key does not
go through a table that a header names. -/
def change (made : Origin) (f : Origin → Fields → Option Fields) :
    (path : List String) → (origin : Origin) → Fields → Option Fields
  | [], origin, fields => f origin fields
  | key :: path, _, fields =>
    match get? fields key with
    | none => (change made f path made []).map fun new => set fields key (.table made new)
    | some (.value _) => none
    | some (.table origin old) =>
      if made = .dottedKey ∧ origin = .header then none
      else (change made f path origin old).map fun new => set fields key (.table origin new)
    | some (.tables items) =>
      match items.getLast? with
      | none => none
      | some latest =>
        (change made f path .header latest).map fun new =>
          set fields key (.tables (items.dropLast ++ [new]))

/-- Sets a key that is not set yet. A dotted key sets keys only in tables that
dotted keys made, and a plain key only in others. -/
def addPair (fields : Fields) (pair : Pair) : Option Fields :=
  change .dottedKey (fun origin fields =>
      if (origin = .dottedKey ↔ pair.key.through = []) then none
      else
        match get? fields pair.key.last with
        | some _ => none
        | none => some (set fields pair.key.last (.value pair.value)))
    pair.key.through .header fields

/-- Sets keys one after another. -/
def addPairs (fields : Fields) (pairs : List Pair) : Option Fields := pairs.foldlM addPair fields

/-- Adds a table that a header names. The header may come after longer headers,
whose tables are kept; otherwise its key is new. -/
def addTable (fields : Fields) (key : KeyPath) (pairs : List Pair) : Option Fields :=
  change .longerHeader (fun _ fields =>
      match get? fields key.last with
      | none => (addPairs [] pairs).map fun new => set fields key.last (.table .header new)
      | some (.table .longerHeader old) =>
        (addPairs old pairs).map fun new => set fields key.last (.table .header new)
      | some _ => none)
    key.through .header fields

/-- Adds a table to those of a repeated header. -/
def addItem (fields : Fields) (key : KeyPath) (pairs : List Pair) : Option Fields :=
  change .longerHeader (fun _ fields =>
      match get? fields key.last with
      | none => (addPairs [] pairs).map fun new => set fields key.last (.tables [new])
      | some (.tables items) =>
        (addPairs [] pairs).map fun new => set fields key.last (.tables (items ++ [new]))
      | some _ => none)
    key.through .header fields

/-- Adds the table of a section. -/
def addSection (fields : Fields) (s : TableSection) : Option Fields :=
  match s.header with
  | .single key => addTable fields key s.pairs
  | .repeated key => addItem fields key s.pairs

end Fields

mutual

/-- The value that a node comes to when the document ends. -/
def Node.finish : Node → Toml
  | .value v => v
  | .table _ fields => .table (finishFields fields)
  | .tables items => .array (finishItems items)

/-- The values of finished fields. -/
def finishFields : List (String × Node) → List (String × Toml)
  | [] => []
  | (key, node) :: fields => (key, node.finish) :: finishFields fields

/-- The values of finished tables. -/
def finishItems : List (List (String × Node)) → List Toml
  | [] => []
  | fields :: items => .table (finishFields fields) :: finishItems items

end

/-- The table of an inline list of pairs. -/
def ofPairs? (pairs : List Pair) : Option Toml :=
  (Fields.addPairs [] pairs).map fun fields => .table (finishFields fields)

end SnmpSet.Toml
