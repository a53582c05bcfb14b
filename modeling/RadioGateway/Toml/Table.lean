import RadioGateway.Toml.Value

/-!
# Filling TOML tables

A document fills its tables line by line. Headers and dotted keys pass through tables on their way;
what they find there decides whether they may go on. Braces close a table for good, and a dotted key
does not enter a table that has a header of its own.
-/

namespace RadioGateway.Toml.Table

/-- Changes the table at the end of a path, making the tables on the way that do not exist. The path
belongs to a dotted key or to a header; a header goes on in the last table of an array. -/
def update? (isDotted : Bool) : List String → (Table → Option Table) → Table → Option Table
  | [], change, table => change table
  | key :: path, change, table =>
      match table.find? key with
      | none =>
          (update? isDotted path change { form := if isDotted then .dotted else .implied }).map
            fun inner => table.add key inner.value
      | some (.table form fields) =>
          if form = .inline || (isDotted && form = .header) then none
          else
            (update? isDotted path change { form, fields }).map
              fun inner => table.replace key inner.value
      | some (.array true items) =>
          match items.reverse with
          | .table form fields :: before =>
              (update? isDotted path change { form, fields }).map fun inner =>
                table.replace key (.array true (before.reverse ++ [inner.value]))
          | _ => none
      | some _ => none

def atKey? (isDotted : Bool) (path : List String) (change : String → Table → Option Table)
    (table : Table) : Option Table :=
  path.getLast?.bind fun key => table.update? isDotted path.dropLast (change key)

/-- Adds a field with a new key. A dotted key adds to tables that dotted keys have made, and to no
others. -/
def assign? (path : List String) (value : Value) (table : Table) : Option Table :=
  table.atKey? true path fun key inner =>
    if inner.form = .dotted ↔ path.length = 1 then none
    else
      match inner.find? key with
      | none => some (inner.add key value)
      | some _ => none

/-- Begins the table of a header. The table may exist already if longer headers have passed through
it. -/
def begin? (path : List String) (table : Table) : Option Table :=
  table.atKey? false path fun key inner =>
    match inner.find? key with
    | none => some (inner.add key (.table .header []))
    | some (.table .implied fields) => some (inner.replace key (.table .header fields))
    | some _ => none

def extend? (path : List String) (table : Table) : Option Table :=
  table.atKey? false path fun key inner =>
    match inner.find? key with
    | none => some (inner.add key (.array true [.table .header []]))
    | some (.array true items) =>
        some (inner.replace key (.array true (items ++ [.table .header []])))
    | some _ => none

end RadioGateway.Toml.Table
