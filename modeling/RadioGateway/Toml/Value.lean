/-!
# TOML values

Values remember how their tables came about, because that decides what later lines of a document may
add to them.
-/

namespace RadioGateway.Toml

inductive TableForm where
  /-- By a header of its own, or as the whole document. -/
  | header
  /-- By a longer header that passes through it. -/
  | implied
  /-- By a dotted key that passes through it. -/
  | dotted
  | inline
  deriving DecidableEq, Repr

inductive Value where
  | string (text : String)
  | integer (number : Int)
  | float (literal : String)
  | boolean (value : Bool)
  | moment (literal : String)
  /-- An array; one that was made by headers takes further tables. -/
  | array (extensible : Bool) (items : List Value)
  | table (form : TableForm) (fields : List (String × Value))
  deriving Repr, Inhabited

structure Table where
  form : TableForm
  fields : List (String × Value) := []
  deriving Repr

namespace Table

def value (table : Table) : Value := .table table.form table.fields

def find? (table : Table) (key : String) : Option Value :=
  (table.fields.find? fun field => field.1 = key).map Prod.snd

def add (table : Table) (key : String) (value : Value) : Table :=
  { table with fields := table.fields ++ [(key, value)] }

def replace (table : Table) (key : String) (value : Value) : Table :=
  { table with
    fields := table.fields.map fun field => if field.1 = key then (key, value) else field }

end Table

end RadioGateway.Toml
