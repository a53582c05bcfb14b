import RadioGateway.Toml.Quoted
import RadioGateway.Toml.Scalar
import RadioGateway.Toml.Table

/-!
# TOML documents

A document is a sequence of lines: headers, each of which begins a table, and fields of the table
that was begun last. Reading takes the text in steps; a step that takes nothing ends it without a
result.
-/

namespace RadioGateway.Toml

def isKeyChar (char : Char) : Bool := char.isAlphanum || char = '_' || char = '-'

def key? (text : List Char) : Option (String × List Char) :=
  let bare := text.takeWhile isKeyChar
  if bare.isEmpty then quotedLine? text
  else some (String.ofList bare, text.dropWhile isKeyChar)

/-- Keys joined by dots, and what follows them and the blanks behind them. -/
def path? (text : List Char) : Option (List String × List Char) :=
  match key? (skipBlanks text) with
  | none => none
  | some (key, rest) =>
      match skipBlanks rest with
      | '.' :: more =>
          if more.length < text.length then
            (path? more).map fun (path, after) => (key :: path, after)
          else none
      | after => some ([key], after)
termination_by text.length

/-- A reader of values: the value at the front of a text, and what follows it. -/
abbrev ValueReader := List Char → Option (Value × List Char)

/-- The items of an array up to its closing bracket; a comma may follow the last one. -/
def items? (read : ValueReader) (text : List Char) : Option (List Value × List Char) :=
  match skipLines? text with
  | none => none
  | some (']' :: rest) => some ([], rest)
  | some front =>
      match read front with
      | none => none
      | some (item, rest) =>
          match skipLines? rest with
          | some (',' :: more) =>
              if more.length < text.length then
                (items? read more).map fun (items, after) => (item :: items, after)
              else none
          | some (']' :: after) => some ([item], after)
          | _ => none
termination_by text.length

def field? (read : ValueReader) (text : List Char) : Option (List String × Value × List Char) :=
  match path? text with
  | some (path, '=' :: rest) => (read (skipBlanks rest)).map fun (value, after) => (path, value, after)
  | _ => none

def fields? (read : ValueReader) (table : Table) (text : List Char) : Option (Table × List Char) :=
  match field? read text with
  | none => none
  | some (path, value, rest) =>
      match table.assign? path value with
      | none => none
      | some table =>
          match skipBlanks rest with
          | ',' :: more => if more.length < text.length then fields? read table more else none
          | '}' :: after => some (table, after)
          | _ => none
termination_by text.length

/-- A value in which arrays and tables are nested at most `depth` deep. -/
def value? : (depth : Nat) → ValueReader
  | depth, text =>
      match text, depth with
      | '[' :: rest, depth + 1 =>
          (items? (value? depth) rest).map fun (items, after) => (.array false items, after)
      | '{' :: rest, depth + 1 =>
          match skipBlanks rest with
          | '}' :: after => some (.table .inline [], after)
          | front =>
              (fields? (value? depth) { form := .inline } front).map
                fun (table, after) => (table.value, after)
      | '"' :: _, _ => (quoted? text).map fun (string, after) => (.string string, after)
      | '\'' :: _, _ => (quoted? text).map fun (string, after) => (.string string, after)
      | _, _ => scalarValue? text

def maxDepth : Nat := 80

/-- The tables read so far, and the path of the table that was begun last. -/
structure Draft where
  root : Table := { form := .header }
  current : List String := []

/-- Takes in the header or the field at the front of a line, if there is one. -/
def Draft.line? (draft : Draft) (text : List Char) : Option (Draft × List Char) :=
  match text with
  | [] => some (draft, text)
  | '#' :: _ => some (draft, text)
  | '\n' :: _ => some (draft, text)
  | '\r' :: _ => some (draft, text)
  | '[' :: '[' :: rest =>
      match path? rest with
      | some (path, ']' :: ']' :: after) =>
          (draft.root.extend? path).map fun root => ({ root, current := path }, after)
      | _ => none
  | '[' :: rest =>
      match path? rest with
      | some (path, ']' :: after) =>
          (draft.root.begin? path).map fun root => ({ root, current := path }, after)
      | _ => none
  | _ =>
      match field? (value? maxDepth) text with
      | some (path, value, after) =>
          (draft.root.update? false draft.current (Table.assign? path value)).map
            fun root => ({ draft with root }, after)
      | none => none

def Draft.finish? (draft : Draft) (text : List Char) : Option Table :=
  match draft.line? (skipBlanks text) with
  | none => none
  | some (draft, rest) =>
      match skipComment? rest with
      | none => none
      | some [] => some draft.root
      | some after =>
          match afterNewline? after with
          | none => none
          | some more => if more.length < text.length then draft.finish? more else none
termination_by text.length

/-- The table that a document denotes. A byte order mark at its front does not count. -/
def parse? (text : String) : Option Table :=
  match text.toList with
  | '\uFEFF' :: rest => ({} : Draft).finish? rest
  | whole => ({} : Draft).finish? whole

end RadioGateway.Toml
