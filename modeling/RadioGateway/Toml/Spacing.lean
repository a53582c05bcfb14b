/-!
# Spacing in TOML

Blanks, line ends and comments. A comment runs to the end of its line and holds no control
characters but tabs.
-/

namespace RadioGateway.Toml

def isBlank (char : Char) : Bool := char = ' ' || char = '\t'

/-- Whether a character may stand in texts and comments. -/
def isText (char : Char) : Bool := char = '\t' || ('\x20' ≤ char && char ≠ '\x7f')

def skipBlanks (text : List Char) : List Char := text.dropWhile isBlank

def afterNewline? : List Char → Option (List Char)
  | '\n' :: rest => some rest
  | '\r' :: '\n' :: rest => some rest
  | _ => none

/-- What follows the blanks and the comment at the front of a text, which then ends or goes on with a
new line. Without a comment, anything may follow. -/
def skipComment? (text : List Char) : Option (List Char) :=
  match skipBlanks text with
  | '#' :: rest =>
      if (rest.dropWhile isText).isEmpty || (afterNewline? (rest.dropWhile isText)).isSome then
        some (rest.dropWhile isText)
      else none
  | text => some text

theorem length_dropWhile_le {α : Type} (test : α → Bool) (list : List α) :
    (list.dropWhile test).length ≤ list.length :=
  (List.dropWhile_sublist test).length_le

theorem length_afterNewline? {text rest : List Char} (found : afterNewline? text = some rest) :
    rest.length < text.length := by
  unfold afterNewline? at found
  split at found
  case h_1 =>
    cases found
    exact Nat.lt_succ_self _
  case h_2 =>
    cases found
    exact Nat.lt_add_of_pos_right Nat.two_pos
  case h_3 => cases found

theorem length_skipComment? {text rest : List Char} (found : skipComment? text = some rest) :
    rest.length ≤ text.length := by
  have shorter := length_dropWhile_le isBlank text
  unfold skipComment? skipBlanks at found
  split at found
  · rename_i after equal
    have := length_dropWhile_le isText after
    rw [equal, List.length_cons] at shorter
    split at found <;> simp_all
    omega
  · cases found
    exact shorter

/-- What follows all blanks, comments and line ends at the front of a text. -/
def skipLines? (text : List Char) : Option (List Char) :=
  match comment : skipComment? text with
  | none => none
  | some after =>
      match newline : afterNewline? after with
      | none => some after
      | some rest =>
          have := length_skipComment? comment
          have := length_afterNewline? newline
          skipLines? rest
termination_by text.length
decreasing_by omega

end RadioGateway.Toml
