import LakeAdmin.Text.Blank
import LakeAdmin.Text.Split

/-!
Files of settings, one `NAME=value` to a line. Values may stand in quotes, in which
they may run over several lines and hold escapes; outside quotes a blank and `#`
begin a comment. A line that makes no sense is left out. A value may refer to
variables of the environment and to names further up, as in `${NAME:-otherwise}`.
-/

namespace LakeAdmin.Settings.Dotenv

open Text

/-- A name and its value, if it has one. -/
abbrev Binding := String × Option String

def isLineEnd (c : Char) : Bool := c == '\n' || c == '\r'

def isInlineBlank (c : Char) : Bool := isBlank c && !isLineEnd c

/-- Something read off the front of a text, or the text at which reading stopped. -/
abbrev Read (α : Type) := Except (List Char) (α × List Char)

/-- Reads a name. A comment has none. -/
def readName (l : List Char) : Read (Option String) :=
  match l with
  | '#' :: _ => .ok (none, l)
  | '\'' :: rest =>
    match cutFirst '\'' rest with
    | (name, some after) =>
      if name.isEmpty then .error l else .ok (some (String.ofList name), after)
    | (_, none) => .error l
  | _ =>
    let fits := fun c => c ≠ '=' && c ≠ '#' && !isBlank c
    let name := l.takeWhile fits
    if name.isEmpty then .error l else .ok (some (String.ofList name), l.dropWhile fits)

/-- The text up to the closing quote, escaped quotes being part of it, and what
follows. If every quote is escaped, the last one closes after all. -/
def quoted? (quote : Char) : List Char → Option (List Char × List Char)
  | [] => none
  | c :: rest =>
    if c = quote then some ([], rest)
    else if c = '\\' ∧ rest.head? = some quote then
      match quoted? quote (rest.drop 1) with
      | some (inside, after) => some (c :: quote :: inside, after)
      | none => some ([c], rest.drop 1)
    else
      match quoted? quote rest with
      | some (inside, after) => some (c :: inside, after)
      | none => none
termination_by l => l.length
decreasing_by all_goals simp only [List.length_cons, List.length_drop]; omega

/-- The characters that a letter after a backslash may stand for between `quote`s. -/
def escape? (quote letter : Char) : Option Char :=
  if letter = '\\' ∨ letter = '\'' then some letter
  else if quote = '\'' then none
  else
    match letter with
    | '"' => some '"'
    | 'a' => some '\x07'
    | 'b' => some '\x08'
    | 'f' => some '\x0c'
    | 'n' => some '\n'
    | 'r' => some '\r'
    | 't' => some '\t'
    | 'v' => some '\x0b'
    | _ => none

def unescape (quote : Char) : List Char → List Char
  | [] => []
  | ['\\'] => ['\\']
  | '\\' :: letter :: rest =>
    match escape? quote letter with
    | some c => c :: unescape quote rest
    | none => '\\' :: unescape quote (letter :: rest)
  | c :: rest => c :: unescape quote rest

def dropComment : List Char → List Char
  | [] => []
  | c :: rest =>
    if isBlank c && (rest.dropWhile isBlank).head? = some '#' then []
    else c :: dropComment rest

def readValue (l : List Char) : Read String :=
  match l with
  | [] => .ok ("", [])
  | c :: rest =>
    if c = '\'' ∨ c = '"' then
      match quoted? c rest with
      | some (inside, after) => .ok (String.ofList (unescape c inside), after)
      | none => .error l
    else
      let line := l.takeWhile (!isLineEnd ·)
      .ok (String.ofList (dropTrailingBlanks (dropComment line)), l.dropWhile (!isLineEnd ·))
where
  /-- A list without the blanks at its end. -/
  dropTrailingBlanks (l : List Char) : List Char :=
    (l.reverse.dropWhile isBlank).reverse

/-- Reads the rest of a line, which may only be a comment. -/
def readLineEnd (l : List Char) : Read Unit :=
  let blankless := l.dropWhile isInlineBlank
  let behind := if blankless.head? = some '#' then blankless.dropWhile (!isLineEnd ·) else l
  match behind.dropWhile isInlineBlank with
  | [] => .ok ((), [])
  | '\r' :: '\n' :: rest => .ok ((), rest)
  | c :: rest => if isLineEnd c then .ok ((), rest) else .error behind

/-- A text without the word that may stand in front of a name. -/
def dropExport (l : List Char) : List Char :=
  let word := "export".toList
  let rest := l.drop word.length
  if word.isPrefixOf l && (rest.head?.map isInlineBlank) = some true then
    rest.dropWhile isInlineBlank
  else l

/-- Reads one line, which does not begin with a blank. -/
def readLine (l : List Char) : Except (List Char) (Option Binding × List Char) := do
  let (name, rest) ← readName (dropExport l)
  let rest := rest.dropWhile isInlineBlank
  let (value, rest) ← match rest with
    | '=' :: rest => do
      let (value, rest) ← readValue (rest.dropWhile isInlineBlank)
      pure (some value, rest)
    | _ => pure (none, rest)
  let (_, rest) ← readLineEnd rest
  return (name.map (·, value), rest)

/-- What follows a line that makes no sense, from where reading stopped. -/
def dropLine (l : List Char) : List Char := (l.dropWhile (!isLineEnd ·)).drop 1

def bindings (l : List Char) : List Binding :=
  let start := l.dropWhile isBlank
  let (binding, rest) :=
    match readLine start with
    | .ok (binding, rest) => (binding, rest)
    | .error rest => (none, dropLine rest)
  if _shorter : rest.length < l.length then binding.toList ++ bindings rest
  else binding.toList
termination_by l.length

/-- A reference to a variable behind its `${`: the name, what to take in its place,
and the number of characters. -/
def reference? (l : List Char) : Option (String × String × Nat) :=
  let name := l.takeWhile fun c => c ≠ '\x7d' && c ≠ ':'
  match l.drop name.length with
  | '\x7d' :: _ => some (String.ofList name, "", name.length + 1)
  | ':' :: '-' :: rest =>
    match cutFirst '\x7d' rest with
    | (otherwise, some _) =>
      some (String.ofList name, String.ofList otherwise, name.length + otherwise.length + 3)
    | _ => none
  | _ => none

/-- A value with its references replaced, the next `skip` characters being part of
one. -/
def expand (lookUp : String → Option String) (skip : Nat) : List Char → List Char
  | [] => []
  | c :: rest =>
    match skip with
    | skip + 1 => expand lookUp skip rest
    | 0 =>
      if c = '$' ∧ rest.head? = some '\x7b' then
        match reference? (rest.drop 1) with
        | some (name, otherwise, size) =>
          ((lookUp name).getD otherwise).toList ++ expand lookUp (size + 1) rest
        | none => c :: expand lookUp 0 rest
      else c :: expand lookUp 0 rest

/-- Bindings with their references replaced. Names that are already bound come
before the environment, and one without a value stands for nothing. -/
def resolve (environment : List (String × String)) (bound : List Binding) :
    List Binding → List Binding
  | [] => []
  | (name, value) :: rest =>
    let lookUp := fun key =>
      match bound.lookup key with
      | some value => some (value.getD "")
      | none => environment.lookup key
    let value := value.map fun text => String.ofList (expand lookUp 0 text.toList)
    (name, value) :: resolve environment ((name, value) :: bound) rest

/-- Bindings with one more: at the place of the one for its name, if there is one. -/
def bind (bound : List Binding) (binding : Binding) : List Binding :=
  if bound.any (·.1 == binding.1) then
    bound.map fun other => if other.1 == binding.1 then binding else other
  else bound ++ [binding]

/-- The bindings of a file, one for each name. All line ends count alike. -/
def read (environment : List (String × String)) (text : String) : List Binding :=
  (resolve environment [] (bindings (unifyLines text.toList))).foldl bind []
where
  /-- A text in which every line ends in a line feed. -/
  unifyLines : List Char → List Char
    | [] => []
    | '\r' :: '\n' :: rest => '\n' :: unifyLines rest
    | '\r' :: rest => '\n' :: unifyLines rest
    | c :: rest => c :: unifyLines rest

end LakeAdmin.Settings.Dotenv
