import EnvelopeStore.Settings

/-!
# Environment files

Files with one variable to a statement: a name, an equals sign and a value, which may be quoted and
may refer to other variables. Statements that cannot be read are passed over. Variables that are
set already keep their values, and one of them can switch the loading of files off.
-/

namespace EnvelopeStore.EnvFile

/-- A statement: a name with its value, or a name alone. -/
structure Binding where
  name : Text
  value : Option Text
deriving DecidableEq

def unifyLines : Text → Text
  | a :: b :: rest =>
    if a = '\r' ∧ b = '\n' then unifyLines (b :: rest)
    else (if a = '\r' then CodePoint.ofChar '\n' else a) :: unifyLines (b :: rest)
  | [a] => [if a = '\r' then '\n' else a]
  | [] => []

def isSpace (c : CodePoint) : Bool :=
  Text.isBlank c && c ≠ ('\n' : CodePoint) && c ≠ ('\r' : CodePoint)

def isInLine (c : CodePoint) : Bool := c ≠ ('\n' : CodePoint) && c ≠ ('\r' : CodePoint)

def nextLine (t : Text) : Text := (t.dropWhile isInLine).drop 1

/-! ### Names -/

def skipExport (t : Text) : Text :=
  let word : Text := "export"
  if t.startsWith word then
    match t.drop word.length with
    | c :: rest => if isSpace c then rest.dropWhile isSpace else t
    | [] => t
  else t

def quotedName? (t : Text) : Option (Text × Text) :=
  match t.span (· ≠ ('\'' : CodePoint)) with
  | (c :: name, _ :: rest) => some (c :: name, rest)
  | _ => none

def plainName? (t : Text) : Option (Text × Text) :=
  match t.span fun c => c ≠ ('=' : CodePoint) && c ≠ ('#' : CodePoint) && !Text.isBlank c with
  | (c :: name, rest) => some (c :: name, rest)
  | _ => none

/-- The name at the start of a statement; a comment has none. -/
def name? (t : Text) : Option (Option Text × Text) :=
  match t with
  | [] => none
  | c :: rest =>
    if c = '#' then some (none, t)
    else
      let named := if c = '\'' then quotedName? rest else plainName? t
      named.map fun (name, rest) => (some name, rest)

/-! ### Values -/

/-- The content of a quoted value after the opening quote, and the text after the closing one. The
character after a backslash, whichever it is, does not close the value. -/
def quotedContent? (quote : CodePoint) : Text → Option (Text × Text)
  | [] => none
  | c :: t =>
    if c = quote then some ([], t)
    else if c = '\\' then
      match t with
      | [] => none
      | d :: rest =>
        (quotedContent? quote rest).map fun (content, after) => (c :: d :: content, after)
    else (quotedContent? quote t).map fun (content, after) => (c :: content, after)

def escape? (quote c : CodePoint) : Option CodePoint :=
  if c = '\\' ∨ c = '\'' then some c
  else if quote = '"' then
    if c = '"' then some c
    else if c = 'a' then some '\x07'
    else if c = 'b' then some '\x08'
    else if c = 'f' then some '\x0c'
    else if c = 'n' then some '\n'
    else if c = 'r' then some '\r'
    else if c = 't' then some '\t'
    else if c = 'v' then some '\x0b'
    else none
  else none

/-- A value with its escapes replaced; a backslash before any other character stays. -/
def unescape (quote : CodePoint) : Text → Text
  | [] => []
  | [c] => [c]
  | c :: d :: rest =>
    if c = '\\' then
      match escape? quote d with
      | some e => e :: unescape quote rest
      | none => c :: unescape quote (d :: rest)
    else c :: unescape quote (d :: rest)

/-- A line up to the number sign that starts a comment: the first one after a blank. -/
def dropComment : Text → Text
  | [] => []
  | [c] => [c]
  | c :: d :: t =>
    if Text.isBlank c ∧ d = '#' then [] else c :: dropComment (d :: t)

/-- The value without quotes at the start of a text: the line without its comment and without the
blanks at its ends. The blanks after the equals sign belong to the line, so that a comment may
follow them. -/
def plainValue (t : Text) : Text × Text :=
  let (line, after) := t.span isInLine
  (Text.strip Text.isBlank (dropComment line), after)

def value? (t : Text) : Option (Text × Text) :=
  match t.dropWhile isSpace with
  | [] => some ([], [])
  | c :: rest =>
    if c = '\'' ∨ c = '"' then
      (quotedContent? c rest).map fun (content, after) => (unescape c content, after)
    else some (plainValue t)

/-! ### Statements -/

def skipComment (t : Text) : Text :=
  match t.dropWhile isSpace with
  | c :: rest => if c = '#' then rest.dropWhile isInLine else t
  | [] => t

def lineEnd? (t : Text) : Option Text :=
  match t.dropWhile isSpace with
  | [] => some []
  | c :: rest => if isInLine c then none else some rest

/-- The statement at the start of a text without blanks before it, if it can be read, and the text
after it. What cannot be read is passed over up to the next line. -/
def statement (t : Text) : Option Binding × Text :=
  let t := skipExport t
  match name? t with
  | none => (none, nextLine t)
  | some (name, t) =>
    let t := t.dropWhile isSpace
    let bound : Option (Option Text × Text) × Text := match t with
      | c :: rest =>
        if c = '=' then ((value? rest).map fun (v, after) => (some v, after), rest)
        else (some (none, t), t)
      | [] => (some (none, []), t)
    match bound with
    | (none, t) => (none, nextLine t)
    | (some (value, t), _) =>
      let t := skipComment t
      match lineEnd? t with
      | none => (none, nextLine t)
      | some t => (name.map fun name => ⟨name, value⟩, t)

def statements : (fuel : Nat) → Text → List Binding
  | 0, _ => []
  | fuel + 1, t =>
    match t.dropWhile Text.isBlank with
    | [] => []
    | t =>
      match statement t with
      | (some binding, rest) => binding :: statements fuel rest
      | (none, rest) => statements fuel rest

def skipMark (t : Text) : Text :=
  match t with
  | [] => []
  | c :: rest => if c.val = 0xFEFF then rest else c :: rest

/-- The statements of a file, each of which takes at least one character. -/
def parse (file : Text) : List Binding :=
  let t := unifyLines (skipMark file)
  statements t.length t

/-! ### References -/

/-- A reference to a variable, after its opening brace, with the text that stands in when there is
no such variable. -/
def reference? (t : Text) : Option (Text × Text × Text) :=
  let isName (c : CodePoint) : Bool := c ≠ ('\x7d' : CodePoint) && c ≠ (':' : CodePoint)
  match t.span isName with
  | (name, c :: rest) =>
    if c = '\x7d' then some (name, [], rest)
    else
      match rest with
      | d :: rest =>
        if d = '-' then
          match rest.span (· ≠ ('\x7d' : CodePoint)) with
          | (default, _ :: rest) => some (name, default, rest)
          | _ => none
        else none
      | [] => none
  | _ => none

/-- A piece of a value: a text that stands for itself, or a reference. -/
inductive Piece
  | plain (t : Text)
  | reference (name default : Text)
deriving DecidableEq

/-- A value in pieces, with as much in each plain one as there is between two references. Every
piece takes at least one character. -/
def pieces : (fuel : Nat) → Text → List Piece
  | 0, _ => []
  | _ + 1, [] => []
  | fuel + 1, c :: t =>
    let found := match t with
      | d :: rest => if c = '$' ∧ d = '\x7b' then reference? rest else none
      | [] => none
    match found with
    | some (name, default, rest) => .reference name default :: pieces fuel rest
    | none =>
      match pieces fuel t with
      | .plain u :: rest => .plain (c :: u) :: rest
      | rest => .plain [c] :: rest

/-- The variables that a file has set so far; a name alone is known without being set. -/
abbrev Known := List (Text × Option Text)

def Known.put (known : Known) (name : Text) (value : Option Text) : Known :=
  (name, value) :: known.filter (·.1 ≠ name)

/-- What a piece stands for. A reference stands for the environment's variable, else the file's,
else its default; a variable that is there without a value is empty. -/
def Piece.meaning (env : Environment) (known : Known) : Piece → Value
  | .plain t => .text t
  | .reference name default =>
    match Fields.get? env name, known.lookup name with
    | some .null, _ => .text []
    | some v, _ => v
    | none, some v => .text (v.getD [])
    | none, none => .text default

/-- The text of pieces that all stand for texts; `position` pieces come before the given ones. -/
def joined (position : Nat) : List Value → Except ShapeFault Text
  | [] => .ok []
  | .text t :: rest => (joined (position + 1) rest).map (t ++ ·)
  | v :: _ => .error (.notText position v.kind)

/-- A value with its references replaced. -/
def resolve (env : Environment) (known : Known) (t : Text) : Except ShapeFault Text :=
  joined 0 ((pieces t.length t).map (Piece.meaning env known))

def bind (env : Environment) (known : Known) (b : Binding) : Except ShapeFault Known :=
  match b.value with
  | none => .ok (known.put b.name none)
  | some t => (resolve env known t).map fun v => known.put b.name (some v)

/-! ### Loading -/

def foldCase (c : CodePoint) : CodePoint :=
  if 65 ≤ c.val ∧ c.val ≤ 90 then CodePoint.ofNat (c.val + 32)
  else if c.val = 0x17F then 's'
  else c

def affirmations : List Text := ["1", "true", "t", "yes", "y"]

def isDisabled (env : Environment) : Except ShapeFault Bool :=
  match Fields.get? env "PYTHON_DOTENV_DISABLED" with
  | none => .ok false
  | some (.text word) => .ok (affirmations.contains (word.map foldCase))
  | some v => .error (.noPart v.kind "casefold")

/-- The environment with the variables of a file added, unless that is switched off. It fails if a
variable of the environment that it has to read is no text. -/
def load (file : Text) (env : Environment) : Except ShapeFault Environment := do
  if ← isDisabled env then return env
  let known ← (parse file).foldlM (bind env) []
  return env ++ known.filterMap fun (name, value) => value.map fun v => (name, .text v)

end EnvelopeStore.EnvFile
