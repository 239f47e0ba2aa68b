import BucketClock.Config.Environment
import BucketClock.Text.Alphanumeric

/-!
Environment files: lines `NAME=value`, with comments, an optional `export`, and
values that may be quoted. Single quotes keep everything as it stands; in double
quotes and outside quotes a backslash escapes and a dollar sign brings in another
variable. Its name stands between braces, or goes on as long as letters and
digits of any script follow. A quote may span lines. A variable that already
holds a text keeps it, so of two lines for one name the first counts.
-/

namespace BucketClock.EnvironmentFile

/-! ## Logical lines -/

/-- Where a scan for the end of a logical line stands. -/
inductive Scan where
  | plain
  | blank
  | escape
  | single
  | singleEscape
  | double
  | doubleEscape
  deriving DecidableEq, Repr

/-- The scan after one more character; a comment never gets here. -/
def Scan.step (s : Scan) (c : Char) : Scan :=
  match s with
  | .escape => .plain
  | .single => if c = '\\' then .singleEscape else if c = '\'' then .plain else .single
  | .singleEscape => .single
  | .double => if c = '\\' then .doubleEscape else if c = '"' then .plain else .double
  | .doubleEscape => .double
  | .plain | .blank =>
    if c = '\\' then .escape
    else if c = '"' then .double
    else if c = '\'' then .single
    else if s = .plain && Text.isBlank c && c ≠ '\n' && c ≠ '\r' then .blank
    else .plain

/-- Scans a line: the characters before a comment, or the scan at its end. -/
def scanLine (s : Scan) (before : List Char) : List Char → List Char ⊕ Scan
  | [] => .inr s
  | c :: cs =>
    if s = .blank && c = '#' then .inl before.reverse
    else scanLine (s.step c) (c :: before) cs

/-- Cuts a text after every line break. -/
def physicalLines (line : List Char) : List Char → List (List Char)
  | [] => if line.isEmpty then [] else [line.reverse]
  | c :: cs =>
    if c = '\n' then (c :: line).reverse :: physicalLines [] cs
    else physicalLines (c :: line) cs

def dropBreak (line : List Char) : List Char :=
  match line.reverse with
  | '\n' :: '\r' :: rest => rest.reverse
  | '\n' :: rest => rest.reverse
  | _ => line

def isComment (line : List Char) : Bool := (line.dropWhile Text.isBlank).head? = some '#'

/-- Joins lines whose break stands inside quotes; `none` if the text ends inside one. -/
def logicalLines (s : Scan) (held : List Char) : List (List Char) → Option (List (List Char))
  | [] => if s = .plain then some [] else none
  | line :: rest =>
    if isComment (held ++ line) then logicalLines .plain [] rest
    else
      match scanLine s [] line with
      | .inl before => (logicalLines .plain [] rest).map ((held ++ before) :: ·)
      | .inr .plain => (logicalLines .plain [] rest).map (dropBreak (held ++ line) :: ·)
      | .inr s => logicalLines s (held ++ line) rest

/-! ## Values -/

/-- What the next character of a value is read as; a name is kept backwards. -/
inductive Mode where
  | text
  | escape
  | single
  | ending
  | name (reversed : List Char)
  | braced (reversed : List Char)

/-- The text that a name brings in. The entry of a variable is its name, an equals sign and its
value, and a name finds the entry that starts with it and an equals sign; so a name with an equals
sign of its own reaches into a value. -/
def resolve (env : Environment) (name : List Char) : List Char :=
  let value := ((env.text? (String.ofList (name.takeWhile (· ≠ '=')))).getD "").toList
  match name.dropWhile (· ≠ '=') with
  | [] => value
  | _ :: rest =>
    let start := rest ++ ['=']
    if start.isPrefixOf value then value.drop start.length else []

/-- Reads a value; `double` says that a double quote is open, and `out` is kept backwards. -/
def readValue (env : Environment) (mode : Mode) (double : Bool) (out : List Char) :
    List Char → Option (List Char)
  | [] =>
    match mode with
    | .single | .braced _ => none
    | .name n => if double then none else some (out.reverse ++ resolve env n.reverse)
    | .text | .escape | .ending => if double then none else some out.reverse
  | c :: cs =>
    match mode with
    | .ending =>
      if c = ' ' || c = '\t' then readValue env .ending double out cs
      else if c = '#' then some out.reverse
      else none
    | .escape =>
      if c = '\\' || c = '\'' || c = '"' || c = '$' || c = ' ' then
        readValue env .text double (c :: out) cs
      else if c = 'n' then readValue env .text double ('\n' :: out) cs
      else none
    | .single =>
      if c = '\'' then readValue env .text double out cs
      else readValue env .single double (c :: out) cs
    | .name n =>
      if Text.isAlphanumeric c then readValue env (.name (c :: n)) double out cs
      else if c = '\x7b' && n.isEmpty then readValue env (.braced []) double out cs
      else
        let out := (resolve env n.reverse).reverse ++ out
        if c = '$' then readValue env (.name []) double out cs
        else readValue env .text double (c :: out) cs
    | .braced n =>
      if c = '\x7d' then readValue env .text double ((resolve env n.reverse).reverse ++ out) cs
      else readValue env (.braced (c :: n)) double out cs
    | .text =>
      if c = '$' then readValue env (.name []) double out cs
      else if c = '\\' then readValue env .escape double out cs
      else if c = '"' then readValue env .text (!double) out cs
      else if double then readValue env .text double (c :: out) cs
      else if c = '\'' then readValue env .single double out cs
      else if c = ' ' || c = '\t' then readValue env .ending double out cs
      else readValue env .text double (c :: out) cs

/-! ## Lines -/

def isNameStart (c : Char) : Bool := c.isAlpha || c = '_'

def isNameChar (c : Char) : Bool := c.isAlphanum || c = '_' || c = '.'

/-- Reads a name, and the text after it without leading blanks. -/
def readName (cs : List Char) : Option (List Char × List Char) :=
  match cs with
  | [] => none
  | c :: _ =>
    if isNameStart c then
      some (cs.takeWhile isNameChar, (cs.dropWhile isNameChar).dropWhile Text.isBlank)
    else none

/-- Reads a name and an equals sign. `export` before a name is no part of it, and is a name itself
before an equals sign. -/
def readTarget (cs : List Char) : Option (List Char × List Char) :=
  match readName cs with
  | none => none
  | some (name, '=' :: rest) => some (name, rest)
  | some (name, rest) =>
    if name = "export".toList then
      match readName rest with
      | some (name, '=' :: rest) => some (name, rest)
      | _ => none
    else none

/-- Sets the variable of a line unless it holds a text; `none` if the line is malformed. -/
def applyLine (line : List Char) (env : Environment) : Option Environment :=
  match (Text.trimEnd line).dropWhile Text.isBlank with
  | [] => some env
  | '#' :: _ => some env
  | cs =>
    match readTarget cs with
    | none => none
    | some (name, rest) =>
      let name := String.ofList name
      let value := match rest.dropWhile Text.isBlank with
        | [] => some []
        | '#' :: _ => some []
        | cs => readValue env .text false [] cs
      value.map fun value =>
        if (env.text? name).isSome then env
        else env.set name (String.ofList value).toUTF8

def applyLines : List (List Char) → Environment → Option Environment
  | [], env => some env
  | line :: rest, env => (applyLine line env).bind (applyLines rest)

/-- The environment after the lines of a file; `none` if the file is malformed. -/
def load (text : String) (env : Environment) : Option Environment :=
  let cs := match text.toList with
    | '\ufeff' :: rest => rest
    | cs => cs
  (logicalLines .plain [] (physicalLines [] cs)).bind fun lines => applyLines lines env

end EnvironmentFile

/-- The settings of an environment, after those of a file where there is one. -/
def TrackConfig.load (file : Option String) (env : Environment) : Except TrackError TrackConfig :=
  match file with
  | none => ofEnvironment env
  | some text =>
    match EnvironmentFile.load text env with
    | none => .error (.config .environmentFile)
    | some env => ofEnvironment env

end BucketClock
