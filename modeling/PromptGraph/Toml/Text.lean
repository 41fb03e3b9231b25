import PromptGraph.Text.CodePoints

/-!
# Gaps, keys and strings

The smallest parts of a settings text. Each reader takes a part from the front and gives what is
left. Control characters other than the tab stand nowhere.
-/

namespace PromptGraph.Toml

/-! ## Gaps -/

def isSpace (c : Char) : Bool := c = ' ' || c = '\t'

def skipSpace (cs : List Char) : List Char := cs.dropWhile isSpace

/-- The character may stand in a comment and in a string. -/
def isPlain (c : Char) : Bool := c = '\t' || (32 ≤ c.toNat && c.toNat ≠ 127)

def dropComment : List Char → List Char
  | '#' :: rest => rest.dropWhile isPlain
  | cs => cs

def afterNewline? : List Char → Option (List Char)
  | '\n' :: rest => some rest
  | '\r' :: '\n' :: rest => some rest
  | _ => none

/-- What follows a line of which only blanks and a comment are left. -/
def endLine? (cs : List Char) : Option (List Char) :=
  match dropComment (skipSpace cs) with
  | [] => some []
  | rest => afterNewline? rest

/-- Drops blanks and line ends, and comments if they may stand there; the second flag tells whether
one is open. -/
def dropLines (comments : Bool) : Bool → List Char → List Char
  | _, '\n' :: rest => dropLines comments false rest
  | _, '\r' :: '\n' :: rest => dropLines comments false rest
  | true, c :: rest => if isPlain c then dropLines comments true rest else c :: rest
  | false, c :: rest =>
    if isSpace c then dropLines comments false rest
    else if comments ∧ c = '#' then dropLines comments true rest
    else c :: rest
  | _, [] => []

/-- Drops all that may stand between the items of an array. -/
def skipGaps (cs : List Char) : List Char := dropLines true false cs

/-! ## Strings -/

/-- Letters that stand for a character after a backslash. -/
def escapes : List (Char × Char) := [
  ('b', '\x08'), ('t', '\t'), ('n', '\n'), ('f', '\x0c'), ('r', '\r'), ('e', '\x1b'), ('"', '"'),
  ('\\', '\\')]

/-- Reads a character by a code of so many digits. -/
def readCode (digits : Nat) (cs : List Char) : Option (Char × List Char) := do
  if cs.length < digits then none
  let code ← Text.CodePoints.readHex? (cs.take digits)
  return (← Text.charOf? code, cs.drop digits)

def readEscape : List Char → Option (Char × List Char)
  | [] => none
  | 'x' :: rest => readCode 2 rest
  | 'u' :: rest => readCode 4 rest
  | 'U' :: rest => readCode 8 rest
  | c :: rest => (escapes.lookup c).map (·, rest)

/-- Reads a string with escapes up to its closing quote. -/
def readBasic : Nat → List Char → Option (List Char × List Char)
  | 0, _ => none
  | _, [] => none
  | _, '"' :: rest => some ([], rest)
  | fuel + 1, '\\' :: rest => do
    let (c, rest) ← readEscape rest
    let (cs, rest) ← readBasic fuel rest
    return (c :: cs, rest)
  | fuel + 1, c :: rest =>
    if isPlain c then (readBasic fuel rest).map fun (cs, rest) => (c :: cs, rest) else none

/-- Reads a string without escapes up to its closing quote. -/
def readLiteral : List Char → Option (List Char × List Char)
  | [] => none
  | '\'' :: rest => some ([], rest)
  | c :: rest =>
    if isPlain c then (readLiteral rest).map fun (cs, rest) => (c :: cs, rest) else none

/-- At most two more quotes directly before the closing ones belong to the string. -/
def closingQuotes (quote : Char) : List Char → List Char × List Char
  | a :: b :: rest =>
    if a = quote then
      if b = quote then ([quote, quote], rest) else ([quote], b :: rest)
    else ([], a :: b :: rest)
  | [a] => if a = quote then ([quote], []) else ([], [a])
  | [] => ([], [])

/-- What follows three quotes. -/
def afterQuotes? (quote : Char) : List Char → Option (List Char)
  | a :: b :: c :: rest => if a = quote ∧ b = quote ∧ c = quote then some rest else none
  | _ => none

/-- Reads a string of several lines up to three quotes. A backslash at the end of a line, where
escapes count, drops all blanks and line ends up to the next character. -/
def readBlock (quote : Char) (escaped : Bool) : Nat → List Char → Option (List Char × List Char)
  | 0, _ => none
  | fuel + 1, cs =>
    let more := fun front rest =>
      (readBlock quote escaped fuel rest).map fun (cs, rest) => (front ++ cs, rest)
    match afterQuotes? quote cs, afterNewline? cs, cs with
    | some rest, _, _ => some (closingQuotes quote rest)
    | _, some rest, _ => more (cs.take (cs.length - rest.length)) rest
    | _, _, [] => none
    | _, _, c :: rest =>
      if escaped ∧ c = '\\' then
        if (afterNewline? (skipSpace rest)).isSome then more [] (dropLines false false rest)
        else do
          let (c, rest) ← readEscape rest
          more [c] rest
      else if isPlain c then more [c] rest
      else none

/-- A line end directly after the opening quotes is not part of the string. -/
def dropFirstNewline (cs : List Char) : List Char := (afterNewline? cs).getD cs

def readLine? : List Char → Option (String × List Char)
  | '"' :: rest => (readBasic (rest.length + 1) rest).map fun (cs, rest) => (String.ofList cs, rest)
  | '\'' :: rest => (readLiteral rest).map fun (cs, rest) => (String.ofList cs, rest)
  | _ => none

def readString? (cs : List Char) : Option (String × List Char) :=
  let block := fun quote escaped rest =>
    (readBlock quote escaped (rest.length + 1) (dropFirstNewline rest)).map
      fun (cs, rest) => (String.ofList cs, rest)
  match afterQuotes? '"' cs, afterQuotes? '\'' cs with
  | some rest, _ => block '"' true rest
  | _, some rest => block '\'' false rest
  | _, _ => readLine? cs

/-! ## Keys -/

/-- The character needs no quotes in a key. -/
def isBare (c : Char) : Bool := c.isAlphanum || c = '_' || c = '-'

def readKey (cs : List Char) : Option (String × List Char) :=
  let bare := cs.takeWhile isBare
  if bare.isEmpty then readLine? cs else some (String.ofList bare, cs.dropWhile isBare)

/-- Reads keys with dots between them, at most so many. -/
def readKeys : Nat → List Char → Option (List String × List Char)
  | 0, _ => none
  | limit + 1, cs => do
    let (key, rest) ← readKey (skipSpace cs)
    match skipSpace rest with
    | '.' :: rest =>
      let (keys, rest) ← readKeys limit rest
      return (key :: keys, rest)
    | rest => return ([key], rest)

end PromptGraph.Toml
