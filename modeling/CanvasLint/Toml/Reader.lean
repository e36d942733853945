import CanvasLint.Toml.Quoted
import CanvasLint.Toml.Scalar

/-!
Reading TOML documents: lines with a key and its value, and headers that say which table the lines
below them belong to. Lists may go on over several lines and tables in braces may not; neither may
be nested too deeply, and keys may not have too many dots.
-/
namespace CanvasLint.Toml

open Text (Rest Tail)

/-- How many brackets may be open at once, and how many parts a key may have. -/
def nestingLimit : Nat := 79

def isBareKeyChar (c : Char) : Bool :=
  c.isAlphanum || c = '-' || c = '_'

/-- One part of a key: in quotes, or letters, digits, dashes and underscores. -/
def readKeyPart : Reader String := fun s =>
  match s with
  | [] => fail
  | c :: t =>
    if c = '"' ∨ c = '\'' then Quoted.readShort (c :: t)
    else if isBareKeyChar c then
      .ok (String.ofList (c :: t.takeWhile isBareKeyChar), (Tail.dropWhile isBareKeyChar t).behind c)
    else fail

/-- The parts of a key, with the blanks around them. -/
def readKeyParts (s : List Char) : Except Malformed (List String × Rest s) :=
  match Text.Reader.onTail readKeyPart (skipSpace s) with
  | .error e => .error e
  | .ok (part, r) =>
    match first? r.1 with
    | some ('.', t) =>
      match readKeyParts t.1 with
      | .error e => .error e
      | .ok (parts, r') => .ok (part :: parts, (r.further t).further r')
    | _ => .ok ([part], r.upTo (skipSpace r.1))
termination_by s.length
decreasing_by exact (r.further t).2

/-- A key as the path to its table and its last part. -/
def readKey : Reader (List String × String) := fun s =>
  match readKeyParts s with
  | .error e => .error e
  | .ok (parts, r) =>
    if nestingLimit < parts.length then fail
    else .ok ((parts.dropLast, parts.getLastD ""), r)

/-- An equals sign and a value. -/
def readAssigned (value : Reader Value) : Reader Value := fun s =>
  match s with
  | '=' :: t =>
    Text.Reader.behind '=' (Text.Reader.onTail value (skipSpace t))
  | _ => fail

/-- A key, an equals sign and a value. -/
def readKeyValue (value : Reader Value) : Reader ((List String × String) × Value) := fun s =>
  match readKey s with
  | .error e => .error e
  | .ok (key, r) => Text.Reader.onRest (Text.Reader.map (key, ·) (readAssigned value)) r

/-- The items of a list after its opening bracket. A comma may follow the last one. -/
def readItems (value : Reader Value) (s : List Char) : Except Malformed (List Value × Rest s) :=
  match skipLines s with
  | .error e => .error e
  | .ok u =>
    match first? u.1 with
    | some (']', t) => .ok ([], u.upTo t)
    | _ =>
      match Text.Reader.onTail value u with
      | .error e => .error e
      | .ok (v, r) =>
        match skipLines r.1 with
        | .error e => .error e
        | .ok w =>
          match first? w.1 with
          | some (',', t) =>
            match readItems value t.1 with
            | .error e => .error e
            | .ok (vs, r') => .ok (v :: vs, (r.further (w.upTo t)).further r')
          | some (']', t) => .ok ([v], r.further (w.upTo t))
          | _ => fail
termination_by s.length
decreasing_by exact (r.further (w.upTo t)).2

/-- The members of a table in braces, from the first one on. -/
def readMembers (value : Reader Value) (table : Table) (s : List Char) :
    Except Malformed (Table × Rest s) :=
  match readKeyValue value s with
  | .error e => .error e
  | .ok (((path, key), v), r) =>
    match table.insert path key v with
    | none => fail
    | some table =>
      match first? r.1 with
      | some (',', t) =>
        match readMembers value table t.1 with
        | .error e => .error e
        | .ok (table, r') => .ok (table, (r.further t).further r')
      | some ('\x7d', t) => .ok (table, r.further t)
      | _ => fail
termination_by s.length
decreasing_by exact (r.further t).2

/-- A table in braces after the opening one. -/
def readBraces (value : Reader Value) : Reader Value := fun s =>
  match first? s with
  | some ('\x7d', t) => .ok (.table [], t)
  | _ =>
    match readMembers value .new s with
    | .error e => .error e
    | .ok (table, r) => .ok (table.toValue, r)

/-- A word for a truth value. -/
def readBoolean : Reader Value := fun s =>
  match s with
  | 't' :: 'r' :: 'u' :: 'e' :: t => .ok (.boolean true, (Rest.tail 'e' t).past ['t', 'r', 'u'])
  | 'f' :: 'a' :: 'l' :: 's' :: 'e' :: t =>
    .ok (.boolean false, (Rest.tail 'e' t).past ['f', 'a', 'l', 's'])
  | _ => fail

/-- Any value, with at most this many brackets open at once. -/
def readValue (budget : Nat) : Reader Value := fun s =>
  match s with
  | [] => fail
  | c :: t =>
    if c = '[' then
      match budget with
      | 0 => fail
      | inner + 1 =>
        Text.Reader.behind c (Text.Reader.map .array (readItems (readValue inner)) t)
    else if c = '\x7b' then
      match budget with
      | 0 => fail
      | inner + 1 => Text.Reader.behind c (readBraces (readValue inner) t)
    else if c = '"' ∨ c = '\'' then Text.Reader.map .string Quoted.read (c :: t)
    else if c = 't' ∨ c = 'f' then readBoolean (c :: t)
    else Scalar.readNumberOrMoment (c :: t)

/-- A document as far as it has been read: its tables, and the key of the table that lines are
added to. -/
structure Progress where
  root : Table
  current : List String

/-- The brackets that close a header, as many as have opened it. -/
def closeHeader (double : Bool) (s : List Char) : Except Malformed (Rest s) :=
  match s with
  | ']' :: t =>
    if double then
      match t with
      | ']' :: u => .ok ((Rest.tail ']' u).behind ']')
      | _ => fail
    else .ok (Rest.tail ']' t)
  | _ => fail

/-- A header after its opening brackets; one with two of them starts another table of a list. -/
def readHeaderKey (doc : Progress) (double : Bool) : Reader Progress := fun s =>
  match readKey s with
  | .error e => .error e
  | .ok ((path, key), r) =>
    let opened := if double then doc.root.openNext path key else doc.root.openTable path key
    match opened, closeHeader double r.1 with
    | some root, .ok r' => .ok (⟨root, path ++ [key]⟩, r.further r')
    | _, _ => fail

/-- A header after its first bracket. -/
def readHeader (doc : Progress) : Reader Progress := fun s =>
  match s with
  | '[' :: t => Text.Reader.behind '[' (readHeaderKey doc true t)
  | s => readHeaderKey doc false s

/-- The lines of a document up to its end. -/
def readLines (doc : Progress) (s : List Char) : Except Malformed Table :=
  match first? s with
  | none => .ok doc.root
  | some (c, t) =>
    if c = '[' then
      match readHeader doc t.1 with
      | .error e => .error e
      | .ok (doc', r) =>
        match finishLine r.1 with
        | .error e => .error e
        | .ok u => readLines doc' u.1
    else if c = '#' ∨ c = '\n' ∨ c = '\r' then
      let u := skipToEnd s
      if u.1.isEmpty then .ok doc.root
      else
        match readNewline u.1 with
        | .error e => .error e
        | .ok r => readLines doc r.1
    else
      match Text.Reader.onTail (readKeyValue (readValue nestingLimit)) (skipSpace s) with
      | .error e => .error e
      | .ok (((path, key), v), r) =>
        match doc.root.update false doc.current (fun table => table.insert path key v) with
        | none => fail
        | some root =>
          match finishLine r.1 with
          | .error e => .error e
          | .ok u => readLines { doc with root } u.1
termination_by s.length
decreasing_by
  · exact ((t.further r).upTo u).2
  · exact (u.upTo r).2
  · exact (r.upTo u).2

/-- The document of a text, which may begin with a byte order mark. -/
def Value.ofText (text : String) : Except Malformed Value :=
  let lines := match text.toList with
    | '\ufeff' :: s => s
    | s => s
  match readLines ⟨.new, []⟩ lines with
  | .error e => .error e
  | .ok root => .ok root.toValue

end CanvasLint.Toml
