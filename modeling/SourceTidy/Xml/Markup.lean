import SourceTidy.Text.Numeral
import SourceTidy.Xml.Character

namespace SourceTidy.Xml

inductive Markup
  | doctype
  /-- A start tag, which may also end its element. -/
  | begin (name : Text) (attributes : List (Text × Text)) (isClosed : Bool)
  | finish (name : Text)
  /-- Characters between tags. Only blank ones may stand outside of the root. -/
  | content (isBlank : Bool)
  deriving DecidableEq, Repr

/-- The prefix and the rest of a name. A name has at most one colon, with something on both
sides. -/
def splitName? (name : Text) : Option (Text × Text) :=
  let front := name.takeWhile (· ≠ ':')
  match name.drop front.length with
  | [] => some ([], name)
  | _ :: rest =>
    if front ≠ [] && rest.head?.any isNameStart && !rest.contains ':' then some (front, rest)
    else none

abbrev Entities := List (Text × Text)

def predefined : List (Text × Char) :=
  [("amp".toList, '&'), ("lt".toList, '<'), ("gt".toList, '>'), ("quot".toList, '"'),
   ("apos".toList, '\'')]

inductive Referent
  | character (c : Char)
  | replacement (t : Text)

def character? (n : Nat) : Option Char :=
  if h : n.isValidChar then
    let c := Char.ofNatAux n h
    if isChar c then some c else none
  else none

def number? (base : Nat) (t : Text) : Option Nat :=
  if t = [] then none
  else t.foldlM (fun n c => (Digit.hexValue? c).bind fun d =>
    if d < base then some (n * base + d) else none) 0

def reference? (entities : Entities) (t : Text) : Option (Referent × Text) := do
  let name := t.takeWhile (· ≠ ';')
  let rest ← exactly? [';'] (t.drop name.length)
  match name with
  | '#' :: 'x' :: digits => return (.character (← (number? 16 digits).bind character?), rest)
  | '#' :: digits => return (.character (← (number? 10 digits).bind character?), rest)
  | _ =>
    match predefined.lookup name with
    | some c => return (.character c, rest)
    | none => return (.replacement (← entities.lookup name), rest)

/-- The value of an attribute, up to a quotation mark if one is given. White space becomes spaces
unless it is written as a reference. -/
def value? (entities : Entities) (mark : Option Char) : Nat → Text → Option (Text × Text)
  | 0, _ => none
  | _ + 1, [] => if mark.isNone then some ([], []) else none
  | fuel + 1, c :: rest =>
    if mark = some c then some ([], rest)
    else if c = '<' then none
    else if c = '&' then do
      let (referent, rest) ← reference? entities rest
      let front ← match referent with
        | .character c => pure [c]
        | .replacement t => (value? entities none fuel t).map (·.1)
      let (more, rest) ← value? entities mark fuel rest
      return (front ++ more, rest)
    else if !isChar c then none
    else
      let rest := if c = '\r' && rest.head? = some '\n' then rest.drop 1 else rest
      (value? entities mark fuel rest).map fun (more, rest) =>
        ((if isSpace c then ' ' else c) :: more, rest)

def attributes? (entities : Entities) : Nat → Text → Option (List (Text × Text) × Text)
  | 0, _ => none
  | fuel + 1, t =>
    match space? t with
    | none => some ([], t)
    | some after =>
      match name? after with
      | none => some ([], after)
      | some (name, rest) => do
        let rest ← exactly? ['='] (skipSpace rest)
        match skipSpace rest with
        | q :: rest =>
          if q = '"' || q = '\'' then
            let (value, rest) ← value? entities (some q) fuel rest
            let (more, rest) ← attributes? entities fuel rest
            return ((name, value) :: more, rest)
          else none
        | [] => none

def tag? (entities : Entities) (fuel : Nat) : Text → Option (Markup × Text)
  | '/' :: rest => do
    let (name, rest) ← name? rest
    let rest ← exactly? ['>'] (skipSpace rest)
    return (.finish name, rest)
  | t => do
    let (name, rest) ← name? t
    let (attributes, rest) ← attributes? entities fuel rest
    match rest with
    | '>' :: rest => return (.begin name attributes false, rest)
    | '/' :: '>' :: rest => return (.begin name attributes true, rest)
    | _ => none

def comment? (t : Text) : Option Text := do
  let (_, rest) ← through? ['-', '-'] t
  exactly? ['>'] rest

/-- Takes an instruction, given the text after its opening. Its name is not that of the
declaration. -/
def instruction? (t : Text) : Option Text := do
  let (name, rest) ← name? t
  if name.map Char.toLower = "xml".toList || name.contains ':' then none
  else
    match exactly? "?>".toList rest with
    | some after => return after
    | none =>
      let rest ← space? rest
      let (_, after) ← through? "?>".toList rest
      return after

/-- Takes the rest of a declaration of the document type, quoted texts included. -/
def skipDeclaration : Nat → Text → Option Text
  | 0, _ => none
  | fuel + 1, t =>
    match t with
    | [] => none
    | '>' :: rest => some rest
    | '<' :: _ => none
    | '"' :: _ => (quoted? t).bind fun (_, rest) => skipDeclaration fuel rest
    | '\'' :: _ => (quoted? t).bind fun (_, rest) => skipDeclaration fuel rest
    | _ :: rest => skipDeclaration fuel rest

/-- The replacement text of an entity: references to characters are resolved, others stay. -/
def replacement? : Nat → Text → Option Text
  | 0, _ => none
  | _ + 1, [] => some []
  | fuel + 1, '&' :: '#' :: rest => do
    match ← reference? [] ('#' :: rest) with
    | (.character c, rest) => return c :: (← replacement? fuel rest)
    | _ => none
  | fuel + 1, '&' :: rest => do
    let (name, after) ← name? rest
    let after ← exactly? [';'] after
    return '&' :: name ++ ';' :: (← replacement? fuel after)
  | fuel + 1, c :: rest =>
    if c = '%' || !isChar c then none else (replacement? fuel rest).map (c :: ·)

/-- Takes the declaration of an entity, given the text after its keyword. Only entities with a text
of their own can be referred to. -/
def entity? (t : Text) : Option (Entities × Text) := do
  let rest ← space? t
  match name? rest with
  | none => return ([], ← skipDeclaration rest.length rest)
  | some (name, rest) =>
    let rest ← space? rest
    match quoted? rest with
    | none => return ([], ← skipDeclaration rest.length rest)
    | some (value, rest) =>
      let text ← replacement? (value.length + 1) value
      let rest ← exactly? ['>'] (skipSpace rest)
      return ([(name, text)], rest)

def subset? : Nat → Text → Option (Entities × Text)
  | 0, _ => none
  | fuel + 1, t =>
    match skipSpace t with
    | ']' :: rest => some ([], rest)
    | '%' :: rest => do
      let (_, rest) ← name? rest
      let rest ← exactly? [';'] rest
      subset? fuel rest
    | '<' :: '?' :: rest => (instruction? rest).bind (subset? fuel)
    | '<' :: '!' :: '-' :: '-' :: rest => (comment? rest).bind (subset? fuel)
    | '<' :: '!' :: rest => do
      match exactly? "ENTITY".toList rest with
      | some rest =>
        let (first, rest) ← entity? rest
        let (more, rest) ← subset? fuel rest
        return (first ++ more, rest)
      | none =>
        if ["ELEMENT", "ATTLIST", "NOTATION"].any fun w => w.toList.isPrefixOf rest then
          (skipDeclaration rest.length rest).bind (subset? fuel)
        else none
    | _ => none

def isPublic (c : Char) : Bool :=
  c.isAlphanum || " \r\n-'()+,./:=?;!*#@$_%".toList.contains c

def externalId? (t : Text) : Option Text :=
  match exactly? "SYSTEM".toList t, exactly? "PUBLIC".toList t with
  | some rest, _ => do
    let (_, rest) ← quoted? (← space? rest)
    return rest
  | none, some rest => do
    let (name, rest) ← quoted? (← space? rest)
    let (_, rest) ← quoted? (← space? rest)
    if name.all isPublic then return rest else none
  | none, none => none

def doctype? (t : Text) : Option (Entities × Text) := do
  let (name, rest) ← name? (← space? t)
  let _ ← splitName? name
  let rest := match (space? rest).bind externalId? with
    | some after => after
    | none => rest
  match skipSpace rest with
  | '>' :: rest => return ([], rest)
  | '[' :: rest =>
    let (entities, rest) ← subset? (rest.length + 1) rest
    let rest ← exactly? ['>'] (skipSpace rest)
    return (entities, rest)
  | _ => none

/-- The markup of a document. The fuel bounds the characters to be read, those of entities
included. -/
def scan : Nat → Entities → Text → Option (List Markup)
  | 0, _, _ => none
  | _ + 1, _, [] => some []
  | fuel + 1, entities, '<' :: rest =>
    match rest with
    | '?' :: rest => (instruction? rest).bind (scan fuel entities)
    | '!' :: rest => do
      match exactly? ['-', '-'] rest, exactly? "[CDATA[".toList rest,
      exactly? "DOCTYPE".toList rest with
      | some rest, _, _ => scan fuel entities (← comment? rest)
      | none, some rest, _ =>
        let (_, rest) ← through? "]]>".toList rest
        return .content false :: (← scan fuel entities rest)
      | none, none, some rest =>
        let (declared, rest) ← doctype? rest
        return .doctype :: (← scan fuel (entities ++ declared) rest)
      | none, none, none => none
    | _ => do
      let (tag, rest) ← tag? entities fuel rest
      return tag :: (← scan fuel entities rest)
  | fuel + 1, entities, '&' :: rest => do
    match ← reference? entities rest with
    | (.character _, rest) => return .content false :: (← scan fuel entities rest)
    | (.replacement t, rest) => return .content false :: (← scan fuel entities (t ++ rest))
  | fuel + 1, entities, c :: rest =>
    if !isChar c || "]]>".toList.isPrefixOf (c :: rest) then none
    else (scan fuel entities rest).map (.content (isSpace c) :: ·)

end SourceTidy.Xml
