/-
Reading YAML.

A stream holds documents, each of which is one value.  Collections are written
in block form, by their columns, or in flow form, between brackets; scalars
plain, quoted or as blocks of lines.

* `Yaml.nextDocument` — the next document of a stream and where the rest begins;
* `Yaml.Fault` — the ways in which a stream can be wrong.

Design notes: the reader knows line and column of where it stands, and the line
on which the last token ended.  A block collection is known by the column of its
first token; what stands further left ends it, what stands further right and
cannot continue it is a fault.  A key must stand on one line, together with its
colon.  Recursion is bounded by the length of the stream.
-/
import ClusterAgent.Yaml.Node

namespace ClusterAgent.Yaml

/-- What is wrong with a stream. -/
inductive Fault where
  | unexpected
  | unclosed
  | invalidEscape
  | invalidScalar
  | duplicateKey
  | unknownAnchor
  | forbiddenCharacter
  | tooDeep
deriving DecidableEq

/-- Where the reader stands. -/
structure Place where
  rest : List Char
  line : Nat
  column : Nat
  /-- The line on which the last token ended; none at the start of a document. -/
  tokenLine : Option Nat
  anchors : List (String × Node)

namespace Place

/-- Pass one character. -/
def pass (p : Place) : Place :=
  match p.rest with
  | [] => p
  | c :: rest =>
    if c = '\n' then { p with rest, line := p.line + 1, column := 0 }
    else { p with rest, column := p.column + 1 }

/-- Pass several characters. -/
def passMany (p : Place) (n : Nat) : Place := n.fold (fun _ _ p => p.pass) p

/-- A token ended here. -/
def tokenEnd (p : Place) : Place := { p with tokenLine := some p.line }

/-- Whether a line began since the last token. -/
def onNewLine (p : Place) : Bool := p.tokenLine != some p.line

end Place

/-- Whether a character separates. -/
def isGap (c : Char) : Bool := c = ' ' || c = '\t' || c = '\n'

/-- Whether nothing or a separator comes next. -/
def gapNext : List Char → Bool
  | [] => true
  | c :: _ => isGap c

/-- Whether a mark between documents stands here. -/
def atMark (p : Place) : Bool :=
  p.column == 0 &&
    match p.rest with
    | '-' :: '-' :: '-' :: rest => gapNext rest
    | '.' :: '.' :: '.' :: rest => gapNext rest
    | _ => false

/-- Whether the document ends here. -/
def atEnd (p : Place) : Bool := p.rest.isEmpty || atMark p

/-- Pass blanks, comments and line ends. In block form a tab cannot stand where
a key may begin. -/
def skip (flow : Bool) : Nat → Bool → Place → Place
  | 0, _, p => p
  | fuel + 1, keyAllowed, p =>
    match p.rest with
    | ' ' :: _ => skip flow fuel keyAllowed p.pass
    | '\t' :: _ => if flow || !keyAllowed then skip flow fuel keyAllowed p.pass else p
    | '\n' :: _ => skip flow fuel true p.pass
    | '#' :: _ => skip flow fuel keyAllowed (p.passMany (p.rest.takeWhile (· != '\n')).length)
    | _ => p

/-- Pass what separates tokens. -/
def Place.skipGaps (p : Place) (flow keyAllowed : Bool) : Place :=
  skip flow (p.rest.length + 1) keyAllowed p

/-! ### Scalars -/

/-- Line ends between two parts of a scalar: one is a space, each further one
stays. -/
def fold (breaks : Nat) : List Char :=
  if breaks = 1 then [' '] else List.replicate (breaks - 1) '\n'

/-- Pass blanks and line ends inside a scalar, and tell how many of these there
were. -/
def passGaps : Nat → Nat → Place → Nat × Place
  | 0, breaks, p => (breaks, p)
  | fuel + 1, breaks, p =>
    match p.rest with
    | '\n' :: _ => passGaps fuel (breaks + 1) p.pass
    | c :: _ => if c = ' ' || c = '\t' then passGaps fuel breaks p.pass else (breaks, p)
    | [] => (breaks, p)

/-- Whether a plain scalar ends before the characters that come. -/
def plainEnds (flow : Bool) : List Char → Bool
  | [] => true
  | ':' :: rest => gapNext rest || (flow && rest.head?.any ",[]\x7b\x7d".toList.contains)
  | c :: _ => isGap c || (flow && ",[]\x7b\x7d".toList.contains c)

/-- Read a plain scalar. Its further lines stand to the right of `parent`. -/
def plain (flow : Bool) (parent : Int) : Nat → List Char → Place → List Char × Place
  | 0, out, p => (out, p)
  | fuel + 1, out, p =>
    if plainEnds flow p.rest then
      let (breaks, q) := passGaps (p.rest.length + 1) 0 p
      let goesOn :=
        q.rest.length < p.rest.length && !plainEnds flow q.rest && q.rest.head? != some '#' &&
          !atMark q && (breaks = 0 || flow || parent < q.column)
      if goesOn then
        let gap :=
          if breaks = 0 then p.rest.take (p.rest.length - q.rest.length) else fold breaks
        plain flow parent fuel (out ++ gap) q
      else (out, p)
    else plain flow parent fuel (out ++ p.rest.take 1) p.pass

/-- Read a scalar in single quotes, after the first quote. -/
def singleQuoted : Nat → List Char → Place → Except Fault (String × Place)
  | 0, _, _ => .error .unclosed
  | fuel + 1, out, p =>
    match p.rest with
    | [] => .error .unclosed
    | '\'' :: '\'' :: _ => singleQuoted fuel (out ++ ['\'']) (p.passMany 2)
    | '\'' :: _ => .ok (String.ofList out, p.pass)
    | c :: _ =>
      if atMark p then .error .unclosed
      else if isGap c then
        let (breaks, q) := passGaps (p.rest.length + 1) 0 p
        let gap := if breaks = 0 then p.rest.take (p.rest.length - q.rest.length) else fold breaks
        singleQuoted fuel (out ++ gap) q
      else singleQuoted fuel (out ++ [c]) p.pass

/-- The character of an escape with one letter. -/
def escapeLetter? (c : Char) : Option Char :=
  match c with
  | '0' => some (Char.ofNat 0)
  | 'a' => some (Char.ofNat 7)
  | 'b' => some (Char.ofNat 8)
  | 't' => some '\t'
  | '\t' => some '\t'
  | 'n' => some '\n'
  | 'v' => some (Char.ofNat 11)
  | 'f' => some (Char.ofNat 12)
  | 'r' => some '\r'
  | 'e' => some (Char.ofNat 27)
  | ' ' => some ' '
  | '"' => some '"'
  | '\'' => some '\''
  | '/' => some '/'
  | '\\' => some '\\'
  | 'N' => some (Char.ofNat 0x85)
  | '_' => some (Char.ofNat 0xa0)
  | 'L' => some (Char.ofNat 0x2028)
  | 'P' => some (Char.ofNat 0x2029)
  | _ => none

/-- How many hexadecimal digits follow a letter. -/
def escapeWidth? (c : Char) : Option Nat :=
  match c with
  | 'x' => some 2
  | 'u' => some 4
  | 'U' => some 8
  | _ => none

/-- Read a scalar in double quotes, after the first quote. -/
def doubleQuoted : Nat → List Char → Place → Except Fault (String × Place)
  | 0, _, _ => .error .unclosed
  | fuel + 1, out, p =>
    match p.rest with
    | [] => .error .unclosed
    | '"' :: _ => .ok (String.ofList out, p.pass)
    | '\\' :: '\n' :: _ =>
      let (breaks, q) := passGaps (p.rest.length + 1) 0 p.pass
      doubleQuoted fuel (out ++ List.replicate (breaks - 1) '\n') q
    | '\\' :: c :: rest =>
      match escapeLetter? c, escapeWidth? c with
      | some d, _ => doubleQuoted fuel (out ++ [d]) (p.passMany 2)
      | none, some width =>
        let digits := rest.take width
        match Node.natural? 16 digits with
        | some n =>
          if digits.length = width && n.isValidChar then
            doubleQuoted fuel (out ++ [Char.ofNat n]) (p.passMany (2 + width))
          else .error .invalidEscape
        | none => .error .invalidEscape
      | none, none => .error .invalidEscape
    | c :: _ =>
      if atMark p then .error .unclosed
      else if isGap c then
        let (breaks, q) := passGaps (p.rest.length + 1) 0 p
        let gap := if breaks = 0 then p.rest.take (p.rest.length - q.rest.length) else fold breaks
        doubleQuoted fuel (out ++ gap) q
      else doubleQuoted fuel (out ++ [c]) p.pass

/-! ### Blocks of lines -/

/-- What becomes of the line ends at the end of a block. -/
inductive Chomp where
  | strip
  | clip
  | keep
deriving DecidableEq

/-- Read the signs after `|` or `>`: chomping and indentation, in either order. -/
def blockHeader : List Char → Chomp × Option Nat × List Char
  | '+' :: d :: rest =>
    if d.isDigit then (.keep, some (d.toNat - 48), rest) else (.keep, none, d :: rest)
  | '-' :: d :: rest =>
    if d.isDigit then (.strip, some (d.toNat - 48), rest) else (.strip, none, d :: rest)
  | '+' :: rest => (.keep, none, rest)
  | '-' :: rest => (.strip, none, rest)
  | d :: rest =>
    if d.isDigit then
      match rest with
      | '+' :: rest => (.keep, some (d.toNat - 48), rest)
      | '-' :: rest => (.strip, some (d.toNat - 48), rest)
      | rest => (.clip, some (d.toNat - 48), rest)
    else (.clip, none, d :: rest)
  | [] => (.clip, none, [])

/-- Cut off the first line, without its end. -/
def cutLine (cs : List Char) : List Char × List Char :=
  (cs.takeWhile (· != '\n'), (cs.dropWhile (· != '\n')).drop 1)

/-- The lines that belong to a block of a given indentation: each with what it
holds beyond the indentation. Empty lines belong to it. -/
def blockLines (indent : Nat) : Nat → List Char → List (List Char) × List Char
  | 0, cs => ([], cs)
  | _, [] => ([], [])
  | fuel + 1, cs =>
    let (line, rest) := cutLine cs
    let spaces := (line.takeWhile (· == ' ')).length
    if spaces = line.length && spaces < indent || line.isEmpty then
      let (lines, rest) := blockLines indent fuel rest
      ([] :: lines, rest)
    else if indent ≤ spaces then
      let (lines, rest) := blockLines indent fuel rest
      (line.drop indent :: lines, rest)
    else ([], cs)

/-- The indentation of the first line that is not empty. -/
def firstIndent : Nat → List Char → Nat → Nat
  | 0, _, most => most
  | _, [], most => most
  | fuel + 1, cs, most =>
    let (line, rest) := cutLine cs
    let spaces := (line.takeWhile (· == ' ')).length
    if spaces = line.length then firstIndent fuel rest (max most spaces) else max most spaces

/-- Join lines by their ends, or folded into spaces where neither of two lines is
indented. The state is the line ends that are open, and whether the last line
was indented. -/
def joinLines (folded : Bool) : Bool → Nat → Bool → List (List Char) → List Char × Nat
  | _, breaks, _, [] => ([], breaks)
  | first, breaks, indented, line :: rest =>
    if line.isEmpty then joinLines folded first (breaks + 1) indented rest
    else
      let starts := line.head?.any fun c => c == ' ' || c == '\t'
      let gap :=
        if first || !folded || indented || starts then List.replicate breaks '\n' else fold breaks
      let (out, left) := joinLines folded false 1 starts rest
      (gap ++ line ++ out, left)

/-- Read a block of lines, after `|` or `>`. -/
def blockScalar (folded : Bool) (parent : Int) (p : Place) : Except Fault (String × Place) :=
  let (chomp, explicit, after) := blockHeader p.rest
  let (header, body) := cutLine after
  let comment := header.dropWhile fun c => c == ' ' || c == '\t'
  if !comment.isEmpty && (comment.head? != some '#' || comment.length = header.length) then
    .error .unexpected
  else if explicit = some 0 then .error .unexpected
  else
    let fuel := body.length + 1
    let indent := match explicit with
      | some n => (max parent 0).toNat + n
      | none => max (firstIndent fuel body 0) (max (parent + 1).toNat 1)
    let (lines, rest) := blockLines indent fuel body
    let (content, breaks) := joinLines folded true 0 false lines
    let ends :=
      match chomp with
      | .strip => 0
      | .clip => if content.isEmpty then 0 else min breaks 1
      | .keep => breaks
    let passed := p.passMany (p.rest.length - rest.length)
    .ok (String.ofList (content ++ List.replicate ends '\n'),
      { passed with tokenLine := some (passed.line - 1) })

/-! ### Collections -/

/-- A mapping, in which no key may come twice. -/
def mappingOf (entries : List (Node × Node)) : Except Fault Node :=
  let rec distinct : List (Node × Node) → Bool
    | [] => true
    | (k, _) :: rest => !rest.any (·.1 == k) && distinct rest
  if distinct entries then .ok (.mapping entries) else .error .duplicateKey

/-- Anchor and tag in front of a value. -/
structure Properties where
  anchor : Option String
  tag : Option String

/-- Whether a character may stand in the name of an anchor. -/
def isNameChar (c : Char) : Bool := c.isAlphanum || c == '-' || c == '_'

/-- Read the properties in front of a value. -/
def properties (flow keyAllowed : Bool) :
    Nat → Properties → Place → Except Fault (Properties × Place)
  | 0, props, p => .ok (props, p)
  | fuel + 1, props, p =>
    match p.rest with
    | '&' :: rest =>
      let name := rest.takeWhile isNameChar
      if name.isEmpty || props.anchor.isSome then .error .unexpected
      else
        let p := (p.passMany (name.length + 1)).tokenEnd
        properties flow keyAllowed fuel { props with anchor := some (String.ofList name) }
          (p.skipGaps flow keyAllowed)
    | '!' :: rest =>
      let name := rest.takeWhile fun c => !isGap c && !(flow && ",[]\x7b\x7d".toList.contains c)
      if props.tag.isSome then .error .unexpected
      else
        let p := (p.passMany (name.length + 1)).tokenEnd
        properties flow keyAllowed fuel { props with tag := some (String.ofList name) }
          (p.skipGaps flow keyAllowed)
    | _ => .ok (props, p)

/-- Give a value its properties. -/
def decorate (props : Properties) (n : Node) (p : Place) : Node × Place :=
  match props.anchor with
  | some name => (n, { p with anchors := (name, n) :: p.anchors })
  | none => (n, p)

/-- The value of a scalar with its properties. -/
def scalarNode (props : Properties) (untagged : String → Option Node) (s : String) :
    Except Fault Node :=
  match Node.ofTagged? (props.tag.getD "") untagged s with
  | some n => .ok n
  | none => .error .invalidScalar

/-- The value of a plain scalar with its properties. -/
def plainNode (props : Properties) (s : String) : Except Fault Node :=
  scalarNode props Node.ofPlain? s

/-- The value of a scalar in quotes, or a block of lines, with its properties. -/
def textNode (props : Properties) (s : String) : Except Fault Node :=
  scalarNode props (some ∘ Node.text) s

/-- Whether a plain scalar can begin with the characters that come. -/
def plainBegins (flow : Bool) : List Char → Bool
  | [] => false
  | c :: rest =>
    if c = '-' then
      !(gapNext rest) && !(flow && rest.head?.any ",[]\x7b\x7d".toList.contains)
    else if c = '?' || c = ':' then !flow && !gapNext rest
    else !isGap c && !",[]\x7b\x7d#&*!|>'\"%@\x60".toList.contains c

/-- Whether a colon that belongs to a key comes next. -/
def colonNext (flow : Bool) : List Char → Bool
  | ':' :: rest => flow || gapNext rest
  | _ => false

mutual

/-- Read a value in flow form. -/
def flowNode : Nat → Int → Place → Except Fault (Node × Place)
  | 0, _, _ => .error .unexpected
  | fuel + 1, parent, p => do
    let (props, p) ← properties true false (p.rest.length + 1) ⟨none, none⟩ (p.skipGaps true false)
    let (n, p) ← simple fuel true parent props p
    return decorate props n p

/-- Read a scalar, an alias or a collection in flow form. Nothing at all is an
empty value. -/
def simple : Nat → Bool → Int → Properties → Place → Except Fault (Node × Place)
  | 0, _, _, _, _ => .error .unexpected
  | fuel + 1, flow, parent, props, p =>
    match p.rest with
    | '[' :: _ => do
      let (items, p) ← flowItems fuel parent p.pass
      return (.sequence items, p.tokenEnd)
    | '\x7b' :: _ => do
      let (entries, p) ← flowEntries fuel parent p.pass
      return (← mappingOf entries, p.tokenEnd)
    | '\'' :: _ => do
      let (s, p) ← singleQuoted (p.rest.length + 1) [] p.pass
      return (← textNode props s, p.tokenEnd)
    | '"' :: _ => do
      let (s, p) ← doubleQuoted (p.rest.length + 1) [] p.pass
      return (← textNode props s, p.tokenEnd)
    | '*' :: rest =>
      let name := rest.takeWhile isNameChar
      match p.anchors.find? (·.1 == String.ofList name) with
      | some (_, n) => .ok (n, (p.passMany (name.length + 1)).tokenEnd)
      | none => .error .unknownAnchor
    | rest => do
      if plainBegins flow rest then
        let (s, p) := plain flow parent (rest.length + 1) [] p
        return (← plainNode props (String.ofList s), p.tokenEnd)
      else if flow && (colonNext true rest || rest.head?.any ",]\x7d".toList.contains) then
        return (← plainNode props "", p)
      else throw .unexpected

/-- Read the items of a sequence in flow form, up to its bracket. -/
def flowItems : Nat → Int → Place → Except Fault (List Node × Place)
  | 0, _, _ => .error .unclosed
  | fuel + 1, parent, p => do
    let p := p.skipGaps true false
    if atEnd p then throw .unclosed
    match p.rest with
    | ']' :: _ => return ([], p.pass)
    | ',' :: _ => throw .unexpected
    | _ =>
      let line := p.line
      let (n, q) ← flowNode fuel parent p
      let after := q.skipGaps true false
      let (n, after) ←
        if colonNext true after.rest then
          if after.line != line then throw .unexpected
          else do
            let (v, r) ← flowNode fuel parent after.pass
            let pair ← mappingOf [(n, v)]
            pure (pair, r.skipGaps true false)
        else pure (n, after)
      match after.rest with
      | ',' :: _ =>
        let (items, p) ← flowItems fuel parent after.pass
        return (n :: items, p)
      | ']' :: _ => return ([n], after.pass)
      | _ => throw .unclosed

/-- Read the entries of a mapping in flow form, up to its brace. -/
def flowEntries : Nat → Int → Place → Except Fault (List (Node × Node) × Place)
  | 0, _, _ => .error .unclosed
  | fuel + 1, parent, p => do
    let p := p.skipGaps true false
    if atEnd p then throw .unclosed
    match p.rest with
    | '\x7d' :: _ => return ([], p.pass)
    | ',' :: _ => throw .unexpected
    | _ =>
      let p := match p.rest with
        | '?' :: rest => if gapNext rest then p.pass else p
        | _ => p
      let line := p.line
      let (k, q) ← flowNode fuel parent p
      let after := q.skipGaps true false
      let (v, after) ←
        if colonNext true after.rest then
          if after.line != line then throw .unexpected
          else do
            let (v, r) ← flowNode fuel parent after.pass
            pure (v, r.skipGaps true false)
        else pure (.null, after)
      match after.rest with
      | ',' :: _ =>
        let (entries, p) ← flowEntries fuel parent after.pass
        return ((k, v) :: entries, p)
      | '\x7d' :: _ => return ([(k, v)], after.pass)
      | _ => throw .unclosed

end

/-- Whether an item of a sequence in block form begins here. -/
def dashNext : List Char → Bool
  | '-' :: rest => gapNext rest
  | _ => false

/-- Whether a key that is marked as one begins here. -/
def questionNext : List Char → Bool
  | '?' :: rest => gapNext rest
  | _ => false

mutual

/-- Read a value in block form. It stands to the right of `parent`; a sequence
that is the value of a key may stand right below that key. -/
def block : Nat → Int → Bool → Bool → Place → Except Fault (Node × Place)
  | 0, _, _, _, _ => .error .unexpected
  | fuel + 1, parent, belowKey, keyAllowed, p => do
    let p := p.skipGaps false keyAllowed
    let keyAllowed := keyAllowed || p.onNewLine
    let inside (p : Place) : Bool :=
      !atEnd p && (!p.onNewLine || parent < p.column ||
        (belowKey && parent == p.column && dashNext p.rest))
    if !inside p then return (.null, p)
    let column := p.column
    let line := p.line
    let (props, q) ← properties false keyAllowed (p.rest.length + 1) ⟨none, none⟩ p
    let moved := q.line != line
    let keyAllowed := keyAllowed || moved
    if !inside q then return decorate props (← plainNode props "") q
    if moved then
      let (n, r) ← content fuel parent q.column keyAllowed ⟨none, none⟩ q
      return decorate props n r
    else content fuel parent column keyAllowed props q

/-- Read the value after its properties. `column` is where the value began. -/
def content : Nat → Int → Nat → Bool → Properties → Place → Except Fault (Node × Place)
  | 0, _, _, _, _, _ => .error .unexpected
  | fuel + 1, parent, column, keyAllowed, props, p => do
    if dashNext p.rest then
      if !keyAllowed || p.column != column then throw .unexpected
      let (items, p) ← blockItems fuel column p
      return (.sequence items, p)
    else if questionNext p.rest then
      if !keyAllowed then throw .unexpected
      let (entries, p) ← blockEntries fuel column p
      return (← mappingOf entries, p)
    else
      match p.rest with
      | '|' :: _ =>
        let (s, p) ← blockScalar false parent p.pass
        return decorate props (← textNode props s) p
      | '>' :: _ =>
        let (s, p) ← blockScalar true parent p.pass
        return decorate props (← textNode props s) p
      | _ =>
        let line := p.line
        let (n, q) ←
          if colonNext false p.rest then pure (.null, p)
          else simple fuel false parent props p
        let after := q.passMany (q.rest.takeWhile fun c => c == ' ' || c == '\t').length
        if colonNext false after.rest then
          if !keyAllowed || after.line != line then throw .unexpected
          let (k, after) := decorate props n after
          let (v, r) ← block fuel column true false after.pass.tokenEnd
          let (entries, r) ← blockEntries fuel column r
          return (← mappingOf ((k, v) :: entries), r)
        else return decorate props n q

/-- Read the items of a sequence whose dashes stand in a column. -/
def blockItems : Nat → Nat → Place → Except Fault (List Node × Place)
  | 0, _, _ => .error .unexpected
  | fuel + 1, column, p => do
    let p := p.skipGaps false true
    if atEnd p || p.column < column then return ([], p)
    if column < p.column then throw .unexpected
    if !dashNext p.rest then return ([], p)
    let (n, p) ← block fuel column false true p.pass.tokenEnd
    let (items, p) ← blockItems fuel column p
    return (n :: items, p)

/-- Read the further entries of a mapping whose keys stand in a column. -/
def blockEntries : Nat → Nat → Place → Except Fault (List (Node × Node) × Place)
  | 0, _, _ => .error .unexpected
  | fuel + 1, column, p => do
    let p := p.skipGaps false true
    if atEnd p || (p.onNewLine && p.column < column) then return ([], p)
    let first := questionNext p.rest && p.column == column
    if !first && (!p.onNewLine || column < p.column || dashNext p.rest) then throw .unexpected
    let (k, p) ←
      if first then do
        let (k, q) ← block fuel column false true p.pass.tokenEnd
        let q := q.skipGaps false true
        if q.onNewLine && q.column == column && colonNext false q.rest then pure (k, q)
        else pure (k, q)
      else do
        let line := p.line
        let (props, q) ← properties false true (p.rest.length + 1) ⟨none, none⟩ p
        let (k, q) ←
          if colonNext false q.rest then pure (← plainNode props "", q)
          else simple fuel false column props q
        let after := q.passMany (q.rest.takeWhile fun c => c == ' ' || c == '\t').length
        if after.line != line || !colonNext false after.rest then throw .unexpected
        pure (decorate props k after)
    if colonNext false p.rest then
      let (v, p) ← block fuel column true first p.pass.tokenEnd
      let (entries, p) ← blockEntries fuel column p
      return ((k, v) :: entries, p)
    else
      let (entries, p) ← blockEntries fuel column p
      return ((k, .null) :: entries, p)

end

/-! ### Documents -/

/-- Whether a character may stand in a stream. -/
def isAllowed (c : Char) : Bool :=
  let n := c.toNat
  n == 9 || n == 10 || n == 13 || (0x20 ≤ n && n ≤ 0x7e) || n == 0x85 ||
    (0xa0 ≤ n && n ≤ 0xfffd && n != 0xfeff) || 0x10000 ≤ n

/-- One way to end a line. -/
def unifyBreaks : List Char → List Char
  | '\r' :: '\n' :: rest => '\n' :: unifyBreaks rest
  | '\r' :: rest => '\n' :: unifyBreaks rest
  | c :: rest => c :: unifyBreaks rest
  | [] => []

/-- Whether the words of a directive are in order: its name, and what a directive
of that name takes. -/
def isDirective : List String → Bool
  | "%YAML" :: versions => versions == ["1.1"] || versions == ["1.2"]
  | "%TAG" :: mapping => mapping.length == 2
  | name :: _ => name != "%"
  | [] => false

/-- Pass the directives in front of a document. -/
def passDirectives : Nat → Place → Except Fault Place
  | 0, p => .ok p
  | fuel + 1, p =>
    let p := p.skipGaps false true
    match p.rest with
    | '%' :: _ =>
      let line := p.rest.takeWhile (· != '\n')
      let words := (String.ofList (line.map fun c => if c = '\t' then ' ' else c)).splitOn " "
      let own := (words.filter (· != "")).takeWhile (! ·.startsWith "#")
      if p.column != 0 || !isDirective own then .error .unexpected
      else passDirectives fuel (p.passMany line.length)
    | _ => .ok p

/-- Pass marks that end a document and open none. -/
def passEnds : Nat → Place → Place
  | 0, p => p
  | fuel + 1, p =>
    let p := p.skipGaps false true
    if p.column == 0 && "...".toList.isPrefixOf p.rest && gapNext (p.rest.drop 3) then
      passEnds fuel (p.passMany 3)
    else p

/-- How deep collections may be nested. -/
def deepest : Nat := 128

/-- The next document, and where the rest of the stream begins; none at its end. -/
def nextDocument (p : Place) : Except Fault (Option (Node × Place)) := do
  let start := passEnds (p.rest.length + 1) { p with tokenLine := none, anchors := [] }
  let q ← passDirectives (start.rest.length + 1) start
  if q.rest.isEmpty then
    if q.rest.length = start.rest.length then return none else throw .unexpected
  let marked := atMark q
  let hasDirectives := (start.skipGaps false true).rest.head? == some '%'
  if hasDirectives && !marked then throw .unexpected
  let body := if marked then (q.passMany 3).tokenEnd else q
  let (n, r) ← block (4 * body.rest.length + 8) (-1) false (!marked) body
  let r := r.skipGaps false true
  if !atEnd r then throw .unexpected
  if deepest < n.depth then throw .tooDeep
  return some (n, r)

/-- The beginning of a stream. -/
def startOf (s : String) : Except Fault Place :=
  let cs := s.toList
  if cs.all isAllowed then .ok ⟨unifyBreaks cs, 0, 0, none, []⟩ else .error .forbiddenCharacter

end ClusterAgent.Yaml
