import ConfigReader.Format.Yaml.Scalar
import ConfigReader.Text.Utf8

/-!
# YAML tokens

The tokens of a YAML text.  Outside flow collections the columns decide where
collections start and end, so the tokens mark both.

A key has no mark in front: only the colon behind it tells.  So each place where a
key may start is remembered, one for each level of flow collections, and when the
colon comes the mark is put back in front of the key.  Such a key fits in one line.
Where nothing but a key can stand, its colon is required.
-/

namespace ConfigReader.Yaml

/-! ## Tokens -/

/-- A directive. -/
inductive Directive where
  /-- The version of YAML, by its major number. -/
  | version (major : Nat)
  /-- What a handle of tags stands for. -/
  | handle (name lead : Text)
  /-- Some other directive. -/
  | other
deriving DecidableEq

/-- A token. -/
inductive Token where
  /-- A directive. -/
  | directive (d : Directive)
  /-- The start of a document. -/
  | documentStart
  /-- The end of a document. -/
  | documentEnd
  /-- The start of a sequence by columns. -/
  | blockSequence
  /-- The start of a mapping by columns. -/
  | blockMapping
  /-- The end of a collection by columns. -/
  | blockEnd
  /-- An opening bracket. -/
  | flowSequence
  /-- A closing bracket. -/
  | flowSequenceEnd
  /-- An opening brace. -/
  | flowMapping
  /-- A closing brace. -/
  | flowMappingEnd
  /-- A comma. -/
  | flowEntry
  /-- The dash of an item. -/
  | entry
  /-- The start of a key. -/
  | key
  /-- The start of a value. -/
  | value
  /-- The name of a node that stands elsewhere. -/
  | mention (name : Text)
  /-- A name for the node that follows. -/
  | anchor (name : Text)
  /-- A tag for the node that follows.  The handle is missing in a full tag. -/
  | tag (handle : Option Text) (suffix : Text)
  /-- A scalar. -/
  | scalar (plain : Bool) (text : Text)
deriving DecidableEq

/-- The tokens of a text up to its end, or up to a fault.  A token that could still turn
out to start a key when the fault is met does not count. -/
structure Tokens where
  /-- The tokens. -/
  list : List Token
  /-- The fault behind them. -/
  fault : Option FormatFault

/-! ## The reader -/

/-- A place where a key may have started. -/
structure KeyPlace where
  /-- The level of flow collections. -/
  level : Nat
  /-- The number of tokens before. -/
  place : Nat
  /-- Nothing but a key can stand here. -/
  required : Bool
  /-- The place in the text. -/
  cursor : Cursor

/-- The tokens so far, and what decides about those to come. -/
structure Scan where
  /-- The place in the text. -/
  cursor : Cursor
  /-- The tokens, the last one first. -/
  tokens : List Token
  /-- The number of tokens. -/
  count : Nat
  /-- The number of open flow collections. -/
  level : Nat
  /-- The column of the innermost block collection. -/
  indent : Int
  /-- The columns of the block collections around it. -/
  outer : List Int
  /-- A key may start here. -/
  keyAllowed : Bool
  /-- The places where keys may have started. -/
  keys : List KeyPlace

namespace Scan

/-- The reader at the start of a text. -/
def start (t : Text) : Scan := ⟨.start t, [], 0, 0, -1, [], true, []⟩

/-- The reader with one more token. -/
def push (token : Token) (s : Scan) : Scan :=
  { s with tokens := token :: s.tokens, count := s.count + 1 }

/-- The reader some code points further. -/
def forward (n : Nat) (s : Scan) : Scan := { s with cursor := s.cursor.forward n }

/-- The reader with a token put in front of the last ones. -/
def insertAt (place : Nat) (token : Token) (s : Scan) : Scan :=
  { s with tokens := s.tokens.insertIdx (s.count - place) token, count := s.count + 1 }

/-- No flow collection is open. -/
def inBlock (s : Scan) : Bool := s.level == 0

/-! ## Columns -/

/-- The reader with the block collections right of a column closed, of those around the
innermost one. -/
def closeTo (column : Int) (s : Scan) : List Int → Scan
  | [] => { s with outer := [] }
  | next :: outer =>
      if s.indent > column then closeTo column { s.push .blockEnd with indent := next } outer
      else { s with outer := next :: outer }

/-- The reader with the block collections right of a column closed. -/
def unwind (column : Int) (s : Scan) : Scan :=
  if s.inBlock then s.closeTo column s.outer else s

/-- The reader with a block collection open at a column, and whether it is new. -/
def openAt (column : Nat) (s : Scan) : Bool × Scan :=
  if s.indent < column then (true, { s with indent := column, outer := s.indent :: s.outer })
  else (false, s)

/-- Opens a block collection at the cursor, with a token if it is new. -/
def openHere (token : Token) (s : Scan) : Scan :=
  match s.openAt s.cursor.column with
  | (true, s) => s.push token
  | (false, s) => s

/-! ## Places of keys -/

/-- Gives up places of keys that are not in this line any more, or too far away. -/
def dropStale (s : Scan) : Parsed Scan :=
  let isStale (k : KeyPlace) : Bool :=
    k.cursor.line != s.cursor.line || s.cursor.index - k.cursor.index > 1024
  if s.keys.any fun k => isStale k && k.required then malformed
  else .ok { s with keys := s.keys.filter fun k => !isStale k }

/-- Gives up the place of a key at this level. -/
def dropKey (s : Scan) : Parsed Scan :=
  if s.keys.any fun k => k.level == s.level && k.required then malformed
  else .ok { s with keys := s.keys.filter fun k => k.level != s.level }

/-- Remembers that a key may start here. -/
def noteKey (s : Scan) : Parsed Scan :=
  if s.keyAllowed then
    s.dropKey.map fun s =>
      let required := s.inBlock && s.indent == s.cursor.column
      { s with keys := ⟨s.level, s.count, required, s.cursor⟩ :: s.keys }
  else .ok s

/-- The reader that allows a key to start, or not. -/
def allowKey (allowed : Bool) (s : Scan) : Scan := { s with keyAllowed := allowed }

/-! ## Structure -/

/-- A mark of the document, a directive apart. -/
def documentMark (token : Token) (s : Scan) : Parsed Scan :=
  (s.unwind (-1)).dropKey.map fun s => ((s.allowKey false).push token).forward 3

/-- The start of a flow collection. -/
def flowStart (token : Token) (s : Scan) : Parsed Scan :=
  s.noteKey.map fun s =>
    ({ s with level := s.level + 1, keyAllowed := true }.push token).forward 1

/-- The end of a flow collection. -/
def flowEnd (token : Token) (s : Scan) : Parsed Scan :=
  if s.inBlock then malformed
  else s.dropKey.map fun s =>
    ({ s with level := s.level - 1, keyAllowed := false }.push token).forward 1

/-- A comma in a flow collection. -/
def flowEntry (s : Scan) : Parsed Scan :=
  (s.allowKey true).dropKey.map fun s => (s.push .flowEntry).forward 1

/-- The dash of an item. -/
def blockEntry (s : Scan) : Parsed Scan :=
  if s.inBlock && !s.keyAllowed then malformed
  else
    let s := if s.inBlock then s.openHere .blockSequence else s
    (s.allowKey true).dropKey.map fun s => (s.push .entry).forward 1

/-- The question mark of a key. -/
def keyMark (s : Scan) : Parsed Scan :=
  if s.inBlock && !s.keyAllowed then malformed
  else
    let s := if s.inBlock then s.openHere .blockMapping else s
    (s.allowKey s.inBlock).dropKey.map fun s => (s.push .key).forward 1

/-- The colon of a value behind a key that has no mark. -/
def valueOf (k : KeyPlace) (s : Scan) : Scan :=
  let s := { s with keys := s.keys.filter fun k => k.level != s.level }
  let s := s.insertAt k.place .key
  let s :=
    if s.inBlock then
      match s.openAt k.cursor.column with
      | (true, s) => s.insertAt k.place .blockMapping
      | (false, s) => s
    else s
  ((s.allowKey false).push .value).forward 1

/-- The colon of a value. -/
def valueMark (s : Scan) : Parsed Scan :=
  match s.keys.find? fun k => k.level == s.level with
  | some k => .ok (valueOf k s)
  | none =>
      if s.inBlock && !s.keyAllowed then malformed
      else
        let s := if s.inBlock then s.openHere .blockMapping else s
        (s.allowKey s.inBlock).dropKey.map fun s => (s.push .value).forward 1

/-! ## Content -/

/-- A token that may start a key. -/
def content (s : Scan) (token : Token) (c : Cursor) : Parsed Scan :=
  s.noteKey.map fun s => { (s.allowKey false).push token with cursor := c }

/-- The name behind the sign of an alias or an anchor. -/
def named (make : Text → Token) (s : Scan) : Parsed Scan :=
  let (name, c) := s.cursor.step.span isWord
  let ended := endsWord c.peek || (c.peek.map (isAmong "?:,]\x7d%@\x60")).getD false
  if name.isEmpty || !ended then malformed else s.content (make name) c

/-- A code point of a tag. -/
def isTagPart (c : CodePoint) : Bool := isWord c || isAmong ";/?:@&=+$,.!~*'()[]%" c

/-- The text of a tag with its escapes replaced by what their bytes spell. -/
def unescapeTag : (fuel : Nat) → Text → Option Text
  | 0, _ => none
  | fuel + 1, t => match t with
      | [] => some []
      | .scalar '%' :: _ =>
          let (bytes, rest) := tagBytes t
          match bytes, Utf8.decode bytes with
          | [], _ => none
          | _, .error _ => none
          | _, .ok found => (unescapeTag fuel rest).map (found ++ ·)
      | c :: rest => (unescapeTag fuel rest).map (c :: ·)
where
  /-- The bytes of escapes that stand together. -/
  tagBytes : Text → List Nat × Text
    | .scalar '%' :: a :: b :: rest => match a.hexValue?, b.hexValue? with
        | some high, some low =>
            let (bytes, rest) := tagBytes rest
            ((16 * high + low) :: bytes, rest)
        | _, _ => ([], .scalar '%' :: a :: b :: rest)
    | rest => ([], rest)

/-- The text of a tag, and the place behind it. -/
def tagText (c : Cursor) : Parsed (Text × Cursor) :=
  let (raw, c) := c.span isTagPart
  match unescapeTag (raw.length + 1) raw with
  | some t => if t.isEmpty then malformed else .ok (t, c)
  | none => malformed

/-- The handle of a tag: a sign, or a name between two signs. -/
def tagHandle (c : Cursor) : Parsed (Text × Cursor) :=
  if !c.at_ '!' then malformed
  else
    let (name, after) := c.step.span isWord
    if after.at_ '!' then .ok (.scalar '!' :: name ++ "!", after.step)
    else if name.isEmpty && c.step.at_ ' ' then .ok ("!", c.step)
    else malformed

/-- A tag. -/
def tag (s : Scan) : Parsed Scan := do
  let c := s.cursor
  let (token, c) ← match c.peekAt 1 with
    | some (.scalar '<') =>
        let (suffix, c) ← tagText (c.forward 2)
        if c.at_ '>' then pure (Token.tag none suffix, c.step) else malformed
    | next =>
        if endsWord next then pure (Token.tag none "!", c.step)
        else
          let word := c.step.rest.takeWhile fun ch => !isSpace ch && !isBreak ch
          if word.contains (.scalar '!') then
            let (handle, c) ← tagHandle c
            let (suffix, c) ← tagText c
            pure (Token.tag (some handle) suffix, c)
          else
            let (suffix, c) ← tagText c.step
            pure (Token.tag (some "!") suffix, c)
  if endsLine c.peek || c.at_ ' ' then s.content token c else malformed

/-- A block scalar. -/
def block (folded : Bool) (s : Scan) : Parsed Scan := do
  let s ← (s.allowKey true).dropKey
  let (t, c) ← blockScalar folded (max (s.indent + 1) 1).toNat s.cursor.step
  return { s.push (.scalar false t) with cursor := c }

/-- A quoted scalar. -/
def quoted (double : Bool) (s : Scan) : Parsed Scan := do
  let (t, c) ← quotedScalar double (s.cursor.rest.length + 1) s.cursor.step
  s.content (.scalar false t) c

/-- A plain scalar. -/
def plain (s : Scan) : Parsed Scan :=
  let found := plainScalar (!s.inBlock) (s.indent + 1) (s.cursor.rest.length + 1) s.cursor
  (s.content (.scalar true found.text) found.cursor).map (allowKey found.crossed)

/-! ## Directives -/

/-- A number in a directive. -/
def directiveNumber (c : Cursor) : Parsed (Nat × Cursor) :=
  let (digits, c) := c.span CodePoint.isDigit
  if digits.isEmpty then malformed
  else (integerOfDigits false digits).map fun _ => (digits.toNat, c)

/-- The version of YAML in a directive. -/
def versionDirective (c : Cursor) : Parsed (Directive × Cursor) := do
  let (major, c) ← directiveNumber (c.skip isSpace)
  if !c.at_ '.' then malformed
  else
    let (_, c) ← directiveNumber c.step
    if endsLine c.peek || c.at_ ' ' then return (.version major, c) else malformed

/-- The handle and the beginning of tags in a directive. -/
def handleDirective (c : Cursor) : Parsed (Directive × Cursor) := do
  let (name, c) ← tagHandle (c.skip isSpace)
  if !c.at_ ' ' then malformed
  else
    let (lead, c) ← tagText (c.skip isSpace)
    if endsLine c.peek || c.at_ ' ' then return (.handle name lead, c) else malformed

/-- A directive. -/
def directive (s : Scan) : Parsed Scan := do
  let s ← (s.unwind (-1)).dropKey
  let (name, c) := s.cursor.step.span isWord
  if name.isEmpty || !(endsLine c.peek || c.at_ ' ') then malformed
  else
    let (d, c) ←
      if name = Text.ofString "YAML" then versionDirective c
      else if name = Text.ofString "TAG" then handleDirective c
      else pure (Directive.other, c.skip fun ch => !isBreak ch)
    let c ← c.skipRest
    return { (s.allowKey false).push (.directive d) with cursor := c }

/-! ## The next token -/

/-- Spaces, comments and line ends are skipped.  A new line allows a key. -/
def toToken : (fuel : Nat) → Scan → Scan
  | 0, s => s
  | fuel + 1, s =>
      let c := (s.cursor.skip isSpace).skipComment
      match c.lineBreak with
      | ([], _) => { s with cursor := c }
      | (_, c) => toToken fuel { s with cursor := c, keyAllowed := s.keyAllowed || s.inBlock }

/-- A plain scalar can start at the cursor. -/
def atPlain (s : Scan) : Bool :=
  match s.cursor.peek with
  | none => false
  | some c =>
      if isWhite c || isBreak c then false
      else if isAmong "-?:,[]\x7b\x7d#&*!|>'\"%@\x60" c then
        !endsWord (s.cursor.peekAt 1) && (c = .scalar '-' || (s.inBlock && isAmong "?:" c))
      else true

/-- One more token at a code point. -/
def token (s : Scan) (ch : CodePoint) : Parsed Scan :=
  let c := s.cursor
  let wordEnds := endsWord (c.peekAt 1)
  let atStart := c.column == 0
  match ch with
  | .scalar '%' => if atStart then s.directive else malformed
  | .scalar '[' => s.flowStart .flowSequence
  | .scalar '\x7b' => s.flowStart .flowMapping
  | .scalar ']' => s.flowEnd .flowSequenceEnd
  | .scalar '\x7d' => s.flowEnd .flowMappingEnd
  | .scalar ',' => s.flowEntry
  | .scalar '*' => s.named .mention
  | .scalar '&' => s.named .anchor
  | .scalar '!' => s.tag
  | .scalar '"' => s.quoted true
  | _ =>
      if atStart && c.atLine "---" then s.documentMark .documentStart
      else if atStart && c.atLine "..." then s.documentMark .documentEnd
      else if ch = .scalar '-' && wordEnds then s.blockEntry
      else if ch = .scalar '?' && (!s.inBlock || wordEnds) then s.keyMark
      else if ch = .scalar ':' && (!s.inBlock || wordEnds) then s.valueMark
      else if ch = .scalar '|' && s.inBlock then s.block false
      else if ch = .scalar '>' && s.inBlock then s.block true
      else if ch = singleQuote then s.quoted false
      else if s.atPlain then s.plain
      else malformed

/-- The tokens up to a fault that is met at the next one. -/
def upTo (fault : FormatFault) (s : Scan) : Tokens :=
  let s := s.noteKey.toOption.getD s
  let certain := (s.keys.map (·.place)).foldl min s.count
  ⟨s.tokens.reverse.take certain, some fault⟩

/-- All tokens from a reader on. -/
def run : (fuel : Nat) → Scan → Tokens
  | 0, s => s.upTo .malformed
  | fuel + 1, s =>
      let s := toToken (s.cursor.rest.length + 1) s
      match s.dropStale with
      | .error f => s.upTo f
      | .ok s => match s.cursor.peek with
          | none => match (s.unwind (-1)).dropKey with
              | .error f => s.upTo f
              | .ok s => ⟨s.tokens.reverse, none⟩
          | some ch =>
              let s := s.unwind s.cursor.column
              match s.token ch with
              | .error f => s.upTo f
              | .ok s => run fuel s

end Scan

/-- The tokens of a YAML text. -/
def tokens (t : Text) : Tokens :=
  if t.all isPrintable then
    let body := if t.head? = some byteOrderMark then t.drop 1 else t
    Scan.run (t.length + 1) (.start body)
  else ⟨[], some .malformed⟩

end ConfigReader.Yaml
