/-
# Events

An event is a scalar, a reference, or the beginning or end of a collection.  `firstDocument` turns
tokens into the events of the first document and says how it ends: at the end of the text, before
another document, or at a fault.

What may come next is kept as a stack of expectations, the innermost first.
-/

import Emend.Yaml.Token

namespace Emend.Yaml

/-- The properties that a node may have. -/
structure Properties where
  /-- The name by which it can be referred to. -/
  anchor : Option (List Char) := none
  /-- The tag, with its handle replaced. -/
  tag : Option Bytes := none
  deriving Repr, DecidableEq

/-- What an event is. -/
inductive EventKind where
  | documentStart
  | documentEnd
  | streamEnd
  | alias (name : List Char)
  | scalar (properties : Properties) (text : List Char) (isPlain : Bool)
  | sequenceStart (properties : Properties)
  | sequenceEnd
  | mappingStart (properties : Properties)
  | mappingEnd
  deriving Repr, DecidableEq

/-- An event and where it starts. -/
structure Event where
  kind : EventKind
  mark : Mark
  deriving Repr, DecidableEq

/-- What is expected.  A collection's expectations know where the collection starts. -/
inductive Expectation where
  /-- A document; the first one needs no mark before it. -/
  | document (isFirst : Bool)
  /-- The content of a document after the mark before it. -/
  | content
  | documentEnd
  /-- A node outside brackets. -/
  | blockNode
  | blockEntry (start : Mark)
  /-- An entry of a sequence that is not indented more than the mapping around it. -/
  | indentlessEntry
  | blockKey (start : Mark)
  | blockValue (start : Mark)
  | flowEntry (start : Mark) (isFirst : Bool)
  /-- The key, the value and the end of a mapping of one pair, written without braces in a
  sequence. -/
  | pairKey
  | pairValue
  | pairEnd
  | flowKey (start : Mark) (isFirst : Bool)
  | flowValue (start : Mark)
  /-- The value after a key without a colon. -/
  | noValue
  deriving Repr, DecidableEq

/-- The state of turning tokens into events. -/
structure Reader where
  tokens : List Token
  /-- What is wrong after the tokens. -/
  cut? : Option Fault := none
  expected : List Expectation := [.document true]
  /-- The tag handles of the document, with what they stand for. -/
  handles : List (List Char × Bytes) := []

namespace Reader

/-- The next token. -/
def peek (r : Reader) : Except Fault Token :=
  match r.tokens with
  | token :: _ => .ok token
  | [] => .error (r.cut?.getD { problem := .endOfStream })

/-- The reader after the next token. -/
def skip (r : Reader) : Reader := { r with tokens := r.tokens.tail }

/-- The reader that expects something before all else. -/
def expect (r : Reader) (expectation : Expectation) : Reader :=
  { r with expected := expectation :: r.expected }

/-- A scalar that is left out. -/
def emptyScalar (r : Reader) (mark : Mark) : Event × Reader :=
  ({ kind := .scalar {} [] true, mark }, r)

/-! ## Nodes -/

/-- The handles that need no directive. -/
def defaultHandles : List (List Char × Bytes) :=
  [(['!'], Bytes.ofText "!"), (['!', '!'], Bytes.ofText "tag:yaml.org,2002:")]

/-- What a handle and the characters after it stand for. -/
def resolveTag (r : Reader) (start mark : Mark) (handle : List Char) (suffix : Bytes) :
    Except Fault Bytes :=
  if handle.isEmpty then .ok suffix
  else
    match (r.handles ++ defaultHandles).lookup handle with
    | some replacement => .ok (replacement ++ suffix)
    | none =>
      .error { problem := .undefinedTagHandle, mark, activity := some (.parsingNode, start) }

/-- Read an anchor, if there is one. -/
def anchor (r : Reader) : Except Fault (Option (List Char) × Reader) := do
  match (← r.peek).kind with
  | .anchor name => return (some name, r.skip)
  | _ => return (none, r)

/-- Read a tag, if there is one: its handle, what follows that, and where it stands. -/
def tag (r : Reader) : Except Fault (Option (List Char × Bytes × Mark) × Reader) := do
  let token ← r.peek
  match token.kind with
  | .tag handle suffix => return (some (handle, suffix, token.start), r.skip)
  | _ => return (none, r)

/-- Read an anchor and a tag, in either order. -/
def properties (r : Reader) : Except Fault (Properties × Reader) := do
  let start := (← r.peek).start
  let (early, r) ← r.anchor
  let (found, r) ← r.tag
  let (late, r) ← if early.isNone && found.isSome then r.anchor else pure (none, r)
  let anchor := early <|> late
  match found with
  | none => return ({ anchor }, r)
  | some (handle, suffix, mark) =>
    discard r.peek
    return ({ anchor, tag := some (← r.resolveTag start mark handle suffix) }, r)

/-- Read a node, or the beginning of one. -/
def node (r : Reader) (inBlock indentless : Bool) : Except Fault (Event × Reader) := do
  let first ← r.peek
  match first.kind with
  | .alias name => return ({ kind := .alias name, mark := first.start }, r.skip)
  | _ =>
    let (properties, r) ← r.properties
    let mark := first.start
    let token ← r.peek
    match token.kind, inBlock with
    | .blockEntry, _ =>
      if indentless then
        return ({ kind := .sequenceStart properties, mark }, r.expect .indentlessEntry)
      else other r properties inBlock mark token.start
    | .scalar text style, _ =>
      return ({ kind := .scalar properties text (style = .plain), mark }, r.skip)
    | .flowSequenceStart, _ =>
      return ({ kind := .sequenceStart properties, mark },
        r.skip.expect (.flowEntry token.start true))
    | .flowMappingStart, _ =>
      return ({ kind := .mappingStart properties, mark }, r.skip.expect (.flowKey token.start true))
    | .blockSequenceStart, true =>
      return ({ kind := .sequenceStart properties, mark }, r.skip.expect (.blockEntry token.start))
    | .blockMappingStart, true =>
      return ({ kind := .mappingStart properties, mark }, r.skip.expect (.blockKey token.start))
    | _, _ => other r properties inBlock mark token.start
where
  /-- Properties alone make an empty scalar; nothing at all is no node. -/
  other (r : Reader) (properties : Properties) (inBlock : Bool) (start here : Mark) :
      Except Fault (Event × Reader) :=
    if properties.anchor.isSome || properties.tag.isSome then
      .ok ({ kind := .scalar properties [] true, mark := start }, r)
    else
      let activity := if inBlock then Activity.parsingBlockNode else .parsingFlowNode
      .error { problem := .expectedContent, mark := here, activity := some (activity, start) }

/-! ## Documents -/

/-- Read directives. -/
def directives (hasVersion : Bool) (r : Reader) : List Token → Except Fault Reader
  | [] => .error (r.cut?.getD { problem := .endOfStream })
  | token :: tokens =>
    let fault (problem : Problem) : Fault := { problem, mark := token.start }
    match token.kind with
    | .versionDirective major minor =>
      if hasVersion then .error (fault .duplicateVersion)
      else if major ≠ 1 || (minor ≠ 1 && minor ≠ 2) then .error (fault .incompatibleVersion)
      else directives true { r with tokens } tokens
    | .tagDirective handle replacement =>
      if (r.handles.lookup handle).isSome then .error (fault .duplicateTagHandle)
      else
        directives hasVersion
          { r with tokens, handles := r.handles ++ [(handle, replacement)] } tokens
    | _ => .ok r

/-- The beginning of a document, or the end of the text. -/
def document (r : Reader) (isFirst : Bool) : Except Fault (Event × Reader) := do
  let r := { r with handles := [] }
  let r :=
    if isFirst then r
    else { r with tokens := r.tokens.dropWhile fun token => token.kind = .documentEnd }
  let token ← r.peek
  let needsMark :=
    !isFirst || match token.kind with
      | .versionDirective .. => true
      | .tagDirective .. => true
      | .documentStart => true
      | _ => false
  if token.kind = .streamEnd then return ({ kind := .streamEnd, mark := token.start }, r.skip)
  let r := r.expect .documentEnd
  if needsMark then
    let r ← r.directives false r.tokens
    let mark := (← r.peek).start
    if (← r.peek).kind ≠ .documentStart then throw { problem := .expectedDocumentStart, mark }
    return ({ kind := .documentStart, mark := token.start }, r.skip.expect .content)
  else return ({ kind := .documentStart, mark := token.start }, r.expect .blockNode)

/-- The content of a document, which may be left out. -/
def content (r : Reader) : Except Fault (Event × Reader) := do
  let token ← r.peek
  let isEmpty :=
    match token.kind with
    | .versionDirective .. => true
    | .tagDirective .. => true
    | .documentStart => true
    | .documentEnd => true
    | .streamEnd => true
    | _ => false
  if isEmpty then return r.emptyScalar token.start else r.node true false

/-- The end of a document. -/
def documentEnd (r : Reader) : Except Fault (Event × Reader) := do
  let token ← r.peek
  let r := if token.kind = .documentEnd then r.skip else r
  return ({ kind := .documentEnd, mark := token.start }, r.expect (.document false))

/-! ## Collections -/

/-- A node of a block collection after a sign that ends at `mark`, or an empty scalar if one of the
tokens that end the node comes next. -/
def blockNodeAfter (r : Reader) (mark : Mark) (indentless : Bool) (ends : List TokenKind) :
    Except Fault (Event × Reader) := do
  if ends.contains (← r.peek).kind then return r.emptyScalar mark else r.node true indentless

/-- An entry of a block sequence, or its end. -/
def blockEntry (r : Reader) (start : Mark) : Except Fault (Event × Reader) := do
  let token ← r.peek
  match token.kind with
  | .blockEntry =>
    (r.skip.expect (.blockEntry start)).blockNodeAfter token.stop false [.blockEntry, .blockEnd]
  | .blockEnd => return ({ kind := .sequenceEnd, mark := token.start }, r.skip)
  | _ =>
    throw { problem := .expectedEntry, mark := token.start
            activity := some (.parsingBlockCollection, start) }

/-- An entry of a sequence that is not indented, or its end. -/
def indentlessEntry (r : Reader) : Except Fault (Event × Reader) := do
  let token ← r.peek
  match token.kind with
  | .blockEntry =>
    (r.skip.expect .indentlessEntry).blockNodeAfter token.stop false
      [.blockEntry, .key, .value, .blockEnd]
  | _ => return ({ kind := .sequenceEnd, mark := token.start }, r)

/-- A key of a block mapping, or its end. -/
def blockKey (r : Reader) (start : Mark) : Except Fault (Event × Reader) := do
  let token ← r.peek
  match token.kind with
  | .key =>
    (r.skip.expect (.blockValue start)).blockNodeAfter token.stop true [.key, .value, .blockEnd]
  | .blockEnd => return ({ kind := .mappingEnd, mark := token.start }, r.skip)
  | _ =>
    throw { problem := .expectedKey, mark := token.start
            activity := some (.parsingBlockMapping, start) }

/-- A value of a block mapping. -/
def blockValue (r : Reader) (start : Mark) : Except Fault (Event × Reader) := do
  let token ← r.peek
  let r := r.expect (.blockKey start)
  match token.kind with
  | .value => r.skip.blockNodeAfter token.stop true [.key, .value, .blockEnd]
  | _ => return r.emptyScalar token.start

/-- The reader after the comma before an entry of a flow collection. -/
def comma (r : Reader) (isFirst : Bool) (close : TokenKind) (problem : Problem)
    (activity : Activity) (start : Mark) : Except Fault Reader := do
  let token ← r.peek
  if isFirst || token.kind = close then return r
  if token.kind = .flowEntry then return r.skip
  throw { problem, mark := token.start, activity := some (activity, start) }

/-- An entry of a flow sequence, or its end. -/
def flowEntry (r : Reader) (start : Mark) (isFirst : Bool) : Except Fault (Event × Reader) := do
  let r ← r.comma isFirst .flowSequenceEnd .expectedCommaOrBracket .parsingFlowSequence start
  let token ← r.peek
  match token.kind with
  | .flowSequenceEnd => return ({ kind := .sequenceEnd, mark := token.start }, r.skip)
  | .key =>
    return ({ kind := .mappingStart {}, mark := token.start },
      (r.skip.expect (.flowEntry start false)).expect .pairKey)
  | _ => (r.expect (.flowEntry start false)).node false false

/-- The key of a mapping of one pair.  What stands in its place is passed over. -/
def pairKey (r : Reader) : Except Fault (Event × Reader) := do
  let token ← r.peek
  let r := r.expect .pairValue
  if [TokenKind.value, .flowEntry, .flowSequenceEnd].contains token.kind then
    return r.skip.emptyScalar token.stop
  else r.node false false

/-- The value of a mapping of one pair. -/
def pairValue (r : Reader) : Except Fault (Event × Reader) := do
  let token ← r.peek
  let r := r.expect .pairEnd
  if token.kind = .value then
    let r := r.skip
    let token ← r.peek
    if [TokenKind.flowEntry, .flowSequenceEnd].contains token.kind then
      return r.emptyScalar token.start
    else r.node false false
  else return r.emptyScalar token.start

/-- The end of a mapping of one pair. -/
def pairEnd (r : Reader) : Except Fault (Event × Reader) := do
  return ({ kind := .mappingEnd, mark := (← r.peek).start }, r)

/-- A key of a flow mapping, or its end. -/
def flowKey (r : Reader) (start : Mark) (isFirst : Bool) : Except Fault (Event × Reader) := do
  let r ← r.comma isFirst .flowMappingEnd .expectedCommaOrBrace .parsingFlowMapping start
  let token ← r.peek
  match token.kind with
  | .flowMappingEnd => return ({ kind := .mappingEnd, mark := token.start }, r.skip)
  | .key =>
    let r := r.skip.expect (.flowValue start)
    let token ← r.peek
    if [TokenKind.value, .flowEntry, .flowMappingEnd].contains token.kind then
      return r.emptyScalar token.start
    else r.node false false
  | _ => ((r.expect (.flowKey start false)).expect .noValue).node false false

/-- A value of a flow mapping. -/
def flowValue (r : Reader) (start : Mark) : Except Fault (Event × Reader) := do
  let token ← r.peek
  let r := r.expect (.flowKey start false)
  if token.kind = .value then
    let r := r.skip
    let token ← r.peek
    if [TokenKind.flowEntry, .flowMappingEnd].contains token.kind then
      return r.emptyScalar token.start
    else r.node false false
  else return r.emptyScalar token.start

/-! ## The first document -/

/-- The next event. -/
def next (r : Reader) : Except Fault (Event × Reader) :=
  match r.expected with
  | [] => .error { problem := .endOfStream }
  | expectation :: expected =>
    let r := { r with expected }
    match expectation with
    | .document isFirst => r.document isFirst
    | .content => r.content
    | .documentEnd => r.documentEnd
    | .blockNode => r.node true false
    | .blockEntry start => r.blockEntry start
    | .indentlessEntry => r.indentlessEntry
    | .blockKey start => r.blockKey start
    | .blockValue start => r.blockValue start
    | .flowEntry start isFirst => r.flowEntry start isFirst
    | .pairKey => r.pairKey
    | .pairValue => r.pairValue
    | .pairEnd => r.pairEnd
    | .flowKey start isFirst => r.flowKey start isFirst
    | .flowValue start => r.flowValue start
    | .noValue => do return r.emptyScalar (← r.peek).start

end Reader

/-- How the first document of a text ends. -/
inductive Ending where
  /-- Nothing follows it. -/
  | only
  /-- Something follows it. -/
  | more
  /-- It breaks off. -/
  | broken (fault : Fault)
  deriving Repr, DecidableEq

/-- The events of a document and its ending.  A text without a document has no events. -/
structure EventList where
  events : List Event
  ending : Ending
  deriving Repr, DecidableEq

namespace EventList

/-- What follows a document. -/
def endingAfter (r : Reader) : Ending :=
  match r.next with
  | .ok (event, _) => if event.kind = .streamEnd then .only else .more
  | .error _ => .more

/-- Read events on, after those of `done`, which are in reverse. -/
def readFrom (r : Reader) (done : List Event) : (fuel : Nat) → EventList
  | 0 => { events := done.reverse, ending := .only }
  | fuel + 1 =>
    match r.next with
    | .error fault => { events := done.reverse, ending := .broken fault }
    | .ok (event, r) =>
      match event.kind with
      | .documentStart => readFrom r done fuel
      | .documentEnd => { events := done.reverse, ending := endingAfter r }
      | .streamEnd => { events := done.reverse, ending := .only }
      | _ => readFrom r (event :: done) fuel

/-- The events of the first document.  Of any five events in a row at least one takes a token. -/
def firstDocument (tokens : List Token) (cut? : Option Fault) : EventList :=
  readFrom { tokens := tokens.tail, cut? } [] (5 * tokens.length + 5)

/-- The events of the first document of a text. -/
def ofSource (source : Source) : EventList :=
  let (tokens, cut?) := Token.scan source
  firstDocument tokens cut?

end EventList

end Emend.Yaml
