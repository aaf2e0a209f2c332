/-
# Documents

A document is a tree of nodes.  References stay nodes of their own: what they refer to is found
through the anchors.  A document that breaks off has a hole where its next node would be; who looks
there meets the fault, while what comes before can be read.
-/

import Emend.Yaml.Event

namespace Emend.Yaml

/-- A node of a document. -/
inductive Node where
  | scalar (mark : Mark) (tag : Option Bytes) (text : List Char) (isPlain : Bool)
  | sequence (mark : Mark) (items : List Node)
  | mapping (mark : Mark) (entries : List (Node × Node))
  /-- A reference to the node with an anchor. -/
  | alias (anchor : Nat)
  /-- Here the document breaks off. -/
  | hole
  deriving Repr, Inhabited

/-- The first document of a text. -/
structure Document where
  /-- The outermost node; none if the text holds no document. -/
  root : Option Node
  /-- The nodes with anchors, in the order in which they begin. -/
  anchors : List (Nat × Node)
  /-- The number of events of the document. -/
  eventCount : Nat
  ending : Ending
  deriving Repr

/-- The node that references to an anchor stand for: the last one with that number. -/
def Document.target? (document : Document) (anchor : Nat) : Option Node :=
  document.anchors.reverse.lookup anchor

/-! ## From events -/

/-- A collection that has begun and not ended. -/
structure OpenCollection where
  mark : Mark
  isMapping : Bool
  /-- Its place among the nodes with anchors, if it has one. -/
  place : Option Nat
  /-- Its nodes so far, the last one first; keys and values alternate in a mapping. -/
  nodes : List Node := []

/-- Pair keys with values.  A key without a value is one where the document breaks off. -/
def pairUp : List Node → List (Node × Node)
  | key :: value :: rest => (key, value) :: pairUp rest
  | [key] => [(key, .hole)]
  | [] => []

/-- The node that a collection becomes when it ends. -/
def OpenCollection.node (c : OpenCollection) : Node :=
  if c.isMapping then .mapping c.mark (pairUp c.nodes.reverse)
  else .sequence c.mark c.nodes.reverse

/-- A document under construction. -/
structure Construction where
  /-- The collections around the next node, the innermost first. -/
  surrounding : List OpenCollection := []
  root : Option Node := none
  /-- The numbers of the anchors, by name. -/
  names : List (List Char × Nat) := []
  /-- The nodes with anchors; one that has not ended is a hole. -/
  anchors : List (Nat × Node) := []
  eventCount : Nat := 0

namespace Construction

/-- Note an anchor.  Its number is the number of the names there have been, so when a name is used
a second time, the anchor with the next new name gets the same number. -/
def addAnchor (c : Construction) (properties : Properties) : Option Nat × Construction :=
  match properties.anchor with
  | none => (none, c)
  | some name =>
    let number := c.names.length
    let names := (name, number) :: c.names.filter fun (other, _) => other ≠ name
    (some c.anchors.length, { c with names, anchors := c.anchors ++ [(number, .hole)] })

/-- Note the node at a place among those with anchors. -/
def setAnchor (c : Construction) (place : Option Nat) (node : Node) : Construction :=
  match place with
  | some place => { c with anchors := c.anchors.modify place fun (number, _) => (number, node) }
  | none => c

/-- Add a node to the innermost collection. -/
def add (c : Construction) (node : Node) : Construction :=
  match c.surrounding with
  | [] => { c with root := some node }
  | inner :: outer => { c with surrounding := { inner with nodes := node :: inner.nodes } :: outer }

/-- Begin a collection. -/
def begin (c : Construction) (mark : Mark) (isMapping : Bool) (properties : Properties) :
    Construction :=
  let (place, c) := c.addAnchor properties
  { c with surrounding := { mark, isMapping, place } :: c.surrounding }

/-- End the innermost collection. -/
def finish (c : Construction) : Construction :=
  match c.surrounding with
  | [] => c
  | inner :: outer =>
    let node := inner.node
    ({ c with surrounding := outer }.setAnchor inner.place node).add node

/-- End all collections, the innermost first. -/
def finishAll (c : Construction) : (surrounding : List OpenCollection) → Construction
  | [] => c
  | _ :: outer => finishAll c.finish outer

/-- The document, which ends here.  What is wrong after the outermost node leaves no hole. -/
def complete (c : Construction) (ending : Ending) : Document :=
  let c := match ending, c.root with
    | .broken _, none => let c := c.add .hole; c.finishAll c.surrounding
    | _, _ => c
  { root := c.root, anchors := c.anchors, eventCount := c.eventCount, ending }

/-- Take in events.  A reference to an anchor that has not been met breaks the document off. -/
def takeIn (c : Construction) (ending : Ending) : List Event → Document
  | [] => c.complete ending
  | event :: events =>
    let counted := { c with eventCount := c.eventCount + 1 }
    match event.kind with
    | .alias name =>
      match c.names.lookup name with
      | some number => takeIn (counted.add (.alias number)) ending events
      | none => c.complete (.broken { problem := .unknownAnchor, mark := event.mark })
    | .scalar properties text isPlain =>
      let node := Node.scalar event.mark properties.tag text isPlain
      let (place, c) := counted.addAnchor properties
      takeIn ((c.setAnchor place node).add node) ending events
    | .sequenceStart properties => takeIn (counted.begin event.mark false properties) ending events
    | .mappingStart properties => takeIn (counted.begin event.mark true properties) ending events
    | .sequenceEnd => takeIn counted.finish ending events
    | .mappingEnd => takeIn counted.finish ending events
    | _ => takeIn c ending events

end Construction

/-- The document that events make. -/
def Document.ofEvents (list : EventList) : Document :=
  Construction.takeIn {} list.ending list.events

/-- The first document of a text given as bytes. -/
def Document.ofBytes (content : Bytes) : Document :=
  .ofEvents (.ofSource (.ofBytes content))

end Emend.Yaml
