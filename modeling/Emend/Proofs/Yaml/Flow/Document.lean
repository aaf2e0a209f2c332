/-
# The nodes of a document in one line

A node denotes what is written when it has the same texts at the same places, whatever the marks.
The events of a document in one line make such a node, and so do its bytes in the end.
-/

import Emend.Proofs.Yaml.Flow.Events
import Emend.Proofs.Yaml.Flow.Scan
import Emend.Yaml.Document

namespace Emend.Yaml

/-! ## What a document in one line holds -/

mutual

/-- A node is what a document in one line holds. -/
inductive Flow.Denotes : Flow → Node → Prop where
  | text (said : List Char) (mark : Mark) :
    Flow.Denotes (.text said) (.scalar mark none said false)
  | sequence {items : List Flow} {nodes : List Node} (mark : Mark) :
    Flow.ItemsDenote items nodes → Flow.Denotes (.sequence items) (.sequence mark nodes)
  | mapping {entries : List (Flow.Key × Flow)} {pairs : List (Node × Node)} (mark : Mark) :
    Flow.EntriesDenote entries pairs → Flow.Denotes (.mapping entries) (.mapping mark pairs)

/-- Nodes are what items hold. -/
inductive Flow.ItemsDenote : List Flow → List Node → Prop where
  | nil : Flow.ItemsDenote [] []
  | cons {item : Flow} {node : Node} {items : List Flow} {nodes : List Node} :
    Flow.Denotes item node → Flow.ItemsDenote items nodes →
    Flow.ItemsDenote (item :: items) (node :: nodes)

/-- Pairs of nodes are what entries hold. -/
inductive Flow.EntriesDenote : List (Flow.Key × Flow) → List (Node × Node) → Prop where
  | nil : Flow.EntriesDenote [] []
  | cons {value : Flow} {node : Node} {entries : List (Flow.Key × Flow)}
    {pairs : List (Node × Node)} (key : Flow.Key) (mark : Mark) :
    Flow.Denotes value node → Flow.EntriesDenote entries pairs →
    Flow.EntriesDenote ((key, value) :: entries)
      ((.scalar mark none key.word false, node) :: pairs)

end

/-! ## From events -/

/-- Keys and values, one after the other. -/
def unpair (pairs : List (Node × Node)) : List Node :=
  pairs.flatMap fun (key, value) => [key, value]

theorem pairUp_unpair (pairs : List (Node × Node)) : pairUp (unpair pairs) = pairs := by
  induction pairs with
  | nil => rfl
  | cons pair pairs ih =>
    change pair :: pairUp (unpair pairs) = pair :: pairs
    rw [ih]

namespace Construction

/-- A construction that counts another number of events. -/
def counting (c : Construction) (count : Nat) : Construction := { c with eventCount := count }

/-- A construction with another collection around the next node. -/
def inside (c : Construction) (inner : OpenCollection) : Construction :=
  { c with surrounding := inner :: c.surrounding }

theorem finish_inside (c : Construction) {inner : OpenCollection} (unmarked : inner.place = none) :
    (c.inside inner).finish = c.add inner.node := by
  simp [finish, inside, unmarked, setAnchor]

mutual

/-- The events of a document in one line add its node. -/
theorem exists_takeIn (flow : Flow) {events : List Event}
    (events_eq : events.map Event.kind = flow.events) (c : Construction) (ending : Ending)
    (more : List Event) :
    ∃ node count, flow.Denotes node ∧
      c.takeIn ending (events ++ more) = ((c.counting count).add node).takeIn ending more := by
  cases flow with
  | text said =>
    obtain ⟨event, rfl, kind_eq⟩ := List.map_eq_singleton_iff.mp events_eq
    refine ⟨_, c.eventCount + 1, .text said event.mark, ?_⟩
    rw [List.singleton_append, takeIn, kind_eq]
    rfl
  | sequence items =>
    obtain ⟨event, events, rfl, kind_eq, events_eq⟩ := List.map_eq_cons_iff.mp events_eq
    let inner : OpenCollection := { mark := event.mark, isMapping := false, place := none }
    obtain ⟨nodes, count, denote, takeIn_eq⟩ := exists_takeIn_items items events_eq
      (c.counting (c.eventCount + 1)) inner ending more
    refine ⟨_, count, .sequence event.mark denote, ?_⟩
    rw [List.cons_append, takeIn, kind_eq]
    refine takeIn_eq.trans ?_
    rw [finish_inside _ rfl]
    simp [OpenCollection.node, inner, counting]
  | mapping entries =>
    obtain ⟨event, events, rfl, kind_eq, events_eq⟩ := List.map_eq_cons_iff.mp events_eq
    let inner : OpenCollection := { mark := event.mark, isMapping := true, place := none }
    obtain ⟨pairs, count, denote, takeIn_eq⟩ := exists_takeIn_entries entries events_eq
      (c.counting (c.eventCount + 1)) inner ending more
    refine ⟨_, count, .mapping event.mark denote, ?_⟩
    rw [List.cons_append, takeIn, kind_eq]
    refine takeIn_eq.trans ?_
    rw [finish_inside _ rfl]
    simp [OpenCollection.node, inner, counting, pairUp_unpair]

theorem exists_takeIn_items (items : List Flow) {events : List Event}
    (events_eq : events.map Event.kind = Flow.itemsEvents items) (c : Construction)
    (inner : OpenCollection) (ending : Ending) (more : List Event) :
    ∃ nodes count, Flow.ItemsDenote items nodes ∧
      (c.inside inner).takeIn ending (events ++ more) =
        ((c.counting count).inside
          { inner with nodes := nodes.reverse ++ inner.nodes }).finish.takeIn ending more := by
  match items with
  | [] =>
    obtain ⟨event, rfl, kind_eq⟩ := List.map_eq_singleton_iff.mp events_eq
    refine ⟨[], c.eventCount + 1, .nil, ?_⟩
    rw [List.singleton_append, takeIn, kind_eq]
    rfl
  | item :: items =>
    obtain ⟨first, others, rfl, first_eq, others_eq⟩ := List.map_eq_append_iff.mp events_eq
    obtain ⟨node, count, denotes, first_takeIn⟩ :=
      exists_takeIn item first_eq (c.inside inner) ending (others ++ more)
    obtain ⟨nodes, count', denote, others_takeIn⟩ := exists_takeIn_items items others_eq
      (c.counting count) { inner with nodes := node :: inner.nodes } ending more
    refine ⟨node :: nodes, count', .cons denotes denote, ?_⟩
    rw [List.append_assoc, first_takeIn]
    refine others_takeIn.trans ?_
    simp [counting]

theorem exists_takeIn_entries (entries : List (Flow.Key × Flow)) {events : List Event}
    (events_eq : events.map Event.kind = Flow.entriesEvents entries) (c : Construction)
    (inner : OpenCollection) (ending : Ending) (more : List Event) :
    ∃ pairs count, Flow.EntriesDenote entries pairs ∧
      (c.inside inner).takeIn ending (events ++ more) =
        ((c.counting count).inside
          { inner with nodes := (unpair pairs).reverse ++ inner.nodes }).finish.takeIn ending
            more := by
  match entries with
  | [] =>
    obtain ⟨event, rfl, kind_eq⟩ := List.map_eq_singleton_iff.mp events_eq
    refine ⟨[], c.eventCount + 1, .nil, ?_⟩
    rw [List.singleton_append, takeIn, kind_eq]
    rfl
  | (key, value) :: entries =>
    obtain ⟨event, events, rfl, kind_eq, events_eq⟩ := List.map_eq_cons_iff.mp events_eq
    obtain ⟨first, others, rfl, first_eq, others_eq⟩ := List.map_eq_append_iff.mp events_eq
    let keyNode : Node := .scalar event.mark none key.word false
    obtain ⟨node, count, denotes, first_takeIn⟩ := exists_takeIn value first_eq
      ((c.counting (c.eventCount + 1)).inside { inner with nodes := keyNode :: inner.nodes }) ending
      (others ++ more)
    obtain ⟨pairs, count', denote, others_takeIn⟩ := exists_takeIn_entries entries others_eq
      (c.counting count) { inner with nodes := node :: keyNode :: inner.nodes } ending more
    refine ⟨(keyNode, node) :: pairs, count', .cons key event.mark denotes denote, ?_⟩
    rw [List.cons_append, takeIn, kind_eq, List.append_assoc]
    refine first_takeIn.trans (others_takeIn.trans ?_)
    simp [counting, unpair]

end

end Construction

/-! ## From bytes -/

/-- A document in one line is read as what it holds, and nothing follows it. -/
theorem Document.exists_ofBytes_flow (capital : Bool) (flow : Flow) :
    ∃ node count, flow.Denotes node ∧
      Document.ofBytes (Bytes.ofChars (flow.chars capital)) =
        { root := some node, anchors := [], eventCount := count, ending := .only } := by
  obtain ⟨tokens, scan_eq, tokens_eq⟩ := Token.exists_scan_flow capital flow
  obtain ⟨events_eq, ending_eq⟩ := EventList.firstDocument_flow tokens_eq none
  obtain ⟨node, count, denotes, takeIn_eq⟩ :=
    Construction.exists_takeIn flow events_eq {} .only []
  refine ⟨node, count, denotes, ?_⟩
  rw [List.append_nil] at takeIn_eq
  rw [Document.ofBytes, Source.ofBytes_of_isPrintable (flow.isPrintable_of_mem_chars capital),
    EventList.ofSource, scan_eq, Document.ofEvents]
  simp only
  rw [ending_eq, takeIn_eq]
  rfl

end Emend.Yaml
