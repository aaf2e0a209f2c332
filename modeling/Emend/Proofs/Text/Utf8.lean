/-
# Characters among arbitrary bytes

Where the encoding of a character begins in a content, it is read off, and nowhere else is anything
read.  From this follows that a content can be cut in one way only into encodings and bytes outside
of them, and that well-formed runs and the ill-formed sequences between them have the same segments:
an ill-formed sequence never hides the beginning of a character.
-/

import Emend.Text.Utf8
import Mathlib.Data.List.Infix

namespace Emend.Utf8

/-! ## Bytes by their place in a character -/

theorem isTail_iff_toNat {b : UInt8} : isTail b = true ↔ 0x80 ≤ b.toNat ∧ b.toNat ≤ 0xBF := by
  simp [isTail, UInt8.le_iff_toNat_le]

theorem isSecond_iff {lead b : UInt8} :
    isSecond lead b = true ↔
      (0x80 ≤ b.toNat ∧ b.toNat ≤ 0xBF) ∧ (lead.toNat = 0xE0 → 0xA0 ≤ b.toNat) ∧
        (lead.toNat = 0xED → b.toNat ≤ 0x9F) ∧ (lead.toNat = 0xF0 → 0x90 ≤ b.toNat) ∧
        (lead.toNat = 0xF4 → b.toNat ≤ 0x8F) := by
  unfold isSecond
  simp only [← UInt8.toNat_inj, UInt8.reduceToNat]
  split_ifs <;> simp [isTail_iff_toNat, UInt8.le_iff_toNat_le] <;> omega

/-! ## Characters by their number of bytes -/

/-- The bytes of a character and what they are worth. -/
inductive Encodes : Bytes → Nat → Prop where
  | one {lead : UInt8} (range : lead.toNat < 0x80) : Encodes [lead] lead.toNat
  | two {lead x : UInt8} (range : 0xC2 ≤ lead.toNat ∧ lead.toNat < 0xE0)
      (x_tail : isTail x = true) :
      Encodes [lead, x] ((lead.toNat - 0xC0) * 64 + (x.toNat - 0x80))
  | three {lead x y : UInt8} (range : 0xE0 ≤ lead.toNat ∧ lead.toNat < 0xF0)
      (x_second : isSecond lead x = true) (y_tail : isTail y = true) :
      Encodes [lead, x, y]
        ((lead.toNat - 0xE0) * 4096 + (x.toNat - 0x80) * 64 + (y.toNat - 0x80))
  | four {lead x y z : UInt8} (range : 0xF0 ≤ lead.toNat ∧ lead.toNat < 0xF5)
      (x_second : isSecond lead x = true) (y_tail : isTail y = true) (z_tail : isTail z = true) :
      Encodes [lead, x, y, z]
        ((lead.toNat - 0xF0) * 262144 + (x.toNat - 0x80) * 4096 + (y.toNat - 0x80) * 64
          + (z.toNat - 0x80))

/-- A scalar is read off the bytes that encode it. -/
theorem scalar?_of_encodes {bytes : Bytes} {value : Nat} (encodes : Encodes bytes value)
    (rest : Bytes) : scalar? (bytes ++ rest) = some (Char.ofNat value, bytes.length) := by
  cases encodes with
  | @one lead range =>
    simp only [List.cons_append, scalar?]
    unfold scalarOf
    simp only [UInt8.lt_iff_toNat_lt, UInt8.reduceToNat]
    rw [if_pos range]
    rfl
  | @two lead x range x_tail =>
    simp only [List.cons_append, scalar?, List.getElem?_cons_zero]
    unfold scalarOf
    simp only [UInt8.lt_iff_toNat_lt, UInt8.reduceToNat, x_tail]
    rw [if_neg (by omega), if_neg (by omega), if_pos range.2]
    rfl
  | @three lead x y range x_second y_tail =>
    simp only [List.cons_append, scalar?, List.getElem?_cons_zero, List.getElem?_cons_succ]
    unfold scalarOf
    simp only [UInt8.lt_iff_toNat_lt, UInt8.reduceToNat, x_second, y_tail]
    rw [if_neg (by omega), if_neg (by omega), if_neg (by omega), if_pos range.2]
    rfl
  | @four lead x y z range x_second y_tail z_tail =>
    simp only [List.cons_append, scalar?, List.getElem?_cons_zero, List.getElem?_cons_succ]
    unfold scalarOf
    simp only [UInt8.lt_iff_toNat_lt, UInt8.reduceToNat, x_second, y_tail, z_tail]
    rw [if_neg (by omega), if_neg (by omega), if_neg (by omega), if_neg (by omega),
      if_pos range.2]
    rfl

/-- What is read as a scalar begins with bytes that encode it. -/
theorem exists_encodes_of_scalar? {content : Bytes} {c : Char} {length : Nat}
    (read : scalar? content = some (c, length)) :
    ∃ bytes rest value, content = bytes ++ rest ∧ Encodes bytes value ∧ c = Char.ofNat value ∧
      length = bytes.length := by
  cases content with
  | nil => cases read
  | cons lead rest =>
    simp only [scalar?] at read
    unfold scalarOf at read
    simp only [UInt8.lt_iff_toNat_lt, UInt8.reduceToNat] at read
    split_ifs at read with one less two three four
    · obtain ⟨rfl, rfl⟩ := read
      exact ⟨[lead], rest, _, rfl, .one one, rfl, rfl⟩
    · match rest with
      | [] => cases read
      | x :: rest =>
        simp only [List.getElem?_cons_zero] at read
        split_ifs at read with x_tail
        simp only [Option.some.injEq, Prod.mk.injEq] at read
        obtain ⟨rfl, rfl⟩ := read
        exact ⟨[lead, x], rest, _, rfl, .two ⟨by omega, two⟩ x_tail, rfl, rfl⟩
    · match rest with
      | [] | [_] => cases read
      | x :: y :: rest =>
        simp only [List.getElem?_cons_zero, List.getElem?_cons_succ, Bool.and_eq_true] at read
        split_ifs at read with tails
        simp only [Option.some.injEq, Prod.mk.injEq] at read
        obtain ⟨rfl, rfl⟩ := read
        exact ⟨[lead, x, y], rest, _, rfl, .three ⟨by omega, three⟩ tails.1 tails.2, rfl, rfl⟩
    · match rest with
      | [] | [_] | [_, _] => cases read
      | x :: y :: z :: rest =>
        simp only [List.getElem?_cons_zero, List.getElem?_cons_succ, Bool.and_eq_true] at read
        split_ifs at read with tails
        simp only [Option.some.injEq, Prod.mk.injEq] at read
        obtain ⟨rfl, rfl⟩ := read
        exact ⟨[lead, x, y, z], rest, _, rfl,
          .four ⟨by omega, four⟩ tails.1.1 tails.1.2 tails.2, rfl, rfl⟩

theorem toNat_ofNat_of_small {n : Nat} (small : n < 256) : (UInt8.ofNat n).toNat = n :=
  UInt8.toNat_ofNat_of_lt' small

theorem Encodes.of_value_eq {bytes : Bytes} {value other : Nat} (encodes : Encodes bytes value)
    (value_eq : value = other) : Encodes bytes other := value_eq ▸ encodes

/-- The encoding of a character is worth its number. -/
theorem encodes_utf8EncodeChar (c : Char) : Encodes (String.utf8EncodeChar c) c.toNat := by
  have valid : c.toNat < 0xD800 ∨ 0xDFFF < c.toNat ∧ c.toNat < 0x110000 := c.valid
  unfold String.utf8EncodeChar
  have toNat_eq : c.val.toNat = c.toNat := rfl
  simp only [toNat_eq]
  generalize c.toNat = v at valid ⊢
  split_ifs with one two three
  · have lead : (UInt8.ofNat v).toNat = v := toNat_ofNat_of_small (by omega)
    refine (Encodes.one ?_).of_value_eq lead
    omega
  · have lead : (UInt8.ofNat (v / 64 % 32 + 0xC0)).toNat = v / 64 % 32 + 0xC0 :=
      toNat_ofNat_of_small (by omega)
    have x : (UInt8.ofNat (v % 64 + 0x80)).toNat = v % 64 + 0x80 := toNat_ofNat_of_small (by omega)
    refine (Encodes.two ⟨?_, ?_⟩ ?_).of_value_eq ?_
    · omega
    · omega
    · rw [isTail_iff_toNat]
      omega
    · omega
  · have lead : (UInt8.ofNat (v / 4096 % 16 + 0xE0)).toNat = v / 4096 % 16 + 0xE0 :=
      toNat_ofNat_of_small (by omega)
    have x : (UInt8.ofNat (v / 64 % 64 + 0x80)).toNat = v / 64 % 64 + 0x80 :=
      toNat_ofNat_of_small (by omega)
    have y : (UInt8.ofNat (v % 64 + 0x80)).toNat = v % 64 + 0x80 := toNat_ofNat_of_small (by omega)
    refine (Encodes.three ⟨?_, ?_⟩ ?_ ?_).of_value_eq ?_
    · omega
    · omega
    · rw [isSecond_iff]
      omega
    · rw [isTail_iff_toNat]
      omega
    · omega
  · have lead : (UInt8.ofNat (v / 262144 % 8 + 0xF0)).toNat = v / 262144 % 8 + 0xF0 :=
      toNat_ofNat_of_small (by omega)
    have x : (UInt8.ofNat (v / 4096 % 64 + 0x80)).toNat = v / 4096 % 64 + 0x80 :=
      toNat_ofNat_of_small (by omega)
    have y : (UInt8.ofNat (v / 64 % 64 + 0x80)).toNat = v / 64 % 64 + 0x80 :=
      toNat_ofNat_of_small (by omega)
    have z : (UInt8.ofNat (v % 64 + 0x80)).toNat = v % 64 + 0x80 := toNat_ofNat_of_small (by omega)
    refine (Encodes.four ⟨?_, ?_⟩ ?_ ?_ ?_).of_value_eq ?_
    · omega
    · omega
    · rw [isSecond_iff]
      omega
    · rw [isTail_iff_toNat]
      omega
    · rw [isTail_iff_toNat]
      omega
    · omega

theorem Encodes.isValidChar {bytes : Bytes} {value : Nat} (encodes : Encodes bytes value) :
    value.isValidChar := by
  unfold Nat.isValidChar
  cases encodes with
  | one range => omega
  | two range x_tail =>
    rw [isTail_iff_toNat] at x_tail
    omega
  | three range x_second y_tail =>
    rw [isSecond_iff] at x_second
    rw [isTail_iff_toNat] at y_tail
    omega
  | four range x_second y_tail z_tail =>
    rw [isSecond_iff] at x_second
    rw [isTail_iff_toNat] at y_tail z_tail
    omega

/-- Bytes that are worth a number are the encoding of the character with that number. -/
theorem Encodes.utf8EncodeChar_eq {bytes : Bytes} {value : Nat} (encodes : Encodes bytes value) :
    String.utf8EncodeChar (Char.ofNat value) = bytes := by
  have toNat_eq : (Char.ofNat value).val.toNat = value := by
    rw [Char.ofNat, dif_pos encodes.isValidChar]
    rfl
  unfold String.utf8EncodeChar
  simp only [toNat_eq]
  cases encodes with
  | @one lead range =>
    rw [if_pos (by omega)]
    simp
  | @two lead x range x_tail =>
    rw [isTail_iff_toNat] at x_tail
    rw [if_neg (by omega), if_pos (by omega)]
    simp only [List.cons.injEq, ← UInt8.toNat_inj, UInt8.toNat_ofNat', and_true]
    omega
  | @three lead x y range x_second y_tail =>
    rw [isSecond_iff] at x_second
    rw [isTail_iff_toNat] at y_tail
    rw [if_neg (by omega), if_neg (by omega), if_pos (by omega)]
    simp only [List.cons.injEq, ← UInt8.toNat_inj, UInt8.toNat_ofNat', and_true]
    omega
  | @four lead x y z range x_second y_tail z_tail =>
    rw [isSecond_iff] at x_second
    rw [isTail_iff_toNat] at y_tail z_tail
    rw [if_neg (by omega), if_neg (by omega), if_neg (by omega)]
    simp only [List.cons.injEq, ← UInt8.toNat_inj, UInt8.toNat_ofNat', and_true]
    omega

/-- A scalar is read exactly where the encoding of a character stands. -/
theorem scalar?_eq_some_iff {content : Bytes} {c : Char} {length : Nat} :
    scalar? content = some (c, length) ↔
      String.utf8EncodeChar c <+: content ∧ length = (String.utf8EncodeChar c).length := by
  constructor
  · intro read
    obtain ⟨bytes, rest, value, rfl, encodes, rfl, rfl⟩ := exists_encodes_of_scalar? read
    rw [encodes.utf8EncodeChar_eq]
    exact ⟨List.prefix_append bytes rest, rfl⟩
  · rintro ⟨⟨rest, rfl⟩, rfl⟩
    rw [scalar?_of_encodes (encodes_utf8EncodeChar c), Char.ofNat_toNat]


/-! ## Segments -/

/-- A content cut from the left: where the encoding of a character begins it is taken whole, and
elsewhere a single byte is. -/
inductive Segmented : Bytes → List Bytes → Prop where
  | nil : Segmented [] []
  | character (c : Char) {rest : Bytes} {segments : List Bytes} (others : Segmented rest segments) :
      Segmented (String.utf8EncodeChar c ++ rest) (String.utf8EncodeChar c :: segments)
  | byte {b : UInt8} {rest : Bytes} {segments : List Bytes}
      (alone : ∀ c, ¬ String.utf8EncodeChar c <+: b :: rest) (others : Segmented rest segments) :
      Segmented (b :: rest) ([b] :: segments)

theorem scalar?_eq_none_iff {content : Bytes} :
    scalar? content = none ↔ ∀ c, ¬ String.utf8EncodeChar c <+: content := by
  constructor
  · intro unread c stands
    rw [scalar?_eq_some_iff.mpr ⟨stands, rfl⟩] at unread
    cases unread
  · intro absent
    cases read : scalar? content with
    | none => rfl
    | some result =>
      obtain ⟨c, length⟩ := result
      exact absurd (scalar?_eq_some_iff.mp read).1 (absent c)

/-- Only one character stands at the beginning of a content. -/
theorem eq_of_prefix {content : Bytes} {c d : Char} (stands : String.utf8EncodeChar c <+: content)
    (other : String.utf8EncodeChar d <+: content) : d = c := by
  have read := scalar?_eq_some_iff.mpr ⟨stands, rfl⟩
  rw [scalar?_eq_some_iff.mpr ⟨other, rfl⟩] at read
  injection read with pair_eq
  exact (Prod.mk.injEq ..).mp pair_eq |>.1

namespace Segmented

variable {content : Bytes} {segments : List Bytes}

theorem flatten_eq (segmented : Segmented content segments) : segments.flatten = content := by
  induction segmented with
  | nil => rfl
  | character c others ih => rw [List.flatten_cons, ih]
  | byte alone others ih => rw [List.flatten_cons, ih, List.singleton_append]

/-- There is one way to cut a content into segments. -/
theorem unique (segmented : Segmented content segments) {others : List Bytes}
    (again : Segmented content others) : others = segments := by
  induction segmented generalizing others with
  | nil =>
    generalize content_eq : ([] : Bytes) = content at again
    cases again with
    | nil => rfl
    | character c later =>
      exact absurd (List.append_eq_nil_iff.mp content_eq.symm).1 String.utf8EncodeChar_ne_nil
    | byte alone later => cases content_eq
  | @character c rest segments later ih =>
    generalize content_eq : String.utf8EncodeChar c ++ rest = content at again
    cases again with
    | nil => exact absurd (List.append_eq_nil_iff.mp content_eq).1 String.utf8EncodeChar_ne_nil
    | @character d otherRest others otherLater =>
      obtain rfl : c = d := eq_of_prefix ⟨_, rfl⟩ ⟨_, content_eq⟩
      rw [← List.append_cancel_left content_eq] at otherLater
      rw [ih otherLater]
    | byte alone later => exact absurd ⟨rest, content_eq⟩ (alone c)
  | @byte b rest segments alone later ih =>
    generalize content_eq : b :: rest = content at again
    cases again with
    | nil => cases content_eq
    | @character d otherRest others otherLater => exact absurd ⟨otherRest, content_eq.symm⟩ (alone d)
    | byte otherAlone otherLater =>
      obtain ⟨rfl, rfl⟩ := List.cons_eq_cons.mp content_eq
      rw [ih otherLater]

end Segmented

/-- Where a scalar is read, its bytes come first. -/
theorem exists_append_of_scalar? {b : UInt8} {rest : Bytes} {c : Char} {length : Nat}
    (read : scalar? (b :: rest) = some (c, length)) :
    b :: rest.take (length - 1) = String.utf8EncodeChar c ∧
      b :: rest = String.utf8EncodeChar c ++ rest.drop (length - 1) := by
  obtain ⟨⟨behind, content_eq⟩, rfl⟩ := scalar?_eq_some_iff.mp read
  generalize encoded : String.utf8EncodeChar c = bytes at content_eq
  cases bytes with
  | nil => exact absurd encoded String.utf8EncodeChar_ne_nil
  | cons first others =>
    obtain ⟨rfl, rfl⟩ := List.cons_eq_cons.mp content_eq
    simp

/-- The segments are read off byte by byte. -/
theorem segmentsFrom_segmented (content : Bytes) (pending : Nat) (current : Bytes)
    (done : List Bytes) (begun : current = [] → pending = 0) :
    ∃ found, Segmented (content.drop pending) found ∧
      segmentsFrom pending current done content =
        done.reverse ++ (if current = [] then [] else [current.reverse ++ content.take pending])
          ++ found := by
  induction content generalizing pending current done with
  | nil =>
    refine ⟨[], by simpa using Segmented.nil, ?_⟩
    cases current <;> simp [segmentsFrom]
  | cons b rest ih =>
    cases pending with
    | succ more =>
      have some_current : current ≠ [] := fun empty => absurd (begun empty) (Nat.succ_ne_zero more)
      obtain ⟨found, segmented, eq⟩ := ih more (b :: current) done (by simp)
      exact ⟨found, segmented, by simp [segmentsFrom, eq, some_current]⟩
    | zero =>
      let before := done.reverse ++ if current = [] then [] else [current.reverse]
      have before_eq : (if current.isEmpty then done else current.reverse :: done).reverse =
          before := by
        cases current <;> simp [before]
      cases read : scalar? (b :: rest) with
      | some result =>
        obtain ⟨c, length⟩ := result
        obtain ⟨taken, content_eq⟩ := exists_append_of_scalar? read
        obtain ⟨found, segmented, eq⟩ := ih (length - 1) [b]
          (if current.isEmpty then done else current.reverse :: done) (by simp)
        refine ⟨String.utf8EncodeChar c :: found, ?_, ?_⟩
        · rw [List.drop_zero, content_eq]
          exact .character c segmented
        · rw [segmentsFrom]
          simp only [read, eq, before_eq]
          simp [before, taken]
      | none =>
        obtain ⟨found, segmented, eq⟩ := ih 0 [b]
          (if current.isEmpty then done else current.reverse :: done) (by simp)
        refine ⟨[b] :: found, ?_, ?_⟩
        · exact .byte (scalar?_eq_none_iff.mp read) (by simpa using segmented)
        · rw [segmentsFrom]
          simp only [read, eq, before_eq]
          simp [before]

/-- `segments` takes characters whole and other bytes one by one. -/
theorem segments_segmented (content : Bytes) : Segmented content (segments content) := by
  obtain ⟨found, segmented, eq⟩ := segmentsFrom_segmented content 0 [] [] (fun _ => rfl)
  rw [segments, eq]
  simpa using segmented

/-! ## Chunks -/

/-- The segments of a chunk: its characters, and each byte of the ill-formed sequence. -/
def Chunk.segments (chunk : Chunk) : List Bytes :=
  chunk.valid.map String.utf8EncodeChar ++ chunk.invalid.map ([·])

/-- No character begins with a byte that continues one. -/
theorem scalar?_of_isTail {b : UInt8} (tail : isTail b = true) (rest : Bytes) :
    scalar? (b :: rest) = none := by
  rw [isTail_iff_toNat] at tail
  simp only [scalar?]
  unfold scalarOf
  simp only [UInt8.lt_iff_toNat_lt, UInt8.reduceToNat]
  rw [if_neg (by omega), if_pos (by omega)]

/-- After its first byte an ill-formed sequence has only bytes that continue a character. -/
theorem isTail_of_mem_illFormed (lead : UInt8) (rest : Bytes) :
    ∀ b ∈ rest.take (illFormedLength lead rest - 1), isTail b = true := by
  have tail_of_second {x : UInt8} (second : isSecond lead x = true) : isTail x = true :=
    isTail_iff_toNat.mpr (isSecond_iff.mp second).1
  intro b member
  unfold illFormedLength at member
  split at member
  · simp at member
  · match rest with
    | [] => simp at member
    | x :: rest =>
      simp only at member
      split at member
      · rename_i second
        split at member
        · obtain rfl : b = x := by simpa using member
          exact tail_of_second second
        · match rest with
          | [] =>
            obtain rfl : b = x := by simpa using member
            exact tail_of_second second
          | y :: rest =>
            simp only at member
            split at member
            · rename_i tail
              obtain rfl | rfl : b = x ∨ b = y := by simpa using member
              · exact tail_of_second second
              · exact tail
            · obtain rfl : b = x := by simpa using member
              exact tail_of_second second
      · simp at member

/-- The segments of the chunk under way. -/
def begunSegments (valid : List Char) (invalid : Bytes) : List Bytes :=
  (Chunk.mk valid.reverse invalid.reverse).segments

theorem begunSegments_nil : begunSegments [] [] = [] := rfl

theorem begunSegments_cons_valid (c : Char) (valid : List Char) :
    begunSegments (c :: valid) [] = begunSegments valid [] ++ [String.utf8EncodeChar c] := by
  simp [begunSegments, Chunk.segments]

theorem begunSegments_cons_invalid (b : UInt8) (valid : List Char) (invalid : Bytes) :
    begunSegments valid (b :: invalid) = begunSegments valid invalid ++ [[b]] := by
  simp [begunSegments, Chunk.segments]

theorem flatMap_segments_cons (valid : List Char) (invalid : Bytes) (done : List Chunk) :
    (⟨valid.reverse, invalid.reverse⟩ :: done).reverse.flatMap Chunk.segments =
      done.reverse.flatMap Chunk.segments ++ begunSegments valid invalid := by
  simp [begunSegments]

/-- The chunks have the segments of the content, byte by byte inside an ill-formed sequence. -/
theorem chunksFrom_segmented (content : Bytes) (pending : Nat) (valid : List Char)
    (invalid : Bytes) (done : List Chunk)
    (tails : invalid ≠ [] → ∀ b ∈ content.take pending, isTail b = true) :
    ∃ found, Segmented (if invalid = [] then content.drop pending else content) found ∧
      (chunksFrom pending valid invalid done content).flatMap Chunk.segments =
        done.reverse.flatMap Chunk.segments ++ begunSegments valid invalid ++ found := by
  induction content generalizing pending valid invalid done with
  | nil =>
    refine ⟨[], by simpa using Segmented.nil, ?_⟩
    rw [chunksFrom]
    cases valid <;> cases invalid <;> simp [begunSegments, Chunk.segments]
  | cons b rest ih =>
    cases pending with
    | succ more =>
      by_cases sound : invalid = []
      · -- The byte belongs to a character that has been taken.
        subst sound
        obtain ⟨found, segmented, eq⟩ := ih more valid [] done (by simp)
        exact ⟨found, segmented, by simp [chunksFrom, eq]⟩
      · -- The byte goes on with an ill-formed sequence, so no character begins with it.
        have tail : isTail b = true := tails sound b (by simp)
        obtain ⟨found, segmented, eq⟩ := ih more valid (b :: invalid) done
          (fun _ other member => tails sound other (by simp [member]))
        refine ⟨[b] :: found, ?_, ?_⟩
        · rw [if_neg sound]
          exact .byte (scalar?_eq_none_iff.mp (scalar?_of_isTail tail rest)) segmented
        · simp [chunksFrom, sound, eq, begunSegments_cons_invalid]
    | zero =>
      have whole : (if invalid = [] then (b :: rest).drop 0 else b :: rest) = b :: rest := by simp
      rw [whole]
      cases read : scalar? (b :: rest) with
      | some result =>
        obtain ⟨c, length⟩ := result
        obtain ⟨-, content_eq⟩ := exists_append_of_scalar? read
        by_cases sound : invalid = []
        · subst sound
          obtain ⟨found, segmented, eq⟩ := ih (length - 1) (c :: valid) [] done (by simp)
          refine ⟨String.utf8EncodeChar c :: found, ?_, ?_⟩
          · rw [content_eq]
            exact .character c segmented
          · simp [chunksFrom, read, eq, begunSegments_cons_valid]
        · obtain ⟨found, segmented, eq⟩ := ih (length - 1) [c] []
            (⟨valid.reverse, invalid.reverse⟩ :: done) (by simp)
          refine ⟨String.utf8EncodeChar c :: found, ?_, ?_⟩
          · rw [content_eq]
            exact .character c segmented
          · rw [flatMap_segments_cons] at eq
            simp [chunksFrom, sound, read, eq, begunSegments_cons_valid, begunSegments_nil]
      | none =>
        have alone := scalar?_eq_none_iff.mp read
        have others := isTail_of_mem_illFormed b rest
        by_cases sound : invalid = []
        · subst sound
          obtain ⟨found, segmented, eq⟩ := ih (illFormedLength b rest - 1) valid [b] done
            (fun _ => others)
          refine ⟨[b] :: found, .byte alone segmented, ?_⟩
          simp [chunksFrom, read, eq, begunSegments_cons_invalid]
        · obtain ⟨found, segmented, eq⟩ := ih (illFormedLength b rest - 1) [] [b]
            (⟨valid.reverse, invalid.reverse⟩ :: done) (fun _ => others)
          refine ⟨[b] :: found, .byte alone segmented, ?_⟩
          rw [flatMap_segments_cons] at eq
          simp [chunksFrom, sound, read, eq, begunSegments_cons_invalid, begunSegments_nil]

/-- The chunks of a content have its segments. -/
theorem flatMap_segments_chunks (content : Bytes) :
    (chunks content).flatMap Chunk.segments = segments content := by
  obtain ⟨found, segmented, eq⟩ := chunksFrom_segmented content 0 [] [] [] (by simp)
  have whole : Segmented content found := by simpa using segmented
  rw [chunks, eq, (segments_segmented content).unique whole]
  rfl

end Emend.Utf8
