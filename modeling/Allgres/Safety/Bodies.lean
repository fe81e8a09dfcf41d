import Allgres.Lib.Utf8
import Allgres.Safety.Dumps

/-! The readers of bodies on the bytes of a dump: where they stop, and that they cut
neither a character nor a body short. -/

namespace Allgres

open Utf8

/-! ### The loops over bytes -/

/-- Subtraction in `usize`; `none` if it underflows. -/
def checkedSub (a b : Nat) : Option Nat := if b ≤ a then some (a - b) else none

/-- `is_char_boundary`. -/
def isCharBoundary (bytes : List UInt8) (i : Nat) : Bool :=
  i == bytes.length || (bytes[i]?).any fun b => decide (b < 0x80) || decide (0xC0 ≤ b)

/-- `&s[..i]`; `none` if it splits a character. -/
def sliceTo (bytes : List UInt8) (i : Nat) : Option (List UInt8) :=
  if isCharBoundary bytes i then some (bytes.take i) else none

/-- The index at which the loop returns, if it does before the text ends. -/
def bodyIndex (opens closes : UInt8) : Nat → Nat → List UInt8 → Option (Option Nat)
  | _, _, [] => some none
  | _, _, [92] => some none
  | depth, i, 92 :: _ :: rest => bodyIndex opens closes depth (i + 2) rest
  | depth, i, b :: rest =>
    if b = opens then bodyIndex opens closes (depth + 1) (i + 1) rest
    else if b = closes then
      if depth = 0 then some (some i)
      else (checkedSub depth 1).bind fun depth => bodyIndex opens closes depth (i + 1) rest
    else bodyIndex opens closes depth (i + 1) rest

def bodyBytes (opens closes : UInt8) (bytes : List UInt8) : Option (List UInt8) :=
  match bodyIndex opens closes 0 0 bytes with
  | none => none
  | some none => some bytes
  | some (some i) => sliceTo bytes i

/-- `node_body`. -/
def nodeBodyBytes : List UInt8 → Option (List UInt8) := bodyBytes 123 125

/-- `paren_body`. -/
def parenBodyBytes : List UInt8 → Option (List UInt8) := bodyBytes 40 41

/-! ### Bytes and characters -/

/-- The byte of an ASCII character. -/
def byteOf (c : Char) : UInt8 := UInt8.ofNat c.toNat

variable {c opens closes : Char} {b : UInt8} {depth i : Nat} {piece rest : List UInt8}

theorem toNat_byteOf (ascii : c.toNat < 128) : (byteOf c).toNat = c.toNat :=
  UInt8.toNat_ofNat_of_lt' (Nat.lt_trans ascii (by decide))

theorem byteOf_inj {d : Char} (ascii : c.toNat < 128) (ascii' : d.toNat < 128) (same : byteOf c = byteOf d) : c = d := by
  have values := congrArg UInt8.toNat same
  rw [toNat_byteOf ascii, toNat_byteOf ascii'] at values
  exact Char.toNat_inj.mp values

theorem ne_of_high (high : 128 ≤ b.toNat) (ascii : c.toNat < 128) : b ≠ byteOf c := by
  rintro rfl
  rw [toNat_byteOf ascii] at high
  omega

theorem bodyIndex_cons {left right : UInt8} (plain : b ≠ 92) (depth i : Nat) (rest : List UInt8) :
    bodyIndex left right depth i (b :: rest) =
      if b = left then bodyIndex left right (depth + 1) (i + 1) rest
      else if b = right then
        if depth = 0 then some (some i)
        else (checkedSub depth 1).bind fun depth => bodyIndex left right depth (i + 1) rest
      else bodyIndex left right depth (i + 1) rest := by
  rw [bodyIndex.eq_def]
  split
  next none => cases none
  next same => exact absurd (List.cons.inj same).1 plain
  next same => exact absurd (List.cons.inj same).1 plain
  next other more _ _ same =>
    obtain ⟨rfl, rfl⟩ := List.cons.inj same
    rfl

/-- The two readers stop at the same place, or neither does. -/
def StopsAlike (opens closes : Char) (depth i : Nat) (text : List Char) : Prop :=
  (bodyIndex (byteOf opens) (byteOf closes) depth i (encode (String.ofList text)) = some none ∧
    bodyTo opens closes depth text = text) ∨
  ∃ more, text = bodyTo opens closes depth text ++ closes :: more ∧
    bodyIndex (byteOf opens) (byteOf closes) depth i (encode (String.ofList text)) =
      some (some (i + (encode (String.ofList (bodyTo opens closes depth text))).length))

section Loop

variable (left : opens.toNat < 128) (right : closes.toNat < 128)

include left right

theorem bodyIndex_high (high : ∀ b ∈ piece, 128 ≤ b.toNat) (depth i : Nat) (rest : List UInt8) :
    bodyIndex (byteOf opens) (byteOf closes) depth i (piece ++ rest) =
      bodyIndex (byteOf opens) (byteOf closes) depth (i + piece.length) rest := by
  induction piece generalizing i with
  | nil => rfl
  | cons b piece ih =>
    have large := high b (List.mem_cons_self ..)
    have plain : b ≠ 92 := ne_of_high (c := '\\') large (by decide)
    rw [List.cons_append, bodyIndex_cons plain, if_neg (ne_of_high large left), if_neg (ne_of_high large right),
      ih fun b inside => high b (List.mem_cons_of_mem _ inside), List.length_cons, Nat.add_assoc, Nat.add_comm 1]

/-- A character that is no bracket and no backslash is passed over. -/
theorem bodyIndex_char (plain : c ≠ '\\') (apart : c ≠ opens) (apart' : c ≠ closes) (depth i : Nat) (rest : List UInt8) :
    bodyIndex (byteOf opens) (byteOf closes) depth i (String.utf8EncodeChar c ++ rest) =
      bodyIndex (byteOf opens) (byteOf closes) depth (i + (String.utf8EncodeChar c).length) rest := by
  rcases Nat.lt_or_ge c.toNat 128 with ascii | high
  · have other : byteOf c ≠ 92 := fun same => plain (byteOf_inj ascii (by decide) same)
    have unopened : byteOf c ≠ byteOf opens := fun same => apart (byteOf_inj ascii left same)
    have unclosed : byteOf c ≠ byteOf closes := fun same => apart' (byteOf_inj ascii right same)
    rw [encodeChar_ascii ascii, List.singleton_append]
    exact (bodyIndex_cons other depth i rest).trans ((if_neg unopened).trans (if_neg unclosed))
  · exact bodyIndex_high left right (encodeChar_high high) depth i rest

/-- A backslash takes a byte with it; what is left of a longer character is passed over. -/
theorem bodyIndex_escaped (c : Char) (depth i : Nat) (rest : List UInt8) :
    bodyIndex (byteOf opens) (byteOf closes) depth i (92 :: (String.utf8EncodeChar c ++ rest)) =
      bodyIndex (byteOf opens) (byteOf closes) depth (i + (1 + (String.utf8EncodeChar c).length)) rest := by
  cases shape : String.utf8EncodeChar c with
  | nil => exact absurd shape String.utf8EncodeChar_ne_nil
  | cons b more =>
    have high : ∀ d ∈ more, 128 ≤ d.toNat := by
      rcases Nat.lt_or_ge c.toNat 128 with ascii | high
      · rw [encodeChar_ascii ascii] at shape
        obtain ⟨-, rfl⟩ := List.cons.inj shape
        exact fun _ inside => absurd inside List.not_mem_nil
      · exact fun d inside => encodeChar_high high d (shape ▸ List.mem_cons_of_mem b inside)
    rw [List.cons_append, bodyIndex, bodyIndex_high left right high, List.length_cons]
    congr 1
    omega

omit left right in
/-- What is passed over by both leaves them where they agree on what follows. -/
theorem StopsAlike.passes {depth depth' i : Nat} {front text : List Char}
    (bytes : bodyIndex (byteOf opens) (byteOf closes) depth i (encode (String.ofList (front ++ text))) =
      bodyIndex (byteOf opens) (byteOf closes) depth' (i + (encode (String.ofList front)).length) (encode (String.ofList text)))
    (chars : bodyTo opens closes depth (front ++ text) = front ++ bodyTo opens closes depth' text)
    (alike : StopsAlike opens closes depth' (i + (encode (String.ofList front)).length) text) :
    StopsAlike opens closes depth i (front ++ text) := by
  rcases alike with ⟨index, whole⟩ | ⟨more, shape, index⟩
  · exact .inl ⟨bytes.trans index, by rw [chars, whole]⟩
  · refine .inr ⟨more, ?_, ?_⟩
    · rw [chars, List.append_assoc, ← shape]
    · rw [bytes, index, chars, encode_append, List.length_append, Nat.add_assoc]

/-- The loop over the bytes stops where the reader of the characters does, or neither stops. -/
theorem stopsAlike (plain : opens ≠ '\\') (plain' : closes ≠ '\\') (apart : opens ≠ closes) (depth i : Nat)
    (text : List Char) : StopsAlike opens closes depth i text := by
  have single (c : Char) : encode (String.ofList [c]) = String.utf8EncodeChar c := by
    rw [encode_cons]
    exact List.append_nil _
  have ascii {c : Char} (small : c.toNat < 128) (rest : List Char) :
      encode (String.ofList (c :: rest)) = byteOf c :: encode (String.ofList rest) := by
    rw [encode_cons, encodeChar_ascii small]
    rfl
  have unescaped {c : Char} (small : c.toNat < 128) (plain : c ≠ '\\') : byteOf c ≠ 92 :=
    fun same => plain (byteOf_inj small (by decide) same)
  have other : byteOf closes ≠ byteOf opens := fun same => apart (byteOf_inj right left same).symm
  induction depth, text using bodyTo.induct opens closes generalizing i with
  | case1 depth => exact .inl ⟨rfl, rfl⟩
  | case2 depth => exact .inl ⟨rfl, rfl⟩
  | case3 depth c rest ih =>
    have bytes : encode (String.ofList ('\\' :: c :: rest)) =
        92 :: (String.utf8EncodeChar c ++ encode (String.ofList rest)) := by
      rw [ascii (by decide), encode_cons]
      rfl
    have length : (encode (String.ofList ['\\', c])).length = 1 + (String.utf8EncodeChar c).length := by
      rw [ascii (by decide), single, List.length_cons, Nat.add_comm]
    refine @StopsAlike.passes _ _ _ depth _ ['\\', c] _ ?_ rfl (ih _)
    rw [length]
    exact (congrArg _ bytes).trans (bodyIndex_escaped left right c depth i _)
  | case4 depth rest _ _ ih =>
    refine @StopsAlike.passes _ _ _ (depth + 1) _ [opens] _ ?_ ?_ (ih _)
    · rw [List.singleton_append, ascii left, bodyIndex_cons (unescaped left plain), if_pos rfl, single, encodeChar_ascii left]
      rfl
    · rw [List.singleton_append, bodyTo_cons plain, if_pos rfl]
      rfl
  | case5 rest _ _ _ =>
    have stops : bodyTo opens closes 0 (closes :: rest) = [] := by
      rw [bodyTo_cons plain', if_neg apart.symm, if_pos rfl]
    refine .inr ⟨rest, ?_, ?_⟩
    · rw [stops]
      rfl
    · rw [stops, ascii right, bodyIndex_cons (unescaped right plain'), if_neg other, if_pos rfl, if_pos rfl]
      rfl
  | case6 rest depth _ _ _ ih =>
    refine @StopsAlike.passes _ _ _ depth _ [closes] _ ?_ ?_ (ih _)
    · have less : checkedSub (depth + 1) 1 = some depth := if_pos (Nat.succ_le_succ (Nat.zero_le depth))
      rw [List.singleton_append, ascii right, bodyIndex_cons (unescaped right plain'), if_neg other, if_pos rfl,
        if_neg (Nat.succ_ne_zero depth), less, single, encodeChar_ascii right]
      rfl
    · rw [List.singleton_append, bodyTo_cons plain', if_neg apart.symm, if_pos rfl]
      rfl
  | case7 depth c rest last escape unopened unclosed ih =>
    by_cases backslash : c = '\\'
    · cases rest with
      | nil => exact absurd rfl (last backslash)
      | cons d rest => exact absurd rfl (escape d rest backslash)
    · refine @StopsAlike.passes _ _ _ depth _ [c] _ ?_ ?_ (ih _)
      · rw [List.singleton_append, encode_cons, bodyIndex_char left right backslash unopened unclosed, single]
      · rw [List.singleton_append, bodyTo_cons backslash, if_neg unopened, if_neg unclosed]
        rfl

/-- The body on bytes is that of the characters; no character is split and no depth underflows. -/
theorem bodyBytes_encode (plain : opens ≠ '\\') (plain' : closes ≠ '\\') (apart : opens ≠ closes) (text : List Char) :
    bodyBytes (byteOf opens) (byteOf closes) (encode (String.ofList text)) =
      some (encode (String.ofList (bodyTo opens closes 0 text))) := by
  rcases stopsAlike left right plain plain' apart 0 0 text with ⟨index, whole⟩ | ⟨more, shape, index⟩
  · rw [bodyBytes, index, whole]
  · have bytes : encode (String.ofList text) = encode (String.ofList (bodyTo opens closes 0 text)) ++
        byteOf closes :: encode (String.ofList more) := by
      have parts := congrArg (fun text => encode (String.ofList text)) shape
      rw [encode_append, encode_cons, encodeChar_ascii right] at parts
      exact parts
    have boundary : isCharBoundary (encode (String.ofList text)) (encode (String.ofList (bodyTo opens closes 0 text))).length
        = true := by
      have small : byteOf closes < 0x80 := by
        rw [UInt8.lt_iff_toNat_lt, toNat_byteOf right]
        exact right
      have found : (encode (String.ofList text))[(encode (String.ofList (bodyTo opens closes 0 text))).length]? =
          some (byteOf closes) := by
        rw [bytes, List.getElem?_append_right (Nat.le_refl _), Nat.sub_self]
        rfl
      rw [isCharBoundary, found]
      simp [small]
    rw [bodyBytes, index]
    simp only [Nat.zero_add, sliceTo, boundary, if_true]
    rw [bytes, List.take_left]

end Loop

theorem nodeBodyBytes_encode (text : List Char) :
    nodeBodyBytes (encode (String.ofList text)) = some (encode (String.ofList (nodeBody text))) :=
  @bodyBytes_encode '\x7b' '}' (by decide) (by decide) (by decide) (by decide) (by decide) text

theorem parenBodyBytes_encode (text : List Char) :
    parenBodyBytes (encode (String.ofList text)) = some (encode (String.ofList (parenBody text))) :=
  @bodyBytes_encode '(' ')' (by decide) (by decide) (by decide) (by decide) (by decide) text

/-! ### The places of a tree's text -/

/-- Where a part stands in the text of a value: what is printed in front of it, and behind it. -/
inductive Stands : RawValue → List Char → RawValue → List Char → Prop
  | here (value : RawValue) : Stands value [] value []
  | inField {value part : RawValue} {before after : List Char} (tag : String) (front : RawFields) (name : Option String)
      (back : RawFields) : Stands value before part after →
      Stands (.node tag (front ++ (name, value) :: back))
        ('\x7b' :: (tag.toList ++ (fieldsText front ++ (fieldMark name ++ before)))) part
        (after ++ (fieldsText back ++ ['}']))
  | inFirst {value part : RawValue} {before after : List Char} (back : List RawValue) : Stands value before part after →
      Stands (.list (value :: back)) ('(' :: before) part (after ++ (itemsText back ++ [')']))
  | inItem {value part : RawValue} {before after : List Char} (first : RawValue) (front back : List RawValue) :
      Stands value before part after →
      Stands (.list (first :: (front ++ value :: back)))
        ('(' :: (first.text ++ (itemsText front ++ ' ' :: before))) part (after ++ (itemsText back ++ [')']))

theorem fieldsText_append (front back : RawFields) : fieldsText (front ++ back) = fieldsText front ++ fieldsText back := by
  induction front with
  | nil => rfl
  | cons field front ih =>
    obtain ⟨name, value⟩ := field
    rw [List.cons_append, fieldsText, fieldsText, ih]
    simp

theorem itemsText_append (front back : List RawValue) : itemsText (front ++ back) = itemsText front ++ itemsText back := by
  induction front with
  | nil => rfl
  | cons item front ih =>
    rw [List.cons_append, itemsText, itemsText, ih]
    simp

variable {value part : RawValue} {before after : List Char}

theorem Stands.text (stands : Stands value before part after) : value.text = before ++ (part.text ++ after) := by
  induction stands with
  | here value => simp
  | inField tag front name back _ ih =>
    rw [RawValue.text, fieldsText_append, fieldsText, ih]
    simp
  | inFirst back _ ih =>
    rw [RawValue.text, ih]
    simp
  | inItem first front back _ ih =>
    rw [RawValue.text, itemsText_append, itemsText, ih]
    simp

theorem fieldsMarks_subset (tag : String) (front : RawFields) (name : Option String) (value : RawValue) (back : RawFields) :
    value.marks ⊆ fieldsMarks tag (front ++ (name, value) :: back) ∧
      value.parts ⊆ fieldsParts (front ++ (name, value) :: back) := by
  induction front with
  | nil =>
    rw [List.nil_append, fieldsMarks, fieldsParts]
    exact ⟨fun mark inside => List.mem_cons_of_mem _ (List.mem_append_left _ inside),
      fun part inside => List.mem_append_left _ inside⟩
  | cons field front ih =>
    obtain ⟨other, first⟩ := field
    rw [List.cons_append, fieldsMarks, fieldsParts]
    exact ⟨fun mark inside => List.mem_cons_of_mem _ (List.mem_append_right _ (ih.1 inside)),
      fun part inside => List.mem_append_right _ (ih.2 inside)⟩

theorem itemsMarks_subset (front : List RawValue) (value : RawValue) (back : List RawValue) :
    value.marks ⊆ itemsMarks (front ++ value :: back) ∧ value.parts ⊆ itemsParts (front ++ value :: back) := by
  induction front with
  | nil =>
    rw [List.nil_append, itemsMarks, itemsParts]
    exact ⟨fun mark inside => List.mem_append_left _ inside, fun part inside => List.mem_append_left _ inside⟩
  | cons item front ih =>
    rw [List.cons_append, itemsMarks, itemsParts]
    exact ⟨fun mark inside => List.mem_append_right _ (ih.1 inside), fun part inside => List.mem_append_right _ (ih.2 inside)⟩

/-- A part has no marks and no parts but the value's. -/
theorem Stands.subset (stands : Stands value before part after) : part.marks ⊆ value.marks ∧ part.parts ⊆ value.parts := by
  induction stands with
  | here value => exact ⟨List.Subset.refl _, List.Subset.refl _⟩
  | @inField value _ _ _ tag front name back _ ih =>
    have below := fieldsMarks_subset tag front name value back
    exact ⟨List.Subset.trans (List.Subset.trans ih.1 below.1) (List.subset_cons_self ..),
      List.Subset.trans (List.Subset.trans ih.2 below.2) (List.subset_cons_self ..)⟩
  | @inFirst value _ _ _ back _ ih =>
    have below := itemsMarks_subset [] value back
    exact ⟨List.Subset.trans ih.1 below.1, List.Subset.trans (List.Subset.trans ih.2 below.2) (List.subset_cons_self ..)⟩
  | @inItem value _ _ _ first front back _ ih =>
    have below := itemsMarks_subset (first :: front) value back
    exact ⟨List.Subset.trans ih.1 below.1, List.Subset.trans (List.Subset.trans ih.2 below.2) (List.subset_cons_self ..)⟩

theorem Stands.sound {tree : RawTree} (stands : Stands tree.value before part after) : SoundBelow part.marks part.parts := by
  have sound := sound_tree tree
  exact ⟨fun mark inside => sound.onMarks mark (stands.subset.1 inside),
    fun part inside => sound.onParts part (stands.subset.2 inside)⟩

-- Each part stands somewhere, by induction on the value.
mutual
theorem stands_of_mem : ∀ (value : RawValue), ∀ part ∈ value.parts, ∃ before after, Stands value before part after
  | .null, _, inside => ⟨[], [], by rw [List.mem_singleton.mp inside]; exact .here _⟩
  | .plain _, _, inside => ⟨[], [], by rw [List.mem_singleton.mp inside]; exact .here _⟩
  | .token _, _, inside => ⟨[], [], by rw [List.mem_singleton.mp inside]; exact .here _⟩
  | .str _, _, inside => ⟨[], [], by rw [List.mem_singleton.mp inside]; exact .here _⟩
  | .node tag fields, part, inside => by
    rcases List.mem_cons.mp inside with rfl | inside
    · exact ⟨[], [], .here _⟩
    · obtain ⟨front, name, value, back, rfl, before, after, stands⟩ := stands_in_fields fields part inside
      exact ⟨_, _, .inField tag front name back stands⟩
  | .list [], _, inside => ⟨[], [], by rw [List.mem_singleton.mp inside]; exact .here _⟩
  | .list (first :: more), part, inside => by
    rcases List.mem_cons.mp inside with rfl | inside
    · exact ⟨[], [], .here _⟩
    · rcases List.mem_append.mp inside with inside | inside
      · obtain ⟨before, after, stands⟩ := stands_of_mem first part inside
        exact ⟨_, _, .inFirst more stands⟩
      · obtain ⟨front, value, back, rfl, before, after, stands⟩ := stands_in_items more part inside
        exact ⟨_, _, .inItem first front back stands⟩

theorem stands_in_fields : ∀ (fields : List (Option String × RawValue)), ∀ part ∈ fieldsParts fields,
    ∃ front name value back, fields = front ++ (name, value) :: back ∧ ∃ before after, Stands value before part after
  | [], _, inside => absurd inside List.not_mem_nil
  | (name, value) :: more, part, inside => by
    rcases List.mem_append.mp inside with inside | inside
    · exact ⟨[], name, value, more, rfl, stands_of_mem value part inside⟩
    · obtain ⟨front, other, found, back, rfl, stands⟩ := stands_in_fields more part inside
      exact ⟨(name, value) :: front, other, found, back, rfl, stands⟩

theorem stands_in_items : ∀ (items : List RawValue), ∀ part ∈ itemsParts items,
    ∃ front value back, items = front ++ value :: back ∧ ∃ before after, Stands value before part after
  | [], _, inside => absurd inside List.not_mem_nil
  | item :: more, part, inside => by
    rcases List.mem_append.mp inside with inside | inside
    · exact ⟨[], item, more, rfl, stands_of_mem item part inside⟩
    · obtain ⟨front, found, back, rfl, stands⟩ := stands_in_items more part inside
      exact ⟨item :: front, found, back, rfl, stands⟩
end

/-- Each node and each list stands in the text, and behind its opening the readers return
what is printed up to the bracket that closes it. On no text does a depth underflow or a
slice split a character. -/
theorem bodies_exact (tree : RawTree) :
    (∀ part ∈ tree.value.parts, ∃ before after, Stands tree.value before part after) ∧
    (∀ before tag fields after, Stands tree.value before (.node tag fields) after →
      tree.text = (before ++ '\x7b' :: tag.toList) ++ (fieldsText fields ++ '}' :: after) ∧
      nodeBody (fieldsText fields ++ '}' :: after) = fieldsText fields ∧
      nodeBodyBytes (encode (String.ofList (fieldsText fields ++ '}' :: after))) =
        some (encode (String.ofList (fieldsText fields)))) ∧
    (∀ before item more after, Stands tree.value before (.list (item :: more)) after →
      tree.text = (before ++ ['(']) ++ ((item.text ++ itemsText more) ++ ')' :: after) ∧
      parenBody ((item.text ++ itemsText more) ++ ')' :: after) = item.text ++ itemsText more ∧
      parenBodyBytes (encode (String.ofList ((item.text ++ itemsText more) ++ ')' :: after))) =
        some (encode (String.ofList (item.text ++ itemsText more)))) ∧
    ∀ text, nodeBodyBytes (encode text) ≠ none ∧ parenBodyBytes (encode text) ≠ none := by
  refine ⟨stands_of_mem tree.value, fun before tag fields after stands => ?_, fun before item more after stands => ?_,
    fun text => ?_⟩
  · have read := nodeBody_fieldsText stands.sound.behind.below after
    refine ⟨?_, read, ?_⟩
    · rw [RawTree.text, stands.text, RawValue.text]
      simp
    · rw [nodeBodyBytes_encode, read]
  · have braces : Brackets '(' ')' := .inr ⟨rfl, rfl⟩
    have neutral : Neutral '(' ')' (item.text ++ itemsText more) :=
      (neutral_text braces item stands.sound.below.left).append (neutral_itemsText braces more stands.sound.below.right)
    have read : parenBody ((item.text ++ itemsText more) ++ ')' :: after) = item.text ++ itemsText more :=
      bodyTo_closes (by decide) (by decide) neutral after
    refine ⟨?_, read, ?_⟩
    · rw [RawTree.text, stands.text, RawValue.text]
      simp
    · rw [parenBodyBytes_encode, read]
  · rw [← String.ofList_toList (s := text), nodeBodyBytes_encode, parenBodyBytes_encode]
    exact ⟨Option.some_ne_none _, Option.some_ne_none _⟩

end Allgres
