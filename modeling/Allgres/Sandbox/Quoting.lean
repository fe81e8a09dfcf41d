import Allgres.Lib.Search

/-! The texts that define a function or a procedure of the database: the author's body
in dollar quotes, and how PostgreSQL's lexer reads them. -/

namespace Allgres

open Search RustStr

/-- `{:x}`. -/
def lowerHex (n : Nat) : List Char := Nat.toDigits 16 n

/-- The marker that opens and closes a quotation. -/
def dollarTag (tag : List Char) : List Char := '$' :: (tag ++ ['$'])

theorem tag_shorter {tag body : List Char} (found : (afterFirst (dollarTag tag) body).isSome = true) :
    tag.length < body.length := by
  have inside : dollarTag tag <:+: body := afterFirst_isSome.mp found
  have short := inside.length_le
  simp only [dollarTag, List.length_cons, List.length_append, List.length_nil] at short
  omega

/-- The tag, with `x` behind it until it does not come in the body. -/
def growTag (tag body : List Char) : List Char :=
  if (afterFirst (dollarTag tag) body).isSome = true then growTag (tag ++ ['x']) body else tag
termination_by body.length - tag.length
decreasing_by
  rename_i found
  have shorter := tag_shorter found
  simp only [List.length_append, List.length_singleton]
  omega

/-- `dollar_quote` at the given time, in nanoseconds after the epoch. -/
def dollarQuote (nanos : Nat) (body : List Char) : List Char × List Char :=
  let tag := growTag ("body_".toList ++ lowerHex nanos) body
  (tag, dollarTag tag ++ '\n' :: (body ++ '\n' :: dollarTag tag))

/-- What `run_function_build` writes in front of the body. -/
def functionHead (sqlIdent : String) : List Char :=
  ("CREATE OR REPLACE FUNCTION allgres_functions." ++ sqlIdent ++
    "(p_args jsonb) RETURNS jsonb LANGUAGE plpgsql SECURITY INVOKER AS ").toList

def functionDdl (nanos : Nat) (sqlIdent : String) (body : List Char) : List Char :=
  functionHead sqlIdent ++ (dollarQuote nanos body).2 ++ [';']

/-- What `run_procedure_build` writes in front of the body. -/
def procedureHead (sqlIdent : String) : List Char :=
  ("CREATE OR REPLACE PROCEDURE allgres_functions." ++ sqlIdent ++
    "(p_args jsonb, INOUT p_result jsonb) LANGUAGE plpgsql SECURITY INVOKER AS ").toList

def procedureDdl (nanos : Nat) (sqlIdent : String) (body : List Char) : List Char :=
  procedureHead sqlIdent ++ (dollarQuote nanos body).2 ++ [';']

/-! ### The lexer -/

/-- `dolq_start`: a letter, an underscore, or any byte of a character that is not ASCII. -/
def isDolqStart (c : Char) : Bool := c.isAlpha || c == '_' || decide (128 ≤ c.toNat)

def isDolqCont (c : Char) : Bool := isDolqStart c || c.isDigit

/-- `dolqdelim` behind its first dollar: the tag, and what follows the second dollar. -/
def dolqDelim (text : List Char) : Option (List Char × List Char) :=
  let word := text.takeWhile isDolqCont
  match text.drop word.length with
  | '$' :: rest => if word.head?.all isDolqStart then some (word, rest) else none
  | _ => none

/-- The state `xdolq`. A delimiter with another tag belongs to the text up to its last
dollar, with which the lexer goes on; what is read there is no dollar. -/
def xdolq (start : List Char) : List Char → Option (List Char × List Char)
  | [] => none
  | c :: rest =>
    let literal := (xdolq start rest).map fun read => (c :: read.1, read.2)
    if c = '$' then
      match dolqDelim rest with
      | some (tag, behind) => if tag = start then some ([], behind) else literal
      | none => literal
    else literal

/-- A dollar-quoted string: its text, and what is left unread. -/
def lexDollar : List Char → Option (List Char × List Char)
  | '$' :: rest => (dolqDelim rest).bind fun (tag, behind) => xdolq tag behind
  | _ => none

/-! ### The tag -/

variable {c : Char} {tag body text rest s : List Char}

theorem dolqCont_digit {d : Nat} (small : d < 16) : isDolqCont (Nat.digitChar d) = true := by
  have all : (List.range 16).all (fun d => isDolqCont (Nat.digitChar d)) = true := by decide
  exact List.all_eq_true.mp all d (List.mem_range.mpr small)

theorem dolqCont_digits (fuel n : Nat) (done : List Char) (fine : ∀ c ∈ done, isDolqCont c = true) :
    ∀ c ∈ Nat.toDigitsCore 16 fuel n done, isDolqCont c = true := by
  induction fuel generalizing n done with
  | zero => exact fine
  | succ fuel ih =>
    have next : ∀ c ∈ Nat.digitChar (n % 16) :: done, isDolqCont c = true := by
      intro c inside
      rcases List.mem_cons.mp inside with rfl | inside
      · exact dolqCont_digit (by omega)
      · exact fine c inside
    rw [Nat.toDigitsCore]
    split
    · exact next
    · exact ih (n / 16) _ next

theorem dolqCont_lowerHex (n : Nat) : ∀ c ∈ lowerHex n, isDolqCont c = true :=
  dolqCont_digits (n + 1) n [] (by simp)

/-- What the lexer takes for a tag. -/
def Tag (tag : List Char) : Prop := (∀ c ∈ tag, isDolqCont c = true) ∧ tag.head?.all isDolqStart = true

theorem Tag.ne (marked : Tag tag) (inside : c ∈ tag) : c ≠ '$' ∧ c ≠ '\n' := by
  have cont := marked.1 c inside
  refine ⟨?_, ?_⟩ <;>
    · rintro rfl
      cases cont

theorem tag_first (nanos : Nat) : Tag ("body_".toList ++ lowerHex nanos) := by
  refine ⟨?_, rfl⟩
  intro c inside
  rcases List.mem_append.mp inside with front | behind
  · exact List.all_eq_true.mp (by decide : "body_".toList.all isDolqCont = true) c front
  · exact dolqCont_lowerHex nanos c behind

theorem tag_grown (marked : Tag tag) (some : tag ≠ []) : Tag (tag ++ ['x']) := by
  refine ⟨?_, ?_⟩
  · intro c inside
    rcases List.mem_append.mp inside with front | behind
    · exact marked.1 c front
    · rw [List.mem_singleton.mp behind]
      rfl
  · obtain ⟨head, tail, rfl⟩ := List.exists_cons_of_ne_nil some
    exact marked.2

/-- The loop ends with a tag that the body does not hold. -/
theorem growTag_absent (tag body : List Char) : ¬ dollarTag (growTag tag body) <:+: body := by
  induction tag using growTag.induct body with
  | case1 tag found ih =>
    rw [growTag, if_pos found]
    exact ih
  | case2 tag missed =>
    rw [growTag, if_neg missed]
    exact fun inside => missed (afterFirst_isSome.mpr inside)

theorem growTag_tag (marked : Tag tag) (some : tag ≠ []) (body : List Char) : Tag (growTag tag body) := by
  induction tag using growTag.induct body with
  | case1 tag found ih =>
    rw [growTag, if_pos found]
    exact ih (tag_grown marked some) (by simp)
  | case2 tag missed =>
    rw [growTag, if_neg missed]
    exact marked

/-! ### Reading the quotation -/

theorem dolqDelim_tag (marked : Tag tag) (rest : List Char) : dolqDelim (tag ++ '$' :: rest) = some (tag, rest) := by
  have word : (tag ++ '$' :: rest).takeWhile isDolqCont = tag := by
    rw [List.takeWhile_append_of_pos marked.1]
    simp [show isDolqCont '$' = false from rfl]
  rw [dolqDelim, word, List.drop_left]
  simp [marked.2]

theorem dolqDelim_some (read : dolqDelim text = some (tag, rest)) : text = tag ++ '$' :: rest := by
  have parts : text = text.takeWhile isDolqCont ++ text.drop (text.takeWhile isDolqCont).length :=
     (List.prefix_iff_eq_append.mp (List.takeWhile_prefix isDolqCont)).symm
  rw [dolqDelim] at read
  split at read
  next behind same =>
    split at read
    · obtain ⟨rfl, rfl⟩ := Prod.mk.inj (Option.some.inj read)
      rw [same] at parts
      exact parts
    · cases read
  · cases read

/-- A delimiter with this tag that starts in front of the line's end lies in front of it. -/
theorem delimiter_before (marked : Tag tag) (read : dolqDelim (s ++ '\n' :: text) = some (tag, rest)) :
    tag ++ ['$'] <+: s := by
  have whole := dolqDelim_some read
  rw [← List.singleton_append (x := '$'), ← List.append_assoc] at whole
  rcases List.append_eq_append_iff.mp whole with ⟨front, inside, behind⟩ | ⟨front, inside, -⟩
  · cases front with
    | nil => exact ⟨[], by rw [inside, List.append_nil, List.append_nil]⟩
    | cons c front =>
      obtain ⟨rfl, -⟩ := List.cons.inj behind
      have line : '\n' ∈ tag ++ ['$'] := by simp [inside]
      rcases List.mem_append.mp line with within | last
      · exact absurd rfl (marked.ne within).2
      · simp at last
  · exact ⟨front, inside.symm⟩

theorem xdolq_reads (marked : Tag tag) (absent : ¬ dollarTag tag <:+: s) :
    xdolq tag (s ++ '\n' :: (dollarTag tag ++ rest)) = some (s ++ ['\n'], rest) := by
  induction s with
  | nil =>
    have closing : dollarTag tag ++ rest = '$' :: (tag ++ '$' :: rest) := by simp [dollarTag]
    rw [closing]
    simp [xdolq, dolqDelim_tag marked]
  | cons c s ih =>
    have further : ¬ dollarTag tag <:+: s := fun inside => absent (List.infix_cons inside)
    rw [List.cons_append, xdolq, ih further]
    by_cases dollar : c = '$'
    · rw [if_pos dollar]
      cases read : dolqDelim (s ++ '\n' :: (dollarTag tag ++ rest)) with
      | none => rfl
      | some found =>
        have other : found.1 ≠ tag := by
          intro same
          have before : found.1 ++ ['$'] <+: s := delimiter_before (same ▸ marked) read
          rw [same] at before
          exact absent ((List.cons_prefix_cons.mpr ⟨dollar.symm, before⟩).isInfix)
        exact if_neg other
    · rw [if_neg dollar]
      rfl

theorem lexDollar_dollarQuote (nanos : Nat) (body rest : List Char) :
    lexDollar ((dollarQuote nanos body).2 ++ rest) = some ('\n' :: (body ++ ['\n']), rest) := by
  have marked : Tag (growTag ("body_".toList ++ lowerHex nanos) body) := growTag_tag (tag_first nanos) (by simp) body
  have absent : ¬ dollarTag (growTag ("body_".toList ++ lowerHex nanos) body) <:+: '\n' :: body := by
    intro inside
    rcases List.infix_cons_iff.mp inside with starts | further
    · exact absurd (List.cons_prefix_cons.mp starts).1 (by decide)
    · exact growTag_absent _ body further
  have quoted : (dollarQuote nanos body).2 ++ rest =
      '$' :: (growTag ("body_".toList ++ lowerHex nanos) body ++ '$' ::
        (('\n' :: body) ++ '\n' :: (dollarTag (growTag ("body_".toList ++ lowerHex nanos) body) ++ rest))) := by
    simp [dollarQuote, dollarTag]
  rw [quoted, lexDollar, dolqDelim_tag marked, Option.bind_some]
  exact xdolq_reads marked absent

/-- PostgreSQL reads the body as it is, and nothing of it behind the quotation. -/
theorem dollarQuote_verbatim (nanos : Nat) (body : List Char) :
    lexDollar ((dollarQuote nanos body).2 ++ [';']) = some ('\n' :: (body ++ ['\n']), [';']) ∧
    (∀ sqlIdent, lexDollar ((functionDdl nanos sqlIdent body).drop (functionHead sqlIdent).length) =
      some ('\n' :: (body ++ ['\n']), [';'])) ∧
    ∀ sqlIdent, lexDollar ((procedureDdl nanos sqlIdent body).drop (procedureHead sqlIdent).length) =
      some ('\n' :: (body ++ ['\n']), [';']) := by
  have read := lexDollar_dollarQuote nanos body [';']
  refine ⟨read, ?_, ?_⟩
  · intro sqlIdent
    rw [functionDdl, List.append_assoc, List.drop_left]
    exact read
  · intro sqlIdent
    rw [procedureDdl, List.append_assoc, List.drop_left]
    exact read

end Allgres
