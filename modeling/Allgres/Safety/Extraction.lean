import Allgres.Lib.JsonReading
import Allgres.Submit.Turn

/-! The first JSON object of a text that holds one. -/

namespace Allgres

open Jsonb Sql

/-- The scan leaves a string literal where the literal ends. -/
theorem scanJson_quoted {literal : List Char} (quoted : Quoted literal) (chunk : List Char) (depth : Nat)
    (rest : List Char) : scanJson (some ⟨chunk, depth, true, false⟩) (literal ++ rest) =
      scanJson (some ⟨literal.reverse ++ chunk, depth, false, false⟩) rest := by
  induction quoted generalizing chunk with
  | close => simp [scanJson]
  | escaped c _ ih =>
    have later := ih (c :: '\\' :: chunk)
    simpa [scanJson] using later
  | @plain c _ quote slash _ ih =>
    have later := ih (c :: chunk)
    simpa [scanJson, quote, slash] using later

/-- The scan passes over balanced text, and is as deep as before. -/
theorem scanJson_balanced {text : List Char} (balanced : Balanced text) (chunk : List Char) {depth : Nat}
    (inside : 1 ≤ depth) (rest : List Char) :
    scanJson (some ⟨chunk, depth, false, false⟩) (text ++ rest) =
      scanJson (some ⟨text.reverse ++ chunk, depth, false, false⟩) rest := by
  induction balanced generalizing chunk depth rest with
  | nil => rfl
  | @plain c _ quote opens closes _ ih =>
    have later := ih (c :: chunk) inside rest
    simpa [scanJson, quote, opens, closes] using later
  | @string literal more quoted _ ih =>
    have string := scanJson_quoted quoted ('"' :: chunk) depth (more ++ rest)
    have later := ih (literal.reverse ++ '"' :: chunk) inside rest
    have whole := string.trans later
    simpa [scanJson] using whole
  | @braces inner more _ _ ih ih' =>
    have object := ih ('\x7b' :: chunk) (Nat.le_add_left 1 depth) ('\x7d' :: (more ++ rest))
    have later := ih' ('\x7d' :: (inner.reverse ++ '\x7b' :: chunk)) inside rest
    have deeper : depth ≠ 0 := by omega
    have close : scanJson (some ⟨inner.reverse ++ '\x7b' :: chunk, depth + 1, false, false⟩) ('\x7d' :: (more ++ rest)) =
        scanJson (some ⟨'\x7d' :: (inner.reverse ++ '\x7b' :: chunk), depth, false, false⟩) (more ++ rest) := by
      simp [scanJson, deeper]
    have whole := object.trans (close.trans later)
    simpa [scanJson] using whole

/-- Before the first brace there is nothing to scan. -/
theorem scanJson_before {before : List Char} (noBrace : '\x7b' ∉ before) (rest : List Char) :
    scanJson none (before ++ rest) = scanJson none rest := by
  induction before with
  | nil => rfl
  | cons c more ih =>
    have other : c ≠ '\x7b' := fun same => noBrace (by simp [same])
    simp only [List.cons_append, scanJson, other, if_false]
    exact ih fun member => noBrace (List.mem_cons_of_mem c member)

theorem scanJson_object {inner : List Char} {value : Json} (balanced : Balanced inner)
    (converts : parse (String.ofList ('\x7b' :: (inner ++ ['\x7d']))) = some value) (after : List Char) :
    scanJson none ('\x7b' :: (inner ++ ['\x7d']) ++ after) = some value := by
  have passed := scanJson_balanced balanced ['\x7b'] (Nat.le_refl 1) ('\x7d' :: after)
  have chunk : ('\x7d' :: (inner.reverse ++ ['\x7b'])).reverse = '\x7b' :: (inner ++ ['\x7d']) := by simp
  have last : scanJson (some ⟨inner.reverse ++ ['\x7b'], 1, false, false⟩) ('\x7d' :: after) = some value := by
    simp only [scanJson, chunk, converts]
    rfl
  have whole := passed.trans last
  simpa [scanJson] using whole

/-- The text that the first attempt converts begins with the object, if it begins with a brace. -/
theorem btrim_object {before object after : List Char} (noBrace : '\x7b' ∉ before)
    (starts : left (btrim (String.ofList (before ++ ('\x7b' :: (object ++ ['\x7d']) ++ after)))) 1 = "\x7b") :
    ∃ tail, btrim (String.ofList (before ++ ('\x7b' :: (object ++ ['\x7d']) ++ after))) =
      String.ofList ('\x7b' :: (object ++ ['\x7d']) ++ tail) := by
  simp only [btrim, trimRight, trimLeft, String.toList_ofList] at starts ⊢
  rw [List.dropWhile_append] at starts ⊢
  split at starts
  · rename_i blank
    rw [if_pos blank]
    have stays : ('\x7b' :: (object ++ ['\x7d']) ++ after).dropWhile (· == ' ') =
        '\x7b' :: object ++ ['\x7d'] ++ after := by simp
    refine ⟨after.rdropWhile (· == ' '), ?_⟩
    rw [stays, rdropWhile_append_kept (by decide)]
    rfl
  · rename_i more
    rcases word : before.dropWhile (· == ' ') with _ | ⟨c, rest⟩
    · simp [word] at more
    · have inside : c ∈ before := by
        refine (List.dropWhile_sublist (· == ' ')).subset ?_
        rw [word]
        exact List.mem_cons_self
      obtain ⟨cut, whole⟩ := List.rdropWhile_prefix (· == ' ') (l := c :: rest ++ ('\x7b' :: (object ++ ['\x7d']) ++ after))
      rw [word] at starts
      rcases kept : (c :: rest ++ ('\x7b' :: (object ++ ['\x7d']) ++ after)).rdropWhile (· == ' ') with _ | ⟨d, later⟩
      · rw [kept] at starts
        exact absurd starts (by decide)
      · rw [kept] at starts whole
        have same : d = c := (List.cons.inj whole).1
        have brace : d = '\x7b' := by
          have chars := congrArg String.toList starts
          simpa [left] using chars
        exact absurd (brace ▸ same ▸ inside) noBrace

/-- An object in a text is found, whatever surrounds it, if no brace comes before it. -/
theorem extractFirstJson_object {before object after : String} {value : Json} (noBrace : '\x7b' ∉ before.toList)
    (opens : object.toList.head? = some '\x7b') (closes : object.toList.getLast? = some '\x7d')
    (converts : parse object = some value) :
    extractFirstJson (some (before ++ object ++ after)) = some value := by
  rw [← String.ofList_toList (s := object)] at converts
  obtain ⟨⟨inner, same, balanced⟩, stable⟩ := parse_object opens closes converts
  rw [same] at converts stable
  have text : (before ++ object ++ after).toList =
      before.toList ++ ('\x7b' :: (inner ++ ['\x7d']) ++ after.toList) := by
    rw [String.toList_append, String.toList_append, same, List.append_assoc]
  have scanned : scanJson none (before ++ object ++ after).toList = some value := by
    rw [text, scanJson_before noBrace]
    exact scanJson_object balanced converts after.toList
  have some : btrim (before ++ object ++ after) ≠ "" := by
    refine @btrim_ne_empty _ '\x7b' ?_ (by decide)
    simp [text]
  simp only [extractFirstJson, some, if_false, scanned]
  split
  · rename_i found first
    split at first
    · rename_i starts
      rw [← String.ofList_toList (s := before ++ object ++ after), text] at starts first
      obtain ⟨tail, trimmed⟩ := btrim_object noBrace starts
      rw [trimmed] at first
      rw [stable tail found first]
    · cases first
  · rfl

theorem extractFirstJson_object_brace : ∃ value,
    parse "\x7b\"a\": \"\x7d\\\"\"\x7d" = some value ∧
    extractFirstJson (some ("ok \x7d: " ++ "\x7b\"a\": \"\x7d\\\"\"\x7d" ++ " \x7b\"b\": \x7b")) = some value := by
  have converts : (parse "\x7b\"a\": \"\x7d\\\"\"\x7d").isSome = true := by decide +kernel
  obtain ⟨value, parsed⟩ := Option.isSome_iff_exists.mp converts
  exact ⟨value, parsed, extractFirstJson_object (by decide) (by decide) (by decide) parsed⟩

end Allgres
