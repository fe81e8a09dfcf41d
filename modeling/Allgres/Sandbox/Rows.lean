import Allgres.Lib.Jsonb

/-! The rows of a sandboxed statement, cut to two hundred and to 64 KiB. -/

namespace Allgres

open Jsonb

variable {rows : List Json} {truncated : Bool}

/-- `octet_length(v_rows::text)`. -/
def octetLength (rows : List Json) : Nat := (Json.arr rows).text.utf8ByteSize

def rowCap : Nat := 200

def octetCap : Nat := 65536

/-- The loop that drops the last row, with `v_truncated`. -/
def dropRows (rows : List Json) (truncated : Bool) : List Json × Bool :=
  if octetCap < octetLength rows ∧ 1 < rows.length then dropRows (rows.eraseIdx (rows.length - 1)) true
  else (rows, truncated)
termination_by rows.length
decreasing_by
  rename_i more
  rw [List.length_eraseIdx_of_lt (by omega)]
  omega

/-- The text that `fn_run_sandboxed_sql` executes. -/
def wrappedSql (sql : String) : String :=
  "SELECT coalesce(jsonb_agg(q.row), '[]'::jsonb) FROM (SELECT to_jsonb(s) AS row FROM (" ++ sql ++
    ") s LIMIT 201) q"

/-- `fn_run_sandboxed_sql`, on a server that executes a text to the elements of the
array it returns or to an error. -/
def fnRunSandboxedSql (execute : String → Except String (List Json)) (sql : String) : Json :=
  match execute (wrappedSql sql) with
  | .error message => Json.build [("ok", .bool false), ("error", .str message)]
  | .ok fetched =>
    let (rows, truncated, n) :=
      if rowCap < fetched.length then (fetched.take rowCap, true, rowCap) else (fetched, false, fetched.length)
    let (rows, truncated, n) :=
      if octetCap < octetLength rows then
        let (rows, truncated) := dropRows rows truncated
        (rows, truncated, rows.length)
      else (rows, truncated, n)
    Json.build [("ok", .bool true), ("row_count", .ofNat n), ("truncated", .bool truncated), ("rows", .arr rows)]

theorem dropRows_fits (fits : ¬ (octetCap < octetLength rows ∧ 1 < rows.length)) :
    dropRows rows truncated = (rows, truncated) := by
  rw [dropRows, if_neg fits]

/-- What is left of rows that had to fit. -/
structure Fitted (rows : List Json) (truncated : Bool) (left : List Json × Bool) : Prop where
  front : left.1 <+: rows
  flag : left.2 = true ↔ truncated = true ∨ left.1.length < rows.length
  fits : octetLength left.1 ≤ octetCap ∨ left.1.length ≤ 1
  longest : ∀ longer, longer <+: rows → left.1.length < longer.length → octetCap < octetLength longer

theorem dropRows_fitted (rows : List Json) (truncated : Bool) : Fitted rows truncated (dropRows rows truncated) := by
  induction rows, truncated using dropRows.induct with
  | case1 rows truncated more ih =>
    have step : dropRows rows truncated = dropRows rows.dropLast true := by
      rw [dropRows, if_pos more, List.eraseIdx_length_sub_one]
    rw [List.eraseIdx_length_sub_one] at ih
    rw [step]
    have shorter : rows.dropLast.length = rows.length - 1 := List.length_dropLast
    have kept : (dropRows rows.dropLast true).1.length ≤ rows.dropLast.length := ih.front.length_le
    refine ⟨ih.front.trans (List.dropLast_prefix rows), ?_, ih.fits, ?_⟩
    · have set : (dropRows rows.dropLast true).2 = true := ih.flag.mpr (.inl rfl)
      have fewer : (dropRows rows.dropLast true).1.length < rows.length := by omega
      exact ⟨fun _ => .inr fewer, fun _ => set⟩
    · intro longer front long
      by_cases whole : rows.length ≤ longer.length
      · rw [front.eq_of_length_le whole]
        exact more.1
      · have within : longer <+: rows.dropLast :=
          List.prefix_of_prefix_length_le front (List.dropLast_prefix rows) (by omega)
        exact ih.longest longer within long
  | case2 rows truncated fits =>
    rw [dropRows_fits fits]
    refine ⟨List.prefix_rfl, ?_, ?_, ?_⟩
    · simp
    · by_cases small : octetLength rows ≤ octetCap
      · exact .inl small
      · have few : rows.length ≤ 1 := by omega
        exact .inr few
    · intro longer front long
      have short : longer.length ≤ rows.length := front.length_le
      exact absurd (Nat.lt_of_lt_of_le long short) (Nat.lt_irrefl _)

/-- The answer holds the longest front of the rows that is within both caps. -/
structure Truncation (fetched kept : List Json) (truncated : Bool) : Prop where
  front : kept <+: fetched
  rows : kept.length ≤ rowCap
  flag : truncated = true ↔ kept.length < fetched.length
  octets : octetLength kept ≤ octetCap ∨ kept.length = 1
  longest : ∀ longer, longer <+: fetched → longer.length ≤ rowCap → kept.length < longer.length →
    octetCap < octetLength longer

theorem octetLength_nil : octetLength [] ≤ octetCap := by decide

theorem Fitted.truncation {fetched : List Json} {left : List Json × Bool} (capped : rows = fetched.take rowCap)
    (fitted : Fitted rows (decide (rowCap < fetched.length)) left) : Truncation fetched left.1 left.2 := by
  subst capped
  have shorter : left.1.length ≤ (fetched.take rowCap).length := fitted.front.length_le
  have taken : (fetched.take rowCap).length = min rowCap fetched.length := List.length_take
  refine ⟨fitted.front.trans (List.take_prefix rowCap fetched), by omega, ?_, ?_, ?_⟩
  · rw [fitted.flag, decide_eq_true_eq]
    omega
  · rcases fitted.fits with small | few
    · exact .inl small
    · by_cases none : left.1 = []
      · exact .inl (by rw [none]; exact octetLength_nil)
      · have some : 0 < left.1.length := List.length_pos_iff.mpr none
        exact .inr (by omega)
  · intro longer front within long
    have among : longer <+: fetched.take rowCap :=
      List.prefix_of_prefix_length_le front (List.take_prefix rowCap fetched) (by have := front.length_le; omega)
    exact fitted.longest longer among long

/-- The result of a statement that the server executes is the longest front of its rows
within both caps; the count and the flag agree with it. -/
theorem fnRunSandboxedSql_exact (execute : String → Except String (List Json)) (sql : String) (fetched : List Json)
    (ran : execute (wrappedSql sql) = .ok fetched) :
    ∃ kept truncated, Truncation fetched kept truncated ∧
      fnRunSandboxedSql execute sql = Json.build [("ok", .bool true), ("row_count", .ofNat kept.length),
        ("truncated", .bool truncated), ("rows", .arr kept)] := by
  have fitted := dropRows_fitted (fetched.take rowCap) (decide (rowCap < fetched.length))
  refine ⟨_, _, fitted.truncation rfl, ?_⟩
  have cut : (if rowCap < fetched.length then (fetched.take rowCap, true, rowCap) else (fetched, false, fetched.length)) =
      (fetched.take rowCap, decide (rowCap < fetched.length), (fetched.take rowCap).length) := by
    by_cases many : rowCap < fetched.length
    · rw [if_pos many, decide_eq_true many, List.length_take, Nat.min_eq_left (Nat.le_of_lt many)]
    · rw [if_neg many, decide_eq_false many, List.take_of_length_le (Nat.le_of_not_lt many)]
  rw [fnRunSandboxedSql, ran]
  simp only [cut]
  split
  · rfl
  next fits => rw [dropRows_fits fun more => fits more.1]

/-- Three rows on a server that returns them. -/
theorem fnRunSandboxedSql_exact_three :
    ∃ kept truncated, Truncation [.null, .bool true, .str "a"] kept truncated ∧
      fnRunSandboxedSql (fun _ => .ok [.null, .bool true, .str "a"]) "SELECT 1" =
        Json.build [("ok", .bool true), ("row_count", .ofNat kept.length), ("truncated", .bool truncated), ("rows", .arr kept)] :=
  fnRunSandboxedSql_exact (fun _ => .ok [.null, .bool true, .str "a"]) "SELECT 1" [.null, .bool true, .str "a"] rfl

end Allgres
