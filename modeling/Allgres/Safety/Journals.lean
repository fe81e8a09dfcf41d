import Allgres.Edits.System

/-! The journals. Whatever happens, a row of `execution_logs` or of the audit log stays as it was written, and so
does what an agent has proposed: an operator decides on nothing but what was asked. -/

namespace Allgres

open Relational

/-- Rows are appended, each with the time of a transaction that is one of these. -/
def Appends (times : Time → Prop) (before after : List LogRow) : Prop :=
  ∃ rows, after = before ++ rows ∧ ∀ row ∈ rows, times row.createdAt

theorem Appends.refl (times : Time → Prop) (logs : List LogRow) : Appends times logs logs := by
  refine ⟨[], (List.append_nil logs).symm, fun row member => ?_⟩
  cases member

theorem Appends.trans {times : Time → Prop} {a b c : List LogRow} (first : Appends times a b)
    (second : Appends times b c) : Appends times a c := by
  obtain ⟨early, rfl, timely⟩ := first
  obtain ⟨late, rfl, punctual⟩ := second
  refine ⟨early ++ late, List.append_assoc a early late, fun row member => ?_⟩
  rcases List.mem_append.mp member with old | new
  · exact timely row old
  · exact punctual row new

/-- What was written stays. -/
structure Journaled (times : Time → Prop) (before after : Db) : Prop where
  logs : Appends times before.logs after.logs
  audits : Evolves Eq (fun _ => False) before.auditLog after.auditLog
  proposals : Evolves Eq (fun _ => False) before.proposals after.proposals
  fixes : Evolves Eq (fun _ => False) before.fixes after.fixes

theorem Journaled.of_tables {times : Time → Prop} {before after : Db} (logs : after.logs = before.logs)
    (audits : after.auditLog = before.auditLog) (proposals : after.proposals = before.proposals)
    (fixes : after.fixes = before.fixes) : Journaled times before after := by
  refine ⟨?_, ?_, ?_, ?_⟩
  · rw [logs]
    exact .refl times _
  · rw [audits]
    exact .refl (fun _ => rfl) _
  · rw [proposals]
    exact .refl (fun _ => rfl) _
  · rw [fixes]
    exact .refl (fun _ => rfl) _

theorem Journaled.trans {times : Time → Prop} {a b c : Db} (first : Journaled times a b) (second : Journaled times b c) :
    Journaled times a c where
  logs := first.logs.trans second.logs
  audits := .trans Eq.trans (fun _ => id) first.audits second.audits
  proposals := .trans Eq.trans (fun _ => id) first.proposals second.proposals
  fixes := .trans Eq.trans (fun _ => id) first.fixes second.fixes

variable {F : Float8} {env : Env} {powers : Powers} {db db' : Db} {times : Time → Prop} {events : List Event}

theorem Edit.recorded (edit : Edit env powers db db') (now : times env.now) : Journaled times db db' := by
  cases edit with
  | traffic only =>
    rw [only]
    exact .of_tables rfl rfl rfl rfl
  | perimeter configures only =>
    rw [only]
    exact .of_tables rfl rfl rfl rfl
  | log row timely =>
    refine ⟨⟨[row], rfl, fun other member => ?_⟩, .refl (fun _ => rfl) _, .refl (fun _ => rfl) _, .refl (fun _ => rfl) _⟩
    obtain rfl := List.mem_singleton.mp member
    exact timely ▸ now
  | audit row => exact ⟨.refl times _, .insert (fun _ => rfl) _ row, .refl (fun _ => rfl) _, .refl (fun _ => rfl) _⟩
  | propose proposal =>
    exact ⟨.refl times _, .refl (fun _ => rfl) _, .insert (fun _ => rfl) _ proposal, .refl (fun _ => rfl) _⟩
  | fix fix => exact ⟨.refl times _, .refl (fun _ => rfl) _, .refl (fun _ => rfl) _, .insert (fun _ => rfl) _ fix⟩
  | _ => exact .of_tables rfl rfl rfl rfl

/-- In every run of the system the journals only grow, and a new row of the log has the time of the transaction
that wrote it. -/
theorem journals_kept (own : ∀ event ∈ events, event.Own) (world : World F) :
    Journaled (fun time => ∃ event ∈ events, event.env.now = time) world.site.db (world.after events).site.db := by
  refine @own_induction _ (Journaled _) events own (fun _ => .of_tables rfl rfl rfl rfl) Journaled.trans ?_ world
  intro event member db db' edit
  exact edit.recorded ⟨event, member, rfl⟩

/-- What the model said and what it asked for. -/
theorem journals_kept_asked :
    let world := World.ofDb supervisedDb
    let events := replying (proposesPrompt "Be brief.")
    (world.after events).site.db.logs.length = 3 ∧
      Journaled (fun time => ∃ event ∈ events, event.env.now = time) world.site.db (world.after events).site.db :=
  ⟨by decide +kernel, journals_kept (replying_own _) _⟩

end Allgres
