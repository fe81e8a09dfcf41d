import Allgres.Edits.System

/-! What the system does without an operator. Whatever the models answer and whatever comes back from the
network, the configuration around the agents stays; and as long as every agent waits for approval, so does
what the agents are and may do. -/

namespace Allgres

open Relational

/-- A provider without the flag that it loses when it turns JSON mode down. -/
def ProviderRow.unflagged (provider : ProviderRow) : ProviderRow := { provider with responseFormatJsonObject := false }

/-- The configuration around the agents, without the outcomes of builds. -/
structure Perimeter where
  connections : Table ConnectionRow
  connectionSecrets : List (Nat × Option String)
  providers : Table ProviderRow
  prices : List PriceRow
  sqlSandboxAllowlist : List String
  sqlFunctionAllowlist : List String
  projects : Table ProjectRow
  procedures : Table ProcedureRow
  procedureHistory : Table ProcedureHistoryRow
  bindings : List (Nat × Nat)

def Db.perimeter (db : Db) : Perimeter where
  connections := db.connections
  connectionSecrets := db.connectionSecrets
  providers := db.providers.map ProviderRow.unflagged
  prices := db.prices
  sqlSandboxAllowlist := db.sqlSandboxAllowlist
  sqlFunctionAllowlist := db.sqlFunctionAllowlist
  projects := db.projects
  procedures := db.procedures.map ProcedureRow.unbuilt
  procedureHistory := db.procedureHistory
  bindings := db.bindings

variable {F : Float8} {env : Env} {db db' : Db} {events : List Event}

theorem OnlyTraffic.perimeter (only : OnlyTraffic db db') : db'.perimeter = db.perimeter := by
  rw [only]
  rfl

theorem OnlyTraffic.secrets (only : OnlyTraffic db db') : db'.secrets = db.secrets := by
  rw [only]

/-- Whoever has no power over the configuration leaves it as it is. -/
theorem Edit.perimeter_eq {powers : Powers} (edit : Edit env powers db db') (limited : ¬ powers.configures) :
    db'.perimeter = db.perimeter := by
  cases edit with
  | traffic only => exact only.perimeter
  | perimeter configures => exact absurd configures limited
  | buildProcedure cond set same => simp only [Db.perimeter, Table.map_update db.procedures cond same]
  | format cond =>
    have same : (db.providers.update cond fun _ provider => { provider with responseFormatJsonObject := false }).map
        ProviderRow.unflagged = db.providers.map ProviderRow.unflagged := Table.map_update _ _ fun _ _ => rfl
    simp only [Db.perimeter, same]
  | _ => rfl

theorem LlmSecretRow.Renewed.trans {a b c : LlmSecretRow} (first : a.Renewed b) (second : b.Renewed c) : a.Renewed c := by
  unfold Renewed at first second ⊢
  rw [second, first]

theorem Edit.secrets_evolve {powers : Powers} (edit : Edit env powers db db') (limited : ¬ powers.configures) :
    Evolves LlmSecretRow.Renewed (fun _ => False) db.secrets db'.secrets := by
  cases edit with
  | traffic only =>
    rw [only.secrets]
    exact .refl LlmSecretRow.Renewed.refl _
  | tokens secrets evolves => exact evolves
  | perimeter configures => exact absurd configures limited
  | _ => exact .refl LlmSecretRow.Renewed.refl _

/-- The configuration stays, and of the stored keys only tokens are renewed. -/
def Maintained (before after : Db) : Prop :=
  after.perimeter = before.perimeter ∧ Evolves LlmSecretRow.Renewed (fun _ => False) before.secrets after.secrets

theorem Maintained.refl (db : Db) : Maintained db db := ⟨rfl, .refl LlmSecretRow.Renewed.refl _⟩

theorem Maintained.trans {a b c : Db} (first : Maintained a b) (second : Maintained b c) : Maintained a c :=
  ⟨second.1.trans first.1, .trans LlmSecretRow.Renewed.trans (fun _ => id) first.2 second.2⟩

theorem Edit.maintained {powers : Powers} (edit : Edit env powers db db') (limited : ¬ powers.configures) :
    Maintained db db' :=
  ⟨edit.perimeter_eq limited, edit.secrets_evolve limited⟩

/-- Whatever comes back from models, services and sandboxes, nothing but a request of the dashboard changes the
configuration; the stored keys of the providers stay, only their tokens are renewed. -/
theorem autonomic_perimeter (autonomic : ∀ event ∈ events, event.Autonomic) (world : World F) :
    Maintained world.site.db (world.after events).site.db :=
  @autonomic_induction _ Maintained events autonomic Maintained.refl Maintained.trans
    (fun _ _ _ _ edit => edit.maintained id) world

/-- The model asks for another prompt. -/
theorem autonomic_perimeter_asked :
    let world := World.ofDb (helperDb (helperPolicy 5 none))
    let later := world.after (replying (proposesPrompt "Be brief."))
    later.site.db.proposals.rows.length = 1 ∧ Maintained world.site.db later.site.db :=
  ⟨by decide +kernel, autonomic_perimeter (replying_autonomic _) _⟩

end Allgres
