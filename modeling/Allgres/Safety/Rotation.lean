import Allgres.Safety.Keys

/-! What a change of the key does to every value that is stored. -/

namespace Allgres

open Relational Jsonb Sql

variable {crypto : Pgcrypto} {rewrap : Nat → String → Option String} {salts : Salts} {db db' : Db} {run : Rotation}
  {f : String → Option String} {stored : Option String}

/-! ### The loops -/

/-- `v_new`, where the block gets as far as that. -/
def newValue (f : String → Option String) (stored : Option String) : Option String := (stored.filter isSealed).bind f

theorem rotatedColumn_eq (f : String → Option String) (stored : Option String) :
    rotatedColumn f stored = (newValue f stored).elim stored some := by
  rcases stored with _ | text
  · rfl
  · by_cases sealedText : isSealed text = true
    · rcases new : f text with _ | later <;> simp [rotatedColumn, newValue, Option.filter, sealedText, new]
    · simp [rotatedColumn, newValue, Option.filter, sealedText]

theorem rotationCounts_append (some others : List ((String → Option String) × Option String)) :
    rotationCounts (some ++ others) = ((rotationCounts some).1 + (rotationCounts others).1,
      (rotationCounts some).2 + (rotationCounts others).2) := by
  simp [rotationCounts, List.filterMap_append, List.countP_append]

/-- The counters of a run count the columns that it has passed. -/
def Rotation.Counted (run : Rotation) (columns : List ((String → Option String) × Option String))
    (later : Rotation) : Prop :=
  later.rewrapped = run.rewrapped + (rotationCounts columns).1 ∧ later.failed = run.failed + (rotationCounts columns).2

theorem Rotation.Counted.trans {middle later : Rotation} {some others : List ((String → Option String) × Option String)}
    (first : run.Counted some middle) (second : middle.Counted others later) : run.Counted (some ++ others) later := by
  rw [Counted, rotationCounts_append]
  obtain ⟨rewrapped, failed⟩ := first
  obtain ⟨rewrapped', failed'⟩ := second
  constructor <;> omega

theorem Rotation.counted_block (run : Rotation) (f : String → Option String) (stored : Option String)
    (write : String → Db → Db) : run.Counted [(f, stored)] (run.block f stored write) := by
  rcases held : stored.filter isSealed with _ | text
  · simp [Counted, Rotation.block, rotationCounts, held]
  · rcases new : f text with _ | later <;> simp [Counted, Rotation.block, rotationCounts, held, new]

theorem Rotation.counted_foldl {β : Type} {step : Rotation → β → Rotation}
    {columns : β → List ((String → Option String) × Option String)}
    (counted : ∀ (run : Rotation) (r : β), run.Counted (columns r) (step run r)) (rows : List β) (run : Rotation) :
    run.Counted (rows.flatMap columns) (rows.foldl step run) := by
  induction rows generalizing run with
  | nil => exact ⟨rfl, rfl⟩
  | cons r rest ih => exact (counted run r).trans (ih (step run r))

theorem counted_rotateProvider (run : Rotation) (r : Nat × LlmSecretRow) :
    run.Counted [(rewrap (salts "api_key" r.1), r.2.apiKey),
      (rewrap (salts "oauth_client_secret" r.1), r.2.oauthClientSecret),
      (rewrap (salts "access_token" r.1), r.2.accessToken),
      (rewrap (salts "refresh_token" r.1), r.2.refreshToken)] (rotateProvider rewrap salts run r) := by
  have first := run.counted_block (rewrap (salts "api_key" r.1)) r.2.apiKey fun new =>
    setLlmSecret r.2.providerId fun row => { row with apiKey := some new }
  have second := first.trans (Rotation.counted_block _ (rewrap (salts "oauth_client_secret" r.1)) r.2.oauthClientSecret
    fun new => setLlmSecret r.2.providerId fun row => { row with oauthClientSecret := some new })
  have third := second.trans (Rotation.counted_block _ (rewrap (salts "access_token" r.1)) r.2.accessToken
    fun new => setLlmSecret r.2.providerId fun row => { row with accessToken := some new })
  exact third.trans (Rotation.counted_block _ (rewrap (salts "refresh_token" r.1)) r.2.refreshToken
    fun new => setLlmSecret r.2.providerId fun row => { row with refreshToken := some new })

theorem counted_rotateConnection (run : Rotation) (r : Nat × Option String) :
    run.Counted [(rewrap (salts "connection" r.1), r.2)] (rotateConnection rewrap salts run r) :=
  run.counted_block _ _ _

theorem counted_rotateDevice (run : Rotation) (r : Nat × DeviceSessionRow) :
    run.Counted [(rewrap (salts "device_code" r.1), r.2.deviceCode)] (rotateDevice rewrap salts run r) :=
  run.counted_block _ _ _

theorem Rotation.block_db (run : Rotation) (f : String → Option String) (stored : Option String)
    (write : String → Db → Db) : (run.block f stored write).db = (newValue f stored).elim run.db (write · run.db) := by
  rcases held : stored.filter isSealed with _ | text
  · simp [Rotation.block, newValue, held]
  · rcases new : f text with _ | later <;> simp [Rotation.block, newValue, held, new]

theorem setLlmSecret_id (p : Nat) (db : Db) : setLlmSecret p (fun row => row) db = db := by
  have same : db.secrets.update (fun _ row => row.providerId == p) (fun _ row => row) = db.secrets := by
    simp [Table.update]
  rw [setLlmSecret, same]

theorem setLlmSecret_comp (p : Nat) {first second : LlmSecretRow → LlmSecretRow}
    (keeps : ∀ row, (first row).providerId = row.providerId) (db : Db) :
    setLlmSecret p second (setLlmSecret p first db) = setLlmSecret p (fun row => second (first row)) db := by
  have same (row : Nat × LlmSecretRow) :
      (row.1, if ((if row.2.providerId == p then first row.2 else row.2).providerId == p) = true then
        second (if row.2.providerId == p then first row.2 else row.2)
        else if row.2.providerId == p then first row.2 else row.2) =
      (row.1, if row.2.providerId == p then second (first row.2) else row.2) := by
    by_cases mine : row.2.providerId = p <;> simp [mine, keeps]
  simp only [setLlmSecret, Table.update, List.map_map, Function.comp_def, same]

/-- A block on a provider's row sets the column, if there is a new value. -/
theorem Rotation.block_setLlmSecret (run : Rotation) (f : String → Option String) (stored : Option String) (p : Nat)
    (put : String → LlmSecretRow → LlmSecretRow) :
    (run.block f stored fun new => setLlmSecret p (put new)).db =
      setLlmSecret p (fun row => (newValue f stored).elim row (put · row)) run.db := by
  rw [Rotation.block_db]
  cases newValue f stored with
  | none => exact (setLlmSecret_id p run.db).symm
  | some new => rfl

/-- What the four blocks make of a row that has the values of `r`. -/
def rotatedAs (rewrap : Nat → String → Option String) (salts : Salts) (r : Nat × LlmSecretRow) (row : LlmSecretRow) :
    LlmSecretRow :=
  { row with
    apiKey := (newValue (rewrap (salts "api_key" r.1)) r.2.apiKey).elim row.apiKey some
    oauthClientSecret :=
      (newValue (rewrap (salts "oauth_client_secret" r.1)) r.2.oauthClientSecret).elim row.oauthClientSecret some
    accessToken := (newValue (rewrap (salts "access_token" r.1)) r.2.accessToken).elim row.accessToken some
    refreshToken := (newValue (rewrap (salts "refresh_token" r.1)) r.2.refreshToken).elim row.refreshToken some }

theorem rotatedAs_self (key : Nat) (row : LlmSecretRow) :
    rotatedAs rewrap salts (key, row) row = rotatedRow rewrap salts key row := by
  simp only [rotatedAs, rotatedRow, rotatedColumn_eq]

theorem rotateProvider_db (run : Rotation) (r : Nat × LlmSecretRow) :
    (rotateProvider rewrap salts run r).db = setLlmSecret r.2.providerId (rotatedAs rewrap salts r) run.db := by
  simp only [rotateProvider, Rotation.block_setLlmSecret]
  rw [setLlmSecret_comp, setLlmSecret_comp, setLlmSecret_comp]
  · congr 1
    funext row
    unfold rotatedAs
    cases newValue (rewrap (salts "api_key" r.1)) r.2.apiKey <;>
    cases newValue (rewrap (salts "oauth_client_secret" r.1)) r.2.oauthClientSecret <;>
    cases newValue (rewrap (salts "access_token" r.1)) r.2.accessToken <;>
    cases newValue (rewrap (salts "refresh_token" r.1)) r.2.refreshToken <;> rfl
  all_goals
    intro row
    cases newValue _ _ <;> rfl

theorem rotateProviders_db (distinct : (db.secrets.rows.map fun row => row.2.providerId).Nodup)
    (run : Rotation) (same : run.db = db) :
    (db.secrets.rows.foldl (rotateProvider rewrap salts) run).db =
      { db with secrets := db.secrets.update (fun _ _ => true) (rotatedRow rewrap salts) } := by
  have loop (rows : List (Nat × LlmSecretRow)) (run : Rotation) :
      (rows.foldl (rotateProvider rewrap salts) run).db = { run.db with
        secrets := rows.foldl (fun held r => held.update (fun _ row => row.providerId == r.2.providerId) fun _ row =>
          rotatedAs rewrap salts r row) run.db.secrets } := by
    induction rows generalizing run with
    | nil => rfl
    | cons r rest ih =>
      rw [List.foldl_cons, ih, rotateProvider_db]
      rfl
  have each := @Table.foldl_update_each _ _ _ (fun row : Nat × LlmSecretRow => row.2.providerId)
    (rotatedAs rewrap salts) (fun _ _ => rfl) db.secrets distinct
  rw [loop, same]
  exact congrArg (fun secrets => { db with secrets := secrets })
    (each.trans (congrArg (db.secrets.update _) (funext fun key => funext fun row => rotatedAs_self key row)))

theorem rotateConnections_db (distinct : (db.connectionSecrets.map Prod.fst).Nodup) (run : Rotation)
    (same : run.db = db) :
    (db.connectionSecrets.foldl (rotateConnection rewrap salts) run).db =
      { db with connectionSecrets := db.connectionSecrets.map fun row =>
          (row.1, rotatedColumn (rewrap (salts "connection" row.1)) row.2) } := by
  have step (run : Rotation) (r : Nat × Option String) :
      (rotateConnection rewrap salts run r).db = { run.db with
        connectionSecrets := run.db.connectionSecrets.map fun row =>
          if row.1 = r.1 then (row.1, (newValue (rewrap (salts "connection" r.1)) r.2).elim row.2 some) else row } := by
    rw [rotateConnection, Rotation.block_db]
    cases newValue (rewrap (salts "connection" r.1)) r.2 <;> simp
  have loop (rows : List (Nat × Option String)) (run : Rotation) :
      (rows.foldl (rotateConnection rewrap salts) run).db = { run.db with
        connectionSecrets := rows.foldl (fun all r => all.map fun row =>
          if row.1 = r.1 then (row.1, (newValue (rewrap (salts "connection" r.1)) r.2).elim row.2 some) else row)
          run.db.connectionSecrets } := by
    induction rows generalizing run with
    | nil => rfl
    | cons r rest ih => rw [List.foldl_cons, ih, step, List.foldl_cons]
  have each := @Table.foldl_rewrite _ _ _ Prod.fst
    (fun r row => (row.1, (newValue (rewrap (salts "connection" r.1)) r.2).elim row.2 some)) (fun _ _ => rfl)
    db.connectionSecrets [] distinct
  rw [List.nil_append, List.nil_append] at each
  rw [loop, same, each]
  simp only [rotatedColumn_eq]

theorem rotateDevices_db (run : Rotation) (same : run.db = db) :
    (db.oauthDeviceSessions.rows.foldl (rotateDevice rewrap salts) run).db =
      { db with oauthDeviceSessions := db.oauthDeviceSessions.update (fun _ _ => true) fun key row =>
          { row with deviceCode := rotatedColumn (rewrap (salts "device_code" key)) row.deviceCode } } := by
  have step (run : Rotation) (r : Nat × DeviceSessionRow) :
      (rotateDevice rewrap salts run r).db = { run.db with
        oauthDeviceSessions := run.db.oauthDeviceSessions.update (fun key _ => key == r.1) fun _ row => { row with
          deviceCode := (newValue (rewrap (salts "device_code" r.1)) r.2.deviceCode).elim row.deviceCode some } } := by
    rw [rotateDevice, Rotation.block_db]
    cases newValue (rewrap (salts "device_code" r.1)) r.2.deviceCode with
    | none => simp [Table.update]
    | some new => rfl
  have loop (rows : List (Nat × DeviceSessionRow)) (run : Rotation) :
      (rows.foldl (rotateDevice rewrap salts) run).db = { run.db with
        oauthDeviceSessions := rows.foldl (fun held r => held.update (fun key _ => key == r.1) fun _ row => { row with
          deviceCode := (newValue (rewrap (salts "device_code" r.1)) r.2.deviceCode).elim row.deviceCode some })
          run.db.oauthDeviceSessions } := by
    induction rows generalizing run with
    | nil => rfl
    | cons r rest ih => rw [List.foldl_cons, ih, step, List.foldl_cons]
  have distinct : (db.oauthDeviceSessions.rows.map Prod.fst).Nodup := db.oauthDeviceSessions.ascending.imp Nat.ne_of_lt
  have each := @Table.foldl_update_each _ _ _ Prod.fst (fun (r : Nat × DeviceSessionRow) row => { row with
    deviceCode := (newValue (rewrap (salts "device_code" r.1)) r.2.deviceCode).elim row.deviceCode some })
    (fun _ _ => rfl) db.oauthDeviceSessions distinct
  rw [loop, same, each]
  simp only [rotatedColumn_eq]

/-- The primary keys of `llm_secrets` and `api_connection_secrets`. -/
structure SecretsKeyed (db : Db) : Prop where
  provider : (db.secrets.rows.map fun row => row.2.providerId).Nodup
  connection : (db.connectionSecrets.map Prod.fst).Nodup

/-- The loops leave what re-wrapping every column at once leaves, and count as it counts. -/
theorem rotationLoops_eq (keyed : SecretsKeyed db) :
    rotationLoops rewrap salts db = ⟨rotateSecrets rewrap salts db, (rotationCounts (secretColumns rewrap salts db)).1,
      (rotationCounts (secretColumns rewrap salts db)).2⟩ := by
  have first := @rotateProviders_db rewrap salts _ keyed.provider ⟨db, 0, 0⟩ rfl
  have counted₁ := Rotation.counted_foldl (@counted_rotateProvider rewrap salts) db.secrets.rows ⟨db, 0, 0⟩
  unfold rotationLoops
  generalize db.secrets.rows.foldl (rotateProvider rewrap salts) ⟨db, 0, 0⟩ = run₁ at first counted₁ ⊢
  have connections : run₁.db.connectionSecrets = db.connectionSecrets := by rw [first]
  have second := @rotateConnections_db rewrap salts _ (by rw [connections]; exact keyed.connection) run₁ rfl
  have counted₂ := Rotation.counted_foldl (@counted_rotateConnection rewrap salts) run₁.db.connectionSecrets run₁
  simp only
  generalize run₁.db.connectionSecrets.foldl (rotateConnection rewrap salts) run₁ = run₂ at second counted₂ ⊢
  have devices : run₂.db.oauthDeviceSessions = db.oauthDeviceSessions := by rw [second, first]
  have third := @rotateDevices_db rewrap salts _ run₂ rfl
  have counted₃ := Rotation.counted_foldl (@counted_rotateDevice rewrap salts) run₂.db.oauthDeviceSessions.rows run₂
  generalize run₂.db.oauthDeviceSessions.rows.foldl (rotateDevice rewrap salts) run₂ = run₃ at third counted₃ ⊢
  have counted := (counted₁.trans counted₂).trans counted₃
  have columns : secretColumns rewrap salts db = db.secrets.rows.flatMap (fun r =>
      [(rewrap (salts "api_key" r.1), r.2.apiKey), (rewrap (salts "oauth_client_secret" r.1), r.2.oauthClientSecret),
        (rewrap (salts "access_token" r.1), r.2.accessToken), (rewrap (salts "refresh_token" r.1), r.2.refreshToken)]) ++
      run₁.db.connectionSecrets.flatMap (fun r => [(rewrap (salts "connection" r.1), r.2)]) ++
      run₂.db.oauthDeviceSessions.rows.flatMap (fun r => [(rewrap (salts "device_code" r.1), r.2.deviceCode)]) := by
    rw [connections, devices, ← List.map_eq_flatMap, ← List.map_eq_flatMap]
    rfl
  rw [← columns] at counted
  obtain ⟨rewrapped, failed⟩ := counted
  rcases run₃ with ⟨last, done, left⟩
  simp only [Nat.zero_add] at rewrapped failed third
  rw [Rotation.mk.injEq]
  refine ⟨?_, rewrapped, failed⟩
  rw [third, second, first]
  rfl

/-! ### The values -/

variable {old new : String}

/-- What an encrypted value decrypts to under the key, if it does. -/
def opened (crypto : Pgcrypto) (key : String) (stored : Option String) : Option String :=
  (stored.filter isSealed).bind fun text => crypto.unseal text key

/-- What could be decrypted under the old key decrypts to the same under the new one; all else is as it was. -/
def Rekeyed (crypto : Pgcrypto) (old new : String) (before after : Option String) : Prop :=
  (∀ plain, opened crypto old before = some plain → opened crypto new after = some plain) ∧
    (opened crypto old before = none → after = before)

theorem rekeyed_rotatedColumn (crypto : Pgcrypto) (salt : Nat) (old new : String) (stored : Option String) :
    Rekeyed crypto old new stored
      (rotatedColumn (fun text => rewrapSecret (some crypto) salt text old new) stored) := by
  rcases stored with _ | text
  · exact ⟨by simp [opened], fun _ => rfl⟩
  by_cases sealedText : isSealed text = true
  · have held : (some text).filter isSealed = some text := by simp [Option.filter, sealedText]
    rcases reads : crypto.unseal text old with _ | plain
    · refine ⟨fun plain found => ?_, fun _ => ?_⟩
      · simp [opened, held, reads] at found
      · simp [rotatedColumn, rewrapSecret, sealedText, reads]
    · refine ⟨fun plain' found => ?_, fun missing => ?_⟩
      · have same : plain = plain' := by simpa [opened, held, reads] using found
        subst same
        have later : rotatedColumn (fun text => rewrapSecret (some crypto) salt text old new) (some text) =
            some (crypto.seal salt plain new) := by
          simp [rotatedColumn, rewrapSecret, sealedText, reads]
        have sealedLater := isSealed_seal crypto salt plain new
        rw [later]
        simp [opened, Option.filter, sealedLater, unseal_seal]
      · simp [opened, held, reads] at missing
  · refine ⟨fun plain found => ?_, fun _ => ?_⟩
    · simp [opened, Option.filter, sealedText] at found
    · simp [rotatedColumn, sealedText]

/-- The values of the six columns that hold secrets. -/
def secretValues (db : Db) : List (Option String) :=
  (db.secrets.rows.flatMap fun row =>
    [row.2.apiKey, row.2.oauthClientSecret, row.2.accessToken, row.2.refreshToken]) ++
  db.connectionSecrets.map Prod.snd ++ db.oauthDeviceSessions.rows.map fun row => row.2.deviceCode

theorem rotationCounts_values {columns : List ((String → Option String) × Option String)}
    (rewraps : ∀ column ∈ columns, ∀ text, isSealed text = true →
      (column.1 text).isSome = (crypto.unseal text old).isSome) :
    rotationCounts columns = ((columns.map Prod.snd).countP fun value => (opened crypto old value).isSome,
      (columns.map Prod.snd).countP fun value => value.any isSealed && (opened crypto old value).isNone) := by
  induction columns with
  | nil => rfl
  | cons column rest ih =>
    have first := rewraps column (by simp)
    have counts := rotationCounts_append [column] rest
    rw [List.singleton_append, ih fun other member => rewraps other (by simp [member])] at counts
    rw [counts, List.map_cons, List.countP_cons, List.countP_cons]
    obtain ⟨f, value⟩ := column
    rcases value with _ | text
    · simp [rotationCounts, opened]
    · by_cases sealedText : isSealed text = true
      · have same := first text sealedText
        rcases reads : crypto.unseal text old with _ | plain
        · have failed : f text = none := by simpa [reads] using same
          simp [rotationCounts, opened, Option.filter, sealedText, reads, failed, Nat.add_comm]
        · obtain ⟨later, rewrapped⟩ := Option.isSome_iff_exists.mp (same.trans (by rw [reads]; rfl))
          simp only at rewrapped
          simp [rotationCounts, opened, Option.filter, sealedText, reads, rewrapped, Nat.add_comm]
      · simp [rotationCounts, opened, Option.filter, sealedText]

theorem rotationCounts_secretColumns (crypto : Pgcrypto) (salts : Salts) (old new : String) (db : Db) :
    rotationCounts (secretColumns (fun salt stored => rewrapSecret (some crypto) salt stored old new) salts db) =
      ((secretValues db).countP fun value => (opened crypto old value).isSome,
        (secretValues db).countP fun value => value.any isSealed && (opened crypto old value).isNone) := by
  have values : secretValues db =
      (secretColumns (fun salt stored => rewrapSecret (some crypto) salt stored old new) salts db).map Prod.snd := by
    simp [secretValues, secretColumns, List.map_flatMap, Function.comp_def]
  rw [values]
  refine rotationCounts_values fun column member text sealedText => ?_
  have shape : ∃ salt, column.1 = fun stored => rewrapSecret (some crypto) salt stored old new := by
    simp only [secretColumns, List.mem_append, List.mem_flatMap, List.mem_map, List.mem_cons, List.not_mem_nil,
      or_false] at member
    rcases member with (⟨row, -, rfl | rfl | rfl | rfl⟩ | ⟨row, -, rfl⟩) | ⟨row, -, rfl⟩ <;> exact ⟨_, rfl⟩
  obtain ⟨salt, same⟩ := shape
  rw [same]
  simp [rewrapSecret, sealedText]

/-- All that a rotation does to the tables, its audit row apart. -/
structure RotatedExactly (crypto : Pgcrypto) (old new : String) (before after : Db) : Prop where
  provider : List.Forall₂ (fun row row' => row'.1 = row.1 ∧
    Rekeyed crypto old new row.2.apiKey row'.2.apiKey ∧
    Rekeyed crypto old new row.2.oauthClientSecret row'.2.oauthClientSecret ∧
    Rekeyed crypto old new row.2.accessToken row'.2.accessToken ∧
    Rekeyed crypto old new row.2.refreshToken row'.2.refreshToken ∧
    row'.2 = { row.2 with
      apiKey := row'.2.apiKey, oauthClientSecret := row'.2.oauthClientSecret
      accessToken := row'.2.accessToken, refreshToken := row'.2.refreshToken }) before.secrets.rows after.secrets.rows
  connection : List.Forall₂ (fun row row' => row'.1 = row.1 ∧ Rekeyed crypto old new row.2 row'.2)
    before.connectionSecrets after.connectionSecrets
  device : List.Forall₂ (fun row row' => row'.1 = row.1 ∧
    Rekeyed crypto old new row.2.deviceCode row'.2.deviceCode ∧
    row'.2 = { row.2 with deviceCode := row'.2.deviceCode })
    before.oauthDeviceSessions.rows after.oauthDeviceSessions.rows
  rest : after = { before with
    secrets := after.secrets, connectionSecrets := after.connectionSecrets
    oauthDeviceSessions := after.oauthDeviceSessions }

theorem rotatedExactly_rotateSecrets (crypto : Pgcrypto) (salts : Salts) (old new : String) (db : Db) :
    RotatedExactly crypto old new db
      (rotateSecrets (fun salt stored => rewrapSecret (some crypto) salt stored old new) salts db) where
  provider := by
    simp only [rotateSecrets, Table.update, List.forall₂_map_right_iff, if_true]
    refine List.forall₂_same.mpr fun row _ => ⟨rfl, ?_, ?_, ?_, ?_, rfl⟩ <;> exact rekeyed_rotatedColumn _ _ _ _ _
  connection := by
    simp only [rotateSecrets, List.forall₂_map_right_iff]
    exact List.forall₂_same.mpr fun row _ => ⟨rfl, rekeyed_rotatedColumn _ _ _ _ _⟩
  device := by
    simp only [rotateSecrets, Table.update, List.forall₂_map_right_iff, if_true]
    exact List.forall₂_same.mpr fun row _ => ⟨rfl, rekeyed_rotatedColumn _ _ _ _ _, rfl⟩
  rest := rfl

/-- A rotation re-wraps just the values that the old key opens, in every column that holds secrets,
and reports how many these are and how many encrypted values it had to leave. -/
theorem rotation_exact {crypto : Option Pgcrypto} {oldKey newKey : Option String} {answer : Json}
    (keyed : SecretsKeyed db) (rotated : fnRotateSecretKey crypto salts db oldKey newKey = .ok (answer, db')) :
    ∃ pgcrypto old new run, crypto = some pgcrypto ∧ oldKey = some old ∧ newKey = some new ∧
      rotationLoops (fun salt stored => rewrapSecret (some pgcrypto) salt stored old new) salts db = run ∧
      RotatedExactly pgcrypto old new db run.db ∧
      run.rewrapped = (secretValues db).countP (fun value => (opened pgcrypto old value).isSome) ∧
      run.failed = (secretValues db).countP
        (fun value => value.any isSealed && (opened pgcrypto old value).isNone) ∧
      db' = run.db.audit "secrets.rotate_key"
        (.build [("rewrapped", .ofNat run.rewrapped), ("failed", .ofNat run.failed)]) ∧
      answer = .build [("ok", .bool true), ("rewrapped", .ofNat run.rewrapped), ("failed", .ofNat run.failed)] := by
  rw [fnRotateSecretKey] at rotated
  split at rotated
  · rename_i old new oldGiven newGiven
    split at rotated
    · cases rotated
    split at rotated
    · cases rotated
    rcases crypto with _ | pgcrypto
    · rename_i installed
      exact absurd rfl installed
    obtain ⟨rfl, rfl⟩ := Prod.mk.inj (Except.ok.inj rotated)
    have loops := @rotationLoops_eq (fun salt stored => rewrapSecret (some pgcrypto) salt stored old new) salts _ keyed
    have counts := rotationCounts_secretColumns pgcrypto salts old new db
    refine ⟨pgcrypto, old, new, _, rfl, (Option.filter_eq_some_iff.mp oldGiven).1,
      (Option.filter_eq_some_iff.mp newGiven).1, loops, rotatedExactly_rotateSecrets pgcrypto salts old new db, ?_, ?_,
      rfl, rfl⟩
    · simp only [counts]
    · simp only [counts]
  · cases rotated

/-- A key and a token under the old key, a token under another one, and a secret that is not encrypted. -/
private def storedSecrets : Db :=
  { Db.empty with
    secrets := Table.empty.insert ⟨0, some "enc:v1:oldkey", some "plain", some "enc:v1:alien", none, none⟩
    connectionSecrets := [(0, some "enc:v1:oldtoken")] }

theorem rotation_exact_mixed : ∃ answer db', ∃ run : Rotation,
    fnRotateSecretKey (some .plain) (fun _ _ => 0) storedSecrets (some "old") (some "new") = .ok (answer, db') ∧
    RotatedExactly .plain "old" "new" storedSecrets run.db ∧ run.rewrapped = 2 ∧ run.failed = 1 := by
  have keyed : SecretsKeyed storedSecrets := ⟨by decide, by decide⟩
  rcases rotated : fnRotateSecretKey (some .plain) (fun _ _ => 0) storedSecrets (some "old") (some "new") with
    message | ⟨answer, db'⟩
  · have runs : (fnRotateSecretKey (some .plain) (fun _ _ => 0) storedSecrets (some "old") (some "new")).isOk = true := by
      decide +kernel
    rw [rotated] at runs
    cases runs
  · obtain ⟨pgcrypto, old, new, run, installed, oldKey, newKey, -, exactly, rewrapped, failed, -⟩ :=
      rotation_exact keyed rotated
    obtain rfl := Option.some.inj installed
    obtain rfl := Option.some.inj oldKey
    obtain rfl := Option.some.inj newKey
    refine ⟨answer, db', run, rfl, exactly, ?_, ?_⟩
    · rw [rewrapped]
      decide +kernel
    · rw [failed]
      decide +kernel

end Allgres
