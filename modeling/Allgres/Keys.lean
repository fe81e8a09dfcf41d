import Allgres.Dashboard.Endpoints

/-! The storage of secrets, and the change of the key they are encrypted with. -/

namespace Allgres

open Relational Jsonb Sql

/-- The functions of `pgcrypto` that the code calls. An encryption draws a salt; `none` is an
exception. What is encrypted under a key can be decrypted under it. -/
structure Pgcrypto where
  Message : Type
  pgpSymEncrypt : Nat → String → String → Message
  pgpSymDecrypt : Message → String → Option String
  armor : Message → String
  dearmor : String → Option Message
  dearmor_armor : ∀ message, dearmor (armor message) = some message
  decrypt_encrypt : ∀ salt plain key, pgpSymDecrypt (pgpSymEncrypt salt plain key) key = some plain

/-- Whether `pgcrypto` is installed, and `current_setting('allgres.secret_key', true)`. -/
structure KeyConfig where
  pgcrypto : Option Pgcrypto
  setting : Option String

def KeyConfig.secretKey (config : KeyConfig) : Option String := nonEmpty config.setting

def Pgcrypto.seal (crypto : Pgcrypto) (salt : Nat) (plain key : String) : String :=
  "enc:v1:" ++ crypto.armor (crypto.pgpSymEncrypt salt plain key)

/-- `left(p_stored, 7) = 'enc:v1:'`. -/
def isSealed (stored : String) : Bool := left stored 7 == "enc:v1:"

/-- `pgp_sym_decrypt(dearmor(substr(p_stored, 8)), key)`. -/
def Pgcrypto.unseal (crypto : Pgcrypto) (stored key : String) : Option String :=
  (crypto.dearmor (String.ofList (stored.toList.drop 7))).bind fun message => crypto.pgpSymDecrypt message key

def encryptSecret (config : KeyConfig) (salt : Nat) (plain : Option String) : Except String (Option String) :=
  match nonEmpty plain, config.secretKey with
  | none, _ => .ok none
  | some plain, none => .ok (some plain)
  | some plain, some key => match config.pgcrypto with
    | none => .error "allgres.secret_key is set but pgcrypto is not installed"
    | some crypto => .ok (some (crypto.seal salt plain key))

def decryptSecret (config : KeyConfig) (stored : String) : Option String :=
  if !isSealed stored then some stored
  else match config.secretKey, config.pgcrypto with
    | some key, some crypto => crypto.unseal stored key
    | _, _ => none

def secretStorageMode (config : KeyConfig) (salt : Nat) : String :=
  if config.secretKey.isNone then "plaintext_no_key"
  else if config.pgcrypto.isNone then "plaintext_no_pgcrypto"
  else match encryptSecret config salt (some "allgres-probe") with
    | .ok (some probe) =>
      if !isSealed probe then "plaintext_encrypt_failed"
      else if decryptSecret config probe != some "allgres-probe" then "encrypted_but_not_readable"
      else "encrypted"
    | _ => "plaintext_encrypt_failed"

/-- A server with that configuration; the salt is the one its next encryption draws. -/
def WebEnv.keyed (env : WebEnv) (config : KeyConfig) (salt : Nat) : WebEnv :=
  { env with
    decryptSecret := Allgres.decryptSecret config
    pgcrypto := config.pgcrypto.isSome
    encryptSecret := Allgres.encryptSecret config salt
    secretStorageMode := Allgres.secretStorageMode config salt }

/-- A value that is not sealed stays; one that cannot be decrypted under the old key gives no value. -/
def rewrapSecret (crypto : Option Pgcrypto) (salt : Nat) (stored oldKey newKey : String) : Option String :=
  if !isSealed stored then some stored
  else crypto.bind fun crypto => (crypto.unseal stored oldKey).map fun plain => crypto.seal salt plain newKey

/-- A column after the rotation: a sealed value that can be re-wrapped is, any other is left alone. -/
def rotatedColumn (rewrap : String → Option String) (stored : Option String) : Option String :=
  stored.map fun text => if isSealed text then (rewrap text).getD text else text

/-- How many of the sealed values are re-wrapped, and how many are not. -/
def rotationCounts (columns : List ((String → Option String) × Option String)) : Nat × Nat :=
  let tried := columns.filterMap fun column => (column.2.filter isSealed).map column.1
  (tried.countP Option.isSome, tried.countP Option.isNone)

/-- The salts of one rotation, by column and row. -/
abbrev Salts := String → Nat → Nat

/-- The columns that hold secrets, each with how its values are re-wrapped. -/
def secretColumns (rewrap : Nat → String → Option String) (salts : Salts) (db : Db) :
    List ((String → Option String) × Option String) :=
  (db.secrets.rows.flatMap fun row =>
    [(rewrap (salts "api_key" row.1), row.2.apiKey),
      (rewrap (salts "oauth_client_secret" row.1), row.2.oauthClientSecret),
      (rewrap (salts "access_token" row.1), row.2.accessToken),
      (rewrap (salts "refresh_token" row.1), row.2.refreshToken)]) ++
  (db.connectionSecrets.map fun row => (rewrap (salts "connection" row.1), row.2)) ++
  db.oauthDeviceSessions.rows.map fun row => (rewrap (salts "device_code" row.1), row.2.deviceCode)

/-! ### The loops -/

/-- The tables as far as they are re-wrapped, with `v_rewrapped` and `v_failed`. -/
structure Rotation where
  db : Db
  rewrapped : Nat
  failed : Nat

/-- The block of one column: a value that is not sealed is passed over. -/
def Rotation.block (run : Rotation) (rewrap : String → Option String) (stored : Option String)
    (write : String → Db → Db) : Rotation :=
  match stored.filter isSealed with
  | none => run
  | some stored => match rewrap stored with
    | some new => { db := write new run.db, rewrapped := run.rewrapped + 1, failed := run.failed }
    | none => { run with failed := run.failed + 1 }

/-- `UPDATE llm_secrets SET … WHERE provider_id = …`. -/
def setLlmSecret (providerId : Nat) (set : LlmSecretRow → LlmSecretRow) (db : Db) : Db :=
  { db with secrets := db.secrets.update (fun _ row => row.providerId == providerId) fun _ row => set row }

def rotateProvider (rewrap : Nat → String → Option String) (salts : Salts) (run : Rotation)
    (r : Nat × LlmSecretRow) : Rotation :=
  let run := run.block (rewrap (salts "api_key" r.1)) r.2.apiKey fun new =>
    setLlmSecret r.2.providerId fun row => { row with apiKey := some new }
  let run := run.block (rewrap (salts "oauth_client_secret" r.1)) r.2.oauthClientSecret fun new =>
    setLlmSecret r.2.providerId fun row => { row with oauthClientSecret := some new }
  let run := run.block (rewrap (salts "access_token" r.1)) r.2.accessToken fun new =>
    setLlmSecret r.2.providerId fun row => { row with accessToken := some new }
  run.block (rewrap (salts "refresh_token" r.1)) r.2.refreshToken fun new =>
    setLlmSecret r.2.providerId fun row => { row with refreshToken := some new }

-- In the next two loops the condition of the block stands in the `WHERE` of the query.
def rotateConnection (rewrap : Nat → String → Option String) (salts : Salts) (run : Rotation)
    (r : Nat × Option String) : Rotation :=
  run.block (rewrap (salts "connection" r.1)) r.2 fun new db =>
    { db with connectionSecrets := db.connectionSecrets.map fun row => if row.1 = r.1 then (row.1, some new) else row }

def rotateDevice (rewrap : Nat → String → Option String) (salts : Salts) (run : Rotation)
    (r : Nat × DeviceSessionRow) : Rotation :=
  run.block (rewrap (salts "device_code" r.1)) r.2.deviceCode fun new db =>
    { db with oauthDeviceSessions := db.oauthDeviceSessions.modify r.1 fun row => { row with deviceCode := some new } }

def rotationLoops (rewrap : Nat → String → Option String) (salts : Salts) (db : Db) : Rotation :=
  let run := db.secrets.rows.foldl (rotateProvider rewrap salts) ⟨db, 0, 0⟩
  let run := run.db.connectionSecrets.foldl (rotateConnection rewrap salts) run
  run.db.oauthDeviceSessions.rows.foldl (rotateDevice rewrap salts) run

/-! ### The rotation -/

def rotatedRow (rewrap : Nat → String → Option String) (salts : Salts) (key : Nat) (row : LlmSecretRow) :
    LlmSecretRow :=
  { row with
    apiKey := rotatedColumn (rewrap (salts "api_key" key)) row.apiKey
    oauthClientSecret := rotatedColumn (rewrap (salts "oauth_client_secret" key)) row.oauthClientSecret
    accessToken := rotatedColumn (rewrap (salts "access_token" key)) row.accessToken
    refreshToken := rotatedColumn (rewrap (salts "refresh_token" key)) row.refreshToken }

/-- The tables after the three loops. -/
def rotateSecrets (rewrap : Nat → String → Option String) (salts : Salts) (db : Db) : Db :=
  { db with
    secrets := db.secrets.update (fun _ _ => true) (rotatedRow rewrap salts)
    connectionSecrets := db.connectionSecrets.map fun row =>
      (row.1, rotatedColumn (rewrap (salts "connection" row.1)) row.2)
    oauthDeviceSessions := db.oauthDeviceSessions.update (fun _ _ => true) fun key row =>
      { row with deviceCode := rotatedColumn (rewrap (salts "device_code" key)) row.deviceCode } }

def fnRotateSecretKey (crypto : Option Pgcrypto) (salts : Salts) (db : Db) (oldKey newKey : Option String) :
    Except String (Json × Db) :=
  match oldKey.filter fun key => btrim key != "", newKey.filter fun key => btrim key != "" with
  | some oldKey, some newKey =>
    if oldKey == newKey then .error "new key must be different from the current key"
    else if crypto.isNone then .error "pgcrypto is not installed"
    else
      let rewrap salt stored := rewrapSecret crypto salt stored oldKey newKey
      let counts := rotationCounts (secretColumns rewrap salts db)
      .ok (.build [("ok", .bool true), ("rewrapped", .ofNat counts.1), ("failed", .ofNat counts.2)],
        (rotateSecrets rewrap salts db).audit "secrets.rotate_key"
          (.build [("rewrapped", .ofNat counts.1), ("failed", .ofNat counts.2)]))
  | _, _ => .error "both the current and new key are required"

/-- The key is rotated from the live one, and then the new one is installed; one entry for each rotation. -/
def rotateAll (crypto : Option Pgcrypto) :
    List (Salts × Option String) → Option String → Db → Except String (Option String × Db)
  | [], live, db => .ok (live, db)
  | (salts, newKey) :: rest, live, db => match fnRotateSecretKey crypto salts db live newKey with
    | .error message => .error message
    | .ok (_, db) => rotateAll crypto rest newKey db

end Allgres
