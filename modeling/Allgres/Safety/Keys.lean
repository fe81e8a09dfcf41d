import Allgres.Keys
import Allgres.Machine

/-! What is read of a stored secret after the key has changed. -/

namespace Allgres

open Relational Sql

variable {crypto : Option Pgcrypto} {setting live : Option String} {db db' : Db} {p salt : Nat} {s stored : String}

theorem isSealed_seal (crypto : Pgcrypto) (salt : Nat) (plain key : String) :
    isSealed (crypto.seal salt plain key) = true := by
  have cut : ("enc:v1:" ++ crypto.armor (crypto.pgpSymEncrypt salt plain key)).toList.take 7 = "enc:v1:".toList := by
    rw [String.toList_append]
    exact List.take_left' rfl
  rw [isSealed, Pgcrypto.seal, left, cut]
  rfl

theorem unseal_seal (crypto : Pgcrypto) (salt : Nat) (plain key : String) :
    crypto.unseal (crypto.seal salt plain key) key = some plain := by
  have rest : ("enc:v1:" ++ crypto.armor (crypto.pgpSymEncrypt salt plain key)).toList.drop 7 =
      (crypto.armor (crypto.pgpSymEncrypt salt plain key)).toList := by
    rw [String.toList_append]
    exact List.drop_left' rfl
  rw [Pgcrypto.unseal, Pgcrypto.seal, rest, String.ofList_toList, crypto.dearmor_armor]
  exact crypto.decrypt_encrypt salt plain key

theorem decryptSecret_seal {crypto : Pgcrypto} {key : String} (keyed : nonEmpty setting = some key) (salt : Nat)
    (plain : String) : decryptSecret ⟨some crypto, setting⟩ (crypto.seal salt plain key) = some plain := by
  have secretKey : KeyConfig.secretKey ⟨some crypto, setting⟩ = some key := keyed
  simp only [decryptSecret, isSealed_seal, secretKey, Bool.not_true, Bool.false_eq_true, if_false]
  exact unseal_seal crypto salt plain key

/-- A rotation from the live key leaves what could be read under it to be read under the new key. -/
theorem rotatedColumn_reads {key newKey : String} (old : nonEmpty setting = some key)
    (new : nonEmpty live = some newKey) (reads : decryptSecret ⟨crypto, setting⟩ stored = some s) :
    ∃ later, rotatedColumn (fun text => rewrapSecret crypto salt text key newKey) (some stored) = some later ∧
      decryptSecret ⟨crypto, live⟩ later = some s := by
  by_cases sealedText : isSealed stored = true
  · have secretKey : KeyConfig.secretKey ⟨crypto, setting⟩ = some key := old
    simp only [decryptSecret, sealedText, secretKey, Bool.not_true, Bool.false_eq_true, if_false] at reads
    cases crypto with
    | none => cases reads
    | some crypto =>
      refine ⟨crypto.seal salt s newKey, ?_, decryptSecret_seal new salt s⟩
      have opened : crypto.unseal stored key = some s := reads
      simp [rotatedColumn, rewrapSecret, sealedText, opened]
  · simp only [decryptSecret, sealedText, Bool.not_false, if_true] at reads
    obtain rfl := Option.some.inj reads
    refine ⟨stored, ?_, ?_⟩
    · simp [rotatedColumn, sealedText]
    · simp [decryptSecret, sealedText]

/-! ### The stored secret of a provider -/

/-- The row that is read for the provider holds that text as its API key. -/
def Holds (db : Db) (p : Nat) (stored : String) : Prop :=
  ∃ key row, db.secrets.find? (fun _ secret => secret.providerId == p) = some (key, row) ∧ row.apiKey = some stored

theorem Holds.providerSecret {env : Env} (holds : Holds db p stored) :
    providerSecret env db p = env.decryptSecret stored := by
  obtain ⟨key, row, found, apiKey⟩ := holds
  simp [Allgres.providerSecret, found, apiKey]

theorem find?_upsertLlmSecret (secrets : Table LlmSecretRow) (p : Nat) {set : LlmSecretRow → LlmSecretRow}
    (keeps : ∀ row, (set row).providerId = row.providerId) :
    ∃ key row, (upsertLlmSecret secrets p set).find? (fun _ secret => secret.providerId == p) = some (key, set row) := by
  unfold upsertLlmSecret
  split
  · rename_i present
    rw [Table.find?_update _ _ _ _ fun key row => by split <;> simp [keeps]]
    obtain ⟨key, row, found, fits⟩ := Table.exists?_eq_true.mp present
    rcases first : secrets.find? fun _ secret => secret.providerId == p with _ | ⟨key', row'⟩
    · have unfit := List.find?_eq_none.mp first (key, row) (Table.mem_rows_iff.mpr found)
      exact absurd fits unfit
    · have fits' := (Table.find?_some first).2
      exact ⟨key', row', by simp only [Option.map_some, fits', if_true]⟩
  · rename_i absent
    have none : secrets.find? (fun _ secret => secret.providerId == p) = none := by
      refine List.find?_eq_none.mpr fun row member fits => absent (Table.exists?_eq_true.mpr ?_)
      exact ⟨row.1, row.2, Table.mem_rows_iff.mp member, fits⟩
    exact ⟨secrets.next, noSecret p, by simp [Table.find?_insert, none, keeps, noSecret]⟩

theorem fnSetProviderSecret_holds {env : WebEnv} {answer : Jsonb.Json} {secret : String}
    (encrypted : env.encryptSecret (nonEmpty (some s)) = .ok (some secret))
    (set : fnSetProviderSecret env db (some p) (some s) = .ok (answer, db')) : Holds db' p secret := by
  rw [fnSetProviderSecret, encrypted] at set
  split at set
  · cases set
  · cases set
  · rename_i stored providerId ok valid
    obtain rfl := Except.ok.inj ok
    obtain rfl := Option.some.inj (Option.filter_eq_some_iff.mp valid).1
    obtain ⟨-, rfl⟩ := Prod.mk.inj (Except.ok.inj set)
    have keeps (row : LlmSecretRow) : { row with apiKey := (some secret).or row.apiKey }.providerId = row.providerId :=
      rfl
    obtain ⟨key, row, found⟩ := find?_upsertLlmSecret db.secrets p keeps
    exact ⟨key, _, found, rfl⟩

/-- A rotation is from one key to another, and re-wraps every row. -/
theorem fnRotateSecretKey_cases {salts : Salts} {oldKey newKey : Option String} {answer : Jsonb.Json}
    (rotated : fnRotateSecretKey crypto salts db oldKey newKey = .ok (answer, db')) :
    ∃ old new, nonEmpty oldKey = some old ∧ nonEmpty newKey = some new ∧
      db'.secrets = db.secrets.update (fun _ _ => true)
        (rotatedRow (fun salt stored => rewrapSecret crypto salt stored old new) salts) := by
  have given {key : Option String} {text : String} (kept : key.filter (fun key => btrim key != "") = some text) :
      nonEmpty key = some text := by
    obtain ⟨rfl, full⟩ := Option.filter_eq_some_iff.mp kept
    have filled : text ≠ "" := by
      rintro rfl
      exact absurd full (by decide)
    simp [nonEmpty, filled]
  rw [fnRotateSecretKey] at rotated
  split at rotated
  · rename_i old new oldGiven newGiven
    split at rotated
    · cases rotated
    split at rotated
    · cases rotated
    obtain ⟨-, rfl⟩ := Prod.mk.inj (Except.ok.inj rotated)
    exact ⟨old, new, given oldGiven, given newGiven, rfl⟩
  · cases rotated

theorem fnRotateSecretKey_holds {salts : Salts} {newKey : Option String} {answer : Jsonb.Json}
    (rotated : fnRotateSecretKey crypto salts db setting newKey = .ok (answer, db')) (holds : Holds db p stored)
    (reads : decryptSecret ⟨crypto, setting⟩ stored = some s) :
    ∃ later, Holds db' p later ∧ decryptSecret ⟨crypto, newKey⟩ later = some s := by
  obtain ⟨old, new, oldGiven, newGiven, same⟩ := fnRotateSecretKey_cases rotated
  obtain ⟨key, row, found, apiKey⟩ := holds
  obtain ⟨later, rewrapped, readsLater⟩ := @rotatedColumn_reads _ _ _ (salts "api_key" key) _ _ _ _ oldGiven newGiven reads
  have foundLater := Table.find?_update db.secrets (fun _ _ => true) (fun _ secret => secret.providerId == p)
    (rotatedRow (fun salt stored => rewrapSecret crypto salt stored old new) salts) fun _ _ => rfl
  rw [found, ← same] at foundLater
  refine ⟨later, ⟨key, _, foundLater, ?_⟩, readsLater⟩
  rw [← rewrapped, ← apiKey]
  rfl

/-- By induction on the rotations: what is stored can be read under the key that is live. -/
theorem rotateAll_holds {rotations : List (Salts × Option String)}
    (rotated : rotateAll crypto rotations setting db = .ok (live, db')) (holds : Holds db p stored)
    (reads : decryptSecret ⟨crypto, setting⟩ stored = some s) :
    ∃ later, Holds db' p later ∧ decryptSecret ⟨crypto, live⟩ later = some s := by
  induction rotations generalizing setting db stored with
  | nil =>
    obtain ⟨rfl, rfl⟩ := Prod.mk.inj (Except.ok.inj rotated)
    exact ⟨stored, holds, reads⟩
  | cons rotation rest ih =>
    rw [rotateAll] at rotated
    split at rotated
    · cases rotated
    · rename_i answer db₁ first
      obtain ⟨later, holdsLater, readsLater⟩ := fnRotateSecretKey_holds first holds reads
      exact ih rotated holdsLater readsLater

/-- Without a live key there is nothing to rotate from. -/
theorem rotateAll_keyless {rotations : List (Salts × Option String)} (keyless : nonEmpty setting = none)
    (rotated : rotateAll crypto rotations setting db = .ok (live, db')) : live = setting ∧ db' = db := by
  cases rotations with
  | nil =>
    obtain ⟨rfl, rfl⟩ := Prod.mk.inj (Except.ok.inj rotated)
    exact ⟨rfl, rfl⟩
  | cons rotation rest =>
    rw [rotateAll] at rotated
    split at rotated
    · cases rotated
    · rename_i answer db₁ first
      obtain ⟨old, new, oldGiven, -⟩ := fnRotateSecretKey_cases first
      rw [keyless] at oldGiven
      cases oldGiven

/-- The secret is read as it was given just when a key was set as it was stored or it does not begin
as an encrypted value does. -/
theorem provider_secret_survives_iff {env later : WebEnv} {crypto : Option Pgcrypto} {setting live : Option String}
    {salt salt' p : Nat} {s : String} {db stored last : Db} {answer : Jsonb.Json}
    {rotations : List (Salts × Option String)} (given : s ≠ "")
    (set : fnSetProviderSecret (env.keyed ⟨crypto, setting⟩ salt) db (some p) (some s) = .ok (answer, stored))
    (rotated : rotateAll crypto rotations setting stored = .ok (live, last)) :
    providerSecret (later.keyed ⟨crypto, live⟩ salt').toEnv last p = some s ↔
      (nonEmpty setting).isSome ∨ isSealed s = false := by
  have filled : nonEmpty (some s) = some s := by simp [nonEmpty, given]
  have encrypted (secret : String) (sealed : encryptSecret ⟨crypto, setting⟩ salt (some s) = .ok (some secret)) :
      Holds stored p secret :=
    fnSetProviderSecret_holds (by rw [filled]; exact sealed) set
  -- a secret that can be read as it was stored still can after the rotations
  have survives {secret : String} (holds : Holds stored p secret)
      (reads : decryptSecret ⟨crypto, setting⟩ secret = some s) :
      providerSecret (later.keyed ⟨crypto, live⟩ salt').toEnv last p = some s := by
    obtain ⟨rewrapped, holdsLater, readsLater⟩ := rotateAll_holds rotated holds reads
    rw [holdsLater.providerSecret]
    exact readsLater
  rcases keyed : nonEmpty setting with _ | key
  · have plain : Holds stored p s := encrypted s (by simp [encryptSecret, filled, KeyConfig.secretKey, keyed])
    by_cases sealedText : isSealed s = true
    · obtain ⟨rfl, rfl⟩ := rotateAll_keyless keyed rotated
      refine iff_of_false (fun reads => ?_) (by simp [sealedText])
      rw [plain.providerSecret] at reads
      simp [WebEnv.keyed, decryptSecret, sealedText, KeyConfig.secretKey, keyed] at reads
    · refine iff_of_true (survives plain ?_) (by simp [sealedText])
      simp [decryptSecret, sealedText]
  · cases crypto with
    | none =>
      have refused : (env.keyed ⟨none, setting⟩ salt).encryptSecret (nonEmpty (some s)) =
          .error "allgres.secret_key is set but pgcrypto is not installed" := by
        rw [filled]
        simp [WebEnv.keyed, encryptSecret, filled, KeyConfig.secretKey, keyed]
      rw [fnSetProviderSecret, refused] at set
      cases set
    | some crypto =>
      refine iff_of_true (survives (encrypted (crypto.seal salt s key) ?_) (decryptSecret_seal keyed salt s)) (by simp)
      simp [encryptSecret, filled, KeyConfig.secretKey, keyed]

/-- A `pgcrypto` whose messages carry the key and the text. -/
def Pgcrypto.plain : Pgcrypto where
  Message := List Char
  pgpSymEncrypt _ plain key := key.toList ++ plain.toList
  pgpSymDecrypt message key := (message.dropPrefix? key.toList).map String.ofList
  armor := String.ofList
  dearmor text := some text.toList
  dearmor_armor message := by rw [String.toList_ofList]
  decrypt_encrypt salt plain key := by
    have opened : (key.toList ++ plain.toList).dropPrefix? key.toList = some plain.toList :=
      List.dropPrefix?_eq_some_iff.mpr ⟨key.toList, rfl, by simp⟩
    rw [opened, Option.map_some, String.ofList_toList]

def plainKeys (setting : String) : KeyConfig := ⟨some .plain, some setting⟩

/-- The secret is stored under one key and read under the third. -/
theorem provider_secret_survives_iff_rotated : ∃ answer stored live last,
    fnSetProviderSecret (WebEnv.bare.keyed (plainKeys "first") 0) (helperDb (helperPolicy 5 none)) (some 0)
      (some "enc:v1:mine") = .ok (answer, stored) ∧
    rotateAll (some .plain) [(fun _ _ => 0, some "second"), (fun _ _ => 1, some "third")] (some "first") stored =
      .ok (live, last) ∧
    providerSecret (WebEnv.bare.keyed ⟨some .plain, live⟩ 0).toEnv last 0 = some "enc:v1:mine" := by
  have runs : ((fnSetProviderSecret (WebEnv.bare.keyed (plainKeys "first") 0) (helperDb (helperPolicy 5 none))
      (some 0) (some "enc:v1:mine")).toOption.any fun set => (rotateAll (some .plain)
        [(fun _ _ => 0, some "second"), (fun _ _ => 1, some "third")] (some "first") set.2).isOk) = true := by
    decide +kernel
  rcases set : fnSetProviderSecret (WebEnv.bare.keyed (plainKeys "first") 0) (helperDb (helperPolicy 5 none))
      (some 0) (some "enc:v1:mine") with message | ⟨answer, stored⟩
  · rw [set] at runs
    cases runs
  rw [set] at runs
  rcases rotated : rotateAll (some .plain) [(fun _ _ => 0, some "second"), (fun _ _ => 1, some "third")]
      (some "first") stored with message | ⟨live, last⟩
  · simp [Except.toOption, rotated, Except.isOk, Except.toBool] at runs
  exact ⟨answer, stored, live, last, rfl, rotated,
    (provider_secret_survives_iff (by decide) set rotated).mpr (.inl (by decide))⟩

/-- Without a key the secret is stored as it is, and taken for an encrypted one when it is read. -/
theorem not_provider_secret_survives : ∃ answer stored,
    fnSetProviderSecret (WebEnv.bare.keyed ⟨some .plain, none⟩ 0) (helperDb (helperPolicy 5 none)) (some 0)
      (some "enc:v1:mine") = .ok (answer, stored) ∧
    providerSecret (WebEnv.bare.keyed ⟨some .plain, none⟩ 0).toEnv stored 0 ≠ some "enc:v1:mine" := by
  have reads : (fnSetProviderSecret (WebEnv.bare.keyed ⟨some .plain, none⟩ 0) (helperDb (helperPolicy 5 none))
      (some 0) (some "enc:v1:mine")).map (fun stored =>
        providerSecret (WebEnv.bare.keyed ⟨some .plain, none⟩ 0).toEnv stored.2 0) = .ok none := by decide +kernel
  obtain ⟨⟨answer, stored⟩, set, read⟩ := ok_of_map reads
  exact ⟨answer, stored, set, by rw [read]; simp⟩

end Allgres
